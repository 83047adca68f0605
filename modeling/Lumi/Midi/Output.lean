-- The virtual MIDI source: the addresses of the banks, the AutoLoops and the
-- Static Looks, and the controller that sends one pulse at a time and closes
-- the source when the provider fails.
import Lumi.Call

open rust

namespace lumi_midi_output

/-- Nanoseconds. -/
abbrev Duration := Nat

/-- Nanoseconds since the origin of the clock. -/
abbrev Instant := Nat

def Duration.from_millis (millis : Nat) : Duration := millis * 1000000

def Duration.from_micros (micros : Nat) : Duration := micros * 1000

def MIDI_CHANNEL : UInt8 := 16

def BANK_NOTE_BASE : UInt8 := 60

def AUTOLOOP_NOTE_BASE : UInt8 := 64

def STATIC_LOOK_CHANNEL : UInt8 := 12

def BANK_SETTLE_DELAY : Duration := Duration.from_millis 50

/-! ## Addresses and messages -/

inductive MidiAddressKind where
  | Bank
  | Autoloop
  | StaticLook
  | Custom
deriving DecidableEq

structure MidiAddress where
  kind : MidiAddressKind
  number : UInt8
  note : UInt8
  channel : UInt8
deriving DecidableEq

namespace MidiAddress

def bank (number : UInt8) : Option MidiAddress :=
  if 1 ≤ number ∧ number ≤ 4 then
    some ⟨.Bank, number, BANK_NOTE_BASE + number - 1, MIDI_CHANNEL⟩
  else none

def autoloop (bank_number number : UInt8) : Option MidiAddress :=
  if 1 ≤ bank_number ∧ bank_number ≤ 4 ∧ 1 ≤ number ∧ number ≤ 32 then
    some ⟨.Autoloop, number, AUTOLOOP_NOTE_BASE + number - 1, 12 + bank_number⟩
  else none

def static_look (number : UInt8) : Option MidiAddress :=
  if 1 ≤ number ∧ number ≤ 32 then
    some ⟨.StaticLook, number, AUTOLOOP_NOTE_BASE + number - 1, STATIC_LOOK_CHANNEL⟩
  else none

def custom (channel note : UInt8) : Option MidiAddress :=
  if 1 ≤ channel ∧ channel ≤ 16 ∧ note < 128 then some ⟨.Custom, note, note, channel⟩ else none

end MidiAddress

/-- The three bytes of a channel message. -/
structure MidiMessage where
  bytes : UInt8 × UInt8 × UInt8
deriving DecidableEq

def MidiMessage.note_on (channel note velocity : UInt8) : Option MidiMessage :=
  if channel < 16 ∧ note < 128 ∧ velocity < 128 then some ⟨0x90 ||| channel, note, velocity⟩
  else none

def MidiMessage.note_off (channel note : UInt8) : Option MidiMessage :=
  if channel < 16 ∧ note < 128 then some ⟨0x80 ||| channel, note, 0⟩ else none

/-! ## The controller -/

inductive MidiSourceState where
  | Stopped
  | Ready
deriving DecidableEq

inductive MidiOutputError where
  | SourceNotPublished
  | PulseCounterOverflow
  | InvalidAddress
  | Provider (error : String)
deriving DecidableEq

def MidiOutputError.to_string : MidiOutputError → String
  | SourceNotPublished => "the virtual MIDI source is not published"
  | PulseCounterOverflow => "the MIDI pulse counter overflowed"
  | InvalidAddress => "the requested bank or AutoLoop address is invalid"
  | Provider error => "the MIDI provider failed: " ++ error

/-- The texts of the last event and the last error, which only the status screen reads, are left
out. -/
structure MidiOutputController where
  state : MidiSourceState
  sent_pulse_count : UInt64
  active_bank : Option UInt8
deriving DecidableEq

/-- What the provider answers to a call: nothing, or the text of its error. -/
abbrev ProviderAnswer := Option String

namespace MidiOutputController

def new : MidiOutputController := ⟨.Stopped, 0, none⟩

abbrev Method (α : Type) := Call MidiOutputController MidiOutputError α

variable (answer : ProviderAnswer)

def publish : Method Unit :=
  match answer with
  | some error => do
    Call.modify fun self => { self with state := .Stopped, active_bank := none }
    Call.lift (.err (.Provider error))
  | none => Call.modify fun self => { self with state := .Ready, active_bank := none }

def stop (self : MidiOutputController) : MidiOutputController :=
  { self with state := .Stopped, active_bank := none }

def send_address_pulse (address : MidiAddress) : Method Unit := do
  let self ← Call.get
  if self.state ≠ .Ready then Call.lift (.err .SourceNotPublished)
  else
    let channel := address.channel - min address.channel 1
    let _ ← Call.lift (.ok_or (MidiMessage.note_on channel address.note 100) .SourceNotPublished)
    let _ ← Call.lift (.ok_or (MidiMessage.note_off channel address.note) .SourceNotPublished)
    let next_count ← Call.lift (.ok_or (checked_add self.sent_pulse_count 1) .PulseCounterOverflow)
    match answer with
    | some error => do
      Call.modify fun self => { self with state := .Stopped, active_bank := none }
      Call.lift (.err (.Provider error))
    | none => Call.modify fun self => { self with sent_pulse_count := next_count }

def send_address_learn_pulse (address : MidiAddress) : Method Unit :=
  send_address_pulse answer address

def toggle_static_look (static_look_number : UInt8) : Method Unit := do
  let address ← Call.lift (.ok_or (MidiAddress.static_look static_look_number) .InvalidAddress)
  send_address_pulse answer address

def select_bank (bank_number : UInt8) : Method Unit := do
  let bank ← Call.lift (.ok_or (MidiAddress.bank bank_number) .InvalidAddress)
  send_address_pulse answer bank
  Call.modify fun self => { self with active_bank := some bank_number }

def trigger_autoloop_button (bank_number autoloop_number : UInt8) : Method Unit := do
  let autoloop ← Call.lift (.ok_or (MidiAddress.autoloop bank_number autoloop_number)
    .InvalidAddress)
  send_address_pulse answer autoloop

/-- The bank, `BANK_SETTLE_DELAY` of sleep, and the AutoLoop. -/
def trigger_autoloop (bank_number autoloop_number : UInt8) : Method Unit := do
  let bank ← Call.lift (.ok_or (MidiAddress.bank bank_number) .InvalidAddress)
  let autoloop ← Call.lift (.ok_or (MidiAddress.autoloop bank_number autoloop_number)
    .InvalidAddress)
  send_address_pulse answer bank
  Call.modify fun self => { self with active_bank := some bank_number }
  send_address_pulse answer autoloop

end MidiOutputController

end lumi_midi_output
