-- The messages of the Pro DJ Link bridge, the bounded queue that its reader
-- fills, and the drain that the engine empties it with. A drain hands the
-- messages over by traffic class first and by sequence second.
import Lumi.Binary64
import Lumi.Domain.Track

open rust lumi_domain

namespace lumi_prolink_input

/-! ## The messages -/

inductive BridgeTrafficClass where
  | Critical
  | Tempo
  | Transport
  | Display
deriving DecidableEq

inductive SourceCondition where
  | Starting
  | Discovering
  | Ready
  | Degraded
  | Stopped
deriving DecidableEq

structure DeckStatus (F : Type) where
  device_number : UInt8
  device_name : String
  playing : Bool
  tempo_master : Bool
  source_player : UInt8
  source_slot : String
  rekordbox_id : UInt32
  track_bpm : F
  effective_bpm : F
  beat_number : Int
  beat_within_bar : UInt8

structure Beat where
  device_number : UInt8
  beat_within_bar : UInt8
  tempo_master : Bool

structure TempoStatus (F : Type) where
  device_number : UInt8
  effective_bpm : F
  beat_within_bar : UInt8
  tempo_master : Bool
  playing : Bool

structure PrecisePosition where
  device_number : UInt8
  playback_position_millis : UInt64
  beat_within_bar : UInt8
  tempo_master : Bool

structure TrackSignature where
  deck_number : UInt8
  signature : Option String

/-- Of the messages that only the library mirror and the diagnostics read, the device is kept. -/
inductive BridgeEvent (F : Type) where
  | Hello
  | SourceStatus (status : SourceCondition)
  | DeviceFound (device_number : UInt8)
  | DeviceLost (device_number : UInt8)
  | USBMedia (device_number : UInt8)
  | USBMount (device_number : UInt8)
  | DeckStatus (status : DeckStatus F)
  | Beat (beat : Beat)
  | TempoStatus (tempo : TempoStatus F)
  | PrecisePosition (position : PrecisePosition)
  | TrackMetadata (deck_number : UInt8)
  | TrackSignature (signature : TrackSignature)
  | Error

structure BridgeMessage (F : Type) where
  sequence : UInt64
  observed_at_nanos : UInt64
  traffic_class : BridgeTrafficClass
  event : BridgeEvent F

/-! ## The queue -/

inductive CoalescingKey where
  | USBMedia (device_number : UInt8)
  | DeckStatus (device_number : UInt8)
  | TempoStatus (device_number : UInt8)
  | PrecisePosition (device_number : UInt8)
  | TrackMetadata (deck_number : UInt8)
  | TrackSignature (deck_number : UInt8)
deriving DecidableEq

variable {F : Type}

def coalescing_key (message : BridgeMessage F) : Option CoalescingKey :=
  if message.traffic_class = .Critical then none
  else match message.event with
    | .USBMedia device_number => some (.USBMedia device_number)
    | .DeckStatus status => some (.DeckStatus status.device_number)
    | .TempoStatus tempo => some (.TempoStatus tempo.device_number)
    | .PrecisePosition position => some (.PrecisePosition position.device_number)
    | .TrackMetadata deck_number => some (.TrackMetadata deck_number)
    | .TrackSignature signature => some (.TrackSignature signature.deck_number)
    | _ => none

/-- Of the instants of the receipts only the keys matter here. -/
structure ProcessOutputQueue (F : Type) where
  messages : List (BridgeMessage F)
  received_at : BTreeMap UInt64 UInt64
  capacity : Nat
  terminal_error : Option String

namespace ProcessOutputQueue

def new (capacity : Nat) : ProcessOutputQueue F := ⟨[], ∅, capacity, none⟩

variable (queue : ProcessOutputQueue F)

/-- `position` and `remove`: the first of these messages goes, and its receipt with it. -/
def remove_first (p : BridgeMessage F → Bool) : ProcessOutputQueue F :=
  match queue.messages.find? p with
  | some replaced =>
    { queue with
      messages := queue.messages.eraseP p
      received_at := queue.received_at.erase replaced.sequence }
  | none => queue

variable (message : BridgeMessage F)

/-- The first part of `push`: a message replaces the queued one of its key. -/
def coalesced : ProcessOutputQueue F :=
  match coalescing_key message with
  | some key => queue.remove_first (coalescing_key · = some key)
  | none => queue

def push_back (now : UInt64) : ProcessOutputQueue F :=
  { queue with
    messages := queue.messages ++ [message]
    received_at := queue.received_at.insert message.sequence now }

/-- `push` tells whether the queue took the message. A full queue gives up its oldest message
with a key. -/
def push (now : UInt64) : ProcessOutputQueue F × Bool :=
  let queue := queue.coalesced message
  if queue.messages.length = queue.capacity then
    if queue.messages.any (coalescing_key · |>.isSome) then
      ((queue.remove_first (coalescing_key · |>.isSome)).push_back message now, true)
    else
      ({ queue with
        terminal_error := some ("bounded Pro DJ Link ingress saturated at " ++
          toString queue.capacity ++ " critical messages") }, false)
  else (queue.push_back message now, true)

end ProcessOutputQueue

/-! ## The drain -/

def BridgeTrafficClass.priority : BridgeTrafficClass → Nat
  | Critical => 0
  | Tempo => 1
  | Transport => 2
  | Display => 3

/-- The order of `sort_by_key`. -/
def drains_before (left right : BridgeMessage F) : Bool :=
  left.traffic_class.priority < right.traffic_class.priority ||
    (left.traffic_class.priority = right.traffic_class.priority &&
      left.sequence ≤ right.sequence)

inductive BridgeSupervisorError where
  | Read (message : String)
deriving DecidableEq

/-- The drain of the queue behind `drain_messages`; the ages of the messages are diagnostics. -/
def drain_messages (output : ProcessOutputQueue F) :
    ProcessOutputQueue F × Except BridgeSupervisorError (List (BridgeMessage F)) :=
  match output.terminal_error with
  | some message => ({ output with terminal_error := none }, .error (.Read message))
  | none =>
    ({ output with
      messages := []
      received_at := output.messages.foldl (fun received_at message =>
        received_at.erase message.sequence) output.received_at },
      .ok (output.messages.insertionSort fun left right => drains_before left right))

end lumi_prolink_input
