-- The realtime lane: the thread that owns the MIDI source, takes the engine's
-- commands from a bounded channel and sends what has fallen due. The two
-- threads run side by side; a schedule says how far the lane gets before each
-- look the engine takes at it.
import Lumi.Midi.Output

open rust

namespace lumi_midi_output

/-! ## Actions and commands -/

inductive RealtimeMidiAction where
  | SelectBank (bank : UInt8)
  | TriggerAutoloop (bank autoloop : UInt8)
deriving DecidableEq

def RealtimeMidiAction.is_trigger : RealtimeMidiAction → Bool
  | SelectBank _ => false
  | TriggerAutoloop .. => true

structure ScheduledRealtimeMidiAction where
  generation : UInt64
  deadline : Instant
  action : RealtimeMidiAction
deriving DecidableEq

/-- `Shutdown`, which ends the lane together with the engine, is left out. -/
inductive RealtimeMidiCommand where
  | Publish
  | Stop
  | SendLearnPulse (address : MidiAddress)
  | SelectBank (bank : UInt8)
  | TriggerAutoloop (bank autoloop : UInt8)
  | TriggerSequence (bank autoloop : UInt8)
  | ToggleStaticLook (number : UInt8)
  | SetGeneration (generation : UInt64)
  | Schedule (item : ScheduledRealtimeMidiAction)
  | RetimePending (generation : UInt64) (deadline bank_deadline : Instant)
  | CancelAll
deriving DecidableEq

inductive RealtimeMidiError where
  | WorkerUnavailable
  | QueueSaturated
  | Provider (error : String)
deriving DecidableEq

def RealtimeMidiError.to_string : RealtimeMidiError → String
  | WorkerUnavailable => "the realtime MIDI lane is unavailable"
  | QueueSaturated => "the realtime MIDI lane is saturated"
  | Provider error => "the MIDI provider failed: " ++ error

def REALTIME_COMMAND_CAPACITY : Nat := 64

def REALTIME_SCHEDULE_CAPACITY : Nat := 128

structure MidiSourceStatus where
  state : MidiSourceState
  sent_pulse_count : UInt64
  active_bank : Option UInt8
deriving DecidableEq

def MidiOutputController.status (controller : MidiOutputController) : MidiSourceStatus :=
  ⟨controller.state, controller.sent_pulse_count, controller.active_bank⟩

/-- The part of the shared status that the engine acts on. The queue depths, the latencies and
the other counters are for the screen. -/
structure RealtimeMidiStatus where
  source : MidiSourceStatus
  emitted_count : UInt64
deriving DecidableEq

/-- One action that the lane carried out. The time is the one at which the pulse went out. -/
structure RealtimeDispatchRecord where
  generation : UInt64
  action : RealtimeMidiAction
  at_time : Instant
  succeeded : Bool
  /-- The commands that the lane had taken from the channel by then. -/
  consumed : Nat
deriving DecidableEq

/-! ## The worker -/

/-- Where the thread of the lane is in its loop. -/
inductive Phase where
  /-- At the receive. -/
  | Receiving
  /-- The receive timed out; what is due is not collected yet. -/
  | TimedOut
  /-- In the loop over what was due, before the next action. -/
  | Dispatching (due : List ScheduledRealtimeMidiAction)
  /-- The pulse went out, or failed, and nothing is written down. -/
  | Pulsed (succeeded : Bool) (due : List ScheduledRealtimeMidiAction)
  /-- The count of emissions is written down, the state of the source is not. -/
  | Recorded (due : List ScheduledRealtimeMidiAction)
deriving DecidableEq

/-- A pulse of a Static Look that the lane tried to send. -/
structure StaticLookPulse where
  number : UInt8
  succeeded : Bool
deriving DecidableEq

/-- The lane with what it shares with the engine: the clock, the channel and the status. The
records of the dispatches go back to the start, where the source keeps the last 128. The pulses of
the Static Looks are not in the source and nothing reads them. -/
structure Lane where
  now : Instant
  commands : List RealtimeMidiCommand
  controller : MidiOutputController
  generation : UInt64
  scheduled : List ScheduledRealtimeMidiAction
  phase : Phase
  status : RealtimeMidiStatus
  reply : Outcome MidiOutputError Unit
  consumed : Nat
  dispatches : List RealtimeDispatchRecord
  static_looks : List StaticLookPulse
deriving DecidableEq

namespace Lane

def new : Lane where
  now := 0
  commands := []
  controller := .new
  generation := 0
  scheduled := []
  phase := .Receiving
  status := ⟨MidiOutputController.new.status, 0⟩
  reply := .ok ()
  consumed := 0
  dispatches := []
  static_looks := []

variable (lane : Lane)

def publish_controller_status : Lane :=
  { lane with status := { lane.status with source := lane.controller.status } }

/-- A command that calls the controller, tells the engine what came of it and publishes the
status. -/
def call (method : MidiOutputController.Method Unit) : Lane :=
  publish_controller_status
    { lane with
      controller := (method.run lane.controller).1
      reply := (method.run lane.controller).2 }

def retime (deadline bank_deadline : Instant) (item : ScheduledRealtimeMidiAction) :
    ScheduledRealtimeMidiAction :=
  match item.action with
  | .SelectBank _ => { item with deadline := bank_deadline }
  | .TriggerAutoloop .. => { item with deadline }

variable (answer : ProviderAnswer)

def consume : RealtimeMidiCommand → Lane
  | .Publish => lane.call (MidiOutputController.publish answer)
  | .Stop =>
    publish_controller_status
      { lane with scheduled := [], controller := lane.controller.stop, reply := .ok () }
  | .SendLearnPulse address =>
    lane.call (MidiOutputController.send_address_learn_pulse answer address)
  | .SelectBank bank => lane.call (MidiOutputController.select_bank answer bank)
  | .TriggerAutoloop bank autoloop =>
    lane.call (MidiOutputController.trigger_autoloop_button answer bank autoloop)
  | .TriggerSequence bank autoloop =>
    -- the sleep between the two pulses, once the first went out
    let slept := decide ((MidiAddress.autoloop bank autoloop).isSome ∧
      ((MidiOutputController.select_bank answer bank).run lane.controller).2 = .ok ())
    { lane.call (MidiOutputController.trigger_autoloop answer bank autoloop) with
      now := if slept then lane.now + BANK_SETTLE_DELAY else lane.now }
  | .ToggleStaticLook number =>
    let called := (MidiOutputController.toggle_static_look answer number).run lane.controller
    { lane.call (MidiOutputController.toggle_static_look answer number) with
      static_looks := lane.static_looks ++ [⟨number, decide (called.2 = .ok ())⟩] }
  | .SetGeneration next =>
    { lane with
      generation := next
      scheduled := lane.scheduled.filter (·.generation = next) }
  | .Schedule item =>
    if item.generation ≠ lane.generation then lane
    else if lane.scheduled.length ≥ REALTIME_SCHEDULE_CAPACITY then lane
    else { lane with scheduled := lane.scheduled ++ [item] }
  | .RetimePending requested deadline bank_deadline =>
    if requested = lane.generation ∧
        lane.scheduled.any (fun item => item.generation = requested && item.action.is_trigger) then
      { lane with
        scheduled := lane.scheduled.map fun item =>
          if item.generation = requested then retime deadline bank_deadline item else item }
    else lane
  | .CancelAll => { lane with scheduled := [] }

def is_due (item : ScheduledRealtimeMidiAction) : Bool :=
  item.generation = lane.generation && item.deadline ≤ lane.now

/-- What has fallen due, in the order of the deadlines. -/
def due : List ScheduledRealtimeMidiAction :=
  (lane.scheduled.filter lane.is_due).insertionSort (·.deadline ≤ ·.deadline)

def pulse : RealtimeMidiAction → MidiOutputController.Method Unit
  | .SelectBank bank => MidiOutputController.select_bank answer bank
  | .TriggerAutoloop bank autoloop =>
    MidiOutputController.trigger_autoloop_button answer bank autoloop

/-- One action of the loop over what was due: the pulse. -/
def dispatch (item : ScheduledRealtimeMidiAction) (due : List ScheduledRealtimeMidiAction) : Lane :=
  let called := (pulse answer item.action).run lane.controller
  let succeeded := decide (called.2 = .ok ())
  { lane with
    controller := called.1
    phase := .Pulsed succeeded due
    dispatches := ⟨item.generation, item.action, lane.now, succeeded, lane.consumed⟩ ::
      lane.dispatches }

/-- How the thread of the lane is served once: the time that passes before, and what the
provider answers if it is called. -/
structure Tick where
  elapsed : Duration
  answer : ProviderAnswer
deriving DecidableEq

/-- One step of the thread. A command that waits is taken before anything that is due. -/
def advance : Lane :=
  match lane.phase with
  | .Receiving =>
    match lane.commands with
    | command :: commands =>
      consume { lane with commands, consumed := lane.consumed + 1 } answer command
    | [] => if lane.scheduled.any lane.is_due then { lane with phase := .TimedOut } else lane
  | .TimedOut =>
    { lane with
      scheduled := lane.scheduled.filter (!lane.is_due ·)
      phase := .Dispatching lane.due }
  | .Dispatching (item :: due) => lane.dispatch answer item due
  | .Dispatching [] => { lane with phase := .Receiving }
  | .Pulsed succeeded due =>
    { lane with
      phase := .Recorded due
      status := { lane.status with
        emitted_count :=
          if succeeded then saturating_add lane.status.emitted_count 1
          else lane.status.emitted_count } }
  | .Recorded due => publish_controller_status { lane with phase := .Dispatching due }

def tick (lane : Lane) (tick : Tick) : Lane :=
  advance { lane with now := lane.now + tick.elapsed } tick.answer

def run (ticks : List Tick) : Lane := ticks.foldl Lane.tick lane

/-- The actions that the thread has taken from the list and not carried out. -/
def in_flight : List ScheduledRealtimeMidiAction :=
  match lane.phase with
  | .Receiving | .TimedOut => []
  | .Dispatching due | .Pulsed _ due | .Recorded due => due

/-- The thread until it has taken every command, for an engine that waits for the answer. -/
def serve (lane : Lane) : Nat → List Tick → Lane
  | 0, _ => lane
  | steps + 1, ticks =>
    if lane.phase = .Receiving ∧ lane.commands = [] then lane
    else (lane.tick (ticks.headD ⟨0, none⟩)).serve steps ticks.tail

/-- Enough steps for what is in flight, for what may still fall due and for every command. -/
def backlog : Nat :=
  3 * (lane.in_flight.length + lane.scheduled.length) + lane.commands.length + 4

end Lane

/-! ## The engine's side -/

/-- The engine's handle on the lane. The schedule is the part of the interleaving that is still
to come: how the lane is served before each of the engine's next looks at it. -/
structure RealtimeMidiController where
  lane : Lane
  schedule : List (List Lane.Tick)
deriving DecidableEq

namespace RealtimeMidiController

def new : RealtimeMidiController := ⟨Lane.new, []⟩

variable {ε : Type}

/-- The lane runs on until the engine looks at it again. -/
def elapse (self : RealtimeMidiController) : RealtimeMidiController :=
  ⟨self.lane.run (self.schedule.headD []), self.schedule.tail⟩

def instant_now : Call RealtimeMidiController ε Instant := do
  Call.modify elapse
  return (← Call.get).lane.now

def status : Call RealtimeMidiController ε RealtimeMidiStatus := do
  Call.modify elapse
  return (← Call.get).lane.status

variable (command : RealtimeMidiCommand)

def push (self : RealtimeMidiController) : RealtimeMidiController :=
  { self with lane := { self.lane with commands := self.lane.commands ++ [command] } }

def try_send : Call RealtimeMidiController RealtimeMidiError Unit := do
  Call.modify elapse
  if (← Call.get).lane.commands.length < REALTIME_COMMAND_CAPACITY then
    Call.modify (push command)
  else Call.lift (.err .QueueSaturated)

/-- The engine waits: the lane gets to the command, whatever it has to do first. -/
def await (self : RealtimeMidiController) : RealtimeMidiController :=
  let self := self.elapse.push command
  ⟨self.lane.serve self.lane.backlog (self.schedule.headD []), self.schedule.tail⟩

def synchronous : Call RealtimeMidiController RealtimeMidiError Unit := do
  Call.modify (await command)
  Call.lift ((← Call.get).lane.reply.map_err fun error => .Provider error.to_string)

def publish : Call RealtimeMidiController RealtimeMidiError Unit := synchronous .Publish

def stop : Call RealtimeMidiController ε Unit := Call.modify (await .Stop)

def toggle_static_look (static_look_number : UInt8) :
    Call RealtimeMidiController RealtimeMidiError Unit :=
  synchronous (.ToggleStaticLook static_look_number)

variable (generation : UInt64)

def set_generation : Call RealtimeMidiController RealtimeMidiError Unit :=
  try_send (.SetGeneration generation)

def schedule_bank (bank_number : UInt8) (deadline : Instant) :
    Call RealtimeMidiController RealtimeMidiError Unit :=
  try_send (.Schedule ⟨generation, deadline, .SelectBank bank_number⟩)

def schedule_autoloop (bank_number autoloop_number : UInt8) (deadline : Instant) :
    Call RealtimeMidiController RealtimeMidiError Unit :=
  try_send (.Schedule ⟨generation, deadline, .TriggerAutoloop bank_number autoloop_number⟩)

def cancel_all : Call RealtimeMidiController RealtimeMidiError Unit := try_send .CancelAll

def retime_pending (deadline bank_deadline : Instant) :
    Call RealtimeMidiController RealtimeMidiError Unit :=
  try_send (.RetimePending generation deadline bank_deadline)

end RealtimeMidiController

end lumi_midi_output
