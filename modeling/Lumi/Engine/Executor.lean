-- Who may launch an AutoLoop: the executor, which lets each execution out
-- once in its epoch, and the gate that holds the first launch of a show until
-- a phrase begins.
import Lumi.Domain.Event

open rust lumi_domain

namespace lumi_engine

/-! ## The executor -/

structure AutoloopTarget where
  bank_number : UInt8
  autoloop_number : UInt8
deriving DecidableEq

structure AutoloopExecutionIdentity where
  execution_epoch : UInt64
  deck_id : DeckId
  track_load_id : TrackLoadId
  plan_revision : PlanRevision
  phrase_index : UInt16
deriving DecidableEq

def AutoloopExecutionIdentity.from_request (request : OutputExecutionRequest)
    (execution_epoch : UInt64) : AutoloopExecutionIdentity where
  execution_epoch := execution_epoch
  deck_id := request.deck_id
  track_load_id := request.track_load_id
  plan_revision := request.plan_revision
  phrase_index := request.phrase_index

structure AutoloopSchedule where
  identity : AutoloopExecutionIdentity
  target : AutoloopTarget
  select_bank : Bool
deriving DecidableEq

inductive AutoloopExecutorState where
  | Idle
  | Scheduled (identity : AutoloopExecutionIdentity) (target : AutoloopTarget)
  | BankPrepared (identity : AutoloopExecutionIdentity) (target : AutoloopTarget)
  | Triggered (identity : AutoloopExecutionIdentity) (target : AutoloopTarget)
      (expected_lane_emitted_count : UInt64)
  | Completed (identity : AutoloopExecutionIdentity) (target : AutoloopTarget)
deriving DecidableEq

namespace AutoloopExecutorState

def identity : AutoloopExecutorState → Option AutoloopExecutionIdentity
  | Idle => none
  | Scheduled identity _ | BankPrepared identity _ | Triggered identity _ _
  | Completed identity _ => some identity

/-- The state is `Triggered` for the identity. -/
def is_triggered (identity : AutoloopExecutionIdentity) : AutoloopExecutorState → Bool
  | Triggered triggered _ _ => triggered = identity
  | _ => false

/-- The state is `Completed` for the identity. -/
def is_completed (identity : AutoloopExecutionIdentity) : AutoloopExecutorState → Bool
  | Completed completed _ => completed = identity
  | _ => false

end AutoloopExecutorState

/-- The counters, which only the screen shows, are left out. -/
structure AutoloopCueExecutor where
  state : AutoloopExecutorState
  completed_through : Option AutoloopExecutionIdentity
  execution_epoch : UInt64
deriving DecidableEq

namespace AutoloopCueExecutor

def default : AutoloopCueExecutor := ⟨.Idle, none, 0⟩

variable (self : AutoloopCueExecutor)

def cancel_pending : AutoloopCueExecutor := { self with state := .Idle }

def begin_execution_epoch : Option AutoloopCueExecutor :=
  (checked_add self.execution_epoch 1).map fun execution_epoch =>
    cancel_pending { self with execution_epoch, completed_through := none }

variable (identity : AutoloopExecutionIdentity)

/-- The execution is at or before the last one that was completed. -/
def is_completed_through : Bool :=
  self.completed_through.any fun completed =>
    completed.execution_epoch = identity.execution_epoch ∧ completed.deck_id = identity.deck_id ∧
      completed.track_load_id = identity.track_load_id ∧
      completed.plan_revision = identity.plan_revision ∧
      identity.phrase_index ≤ completed.phrase_index

def schedule_identity (target : AutoloopTarget) (active_bank : Option UInt8) :
    Option (AutoloopCueExecutor × AutoloopSchedule) :=
  if self.state.identity = some identity ∨ self.is_completed_through identity then none
  else some ({ self with state := .Scheduled identity target },
    ⟨identity, target, active_bank ≠ some target.bank_number⟩)

def schedule (request : OutputExecutionRequest) (target : AutoloopTarget)
    (active_bank : Option UInt8) : Option (AutoloopCueExecutor × AutoloopSchedule) :=
  self.schedule_identity (.from_request request self.execution_epoch) target active_bank

def mark_bank_prepared (schedule : AutoloopSchedule) : AutoloopCueExecutor :=
  if self.state = .Scheduled schedule.identity schedule.target then
    { self with state := .BankPrepared schedule.identity schedule.target }
  else self

def mark_triggered (schedule : AutoloopSchedule) (expected_lane_emitted_count : UInt64) :
    AutoloopCueExecutor :=
  if self.state.identity = some schedule.identity then
    { self with
      state := .Triggered schedule.identity schedule.target expected_lane_emitted_count }
  else self

def complete_if_emitted (lane_emitted_count : UInt64) : AutoloopCueExecutor :=
  match self.state with
  | .Triggered identity target expected_lane_emitted_count =>
    if lane_emitted_count ≥ expected_lane_emitted_count then
      { self with completed_through := some identity, state := .Completed identity target }
    else self
  | _ => self

/-- The execution that `complete_if_emitted` completes. -/
def emitted (lane_emitted_count : UInt64) : Option AutoloopExecutionIdentity :=
  match self.state with
  | .Triggered identity _ expected_lane_emitted_count =>
    if lane_emitted_count ≥ expected_lane_emitted_count then some identity else none
  | _ => none

def fail : AutoloopCueExecutor :=
  if self.state.identity = some identity then { self with state := .Idle } else self

end AutoloopCueExecutor

/-! ## The launch gate -/

inductive LaunchPolicy where
  | Immediate
  | OnPhraseStart
deriving DecidableEq

structure LaunchContext where
  deck : DeckId
  load : TrackLoadId
  revision : PlanRevision
  epoch : UInt64
deriving DecidableEq

def AutoloopExecutionIdentity.launch_context (identity : AutoloopExecutionIdentity) :
    LaunchContext :=
  ⟨identity.deck_id, identity.track_load_id, identity.plan_revision, identity.execution_epoch⟩

structure LaunchBoundary where
  phrase : UInt16
  beat : UInt32
deriving DecidableEq

inductive LaunchState where
  | WaitingForPlayback
  | Waiting (context : LaunchContext) (target : LaunchBoundary)
  | NoUpcomingBoundary (context : LaunchContext)
  | Launched
deriving DecidableEq

def LaunchState.is_waiting : LaunchState → Bool
  | Waiting .. => true
  | _ => false

structure LaunchGate where
  state : LaunchState
deriving DecidableEq

namespace LaunchGate

def default : LaunchGate := ⟨.WaitingForPlayback⟩

def arm : LaunchGate := ⟨.WaitingForPlayback⟩

variable (self : LaunchGate)

def cancel_pending : LaunchGate := if self.state ≠ .Launched then arm else self

/-- The nearest of the boundaries that are not behind the beat. -/
def next_boundary (beat : UInt32) (boundaries : List LaunchBoundary) : Option LaunchBoundary :=
  boundaries.foldl (fun next boundary =>
    if beat ≤ boundary.beat ∧ next.all (fun existing => boundary.beat < existing.beat) then
      some boundary
    else next) none

def observe (policy : LaunchPolicy) (context : LaunchContext) (playing : Bool) (beat : UInt32)
    (boundaries : List LaunchBoundary) : LaunchGate :=
  if self.state = .Launched then self
  else if !playing then self.cancel_pending
  else if policy = .Immediate then self
  -- the target stays as long as it is a boundary of the same plan
  else if boundaries.any fun boundary => self.state = .Waiting context boundary then self
  else match next_boundary beat boundaries with
    | some target => ⟨.Waiting context target⟩
    | none => ⟨.NoUpcomingBoundary context⟩

def allows (policy : LaunchPolicy) (context : LaunchContext) (phrase : UInt16) : Bool :=
  policy = .Immediate || self.state = .Launched ||
    match self.state with
    | .Waiting selected target => selected = context && target.phrase = phrase
    | _ => false

def did_launch (policy : LaunchPolicy) (context : LaunchContext) (phrase : UInt16) : LaunchGate :=
  if self.allows policy context phrase then ⟨.Launched⟩ else self

end LaunchGate

end lumi_engine
