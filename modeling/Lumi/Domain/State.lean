-- The state of the runtime, with its journal: the last decisions, the
-- diagnostics and the timeline of what each event did.
import Lumi.Domain.Event

open rust

namespace lumi_domain

/-! ## The journal -/

inductive DecisionReason where
  | RuntimeInitialized
  | SourceStatusAccepted
  | TrackLoadAccepted
  | TrackMetadataHydrated
  | PositionAdvanced
  | PositionSeeked
  | PlaybackTempoChanged
  | PlaybackStateChanged
  | PhraseChanged
  | LeaderChanged
  | PlanActivated
  | PlanActivationSkipped
  | PhraseExecutionScheduled
  | PhraseExecutionSkipped
  | TrackUnloaded
  | StaleObservationIgnored
  | ObservationTimeRegressed
  | TrackLoadMismatch
  | PositionRegressed
  | DuplicateCommandIgnored
  | OperationTransitionAccepted
  | DuplicateEffectIgnored
  | PlanAccepted
  | StalePlanIgnored
  | PlanTrackLoadMismatch
  | OutputGateConfirmedClosed
  | OutputEffectRecorded
  | QueueSaturated
deriving DecidableEq

inductive DiagnosticSeverity where
  | Information
  | Warning
  | Error
deriving DecidableEq

structure Diagnostic where
  sequence : UInt64
  severity : DiagnosticSeverity
  reason : DecisionReason
  event_kind : DomainEventKind
  occurred_at : MonotonicTime
deriving DecidableEq

inductive TimelineSource where
  | Runtime
  | DeckSource
  | Operation
  | Planner
  | Output
deriving DecidableEq

inductive TimelineResult where
  | Accepted
  | Ignored
  | Scheduled
  | Simulated
  | Rejected
  | Skipped
  | Completed
deriving DecidableEq

structure TimelineEntry where
  sequence : UInt64
  occurred_at : MonotonicTime
  source : TimelineSource
  event_type : String
  result : TimelineResult
  reason : DecisionReason
deriving DecidableEq

namespace TimelineEntry

def observation_type : DeckObservation → String
  | .SourceStatusChanged .. => "sourceStatusChanged"
  | .TrackLoaded .. => "trackLoaded"
  | .TrackMetadataHydrated .. => "trackMetadataHydrated"
  | .PlaybackPosition .. => "playbackPosition"
  | .PlaybackPositionSeeked .. => "playbackPositionSeeked"
  | .PlaybackTempoChanged .. => "playbackTempoChanged"
  | .PlaybackStateChanged .. => "playbackStateChanged"
  | .TrackUnloaded .. => "trackUnloaded"
  | .PhraseChanged .. => "phraseChanged"
  | .LeaderChanged .. => "leaderChanged"

def command_type : OperationCommand → String
  | .Arm => "arm"
  | .Start => "start"
  | .Pause => "pause"
  | .Off => "off"

def source_and_type : DomainEvent → TimelineSource × String
  | .RuntimeStarted _ => (.Runtime, "runtimeStarted")
  | .Observation observation => (.DeckSource, observation_type observation.observation)
  | .UserCommand command => (.Operation, command_type command.command)
  | .EffectResult effect =>
    match effect.result with
    | .PlanGenerated _ => (.Planner, "planGenerated")
    | .OutputEffectRecorded _ => (.Output, "outputEffectRecorded")
    | .OutputGateClosed => (.Output, "outputGateClosed")
  | .QueueOverloaded _ => (.Runtime, "queueOverloaded")

def result_of_reason : DecisionReason → TimelineResult
  | .PhraseExecutionScheduled => .Scheduled
  | .StaleObservationIgnored | .ObservationTimeRegressed | .TrackLoadMismatch
  | .PositionRegressed | .DuplicateCommandIgnored | .DuplicateEffectIgnored
  | .StalePlanIgnored | .PlanTrackLoadMismatch | .PlanActivationSkipped
  | .PhraseExecutionSkipped => .Ignored
  | _ => .Accepted

def result_of (event : DomainEvent) (reason : DecisionReason) : TimelineResult :=
  match event with
  | .EffectResult effect =>
    match effect.result with
    | .OutputEffectRecorded output =>
      match output.status with
      | .Simulated => .Simulated
      | .Rejected => .Rejected
      | .Skipped => .Skipped
    | .OutputGateClosed => .Completed
    | .PlanGenerated _ => .Accepted
  | _ => result_of_reason reason

def from_event (sequence : UInt64) (event : DomainEvent) (reason : DecisionReason) :
    TimelineEntry :=
  { sequence
    occurred_at := event.monotonic_time
    source := (source_and_type event).1
    event_type := (source_and_type event).2
    result := result_of event reason
    reason }

end TimelineEntry

/-! ## The state -/

inductive OperationState where
  | Off
  | Armed
  | Live
  | Paused
deriving DecidableEq

inductive RuntimeHealth where
  | Starting
  | Ready
  | Degraded
deriving DecidableEq

structure DeckState where
  metadata : TrackMetadata
  track_load_id : TrackLoadId
  beat : UInt32
  effective_bpm_milli : UInt32
  playing : Bool
  phrase_index : Option UInt16
  last_observed_at : MonotonicTime
deriving DecidableEq

def DeckState.track_id (deck : DeckState) : TrackId := deck.metadata.id

/-- What makes one execution of a cue the same as another: the deck, the load, the phrase, the
cue and the revision of the plan. -/
abbrev ExecutionIdentity := DeckId × TrackLoadId × UInt16 × CueId × PlanRevision

structure RuntimeState where
  revision : StateRevision
  operation : OperationState
  health : RuntimeHealth
  decks : BTreeMap DeckId DeckState
  plans : BTreeMap DeckId LightingPlan
  source_statuses : BTreeMap SourceId DeckSourceStatus
  leader_deck : Option DeckId
  active_plan : Option LightingPlan
  output_command_sequence : UInt64
  last_scheduled_cue : Option ExecutionIdentity
  output_effects : List OutputEffectResult
  source_sequences : BTreeMap SourceId SourceSequence
  source_times : BTreeMap SourceId MonotonicTime
  command_sequences : BTreeMap ClientId CommandSequence
  effect_sequences : BTreeMap WorkerId EffectSequence
  processed_events : UInt64
  last_decision : Option DecisionReason
  diagnostics : List Diagnostic
  timeline : List TimelineEntry

namespace RuntimeState

def default : RuntimeState where
  revision := StateRevision.initial
  operation := .Off
  health := .Starting
  decks := ∅
  plans := ∅
  source_statuses := ∅
  leader_deck := none
  active_plan := none
  output_command_sequence := 0
  last_scheduled_cue := none
  output_effects := []
  source_sequences := ∅
  source_times := ∅
  command_sequences := ∅
  effect_sequences := ∅
  processed_events := 0
  last_decision := none
  diagnostics := []
  timeline := []

variable (state : RuntimeState)

/-- The clause that four observations share: the cue that was scheduled last is forgotten
when it was a cue of the deck. -/
def forget_cue_of (deck_id : DeckId) : RuntimeState :=
  if state.last_scheduled_cue.any (·.1 = deck_id) then
    { state with last_scheduled_cue := none }
  else state

/-- The active plan is dropped when it is a plan of the deck. -/
def drop_active_plan_of (deck_id : DeckId) : RuntimeState :=
  if state.active_plan.any (·.deck_id = deck_id) then { state with active_plan := none } else state

def load_track (deck_id : DeckId) (metadata : TrackMetadata) (track_load_id : TrackLoadId)
    (observed_at : MonotonicTime) : RuntimeState :=
  let state := { state with
    decks := state.decks.insert deck_id
      { metadata, track_load_id, beat := 0, effective_bpm_milli := metadata.bpm_milli,
        playing := false, phrase_index := none, last_observed_at := observed_at }
    plans := state.plans.erase deck_id }
  (state.forget_cue_of deck_id).drop_active_plan_of deck_id

/-- Appends to a journal that drops its oldest entry when it is full. -/
def push_bounded {α : Type} (maximum : Nat) (entries : List α) (entry : α) : List α :=
  (if entries.length = maximum then entries.tail else entries) ++ [entry]

def push_diagnostic (diagnostic : Diagnostic) : RuntimeState :=
  { state with diagnostics := push_bounded 64 state.diagnostics diagnostic }

def push_output_effect (result : OutputEffectResult) : RuntimeState :=
  { state with output_effects := push_bounded 256 state.output_effects result }

def push_timeline (entry : TimelineEntry) : RuntimeState :=
  { state with timeline := push_bounded 256 state.timeline entry }

end RuntimeState

end lumi_domain
