-- The events of the runtime: what the decks report, what the operator asks
-- for, what the workers give back, and what the full queue says.
import Lumi.Domain.Plan

namespace lumi_domain

/-! ## The output -/

structure OutputExecutionRequest where
  command_id : OutputCommandId
  plan_id : PlanId
  plan_revision : PlanRevision
  deck_id : DeckId
  track_load_id : TrackLoadId
  phrase_index : UInt16
  cue_id : CueId
  action : SemanticLightingAction
  cue_reason : CueReason
  scheduled_at : MonotonicTime
deriving DecidableEq

inductive OutputEffectStatus where
  | Simulated
  | Rejected
  | Skipped
deriving DecidableEq

inductive OutputEffectReason where
  | PhraseBoundary
  | ProviderRejected
  | StaleExecutionContext
  | InitialLaunchDeferred
deriving DecidableEq

structure OutputEffectResult where
  request : OutputExecutionRequest
  actual_at : MonotonicTime
  status : OutputEffectStatus
  reason : OutputEffectReason
deriving DecidableEq

/-! ## The events -/

inductive DeckObservation where
  | SourceStatusChanged (status : DeckSourceStatus)
  | TrackLoaded (deck_id : DeckId) (metadata : TrackMetadata) (track_load_id : TrackLoadId)
  | TrackMetadataHydrated (deck_id : DeckId) (metadata : TrackMetadata)
      (track_load_id : TrackLoadId)
  | PlaybackPosition (deck_id : DeckId) (track_load_id : TrackLoadId) (beat : UInt32)
  | PlaybackPositionSeeked (deck_id : DeckId) (track_load_id : TrackLoadId) (beat : UInt32)
  | PlaybackTempoChanged (deck_id : DeckId) (track_load_id : TrackLoadId) (bpm_milli : UInt32)
  | PlaybackStateChanged (deck_id : DeckId) (track_load_id : TrackLoadId) (playing : Bool)
  | TrackUnloaded (deck_id : DeckId) (track_load_id : TrackLoadId)
  | PhraseChanged (deck_id : DeckId) (track_load_id : TrackLoadId) (phrase_index : UInt16)
  | LeaderChanged (deck_id : DeckId) (track_load_id : TrackLoadId)
deriving DecidableEq

structure ObservationEnvelope where
  source_id : SourceId
  sequence : SourceSequence
  observed_at : MonotonicTime
  observation : DeckObservation
deriving DecidableEq

inductive OperationCommand where
  | Arm
  | Start
  | Pause
  | Off
deriving DecidableEq

structure UserCommandEnvelope where
  client_id : ClientId
  sequence : CommandSequence
  expected_state_revision : StateRevision
  issued_at : MonotonicTime
  command : OperationCommand
deriving DecidableEq

inductive EffectResult where
  | PlanGenerated (plan : LightingPlan)
  | OutputEffectRecorded (result : OutputEffectResult)
  | OutputGateClosed
deriving DecidableEq

structure EffectResultEnvelope where
  effect_id : EffectId
  worker_id : WorkerId
  sequence : EffectSequence
  completed_at : MonotonicTime
  result : EffectResult
deriving DecidableEq

inductive DomainEventKind where
  | RuntimeStarted
  | Observation
  | UserCommand
  | EffectResult
  | QueueOverloaded
deriving DecidableEq

structure QueueOverloadEvent where
  occurred_at : MonotonicTime
  rejected_kind : DomainEventKind
  rejected_critical : Bool
  occurrences : UInt64
deriving DecidableEq

inductive DomainEvent where
  | RuntimeStarted (started_at : MonotonicTime)
  | Observation (event : ObservationEnvelope)
  | UserCommand (event : UserCommandEnvelope)
  | EffectResult (event : EffectResultEnvelope)
  | QueueOverloaded (event : QueueOverloadEvent)
deriving DecidableEq

namespace DomainEvent

def kind : DomainEvent → DomainEventKind
  | RuntimeStarted _ => .RuntimeStarted
  | Observation _ => .Observation
  | UserCommand _ => .UserCommand
  | EffectResult _ => .EffectResult
  | QueueOverloaded _ => .QueueOverloaded

def is_critical : DomainEvent → Bool
  | Observation _ => false
  | _ => true

def monotonic_time : DomainEvent → MonotonicTime
  | RuntimeStarted t => t
  | Observation event => event.observed_at
  | UserCommand event => event.issued_at
  | EffectResult event => event.completed_at
  | QueueOverloaded event => event.occurred_at

end DomainEvent

end lumi_domain
