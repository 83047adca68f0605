-- The reducer: one event and the state give the next state, a decision and
-- the effects, or an error that leaves the state as it was. The functions here
-- follow `reducer.rs`; the match over the observations is cut into one
-- function for each observation.
import Lumi.Replay
import Lumi.Domain.State

open rust

namespace lumi_domain

inductive Effect where
  | EnsureOutputClosed (reason : DecisionReason)
  | ExecuteCue (request : OutputExecutionRequest)
deriving DecidableEq

inductive ReducerError where
  | RuntimeAlreadyStarted
  | RevisionConflict (expected actual : StateRevision)
  | InvalidOperationTransition (operation : OperationState) (command : OperationCommand)
  | PlanRevisionGap (expected actual : PlanRevision)
  | StateRevisionOverflow
  | PlanRevisionOverflow
  | OutputCommandSequenceOverflow
  | ProcessedEventOverflow
deriving DecidableEq

structure Reduction where
  state : RuntimeState
  decision : DecisionReason
  effects : List Effect
  state_changed : Bool

/-! ## The execution of a cue -/

def execution_effect (state : RuntimeState) (deck_id : DeckId) (track_load_id : TrackLoadId)
    (phrase_index : UInt16) (scheduled_at : MonotonicTime) :
    Except ReducerError (RuntimeState × Option Effect) :=
  if state.leader_deck ≠ some deck_id then .ok (state, none)
  else match state.active_plan with
    | none => .ok (state, none)
    | some plan =>
      if plan.deck_id ≠ deck_id ∨ plan.track_load_id ≠ track_load_id then .ok (state, none)
      else match plan.cues[phrase_index.toNat]?.filter (·.phrase_index = phrase_index) with
        | none => .ok (state, none)
        | some cue =>
          let execution_identity : ExecutionIdentity :=
            (deck_id, track_load_id, phrase_index, cue.id, plan.revision)
          if state.last_scheduled_cue = some execution_identity then .ok (state, none)
          else match checked_add state.output_command_sequence 1 with
            | none => .error .OutputCommandSequenceOverflow
            | some command_sequence =>
              let request : OutputExecutionRequest :=
                { command_id := ⟨command_sequence⟩
                  plan_id := plan.id
                  plan_revision := plan.revision
                  deck_id, track_load_id, phrase_index
                  cue_id := cue.id
                  action := cue.action
                  cue_reason := cue.reason
                  scheduled_at }
              .ok ({ state with
                  output_command_sequence := command_sequence
                  last_scheduled_cue := some execution_identity },
                some (.ExecuteCue request))

/-- Four observations try to execute a cue. The decision is `PhraseExecutionScheduled` when
there is an effect, and the observation's own decision when there is none. -/
def schedule (state : RuntimeState) (deck_id : DeckId) (track_load_id : TrackLoadId)
    (phrase_index : UInt16) (scheduled_at : MonotonicTime) (otherwise : DecisionReason) :
    Except ReducerError (RuntimeState × DecisionReason × List Effect) :=
  match execution_effect state deck_id track_load_id phrase_index scheduled_at with
  | .error e => .error e
  | .ok (state, some effect) => .ok (state, .PhraseExecutionScheduled, [effect])
  | .ok (state, none) => .ok (state, otherwise, [])

/-! ## The observations -/

def phrase_index_at_beat (metadata : TrackMetadata) (beat : UInt32) : Option UInt16 :=
  (metadata.phrases.find? fun phrase => phrase.start_beat ≤ beat && beat < phrase.end_beat).map
    (·.index)

/-- Puts back a deck that was taken with `get_mut`. -/
def RuntimeState.put_deck (state : RuntimeState) (deck_id : DeckId) (deck : DeckState) :
    RuntimeState :=
  { state with decks := state.decks.insert deck_id deck }

section observations

variable (state : RuntimeState) (observed_at : MonotonicTime) (deck_id : DeckId)
  (track_load_id : TrackLoadId)

def observe_hydrated (metadata : TrackMetadata) : RuntimeState × DecisionReason :=
  match state.decks[deck_id]? with
  | some deck =>
    if deck.track_load_id = track_load_id then
      (state.put_deck deck_id
        { deck with metadata, phrase_index := phrase_index_at_beat metadata deck.beat },
        .TrackMetadataHydrated)
    else (state, .TrackLoadMismatch)
  | none => (state, .TrackLoadMismatch)

def observe_position (beat : UInt32) : RuntimeState × DecisionReason :=
  match state.decks[deck_id]? with
  | some deck =>
    if deck.track_load_id ≠ track_load_id then (state, .TrackLoadMismatch)
    else if beat < deck.beat then (state, .PositionRegressed)
    else (state.put_deck deck_id { deck with beat, last_observed_at := observed_at },
      .PositionAdvanced)
  | none => (state, .TrackLoadMismatch)

def observe_seeked (beat : UInt32) :
    Except ReducerError (RuntimeState × DecisionReason × List Effect) :=
  match state.decks[deck_id]? with
  | some deck =>
    if deck.track_load_id ≠ track_load_id then .ok (state, .TrackLoadMismatch, [])
    else
      let phrase_index := phrase_index_at_beat deck.metadata beat
      let state := state.put_deck deck_id
        { deck with beat, phrase_index, last_observed_at := observed_at }
      let state := state.forget_cue_of deck_id
      if state.operation = .Live ∧ state.leader_deck = some deck_id ∧ deck.playing = true then
        match phrase_index with
        | some phrase_index =>
          schedule state deck_id track_load_id phrase_index observed_at .PositionSeeked
        | none => .ok (state, .PositionSeeked, [])
      else .ok (state, .PositionSeeked, [])
  | none => .ok (state, .TrackLoadMismatch, [])

def observe_tempo (bpm_milli : UInt32) : RuntimeState × DecisionReason :=
  match state.decks[deck_id]? with
  | some deck =>
    if deck.track_load_id = track_load_id ∧ 20000 ≤ bpm_milli ∧ bpm_milli ≤ 300000 then
      (state.put_deck deck_id
        { deck with effective_bpm_milli := bpm_milli, last_observed_at := observed_at },
        .PlaybackTempoChanged)
    else (state, .TrackLoadMismatch)
  | none => (state, .TrackLoadMismatch)

def observe_playing (playing : Bool) :
    Except ReducerError (RuntimeState × DecisionReason × List Effect) :=
  match state.decks[deck_id]? with
  | some deck =>
    if deck.track_load_id = track_load_id then
      let started := !deck.playing && playing
      let state := state.put_deck deck_id { deck with playing, last_observed_at := observed_at }
      if playing = false then
        .ok (state.forget_cue_of deck_id, .PlaybackStateChanged, [])
      else
        match started, deck.phrase_index with
        | true, some phrase_index =>
          if state.operation = .Live then
            schedule state deck_id track_load_id phrase_index observed_at .PlaybackStateChanged
          else .ok (state, .PlaybackStateChanged, [])
        | _, _ => .ok (state, .PlaybackStateChanged, [])
    else .ok (state, .TrackLoadMismatch, [])
  | none => .ok (state, .TrackLoadMismatch, [])

def observe_unloaded : RuntimeState × DecisionReason :=
  match state.decks[deck_id]? with
  | some deck =>
    if deck.track_load_id = track_load_id then
      let state := { state with
        decks := state.decks.erase deck_id
        plans := state.plans.erase deck_id
        leader_deck := if state.leader_deck = some deck_id then none else state.leader_deck }
      ((state.drop_active_plan_of deck_id).forget_cue_of deck_id, .TrackUnloaded)
    else (state, .TrackLoadMismatch)
  | none => (state, .TrackLoadMismatch)

def observe_phrase (phrase_index : UInt16) :
    Except ReducerError (RuntimeState × DecisionReason × List Effect) :=
  match state.decks[deck_id]? with
  | some deck =>
    if deck.track_load_id = track_load_id ∧ (deck.metadata.phrase phrase_index).isSome then
      let state := state.put_deck deck_id
        { deck with phrase_index := some phrase_index, last_observed_at := observed_at }
      if state.operation ≠ .Live ∨ ¬ (state.decks[deck_id]?.any (·.playing)) then
        .ok (state, .PhraseChanged, [])
      else schedule state deck_id track_load_id phrase_index observed_at .PhraseExecutionSkipped
    else .ok (state, .TrackLoadMismatch, [])
  | none => .ok (state, .TrackLoadMismatch, [])

/-- The plan of the deck that a leader change makes active. -/
def activated_plan (deck : DeckState) : Option LightingPlan :=
  state.plans[deck_id]?.filter fun plan =>
    plan.status = .Ready ∧ plan.track_load_id = track_load_id ∧ plan.track_id = deck.track_id

def observe_leader : Except ReducerError (RuntimeState × DecisionReason × List Effect) :=
  match state.decks[deck_id]?.filter (·.track_load_id = track_load_id) with
  | some deck =>
    let state := { state with
      leader_deck := some deck_id
      active_plan := activated_plan state deck_id track_load_id deck }
    if state.active_plan.isSome ∧ state.operation = .Live ∧ deck.playing = true then
      match deck.phrase_index with
      | some phrase_index =>
        schedule state deck_id track_load_id phrase_index observed_at .PlanActivated
      | none => .ok (state, .PlanActivated, [])
    else if state.active_plan.isSome then .ok (state, .PlanActivated, [])
    else .ok (state, .PlanActivationSkipped, [])
  | none => .ok ({ state with active_plan := none }, .TrackLoadMismatch, [])

end observations

/-- An observation with a decision and no effect. -/
def quiet (observed : RuntimeState × DecisionReason) :
    Except ReducerError (RuntimeState × DecisionReason × List Effect) :=
  .ok (observed.1, observed.2, [])

/-- The match over the observation, after the watermarks of its source have moved. -/
def observe (state : RuntimeState) (source_id : SourceId) (observed_at : MonotonicTime) :
    DeckObservation → Except ReducerError (RuntimeState × DecisionReason × List Effect)
  | .SourceStatusChanged status =>
    quiet ({ state with source_statuses := state.source_statuses.insert source_id status },
      .SourceStatusAccepted)
  | .TrackLoaded deck_id metadata track_load_id =>
    quiet (state.load_track deck_id metadata track_load_id observed_at, .TrackLoadAccepted)
  | .TrackMetadataHydrated deck_id metadata track_load_id =>
    quiet (observe_hydrated state deck_id track_load_id metadata)
  | .PlaybackPosition deck_id track_load_id beat =>
    quiet (observe_position state observed_at deck_id track_load_id beat)
  | .PlaybackPositionSeeked deck_id track_load_id beat =>
    observe_seeked state observed_at deck_id track_load_id beat
  | .PlaybackTempoChanged deck_id track_load_id bpm_milli =>
    quiet (observe_tempo state observed_at deck_id track_load_id bpm_milli)
  | .PlaybackStateChanged deck_id track_load_id playing =>
    observe_playing state observed_at deck_id track_load_id playing
  | .TrackUnloaded deck_id track_load_id => quiet (observe_unloaded state deck_id track_load_id)
  | .PhraseChanged deck_id track_load_id phrase_index =>
    observe_phrase state observed_at deck_id track_load_id phrase_index
  | .LeaderChanged deck_id track_load_id => observe_leader state observed_at deck_id track_load_id

/-- The decisions that `reduce_observation` counts as a change of the state. -/
def DecisionReason.changes_state : DecisionReason → Bool
  | SourceStatusAccepted | TrackLoadAccepted | PositionAdvanced | PositionSeeked
  | PlaybackTempoChanged | PlaybackStateChanged | TrackUnloaded | PhraseChanged
  | PlanActivated | PlanActivationSkipped | PhraseExecutionScheduled
  | PhraseExecutionSkipped => true
  | _ => false

def reduce_observation (state : RuntimeState) (event : ObservationEnvelope) :
    Except ReducerError Reduction :=
  if state.source_sequences[event.source_id]?.any (event.sequence ≤ ·) then
    .ok ⟨state, .StaleObservationIgnored, [], false⟩
  else
    let state := { state with
      source_sequences := state.source_sequences.insert event.source_id event.sequence }
    if state.source_times[event.source_id]?.any (event.observed_at < ·) then
      .ok ⟨state, .ObservationTimeRegressed, [], false⟩
    else
      let state := { state with
        source_times := state.source_times.insert event.source_id event.observed_at }
      match observe state event.source_id event.observed_at event.observation with
      | .error e => .error e
      | .ok (state, decision, effects) =>
        .ok ⟨state, decision, effects, decision.changes_state⟩

/-! ## The commands and the results -/

def operation_target (operation : OperationState) (command : OperationCommand) :
    Option OperationState :=
  match command, operation with
  | .Arm, .Off => some .Armed
  | .Start, .Armed => some .Live
  | .Start, .Paused => some .Live
  | .Pause, .Live => some .Paused
  | .Off, _ => some .Off
  | _, _ => none

/-- The leader deck, its load and its phrase, while it plays. -/
def current_phrase (state : RuntimeState) : Option (DeckId × TrackLoadId × UInt16) :=
  match state.leader_deck with
  | none => none
  | some deck_id =>
    match state.decks[deck_id]? with
    | none => none
    | some deck =>
      if deck.playing then deck.phrase_index.map fun phrase_index =>
        (deck_id, deck.track_load_id, phrase_index)
      else none

def reduce_command (state : RuntimeState) (event : UserCommandEnvelope) :
    Except ReducerError Reduction :=
  if state.command_sequences[event.client_id]?.any (event.sequence ≤ ·) then
    .ok ⟨state, .DuplicateCommandIgnored, [], false⟩
  else if event.expected_state_revision ≠ state.revision then
    .error (.RevisionConflict event.expected_state_revision state.revision)
  else match operation_target state.operation event.command with
    | none => .error (.InvalidOperationTransition state.operation event.command)
    | some target =>
      let state := { state with
        command_sequences := state.command_sequences.insert event.client_id event.sequence
        operation := target }
      if target = .Paused ∨ target = .Off then
        .ok ⟨{ state with last_scheduled_cue := none }, .OperationTransitionAccepted,
          [.EnsureOutputClosed .OperationTransitionAccepted], true⟩
      else if target = .Live then
        match current_phrase state with
        | none => .ok ⟨state, .OperationTransitionAccepted, [], true⟩
        | some (deck_id, track_load_id, phrase_index) =>
          match execution_effect state deck_id track_load_id phrase_index event.issued_at with
          | .error e => .error e
          | .ok (state, effect) => .ok ⟨state, .OperationTransitionAccepted, effect.toList, true⟩
      else .ok ⟨state, .OperationTransitionAccepted, [], true⟩

/-- The revision that the next plan of the deck must have. -/
def expected_plan_revision (state : RuntimeState) (deck_id : DeckId) :
    Except ReducerError PlanRevision :=
  match state.plans[deck_id]? with
  | none => .ok PlanRevision.initial
  | some current =>
    match current.revision.checked_next with
    | none => .error .PlanRevisionOverflow
    | some revision => .ok revision

def accept_plan (state : RuntimeState) (plan : LightingPlan) : Except ReducerError Reduction :=
  match state.decks[plan.deck_id]? with
  | none => .ok ⟨state, .PlanTrackLoadMismatch, [], false⟩
  | some deck =>
    if deck.track_load_id ≠ plan.track_load_id ∨ deck.track_id ≠ plan.track_id then
      .ok ⟨state, .PlanTrackLoadMismatch, [], false⟩
    else match expected_plan_revision state plan.deck_id with
      | .error e => .error e
      | .ok expected =>
        if plan.revision < expected then .ok ⟨state, .StalePlanIgnored, [], false⟩
        else if plan.revision ≠ expected then .error (.PlanRevisionGap expected plan.revision)
        else
          let state := { state with
            plans := state.plans.insert plan.deck_id plan
            active_plan := if state.leader_deck = some plan.deck_id then some plan
              else state.active_plan }
          .ok ⟨state, .PlanAccepted, [], true⟩

def reduce_effect_result (state : RuntimeState) (event : EffectResultEnvelope) :
    Except ReducerError Reduction :=
  if state.effect_sequences[event.worker_id]?.any (event.sequence ≤ ·) then
    .ok ⟨state, .DuplicateEffectIgnored, [], false⟩
  else
    let state := { state with
      effect_sequences := state.effect_sequences.insert event.worker_id event.sequence }
    match event.result with
    | .PlanGenerated plan => accept_plan state plan
    | .OutputEffectRecorded result =>
      .ok ⟨state.push_output_effect result, .OutputEffectRecorded, [], true⟩
    | .OutputGateClosed => .ok ⟨state, .OutputGateConfirmedClosed, [], false⟩

/-! ## The reducer -/

def reduce_runtime_started (state : RuntimeState) : Except ReducerError Reduction :=
  if state.health ≠ .Starting then .error .RuntimeAlreadyStarted
  else .ok ⟨{ state with health := .Ready }, .RuntimeInitialized, [], true⟩

def reduce_queue_overloaded (state : RuntimeState) (overload : QueueOverloadEvent) : Reduction :=
  let state : RuntimeState := { state with
    health := .Degraded
    operation := if state.operation = .Live then .Paused else state.operation }
  let state := state.push_diagnostic
    { sequence := saturating_add state.processed_events 1
      severity := .Error
      reason := .QueueSaturated
      event_kind := .QueueOverloaded
      occurred_at := overload.occurred_at }
  ⟨state, .QueueSaturated, [.EnsureOutputClosed .QueueSaturated], true⟩

/-- The match over the event in `reduce`. -/
def reduce_event (state : RuntimeState) : DomainEvent → Except ReducerError Reduction
  | .RuntimeStarted _ => reduce_runtime_started state
  | .Observation observation => reduce_observation state observation
  | .UserCommand command => reduce_command state command
  | .EffectResult result => reduce_effect_result state result
  | .QueueOverloaded overload => .ok (reduce_queue_overloaded state overload)

/-- The rest of `reduce`: the event is counted and journaled, and a change of the state gets a
revision of its own. -/
def record_event (event : DomainEvent) (reduction : Reduction) : Except ReducerError Reduction :=
  match checked_add reduction.state.processed_events 1 with
  | none => .error .ProcessedEventOverflow
  | some processed_events =>
    let state := { reduction.state with
      processed_events, last_decision := some reduction.decision }
    let state := state.push_timeline
      (TimelineEntry.from_event processed_events event reduction.decision)
    if reduction.state_changed then
      match state.revision.checked_next with
      | none => .error .StateRevisionOverflow
      | some revision => .ok { reduction with state := { state with revision } }
    else .ok { reduction with state }

def reduce (state : RuntimeState) (event : DomainEvent) : Except ReducerError Reduction :=
  match reduce_event state event with
  | .error e => .error e
  | .ok reduction => record_event event reduction

/-- The reducer as a machine: it starts in the default state. -/
def reducer : replay.Machine RuntimeState DomainEvent ReducerError Reduction where
  start := RuntimeState.default
  reduce := reduce
  next := Reduction.state

/-! ## A short show -/

namespace sample

/-- A track of one phrase. -/
def metadata (id : TrackId) : TrackMetadata where
  id := id
  title := "Track"
  artist := "Lumi Test"
  bpm_milli := 128000
  musical_key := ⟨.A, .Minor⟩
  color := none
  duration_beats := 128
  phrases := [⟨0, 0, 128, .Intro⟩]
  identity_facts := none
  facts_valid := by decide
  phrases_valid := by decide

def look : LightingLook where
  theme_id := ⟨1⟩
  theme_name := "Test Theme"
  scene_id := ⟨1⟩
  scene_name := "Test Scene"
  category := .Ambient
  loop_selection := ⟨1, 1⟩
  theme_named := by decide
  scene_named := by decide

def cue : LightingCue :=
  .new ⟨1⟩ 0 0 128 (.ApplyLook look) .Automatic (.PhraseCategoryMatched .Intro .Ambient)

/-- The plan of the track 100, which deck 1 holds under the load 10. -/
def plan : LightingPlan where
  id := ⟨1⟩
  deck_id := ⟨1⟩
  track_id := ⟨100⟩
  track_duration_beats := 128
  track_load_id := ⟨10⟩
  revision := PlanRevision.initial
  configuration_revision := ⟨1⟩
  seed := 1
  status := .Ready
  theme_decision := some ⟨⟨1⟩, "Test Theme", .DefaultTheme, none, by decide⟩
  cues := [cue]
  valid := by decide

/-- The observation `n` of the source 1. -/
def observation (n : UInt64) (observation : DeckObservation) : DomainEvent :=
  .Observation ⟨⟨1⟩, ⟨n⟩, ⟨n⟩, observation⟩

/-- The command `n` of the client 1, which saw the state at the revision. -/
def command (n revision : UInt64) (command : OperationCommand) : DomainEvent :=
  .UserCommand ⟨⟨1⟩, ⟨n⟩, ⟨revision⟩, ⟨n⟩, command⟩

def plan_generated : DomainEvent := .EffectResult ⟨⟨1⟩, ⟨1⟩, ⟨1⟩, ⟨1⟩, .PlanGenerated plan⟩

/-- The track is loaded, planned, leads and plays its phrase, and the output is armed. -/
def armed : List DomainEvent :=
  [.RuntimeStarted ⟨0⟩, observation 1 (.TrackLoaded ⟨1⟩ (metadata ⟨100⟩) ⟨10⟩), plan_generated,
    observation 2 (.LeaderChanged ⟨1⟩ ⟨10⟩), observation 3 (.PlaybackStateChanged ⟨1⟩ ⟨10⟩ true),
    observation 4 (.PhraseChanged ⟨1⟩ ⟨10⟩ 0), command 1 6 .Arm]

/-- The operator starts, and the cue of the phrase gets out. -/
def live : List DomainEvent := armed ++ [command 2 7 .Start]

/-- The queue overflowed. -/
def overload : DomainEvent := .QueueOverloaded ⟨⟨5⟩, .Observation, false, 1⟩

/-- The library finds that deck 1 holds the track 200. -/
def hydration (n : UInt64) : DomainEvent :=
  observation n (.TrackMetadataHydrated ⟨1⟩ (metadata ⟨200⟩) ⟨10⟩)

/-- The request that gets out at the start. -/
def request : OutputExecutionRequest where
  command_id := ⟨1⟩
  plan_id := ⟨1⟩
  plan_revision := PlanRevision.initial
  deck_id := ⟨1⟩
  track_load_id := ⟨10⟩
  phrase_index := 0
  cue_id := ⟨1⟩
  action := .ApplyLook look
  cue_reason := .PhraseCategoryMatched .Intro .Ambient
  scheduled_at := ⟨2⟩

example : (reducer.run live).operation = .Live ∧
    (reducer.run live).output_command_sequence = 1 := by
  decide

end sample

end lumi_domain
