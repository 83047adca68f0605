-- The engine: the runtime with its workers, and what it does with an event of
-- a deck source. The reducer decides, the output worker carries the decision
-- out, and the planning worker plans what was loaded.
import Lumi.Engine.Library
import Lumi.Engine.Output

open rust lumi_domain lumi_midi_output lumi_planner

/-! ## The serialized runtime -/

namespace lumi_domain

structure SerializedRuntime where
  state : RuntimeState
  ingress : BoundedEventQueue

structure ProcessResult where
  event_kind : DomainEventKind
  state_revision : StateRevision
  decision : DecisionReason
  effects : List Effect

namespace SerializedRuntime

def submit (event : DomainEvent) : Call SerializedRuntime IngressError IngressOutcome where
  run self :=
    ({ self with ingress := (self.ingress.push event).1 },
      Outcome.lift id (self.ingress.push event).2)

/-- The event is gone from the queue, also when the reducer refuses it. -/
def process_next : Call SerializedRuntime ReducerError (Option ProcessResult) where
  run self :=
    match self.ingress.pop with
    | (ingress, none) => ({ self with ingress }, .ok none)
    | (ingress, some event) =>
      match reduce self.state event with
      | .error error => ({ self with ingress }, .err error)
      | .ok reduction =>
        (⟨reduction.state, ingress⟩,
          .ok (some ⟨event.kind, reduction.state.revision, reduction.decision, reduction.effects⟩))

end SerializedRuntime

end lumi_domain

namespace lumi_engine

def EVENT_QUEUE_CAPACITY : Nat := 256

def submit_and_process (event : DomainEvent) :
    Call SerializedRuntime EngineError ProcessResult := do
  let _ ← Call.map_err (fun error => .DomainRuntime (.Ingress error))
    (SerializedRuntime.submit event)
  match ← Call.map_err (fun error => .DomainRuntime (.Reducer error))
      SerializedRuntime.process_next with
  | none => Call.lift (.err .SubmittedEventMissing)
  | some processed => return processed

/-! ## The engine -/

/-- The deck sources, the clocks and the preferences are left out: what they do here, they do
through the arguments of the functions. -/
structure EngineRuntime where
  state : SerializedRuntime
  planning_worker : PlanningWorker
  output_worker : OutputWorker
  library_worker : LibraryWorker
  operation_sequence : UInt64

def execution_context_is_current (state : RuntimeState) (request : OutputExecutionRequest) : Bool :=
  state.operation = .Live && state.leader_deck = some request.deck_id &&
    state.decks[request.deck_id]?.any (fun deck => deck.track_load_id = request.track_load_id) &&
    state.active_plan.any fun plan =>
      plan.id = request.plan_id && plan.revision = request.plan_revision &&
        plan.track_load_id = request.track_load_id &&
        plan.cues[request.phrase_index.toNat]?.any fun cue =>
          cue.id = request.cue_id && cue.action = request.action

namespace OutputWorker

/-- `Effect::EnsureOutputClosed`. -/
def ensure_output_closed {ε : Type} : Method ε Unit := do
  release_active_static_look
  try_cancel_all
  on_executor (·.cancel_pending)

/-- Hardware output fails closed: an AutoLoop goes out only through a source that is ready. -/
def execute_ready_autoloop (request : OutputExecutionRequest) (target : Option (UInt8 × UInt8)) :
    Method EngineError Unit :=
  match target with
  | none => pure ()
  | some (bank_number, autoloop_number) => do
    let _ ← Call.is_ok ensure_lighting_midi
    if (← midi RealtimeMidiController.status).source.state = .Ready then
      execute_autoloop request bank_number autoloop_number
    else pure ()

/-- The part of `Effect::ExecuteCue` for a cue that may go out. The provider of the dry run, which
only records the request, never fails. -/
def execute_cue (request : OutputExecutionRequest) : Method EngineError Unit := do
  let target ← Call.lift (Outcome.lift id (automatic_midi_target request.action))
  execute_ready_autoloop request target
  execute_static_look_transition request

end OutputWorker

namespace EngineRuntime

abbrev Method (ε α : Type) := Call EngineRuntime ε α

variable {ε α : Type}

def runtime (call : Call SerializedRuntime ε α) : Method ε α :=
  Call.on state (fun self state => { self with state }) call

def output (call : Call OutputWorker ε α) : Method ε α :=
  Call.on output_worker (fun self output_worker => { self with output_worker }) call

def planning (f : PlanningWorker → PlanningWorker) : Method ε Unit :=
  Call.modify fun self => { self with planning_worker := f self.planning_worker }

/-! ## Effects -/

def skipped (request : OutputExecutionRequest) (is_current : Bool) : OutputEffectResult where
  request := request
  actual_at := request.scheduled_at
  status := .Skipped
  reason := if is_current then .InitialLaunchDeferred else .StaleExecutionContext

def perform (effect : Effect) : Method EngineError (EffectResult × MonotonicTime) :=
  match effect with
  | .EnsureOutputClosed _ => do
    output OutputWorker.ensure_output_closed
    return (.OutputGateClosed, ⟨0⟩)
  | .ExecuteCue request => do
    let state := (← Call.get).state.state
    let is_current := execution_context_is_current state request
    output (Call.modify (OutputWorker.update_initial_launch state))
    let worker := (← Call.get).output_worker
    if is_current && worker.initial_launch_allows
        (.from_request request worker.autoloop_executor.execution_epoch) then
      output (OutputWorker.execute_cue request)
      return (.OutputEffectRecorded
        ⟨request, request.scheduled_at, .Simulated, .PhraseBoundary⟩, request.scheduled_at)
    else return (.OutputEffectRecorded (skipped request is_current), request.scheduled_at)

/-- The result of an effect goes back to the reducer. Whatever effects that has are dropped. -/
def report (result : EffectResult) (completed_at : MonotonicTime) : Method EngineError Unit := do
  let sequence ← Call.lift (.ok_or (checked_add (← Call.get).output_worker.effect_sequence 1)
    .OutputEffectSequenceOverflow)
  output (Call.modify fun worker => { worker with effect_sequence := sequence })
  let _ ← runtime (submit_and_process (.EffectResult
    { effect_id := ⟨sequence⟩
      worker_id := ⟨2⟩
      sequence := ⟨sequence⟩
      completed_at
      result }))

def process_effects (effects : List Effect) : Method EngineError Unit :=
  Call.for_each (fun effect => do
    let (result, completed_at) ← perform effect
    report result completed_at) effects

def process_domain_event (event : DomainEvent) : Method EngineError Unit := do
  let processed ← runtime (submit_and_process event)
  process_effects processed.effects

end EngineRuntime

/-! ## What an event of a source is -/

/-- The load whose reservation ends with the event. -/
def replaced_reservation (state : RuntimeState) : DomainEvent → Option TrackLoadId
  | .Observation envelope =>
    match envelope.observation with
    | .TrackLoaded deck_id _ track_load_id =>
      (state.decks[deck_id]?.map (·.track_load_id)).filter (· ≠ track_load_id)
    | .TrackUnloaded _ track_load_id => some track_load_id
    | _ => none
  | _ => none

def transport_epoch_cause (state : RuntimeState) : DomainEvent → Option TransportEpochCause
  | .Observation envelope =>
    match envelope.observation with
    | .PlaybackPositionSeeked deck_id _ _ =>
      if state.leader_deck = some deck_id then some .PositionLanding else none
    | .PlaybackStateChanged deck_id _ true =>
      if state.leader_deck = some deck_id ∧ state.decks[deck_id]?.any (!·.playing) then
        some .PlaybackStarted
      else none
    | .LeaderChanged deck_id _ =>
      if state.leader_deck ≠ some deck_id then some .MasterHandoff else none
    | .TrackLoaded deck_id _ track_load_id =>
      if state.leader_deck = some deck_id ∧
          state.decks[deck_id]?.any (·.track_load_id ≠ track_load_id) then some .TrackLoad
      else none
    | _ => none
  | _ => none

def stops_live_transport (state : RuntimeState) : DomainEvent → Bool
  | .Observation envelope =>
    match envelope.observation with
    | .PlaybackStateChanged deck_id _ false => state.leader_deck = some deck_id
    | _ => false
  | _ => false

def exact_live_beat : DomainEvent → Option (DeckId × UInt32)
  | .Observation envelope =>
    match envelope.observation with
    | .PlaybackPosition deck_id _ beat => some (deck_id, beat)
    | _ => none
  | _ => none

/-- The phrase of the leader changes while it plays live. The leader is the one that the source
names. -/
def activates_pending_timing (state : RuntimeState) (leader_deck_id : Option DeckId) :
    DomainEvent → Bool
  | .Observation envelope =>
    match envelope.observation with
    | .PhraseChanged deck_id _ _ =>
      some deck_id = leader_deck_id && state.operation = .Live &&
        state.decks[deck_id]?.any (·.playing)
    | _ => false
  | _ => false

/-- The load that is to be planned. -/
def planning_input (worker : PlanningWorker) : DomainEvent → Option PlanningInput
  | .Observation envelope =>
    match envelope.observation with
    | .TrackLoaded deck_id metadata track_load_id
    | .TrackMetadataHydrated deck_id metadata track_load_id =>
      if ¬ metadata.phrases.isEmpty ∨ (worker.library_context track_load_id).isSome then
        some ⟨deck_id, track_load_id, planner_track metadata⟩
      else none
    | _ => none
  | _ => none

namespace PlanningWorker

variable (self : PlanningWorker) (track_load_id : TrackLoadId)

/-- What is kept for a load that is gone or was replaced. -/
def release_load : PlanningWorker :=
  { self with
    variation_history := self.variation_history.release (reservation_id track_load_id)
    compiled_light_plans := self.compiled_light_plans.erase track_load_id
    reserved_theme_ids := self.reserved_theme_ids.erase track_load_id }

/-- The reservation of the load that plays becomes history. -/
def commit_load : PlanningWorker :=
  let worker :=
    { self with variation_history := self.variation_history.commit (reservation_id track_load_id) }
  match self.reserved_theme_ids[track_load_id]? with
  | none => worker
  | some theme_id =>
    let recent_theme_ids := self.recent_theme_ids ++ [theme_id]
    { worker with
      reserved_theme_ids := self.reserved_theme_ids.erase track_load_id
      recent_theme_ids :=
        if recent_theme_ids.length > 32 then recent_theme_ids.tail else recent_theme_ids }

/-- The themes of the last tracks and of the other loads. -/
def unavailable_themes : List ThemeId :=
  self.recent_theme_ids.reverse.take self.light_policy.theme_cooldown_tracks.toNat ++
    (self.reserved_theme_ids.toList.filter (·.1 ≠ track_load_id)).map Prod.snd

/-- The plan of the load, without its AutoLoops. There is none when no theme can be shown. -/
def generate (input : PlanningInput) : Outcome EngineError (Option LightingPlan) := do
  let context := ThemeSelectionContext.new (self.unavailable_themes input.track_load_id)
  match self.library_context input.track_load_id with
  | none =>
    let plan ← (self.planner.generate_with_context input context).map_err .Planner
    return some plan
  | some library_context =>
    let planner ← Outcome.lift id (planner_for_executable_themes library_context.catalog_revision
      (library_context.eligible_best_covered_themes self.light_policy) self.light_policy)
    match planner with
    | none => return none
    | some planner =>
      let plan ← (planner.generate_with_context input context).map_err .Planner
      return some plan

/-- No theme can be shown: what was kept of a former plan of the load goes. -/
def forget_plan : PlanningWorker :=
  { self with
    compiled_light_plans := self.compiled_light_plans.erase track_load_id
    reserved_theme_ids := self.reserved_theme_ids.erase track_load_id }

def reserve_theme (plan : LightingPlan) : PlanningWorker :=
  match plan.theme_decision with
  | none => self
  | some decision =>
    { self with
      reserved_theme_ids := self.reserved_theme_ids.insert plan.track_load_id decision.theme_id }

end PlanningWorker

namespace EngineRuntime

/-! ## Events of a source -/

/-- Before the reducer: the epoch of a new transport, or the end of what is pending. -/
def meet_transport (state : RuntimeState) (event : DomainEvent) : Method EngineError Unit :=
  match transport_epoch_cause state event with
  | some cause => output (OutputWorker.begin_autoloop_execution_epoch cause)
  | none =>
    if stops_live_transport state event then
      output do
        OutputWorker.invalidate_autoloop_deadline
        Call.modify fun worker => { worker with reassert_current_on_next_cue := false }
    else pure ()

def release_replaced (replaced : Option TrackLoadId) : Method EngineError Unit :=
  match replaced with
  | none => pure ()
  | some track_load_id => do
    planning (·.release_load track_load_id)
    output (Call.modify (·.remove_static_look_plan track_load_id))

def commit_variation (leader_deck_id : Option DeckId) : Method EngineError Unit := do
  let state := (← Call.get).state.state
  match leader_deck_id.bind fun deck_id => state.decks[deck_id]?.map (·.track_load_id) with
  | none => pure ()
  | some track_load_id => planning (·.commit_load track_load_id)

def observe_beat (event : DomainEvent) : Method EngineError Unit := do
  match exact_live_beat event with
  | none => pure ()
  | some (deck_id, beat) =>
    let state := (← Call.get).state.state
    output (OutputWorker.observe_exact_live_beat state deck_id beat)

/-- The plan of the planning worker goes to the reducer. -/
def publish_plan (observed_at : MonotonicTime) (plan : LightingPlan) : Method EngineError Unit := do
  let worker := (← Call.get).planning_worker
  output (Call.modify (·.synchronize_static_look_plan plan.track_load_id
    worker.compiled_light_plans[plan.track_load_id]?))
  planning (·.reserve_theme plan)
  process_domain_event (.EffectResult
    { effect_id := ⟨worker.effect_sequence⟩
      worker_id := ⟨1⟩
      sequence := ⟨worker.effect_sequence⟩
      completed_at := observed_at
      result := .PlanGenerated plan })

def plan_load (stack : Nat) (observed_at : MonotonicTime) (input : PlanningInput) :
    Method EngineError Unit := do
  let effect_sequence ← Call.lift (.ok_or
    (checked_add (← Call.get).planning_worker.effect_sequence 1) .PlanningEffectSequenceOverflow)
  planning fun worker => { worker with effect_sequence }
  let worker := (← Call.get).planning_worker
  match ← Call.lift (worker.generate input) with
  | none => do
    planning (·.forget_plan input.track_load_id)
    output (Call.modify (·.remove_static_look_plan input.track_load_id))
  | some generated => do
    let (worker, plan) ← Call.lift (worker.materialize_library_plan stack generated)
    planning fun _ => worker
    publish_plan observed_at plan

/-- The first half of `process_source_event`: the output worker meets the transport as it was, and
the reducer decides. -/
def reduce_source_event (state : RuntimeState) (activates : Bool) (event : DomainEvent) :
    Method EngineError Unit := do
  meet_transport state event
  Call.when activates (output (Call.modify (·.activate_pending_timing_offset)))
  process_domain_event event

/-- The second half: the reservations, the next AutoLoop and the plan. -/
def follow_source_event (stack : Nat) (self : EngineRuntime) (activates : Bool)
    (event : DomainEvent) (leader_deck_id : Option DeckId) : Method EngineError Unit := do
  release_replaced (replaced_reservation self.state.state event)
  Call.when activates (commit_variation leader_deck_id)
  observe_beat event
  match planning_input self.planning_worker event with
  | none => pure ()
  | some input => plan_load stack event.monotonic_time input

def process_source_event (stack : Nat) (event : DomainEvent) (leader_deck_id : Option DeckId) :
    Method EngineError Unit := do
  let self ← Call.get
  let activates := activates_pending_timing self.state.state leader_deck_id event
  reduce_source_event self.state.state activates event
  follow_source_event stack self activates event leader_deck_id

end EngineRuntime

end lumi_engine
