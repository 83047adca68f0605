-- The commands of the operator that reach a plan or the output, and the runs
-- of the engine: one step after the other on the engine's thread, with the
-- realtime lane beside it.
import Lumi.Engine.Session

open rust lumi_domain lumi_library lumi_light_plans lumi_midi_output lumi_planner

namespace lumi_engine

/-! ## Errors -/

/-- The errors of the commands that are modelled here. -/
inductive CommandApplicationError where
  | LaunchPolicy (error : String)
  | RevisionConflict (expected actual : PlanRevision)
  | StateRevisionConflict (expected actual : StateRevision)
  | InvalidOperationTransition (operation : OperationState) (command : OperationCommand)
  | OperationSequenceOverflow
  | TrackLoadMismatch
  | PlanUnavailable
  | StartedLivePhraseNotEditable
  | InvalidAutoloopSelection
  | Mutation (error : PlanMutationError)
  | Library (error : LibraryWorkerError)
  | Midi (error : String)
  | Engine (error : EngineError)
deriving DecidableEq

/-! ## Edits of a plan -/

/-- The plan that a command is about, as the client saw it. -/
structure PlanCommandContext where
  plan_id : PlanId
  track_load_id : TrackLoadId
  expected_revision : PlanRevision
deriving DecidableEq

inductive PlanCommand where
  | SelectTheme (theme_id : ThemeId)
  | SelectThemeFromPhrase (phrase_index : UInt16) (theme_id : ThemeId)
  | SelectScene (phrase_index : UInt16) (scene_id : SceneId)
  | ChangePhraseRole (phrase_index : UInt16) (role_id : PhraseRoleId)
  | SetCueLock (phrase_index : UInt16) (locked : Bool)
  | RegeneratePlan
deriving DecidableEq

/-- What a command makes of the plan before its AutoLoops are put in. -/
structure PlanMutation where
  revised : LightingPlan
  scope : PlanMaterializationScope
  revise_materialized_cues : Bool
  force_plan_revision : Bool
  replacement_context : Option LibraryPlanContext
  pending_phrase_edit : Option LibraryWorker.PreparedLivePhraseEdit

abbrev CommandResult (α : Type) := Outcome CommandApplicationError α

/-- The cue of the new plan that takes the place of one without an AutoLoop. -/
def restored_cue (generated : LightingPlan) (first : UInt16) (cue : LightingCue) :
    Outcome PlanMutationError LightingCue :=
  if cue.phrase_index < first ∨ cue.reason ≠ .MissingAutoloopMapping then .ok cue
  else .ok_or (generated.cues[cue.phrase_index.toNat]?.filter fun candidate =>
    candidate.start_beat = cue.start_beat ∧ candidate.end_beat = cue.end_beat ∧
      (action_theme_id candidate.action).isSome) .FallbackPlanNotEditable

/-- The plan with the looks of its phrases back where only the mapping was missing. -/
def theme_edit_base (worker : PlanningWorker) (current : LightingPlan) (input : PlanningInput)
    (first : UInt16) : Outcome PlanMutationError LightingPlan :=
  if (worker.library_context current.track_load_id).isNone ∨ ¬ current.cues.any (fun cue =>
      first ≤ cue.phrase_index ∧ cue.reason = .MissingAutoloopMapping) then .ok current
  else do
    let generated ← (worker.planner.generate input).map_err .Planner
    let cues ← Outcome.collect (restored_cue generated first) current.cues
    .lift .InvalidPlan (current.with_materialized_cues cues)

def reject_started_live_phrase (state : RuntimeState) (deck_id : DeckId) (phrase_index : UInt16) :
    CommandResult Unit :=
  if state.leader_deck = some deck_id ∧
      (state.decks[deck_id]?.bind (·.phrase_index)).any (phrase_index ≤ ·) then
    .err .StartedLivePhraseNotEditable
  else .ok ()

namespace EngineRuntime

variable (self : EngineRuntime)

/-- The plan that the command is about, with the input that planned it. -/
def current_plan (context : PlanCommandContext) : CommandResult (LightingPlan × PlanningInput) := do
  let state := self.state.state
  let (deck_id, deck) ← Outcome.ok_or
    (state.decks.toList.find? (·.2.track_load_id = context.track_load_id)) .TrackLoadMismatch
  let current ← Outcome.ok_or state.plans[deck_id]? .PlanUnavailable
  if current.id ≠ context.plan_id ∨ current.track_load_id ≠ context.track_load_id then
    .err .TrackLoadMismatch
  else if current.revision ≠ context.expected_revision then
    .err (.RevisionConflict context.expected_revision current.revision)
  else .ok (current, ⟨deck_id, deck.track_load_id, planner_track deck.metadata⟩)

/-- A mutation by the planner alone. -/
def planner_mutation (revised : LightingPlan) (scope : PlanMaterializationScope) : PlanMutation :=
  ⟨revised, scope, false, false, none, none⟩

def select_scene (current : LightingPlan) (phrase_index : UInt16) (scene_id : SceneId) :
    CommandResult PlanMutation :=
  match self.planning_worker.library_context current.track_load_id with
  | none => do
    let revised ← (self.planning_worker.planner.select_scene current phrase_index scene_id).map_err
      .Mutation
    .ok (planner_mutation revised (.Phrase phrase_index))
  | some context => do
    let theme_id ← Outcome.ok_or (current.cues[phrase_index.toNat]?.bind fun cue =>
      action_theme_id cue.action) .PlanUnavailable
    if ¬ scene_id.value.toNat < 2 ^ 16 then .err .InvalidAutoloopSelection
    else
      let candidate ← Outcome.lift (fun error => .Library (.AutoloopCatalog error))
        (context.set_autoloop_override theme_id phrase_index scene_id.value.toUInt16)
      .ok ⟨current, .Phrase phrase_index, true, false, some candidate, none⟩

variable (answers : DatabaseAnswers)

def change_phrase_role (current : LightingPlan) (phrase_index : UInt16) (role_id : PhraseRoleId) :
    CommandResult PlanMutation := do
  let previous ← Outcome.ok_or (self.planning_worker.library_context current.track_load_id)
    .PlanUnavailable
  let (prepared, candidate) ← (self.library_worker.prepare_live_phrase_role answers
    current.track_id.value previous.timeline_revision phrase_index role_id).map_err .Library
  .ok ⟨current, .Phrase phrase_index, true, true,
    some (candidate.inherit_autoloop_overrides previous phrase_index), some prepared⟩

/-- The match over the command in `apply_command`. -/
def mutation (current : LightingPlan) (input : PlanningInput) :
    PlanCommand → CommandResult PlanMutation
  | .SelectTheme theme_id => do
    let base ← (theme_edit_base self.planning_worker current input 0).map_err .Mutation
    let revised ← (self.planning_worker.planner.select_theme base theme_id).map_err .Mutation
    .ok (planner_mutation revised .All)
  | .SelectThemeFromPhrase phrase_index theme_id => do
    reject_started_live_phrase self.state.state current.deck_id phrase_index
    let base ← (theme_edit_base self.planning_worker current input phrase_index).map_err .Mutation
    let revised ← (self.planning_worker.planner.select_theme_from_phrase base phrase_index
      theme_id).map_err .Mutation
    .ok (planner_mutation revised (.FromPhrase phrase_index))
  | .SelectScene phrase_index scene_id => do
    reject_started_live_phrase self.state.state current.deck_id phrase_index
    self.select_scene current phrase_index scene_id
  | .ChangePhraseRole phrase_index role_id => do
    reject_started_live_phrase self.state.state current.deck_id phrase_index
    self.change_phrase_role answers current phrase_index role_id
  | .SetCueLock phrase_index locked => do
    reject_started_live_phrase self.state.state current.deck_id phrase_index
    let revised ← (self.planning_worker.planner.set_cue_lock current phrase_index locked).map_err
      .Mutation
    .ok (planner_mutation revised .None)
  | .RegeneratePlan => do
    let revised ← (self.planning_worker.planner.regenerate current input).map_err .Mutation
    .ok (planner_mutation revised .All)

/-- The plan that is published: the materialized one, or the current one with its cues. -/
def revise (current : LightingPlan) (mutation : PlanMutation) (materialized : LightingPlan) :
    CommandResult LightingPlan :=
  if mutation.revise_materialized_cues then
    if ¬ mutation.force_plan_revision ∧ materialized.cues = current.cues then
      .err (.Mutation .NoChange)
    else .lift (fun error => .Mutation (.InvalidPlan error)) (current.revised materialized.cues)
  else .ok materialized

/-- The result by which a revised plan comes to the reducer. -/
def revision_result (effect_sequence : UInt64) (plan : LightingPlan) : EffectResultEnvelope where
  effect_id := ⟨effect_sequence⟩
  worker_id := ⟨1⟩
  sequence := ⟨effect_sequence⟩
  completed_at := ⟨0⟩
  result := .PlanGenerated plan

/-- The reducer accepts the plan, on a copy of the runtime. -/
def prepare_revised_state (plan : LightingPlan) :
    Outcome EngineError (SerializedRuntime × UInt64) := do
  let effect_sequence ← Outcome.ok_or (checked_add self.planning_worker.effect_sequence 1)
    .PlanningEffectSequenceOverflow
  let candidate := (submit_and_process (.EffectResult (revision_result effect_sequence plan))).run
    self.state
  let processed ← candidate.2
  if processed.decision ≠ .PlanAccepted then .err .RevisedPlanNotAccepted
  else .ok (candidate.1, effect_sequence)

/-- What `apply_command` has in its hands before the first change. -/
structure PreparedEdit where
  mutation : PlanMutation
  materialized : MaterializedLibraryPlan
  revised : LightingPlan
  candidate_state : SerializedRuntime
  effect_sequence : UInt64

def prepare_edit (stack : Nat) (answers : DatabaseAnswers) (context : PlanCommandContext)
    (command : PlanCommand) : CommandResult PreparedEdit := do
  let (current, input) ← self.current_plan context
  let mutation ← self.mutation answers current input command
  let materialized ← (self.planning_worker.prepare_library_plan stack mutation.revised
    mutation.scope (mutation.replacement_context.or
      (self.planning_worker.library_context current.track_load_id))).map_err .Engine
  let revised ← revise current mutation materialized.plan
  let (candidate_state, effect_sequence) ← (self.prepare_revised_state revised).map_err .Engine
  .ok { mutation, materialized, revised, candidate_state, effect_sequence }

/-- The durable write of the edit, when it has one. -/
def commit_phrase_edit (edit : PlanMutation) : CommandResult LibraryWorker :=
  match edit.pending_phrase_edit with
  | none => .ok self.library_worker
  | some prepared =>
    (self.library_worker.commit_live_phrase_role answers prepared).map_err .Library

def publish_context (worker : PlanningWorker) (track_load_id : TrackLoadId)
    (context : Option LibraryPlanContext) : PlanningWorker :=
  match context with
  | none => worker
  | some context => worker.register_library_context track_load_id context

/-- The changes that nothing can stop any more. -/
def publish_edit (library_worker : LibraryWorker) (edit : PreparedEdit) : EngineRuntime :=
  let track_load_id := edit.revised.track_load_id
  let planning_worker := (publish_context
    { self.planning_worker with effect_sequence := edit.effect_sequence } track_load_id
    edit.mutation.replacement_context).commit_compiled_plan track_load_id edit.materialized.compiled
  { self with
    state := edit.candidate_state
    planning_worker
    output_worker := self.output_worker.synchronize_static_look_plan track_load_id
      planning_worker.compiled_light_plans[track_load_id]?
    library_worker }

end EngineRuntime

open EngineRuntime

/-- `apply_command` for the six edits of a plan. -/
def apply_command (stack : Nat) (answers : DatabaseAnswers) (context : PlanCommandContext)
    (command : PlanCommand) : EngineRuntime.Method CommandApplicationError Unit := do
  let self ← Call.get
  let edit ← Call.lift (self.prepare_edit stack answers context command)
  let library_worker ← Call.lift (self.commit_phrase_edit answers edit.mutation)
  Call.modify fun self => self.publish_edit library_worker edit

/-! ## Operation -/

/-- The transitions that the engine lets through to the reducer. -/
def valid_transition : OperationState → OperationCommand → Bool
  | .Off, .Arm | .Armed, .Start | .Paused, .Start | .Live, .Pause | _, .Off => true
  | _, _ => false

def meet_operation (command : OperationCommand) :
    EngineRuntime.Method CommandApplicationError Unit :=
  match command with
  | .Arm | .Off =>
    output (Call.modify fun worker => { worker with launch_gate := LaunchGate.arm })
  | .Pause =>
    output (Call.modify fun worker =>
      { worker with launch_gate := worker.launch_gate.cancel_pending })
  | .Start =>
    Call.map_err .Engine (output (OutputWorker.begin_autoloop_execution_epoch .OperationStart))

def apply_operation_command (issued_at : MonotonicTime) (expected_revision : StateRevision)
    (command : OperationCommand) : EngineRuntime.Method CommandApplicationError Unit := do
  let self ← Call.get
  let state := self.state.state
  if valid_transition state.operation command then do
    let operation_sequence ← Call.lift (.ok_or (checked_add self.operation_sequence 1)
      .OperationSequenceOverflow)
    Call.modify fun self => { self with operation_sequence }
    meet_operation command
    Call.map_err .Engine (process_domain_event (.UserCommand
      { client_id := ⟨1⟩
        sequence := ⟨operation_sequence⟩
        expected_state_revision := state.revision
        issued_at
        command }))
  else if state.revision ≠ expected_revision then
    Call.lift (.err (.StateRevisionConflict expected_revision state.revision))
  else Call.lift (.err (.InvalidOperationTransition state.operation command))

def set_launch_policy (policy expected : LaunchPolicy) :
    EngineRuntime.Method CommandApplicationError Unit := do
  let self ← Call.get
  if self.state.state.operation ≠ .Off ∧ self.state.state.operation ≠ .Armed then
    Call.lift (.err (.LaunchPolicy
      "Return to Off or Arm before changing the initial launch policy."))
  else if self.output_worker.launch_policy ≠ expected then
    Call.lift (.err (.LaunchPolicy "The launch policy changed; refresh before retrying."))
  else output (Call.modify fun worker =>
    { worker with launch_policy := policy, launch_gate := LaunchGate.arm })

/-- The leader is the one that the source names. -/
def set_output_timing_offset (millis : Int16) (leader_deck_id : Option DeckId) :
    EngineRuntime.Method CommandApplicationError Unit := do
  let state := (← Call.get).state.state
  let defer_until_phrase := state.operation = .Live &&
    (leader_deck_id.bind fun deck_id => state.decks[deck_id]?).any (·.playing)
  output (Call.modify (·.request_timing_offset_millis millis defer_until_phrase))

/-- A policy reaches the planning worker when it passes its check. -/
def replace_light_planning_policy (policy : LightPlanningPolicy) :
    EngineRuntime.Method CommandApplicationError Unit :=
  match policy.validate with
  | .ok () => planning (·.synchronize_light_policy policy)
  | .error error => Call.lift (.err (.Library (.Persistence (.CorruptData error))))

/-! ## Runs -/

/-- What the engine's thread does in one go. The source events and the commands are the ones that
reach a plan or the output. -/
inductive EngineStep where
  | SourceEvent (event : ObservationEnvelope) (leader_deck_id : Option DeckId)
  | Edit (answers : DatabaseAnswers) (context : PlanCommandContext) (command : PlanCommand)
  | Operate (issued_at : MonotonicTime) (expected_revision : StateRevision)
      (command : OperationCommand)
  | ServicePendingAutoloop
  /-- A position of the leader that no grid or no library entry stands behind, or a seek. -/
  | InvalidateAutoloopDeadline
  | EnsureLightingMidi
  | PublishMidiSource
  | StopMidiSource
  | TriggerMidiStaticLook (static_look_number : UInt8)
  | SetLaunchPolicy (policy expected : LaunchPolicy)
  | SetOutputTimingOffset (millis : Int16) (leader_deck_id : Option DeckId)
  | RegisterLibraryContext (track_load_id : TrackLoadId) (context : LibraryPlanContext)
  | ReplaceLightPlanningPolicy (policy : LightPlanningPolicy)
  | MutateAutoloopCatalog (catalog : AutoloopCatalog)

namespace EngineRuntime

/-- A step that answers with an error has failed for its client; the engine goes on. -/
def perform_step (stack : Nat) (step : EngineStep) : Method CommandApplicationError Unit :=
  match step with
  | .SourceEvent event leader_deck_id =>
    Call.map_err .Engine (process_source_event stack (.Observation event) leader_deck_id)
  | .Edit answers context command => apply_command stack answers context command
  | .Operate issued_at expected_revision command =>
    apply_operation_command issued_at expected_revision command
  | .ServicePendingAutoloop => output OutputWorker.service_pending_autoloop
  | .InvalidateAutoloopDeadline => output OutputWorker.invalidate_autoloop_deadline
  | .EnsureLightingMidi => Call.map_err .Engine (output OutputWorker.ensure_lighting_midi)
  | .PublishMidiSource => Call.map_err .Engine (output OutputWorker.publish_midi)
  | .StopMidiSource => output OutputWorker.stop_midi
  | .TriggerMidiStaticLook static_look_number =>
    Call.map_err .Engine (output (OutputWorker.toggle_static_look_manually static_look_number))
  | .SetLaunchPolicy policy expected => set_launch_policy policy expected
  | .SetOutputTimingOffset millis leader_deck_id => set_output_timing_offset millis leader_deck_id
  | .RegisterLibraryContext track_load_id context =>
    planning (·.register_library_context track_load_id context)
  | .ReplaceLightPlanningPolicy policy => replace_light_planning_policy policy
  | .MutateAutoloopCatalog catalog => planning (·.synchronize_themes catalog)

/-- The engine before its first step. -/
def start (catalog : AutoloopCatalog) (library_worker : LibraryWorker) : EngineRuntime where
  state := ((submit_and_process (.RuntimeStarted ⟨0⟩)).run
    ⟨RuntimeState.default, ⟨EVENT_QUEUE_CAPACITY, [], none⟩⟩).1
  planning_worker := .new catalog
  output_worker := .new
  library_worker := library_worker
  operation_sequence := 0

/-- The lane is served as the schedule says while the engine's next step runs. -/
def with_schedule (self : EngineRuntime) (schedule : List (List Lane.Tick)) : EngineRuntime :=
  { self with
    output_worker := { self.output_worker with
      midi_output := { self.output_worker.midi_output with schedule } } }

/-- One thing that happens: a step of the engine's thread, or one of the lane's. -/
inductive Happening where
  | Engine (step : EngineStep) (schedule : List (List Lane.Tick))
  | Lane (tick : Lane.Tick)

def lane (self : EngineRuntime) : Lane := self.output_worker.midi_output.lane

def tick_lane (self : EngineRuntime) (tick : Lane.Tick) : EngineRuntime :=
  { self with
    output_worker := { self.output_worker with
      midi_output := { self.output_worker.midi_output with lane := self.lane.tick tick } } }

def happen (stack : Nat) (self : EngineRuntime) : Happening → EngineRuntime
  | .Engine step schedule => ((perform_step stack step).run (self.with_schedule schedule)).1
  | .Lane tick => self.tick_lane tick

/-- The two threads as one machine. It refuses nothing: a step that fails stays done as far as it
got. -/
def engine (stack : Nat) (catalog : AutoloopCatalog) (library_worker : LibraryWorker) :
    replay.Machine EngineRuntime Happening Empty EngineRuntime where
  start := start catalog library_worker
  reduce self happening := .ok (self.happen stack happening)
  next := id

end EngineRuntime

end lumi_engine
