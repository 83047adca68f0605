-- The edits of a plan: a command prepares everything on the side, and then it
-- publishes the plan, its AutoLoops and its timeline together, or it leaves
-- the engine as it was.
import Lumi.Engine.Contexts
import Lumi.Engine.Runs

open rust replay lumi_domain lumi_library lumi_light_plans lumi_planner
open Outcome (bind_eq_ok guard_eq_ok lift_eq_ok map_err_eq_ok ok_or_eq_ok)

namespace lumi_engine

/-! ## What an edit makes of the plan -/

namespace EngineRuntime

variable {r : EngineRuntime} {stack : Nat} {answers : DatabaseAnswers}
  {context : PlanCommandContext} {command : PlanCommand} {current plan : LightingPlan}
  {input : PlanningInput} {m : PlanMutation} {edit : PreparedEdit} {worker : PlanningWorker}
  {library : LibraryWorker} {phrase_index : UInt16}

/-- The plan that a command is about is the plan of a deck, as the client saw it. -/
theorem current_plan_ok (h : r.current_plan context = .ok (current, input)) :
    ∃ deck, r.state.state.decks[input.deck_id]? = some deck ∧
      r.state.state.plans[input.deck_id]? = some current ∧ current.id = context.plan_id ∧
      current.track_load_id = context.track_load_id ∧
      current.revision = context.expected_revision ∧
      input.track_load_id = deck.track_load_id ∧ input.track = planner_track deck.metadata := by
  simp only [current_plan, bind_eq_ok, ok_or_eq_ok, guard_eq_ok, not_or, not_not] at h
  obtain ⟨⟨deck_id, deck⟩, hfind, plan, hplan, ⟨hid, hload⟩, hrevision, h⟩ := h
  cases h
  have hdeck := List.mem_of_find?_eq_some hfind
  rw [Std.ExtTreeMap.mem_toList_iff_getElem?_eq_some] at hdeck
  exact ⟨deck, hdeck, hplan, hid, hload, hrevision, rfl, rfl⟩

theorem theme_edit_base_ok {first : UInt16} {base : LightingPlan}
    (h : theme_edit_base worker current input first = .ok base) : current.RecuedTo base := by
  unfold theme_edit_base at h
  split at h
  · cases h
    exact .refl _
  simp only [bind_eq_ok, lift_eq_ok] at h
  obtain ⟨generated, _, cues, _, h⟩ := h
  exact (LightingPlan.with_materialized_cues_ok h).1

/-- What a mutation can be: a revision by the planner, under the context that there is, or the
plan as it is, under a context in the place of the one that there is. -/
inductive Mutates (r : EngineRuntime) (current : LightingPlan) : PlanMutation → Prop
  | planner {revised : LightingPlan} (scope : PlanMaterializationScope)
      (hrevised : current.RevisedTo revised) :
      Mutates r current (planner_mutation revised scope)
  | context {previous : LibraryPlanContext} (candidate : LibraryPlanContext)
      (phrase_index : UInt16) (force : Bool)
      (pending : Option LibraryWorker.PreparedLivePhraseEdit)
      (hprevious : r.planning_worker.library_context current.track_load_id = some previous) :
      Mutates r current ⟨current, .Phrase phrase_index, true, force, some candidate, pending⟩

/-- Every edit of the planner makes the next revision of the plan. -/
theorem planner_revised {plan' : LightingPlan} (planner : DeterministicPlanner)
    (edit : PlanEdit) (h : planner.apply plan edit = .ok plan') : plan.RevisedTo plan' :=
  (apply_ok h).revised

theorem select_scene_mutates {scene_id : SceneId}
    (h : r.select_scene current phrase_index scene_id = .ok m) :
    Mutates r current m ∧ m.pending_phrase_edit = none := by
  unfold select_scene at h
  split at h
  · simp only [bind_eq_ok, map_err_eq_ok] at h
    obtain ⟨revised, hrevised, h⟩ := h
    cases h
    exact ⟨.planner _ (planner_revised _ (.SelectScene phrase_index scene_id) hrevised), rfl⟩
  · rename_i previous hprevious
    simp only [bind_eq_ok, guard_eq_ok] at h
    obtain ⟨theme_id, _, _, candidate, _, h⟩ := h
    cases h
    exact ⟨.context _ _ _ _ hprevious, rfl⟩

theorem change_phrase_role_mutates {role_id : PhraseRoleId}
    (h : r.change_phrase_role answers current phrase_index role_id = .ok m) :
    Mutates r current m ∧ ∃ head edited prepared,
      r.library_worker.timeline_head current.track_id = some head ∧
      head.edit (.ChangeRole phrase_index role_id) = .ok edited ∧
      m.pending_phrase_edit = some prepared ∧ prepared.timeline = edited := by
  simp only [change_phrase_role, bind_eq_ok, ok_or_eq_ok, map_err_eq_ok] at h
  obtain ⟨previous, hprevious, ⟨prepared, candidate⟩, hprepared, h⟩ := h
  cases h
  obtain ⟨head, hhead, hedited⟩ := LibraryWorker.prepare_live_phrase_role_ok hprepared
  exact ⟨.context _ _ _ _ hprevious, head, _, prepared, hhead, hedited, rfl, rfl⟩

/-- Every mutation is one of the two, and only the change of a role has something to write. -/
theorem mutation_mutates (h : r.mutation answers current input command = .ok m) :
    Mutates r current m ∧
      (m.pending_phrase_edit = none ∨ ∃ k role_id, command = .ChangePhraseRole k role_id) := by
  cases command with
  | SelectTheme theme_id =>
    simp only [mutation, bind_eq_ok, map_err_eq_ok] at h
    obtain ⟨base, hbase, revised, hrevised, h⟩ := h
    cases h
    refine ⟨.planner _ ((theme_edit_base_ok hbase).revised ?_), .inl rfl⟩
    exact planner_revised _ (.SelectTheme theme_id) hrevised
  | SelectThemeFromPhrase phrase_index theme_id =>
    simp only [mutation, bind_eq_ok, map_err_eq_ok] at h
    obtain ⟨_, _, base, hbase, revised, hrevised, h⟩ := h
    cases h
    refine ⟨.planner _ ((theme_edit_base_ok hbase).revised ?_), .inl rfl⟩
    exact planner_revised _ (.SelectThemeFromPhrase phrase_index theme_id) hrevised
  | SelectScene phrase_index scene_id =>
    obtain ⟨_, _, h⟩ := bind_eq_ok.mp h
    exact ⟨(select_scene_mutates h).1, .inl (select_scene_mutates h).2⟩
  | ChangePhraseRole phrase_index role_id =>
    obtain ⟨_, _, h⟩ := bind_eq_ok.mp h
    exact ⟨(change_phrase_role_mutates h).1, .inr ⟨_, _, rfl⟩⟩
  | SetCueLock phrase_index locked =>
    simp only [mutation, bind_eq_ok, map_err_eq_ok] at h
    obtain ⟨_, _, revised, hrevised, h⟩ := h
    cases h
    refine ⟨.planner _ ?_, .inl rfl⟩
    exact planner_revised r.planning_worker.planner (.SetCueLock phrase_index locked) hrevised
  | RegeneratePlan =>
    simp only [mutation, bind_eq_ok, map_err_eq_ok] at h
    obtain ⟨revised, hrevised, h⟩ := h
    cases h
    exact ⟨.planner _ (planner_revised _ (.Regenerate input) hrevised), .inl rfl⟩

theorem revise_ok {materialized revised : LightingPlan} (hm : Mutates r current m)
    (hmaterialized : m.revised.RecuedTo materialized)
    (h : revise current m materialized = .ok revised) :
    current.RevisedTo revised ∧ revised.cues = materialized.cues := by
  unfold revise at h
  cases hm with
  | planner scope hrevised =>
    cases h
    exact ⟨hrevised.recued hmaterialized, rfl⟩
  | context candidate phrase_index force pending hprevious =>
    simp only [↓reduceIte, guard_eq_ok, lift_eq_ok] at h
    obtain ⟨hrevised, hcues, _⟩ := LightingPlan.revised_with_theme_decision_ok h.2
    exact ⟨hrevised, hcues⟩

/-- The context under which the AutoLoops of an edit are put in. -/
def edit_context (r : EngineRuntime) (current : LightingPlan) (m : PlanMutation) :
    Option LibraryPlanContext :=
  m.replacement_context.or (r.planning_worker.library_context current.track_load_id)

theorem Mutates.context_isSome (h : Mutates r current m)
    (hcontext : (r.edit_context current m).isSome) :
    (r.planning_worker.library_context current.track_load_id).isSome := by
  unfold edit_context at hcontext
  cases h with
  | planner scope hrevised => exact hcontext
  | context candidate phrase_index force pending hprevious => rw [hprevious]; rfl

/-- A prepared edit is the next revision of the plan, with the cues of the pass. -/
theorem prepared_revised
    (hm : Mutates r current edit.mutation)
    (hmat : r.planning_worker.prepare_library_plan stack edit.mutation.revised edit.mutation.scope
      (r.edit_context current edit.mutation) = .ok edit.materialized)
    (hrevise : revise current edit.mutation edit.materialized.plan = .ok edit.revised) :
    current.RevisedTo edit.revised ∧ edit.revised.cues = edit.materialized.plan.cues := by
  refine revise_ok hm ?_ hrevise
  cases hcontext : r.edit_context current edit.mutation with
  | none =>
    rw [hcontext] at hmat
    cases hmaterialized : edit.materialized
    rw [hmaterialized] at hmat
    cases hmat
    exact .refl _
  | some context =>
    rw [hcontext] at hmat
    obtain ⟨_, _, hpass⟩ := PlanningWorker.prepare_library_plan_eq_ok.mp hmat
    exact hpass.recued

/-- The worker that a published edit leaves. -/
def edited_worker (r : EngineRuntime) (edit : PreparedEdit) : PlanningWorker :=
  (publish_context { r.planning_worker with effect_sequence := edit.effect_sequence }
    edit.revised.track_load_id edit.mutation.replacement_context).commit_compiled_plan
      edit.revised.track_load_id edit.materialized.compiled

/-- A load with a context keeps one through the edit. -/
theorem covered_publish_context (h : worker.Covered) (l : TrackLoadId)
    (replacement : Option LibraryPlanContext) :
    (publish_context worker l replacement).Covered ∧
      (l ∈ loads worker.library_contexts →
        l ∈ loads (publish_context worker l replacement).library_contexts) := by
  unfold publish_context
  cases replacement with
  | none => exact ⟨h, id⟩
  | some context => exact ⟨h.register l context, fun hl => h.mem_register hl context⟩

/-- What an edit compiles, it compiles for a load with a context. -/
theorem compiled_has_context (hm : Mutates r current edit.mutation)
    (hmat : r.planning_worker.prepare_library_plan stack edit.mutation.revised edit.mutation.scope
      (r.edit_context current edit.mutation) = .ok edit.materialized)
    (hcompiled : edit.materialized.compiled.isSome) :
    current.track_load_id ∈ loads r.planning_worker.library_contexts := by
  rw [PlanningWorker.mem_contexts]
  refine hm.context_isSome ?_
  cases hcontext : r.edit_context current edit.mutation with
  | none =>
    rw [hcontext] at hmat
    cases hmaterialized : edit.materialized
    rw [hmaterialized] at hmat hcompiled
    cases hmat
    cases hcompiled
  | some context => rfl

/-- After an edit the compiled plans are covered, and what the edit compiled is there. -/
theorem covered_edited (h : r.planning_worker.Covered)
    (hedit : r.prepare_edit stack answers context command = .ok edit) :
    (r.edited_worker edit).Covered ∧ ∀ compiled, edit.materialized.compiled = some compiled →
      (r.edited_worker edit).compiled_light_plans[edit.revised.track_load_id]? =
        some compiled := by
  obtain ⟨current, input, _, hmutation, hmat, hrevise, _⟩ := prepare_edit_ok.mp hedit
  have hm := (mutation_mutates hmutation).1
  obtain ⟨hrevised, _⟩ := prepared_revised hm hmat hrevise
  have hload := hrevised.track_load_id
  have hnumbered : ({ r.planning_worker with effect_sequence := edit.effect_sequence } :
      PlanningWorker).Covered := h.mono rfl subset_rfl
  obtain ⟨hcovered, hkeeps⟩ := covered_publish_context hnumbered edit.revised.track_load_id
    edit.mutation.replacement_context
  have hcontext : edit.materialized.compiled.isSome → edit.revised.track_load_id ∈
      loads (publish_context { r.planning_worker with effect_sequence := edit.effect_sequence }
        edit.revised.track_load_id edit.mutation.replacement_context).library_contexts := by
    intro hcompiled
    apply hkeeps
    rw [hload]
    exact compiled_has_context hm hmat hcompiled
  refine ⟨hcovered.commit hcontext, fun compiled hcompiled => ?_⟩
  unfold edited_worker
  rw [hcompiled] at hcontext ⊢
  exact hcovered.commit_get (hcontext rfl) compiled

/-! ## Covered plans along the runs -/

/-- The compiled plans of the planning worker are covered. -/
def PlansCovered (r : EngineRuntime) : Prop := r.planning_worker.Covered

theorem plansCovered_steady : Steady PlansCovered where
  output _ _ h := h
  numbered _ _ h := h
  submit _ _ h := h

theorem plansCovered_plans : Plans PlansCovered stack where
  sequenced _ _ h := h.mono rfl subset_rfl
  released _ l h := h.release_load l
  committed _ l h := h.commit_load l
  forgotten _ l h := h.forget_plan l
  reserved _ plan h := h.reserve_theme plan
  materialized _ _ _ _ h hmat _ _ := h.materialize hmat
  looks _ _ h := h
  result _ := plansCovered_steady.served.keeps_process_domain_event _

theorem plansCovered_apply_command (stack : Nat) (answers : DatabaseAnswers)
    (context : PlanCommandContext) (command : PlanCommand) :
    Call.Keeps PlansCovered (apply_command stack answers context command) := by
  intro r hr
  rcases apply_command_cases stack answers context command r with
    ⟨edit, library, hedit, _, hrun⟩ | ⟨x, _, hrun⟩ <;> rw [hrun]
  · exact (covered_edited hr hedit).1
  exact hr

theorem plansCovered_start (catalog : AutoloopCatalog) (library : LibraryWorker) :
    PlansCovered (start catalog library) := by
  refine ⟨?_, ?_⟩
  · exact Nat.zero_le _
  · intro l hl
    rw [mem_loads] at hl
    cases hl

/-- After every run the compiled plans are covered. -/
theorem plansCovered_reachable {catalog : AutoloopCatalog}
    (h : (engine stack catalog library).Reachable r) : PlansCovered r := by
  have hserved := plansCovered_steady.served
  refine hserved.reachable (plansCovered_start catalog library) ?_ h
  refine hserved.keeps_perform_step stack ?_ (plansCovered_apply_command stack)
    (fun r l context hr => hr.register l context)
    (fun r policy _ hr => hr.synchronize_light_policy policy)
    (fun r catalog hr => hr.synchronize_themes catalog)
  exact fun _ _ e _ => plansCovered_plans.keeps_follow (hserved.keeps_observe_beat e) _ _ _

/-! ## The law of the edits -/

/-- What becomes of the library with an edit: a change of a role appends the edited timeline, and
no other edit writes. -/
def LibraryWritten (r r' : EngineRuntime) (current : LightingPlan) : PlanCommand → Prop
  | .ChangePhraseRole phrase_index role_id => ∃ head edited,
      r.library_worker.timeline_head current.track_id = some head ∧
        head.edit (.ChangeRole phrase_index role_id) = .ok edited ∧
        r'.library_worker = r.library_worker.appended edited
  | _ => r'.library_worker = r.library_worker

/-- The engine after an edit of the plan of a deck. -/
structure Published (r r' : EngineRuntime) (command : PlanCommand) (d : DeckId)
    (current plan : LightingPlan) : Prop where
  revised : current.RevisedTo plan
  stored : r'.state.state.plans[d]? = some plan
  active : r'.state.state.leader_deck = some d → r'.state.state.active_plan = some plan
  quiet : ∃ looks, r'.output_worker = { r.output_worker with static_look_plans := looks }
  library : LibraryWritten r r' current command
  choices : r.planning_worker.light_policy.rules ≠ [] →
    (r.planning_worker.library_context plan.track_load_id).isSome →
    ∃ compiled, r'.planning_worker.compiled_light_plans[plan.track_load_id]? = some compiled ∧
      (compiled.choices.map fun choice => (choice.phrase_index, choice.autoloop_number.toUInt64)) =
        plan.cues.filterMap LightingCue.shown

/-- The reducer accepts a revised plan as the plan of its deck, and of the leader. -/
theorem accepted_plan {s : RuntimeState} {n : UInt64} {red : Reduction}
    (h : reduce s (.EffectResult (revision_result n plan)) = .ok red)
    (hdecision : red.decision = .PlanAccepted) :
    red.state.plans[plan.deck_id]? = some plan ∧ red.state.leader_deck = s.leader_deck ∧
      (s.leader_deck = some plan.deck_id → red.state.active_plan = some plan) := by
  obtain ⟨r0, m, revision, hdoes, _, _, rfl⟩ := reduce_does h
  cases hdoes with
  | redelivered hseen | recorded hnew he => cases hdecision
  | noted hnew hnoted =>
    dsimp only at hdecision
    rcases hnoted with hnoted | hnoted | hnoted
    all_goals
      rw [hdecision] at hnoted
      cases hnoted
  | planned hnew he hdeck htrack hrev =>
    cases he
    refine ⟨?_, rfl, fun hlead => if_pos hlead⟩
    simp only [journaled, planned, map_get_insert, ↓reduceIte]

/-- The library that is published with an edit. -/
theorem library_written (hmutation : r.mutation answers current input command = .ok edit.mutation)
    (hcommit : r.commit_phrase_edit answers edit.mutation = .ok library) :
    LibraryWritten r (r.publish_edit library edit) current command := by
  have hquiet : (∀ k role_id, command ≠ .ChangePhraseRole k role_id) →
      library = r.library_worker := by
    intro hcommand
    rcases (mutation_mutates hmutation).2 with hnone | ⟨k, role_id, hchange⟩
    · unfold commit_phrase_edit at hcommit
      rw [hnone] at hcommit
      cases hcommit
      rfl
    · exact absurd hchange (hcommand k role_id)
  cases command with
  | ChangePhraseRole phrase_index role_id =>
    obtain ⟨_, _, hmutation⟩ := bind_eq_ok.mp hmutation
    obtain ⟨_, head, edited, prepared, hhead, hedited, hpending, rfl⟩ :=
      change_phrase_role_mutates hmutation
    unfold commit_phrase_edit at hcommit
    rw [hpending] at hcommit
    dsimp only at hcommit
    rw [map_err_eq_ok] at hcommit
    exact ⟨head, _, hhead, hedited, LibraryWorker.commit_live_phrase_role_ok hcommit⟩
  | _ => exact hquiet fun _ _ h => by cases h

/-- An edit of a plan that is published is the next revision of the plan, under the same id, track
and load, stored for the deck and active when the deck leads. No effect is executed, the library
is written as a whole or not at all, and the compiled choices of the load are the scenes that its
cues show. An edit that is not published changes nothing. -/
theorem an_edit_publishes_a_whole_bundle_or_changes_nothing {catalog : AutoloopCatalog}
    {library : LibraryWorker} (hr : (engine stack catalog library).Reachable r)
    (answers : DatabaseAnswers) (context : PlanCommandContext) (command : PlanCommand) :
    match (apply_command stack answers context command).run r with
    | (r', .ok ()) => ∃ d current plan, r.state.state.plans[d]? = some current ∧
        current.id = context.plan_id ∧ current.track_load_id = context.track_load_id ∧
        current.revision = context.expected_revision ∧ Published r r' command d current plan
    | (r', _) => r' = r := by
  have hin := inOrder_reachable hr
  have hcovered := plansCovered_reachable hr
  rcases apply_command_cases stack answers context command r with
    ⟨edit, library', hedit, hcommit, hrun⟩ | ⟨x, hx, hrun⟩ <;> rw [hrun]
  · obtain ⟨_, hkept⟩ := covered_edited hcovered hedit
    obtain ⟨current, input, hcurrent, hmutation, hmat, hrevise, hstate⟩ := prepare_edit_ok.mp hedit
    obtain ⟨_, _, hplan, hid, hload, hrevision, _, _⟩ := current_plan_ok hcurrent
    have hm := (mutation_mutates hmutation).1
    obtain ⟨hrevised, hcues⟩ := prepared_revised hm hmat hrevise
    obtain ⟨_, red, hred, hdecision, hcandidate⟩ := (prepare_revised_state_ok hin).mp hstate
    obtain ⟨hstored, hleader, hactive⟩ := accepted_plan hred hdecision
    have hdeck : edit.revised.deck_id = input.deck_id := hrevised.deck_id.trans
      ((consistent_reachable hin.reachable).plan_of_deck _ _ hplan).1
    refine ⟨input.deck_id, current, edit.revised, hplan, hid, hload, hrevision, hrevised, ?_, ?_,
      ?_, library_written hmutation hcommit, ?_⟩
    · simp only [publish_edit, hcandidate, ← hdeck, hstored]
    · simp only [publish_edit, hcandidate, hleader, ← hdeck]
      exact hactive
    · exact ⟨_, rfl⟩
    · intro hrules hcontext
      have hsome : (r.edit_context current edit.mutation).isSome := by
        unfold edit_context
        rw [Option.isSome_or, ← hrevised.track_load_id, hcontext, Bool.or_true]
      obtain ⟨context', hcontext'⟩ := Option.isSome_iff_exists.mp hsome
      unfold edit_context at hcontext'
      rw [hcontext'] at hmat
      obtain ⟨_, _, hpass⟩ := PlanningWorker.prepare_library_plan_eq_ok.mp hmat
      obtain ⟨compiled, hcompiled, hshown⟩ := hpass.choices_shown (by simpa using hrules)
      exact ⟨compiled, hkept compiled hcompiled, by rw [hcues]; exact hshown⟩
  · cases x with
    | ok u => exact absurd rfl hx
    | err e | panicked => rfl

end EngineRuntime

/-! ## A show with a library -/

namespace sample

open EngineRuntime

def identifier {label : String} (value : String)
    (h : is_blank value = false ∧ value.utf8ByteSize ≤ 255 := by decide +kernel) :
    TextIdentifier label :=
  ⟨value, h.1, h.2⟩

def opening_role : PhraseRoleId := identifier "intro-outro"

def closing_role : PhraseRoleId := identifier "drop"

def button_1 : VariantId := identifier "mapping-1"

def button_2 : VariantId := identifier "mapping-2"

def button_3 : VariantId := identifier "mapping-3"

def button_4 : VariantId := identifier "mapping-4"

def variant (role_id : PhraseRoleId) (id : VariantId) (order : UInt16)
    (h : order ≠ 0 ∧ validated_name id.value = .ok id.value := by decide +kernel) :
    AutoloopVariant :=
  ⟨role_id, id, id.value, order, false, h.1, id.value, h.2⟩

/-- Two AutoLoops for the opening, two for the closing. -/
def variants : List AutoloopVariant :=
  [variant opening_role button_1 1, variant opening_role button_2 2,
    variant closing_role button_3 1, variant closing_role button_4 2]

def cell (theme_id : UInt64) (role_id : PhraseRoleId) (variant_id : VariantId) (name : String)
    (h : theme_id ≠ 0 ∧ is_blank name = false ∧ name.utf8ByteSize ≤ 255 ∧
      validated_name name = .ok name := by decide +kernel) : AutoloopMatrixCell :=
  ⟨⟨theme_id⟩, role_id, variant_id, ⟨name, h.2.1, h.2.2.1⟩, name, h.1, name, h.2.2.2⟩

/-- The first theme has one AutoLoop for the closing, the second one for the opening. -/
def cells : List AutoloopMatrixCell :=
  [cell 1 opening_role button_1 "Amber glow", cell 1 opening_role button_2 "Amber sweep",
    cell 1 closing_role button_4 "Amber flash", cell 2 opening_role button_1 "Blue glow",
    cell 2 closing_role button_3 "Blue flash", cell 2 closing_role button_4 "Blue chase"]

def mapped_catalog : AutoloopCatalog := ⟨1, 1, themes, variants, cells, by decide +kernel⟩

/-- The opening and the closing of the track. -/
def context : LibraryPlanContext where
  timeline_revision := 1
  track_color := none
  catalog := mapped_catalog
  phrases := [⟨0, 0, 16, opening_role, "Intro", .Auto⟩, ⟨1, 16, 32, closing_role, "Drop", .Auto⟩]
  autoloop_overrides := ∅
  indexed := ⟨rfl, rfl, trivial⟩

/-- A policy with one rule. -/
def policy : LightPlanningPolicy :=
  { LightPlanningPolicy.default with
    rules := [⟨1, "intro-outro", "mapping-1", true, 2, .Neutral, []⟩] }

def mapped_engine : Machine EngineRuntime Happening Empty EngineRuntime :=
  engine 2 mapped_catalog library

theorem mapped_reachable (happenings : List Happening) :
    (engine 2 mapped_catalog library).Reachable (mapped_engine.run happenings) :=
  Machine.reachable_run happenings

/-- The track is loaded on the first deck, which leads. -/
def mapped : List Happening :=
  [.Engine (.ReplaceLightPlanningPolicy policy) [],
    .Engine (.RegisterLibraryContext ⟨10⟩ context) [],
    observe 1 (.TrackLoaded ⟨1⟩ (metadata ⟨100⟩) ⟨10⟩), observe 2 (.LeaderChanged ⟨1⟩ ⟨10⟩)]

/-- The plan of the first deck, as a client sees it. -/
def seen (r : EngineRuntime) : PlanCommandContext :=
  match r.state.state.plans[(⟨1⟩ : DeckId)]? with
  | some plan => ⟨plan.id, plan.track_load_id, plan.revision⟩
  | none => ⟨⟨0⟩, ⟨0⟩, ⟨0⟩⟩

/-- The edit of the plan of the first deck, over a database that answers. -/
def edit (r : EngineRuntime) (command : PlanCommand) :
    EngineRuntime × Outcome CommandApplicationError Unit :=
  (apply_command 2 (fun _ => none) (seen r) command).run r

end sample

open EngineRuntime sample

theorem a_regeneration_publishes_its_bundle :
    (edit (mapped_engine.run mapped) .RegeneratePlan).2 = .ok () ∧ ∃ d current plan,
      (mapped_engine.run mapped).state.state.plans[d]? = some current ∧
      Published (mapped_engine.run mapped) (edit (mapped_engine.run mapped) .RegeneratePlan).1
        .RegeneratePlan d current plan := by
  have hok : (edit (mapped_engine.run mapped) .RegeneratePlan).2 = .ok () := by decide +kernel
  have hreach := mapped_reachable mapped
  generalize mapped_engine.run mapped = r at hok hreach ⊢
  have hlaw := an_edit_publishes_a_whole_bundle_or_changes_nothing hreach (fun _ => none) (seen r)
    .RegeneratePlan
  unfold edit at hok ⊢
  revert hlaw
  rcases hrun : (apply_command 2 (fun _ => none) (seen r) .RegeneratePlan).run r with ⟨r', x⟩
  rw [hrun] at hok
  dsimp only at hok
  subst hok
  rintro ⟨d, current, plan, hplan, _, _, _, hpublished⟩
  exact ⟨rfl, d, current, plan, hplan, hpublished⟩

end lumi_engine
