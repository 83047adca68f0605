-- The pass that puts the AutoLoops of the library into a plan. Each cue comes
-- out by itself, in its place, and the compiled choices are the AutoLoops of
-- the cues that have a look.
import Lumi.Planner.Regeneration
import Lumi.Engine.Planning

open rust lumi_domain lumi_library lumi_light_plans lumi_planner

/-! ## A plan with other cues -/

namespace lumi_domain

/-- The plan with other cues, and all else as it was. -/
structure LightingPlan.RecuedTo (plan plan' : LightingPlan) : Prop where
  id : plan'.id = plan.id
  deck_id : plan'.deck_id = plan.deck_id
  track_id : plan'.track_id = plan.track_id
  track_duration_beats : plan'.track_duration_beats = plan.track_duration_beats
  track_load_id : plan'.track_load_id = plan.track_load_id
  revision : plan'.revision = plan.revision
  configuration_revision : plan'.configuration_revision = plan.configuration_revision
  status : plan'.status = plan.status
  theme_decision : plan'.theme_decision = plan.theme_decision
  seed : plan'.seed = plan.seed

namespace LightingPlan

variable {plan plan' plan'' : LightingPlan}

theorem RecuedTo.refl (plan : LightingPlan) : plan.RecuedTo plan :=
  ⟨rfl, rfl, rfl, rfl, rfl, rfl, rfl, rfl, rfl, rfl⟩

theorem with_materialized_cues_ok {cues : List LightingCue}
    (h : plan.with_materialized_cues cues = .ok plan') :
    plan.RecuedTo plan' ∧ plan'.cues = cues := by
  obtain ⟨_, rfl⟩ := try_new_with_theme_decision_eq_ok.mp h
  exact ⟨⟨rfl, rfl, rfl, rfl, rfl, rfl, rfl, rfl, rfl, rfl⟩, rfl⟩

/-- A revision of the plan is one too when its cues are replaced before or after. -/
theorem RevisedTo.recued (h : plan.RevisedTo plan') (h' : plan'.RecuedTo plan'') :
    plan.RevisedTo plan'' := by
  constructor <;> simp only [h'.id, h'.deck_id, h'.track_id, h'.track_duration_beats,
    h'.track_load_id, h'.configuration_revision, h'.status, h'.revision, h'.seed]
  exacts [h.id, h.deck_id, h.track_id, h.track_duration_beats, h.track_load_id,
    h.configuration_revision, h.status, h.revision, h.seed]

theorem RecuedTo.revised (h : plan.RecuedTo plan') (h' : plan'.RevisedTo plan'') :
    plan.RevisedTo plan'' := by
  constructor <;> simp only [← h.id, ← h.deck_id, ← h.track_id, ← h.track_duration_beats,
    ← h.track_load_id, ← h.configuration_revision, ← h.status, ← h.revision, ← h.seed]
  exacts [h'.id, h'.deck_id, h'.track_id, h'.track_duration_beats, h'.track_load_id,
    h'.configuration_revision, h'.status, h'.revision, h'.seed]

end LightingPlan

/-- The phrase of a cue with a look, and the scene that it shows. -/
def LightingCue.shown (cue : LightingCue) : Option (UInt16 × UInt64) :=
  match cue.action with
  | .ApplyLook look => some (cue.phrase_index, look.scene_id.value)
  | .HoldCurrentLook => none

end lumi_domain

namespace lumi_engine

/-! ## What the context offers -/

variable {phrase : LibraryPhrasePlanContext} {cell : AutoloopMatrixCell}
  {choice : ResolvedLibraryCue}

namespace LibraryPlanContext

variable {context : LibraryPlanContext} {theme_id : ThemeId} {phrase_index : UInt16}

theorem phrase_eq_some (h : context.phrase phrase_index = some phrase) :
    phrase ∈ context.phrases ∧ phrase.phrase_index = phrase_index :=
  ⟨List.mem_of_find?_eq_some h, by simpa using List.find?_some h⟩

theorem mem_cells_of {role_id : PhraseRoleId} :
    cell ∈ context.cells_of theme_id role_id ↔
      cell ∈ context.catalog.cells ∧ cell.theme_id = theme_id ∧ cell.role_id = role_id := by
  simp [cells_of]

/-- The AutoLoops on offer are the numbered cells of the theme for the role of the phrase. -/
theorem mem_autoloop_choices :
    choice ∈ context.autoloop_choices theme_id phrase_index ↔
      ∃ phrase, context.phrase phrase_index = some phrase ∧
        ∃ cell ∈ context.cells_of theme_id phrase.role_id,
          context.cell_choice theme_id phrase cell = some choice := by
  unfold autoloop_choices
  cases hphrase : context.phrase phrase_index with
  | none => simp
  | some phrase => simp [List.mem_insertionSort]

theorem cell_choice_eq_some (h : context.cell_choice theme_id phrase cell = some choice) :
    choice.phrase_index = phrase.phrase_index ∧ choice.entry_name = cell.display_name ∧
      choice.variant_id = cell.variant_id.value ∧
      choice.autoloop_number = mapping_number cell.variant_id ∧
      (mapping_number cell.variant_id).isSome := by
  unfold cell_choice at h
  obtain ⟨number, hnumber, rfl⟩ := Option.map_eq_some_iff.mp h
  exact ⟨rfl, rfl, rfl, hnumber.symm, by rw [hnumber]; rfl⟩

end LibraryPlanContext

/-! ## One cue -/

namespace PlanningWorker

variable {worker : PlanningWorker} {scope : PlanMaterializationScope}
  {context : LibraryPlanContext} {by_theme : BTreeMap ThemeId CompiledLightPlan}
  {cue cue' : LightingCue} {look : LightingLook}

theorem compiled_choice_phrase_index {choice : CompiledAutoloopChoice}
    (h : compiled_choice by_theme cue look = some choice) :
    choice.phrase_index = cue.phrase_index := by
  obtain ⟨compiled, _, hfind⟩ := Option.bind_eq_some_iff.mp h
  simpa using List.find?_some hfind

/-- What is preserved is on offer, under the number of the scene. -/
theorem preserved_eq_some (h : preserved scope context cue look = some choice) :
    scope.reselects cue.phrase_index = false ∧ look.scene_id.value.toNat < 2 ^ 16 ∧
      choice ∈ context.autoloop_choices look.theme_id cue.phrase_index ∧
      choice.autoloop_number = some look.scene_id.value.toUInt16 := by
  unfold preserved at h
  split at h
  · cases h
  rename_i hscope
  split at h
  · rename_i hfits
    exact ⟨Bool.not_eq_true _ ▸ hscope, hfits, List.mem_of_find?_eq_some h,
      by simpa using List.find?_some h⟩
  · cases h

/-- Under a policy with rules, a resolution has the compiled choice of its number behind it. -/
theorem resolve_cue_compiled {resolution : Resolution}
    (hrules : worker.light_policy.rules.isEmpty = false)
    (h : worker.resolve_cue scope context by_theme cue look = some resolution) :
    ∃ choice, resolution.compiled = some choice ∧ choice.phrase_index = cue.phrase_index ∧
      choice.autoloop_number = resolution.number := by
  unfold resolve_cue at h
  dsimp only at h
  split at h
  · rename_i preserved hpreserved
    obtain ⟨number, hnumber, rfl⟩ := Option.map_eq_some_iff.mp h
    refine ⟨_, rfl, ?_⟩
    dsimp only
    cases hchoice : (compiled_choice by_theme cue look).filter (·.autoloop_number = number) with
    | some choice =>
      obtain ⟨hcompiled, hsame⟩ := Option.filter_eq_some_iff.mp hchoice
      exact ⟨compiled_choice_phrase_index hcompiled, of_decide_eq_true hsame⟩
    | none =>
      obtain ⟨_, _, hoffered, _⟩ := preserved_eq_some hpreserved
      obtain ⟨_, hphrase, _, _, hcell⟩ := LibraryPlanContext.mem_autoloop_choices.mp hoffered
      refine ⟨(LibraryPlanContext.cell_choice_eq_some hcell).1.trans
        (LibraryPlanContext.phrase_eq_some hphrase).2, ?_⟩
      simp [compiled_choice_from_resolution, hnumber]
  · split at h
    · rename_i choice hchoice
      cases h
      exact ⟨choice, rfl, compiled_choice_phrase_index hchoice, rfl⟩
    · simp [hrules] at h

/-- A cue holds, or it shows the AutoLoop of its resolution. -/
inductive Materialized (worker : PlanningWorker) (scope : PlanMaterializationScope)
    (context : LibraryPlanContext) (by_theme : BTreeMap ThemeId CompiledLightPlan)
    (cue : LightingCue) : LightingCue → Prop
  | held (hhold : cue.action = .HoldCurrentLook) :
      Materialized worker scope context by_theme cue cue
  | missing {look : LightingLook} (hlook : cue.action = .ApplyLook look)
      (hnone : worker.resolve_cue scope context by_theme cue look = none) :
      Materialized worker scope context by_theme cue cue.hold_for_missing_autoloop_mapping
  | resolved {look : LightingLook} (hlook : cue.action = .ApplyLook look)
      {resolution : Resolution}
      (hsome : worker.resolve_cue scope context by_theme cue look = some resolution)
      (hnamed : is_blank resolution.name = false) :
      Materialized worker scope context by_theme cue (cue.revised (.ApplyLook
        { look with
          scene_id := ⟨resolution.number.toUInt64⟩
          scene_name := resolution.name
          scene_named := hnamed }) cue.origin cue.locked)

theorem materialize_cue_eq_ok :
    worker.materialize_cue scope context by_theme cue = .ok cue' ↔
      Materialized worker scope context by_theme cue cue' := by
  unfold materialize_cue
  constructor
  · intro h
    split at h
    · rename_i hhold
      cases h
      exact .held hhold
    rename_i look hlook
    split at h
    · rename_i hnone
      cases h
      exact .missing hlook hnone
    rename_i resolution hsome
    obtain ⟨materialized, hnew, h⟩ := Outcome.bind_eq_ok.mp h
    rw [Outcome.lift_eq_ok] at hnew
    obtain ⟨_, hnamed, rfl⟩ := try_new_look_eq_ok.mp hnew
    cases h
    exact .resolved hlook hsome hnamed
  · intro h
    cases h with
    | held hhold => simp only [hhold]
    | missing hlook hnone => simp only [hlook, hnone]
    | @resolved look hlook resolution hsome hnamed =>
      simp only [hlook, hsome, try_new_look_of_named _ _ _ _ look.theme_named hnamed]
      rfl

variable (h : Materialized worker scope context by_theme cue cue')
include h

/-- The pass makes one thing of a cue. -/
theorem Materialized.unique {cue'' : LightingCue}
    (h' : Materialized worker scope context by_theme cue cue'') : cue' = cue'' := by
  rw [← materialize_cue_eq_ok] at h h'
  rw [h, Outcome.ok.injEq] at h'
  exact h'

/-- A cue that comes out with a look had one, and keeps its lock. -/
theorem Materialized.locked (hlook : cue'.action = .ApplyLook look) : cue'.locked = cue.locked := by
  cases h with
  | held hhold | resolved hlook' hsome hnamed => rfl
  | missing hlook' hnone => cases hlook

/-- The choice behind a cue is the scene that the cue comes out with. -/
theorem Materialized.shown (hrules : worker.light_policy.rules.isEmpty = false) :
    (((worker.cue_resolution scope context by_theme cue).bind fun resolution =>
      resolution.2.compiled.map (resolution.1, ·)).map fun choice =>
        (choice.2.phrase_index, choice.2.autoloop_number.toUInt64)) = cue'.shown := by
  unfold cue_resolution LightingCue.shown
  cases h with
  | held hhold => simp [hhold]
  | missing hlook hnone => simp [hlook, hnone, LightingCue.hold_for_missing_autoloop_mapping]
  | resolved hlook hsome hnamed =>
    obtain ⟨choice, hcompiled, hindex, hnumber⟩ := resolve_cue_compiled hrules hsome
    simp [hlook, hsome, hcompiled, hindex, hnumber, LightingCue.revised]

/-! ## The whole plan -/

variable {plan : LightingPlan} {out : MaterializedLibraryPlan} {stack : Nat} {theme_id : ThemeId}

/-- What the pass makes of a plan with a context, by way of its opening theme and what was
compiled for its themes. -/
structure Pass (worker : PlanningWorker) (stack : Nat) (plan : LightingPlan)
    (scope : PlanMaterializationScope) (context : LibraryPlanContext)
    (out : MaterializedLibraryPlan) (theme_id : ThemeId)
    (by_theme : BTreeMap ThemeId CompiledLightPlan) : Prop where
  opening : initial_theme_id plan = some theme_id
  compiled : worker.compiled_by_theme stack plan context theme_id = .ok by_theme
  cues : List.Forall₂ (Materialized worker scope context by_theme) plan.cues out.plan.cues
  valid : plan.with_materialized_cues out.plan.cues = .ok out.plan
  choices : out.compiled = worker.compiled_plan scope context by_theme plan theme_id

omit h

theorem prepare_library_plan_eq_ok :
    worker.prepare_library_plan stack plan scope (some context) = .ok out ↔
      ∃ theme_id by_theme, Pass worker stack plan scope context out theme_id by_theme := by
  unfold prepare_library_plan
  simp only [Outcome.bind_eq_ok, Outcome.ok_or_eq_ok, Outcome.lift_eq_ok, Outcome.collect_eq_ok,
    materialize_cue_eq_ok]
  constructor
  · rintro ⟨theme_id, hopening, by_theme, hcompiled, cues, hcues, plan', hvalid, hout⟩
    cases hout
    obtain ⟨_, rfl⟩ := LightingPlan.with_materialized_cues_ok hvalid
    exact ⟨theme_id, by_theme, hopening, hcompiled, hcues, hvalid, rfl⟩
  · rintro ⟨theme_id, by_theme, h⟩
    refine ⟨theme_id, h.opening, by_theme, h.compiled, _, h.cues, _, h.valid, ?_⟩
    rw [← h.choices]

theorem Pass.recued (h : Pass worker stack plan scope context out theme_id by_theme) :
    plan.RecuedTo out.plan :=
  (LightingPlan.with_materialized_cues_ok h.valid).1

/-- Under a policy with rules, the compiled choices are the scenes that the cues show. -/
theorem Pass.choices_shown (h : Pass worker stack plan scope context out theme_id by_theme)
    (hrules : worker.light_policy.rules.isEmpty = false) :
    ∃ compiled, out.compiled = some compiled ∧
      (compiled.choices.map fun choice => (choice.phrase_index, choice.autoloop_number.toUInt64)) =
        out.plan.cues.filterMap LightingCue.shown := by
  have hchoices := h.choices
  unfold compiled_plan at hchoices
  rw [hrules] at hchoices
  refine ⟨_, hchoices, ?_⟩
  dsimp only
  rw [final_choices, List.map_map, List.map_filterMap]
  have hmap := map_eq_of_forall₂ h.cues fun _ _ hcue => hcue.shown hrules
  have hshown := congrArg (List.filterMap id) hmap
  rw [List.filterMap_map, List.filterMap_map, Function.id_comp, Function.id_comp] at hshown
  exact hshown

/-- The number and the name of the AutoLoop that a pass over all cues selects for a cue. -/
def selected (worker : PlanningWorker) (stack : Nat) (plan : LightingPlan)
    (context : LibraryPlanContext) (cue : LightingCue) (look : LightingLook) :
    Option (UInt16 × String) :=
  match initial_theme_id plan with
  | none => none
  | some theme_id =>
    match worker.compiled_by_theme stack plan context theme_id with
    | .ok by_theme =>
      (worker.resolve_cue .All context by_theme cue look).map fun resolution =>
        (resolution.number, resolution.name)
    | _ => none

end PlanningWorker

end lumi_engine
