-- The law of the answer `NoChange`: the edit of a whole track looks at the theme
-- decision and not at the cues, so it answers that nothing would change while
-- later cues show another theme.
import Lumi.Planner.Regeneration

open rust lumi_domain
open Outcome (bind_eq_err ok_or_eq_ok)

namespace lumi_planner

/-! ## Cues in themes of the catalog -/

/-- The cue has a look, in a theme that the catalog knows under its name. -/
def Dressed (planner : DeterministicPlanner) (cue : LightingCue) : Prop :=
  ∃ look, cue.action = .ApplyLook look ∧
    planner.theme look.theme_id = some ⟨look.theme_id, look.theme_name⟩

section edits

open DeterministicPlanner

variable {planner : DeterministicPlanner} {plan plan' : LightingPlan} {edit : PlanEdit}
  {input : PlanningInput} {cue : LightingCue} {theme_id : ThemeId} {theme : ThemeDefinition}
  {phrase_index : UInt16} {error : PlanMutationError}

theorem dressed_of_shows (htheme : planner.theme theme_id = some theme) (h : Shows theme cue) :
    Dressed planner cue := by
  obtain ⟨look, hlook, hid, hname⟩ := h
  refine ⟨look, hlook, ?_⟩
  rw [hid, hname, theme_id_eq htheme, htheme]
  rw [← theme_id_eq htheme]

/-- A cue in a theme of the catalog shows the theme as soon as it has its id. -/
theorem Dressed.shows (h : Dressed planner cue) (htheme : planner.theme theme_id = some theme)
    {look : LightingLook} (hlook : cue.action = .ApplyLook look) (hid : look.theme_id = theme_id) :
    Shows theme cue := by
  obtain ⟨look', hlook', hcatalog⟩ := h
  rw [hlook] at hlook'
  cases hlook'
  rw [hid, htheme, Option.some.injEq] at hcatalog
  exact ⟨look, hlook, by rw [hcatalog, hid], by rw [hcatalog]⟩

theorem GeneratedAs.dressed {decision : ThemeDecision}
    (h : GeneratedAs planner input ⟨decision.theme_id, decision.theme_name⟩ plan)
    (hcatalogued : Catalogued planner decision) : ∀ cue ∈ plan.cues, Dressed planner cue := by
  intro cue hcue
  obtain ⟨phrases, _, hfresh⟩ := h.cues
  obtain ⟨phrase, _, hfresh⟩ := mem_of_forall₂ hfresh hcue
  exact dressed_of_shows hcatalogued hfresh.shows

/-- An accepted edit of a ready plan leaves every cue in a theme of the catalog. -/
theorem dressed_step (h : ∀ cue ∈ plan.cues, Dressed planner cue) (hready : plan'.status = .Ready)
    (hstep : planner.apply plan edit = .ok plan') : ∀ cue ∈ plan'.cues, Dressed planner cue := by
  intro cue' hcue'
  cases (apply_ok hstep).recues with
  | theme htheme hcues =>
    obtain ⟨cue, _, hthemed⟩ := mem_of_forall₂ hcues hcue'
    exact dressed_of_shows htheme (themed_cue_ok hthemed).2.2.2.2
  | theme_from htheme hcues =>
    obtain ⟨cue, hcue, hthemed⟩ := mem_of_forall₂ hcues hcue'
    split at hthemed
    · cases hthemed
      exact h _ hcue
    · exact dressed_of_shows htheme (themed_cue_ok hthemed).2.2.2.2
  | scene htarget hold htheme hname hscene hcues =>
    rw [hcues] at hcue'
    rcases List.mem_or_eq_of_mem_set hcue' with hcue' | rfl
    · exact h _ hcue'
    obtain ⟨look, hlook, hcatalog⟩ := h _ (List.mem_of_getElem? htarget)
    rw [hold] at hlook
    cases hlook
    exact ⟨_, rfl, by rw [htheme, hname, hcatalog]⟩
  | lock htarget hcues =>
    rw [hcues] at hcue'
    rcases List.mem_or_eq_of_mem_set hcue' with hcue' | rfl
    · exact h _ hcue'
    obtain ⟨look, hlook, hcatalog⟩ := h _ (List.mem_of_getElem? htarget)
    exact ⟨look, hlook, hcatalog⟩
  | again hagain htheme hcues =>
    rw [hcues] at hcue'
    obtain ⟨cue, hcue, rfl⟩ := List.mem_map.mp hcue'
    obtain ⟨decision, hdecision⟩ := LightingPlan.decided hready
    rw [htheme] at hdecision
    obtain ⟨hgenerated, hcatalogued, _⟩ := generate_again_ok hagain hdecision
    exact keep_locked_keeps (hgenerated.dressed hcatalogued cue hcue) fun locked hlocked _ _ =>
      h _ (List.mem_of_getElem? hlocked)

/-- Every cue of a ready plan that edits reach is in a theme of the catalog. -/
theorem reaches_dressed (h : planner.Reaches input plan) (hready : plan.status = .Ready) :
    ∀ cue ∈ plan.cues, Dressed planner cue :=
  (reaches_keeps (P := fun plan => ∀ cue ∈ plan.cues, Dressed planner cue)
    (fun _ _ _ hgenerated hcatalogued => hgenerated.dressed hcatalogued)
    (fun _ _ _ hdressed hready hstep => dressed_step hdressed hready hstep) h hready).1

/-! ## The law of `NoChange` -/

/-- The edit would leave what it is about as it is: the theme of each cue in its range, the scene
of the cue, or the lock of the cue. A regeneration is about no such thing. -/
def Unchanged (planner : DeterministicPlanner) (plan : LightingPlan) : PlanEdit → Prop
  | .SelectTheme theme_id => ∀ theme, planner.theme theme_id = some theme →
      ∀ cue ∈ plan.cues, Shows theme cue
  | .SelectThemeFromPhrase phrase_index theme_id => ∀ theme, planner.theme theme_id = some theme →
      ∀ cue ∈ plan.cues, phrase_index ≤ cue.phrase_index → Shows theme cue
  | .SelectScene phrase_index scene_id => ∀ cue, plan.cues[phrase_index.toNat]? = some cue →
      ∃ look, cue.action = .ApplyLook look ∧ look.scene_id = scene_id
  | .SetCueLock phrase_index locked => ∀ cue, plan.cues[phrase_index.toNat]? = some cue →
      cue.locked = locked
  | .Regenerate _ => True

/-- The user chose the theme for the whole plan. -/
def ChoseTheme (plan : LightingPlan) (theme_id : ThemeId) : Prop :=
  ∃ decision, plan.theme_decision = some decision ∧ decision.theme_id = theme_id ∧
    decision.reason = .PlanInstanceUserChoice

/-- The user chose the theme for the whole plan, and a cue shows another one since. -/
def HidesOther (plan : LightingPlan) (theme_id : ThemeId) : Prop :=
  ChoseTheme plan theme_id ∧
    ∃ cue ∈ plan.cues, ∃ look, cue.action = .ApplyLook look ∧ look.theme_id ≠ theme_id

/-- The edit is one of the whole track to a theme that hides another one. -/
def EditHidesOther (plan : LightingPlan) : PlanEdit → Prop
  | .SelectTheme theme_id => HidesOther plan theme_id
  | .SelectThemeFromPhrase phrase_index theme_id => phrase_index = 0 ∧ HidesOther plan theme_id
  | .SelectScene _ _ => False
  | .SetCueLock _ _ => False
  | .Regenerate _ => False

theorem ensure_ready_err (h : ensure_ready plan = .err error) :
    error = .FallbackPlanNotEditable := by
  unfold ensure_ready at h
  split at h
  · cases h
  cases h
  rfl

theorem themed_cue_err {origin : CueOrigin} (h : themed_cue theme origin cue = .err error) :
    error ≠ .NoChange := by
  unfold themed_cue at h
  split at h
  · rcases bind_eq_err.mp h with hlook | ⟨_, _, hok⟩
    · obtain ⟨_, _, rfl⟩ := Outcome.lift_eq_err.mp hlook
      exact fun h => by cases h
    · cases hok
  · cases h
    exact fun h => by cases h

/-- The edit of a whole track answers so for the theme that the user chose for it. -/
theorem select_theme_no_change (h : planner.select_theme plan theme_id = .err .NoChange) :
    ChoseTheme plan theme_id := by
  unfold select_theme at h
  rcases bind_eq_err.mp h with hready | ⟨_, _, h⟩
  · cases ensure_ready_err hready
  rcases bind_eq_err.mp h with hunknown | ⟨theme, htheme, h⟩
  · simp at hunknown
  rw [ok_or_eq_ok] at htheme
  rcases bind_eq_err.mp h with hcues | ⟨cues, _, h⟩
  · obtain ⟨cue, _, hcue⟩ := Outcome.collect_eq_err hcues
    exact absurd rfl (themed_cue_err hcue)
  split at h
  · rename_i hsame
    cases hdecision : plan.theme_decision with
    | none => simp [hdecision] at hsame
    | some decision =>
      simp only [hdecision, Option.all_some, Bool.not_eq_true', decide_eq_false_iff_not, not_or,
        not_not, theme_id_eq htheme] at hsame
      exact ⟨decision, hdecision, hsame.1, hsame.2⟩
  · rcases bind_eq_err.mp h with hdecision | ⟨_, _, h⟩
    · simp at hdecision
    · simp at h

/-- And it answers so whenever the user chose the theme for a plan of looks. -/
theorem select_theme_of_chosen (hready : plan.status = .Ready)
    (hdressed : ∀ cue ∈ plan.cues, Dressed planner cue)
    (hcatalogued : ∀ decision, plan.theme_decision = some decision → Catalogued planner decision)
    (h : ChoseTheme plan theme_id) : planner.select_theme plan theme_id = .err .NoChange := by
  obtain ⟨decision, hdecision, rfl, hreason⟩ := h
  have htheme := hcatalogued decision hdecision
  unfold Catalogued at htheme
  obtain ⟨cues, hcues⟩ : ∃ cues, Outcome.collect
      (themed_cue ⟨decision.theme_id, decision.theme_name⟩ .User) plan.cues = .ok cues := by
    rw [Outcome.collect_succeeds]
    intro cue hcue
    obtain ⟨look, hlook, _⟩ := hdressed cue hcue
    exact themed_cue_of_look _ hlook decision.named
  unfold select_theme ensure_ready
  simp [hready, htheme, Outcome.ok_or, hcues, hdecision, hreason]

theorem select_theme_from_phrase_no_change (hpositive : phrase_index ≠ 0)
    (hdressed : ∀ cue ∈ plan.cues, Dressed planner cue)
    (h : planner.select_theme_from_phrase plan phrase_index theme_id = .err .NoChange) :
    Unchanged planner plan (.SelectThemeFromPhrase phrase_index theme_id) := by
  unfold select_theme_from_phrase at h
  rw [if_neg hpositive] at h
  rcases bind_eq_err.mp h with hready | ⟨_, _, h⟩
  · cases ensure_ready_err hready
  rcases bind_eq_err.mp h with hunknown | ⟨theme, htheme, h⟩
  · simp at hunknown
  rw [ok_or_eq_ok] at htheme
  split at h
  · cases h
  rcases bind_eq_err.mp h with hcues | ⟨cues, _, h⟩
  · obtain ⟨cue, _, hcue⟩ := Outcome.collect_eq_err hcues
    split at hcue
    · cases hcue
    · exact absurd rfl (themed_cue_err hcue)
  split at h
  · rename_i hsame
    intro theme' htheme' cue hcue hrange
    rw [htheme, Option.some.injEq] at htheme'
    subst htheme'
    obtain ⟨look, hlook, _⟩ := hdressed cue hcue
    simp only [Bool.not_eq_true', List.any_eq_false] at hsame
    have hcue' := hsame cue hcue
    simp only [hlook, Bool.and_eq_true, Bool.not_eq_true', decide_eq_false_iff_not,
      bne_iff_ne, ne_eq, not_and, not_not, UInt16.not_lt] at hcue'
    exact (hdressed cue hcue).shows htheme hlook ((hcue' hrange).trans (theme_id_eq htheme))
  · simp at h

theorem set_cue_not_no_change {i : Nat}
    (h : (vec_set plan.cues i cue >>= fun cues =>
      Outcome.lift PlanMutationError.InvalidPlan (plan.revised cues)) = .err .NoChange) :
    False := by
  rcases bind_eq_err.mp h with hset | ⟨_, _, h⟩
  · unfold vec_set at hset
    split at hset <;> cases hset
  · simp at h

theorem select_scene_no_change {scene_id : SceneId}
    (h : planner.select_scene plan phrase_index scene_id = .err .NoChange) :
    Unchanged planner plan (.SelectScene phrase_index scene_id) := by
  unfold select_scene at h
  rcases bind_eq_err.mp h with hready | ⟨_, _, h⟩
  · cases ensure_ready_err hready
  rcases bind_eq_err.mp h with hunknown | ⟨scene, hscene, h⟩
  · simp at hunknown
  rcases bind_eq_err.mp h with hunknown | ⟨target, htarget, h⟩
  · simp at hunknown
  rcases bind_eq_err.mp h with hcategory | ⟨category, _, h⟩
  · obtain ⟨_, herror, rfl⟩ := Outcome.lift_eq_err.mp hcategory
    unfold cue_category at herror
    split at herror <;> cases herror
  rw [ok_or_eq_ok] at hscene htarget
  split at h
  · cases h
  split at h
  · cases h
  rename_i look hlook
  split at h
  · rename_i hsame
    intro cue hcue
    rw [htarget, Option.some.injEq] at hcue
    subst hcue
    have hid : scene.id = scene_id := by simpa using List.find?_some hscene
    exact ⟨look, hlook, hsame.trans hid⟩
  · rcases bind_eq_err.mp h with hnew | ⟨_, _, h⟩
    · simp at hnew
    · exact (set_cue_not_no_change h).elim

theorem set_cue_lock_no_change {locked : Bool}
    (h : planner.set_cue_lock plan phrase_index locked = .err .NoChange) :
    Unchanged planner plan (.SetCueLock phrase_index locked) := by
  unfold set_cue_lock at h
  rcases bind_eq_err.mp h with hready | ⟨_, _, h⟩
  · cases ensure_ready_err hready
  rcases bind_eq_err.mp h with hunknown | ⟨target, htarget, h⟩
  · simp at hunknown
  rw [ok_or_eq_ok] at htarget
  split at h
  · rename_i hsame
    intro cue hcue
    rw [htarget, Option.some.injEq] at hcue
    subst hcue
    exact hsame
  · exact (set_cue_not_no_change h).elim

/-- For every ready plan that edits reach, the answer `NoChange` means that nothing would change,
except for an edit of the whole track to the theme that the user chose for it before some cues
were given another one. -/
theorem no_change_means_no_change_unless_a_theme_is_hidden (hreach : planner.Reaches input plan)
    (hready : plan.status = .Ready) (edit : PlanEdit) :
    (planner.apply plan edit = .err .NoChange → Unchanged planner plan edit) ↔
      ¬ EditHidesOther plan edit := by
  have hdressed := reaches_dressed hreach hready
  have hcatalogued := (reaches_belongs hreach hready).1.catalogued
  -- The edit of the whole track, under either name.
  have htrack : ∀ theme_id, (planner.select_theme plan theme_id = .err .NoChange →
      Unchanged planner plan (.SelectTheme theme_id)) ↔ ¬ HidesOther plan theme_id := by
    intro theme_id
    constructor
    · rintro hmeans ⟨hchose, cue, hcue, look, hlook, hother⟩
      have hanswer := select_theme_of_chosen hready hdressed hcatalogued hchose
      obtain ⟨decision, hdecision, hid, _⟩ := hchose
      have htheme := hcatalogued decision hdecision
      unfold Catalogued at htheme
      rw [hid] at htheme
      obtain ⟨look', hlook', hsame, _⟩ := hmeans hanswer _ htheme cue hcue
      rw [hlook] at hlook'
      cases hlook'
      exact hother hsame
    · intro hhides hanswer theme htheme cue hcue
      obtain ⟨look, hlook, _⟩ := hdressed cue hcue
      refine (hdressed cue hcue).shows htheme hlook ?_
      by_contra hother
      exact hhides ⟨select_theme_no_change hanswer, cue, hcue, look, hlook, hother⟩
  cases edit with
  | SelectTheme theme_id => exact htrack theme_id
  | SelectThemeFromPhrase phrase_index theme_id =>
    by_cases hzero : phrase_index = 0
    · subst hzero
      have hsame : planner.apply plan (.SelectThemeFromPhrase 0 theme_id) =
          planner.select_theme plan theme_id := rfl
      rw [hsame]
      simp only [EditHidesOther, true_and, ← htrack theme_id, Unchanged, UInt16.zero_le,
        true_implies]
    · simp only [EditHidesOther, hzero, false_and, not_false_eq_true, iff_true]
      exact select_theme_from_phrase_no_change hzero hdressed
  | SelectScene phrase_index scene_id =>
    exact iff_of_true select_scene_no_change id
  | SetCueLock phrase_index locked =>
    exact iff_of_true set_cue_lock_no_change id
  | Regenerate input => exact iff_of_true (fun _ => trivial) id

end edits

namespace sample

/-- The plan after the edits. -/
def edited (plan : LightingPlan) (edits : List PlanEdit) : LightingPlan :=
  (DeterministicPlanner.epic_one.editor plan).run edits

/-- The ids of the themes that the cues show. -/
def shown_themes (plan : LightingPlan) : List (Option ThemeId) :=
  plan.cues.map fun cue =>
    match cue.action with
    | .ApplyLook look => some look.theme_id
    | .HoldCurrentLook => none

end sample

open sample

/-- A theme that is chosen twice for the whole track changes nothing the second time. -/
theorem a_theme_chosen_twice_changes_nothing :
    ∃ plan, DeterministicPlanner.epic_one.Reaches input plan ∧ plan.status = .Ready ∧
      DeterministicPlanner.epic_one.apply plan (.SelectTheme ⟨2⟩) = .err .NoChange ∧
      Unchanged DeterministicPlanner.epic_one plan (.SelectTheme ⟨2⟩) := by
  obtain ⟨generated, hgenerated, hrun⟩ := exists_generated
    (show generates (fun plan => (edited plan [.SelectTheme ⟨2⟩]).status = .Ready ∧
      DeterministicPlanner.epic_one.apply (edited plan [.SelectTheme ⟨2⟩]) (.SelectTheme ⟨2⟩) =
        .err .NoChange ∧
      shown_themes (edited plan [.SelectTheme ⟨2⟩]) = [some ⟨2⟩, some ⟨2⟩]) = true
      by decide +kernel)
  obtain ⟨hready, hanswer, hthemes⟩ := of_decide_eq_true hrun
  have hreach : DeterministicPlanner.epic_one.Reaches input (edited generated [.SelectTheme ⟨2⟩]) :=
    ⟨context, generated, hgenerated, replay.Machine.reachable_run _⟩
  refine ⟨_, hreach, hready, hanswer, ?_⟩
  refine (no_change_means_no_change_unless_a_theme_is_hidden hreach hready _).mpr ?_ hanswer
  rintro ⟨_, cue, hcue, look, hlook, hother⟩
  have hshown : some look.theme_id ∈ shown_themes (edited generated [.SelectTheme ⟨2⟩]) :=
    List.mem_map.mpr ⟨cue, hcue, by rw [hlook]⟩
  rw [hthemes] at hshown
  simp only [List.mem_cons, Option.some.injEq, List.not_mem_nil, or_false, or_self] at hshown
  exact hother hshown

/-- The second theme is chosen for the whole track, and the third from the second phrase on. The
second theme for the whole track is then answered with `NoChange`, and the second cue would show
another theme. -/
theorem a_theme_for_the_track_hides_a_later_one :
    ∃ plan, DeterministicPlanner.epic_one.Reaches input plan ∧ plan.status = .Ready ∧
      DeterministicPlanner.epic_one.apply plan (.SelectTheme ⟨2⟩) = .err .NoChange ∧
      shown_themes plan = [some ⟨2⟩, some ⟨3⟩] := by
  obtain ⟨generated, hgenerated, hrun⟩ := exists_generated
    (show generates (fun plan =>
      (edited plan [.SelectTheme ⟨2⟩, .SelectThemeFromPhrase 1 ⟨3⟩]).status = .Ready ∧
      DeterministicPlanner.epic_one.apply
        (edited plan [.SelectTheme ⟨2⟩, .SelectThemeFromPhrase 1 ⟨3⟩]) (.SelectTheme ⟨2⟩) =
          .err .NoChange ∧
      shown_themes (edited plan [.SelectTheme ⟨2⟩, .SelectThemeFromPhrase 1 ⟨3⟩]) =
        [some ⟨2⟩, some ⟨3⟩]) = true by decide +kernel)
  obtain ⟨hready, hanswer, hthemes⟩ := of_decide_eq_true hrun
  exact ⟨_, ⟨context, generated, hgenerated, replay.Machine.reachable_run _⟩, hready, hanswer,
    hthemes⟩

end lumi_planner
