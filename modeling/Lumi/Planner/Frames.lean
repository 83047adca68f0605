-- The frame of the edits of a plan: each gives the next revision of the same
-- plan, and changes one field of the cues that it is about. The edit also makes
-- the user the origin of each of them, and that shows in the plan too.
import Lumi.Planner.NoChange

open rust lumi_domain
open Outcome (bind_eq_ok guard_eq_ok lift_eq_ok ok_or_eq_ok)

namespace lumi_planner

/-! ## What an edit does to one cue -/

/-- The cue shows the theme in place of its own: the scene stays, with its category and loop. -/
def Rethemed (theme_id : ThemeId) (cue cue' : LightingCue) : Prop :=
  ∃ old look, cue.action = .ApplyLook old ∧
    cue' = cue.revised (.ApplyLook look) .User cue.locked ∧ look.theme_id = theme_id ∧
    look.scene_id = old.scene_id ∧ look.scene_name = old.scene_name ∧
    look.category = old.category ∧ look.loop_selection = old.loop_selection

/-- The cue shows a scene of its category in place of its own: the theme stays. -/
def Rescened (planner : DeterministicPlanner) (scene_id : SceneId) (cue cue' : LightingCue) :
    Prop :=
  ∃ old look scene, cue.action = .ApplyLook old ∧
    planner.configuration.scenes.find? (·.id = scene_id) = some scene ∧
    cue_category cue = .ok scene.category ∧
    cue' = cue.revised (.ApplyLook look) .User cue.locked ∧
    look.theme_id = old.theme_id ∧ look.theme_name = old.theme_name ∧
    look.scene_id = scene_id ∧ look.scene_name = scene.name ∧
    look.category = scene.category ∧ look.loop_selection = scene.loop_selection

/-- What an edit makes of the cue at a place. -/
def Touches (planner : DeterministicPlanner) : PlanEdit → Nat → LightingCue → LightingCue → Prop
  | .SelectTheme theme_id, _, cue, cue' => Rethemed theme_id cue cue'
  | .SelectThemeFromPhrase phrase_index theme_id, i, cue, cue' =>
    if i < phrase_index.toNat then cue' = cue else Rethemed theme_id cue cue'
  | .SelectScene phrase_index scene_id, i, cue, cue' =>
    if i = phrase_index.toNat then Rescened planner scene_id cue cue' else cue' = cue
  | .SetCueLock phrase_index locked, i, cue, cue' =>
    if i = phrase_index.toNat then cue' = cue.revised cue.action .User locked else cue' = cue
  -- A plan that is generated again may have cues of any kind.
  | .Regenerate _, _, _, _ => True

section frames

variable {planner : DeterministicPlanner} {plan plan' : LightingPlan} {edit : PlanEdit}
  {cue cue' : LightingCue} {theme_id : ThemeId} {theme : ThemeDefinition}
  {phrase_index : UInt16} {i : Nat}

theorem themed_cue_rethemed (htheme : planner.theme theme_id = some theme)
    (h : themed_cue theme .User cue = .ok cue') : Rethemed theme_id cue cue' := by
  unfold themed_cue at h
  split at h
  · rename_i old hold
    simp only [bind_eq_ok, lift_eq_ok, try_new_look_eq_ok] at h
    obtain ⟨_, ⟨_, _, rfl⟩, hcue⟩ := h
    cases hcue
    exact ⟨old, _, hold, rfl, theme_id_eq htheme, rfl, rfl, rfl, rfl⟩
  · cases h

theorem select_scene_rescenes {scene_id : SceneId}
    (h : planner.select_scene plan phrase_index scene_id = .ok plan')
    (hcue : plan.cues[phrase_index.toNat]? = some cue)
    (hcue' : plan'.cues[phrase_index.toNat]? = some cue') : Rescened planner scene_id cue cue' := by
  obtain ⟨_, _, h⟩ := bind_eq_ok.mp h
  obtain ⟨scene, hscene, h⟩ := bind_eq_ok.mp h
  obtain ⟨target, htarget, h⟩ := bind_eq_ok.mp h
  obtain ⟨category, hcategory, h⟩ := bind_eq_ok.mp h
  rw [ok_or_eq_ok] at hscene htarget
  rw [hcue, Option.some.injEq] at htarget
  subst htarget
  obtain ⟨hsame, h⟩ := guard_eq_ok.mp h
  rw [not_not] at hsame
  split at h
  · cases h
  rename_i old hold
  obtain ⟨look, hlook, h⟩ := bind_eq_ok.mp (guard_eq_ok.mp h).2
  obtain ⟨_, _, rfl⟩ := try_new_look_eq_ok.mp (lift_eq_ok.mp hlook)
  obtain ⟨_, hcues, _⟩ := LightingPlan.revised_with_theme_decision_ok (set_cue_revises h)
  rw [hcues, List.getElem?_set_self (List.getElem?_eq_some_iff.mp hcue).1,
    Option.some.injEq] at hcue'
  have hid : scene.id = scene_id := by simpa using List.find?_some hscene
  refine ⟨old, _, scene, hold, hscene, ?_, hcue'.symm, rfl, rfl, hid, rfl, rfl, rfl⟩
  rw [hsame]
  exact lift_eq_ok.mp hcategory

theorem related_at {r : LightingCue → LightingCue → Prop} (h : List.Forall₂ r plan.cues plan'.cues)
    (hcue : plan.cues[i]? = some cue) (hcue' : plan'.cues[i]? = some cue') : r cue cue' := by
  rcases forall₂_getElem? h i with ⟨hnone, _⟩ | ⟨a, b, ha, hb, hab⟩
  · simp [hcue] at hnone
  rw [hcue, Option.some.injEq] at ha
  rw [hcue', Option.some.injEq] at hb
  rwa [ha, hb]

/-- An accepted edit touches each cue as the edit may. -/
theorem apply_touches (h : planner.apply plan edit = .ok plan') (hcue : plan.cues[i]? = some cue)
    (hcue' : plan'.cues[i]? = some cue') : Touches planner edit i cue cue' := by
  cases (apply_ok h).recues with
  | theme htheme hcues =>
    exact themed_cue_rethemed htheme (related_at hcues hcue hcue')
  | theme_from htheme hcues =>
    have hthemed := related_at hcues hcue hcue'
    simp only [Touches]
    simp only [UInt16.lt_iff_toNat_lt, index_at hcue] at hthemed
    split_ifs at hthemed ⊢
    · cases hthemed
      rfl
    · exact themed_cue_rethemed htheme hthemed
  | scene htarget hold htheme hname hscene hcues =>
    simp only [Touches]
    split_ifs with hi
    · subst hi
      exact select_scene_rescenes h hcue hcue'
    rw [hcues, List.getElem?_set_ne (Ne.symm hi), hcue, Option.some.injEq] at hcue'
    exact hcue'.symm
  | lock htarget hcues =>
    simp only [Touches]
    rw [hcues] at hcue'
    split_ifs with hi
    · subst hi
      rw [hcue, Option.some.injEq] at htarget
      rw [List.getElem?_set_self (List.getElem?_eq_some_iff.mp hcue).1, Option.some.injEq] at hcue'
      rw [← hcue', htarget]
    · rw [List.getElem?_set_ne (Ne.symm hi), hcue, Option.some.injEq] at hcue'
      exact hcue'.symm
  | again => trivial

/-- An edit of the cues gives the next revision of the same plan. It touches one field of the
cues that it is about, and makes the user their origin. The first cue shows the theme of the plan
after it. -/
theorem an_edit_touches_one_field_and_the_origin (hedit : ∀ input, edit ≠ .Regenerate input)
    (h : planner.apply plan edit = .ok plan') :
    plan.RevisedTo plan' ∧
      plan'.cues.map LightingCue.anchor = plan.cues.map LightingCue.anchor ∧
      (∀ (i : Nat) (cue cue' : LightingCue), plan.cues[i]? = some cue →
        plan'.cues[i]? = some cue' → Touches planner edit i cue cue') ∧
      ∃ decision cue look, plan'.theme_decision = some decision ∧ plan'.cues.head? = some cue ∧
        cue.action = .ApplyLook look ∧ look.theme_id = decision.theme_id ∧
        look.theme_name = decision.theme_name := by
  obtain ⟨hready, hrevised, hchange, _⟩ := apply_ok h
  refine ⟨hrevised, ?_, fun i cue cue' => apply_touches h, ?_⟩
  · cases hchange with
    | edits anchors => exact anchors
    | regenerates input => exact absurd rfl (hedit input)
  · obtain ⟨decision, hdecision⟩ := LightingPlan.decided (hrevised.status.trans hready)
    obtain ⟨_, _, _, hsome, _⟩ := validate_plan_ok.mp plan'.valid
    obtain ⟨cue, rest, hrest⟩ := List.exists_cons_of_ne_nil hsome
    have hhead : plan'.cues.head? = some cue := by rw [hrest]; rfl
    obtain ⟨look, hlook, hid, hname⟩ :=
      shows_other_theme_eq_false.mp (LightingPlan.first_cue_shows hdecision hhead)
    exact ⟨decision, cue, look, hdecision, hhead, hlook, hid, hname⟩

end frames

open sample

/-- A theme from the second phrase on leaves the first cue. -/
theorem a_theme_from_the_second_phrase_leaves_the_first :
    ∃ plan plan', DeterministicPlanner.epic_one.apply plan (.SelectThemeFromPhrase 1 ⟨3⟩) =
        .ok plan' ∧
      ∀ (i : Nat) (cue cue' : LightingCue), plan.cues[i]? = some cue →
        plan'.cues[i]? = some cue' →
        Touches DeterministicPlanner.epic_one (.SelectThemeFromPhrase 1 ⟨3⟩) i cue cue' := by
  obtain ⟨plan, _, hrun⟩ := exists_generated
    (show generates (fun plan => DeterministicPlanner.epic_one.apply plan
      (.SelectThemeFromPhrase 1 ⟨3⟩) = .ok (edited plan [.SelectThemeFromPhrase 1 ⟨3⟩])) = true
      by decide +kernel)
  have happly := of_decide_eq_true hrun
  obtain ⟨_, _, htouches, _⟩ := an_edit_touches_one_field_and_the_origin (fun _ => by simp) happly
  exact ⟨plan, _, happly, htouches⟩

/-- The lock of a cue also changes its origin. -/
theorem a_lock_changes_the_origin_of_its_cue :
    ∃ plan plan' cue cue', plan.status = .Ready ∧
      DeterministicPlanner.epic_one.set_cue_lock plan 1 true = .ok plan' ∧
      plan.cues[1]? = some cue ∧ plan'.cues[1]? = some cue' ∧ cue.origin = .Automatic ∧
      cue'.origin = .User := by
  obtain ⟨plan, _, hrun⟩ := exists_generated
    (show generates (fun plan => plan.status = .Ready ∧
      DeterministicPlanner.epic_one.set_cue_lock plan 1 true = .ok (locked plan 1) ∧
      plan.cues[1]?.map (·.origin) = some .Automatic ∧
      (locked plan 1).cues[1]?.map (·.origin) = some .User) = true by decide +kernel)
  obtain ⟨hready, hlock, hcue, hcue'⟩ := of_decide_eq_true hrun
  obtain ⟨cue, hcue, horigin⟩ := Option.map_eq_some_iff.mp hcue
  obtain ⟨cue', hcue', horigin'⟩ := Option.map_eq_some_iff.mp hcue'
  exact ⟨plan, _, cue, cue', hready, hlock, hcue, hcue', horigin, horigin'⟩

end lumi_planner
