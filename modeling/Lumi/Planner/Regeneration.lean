-- The laws of regeneration. A plan that is generated anew keeps the locked
-- cues that still fit; but the new theme is chosen without the history that
-- the first choice had, and a locked first cue may show another theme.
import Lumi.Planner.Planner

open rust lumi_domain
open Outcome (bind_eq_ok collect_eq_ok collect_succeeds guard_eq_ok lift_eq_ok map_err_eq_ok
  ok_bind ok_or_eq_ok)

namespace lumi_planner

open LightingPlan (decided revised_with_theme_decision_ok try_new_with_theme_decision_eq_ok)

/-! ## Themes from the catalog -/

/-- The decision names a theme of the catalog as the catalog does. -/
def Catalogued (planner : DeterministicPlanner) (decision : ThemeDecision) : Prop :=
  planner.theme decision.theme_id = some ⟨decision.theme_id, decision.theme_name⟩

section regeneration

open DeterministicPlanner

variable {planner : DeterministicPlanner} {plan plan' generated : LightingPlan}
  {input : PlanningInput} {phrases : List TrackPhrase} {phrase : TrackPhrase}
  {theme theme' : ThemeDefinition} {decision : ThemeDecision} {theme_id : ThemeId}
  {theme_name : String} {seed : UInt64} {context : ThemeSelectionContext} {plan_id : PlanId}
  {cues : List LightingCue} {cue cue' : LightingCue} {edit : PlanEdit} {phrase_index : UInt16}
  {i : Nat}

theorem theme_id_eq (h : planner.theme theme_id = some theme) : theme.id = theme_id := by
  have hfound := List.find?_some h
  simpa using hfound

/-- The decision is for the theme. -/
def DecidesFor (theme : ThemeDefinition) (decision : ThemeDecision) : Prop :=
  decision.theme_id = theme.id ∧ decision.theme_name = theme.name

theorem DecidesFor.theme_eq (h : DecidesFor theme decision) :
    theme = ⟨decision.theme_id, decision.theme_name⟩ := by
  rw [h.1, h.2]

theorem DecidesFor.catalogued (h : DecidesFor theme decision)
    (htheme : planner.theme theme_id = some theme) : Catalogued planner decision := by
  unfold Catalogued
  rw [← h.theme_eq, h.1, theme_id_eq htheme, htheme]

variable {reason : ThemeSelectionReason} {track : PlannerTrack} {scene_id : SceneId}
  {scene_name : String} {look : LightingLook} {origin : CueOrigin}
  {chosen decision' : ThemeDecision}

theorem try_new_decision_eq_ok {matched_color : Option UInt32} :
    ThemeDecision.try_new theme_id theme_name reason matched_color = .ok decision ↔
      ∃ named, decision = ⟨theme_id, theme_name, reason, matched_color, named⟩ := by
  unfold ThemeDecision.try_new
  split
  · rename_i hblank
    simp [hblank]
  rename_i hnamed
  simp [hnamed, eq_comm]

theorem decision_catalogued {color : Option UInt32}
    (h : planner.decision theme_id reason color = .ok decision) : Catalogued planner decision := by
  simp only [DeterministicPlanner.decision, bind_eq_ok, ok_or_eq_ok, lift_eq_ok,
    try_new_decision_eq_ok] at h
  obtain ⟨theme, htheme, _, rfl⟩ := h
  exact DecidesFor.catalogued ⟨rfl, rfl⟩ htheme

theorem select_color_theme_catalogued {color : TrackColor} {modes : List ThemeColorRuleMode}
    (h : planner.select_color_theme seed color context modes = some (.ok decision)) :
    Catalogued planner decision := by
  induction modes with
  | nil => cases h
  | cons mode modes ih =>
    unfold select_color_theme at h
    split at h
    · exact ih h
    simp only [Option.some.injEq] at h
    obtain ⟨theme_id, _, hdecision⟩ := bind_eq_ok.mp h
    exact decision_catalogued hdecision

theorem select_policy_theme_catalogued
    (h : planner.select_policy_theme track seed context = .ok decision) :
    Catalogued planner decision := by
  unfold select_policy_theme at h
  extract_lets at h
  split at h
  · cases h
  split at h
  · exact decision_catalogued h
  obtain ⟨theme_id, _, hdecision⟩ := bind_eq_ok.mp h
  exact decision_catalogued hdecision

theorem select_rotation_theme_catalogued
    (h : planner.select_rotation_theme seed context = .ok decision) :
    Catalogued planner decision := by
  simp only [select_rotation_theme] at h
  split at h
  · exact decision_catalogued h
  split at h
  · exact decision_catalogued h
  obtain ⟨candidate, _, hdecision⟩ := bind_eq_ok.mp h
  exact decision_catalogued hdecision

/-- Whatever the rules and the history, the theme comes from the catalog. -/
theorem select_initial_theme_catalogued
    (h : planner.select_initial_theme track seed context = .ok decision) :
    Catalogued planner decision := by
  unfold select_initial_theme at h
  split at h
  · exact decision_catalogued h
  split at h
  · exact select_policy_theme_catalogued h
  split at h
  · rename_i selected hcolor
    obtain ⟨color, _, hselected⟩ := Option.bind_eq_some_iff.mp hcolor
    rw [h] at hselected
    exact select_color_theme_catalogued hselected
  · exact select_rotation_theme_catalogued h

/-! ## Cues of a theme -/

/-- The cue shows the theme. -/
def Shows (theme : ThemeDefinition) (cue : LightingCue) : Prop :=
  ∃ look, cue.action = .ApplyLook look ∧ look.theme_id = theme.id ∧ look.theme_name = theme.name

theorem try_new_look_eq_ok {category : SceneCategory} {loop_selection : LoopSelection} :
    LightingLook.try_new theme_id theme_name scene_id scene_name category loop_selection =
        .ok look ↔
      ∃ theme_named scene_named, look = ⟨theme_id, theme_name, scene_id, scene_name, category,
        loop_selection, theme_named, scene_named⟩ := by
  unfold LightingLook.try_new
  split
  · rename_i hblank
    simp [hblank]
  rename_i hnamed
  split
  · rename_i hblank
    simp [hblank]
  rename_i hscene
  simp [hnamed, hscene, eq_comm]

theorem try_new_look_of_named (theme_id : ThemeId) (scene_id : SceneId) (category : SceneCategory)
    (loop_selection : LoopSelection) (ht : is_blank theme_name = false)
    (hs : is_blank scene_name = false) :
    LightingLook.try_new theme_id theme_name scene_id scene_name category loop_selection =
      .ok ⟨theme_id, theme_name, scene_id, scene_name, category, loop_selection, ht, hs⟩ :=
  try_new_look_eq_ok.mpr ⟨ht, hs, rfl⟩

/-- A cue in another theme stays in its place, with its reason and its lock. -/
theorem themed_cue_ok (h : themed_cue theme origin cue = .ok cue') :
    cue'.place = cue.place ∧ cue'.reason = cue.reason ∧ cue'.locked = cue.locked ∧
      cue'.origin = origin ∧ Shows theme cue' := by
  unfold themed_cue at h
  split at h
  · simp only [bind_eq_ok, lift_eq_ok, try_new_look_eq_ok] at h
    obtain ⟨_, ⟨_, _, rfl⟩, hcue⟩ := h
    cases hcue
    exact ⟨rfl, rfl, rfl, rfl, _, rfl, rfl, rfl⟩
  · cases h

theorem themed_cue_of_look (origin : CueOrigin) (hlook : cue.action = .ApplyLook look)
    (hnamed : is_blank theme.name = false) : ∃ cue', themed_cue theme origin cue = .ok cue' := by
  unfold themed_cue
  rw [hlook]
  simp only [try_new_look_of_named _ _ _ _ hnamed look.scene_named]
  exact ⟨_, rfl⟩

/-- The place of the cue for a phrase. -/
def phrase_place (plan_id : PlanId) (phrase : TrackPhrase) : CueId × UInt16 × UInt32 × UInt32 :=
  (cue_id plan_id phrase.index, phrase.index, phrase.start_beat, phrase.end_beat)

/-- The cue that the planner gives to a phrase. -/
structure Fresh (plan_id : PlanId) (theme : ThemeDefinition) (phrase : TrackPhrase)
    (cue : LightingCue) : Prop where
  place : cue.place = phrase_place plan_id phrase
  category : cue_category cue = .ok (category_for phrase.kind)
  origin : cue.origin = .Automatic
  unlocked : cue.locked = false
  shows : Shows theme cue

theorem plan_phrase_fresh (h : planner.plan_phrase seed plan_id theme phrase = .ok cue) :
    Fresh plan_id theme phrase cue := by
  simp only [plan_phrase, bind_eq_ok, lift_eq_ok, try_new_look_eq_ok] at h
  obtain ⟨_, _, _, _, _, ⟨_, _, rfl⟩, h⟩ := h
  cases h
  exact ⟨rfl, rfl, rfl, rfl, _, rfl, rfl, rfl⟩

/-- The choice of the scene does not look at the theme. -/
theorem plan_phrase_any_theme (h : planner.plan_phrase seed plan_id theme phrase = .ok cue)
    (hnamed : is_blank theme'.name = false) :
    ∃ cue', planner.plan_phrase seed plan_id theme' phrase = .ok cue' := by
  simp only [plan_phrase, bind_eq_ok, lift_eq_ok, try_new_look_eq_ok] at h ⊢
  obtain ⟨scene_index, hindex, scene, hscene, _, ⟨_, hscene_named, rfl⟩, _⟩ := h
  exact ⟨_, scene_index, hindex, scene, hscene, _, ⟨hnamed, hscene_named, rfl⟩, rfl⟩

theorem Fresh.themed (h : Fresh plan_id theme phrase cue)
    (hthemed : themed_cue theme' cue.origin cue = .ok cue') : Fresh plan_id theme' phrase cue' := by
  obtain ⟨hplace, hreason, hlocked, horigin, hshows⟩ := themed_cue_ok hthemed
  refine ⟨hplace.trans h.place, ?_, horigin.trans h.origin, hlocked.trans h.unlocked, hshows⟩
  unfold cue_category
  rw [hreason]
  exact h.category

/-! ## Generated plans -/

/-- The phrases of the input, when they cover the track. -/
def complete_phrases (input : PlanningInput) : Option (List TrackPhrase) :=
  input.track.phrases.filter (analysis_is_complete · input.track.duration_beats)

/-- A plan with a fresh cue for every phrase, all in one theme. -/
structure GeneratedAs (planner : DeterministicPlanner) (input : PlanningInput)
    (theme : ThemeDefinition) (plan : LightingPlan) : Prop where
  id : plan.id = planner.plan_id_of input
  deck_id : plan.deck_id = input.deck_id
  track_id : plan.track_id = input.track.id
  track_duration_beats : plan.track_duration_beats = input.track.duration_beats
  track_load_id : plan.track_load_id = input.track_load_id
  configuration_revision : plan.configuration_revision = planner.configuration.revision
  status : plan.status = .Ready
  cues : ∃ phrases, complete_phrases input = some phrases ∧
    List.Forall₂ (Fresh (planner.plan_id_of input) theme) phrases plan.cues

theorem plan_cues_eq_ok :
    planner.plan_cues input context = .ok (some decision, cues) ↔
      planner.select_initial_theme input.track (planner.seed_of input) context = .ok decision ∧
        ∃ phrases, complete_phrases input = some phrases ∧
          planner.plan_analyzed_phrases (planner.seed_of input) (planner.plan_id_of input) phrases
            ⟨decision.theme_id, decision.theme_name⟩ = .ok cues := by
  unfold plan_cues
  extract_lets seed plan_id
  constructor
  · intro h
    split at h
    · rename_i phrases hphrases
      simp only [bind_eq_ok, ok_or_eq_ok] at h
      obtain ⟨_, hselect, theme, htheme, _, hcues, h⟩ := h
      cases h
      obtain rfl := Option.some.inj ((select_initial_theme_catalogued hselect).symm.trans htheme)
      exact ⟨hselect, phrases, hphrases, hcues⟩
    · cases h
  · rintro ⟨hselect, phrases, hphrases, hcues⟩
    have htheme := select_initial_theme_catalogued hselect
    unfold Catalogued at htheme
    unfold complete_phrases at hphrases
    simp only [hphrases, seed, plan_id, hselect, ok_bind, htheme, Outcome.ok_or, hcues]

theorem plan_analyzed_phrases_fresh
    (h : planner.plan_analyzed_phrases seed plan_id phrases theme = .ok cues) :
    List.Forall₂ (Fresh plan_id theme) phrases cues :=
  (collect_eq_ok.mp h).imp fun _ _ => plan_phrase_fresh

theorem fresh_places (h : List.Forall₂ (Fresh plan_id theme) phrases cues) :
    cues.map LightingCue.place = phrases.map (phrase_place plan_id) :=
  (map_eq_of_forall₂ h fun _ _ hfresh => hfresh.place.symm).symm

/-- A generated plan with a theme: the theme is the one of the selection. -/
theorem generate_with_context_ok (h : planner.generate_with_context input context = .ok plan)
    (hdecision : plan.theme_decision = some decision) :
    planner.plan_cues input context = .ok (some decision, plan.cues) ∧
      GeneratedAs planner input ⟨decision.theme_id, decision.theme_name⟩ plan := by
  have hready := plan.ready_iff_decided.mpr (by simp [hdecision])
  simp only [generate_with_context, guard_eq_ok, bind_eq_ok, lift_eq_ok,
    try_new_with_theme_decision_eq_ok] at h
  obtain ⟨_, ⟨theme_decision, cues⟩, hcues, _, rfl⟩ := h
  cases hdecision
  obtain ⟨_, phrases, hphrases, hplanned⟩ := plan_cues_eq_ok.mp hcues
  exact ⟨hcues, rfl, rfl, rfl, rfl, rfl, rfl, hready, phrases, hphrases,
    plan_analyzed_phrases_fresh hplanned⟩

/-- The planner can make a plan for the input, in any theme that has a name. -/
structure Plannable (planner : DeterministicPlanner) (input : PlanningInput)
    (phrases : List TrackPhrase) : Prop where
  complete : complete_phrases input = some phrases
  duration : input.track.duration_beats ≠ 0
  configured : planner.configuration.revision.value ≠ 0
  not_empty : phrases ≠ []
  planned : ∀ theme : ThemeDefinition, is_blank theme.name = false → ∃ cues,
    planner.plan_analyzed_phrases (planner.seed_of input) (planner.plan_id_of input) phrases theme =
      .ok cues
  walked : ∀ cues : List LightingCue,
    cues.map LightingCue.place = phrases.map (phrase_place (planner.plan_id_of input)) →
      walk_cues [] 0 0 false cues =
        .ok (input.track.duration_beats, cues.any (·.origin == .Fallback))

/-- An input with one plan in a theme has a plan in every theme. -/
theorem plannable_of_generated (h : planner.generate_with_context input context = .ok plan)
    (hready : plan.status = .Ready) : ∃ phrases, Plannable planner input phrases := by
  obtain ⟨decision, hdecision⟩ := decided hready
  obtain ⟨hcues, hgenerated⟩ := generate_with_context_ok h hdecision
  obtain ⟨_, phrases, hphrases, hplanned⟩ := plan_cues_eq_ok.mp hcues
  have hplaces := fresh_places (plan_analyzed_phrases_fresh hplanned)
  obtain ⟨_, hconfigured, hduration, hne, f, hwalk, _⟩ := validate_plan_ok.mp plan.valid
  rw [hgenerated.track_duration_beats] at hduration hwalk
  rw [hgenerated.configuration_revision] at hconfigured
  refine ⟨phrases, hphrases, hduration, hconfigured, ?_, ?_, ?_⟩
  · rintro rfl
    rw [List.map_nil, List.map_eq_nil_iff] at hplaces
    exact hne hplaces
  · intro theme hnamed
    have hall := collect_succeeds.mp ⟨_, hplanned⟩
    apply collect_succeeds.mpr
    intro phrase hphrase
    obtain ⟨cue, hcue⟩ := hall phrase hphrase
    exact plan_phrase_any_theme hcue hnamed
  · intro cues hcues
    rw [walk_cues_of_places (hplaces.trans hcues.symm) hwalk, Bool.false_or]

/-- Cues in the places of the phrases pass the check of a ready plan when the first of them
shows the theme. -/
theorem Plannable.valid (h : Plannable planner input phrases) (revision : PlanRevision)
    (decision : ThemeDecision) (hrevision : revision.value ≠ 0)
    (hplaces : cues.map LightingCue.place = phrases.map (phrase_place (planner.plan_id_of input)))
    (horigin : ∀ cue ∈ cues, cue.origin ≠ .Fallback)
    (hshows : ∀ cue, cues.head? = some cue → shows_other_theme decision cue = false) :
    validate_plan input.track.duration_beats revision planner.configuration.revision .Ready
      (some decision) cues = .ok () := by
  have hnone : cues.any (·.origin == .Fallback) = false := by simpa using horigin
  refine validate_plan_ok.mpr ⟨hrevision, h.configured, h.duration, ?_, false, ?_, ?_, ?_, ?_⟩
  · rintro rfl
    exact h.not_empty (List.map_eq_nil_iff.mp hplaces.symm)
  · rw [h.walked cues hplaces, hnone]
  · intro _
    exact ⟨rfl, Option.some_ne_none _⟩
  · intro hstatus
    cases hstatus
  · intro decision' hdecision' cue hcue
    cases hdecision'
    exact hshows cue hcue

theorem fresh_shows (h : List.Forall₂ (Fresh plan_id theme) phrases cues)
    (hdecides : DecidesFor theme decision) (hcue : cue ∈ cues) :
    shows_other_theme decision cue = false := by
  obtain ⟨_, _, hfresh⟩ := mem_of_forall₂ h hcue
  obtain ⟨look, hlook, hid, hname⟩ := hfresh.shows
  exact shows_other_theme_eq_false.mpr
    ⟨look, hlook, hid.trans hdecides.1.symm, hname.trans hdecides.2.symm⟩

theorem fresh_not_fallback (h : List.Forall₂ (Fresh plan_id theme) phrases cues)
    (hcue : cue ∈ cues) : cue.origin ≠ .Fallback := by
  obtain ⟨_, _, hfresh⟩ := mem_of_forall₂ h hcue
  rw [hfresh.origin]
  exact CueOrigin.noConfusion

/-- A plan is generated as soon as the selection of the theme succeeds. -/
theorem Plannable.generate_with_context (h : Plannable planner input phrases)
    (hselect : planner.select_initial_theme input.track (planner.seed_of input) context =
      .ok chosen) :
    ∃ plan, planner.generate_with_context input context = .ok plan ∧
      plan.theme_decision = some chosen ∧
      GeneratedAs planner input ⟨chosen.theme_id, chosen.theme_name⟩ plan := by
  obtain ⟨cues, hcues⟩ := h.planned ⟨chosen.theme_id, chosen.theme_name⟩ chosen.named
  have hfresh := plan_analyzed_phrases_fresh hcues
  have hvalid := h.valid PlanRevision.initial chosen (by decide) (fresh_places hfresh)
    (fun _ => fresh_not_fallback hfresh)
    (fun cue hcue => fresh_shows hfresh ⟨rfl, rfl⟩ (List.mem_of_head? hcue))
  have hplan_cues : planner.plan_cues input context = .ok (some chosen, cues) :=
    plan_cues_eq_ok.mpr ⟨hselect, phrases, h.complete, hcues⟩
  have hstatus : cues.any (·.origin == .Fallback) = false := by
    simpa using fun cue => fresh_not_fallback hfresh
  unfold DeterministicPlanner.generate_with_context
  rw [if_neg h.duration, hplan_cues]
  simp only [ok_bind, hstatus, Bool.false_eq_true, ↓reduceIte, lift_eq_ok,
    try_new_with_theme_decision_eq_ok]
  exact ⟨_, ⟨hvalid, rfl⟩, rfl, rfl, rfl, rfl, rfl, rfl, rfl, rfl, phrases, h.complete, hfresh⟩

/-- The generated plan in another theme of the catalog. -/
theorem Plannable.retheme (h : Plannable planner input phrases) (theme' : ThemeDefinition)
    (hplan : GeneratedAs planner input theme plan)
    (htheme : planner.theme theme'.id = some theme') (hnamed : is_blank theme'.name = false) :
    ∃ plan' decision, planner.retheme_generated plan theme'.id = .ok plan' ∧
      plan'.theme_decision = some decision ∧ DecidesFor theme' decision ∧
      GeneratedAs planner input theme' plan' := by
  obtain ⟨phrases', hphrases', hfresh⟩ := hplan.cues
  rw [h.complete, Option.some.injEq] at hphrases'
  subst hphrases'
  obtain ⟨cues, hcues⟩ : ∃ cues,
      Outcome.collect (fun cue => themed_cue theme' cue.origin cue) plan.cues = .ok cues := by
    apply collect_succeeds.mpr
    intro cue hcue
    obtain ⟨_, _, hcue⟩ := mem_of_forall₂ hfresh hcue
    obtain ⟨look, hlook, _⟩ := hcue.shows
    exact themed_cue_of_look cue.origin hlook hnamed
  have hfresh' : List.Forall₂ (Fresh (planner.plan_id_of input) theme') phrases cues :=
    forall₂_comp hfresh (collect_eq_ok.mp hcues) fun _ _ _ hcue hthemed =>
      hcue.themed hthemed
  let decision : ThemeDecision := ⟨theme'.id, theme'.name, .PlanInstanceUserChoice, none, hnamed⟩
  have hdecision : ThemeDecision.try_new theme'.id theme'.name .PlanInstanceUserChoice none =
      .ok decision := try_new_decision_eq_ok.mpr ⟨hnamed, rfl⟩
  have hvalid : validate_plan plan.track_duration_beats plan.revision plan.configuration_revision
      plan.status (some decision) cues = .ok () := by
    rw [hplan.track_duration_beats, hplan.configuration_revision, hplan.status]
    apply h.valid plan.revision decision (validate_plan_ok.mp plan.valid).1 (fresh_places hfresh')
    · intro cue
      exact fresh_not_fallback hfresh'
    · intro cue hcue
      exact fresh_shows hfresh' ⟨rfl, rfl⟩ (List.mem_of_head? hcue)
  unfold retheme_generated
  simp only [htheme, Outcome.ok_or, ok_bind, hcues, hdecision, Outcome.lift,
    try_new_with_theme_decision_eq_ok.mpr ⟨hvalid, rfl⟩]
  exact ⟨_, decision, rfl, rfl, ⟨rfl, rfl⟩, hplan.id, hplan.deck_id, hplan.track_id,
    hplan.track_duration_beats, hplan.track_load_id, hplan.configuration_revision, hplan.status,
    phrases, h.complete, hfresh'⟩

/-! ## What an accepted edit does -/

/-- What an edit does to the cues and the theme of a plan. -/
inductive Change (planner : DeterministicPlanner) (plan plan' : LightingPlan) : PlanEdit → Prop
  | edits {edit : PlanEdit}
      (anchors : plan'.cues.map LightingCue.anchor = plan.cues.map LightingCue.anchor)
      (theme : plan'.theme_decision = plan.theme_decision ∨
        ∃ decision, plan'.theme_decision = some decision ∧ Catalogued planner decision) :
      Change planner plan plan' edit
  | regenerates (input : PlanningInput) (generated : LightingPlan)
      (deck : plan.deck_id = input.deck_id) (load : plan.track_load_id = input.track_load_id)
      (track : plan.track_id = input.track.id)
      (again : planner.generate_again plan input = .ok generated)
      (cues : plan'.cues = generated.cues.map (keep_locked plan))
      (theme : plan'.theme_decision = generated.theme_decision) :
      Change planner plan plan' (.Regenerate input)

/-- What an accepted edit makes of the cues of a plan. -/
inductive Recues (planner : DeterministicPlanner) (plan plan' : LightingPlan) : PlanEdit → Prop
  | theme {theme_id : ThemeId} {theme : ThemeDefinition}
      (htheme : planner.theme theme_id = some theme)
      (hcues : List.Forall₂ (fun cue cue' => themed_cue theme .User cue = .ok cue') plan.cues
        plan'.cues) :
      Recues planner plan plan' (.SelectTheme theme_id)
  | theme_from {phrase_index : UInt16} {theme_id : ThemeId} {theme : ThemeDefinition}
      (htheme : planner.theme theme_id = some theme)
      (hcues : List.Forall₂ (fun cue cue' => (if cue.phrase_index < phrase_index then .ok cue
        else themed_cue theme .User cue) = .ok cue') plan.cues plan'.cues) :
      Recues planner plan plan' (.SelectThemeFromPhrase phrase_index theme_id)
  | scene {phrase_index : UInt16} {scene_id : SceneId} {target : LightingCue}
      {old look : LightingLook} (htarget : plan.cues[phrase_index.toNat]? = some target)
      (hold : target.action = .ApplyLook old) (htheme : look.theme_id = old.theme_id)
      (hname : look.theme_name = old.theme_name) (hscene : look.scene_id = scene_id)
      (hcues : plan'.cues = plan.cues.set phrase_index.toNat
        (target.revised (.ApplyLook look) .User target.locked)) :
      Recues planner plan plan' (.SelectScene phrase_index scene_id)
  | lock {phrase_index : UInt16} {locked : Bool} {target : LightingCue}
      (htarget : plan.cues[phrase_index.toNat]? = some target)
      (hcues : plan'.cues = plan.cues.set phrase_index.toNat
        (target.revised target.action .User locked)) :
      Recues planner plan plan' (.SetCueLock phrase_index locked)
  | again {input : PlanningInput} {generated : LightingPlan}
      (hagain : planner.generate_again plan input = .ok generated)
      (htheme : plan'.theme_decision = generated.theme_decision)
      (hcues : plan'.cues = generated.cues.map (DeterministicPlanner.keep_locked plan)) :
      Recues planner plan plan' (.Regenerate input)

/-- The edit is one of a ready plan and gives its next revision. -/
structure AcceptedEdit (planner : DeterministicPlanner) (plan plan' : LightingPlan)
    (edit : PlanEdit) : Prop where
  ready : plan.status = .Ready
  revised : plan.RevisedTo plan'
  change : Change planner plan plan' edit
  recues : Recues planner plan plan' edit

theorem ensure_ready_ok (h : ensure_ready plan = .ok ()) : plan.status = .Ready := by
  unfold ensure_ready at h
  split at h
  · assumption
  · cases h

theorem themed_anchor (h : themed_cue theme origin cue = .ok cue') : cue.anchor = cue'.anchor := by
  obtain ⟨hplace, hreason, _⟩ := themed_cue_ok h
  unfold LightingCue.anchor
  rw [hplace, hreason]

theorem select_theme_ok (h : planner.select_theme plan theme_id = .ok plan') :
    AcceptedEdit planner plan plan' (.SelectTheme theme_id) := by
  simp only [select_theme, bind_eq_ok, guard_eq_ok, lift_eq_ok, ok_or_eq_ok, collect_eq_ok,
    try_new_decision_eq_ok] at h
  obtain ⟨_, hready, theme, htheme, cues, hcues, _, _, ⟨_, rfl⟩, h⟩ := h
  obtain ⟨hrevised, rfl, htheme'⟩ := revised_with_theme_decision_ok h
  refine ⟨ensure_ready_ok hready, hrevised, .edits ?_ (.inr ⟨_, htheme', ?_⟩), .theme htheme hcues⟩
  · exact (map_eq_of_forall₂ hcues fun _ _ => themed_anchor).symm
  · exact DecidesFor.catalogued ⟨rfl, rfl⟩ htheme

theorem select_theme_from_phrase_ok
    (h : planner.select_theme_from_phrase plan phrase_index theme_id = .ok plan') :
    AcceptedEdit planner plan plan' (.SelectThemeFromPhrase phrase_index theme_id) := by
  unfold select_theme_from_phrase at h
  split at h
  · rename_i hzero
    subst hzero
    obtain ⟨hready, hrevised, ⟨hanchors, hdecision⟩, ⟨htheme, hcues⟩⟩ := select_theme_ok h
    refine ⟨hready, hrevised, .edits hanchors hdecision, .theme_from htheme (hcues.imp ?_)⟩
    intro cue cue' hcue
    rwa [if_neg (by simp)]
  · simp only [bind_eq_ok, guard_eq_ok, lift_eq_ok, ok_or_eq_ok, collect_eq_ok] at h
    obtain ⟨_, hready, theme, htheme, _, cues, hcues, _, h⟩ := h
    obtain ⟨hrevised, rfl, hdecision⟩ := revised_with_theme_decision_ok h
    refine ⟨ensure_ready_ok hready, hrevised, .edits ?_ (.inl hdecision), .theme_from htheme hcues⟩
    refine (map_eq_of_forall₂ hcues fun cue cue' hcue => ?_).symm
    split at hcue
    · cases hcue
      rfl
    · exact themed_anchor hcue

/-- The end of the edits of one cue. -/
theorem set_cue_revises
    (h : (vec_set plan.cues i cue >>= fun cues =>
      Outcome.lift PlanMutationError.InvalidPlan (plan.revised cues)) = .ok plan') :
    plan.revised_with_theme_decision (plan.cues.set i cue) plan.theme_decision = .ok plan' := by
  obtain ⟨cues, hset, h⟩ := bind_eq_ok.mp h
  unfold vec_set at hset
  split at hset
  · cases hset
    exact lift_eq_ok.mp h
  · cases hset

/-- One cue is revised in its place. -/
theorem revised_cue_ok {target : LightingCue}
    (htarget : plan.cues[phrase_index.toNat]? = some target)
    (h : (vec_set plan.cues phrase_index.toNat cue >>= fun cues =>
      Outcome.lift PlanMutationError.InvalidPlan (plan.revised cues)) = .ok plan')
    (hanchor : cue.anchor = target.anchor) :
    plan.RevisedTo plan' ∧ Change planner plan plan' edit ∧
      plan'.cues = plan.cues.set phrase_index.toNat cue := by
  obtain ⟨hrevised, hcues, htheme⟩ := revised_with_theme_decision_ok (set_cue_revises h)
  exact ⟨hrevised, .edits (hcues ▸ map_set_eq htarget hanchor) (.inl htheme), hcues⟩

theorem select_scene_ok (h : planner.select_scene plan phrase_index scene_id = .ok plan') :
    AcceptedEdit planner plan plan' (.SelectScene phrase_index scene_id) := by
  obtain ⟨_, hready, h⟩ := bind_eq_ok.mp h
  obtain ⟨scene, hscene, h⟩ := bind_eq_ok.mp h
  obtain ⟨target, htarget, h⟩ := bind_eq_ok.mp h
  obtain ⟨category, _, h⟩ := bind_eq_ok.mp h
  rw [ok_or_eq_ok] at hscene htarget
  replace h := (guard_eq_ok.mp h).2
  split at h
  · cases h
  rename_i old hold
  obtain ⟨look, hlook, h⟩ := bind_eq_ok.mp (guard_eq_ok.mp h).2
  obtain ⟨_, _, rfl⟩ := try_new_look_eq_ok.mp (lift_eq_ok.mp hlook)
  obtain ⟨hrevised, hchange, hcues⟩ := revised_cue_ok htarget h rfl
  have hid : scene.id = scene_id := by simpa using List.find?_some hscene
  exact ⟨ensure_ready_ok hready, hrevised, hchange,
    .scene htarget hold (by rfl) (by rfl) (by exact hid) hcues⟩

theorem set_cue_lock_ok {locked : Bool}
    (h : planner.set_cue_lock plan phrase_index locked = .ok plan') :
    AcceptedEdit planner plan plan' (.SetCueLock phrase_index locked) := by
  obtain ⟨_, hready, h⟩ := bind_eq_ok.mp h
  obtain ⟨target, htarget, h⟩ := bind_eq_ok.mp h
  rw [ok_or_eq_ok] at htarget
  obtain ⟨hrevised, hchange, hcues⟩ := revised_cue_ok htarget (guard_eq_ok.mp h).2 rfl
  exact ⟨ensure_ready_ok hready, hrevised, hchange, .lock htarget hcues⟩

theorem regenerate_ok (h : planner.regenerate plan input = .ok plan') :
    plan.status = .Ready ∧ plan.RevisedTo plan' ∧ ∃ generated,
      plan.deck_id = input.deck_id ∧ plan.track_load_id = input.track_load_id ∧
      plan.track_id = input.track.id ∧ planner.generate_again plan input = .ok generated ∧
      plan'.cues = generated.cues.map (keep_locked plan) ∧
      plan'.theme_decision = generated.theme_decision := by
  simp only [regenerate, bind_eq_ok, guard_eq_ok, lift_eq_ok, not_or, not_not] at h
  obtain ⟨_, hready, ⟨hdeck, hload, htrack⟩, generated, hagain, h⟩ := h
  obtain ⟨hrevised, hcues, htheme⟩ := revised_with_theme_decision_ok h
  exact ⟨ensure_ready_ok hready, hrevised, generated, hdeck, hload, htrack, hagain, hcues, htheme⟩

/-- Every accepted edit is of a ready plan, gives its next revision, and changes the cues in one
of two ways. -/
theorem apply_ok (h : planner.apply plan edit = .ok plan') :
    AcceptedEdit planner plan plan' edit := by
  cases edit with
  | SelectTheme theme_id => exact select_theme_ok h
  | SelectThemeFromPhrase phrase_index theme_id => exact select_theme_from_phrase_ok h
  | SelectScene phrase_index scene_id => exact select_scene_ok h
  | SetCueLock phrase_index locked => exact set_cue_lock_ok h
  | Regenerate input =>
    obtain ⟨hready, hrevised, generated, hdeck, hload, htrack, hagain, hcues, htheme⟩ :=
      regenerate_ok h
    exact ⟨hready, hrevised, .regenerates input generated hdeck hload htrack hagain hcues htheme,
      .again hagain htheme hcues⟩

/-! ## The plan that is generated again -/

/-- The user chose the theme of the plan. -/
def UserChose (plan : LightingPlan) : Prop :=
  ∃ decision, plan.theme_decision = some decision ∧ decision.reason = .PlanInstanceUserChoice

theorem retheme_generated_ok (input : PlanningInput)
    (h : planner.retheme_generated plan theme_id = .ok plan') :
    ∃ theme decision, planner.theme theme_id = some theme ∧
      plan'.theme_decision = some decision ∧ DecidesFor theme decision ∧
      (∀ theme', GeneratedAs planner input theme' plan → GeneratedAs planner input theme plan') ∧
      plan'.status = plan.status := by
  simp only [retheme_generated, bind_eq_ok, ok_or_eq_ok, lift_eq_ok, collect_eq_ok,
    try_new_decision_eq_ok, try_new_with_theme_decision_eq_ok] at h
  obtain ⟨theme, htheme, cues, hcues, _, ⟨_, rfl⟩, _, rfl⟩ := h
  refine ⟨theme, _, htheme, rfl, ⟨rfl, rfl⟩, fun theme' hplan => ?_, rfl⟩
  obtain ⟨phrases, hphrases, hfresh⟩ := hplan.cues
  exact ⟨hplan.id, hplan.deck_id, hplan.track_id, hplan.track_duration_beats, hplan.track_load_id,
    hplan.configuration_revision, hplan.status, phrases, hphrases,
    forall₂_comp hfresh hcues fun _ _ _ hcue hthemed => hcue.themed hthemed⟩

/-- The plan that is generated again is in the theme that is selected without a history, or in
the one that the user chose. -/
theorem generate_again_ok (h : planner.generate_again plan input = .ok generated)
    (hdecision : generated.theme_decision = some decision) :
    GeneratedAs planner input ⟨decision.theme_id, decision.theme_name⟩ generated ∧
      Catalogued planner decision ∧ ∃ chosen,
        planner.select_initial_theme input.track (planner.seed_of input) .default = .ok chosen ∧
          (UserChose plan ∨ decision = chosen) := by
  unfold generate_again at h
  obtain ⟨first, hfirst, h⟩ := bind_eq_ok.mp h
  rw [map_err_eq_ok] at hfirst
  split at h
  · rename_i chosen_by_user huser
    obtain ⟨huser, hreason⟩ := Option.filter_eq_some_iff.mp huser
    obtain ⟨theme, decision', htheme, hdecision', hdecides, hgenerated, hstatus⟩ :=
      retheme_generated_ok input h
    rw [hdecision, Option.some.injEq] at hdecision'
    subst hdecision'
    -- A plan with a theme is ready, and so is the one that it comes from.
    have hready : first.status = .Ready := by
      rw [← hstatus]
      exact generated.ready_iff_decided.mpr (by rw [hdecision]; exact Option.some_ne_none _)
    obtain ⟨chosen, hchosen⟩ := decided hready
    obtain ⟨hcues, hfirst⟩ := generate_with_context_ok hfirst hchosen
    refine ⟨?_, hdecides.catalogued htheme, chosen, (plan_cues_eq_ok.mp hcues).1, .inl ?_⟩
    · rw [← hdecides.theme_eq]
      exact hgenerated _ hfirst
    · exact ⟨chosen_by_user, huser, by simpa using hreason⟩
  · cases h
    obtain ⟨hcues, hgenerated⟩ := generate_with_context_ok hfirst hdecision
    have hselect := (plan_cues_eq_ok.mp hcues).1
    exact ⟨hgenerated, select_initial_theme_catalogued hselect, decision, hselect, .inr rfl⟩

/-- Once the selection without a history succeeds, the plan can be generated again. -/
theorem Plannable.generate_again (h : Plannable planner input phrases)
    (hdecision : plan.theme_decision = some decision) (hcatalogued : Catalogued planner decision)
    (hselect : planner.select_initial_theme input.track (planner.seed_of input) .default =
      .ok chosen) :
    ∃ generated decision', planner.generate_again plan input = .ok generated ∧
      generated.theme_decision = some decision' ∧
      (if decision.reason = .PlanInstanceUserChoice
        then DecidesFor ⟨decision.theme_id, decision.theme_name⟩ decision'
        else decision' = chosen) := by
  obtain ⟨first, hfirst, hchosen, hgenerated⟩ := h.generate_with_context hselect
  unfold DeterministicPlanner.generate_again DeterministicPlanner.generate
  rw [hfirst, hdecision]
  by_cases huser : decision.reason = .PlanInstanceUserChoice
  · obtain ⟨generated, decision', hretheme, hdecision', hdecides, _⟩ :=
      h.retheme ⟨decision.theme_id, decision.theme_name⟩ hgenerated hcatalogued decision.named
    refine ⟨generated, decision', ?_, hdecision', ?_⟩
    · simpa [Outcome.map_err, Option.filter, huser] using hretheme
    · rw [if_pos huser]
      exact hdecides
  · refine ⟨first, chosen, ?_, hchosen, ?_⟩
    · simp [Outcome.map_err, Option.filter, huser]
    · rw [if_neg huser]

/-! ## Locked cues -/

/-- The locked cue lies where the new one does, and is for the same category. -/
def FitsOver (locked cue : LightingCue) : Prop :=
  locked.start_beat = cue.start_beat ∧ locked.end_beat = cue.end_beat ∧
    (cue_category locked).toOption = (cue_category cue).toOption

theorem keep_locked_cases (plan : LightingPlan) (cue : LightingCue) :
    keep_locked plan cue = cue ∨
      ∃ locked, plan.cues[cue.phrase_index.toNat]? = some locked ∧ locked.locked = true ∧
        FitsOver locked cue ∧ keep_locked plan cue = locked := by
  unfold keep_locked
  split
  · exact .inl rfl
  rename_i locked hlocked
  obtain ⟨hcue, hlocked⟩ := Option.filter_eq_some_iff.mp hlocked
  split
  · rename_i hfits
    exact .inr ⟨locked, hcue, hlocked, hfits, rfl⟩
  · exact .inl rfl

/-- What holds of the new cue, and of a locked one that fits in its place, holds of the one that
the regeneration takes. -/
theorem keep_locked_keeps {P : LightingCue → Prop} (hcue : P cue)
    (hlocked : ∀ locked, plan.cues[cue.phrase_index.toNat]? = some locked → locked.locked = true →
      FitsOver locked cue → P locked) : P (keep_locked plan cue) := by
  rcases keep_locked_cases plan cue with hkeep | ⟨locked, hplace, hlock, hfits, hkeep⟩
  · rwa [hkeep]
  rw [hkeep]
  exact hlocked locked hplace hlock hfits

theorem keep_locked_of_fits {locked : LightingCue}
    (h : plan.cues[cue.phrase_index.toNat]? = some locked) (hlocked : locked.locked = true)
    (hfits : FitsOver locked cue) : keep_locked plan cue = locked := by
  unfold keep_locked
  rw [h, Option.filter_some_pos hlocked]
  exact if_pos hfits

/-! ## The plans that edits reach -/

/-- The plan is one for the loaded track of the input: its cues have the ids of their phrases, and
its theme comes from the catalog. -/
structure Belongs (planner : DeterministicPlanner) (input : PlanningInput)
    (plan : LightingPlan) : Prop where
  id : plan.id = planner.plan_id_of input
  deck_id : plan.deck_id = input.deck_id
  track_id : plan.track_id = input.track.id
  track_duration_beats : plan.track_duration_beats = input.track.duration_beats
  track_load_id : plan.track_load_id = input.track_load_id
  configuration_revision : plan.configuration_revision = planner.configuration.revision
  cue_ids : ∀ anchor ∈ plan.cues.map LightingCue.anchor,
    anchor.1.1 = cue_id plan.id anchor.1.2.1
  catalogued : ∀ decision, plan.theme_decision = some decision → Catalogued planner decision

theorem Belongs.cue_id (h : Belongs planner input plan) (hcue : cue ∈ plan.cues) :
    cue.id = lumi_planner.cue_id plan.id cue.phrase_index :=
  h.cue_ids cue.anchor (List.mem_map_of_mem hcue)

theorem GeneratedAs.belongs
    (h : GeneratedAs planner input ⟨decision.theme_id, decision.theme_name⟩ plan)
    (hdecision : plan.theme_decision = some decision) (hcatalogued : Catalogued planner decision) :
    Belongs planner input plan := by
  refine ⟨h.id, h.deck_id, h.track_id, h.track_duration_beats, h.track_load_id,
    h.configuration_revision, ?_, ?_⟩
  · intro anchor hanchor
    obtain ⟨cue, hcue, rfl⟩ := List.mem_map.mp hanchor
    obtain ⟨phrases, _, hfresh⟩ := h.cues
    obtain ⟨phrase, _, hfresh⟩ := mem_of_forall₂ hfresh hcue
    have hplace := hfresh.place
    simp only [LightingCue.place, phrase_place, Prod.mk.injEq] at hplace
    change cue.id = _
    rw [hplace.1, h.id]
    exact congrArg _ hplace.2.1.symm
  · intro decision' hdecision'
    rw [hdecision, Option.some.injEq] at hdecision'
    rw [← hdecision']
    exact hcatalogued

/-- The id of a plan comes from the track and the load alone. -/
theorem plan_id_of_eq {input' : PlanningInput} (htrack : input'.track.id = input.track.id)
    (hload : input'.track_load_id = input.track_load_id) :
    planner.plan_id_of input' = planner.plan_id_of input := by
  unfold plan_id_of seed_of
  rw [htrack, hload]

/-- An accepted edit of the plan, also one that generates it again from another analysis of the
track, gives a plan for the same loaded track. -/
theorem belongs_step (h : Belongs planner input plan)
    (hstep : planner.apply plan edit = .ok plan') : Belongs planner input plan' := by
  obtain ⟨hready, hrevised, hchange, _⟩ := apply_ok hstep
  obtain ⟨hid, hdeck, htrack, hbeats, hload, hconfig, hstatus, _⟩ := hrevised
  have hcues : (∀ anchor ∈ plan'.cues.map LightingCue.anchor,
        anchor.1.1 = cue_id plan'.id anchor.1.2.1) ∧
      ∀ decision, plan'.theme_decision = some decision → Catalogued planner decision := by
    cases hchange with
    | edits anchors theme =>
      rw [anchors, hid]
      refine ⟨h.cue_ids, fun decision hdecision => ?_⟩
      rcases theme with theme | ⟨decision', theme, hcatalogued⟩
      · exact h.catalogued decision (theme ▸ hdecision)
      rw [theme, Option.some.injEq] at hdecision
      exact hdecision ▸ hcatalogued
    | regenerates input' generated deck load track again cues theme =>
      -- The plan stays ready, so the generated one has a theme.
      obtain ⟨decision, hdecision⟩ := decided (hstatus.trans hready)
      rw [theme] at hdecision
      obtain ⟨hgenerated, hcatalogued, _⟩ := generate_again_ok again hdecision
      have hfrom := hgenerated.belongs hdecision hcatalogued
      have hsame : generated.id = plan'.id := by
        rw [hid, h.id, hfrom.id]
        exact plan_id_of_eq (track.symm.trans h.track_id) (load.symm.trans h.track_load_id)
      constructor
      · intro anchor hanchor
        obtain ⟨cue', hcue', rfl⟩ := List.mem_map.mp hanchor
        rw [cues] at hcue'
        obtain ⟨cue, hcue, rfl⟩ := List.mem_map.mp hcue'
        refine keep_locked_keeps (P := fun cue => cue.id = cue_id plan'.id cue.phrase_index) ?_ ?_
        · rw [← hsame]
          exact hfrom.cue_id hcue
        · intro locked hlocked _ _
          rw [hid]
          exact h.cue_id (List.mem_of_getElem? hlocked)
      · intro decision' hdecision'
        rw [theme] at hdecision'
        exact hfrom.catalogued decision' hdecision'
  exact ⟨hid.trans h.id, hdeck.trans h.deck_id, htrack.trans h.track_id,
    hbeats.trans h.track_duration_beats, hload.trans h.track_load_id,
    hconfig.trans h.configuration_revision, hcues.1, hcues.2⟩

/-- What holds of a fresh plan and stays with each accepted edit of a ready plan holds of every
ready plan that edits reach. -/
theorem reaches_keeps {P : LightingPlan → Prop}
    (hstart : ∀ generated decision, generated.theme_decision = some decision →
      GeneratedAs planner input ⟨decision.theme_id, decision.theme_name⟩ generated →
      Catalogued planner decision → P generated)
    (hstep : ∀ plan edit plan', P plan → plan'.status = .Ready →
      planner.apply plan edit = .ok plan' → P plan')
    (h : planner.Reaches input plan) (hready : plan.status = .Ready) :
    P plan ∧ ∃ phrases, Plannable planner input phrases := by
  obtain ⟨context, generated, hgenerated, hreach⟩ := h
  have hkeep : plan.status = generated.status ∧ (generated.status = .Ready → P plan) := by
    apply replay.Machine.reachable_keeps (m := planner.editor generated)
      (P := fun plan => plan.status = generated.status ∧ (generated.status = .Ready → P plan))
      _ _ hreach
    · refine ⟨rfl, fun hready => ?_⟩
      obtain ⟨decision, hdecision⟩ := decided hready
      obtain ⟨hcues, hgenerated⟩ := generate_with_context_ok hgenerated hdecision
      exact hstart _ decision hdecision hgenerated
        (select_initial_theme_catalogued (plan_cues_eq_ok.mp hcues).1)
    · rintro plan edit plan' ⟨hstatus, hplan⟩ haccepted
      have happly : planner.apply plan edit = .ok plan' := Outcome.accepted_eq_ok.mp haccepted
      have hstatus' := (apply_ok happly).revised.status.trans hstatus
      exact ⟨hstatus', fun hready => hstep _ _ _ (hplan hready) (hstatus'.trans hready) happly⟩
  have hfirst : generated.status = .Ready := hkeep.1.symm.trans hready
  exact ⟨hkeep.2 hfirst, plannable_of_generated hgenerated hfirst⟩

/-- Every ready plan that edits reach is one for the loaded track, which the planner can plan. -/
theorem reaches_belongs (h : planner.Reaches input plan) (hready : plan.status = .Ready) :
    Belongs planner input plan ∧ ∃ phrases, Plannable planner input phrases :=
  reaches_keeps (fun _ _ hdecision hgenerated hcatalogued =>
      hgenerated.belongs hdecision hcatalogued)
    (fun _ _ _ hbelongs _ hstep => belongs_step hbelongs hstep) h hready

/-! ## The law of regeneration -/

/-- The cues after a regeneration: a locked cue stays, and the fresh one stands everywhere else. -/
def Spliced (plan generated plan' : LightingPlan) : Prop :=
  ∀ i : Nat, plan'.cues[i]? =
    match plan.cues[i]? with
    | some cue => if cue.locked then some cue else generated.cues[i]?
    | none => generated.cues[i]?

/-- The regeneration succeeds, keeps every locked cue, takes all other cues from the plan that is
generated again, and counts one revision. -/
def KeepsLocks (planner : DeterministicPlanner) (input : PlanningInput)
    (plan : LightingPlan) : Prop :=
  ∃ generated plan', planner.generate_again plan input = .ok generated ∧
    planner.regenerate plan input = .ok plan' ∧ Spliced plan generated plan' ∧
    plan'.revision.value.toNat = plan.revision.value.toNat + 1

/-- Every locked cue lies on a phrase of the input that still asks for its category. -/
def LocksFit (input : PlanningInput) (plan : LightingPlan) : Prop :=
  ∀ (i : Nat) (cue : LightingCue), plan.cues[i]? = some cue → cue.locked = true →
    ∃ phrases phrase, input.track.phrases = some phrases ∧ phrases[i]? = some phrase ∧
      cue.start_beat = phrase.start_beat ∧ cue.end_beat = phrase.end_beat ∧
      cue_category cue = .ok (category_for phrase.kind)

/-- The theme that is selected without a history suits the first cue: that cue is not locked, or
the user chose the theme of the plan, or the theme is the one of the plan. -/
def ThemeSuits (plan : LightingPlan) (chosen : ThemeDecision) : Prop :=
  (∀ cue, plan.cues.head? = some cue → cue.locked = false) ∨
    ∃ decision, plan.theme_decision = some decision ∧
      (decision.reason = .PlanInstanceUserChoice ∨ decision.theme_id = chosen.theme_id)

theorem complete_phrases_eq (h : complete_phrases input = some phrases) :
    input.track.phrases = some phrases :=
  (Option.filter_eq_some_iff.mp h).1

theorem FitsOver.category {locked : LightingCue} {category : SceneCategory}
    (h : FitsOver locked cue) (hcue : cue_category cue = .ok category) :
    cue_category locked = .ok category := by
  have hcategory := h.2.2
  rw [hcue] at hcategory
  cases hlocked : cue_category locked with
  | ok _ =>
    rw [hlocked] at hcategory
    cases hcategory
    rfl
  | error _ =>
    rw [hlocked] at hcategory
    cases hcategory

/-- The new cue stands in the place of its phrase. -/
theorem keep_locked_place (h : Belongs planner input plan)
    (hfresh : Fresh (planner.plan_id_of input) theme phrase cue) :
    (keep_locked plan cue).place = phrase_place (planner.plan_id_of input) phrase := by
  have hplace := hfresh.place
  rcases keep_locked_cases plan cue with hkeep | ⟨locked, hlocked, _, hfits, hkeep⟩
  · rw [hkeep, hplace]
  simp only [LightingCue.place, phrase_place, Prod.mk.injEq] at hplace
  have hindex : locked.phrase_index = cue.phrase_index := plan.cue_phrase_index hlocked
  have hid : locked.id = cue.id := by
    rw [h.cue_id (List.mem_of_getElem? hlocked), hindex, h.id, hplace.1, hplace.2.1]
  rw [hkeep]
  simp only [LightingCue.place, phrase_place, hid, hindex, hfits.1, hfits.2.1, hplace]

/-- The cue at a place of a generated plan has the place as its phrase index. -/
theorem index_at (hcue : plan.cues[i]? = some cue) : cue.phrase_index.toNat = i := by
  rw [plan.cues_indexed.get hcue, Nat.zero_add]

theorem regenerate_succeeds (h : Belongs planner input plan)
    (hplannable : Plannable planner input phrases) (hready : plan.status = .Ready)
    (hrev : plan.revision.value < u64_max)
    (hagain : planner.generate_again plan input = .ok generated)
    (hdecision : generated.theme_decision = some decision)
    (hfirst : ∀ cue, plan.cues.head? = some cue → cue.locked = true →
      shows_other_theme decision cue = false) :
    ∃ plan', planner.regenerate plan input = .ok plan' := by
  obtain ⟨hgenerated, _, _⟩ := generate_again_ok hagain hdecision
  obtain ⟨phrases', hphrases', hfresh⟩ := hgenerated.cues
  rw [hplannable.complete, Option.some.injEq] at hphrases'
  subst hphrases'
  have hplaces : (generated.cues.map (keep_locked plan)).map LightingCue.place =
      phrases.map (phrase_place (planner.plan_id_of input)) := by
    rw [List.map_map]
    exact (map_eq_of_forall₂ hfresh fun _ _ hcue => (keep_locked_place h hcue).symm).symm
  have horigin : ∀ cue ∈ generated.cues.map (keep_locked plan), cue.origin ≠ .Fallback := by
    intro cue' hcue'
    obtain ⟨cue, hcue, rfl⟩ := List.mem_map.mp hcue'
    exact keep_locked_keeps (fresh_not_fallback hfresh hcue) fun locked hlocked _ _ =>
      plan.no_fallback hready (List.mem_of_getElem? hlocked)
  have hshows : ∀ cue, (generated.cues.map (keep_locked plan)).head? = some cue →
      shows_other_theme decision cue = false := by
    intro cue' hcue'
    rw [List.head?_map] at hcue'
    obtain ⟨cue, hcue, rfl⟩ := Option.map_eq_some_iff.mp hcue'
    refine keep_locked_keeps (P := fun cue => shows_other_theme decision cue = false)
      (fresh_shows hfresh ⟨rfl, rfl⟩ (List.mem_of_head? hcue)) ?_
    intro locked hplace hlocked _
    rw [List.head?_eq_getElem?] at hcue
    rw [index_at hcue, ← List.head?_eq_getElem?] at hplace
    exact hfirst locked hplace hlocked
  rcases hnext : plan.revision.checked_next with _ | revision
  · have hmax := checked_next_eq_none.mp hnext
    have hlt : plan.revision.value.toNat < u64_max.toNat := UInt64.lt_iff_toNat_lt.mp hrev
    rw [hmax] at hlt
    exact absurd hlt (Nat.lt_irrefl _)
  have hnonzero : revision.value ≠ 0 := by
    intro hzero
    have hsucc := checked_next_eq_some.mp hnext
    rw [hzero] at hsucc
    cases hsucc
  have hvalid := hplannable.valid revision decision hnonzero hplaces horigin hshows
  rw [← h.track_duration_beats, ← h.configuration_revision, ← hready, ← hdecision] at hvalid
  unfold regenerate ensure_ready
  rw [if_pos hready, ok_bind,
    if_neg (by simp [h.deck_id, h.track_load_id, h.track_id]), hagain, ok_bind]
  unfold LightingPlan.revised_with_theme_decision
  simp only [hnext, lift_eq_ok, try_new_with_theme_decision_eq_ok]
  exact ⟨_, hvalid, rfl⟩

/-- One cue shows one theme. -/
theorem same_theme (h : shows_other_theme decision cue = false)
    (h' : shows_other_theme decision' cue = false) : decision.theme_id = decision'.theme_id := by
  obtain ⟨look, hlook, hid, _⟩ := shows_other_theme_eq_false.mp h
  obtain ⟨look', hlook', hid', _⟩ := shows_other_theme_eq_false.mp h'
  rw [hlook] at hlook'
  cases hlook'
  exact hid.symm.trans hid'

/-- The catalog has one name for a theme. -/
theorem catalogued_name (h : Catalogued planner decision) (h' : Catalogued planner decision')
    (hid : decision.theme_id = decision'.theme_id) :
    decision.theme_name = decision'.theme_name := by
  unfold Catalogued at h h'
  rw [hid, h', Option.some.injEq, ThemeDefinition.mk.injEq] at h
  exact h.2.symm

/-- The locked cue lies on a phrase of the input that still asks for its category. -/
def LockFits (input : PlanningInput) (i : Nat) (cue : LightingCue) : Prop :=
  ∃ phrases phrase, input.track.phrases = some phrases ∧ phrases[i]? = some phrase ∧
    cue.start_beat = phrase.start_beat ∧ cue.end_beat = phrase.end_beat ∧
    cue_category cue = .ok (category_for phrase.kind)

/-- A regeneration keeps a locked cue exactly when the cue fits on its phrase. -/
theorem keeps_lock_iff {old : LightingCue} (hgenerated : GeneratedAs planner input theme generated)
    (hcues : plan'.cues = generated.cues.map (keep_locked plan)) (hold : plan.cues[i]? = some old)
    (hlocked : old.locked = true) : plan'.cues[i]? = some old ↔ LockFits input i old := by
  obtain ⟨phrases, hphrases, hfresh⟩ := hgenerated.cues
  rw [hcues, List.getElem?_map]
  rcases forall₂_getElem? hfresh i with ⟨hnone, hnone'⟩ | ⟨phrase, cue, hphrase, hcue, hfresh⟩
  · -- No phrase lies at this place.
    rw [hnone', Option.map_none]
    refine iff_of_false (by simp) ?_
    rintro ⟨_, phrase, hsome, hphrase, _⟩
    rw [complete_phrases_eq hphrases, Option.some.injEq] at hsome
    rw [← hsome, hnone] at hphrase
    cases hphrase
  · have hplace := hfresh.place
    simp only [LightingCue.place, phrase_place, Prod.mk.injEq] at hplace
    rw [hcue, Option.map_some, Option.some.injEq]
    constructor
    · intro hkeep
      rcases keep_locked_cases plan cue with hsame | ⟨locked, _, _, hover, hsame⟩
      · -- The fresh cue is not locked, so it is not the old one.
        have hunlocked := hfresh.unlocked
        rw [← hsame, hkeep, hlocked] at hunlocked
        cases hunlocked
      · rw [hsame] at hkeep
        subst hkeep
        exact ⟨phrases, phrase, complete_phrases_eq hphrases, hphrase,
          hover.1.trans hplace.2.2.1, hover.2.1.trans hplace.2.2.2,
          hover.category hfresh.category⟩
    · rintro ⟨_, phrase', hsome, hphrase', hstart, hend, hcategory⟩
      rw [complete_phrases_eq hphrases, Option.some.injEq] at hsome
      rw [← hsome, hphrase, Option.some.injEq] at hphrase'
      subst hphrase'
      have hover : FitsOver old cue := by
        refine ⟨hstart.trans hplace.2.2.1.symm, hend.trans hplace.2.2.2.symm, ?_⟩
        rw [hcategory, hfresh.category]
      exact keep_locked_of_fits (by rw [index_at hcue]; exact hold) hlocked hover

/-- When the locked cues fit, the regeneration puts each of them in the place of the new one. -/
theorem spliced_of_fits (hgenerated : GeneratedAs planner input theme generated)
    (hfits : LocksFit input plan) (hcues : plan'.cues = generated.cues.map (keep_locked plan)) :
    Spliced plan generated plan' := by
  intro i
  -- Where no locked cue lies, the fresh one stands.
  have hfresh : (∀ old, plan.cues[i]? = some old → old.locked = false) →
      plan'.cues[i]? = generated.cues[i]? := by
    intro hunlocked
    rw [hcues, List.getElem?_map]
    cases hcue : generated.cues[i]? with
    | none => rfl
    | some cue =>
      rw [Option.map_some]
      rcases keep_locked_cases plan cue with hkeep | ⟨locked, hplace, hlocked, _⟩
      · rw [hkeep]
      rw [index_at hcue] at hplace
      rw [hunlocked locked hplace] at hlocked
      cases hlocked
  cases hold : plan.cues[i]? with
  | none => exact hfresh (by simp [hold])
  | some old =>
    cases hlocked : old.locked with
    | false =>
      simp only [hlocked, Bool.false_eq_true, ↓reduceIte]
      exact hfresh (by simpa [hold] using hlocked)
    | true =>
      simp only [hlocked, ↓reduceIte]
      exact (keeps_lock_iff hgenerated hcues hold hlocked).mpr (hfits i old hold hlocked)

/-- A regeneration that keeps the locked cues found each of them on its phrase. -/
theorem fits_of_spliced (hgenerated : GeneratedAs planner input theme generated)
    (hcues : plan'.cues = generated.cues.map (keep_locked plan))
    (hspliced : Spliced plan generated plan') : LocksFit input plan := by
  intro i old hold hlocked
  refine (keeps_lock_iff hgenerated hcues hold hlocked).mp ?_
  have hnew := hspliced i
  simp only [hold, hlocked, ↓reduceIte] at hnew
  exact hnew

/-! A run that generates the plan again only from its own input leaves every cue on its phrase. -/

/-- The cues lie on the phrases of the input and are for their categories. -/
def Seated (planner : DeterministicPlanner) (input : PlanningInput) (plan : LightingPlan) : Prop :=
  ∃ phrases, complete_phrases input = some phrases ∧
    List.Forall₂ (fun phrase anchor => anchor.1 = phrase_place (planner.plan_id_of input) phrase ∧
      ∃ kind, anchor.2 = CueReason.PhraseCategoryMatched kind (category_for phrase.kind))
      phrases (plan.cues.map LightingCue.anchor)

theorem category_matched {category : SceneCategory} :
    cue_category cue = .ok category ↔
      ∃ kind, cue.reason = .PhraseCategoryMatched kind category := by
  unfold cue_category
  cases cue.reason <;> simp

theorem GeneratedAs.seated (h : GeneratedAs planner input theme plan) :
    Seated planner input plan := by
  obtain ⟨phrases, hphrases, hfresh⟩ := h.cues
  refine ⟨phrases, hphrases, List.forall₂_map_right_iff.mpr (hfresh.imp ?_)⟩
  intro phrase cue hcue
  exact ⟨hcue.place, category_matched.mp hcue.category⟩

theorem Seated.locksFit (h : Seated planner input plan) : LocksFit input plan := by
  obtain ⟨phrases, hphrases, hseats⟩ := h
  intro i cue hcue _
  rcases forall₂_getElem? hseats i with
    ⟨_, hnone⟩ | ⟨phrase, anchor, hphrase, hanchor, hplace, hkind⟩
  · rw [List.getElem?_map, hcue] at hnone
    cases hnone
  rw [List.getElem?_map, hcue, Option.map_some, Option.some.injEq] at hanchor
  subst hanchor
  simp only [LightingCue.anchor, LightingCue.place, phrase_place, Prod.mk.injEq] at hplace
  exact ⟨phrases, phrase, complete_phrases_eq hphrases, hphrase, hplace.2.2.1, hplace.2.2.2,
    category_matched.mpr hkind⟩

theorem seated_step (hbelongs : Belongs planner input plan) (hseated : Seated planner input plan)
    (hinput : ∀ input', edit = .Regenerate input' → input' = input)
    (hstep : planner.apply plan edit = .ok plan') : Seated planner input plan' := by
  obtain ⟨hready, hrevised, hchange, _⟩ := apply_ok hstep
  cases hchange with
  | edits anchors _ =>
    unfold Seated
    rw [anchors]
    exact hseated
  | regenerates input' generated _ _ _ again cues theme =>
    obtain rfl := hinput input' rfl
    obtain ⟨decision, hdecision⟩ := decided (hrevised.status.trans hready)
    obtain ⟨hgenerated, _⟩ := generate_again_ok again (theme ▸ hdecision)
    obtain ⟨phrases, hphrases, hfresh⟩ := hgenerated.cues
    refine ⟨phrases, hphrases, ?_⟩
    rw [cues, List.map_map]
    refine List.forall₂_map_right_iff.mpr (hfresh.imp ?_)
    intro phrase cue hcue
    exact ⟨keep_locked_place hbelongs hcue, category_matched.mp (keep_locked_keeps
      (P := fun cue => cue_category cue = _) hcue.category fun _ _ _ hfits =>
        hfits.category hcue.category)⟩

theorem locks_fit_on_one_input {edits : List PlanEdit}
    (hgenerated : planner.generate_with_context input context = .ok generated)
    (hready : generated.status = .Ready)
    (hinput : ∀ input', .Regenerate input' ∈ edits → input' = input) :
    LocksFit input ((planner.editor generated).run edits) := by
  obtain ⟨decision, hdecision⟩ := decided hready
  obtain ⟨hcues, hgenerated⟩ := generate_with_context_ok hgenerated hdecision
  have hcatalogued := select_initial_theme_catalogued (plan_cues_eq_ok.mp hcues).1
  have hkeep := replay.Machine.run_keeps_while (m := planner.editor generated)
    (P := fun plan => Belongs planner input plan ∧ Seated planner input plan)
    (Q := fun _ edit => ∀ input', edit = .Regenerate input' → input' = input)
    ⟨hgenerated.belongs hdecision hcatalogued, hgenerated.seated⟩
    (by
      rintro plan edit plan' ⟨hbelongs, hseated⟩ hone hstep
      have happly : planner.apply plan edit = .ok plan' := Outcome.accepted_eq_ok.mp hstep
      exact ⟨belongs_step hbelongs happly, seated_step hbelongs hseated hone happly⟩)
    edits
    (by
      rintro k edit plan' hedit _ input' rfl
      exact hinput input' (List.mem_of_getElem? hedit))
    edits.length
  rw [List.take_length] at hkeep
  exact hkeep.2.locksFit

/-- The regeneration succeeds and keeps the locks of every ready plan that edits reach, exactly
when the locked cues lie on phrases of the input and the theme that is selected without a history
suits the first cue. -/
theorem a_regeneration_keeps_the_locks_when_the_theme_suits
    (hreach : planner.Reaches input plan) (hready : plan.status = .Ready)
    (hrev : plan.revision.value < u64_max) :
    KeepsLocks planner input plan ↔ LocksFit input plan ∧ ∃ chosen,
      planner.select_initial_theme input.track (planner.seed_of input) .default = .ok chosen ∧
        ThemeSuits plan chosen := by
  obtain ⟨hbelongs, phrases, hplannable⟩ := reaches_belongs hreach hready
  obtain ⟨decision, hdecision⟩ := decided hready
  constructor
  · rintro ⟨generated, plan', hagain, hregenerate, hspliced, _⟩
    obtain ⟨_, hrevised, generated', _, _, _, hagain', hcues, htheme⟩ := regenerate_ok hregenerate
    rw [hagain, Outcome.ok.injEq] at hagain'
    subst hagain'
    obtain ⟨decision', hdecision'⟩ := decided (hrevised.status.trans hready)
    obtain ⟨hgenerated, _, chosen, hselect, hchosen⟩ :=
      generate_again_ok hagain (htheme ▸ hdecision')
    refine ⟨fits_of_spliced hgenerated hcues hspliced, chosen, hselect, ?_⟩
    by_cases hlocked : ∀ cue, plan.cues.head? = some cue → cue.locked = false
    · exact .inl hlocked
    refine .inr ⟨decision, hdecision, ?_⟩
    rcases hchosen with ⟨decision'', hdecision'', huser⟩ | rfl
    · rw [hdecision, Option.some.injEq] at hdecision''
      exact .inl (hdecision'' ▸ huser)
    -- The locked first cue shows the theme of the plan before and of the plan after.
    simp only [not_forall, Bool.not_eq_false] at hlocked
    obtain ⟨cue, hcue, hlocked⟩ := hlocked
    have hnew := hspliced 0
    rw [← List.head?_eq_getElem?, ← List.head?_eq_getElem?, hcue] at hnew
    simp only [hlocked, ↓reduceIte] at hnew
    exact .inr (same_theme (plan.first_cue_shows hdecision hcue)
      (plan'.first_cue_shows hdecision' hnew))
  · rintro ⟨hfits, chosen, hselect, hsuits⟩
    obtain ⟨generated, decision', hagain, hdecision', htheme⟩ :=
      hplannable.generate_again hdecision (hbelongs.catalogued decision hdecision) hselect
    obtain ⟨hgenerated, _, _⟩ := generate_again_ok hagain hdecision'
    have hfirst : ∀ cue, plan.cues.head? = some cue → cue.locked = true →
        shows_other_theme decision' cue = false := by
      intro cue hcue hlocked
      obtain ⟨look, hlook, hid, hname⟩ :=
        shows_other_theme_eq_false.mp (plan.first_cue_shows hdecision hcue)
      apply shows_other_theme_eq_false.mpr
      split at htheme
      · exact ⟨look, hlook, hid.trans htheme.1.symm, hname.trans htheme.2.symm⟩
      rename_i huser
      rcases hsuits with hunlocked | ⟨decision'', hdecision'', hsuits⟩
      · rw [hunlocked cue hcue] at hlocked
        cases hlocked
      rw [hdecision, Option.some.injEq] at hdecision''
      subst hdecision''
      have hsame := hsuits.resolve_left huser
      have hnames := catalogued_name (hbelongs.catalogued decision hdecision)
        (select_initial_theme_catalogued hselect) hsame
      rw [htheme]
      exact ⟨look, hlook, hid.trans hsame, hname.trans hnames⟩
    obtain ⟨plan', hregenerate⟩ :=
      regenerate_succeeds hbelongs hplannable hready hrev hagain hdecision' hfirst
    obtain ⟨_, hrevised, generated', _, _, _, hagain', hcues, _⟩ := regenerate_ok hregenerate
    rw [hagain, Outcome.ok.injEq] at hagain'
    subst hagain'
    exact ⟨generated, plan', hagain, hregenerate, spliced_of_fits hgenerated hfits hcues,
      hrevised.revision⟩

end regeneration

namespace sample

def input : PlanningInput where
  deck_id := ⟨2⟩
  track_load_id := ⟨7⟩
  track := .with_analysis ⟨1⟩ 16 [⟨0, 0, 8, .Intro⟩, ⟨1, 8, 16, .Drop⟩]

/-- The history after a plan in the first theme. -/
def context : ThemeSelectionContext := .new [⟨1⟩]

/-- The planner makes a plan with the property for the input. -/
def generates (property : LightingPlan → Bool) : Bool :=
  match DeterministicPlanner.epic_one.generate_with_context input context with
  | .ok plan => property plan
  | _ => false

theorem exists_generated {property : LightingPlan → Bool} (h : generates property = true) :
    ∃ plan, DeterministicPlanner.epic_one.generate_with_context input context = .ok plan ∧
      property plan = true := by
  unfold generates at h
  split at h
  · exact ⟨_, by assumption, h⟩
  · cases h

/-- The plan with one of its cues locked. -/
def locked (plan : LightingPlan) (phrase_index : UInt16) : LightingPlan :=
  (DeterministicPlanner.epic_one.editor plan).run [.SetCueLock phrase_index true]

end sample

/-- The rotation gives the plan another theme than the default one. The plan whose first cue is
then locked cannot be generated again: the new theme is the default one, which the locked cue
does not show. -/
theorem a_locked_first_cue_fails_the_regeneration :
    ∃ plan, DeterministicPlanner.epic_one.Reaches sample.input plan ∧ plan.status = .Ready ∧
      plan.revision.value < u64_max ∧
      DeterministicPlanner.epic_one.regenerate plan sample.input =
        .err (.InvalidPlan .InconsistentThemeDecision) ∧
      ¬ KeepsLocks DeterministicPlanner.epic_one sample.input plan := by
  obtain ⟨generated, hgenerated, hrun⟩ := sample.exists_generated
    (show sample.generates (fun plan => (sample.locked plan 0).status = .Ready ∧
      (sample.locked plan 0).revision.value < u64_max ∧
      DeterministicPlanner.epic_one.regenerate (sample.locked plan 0) sample.input =
        .err (.InvalidPlan .InconsistentThemeDecision)) = true by decide +kernel)
  obtain ⟨hready, hrev, hfails⟩ := of_decide_eq_true hrun
  refine ⟨sample.locked generated 0, ?_, hready, hrev, hfails, ?_⟩
  · exact ⟨sample.context, generated, hgenerated, replay.Machine.reachable_run _⟩
  · rintro ⟨_, plan', _, hregenerate, _⟩
    rw [hfails] at hregenerate
    cases hregenerate

theorem a_lock_on_the_second_cue_survives :
    ∃ plan, DeterministicPlanner.epic_one.Reaches sample.input plan ∧ plan.status = .Ready ∧
      plan.revision.value < u64_max ∧ plan.cues[1]?.any (·.locked) = true ∧
      KeepsLocks DeterministicPlanner.epic_one sample.input plan := by
  obtain ⟨generated, hgenerated, hrun⟩ := sample.exists_generated
    (show sample.generates (fun plan => plan.status = .Ready ∧
      (sample.locked plan 1).status = .Ready ∧ (sample.locked plan 1).revision.value < u64_max ∧
      (sample.locked plan 1).cues[1]?.any (·.locked) = true ∧
      (sample.locked plan 1).cues.head?.all (!·.locked) = true) = true by decide +kernel)
  obtain ⟨hfirst, hready, hrev, hlocked, hunlocked⟩ := of_decide_eq_true hrun
  have hreach : DeterministicPlanner.epic_one.Reaches sample.input (sample.locked generated 1) :=
    ⟨sample.context, generated, hgenerated, replay.Machine.reachable_run _⟩
  refine ⟨_, hreach, hready, hrev, hlocked, ?_⟩
  refine (a_regeneration_keeps_the_locks_when_the_theme_suits hreach hready hrev).mpr ⟨?_, ?_⟩
  · exact locks_fit_on_one_input hgenerated hfirst (by simp)
  · refine ⟨⟨⟨1⟩, "Electric Bloom", .DefaultTheme, none, by decide⟩, by decide +kernel, .inl ?_⟩
    intro cue hcue
    simpa [hcue] using hunlocked

end lumi_planner
