-- The law of generation. The ids of the cues are mixed words, and no two of a
-- plan are the same; so a plan is made for every track as soon as a theme can
-- be drawn. A theme cannot always be drawn: a rule for a color may be left
-- with candidates of no weight once the themes shown lately are taken out.
import Lumi.Mixing
import Lumi.Planner.Regeneration

open rust tiling mixing lumi_domain
open Outcome (bind_eq_ok lift_eq_ok ok_bind ok_or)
open List (map_map mem_filter mem_map)

namespace lumi_planner

open DeterministicPlanner (generate_with_context plan_cues plan_phrase select_color_theme
  weighted_choice)

/-! ## The ids of the cues -/

theorem mix_eq (value : UInt64) :
    mix value = xorshift 31 (xorshift 27 (xorshift 30 value * 0xbf58476d1ce4e5b9) *
      0x94d049bb133111eb) := rfl

/-- What takes `mix` back. -/
def unmix (value : UInt64) : UInt64 :=
  unshift 30 (unshift 27 (unshift 31 value * 0x319642b2d24d8ec3) * 0x96de1b173f119089)

theorem unmix_mix (value : UInt64) : unmix (mix value) = value := by
  rw [mix_eq, unmix, unshift_xorshift (by decide) (by decide), mul_cancel (by decide),
    unshift_xorshift (by decide) (by decide), mul_cancel (by decide),
    unshift_xorshift (by decide) (by decide)]

theorem nonzero_eq {a b : UInt64} (h : nonzero a = nonzero b) :
    a = b ∨ a = 0 ∧ b = 1 ∨ a = 1 ∧ b = 0 := by
  unfold nonzero at h
  split at h <;> split at h <;> grind

/-- The places of two phrases differ in their low bits only. -/
theorem place_xor_lt (i j : UInt16) : ((i.toUInt64 + 1) ^^^ (j.toUInt64 + 1)).toNat < 2 ^ 17 := by
  rw [UInt64.toNat_xor]
  have hi := i.toNat_lt
  have hj := j.toNat_lt
  apply Nat.xor_lt_two_pow <;> rw [UInt64.toNat_add, UInt16.toNat_toUInt64] <;> simp <;> omega

/-- The word that mixes to 1 has high bits, so the two words of a plan that give the id 1, one of
them by way of 0, would lie further apart than two places do. -/
theorem no_zero_and_one (plan i j : UInt64) (hi : mix (plan ^^^ i) = 0)
    (hj : mix (plan ^^^ j) = 1) (hlt : (i ^^^ j).toNat < 2 ^ 17) : False := by
  have hzero : plan ^^^ i = unmix 0 := by rw [← hi, unmix_mix]
  have hone : plan ^^^ j = unmix 1 := by rw [← hj, unmix_mix]
  have hxor : i ^^^ j = unmix 0 ^^^ unmix 1 := by
    rw [← hzero, ← hone, UInt64.xor_comm plan i, UInt64.xor_assoc, ← UInt64.xor_assoc plan,
      UInt64.xor_self, UInt64.zero_xor]
  rw [hxor] at hlt
  exact absurd hlt (by decide)

theorem cue_id_injective (plan_id : PlanId) : Function.Injective (cue_id plan_id) := by
  intro i j h
  have hvalues := congrArg (fun id : CueId => id.value) h
  simp only [cue_id] at hvalues
  rcases nonzero_eq hvalues with hmix | ⟨hi, hj⟩ | ⟨hi, hj⟩
  · have hwords := congrArg unmix hmix
    rw [unmix_mix, unmix_mix, UInt64.xor_right_inj, UInt64.add_left_inj] at hwords
    exact UInt16.toNat_inj.mp (by simpa using congrArg UInt64.toNat hwords)
  · exact absurd (place_xor_lt i j) (fun hlt => no_zero_and_one _ _ _ hi hj hlt)
  · exact absurd (place_xor_lt j i) (fun hlt => no_zero_and_one _ _ _ hj hi hlt)

/-! ## Complete analyses -/

/-- The phrases cover the track: there is one, they carry their places, and they lie one after the
other from the start of the track to its end. -/
structure Covers (phrases : List TrackPhrase) (duration_beats : UInt32) : Prop where
  not_empty : phrases ≠ []
  indexed : Indexed (·.index.toNat) 0 phrases
  tiles : Tiles (·.start_beat.toNat) (·.end_beat.toNat) 0 phrases duration_beats.toNat

variable {n : Nat} {a : UInt32} {cues : List LightingCue} {configuration : PlanningConfiguration}
  {themes : List ThemeOption} {theme_id : ThemeId} {rule : ThemeColorRule} {plan_id : PlanId}
  {phrases : List TrackPhrase} {candidates : List WeightedThemeCandidate}

theorem phrases_are_complete_iff {duration_beats : UInt32} :
    phrases_are_complete duration_beats n a phrases = true ↔
      Indexed (·.index.toNat) n phrases ∧
        Tiles (·.start_beat.toNat) (·.end_beat.toNat) a.toNat phrases duration_beats.toNat := by
  induction phrases generalizing n a with
  | nil => simp [phrases_are_complete, UInt32.toNat_inj]
  | cons phrase phrases ih =>
    rw [phrases_are_complete, indexed_cons, tiles_cons]
    split
    · rename_i hbad
      simp only [Bool.false_eq_true, false_iff]
      rintro ⟨⟨hindex, _⟩, hstart, hlt, htiles⟩
      have hend := htiles.le
      simp only [UInt32.le_iff_toNat_le, gt_iff_lt, UInt32.lt_iff_toNat_lt, ne_eq,
        ← UInt32.toNat_inj] at hbad
      omega
    · rename_i hgood
      simp only [not_or, not_not, UInt32.not_le, gt_iff_lt, UInt32.not_lt] at hgood
      obtain ⟨hindex, hstart, hlt, _⟩ := hgood
      rw [ih, ← hstart, ← UInt32.lt_iff_toNat_lt]
      tauto

theorem complete_phrases_eq_some {input : PlanningInput} :
    complete_phrases input = some phrases ↔
      input.track.phrases = some phrases ∧ Covers phrases input.track.duration_beats := by
  unfold complete_phrases analysis_is_complete
  rw [Option.filter_eq_some_iff]
  simp only [List.isEmpty_iff]
  split
  · rename_i hempty
    simp only [Bool.false_eq_true, and_false, false_iff, not_and]
    exact fun _ hcovers => hcovers.not_empty hempty
  rename_i hne
  rw [phrases_are_complete_iff]
  exact ⟨fun ⟨h, hindexed, htiles⟩ => ⟨h, hne, hindexed, htiles⟩,
    fun ⟨h, hcovers⟩ => ⟨h, hcovers.indexed, hcovers.tiles⟩⟩

/-- Cues with ids of their own, in their places and one after the other, pass the walk. -/
theorem walk_cues_of {ids : List CueId} {a e : UInt32} {f : Bool} (hnodup : (cues.map (·.id)).Nodup)
    (hnew : ∀ cue ∈ cues, cue.id ∉ ids) (hindexed : Indexed (·.phrase_index.toNat) n cues)
    (htiles : Tiles (·.start_beat.toNat) (·.end_beat.toNat) a.toNat cues e.toNat) :
    walk_cues ids n a f cues = .ok (e, f || cues.any (·.origin == .Fallback)) := by
  induction cues generalizing ids n a f with
  | nil =>
    obtain rfl : a = e := UInt32.toNat_inj.mp htiles
    simp [walk_cues]
  | cons cue cues ih =>
    obtain ⟨hindex, hindexed⟩ := hindexed
    obtain ⟨hstart, hlt, htiles⟩ := htiles
    obtain ⟨hid, hnodup⟩ := List.nodup_cons.mp hnodup
    have hstart : cue.start_beat = a := UInt32.toNat_inj.mp hstart
    have hlt : cue.start_beat < cue.end_beat := by
      rw [UInt32.lt_iff_toNat_lt, hstart]
      exact hlt
    have hranges : ¬ (cue.start_beat ≠ a ∨ cue.end_beat ≤ cue.start_beat) := by
      rw [not_or, not_not, UInt32.not_le]
      exact ⟨hstart, hlt⟩
    rw [walk_cues, if_neg (hnew cue List.mem_cons_self), if_neg (not_not.mpr hindex),
      if_neg hranges, ih hnodup _ hindexed htiles, List.any_cons, Bool.or_assoc]
    intro other hother
    rw [List.mem_cons, not_or]
    refine ⟨fun hsame => hid ?_, hnew other (List.mem_cons_of_mem cue hother)⟩
    exact mem_map.mpr ⟨other, hother, hsame⟩

/-- Numbered phrases give cues with ids of their own. -/
theorem cue_ids_nodup (plan_id : PlanId) (h : Indexed (·.index.toNat) 0 phrases) :
    (phrases.map fun phrase => cue_id plan_id phrase.index).Nodup := by
  have hindexes : (phrases.map (·.index)).Nodup := by
    apply List.Nodup.of_map UInt16.toNat
    rw [map_map]
    exact h.nodup
  have hids := hindexes.map (cue_id_injective plan_id)
  rwa [map_map] at hids

/-! ## Configurations -/

/-- The theme is one of the catalog. -/
def PlanningConfiguration.Configured (configuration : PlanningConfiguration) (theme_id : ThemeId) :
    Prop :=
  theme_id ∈ configuration.themes.map (·.id)

/-- The candidates of the rule are themes of the catalog, and one of them has a weight. -/
def ThemeColorRule.Usable (configuration : PlanningConfiguration) (rule : ThemeColorRule) : Prop :=
  (∃ candidate ∈ rule.candidates, 0 < candidate.weight) ∧
    ∀ candidate ∈ rule.candidates, configuration.Configured candidate.theme_id

/-- The configurations that are built from the first one without a lock and without a policy of
themes. -/
inductive Built : PlanningConfiguration → Prop
  | epic_one : Built .epic_one
  | with_themes {configuration : PlanningConfiguration} (built : Built configuration)
      (revision : PlanConfigurationRevision) {themes : List ThemeOption} (some : themes ≠ [])
      (distinct : (themes.map (·.id)).Nodup)
      (named : ∀ theme ∈ themes, is_blank theme.name = false) :
      Built (configuration.with_themes revision themes)
  | with_color_rules {configuration : PlanningConfiguration} (built : Built configuration)
      {rules : List ThemeColorRule} (usable : ∀ rule ∈ rules, rule.Usable configuration) :
      Built (configuration.with_color_rules rules)
  | with_default_theme {configuration : PlanningConfiguration} (built : Built configuration)
      {theme_id : ThemeId} (configured : configuration.Configured theme_id) :
      Built (configuration.with_default_theme theme_id)

/-- What holds of every configuration that is built so. -/
structure Sound (configuration : PlanningConfiguration) : Prop where
  unlocked : configuration.global_theme_lock = none
  no_policy : configuration.theme_selection_rules = []
  scenes : configuration.scenes = PlanningConfiguration.epic_one.scenes
  named : ∀ theme ∈ configuration.themes, is_blank theme.name = false
  default : configuration.Configured configuration.default_theme_id
  usable : ∀ rule ∈ configuration.color_rules, rule.Usable configuration

theorem sound_epic_one : Sound .epic_one where
  unlocked := rfl
  no_policy := rfl
  scenes := rfl
  named := by decide
  default := by unfold PlanningConfiguration.Configured; decide
  usable := by unfold ThemeColorRule.Usable PlanningConfiguration.Configured; decide

/-- A new catalog leaves the default theme when it holds it, and takes its first theme else. -/
theorem with_themes_default (revision : PlanConfigurationRevision) (hne : themes ≠ []) :
    (configuration.with_themes revision themes).Configured
      (configuration.with_themes revision themes).default_theme_id := by
  obtain ⟨first, themes, rfl⟩ := List.exists_cons_of_ne_nil hne
  unfold PlanningConfiguration.Configured PlanningConfiguration.with_themes
  simp only [map_map, Function.comp_def]
  split
  · simp
  rename_i hheld
  exact not_not.mp hheld

theorem Sound.with_themes (h : Sound configuration) (revision : PlanConfigurationRevision)
    (hne : themes ≠ []) (hnamed : ∀ theme ∈ themes, is_blank theme.name = false) :
    Sound (configuration.with_themes revision themes) where
  unlocked := by simp [PlanningConfiguration.with_themes, h.unlocked]
  no_policy := by simp [PlanningConfiguration.with_themes, h.no_policy]
  scenes := h.scenes
  named := by
    intro theme htheme
    obtain ⟨option, hoption, rfl⟩ := mem_map.mp htheme
    exact hnamed option hoption
  default := with_themes_default revision hne
  usable := by
    intro rule hrule
    obtain ⟨hrule, hweighed⟩ := mem_filter.mp hrule
    obtain ⟨candidate, hcandidate, hweight⟩ := List.any_eq_true.mp hweighed
    refine ⟨⟨candidate, hcandidate, of_decide_eq_true hweight⟩, fun candidate hcandidate => ?_⟩
    obtain ⟨_, _, rfl⟩ := mem_map.mp hrule
    have hheld := of_decide_eq_true (mem_filter.mp hcandidate).2
    simpa [PlanningConfiguration.Configured, PlanningConfiguration.with_themes] using hheld

theorem Built.sound (h : Built configuration) : Sound configuration := by
  induction h with
  | epic_one => exact sound_epic_one
  | with_themes _ revision hne _ hnamed ih => exact ih.with_themes revision hne hnamed
  | with_color_rules _ husable ih =>
    exact ⟨ih.unlocked, ih.no_policy, ih.scenes, ih.named, ih.default, husable⟩
  | with_default_theme _ hconfigured ih =>
    exact ⟨ih.unlocked, ih.no_policy, ih.scenes, ih.named, hconfigured, ih.usable⟩

/-! ## Drawing a theme -/

/-- The choices of the source fall among the candidates. -/
def Chooses (source : ChoiceSource) : Prop :=
  ∀ (seed decision : UInt64) (n : Nat), 0 < n → ∃ i < n, source seed decision n = some i

def weights (candidates : List WeightedThemeCandidate) : Nat :=
  (candidates.map (·.weight.toNat)).sum

theorem weights_cons (candidate : WeightedThemeCandidate)
    (candidates : List WeightedThemeCandidate) :
    weights (candidate :: candidates) = candidate.weight.toNat + weights candidates := rfl

theorem total_weight_eq {total : Nat} (h : total < 2 ^ 64)
    (candidates : List WeightedThemeCandidate) :
    total_weight total candidates =
      if total + weights candidates < 2 ^ 64 then some (total + weights candidates) else none := by
  induction candidates generalizing total with
  | nil => exact (if_pos h).symm
  | cons candidate candidates ih =>
    rw [total_weight, weights_cons, ← Nat.add_assoc]
    by_cases hfits : total + candidate.weight.toNat < 2 ^ 64
    · rw [if_pos hfits, ih hfits]
    · rw [if_neg hfits, if_neg (by omega)]

/-- A cursor under the weights stops at a candidate. -/
theorem candidate_under_ok {cursor : Nat} (h : cursor < weights candidates) :
    ∃ candidate ∈ candidates, candidate_under cursor candidates = .ok candidate.theme_id := by
  induction candidates generalizing cursor with
  | nil => exact absurd h (Nat.not_lt_zero cursor)
  | cons candidate candidates ih =>
    rw [weights_cons] at h
    unfold candidate_under
    split
    · rename_i hzero
      rw [hzero] at h
      obtain ⟨found, hfound, heq⟩ := ih (by simpa using h)
      exact ⟨found, List.mem_cons_of_mem _ hfound, heq⟩
    · split
      · exact ⟨candidate, List.mem_cons_self, rfl⟩
      have hcursor : cursor - candidate.weight.toNat < weights candidates := by omega
      obtain ⟨found, hfound, heq⟩ := ih hcursor
      exact ⟨found, List.mem_cons_of_mem _ hfound, heq⟩

theorem candidate_under_weightless (h : weights candidates = 0) (cursor : Nat) :
    candidate_under cursor candidates = .err .InvalidThemeRule := by
  induction candidates with
  | nil => rfl
  | cons candidate candidates ih =>
    rw [weights_cons, Nat.add_eq_zero_iff] at h
    have hzero : candidate.weight = 0 := UInt16.toNat_inj.mp h.1
    rw [candidate_under, if_pos hzero, ih h.2]

/-- The candidates have a weight, and a `usize` holds it. -/
def Weighs (candidates : List WeightedThemeCandidate) : Prop :=
  0 < weights candidates ∧ weights candidates < 2 ^ 64

section drawing

variable {planner : DeterministicPlanner} {seed decision : UInt64}
  {candidates : List WeightedThemeCandidate}

theorem weighted_choice_ok (hchooses : Chooses planner.choice_source) (h : Weighs candidates) :
    ∃ candidate ∈ candidates,
      planner.weighted_choice seed decision candidates = .ok candidate.theme_id := by
  obtain ⟨i, hi, hchoice⟩ := hchooses seed decision _ h.1
  obtain ⟨candidate, hcandidate, hunder⟩ := candidate_under_ok hi
  refine ⟨candidate, hcandidate, ?_⟩
  unfold weighted_choice
  rw [total_weight_eq (by decide), Nat.zero_add, if_pos h.2]
  simp only [ok_or, ok_bind, hchoice, hunder]

theorem weighted_choice_err (h : ¬ Weighs candidates) :
    planner.weighted_choice seed decision candidates = .err .InvalidThemeRule := by
  unfold weighted_choice
  rw [total_weight_eq (by decide), Nat.zero_add]
  split
  · rename_i hfits
    have hzero : weights candidates = 0 := by
      unfold Weighs at h
      omega
    simp only [ok_or, ok_bind]
    cases planner.choice_source seed decision (weights candidates) with
    | none => rfl
    | some i => exact candidate_under_weightless hzero i
  · rfl

/-- A theme of the catalog can be decided for. -/
theorem Sound.decision_ok (h : Sound planner.configuration)
    (hconfigured : planner.configuration.Configured theme_id) (reason : ThemeSelectionReason)
    (color : Option UInt32) : ∃ chosen, planner.decision theme_id reason color = .ok chosen := by
  obtain ⟨theme, htheme⟩ : ∃ theme, planner.theme theme_id = some theme := by
    obtain ⟨theme, hmem, rfl⟩ := mem_map.mp hconfigured
    apply Option.isSome_iff_exists.mp
    exact List.find?_isSome.mpr ⟨theme, hmem, by simp⟩
  have hnamed := h.named theme (List.mem_of_find?_eq_some htheme)
  unfold DeterministicPlanner.decision
  rw [htheme]
  exact ⟨_, congrArg (Outcome.lift PlannerError.InvalidPlan)
    (try_new_decision_eq_ok.mpr ⟨hnamed, rfl⟩)⟩

/-- The rule that decides for a track of the color. -/
def PlanningConfiguration.rule_for (configuration : PlanningConfiguration) (color : TrackColor) :
    Option ThemeColorRule :=
  (configuration.color_rules.find? fun rule => rule.color = color ∧ rule.mode = .Force).or
    (configuration.color_rules.find? fun rule => rule.color = color ∧ rule.mode = .Prefer)

/-- The candidates that the rule offers: a rule that prefers leaves out the themes shown lately,
as long as one is left. -/
def ThemeColorRule.offers (rule : ThemeColorRule) (recent : List ThemeId) :
    List WeightedThemeCandidate :=
  if rule.mode = .Prefer ∧ without_recent rule.candidates recent ≠ [] then
    without_recent rule.candidates recent
  else rule.candidates

theorem offers_subset {recent : List ThemeId} {candidate : WeightedThemeCandidate}
    (h : candidate ∈ rule.offers recent) : candidate ∈ rule.candidates := by
  unfold ThemeColorRule.offers at h
  split at h
  · exact (mem_filter.mp h).1
  · exact h

theorem rule_for_mem {color : TrackColor} (h : configuration.rule_for color = some rule) :
    rule ∈ configuration.color_rules := by
  rcases Option.or_eq_some_iff.mp h with h | ⟨_, h⟩
  · exact List.mem_of_find?_eq_some h
  · exact List.mem_of_find?_eq_some h

/-- The theme that the rule gives to a track of its color. -/
def ThemeColorRule.draw (rule : ThemeColorRule) (planner : DeterministicPlanner) (seed : UInt64)
    (color : TrackColor) (context : ThemeSelectionContext) :
    Outcome PlannerError ThemeDecision := do
  let theme_id ← planner.weighted_choice seed color.rgb_u32.toUInt64
    (rule.offers context.recent_theme_ids)
  planner.decision theme_id (if rule.mode = .Force then .ColorForce else .ColorPrefer)
    (some color.rgb_u32)

theorem select_color_theme_eq (planner : DeterministicPlanner) (seed : UInt64)
    (color : TrackColor) (context : ThemeSelectionContext) :
    planner.select_color_theme seed color context [.Force, .Prefer] =
      (planner.configuration.rule_for color).map (·.draw planner seed color context) := by
  unfold select_color_theme PlanningConfiguration.rule_for
  cases hforce : planner.configuration.color_rules.find? fun rule =>
      rule.color = color ∧ rule.mode = .Force with
  | some rule =>
    have hfound := List.find?_some hforce
    have hmode : rule.mode = .Force := (of_decide_eq_true hfound).2
    simp [ThemeColorRule.draw, ThemeColorRule.offers, hmode]
  | none =>
    unfold select_color_theme
    cases hprefer : planner.configuration.color_rules.find? fun rule =>
        rule.color = color ∧ rule.mode = .Prefer with
    | some rule =>
      have hfound := List.find?_some hprefer
      have hmode : rule.mode = .Prefer := (of_decide_eq_true hfound).2
      simp [ThemeColorRule.draw, ThemeColorRule.offers, hmode, List.isEmpty_iff, ite_not]
    | none => rfl

/-- A theme can be drawn for the track. The candidates that the rule for its color offers have a
weight; a track without a rule gets a theme that was not shown lately, and when there is none, the
source is not to choose one. -/
def Draws (planner : DeterministicPlanner) (track : PlannerTrack) (seed : UInt64)
    (context : ThemeSelectionContext) : Prop :=
  match track.color.bind planner.configuration.rule_for with
  | some rule => Weighs (rule.offers context.recent_theme_ids)
  | none => context.recent_theme_ids ≠ [] →
    (∀ theme ∈ planner.configuration.themes, theme.id ∈ context.recent_theme_ids) →
      planner.choice_source seed 0x005448454d45 0 = none

/-- The selection of a theme ends with one exactly when it can be drawn. -/
def Selects (selected : Outcome PlannerError ThemeDecision) (draws : Prop) : Prop :=
  (draws → ∃ chosen, selected = .ok chosen) ∧
    (¬ draws → selected = .err .InvalidThemeRule ∨ selected = .panicked)

variable (h : Sound planner.configuration) (hchooses : Chooses planner.choice_source)
include h hchooses

theorem Sound.select_rotation_theme (context : ThemeSelectionContext) :
    Selects (planner.select_rotation_theme seed context) (context.recent_theme_ids ≠ [] →
      (∀ theme ∈ planner.configuration.themes, theme.id ∈ context.recent_theme_ids) →
        planner.choice_source seed 0x005448454d45 0 = none) := by
  have hdefault := h.decision_ok h.default .DefaultTheme none
  unfold DeterministicPlanner.select_rotation_theme
  extract_lets default_theme candidates
  by_cases hrecent : context.recent_theme_ids = []
  · rw [if_pos (by rw [hrecent]; rfl)]
    exact ⟨fun _ => hdefault, fun hnot => absurd (fun hne => absurd hrecent hne) hnot⟩
  rw [if_neg (by simpa using hrecent)]
  by_cases hleft : candidates = []
  · have hall : ∀ theme ∈ planner.configuration.themes, theme.id ∈ context.recent_theme_ids := by
      simpa [candidates] using hleft
    rw [hleft, List.length_nil]
    cases hchoice : planner.choice_source seed 0x005448454d45 0 with
    | none => exact ⟨fun _ => hdefault, fun hnot => absurd (fun _ _ => rfl) hnot⟩
    | some i =>
      exact ⟨fun hdraws => absurd (hdraws hrecent hall) (Option.some_ne_none i), fun _ => .inr rfl⟩
  · obtain ⟨i, hi, hchoice⟩ := hchooses seed 0x005448454d45 candidates.length
      (List.length_pos_iff.mpr hleft)
    rw [hchoice]
    have hmem : candidates.get ⟨i, hi⟩ ∈ planner.configuration.themes :=
      (mem_filter.mp (List.get_mem _ _)).1
    have hconfigured : planner.configuration.Configured (candidates.get ⟨i, hi⟩).id :=
      List.mem_map_of_mem hmem
    have hunseen : ¬ ∀ theme ∈ planner.configuration.themes,
        theme.id ∈ context.recent_theme_ids := by
      intro hall
      exact hleft (List.filter_eq_nil_iff.mpr (by simpa using hall))
    refine ⟨fun _ => ?_, fun hnot => absurd (fun _ hall => absurd hall hunseen) hnot⟩
    simp only [vec_index, List.getElem?_eq_getElem hi, ok_bind]
    exact h.decision_ok hconfigured .Rotation none

theorem Sound.draw (hrule : rule ∈ planner.configuration.color_rules) (color : TrackColor)
    (context : ThemeSelectionContext) :
    Selects (rule.draw planner seed color context)
      (Weighs (rule.offers context.recent_theme_ids)) := by
  unfold ThemeColorRule.draw
  constructor
  · intro hweighs
    obtain ⟨candidate, hcandidate, hchoice⟩ := weighted_choice_ok hchooses hweighs
    rw [hchoice, ok_bind]
    exact h.decision_ok ((h.usable rule hrule).2 candidate (offers_subset hcandidate)) _ _
  · intro hnot
    rw [weighted_choice_err hnot]
    exact .inl rfl

theorem Sound.select_initial_theme (track : PlannerTrack) (context : ThemeSelectionContext) :
    Selects (planner.select_initial_theme track seed context)
      (Draws planner track seed context) := by
  unfold DeterministicPlanner.select_initial_theme Draws
  rw [h.unlocked, h.no_policy]
  simp only [List.isEmpty_nil, not_true_eq_false, ↓reduceIte, select_color_theme_eq]
  cases track.color with
  | none => exact h.select_rotation_theme hchooses context
  | some color =>
    simp only [Option.bind_some]
    cases hrule : planner.configuration.rule_for color with
    | none => exact h.select_rotation_theme hchooses context
    | some rule => exact h.draw hchooses (rule_for_mem hrule) color context

end drawing

/-! ## Generated plans -/

/-- The cue shows a scene of the category of the phrase, in the theme of the decision, while the
phrase plays. -/
structure Cued (decision : ThemeDecision) (phrase : TrackPhrase) (cue : LightingCue) : Prop where
  phrase_index : cue.phrase_index = phrase.index
  start_beat : cue.start_beat = phrase.start_beat
  end_beat : cue.end_beat = phrase.end_beat
  look : ∃ look, cue.action = .ApplyLook look ∧ look.category = category_for phrase.kind ∧
    look.theme_id = decision.theme_id ∧ look.theme_name = decision.theme_name

/-- The plan for the input: one cue for every phrase when the phrases cover the track, and one
cue that holds the look else. -/
structure Planned (input : PlanningInput) (plan : LightingPlan) : Prop where
  cue_ids : (plan.cues.map (·.id)).Nodup
  ready : plan.status = .Ready ↔
    ∃ phrases, input.track.phrases = some phrases ∧ Covers phrases input.track.duration_beats
  cued : ∀ phrases, input.track.phrases = some phrases →
    Covers phrases input.track.duration_beats →
      ∃ decision, plan.theme_decision = some decision ∧
        List.Forall₂ (Cued decision) phrases plan.cues
  held : plan.status ≠ .Ready → ∃ cue, plan.cues = [cue] ∧ cue.action = .HoldCurrentLook ∧
    cue.origin = .Fallback ∧ cue.start_beat = 0 ∧ cue.end_beat = input.track.duration_beats

/-- The configuration has a revision, and a theme can be drawn when the phrases cover the track. -/
structure Plans (planner : DeterministicPlanner) (input : PlanningInput)
    (context : ThemeSelectionContext) : Prop where
  configured : planner.configuration.revision.value ≠ 0
  draws : ∀ phrases, input.track.phrases = some phrases →
    Covers phrases input.track.duration_beats →
      Draws planner input.track (planner.seed_of input) context

section generation

variable {planner : DeterministicPlanner} {input : PlanningInput}
  {context : ThemeSelectionContext} {phrases : List TrackPhrase}

theorem plan_phrase_cued {seed : UInt64} {decision : ThemeDecision} {phrase : TrackPhrase}
    {cue : LightingCue}
    (h : planner.plan_phrase seed plan_id ⟨decision.theme_id, decision.theme_name⟩ phrase =
      .ok cue) : Cued decision phrase cue := by
  unfold plan_phrase at h
  obtain ⟨i, _, h⟩ := bind_eq_ok.mp h
  obtain ⟨scene, hscene, h⟩ := bind_eq_ok.mp h
  obtain ⟨look, hlook, h⟩ := bind_eq_ok.mp h
  rw [lift_eq_ok] at hlook
  obtain ⟨_, _, rfl⟩ := try_new_look_eq_ok.mp hlook
  cases h
  refine ⟨rfl, rfl, rfl, _, rfl, ?_, rfl, rfl⟩
  unfold vec_index at hscene
  split at hscene
  · rename_i hget
    cases hscene
    exact of_decide_eq_true (mem_filter.mp (List.mem_of_getElem? hget)).2
  · cases hscene

/-- Phrases that do not cover the track are given one cue that holds the look. -/
theorem plan_cues_of_incomplete (h : complete_phrases input = none) :
    planner.plan_cues input context =
      .ok (none, [.new ⟨nonzero (mix (planner.plan_id_of input).value)⟩ 0 0
        input.track.duration_beats .HoldCurrentLook .Fallback .MissingPhraseAnalysis]) := by
  unfold plan_cues
  unfold complete_phrases at h
  rw [h]

/-- A plan needs a revision of the configuration. -/
theorem try_new_of_no_revision (id : PlanId) (deck_id : DeckId) (track_id : TrackId)
    {track_duration_beats : UInt32} (track_load_id : TrackLoadId) {revision : PlanRevision}
    {configuration_revision : PlanConfigurationRevision} (seed : UInt64) (status : PlanStatus)
    (theme_decision : Option ThemeDecision) (cues : List LightingCue)
    (hrevision : revision.value ≠ 0) (hzero : configuration_revision.value = 0) :
    LightingPlan.try_new_with_theme_decision id deck_id track_id track_duration_beats track_load_id
      revision configuration_revision seed status theme_decision cues =
        .error .ZeroConfigurationRevision := by
  have hinvalid : validate_plan track_duration_beats revision configuration_revision status
      theme_decision cues = .error .ZeroConfigurationRevision := by
    unfold validate_plan
    rw [if_neg hrevision, if_pos hzero]
  unfold LightingPlan.try_new_with_theme_decision
  split
  · rename_i error herror
    rw [herror] at hinvalid
    exact congrArg _ (Except.error.inj hinvalid)
  rename_i hvalid
  rw [hvalid] at hinvalid
  cases hinvalid

variable (h : Sound planner.configuration) (hchooses : Chooses planner.choice_source)
  (hduration : input.track.duration_beats ≠ 0)
  (hconfigured : planner.configuration.revision.value ≠ 0)
  (hphrases : input.track.phrases = some phrases)
  (hcovers : Covers phrases input.track.duration_beats)

include hcovers

/-- Cues in the places of numbered phrases have ids of their own. -/
theorem placed_ids_nodup
    (hplaces : cues.map LightingCue.place = phrases.map (phrase_place plan_id)) :
    (cues.map (·.id)).Nodup := by
  have hids := congrArg (List.map Prod.fst) hplaces
  rw [map_map, map_map] at hids
  change cues.map (·.id) = phrases.map fun phrase => cue_id plan_id phrase.index at hids
  rw [hids]
  exact cue_ids_nodup plan_id hcovers.indexed

/-- Cues in the places of phrases that cover the track pass the walk to its end. -/
theorem walk_cues_of_covers
    (hplaces : cues.map LightingCue.place = phrases.map (phrase_place plan_id)) :
    walk_cues [] 0 0 false cues =
      .ok (input.track.duration_beats, cues.any (·.origin == .Fallback)) := by
  have hindexed : Indexed (fun place : CueId × UInt16 × UInt32 × UInt32 => place.2.1.toNat) 0
      (cues.map LightingCue.place) := by
    rw [hplaces, indexed_map]
    exact hcovers.indexed
  have htiles : Tiles (fun place : CueId × UInt16 × UInt32 × UInt32 => place.2.2.1.toNat)
      (fun place => place.2.2.2.toNat) 0 (cues.map LightingCue.place)
      input.track.duration_beats.toNat := by
    rw [hplaces, tiles_map]
    exact hcovers.tiles
  rw [indexed_map] at hindexed
  rw [tiles_map] at htiles
  exact walk_cues_of (placed_ids_nodup hcovers hplaces) (fun _ _ => List.not_mem_nil)
    hindexed htiles

include hduration hphrases

/-- Without a theme there is no plan. -/
theorem generate_of_no_theme
    (h : planner.select_initial_theme input.track (planner.seed_of input) context =
        .err .InvalidThemeRule ∨
      planner.select_initial_theme input.track (planner.seed_of input) context = .panicked) :
    planner.generate_with_context input context = .err .InvalidThemeRule ∨
      planner.generate_with_context input context = .panicked := by
  have hcomplete := complete_phrases_eq_some.mpr ⟨hphrases, hcovers⟩
  unfold complete_phrases at hcomplete
  unfold generate_with_context plan_cues
  rw [if_neg hduration, hcomplete]
  rcases h with h | h
  · left
    simp only [h, Outcome.err_bind]
  right
  simp only [h, Outcome.panicked_bind]

omit hphrases hcovers

include hconfigured in
theorem generate_of_incomplete (h : complete_phrases input = none) :
    ∃ plan, planner.generate_with_context input context = .ok plan ∧ Planned input plan := by
  have hnone : ¬ ∃ phrases, input.track.phrases = some phrases ∧
      Covers phrases input.track.duration_beats := by
    rintro ⟨phrases, hphrases⟩
    rw [complete_phrases_eq_some.mpr hphrases] at h
    cases h
  unfold generate_with_context
  rw [if_neg hduration, plan_cues_of_incomplete h]
  simp only [ok_bind, lift_eq_ok, LightingPlan.try_new_with_theme_decision_eq_ok]
  refine ⟨_, ⟨?_, rfl⟩, ?_⟩
  · have hpos : ¬ input.track.duration_beats ≤ 0 := by
      rw [UInt32.not_le]
      exact UInt32.pos_iff_ne_zero.mpr hduration
    refine validate_plan_ok.mpr ⟨by decide, hconfigured, hduration, List.cons_ne_nil _ _, true, ?_⟩
    simp [walk_cues, LightingCue.new, hpos]
  · refine ⟨List.nodup_singleton _, ?_, ?_, ?_⟩
    · exact ⟨fun hready => PlanStatus.noConfusion hready, fun hcovered => absurd hcovered hnone⟩
    · exact fun phrases hphrases hcovers => absurd ⟨phrases, hphrases, hcovers⟩ hnone
    · exact fun _ => ⟨_, rfl, rfl, rfl, rfl, rfl⟩

theorem generate_of_no_revision {decision : Option ThemeDecision}
    (hcues : planner.plan_cues input context = .ok (decision, cues))
    (hrevision : planner.configuration.revision.value = 0) :
    planner.generate_with_context input context =
      .err (.InvalidPlan .ZeroConfigurationRevision) := by
  unfold generate_with_context
  rw [if_neg hduration, hcues]
  simp only [ok_bind]
  rw [try_new_of_no_revision _ _ _ _ _ _ _ _ (by decide) hrevision]
  rfl

omit hduration
include h hchooses

/-- Every category has a scene, so every phrase gets a cue. -/
theorem Sound.plan_phrase_ok {theme : ThemeDefinition} (hnamed : is_blank theme.name = false)
    (seed : UInt64) (plan_id : PlanId) (phrase : TrackPhrase) :
    ∃ cue, planner.plan_phrase seed plan_id theme phrase = .ok cue := by
  have hscenes : ∀ category : SceneCategory,
      0 < (planner.configuration.scenes.filter (·.category = category)).length := by
    rw [h.scenes]
    intro category
    cases category <;> decide
  have hscene_named : ∀ scene ∈ planner.configuration.scenes, is_blank scene.name = false := by
    rw [h.scenes]
    decide
  unfold plan_phrase
  extract_lets category candidates
  obtain ⟨i, hi, hchoice⟩ := hchooses seed (phrase.index.toUInt64 + 1) candidates.length
    (hscenes category)
  have hmem := (mem_filter.mp (List.getElem_mem hi)).1
  rw [hchoice]
  simp only [ok_or, ok_bind, vec_index, List.getElem?_eq_getElem hi,
    try_new_look_of_named _ _ _ _ hnamed (hscene_named _ hmem)]
  exact ⟨_, rfl⟩

theorem Sound.plan_analyzed_phrases_ok {name : String} (hnamed : is_blank name = false)
    (seed : UInt64) (plan_id : PlanId) (phrases : List TrackPhrase) :
    ∃ cues, planner.plan_analyzed_phrases seed plan_id phrases ⟨theme_id, name⟩ = .ok cues := by
  apply Outcome.collect_succeeds.mpr
  intro phrase _
  exact h.plan_phrase_ok hchooses hnamed seed plan_id phrase

include hduration hconfigured hphrases hcovers

/-- The phrases cover the track, so the planner can make a plan of them. -/
theorem Sound.plannable : Plannable planner input phrases where
  complete := complete_phrases_eq_some.mpr ⟨hphrases, hcovers⟩
  duration := hduration
  configured := hconfigured
  not_empty := hcovers.not_empty
  planned := fun _ hnamed => h.plan_analyzed_phrases_ok hchooses hnamed _ _ phrases
  walked := fun _ hplaces => walk_cues_of_covers hcovers hplaces

theorem Sound.generate_of_draws
    (hdraws : Draws planner input.track (planner.seed_of input) context) :
    ∃ plan, planner.generate_with_context input context = .ok plan ∧ Planned input plan := by
  obtain ⟨chosen, hselect⟩ := (h.select_initial_theme hchooses input.track context).1 hdraws
  have hplannable := h.plannable hchooses hduration hconfigured hphrases hcovers
  obtain ⟨plan, hplan, hdecision, hgenerated⟩ := hplannable.generate_with_context hselect
  obtain ⟨_, phrases', hphrases', hcues⟩ := plan_cues_eq_ok.mp
    (generate_with_context_ok hplan hdecision).1
  have hsame : ∀ others, input.track.phrases = some others → others = phrases := by
    intro others hothers
    rw [hphrases, Option.some.injEq] at hothers
    exact hothers.symm
  obtain rfl := hsame phrases' (complete_phrases_eq_some.mp hphrases').1
  refine ⟨plan, hplan, placed_ids_nodup hcovers (fresh_places (plan_analyzed_phrases_fresh hcues)),
    ?_, ?_, ?_⟩
  · exact ⟨fun _ => ⟨_, hphrases, hcovers⟩, fun _ => hgenerated.status⟩
  · intro others hothers _
    obtain rfl := hsame others hothers
    exact ⟨chosen, hdecision, (Outcome.collect_eq_ok.mp hcues).imp fun _ _ => plan_phrase_cued⟩
  · exact fun hnot => absurd hgenerated.status hnot

omit hconfigured hphrases hcovers

/-- Everything that a generation ends with. -/
theorem Sound.generate :
    (Plans planner input context ∧
      ∃ plan, planner.generate_with_context input context = .ok plan ∧ Planned input plan) ∨
    (¬ Plans planner input context ∧
      (planner.generate_with_context input context = .err .InvalidThemeRule ∨
        planner.generate_with_context input context =
          .err (.InvalidPlan .ZeroConfigurationRevision) ∨
        planner.generate_with_context input context = .panicked)) := by
  cases hcomplete : complete_phrases input with
  | none =>
    have hdraws : ∀ phrases, input.track.phrases = some phrases →
        Covers phrases input.track.duration_beats →
          Draws planner input.track (planner.seed_of input) context := by
      intro phrases hphrases hcovers
      rw [complete_phrases_eq_some.mpr ⟨hphrases, hcovers⟩] at hcomplete
      cases hcomplete
    by_cases hrevision : planner.configuration.revision.value = 0
    · exact .inr ⟨fun hplans => hplans.configured hrevision, .inr (.inl
        (generate_of_no_revision hduration (plan_cues_of_incomplete hcomplete) hrevision))⟩
    · exact .inl ⟨⟨hrevision, hdraws⟩, generate_of_incomplete hduration hrevision hcomplete⟩
  | some phrases =>
    obtain ⟨hphrases, hcovers⟩ := complete_phrases_eq_some.mp hcomplete
    obtain ⟨hok, herr⟩ : Selects
        (planner.select_initial_theme input.track (planner.seed_of input) context)
        (Draws planner input.track (planner.seed_of input) context) :=
      h.select_initial_theme hchooses input.track context
    by_cases hdraws : Draws planner input.track (planner.seed_of input) context
    · by_cases hrevision : planner.configuration.revision.value = 0
      · obtain ⟨chosen, hselect⟩ := hok hdraws
        obtain ⟨cues, hcues⟩ := h.plan_analyzed_phrases_ok hchooses chosen.named
          (planner.seed_of input) (planner.plan_id_of input) phrases
        exact .inr ⟨fun hplans => hplans.configured hrevision, .inr (.inl
          (generate_of_no_revision hduration
            (plan_cues_eq_ok.mpr ⟨hselect, phrases, hcomplete, hcues⟩) hrevision))⟩
      · exact .inl ⟨⟨hrevision, fun _ _ _ => hdraws⟩,
          h.generate_of_draws hchooses hduration hrevision hphrases hcovers hdraws⟩
    · refine .inr ⟨fun hplans => hdraws (hplans.draws phrases hphrases hcovers), ?_⟩
      rcases generate_of_no_theme hduration hphrases hcovers (herr hdraws) with hend | hend
      · exact .inl hend
      · exact .inr (.inr hend)

end generation

/-! ## The law of generation -/

theorem stable_choice_source_chooses : Chooses StableChoiceSource := by
  intro seed decision n hn
  unfold StableChoiceSource
  rw [if_neg (Nat.pos_iff_ne_zero.mp hn)]
  refine ⟨_, ?_, rfl⟩
  generalize mix (seed ^^^ decision * 0x9e3779b97f4a7c15) = mixed
  rw [UInt64.toNat_mod, UInt64.toNat_ofNat']
  have hmixed := mixed.toNat_lt
  by_cases hbound : n < 2 ^ 64
  · rw [Nat.mod_eq_of_lt hbound]
    exact Nat.mod_lt _ hn
  · exact (Nat.mod_le _ _).trans_lt (by omega)

/-- For every configuration and every track a plan is made exactly when a theme can be drawn, no
plan fails for its cues, and the plan has a cue of the right category for every phrase of a track
that its phrases cover. -/
theorem a_plan_is_made_when_a_theme_is_drawn {configuration : PlanningConfiguration}
    {source : ChoiceSource} (hbuilt : Built configuration) (hchooses : Chooses source)
    (input : PlanningInput) (context : ThemeSelectionContext)
    (hduration : 0 < input.track.duration_beats) :
    let planner : DeterministicPlanner := ⟨configuration, source⟩
    ((∃ plan, planner.generate_with_context input context = .ok plan) ↔
      Plans planner input context) ∧
    (∀ error, planner.generate_with_context input context = .err error →
      error = .InvalidThemeRule ∨ error = .InvalidPlan .ZeroConfigurationRevision) ∧
    ∀ plan, planner.generate_with_context input context = .ok plan → Planned input plan := by
  intro planner
  have hne : input.track.duration_beats ≠ 0 := UInt32.pos_iff_ne_zero.mp hduration
  have hsound : Sound planner.configuration := hbuilt.sound
  rcases hsound.generate hchooses hne with ⟨hplans, plan, hplan, hplanned⟩ | ⟨hnot, hend⟩
  · rw [hplan]
    refine ⟨⟨fun _ => hplans, fun _ => ⟨plan, rfl⟩⟩, ?_, ?_⟩
    · intro error herror
      cases herror
    · intro plan' hplan'
      cases hplan'
      exact hplanned
  · rcases hend with hend | hend | hend <;> rw [hend] <;> simp [hnot]

namespace sample

/-- A red track of one phrase. -/
def red_input : PlanningInput where
  deck_id := ⟨1⟩
  track_load_id := ⟨1⟩
  track := .with_analysis_and_color ⟨7⟩ 16 ⟨200, 0, 0⟩ [⟨0, 0, 16, .Intro⟩]

/-- For red tracks the first theme is preferred, and the second has no weight. -/
def red_rule : ThemeColorRule where
  color := ⟨200, 0, 0⟩
  mode := .Prefer
  candidates := [⟨⟨1⟩, 1⟩, ⟨⟨2⟩, 0⟩]

def red_configuration : PlanningConfiguration :=
  PlanningConfiguration.epic_one.with_color_rules [red_rule]

end sample

open sample in
theorem a_red_track_is_planned :
    Built .epic_one ∧ Chooses StableChoiceSource ∧ 0 < red_input.track.duration_beats ∧
      ∃ plan, DeterministicPlanner.epic_one.generate_with_context red_input .default =
        .ok plan := by
  refine ⟨.epic_one, stable_choice_source_chooses, by decide, ?_⟩
  apply (a_plan_is_made_when_a_theme_is_drawn .epic_one stable_choice_source_chooses red_input
    .default (by decide)).1.mpr
  refine ⟨by decide, fun _ _ _ => ?_⟩
  exact fun hrecent => absurd rfl hrecent

open sample in
/-- Once the first theme was shown, only the candidate without a weight is left of the rule. -/
theorem a_rule_without_weight_leaves_no_plan :
    Built red_configuration ∧ Chooses StableChoiceSource ∧
      0 < red_input.track.duration_beats ∧
      DeterministicPlanner.generate_with_context ⟨red_configuration, StableChoiceSource⟩ red_input
        (.new [⟨1⟩]) = .err .InvalidThemeRule := by
  refine ⟨.with_color_rules .epic_one ?_, stable_choice_source_chooses, by decide,
    by decide +kernel⟩
  unfold ThemeColorRule.Usable PlanningConfiguration.Configured
  decide

end lumi_planner
