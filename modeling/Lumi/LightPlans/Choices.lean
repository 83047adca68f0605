-- The laws of the AutoLoop choices in a compiled plan: which phrases get one,
-- which one they get, and when the compiler does not answer.
import Lumi.LightPlans.Selection

open rust
open Outcome (bind_eq_err bind_eq_ok)

namespace lumi_light_plans

namespace Compilation

variable {c : Compilation} {seed : UInt64} {history : VariationHistory} {uses : List String}
  {phrase : PhraseRequest} {phrases : List PhraseRequest} {plan : CompiledLightPlan} {depth : Nat}
  {error : LightPlanError}

/-! ## What a phrase may get -/

/-- The candidate is one of the theme for the role, and no rule disables it. -/
def Enabled (c : Compilation) (role_id : String) (candidate : Candidate) : Prop :=
  candidate ∈ c.candidates ∧ candidate.theme_id = c.theme_id ∧ candidate.role_id = role_id ∧
    ∀ rule, c.rule_of role_id candidate = some rule → rule.enabled = true

/-- A rule has the candidate for some colors only. -/
def OnlyColored (c : Compilation) (role_id : String) (candidate : Candidate) : Prop :=
  ∃ rule, c.rule_of role_id candidate = some rule ∧ rule.color_behavior = .Only

/-- A rule has the candidate for some colors only, and the color of the track is one of them. -/
def OnlyForTrack (c : Compilation) (role_id : String) (candidate : Candidate) : Prop :=
  ∃ rule rgb, c.rule_of role_id candidate = some rule ∧ rule.color_behavior = .Only ∧
    c.track_color_rgb = some rgb ∧ rgb ∈ rule.color_rgb

/-- The candidates that an automatic phrase of the role may get: the enabled ones for the color of
the track alone, and when there is none of these, the enabled ones that are for no color alone. -/
def Eligible (c : Compilation) (role_id : String) (candidate : Candidate) : Prop :=
  c.Enabled role_id candidate ∧
    ((∃ other, c.Enabled role_id other ∧ c.OnlyForTrack role_id other) →
      c.OnlyForTrack role_id candidate) ∧
    ((∀ other, c.Enabled role_id other → ¬ c.OnlyForTrack role_id other) →
      ¬ c.OnlyColored role_id candidate)

variable {role_id : String} {candidate : Candidate} {used : BTreeMap String (List String)}
  {before : List CompiledAutoloopChoice}

theorem mem_mapped :
    candidate ∈ c.mapped role_id ↔ candidate ∈ c.candidates ∧
      candidate.theme_id = c.theme_id ∧ candidate.role_id = role_id := by
  simp [mapped]

theorem enabled_iff :
    candidate ∈ (c.mapped role_id).filter (fun candidate =>
      (c.rule_of role_id candidate).all (·.enabled)) ↔ c.Enabled role_id candidate := by
  rw [List.mem_filter, mem_mapped, Option.all_eq_true]
  simp only [Enabled, and_assoc]

theorem matching_color_only_iff :
    c.matching_color_only role_id candidate = true ↔ c.OnlyForTrack role_id candidate := by
  unfold matching_color_only OnlyForTrack color_matches
  cases c.rule_of role_id candidate <;> cases c.track_color_rgb <;> simp

theorem only_iff :
    (c.rule_of role_id candidate).all (·.color_behavior != .Only) = true ↔
      ¬ c.OnlyColored role_id candidate := by
  unfold OnlyColored
  cases c.rule_of role_id candidate <;> simp

/-- The candidates that the compiler allows are the eligible ones. -/
theorem mem_allowed : candidate ∈ c.allowed role_id ↔ c.Eligible role_id candidate := by
  unfold allowed Eligible
  dsimp only
  split
  · rename_i hsome
    rw [Bool.not_eq_true', List.isEmpty_eq_false_iff] at hsome
    obtain ⟨other, hother⟩ := List.exists_mem_of_ne_nil _ hsome
    rw [List.mem_filter, enabled_iff, matching_color_only_iff] at hother
    rw [List.mem_filter, enabled_iff, matching_color_only_iff]
    constructor
    · rintro ⟨henabled, honly⟩
      exact ⟨henabled, fun _ => honly, fun hnone => absurd hother.2 (hnone other hother.1)⟩
    · rintro ⟨henabled, honly, _⟩
      exact ⟨henabled, honly ⟨other, hother⟩⟩
  · rename_i hempty
    have hnone : ∀ other, c.Enabled role_id other → ¬ c.OnlyForTrack role_id other := by
      intro other henabled honly
      have hmem : other ∈ ((c.mapped role_id).filter fun candidate =>
          (c.rule_of role_id candidate).all (·.enabled)).filter
            (c.matching_color_only role_id) := by
        rw [List.mem_filter, enabled_iff, matching_color_only_iff]
        exact ⟨henabled, honly⟩
      simp only [Bool.not_eq_true', Bool.not_eq_false, List.isEmpty_iff] at hempty
      rw [hempty] at hmem
      cases hmem
    rw [List.mem_filter, enabled_iff, only_iff]
    constructor
    · rintro ⟨henabled, hnot⟩
      refine ⟨henabled, fun ⟨other, hother, honly⟩ => absurd honly (hnone other hother), ?_⟩
      exact fun _ => hnot
    · rintro ⟨henabled, _, hnot⟩
      exact ⟨henabled, hnot hnone⟩

/-! ## What a phrase gets -/

/-- The variant is none of those that the role was shown last: in the history, and in the part of
the plan before the phrase. -/
def Unused (c : Compilation) (history : VariationHistory) (uses : List String) (role_id : String)
    (variant_id : String) : Prop :=
  variant_id ∉ history.recent_variants role_id c.policy.autoloop_cooldown_uses.toNat ∧
    variant_id ∉ uses.reverse.take c.policy.autoloop_cooldown_uses.toNat

instance (c : Compilation) (history : VariationHistory) (uses : List String)
    (role_id variant_id : String) : Decidable (c.Unused history uses role_id variant_id) :=
  inferInstanceAs (Decidable (_ ∧ _))

/-- The choice of a phrase, after the uses of its role in the part of the plan before it. -/
structure ChoiceFor (c : Compilation) (history : VariationHistory) (uses : List String)
    (phrase : PhraseRequest) (pick : Option CompiledAutoloopChoice) : Prop where
  automatic : phrase.selection = .Automatic →
    (pick.isSome ↔ ∃ candidate, c.Eligible phrase.role_id candidate)
  eligible : phrase.selection = .Automatic → ∀ chosen, pick = some chosen →
    ∃ candidate evidence, c.Eligible phrase.role_id candidate ∧
      chosen = choice phrase candidate evidence
  unused : phrase.selection = .Automatic → ∀ chosen, pick = some chosen →
    (∃ candidate, c.Eligible phrase.role_id candidate ∧
      c.Unused history uses phrase.role_id candidate.variant_id) →
    c.Unused history uses phrase.role_id chosen.variant_id
  requested : ∀ id, phrase.selection.requested = some id →
    (∃ candidate ∈ c.candidates, candidate.theme_id = c.theme_id ∧
      candidate.role_id = phrase.role_id) →
    ∃ candidate ∈ c.candidates, candidate.theme_id = c.theme_id ∧
      candidate.role_id = phrase.role_id ∧ candidate.variant_id = id ∧
      ∃ evidence, pick = some (choice phrase candidate evidence)

/-- The roll keeps clear of what was used lately when it can. -/
theorem roll_unused {evidence : SelectionEvidence}
    (h : c.roll seed history uses phrase = some (candidate, evidence))
    (hfresh : ∃ other ∈ c.allowed phrase.role_id,
      c.Unused history uses phrase.role_id other.variant_id) :
    c.Unused history uses phrase.role_id candidate.variant_id := by
  have hlist : ∀ other ∈ (c.unrepeated history uses phrase.role_id).1,
      c.Unused history uses phrase.role_id other.variant_id := by
    obtain ⟨fresh, hallowed, hunused⟩ := hfresh
    unfold unrepeated
    dsimp only
    split
    · rename_i hempty
      rw [List.isEmpty_iff] at hempty
      have hnone := List.filter_eq_nil_iff.mp hempty fresh hallowed
      exact absurd (decide_eq_true hunused) hnone
    · intro other hother
      exact of_decide_eq_true (List.mem_filter.mp hother).2
  unfold roll at h
  rcases hunrepeated : c.unrepeated history uses phrase.role_id with ⟨eligible, relaxed⟩
  rw [hunrepeated] at h hlist
  dsimp only at h hlist
  cases eligible with
  | nil => cases h
  | cons first rest =>
    simp only [Option.some.injEq, Prod.mk.injEq] at h
    rw [← h.1]
    exact hlist _ weighted_select_mem

/-- One turn of the loop gives the phrase its choice. -/
theorem select_choice {found : Option (Candidate × SelectionEvidence)}
    (h : c.select seed history uses phrase = .ok found) :
    c.ChoiceFor history uses phrase
      (found.map fun selected => choice phrase selected.1 selected.2) := by
  unfold select at h
  split at h
  · rename_i hmapped
    rw [List.isEmpty_iff] at hmapped
    cases h
    have hnone : ∀ candidate, candidate ∉ c.mapped phrase.role_id := by simp [hmapped]
    refine ⟨fun _ => ?_, fun _ _ hpick => (by cases hpick), fun _ _ hpick => (by cases hpick), ?_⟩
    · simp only [Option.map_none, Option.isSome_none, Bool.false_eq_true, false_iff, not_exists]
      intro candidate heligible
      exact hnone candidate (allowed_subset (mem_allowed.mpr heligible))
    · rintro id _ ⟨candidate, hmem, htheme, hrole⟩
      exact absurd (mem_mapped.mpr ⟨hmem, htheme, hrole⟩) (hnone candidate)
  · split at h
    · rename_i id hid
      have hauto : phrase.selection ≠ .Automatic := by
        intro hauto
        rw [hauto] at hid
        cases hid
      split at h
      · cases h
      rename_i selected hselected
      cases h
      refine ⟨fun ha => absurd ha hauto, fun ha => absurd ha hauto, fun ha => absurd ha hauto, ?_⟩
      rintro id' hid' _
      rw [hid, Option.some.injEq] at hid'
      subst hid'
      obtain ⟨hmem, htheme, hrole⟩ := mem_mapped.mp (List.mem_of_find?_eq_some hselected)
      have hvariant : selected.variant_id = id := by simpa using List.find?_some hselected
      exact ⟨selected, hmem, htheme, hrole, hvariant, _, rfl⟩
    · rename_i hid
      rw [Outcome.ok.injEq] at h
      refine ⟨fun _ => ?_, fun _ chosen hpick => ?_, fun _ chosen hpick hfresh => ?_, ?_⟩
      · rw [Option.isSome_map, ← h]
        rcases roll_cases c seed history uses phrase with ⟨hnone, hroll⟩ | ⟨_, _, _, hmem, hroll⟩
          <;> rw [hroll]
        · simp [← mem_allowed, hnone]
        exact ⟨fun _ => ⟨_, mem_allowed.mp hmem⟩, fun _ => rfl⟩
      · obtain ⟨⟨candidate, evidence⟩, rfl, rfl⟩ := Option.map_eq_some_iff.mp hpick
        rcases roll_cases c seed history uses phrase with ⟨_, hroll⟩ | ⟨_, _, _, hmem, hroll⟩
          <;> rw [hroll] at h
        · cases h
        cases h
        exact ⟨candidate, evidence, mem_allowed.mp hmem, rfl⟩
      · obtain ⟨⟨candidate, evidence⟩, rfl, rfl⟩ := Option.map_eq_some_iff.mp hpick
        obtain ⟨other, hother, hunused⟩ := hfresh
        exact roll_unused h ⟨other, mem_allowed.mpr hother, hunused⟩
      · intro id hid'
        rw [hid] at hid'
        cases hid'

/-! ## What the plan holds -/

/-- The variants that the choices have for the role, in order. -/
def uses_of (choices : List CompiledAutoloopChoice) (role_id : String) : List String :=
  (choices.filter (·.role_id = role_id)).map (·.variant_id)

/-- Each phrase has its choice or none, and the choices of the plan are these, in order. -/
def ChosenBy (c : Compilation) (history : VariationHistory)
    (before : List CompiledAutoloopChoice) (phrases : List PhraseRequest)
    (choices : List CompiledAutoloopChoice) : Prop :=
  ∃ picks : List (Option CompiledAutoloopChoice), picks.length = phrases.length ∧
    choices = picks.reduceOption ∧
    ∀ i phrase pick, phrases[i]? = some phrase → picks[i]? = some pick →
      c.ChoiceFor history (uses_of (before ++ (picks.take i).reduceOption) phrase.role_id) phrase
        pick

theorem uses_of_push (hused : ∀ role_id, used[role_id]?.getD [] = uses_of before role_id)
    (evidence : SelectionEvidence) (role_id : String) :
    (push_under used phrase.role_id candidate.variant_id)[role_id]?.getD [] =
      uses_of (before ++ [choice phrase candidate evidence]) role_id := by
  unfold push_under uses_of
  rw [map_get_insert, List.filter_append, List.map_append, List.filter_singleton]
  split
  · rename_i hrole
    subst hrole
    rw [Option.getD_some, hused]
    simp [uses_of, choice]
  · rename_i hrole
    rw [hused]
    simp [uses_of, choice, hrole]

/-- The loop goes on from the choices before it. -/
theorem select_all_chosen {before choices : List CompiledAutoloopChoice}
    (h : c.select_all seed history used phrases = .ok choices)
    (hused : ∀ role_id, used[role_id]?.getD [] = uses_of before role_id) :
    c.ChosenBy history before phrases choices := by
  induction phrases generalizing used before choices with
  | nil =>
    cases h
    exact ⟨[], rfl, rfl, fun i phrase pick hphrase => by simp at hphrase⟩
  | cons phrase phrases ih =>
    unfold select_all at h
    obtain ⟨found, hfound, h⟩ := bind_eq_ok.mp h
    have hfirst := select_choice hfound
    rw [hused] at hfirst
    cases found with
    | none =>
      obtain ⟨picks, hlength, hchoices, hpicks⟩ := ih h hused
      refine ⟨none :: picks, by simp [hlength], by simp [hchoices], ?_⟩
      intro i phrase' pick hphrase hpick
      cases i with
      | zero =>
        cases hphrase
        cases hpick
        simpa using hfirst
      | succ i => simpa using hpicks i phrase' pick hphrase hpick
    | some selected =>
      obtain ⟨candidate, evidence⟩ := selected
      obtain ⟨rest, hrest, h⟩ := bind_eq_ok.mp h
      cases h
      obtain ⟨picks, hlength, hchoices, hpicks⟩ := ih hrest (uses_of_push hused evidence)
      refine ⟨some (choice phrase candidate evidence) :: picks, by simp [hlength],
        by simp [hchoices], ?_⟩
      intro i phrase' pick hphrase hpick
      cases i with
      | zero =>
        cases hphrase
        cases hpick
        simpa using hfirst
      | succ i => simpa using hpicks i phrase' pick hphrase hpick

theorem compile_once_chosen (h : c.compile_once seed history = .ok plan) :
    c.ChosenBy history [] c.phrases plan.choices := by
  obtain ⟨_, _, h⟩ := bind_eq_ok.mp h
  obtain ⟨choices, hchoices, h⟩ := bind_eq_ok.mp h
  cases h
  exact select_all_chosen hchoices fun role_id => by simp [uses_of]

/-! ## When the compiler fails -/

/-- The error is about a phrase that asks for an AutoLoop which its role does not have. -/
def Unmapped (c : Compilation) (error : LightPlanError) : Prop :=
  ∃ phrase ∈ c.phrases, ∃ id, phrase.selection.requested = some id ∧
    (∀ candidate ∈ c.candidates, candidate.theme_id = c.theme_id →
      candidate.role_id = phrase.role_id → candidate.variant_id ≠ id) ∧
    error = .MissingVariant phrase.role_id id

theorem select_err (h : c.select seed history uses phrase = .err error) :
    ∃ id, phrase.selection.requested = some id ∧
      (∀ candidate ∈ c.mapped phrase.role_id, candidate.variant_id ≠ id) ∧
      error = .MissingVariant phrase.role_id id := by
  unfold select at h
  split at h
  · cases h
  split at h
  · rename_i id hid
    split at h
    · rename_i hnone
      cases h
      refine ⟨id, hid, ?_, rfl⟩
      intro candidate hmem
      simpa using List.find?_eq_none.mp hnone _ hmem
    · cases h
  · cases h

theorem select_all_err (h : c.select_all seed history used phrases = .err error) :
    ∃ phrase ∈ phrases, ∃ uses, c.select seed history uses phrase = .err error := by
  induction phrases generalizing used with
  | nil => cases h
  | cons phrase phrases ih =>
    unfold select_all at h
    rcases bind_eq_err.mp h with hfirst | ⟨found, _, h⟩
    · exact ⟨phrase, List.mem_cons_self, _, hfirst⟩
    have hrest : ∃ used', c.select_all seed history used' phrases = .err error := by
      cases found with
      | none => exact ⟨used, h⟩
      | some selected =>
        rcases bind_eq_err.mp h with hrest | ⟨_, _, hok⟩
        · exact ⟨_, hrest⟩
        · cases hok
    obtain ⟨used', hrest⟩ := hrest
    obtain ⟨phrase', hmem, hselect⟩ := ih hrest
    exact ⟨phrase', List.mem_cons_of_mem phrase hmem, hselect⟩

/-- A seed fails for the policy, or for a phrase that asks for an AutoLoop. -/
theorem compile_once_err (h : c.compile_once seed history = .err error) :
    c.policy.validate = .error error ∨ c.Unmapped error := by
  rcases bind_eq_err.mp h with hinvalid | ⟨_, _, h⟩
  · obtain ⟨_, herror, rfl⟩ := Outcome.lift_eq_err.mp hinvalid
    exact .inl herror
  rcases bind_eq_err.mp h with hall | ⟨_, _, hok⟩
  · obtain ⟨phrase, hmem, uses, hselect⟩ := select_all_err hall
    obtain ⟨id, hid, hnone, rfl⟩ := select_err hselect
    refine .inr ⟨phrase, hmem, id, hid, fun candidate hcandidate htheme hrole => ?_, rfl⟩
    exact hnone candidate (mem_mapped.mpr ⟨hcandidate, htheme, hrole⟩)
  · cases hok

theorem first_fresh_err {attempt : UInt64 → Outcome LightPlanError CompiledLightPlan}
    {recent seeds : List UInt64} (h : first_fresh attempt recent seeds = .err error) :
    ∃ retry, attempt retry = .err error := by
  induction seeds with
  | nil => cases h
  | cons retry seeds ih =>
    rcases bind_eq_err.mp h with hattempt | ⟨alternative, _, h⟩
    · exact ⟨retry, hattempt⟩
    split at h
    · cases h
    · exact ih h

/-- The compiler fails as one of its seeds does. -/
theorem compile_err (h : c.compile depth seed history = .err error) :
    ∃ seed', c.compile_once seed' history = .err error := by
  induction depth generalizing seed history with
  | zero => cases h
  | succ depth ih =>
    rcases bind_eq_err.mp h with honce | ⟨plan, _, h⟩
    · exact ⟨seed, honce⟩
    dsimp only at h
    split at h
    · rcases bind_eq_err.mp h with hfresh | ⟨_, _, hok⟩
      · obtain ⟨retry, hretry⟩ := first_fresh_err hfresh
        obtain ⟨seed', hseed'⟩ := ih hretry
        exact ⟨seed', compile_once_without_signatures ▸ hseed'⟩
      · cases hok
    · cases h

/-- With enough stack the compiler returns. -/
def Returns (c : Compilation) (history : VariationHistory) : Prop :=
  ∃ enough, ∀ depth ≥ enough, ∀ seed, c.compile depth seed history ≠ .panicked

theorem returns_iff : c.Returns history ↔
    (c.policy.validate = .ok () → c.Found → c.Settles history) := by
  constructor
  · rintro ⟨enough, hreturns⟩ hvalid hfound
    by_contra hsettles
    exact hreturns enough le_rfl 0 (compile_unsettled hvalid hfound hsettles)
  · intro hsettles
    rcases hvalid : c.policy.validate with error | u
    · refine ⟨1, fun depth hdepth seed => ?_⟩
      obtain ⟨depth, rfl⟩ := Nat.exists_eq_succ_of_ne_zero (Nat.ne_of_gt hdepth)
      unfold compile compile_once
      rw [hvalid]
      exact fun h => by cases h
    by_cases hfound : c.Found
    · obtain ⟨enough, hok⟩ := compile_settles hvalid hfound (hsettles hvalid hfound)
      refine ⟨enough, fun depth hdepth seed => ?_⟩
      obtain ⟨plan, hplan⟩ := hok depth hdepth seed
      rw [hplan]
      exact fun h => by cases h
    · refine ⟨1, fun depth hdepth seed => ?_⟩
      obtain ⟨depth, rfl⟩ := Nat.exists_eq_succ_of_ne_zero (Nat.ne_of_gt hdepth)
      obtain ⟨role_id, id, herr⟩ := compile_misses hvalid hfound depth seed history
      rw [Nat.succ_eq_add_one, herr]
      exact fun h => by cases h

/-- A compiled plan gives each phrase the choice that it should have. The compiler fails only for
an invalid policy or for an AutoLoop that is asked for and not there. And it returns, unless a
recent plan has the signature zero and no seed gives another one. -/
theorem the_choices_are_sound_and_complete (c : Compilation) (history : VariationHistory) :
    (∀ depth seed plan, c.compile depth seed history = .ok plan →
      c.ChosenBy history [] c.phrases plan.choices) ∧
    (∀ depth seed error, c.compile depth seed history = .err error →
      c.policy.validate = .error error ∨ c.Unmapped error) ∧
    (c.Returns history ↔ (c.policy.validate = .ok () → c.Found → c.Settles history)) := by
  refine ⟨fun depth seed plan h => ?_, fun depth seed error h => ?_, returns_iff⟩
  · obtain ⟨seed', honce⟩ := compile_ok h
    exact compile_once_chosen honce
  · obtain ⟨seed', honce⟩ := compile_err h
    exact compile_once_err honce

end Compilation

namespace sample

/-- A plan of no phrases in the theme zero. -/
def nothing : Compilation := ⟨.default, 0, none, [], []⟩

/-- What the compiler makes of it, whatever the seed. -/
def empty_plan (seed : UInt64) : CompiledLightPlan := ⟨1, seed, 0, [], [], 0⟩

end sample

open sample

/-- The empty plan has the signature zero. Once it is reserved, the compiler does not return. -/
theorem an_empty_plan_is_compiled_only_once :
    nothing.policy.validate = .ok () ∧ nothing.compile 1 7 .default = .ok (empty_plan 7) ∧
      ∀ depth seed, nothing.compile depth seed
        (VariationHistory.default.reserve "track-load:1" (empty_plan 7)) = .panicked := by
  refine ⟨by decide, by decide +kernel, fun depth seed => ?_⟩
  refine Compilation.compile_unsettled (by decide) (fun _ h => by cases h) ?_
  have honce : ∀ seed history, nothing.compile_once seed history = .ok (empty_plan seed) :=
    fun _ _ => rfl
  intro hsettles
  obtain ⟨seed', plan, hplan, hne⟩ := hsettles (by decide +kernel)
  rw [honce] at hplan
  cases hplan
  exact hne rfl

end lumi_light_plans
