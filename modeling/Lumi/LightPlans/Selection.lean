-- What the compiler selects. It answers when no phrase asks for an AutoLoop
-- that its role does not have, and then each phrase that can have an AutoLoop
-- gets one of its role. The retries only look for another seed.
import Lumi.LightPlans.Compile

open rust
open Outcome (bind_eq_ok err_bind ok_bind)

namespace lumi_light_plans

/-! ## Weighted choices -/

section weighted

variable {α : Type} {weight : α → UInt64} {roll cursor : UInt64} {a first : α} {l rest : List α}

theorem weighted_pick_mem (h : weighted_pick weight roll cursor l = some a) : a ∈ l := by
  induction l generalizing cursor with
  | nil => cases h
  | cons b l ih =>
    unfold weighted_pick at h
    dsimp only at h
    split at h
    · cases h
      exact List.mem_cons_self
    · exact List.mem_cons_of_mem b (ih h)

theorem weighted_select_mem : weighted_select weight roll first rest ∈ first :: rest := by
  unfold weighted_select
  cases h : weighted_pick weight roll 0 (first :: rest) with
  | none => exact List.mem_cons_self
  | some a => exact weighted_pick_mem h

end weighted

namespace Compilation

variable {c : Compilation} {seed : UInt64} {history : VariationHistory} {uses : List String}
  {phrase : PhraseRequest} {phrases : List PhraseRequest} {role_id : String}
  {plan : CompiledLightPlan}

/-! ## One phrase -/

variable (self : Compilation)

/-- The phrase asks for an AutoLoop by name, and its role has AutoLoops but not this one. -/
def misses (phrase : PhraseRequest) : Bool :=
  !(self.mapped phrase.role_id).isEmpty &&
    phrase.selection.requested.any fun id => !(self.mapped phrase.role_id).any (·.variant_id = id)

/-- The phrase can have an AutoLoop: the one that it asks for, or any that is allowed. -/
def covers (phrase : PhraseRequest) : Bool :=
  match phrase.selection.requested with
  | some id => (self.mapped phrase.role_id).any (·.variant_id = id)
  | none => !(self.allowed phrase.role_id).isEmpty

/-- The choice is an AutoLoop that the theme maps for the role of the phrase, and the one that the
phrase asks for. -/
def Picks (phrase : PhraseRequest) (choice : CompiledAutoloopChoice) : Prop :=
  ∃ candidate evidence, candidate ∈ self.mapped phrase.role_id ∧
    (∀ id, phrase.selection.requested = some id → candidate.variant_id = id) ∧
    choice = Compilation.choice phrase candidate evidence

theorem allowed_subset : c.allowed role_id ⊆ c.mapped role_id := by
  intro candidate h
  unfold allowed at h
  dsimp only at h
  split at h
  · exact (List.mem_filter.mp (List.mem_filter.mp h).1).1
  · exact (List.mem_filter.mp (List.mem_filter.mp h).1).1

variable (seed) (history) (uses)

variable (c) in
/-- The history takes away only what it leaves something in the place of. -/
theorem unrepeated_subset (role_id : String) :
    (c.unrepeated history uses role_id).1 ⊆ c.allowed role_id ∧
      ((c.unrepeated history uses role_id).1 = [] ↔ c.allowed role_id = []) := by
  unfold unrepeated
  dsimp only
  split
  · exact ⟨fun _ h => h, Iff.rfl⟩
  rename_i hfresh
  refine ⟨fun _ h => (List.mem_filter.mp h).1, fun h => ?_, fun h => ?_⟩
  · exact absurd (List.isEmpty_iff.mpr h) hfresh
  · dsimp only
    rw [h, List.filter_nil]

variable (c) in
/-- A roll falls on an allowed AutoLoop, when there is any. -/
theorem roll_cases (phrase : PhraseRequest) :
    (c.allowed phrase.role_id = [] ∧ c.roll seed history uses phrase = none) ∨
      (c.allowed phrase.role_id ≠ [] ∧ ∃ candidate evidence, candidate ∈ c.allowed phrase.role_id ∧
        c.roll seed history uses phrase = some (candidate, evidence)) := by
  obtain ⟨hsubset, hempty⟩ := unrepeated_subset c history uses phrase.role_id
  unfold roll
  rcases hlist : c.unrepeated history uses phrase.role_id with ⟨eligible, relaxed⟩
  rw [hlist] at hsubset hempty
  dsimp only at hsubset hempty ⊢
  cases eligible with
  | nil => exact .inl ⟨hempty.mp rfl, rfl⟩
  | cons first rest =>
    refine .inr ⟨fun h => List.cons_ne_nil _ _ (hempty.mpr h), _, _, ?_, rfl⟩
    exact hsubset weighted_select_mem

theorem select_misses (h : c.misses phrase = true) :
    ∃ id, c.select seed history uses phrase = .err (.MissingVariant phrase.role_id id) := by
  unfold misses at h
  rw [Bool.and_eq_true, Option.any_eq_true_iff_get] at h
  obtain ⟨hmapped, hsome, hnone⟩ := h
  obtain ⟨id, hid⟩ := Option.isSome_iff_exists.mp hsome
  refine ⟨id, ?_⟩
  unfold select
  simp only [hid, Option.get_some] at hnone
  have hfind : (c.mapped phrase.role_id).find? (·.variant_id = id) = none := by
    simpa using hnone
  simp only [hid, hfind]
  rw [if_neg (by simpa using hmapped)]

/-- A phrase that can have an AutoLoop gets one. -/
theorem select_covers (h : c.covers phrase = true) :
    ∃ candidate evidence,
      c.select seed history uses phrase = .ok (some (candidate, evidence)) ∧
        c.Picks phrase (choice phrase candidate evidence) := by
  unfold covers at h
  unfold select
  cases hid : phrase.selection.requested with
  | some id =>
    rw [hid] at h
    dsimp only at h ⊢
    obtain ⟨candidate, hfind⟩ := Option.isSome_iff_exists.mp (List.find?_isSome.mpr
      (List.any_eq_true.mp h))
    have hmem := List.mem_of_find?_eq_some hfind
    rw [if_neg (by simpa using List.ne_nil_of_mem hmem), hfind]
    refine ⟨candidate, _, rfl, candidate, _, hmem, ?_, rfl⟩
    intro id' hid'
    rw [hid] at hid'
    cases hid'
    simpa using List.find?_some hfind
  | none =>
    rw [hid] at h
    dsimp only at h ⊢
    rcases roll_cases c seed history uses phrase with
      ⟨hnone, _⟩ | ⟨_, candidate, evidence, hmem, hroll⟩
    · simp [hnone] at h
    have hmapped := allowed_subset hmem
    rw [if_neg (by simpa using List.ne_nil_of_mem hmapped), hroll]
    refine ⟨candidate, evidence, rfl, candidate, evidence, hmapped, ?_, rfl⟩
    intro id' hid'
    rw [hid] at hid'
    cases hid'

theorem select_none (hmiss : c.misses phrase = false) (h : c.covers phrase = false) :
    c.select seed history uses phrase = .ok none := by
  unfold select
  split
  · rfl
  rename_i hmapped
  unfold covers at h
  unfold misses at hmiss
  split
  · rename_i id hid
    rw [hid] at h hmiss
    simp_all
  rename_i hid
  rw [hid] at h
  rcases roll_cases c seed history uses phrase with ⟨_, hroll⟩ | ⟨hsome, _⟩
  · rw [hroll]
  · simp_all

/-! ## All phrases -/

/-- When no phrase misses its AutoLoop, the phrases that can have one get one each, in order. -/
theorem select_all_found (hfound : ∀ phrase ∈ phrases, c.misses phrase = false)
    (used : BTreeMap String (List String)) :
    ∃ choices, c.select_all seed history used phrases = .ok choices ∧
      List.Forall₂ c.Picks (phrases.filter c.covers) choices := by
  induction phrases generalizing used with
  | nil => exact ⟨[], rfl, .nil⟩
  | cons phrase phrases ih =>
    rw [List.forall_mem_cons] at hfound
    unfold select_all
    cases hcovers : c.covers phrase with
    | true =>
      obtain ⟨candidate, evidence, hselect, hpicks⟩ :=
        select_covers seed history (used[phrase.role_id]?.getD []) hcovers
      obtain ⟨choices, hchoices, hrest⟩ := ih hfound.2
        (push_under used phrase.role_id candidate.variant_id)
      refine ⟨choice phrase candidate evidence :: choices, ?_, ?_⟩
      · rw [hselect, ok_bind]
        dsimp only
        rw [hchoices, ok_bind]
      · rw [List.filter_cons_of_pos hcovers]
        exact .cons hpicks hrest
    | false =>
      obtain ⟨choices, hchoices, hrest⟩ := ih hfound.2 used
      refine ⟨choices, ?_, ?_⟩
      · rw [select_none _ _ _ hfound.1 hcovers, ok_bind]
        exact hchoices
      · rw [List.filter_cons_of_neg (by simp [hcovers])]
        exact hrest

/-- A phrase that misses its AutoLoop fails the whole plan. -/
theorem select_all_misses (hmiss : ∃ phrase ∈ phrases, c.misses phrase = true)
    (used : BTreeMap String (List String)) :
    ∃ role_id id, c.select_all seed history used phrases = .err (.MissingVariant role_id id) := by
  induction phrases generalizing used with
  | nil => simp at hmiss
  | cons phrase phrases ih =>
    unfold select_all
    cases hfirst : c.misses phrase with
    | true =>
      obtain ⟨id, hselect⟩ := select_misses seed history (used[phrase.role_id]?.getD []) hfirst
      refine ⟨phrase.role_id, id, ?_⟩
      rw [hselect, err_bind]
    | false =>
      have hrest : ∃ phrase ∈ phrases, c.misses phrase = true := by
        simpa [hfirst] using hmiss
      cases hcovers : c.covers phrase with
      | true =>
        obtain ⟨candidate, evidence, hselect, _⟩ :=
          select_covers seed history (used[phrase.role_id]?.getD []) hcovers
        obtain ⟨role_id, id, herr⟩ := ih hrest (push_under used phrase.role_id candidate.variant_id)
        refine ⟨role_id, id, ?_⟩
        rw [hselect, ok_bind]
        dsimp only
        rw [herr, err_bind]
      | false =>
        obtain ⟨role_id, id, herr⟩ := ih hrest used
        refine ⟨role_id, id, ?_⟩
        rw [select_none _ _ _ hfirst hcovers, ok_bind]
        exact herr

/-! ## One seed -/

/-- A plan that one seed makes of what was asked. -/
structure Compiles (c : Compilation) (plan : CompiledLightPlan) : Prop where
  theme_id : plan.theme_id = c.theme_id
  choices : List.Forall₂ c.Picks (c.phrases.filter c.covers) plan.choices
  signature : plan.signature = c.signature plan.choices plan.modifier_choices

/-- No phrase misses the AutoLoop that it asks for. -/
def Found : Prop := ∀ phrase ∈ self.phrases, self.misses phrase = false

theorem compile_once_found (hvalid : c.policy.validate = .ok ()) (hfound : c.Found) :
    ∃ plan, c.compile_once seed history = .ok plan ∧ c.Compiles plan := by
  obtain ⟨choices, hchoices, hpicks⟩ := select_all_found seed history hfound ∅
  unfold compile_once
  rw [hvalid, hchoices]
  exact ⟨_, rfl, rfl, hpicks, rfl⟩

theorem compile_once_misses (hvalid : c.policy.validate = .ok ()) (hmiss : ¬ c.Found) :
    ∃ role_id id, c.compile_once seed history = .err (.MissingVariant role_id id) := by
  have hexists : ∃ phrase ∈ c.phrases, c.misses phrase = true := by
    simpa [Found] using hmiss
  obtain ⟨role_id, id, herr⟩ := select_all_misses seed history hexists ∅
  refine ⟨role_id, id, ?_⟩
  unfold compile_once
  rw [hvalid, herr]
  rfl

variable {seed history}

end Compilation

namespace VariationHistory

variable (history : VariationHistory)

theorem entries_without_signatures :
    history.without_signatures.entries =
      history.entries.map fun entry => { entry with signature := 0 } := by
  unfold entries without_signatures
  simp [Std.ExtTreeMap.toList_map, Function.comp_def]

/-- The signatures are only looked up, never what a seed selects from. -/
theorem recent_variants_without_signatures :
    history.without_signatures.recent_variants = history.recent_variants := by
  funext role_id limit
  unfold recent_variants
  rw [entries_without_signatures, List.flatMap_map]

theorem recent_modifiers_without_signatures :
    history.without_signatures.recent_modifiers = history.recent_modifiers := by
  funext limit
  unfold recent_modifiers
  rw [entries_without_signatures, List.flatMap_map]

theorem recent_signatures_without_signatures (limit : Nat) :
    history.without_signatures.recent_signatures limit =
      (history.recent_signatures limit).map fun _ => 0 := by
  unfold recent_signatures
  rw [entries_without_signatures, ← List.map_take, List.map_map, List.map_map]
  rfl

end VariationHistory

namespace Compilation

variable {c : Compilation} {seed : UInt64} {history : VariationHistory}
  {plan : CompiledLightPlan} {depth : Nat} {recent : List UInt64}
  {attempt : UInt64 → Outcome LightPlanError CompiledLightPlan} {seeds : List UInt64}

theorem select_without_signatures :
    c.select seed history.without_signatures = c.select seed history := by
  funext uses phrase
  unfold select roll unrepeated
  rw [VariationHistory.recent_variants_without_signatures]

theorem select_all_without_signatures (used : BTreeMap String (List String))
    (phrases : List PhraseRequest) :
    c.select_all seed history.without_signatures used phrases =
      c.select_all seed history used phrases := by
  induction phrases generalizing used with
  | nil => rfl
  | cons phrase phrases ih =>
    unfold select_all
    rw [select_without_signatures]
    simp only [ih]

theorem compile_once_without_signatures :
    c.compile_once seed history.without_signatures = c.compile_once seed history := by
  unfold compile_once compile_modifiers modifier_turn eligible_modifiers
  rw [select_all_without_signatures, VariationHistory.recent_modifiers_without_signatures]

/-- What the retries find is a plan with a signature that is not a recent one. -/
theorem first_fresh_ok (h : first_fresh attempt recent seeds = .ok (some plan)) :
    ∃ retry ∈ seeds, attempt retry = .ok plan ∧ plan.signature ∉ recent := by
  induction seeds with
  | nil => cases h
  | cons retry seeds ih =>
    obtain ⟨alternative, halternative, h⟩ := bind_eq_ok.mp h
    split at h
    · cases h
      exact ⟨retry, List.mem_cons_self, halternative, ‹_›⟩
    obtain ⟨retry', hmem, hfound⟩ := ih h
    exact ⟨retry', List.mem_cons_of_mem retry hmem, hfound⟩

/-- The retries answer when each attempt does. -/
theorem first_fresh_answers (recent : List UInt64)
    (h : ∀ retry ∈ seeds, ∃ plan, attempt retry = .ok plan) :
    ∃ found, first_fresh attempt recent seeds = .ok found := by
  induction seeds with
  | nil => exact ⟨none, rfl⟩
  | cons retry seeds ih =>
    rw [List.forall_mem_cons] at h
    obtain ⟨⟨alternative, halternative⟩, h⟩ := h
    unfold first_fresh
    rw [halternative, ok_bind]
    split
    · exact ⟨_, rfl⟩
    · exact ih h

/-- A compiled plan is the plan of some seed. -/
theorem compile_ok (h : c.compile depth seed history = .ok plan) :
    ∃ seed', c.compile_once seed' history = .ok plan := by
  induction depth generalizing seed history plan with
  | zero => cases h
  | succ depth ih =>
    obtain ⟨first, hfirst, h⟩ := bind_eq_ok.mp h
    dsimp only at h
    split at h
    · obtain ⟨found, hfound, h⟩ := bind_eq_ok.mp h
      cases h
      cases found with
      | none => exact ⟨seed, hfirst⟩
      | some alternative =>
        obtain ⟨retry, _, hretry, _⟩ := first_fresh_ok hfound
        obtain ⟨seed', hseed'⟩ := ih hretry
        exact ⟨seed', compile_once_without_signatures ▸ hseed'⟩
    · cases h
      exact ⟨seed, hfirst⟩

theorem compile_misses (hvalid : c.policy.validate = .ok ()) (hmiss : ¬ c.Found) (depth : Nat)
    (seed : UInt64) (history : VariationHistory) :
    ∃ role_id id, c.compile (depth + 1) seed history = .err (.MissingVariant role_id id) := by
  obtain ⟨role_id, id, herr⟩ := compile_once_misses seed history hvalid hmiss
  refine ⟨role_id, id, ?_⟩
  unfold compile
  rw [herr, err_bind]

/-! ## The end of the retries -/

/-- A plan with the signature zero is retried, over a history in which every signature is zero,
so the retries need a seed with another signature. -/
def Settles (self : Compilation) (history : VariationHistory) : Prop :=
  0 ∈ history.recent_signatures self.policy.duplicate_plan_window.toNat →
    ∃ seed plan, self.compile_once seed history = .ok plan ∧ plan.signature ≠ 0

variable (hvalid : c.policy.validate = .ok ()) (hfound : c.Found)
include hvalid hfound

/-- Over a history of zeros, the first seed with another signature ends the retries. -/
theorem compile_of_nonzero
    (hrecent : 0 ∈ history.recent_signatures c.policy.duplicate_plan_window.toNat)
    (hzero : ∀ x ∈ history.recent_signatures c.policy.duplicate_plan_window.toNat, x = 0) {n : Nat}
    (hseed : ∃ plan, c.compile_once (seed + UInt64.ofNat n) history = .ok plan ∧ plan.signature ≠ 0)
    (hdepth : n < depth) :
    ∃ plan, c.compile depth seed history = .ok plan ∧ plan.signature ≠ 0 := by
  induction n generalizing seed depth history with
  | zero =>
    obtain ⟨plan, hplan, hne⟩ := hseed
    rw [show seed + UInt64.ofNat 0 = seed by simp] at hplan
    obtain ⟨depth, rfl⟩ := Nat.exists_eq_succ_of_ne_zero (Nat.ne_of_gt hdepth)
    refine ⟨plan, ?_, hne⟩
    unfold compile
    rw [hplan, ok_bind]
    exact if_neg fun hmem => hne (hzero _ hmem)
  | succ n ih =>
    obtain ⟨depth, rfl⟩ := Nat.exists_eq_succ_of_ne_zero (Nat.ne_of_gt (Nat.zero_lt_of_lt hdepth))
    obtain ⟨first, hfirst, _⟩ := compile_once_found seed history hvalid hfound
    unfold compile
    rw [hfirst, ok_bind]
    dsimp only
    split
    · have hnext : ∃ plan, c.compile depth (seed + 1) history.without_signatures = .ok plan ∧
          plan.signature ≠ 0 := by
        refine ih ?_ ?_ ?_ (Nat.lt_of_succ_lt_succ hdepth)
        · rw [VariationHistory.recent_signatures_without_signatures]
          exact List.mem_map.mpr ⟨0, hrecent, rfl⟩
        · rw [VariationHistory.recent_signatures_without_signatures]
          intro x hx
          obtain ⟨_, _, rfl⟩ := List.mem_map.mp hx
          rfl
        · obtain ⟨plan, hplan, hne⟩ := hseed
          refine ⟨plan, ?_, hne⟩
          rw [compile_once_without_signatures, ← hplan]
          congr 1
          rw [UInt64.ofNat_add, UInt64.add_assoc, UInt64.add_comm 1]
          simp
      obtain ⟨plan, hplan, hne⟩ := hnext
      refine ⟨plan, ?_, hne⟩
      have hretries : retries = 1 :: retries.tail := rfl
      have hfresh : plan.signature ∉
          history.recent_signatures c.policy.duplicate_plan_window.toNat :=
        fun hmem => hne (hzero _ hmem)
      rw [hretries, first_fresh, hplan, ok_bind, if_pos hfresh]
      rfl
    · rename_i hfresh
      exact ⟨first, rfl, fun hzero' => hfresh (hzero' ▸ hrecent)⟩

/-- With enough stack the compiler answers, when its retries can end. -/
theorem compile_settles (hsettles : c.Settles history) :
    ∃ enough, ∀ depth ≥ enough, ∀ seed, ∃ plan, c.compile depth seed history = .ok plan := by
  obtain ⟨bound, hbound⟩ : ∃ bound, ∀ x : UInt64, x.toNat < bound := ⟨2 ^ 64, UInt64.toNat_lt⟩
  refine ⟨bound + 1, fun depth hdepth seed => ?_⟩
  obtain ⟨depth, rfl⟩ := Nat.exists_eq_succ_of_ne_zero (show depth ≠ 0 by omega)
  obtain ⟨first, hfirst, _⟩ := compile_once_found seed history hvalid hfound
  unfold compile
  rw [hfirst, ok_bind]
  dsimp only
  split
  · rename_i hrepeated
    have hnonzero : ∃ seed plan, c.compile_once seed history = .ok plan ∧ plan.signature ≠ 0 := by
      by_cases hzero : first.signature = 0
      · exact hsettles (hzero ▸ hrepeated)
      · exact ⟨seed, first, hfirst, hzero⟩
    obtain ⟨other, plan, hplan, hne⟩ := hnonzero
    have hattempts : ∀ retry ∈ retries, ∃ plan,
        c.compile depth (seed + retry) history.without_signatures = .ok plan := by
      intro retry _
      have hnext : ∃ plan, c.compile depth (seed + retry) history.without_signatures = .ok plan ∧
          plan.signature ≠ 0 := by
        refine compile_of_nonzero hvalid hfound (n := (other - (seed + retry)).toNat) ?_ ?_ ?_ ?_
        · rw [VariationHistory.recent_signatures_without_signatures]
          exact List.mem_map.mpr ⟨_, hrepeated, rfl⟩
        · rw [VariationHistory.recent_signatures_without_signatures]
          intro x hx
          obtain ⟨_, _, rfl⟩ := List.mem_map.mp hx
          rfl
        · refine ⟨plan, ?_, hne⟩
          rw [compile_once_without_signatures, ← hplan]
          congr 1
          rw [UInt64.ofNat_toNat, UInt64.add_comm, UInt64.sub_add_cancel]
        · exact (hbound _).trans_le (Nat.le_of_succ_le_succ hdepth)
      obtain ⟨plan, hplan, _⟩ := hnext
      exact ⟨plan, hplan⟩
    obtain ⟨found, hfound'⟩ := first_fresh_answers
      (history.recent_signatures c.policy.duplicate_plan_window.toNat) hattempts
    rw [hfound']
    exact ⟨_, rfl⟩
  · exact ⟨first, rfl⟩

/-- Without an end of the retries no stack is enough. -/
theorem compile_unsettled (hsettles : ¬ c.Settles history) :
    c.compile depth seed history = .panicked := by
  unfold Settles at hsettles
  push Not at hsettles
  obtain ⟨hrecent, hzero⟩ := hsettles
  induction depth generalizing seed history with
  | zero => rfl
  | succ depth ih =>
    obtain ⟨first, hfirst, _⟩ := compile_once_found seed history hvalid hfound
    unfold compile
    rw [hfirst, ok_bind]
    dsimp only
    rw [if_pos (by rw [hzero _ _ hfirst]; exact hrecent)]
    have hretries : retries = 1 :: retries.tail := rfl
    have hnext : c.compile depth (seed + 1) history.without_signatures = .panicked := by
      apply ih
      · rw [VariationHistory.recent_signatures_without_signatures]
        exact List.mem_map.mpr ⟨0, hrecent, rfl⟩
      · intro seed plan h
        rw [compile_once_without_signatures] at h
        exact hzero seed plan h
    rw [hretries, first_fresh, hnext]
    rfl

end Compilation

end lumi_light_plans
