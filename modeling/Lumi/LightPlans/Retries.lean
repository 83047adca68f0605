-- How far the retries go. A retry looks at a history without signatures, in
-- which only a plan with the signature zero looks like a recent one. So a retry
-- takes one selection, and the compiler the first fresh one of thirty-three.
import Lumi.LightPlans.Selection

open rust

namespace lumi_light_plans

namespace Compilation

/-- The seeds that the loop over the retries selects for: those of each attempt, up to the first
plan that is fresh. -/
def tried (attempt : UInt64 → Outcome LightPlanError CompiledLightPlan)
    (selected : UInt64 → List UInt64) (recent_signatures : List UInt64) : List UInt64 → List UInt64
  | [] => []
  | retry :: retries =>
    selected retry ++ match attempt retry with
      | .ok alternative =>
        if alternative.signature ∉ recent_signatures then []
        else tried attempt selected recent_signatures retries
      | _ => []

/-- The seeds that `compile` selects for, in their order. -/
def selections (self : Compilation) : Nat → UInt64 → VariationHistory → List UInt64
  | 0, _, _ => []
  | depth + 1, seed, history =>
    seed :: match self.compile_once seed history with
      | .ok plan =>
        let recent_signatures := history.recent_signatures self.policy.duplicate_plan_window.toNat
        if plan.signature ∈ recent_signatures then
          tried (fun retry => self.compile depth (seed + retry) history.without_signatures)
            (fun retry => selections self depth (seed + retry) history.without_signatures)
            recent_signatures retries
        else []
      | _ => []

variable {c : Compilation} {seed : UInt64} {history : VariationHistory}
  {plan : CompiledLightPlan} {recent : List UInt64} {direct : Nat → CompiledLightPlan}
  {attempt : UInt64 → Outcome LightPlanError CompiledLightPlan} {start n : Nat}

/-- A retry with a signature other than zero takes its own selection. -/
theorem compile_without_signatures (hplan : c.compile_once seed history = .ok plan)
    (hne : plan.signature ≠ 0) (depth : Nat) :
    c.compile (depth + 1) seed history.without_signatures = .ok plan ∧
      c.selections (depth + 1) seed history.without_signatures = [seed] := by
  have hfresh : plan.signature ∉
      history.without_signatures.recent_signatures c.policy.duplicate_plan_window.toNat := by
    rw [VariationHistory.recent_signatures_without_signatures]
    intro hmem
    obtain ⟨_, _, hzero⟩ := List.mem_map.mp hmem
    exact hne hzero.symm
  unfold compile selections
  rw [compile_once_without_signatures, hplan]
  simp [hfresh]

/-- The loop over the retries takes the first of them with a fresh signature. -/
theorem first_fresh_range
    (h : ∀ k, start ≤ k → k < start + n → attempt (UInt64.ofNat k) = .ok (direct k)) :
    first_fresh attempt recent ((List.range' start n).map UInt64.ofNat) =
      .ok (((List.range' start n).find? fun k => (direct k).signature ∉ recent).map direct) := by
  induction n generalizing start with
  | zero => rfl
  | succ n ih =>
    rw [List.range'_succ, List.map_cons, first_fresh, h start (Nat.le_refl _) (by omega),
      Outcome.ok_bind, List.find?_cons]
    by_cases hfresh : (direct start).signature ∈ recent
    · simp only [hfresh, not_true_eq_false, ↓reduceIte, decide_false]
      exact ih fun k hk hlt => h k (by omega) (by omega)
    · simp [hfresh]

theorem tried_length {selected : UInt64 → List UInt64} {seeds : List UInt64}
    (h : ∀ retry ∈ seeds, (selected retry).length ≤ 1) :
    (tried attempt selected recent seeds).length ≤ seeds.length := by
  induction seeds with
  | nil => exact Nat.le_refl 0
  | cons retry seeds ih =>
    rw [List.forall_mem_cons] at h
    have hrest := ih h.2
    unfold tried
    rw [List.length_append, List.length_cons]
    have hone := h.1
    split
    · split
      · simp only [List.length_nil]
        omega
      · omega
    · simp only [List.length_nil]
      omega

theorem retries_eq : retries = (List.range' 1 32).map UInt64.ofNat := by decide

/-- While none of the thirty-three seeds from the given one on has the signature zero, the compiler
selects for no more than these, and takes the first of them whose signature is not a recent one,
or the given one when all are recent. -/
theorem the_first_fresh_seed_is_compiled (direct : Nat → CompiledLightPlan)
    (h : ∀ k ≤ 32, c.compile_once (seed + UInt64.ofNat k) history = .ok (direct k) ∧
      (direct k).signature ≠ 0) (depth : Nat) :
    (c.selections (depth + 2) seed history).length ≤ 33 ∧
      c.compile (depth + 2) seed history = .ok (direct (((List.range 33).find? fun k =>
        (direct k).signature ∉
          history.recent_signatures c.policy.duplicate_plan_window.toNat).getD 0)) := by
  have hfirst : c.compile_once seed history = .ok (direct 0) := by
    simpa using (h 0 (Nat.zero_le 32)).1
  have hretry : ∀ k, 1 ≤ k → k < 1 + 32 → _ := fun k _ hk =>
    compile_without_signatures (h k (by omega)).1 (h k (by omega)).2 depth
  have hrange : List.range 33 = 0 :: List.range' 1 32 := rfl
  unfold selections compile
  rw [hfirst, Outcome.ok_bind, hrange, List.find?_cons]
  by_cases hrecent : (direct 0).signature ∈
      history.recent_signatures c.policy.duplicate_plan_window.toNat
  · simp only [hrecent, not_true_eq_false, ↓reduceIte, decide_false, List.length_cons]
    constructor
    · apply Nat.succ_le_succ
      apply tried_length
      intro retry hmem
      rw [retries_eq] at hmem
      obtain ⟨k, hk, rfl⟩ := List.mem_map.mp hmem
      rw [List.mem_range'_1] at hk
      rw [(hretry k hk.1 hk.2).2]
      rfl
    · rw [retries_eq, first_fresh_range fun k hk hlt => (hretry k hk hlt).1, Outcome.ok_bind]
      cases List.find? _ (List.range' 1 32) <;> rfl
  · simp [hrecent]

end Compilation

namespace sample

/-- A plan of no phrases in the theme one, and what the compiler makes of it. -/
def plain : Compilation := ⟨.default, 1, none, [], []⟩

def plain_plan (seed : UInt64) : CompiledLightPlan := ⟨1, seed, 1, [], [], stable_mix 1⟩

end sample

open sample

/-- A plan that every seed makes is compiled again, although it is a recent one. -/
theorem the_only_plan_is_compiled_again :
    plain.compile 2 7 (VariationHistory.default.reserve "track-load:1" (plain_plan 7)) =
      .ok (plain_plan 7) := by
  have hne : stable_mix 1 ≠ 0 := by decide
  rw [(Compilation.the_first_fresh_seed_is_compiled (fun k => plain_plan (7 + UInt64.ofNat k))
    (fun k _ => ⟨rfl, hne⟩) 0).2]
  decide +kernel

end lumi_light_plans
