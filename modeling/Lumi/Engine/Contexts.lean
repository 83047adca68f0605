-- The worker keeps the contexts and the compiled plans of the greatest loads.
-- A compiled plan stands for a load that has a context, or for one that is
-- smaller than all loads with a context, so a plan that is compiled for a
-- load with a context stays.
import Lumi.Engine.Materialization
import Lumi.Engine.Session

open rust lumi_domain lumi_library lumi_light_plans
open Finset (card_filter_le card_le_card erase_subset mem_insert)

namespace lumi_engine

/-! ## The greatest loads -/

section bound

variable {V : Type} {m : BTreeMap TrackLoadId V} {k l : TrackLoadId} {v : V}

/-- The loads of a map. -/
def loads (m : BTreeMap TrackLoadId V) : Finset TrackLoadId := m.keys.toFinset

/-- The loads of a map that are not smaller than the load. -/
def from_load (m : BTreeMap TrackLoadId V) (k : TrackLoadId) : Finset TrackLoadId :=
  (loads m).filter fun a => k.value ≤ a.value

theorem mem_loads : k ∈ loads m ↔ m[k]?.isSome := by
  rw [loads, List.mem_toFinset, Std.ExtTreeMap.mem_keys, Std.ExtTreeMap.mem_iff_isSome_getElem?]

variable (m) (l)

theorem card_loads : (loads m).card = m.size := by
  rw [loads, List.toFinset_card_of_nodup Std.ExtTreeMap.nodup_keys, Std.ExtTreeMap.length_keys]

theorem loads_erase : loads (m.erase l) = (loads m).erase l := by
  ext k
  rw [mem_loads, map_get_erase, Finset.mem_erase, mem_loads]
  by_cases h : l = k
  · simp [h]
  · simp [h, Ne.symm h]

theorem loads_insert (v : V) : loads (m.insert l v) = insert l (loads m) := by
  ext k
  rw [mem_loads, map_get_insert, mem_insert, mem_loads]
  by_cases h : l = k
  · simp [h]
  · simp [h, Ne.symm h]

variable {m l}

theorem mem_from_load : l ∈ from_load m k ↔ l ∈ loads m ∧ k.value ≤ l.value :=
  Finset.mem_filter

/-- Of a map that is not empty, the smallest load goes. -/
theorem remove_oldest_eq (h : m.size ≠ 0) :
    ∃ oldest ∈ loads m, (∀ k ∈ loads m, oldest.value ≤ k.value) ∧
      remove_oldest m = m.erase oldest := by
  unfold remove_oldest
  cases hmin : m.minKey? with
  | none =>
    rw [Std.ExtTreeMap.minKey?_eq_none_iff] at hmin
    rw [hmin, Std.ExtTreeMap.size_empty] at h
    exact absurd rfl h
  | some oldest =>
    obtain ⟨hmem, hle⟩ := Std.ExtTreeMap.minKey?_eq_some_iff_mem_and_forall.mp hmin
    refine ⟨oldest, ?_, ?_, rfl⟩
    · rw [mem_loads, ← Std.ExtTreeMap.mem_iff_isSome_getElem?]
      exact hmem
    · intro k hk
      rw [mem_loads, ← Std.ExtTreeMap.mem_iff_isSome_getElem?] at hk
      exact Std.isLE_compare.mp (hle k hk)

variable (m) in
theorem size_remove_oldest : (remove_oldest m).size = m.size - 1 := by
  by_cases h : m.size = 0
  · have hempty : m = ∅ := Std.ExtTreeMap.eq_empty_iff_size_eq_zero.mpr h
    rw [hempty, remove_oldest, Std.ExtTreeMap.minKey?_eq_none_iff.mpr rfl]
    rfl
  · obtain ⟨oldest, hmem, _, hremove⟩ := remove_oldest_eq h
    rw [← card_loads, hremove, loads_erase, Finset.card_erase_of_mem hmem, card_loads]

/-- The turns of the loop take the loads that are too many, from below. -/
theorem mem_remove_oldest_iterate {n : Nat} (hn : n ≤ m.size) :
    k ∈ loads (remove_oldest^[n] m) ↔ k ∈ loads m ∧ n + (from_load m k).card ≤ m.size := by
  induction n generalizing m with
  | zero =>
    have hle : (from_load m k).card ≤ m.size := by
      rw [← card_loads]
      exact card_filter_le _ _
    simp [hle]
  | succ n ih =>
    obtain ⟨oldest, hmem, hmin, hremove⟩ := remove_oldest_eq (m := m) (by omega)
    have hsize := size_remove_oldest m
    rw [Function.iterate_succ_apply, ih (by omega), hsize, hremove, loads_erase, Finset.mem_erase]
    by_cases hk : k = oldest
    · -- All loads are from the smallest one on.
      have hall : from_load m oldest = loads m := Finset.filter_eq_self.mpr hmin
      rw [hk, hall, card_loads]
      simp only [ne_eq, not_true_eq_false, false_and, false_iff, not_and]
      omega
    · have hsame : from_load (m.erase oldest) k = (from_load m k).erase oldest := by
        rw [from_load, from_load, loads_erase, Finset.filter_erase]
      constructor
      · rintro ⟨⟨_, hload⟩, hle⟩
        have holdest : oldest ∉ from_load m k := fun h => hk (NumericIdentifier.value_inj.mp
          (UInt64.le_antisymm (mem_from_load.mp h).2 (hmin k hload)))
        rw [hsame, Finset.erase_eq_of_notMem holdest] at hle
        exact ⟨hload, by omega⟩
      · rintro ⟨hload, hle⟩
        refine ⟨⟨hk, hload⟩, ?_⟩
        have hcard := Finset.card_erase_le (s := from_load m k) (a := oldest)
        rw [hsame]
        omega

/-- The map keeps the greatest loads, as many as it has room for. -/
theorem mem_bound : k ∈ loads (bound m) ↔
    k ∈ loads m ∧ (from_load m k).card ≤ LIBRARY_CONTEXT_CAPACITY := by
  unfold bound
  rw [mem_remove_oldest_iterate (Nat.sub_le _ _)]
  have hle : (from_load m k).card ≤ m.size := by
    rw [← card_loads]
    exact card_filter_le _ _
  refine and_congr_right fun _ => ?_
  omega

theorem size_bound (m : BTreeMap TrackLoadId V) :
    (bound m).size = min m.size LIBRARY_CONTEXT_CAPACITY := by
  have hsize : ∀ n (m : BTreeMap TrackLoadId V), (remove_oldest^[n] m).size = m.size - n := by
    intro n
    induction n with
    | zero => exact fun m => rfl
    | succ n ih =>
      intro m
      rw [Function.iterate_succ_apply, ih, size_remove_oldest]
      omega
  rw [bound, hsize]
  omega

/-- What stays is as it was. -/
theorem bound_get (h : k ∈ loads (bound m)) : (bound m)[k]? = m[k]? := by
  have hget : ∀ n (m : BTreeMap TrackLoadId V), k ∈ loads (remove_oldest^[n] m) →
      (remove_oldest^[n] m)[k]? = m[k]? := by
    intro n
    induction n with
    | zero => exact fun m _ => rfl
    | succ n ih =>
      intro m hk
      rw [Function.iterate_succ_apply] at hk ⊢
      have hstep := ih (remove_oldest m) hk
      rw [mem_loads, hstep] at hk
      rw [hstep]
      unfold remove_oldest at hk ⊢
      split
      · rfl
      rename_i oldest hmin
      rw [hmin] at hk
      dsimp only at hk
      rw [map_get_erase] at hk ⊢
      split
      · rename_i heq
        rw [if_pos heq] at hk
        cases hk
      · rfl
  exact hget _ m h

/-- The map is full, and all its loads are greater. -/
structure Outgrown (m : BTreeMap TrackLoadId V) (k : TrackLoadId) : Prop where
  full : m.size = LIBRARY_CONTEXT_CAPACITY
  less : ∀ a ∈ loads m, k.value < a.value

/-- The map has outgrown what goes. -/
theorem outgrown_of_dropped (hk : k ∈ loads m) (hdropped : k ∉ loads (bound m)) :
    Outgrown (bound m) k := by
  have hmany : LIBRARY_CONTEXT_CAPACITY < (from_load m k).card := by
    rw [mem_bound, not_and, Nat.not_le] at hdropped
    exact hdropped hk
  constructor
  · have hle : (from_load m k).card ≤ m.size := by
      rw [← card_loads]
      exact card_filter_le _ _
    rw [size_bound]
    omega
  · intro a ha
    rw [← UInt64.not_le]
    intro hle
    have hsub : from_load m k ⊆ from_load m a := by
      intro b hb
      rw [mem_from_load] at hb ⊢
      exact ⟨hb.1, UInt64.le_trans hle hb.2⟩
    have hcard := card_le_card hsub
    have hroom := (mem_bound.mp ha).2
    omega

/-- A map that has outgrown a load goes on to do so. -/
theorem Outgrown.insert (h : Outgrown m k) (l : TrackLoadId) (v : V) :
    Outgrown (bound (m.insert l v)) k := by
  obtain ⟨hfull, hless⟩ := h
  have hsub : loads m ⊆ loads (m.insert l v) := by
    rw [loads_insert]
    exact Finset.subset_insert _ _
  constructor
  · have hcard := card_le_card hsub
    rw [card_loads, card_loads] at hcard
    rw [size_bound]
    omega
  · intro a ha
    obtain ⟨hmem, hroom⟩ := mem_bound.mp ha
    rw [loads_insert, mem_insert] at hmem
    rcases hmem with rfl | hmem
    · -- A smaller load than the one outgrown would not have stayed itself.
      rw [← UInt64.not_le]
      intro hle
      have hnew : a ∉ loads m := fun hold => UInt64.not_le.mpr (hless a hold) hle
      have hall : from_load (m.insert a v) a = Insert.insert a (loads m) := by
        rw [from_load, loads_insert]
        refine Finset.filter_true_of_mem fun b hb => ?_
        rcases mem_insert.mp hb with rfl | hb
        · exact UInt64.le_refl _
        · exact UInt64.le_trans hle (UInt64.le_of_lt (hless b hb))
      rw [hall, Finset.card_insert_of_notMem hnew, card_loads, hfull] at hroom
      omega
    · exact hless a hmem

end bound

/-! ## Contexts and compiled plans -/

namespace PlanningWorker

variable {worker worker' : PlanningWorker} {l : TrackLoadId}

/-- Every compiled plan is of a load with a context, or the contexts have outgrown it. -/
structure Covered (worker : PlanningWorker) : Prop where
  bounded : worker.library_contexts.size ≤ LIBRARY_CONTEXT_CAPACITY
  covered : ∀ l ∈ loads worker.compiled_light_plans,
    l ∈ loads worker.library_contexts ∨ Outgrown worker.library_contexts l

theorem mem_contexts : l ∈ loads worker.library_contexts ↔ (worker.library_context l).isSome :=
  mem_loads

/-- Plans that go leave the others covered. -/
theorem Covered.mono (h : Covered worker)
    (hcontexts : worker'.library_contexts = worker.library_contexts)
    (hplans : loads worker'.compiled_light_plans ⊆ loads worker.compiled_light_plans) :
    Covered worker' := by
  refine ⟨hcontexts ▸ h.bounded, fun l hl => ?_⟩
  rw [hcontexts]
  exact h.covered l (hplans hl)

theorem register_contexts (l : TrackLoadId) (context : LibraryPlanContext) :
    (worker.register_library_context l context).library_contexts =
      bound (worker.library_contexts.insert l context) := by
  simp only [register_library_context]

variable (h : Covered worker)
include h

theorem Covered.register (l : TrackLoadId) (context : LibraryPlanContext) :
    Covered (worker.register_library_context l context) := by
  constructor
  · rw [register_contexts, size_bound]
    omega
  · intro k hk
    have hold := h.covered k (by simpa only [register_library_context] using hk)
    rw [register_contexts]
    rcases hold with hcontext | houtgrown
    · by_cases hkept : k ∈ loads (bound (worker.library_contexts.insert l context))
      · exact .inl hkept
      refine .inr (outgrown_of_dropped ?_ hkept)
      rw [loads_insert]
      exact Finset.mem_insert_of_mem hcontext
    · exact .inr (houtgrown.insert l context)

/-- A load with a context keeps one. -/
theorem Covered.mem_register (hl : l ∈ loads worker.library_contexts)
    (context : LibraryPlanContext) :
    l ∈ loads (worker.register_library_context l context).library_contexts := by
  rw [register_contexts, mem_bound]
  constructor
  · rw [loads_insert]
    exact Finset.mem_insert_self _ _
  · calc (from_load (worker.library_contexts.insert l context) l).card
      _ ≤ (loads (worker.library_contexts.insert l context)).card := card_filter_le _ _
      _ = worker.library_contexts.size := by
        rw [loads_insert, Finset.insert_eq_of_mem hl, card_loads]
      _ ≤ LIBRARY_CONTEXT_CAPACITY := h.bounded

/-- A plan that is compiled for a load with a context is kept. -/
theorem Covered.commit_get (hl : l ∈ loads worker.library_contexts) (compiled : CompiledLightPlan) :
    (worker.commit_compiled_plan l (some compiled)).compiled_light_plans[l]? = some compiled := by
  have hkept : l ∈ loads (bound (worker.compiled_light_plans.insert l compiled)) := by
    refine mem_bound.mpr ⟨?_, ?_⟩
    · rw [loads_insert]
      exact Finset.mem_insert_self _ _
    · -- The plans from the load on are all of loads with a context.
      have hsub : from_load (worker.compiled_light_plans.insert l compiled) l ⊆
          loads worker.library_contexts := by
        intro k hk
        obtain ⟨hk, hle⟩ := mem_from_load.mp hk
        rw [loads_insert, mem_insert] at hk
        rcases hk with rfl | hk
        · exact hl
        rcases h.covered k hk with hcontext | ⟨_, hless⟩
        · exact hcontext
        · exact absurd (hless l hl) (UInt64.not_lt.mpr hle)
      calc (from_load (worker.compiled_light_plans.insert l compiled) l).card
        _ ≤ (loads worker.library_contexts).card := card_le_card hsub
        _ ≤ LIBRARY_CONTEXT_CAPACITY := by rw [card_loads]; exact h.bounded
  unfold commit_compiled_plan
  dsimp only
  rw [bound_get hkept, map_get_insert, if_pos rfl]

theorem Covered.commit {compiled : Option CompiledLightPlan}
    (hl : compiled.isSome → l ∈ loads worker.library_contexts) :
    Covered (worker.commit_compiled_plan l compiled) := by
  cases compiled with
  | none =>
    refine h.mono rfl ?_
    unfold commit_compiled_plan
    rw [loads_erase]
    exact erase_subset _ _
  | some compiled =>
    refine ⟨h.bounded, fun k hk => ?_⟩
    simp only [commit_compiled_plan, mem_bound] at hk
    obtain ⟨hk, _⟩ := hk
    rw [loads_insert, mem_insert] at hk
    rcases hk with rfl | hk
    · exact .inl (hl rfl)
    · exact h.covered k hk

theorem Covered.materialize {stack : Nat} {plan plan' : LightingPlan}
    (hmat : worker.materialize_library_plan stack plan = .ok (worker', plan')) :
    Covered worker' := by
  unfold materialize_library_plan at hmat
  obtain ⟨prepared, hprepared, hmat⟩ := Outcome.bind_eq_ok.mp hmat
  cases hmat
  refine h.commit fun hsome => ?_
  cases hcontext : worker.library_context plan.track_load_id with
  | none =>
    rw [hcontext] at hprepared
    cases hprepared
    cases hsome
  | some context =>
    rw [hcontext] at hprepared
    obtain ⟨_, _, hpass⟩ := prepare_library_plan_eq_ok.mp hprepared
    rw [mem_contexts, hpass.recued.track_load_id, hcontext]
    rfl

variable (l)

theorem Covered.release_load : Covered (worker.release_load l) := by
  refine h.mono rfl ?_
  unfold PlanningWorker.release_load
  rw [loads_erase]
  exact erase_subset _ _

theorem Covered.forget_plan : Covered (worker.forget_plan l) := by
  refine h.mono rfl ?_
  unfold PlanningWorker.forget_plan
  rw [loads_erase]
  exact erase_subset _ _

theorem Covered.commit_load : Covered (worker.commit_load l) := by
  unfold PlanningWorker.commit_load
  dsimp only
  split
  · exact h.mono rfl subset_rfl
  · exact h.mono rfl subset_rfl

theorem Covered.reserve_theme (plan : LightingPlan) : Covered (worker.reserve_theme plan) := by
  unfold PlanningWorker.reserve_theme
  split
  · exact h
  · exact h.mono rfl subset_rfl

theorem Covered.rebuild_planner : Covered worker.rebuild_planner := by
  unfold PlanningWorker.rebuild_planner
  split
  · exact h.mono rfl subset_rfl
  · exact h

theorem Covered.synchronize_light_policy (policy : LightPlanningPolicy) :
    Covered (worker.synchronize_light_policy policy) := by
  unfold PlanningWorker.synchronize_light_policy
  exact rebuild_planner (h.mono rfl subset_rfl)

theorem Covered.synchronize_themes (catalog : AutoloopCatalog) :
    Covered (worker.synchronize_themes catalog) := by
  unfold PlanningWorker.synchronize_themes
  exact rebuild_planner (h.mono rfl subset_rfl)

end PlanningWorker

end lumi_engine
