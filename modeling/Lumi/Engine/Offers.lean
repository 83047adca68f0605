-- What the pass puts into a cue is an AutoLoop that the context offers for the
-- phrase in the theme of the cue, whether it is kept, compiled or resolved
-- from the catalog.
import Lumi.LightPlans.Selection
import Lumi.Engine.Materialization

open rust lumi_domain lumi_library lumi_light_plans
open Option (bind_eq_some_iff map_eq_some_iff)

/-! ## The catalog -/

variable {variant_id : VariantId} {revision : UInt64} {candidate : Candidate}
  {choice : CompiledAutoloopChoice} {cues : List LightingCue}

namespace lumi_library

namespace AutoloopCatalog

variable {self : AutoloopCatalog} {theme_id : ThemeId} {role_id : PhraseRoleId}
  {res : AutoloopResolution}

end AutoloopCatalog

end lumi_library

namespace lumi_engine

/-! ## What the context offers -/

namespace LibraryPlanContext

variable {context : LibraryPlanContext} {theme_id : ThemeId} {phrase : LibraryPhrasePlanContext}
  {phrase_index : UInt16} {indices : List UInt16} {policy : LightPlanningPolicy}
  {cell : AutoloopMatrixCell} {number : UInt16} {name : String}

/-- The phrases of a context have their places as indexes, so an index finds its phrase. -/
theorem phrase_of_mem (h : phrase ∈ context.phrases) :
    context.phrase phrase.phrase_index = some phrase := by
  obtain ⟨i, hi⟩ := List.mem_iff_getElem?.mp h
  have hplace := context.indexed.get hi
  cases hfind : context.phrase phrase.phrase_index with
  | none =>
    have hnone := List.find?_eq_none.mp hfind phrase h
    simp at hnone
  | some other =>
    obtain ⟨hother, hindex⟩ := phrase_eq_some hfind
    obtain ⟨j, hj⟩ := List.mem_iff_getElem?.mp hother
    have hplace' := context.indexed.get hj
    rw [hindex, hplace, Nat.zero_add, Nat.zero_add] at hplace'
    rw [← hplace', hi] at hj
    exact hj.symm

/-- The AutoLoops that the compiler takes for the role are the numbered cells of the theme. -/
theorem mem_mapped {role_id : PhraseRoleId} :
    candidate ∈ (context.compilation theme_id indices policy).mapped role_id.value ↔
      ∃ cell ∈ context.cells_of theme_id role_id, cell_candidate cell = some candidate := by
  unfold Compilation.mapped
  rw [List.mem_filter]
  have hsame : ∀ cell : AutoloopMatrixCell, cell_candidate cell = some candidate →
      (candidate.theme_id = theme_id.value ↔ cell.theme_id = theme_id) ∧
        (candidate.role_id = role_id.value ↔ cell.role_id = role_id) := by
    intro cell hcandidate
    unfold cell_candidate at hcandidate
    obtain ⟨number, _, rfl⟩ := map_eq_some_iff.mp hcandidate
    exact ⟨NumericIdentifier.value_inj, TextIdentifier.value_inj⟩
  constructor
  · rintro ⟨hmem, hat⟩
    obtain ⟨cell, hcell, hcandidate⟩ := List.mem_filterMap.mp hmem
    obtain ⟨htheme, hrole⟩ := of_decide_eq_true hat
    refine ⟨cell, mem_cells_of.mpr ⟨hcell, ?_, ?_⟩, hcandidate⟩
    · exact (hsame cell hcandidate).1.mp htheme
    · exact (hsame cell hcandidate).2.mp hrole
  · rintro ⟨cell, hcell, hcandidate⟩
    obtain ⟨hcell, htheme, hrole⟩ := mem_cells_of.mp hcell
    refine ⟨List.mem_filterMap.mpr ⟨cell, hcell, hcandidate⟩, decide_eq_true ⟨?_, ?_⟩⟩
    · exact (hsame cell hcandidate).1.mpr htheme
    · exact (hsame cell hcandidate).2.mpr hrole

end LibraryPlanContext

/-! ## The themes of a plan -/

namespace PlanningWorker

variable {worker : PlanningWorker} {stack : Nat} {plan : LightingPlan} {seed : UInt64}
  {scope : PlanMaterializationScope} {context : LibraryPlanContext} {theme_id opening : ThemeId}
  {by_theme before : BTreeMap ThemeId CompiledLightPlan} {compiled : CompiledLightPlan}
  {others : List (ThemeId × List UInt16)} {cue : LightingCue} {look : LightingLook}

variable (h : worker.compiled_by_theme stack plan context opening = .ok by_theme)
include h

variable (hcue : cue ∈ plan.cues) (hlook : cue.action = .ApplyLook look)
include hcue hlook

end PlanningWorker

end lumi_engine
