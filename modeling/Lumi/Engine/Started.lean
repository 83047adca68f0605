-- What an edit leaves of the phrases that the leader has started. Four of the
-- commands are refused for a started phrase and edit only from a later one on;
-- the other two go over the whole plan. In both the pass that puts in the
-- AutoLoops comes after the planner.
import Lumi.Planner.NoChange
import Lumi.Engine.Locks
import Lumi.Engine.Offers

open rust lumi_domain lumi_library lumi_light_plans lumi_planner
open Outcome (bind_eq_ok collect_eq_ok guard_eq_ok lift_eq_ok map_err_eq_ok)

namespace lumi_engine

/-! ## Cues before the first that an edit is about -/

section before

variable {plan current base : LightingPlan} {phrase_index : UInt16} {n : Nat}
  (hn : n ≤ phrase_index.toNat)
include hn

end before

/-! ## One cue under a pass over all -/

namespace PlanningWorker

variable {worker : PlanningWorker} {stack : Nat} {plan : LightingPlan}
  {context : LibraryPlanContext} {out : MaterializedLibraryPlan} {theme_id : ThemeId}
  {by_theme : BTreeMap ThemeId CompiledLightPlan} {cue cue' : LightingCue}

end PlanningWorker

/-! ## The law -/

/-- The phrase from which on a command may edit. Two of the commands edit the whole plan. -/
def PlanCommand.first : PlanCommand → Option UInt16
  | .SelectThemeFromPhrase phrase_index _ => some phrase_index
  | .SelectScene phrase_index _ => some phrase_index
  | .ChangePhraseRole phrase_index _ => some phrase_index
  | .SetCueLock phrase_index _ => some phrase_index
  | .SelectTheme _ => none
  | .RegeneratePlan => none

namespace EngineRuntime

variable {r r' : EngineRuntime} {stack : Nat} {answers : DatabaseAnswers}
  {context : PlanCommandContext} {command : PlanCommand} {current : LightingPlan}
  {input : PlanningInput} {i first : UInt16} {m : PlanMutation}

open PlanningWorker

end EngineRuntime

namespace sample

open EngineRuntime

/-- The leader of the sample plays its opening. -/
def opened : List Happening :=
  mapped ++ [observe 3 (.PlaybackStateChanged ⟨1⟩ ⟨10⟩ true), observe 4 (.PhraseChanged ⟨1⟩ ⟨10⟩ 0)]

end sample

open EngineRuntime sample

end lumi_engine
