-- What is left of the locked cues when the plan is generated again. The pass
-- that puts in the AutoLoops comes after the planner and knows of no lock.
import Lumi.Engine.Edits

open rust lumi_domain lumi_library lumi_planner

namespace lumi_engine

/-! ## Accepted edits -/

namespace EngineRuntime

variable {r r' : EngineRuntime} {stack : Nat} {answers : DatabaseAnswers}
  {context : PlanCommandContext} {command : PlanCommand} {current : LightingPlan}
  {input : PlanningInput} {k : Nat} {cue : LightingCue} {look : LightingLook}

end EngineRuntime

namespace sample

open EngineRuntime

/-- The plan of the sample with the cue of a phrase locked. -/
def locked (phrase_index : UInt16) : List Happening :=
  mapped ++ [.Engine (.Edit (fun _ => none) (seen (mapped_engine.run mapped))
    (.SetCueLock phrase_index true)) []]

end sample

open EngineRuntime sample

end lumi_engine
