-- The planning worker: the planner for the themes that can be shown, the
-- contexts of the loads, and the pass that puts the AutoLoops of the library
-- into a plan.
import Lumi.Domain.Queue
import Lumi.Planner.Planner
import Lumi.Engine.Context

open rust lumi_domain lumi_library lumi_light_plans lumi_planner

namespace lumi_engine

/-! ## Errors -/

inductive SerializedRuntimeError where
  | Ingress (error : IngressError)
  | Reducer (error : ReducerError)
deriving DecidableEq

/-- The errors of the functions that are modelled here. -/
inductive EngineError where
  | DomainRuntime (error : SerializedRuntimeError)
  | Planner (error : PlannerError)
  | LightPlan (error : LightPlanError)
  | PlanMaterialization (error : PlanValidationError)
  | MissingLibraryAutoloopResolution
  | NoExecutableLibraryTheme
  | SubmittedEventMissing
  | PlanningEffectSequenceOverflow
  | RevisedPlanNotAccepted
  | OutputEffectSequenceOverflow
  | Midi (error : String)
deriving DecidableEq

/-! ## Planners for themes -/

def track_color_from_rgb (rgb : UInt32) : TrackColor :=
  ⟨((rgb >>> 16) &&& 0xff).toUInt8, ((rgb >>> 8) &&& 0xff).toUInt8, (rgb &&& 0xff).toUInt8⟩

def rule_color_behavior : ColorBehavior → ThemeRuleColorBehavior
  | .Prefer => .Prefer
  | .Only => .Only
  | .Neutral => .Neutral

def theme_selection_rule (policy : LightPlanningPolicy) (theme : ThemeOption) :
    Option ThemeSelectionRule :=
  (theme_rule policy theme.id).map fun rule =>
    { theme_id := theme.id
      enabled := true
      weight := rule.effective_weight.toUInt16
      color_behavior := rule_color_behavior rule.color_behavior
      colors := rule.color_rgb.map track_color_from_rgb }

/-- The themes that no rule of the policy leaves out. -/
def enabled_themes (policy : LightPlanningPolicy) (themes : List ThemeOption) : List ThemeOption :=
  if policy.theme_rules.isEmpty then themes
  else themes.filter fun theme => (theme_rule policy theme.id).any (·.enabled)

variable (catalog_revision : UInt64)

def planner_for_theme_options (themes : List ThemeOption) (policy : LightPlanningPolicy) :
    Except EngineError DeterministicPlanner :=
  let themes := enabled_themes policy themes
  match themes with
  | [] => .error .NoExecutableLibraryTheme
  | first :: _ =>
    let default_theme := ((policy.default_theme_id.map NumericIdentifier.mk).filter fun candidate =>
      themes.any (·.id = candidate)).getD first.id
    let configuration := (PlanningConfiguration.epic_one.with_themes
      ⟨max catalog_revision 1⟩ themes).with_default_theme default_theme
    let configuration :=
      if policy.theme_rules.isEmpty then configuration
      else (configuration.with_color_rules []).with_theme_selection_rules
        (themes.filterMap (theme_selection_rule policy))
    .ok ⟨configuration, StableChoiceSource⟩

def planner_for_themes (themes : List (ThemeId × String)) (policy : LightPlanningPolicy) :
    Except EngineError DeterministicPlanner :=
  planner_for_theme_options catalog_revision (themes.map fun theme => ⟨theme.1, theme.2⟩) policy

/-- The only error of `planner_for_themes` is that no theme is left, and that is no error here. -/
def planner_for_executable_themes (themes : List (ThemeId × String))
    (policy : LightPlanningPolicy) : Except EngineError (Option DeterministicPlanner) :=
  if themes.isEmpty then .ok none
  else match planner_for_themes catalog_revision themes policy with
    | .ok planner => .ok (some planner)
    | .error .NoExecutableLibraryTheme => .ok none
    | .error error => .error error

def theme_options (catalog : AutoloopCatalog) : List ThemeOption :=
  catalog.themes.map fun theme => ⟨theme.id, theme.display_name⟩

def planner_track (metadata : TrackMetadata) : PlannerTrack :=
  if metadata.phrases.isEmpty then .without_analysis metadata.id metadata.duration_beats
  else .analyzed metadata

def action_theme_id : SemanticLightingAction → Option ThemeId
  | .ApplyLook look => some look.theme_id
  | .HoldCurrentLook => none

/-! ## The worker -/

structure PlanningWorker where
  planner : DeterministicPlanner
  planner_catalog_revision : UInt64
  planner_theme_options : List ThemeOption
  effect_sequence : UInt64
  recent_theme_ids : List ThemeId
  reserved_theme_ids : BTreeMap TrackLoadId ThemeId
  library_contexts : BTreeMap TrackLoadId LibraryPlanContext
  light_policy : LightPlanningPolicy
  variation_history : VariationHistory
  compiled_light_plans : BTreeMap TrackLoadId CompiledLightPlan

structure MaterializedLibraryPlan where
  plan : LightingPlan
  compiled : Option CompiledLightPlan

inductive PlanMaterializationScope where
  | All
  | FromPhrase (first : UInt16)
  | Phrase (selected : UInt16)
  | None
deriving DecidableEq

def PlanMaterializationScope.reselects (phrase_index : UInt16) : PlanMaterializationScope → Bool
  | All => true
  | FromPhrase first => first ≤ phrase_index
  | Phrase selected => phrase_index = selected
  | None => false

def LIBRARY_CONTEXT_CAPACITY : Nat := 256

section maps

variable {V : Type}

/-- The map without its smallest key. -/
def remove_oldest (map : BTreeMap TrackLoadId V) : BTreeMap TrackLoadId V :=
  match map.minKey? with
  | none => map
  | some oldest => map.erase oldest

/-- The loop that removes the smallest key while the map is over its capacity. -/
def bound (map : BTreeMap TrackLoadId V) : BTreeMap TrackLoadId V :=
  remove_oldest^[map.size - LIBRARY_CONTEXT_CAPACITY] map

end maps

def reservation_id (track_load_id : TrackLoadId) : String :=
  "track-load:" ++ toString track_load_id.value.toNat

def compiled_choice_from_resolution (choice : ResolvedLibraryCue) : CompiledAutoloopChoice where
  phrase_index := choice.phrase_index
  role_id := choice.role_id
  variant_id := choice.variant_id
  entry_id := choice.entry_id
  display_name := choice.entry_name
  autoloop_number := choice.autoloop_number.getD 0
  evidence :=
    { reason := "preserved accepted live choice"
      effective_weight := 0
      color_influence := "not re-evaluated"
      repeat_protection := "existing phrase choice preserved" }

def mix_compiled_selection (hash : UInt64) (theme_id : ThemeId) (value : String) : UInt64 :=
  value.toUTF8.toList.foldl (fun hash byte => (hash ^^^ byte.toUInt64) * 0x00000100000001b3)
    ((hash ^^^ theme_id.value) * 0x00000100000001b3)

namespace PlanningWorker

def new (catalog : AutoloopCatalog) : PlanningWorker where
  planner := (planner_for_theme_options catalog.revision (theme_options catalog)
    .default).toOption.getD .epic_one
  planner_catalog_revision := catalog.revision
  planner_theme_options := theme_options catalog
  effect_sequence := 0
  recent_theme_ids := []
  reserved_theme_ids := ∅
  library_contexts := ∅
  light_policy := .default
  variation_history := .default
  compiled_light_plans := ∅

variable (self : PlanningWorker)

def rebuild_planner : PlanningWorker :=
  match planner_for_theme_options self.planner_catalog_revision self.planner_theme_options
      self.light_policy with
  | .ok planner => { self with planner }
  | .error _ => self

def synchronize_themes (catalog : AutoloopCatalog) : PlanningWorker :=
  rebuild_planner { self with
    planner_catalog_revision := catalog.revision
    planner_theme_options := theme_options catalog }

def synchronize_light_policy (policy : LightPlanningPolicy) : PlanningWorker :=
  rebuild_planner { self with light_policy := policy }

variable (track_load_id : TrackLoadId)

def register_library_context (context : LibraryPlanContext) : PlanningWorker :=
  { self with library_contexts := bound (self.library_contexts.insert track_load_id context) }

def library_context : Option LibraryPlanContext :=
  self.library_contexts[track_load_id]?

/-! ## Materialization -/

/-- The theme of the plan's decision, or of its first cue with a look. -/
def initial_theme_id (plan : LightingPlan) : Option ThemeId :=
  match plan.theme_decision with
  | some decision => some decision.theme_id
  | none => plan.cues.findSome? fun cue => action_theme_id cue.action

def variation_seed (plan : LightingPlan) : UInt64 :=
  self.effect_sequence ^^^ plan.track_load_id.value

/-- The phrases of each theme but the opening one. -/
def phrase_indices_by_theme (initial_theme_id : ThemeId) (cues : List LightingCue) :
    BTreeMap ThemeId (List UInt16) :=
  cues.foldl (fun indices cue =>
    match action_theme_id cue.action with
    | none => indices
    | some theme_id =>
      if theme_id ≠ initial_theme_id then
        indices.insert theme_id (indices[theme_id]?.getD [] ++ [cue.phrase_index])
      else indices) ∅

/-- The loop over the other themes of a mixed plan. -/
def compile_others (stack : Nat) (context : LibraryPlanContext) (seed : UInt64) :
    BTreeMap ThemeId CompiledLightPlan → List (ThemeId × List UInt16) →
      Outcome EngineError (BTreeMap ThemeId CompiledLightPlan)
  | compiled_by_theme, [] => .ok compiled_by_theme
  | compiled_by_theme, (theme_id, phrase_indices) :: others => do
    let compiled ← (context.compile_light_plan_for_phrases stack theme_id phrase_indices
      self.light_policy seed self.variation_history).map_err .LightPlan
    compile_others stack context seed (compiled_by_theme.insert theme_id compiled) others

/-- A policy without rules compiles nothing. -/
def compiled_by_theme (stack : Nat) (plan : LightingPlan) (context : LibraryPlanContext)
    (initial_theme_id : ThemeId) : Outcome EngineError (BTreeMap ThemeId CompiledLightPlan) :=
  if self.light_policy.rules.isEmpty then .ok ∅
  else do
    let seed := self.variation_seed plan
    let opening ← (context.compile_light_plan stack initial_theme_id self.light_policy seed
      self.variation_history).map_err .LightPlan
    self.compile_others stack context seed ((∅ : BTreeMap ThemeId CompiledLightPlan).insert
      initial_theme_id opening) (phrase_indices_by_theme initial_theme_id plan.cues).toList

/-- What a cue with a look comes out with: the number and the name of the AutoLoop, and the
compiled choice behind it. -/
structure Resolution where
  number : UInt16
  name : String
  compiled : Option CompiledAutoloopChoice
deriving DecidableEq

/-- The choice that the compilation of the cue's theme made for the cue's phrase. -/
def compiled_choice (compiled_by_theme : BTreeMap ThemeId CompiledLightPlan) (cue : LightingCue)
    (look : LightingLook) : Option CompiledAutoloopChoice :=
  compiled_by_theme[look.theme_id]?.bind fun compiled =>
    compiled.choices.find? (·.phrase_index = cue.phrase_index)

variable (scope : PlanMaterializationScope) (context : LibraryPlanContext)

/-- The AutoLoop that the cue shows already, when it is still offered and the scope leaves the
cue alone. -/
def preserved (cue : LightingCue) (look : LightingLook) : Option ResolvedLibraryCue :=
  if scope.reselects cue.phrase_index then none
  else if look.scene_id.value.toNat < 2 ^ 16 then
    (context.autoloop_choices look.theme_id cue.phrase_index).find?
      (·.autoloop_number = some look.scene_id.value.toUInt16)
  else none

/-- One turn of the loop over the cues. -/
def resolve_cue (compiled_by_theme : BTreeMap ThemeId CompiledLightPlan) (cue : LightingCue)
    (look : LightingLook) : Option Resolution :=
  let compiled_choice := compiled_choice compiled_by_theme cue look
  match preserved scope context cue look with
  | some preserved =>
    preserved.autoloop_number.map fun number =>
      ⟨number, preserved.entry_name, some ((compiled_choice.filter
        (·.autoloop_number = number)).getD (compiled_choice_from_resolution preserved))⟩
  | none =>
    match compiled_choice with
    | some choice => some ⟨choice.autoloop_number, choice.display_name, some choice⟩
    | none =>
      if self.light_policy.rules.isEmpty then do
        let choice ← context.resolved_autoloop look.theme_id cue.phrase_index
        let number ← choice.autoloop_number
        return ⟨number, choice.entry_name, none⟩
      else none

/-- The resolution of a cue. A cue without a look has none. The source keeps the resolutions in
a map under the phrase indexes, which are the places of the cues in every plan. -/
def cue_resolution (compiled_by_theme : BTreeMap ThemeId CompiledLightPlan) (cue : LightingCue) :
    Option (ThemeId × Resolution) :=
  match cue.action with
  | .HoldCurrentLook => none
  | .ApplyLook look =>
    (self.resolve_cue scope context compiled_by_theme cue look).map (look.theme_id, ·)

/-- The compiled choices of the plan, each with the theme of its cue. -/
def final_choices (compiled_by_theme : BTreeMap ThemeId CompiledLightPlan)
    (cues : List LightingCue) :
    List (ThemeId × CompiledAutoloopChoice) :=
  cues.filterMap fun cue =>
    (self.cue_resolution scope context compiled_by_theme cue).bind fun (theme_id, resolution) =>
      resolution.compiled.map (theme_id, ·)

/-- The signature that the history keeps of the plan. -/
def composite_signature (initial_theme_id : ThemeId)
    (choices : List (ThemeId × CompiledAutoloopChoice))
    (modifier_choices : List CompiledModifierChoice) : UInt64 :=
  modifier_choices.foldl (fun signature modifier =>
      mix_compiled_selection signature initial_theme_id modifier.modifier_id)
    (choices.foldl (fun signature choice =>
      mix_compiled_selection signature choice.1 choice.2.variant_id) 0xcbf29ce484222325)

def compiled_plan (compiled_by_theme : BTreeMap ThemeId CompiledLightPlan) (plan : LightingPlan)
    (initial_theme_id : ThemeId) : Option CompiledLightPlan :=
  if self.light_policy.rules.isEmpty then none
  else
    let choices := self.final_choices scope context compiled_by_theme plan.cues
    let modifier_choices :=
      (compiled_by_theme[initial_theme_id]?.map (·.modifier_choices)).getD []
    some
      { policy_revision := self.light_policy.revision
        variation_seed := self.variation_seed plan
        theme_id := initial_theme_id.value
        choices := choices.map Prod.snd
        modifier_choices
        signature := composite_signature initial_theme_id choices modifier_choices }

/-- A cue without an AutoLoop holds the look that is on. -/
def materialize_cue (compiled_by_theme : BTreeMap ThemeId CompiledLightPlan) (cue : LightingCue) :
    Outcome EngineError LightingCue :=
  match cue.action with
  | .HoldCurrentLook => .ok cue
  | .ApplyLook look =>
    match self.resolve_cue scope context compiled_by_theme cue look with
    | none => .ok cue.hold_for_missing_autoloop_mapping
    | some resolution => do
      let materialized ← Outcome.lift .PlanMaterialization (LightingLook.try_new look.theme_id
        look.theme_name ⟨resolution.number.toUInt64⟩ resolution.name look.category
        look.loop_selection)
      .ok (cue.revised (.ApplyLook materialized) cue.origin cue.locked)

def prepare_library_plan (stack : Nat) (plan : LightingPlan) (scope : PlanMaterializationScope)
    (context : Option LibraryPlanContext) : Outcome EngineError MaterializedLibraryPlan :=
  match context with
  | none => .ok ⟨plan, none⟩
  | some context => do
    let initial_theme_id ← Outcome.ok_or (initial_theme_id plan) .MissingLibraryAutoloopResolution
    let compiled_by_theme ← self.compiled_by_theme stack plan context initial_theme_id
    let cues ← Outcome.collect (self.materialize_cue scope context compiled_by_theme) plan.cues
    let plan' ← Outcome.lift .PlanMaterialization (plan.with_materialized_cues cues)
    .ok ⟨plan', self.compiled_plan scope context compiled_by_theme plan initial_theme_id⟩

def commit_compiled_plan (compiled : Option CompiledLightPlan) : PlanningWorker :=
  match compiled with
  | some compiled =>
    { self with
      variation_history := self.variation_history.reserve (reservation_id track_load_id) compiled
      compiled_light_plans := bound (self.compiled_light_plans.insert track_load_id compiled) }
  | none =>
    { self with
      compiled_light_plans := self.compiled_light_plans.erase track_load_id
      variation_history := self.variation_history.release (reservation_id track_load_id) }

/-- The plan with its AutoLoops, and the worker that remembers it. -/
def materialize_library_plan (stack : Nat) (plan : LightingPlan) :
    Outcome EngineError (PlanningWorker × LightingPlan) := do
  let prepared ← self.prepare_library_plan stack plan .All (self.library_context plan.track_load_id)
  .ok (self.commit_compiled_plan prepared.plan.track_load_id prepared.compiled, prepared.plan)

end PlanningWorker

end lumi_engine
