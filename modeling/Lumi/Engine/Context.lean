-- What the library knows about the track of one load: the phrases with their
-- roles and strategies, the catalog, the color, and the AutoLoops that the
-- user picked for this plan.
import Lumi.Domain.Plan
import Lumi.Library.Catalog
import Lumi.LightPlans.Compile

open rust lumi_domain lumi_library lumi_light_plans

namespace lumi_engine

structure LibraryPhrasePlanContext where
  phrase_index : UInt16
  start_beat : UInt32
  end_beat : UInt32
  role_id : PhraseRoleId
  role_name : String
  strategy : PhraseLoopStrategy
deriving DecidableEq

/-- The source, the audio, the beat grid, the waveforms and the hot cues, which serve playback
and the screen, are left out. The phrases are the ones of a timeline, and carry their places as
indexes. -/
structure LibraryPlanContext where
  timeline_revision : UInt64
  track_color : Option TrackColor
  catalog : AutoloopCatalog
  phrases : List LibraryPhrasePlanContext
  autoloop_overrides : BTreeMap UInt16 VariantId
  indexed : tiling.Indexed (·.phrase_index.toNat) 0 phrases

structure ResolvedLibraryCue where
  phrase_index : UInt16
  role_id : String
  role_name : String
  strategy : String
  variant_id : String
  entry_id : String
  entry_name : String
  bank_number : UInt64
  autoloop_number : Option UInt16
  catalog_revision : UInt64
  resolution_reason : String
deriving DecidableEq

/-- The number of a variant that is one of the 32 buttons of a bank. -/
def mapping_number (variant_id : VariantId) : Option UInt16 :=
  (catalog_mapping_number variant_id).filter fun value => 1 ≤ value ∧ value ≤ 32

def loop_strategy_name : PhraseLoopStrategy → String
  | .Auto => "auto"
  | .FixedVariant _ => "fixedVariant"
  | .ThemeSpecificExact _ => "themeSpecificExact"

def autoloop_resolution_reason_name : AutoloopResolutionReason → String
  | .Automatic => "automatic"
  | .ExactVariant => "exactVariant"
  | .ThemeSpecificExact => "themeSpecificExact"
  | .SameRoleFallback requested_variant_id =>
    "sameRoleFallback:" ++ requested_variant_id.value

/-! ## Eligible themes -/

def theme_rule (policy : LightPlanningPolicy) (theme_id : ThemeId) : Option ThemeRule :=
  policy.theme_rules.find? (·.theme_id = theme_id.value)

/-- The themes that the policy rules in. A theme for the color of the track alone drives out the
others. -/
def policy_eligible_executable_themes (themes : List (ThemeId × String))
    (track_color_rgb : Option UInt32) (policy : LightPlanningPolicy) : List (ThemeId × String) :=
  if policy.theme_rules.isEmpty then themes
  else
    let matching_only := (themes.filter fun theme =>
      (theme_rule policy theme.1).any fun rule =>
        rule.enabled && rule.color_behavior == .Only &&
          color_matches track_color_rgb rule.color_rgb).map Prod.fst
    themes.filter fun theme =>
      (theme_rule policy theme.1).any fun rule =>
        rule.enabled &&
          (if matching_only.isEmpty then rule.color_behavior != .Only
          else matching_only.contains theme.1)

namespace LibraryPlanContext

variable (self : LibraryPlanContext)

def catalog_revision : UInt64 := self.catalog.revision

def track_color_rgb : Option UInt32 := self.track_color.map TrackColor.rgb_u32

/-- The picks of the user for the plan go on, but for the phrase whose role changed. -/
def inherit_autoloop_overrides (previous : LibraryPlanContext) (changed_phrase_index : UInt16) :
    LibraryPlanContext :=
  { self with autoloop_overrides := previous.autoloop_overrides.erase changed_phrase_index }

def resolve_phrase (theme_id : ThemeId) (phrase : LibraryPhrasePlanContext) :
    Except AutoloopCatalogError AutoloopResolution :=
  match self.autoloop_overrides[phrase.phrase_index]? with
  | some variant_id =>
    self.catalog.resolve theme_id phrase.role_id (some variant_id) self.catalog.revision
  | none =>
    self.catalog.resolve_loop_strategy theme_id phrase.role_id phrase.strategy
      self.catalog.revision

def resolves (theme_id : ThemeId) (phrase : LibraryPhrasePlanContext) : Bool :=
  (self.resolve_phrase theme_id phrase).toOption.isSome

def startable_themes : List (ThemeId × String) :=
  (self.catalog.themes.filter fun theme => self.phrases.head?.any (self.resolves theme.id)).map
    fun theme => (theme.id, theme.display_name)

def coverage (theme_id : ThemeId) : Nat := (self.phrases.filter (self.resolves theme_id)).length

def best_covered_themes (themes : List (ThemeId × String)) : List (ThemeId × String) :=
  match (themes.map fun theme => self.coverage theme.1).max? with
  | none => []
  | some maximum => themes.filter fun theme => self.coverage theme.1 = maximum

def eligible_best_covered_themes (policy : LightPlanningPolicy) : List (ThemeId × String) :=
  self.best_covered_themes
    (policy_eligible_executable_themes self.startable_themes self.track_color_rgb policy)

/-! ## Compilation -/

def phrase_selection (theme_id : ThemeId) (phrase : LibraryPhrasePlanContext) : PhraseSelection :=
  match self.autoloop_overrides[phrase.phrase_index]? with
  | some variant => .PlanOverride variant.value
  | none =>
    match phrase.strategy with
    | .Auto => .Automatic
    | .FixedVariant variant => .FixedVariant variant.value
    | .ThemeSpecificExact overrides =>
      match overrides.find? (·.theme_id = theme_id) with
      | none => .Automatic
      | some value => .FixedVariant value.variant_id.value

def phrase_request (theme_id : ThemeId) (phrase : LibraryPhrasePlanContext) : PhraseRequest where
  phrase_index := phrase.phrase_index
  role_id := phrase.role_id.value
  selection := self.phrase_selection theme_id phrase

def cell_candidate (cell : AutoloopMatrixCell) : Option Candidate :=
  (mapping_number cell.variant_id).map fun autoloop_number =>
    { theme_id := cell.theme_id.value
      role_id := cell.role_id.value
      variant_id := cell.variant_id.value
      entry_id := cell.entry_id.value
      display_name := cell.display_name
      autoloop_number }

/-- What the compiler is asked for the phrases with the indexes. No index at all stands for the
whole track. -/
def compilation (theme_id : ThemeId) (phrase_indices : List UInt16) (policy : LightPlanningPolicy) :
    Compilation where
  policy := policy
  theme_id := theme_id.value
  track_color_rgb := self.track_color_rgb
  phrases := (self.phrases.filter fun phrase =>
    phrase_indices.isEmpty || phrase_indices.contains phrase.phrase_index).map
      (self.phrase_request theme_id)
  candidates := self.catalog.cells.filterMap cell_candidate

def compile_light_plan_for_phrases (stack : Nat) (theme_id : ThemeId) (phrase_indices : List UInt16)
    (policy : LightPlanningPolicy) (variation_seed : UInt64)
    (history : VariationHistory) : Outcome LightPlanError CompiledLightPlan :=
  (self.compilation theme_id phrase_indices policy).compile stack variation_seed history

def compile_light_plan (stack : Nat) (theme_id : ThemeId) (policy : LightPlanningPolicy)
    (variation_seed : UInt64) (history : VariationHistory) :
    Outcome LightPlanError CompiledLightPlan :=
  self.compile_light_plan_for_phrases stack theme_id [] policy variation_seed history

/-! ## Choices for one phrase -/

def phrase (phrase_index : UInt16) : Option LibraryPhrasePlanContext :=
  self.phrases.find? (·.phrase_index = phrase_index)

def strategy_name (phrase : LibraryPhrasePlanContext) : String :=
  if self.autoloop_overrides.contains phrase.phrase_index then "planOverride"
  else loop_strategy_name phrase.strategy

def resolved_autoloop (theme_id : ThemeId) (phrase_index : UInt16) : Option ResolvedLibraryCue := do
  let phrase ← self.phrase phrase_index
  let resolution ← (self.resolve_phrase theme_id phrase).toOption
  return {
    phrase_index
    role_id := phrase.role_id.value
    role_name := phrase.role_name
    strategy := self.strategy_name phrase
    variant_id := resolution.variant_id.value
    entry_id := resolution.entry_id.value
    entry_name := resolution.display_name
    bank_number := theme_id.value
    autoloop_number := mapping_number resolution.variant_id
    catalog_revision := resolution.catalog_revision
    resolution_reason := autoloop_resolution_reason_name resolution.reason }

/-- The AutoLoop of a cell as a choice for the phrase. -/
def cell_choice (theme_id : ThemeId) (phrase : LibraryPhrasePlanContext)
    (cell : AutoloopMatrixCell) : Option ResolvedLibraryCue :=
  (mapping_number cell.variant_id).map fun autoloop_number =>
    { phrase_index := phrase.phrase_index
      role_id := phrase.role_id.value
      role_name := phrase.role_name
      strategy := self.strategy_name phrase
      variant_id := cell.variant_id.value
      entry_id := cell.entry_id.value
      entry_name := cell.display_name
      bank_number := theme_id.value
      autoloop_number := some autoloop_number
      catalog_revision := self.catalog.revision
      resolution_reason := self.strategy_name phrase }

/-- The cells of the theme for the role. -/
def cells_of (theme_id : ThemeId) (role_id : PhraseRoleId) : List AutoloopMatrixCell :=
  self.catalog.cells.filter fun cell => cell.theme_id = theme_id ∧ cell.role_id = role_id

def number_le (a b : ResolvedLibraryCue) : Bool :=
  match a.autoloop_number, b.autoloop_number with
  | none, _ => true
  | some _, none => false
  | some a, some b => a ≤ b

def autoloop_choices (theme_id : ThemeId) (phrase_index : UInt16) : List ResolvedLibraryCue :=
  match self.phrase phrase_index with
  | none => []
  | some phrase =>
    ((self.cells_of theme_id phrase.role_id).filterMap
      (self.cell_choice theme_id phrase)).insertionSort (number_le · ·)

def set_autoloop_override (theme_id : ThemeId) (phrase_index autoloop_number : UInt16) :
    Except AutoloopCatalogError LibraryPlanContext :=
  match self.phrase phrase_index with
  | none => .error .UnknownPhraseRole
  | some phrase =>
    match (self.cells_of theme_id phrase.role_id).find? fun cell =>
        mapping_number cell.variant_id = some autoloop_number with
    | none => .error .MissingExactCell
    | some cell =>
      .ok { self with
        autoloop_overrides := self.autoloop_overrides.insert phrase_index cell.variant_id }

end LibraryPlanContext

end lumi_engine
