-- The planner: it picks a theme for a loaded track, gives every phrase a cue
-- with a scene that fits it, and applies the edits of the user to the plan.
-- What it chooses at random comes from a source of choices that it is given.
import Lumi.Replay
import Lumi.Domain.Plan

open rust lumi_domain

namespace lumi_planner

/-! ## What the planner is asked -/

structure PlannerTrack where
  id : TrackId
  duration_beats : UInt32
  color : Option TrackColor
  phrases : Option (List TrackPhrase)
deriving DecidableEq

namespace PlannerTrack

def analyzed (metadata : TrackMetadata) : PlannerTrack where
  id := metadata.id
  duration_beats := metadata.duration_beats
  color := metadata.color
  phrases := some metadata.phrases

def without_analysis (id : TrackId) (duration_beats : UInt32) : PlannerTrack :=
  { id, duration_beats, color := none, phrases := none }

def with_analysis (id : TrackId) (duration_beats : UInt32) (phrases : List TrackPhrase) :
    PlannerTrack :=
  { id, duration_beats, color := none, phrases := some phrases }

def with_analysis_and_color (id : TrackId) (duration_beats : UInt32) (color : TrackColor)
    (phrases : List TrackPhrase) : PlannerTrack :=
  { id, duration_beats, color := some color, phrases := some phrases }

end PlannerTrack

structure PlanningInput where
  deck_id : DeckId
  track_load_id : TrackLoadId
  track : PlannerTrack
deriving DecidableEq

/-- The themes of the last plans, eight at most, the newest at the end. -/
structure ThemeSelectionContext where
  recent_theme_ids : List ThemeId
  bounded : recent_theme_ids.length ≤ 8

namespace ThemeSelectionContext

def new (recent_theme_ids : List ThemeId) : ThemeSelectionContext where
  recent_theme_ids := (recent_theme_ids.reverse.take 8).reverse
  bounded := by simp

def default : ThemeSelectionContext where
  recent_theme_ids := []
  bounded := Nat.zero_le 8

end ThemeSelectionContext

/-! ## The configuration -/

structure ThemeDefinition where
  id : ThemeId
  name : String
deriving DecidableEq

inductive ThemeColorRuleMode where
  | Force
  | Prefer
deriving DecidableEq

structure WeightedThemeCandidate where
  theme_id : ThemeId
  weight : UInt16
deriving DecidableEq

structure ThemeColorRule where
  color : TrackColor
  mode : ThemeColorRuleMode
  candidates : List WeightedThemeCandidate
deriving DecidableEq

inductive ThemeRuleColorBehavior where
  | Neutral
  | Prefer
  | Only
deriving DecidableEq

structure ThemeSelectionRule where
  theme_id : ThemeId
  enabled : Bool
  weight : UInt16
  color_behavior : ThemeRuleColorBehavior
  colors : List TrackColor
deriving DecidableEq

structure SceneDefinition where
  id : SceneId
  name : String
  category : SceneCategory
  loop_selection : LoopSelection
deriving DecidableEq

structure ThemeOption where
  id : ThemeId
  name : String
deriving DecidableEq

structure PlanningConfiguration where
  revision : PlanConfigurationRevision
  themes : List ThemeDefinition
  scenes : List SceneDefinition
  global_theme_lock : Option ThemeId
  color_rules : List ThemeColorRule
  theme_selection_rules : List ThemeSelectionRule
  default_theme_id : ThemeId

def scene (id : UInt64) (name : String) (category : SceneCategory) (bank slot : UInt8) :
    SceneDefinition :=
  { id := ⟨id⟩, name, category, loop_selection := ⟨bank, slot⟩ }

namespace PlanningConfiguration

def epic_one : PlanningConfiguration where
  revision := ⟨1⟩
  themes := [⟨⟨1⟩, "Electric Bloom"⟩, ⟨⟨2⟩, "Deep Ocean"⟩, ⟨⟨3⟩, "Solar Flare"⟩,
    ⟨⟨4⟩, "Ultraviolet"⟩]
  scenes := [
    scene 1 "Soft Motion" .Ambient 1 1,
    scene 2 "Star Wash" .Ambient 1 2,
    scene 3 "Neon Motion" .Groove 2 1,
    scene 4 "Prism Sweep" .Groove 2 2,
    scene 5 "Rising Pulse" .Build 3 1,
    scene 6 "Velocity Build" .Build 3 2,
    scene 7 "Full Energy" .Impact 4 1,
    scene 8 "Color Impact" .Impact 4 2,
    scene 9 "Deep Space" .Break 5 1,
    scene 10 "Slow Wave" .Break 5 2]
  global_theme_lock := none
  color_rules := [
    { color := ⟨187, 72, 126⟩, mode := .Force, candidates := [⟨⟨4⟩, 1⟩] },
    { color := ⟨72, 112, 205⟩, mode := .Prefer, candidates := [⟨⟨2⟩, 1⟩] }]
  theme_selection_rules := []
  default_theme_id := ⟨1⟩

variable (configuration : PlanningConfiguration)

def with_global_theme_lock (theme_id : Option ThemeId) : PlanningConfiguration :=
  { configuration with global_theme_lock := theme_id }

def with_color_rules (rules : List ThemeColorRule) : PlanningConfiguration :=
  { configuration with color_rules := rules }

def with_theme_selection_rules (rules : List ThemeSelectionRule) : PlanningConfiguration :=
  { configuration with theme_selection_rules := rules }

def with_default_theme (theme_id : ThemeId) : PlanningConfiguration :=
  { configuration with default_theme_id := theme_id }

/-- A new catalog of themes. The rules, the lock and the default lose what it does not hold. -/
def with_themes (revision : PlanConfigurationRevision) (themes : List ThemeOption) :
    PlanningConfiguration :=
  let theme_ids := themes.map (·.id)
  let color_rules := configuration.color_rules.map fun rule =>
    { rule with candidates := rule.candidates.filter (·.theme_id ∈ theme_ids) }
  { configuration with
    revision
    themes := themes.map fun theme => ⟨theme.id, theme.name⟩
    color_rules := color_rules.filter fun rule => rule.candidates.any (·.weight > 0)
    theme_selection_rules := configuration.theme_selection_rules.filter (·.theme_id ∈ theme_ids)
    global_theme_lock :=
      if configuration.global_theme_lock.any (· ∉ theme_ids) then none
      else configuration.global_theme_lock
    default_theme_id :=
      if configuration.default_theme_id ∉ theme_ids then
        theme_ids.head?.getD configuration.default_theme_id
      else configuration.default_theme_id }

end PlanningConfiguration

/-! ## Seeds and choices -/

def FNV_OFFSET_BASIS : UInt64 := 0xcbf29ce484222325

def FNV_PRIME : UInt64 := 0x00000100000001b3

/-- `u64::to_le_bytes`. -/
def to_le_bytes (value : UInt64) : List UInt8 :=
  [value, value >>> 8, value >>> 16, value >>> 24, value >>> 32, value >>> 40, value >>> 48,
    value >>> 56].map UInt64.toUInt8

def stable_seed (track_id : TrackId) (revision : PlanConfigurationRevision) : UInt64 :=
  (to_le_bytes track_id.value ++ to_le_bytes revision.value).foldl
    (fun hash byte => (hash ^^^ byte.toUInt64) * FNV_PRIME) FNV_OFFSET_BASIS

def mix (value : UInt64) : UInt64 :=
  let value := value ^^^ (value >>> 30)
  let value := value * 0xbf58476d1ce4e5b9
  let value := value ^^^ (value >>> 27)
  let value := value * 0x94d049bb133111eb
  value ^^^ (value >>> 31)

def nonzero (value : UInt64) : UInt64 := if value = 0 then 1 else value

/-- `choose` of a `ChoiceSource`: from the seed, the decision and the number of candidates. -/
abbrev ChoiceSource := UInt64 → UInt64 → Nat → Option Nat

def StableChoiceSource : ChoiceSource := fun seed decision candidate_count =>
  if candidate_count = 0 then none
  else
    let mixed := mix (seed ^^^ (decision * 0x9e3779b97f4a7c15))
    some (mixed % UInt64.ofNat candidate_count).toNat

structure DeterministicPlanner where
  configuration : PlanningConfiguration
  choice_source : ChoiceSource

def DeterministicPlanner.epic_one : DeterministicPlanner where
  configuration := .epic_one
  choice_source := StableChoiceSource

/-! ## Errors -/

inductive PlannerError where
  | EmptyTrackDuration
  | EmptyThemeCatalog
  | InvalidThemeRule
  | NoEligibleTheme
  | UnknownConfiguredTheme (theme_id : ThemeId)
  | MissingSceneCategory (category : SceneCategory)
  | InvalidPlan (error : PlanValidationError)
deriving DecidableEq

inductive PlanMutationError where
  | UnknownTheme (theme_id : ThemeId)
  | UnknownScene (scene_id : SceneId)
  | UnknownPhrase (phrase_index : UInt16)
  | SceneCategoryMismatch (expected actual : SceneCategory)
  | FallbackPlanNotEditable
  | TrackLoadMismatch
  | NoChange
  | InvalidPlan (error : PlanValidationError)
  | Planner (error : PlannerError)
deriving DecidableEq

/-! ## Themes -/

def without_recent (candidates : List WeightedThemeCandidate) (recent : List ThemeId) :
    List WeightedThemeCandidate :=
  candidates.filter (·.theme_id ∉ recent)

/-- The sum of the weights, as far as a `usize` holds it. -/
def total_weight : Nat → List WeightedThemeCandidate → Option Nat
  | total, [] => some total
  | total, candidate :: candidates =>
    if total + candidate.weight.toNat < 2 ^ 64 then
      total_weight (total + candidate.weight.toNat) candidates
    else none

/-- The loop of `weighted_choice` that looks for the candidate under the cursor. -/
def candidate_under : Nat → List WeightedThemeCandidate → Outcome PlannerError ThemeId
  | _, [] => .err .InvalidThemeRule
  | cursor, candidate :: candidates =>
    if candidate.weight = 0 then candidate_under cursor candidates
    else if cursor < candidate.weight.toNat then .ok candidate.theme_id
    else candidate_under (cursor - candidate.weight.toNat) candidates

/-- The track has one of the colors of the rule. -/
def ThemeSelectionRule.matches_color (rule : ThemeSelectionRule) (track : PlannerTrack) : Bool :=
  track.color.any (· ∈ rule.colors)

/-- `u16::saturating_mul(2)`. -/
def saturating_double (weight : UInt16) : UInt16 :=
  if weight.toNat * 2 < 2 ^ 16 then weight * 2 else UInt16.ofNat (2 ^ 16 - 1)

namespace DeterministicPlanner

variable (self : DeterministicPlanner)

def theme (theme_id : ThemeId) : Option ThemeDefinition :=
  self.configuration.themes.find? (·.id = theme_id)

def decision (theme_id : ThemeId) (reason : ThemeSelectionReason) (matched_color : Option UInt32) :
    Outcome PlannerError ThemeDecision := do
  let theme ← Outcome.ok_or (self.theme theme_id) (.UnknownConfiguredTheme theme_id)
  .lift .InvalidPlan (ThemeDecision.try_new theme.id theme.name reason matched_color)

def weighted_choice (seed decision : UInt64) (candidates : List WeightedThemeCandidate) :
    Outcome PlannerError ThemeId := do
  let total ← Outcome.ok_or (total_weight 0 candidates) .InvalidThemeRule
  let selected ← Outcome.ok_or (self.choice_source seed decision total) .InvalidThemeRule
  candidate_under selected candidates

/-- The loop over the modes: the first rule for the color of the track decides. -/
def select_color_theme (self : DeterministicPlanner) (seed : UInt64) (color : TrackColor)
    (context : ThemeSelectionContext) :
    List ThemeColorRuleMode → Option (Outcome PlannerError ThemeDecision)
  | [] => none
  | mode :: modes =>
    match self.configuration.color_rules.find? (fun rule => rule.color = color ∧ rule.mode = mode)
      with
    | none => select_color_theme self seed color context modes
    | some rule =>
      let candidates :=
        if mode = .Prefer then without_recent rule.candidates context.recent_theme_ids
        else rule.candidates
      let candidates := if candidates.isEmpty then rule.candidates else candidates
      some (do
        let theme_id ← self.weighted_choice seed color.rgb_u32.toUInt64 candidates
        let reason := if mode = .Force then .ColorForce else .ColorPrefer
        self.decision theme_id reason (some color.rgb_u32))

def select_policy_theme (track : PlannerTrack) (seed : UInt64) (context : ThemeSelectionContext) :
    Outcome PlannerError ThemeDecision :=
  let matching_only := self.configuration.theme_selection_rules.filter fun rule =>
    rule.enabled && rule.color_behavior == .Only && rule.matches_color track
  let uses_color_only := !matching_only.isEmpty
  let eligible :=
    if uses_color_only then matching_only
    else self.configuration.theme_selection_rules.filter fun rule =>
      rule.enabled && rule.color_behavior != .Only
  let weighted := eligible.map fun rule =>
    { theme_id := rule.theme_id
      weight := max 1
        (if rule.color_behavior == .Prefer && rule.matches_color track then
          saturating_double rule.weight
        else rule.weight) : WeightedThemeCandidate }
  if weighted.isEmpty then .err .NoEligibleTheme
  else
    let matching_prefer := eligible.any fun rule =>
      rule.color_behavior == .Prefer && rule.matches_color track
    if !uses_color_only && !matching_prefer && context.recent_theme_ids.isEmpty &&
        weighted.any (·.theme_id == self.configuration.default_theme_id) then
      self.decision self.configuration.default_theme_id .DefaultTheme none
    else
      let without_recent := without_recent weighted context.recent_theme_ids
      let candidates := if without_recent.isEmpty then weighted else without_recent
      let reason :=
        if uses_color_only then .ColorForce
        else if matching_prefer then .ColorPrefer
        else .Rotation
      let decision := match track.color with
        | none => 0x005448454d45
        | some color => color.rgb_u32.toUInt64 ^^^ 0x005448454d45
      do
        let selected ← self.weighted_choice seed decision candidates
        self.decision selected reason
          (if uses_color_only || matching_prefer then track.color.map TrackColor.rgb_u32 else none)

/-- The end of `select_initial_theme`: a theme that was not shown lately, or the default. -/
def select_rotation_theme (seed : UInt64) (context : ThemeSelectionContext) :
    Outcome PlannerError ThemeDecision :=
  let default_theme := self.decision self.configuration.default_theme_id .DefaultTheme none
  if context.recent_theme_ids.isEmpty then default_theme
  else
    let candidates := self.configuration.themes.filter (·.id ∉ context.recent_theme_ids)
    match self.choice_source seed 0x005448454d45 candidates.length with
    | none => default_theme
    | some index => do
      let candidate ← vec_index candidates index
      self.decision candidate.id .Rotation none

def select_initial_theme (track : PlannerTrack) (seed : UInt64) (context : ThemeSelectionContext) :
    Outcome PlannerError ThemeDecision :=
  match self.configuration.global_theme_lock with
  | some theme_id => self.decision theme_id .GlobalLock none
  | none =>
    if ¬ self.configuration.theme_selection_rules.isEmpty then
      self.select_policy_theme track seed context
    else
      match track.color.bind
          (self.select_color_theme seed · context [.Force, .Prefer]) with
      | some selected => selected
      | none => self.select_rotation_theme seed context

end DeterministicPlanner

/-! ## Plans -/

/-- The loop of `analysis_is_complete`. -/
def phrases_are_complete (duration_beats : UInt32) : Nat → UInt32 → List TrackPhrase → Bool
  | _, previous_end, [] => previous_end == duration_beats
  | expected_index, previous_end, phrase :: phrases =>
    if phrase.index.toNat ≠ expected_index ∨ phrase.start_beat ≠ previous_end ∨
        phrase.end_beat ≤ phrase.start_beat ∨ phrase.end_beat > duration_beats then false
    else phrases_are_complete duration_beats (expected_index + 1) phrase.end_beat phrases

def analysis_is_complete (phrases : List TrackPhrase) (duration_beats : UInt32) : Bool :=
  if phrases.isEmpty then false else phrases_are_complete duration_beats 0 0 phrases

def category_for : PhraseKind → SceneCategory
  | .Intro | .Outro => .Ambient
  | .Verse => .Groove
  | .Build => .Build
  | .Drop => .Impact
  | .Breakdown => .Break

/-- The id of the cue for the phrase with the index. -/
def cue_id (plan_id : PlanId) (index : UInt16) : CueId :=
  ⟨nonzero (mix (plan_id.value ^^^ (index.toUInt64 + 1)))⟩

def ensure_ready (plan : LightingPlan) : Outcome PlanMutationError Unit :=
  if plan.status = .Ready then .ok () else .err .FallbackPlanNotEditable

def cue_category (cue : LightingCue) : Except PlanMutationError SceneCategory :=
  match cue.reason with
  | .PhraseCategoryMatched _ category => .ok category
  | .MissingPhraseAnalysis => .error .FallbackPlanNotEditable
  | .MissingAutoloopMapping => .error .FallbackPlanNotEditable

/-- The cue with its look in another theme. -/
def themed_cue (theme : ThemeDefinition) (origin : CueOrigin) (cue : LightingCue) :
    Outcome PlanMutationError LightingCue :=
  match cue.action with
  | .ApplyLook look => do
    let revised ← Outcome.lift .InvalidPlan (LightingLook.try_new theme.id theme.name look.scene_id
      look.scene_name look.category look.loop_selection)
    .ok (cue.revised (.ApplyLook revised) origin cue.locked)
  | .HoldCurrentLook => .err .FallbackPlanNotEditable

namespace DeterministicPlanner

/-- The closure of `plan_analyzed_phrases`: the cue of one phrase. -/
def plan_phrase (self : DeterministicPlanner) (seed : UInt64) (plan_id : PlanId)
    (theme : ThemeDefinition) (phrase : TrackPhrase) : Outcome PlannerError LightingCue := do
  let category := category_for phrase.kind
  let candidates := self.configuration.scenes.filter (·.category = category)
  let scene_index ← Outcome.ok_or
    (self.choice_source seed (phrase.index.toUInt64 + 1) candidates.length)
    (.MissingSceneCategory category)
  let scene ← vec_index candidates scene_index
  let look ← Outcome.lift .InvalidPlan (LightingLook.try_new theme.id theme.name scene.id scene.name
    scene.category scene.loop_selection)
  .ok (.new (cue_id plan_id phrase.index) phrase.index phrase.start_beat phrase.end_beat
    (.ApplyLook look) .Automatic (.PhraseCategoryMatched phrase.kind category))

def plan_analyzed_phrases (self : DeterministicPlanner) (seed : UInt64) (plan_id : PlanId)
    (phrases : List TrackPhrase) (theme : ThemeDefinition) :
    Outcome PlannerError (List LightingCue) :=
  Outcome.collect (self.plan_phrase seed plan_id theme) phrases

def seed_of (self : DeterministicPlanner) (input : PlanningInput) : UInt64 :=
  stable_seed input.track.id self.configuration.revision

def plan_id_of (self : DeterministicPlanner) (input : PlanningInput) : PlanId :=
  ⟨nonzero (mix (self.seed_of input ^^^ input.track_load_id.value))⟩

/-- The theme decision and the cues of `generate_with_context`. -/
def plan_cues (self : DeterministicPlanner) (input : PlanningInput)
    (context : ThemeSelectionContext) :
    Outcome PlannerError (Option ThemeDecision × List LightingCue) :=
  let seed := self.seed_of input
  let plan_id := self.plan_id_of input
  match input.track.phrases.filter (analysis_is_complete · input.track.duration_beats) with
  | some phrases => do
    let decision ← self.select_initial_theme input.track seed context
    let theme ← Outcome.ok_or (self.theme decision.theme_id)
      (.UnknownConfiguredTheme decision.theme_id)
    let cues ← self.plan_analyzed_phrases seed plan_id phrases theme
    .ok (some decision, cues)
  | none =>
    .ok (none, [.new ⟨nonzero (mix plan_id.value)⟩ 0 0 input.track.duration_beats .HoldCurrentLook
      .Fallback .MissingPhraseAnalysis])

def generate_with_context (self : DeterministicPlanner) (input : PlanningInput)
    (context : ThemeSelectionContext) : Outcome PlannerError LightingPlan :=
  if input.track.duration_beats = 0 then .err .EmptyTrackDuration
  else do
    let (theme_decision, cues) ← self.plan_cues input context
    let status := if cues.any (·.origin == .Fallback) then .Fallback else .Ready
    .lift .InvalidPlan (LightingPlan.try_new_with_theme_decision (self.plan_id_of input)
      input.deck_id input.track.id input.track.duration_beats input.track_load_id
      PlanRevision.initial self.configuration.revision (self.seed_of input) status theme_decision
      cues)

def generate (self : DeterministicPlanner) (input : PlanningInput) :
    Outcome PlannerError LightingPlan :=
  self.generate_with_context input .default

/-! ## Edits -/

def select_theme (self : DeterministicPlanner) (current : LightingPlan) (theme_id : ThemeId) :
    Outcome PlanMutationError LightingPlan := do
  ensure_ready current
  let theme ← Outcome.ok_or (self.theme theme_id) (.UnknownTheme theme_id)
  let changed := current.theme_decision.all fun decision =>
    decision.theme_id ≠ theme.id ∨ decision.reason ≠ .PlanInstanceUserChoice
  let cues ← Outcome.collect (themed_cue theme .User) current.cues
  if !changed then .err .NoChange
  else
    let decision ← Outcome.lift .InvalidPlan
      (ThemeDecision.try_new theme.id theme.name .PlanInstanceUserChoice none)
    .lift .InvalidPlan (current.revised_with_theme_decision cues (some decision))

def select_theme_from_phrase (self : DeterministicPlanner) (current : LightingPlan)
    (phrase_index : UInt16) (theme_id : ThemeId) : Outcome PlanMutationError LightingPlan :=
  if phrase_index = 0 then self.select_theme current theme_id
  else do
    ensure_ready current
    let theme ← Outcome.ok_or (self.theme theme_id) (.UnknownTheme theme_id)
    if current.cues[phrase_index.toNat]? = none then .err (.UnknownPhrase phrase_index)
    else
      let changed := current.cues.any fun cue => !(cue.phrase_index < phrase_index) &&
        match cue.action with
        | .ApplyLook look => look.theme_id != theme.id
        | .HoldCurrentLook => false
      let cues ← Outcome.collect (fun cue =>
        if cue.phrase_index < phrase_index then .ok cue else themed_cue theme .User cue)
        current.cues
      if !changed then .err .NoChange
      else .lift .InvalidPlan (current.revised cues)

def select_scene (self : DeterministicPlanner) (current : LightingPlan) (phrase_index : UInt16)
    (scene_id : SceneId) : Outcome PlanMutationError LightingPlan := do
  ensure_ready current
  let selected_scene ← Outcome.ok_or (self.configuration.scenes.find? (·.id = scene_id))
    (.UnknownScene scene_id)
  let target ← Outcome.ok_or current.cues[phrase_index.toNat]? (.UnknownPhrase phrase_index)
  let expected_category ← Outcome.lift id (cue_category target)
  if selected_scene.category ≠ expected_category then
    .err (.SceneCategoryMismatch expected_category selected_scene.category)
  else match target.action with
    | .HoldCurrentLook => .err .FallbackPlanNotEditable
    | .ApplyLook current_look =>
      if current_look.scene_id = selected_scene.id then .err .NoChange
      else do
        let look ← Outcome.lift .InvalidPlan (LightingLook.try_new current_look.theme_id
          current_look.theme_name selected_scene.id selected_scene.name selected_scene.category
          selected_scene.loop_selection)
        let cues ← vec_set current.cues phrase_index.toNat
          (target.revised (.ApplyLook look) .User target.locked)
        .lift .InvalidPlan (current.revised cues)

def set_cue_lock (_self : DeterministicPlanner) (current : LightingPlan) (phrase_index : UInt16)
    (locked : Bool) : Outcome PlanMutationError LightingPlan := do
  ensure_ready current
  let target ← Outcome.ok_or current.cues[phrase_index.toNat]? (.UnknownPhrase phrase_index)
  if target.locked = locked then .err .NoChange
  else
    let cues ← vec_set current.cues phrase_index.toNat (target.revised target.action .User locked)
    .lift .InvalidPlan (current.revised cues)

def retheme_generated (self : DeterministicPlanner) (generated : LightingPlan)
    (theme_id : ThemeId) : Outcome PlanMutationError LightingPlan := do
  let theme ← Outcome.ok_or (self.theme theme_id) (.UnknownTheme theme_id)
  let cues ← Outcome.collect (fun cue => themed_cue theme cue.origin cue) generated.cues
  let decision ← Outcome.lift .InvalidPlan
    (ThemeDecision.try_new theme.id theme.name .PlanInstanceUserChoice none)
  .lift .InvalidPlan (LightingPlan.try_new_with_theme_decision generated.id generated.deck_id
    generated.track_id generated.track_duration_beats generated.track_load_id generated.revision
    generated.configuration_revision generated.seed generated.status (some decision) cues)

/-- The first part of `regenerate`: the plan as it is generated anew, in the theme that the user
chose for the plan. -/
def generate_again (self : DeterministicPlanner) (current : LightingPlan) (input : PlanningInput) :
    Outcome PlanMutationError LightingPlan := do
  let generated ← Outcome.map_err .Planner (self.generate input)
  match current.theme_decision.filter (·.reason = .PlanInstanceUserChoice) with
  | some decision => self.retheme_generated generated decision.theme_id
  | none => .ok generated

/-- The closure of `regenerate`: a locked cue that still fits takes the place of the new one. -/
def keep_locked (current : LightingPlan) (generated_cue : LightingCue) : LightingCue :=
  match current.cues[generated_cue.phrase_index.toNat]?.filter (·.locked) with
  | none => generated_cue
  | some locked =>
    if locked.start_beat = generated_cue.start_beat ∧ locked.end_beat = generated_cue.end_beat ∧
        (cue_category locked).toOption = (cue_category generated_cue).toOption then locked
    else generated_cue

def regenerate (self : DeterministicPlanner) (current : LightingPlan) (input : PlanningInput) :
    Outcome PlanMutationError LightingPlan := do
  ensure_ready current
  if current.deck_id ≠ input.deck_id ∨ current.track_load_id ≠ input.track_load_id ∨
      current.track_id ≠ input.track.id then .err .TrackLoadMismatch
  else
    let generated ← self.generate_again current input
    let cues := generated.cues.map (keep_locked current)
    .lift .InvalidPlan (current.revised_with_theme_decision cues generated.theme_decision)

end DeterministicPlanner

/-! ## Runs of edits -/

/-- The calls that revise a plan. -/
inductive PlanEdit where
  | SelectTheme (theme_id : ThemeId)
  | SelectThemeFromPhrase (phrase_index : UInt16) (theme_id : ThemeId)
  | SelectScene (phrase_index : UInt16) (scene_id : SceneId)
  | SetCueLock (phrase_index : UInt16) (locked : Bool)
  | Regenerate (input : PlanningInput)

namespace DeterministicPlanner

def apply (self : DeterministicPlanner) (current : LightingPlan) :
    PlanEdit → Outcome PlanMutationError LightingPlan
  | .SelectTheme theme_id => self.select_theme current theme_id
  | .SelectThemeFromPhrase phrase_index theme_id =>
    self.select_theme_from_phrase current phrase_index theme_id
  | .SelectScene phrase_index scene_id => self.select_scene current phrase_index scene_id
  | .SetCueLock phrase_index locked => self.set_cue_lock current phrase_index locked
  | .Regenerate input => self.regenerate current input

/-- The edits of a plan, one after the other. A refused edit leaves the plan as it was. -/
def editor (self : DeterministicPlanner) (plan : LightingPlan) :
    replay.Machine LightingPlan PlanEdit (Option PlanMutationError) LightingPlan where
  start := plan
  reduce := fun current edit => (self.apply current edit).accepted
  next := id

/-- The plans that edits make of a plan generated for the input. -/
def Reaches (self : DeterministicPlanner) (input : PlanningInput) (plan : LightingPlan) : Prop :=
  ∃ context generated, self.generate_with_context input context = .ok generated ∧
    (self.editor generated).Reachable plan

end DeterministicPlanner

end lumi_planner
