-- The light planning policy with its checks, and the history of the plans
-- that were made: what was shown lately, and what is reserved for the tracks
-- that are loaded.
import Lumi.Rust

open rust

namespace lumi_light_plans

def DEFAULT_THEME_COOLDOWN_TRACKS : UInt8 := 1

def DEFAULT_AUTOLOOP_COOLDOWN_USES : UInt8 := 2

def DEFAULT_DUPLICATE_PLAN_WINDOW : UInt8 := 4

def DEFAULT_SELECTION_WEIGHT : UInt8 := 2

def HISTORY_LIMIT : Nat := 32

/-! ## Rules -/

inductive ColorBehavior where
  | Neutral
  | Prefer
  | Only
deriving DecidableEq

inductive ModifierKind where
  | Atmosphere
  | Color
deriving DecidableEq

inductive ModifierScope where
  | Phrase
  | Track
deriving DecidableEq

/-- `selection_weight.clamp(1, 4)`. -/
def clamp_weight (selection_weight : UInt8) : UInt8 := min (max selection_weight 1) 4

structure ThemeRule where
  theme_id : UInt64
  enabled : Bool
  selection_weight : UInt8
  color_behavior : ColorBehavior
  color_rgb : List UInt32
deriving DecidableEq

def ThemeRule.effective_weight (rule : ThemeRule) : UInt8 := clamp_weight rule.selection_weight

structure AutoloopRule where
  theme_id : UInt64
  role_id : String
  variant_id : String
  enabled : Bool
  selection_weight : UInt8
  color_behavior : ColorBehavior
  color_rgb : List UInt32
deriving DecidableEq

def AutoloopRule.effective_weight (rule : AutoloopRule) : UInt8 :=
  clamp_weight rule.selection_weight

/-- The track has a color, and the color is one of these. -/
def color_matches (track_color_rgb : Option UInt32) (color_rgb : List UInt32) : Bool :=
  track_color_rgb.any (· ∈ color_rgb)

structure OutputModifier where
  id : String
  provider_kind : String
  kind : ModifierKind
  display_name : String
  enabled : Bool
  midi_channel : UInt8
  midi_note : UInt8
  activation_verified : Bool
  release_verified : Bool
deriving DecidableEq

def OutputModifier.automatic_execution_ready (modifier : OutputModifier) : Bool :=
  modifier.enabled && modifier.activation_verified && modifier.release_verified

structure ModifierRule where
  modifier_id : String
  role_id : String
  application_rate : UInt8
  selection_weight : UInt8
  cooldown_uses : UInt8
  scope : ModifierScope
  color_behavior : ColorBehavior
  color_rgb : List UInt32
deriving DecidableEq

/-! ## The policy -/

/-- `bank_organization` has one value and is left out. -/
structure LightPlanningPolicy where
  revision : UInt64
  default_theme_id : Option UInt64
  automatic_mid_track_theme_changes : Bool
  theme_rules : List ThemeRule
  theme_cooldown_tracks : UInt8
  autoloop_cooldown_uses : UInt8
  duplicate_plan_window : UInt8
  rules : List AutoloopRule
  modifiers : List OutputModifier
  modifier_rules : List ModifierRule
deriving DecidableEq

inductive LightPlanError where
  | InvalidRevision
  | InvalidThemeRule
  | DuplicateThemeRule
  | InvalidDefaultTheme
  | NoEnabledTheme
  | AutomaticMidTrackThemeChangesUnsupported
  | InvalidRule
  | InvalidWeight
  | DuplicateRule
  | InvalidModifier
  | DuplicateModifier
  | InvalidModifierRule
  | MissingVariant (role_id variant_id : String)
deriving DecidableEq

/-- `(1..=4).contains(&weight)`. -/
def weight_in_range (weight : UInt8) : Bool := 1 ≤ weight && weight ≤ 4

namespace LightPlanningPolicy

def default : LightPlanningPolicy where
  revision := 1
  default_theme_id := none
  automatic_mid_track_theme_changes := false
  theme_rules := []
  theme_cooldown_tracks := DEFAULT_THEME_COOLDOWN_TRACKS
  autoloop_cooldown_uses := DEFAULT_AUTOLOOP_COOLDOWN_USES
  duplicate_plan_window := DEFAULT_DUPLICATE_PLAN_WINDOW
  rules := []
  modifiers := []
  modifier_rules := []

/-- The loops of `validate` that check one rule after the other: a rule that is wrong in itself,
and a rule with a key that an earlier one has. -/
def validate_keyed {ρ κ : Type} [DecidableEq κ] (key : ρ → κ) (invalid : ρ → Option LightPlanError)
    (duplicate : LightPlanError) : List κ → List ρ → Except LightPlanError Unit
  | _, [] => .ok ()
  | keys, rule :: rules =>
    match invalid rule with
    | some error => .error error
    | none =>
      if key rule ∈ keys then .error duplicate
      else validate_keyed key invalid duplicate (key rule :: keys) rules

def validate_theme_rules (rules : List ThemeRule) : Except LightPlanError Unit :=
  validate_keyed ThemeRule.theme_id
    (fun rule => if rule.theme_id = 0 ∨ ¬ weight_in_range rule.selection_weight then
      some .InvalidThemeRule else none)
    .DuplicateThemeRule [] rules

def validate_rules (rules : List AutoloopRule) : Except LightPlanError Unit :=
  validate_keyed (fun rule => (rule.theme_id, rule.role_id, rule.variant_id))
    (fun rule =>
      if rule.theme_id = 0 ∨ is_blank rule.role_id ∨ is_blank rule.variant_id then
        some .InvalidRule
      else if ¬ weight_in_range rule.selection_weight then some .InvalidWeight
      else none)
    .DuplicateRule [] rules

def validate_modifiers (modifiers : List OutputModifier) : Except LightPlanError Unit :=
  validate_keyed OutputModifier.id
    (fun modifier =>
      if is_blank modifier.id ∨ is_blank modifier.display_name ∨
          ¬ (1 ≤ modifier.midi_channel ∧ modifier.midi_channel ≤ 16) then
        some .InvalidModifier
      else none)
    .DuplicateModifier [] modifiers

def validate (self : LightPlanningPolicy) : Except LightPlanError Unit := do
  if self.revision = 0 then throw .InvalidRevision
  if self.automatic_mid_track_theme_changes then throw .AutomaticMidTrackThemeChangesUnsupported
  validate_theme_rules self.theme_rules
  let theme_ids := self.theme_rules.map ThemeRule.theme_id
  if self.default_theme_id.any fun theme_id =>
      theme_id == 0 || !theme_ids.isEmpty && !(theme_ids.contains theme_id) then
    throw .InvalidDefaultTheme
  if !self.theme_rules.isEmpty && !(self.theme_rules.any ThemeRule.enabled) then
    throw .NoEnabledTheme
  validate_rules self.rules
  validate_modifiers self.modifiers
  if self.modifier_rules.any fun rule =>
      !(self.modifiers.any (·.id == rule.modifier_id)) || is_blank rule.role_id ||
        rule.application_rate > 100 || !weight_in_range rule.selection_weight then
    throw .InvalidModifierRule

def rule_for (self : LightPlanningPolicy) (theme_id : UInt64) (role_id variant_id : String) :
    Option AutoloopRule :=
  self.rules.find? fun rule =>
    rule.theme_id = theme_id ∧ rule.role_id = role_id ∧ rule.variant_id = variant_id

end LightPlanningPolicy

/-! ## Compiled plans -/

structure SelectionEvidence where
  reason : String
  effective_weight : UInt8
  color_influence : String
  repeat_protection : String
deriving DecidableEq

structure CompiledAutoloopChoice where
  phrase_index : UInt16
  role_id : String
  variant_id : String
  entry_id : String
  display_name : String
  autoloop_number : UInt16
  evidence : SelectionEvidence
deriving DecidableEq

structure CompiledModifierChoice where
  phrase_index : UInt16
  role_id : String
  modifier_id : String
  kind : ModifierKind
  scope : ModifierScope
  display_name : String
  provider_kind : String
  midi_channel : UInt8
  midi_note : UInt8
  evidence : SelectionEvidence
deriving DecidableEq

structure CompiledLightPlan where
  policy_revision : UInt64
  variation_seed : UInt64
  theme_id : UInt64
  choices : List CompiledAutoloopChoice
  modifier_choices : List CompiledModifierChoice
  signature : UInt64
deriving DecidableEq

/-! ## The history -/

structure PlanHistoryEntry where
  theme_id : UInt64
  signature : UInt64
  by_role : BTreeMap String (List String)
  modifiers : List String

/-- The modifiers of a plan: each choice for a phrase, and a choice for the whole track once. -/
def used_modifiers : List String → List CompiledModifierChoice → List String
  | _, [] => []
  | track_modifiers, choice :: choices =>
    if choice.scope = .Phrase then choice.modifier_id :: used_modifiers track_modifiers choices
    else if choice.modifier_id ∈ track_modifiers then used_modifiers track_modifiers choices
    else choice.modifier_id :: used_modifiers (choice.modifier_id :: track_modifiers) choices

/-- `entry(key).or_default().push(value)`. -/
def push_under (map : BTreeMap String (List String)) (key value : String) :
    BTreeMap String (List String) :=
  map.insert key (map[key]?.getD [] ++ [value])

def history_entry (plan : CompiledLightPlan) : PlanHistoryEntry where
  theme_id := plan.theme_id
  signature := plan.signature
  by_role := plan.choices.foldl (fun by_role choice =>
    push_under by_role choice.role_id choice.variant_id) ∅
  modifiers := used_modifiers [] plan.modifier_choices

structure VariationHistory where
  committed : List PlanHistoryEntry
  reserved : BTreeMap String PlanHistoryEntry

namespace VariationHistory

def default : VariationHistory := ⟨[], ∅⟩

variable (self : VariationHistory) (reservation_id : String)

def reserve (plan : CompiledLightPlan) : VariationHistory :=
  { self with reserved := self.reserved.insert reservation_id (history_entry plan) }

def release : VariationHistory :=
  { self with reserved := self.reserved.erase reservation_id }

def commit : VariationHistory :=
  match self.reserved[reservation_id]? with
  | none => self
  | some entry =>
    let committed := self.committed ++ [entry]
    { committed := committed.drop (committed.length - HISTORY_LIMIT)
      reserved := self.reserved.erase reservation_id }

/-- The entries in the order in which the protections look at them: the committed ones from the
last to the first, then the reserved ones from the greatest name to the least. -/
def entries : List PlanHistoryEntry :=
  self.committed.reverse ++ (self.reserved.toList.map Prod.snd).reverse

def recent_variants (role_id : String) (limit : Nat) : List String :=
  (self.entries.flatMap fun entry => (entry.by_role[role_id]?.getD []).reverse).take limit

def recent_signatures (limit : Nat) : List UInt64 :=
  (self.entries.take limit).map PlanHistoryEntry.signature

def recent_modifiers (limit : Nat) : List String :=
  (self.entries.flatMap fun entry => entry.modifiers.reverse).take limit

def without_signatures : VariationHistory where
  committed := self.committed.map fun entry => { entry with signature := 0 }
  reserved := self.reserved.map fun _ entry => { entry with signature := 0 }

end VariationHistory

end lumi_light_plans
