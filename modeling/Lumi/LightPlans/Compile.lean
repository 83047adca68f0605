-- The compiler of light plans: it gives each phrase one of the AutoLoops that
-- the theme maps for its role, adds the modifiers, and tries other seeds when
-- the plan as a whole was made lately.
import Lumi.LightPlans.Policy

open rust

namespace lumi_light_plans

/-! ## Hashes -/

def stable_text_hash (value : String) : UInt64 :=
  value.toUTF8.toList.foldl
    (fun hash byte => (hash ^^^ byte.toUInt64) * 0x00000100000001b3) 0xcbf29ce484222325

def stable_mix (value : UInt64) : UInt64 :=
  let value := value ^^^ (value >>> 30)
  let value := value * 0xbf58476d1ce4e5b9
  let value := value ^^^ (value >>> 27)
  let value := value * 0x94d049bb133111eb
  value ^^^ (value >>> 31)

/-! ## What the compiler is asked -/

structure Candidate where
  theme_id : UInt64
  role_id : String
  variant_id : String
  entry_id : String
  display_name : String
  autoloop_number : UInt16
deriving DecidableEq

inductive PhraseSelection where
  | Automatic
  | FixedVariant (variant_id : String)
  | PlanOverride (variant_id : String)
deriving DecidableEq

def PhraseSelection.requested : PhraseSelection → Option String
  | Automatic => none
  | FixedVariant id => some id
  | PlanOverride id => some id

structure PhraseRequest where
  phrase_index : UInt16
  role_id : String
  selection : PhraseSelection
deriving DecidableEq

/-- What stays the same from one seed to the next. -/
structure Compilation where
  policy : LightPlanningPolicy
  theme_id : UInt64
  track_color_rgb : Option UInt32
  phrases : List PhraseRequest
  candidates : List Candidate
deriving DecidableEq

/-! ## One AutoLoop for a phrase -/

/-- The loop that moves a cursor over the weights until it is past the roll. -/
def weighted_pick {α : Type} (weight : α → UInt64) (roll : UInt64) : UInt64 → List α → Option α
  | _, [] => none
  | cursor, a :: l =>
    let cursor := saturating_add cursor (weight a)
    if roll < cursor then some a else weighted_pick weight roll cursor l

/-- The element that the roll falls on, and the first one when it falls on none. -/
def weighted_select {α : Type} (weight : α → UInt64) (roll : UInt64) (first : α) (rest : List α) :
    α :=
  (weighted_pick weight roll 0 (first :: rest)).getD first

def total_weight {α : Type} (weight : α → UInt64) (l : List α) : UInt64 :=
  l.foldl (fun total a => total + weight a) 0

namespace Compilation

variable (self : Compilation) (role_id : String)

/-- The AutoLoops that the theme maps for the role. -/
def mapped : List Candidate :=
  self.candidates.filter fun candidate =>
    candidate.theme_id = self.theme_id ∧ candidate.role_id = role_id

variable (candidate : Candidate)

def rule_of : Option AutoloopRule :=
  self.policy.rule_for self.theme_id role_id candidate.variant_id

def matching_color_only : Bool :=
  (self.rule_of role_id candidate).any fun rule =>
    rule.color_behavior == .Only && color_matches self.track_color_rgb rule.color_rgb

/-- The mapped AutoLoops that no rule disables, and of these the ones for the color of the track
alone when there are any, and none for another color. -/
def allowed : List Candidate :=
  let eligible := (self.mapped role_id).filter fun candidate =>
    (self.rule_of role_id candidate).all (·.enabled)
  let matching_only := eligible.filter (self.matching_color_only role_id)
  if !matching_only.isEmpty then matching_only
  else eligible.filter fun candidate =>
    (self.rule_of role_id candidate).all (·.color_behavior != .Only)

/-- The allowed AutoLoops without the ones that were used lately, unless that leaves none. -/
def unrepeated (history : VariationHistory) (local_uses : List String) (role_id : String) :
    List Candidate × Bool :=
  let cooldown := self.policy.autoloop_cooldown_uses.toNat
  let history_recent := history.recent_variants role_id cooldown
  let local_recent := local_uses.reverse.take cooldown
  let fresh := (self.allowed role_id).filter fun candidate =>
    candidate.variant_id ∉ history_recent ∧ candidate.variant_id ∉ local_recent
  if fresh.isEmpty then (self.allowed role_id, true) else (fresh, false)

def is_preferred : Bool :=
  (self.rule_of role_id candidate).any fun rule =>
    rule.color_behavior == .Prefer && color_matches self.track_color_rgb rule.color_rgb

/-- The weight of a candidate. Twice a weight from 1 to 4 needs no saturation. -/
def weight_of : UInt64 :=
  let base := ((self.rule_of role_id candidate).map AutoloopRule.effective_weight).getD
    DEFAULT_SELECTION_WEIGHT
  (if self.is_preferred role_id candidate then base * 2 else base).toUInt64

def automatic_evidence (selected : Candidate) (repeat_relaxed : Bool) : SelectionEvidence where
  reason :=
    if self.matching_color_only role_id selected then "track color only"
    else if self.is_preferred role_id selected then "track color preferred weighted variation"
    else "weighted variation"
  effective_weight := (self.weight_of role_id selected).toUInt8
  color_influence :=
    if self.is_preferred role_id selected then "prefer match"
    else if self.matching_color_only role_id selected then "only match"
    else "neutral"
  repeat_protection :=
    if repeat_relaxed then "oldest constraint relaxed; Phrase Role preserved"
    else "recent variants excluded"

def explicit_evidence (selection : PhraseSelection) : SelectionEvidence where
  reason := match selection with
    | .PlanOverride _ => "plan override"
    | _ => "track fixed variant"
  effective_weight := 4
  color_influence := "not evaluated for explicit choice"
  repeat_protection := "explicit choice takes precedence"

/-- The automatic choice for a phrase, out of what the history leaves. -/
def roll (variation_seed : UInt64) (history : VariationHistory) (local_uses : List String)
    (phrase : PhraseRequest) : Option (Candidate × SelectionEvidence) :=
  let (eligible, repeat_relaxed) := self.unrepeated history local_uses phrase.role_id
  match eligible with
  | [] => none
  | first :: rest =>
    let weight := self.weight_of phrase.role_id
    let roll := stable_mix (variation_seed ^^^ phrase.phrase_index.toUInt64 ^^^
      stable_text_hash phrase.role_id ^^^ self.policy.revision) %
      max (total_weight weight (first :: rest)) 1
    let selected := weighted_select weight roll first rest
    some (selected, self.automatic_evidence phrase.role_id selected repeat_relaxed)

/-- One turn of the loop over the phrases: the AutoLoop of the phrase, or none for a phrase whose
role has no AutoLoop that it may use. -/
def select (variation_seed : UInt64) (history : VariationHistory) (local_uses : List String)
    (phrase : PhraseRequest) :
    Outcome LightPlanError (Option (Candidate × SelectionEvidence)) :=
  if (self.mapped phrase.role_id).isEmpty then .ok none
  else match phrase.selection.requested with
    | some variant_id =>
      match (self.mapped phrase.role_id).find? (·.variant_id = variant_id) with
      | none => .err (.MissingVariant phrase.role_id variant_id)
      | some selected => .ok (some (selected, explicit_evidence phrase.selection))
    | none => .ok (self.roll variation_seed history local_uses phrase)

def choice (phrase : PhraseRequest) (selected : Candidate) (evidence : SelectionEvidence) :
    CompiledAutoloopChoice where
  phrase_index := phrase.phrase_index
  role_id := phrase.role_id
  variant_id := selected.variant_id
  entry_id := selected.entry_id
  display_name := selected.display_name
  autoloop_number := selected.autoloop_number
  evidence := evidence

/-- The loop over the phrases, with the variants that each role has used so far. -/
def select_all (variation_seed : UInt64) (history : VariationHistory) :
    BTreeMap String (List String) → List PhraseRequest →
      Outcome LightPlanError (List CompiledAutoloopChoice)
  | _, [] => .ok []
  | local_role_choices, phrase :: phrases => do
    match ← self.select variation_seed history (local_role_choices[phrase.role_id]?.getD []) phrase
      with
    | none => select_all variation_seed history local_role_choices phrases
    | some (selected, evidence) =>
      let choices ← select_all variation_seed history
        (push_under local_role_choices phrase.role_id selected.variant_id) phrases
      .ok (choice phrase selected evidence :: choices)

end Compilation

/-! ## Modifiers -/

def ModifierKind.salt : ModifierKind → UInt64
  | Atmosphere => 0xa7105001
  | Color => 0xc0107002

/-- The loop over the phrases for one kind of modifier: the choice that a whole-track rule
carries on, and the modifiers used so far. -/
structure ModifierLoop where
  choices : List CompiledModifierChoice
  carried : Option CompiledModifierChoice
  local_uses : List String

namespace Compilation

variable (self : Compilation) (variation_seed : UInt64)

variable (history : VariationHistory)

/-- The ready modifiers of the kind with a rule for the role, past their cooldown, for the color
of the track, that the application rate lets through. -/
def eligible_modifiers (kind : ModifierKind) (local_uses : List String) (phrase : PhraseRequest) :
    List (OutputModifier × ModifierRule) :=
  let eligible := self.policy.modifier_rules.filterMap fun rule =>
    (self.policy.modifiers.find? fun modifier =>
      modifier.id = rule.modifier_id ∧ modifier.kind = kind ∧
        modifier.automatic_execution_ready).bind
    fun modifier => if rule.role_id = phrase.role_id then some (modifier, rule) else none
  let eligible := eligible.filter fun (modifier, rule) =>
    modifier.id ∉ history.recent_modifiers rule.cooldown_uses.toNat ∧
      modifier.id ∉ local_uses.reverse.take rule.cooldown_uses.toNat
  let matching_only := eligible.filter fun (_, rule) =>
    rule.color_behavior == .Only && color_matches self.track_color_rgb rule.color_rgb
  let eligible :=
    if matching_only.isEmpty then eligible.filter fun (_, rule) => rule.color_behavior != .Only
    else matching_only
  eligible.filter fun (modifier, rule) =>
    rule.application_rate ≠ 0 ∧
      stable_mix (variation_seed ^^^ phrase.phrase_index.toUInt64 ^^^
        stable_text_hash modifier.id ^^^ self.policy.revision ^^^ 0x4d4f444946494552) % 100 <
          rule.application_rate.toUInt64

def modifier_preferred (rule : ModifierRule) : Bool :=
  rule.color_behavior == .Prefer && color_matches self.track_color_rgb rule.color_rgb

def modifier_weight (rule : ModifierRule) : UInt8 :=
  if self.modifier_preferred rule then clamp_weight rule.selection_weight * 2
  else clamp_weight rule.selection_weight

def modifier_choice (kind : ModifierKind) (phrase : PhraseRequest) (modifier : OutputModifier)
    (rule : ModifierRule) : CompiledModifierChoice where
  phrase_index := phrase.phrase_index
  role_id := phrase.role_id
  modifier_id := modifier.id
  kind := kind
  scope := rule.scope
  display_name := modifier.display_name
  provider_kind := modifier.provider_kind
  midi_channel := modifier.midi_channel
  midi_note := modifier.midi_note
  evidence :=
    { reason := match rule.scope with
        | .Phrase => "application rate selected phrase modifier"
        | .Track => "application rate selected whole-track modifier"
      effective_weight := self.modifier_weight rule
      color_influence :=
        if self.modifier_preferred rule then "prefer match"
        else if rule.color_behavior = .Only then "only match"
        else "neutral"
      repeat_protection := "modifier cooldown satisfied" }

def modifier_turn (kind : ModifierKind) (turn : ModifierLoop) (phrase : PhraseRequest) :
    ModifierLoop :=
  match turn.carried with
  | some active =>
    { turn with
      choices := turn.choices ++ [{ active with
        phrase_index := phrase.phrase_index
        role_id := phrase.role_id
        evidence := { active.evidence with reason := "whole-track modifier continued" } }] }
  | none =>
    match self.eligible_modifiers variation_seed history kind turn.local_uses phrase with
    | [] => turn
    | first :: rest =>
      let weight := fun entry : OutputModifier × ModifierRule =>
        (self.modifier_weight entry.2).toUInt64
      let roll := stable_mix (variation_seed ^^^ phrase.phrase_index.toUInt64 ^^^
        self.policy.revision ^^^ kind.salt) % max (total_weight weight (first :: rest)) 1
      let (modifier, rule) := weighted_select weight roll first rest
      let choice := self.modifier_choice kind phrase modifier rule
      { choices := turn.choices ++ [choice]
        carried := if rule.scope = .Track then some choice else none
        local_uses := turn.local_uses ++ [modifier.id] }

/-- The order of the modifier choices: by phrase, and the atmosphere before the color. -/
def modifier_le (a b : CompiledModifierChoice) : Bool :=
  a.phrase_index < b.phrase_index ||
    a.phrase_index == b.phrase_index && (a.kind == .Atmosphere || b.kind == .Color)

def compile_modifiers : List CompiledModifierChoice :=
  ([ModifierKind.Atmosphere, ModifierKind.Color].flatMap fun kind =>
    (self.phrases.foldl (self.modifier_turn variation_seed history kind)
      ⟨[], none, []⟩).choices).insertionSort (modifier_le · ·)

/-! ## The plan -/

/-- The signature of what the plan shows. -/
def signature (choices : List CompiledAutoloopChoice)
    (modifier_choices : List CompiledModifierChoice) : UInt64 :=
  let signature := choices.foldl (fun signature choice =>
    stable_mix (signature ^^^ stable_text_hash choice.variant_id)) (stable_mix self.theme_id)
  self.phrases.foldl (fun signature phrase =>
    [ModifierKind.Atmosphere, ModifierKind.Color].foldl (fun signature kind =>
      let selected := modifier_choices.find? fun choice =>
        choice.phrase_index = phrase.phrase_index ∧ choice.kind = kind
      stable_mix (signature ^^^
        (selected.map fun choice => stable_text_hash choice.modifier_id).getD 0 ^^^ kind.salt))
      signature) signature

/-- The plan of one seed. -/
def compile_once : Outcome LightPlanError CompiledLightPlan := do
  Outcome.lift id self.policy.validate
  let choices ← self.select_all variation_seed history ∅ self.phrases
  let modifier_choices := self.compile_modifiers variation_seed history
  .ok
    { policy_revision := self.policy.revision
      variation_seed
      theme_id := self.theme_id
      choices, modifier_choices
      signature := self.signature choices modifier_choices }

/-- The loop over the retries: the first plan whose signature is not a recent one. -/
def first_fresh (attempt : UInt64 → Outcome LightPlanError CompiledLightPlan)
    (recent_signatures : List UInt64) :
    List UInt64 → Outcome LightPlanError (Option CompiledLightPlan)
  | [] => .ok none
  | retry :: retries => do
    let alternative ← attempt retry
    if alternative.signature ∉ recent_signatures then .ok (some alternative)
    else first_fresh attempt recent_signatures retries

/-- The retries `1..=32`. -/
def retries : List UInt64 := (List.range 32).map fun retry => UInt64.ofNat (retry + 1)

/-- The compiler calls itself for each retry. The first argument is the depth that the stack
still allows; without any the call ends the program. -/
def compile : Nat → UInt64 → VariationHistory → Outcome LightPlanError CompiledLightPlan
  | 0, _, _ => .panicked
  | depth + 1, variation_seed, history => do
    let plan ← self.compile_once variation_seed history
    let recent_signatures := history.recent_signatures self.policy.duplicate_plan_window.toNat
    if plan.signature ∈ recent_signatures then
      let alternative ← first_fresh
        (fun retry => compile depth (variation_seed + retry) history.without_signatures)
        recent_signatures retries
      .ok (alternative.getD plan)
    else .ok plan

end Compilation

end lumi_light_plans
