-- The identifiers of the domain: numbers that carry a name of their own, so
-- that a deck is never taken for a track. Revisions and times are numbers of
-- the same kind.
import Lumi.Rust

namespace lumi_domain

/-- `numeric_identifier!`: a number under a name of its own. -/
structure NumericIdentifier (name : String) (α : Type) where
  value : α
deriving DecidableEq

namespace NumericIdentifier

variable {name : String} {α : Type}

instance [LE α] : LE (NumericIdentifier name α) := ⟨fun a b => a.value ≤ b.value⟩

instance [LT α] : LT (NumericIdentifier name α) := ⟨fun a b => a.value < b.value⟩

instance [LE α] [DecidableLE α] (a b : NumericIdentifier name α) : Decidable (a ≤ b) :=
  inferInstanceAs (Decidable (a.value ≤ b.value))

instance [LT α] [DecidableLT α] (a b : NumericIdentifier name α) : Decidable (a < b) :=
  inferInstanceAs (Decidable (a.value < b.value))

instance [LE α] [Std.IsLinearPreorder α] : Std.IsLinearPreorder (NumericIdentifier name α) where
  le_refl a := Std.IsPreorder.le_refl a.value
  le_trans a b c := Std.IsPreorder.le_trans a.value b.value c.value
  le_total a b := Std.IsLinearPreorder.le_total a.value b.value

instance [Ord α] : Ord (NumericIdentifier name α) := ⟨fun a b => compare a.value b.value⟩

instance [Ord α] [Std.TransOrd α] : Std.TransOrd (NumericIdentifier name α) where
  eq_swap := @fun a b => @Std.OrientedCmp.eq_swap α compare _ a.value b.value
  isLE_trans := @fun a b c => @Std.TransCmp.isLE_trans α compare _ a.value b.value c.value

instance [Ord α] [Std.LawfulEqOrd α] : Std.LawfulEqOrd (NumericIdentifier name α) where
  compare_self := @fun a => @Std.ReflCmp.compare_self α compare _ a.value
  eq_of_compare {a b} h := by
    cases a
    cases b
    congr
    exact @Std.LawfulEqCmp.eq_of_compare α compare _ _ _ h

theorem value_inj {a b : NumericIdentifier name α} : a.value = b.value ↔ a = b := by
  cases a
  cases b
  simp

end NumericIdentifier

abbrev ClientId := NumericIdentifier "ClientId" UInt64
abbrev CommandSequence := NumericIdentifier "CommandSequence" UInt64
abbrev CueId := NumericIdentifier "CueId" UInt64
abbrev DeckId := NumericIdentifier "DeckId" UInt8
abbrev EffectId := NumericIdentifier "EffectId" UInt64
abbrev EffectSequence := NumericIdentifier "EffectSequence" UInt64
abbrev OutputCommandId := NumericIdentifier "OutputCommandId" UInt64
abbrev PlanId := NumericIdentifier "PlanId" UInt64
abbrev PlanConfigurationRevision := NumericIdentifier "PlanConfigurationRevision" UInt64
abbrev PlanRevision := NumericIdentifier "PlanRevision" UInt64
abbrev SceneId := NumericIdentifier "SceneId" UInt64
abbrev SourceId := NumericIdentifier "SourceId" UInt64
abbrev SourceSequence := NumericIdentifier "SourceSequence" UInt64
abbrev StateRevision := NumericIdentifier "StateRevision" UInt64
abbrev ThemeId := NumericIdentifier "ThemeId" UInt64
abbrev TrackId := NumericIdentifier "TrackId" UInt64
abbrev TrackLoadId := NumericIdentifier "TrackLoadId" UInt64
abbrev WorkerId := NumericIdentifier "WorkerId" UInt64

-- The lists of themes are searched by this one.
instance : LawfulBEq ThemeId := inferInstance

/-- The ticks of a clock that only moves forward. -/
abbrev MonotonicTime := NumericIdentifier "MonotonicTime" UInt64

/-- `checked_next` of a revision. -/
def NumericIdentifier.checked_next {name : String} (revision : NumericIdentifier name UInt64) :
    Option (NumericIdentifier name UInt64) :=
  (rust.checked_add revision.value 1).map NumericIdentifier.mk

def PlanRevision.initial : PlanRevision := ⟨1⟩

def StateRevision.initial : StateRevision := ⟨0⟩

theorem checked_next_eq_some {name : String} {a b : NumericIdentifier name UInt64} :
    a.checked_next = some b ↔ a.value.toNat + 1 = b.value.toNat := by
  cases b
  simp [NumericIdentifier.checked_next, rust.checked_add_eq_some]

theorem checked_next_eq_none {name : String} {a : NumericIdentifier name UInt64} :
    a.checked_next = none ↔ a.value.toNat = 2 ^ 64 - 1 := by
  have := a.value.toNat_lt
  simp only [NumericIdentifier.checked_next, Option.map_eq_none_iff, rust.checked_add_eq_none,
    UInt64.toNat_one]
  omega

end lumi_domain
