-- Watermarks: for each sender, the greatest number that came from it. A number
-- at or below the watermark of its sender is a number that was seen, and a
-- number that was seen stays so.
import Lumi.Rust

open rust

namespace watermark

variable {K V : Type} [Ord K] [Std.TransOrd K] [LE V] {m : BTreeMap K V}

/-- The number of the sender is at or below its watermark. -/
def Seen (m : BTreeMap K V) (k : K) (v : V) : Prop :=
  ∃ last : V, m[k]? = some last ∧ v ≤ last

/-- Every number that was seen stays seen. -/
def Keeps (m m' : BTreeMap K V) : Prop := ∀ k v, Seen m k v → Seen m' k v

theorem Keeps.refl (m : BTreeMap K V) : Keeps m m := fun _ _ h => h

theorem Keeps.trans {m' m'' : BTreeMap K V} (h : Keeps m m') (h' : Keeps m' m'') :
    Keeps m m'' := fun k v hv => h' k v (h k v hv)

variable [DecidableEq K] [Std.LawfulEqOrd K] [Std.IsLinearPreorder V]

/-- A number that is noted is seen. -/
theorem seen_insert (m : BTreeMap K V) (k : K) (v : V) : Seen (m.insert k v) k v := by
  refine ⟨v, ?_, Std.IsPreorder.le_refl v⟩
  rw [map_get_insert, if_pos rfl]

/-- To note a new number keeps what was seen. -/
theorem keeps_insert {k : K} {v : V} (h : ¬ Seen m k v) : Keeps m (m.insert k v) := by
  rintro a x ⟨last, hlast, hle⟩
  by_cases hk : k = a
  · subst hk
    -- The new number is above the watermark, and so above what was seen.
    have hv : last ≤ v := by
      rcases Std.IsLinearPreorder.le_total v last with hvl | hlv
      · exact absurd ⟨last, hlast, hvl⟩ h
      · exact hlv
    refine ⟨v, ?_, Std.IsPreorder.le_trans x last v hle hv⟩
    rw [map_get_insert, if_pos rfl]
  · refine ⟨last, ?_, hle⟩
    rw [map_get_insert, if_neg hk]
    exact hlast

end watermark
