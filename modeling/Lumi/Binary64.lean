-- Floating-point numbers as Rust's `f64` has them. Programs take the
-- operations as they come: what is proved about them holds for every
-- arithmetic that rounds as it likes, IEEE 754 among them, and the rational
-- numbers are one that can be evaluated.
import Mathlib

namespace rust

/-- The operations of `f64` that programs use. The one law is about the conversion back: a number
between two integers is converted to an integer between them. -/
class Binary64 (F : Type) where
  /-- A decimal literal, to the nearest number. -/
  literal : ℚ → F
  /-- `f64::from` a `u32`. -/
  of_u32 : UInt32 → F
  /-- `as f64` from a `u64`. -/
  of_u64 : UInt64 → F
  add : F → F → F
  mul : F → F → F
  div : F → F → F
  lt : F → F → Bool
  le : F → F → Bool
  round : F → F
  /-- `as u32`. -/
  as_u32 : F → UInt32
  as_u32_between : ∀ (low high : UInt32) (x : F), le (literal low.toNat) x = true →
    le x (literal high.toNat) = true → low ≤ as_u32 x ∧ as_u32 x ≤ high

/-- The arithmetic that does not round. -/
instance : Binary64 ℚ where
  literal q := q
  of_u32 n := n.toNat
  of_u64 n := n.toNat
  add := (· + ·)
  mul := (· * ·)
  div := (· / ·)
  lt x y := x < y
  le x y := x ≤ y
  round x := if 0 ≤ x then ⌊x + 1 / 2⌋ else ⌈x - 1 / 2⌉
  as_u32 x := UInt32.ofNat (min ⌊x⌋.toNat (2 ^ 32 - 1))
  as_u32_between low high x hlow hhigh := by
    have hl : (low.toNat : ℤ) ≤ ⌊x⌋ := Int.le_floor.mpr (by simpa using hlow)
    have hh : ⌊x⌋ ≤ (high.toNat : ℤ) := by
      have h := Int.floor_mono (of_decide_eq_true hhigh)
      simpa using h
    have hhighlt := high.toNat_lt
    have hval : (UInt32.ofNat (min ⌊x⌋.toNat (2 ^ 32 - 1))).toNat = ⌊x⌋.toNat := by
      rw [UInt32.toNat_ofNat']
      omega
    constructor
    · rw [UInt32.le_iff_toNat_le, hval]
      omega
    · rw [UInt32.le_iff_toNat_le, hval]
      omega

end rust
