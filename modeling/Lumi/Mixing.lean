-- Mixers of 64-bit words. A word xored with its own upper bits can be taken
-- back, and so can a product with an odd factor, so a mixer made of the two
-- gives different words for different words.
import Mathlib.Data.UInt

namespace mixing

/-- The word xored with its upper bits, `s` places down. -/
def xorshift (s x : UInt64) : UInt64 := x ^^^ (x >>> s)

/-- What takes `xorshift` back, when three shifts pass the end of the word. -/
def unshift (s x : UInt64) : UInt64 := x ^^^ (x >>> s) ^^^ (x >>> (s + s))

theorem unshift_xorshift {s : UInt64} (hlow : 22 ≤ s.toNat) (hhigh : s.toNat < 32) (x : UInt64) :
    unshift s (xorshift s x) = x := by
  have hs : s.toNat % 64 = s.toNat := Nat.mod_eq_of_lt (by omega)
  have hss : (s.toNat + s.toNat) % 64 = s.toNat + s.toNat := Nat.mod_eq_of_lt (by omega)
  apply UInt64.toBitVec_inj.mp
  ext i hi
  -- the bits two places up appear twice, those three places up lie past the end
  have hend : x.toBitVec.getLsbD (s.toNat + (s.toNat + (s.toNat + i))) = false :=
    BitVec.getLsbD_of_ge _ _ (by omega)
  simp [unshift, xorshift, hs, hss, hend, Nat.add_assoc]

theorem mul_cancel {a b : UInt64} (h : a * b = 1) (x : UInt64) : x * a * b = x := by
  rw [UInt64.mul_assoc, h, UInt64.mul_one]

end mixing
