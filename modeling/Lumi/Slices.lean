-- Slices of bytes as Rust reads them: indices of the width of a pointer,
-- ranges that panic and ranges that are asked for, words of two bytes as
-- text, and loops that turn while a condition holds.
import Lumi.Rust

namespace rust

variable {ε α σ : Type}

/-! ## Indices -/

/-- `a + b` for `usize`. -/
def usize_add (a b : Nat) : Outcome ε Nat := if a + b < 2 ^ 64 then .ok (a + b) else .panicked

/-- `a * b` for `usize`. -/
def usize_mul (a b : Nat) : Outcome ε Nat := if a * b < 2 ^ 64 then .ok (a * b) else .panicked

/-- `usize::checked_add`. -/
def usize_checked_add (a b : Nat) : Option Nat := if a + b < 2 ^ 64 then some (a + b) else none

/-- `usize::checked_mul`. -/
def usize_checked_mul (a b : Nat) : Option Nat := if a * b < 2 ^ 64 then some (a * b) else none

variable {a b c start stop index : Nat} {slice part vec : List α}

theorem usize_add_eq (h : a + b < 2 ^ 64) :
    (usize_add a b : Outcome ε Nat) = .ok (a + b) := if_pos h

theorem usize_mul_eq (h : a * b < 2 ^ 64) :
    (usize_mul a b : Outcome ε Nat) = .ok (a * b) := if_pos h

/-- `slice.get(start..stop)`. -/
def slice_get (slice : List α) (start stop : Nat) : Option (List α) :=
  if start ≤ stop ∧ stop ≤ slice.length then some ((slice.drop start).take (stop - start))
  else none

theorem slice_get_eq_some :
    slice_get slice start stop = some part ↔
      start ≤ stop ∧ stop ≤ slice.length ∧ (slice.drop start).take (stop - start) = part := by
  unfold slice_get
  split_ifs with h
  · simp [h]
  simp only [false_iff]
  tauto

theorem vec_index_eq (h : index < vec.length) :
    (vec_index vec index : Outcome ε α) = .ok vec[index] := by
  unfold vec_index
  rw [List.getElem?_eq_getElem h]

/-! ## Numbers -/

/-- `u16::from_be_bytes`. -/
def u16_from_be_bytes (high low : UInt8) : UInt16 := UInt16.ofNat (high.toNat * 256 + low.toNat)

/-- `u32::from_be_bytes`. -/
def u32_from_be_bytes (b0 b1 b2 b3 : UInt8) : UInt32 :=
  UInt32.ofNat (((b0.toNat * 256 + b1.toNat) * 256 + b2.toNat) * 256 + b3.toNat)

theorem u16_from_be_bytes_toNat (high low : UInt8) :
    (u16_from_be_bytes high low).toNat = high.toNat * 256 + low.toNat := by
  unfold u16_from_be_bytes
  rw [UInt16.toNat_ofNat']
  have hhigh := high.toNat_lt
  have hlow := low.toNat_lt
  omega

/-- The bytes of a text of ASCII characters. -/
def ascii (text : String) : List UInt8 := text.toList.map fun c => UInt8.ofNat c.toNat

/-! ## Calls that do not panic -/

/-- The call does not panic, and a value that it returns has the property. -/
def Safe (x : Outcome ε α) (P : α → Prop) : Prop := x.Returns P fun _ => True

section safe

variable {β : Type} {P P' : α → Prop} {Q : β → Prop} {x : Outcome ε α} {f : α → Outcome ε β}
  {error : ε}

theorem Safe.mono (hx : Safe x P) (h : ∀ a, P a → P' a) : Safe x P' := Outcome.Returns.mono hx h

theorem Safe.bind (hx : Safe x P) (hf : ∀ a, P a → Safe (f a) Q) : Safe (x >>= f) Q :=
  Outcome.Returns.bind hx hf

/-- The value of a safe call is the one that the call returned. -/
theorem Safe.returned (hx : Safe x P) : Safe x fun a => x = .ok a ∧ P a := by
  cases x with
  | ok a => exact ⟨rfl, hx⟩
  | err error | panicked => exact hx

end safe

/-! ## Loops -/

section loops

variable (guard : σ → Bool) (body : σ → Outcome ε σ)

end loops

section loops

variable {guard : σ → Bool} {body : σ → Outcome ε σ} {state last : σ} {turns : Nat}

end loops

end rust
