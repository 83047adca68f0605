-- The parts of Rust's core and standard library that the engine rests on:
-- integers that check or saturate, ordered maps, the test for blank text,
-- and calls that return, fail or panic.
import Mathlib

namespace rust

/-! ## Fixed-width integers -/

/-- `u64::MAX`. -/
def u64_max : UInt64 := UInt64.ofNat (2 ^ 64 - 1)

variable (a b : UInt64)

/-- `u64::checked_add`. -/
def checked_add : Option UInt64 :=
  if a.toNat + b.toNat < 2 ^ 64 then some (a + b) else none

/-- `u64::saturating_add`. -/
def saturating_add : UInt64 :=
  if a.toNat + b.toNat < 2 ^ 64 then a + b else u64_max

theorem checked_add_eq_some {a b c : UInt64} :
    checked_add a b = some c ↔ a.toNat + b.toNat = c.toNat := by
  unfold checked_add
  have hc := c.toNat_lt
  split
  · rename_i h
    rw [Option.some.injEq, ← UInt64.toNat_inj, UInt64.toNat_add, Nat.mod_eq_of_lt h]
  simp only [reduceCtorEq, false_iff]
  omega

theorem checked_add_eq {a b c : UInt64} (h : checked_add a b = some c) : a + b = c := by
  unfold checked_add at h
  split at h
  · exact Option.some.inj h
  · cases h

theorem checked_add_eq_none {a b : UInt64} :
    checked_add a b = none ↔ 2 ^ 64 ≤ a.toNat + b.toNat := by
  unfold checked_add
  split
  · simp only [reduceCtorEq, false_iff]
    omega
  simp only [true_iff]
  omega

theorem saturating_add_toNat :
    (saturating_add a b).toNat = min (a.toNat + b.toNat) (2 ^ 64 - 1) := by
  unfold saturating_add
  split
  · rename_i h
    rw [UInt64.toNat_add, Nat.mod_eq_of_lt h]
    omega
  have hm : u64_max.toNat = 2 ^ 64 - 1 := rfl
  rw [hm]
  omega

/-- `u32::saturating_add`. -/
def u32_saturating_add (a b : UInt32) : UInt32 :=
  UInt32.ofNat (min (a.toNat + b.toNat) (2 ^ 32 - 1))

/-- `u32::saturating_sub`. -/
def u32_saturating_sub (a b : UInt32) : UInt32 := UInt32.ofNat (a.toNat - b.toNat)

theorem u32_saturating_add_toNat (a b : UInt32) :
    (u32_saturating_add a b).toNat = min (a.toNat + b.toNat) (2 ^ 32 - 1) :=
  UInt32.toNat_ofNat_of_lt' (by change _ < 2 ^ 32; omega)

theorem u32_saturating_sub_toNat (a b : UInt32) :
    (u32_saturating_sub a b).toNat = a.toNat - b.toNat :=
  UInt32.toNat_ofNat_of_lt' (by have := a.toNat_lt; change _ < 2 ^ 32; omega)

/-- `u32::abs_diff`. -/
def u32_abs_diff (a b : UInt32) : Nat := (a.toNat - b.toNat) + (b.toNat - a.toNat)

/-- `u64::saturating_sub`. -/
def u64_saturating_sub : UInt64 := UInt64.ofNat (a.toNat - b.toNat)

/-- `u64::abs_diff`. -/
def u64_abs_diff : Nat := (a.toNat - b.toNat) + (b.toNat - a.toNat)

/-! ## Ordered maps -/

/-- `BTreeMap`. Two maps are equal when they hold the same entries. -/
abbrev BTreeMap (K V : Type) [Ord K] : Type := Std.ExtTreeMap K V compare

section map

variable {K V : Type} [Ord K] [DecidableEq K] [Std.TransOrd K] [Std.LawfulEqOrd K]

theorem map_get_insert (m : BTreeMap K V) (k a : K) (v : V) :
    (m.insert k v)[a]? = if k = a then some v else m[a]? := by
  rw [Std.ExtTreeMap.getElem?_insert]
  simp only [Std.LawfulEqOrd.compare_eq_iff_eq]

theorem map_get_erase (m : BTreeMap K V) (k a : K) :
    (m.erase k)[a]? = if k = a then none else m[a]? := by
  rw [Std.ExtTreeMap.getElem?_erase]
  simp only [Std.LawfulEqOrd.compare_eq_iff_eq]

theorem map_insert_same {m : BTreeMap K V} {k : K} {v : V} (h : m[k]? = some v) :
    m.insert k v = m := by
  apply Std.ExtTreeMap.ext_getElem?
  intro a
  rw [map_get_insert]
  split
  · rename_i hk
    rw [← hk, h]
  · rfl

end map

/-! ## Sequences -/

variable {i index : Nat} {c : Prop} {ε' ε α : Type} {x : Except ε α}

section sequence

variable {α β γ : Type} {p : α → Bool} {r : α → β → Prop} {l : List α} {l' : List β} {a : α}

/-- `Iterator::rposition`: the index of the last element with the property. -/
def rposition (p : α → Bool) : List α → Option Nat
  | [] => none
  | a :: l =>
    match rposition p l with
    | some i => some (i + 1)
    | none => if p a then some 0 else none

theorem rposition_eq_none : rposition p l = none ↔ ∀ x ∈ l, p x = false := by
  induction l with
  | nil => simp [rposition]
  | cons a l ih =>
    unfold rposition
    cases h : rposition p l with
    | some i =>
      simp only [reduceCtorEq, false_iff]
      intro hall
      have hnone := ih.mpr fun x hx => hall x (List.mem_cons_of_mem a hx)
      rw [h] at hnone
      cases hnone
    | none =>
      have hl := ih.mp h
      cases hp : p a with
      | true => simp [hp]
      | false => simpa [hp] using hl

/-- The list around the last element with the property. -/
theorem rposition_eq_some (h : rposition p l = some i) :
    ∃ pre x post, l = pre ++ x :: post ∧ pre.length = i ∧ p x = true ∧
      ∀ y ∈ post, p y = false := by
  induction l generalizing i with
  | nil => cases h
  | cons a l ih =>
    unfold rposition at h
    split at h
    · rename_i k hk
      cases h
      obtain ⟨pre, x, post, rfl, rfl, hx, hpost⟩ := ih hk
      exact ⟨a :: pre, x, post, rfl, rfl, hx, hpost⟩
    · rename_i hnone
      split at h
      · rename_i hp
        cases h
        exact ⟨[], a, l, rfl, rfl, hp, rposition_eq_none.mp hnone⟩
      · cases h

variable (h : List.Forall₂ r l l')
include h

/-- Two sequences that are related place by place look the same under the two functions. -/
theorem map_eq_of_forall₂ {f : α → γ} {g : β → γ} (hr : ∀ a b, r a b → f a = g b) :
    l.map f = l'.map g := by
  induction h with
  | nil => rfl
  | cons hab _ ih => rw [List.map_cons, List.map_cons, hr _ _ hab, ih]

theorem forall₂_comp {s : β → γ → Prop} {t : α → γ → Prop} {l'' : List γ}
    (h' : List.Forall₂ s l' l'') (ht : ∀ a b c, r a b → s b c → t a c) : List.Forall₂ t l l'' := by
  induction h generalizing l'' with
  | nil =>
    cases h'
    exact .nil
  | cons hab _ ih =>
    cases h' with
    | cons hbc h' => exact .cons (ht _ _ _ hab hbc) (ih h')

/-- Sequences that are related place by place have their elements at the same places. -/
theorem forall₂_getElem? (i : Nat) :
    (l[i]? = none ∧ l'[i]? = none) ∨ ∃ a b, l[i]? = some a ∧ l'[i]? = some b ∧ r a b := by
  induction h generalizing i with
  | nil => simp
  | @cons a b _ _ hab _ ih =>
    cases i with
    | zero => exact .inr ⟨a, b, rfl, rfl, hab⟩
    | succ i => exact ih i

/-- An element of the second has one of the first that it is related to. -/
theorem mem_of_forall₂ {b : β} (hb : b ∈ l') : ∃ a ∈ l, r a b := by
  obtain ⟨i, hi⟩ := List.mem_iff_getElem?.mp hb
  rcases forall₂_getElem? h i with ⟨_, hnone⟩ | ⟨a, b', ha, hb', hab⟩
  · rw [hi] at hnone
    cases hnone
  rw [hi] at hb'
  cases hb'
  exact ⟨a, List.mem_of_getElem? ha, hab⟩

omit h

/-- Without repetitions, a removal leaves all but the element of its place. -/
theorem mem_eraseIdx_of_nodup (h : l.Nodup) (hi : l[i]? = some a) (b : α) :
    b ∈ l.eraseIdx i ↔ b ∈ l ∧ b ≠ a := by
  rw [List.mem_eraseIdx_iff_getElem?]
  constructor
  · rintro ⟨j, hne, hj⟩
    refine ⟨List.mem_of_getElem? hj, ?_⟩
    rintro rfl
    obtain ⟨hlt, _⟩ := List.getElem?_eq_some_iff.mp hj
    exact hne ((List.getElem?_inj hlt h).mp (hj.trans hi.symm))
  · rintro ⟨hmem, hne⟩
    obtain ⟨j, hj⟩ := List.mem_iff_getElem?.mp hmem
    refine ⟨j, ?_, hj⟩
    rintro rfl
    exact hne (Option.some.inj (hj.symm.trans hi))

/-- A new element that looks as the old one under the function. -/
theorem map_set_eq {f : α → β} {b : α} (ha : l[i]? = some a) (hab : f b = f a) :
    (l.set i b).map f = l.map f := by
  obtain ⟨hi, rfl⟩ := List.getElem?_eq_some_iff.mp ha
  rw [List.map_set, hab]
  apply List.ext_getElem?
  intro j
  rw [List.getElem?_set]
  split
  · rename_i hij
    subst hij
    simp [hi]
  · rfl

/-- `slice::windows(2)`: each element with the one after it. -/
def windows_pair (l : List α) : List (α × α) := l.zip l.tail

/-- The neighbours of a sequence are in order when all of it is. -/
theorem windows_pair_all {r : α → α → Prop} (htrans : ∀ a b c, r a b → r b c → r a c) :
    (∀ pair ∈ windows_pair l, r pair.1 pair.2) ↔ l.Pairwise r := by
  have : Trans r r r := ⟨fun {a b c} => htrans a b c⟩
  rw [← List.isChain_iff_pairwise]
  unfold windows_pair
  induction l with
  | nil => simp
  | cons a l ih =>
    cases l with
    | nil => simp
    | cons b l =>
      have hzip : (a :: b :: l).zip (a :: b :: l).tail = (a, b) :: (b :: l).zip (b :: l).tail := rfl
      rw [hzip, List.forall_mem_cons, List.isChain_cons_cons]
      exact and_congr_right fun _ => ih

end sequence

/-! ## Text -/

/-- `char::is_whitespace`: the characters with the Unicode property `White_Space`. -/
def is_whitespace (c : Char) : Bool :=
  let n := c.toNat
  n ∈ [0x20, 0x85, 0xa0, 0x1680, 0x2028, 0x2029, 0x202f, 0x205f, 0x3000] ||
    (0x09 ≤ n && n ≤ 0x0d) || (0x2000 ≤ n && n ≤ 0x200a)

/-- `text.trim().is_empty()`: no character is left once the white space is gone. -/
def is_blank (text : String) : Bool := text.toList.all is_whitespace

/-! ## Results -/

/-- `first?; rest`. -/
theorem except_bind_eq_ok {β : Type} {f : α → Except ε β} {b : β} :
    (x >>= f) = .ok b ↔ ∃ a, x = .ok a ∧ f a = .ok b := by
  cases x with
  | error e | ok a => simp [bind, Except.bind]

/-- `for a in l { f(a)?; }`. -/
theorem except_forM_eq_ok {f : α → Except ε Unit} {l : List α} :
    l.forM f = .ok () ↔ ∀ a ∈ l, f a = .ok () := by
  induction l with
  | nil => simp [pure, Except.pure]
  | cons a l ih =>
    have hcons : (a :: l).forM f = (f a >>= fun _ => l.forM f) := rfl
    rw [hcons, except_bind_eq_ok, List.forall_mem_cons, ← ih]
    constructor
    · rintro ⟨_, ha, hl⟩
      exact ⟨ha, hl⟩
    · rintro ⟨ha, hl⟩
      exact ⟨(), ha, hl⟩

/-! ## Calls that may panic -/

/-- What a call does: it returns `Ok`, it returns `Err`, or it panics. -/
inductive Outcome (ε α : Type) where
  | ok (value : α)
  | err (error : ε)
  | panicked
deriving DecidableEq

namespace Outcome

variable {ε α β : Type} {x : Outcome ε α} {f : α → Outcome ε β} {l : List α} {a : α} {b : β} {e : ε}
  {option : Option α}

def bind (x : Outcome ε α) (f : α → Outcome ε β) : Outcome ε β :=
  match x with
  | ok a => f a
  | err e => err e
  | panicked => panicked

instance : Monad (Outcome ε) where
  pure := ok
  bind := bind

@[simp] theorem pure_eq (a : α) : (pure a : Outcome ε α) = ok a := rfl

@[simp] theorem ok_bind (a : α) (f : α → Outcome ε β) : (ok a >>= f) = f a := rfl

@[simp] theorem err_bind (e : ε) (f : α → Outcome ε β) : (err e >>= f) = err e := rfl

@[simp] theorem panicked_bind (f : α → Outcome ε β) : (panicked >>= f) = panicked := rfl

theorem bind_eq_ok : (x >>= f) = ok b ↔ ∃ a, x = ok a ∧ f a = ok b := by
  cases x <;> simp

/-- `if c { return Err(e); }`. -/
theorem guard_eq_ok [Decidable c] : (if c then err e else x) = ok a ↔ ¬ c ∧ x = ok a := by
  split <;> simp [*]

theorem bind_eq_err : (x >>= f) = err e ↔ x = err e ∨ ∃ a, x = ok a ∧ f a = err e := by
  cases x <;> simp

/-- `result.map_err(f)?` of a call that never panics. -/
def lift {ε' : Type} (f : ε' → ε) : Except ε' α → Outcome ε α
  | .ok a => ok a
  | .error e => err (f e)

/-- `call.map_err(f)?`. -/
def map_err {ε' : Type} (f : ε' → ε) : Outcome ε' α → Outcome ε α
  | ok a => ok a
  | err e => err (f e)
  | panicked => panicked

/-- `option.ok_or(error)?`. -/
def ok_or (option : Option α) (error : ε) : Outcome ε α :=
  match option with
  | some a => ok a
  | none => err error

/-- What a caller sees that goes on only with `Ok`. -/
def accepted : Outcome ε α → Except (Option ε) α
  | ok a => .ok a
  | err e => .error (some e)
  | panicked => .error none

theorem lift_ok (f : ε' → ε) (a : α) : lift f (.ok a) = ok a := rfl

theorem map_err_ok (f : ε' → ε) (a : α) : map_err f (ok a) = ok a := rfl

@[simp] theorem lift_eq_ok {f : ε' → ε} {x : Except ε' α} : lift f x = ok a ↔ x = .ok a := by
  cases x <;> simp [lift]

@[simp] theorem lift_eq_err {f : ε' → ε} {x : Except ε' α} :
    lift f x = err e ↔ ∃ e', x = .error e' ∧ f e' = e := by
  cases x <;> simp [lift]

@[simp] theorem map_err_eq_ok {f : ε' → ε} {x : Outcome ε' α} : map_err f x = ok a ↔ x = ok a := by
  cases x <;> simp [map_err]

@[simp] theorem ok_or_eq_ok {error : ε} : ok_or option error = ok a ↔ option = some a := by
  cases option <;> simp [ok_or]

@[simp] theorem ok_or_eq_err {error : ε} :
    ok_or option error = err e ↔ option = none ∧ error = e := by
  cases option <;> simp [ok_or]

@[simp] theorem accepted_eq_ok : accepted x = .ok a ↔ x = ok a := by
  cases x <;> simp [accepted]

/-- `iter.map(f).collect::<Result<Vec<_>, _>>()`: the first call that fails ends it. -/
def collect (f : α → Outcome ε β) : List α → Outcome ε (List β)
  | [] => ok []
  | a :: l => f a >>= fun b => collect f l >>= fun bs => ok (b :: bs)

theorem collect_eq_ok {bs : List β} :
    collect f l = ok bs ↔ List.Forall₂ (fun a b => f a = ok b) l bs := by
  induction l generalizing bs with
  | nil => simp [collect, eq_comm]
  | cons a l ih =>
    simp only [collect, bind_eq_ok, ih, List.forall₂_cons_left_iff, ok.injEq]
    constructor
    · rintro ⟨b, hb, bs', hbs, rfl⟩
      exact ⟨b, bs', hb, hbs, rfl⟩
    · rintro ⟨b, bs', hb, hbs, rfl⟩
      exact ⟨b, hb, bs', hbs, rfl⟩

theorem collect_eq_err (h : collect f l = err e) : ∃ a ∈ l, f a = err e := by
  induction l with
  | nil => cases h
  | cons a l ih =>
    rcases bind_eq_err.mp h with hfirst | ⟨_, _, h⟩
    · exact ⟨a, List.mem_cons_self, hfirst⟩
    rcases bind_eq_err.mp h with hrest | ⟨_, _, hok⟩
    · obtain ⟨b, hb, hf⟩ := ih hrest
      exact ⟨b, List.mem_cons_of_mem a hb, hf⟩
    · cases hok

theorem collect_succeeds : (∃ bs, collect f l = ok bs) ↔ ∀ a ∈ l, ∃ b, f a = ok b := by
  induction l with
  | nil => simp [collect]
  | cons a l ih =>
    rw [List.forall_mem_cons, ← ih]
    simp only [collect, bind_eq_ok, ok.injEq]
    constructor
    · rintro ⟨_, b, hb, bs, hbs, _⟩
      exact ⟨⟨b, hb⟩, bs, hbs⟩
    · rintro ⟨⟨b, hb⟩, bs, hbs⟩
      exact ⟨b :: bs, b, hb, bs, hbs, rfl⟩

/-- The call does not panic: it returns a value with `P` or an error with `E`. -/
def Returns (x : Outcome ε α) (P : α → Prop) (E : ε → Prop) : Prop :=
  match x with
  | ok a => P a
  | err e => E e
  | panicked => False

variable {P : α → Prop} {Q : β → Prop} {E : ε → Prop}

@[simp] theorem returns_ok : (ok a : Outcome ε α).Returns P E ↔ P a := Iff.rfl

@[simp] theorem returns_err : (err e : Outcome ε α).Returns P E ↔ E e := Iff.rfl

theorem Returns.mono {P' : α → Prop} (hx : x.Returns P E) (h : ∀ a, P a → P' a) :
    x.Returns P' E := by
  cases x with
  | ok a => exact h a hx
  | err e | panicked => exact hx

theorem Returns.bind (hx : x.Returns P E) (hf : ∀ a, P a → (f a).Returns Q E) :
    (x >>= f).Returns Q E := by
  cases x with
  | ok a => exact hf a hx
  | err e | panicked => exact hx

end Outcome

/-! ## Vectors -/

section vector

variable {ε α : Type} {pre post vec : List α} {x y : α}

/-- `vec[index]`. -/
def vec_index (vec : List α) (index : Nat) : Outcome ε α :=
  match vec[index]? with
  | some value => .ok value
  | none => .panicked

/-- `vec[index] = value`. -/
def vec_set (vec : List α) (index : Nat) (value : α) : Outcome ε (List α) :=
  if index < vec.length then .ok (vec.set index value) else .panicked

/-- `vec.insert(index, value)`. -/
def vec_insert (vec : List α) (index : Nat) (value : α) : Outcome ε (List α) :=
  if index ≤ vec.length then .ok (vec.insertIdx index value) else .panicked

/-- `vec.remove(index)`. -/
def vec_remove (vec : List α) (index : Nat) : Outcome ε (List α) :=
  if index < vec.length then .ok (vec.eraseIdx index) else .panicked

/-- The vector around one of its places. -/
theorem vec_split (h : index < vec.length) :
    ∃ pre x post, vec = pre ++ x :: post ∧ pre.length = index := by
  refine ⟨vec.take index, vec[index], vec.drop (index + 1), ?_, ?_⟩
  · rw [List.getElem_cons_drop, List.take_append_drop]
  · rw [List.length_take]
    omega

/-- The vector around two places that stand side by side. -/
theorem vec_split_pair (h : index + 1 < vec.length) :
    ∃ pre x y post, vec = pre ++ x :: y :: post ∧ pre.length = index := by
  obtain ⟨pre, x, rest, rfl, rfl⟩ := vec_split (Nat.lt_of_succ_lt h)
  cases rest with
  | nil => simp at h
  | cons y post => exact ⟨pre, x, y, post, rfl, rfl⟩

@[simp] theorem vec_index_mid :
    (vec_index (pre ++ x :: post) pre.length : Outcome ε α) = .ok x := by
  simp [vec_index]

@[simp] theorem vec_index_next :
    (vec_index (pre ++ x :: y :: post) (pre.length + 1) : Outcome ε α) = .ok y := by
  simp [vec_index]

@[simp] theorem vec_set_mid (a : α) :
    (vec_set (pre ++ x :: post) pre.length a : Outcome ε (List α)) = .ok (pre ++ a :: post) := by
  simp [vec_set]

@[simp] theorem vec_set_next (a : α) :
    (vec_set (pre ++ x :: y :: post) (pre.length + 1) a : Outcome ε (List α)) =
      .ok (pre ++ x :: a :: post) := by
  simp [vec_set]

@[simp] theorem vec_insert_next (a : α) :
    (vec_insert (pre ++ x :: post) (pre.length + 1) a : Outcome ε (List α)) =
      .ok (pre ++ x :: a :: post) := by
  have h : (pre ++ x :: post).insertIdx (pre.length + 1) a = pre ++ x :: a :: post := by
    induction pre with
    | nil => rfl
    | cons b pre ih => simpa using ih
  simp [vec_insert, h]

@[simp] theorem vec_remove_mid :
    (vec_remove (pre ++ x :: post) pre.length : Outcome ε (List α)) = .ok (pre ++ post) := by
  simp [vec_remove, List.eraseIdx_append_of_length_le]

@[simp] theorem vec_remove_next :
    (vec_remove (pre ++ x :: y :: post) (pre.length + 1) : Outcome ε (List α)) =
      .ok (pre ++ x :: post) := by
  simp [vec_remove, List.eraseIdx_append_of_length_le]

end vector

end rust
