-- Lists of segments that tile a range: each segment starts where the one
-- before it ends, none is empty, and together they reach from one end of the
-- range to the other. What the segments show at each point, and strokes over
-- it. And lists whose items are numbered one after the other.
import Lumi.Rust

namespace tiling

variable {α N : Type}

/-! ## Segments -/

section tiles

variable [LinearOrder N] {lo hi : α → N} {a b : N} {x : α} {l l' : List α}

/-- The segments of the list tile the range from `a` up to `b`. -/
def Tiles (lo hi : α → N) : N → List α → N → Prop
  | a, [], b => a = b
  | a, x :: l, b => lo x = a ∧ a < hi x ∧ Tiles lo hi (hi x) l b

@[simp] theorem tiles_nil : Tiles lo hi a [] b ↔ a = b := Iff.rfl

@[simp] theorem tiles_cons :
    Tiles lo hi a (x :: l) b ↔ lo x = a ∧ a < hi x ∧ Tiles lo hi (hi x) l b := Iff.rfl

theorem tiles_append : Tiles lo hi a (l ++ l') b ↔ ∃ m, Tiles lo hi a l m ∧ Tiles lo hi m l' b := by
  induction l generalizing a with
  | nil => simp
  | cons x l ih => simp [ih, and_assoc]

theorem tiles_snoc :
    Tiles lo hi a (l ++ [x]) b ↔ Tiles lo hi a l (lo x) ∧ lo x < hi x ∧ hi x = b := by
  rw [tiles_append]
  constructor
  · rintro ⟨m, hl, rfl, hlt, hb⟩
    exact ⟨hl, hlt, hb⟩
  · rintro ⟨hl, hlt, hb⟩
    exact ⟨lo x, hl, rfl, hlt, hb⟩

theorem tiles_map {β : Type} {lo hi : β → N} {f : α → β} :
    Tiles lo hi a (l.map f) b ↔ Tiles (fun x => lo (f x)) (fun x => hi (f x)) a l b := by
  induction l generalizing a with
  | nil => exact Iff.rfl
  | cons x l ih => simp only [List.map_cons, tiles_cons, ih]

variable {s : N} (h : Tiles lo hi a l b)
include h

/-- The last segment ends where the tiling ends. -/
theorem Tiles.last_le (ha : a ≤ s) : l.getLast?.all (fun x => hi x ≤ s) = decide (b ≤ s) := by
  rcases List.eq_nil_or_concat l with rfl | ⟨l', x, rfl⟩
  · obtain rfl := h
    simpa using ha
  rw [List.concat_eq_append] at h ⊢
  obtain ⟨_, _, rfl⟩ := tiles_snoc.mp h
  simp

theorem Tiles.le : a ≤ b := by
  induction l generalizing a with
  | nil => exact le_of_eq h
  | cons x l ih => exact (le_of_lt h.2.1).trans (ih h.2.2)

/-- Every segment of a tiling is not empty and lies within the range. -/
theorem Tiles.bounds (hx : x ∈ l) : a ≤ lo x ∧ lo x < hi x ∧ hi x ≤ b := by
  induction l generalizing a with
  | nil => simp at hx
  | cons y l ih =>
    obtain ⟨hlo, hlt, ht⟩ := h
    rcases List.mem_cons.mp hx with rfl | hx
    · exact ⟨le_of_eq hlo.symm, hlo ▸ hlt, ht.le⟩
    obtain ⟨h1, h2, h3⟩ := ih ht hx
    exact ⟨(le_of_lt hlt).trans h1, h2, h3⟩

/-- The segment that a point of the range lies in. -/
theorem Tiles.split_at (ha : a ≤ s) (hb : s < b) :
    ∃ pre x post, l = pre ++ x :: post ∧ Tiles lo hi a pre (lo x) ∧ lo x ≤ s ∧ s < hi x ∧
      Tiles lo hi (hi x) post b := by
  induction l generalizing a with
  | nil => exact absurd (ha.trans_lt hb) (by rw [show a = b from h]; exact lt_irrefl b)
  | cons y l ih =>
    obtain ⟨hlo, hlt, hl⟩ := h
    by_cases hs : s < hi y
    · exact ⟨[], y, l, rfl, hlo.symm, hlo ▸ ha, hs, hl⟩
    obtain ⟨pre, x, post, rfl, hpre, hx⟩ := ih hl (not_lt.mp hs)
    exact ⟨y :: pre, x, post, rfl, ⟨hlo, hlt, hpre⟩, hx⟩

/-- The segment that reaches a point of the range. -/
theorem Tiles.split_before (ha : a < s) (hb : s ≤ b) :
    ∃ pre x post, l = pre ++ x :: post ∧ Tiles lo hi a pre (lo x) ∧ lo x < s ∧ s ≤ hi x ∧
      Tiles lo hi (hi x) post b := by
  induction l generalizing a with
  | nil => exact absurd (ha.trans_le hb) (by rw [show a = b from h]; exact lt_irrefl b)
  | cons y l ih =>
    obtain ⟨hlo, hlt, hl⟩ := h
    by_cases hs : s ≤ hi y
    · exact ⟨[], y, l, rfl, hlo.symm, hlo ▸ ha, hs, hl⟩
    obtain ⟨pre, x, post, rfl, hpre, hx⟩ := ih hl (not_le.mp hs)
    exact ⟨y :: pre, x, post, rfl, ⟨hlo, hlt, hpre⟩, hx⟩

/-- A point lies in one segment only. -/
theorem Tiles.unique {y : α} (hx : x ∈ l) (hy : y ∈ l) (hxs : lo x ≤ s ∧ s < hi x)
    (hys : lo y ≤ s ∧ s < hi y) : x = y := by
  induction l generalizing a with
  | nil => cases hx
  | cons z l ih =>
    obtain ⟨_, _, hl⟩ := h
    rcases List.mem_cons.mp hx with hxz | hxl
    · rcases List.mem_cons.mp hy with hyz | hyl
      · rw [hxz, hyz]
      rw [← hxz] at hl
      exact absurd (hxs.2.trans_le ((hl.bounds hyl).1.trans hys.1)) (lt_irrefl _)
    · rcases List.mem_cons.mp hy with hyz | hyl
      · rw [← hyz] at hl
        exact absurd (hys.2.trans_le ((hl.bounds hxl).1.trans hxs.1)) (lt_irrefl _)
      · exact ih hl hxl hyl

end tiles

/-! ## What the segments show -/

section points

variable {β : Type} [LinearOrder N] {lo hi : α → N} {view : α → β} {a b m n : N} {x : α}
  {l l' pre mid mid' post : List α}

/-- What the segment at a point shows, for segments that end one after the other. -/
def shown (hi : α → N) (view : α → β) : List α → N → Option β
  | [], _ => none
  | x :: l, n => if n < hi x then some (view x) else shown hi view l n

theorem Tiles.shown_append (h : Tiles lo hi a l m) (ha : a ≤ n) :
    shown hi view (l ++ l') n =
      if n < m then shown hi view l n else shown hi view l' n := by
  induction l generalizing a with
  | nil =>
    obtain rfl : a = m := h
    rw [if_neg (not_lt.mpr ha), List.nil_append]
  | cons x l ih =>
    obtain ⟨_, _, hl⟩ := h
    simp only [List.cons_append, shown]
    by_cases hx : n < hi x
    · rw [if_pos hx, if_pos hx, if_pos (hx.trans_le hl.le)]
    · rw [if_neg hx, if_neg hx, ih hl (not_lt.mp hx)]

theorem shown_map {γ : Type} {f : γ → α} {l : List γ} :
    shown hi view (l.map f) n = shown (fun x => hi (f x)) (fun x => view (f x)) l n := by
  induction l with
  | nil => rfl
  | cons x l ih => simp only [List.map_cons, shown, ih]

/-- What a tiling shows at a point is what the segment around the point shows. -/
theorem Tiles.find?_map (h : Tiles lo hi a l b) (ha : a ≤ n) :
    (l.find? fun x => lo x ≤ n ∧ n < hi x).map view = shown hi view l n := by
  induction l generalizing a with
  | nil => rfl
  | cons x l ih =>
    obtain ⟨hlo, _, hl⟩ := h
    have hle : lo x ≤ n := hlo ▸ ha
    rw [shown, List.find?_cons]
    by_cases hx : n < hi x
    · simp [hle, hx]
    simp only [hle, hx, and_false, decide_false, if_false]
    exact ih hl (not_lt.mp hx)

/-- Points of a range that get one value. -/
structure Stroke (N β : Type) where
  first : N
  past : N
  value : β

/-- The points of the stroke get its value, and all others keep theirs. -/
def paint (stroke : Stroke N β) (f : N → Option β) : N → Option β := fun n =>
  if stroke.first ≤ n ∧ n < stroke.past then some stroke.value else f n

variable {stroke : Stroke N β} {f : N → Option β}

theorem paint_inside (hfirst : stroke.first ≤ n) (hpast : n < stroke.past) :
    paint stroke f n = some stroke.value := if_pos ⟨hfirst, hpast⟩

theorem paint_outside (h : n < stroke.first ∨ stroke.past ≤ n) : paint stroke f n = f n := by
  apply if_neg
  rintro ⟨hfirst, hpast⟩
  rcases h with h | h
  · exact absurd h (not_lt.mpr hfirst)
  · exact absurd hpast (not_lt.mpr h)

/-- Segments in the middle give way to others: where these show a stroke over what the old ones
show, so does the whole. -/
theorem Tiles.shown_splice (h : Tiles lo hi a (pre ++ (mid ++ post)) b)
    (hmid : ∀ a b, Tiles lo hi a mid b → Tiles lo hi a mid' b ∧ a ≤ stroke.first ∧
      stroke.past ≤ b ∧
      ∀ n, a ≤ n → n < b → shown hi view mid' n = paint stroke (shown hi view mid) n)
    (ha : a ≤ n) :
    shown hi view (pre ++ (mid' ++ post)) n =
      paint stroke (shown hi view (pre ++ (mid ++ post))) n := by
  obtain ⟨m, hpre, hrest⟩ := tiles_append.mp h
  obtain ⟨m', hm, hpost⟩ := tiles_append.mp hrest
  obtain ⟨hm', hfirst, hpast, hshown⟩ := hmid m m' hm
  rw [hpre.shown_append ha]
  by_cases hn : n < m
  · rw [if_pos hn, paint_outside (.inl (hn.trans_le hfirst)), hpre.shown_append ha, if_pos hn]
  rw [not_lt] at hn
  rw [if_neg (not_lt.mpr hn), hm'.shown_append hn]
  by_cases hn' : n < m'
  · rw [if_pos hn', hshown n hn hn']
    unfold paint
    rw [hpre.shown_append ha, if_neg (not_lt.mpr hn), hm.shown_append hn, if_pos hn']
  · rw [if_neg hn', paint_outside (.inr (hpast.trans (not_lt.mp hn'))), hpre.shown_append ha,
      if_neg (not_lt.mpr hn), hm.shown_append hn, if_neg hn']

end points

/-! ## Numbered items -/

section indexed

variable {ix : α → Nat} {n i : Nat} {x : α} {l : List α}

/-- The items of the list carry the numbers from `n` on, in order. -/
def Indexed (ix : α → Nat) : Nat → List α → Prop
  | _, [] => True
  | n, x :: l => ix x = n ∧ Indexed ix (n + 1) l

@[simp] theorem indexed_nil : Indexed ix n ([] : List α) := trivial

@[simp] theorem indexed_cons : Indexed ix n (x :: l) ↔ ix x = n ∧ Indexed ix (n + 1) l := Iff.rfl

theorem indexed_map {β : Type} {ix : β → Nat} {f : α → β} :
    Indexed ix n (l.map f) ↔ Indexed (fun x => ix (f x)) n l := by
  induction l generalizing n with
  | nil => simp
  | cons x l ih => rw [List.map_cons, indexed_cons, indexed_cons, ih]

variable (h : Indexed ix n l)
include h

theorem Indexed.get (hx : l[i]? = some x) : ix x = n + i := by
  induction l generalizing n i with
  | nil => simp at hx
  | cons y l ih =>
    cases i with
    | zero =>
      simp only [List.getElem?_cons_zero, Option.some.injEq] at hx
      rw [← hx, h.1, Nat.add_zero]
    | succ i =>
      rw [List.getElem?_cons_succ] at hx
      rw [ih h.2 hx]
      omega

theorem Indexed.map_eq : l.map ix = List.range' n l.length := by
  induction l generalizing n with
  | nil => rfl
  | cons x l ih => rw [List.map_cons, h.1, ih h.2, List.length_cons, List.range'_succ]

theorem Indexed.nodup : (l.map ix).Nodup := by
  rw [h.map_eq]
  exact List.nodup_range'

end indexed

end tiling
