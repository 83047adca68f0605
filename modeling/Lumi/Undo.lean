-- The two stacks of an editor: what can be undone and what can be redone, and
-- how each move carries the current value between them.
import Lumi.Rust

namespace undo_redo

/-- The current value between the two stacks, whose tops are in front. -/
structure Stacks (α : Type) where
  undo : List α
  current : α
  redo : List α
deriving DecidableEq

namespace Stacks

variable {α : Type} {s' s : Stacks α}

def start (a : α) : Stacks α := ⟨[], a, []⟩

/-- A change: the value before it can be undone, and nothing can be redone. -/
def put (s : Stacks α) (a : α) : Stacks α := ⟨s.current :: s.undo, a, []⟩

def back (s : Stacks α) : Option (Stacks α) :=
  match s.undo with
  | [] => none
  | a :: rest => some ⟨rest, a, s.current :: s.redo⟩

def forth (s : Stacks α) : Option (Stacks α) :=
  match s.redo with
  | [] => none
  | a :: rest => some ⟨s.current :: s.undo, a, rest⟩

theorem back_eq_some :
    s.back = some s' ↔ s.undo = s'.current :: s'.undo ∧ s'.redo = s.current :: s.redo := by
  obtain ⟨u, c, r⟩ := s
  obtain ⟨u', c', r'⟩ := s'
  cases u with
  | nil => simp [back]
  | cons a rest =>
    simp only [back, Option.some.injEq, mk.injEq, List.cons.injEq]
    constructor
    · rintro ⟨rfl, rfl, rfl⟩
      exact ⟨⟨rfl, rfl⟩, rfl⟩
    · rintro ⟨⟨rfl, rfl⟩, rfl⟩
      exact ⟨rfl, rfl, rfl⟩

theorem forth_eq_some :
    s.forth = some s' ↔ s.redo = s'.current :: s'.redo ∧ s'.undo = s.current :: s.undo := by
  obtain ⟨u, c, r⟩ := s
  obtain ⟨u', c', r'⟩ := s'
  cases r with
  | nil => simp [forth]
  | cons a rest =>
    simp only [forth, Option.some.injEq, mk.injEq, List.cons.injEq]
    constructor
    · rintro ⟨rfl, rfl, rfl⟩
      exact ⟨⟨rfl, rfl⟩, rfl⟩
    · rintro ⟨⟨rfl, rfl⟩, rfl⟩
      exact ⟨rfl, rfl, rfl⟩

/-- A redo takes back an undo. -/
theorem forth_of_back (h : s.back = some s') : s'.forth = some s := by
  obtain ⟨u, c, r⟩ := s
  cases u with
  | nil => cases h
  | cons a rest =>
    cases h
    rfl

end Stacks

end undo_redo
