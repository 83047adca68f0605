-- Machines that reduce one event at a time, and the rules to reason about
-- their runs: what one step keeps holds after every run, and what holds at one
-- point of a run and no more at a later one was lost by a step between them.
import Lumi.Rust

namespace replay

/-- A machine starts in a state and reduces one event at a time. -/
structure Machine (S E ε R : Type) where
  start : S
  reduce : S → E → Except ε R
  next : R → S

namespace Machine

variable {S E ε R : Type} (m : Machine S E ε R)

/-- One event. An event that the machine refuses leaves the state as it was. -/
def step (s : S) (e : E) : S :=
  match m.reduce s e with
  | .ok r => m.next r
  | .error _ => s

def runFrom (s : S) (es : List E) : S := es.foldl m.step s

/-- The state after the events, from the start. -/
def run (es : List E) : S := m.runFrom m.start es

def Reachable (s : S) : Prop := ∃ es, m.run es = s

/-- The reductions of the events that the machine accepts, in their order. -/
def reductionsFrom (s : S) : List E → List R
  | [] => []
  | e :: es =>
    match m.reduce s e with
    | .ok r => r :: reductionsFrom (m.next r) es
    | .error _ => reductionsFrom s es

def reductions (es : List E) : List R := m.reductionsFrom m.start es

/-- Every event that the run accepts meets the condition, in the state that it comes to. -/
def Along (Q : S → E → Prop) (es : List E) : Prop :=
  ∀ k e r, es[k]? = some e → m.reduce (m.run (es.take k)) e = .ok r → Q (m.run (es.take k)) e

/-- Why the machine refuses the first event that it refuses. -/
def refusal (s : S) : List E → Option ε
  | [] => none
  | e :: es =>
    match m.reduce s e with
    | .ok r => refusal (m.next r) es
    | .error x => some x

/-- The condition holds along the run, checked one event after the other. -/
def alongFrom (Q : S → E → Prop) [∀ s e, Decidable (Q s e)] (s : S) : List E → Bool
  | [] => true
  | e :: es => decide (Q s e) && alongFrom Q (m.step s e) es

variable {m}

variable {s : S} {e : E} {r : R} {x : ε} {es : List E} {Q : S → E → Prop} {P : S → Prop} {i j : Nat}

theorem step_ok (h : m.reduce s e = .ok r) : m.step s e = m.next r := by
  simp [step, h]

theorem step_error (h : m.reduce s e = .error x) : m.step s e = s := by
  simp [step, h]

@[simp] theorem runFrom_nil (s : S) : m.runFrom s [] = s := rfl

@[simp] theorem runFrom_cons (s : S) (e : E) (es : List E) :
    m.runFrom s (e :: es) = m.runFrom (m.step s e) es := rfl

theorem run_append (es es' : List E) : m.run (es ++ es') = m.runFrom (m.run es) es' :=
  List.foldl_append

theorem run_snoc (es : List E) (e : E) : m.run (es ++ [e]) = m.step (m.run es) e := by
  rw [run_append]
  rfl

theorem run_take_succ_get {k : Nat} (h : es[k]? = some e) :
    m.run (es.take (k + 1)) = m.step (m.run (es.take k)) e := by
  rw [List.take_add_one, h, Option.toList_some, run_snoc]

theorem refusal_cons (h : m.refusal s (e :: es) = none) :
    ∃ r, m.reduce s e = .ok r ∧ m.refusal (m.next r) es = none := by
  unfold refusal at h
  split at h
  · exact ⟨_, ‹_›, h⟩
  · cases h

theorem refused_of_refusal (h : m.refusal s es = some x) :
    ∃ s' e, e ∈ es ∧ m.reduce s' e = .error x := by
  induction es generalizing s with
  | nil => cases h
  | cons e es ih =>
    unfold refusal at h
    split at h
    · obtain ⟨s', e', he, hx⟩ := ih h
      exact ⟨s', e', List.mem_cons_of_mem e he, hx⟩
    cases h
    exact ⟨s, e, List.mem_cons_self, ‹_›⟩

theorem along_of_alongFrom [∀ s e, Decidable (Q s e)] (h : m.alongFrom Q m.start es = true) :
    m.Along Q es := by
  suffices hget : ∀ (es : List E) (s : S) (k : Nat) (e : E), m.alongFrom Q s es = true →
      es[k]? = some e → Q (m.runFrom s (es.take k)) e from
    fun k e r hk _ => hget es m.start k e h hk
  intro es
  induction es with
  | nil => intro s k e _ hk; cases hk
  | cons a es ih =>
    intro s k e h hk
    rw [alongFrom, Bool.and_eq_true, decide_eq_true_eq] at h
    cases k with
    | zero =>
      cases hk
      exact h.1
    | succ k => exact ih _ k e h.2 hk

theorem reductionsFrom_ok (es : List E) (h : m.reduce s e = .ok r) :
    m.reductionsFrom s (e :: es) = r :: m.reductionsFrom (m.next r) es := by
  simp [reductionsFrom, h]

theorem reductionsFrom_error (es : List E) (h : m.reduce s e = .error x) :
    m.reductionsFrom s (e :: es) = m.reductionsFrom s es := by
  simp [reductionsFrom, h]

theorem reductionsFrom_append (s : S) (es es' : List E) :
    m.reductionsFrom s (es ++ es') =
      m.reductionsFrom s es ++ m.reductionsFrom (m.runFrom s es) es' := by
  induction es generalizing s with
  | nil => rfl
  | cons e es ih =>
    rw [List.cons_append, runFrom_cons]
    cases hr : m.reduce s e with
    | ok r =>
      rw [reductionsFrom_ok _ hr, reductionsFrom_ok _ hr, step_ok hr, ih]
      rfl
    | error x => rw [reductionsFrom_error _ hr, reductionsFrom_error _ hr, step_error hr, ih]

theorem reductions_snoc_ok (h : m.reduce (m.run es) e = .ok r) :
    m.reductions (es ++ [e]) = m.reductions es ++ [r] := by
  unfold run at h
  unfold reductions
  rw [reductionsFrom_append, reductionsFrom_ok [] h]
  rfl

theorem reductions_snoc_error (h : m.reduce (m.run es) e = .error x) :
    m.reductions (es ++ [e]) = m.reductions es := by
  unfold run at h
  unfold reductions
  rw [reductionsFrom_append, reductionsFrom_error [] h]
  exact List.append_nil _

/-! ## Invariants -/

variable (h0 : P m.start) (hstep : ∀ s e r, P s → m.reduce s e = .ok r → P (m.next r))
include hstep

/-- What every accepted event keeps, every event keeps. -/
theorem step_keeps (e : E) (h : P s) : P (m.step s e) := by
  cases hr : m.reduce s e with
  | ok r => rw [step_ok hr]; exact hstep s e r h hr
  | error x => rw [step_error hr]; exact h

theorem runFrom_keeps (es : List E) (h : P s) : P (m.runFrom s es) := by
  induction es generalizing s with
  | nil => exact h
  | cons e es ih => exact ih (step_keeps hstep e h)

include h0

theorem run_keeps (es : List E) : P (m.run es) :=
  runFrom_keeps hstep es h0

theorem reachable_keeps (h : m.Reachable s) : P s := by
  obtain ⟨es, rfl⟩ := h
  exact run_keeps h0 hstep es

omit h0 hstep

theorem reachable_run (es : List E) : m.Reachable (m.run es) := ⟨es, rfl⟩

theorem reachable_step (h : m.Reachable s) (e : E) : m.Reachable (m.step s e) := by
  obtain ⟨es, rfl⟩ := h
  exact ⟨es ++ [e], run_snoc es e⟩

/-- What an accepted event keeps under a condition holds all along a run whose accepted events
meet the condition. -/
theorem run_keeps_while (h0 : P m.start)
    (hstep : ∀ s e r, P s → Q s e → m.reduce s e = .ok r → P (m.next r)) (es : List E)
    (hq : m.Along Q es) (k : Nat) : P (m.run (es.take k)) := by
  induction k with
  | zero => exact h0
  | succ k ih =>
    cases he : es[k]? with
    | none =>
      rw [List.getElem?_eq_none_iff] at he
      rw [List.take_of_length_le (by omega)] at ih ⊢
      exact ih
    | some e =>
      rw [run_take_succ_get he]
      cases hr : m.reduce (m.run (es.take k)) e with
      | ok r => rw [step_ok hr]; exact hstep _ _ r ih (hq k e r he hr) hr
      | error x => rw [step_error hr]; exact ih

/-! ## Two points of one run -/

variable {Q : S → S → Prop} (hrefl : ∀ s, Q s s)
  (htrans : ∀ s s' s'', Q s s' → Q s' s'' → Q s s'')
  (hevent : ∀ s e r, m.reduce s e = .ok r → Q s (m.next r))
include hrefl htrans hevent

/-- Two points of one run are related when every accepted event relates the states around it. -/
theorem runFrom_relates (es : List E) (s : S) : Q s (m.runFrom s es) := by
  induction es generalizing s with
  | nil => exact hrefl s
  | cons e es ih =>
    have hone : Q s (m.step s e) := by
      cases hr : m.reduce s e with
      | ok r => rw [step_ok hr]; exact hevent s e r hr
      | error x => rw [step_error hr]; exact hrefl s
    exact htrans _ _ _ hone (ih _)

theorem run_take_relates (es : List E) (hij : i ≤ j) :
    Q (m.run (es.take i)) (m.run (es.take j)) := by
  have hsplit : es.take j = es.take i ++ (es.take j).drop i := by
    conv_lhs => rw [← List.take_append_drop i (es.take j), List.take_take, Nat.min_eq_left hij]
  rw [hsplit, run_append]
  exact runFrom_relates hrefl htrans hevent _ _

omit hrefl htrans hevent in
/-- A property that holds after `i` events and not after `j` was lost by one of the events
between them, and the machine accepted that event. -/
theorem lost_between (es : List E) (hij : i ≤ j) (hi : P (m.run (es.take i)))
    (hj : ¬ P (m.run (es.take j))) :
    ∃ k e r, i ≤ k ∧ k < j ∧ es[k]? = some e ∧ m.reduce (m.run (es.take k)) e = .ok r ∧
      P (m.run (es.take k)) ∧ ¬ P (m.next r) := by
  induction hij with
  | refl => exact absurd hi hj
  | @step j hij ih =>
    by_cases h : P (m.run (es.take j))
    · rcases he : es[j]? with _ | e
      · rw [List.getElem?_eq_none_iff] at he
        rw [List.take_of_length_le (by omega)] at hj h
        exact absurd h hj
      rw [run_take_succ_get he] at hj
      cases hr : m.reduce (m.run (es.take j)) e with
      | ok r =>
        rw [step_ok hr] at hj
        exact ⟨j, e, r, hij, Nat.lt_succ_self j, he, hr, h, hj⟩
      | error x =>
        rw [step_error hr] at hj
        exact absurd h hj
    · obtain ⟨k, e, r, hik, hkj, hk⟩ := ih h
      exact ⟨k, e, r, hik, Nat.lt_succ_of_lt hkj, hk⟩

end Machine

end replay
