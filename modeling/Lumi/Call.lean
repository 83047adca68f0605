-- Calls of methods that change what they are called on. A call gives back a
-- value, an error or a panic, and what it changed before it failed stays
-- changed, as with `&mut self` and `?`.
import Lumi.Rust

namespace rust

/-- A call on a state. -/
structure Call (σ ε α : Type) where
  run : σ → σ × Outcome ε α

namespace Call

variable {σ τ ε ε' α β : Type}

def bind (call : Call σ ε α) (f : α → Call σ ε β) : Call σ ε β where
  run s :=
    match call.run s with
    | (s, .ok a) => (f a).run s
    | (s, .err e) => (s, .err e)
    | (s, .panicked) => (s, .panicked)

instance : Monad (Call σ ε) where
  pure a := ⟨fun s => (s, .ok a)⟩
  bind := bind

/-- The state as it is. -/
def get : Call σ ε σ := ⟨fun s => (s, .ok s)⟩

/-- A change of the state. -/
def modify (f : σ → σ) : Call σ ε Unit := ⟨fun s => (f s, .ok ())⟩

/-- A call of a function that leaves the state alone. -/
def lift (outcome : Outcome ε α) : Call σ ε α := ⟨fun s => (s, outcome)⟩

/-- A call on a part of the state. -/
def on (part : σ → τ) (put : σ → τ → σ) (call : Call τ ε α) : Call σ ε α where
  run s := (put s (call.run (part s)).1, (call.run (part s)).2)

/-- `call.map_err(f)?`. -/
def map_err (f : ε → ε') (call : Call σ ε α) : Call σ ε' α where
  run s := ((call.run s).1, (call.run s).2.map_err f)

/-- The call goes on when it failed, and tells whether it did: `call.is_ok()`. -/
def is_ok (call : Call σ ε α) : Call σ ε' Bool where
  run s :=
    ((call.run s).1,
      match (call.run s).2 with
      | .ok _ => .ok true
      | .err _ => .ok false
      | .panicked => .panicked)

/-- `if condition { call }`. -/
def when (condition : Bool) (call : Call σ ε Unit) : Call σ ε Unit :=
  if condition then call else pure ()

/-- `for item in items { call }`. -/
def for_each (f : α → Call σ ε Unit) : List α → Call σ ε Unit
  | [] => pure ()
  | a :: l => f a >>= fun _ => for_each f l

/-! ## What a call does -/

variable {call : Call σ ε α} {f : α → Call σ ε β} {s : σ}

@[simp] theorem pure_run (a : α) : (pure a : Call σ ε α).run s = (s, .ok a) := rfl

@[simp] theorem pure_bind_run (a : α) : (pure a >>= f).run s = (f a).run s := rfl

@[simp] theorem get_bind_run (f : σ → Call σ ε β) : (get >>= f).run s = (f s).run s := rfl

@[simp] theorem modify_run (g : σ → σ) : (modify g : Call σ ε Unit).run s = (g s, .ok ()) := rfl

@[simp] theorem modify_bind_run (g : σ → σ) (f : Unit → Call σ ε β) :
    (modify g >>= f).run s = (f ()).run (g s) := rfl

@[simp] theorem lift_run (outcome : Outcome ε α) :
    (lift outcome : Call σ ε α).run s = (s, outcome) := rfl

theorem lift_ok_bind_run (a : α) : (lift (.ok a) >>= f).run s = (f a).run s := rfl

@[simp] theorem on_run (part : σ → τ) (put : σ → τ → σ) (call : Call τ ε α) :
    (call.on part put).run s = (put s (call.run (part s)).1, (call.run (part s)).2) := rfl

@[simp] theorem map_err_run (g : ε → ε') :
    (map_err g call).run s = ((call.run s).1, (call.run s).2.map_err g) := rfl

theorem bind_run (call : Call σ ε α) (f : α → Call σ ε β) (s : σ) :
    (call >>= f).run s =
      match call.run s with
      | (s, .ok a) => (f a).run s
      | (s, .err e) => (s, .err e)
      | (s, .panicked) => (s, .panicked) := rfl

variable {a : α} {s' : σ} {g : σ → σ}

theorem bind_of_ok (h : call.run s = (s', .ok a)) : (call >>= f).run s = (f a).run s' := by
  rw [bind_run, h]

theorem bind_of_err {e : ε} (h : call.run s = (s', .err e)) :
    (call >>= f).run s = (s', .err e) := by
  rw [bind_run, h]

/-- A call of two calls ends in the first, or it ends as the second does from where the first
left the state. -/
theorem bind_cases (call : Call σ ε α) (f : α → Call σ ε β) (s : σ) :
    (∃ e, (call.run s).2 = .err e ∧ (call >>= f).run s = ((call.run s).1, .err e)) ∨
      ((call.run s).2 = .panicked ∧ (call >>= f).run s = ((call.run s).1, .panicked)) ∨
      ∃ a, (call.run s).2 = .ok a ∧ (call >>= f).run s = (f a).run (call.run s).1 := by
  rcases h : call.run s with ⟨s', x⟩
  cases x with
  | ok a => exact .inr (.inr ⟨a, rfl, bind_of_ok h⟩)
  | err e => exact .inl ⟨e, rfl, bind_of_err h⟩
  | panicked => exact .inr (.inl ⟨rfl, by rw [bind_run, h]⟩)

/-! ## What a call keeps -/

/-- From every state that meets the condition, the call leaves a state that meets it. -/
def Keeps (I : σ → Prop) (call : Call σ ε α) : Prop := ∀ s, I s → I (call.run s).1

section keeps

variable {I : σ → Prop}

theorem keeps_pure (a : α) : Keeps I (pure a : Call σ ε α) := fun _ h => h

theorem keeps_lift (outcome : Outcome ε α) : Keeps I (lift outcome : Call σ ε α) := fun _ h => h

theorem keeps_modify (h : ∀ s, I s → I (g s)) : Keeps I (modify g : Call σ ε Unit) := h

theorem Keeps.bind (hc : Keeps I call) (hf : ∀ a, Keeps I (f a)) : Keeps I (call >>= f) := by
  intro s hs
  have h1 := hc s hs
  rcases bind_cases call f s with ⟨e, _, h⟩ | ⟨_, h⟩ | ⟨a, _, h⟩ <;> rw [h]
  · exact h1
  · exact h1
  exact hf a _ h1

theorem Keeps.when {call : Call σ ε Unit} (c : Bool) (h : Keeps I call) :
    Keeps I (when c call) := by
  cases c with
  | true => exact h
  | false => exact keeps_pure ()

theorem keeps_get_bind {f : σ → Call σ ε β} (h : ∀ s, I s → Keeps I (f s)) :
    Keeps I (get >>= f) := fun s hs => h s hs s hs

/-- After a function that leaves the state alone, the rest may use what the function gave. -/
theorem keeps_lift_bind {outcome : Outcome ε α} (h : ∀ a, outcome = .ok a → Keeps I (f a)) :
    Keeps I (lift outcome >>= f) := by
  intro s hs
  cases houtcome : outcome with
  | ok a => exact h a houtcome s hs
  | err e | panicked => exact hs

theorem Keeps.map_err (h : Keeps I call) (g : ε → ε') : Keeps I (call.map_err g) := h

theorem Keeps.is_ok (h : Keeps I call) : Keeps I (call.is_ok : Call σ ε' Bool) := h

/-- A call on a part keeps what its changes of the part keep. -/
theorem Keeps.on {part : σ → τ} {put : σ → τ → σ} {call : Call τ ε α} {J : τ → Prop}
    (h : Keeps J call) (hpart : ∀ s, I s → J (part s)) (hput : ∀ s t, I s → J t → I (put s t)) :
    Keeps I (call.on part put) :=
  fun s hs => hput s _ hs (h _ (hpart s hs))

theorem Keeps.for_each {f : α → Call σ ε Unit} (h : ∀ a, Keeps I (f a)) (l : List α) :
    Keeps I (for_each f l) := by
  induction l with
  | nil => exact keeps_pure ()
  | cons a l ih => exact (h a).bind fun _ => ih

end keeps

/-! ## From one condition to another -/

/-- From every state that meets `I`, the call leaves a state that meets `Q` for the value that it
gives, or `E` when it gives none. -/
def Leads (I : σ → Prop) (call : Call σ ε α) (Q : α → σ → Prop) (E : σ → Prop) : Prop :=
  ∀ s, I s → match (call.run s).2 with
    | .ok a => Q a (call.run s).1
    | _ => E (call.run s).1

section leads

variable {I E S : σ → Prop} {Q : α → σ → Prop} {R : β → σ → Prop}

theorem leads_pure (h : ∀ s, I s → Q a s) : Leads I (pure a : Call σ ε α) Q E := h

theorem leads_modify {Q : Unit → σ → Prop} (h : ∀ s, I s → Q () (g s)) :
    Leads I (modify g : Call σ ε Unit) Q E := h

theorem leads_get_bind {f : σ → Call σ ε β} (h : ∀ s, I s → Leads (· = s) (f s) R E) :
    Leads I (get >>= f) R E := fun s hs => h s hs s rfl

theorem Leads.bind (hc : Leads I call Q E) (hf : ∀ a, Leads (Q a) (f a) R E) :
    Leads I (call >>= f) R E := by
  intro s hs
  have h := hc s hs
  rcases bind_cases call f s with ⟨e, he, hrun⟩ | ⟨hp, hrun⟩ | ⟨a, ha, hrun⟩
  · rw [he] at h
    rw [hrun]
    exact h
  · rw [hp] at h
    rw [hrun]
    exact h
  rw [ha] at h
  rw [hrun]
  exact hf a _ h

theorem Leads.state (h : Leads I call (fun _ => S) S) (hs : I s) : S (call.run s).1 := by
  have h := h s hs
  split at h <;> exact h

/-- Whatever the call gives, the state it leaves meets the condition. -/
theorem leads_of_state (h : ∀ s, I s → S (call.run s).1) (hE : ∀ s, S s → E s) :
    Leads I call (fun _ => S) E := by
  intro s hs
  have h := h s hs
  split
  · exact h
  · exact hE _ h

end leads

/-! ## How a call ends -/

/-- The call ends with an error that is set aside, or in a state and with an outcome that have
the property. -/
def Ends (aside : ε → Prop) (call : Call σ ε α) (s : σ) (Q : σ → Outcome ε α → Prop) : Prop :=
  (∃ e, (call.run s).2 = .err e ∧ aside e) ∨ Q (call.run s).1 (call.run s).2

section ends

variable {aside : ε → Prop} {Q R : σ → Outcome ε α → Prop} {P : σ → Outcome ε β → Prop}

theorem Ends.mono (h : Ends aside call s Q) (hQR : ∀ s' o, Q s' o → R s' o) : Ends aside call s R :=
  h.imp id (hQR _ _)

theorem ends_pure (h : Q s (.ok a)) : Ends aside (pure a) s Q := .inr h

theorem ends_modify {Q : σ → Outcome ε Unit → Prop} (h : Q (g s) (.ok ())) :
    Ends aside (modify g) s Q := .inr h

theorem ends_get_bind {f : σ → Call σ ε β} (h : Ends aside (f s) s P) :
    Ends aside (get >>= f) s P := h

theorem ends_modify_bind {f : Unit → Call σ ε β} (h : Ends aside (f ()) (g s) P) :
    Ends aside (modify g >>= f) s P := h

theorem ends_pure_bind (h : Ends aside (f a) s P) : Ends aside (pure a >>= f) s P := h

/-- A check that may fail, and then the rest. -/
theorem ends_check_bind {x : Except ε' α} {g : ε' → ε} (hok : ∀ a, x = .ok a → Ends aside (f a) s P)
    (herr : ∀ e, x = .error e → P s (.err (g e))) :
    Ends aside (lift (Outcome.lift g x) >>= f) s P := by
  cases x with
  | ok a => exact hok a rfl
  | error e => exact .inr (herr e rfl)

/-- A value that may be missing, and then the rest. -/
theorem ends_ok_or_bind {option : Option α} {error : ε}
    (hsome : ∀ a, option = some a → Ends aside (f a) s P)
    (hnone : option = none → aside error ∨ P s (.err error)) :
    Ends aside (lift (Outcome.ok_or option error) >>= f) s P := by
  cases option with
  | some a => exact hsome a rfl
  | none =>
    rcases hnone rfl with haside | hP
    · exact .inl ⟨error, rfl, haside⟩
    · exact .inr hP

/-- The second call goes on where the first one ended well. -/
theorem Ends.bind (h : Ends aside call s Q) (hok : ∀ s' a, Q s' (.ok a) → Ends aside (f a) s' P)
    (herr : ∀ s' e, Q s' (.err e) → P s' (.err e))
    (hpanicked : ∀ s', Q s' .panicked → P s' .panicked) : Ends aside (call >>= f) s P := by
  rcases h with ⟨e, he, haside⟩ | h
  · left
    rcases bind_cases call f s with ⟨e', he', hrun⟩ | ⟨hp, -⟩ | ⟨a, ha, -⟩
    · rw [he] at he'
      cases he'
      exact ⟨e, by rw [hrun], haside⟩
    · rw [he] at hp
      cases hp
    · rw [he] at ha
      cases ha
  · rcases bind_cases call f s with ⟨e, he, hrun⟩ | ⟨hp, hrun⟩ | ⟨a, ha, hrun⟩
    · right
      rw [hrun]
      exact herr _ e (he ▸ h)
    · right
      rw [hrun]
      exact hpanicked _ (hp ▸ h)
    have hnext := hok _ a (ha ▸ h)
    unfold Ends at hnext ⊢
    rw [hrun]
    exact hnext

/-- The same, for a first call that always ends well. -/
theorem Ends.followed_by {S : σ → Prop} (h : Ends aside call s fun s' o => o = .ok a ∧ S s')
    (hnext : ∀ s', S s' → Ends aside (f a) s' P) : Ends aside (call >>= f) s P := by
  apply h.bind
  · rintro s' b ⟨hb, hs⟩
    cases hb
    exact hnext s' hs
  · rintro s' e ⟨he, -⟩
    cases he
  · rintro s' ⟨hp, -⟩
    cases hp

end ends

end Call

end rust
