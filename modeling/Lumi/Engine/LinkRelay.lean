-- The relay of the deck clock to Ableton Link. It remembers the last clock of
-- Pro DJ Link and hands on only what is new, so what it remembers has to be
-- what the provider accepted.
import Lumi.Replay

open replay

/-! ## Clock observations -/

namespace lumi_timing_output

inductive TimingSourceKind where
  | LocalPlayback
  | ProDjLink
deriving DecidableEq

structure LinkClockObservation where
  source : TimingSourceKind
  deck_number : Option UInt8
  bpm_milli : UInt32
  beat_within_bar : UInt8
  playing : Bool
  observed_at_micros : Option UInt64
deriving DecidableEq

/-- The calls that reach the provider of the timing output. -/
inductive ProviderCall where
  | RequestPublish
  | Synchronize (observation : LinkClockObservation)
  | FailClosed (reason : String)
  | Stop
deriving DecidableEq

/-- What the provider answers: nothing, or the text of its error. -/
abbrev Answer := Except String Unit

end lumi_timing_output

open lumi_timing_output

namespace lumi_engine

/-! ## The relay -/

def MINIMUM_PROLINK_TIMING_STALE_AFTER : Nat := 3000000

def MAXIMUM_PROLINK_TIMING_STALE_AFTER : Nat := 8000000

def PROLINK_TIMING_STALE_BEATS : Nat := 8

/-- Times are in microseconds. Eight beats of at most 60 seconds each need no saturation. -/
def prolink_timing_stale_after (bpm_milli : Option UInt32) : Nat :=
  let beat_window := ((bpm_milli.filter (0 < ·)).map fun bpm =>
    60000000000 * PROLINK_TIMING_STALE_BEATS / bpm.toNat).getD MINIMUM_PROLINK_TIMING_STALE_AFTER
  min (max beat_window MINIMUM_PROLINK_TIMING_STALE_AFTER) MAXIMUM_PROLINK_TIMING_STALE_AFTER

/-- The provider stands for the calls that it got, from the last to the first, with its answers. -/
structure LinkRelay where
  provider : List (ProviderCall × Answer)
  enabled : Bool
  last_prolink_timing_at : Option Nat
  last_prolink_bpm_milli : Option UInt32
  last_prolink_playing : Option Bool
  last_prolink_deck_number : Option UInt8
  last_prolink_observed_at_micros : Option UInt64
  prolink_timing_stale : Bool

namespace LinkRelay

def new : LinkRelay := ⟨[], false, none, none, none, none, none, false⟩

variable (self : LinkRelay)

def reset_prolink_freshness : LinkRelay :=
  { self with
    last_prolink_timing_at := none
    last_prolink_bpm_milli := none
    last_prolink_playing := none
    last_prolink_deck_number := none
    last_prolink_observed_at_micros := none
    prolink_timing_stale := false }

/-- The provider is called, and answers. -/
def call (call : ProviderCall) (answer : Answer) : LinkRelay :=
  { self with provider := (call, answer) :: self.provider }

/-- Each function of the relay calls the provider once at most; the last argument is the answer
that the call would get. -/
def set_enabled (enabled : Bool) (answer : Answer) : LinkRelay × Answer :=
  if enabled = self.enabled then (self, .ok ())
  else if enabled then
    match answer with
    | .error error => (self.call .RequestPublish answer, .error error)
    | .ok () => ({ self.call .RequestPublish answer with enabled := true }, .ok ())
  else
    (reset_prolink_freshness { self.call .Stop answer with enabled := false }, answer)

/-- The observation is older than the last one. -/
def is_older (observation : LinkClockObservation) : Bool :=
  match self.last_prolink_observed_at_micros, observation.observed_at_micros with
  | some previous, some current => current < previous
  | _, _ => false

def materially_changed (observation : LinkClockObservation) : Bool :=
  self.prolink_timing_stale || self.last_prolink_bpm_milli != some observation.bpm_milli ||
    self.last_prolink_playing != some observation.playing ||
    self.last_prolink_deck_number != observation.deck_number

/-- The relay with the observation as the last clock of Pro DJ Link. -/
def taking (now : Nat) (observation : LinkClockObservation) : LinkRelay :=
  { self with
    last_prolink_timing_at := some now
    last_prolink_bpm_milli := some observation.bpm_milli
    last_prolink_playing := some observation.playing
    last_prolink_deck_number := observation.deck_number
    last_prolink_observed_at_micros := observation.observed_at_micros
    prolink_timing_stale := false }

def synchronize (now : Nat) (observation : LinkClockObservation) (answer : Answer) :
    LinkRelay × Answer :=
  if !self.enabled then (self, .ok ())
  else if observation.source = .ProDjLink then
    if self.is_older observation then (self, .ok ())
    else if !self.materially_changed observation then (self.taking now observation, .ok ())
    else ((self.taking now observation).call (.Synchronize observation) answer, answer)
  else (self.reset_prolink_freshness.call (.Synchronize observation) answer, answer)

def fail_closed (reason : String) (answer : Answer) : LinkRelay × Answer :=
  if !self.enabled || self.prolink_timing_stale then (self, .ok ())
  else
    match answer with
    | .error error => (self.call (.FailClosed reason) answer, .error error)
    | .ok () =>
      ({ self.call (.FailClosed reason) answer with prolink_timing_stale := true }, .ok ())

def reconcile_prolink_freshness (now : Nat) (source_ready : Bool) (source_status : String)
    (answer : Answer) : LinkRelay × Answer :=
  if !self.enabled || self.prolink_timing_stale then (self, .ok ())
  else
    match self.last_prolink_timing_at with
    | none => (self, .ok ())
    | some last_timing_at =>
      if source_ready && self.last_prolink_playing == some false then (self, .ok ())
      else
        let age := now - last_timing_at
        if source_ready && age ≤ prolink_timing_stale_after self.last_prolink_bpm_milli then
          (self, .ok ())
        else
          let reason :=
            if source_ready then
              "Pro DJ Link timing is stale (" ++ toString (age / 1000) ++
                " ms without a clock observation); last Link tempo preserved"
            else "Pro DJ Link source is " ++ source_status ++ "; last Link tempo preserved"
          self.fail_closed reason answer

/-! ## Runs -/

/-- A call of the relay, with the time that it reads and the answer that it would get. -/
inductive RelayCall where
  | SetEnabled (enabled : Bool) (answer : Answer)
  | Synchronize (now : Nat) (observation : LinkClockObservation) (answer : Answer)
  | FailClosed (reason : String) (answer : Answer)
  | ReconcileFreshness (now : Nat) (source_ready : Bool) (source_status : String) (answer : Answer)

def perform : RelayCall → LinkRelay × Answer
  | .SetEnabled enabled answer => self.set_enabled enabled answer
  | .Synchronize now observation answer => self.synchronize now observation answer
  | .FailClosed reason answer => self.fail_closed reason answer
  | .ReconcileFreshness now source_ready source_status answer =>
    self.reconcile_prolink_freshness now source_ready source_status answer

/-- The relay as a machine. It refuses no call: one that fails stays done as far as it got. -/
def relay : Machine LinkRelay RelayCall Empty LinkRelay where
  start := new
  reduce self call := .ok (self.perform call).1
  next := id

end LinkRelay

/-! ## What the provider has -/

/-- The observation that the provider accepted last since it was last asked to publish, unless it
has accepted to fail closed since. -/
def accepted : List (ProviderCall × Answer) → Option LinkClockObservation
  | [] => none
  | (.Synchronize observation, .ok ()) :: _ => some observation
  | (.FailClosed _, .ok ()) :: _ => none
  | (.RequestPublish, .ok ()) :: _ => none
  | _ :: calls => accepted calls

/-- The provider refused the observation that it got last since it was last asked to publish, and
has not accepted to fail closed since. -/
def refused : List (ProviderCall × Answer) → Bool
  | [] => false
  | (.Synchronize _, .ok ()) :: _ => false
  | (.Synchronize _, .error _) :: _ => true
  | (.FailClosed _, .ok ()) :: _ => false
  | (.RequestPublish, .ok ()) :: _ => false
  | _ :: calls => refused calls

/-- The provider has the tempo, the state and the deck of the observation. -/
def Visible (calls : List (ProviderCall × Answer)) (observation : LinkClockObservation) : Prop :=
  ∃ last, accepted calls = some last ∧ last.bpm_milli = observation.bpm_milli ∧
    last.playing = observation.playing ∧ last.deck_number = observation.deck_number

namespace LinkRelay

variable {self : LinkRelay} {now : Nat} {observation : LinkClockObservation} {answer : Answer}

/-- What an enabled relay remembers is what the provider has, unless the provider refused it; and
a relay that is not enabled remembers nothing. -/
structure Honest (r : LinkRelay) : Prop where
  idle : r.enabled = false → r.last_prolink_bpm_milli = none
  remembered : ∀ observation, r.materially_changed observation = false →
    refused r.provider = false → Visible r.provider observation

/-- A relay that remembers no tempo takes every observation for a new one. -/
theorem honest_of_blank (h : self.last_prolink_bpm_milli = none) : self.Honest := by
  refine ⟨fun _ => h, fun observation hsame => ?_⟩
  simp [materially_changed, h] at hsame

theorem honest_of_stale (henabled : self.enabled = true) (h : self.prolink_timing_stale = true) :
    self.Honest := by
  refine ⟨fun hoff => ?_, fun observation hsame => ?_⟩
  · rw [henabled] at hoff
    cases hoff
  · simp [materially_changed, h] at hsame

theorem honest_set_enabled (h : self.Honest) (enabled : Bool) :
    (self.set_enabled enabled answer).1.Honest := by
  unfold set_enabled
  split
  · exact h
  rename_i hchange
  split
  · rename_i hon
    rw [hon, eq_comm, Bool.not_eq_true] at hchange
    have hblank := h.idle hchange
    cases answer <;> exact honest_of_blank hblank
  · exact honest_of_blank rfl

/-- A call to fail closed that is refused leaves what the provider has. -/
theorem honest_fail_closed (h : self.Honest) (reason : String) :
    (self.fail_closed reason answer).1.Honest := by
  unfold fail_closed
  split
  · exact h
  rename_i hlive
  cases answer with
  | error error => exact ⟨h.idle, h.remembered⟩
  | ok u =>
    refine honest_of_stale ?_ rfl
    simp only [Bool.or_eq_true, Bool.not_eq_true', not_or, Bool.not_eq_false] at hlive
    exact hlive.1

/-- The observations that the relay takes for the same. -/
theorem same_of_unchanged {other : LinkClockObservation}
    (h : (self.taking now observation).materially_changed other = false) :
    observation.bpm_milli = other.bpm_milli ∧ observation.playing = other.playing ∧
      observation.deck_number = other.deck_number := by
  simpa [materially_changed, taking, and_assoc] using h

theorem honest_synchronize (h : self.Honest) :
    (self.synchronize now observation answer).1.Honest := by
  unfold synchronize
  split
  · exact h
  rename_i henabled
  rw [Bool.not_eq_true', Bool.not_eq_false] at henabled
  have hon : ∀ {P : Prop}, self.enabled = false → P := fun hoff => by
    rw [henabled] at hoff
    cases hoff
  split
  · split
    · exact h
    split
    · rename_i hsame
      rw [Bool.not_eq_true'] at hsame
      refine ⟨hon, fun other hother hrefused => ?_⟩
      obtain ⟨last, haccepted, hbpm, hplaying, hdeck⟩ := h.remembered observation hsame hrefused
      obtain ⟨hbpm', hplaying', hdeck'⟩ := same_of_unchanged hother
      exact ⟨last, haccepted, hbpm.trans hbpm', hplaying.trans hplaying', hdeck.trans hdeck'⟩
    · refine ⟨hon, fun other hother hrefused => ?_⟩
      cases answer with
      | error error => cases hrefused
      | ok u =>
        have hsame : (self.taking now observation).materially_changed other = false := hother
        exact ⟨observation, rfl, same_of_unchanged hsame⟩
  · exact honest_of_blank rfl

theorem honest_reconcile (h : self.Honest) (source_ready : Bool) (source_status : String) :
    (self.reconcile_prolink_freshness now source_ready source_status answer).1.Honest := by
  unfold reconcile_prolink_freshness
  split
  · exact h
  split
  · exact h
  split
  · exact h
  dsimp only
  split
  · exact h
  · exact honest_fail_closed h _

theorem honest_reachable (h : relay.Reachable self) : self.Honest := by
  refine Machine.reachable_keeps (P := Honest) (honest_of_blank rfl) ?_ h
  intro self call r hself hstep
  cases hstep
  cases call with
  | SetEnabled enabled answer => exact honest_set_enabled hself enabled
  | Synchronize now observation answer => exact honest_synchronize hself
  | FailClosed reason answer => exact honest_fail_closed hself reason
  | ReconcileFreshness now source_ready source_status answer =>
    exact honest_reconcile hself source_ready source_status

/-! ## The law -/

/-- After every run, an observation of Pro DJ Link that the enabled relay takes with `Ok` is
visible to the provider exactly when it was so before, or it is news to the relay, or the provider
did not refuse the last observation that it got. -/
theorem a_tempo_is_hidden_only_after_a_refusal (h : relay.Reachable self)
    (henabled : self.enabled = true) (hsource : observation.source = .ProDjLink)
    (holder : self.is_older observation = false)
    (hok : (self.synchronize now observation answer).2 = .ok ()) :
    Visible (self.synchronize now observation answer).1.provider observation ↔
      Visible self.provider observation ∨ self.materially_changed observation = true ∨
        refused self.provider = false := by
  unfold synchronize at hok ⊢
  simp only [henabled, Bool.not_true, Bool.false_eq_true, ↓reduceIte, hsource, holder] at hok ⊢
  cases hchanged : self.materially_changed observation with
  | true =>
    simp only [hchanged, Bool.not_true, Bool.false_eq_true, ↓reduceIte] at hok ⊢
    subst hok
    exact iff_of_true ⟨observation, rfl, rfl, rfl, rfl⟩ (.inr (.inl trivial))
  | false =>
    simp only [Bool.not_false, ↓reduceIte, Bool.false_eq_true, false_or]
    change Visible self.provider observation ↔ _
    refine ⟨.inl, fun hcase => ?_⟩
    rcases hcase with hvisible | hrefused
    · exact hvisible
    · exact (honest_reachable h).remembered observation hchanged hrefused

end LinkRelay

namespace sample

/-- A clock of the first deck at 128 beats a minute. -/
def clock : LinkClockObservation := ⟨.ProDjLink, some 1, 128000, 1, true, some 1000000⟩

end sample

open sample

theorem a_first_tempo_is_visible :
    Visible
      ((LinkRelay.relay.run [.SetEnabled true (.ok ())]).synchronize 0 clock (.ok ())).1.provider
      clock :=
  (LinkRelay.a_tempo_is_hidden_only_after_a_refusal (Machine.reachable_run _) rfl rfl rfl rfl).mpr
    (.inr (.inl rfl))

/-- The provider refuses a clock. The same clock is then taken with `Ok`, and the provider has
accepted none. -/
theorem a_refused_tempo_is_taken_the_second_time :
    ((LinkRelay.relay.run [.SetEnabled true (.ok ())]).synchronize 0 clock
        (.error "helper is gone")).2 = .error "helper is gone" ∧
      ((LinkRelay.relay.run [.SetEnabled true (.ok ()), .Synchronize 0 clock
        (.error "helper is gone")]).synchronize 0 clock (.ok ())).2 = .ok () ∧
      ¬ Visible ((LinkRelay.relay.run [.SetEnabled true (.ok ()), .Synchronize 0 clock
        (.error "helper is gone")]).synchronize 0 clock (.ok ())).1.provider clock := by
  refine ⟨rfl, rfl, ?_⟩
  rintro ⟨last, haccepted, _⟩
  cases haccepted

end lumi_engine
