-- Delivery at least once. An event that was accepted before is only counted and
-- journaled when it comes again, so a run with such events in it and the run
-- without them go the same way.
import Lumi.Watermark
import Lumi.Domain.Steps

open rust replay
open Machine (reductions_snoc_ok run_snoc step_error step_ok)

variable {s s' : RuntimeState} {e : DomainEvent} {r : Reduction} {es es' : List DomainEvent}
  {t : MonotonicTime} {x : ReducerError}

namespace lumi_domain

open RuntimeState (push_bounded)

/-! ## The watermarks -/

/-- The sender has sent the number of the event before. -/
def Seen (s : RuntimeState) : DomainEvent → Prop
  | .Observation e => ObservationSeen s e
  | .UserCommand e => CommandSeen s e
  | .EffectResult e => EffectSeen s e
  | _ => False

/-- The numbers that were seen stay seen. -/
def MarksKept (s s' : RuntimeState) : Prop :=
  watermark.Keeps s.source_sequences s'.source_sequences ∧
    watermark.Keeps s.command_sequences s'.command_sequences ∧
    watermark.Keeps s.effect_sequences s'.effect_sequences

theorem MarksKept.refl (s : RuntimeState) : MarksKept s s :=
  ⟨watermark.Keeps.refl _, watermark.Keeps.refl _, watermark.Keeps.refl _⟩

theorem MarksKept.trans {s s' s'' : RuntimeState} (h : MarksKept s s') (h' : MarksKept s' s'') :
    MarksKept s s'' := by
  obtain ⟨h1, h2, h3⟩ := h
  obtain ⟨h1', h2', h3'⟩ := h'
  exact ⟨h1.trans h1', h2.trans h2', h3.trans h3'⟩

theorem MarksKept.seen (h : MarksKept s s') (he : Seen s e) : Seen s' e := by
  obtain ⟨hsources, hcommands, heffects⟩ := h
  cases e with
  | Observation e => exact hsources _ _ he
  | UserCommand e => exact hcommands _ _ he
  | EffectResult e => exact heffects _ _ he
  | RuntimeStarted t | QueueOverloaded overload => exact he

theorem marksKept_settled {e : ObservationEnvelope} (hnew : ¬ ObservationSeen s e) :
    MarksKept s (settledOf s e).state := by
  obtain ⟨_, _, _, _, _, _, hs⟩ :=
    settle_frame (stamped s e) e.source_id e.observed_at e.observation
  have hmarks : MarksKept s (stamped s e) :=
    ⟨watermark.keeps_insert hnew, watermark.Keeps.refl _, watermark.Keeps.refl _⟩
  rw [settledOf, hs]
  exact hmarks

theorem marksKept_commanded {e : UserCommandEnvelope} (target : OperationState)
    (hnew : ¬ CommandSeen s e) : MarksKept s (commanded s e target) :=
  ⟨watermark.Keeps.refl _, watermark.keeps_insert hnew, watermark.Keeps.refl _⟩

theorem does_marks (h : Does s e r) : MarksKept s r.state := by
  cases h with
  | started | stale | repeated | redelivered | overloaded => exact MarksKept.refl s
  | regressed hnew => exact ⟨watermark.keeps_insert hnew, .refl _, .refl _⟩
  | settled hnew => exact marksKept_settled hnew
  | scheduled hnew _ _ hx =>
    obtain ⟨p, c, n, _, _, _, rfl, _⟩ := hx
    exact marksKept_settled hnew
  | @closed _ target hnew => exact marksKept_commanded target hnew
  | opened hnew => exact marksKept_commanded _ hnew
  | resumed hnew _ _ _ hx =>
    obtain ⟨p, c, n, _, _, _, rfl, _⟩ := hx
    exact marksKept_commanded .Live hnew
  | noted hnew | planned hnew | recorded hnew =>
    exact ⟨.refl _, .refl _, watermark.keeps_insert hnew⟩

/-- The senders number the event. -/
def Numbered : DomainEvent → Prop
  | .Observation _ | .UserCommand _ | .EffectResult _ => True
  | _ => False

/-- Whatever an event does, its number is seen afterwards. -/
theorem does_seen (hn : Numbered e) (h : Does s e r) : Seen r.state e := by
  have hsettled : ∀ e, ObservationSeen (settledOf s e).state e := by
    intro e
    obtain ⟨_, _, _, _, _, _, hs⟩ :=
      settle_frame (stamped s e) e.source_id e.observed_at e.observation
    rw [settledOf, hs]
    exact watermark.seen_insert _ _ _
  cases h with
  | started | overloaded => exact hn.elim
  | stale hseen | repeated hseen | redelivered hseen => exact hseen
  | regressed | closed | opened | noted | planned | recorded => exact watermark.seen_insert _ _ _
  | settled => exact hsettled _
  | scheduled _ _ _ hx =>
    obtain ⟨p, c, n, _, _, _, rfl, _⟩ := hx
    exact hsettled _
  | resumed _ _ _ _ hx =>
    obtain ⟨p, c, n, _, _, _, rfl, _⟩ := hx
    exact watermark.seen_insert _ _ _

theorem reduce_marks (h : reduce s e = .ok r) : MarksKept s r.state := by
  obtain ⟨r0, n, revision, hdoes, _, _, rfl⟩ := reduce_does h
  have hmarks : MarksKept s r0.state := does_marks hdoes
  exact hmarks

theorem reduce_seen (hn : Numbered e) (h : reduce s e = .ok r) : Seen r.state e := by
  obtain ⟨r0, n, revision, hdoes, _, _, rfl⟩ := reduce_does h
  have hmarks : MarksKept r0.state (journaled r0.state e r0.decision n revision) :=
    MarksKept.refl r0.state
  exact hmarks.seen (does_seen hn hdoes)

/-- The event has a number and was accepted at some point of the run. -/
def Accepted (es : List DomainEvent) (e : DomainEvent) : Prop :=
  Numbered e ∧ ∃ k r, es[k]? = some e ∧ reduce (reducer.run (es.take k)) e = .ok r

/-- An event that was accepted stays seen to the end of the run. -/
theorem accepted_seen (h : Accepted es e) : Seen (reducer.run es) e := by
  obtain ⟨hn, k, r, hk, hr⟩ := h
  have hafter : Seen (reducer.run (es.take (k + 1))) e := by
    rw [Machine.run_take_succ_get hk, step_ok (m := reducer) hr]
    exact reduce_seen hn hr
  have hlen : k + 1 ≤ es.length := (List.getElem?_eq_some_iff.mp hk).1
  have hmarks := Machine.run_take_relates (m := reducer) (Q := MarksKept) MarksKept.refl
    (fun _ _ _ h h' => h.trans h') (fun _ _ _ hr => reduce_marks hr) es hlen
  rw [List.take_length] at hmarks
  exact hmarks.seen hafter

/-! ## A seen event -/

/-- Only the count, the last decision and the timeline differ. -/
def OnlyJournaled (s s' : RuntimeState) : Prop :=
  ∃ n decision timeline, s' =
    { s with processed_events := n, last_decision := decision, timeline := timeline }

/-- The event is accepted, with no effect, and only journaled. -/
def Ignored (s : RuntimeState) (e : DomainEvent) : Prop :=
  ∃ r, reduce s e = .ok r ∧ r.effects = [] ∧ OnlyJournaled s r.state

theorem reduce_event_seen (h : Seen s e) :
    ∃ decision, reduce_event s e = .ok ⟨s, decision, [], false⟩ := by
  cases e with
  | Observation e =>
    refine ⟨.StaleObservationIgnored, ?_⟩
    simp only [reduce_event, reduce_observation]
    rw [if_pos (any_iff_exists.mpr h)]
  | UserCommand e =>
    refine ⟨.DuplicateCommandIgnored, ?_⟩
    simp only [reduce_event, reduce_command]
    rw [if_pos (any_iff_exists.mpr h)]
  | EffectResult e =>
    refine ⟨.DuplicateEffectIgnored, ?_⟩
    simp only [reduce_event, reduce_effect_result]
    rw [if_pos (any_iff_exists.mpr h)]
  | RuntimeStarted t | QueueOverloaded overload => exact h.elim

/-- With room in the count, an event fails to be recorded only when the revision is at its
end. -/
theorem record_event_room (h : r.state.processed_events.toNat + 1 < 2 ^ 64) :
    record_event e r =
      match (if r.state_changed then r.state.revision.checked_next
        else some r.state.revision) with
      | none => .error .StateRevisionOverflow
      | some revision =>
        let n := r.state.processed_events + 1
        .ok { r with state := journaled r.state e r.decision n revision } := by
  have hn : checked_add r.state.processed_events 1 = some (r.state.processed_events + 1) := by
    unfold checked_add
    rw [if_pos]
    exact h
  simp only [record_event, hn, RuntimeState.push_timeline]
  cases hc : r.state_changed with
  | false => rfl
  | true =>
    simp only [if_true]
    cases r.state.revision.checked_next <;> rfl

theorem record_event_full (h : 2 ^ 64 ≤ r.state.processed_events.toNat + 1) :
    record_event e r = .error .ProcessedEventOverflow := by
  have hn : checked_add r.state.processed_events 1 = none := checked_add_eq_none.mpr h
  simp only [record_event, hn]

theorem reduce_ignored (h : Seen s e) (hroom : s.processed_events.toNat + 1 < 2 ^ 64) :
    Ignored s e := by
  obtain ⟨decision, he⟩ := reduce_event_seen h
  refine ⟨⟨journaled s e decision (s.processed_events + 1) s.revision, decision, [], false⟩, ?_,
    rfl, ⟨_, _, _, rfl⟩⟩
  simp only [reduce, he]
  rw [record_event_room hroom]
  rfl

/-! ## The reducer does not read the journal -/

/-- What a run without the redelivered events may hold in another way. -/
structure Journal where
  processed_events : UInt64
  last_decision : Option DecisionReason
  diagnostics : List Diagnostic
  timeline : List TimelineEntry

/-- The state with another journal. -/
def RuntimeState.withJournal (s : RuntimeState) (j : Journal) : RuntimeState :=
  { s with
    processed_events := j.processed_events
    last_decision := j.last_decision
    diagnostics := j.diagnostics
    timeline := j.timeline }

def Reduction.withJournal (r : Reduction) (j : Journal) : Reduction :=
  { r with state := r.state.withJournal j }

variable (s) (j : Journal)

theorem execution_effect_withJournal (d : DeckId)
    (l : TrackLoadId) (i : UInt16) (t : MonotonicTime) :
    execution_effect (s.withJournal j) d l i t =
      (execution_effect s d l i t).map fun x => (x.1.withJournal j, x.2) := by
  by_cases he : ∃ p c, Eligible s d l i p c
  · obtain ⟨p, c, he⟩ := he
    have he' : Eligible (s.withJournal j) d l i p c := he
    rw [execution_effect_eligible t he, execution_effect_eligible t he']
    have hlast : (s.withJournal j).last_scheduled_cue = s.last_scheduled_cue := rfl
    have hseq : (s.withJournal j).output_command_sequence = s.output_command_sequence := rfl
    rw [hlast, hseq]
    split
    · rfl
    · split <;> rfl
  · have hno : ∀ p c, ¬ Eligible s d l i p c := by simpa using he
    have hno' : ∀ p c, ¬ Eligible (s.withJournal j) d l i p c := hno
    rw [execution_effect_not_eligible t hno, execution_effect_not_eligible t hno']
    rfl

theorem forget_cue_of_withJournal (d : DeckId) :
    (s.withJournal j).forget_cue_of d = (s.forget_cue_of d).withJournal j := by
  rw [forget_cue_of_eq, forget_cue_of_eq]
  rfl

theorem settle_withJournal (src : SourceId) (t : MonotonicTime) (o : DeckObservation) :
    settle (s.withJournal j) src t o =
      { settle s src t o with state := (settle s src t o).state.withJournal j } := by
  have hl : ∀ d l, loaded (s.withJournal j) d l = loaded s d l := fun _ _ => rfl
  have hput : ∀ d deck, (s.withJournal j).put_deck d deck = (s.put_deck d deck).withJournal j :=
    fun _ _ => rfl
  cases o with
  | SourceStatusChanged status => rfl
  | TrackLoaded d m l =>
    simp only [settle, load_track_eq]
    rfl
  | TrackUnloaded d l =>
    simp only [settle, hl, unloaded_eq]
    split <;> rfl
  | PlaybackPositionSeeked d l beat =>
    simp only [settle, hl, hput, forget_cue_of_withJournal]
    split <;> rfl
  | PlaybackStateChanged d l playing =>
    simp only [settle, hl, hput, forget_cue_of_withJournal]
    split
    · rfl
    · cases playing <;> rfl
  | TrackMetadataHydrated d m l =>
    simp only [settle, hl, hput]
    split <;> rfl
  | PlaybackPosition d l beat | PlaybackTempoChanged d l bpm =>
    simp only [settle, hl, hput]
    split
    · rfl
    · split <;> rfl
  | PhraseChanged d l i =>
    simp only [settle, hl, hput]
    split
    · rfl
    split
    · have hop : (s.withJournal j).operation = s.operation := rfl
      rw [hop]
      split <;> rfl
    · rfl
  | LeaderChanged d l =>
    simp only [settle, hl]
    split <;> rfl

theorem observe_withJournal (src : SourceId) (t : MonotonicTime) (o : DeckObservation) :
    observe (s.withJournal j) src t o =
      (observe s src t o).map fun x => (x.1.withJournal j, x.2) := by
  rw [observe_eq, observe_eq, settle_withJournal]
  unfold launch
  simp only
  split
  · rfl
  unfold schedule
  rw [execution_effect_withJournal]
  generalize execution_effect (settle s src t o).state _ _ _ t = x
  rcases x with x | ⟨s', effect | effect⟩ <;> rfl

theorem reduce_observation_withJournal (e : ObservationEnvelope) :
    reduce_observation (s.withJournal j) e =
      (reduce_observation s e).map (·.withJournal j) := by
  have hseq : (s.withJournal j).source_sequences = s.source_sequences := rfl
  have htimes : (s.withJournal j).source_times = s.source_times := rfl
  simp only [reduce_observation, hseq, htimes]
  split
  · rfl
  split
  · rfl
  have ho := observe_withJournal (stamped s e) j e.source_id e.observed_at e.observation
  -- The state that the reducer numbers and stamps in place is `stamped s e`.
  rcases hs : observe (stamped s e) e.source_id e.observed_at e.observation with
    x | ⟨s', decision, effects⟩ <;> rw [hs] at ho <;> erw [ho, hs] <;> rfl

theorem reduce_command_withJournal (e : UserCommandEnvelope) :
    reduce_command (s.withJournal j) e = (reduce_command s e).map (·.withJournal j) := by
  have hseq : (s.withJournal j).command_sequences = s.command_sequences := rfl
  have hrev : (s.withJournal j).revision = s.revision := rfl
  have hop : (s.withJournal j).operation = s.operation := rfl
  simp only [reduce_command, hseq, hrev, hop]
  split
  · rfl
  split
  · rfl
  split
  · rfl
  rename_i target hto
  split
  · rfl
  split
  · rcases hs : current_phrase (commanded s e target) with _ | ⟨d, l, i⟩ <;> erw [hs]
    · rfl
    have hx := execution_effect_withJournal (commanded s e target) j d l i e.issued_at
    dsimp only
    rcases he : execution_effect (commanded s e target) d l i e.issued_at with x | ⟨s', effect⟩ <;>
      rw [he] at hx <;> erw [hx, he] <;> rfl
  · rfl

theorem accept_plan_withJournal (plan : LightingPlan) :
    accept_plan (s.withJournal j) plan = (accept_plan s plan).map (·.withJournal j) := by
  have hexp : expected_plan_revision (s.withJournal j) plan.deck_id =
      expected_plan_revision s plan.deck_id := rfl
  have hdecks : (s.withJournal j).decks = s.decks := rfl
  simp only [accept_plan, hexp, hdecks]
  split
  · rfl
  split
  · rfl
  split
  · rfl
  split
  · rfl
  · split <;> rfl

theorem reduce_effect_result_withJournal (e : EffectResultEnvelope) :
    reduce_effect_result (s.withJournal j) e =
      (reduce_effect_result s e).map (·.withJournal j) := by
  have hseq : (s.withJournal j).effect_sequences = s.effect_sequences := rfl
  simp only [reduce_effect_result, hseq]
  split
  · rfl
  split
  · exact accept_plan_withJournal (worked s e) j _
  · rfl
  · rfl

/-- An event that is no overload does the same whatever the journal holds. -/
theorem reduce_event_withJournal (he : ∀ overload, e ≠ .QueueOverloaded overload) :
    reduce_event (s.withJournal j) e = (reduce_event s e).map (·.withJournal j) := by
  cases e with
  | RuntimeStarted t =>
    have hh : (s.withJournal j).health = s.health := rfl
    simp only [reduce_event, reduce_runtime_started, hh]
    split <;> rfl
  | Observation e => exact reduce_observation_withJournal s j e
  | UserCommand e => exact reduce_command_withJournal s j e
  | EffectResult e => exact reduce_effect_result_withJournal s j e
  | QueueOverloaded overload => exact absurd rfl (he overload)

/-! ## Two runs -/

variable {s}

/-- An event leaves the count until it is recorded, and only an overload adds a diagnostic. -/
theorem does_journal (h : Does s e r) :
    r.state.processed_events = s.processed_events ∧
      ((∀ overload, e ≠ .QueueOverloaded overload) → r.state.diagnostics = s.diagnostics) := by
  have hsettle : ∀ e, (settledOf s e).state.processed_events = s.processed_events ∧
      (settledOf s e).state.diagnostics = s.diagnostics := by
    intro e
    obtain ⟨_, _, _, _, _, _, hs⟩ :=
      settle_frame (stamped s e) e.source_id e.observed_at e.observation
    rw [settledOf, hs]
    exact ⟨rfl, rfl⟩
  cases h with
  | @settled e => exact ⟨(hsettle e).1, fun _ => (hsettle e).2⟩
  | @scheduled e _ _ _ _ _ _ _ _ hx =>
    obtain ⟨p, c, n, _, _, _, rfl, _⟩ := hx
    exact ⟨(hsettle e).1, fun _ => (hsettle e).2⟩
  | resumed _ _ _ _ hx =>
    obtain ⟨p, c, n, _, _, _, rfl, _⟩ := hx
    exact ⟨rfl, fun _ => rfl⟩
  | overloaded => exact ⟨rfl, fun hno => absurd rfl (hno _)⟩
  | _ => exact ⟨rfl, fun _ => rfl⟩

/-- The diagnostic without the count at which it was noted. -/
def Diagnostic.unnumbered (d : Diagnostic) : Diagnostic := { d with sequence := 0 }

/-- The states agree but for the count, the last decision, the timeline and the numbers of the
diagnostics. -/
def Resembles (s s' : RuntimeState) : Prop :=
  ∃ j, s' = s.withJournal j ∧
    j.diagnostics.map Diagnostic.unnumbered = s.diagnostics.map Diagnostic.unnumbered

/-- The answers agree: the same error, or the same decision and the same effects. -/
def SameAnswer (x x' : Except ReducerError Reduction) : Prop :=
  (∃ error, x = .error error ∧ x' = .error error) ∨
    ∃ r r', x = .ok r ∧ x' = .ok r' ∧ r'.decision = r.decision ∧ r'.effects = r.effects ∧
      Resembles r.state r'.state

theorem map_push_bounded {α β : Type} (f : α → β) (n : Nat) (l : List α) (x : α) :
    (push_bounded n l x).map f = push_bounded n (l.map f) (f x) := by
  unfold push_bounded
  rw [List.map_append, List.length_map]
  split
  · rw [List.map_tail]
    rfl
  · rfl

/-- An event does the same to two states that resemble each other. -/
theorem reduce_event_resembles (e : DomainEvent) (h : Resembles s s') :
    (∃ error, reduce_event s e = .error error ∧ reduce_event s' e = .error error) ∨
      ∃ r r', reduce_event s e = .ok r ∧ reduce_event s' e = .ok r' ∧
        r'.decision = r.decision ∧ r'.effects = r.effects ∧
        r'.state_changed = r.state_changed ∧ Resembles r.state r'.state ∧
        r.state.processed_events = s.processed_events ∧
        r'.state.processed_events = s'.processed_events := by
  obtain ⟨j, rfl, hj⟩ := h
  by_cases ho : ∃ overload, e = .QueueOverloaded overload
  · obtain ⟨overload, rfl⟩ := ho
    right
    refine ⟨_, _, rfl, rfl, rfl, rfl, rfl, ?_, rfl, rfl⟩
    -- The two diagnostics differ in their numbers only.
    refine ⟨⟨j.processed_events, j.last_decision, _, j.timeline⟩, rfl, ?_⟩
    change List.map _ (push_bounded 64 j.diagnostics _) =
      List.map _ (push_bounded 64 s.diagnostics _)
    rw [map_push_bounded, map_push_bounded, hj]
    rfl
  · have hno : ∀ overload, e ≠ .QueueOverloaded overload := by simpa using ho
    rw [reduce_event_withJournal s j hno]
    cases hr : reduce_event s e with
    | error error => exact .inl ⟨error, rfl, rfl⟩
    | ok r =>
      right
      obtain ⟨hn, hdiag⟩ := does_journal (reduce_event_does hr)
      refine ⟨r, r.withJournal j, rfl, rfl, rfl, rfl, rfl, ⟨j, rfl, ?_⟩, hn, rfl⟩
      rw [hdiag hno]
      exact hj

theorem count_succ_le {a b : UInt64} (hle : a.toNat ≤ b.toNat) (hb : b.toNat + 1 < 2 ^ 64) :
    (a + 1).toNat ≤ (b + 1).toNat := by
  rw [UInt64.toNat_add, UInt64.toNat_add, UInt64.toNat_one, Nat.mod_eq_of_lt hb,
    Nat.mod_eq_of_lt (by omega)]
  omega

/-- The one state resembles the other and has counted no more events. -/
def Trails (s s' : RuntimeState) : Prop :=
  Resembles s s' ∧ s.processed_events.toNat ≤ s'.processed_events.toNat

/-- As long as the longer count has room, an event gets the same answer in both states, and the
one still trails the other. -/
theorem reduce_trails (h : Trails s s') (hroom : reduce s' e ≠ .error .ProcessedEventOverflow) :
    SameAnswer (reduce s e) (reduce s' e) ∧ Trails (reducer.step s e) (reducer.step s' e) := by
  obtain ⟨hs, hle⟩ := h
  obtain ⟨error, he, he'⟩ | ⟨r, r', he, he', hd, heff, hc, hres, hn, hn'⟩ :=
    reduce_event_resembles e hs
  · have hx : reduce s e = .error error := by simp only [reduce, he]
    have hx' : reduce s' e = .error error := by simp only [reduce, he']
    refine ⟨.inl ⟨error, hx, hx'⟩, ?_⟩
    rw [step_error (m := reducer) hx, step_error (m := reducer) hx']
    exact ⟨hs, hle⟩
  · have hfull : r'.state.processed_events.toNat + 1 < 2 ^ 64 := by
      by_contra hge
      apply hroom
      simp only [reduce, he']
      exact record_event_full (by omega)
    have hfree : r.state.processed_events.toNat + 1 < 2 ^ 64 := by
      rw [hn]
      rw [hn'] at hfull
      omega
    have hcount : (r.state.processed_events + 1).toNat ≤ (r'.state.processed_events + 1).toNat := by
      apply count_succ_le _ hfull
      rw [hn, hn']
      exact hle
    obtain ⟨j, hj, hdiag⟩ := hres
    have hrev : r'.state.revision = r.state.revision := by rw [hj]; rfl
    have hx : reduce s e = record_event e r := by simp only [reduce, he]
    have hx' : reduce s' e = record_event e r' := by simp only [reduce, he']
    rw [record_event_room hfree] at hx
    rw [record_event_room hfull, hc, hrev] at hx'
    cases hnext : (if r.state_changed then r.state.revision.checked_next
        else some r.state.revision) with
    | none =>
      rw [hnext] at hx hx'
      refine ⟨.inl ⟨_, hx, hx'⟩, ?_⟩
      rw [step_error (m := reducer) hx, step_error (m := reducer) hx']
      exact ⟨hs, hle⟩
    | some revision =>
      rw [hnext] at hx hx'
      have hafter : Resembles
          (journaled r.state e r.decision (r.state.processed_events + 1) revision)
          (journaled r'.state e r'.decision (r'.state.processed_events + 1) revision) := by
        rw [hj]
        exact ⟨⟨_, _, j.diagnostics, _⟩, rfl, hdiag⟩
      refine ⟨.inr ⟨_, _, hx, hx', hd, heff, hafter⟩, ?_⟩
      rw [step_ok (m := reducer) hx, step_ok (m := reducer) hx']
      exact ⟨hafter, hcount⟩

/-- The effects of a run, in their order. -/
def emitted (es : List DomainEvent) : List Effect :=
  (reducer.reductions es).flatMap Reduction.effects

/-- The second run is the first one with events in it that it has accepted before. -/
inductive Redelivered : List DomainEvent → List DomainEvent → Prop
  | nil : Redelivered [] []
  | event {es es' : List DomainEvent} (e : DomainEvent) (h : Redelivered es es') :
      Redelivered (es ++ [e]) (es' ++ [e])
  | again {es es' : List DomainEvent} {e : DomainEvent} (h : Redelivered es es')
      (he : Accepted es' e) : Redelivered es (es' ++ [e])

/-- The count of the processed events never stops an event of the run. -/
def NoOverflow (es : List DomainEvent) : Prop :=
  ∀ k e, es[k]? = some e → reduce (reducer.run (es.take k)) e ≠ .error .ProcessedEventOverflow

theorem reduce_count (h : reduce s e = .ok r) :
    r.state.processed_events.toNat = s.processed_events.toNat + 1 := by
  obtain ⟨r0, n, revision, hdoes, hn, _, rfl⟩ := reduce_does h
  rw [checked_add_eq_some, (does_journal hdoes).1] at hn
  exact hn.symm

/-- A run counts no more events than it has. -/
theorem count_le_length (es : List DomainEvent) (k : Nat) :
    (reducer.run (es.take k)).processed_events.toNat ≤ k := by
  induction k with
  | zero => exact Nat.le_refl 0
  | succ k ih =>
    rcases he : es[k]? with _ | e
    · rw [List.getElem?_eq_none_iff] at he
      rw [List.take_of_length_le (by omega)] at ih ⊢
      omega
    rw [Machine.run_take_succ_get he]
    cases hr : reduce (reducer.run (es.take k)) e with
    | error x =>
      rw [step_error (m := reducer) hr]
      omega
    | ok r =>
      rw [step_ok (m := reducer) hr]
      have hcount : r.state.processed_events.toNat = _ := reduce_count hr
      change r.state.processed_events.toNat ≤ _
      omega

theorem execution_effect_error {d : DeckId} {l : TrackLoadId} {i : UInt16}
    (h : execution_effect s d l i t = .error x) : x = .OutputCommandSequenceOverflow := by
  by_cases he : ∃ p c, Eligible s d l i p c
  · obtain ⟨p, c, he⟩ := he
    rw [execution_effect_eligible t he] at h
    split at h
    · cases h
    split at h <;> cases h
    rfl
  · rw [execution_effect_not_eligible t (by simpa using he)] at h
    cases h

theorem observe_error {src : SourceId} {o : DeckObservation} (h : observe s src t o = .error x) :
    x = .OutputCommandSequenceOverflow := by
  rw [observe_eq] at h
  unfold launch at h
  split at h
  · cases h
  unfold schedule at h
  split at h
  · rename_i x' hx
    cases h
    exact execution_effect_error hx
  · cases h
  · cases h

theorem accept_plan_no_overflow (s : RuntimeState) (plan : LightingPlan) :
    accept_plan s plan ≠ .error .ProcessedEventOverflow := by
  intro h
  unfold accept_plan at h
  repeat' split at h
  all_goals cases h
  rename_i hx
  unfold expected_plan_revision at hx
  repeat' split at hx
  all_goals cases hx

/-- The count of the events stops no event before it is recorded. -/
theorem reduce_event_no_overflow (s : RuntimeState) (e : DomainEvent) :
    reduce_event s e ≠ .error .ProcessedEventOverflow := by
  intro h
  cases e with
  | RuntimeStarted t =>
    simp only [reduce_event, reduce_runtime_started] at h
    split at h <;> cases h
  | Observation e =>
    simp only [reduce_event, reduce_observation] at h
    repeat' split at h
    all_goals cases h
    rename_i hx
    cases observe_error hx
  | UserCommand e =>
    simp only [reduce_event, reduce_command] at h
    repeat' split at h
    all_goals cases h
    rename_i hx
    cases execution_effect_error hx
  | EffectResult e =>
    simp only [reduce_event, reduce_effect_result] at h
    split at h
    · cases h
    split at h
    · rename_i plan _
      exact accept_plan_no_overflow _ plan h
    · cases h
    · cases h
  | QueueOverloaded overload => cases h

theorem noOverflow_of_length (h : es.length < 2 ^ 64) : NoOverflow es := by
  intro k e hk hr
  have hlt := (List.getElem?_eq_some_iff.mp hk).1
  have hle := count_le_length es k
  simp only [reduce] at hr
  split at hr
  · rename_i x hx
    cases hr
    exact reduce_event_no_overflow _ _ hx
  rename_i r hx
  have hn := (does_journal (reduce_event_does hx)).1
  rw [record_event_room (by rw [hn]; omega)] at hr
  split at hr <;> cases hr

theorem noOverflow_snoc (h : NoOverflow (es ++ [e])) :
    NoOverflow es ∧ reduce (reducer.run es) e ≠ .error .ProcessedEventOverflow := by
  constructor
  · intro k x hk
    have hlt := (List.getElem?_eq_some_iff.mp hk).1
    have hx := h k x (by rw [List.getElem?_append_left hlt]; exact hk)
    rwa [List.take_append_of_le_length (by omega)] at hx
  · have hx := h es.length e (by simp)
    rwa [List.take_left] at hx

theorem emitted_snoc (h : emitted es' = emitted es)
    (hsame : SameAnswer (reduce (reducer.run es) e) (reduce (reducer.run es') e)) :
    emitted (es' ++ [e]) = emitted (es ++ [e]) := by
  unfold emitted at h ⊢
  obtain ⟨error, hx, hx'⟩ | ⟨r, r', hx, hx', _, heff, _⟩ := hsame
  · rw [Machine.reductions_snoc_error (m := reducer) hx,
      Machine.reductions_snoc_error (m := reducer) hx', h]
  rw [reductions_snoc_ok (m := reducer) hx, reductions_snoc_ok (m := reducer) hx',
    List.flatMap_append, List.flatMap_append, h]
  simp [heff]

/-- A redelivered event leaves the run where it was, one count further. -/
theorem trails_again (h : Trails s s') (he : Seen s' e)
    (hroom : reduce s' e ≠ .error .ProcessedEventOverflow) :
    ∃ r, reduce s' e = .ok r ∧ r.effects = [] ∧ Trails s r.state := by
  obtain ⟨⟨j, hj, hdiag⟩, hle⟩ := h
  obtain ⟨decision, hx⟩ := reduce_event_seen he
  have hfull : s'.processed_events.toNat + 1 < 2 ^ 64 := by
    by_contra hge
    apply hroom
    simp only [reduce, hx]
    exact record_event_full (by simp only; omega)
  refine ⟨⟨journaled s' e decision (s'.processed_events + 1) s'.revision, decision, [], false⟩, ?_,
    rfl, ?_, ?_⟩
  · simp only [reduce, hx]
    rw [record_event_room hfull]
    rfl
  · rw [hj]
    exact ⟨⟨_, _, j.diagnostics, _⟩, rfl, hdiag⟩
  · simp only [journaled]
    rw [UInt64.toNat_add, UInt64.toNat_one, Nat.mod_eq_of_lt hfull]
    omega

theorem redelivered_trails (h : Redelivered es es') (hno : NoOverflow es') :
    Trails (reducer.run es) (reducer.run es') ∧ emitted es' = emitted es := by
  induction h with
  | nil => exact ⟨⟨⟨⟨0, none, [], []⟩, rfl, rfl⟩, Nat.le_refl _⟩, rfl⟩
  | event e _ ih =>
    obtain ⟨hno, hroom⟩ := noOverflow_snoc hno
    obtain ⟨htrail, hemit⟩ := ih hno
    obtain ⟨hsame, hnext⟩ := reduce_trails htrail hroom
    rw [run_snoc, run_snoc]
    exact ⟨hnext, emitted_snoc hemit hsame⟩
  | again _ he ih =>
    obtain ⟨hno, hroom⟩ := noOverflow_snoc hno
    obtain ⟨htrail, hemit⟩ := ih hno
    obtain ⟨r, hr, heff, hnext⟩ := trails_again htrail (accepted_seen he) hroom
    rw [run_snoc, step_ok (m := reducer) hr]
    refine ⟨hnext, ?_⟩
    unfold emitted at hemit ⊢
    rw [reductions_snoc_ok (m := reducer) hr, List.flatMap_append, hemit]
    simp [heff]

/-! ## The law -/

/-- An event that a run has accepted is ignored whenever it comes again, as long as the count has
room. So a run with such events in it ends in a state that resembles the state without them, with
the same effects, and gives every further event the same answer. -/
theorem delivery_at_least_once_is_harmless :
    (∀ es e, Accepted es e → (reducer.run es).processed_events.toNat + 1 < 2 ^ 64 →
      Ignored (reducer.run es) e) ∧
    ∀ es es', Redelivered es es' → NoOverflow es' →
      Resembles (reducer.run es) (reducer.run es') ∧ emitted es' = emitted es ∧
        ∀ e, reduce (reducer.run es') e ≠ .error .ProcessedEventOverflow →
          SameAnswer (reduce (reducer.run es) e) (reduce (reducer.run es') e) := by
  constructor
  · intro es e he hroom
    exact reduce_ignored (accepted_seen he) hroom
  · intro es es' h hno
    obtain ⟨htrail, hemit⟩ := redelivered_trails h hno
    refine ⟨htrail.1, hemit, ?_⟩
    intro e hroom
    exact (reduce_trails htrail hroom).1

namespace sample

def track_loaded : DomainEvent := observation 1 (.TrackLoaded ⟨1⟩ (metadata ⟨100⟩) ⟨10⟩)

/-- A track is loaded, and the queue overflows. -/
def once : List DomainEvent := [track_loaded, overload]

/-- The load comes twice. -/
def twice : List DomainEvent := [track_loaded, track_loaded, overload]

theorem track_loaded_accepted : Accepted [track_loaded] track_loaded :=
  ⟨trivial, 0, _, rfl, rfl⟩

theorem redelivered_twice : Redelivered once twice :=
  .event overload (.again (.event track_loaded .nil) track_loaded_accepted)

end sample

theorem a_track_loaded_twice_is_harmless :
    Ignored (reducer.run [sample.track_loaded]) sample.track_loaded ∧
      Resembles (reducer.run sample.once) (reducer.run sample.twice) := by
  constructor
  · exact delivery_at_least_once_is_harmless.1 _ _ sample.track_loaded_accepted (by decide)
  · exact (delivery_at_least_once_is_harmless.2 _ _ sample.redelivered_twice
      (noOverflow_of_length (by decide))).1

/-- The diagnostic of the overload carries the count of the events, which the redelivered one
has raised. -/
theorem a_redelivered_event_moves_the_number_of_a_diagnostic :
    ¬ ∀ es es', Redelivered es es' → NoOverflow es' →
      OnlyJournaled (reducer.run es) (reducer.run es') := by
  intro h
  obtain ⟨n, decision, timeline, hs⟩ :=
    h _ _ sample.redelivered_twice (noOverflow_of_length (by decide))
  have hdiag : (reducer.run sample.twice).diagnostics = (reducer.run sample.once).diagnostics := by
    rw [hs]
  exact absurd hdiag (by decide)

end lumi_domain
