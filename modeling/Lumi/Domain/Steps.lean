-- What one event can do. An observation settles the decks first and then
-- makes at most one attempt to execute a cue; the laws of the reducer read off
-- these two parts and never open the functions of the reducer again.
import Lumi.Domain.Reducer

open rust

namespace lumi_domain

open RuntimeState (put_deck)

/-! ## The execution of a cue -/

/-- The cue that the gate would let out for a phrase of a deck: the deck leads, and the active
plan is a plan for the deck and the load with a cue for the phrase. -/
def Eligible (s : RuntimeState) (d : DeckId) (l : TrackLoadId) (i : UInt16) (p : LightingPlan)
    (c : LightingCue) : Prop :=
  s.leader_deck = some d ∧ s.active_plan = some p ∧ p.deck_id = d ∧ p.track_load_id = l ∧
    p.cues[i.toNat]? = some c

def identityOf (d : DeckId) (l : TrackLoadId) (i : UInt16) (p : LightingPlan) (c : LightingCue) :
    ExecutionIdentity := (d, l, i, c.id, p.revision)

def requestOf (d : DeckId) (l : TrackLoadId) (i : UInt16) (t : MonotonicTime) (p : LightingPlan)
    (c : LightingCue) (n : UInt64) : OutputExecutionRequest where
  command_id := ⟨n⟩
  plan_id := p.id
  plan_revision := p.revision
  deck_id := d
  track_load_id := l
  phrase_index := i
  cue_id := c.id
  action := c.action
  cue_reason := c.reason
  scheduled_at := t

/-- The state once the command `n` is out for the execution `x`. -/
def executed (s : RuntimeState) (n : UInt64) (x : ExecutionIdentity) : RuntimeState :=
  { s with output_command_sequence := n, last_scheduled_cue := some x }

variable {s s' : RuntimeState} {d : DeckId} {l : TrackLoadId} {i : UInt16} {t : MonotonicTime}
  {deck : DeckState} {src : SourceId} {o : DeckObservation} {α : Type} {r : Reduction}
  {e : DomainEvent}

theorem execution_effect_eligible {p : LightingPlan} {c : LightingCue} (t : MonotonicTime)
    (h : Eligible s d l i p c) :
    execution_effect s d l i t =
      if s.last_scheduled_cue = some (identityOf d l i p c) then .ok (s, none)
      else match checked_add s.output_command_sequence 1 with
        | none => .error .OutputCommandSequenceOverflow
        | some n => .ok (executed s n (identityOf d l i p c),
            some (.ExecuteCue (requestOf d l i t p c n))) := by
  cases s
  obtain ⟨rfl, rfl, rfl, rfl, hc⟩ := h
  have hi := p.cue_phrase_index hc
  simp only [execution_effect, hc, hi, ne_eq, not_true_eq_false, or_self, if_false,
    Option.filter_some, decide_true, if_true]
  rfl

/-- With no eligible cue, nothing happens. -/
theorem execution_effect_not_eligible (t : MonotonicTime) (h : ∀ p c, ¬ Eligible s d l i p c) :
    execution_effect s d l i t = .ok (s, none) := by
  unfold execution_effect
  split
  · rfl
  rename_i hlead
  split
  · rfl
  rename_i p hplan
  split
  · rfl
  rename_i hdl
  rw [not_or, not_not, not_not] at hdl
  split
  · rfl
  rename_i c hc
  rw [Option.filter_eq_some_iff] at hc
  exact absurd ⟨not_not.mp hlead, hplan, hdl.1, hdl.2, hc.1⟩ (h p c)

/-- The next command gets out, for the eligible cue, which is not the cue that was scheduled
last. -/
def Executes (s : RuntimeState) (d : DeckId) (l : TrackLoadId) (i : UInt16) (t : MonotonicTime)
    (s' : RuntimeState) (q : OutputExecutionRequest) : Prop :=
  ∃ p c n, Eligible s d l i p c ∧ s.last_scheduled_cue ≠ some (identityOf d l i p c) ∧
    checked_add s.output_command_sequence 1 = some n ∧
    s' = executed s n (identityOf d l i p c) ∧ q = requestOf d l i t p c n

/-- An attempt to execute comes to nothing, or it executes. -/
theorem execution_effect_cases {o : Option Effect} (h : execution_effect s d l i t = .ok (s', o)) :
    (s' = s ∧ o = none) ∨ ∃ q, Executes s d l i t s' q ∧ o = some (.ExecuteCue q) := by
  by_cases he : ∃ p c, Eligible s d l i p c
  · obtain ⟨p, c, he⟩ := he
    rw [execution_effect_eligible t he] at h
    split at h
    · left
      cases h
      exact ⟨rfl, rfl⟩
    rename_i hne
    split at h
    · cases h
    rename_i n hn
    right
    cases h
    exact ⟨_, ⟨p, c, n, he, hne, hn, rfl, rfl⟩, rfl⟩
  · left
    rw [execution_effect_not_eligible t (by simpa using he)] at h
    cases h
    exact ⟨rfl, rfl⟩

/-! ## The updates of the state, field by field -/

theorem filter_ne_eq {α β : Type} [DecidableEq β] (o : Option α) (f : α → β) (b : β) :
    o.filter (fun x => f x ≠ b) = if o.any (fun x => f x = b) then none else o := by
  cases o with
  | none => rfl
  | some a => by_cases h : f a = b <;> simp [h]

theorem forget_cue_of_eq (s : RuntimeState) (d : DeckId) :
    s.forget_cue_of d =
      { s with last_scheduled_cue := s.last_scheduled_cue.filter (·.1 ≠ d) } := by
  rw [filter_ne_eq]
  unfold RuntimeState.forget_cue_of
  split <;> rfl

theorem drop_active_plan_of_eq (s : RuntimeState) (d : DeckId) :
    s.drop_active_plan_of d =
      { s with active_plan := s.active_plan.filter (·.deck_id ≠ d) } := by
  rw [filter_ne_eq]
  unfold RuntimeState.drop_active_plan_of
  split <;> rfl

/-- The deck right after a track is put on it. -/
def freshDeck (m : TrackMetadata) (l : TrackLoadId) (t : MonotonicTime) : DeckState where
  metadata := m
  track_load_id := l
  beat := 0
  effective_bpm_milli := m.bpm_milli
  playing := false
  phrase_index := none
  last_observed_at := t

theorem load_track_eq (s : RuntimeState) (d : DeckId) (m : TrackMetadata) (l : TrackLoadId)
    (t : MonotonicTime) :
    s.load_track d m l t =
      { s with
        decks := s.decks.insert d (freshDeck m l t)
        plans := s.plans.erase d
        last_scheduled_cue := s.last_scheduled_cue.filter (·.1 ≠ d)
        active_plan := s.active_plan.filter (·.deck_id ≠ d) } := by
  unfold RuntimeState.load_track
  rw [drop_active_plan_of_eq, forget_cue_of_eq]
  rfl

/-! ## Settle the decks, then attempt -/

/-- The deck, while it holds the load. -/
def loaded (s : RuntimeState) (d : DeckId) (l : TrackLoadId) : Option DeckState :=
  s.decks[d]?.filter (·.track_load_id = l)

theorem loaded_eq_some :
    loaded s d l = some deck ↔ s.decks[d]? = some deck ∧ deck.track_load_id = l := by
  simp [loaded, Option.filter_eq_some_iff]

theorem loaded_eq_none :
    loaded s d l = none ↔ ∀ deck, s.decks[d]? = some deck → deck.track_load_id ≠ l := by
  simp [loaded, Option.filter_eq_none_iff]

/-- An observation once it has settled: the state, the decision when no cue gets out, and the
phrase to execute, if there is one. -/
structure Settled where
  state : RuntimeState
  decision : DecisionReason
  attempt : Option (DeckId × TrackLoadId × UInt16)

/-- The observation is about a load that the deck does not hold. -/
def mismatch (s : RuntimeState) : Settled := ⟨s, .TrackLoadMismatch, none⟩

def hydrated (deck : DeckState) (m : TrackMetadata) : DeckState :=
  { deck with metadata := m, phrase_index := phrase_index_at_beat m deck.beat }

/-- The state once the track of the deck is gone. -/
def unloaded (s : RuntimeState) (d : DeckId) : RuntimeState :=
  let s := { s with
    decks := s.decks.erase d
    plans := s.plans.erase d
    leader_deck := if s.leader_deck = some d then none else s.leader_deck }
  (s.drop_active_plan_of d).forget_cue_of d

theorem unloaded_eq (s : RuntimeState) (d : DeckId) :
    unloaded s d =
      { s with
        decks := s.decks.erase d
        plans := s.plans.erase d
        leader_deck := s.leader_deck.filter (· ≠ d)
        active_plan := s.active_plan.filter (·.deck_id ≠ d)
        last_scheduled_cue := s.last_scheduled_cue.filter (·.1 ≠ d) } := by
  have hleader : (if s.leader_deck = some d then none else s.leader_deck) =
      s.leader_deck.filter (· ≠ d) := by
    rw [filter_ne_eq]
    cases s.leader_deck <;> simp
  unfold unloaded
  rw [forget_cue_of_eq, drop_active_plan_of_eq, hleader]

def settle (s : RuntimeState) (src : SourceId) (t : MonotonicTime) : DeckObservation → Settled
  | .SourceStatusChanged status =>
    ⟨{ s with source_statuses := s.source_statuses.insert src status }, .SourceStatusAccepted,
      none⟩
  | .TrackLoaded d m l => ⟨s.load_track d m l t, .TrackLoadAccepted, none⟩
  | .TrackMetadataHydrated d m l =>
    match loaded s d l with
    | none => mismatch s
    | some deck => ⟨s.put_deck d (hydrated deck m), .TrackMetadataHydrated, none⟩
  | .PlaybackPosition d l beat =>
    match loaded s d l with
    | none => mismatch s
    | some deck =>
      if beat < deck.beat then ⟨s, .PositionRegressed, none⟩
      else ⟨s.put_deck d { deck with beat, last_observed_at := t }, .PositionAdvanced, none⟩
  | .PlaybackPositionSeeked d l beat =>
    match loaded s d l with
    | none => mismatch s
    | some deck =>
      let i := phrase_index_at_beat deck.metadata beat
      ⟨(s.put_deck d { deck with beat, phrase_index := i, last_observed_at := t }).forget_cue_of d,
        .PositionSeeked,
        if s.operation = .Live ∧ s.leader_deck = some d ∧ deck.playing then i.map (d, l, ·)
        else none⟩
  | .PlaybackTempoChanged d l bpm =>
    match loaded s d l with
    | none => mismatch s
    | some deck =>
      if 20000 ≤ bpm ∧ bpm ≤ 300000 then
        ⟨s.put_deck d { deck with effective_bpm_milli := bpm, last_observed_at := t },
          .PlaybackTempoChanged, none⟩
      else mismatch s
  | .PlaybackStateChanged d l playing =>
    match loaded s d l with
    | none => mismatch s
    | some deck =>
      let s' := s.put_deck d { deck with playing, last_observed_at := t }
      ⟨if playing then s' else s'.forget_cue_of d, .PlaybackStateChanged,
        if s.operation = .Live ∧ playing ∧ ¬ deck.playing then deck.phrase_index.map (d, l, ·)
        else none⟩
  | .TrackUnloaded d l =>
    match loaded s d l with
    | none => mismatch s
    | some _ => ⟨unloaded s d, .TrackUnloaded, none⟩
  | .PhraseChanged d l i =>
    match loaded s d l with
    | none => mismatch s
    | some deck =>
      if (deck.metadata.phrase i).isSome then
        let s' := s.put_deck d { deck with phrase_index := some i, last_observed_at := t }
        if s.operation = .Live ∧ deck.playing then ⟨s', .PhraseExecutionSkipped, some (d, l, i)⟩
        else ⟨s', .PhraseChanged, none⟩
      else mismatch s
  | .LeaderChanged d l =>
    match loaded s d l with
    | none => mismatch { s with active_plan := none }
    | some deck =>
      let plan := activated_plan s d l deck
      ⟨{ s with leader_deck := some d, active_plan := plan },
        if plan.isSome then .PlanActivated else .PlanActivationSkipped,
        if plan.isSome ∧ s.operation = .Live ∧ deck.playing then deck.phrase_index.map (d, l, ·)
        else none⟩

/-- Before its attempt, an observation touches the decks, the plans, the statuses, the leader,
the active plan and the scheduled cue, and no other field. -/
theorem settle_frame (s : RuntimeState) (src : SourceId) (t : MonotonicTime) (o : DeckObservation) :
    ∃ decks plans statuses leader plan cue, (settle s src t o).state =
      { s with
        decks := decks
        plans := plans
        source_statuses := statuses
        leader_deck := leader
        active_plan := plan
        last_scheduled_cue := cue } := by
  cases o with
  | TrackLoaded d m l =>
    simp only [settle, load_track_eq]
    exact ⟨_, _, _, _, _, _, rfl⟩
  | _ =>
    simp only [settle, mismatch, put_deck, forget_cue_of_eq, unloaded_eq]
    repeat' split
    all_goals exact ⟨_, _, _, _, _, _, rfl⟩

/-- The phrase of the deck is a phrase of its track. -/
def PhraseKnown (deck : DeckState) : Prop :=
  ∀ i, deck.phrase_index = some i → ∃ phrase ∈ deck.metadata.phrases, phrase.index = i

theorem phrase_index_at_beat_known {m : TrackMetadata} {beat : UInt32}
    (h : phrase_index_at_beat m beat = some i) : ∃ phrase ∈ m.phrases, phrase.index = i := by
  unfold phrase_index_at_beat at h
  obtain ⟨phrase, hf, hi⟩ := Option.map_eq_some_iff.mp h
  exact ⟨phrase, List.mem_of_find?_eq_some hf, hi⟩

/-- The observation starts a new execution context on the deck: a landing after a seek, a stop,
a load or an unload. -/
def Forgets (s : RuntimeState) (d : DeckId) : DeckObservation → Prop
  | .PlaybackPositionSeeked a l _ => a = d ∧ (loaded s d l).isSome
  | .PlaybackStateChanged a l playing => a = d ∧ playing = false ∧ (loaded s d l).isSome
  | .TrackLoaded a _ _ => a = d
  | .TrackUnloaded a l => a = d ∧ (loaded s d l).isSome
  | _ => False

/-- The deck goes on with its load of its track, in a phrase of the track if it was in one. -/
structure Carries (deck deck' : DeckState) : Prop where
  load : deck'.track_load_id = deck.track_load_id
  metadata : deck'.metadata = deck.metadata
  phrase : PhraseKnown deck → PhraseKnown deck'

/-- The attempt is for the phrase that the deck plays, while the output is live. -/
def Attempts (s : RuntimeState) (d : DeckId) (l : TrackLoadId) (deck : DeckState)
    (attempt : Option (DeckId × TrackLoadId × UInt16)) : Prop :=
  ∀ x, attempt = some x → s.operation = .Live ∧ deck.playing = true ∧
    ∃ i, deck.phrase_index = some i ∧ x = (d, l, i)

/-- The ways in which an observation can settle. -/
inductive Settles (s : RuntimeState) (src : SourceId) (t : MonotonicTime) :
    DeckObservation → Settled → Prop
  | rests {o : DeckObservation} {decision : DecisionReason}
      (hc : decision.changes_state = false) : Settles s src t o ⟨s, decision, none⟩
  | source {status : DeckSourceStatus} : Settles s src t (.SourceStatusChanged status)
      ⟨{ s with source_statuses := s.source_statuses.insert src status }, .SourceStatusAccepted,
        none⟩
  | loads {d : DeckId} {m : TrackMetadata} {l : TrackLoadId} : Settles s src t
      (.TrackLoaded d m l) ⟨s.load_track d m l t, .TrackLoadAccepted, none⟩
  | hydrates {d : DeckId} {m : TrackMetadata} {l : TrackLoadId} {deck : DeckState}
      (hl : loaded s d l = some deck) : Settles s src t (.TrackMetadataHydrated d m l)
      ⟨s.put_deck d (hydrated deck m), .TrackMetadataHydrated, none⟩
  /-- The deck goes on. -/
  | tends {o : DeckObservation} {d : DeckId} {l : TrackLoadId} {deck deck' : DeckState}
      {decision : DecisionReason} {attempt : Option (DeckId × TrackLoadId × UInt16)}
      (hl : loaded s d l = some deck) (hk : Carries deck deck')
      (hc : decision.changes_state = true) (ha : Attempts s d l deck' attempt) :
      Settles s src t o ⟨s.put_deck d deck', decision, attempt⟩
  /-- The deck goes on in a new context. -/
  | lands {o : DeckObservation} {d : DeckId} {l : TrackLoadId} {deck deck' : DeckState}
      {decision : DecisionReason} {attempt : Option (DeckId × TrackLoadId × UInt16)}
      (hl : loaded s d l = some deck) (hk : Carries deck deck')
      (hc : decision.changes_state = true) (ha : Attempts s d l deck' attempt)
      (hf : Forgets s d o) :
      Settles s src t o ⟨(s.put_deck d deck').forget_cue_of d, decision, attempt⟩
  | unloads {d : DeckId} {l : TrackLoadId} {deck : DeckState} (hl : loaded s d l = some deck) :
      Settles s src t (.TrackUnloaded d l) ⟨unloaded s d, .TrackUnloaded, none⟩
  | drops {d : DeckId} {l : TrackLoadId} (hl : loaded s d l = none) :
      Settles s src t (.LeaderChanged d l) (mismatch { s with active_plan := none })
  | leads {d : DeckId} {l : TrackLoadId} {deck : DeckState} {decision : DecisionReason}
      {attempt : Option (DeckId × TrackLoadId × UInt16)} (hl : loaded s d l = some deck)
      (hc : decision.changes_state = true) (ha : Attempts s d l deck attempt) :
      Settles s src t (.LeaderChanged d l)
        ⟨{ s with leader_deck := some d, active_plan := activated_plan s d l deck }, decision,
          attempt⟩

theorem attempts_none : Attempts s d l deck none := nofun

/-- An attempt that is made under a condition, for the phrase of the deck. -/
theorem attempts_map {c : Prop} [Decidable c] (h : c → s.operation = .Live ∧ deck.playing = true) :
    Attempts s d l deck (if c then deck.phrase_index.map (d, l, ·) else none) := by
  intro x hx
  obtain ⟨hc, hx⟩ := Option.ite_none_right_eq_some.mp hx
  obtain ⟨i, hi, rfl⟩ := Option.map_eq_some_iff.mp hx
  exact ⟨(h hc).1, (h hc).2, i, hi, rfl⟩

theorem settles (s : RuntimeState) (src : SourceId) (t : MonotonicTime) (o : DeckObservation) :
    Settles s src t o (settle s src t o) := by
  cases o with
  | SourceStatusChanged status => exact .source
  | TrackLoaded d m l => exact .loads
  | TrackMetadataHydrated d m l =>
    simp only [settle]
    split
    · exact .rests rfl
    · exact .hydrates ‹_›
  | PlaybackPosition d l beat =>
    simp only [settle]
    split
    · exact .rests rfl
    rename_i deck hl
    split
    · exact .rests rfl
    · exact .tends hl ⟨rfl, rfl, id⟩ rfl attempts_none
  | PlaybackPositionSeeked d l beat =>
    simp only [settle]
    split
    · exact .rests rfl
    rename_i deck hl
    exact .lands hl ⟨rfl, rfl, fun _ i hi => phrase_index_at_beat_known hi⟩ rfl
      (attempts_map fun h => ⟨h.1, h.2.2⟩) ⟨rfl, by rw [hl]; rfl⟩
  | PlaybackTempoChanged d l bpm =>
    simp only [settle]
    split
    · exact .rests rfl
    rename_i deck hl
    split
    · exact .tends hl ⟨rfl, rfl, id⟩ rfl attempts_none
    · exact .rests rfl
  | PlaybackStateChanged d l playing =>
    simp only [settle]
    split
    · exact .rests rfl
    rename_i deck hl
    cases playing with
    | true => exact .tends hl ⟨rfl, rfl, id⟩ rfl (attempts_map fun h => ⟨h.1, rfl⟩)
    | false =>
      exact .lands hl ⟨rfl, rfl, id⟩ rfl (attempts_map fun h => absurd h.2.1 (by simp))
        ⟨rfl, rfl, by rw [hl]; rfl⟩
  | TrackUnloaded d l =>
    simp only [settle]
    split
    · exact .rests rfl
    · exact .unloads ‹_›
  | PhraseChanged d l i =>
    simp only [settle]
    split
    · exact .rests rfl
    rename_i deck hl
    split
    · rename_i hi
      obtain ⟨phrase, hphrase⟩ := Option.isSome_iff_exists.mp hi
      have hk : Carries deck { deck with phrase_index := some i, last_observed_at := t } := by
        refine ⟨rfl, rfl, fun _ j hj => ?_⟩
        cases hj
        exact ⟨phrase, deck.metadata.phrase_index hphrase⟩
      split
      · rename_i hgate
        refine .tends hl hk rfl fun x hx => ?_
        cases hx
        exact ⟨hgate.1, hgate.2, i, rfl, rfl⟩
      · exact .tends hl hk rfl attempts_none
    · exact .rests rfl
  | LeaderChanged d l =>
    simp only [settle]
    split
    · exact .drops ‹_›
    refine .leads ‹_› ?_ (attempts_map fun h => h.2)
    split <;> rfl

/-- The deck holds the load and plays the phrase. -/
def OnPhrase (s : RuntimeState) (d : DeckId) (l : TrackLoadId) (i : UInt16) : Prop :=
  ∃ deck : DeckState, s.decks[d]? = some deck ∧ deck.track_load_id = l ∧ deck.playing = true ∧
    deck.phrase_index = some i

/-- An observation attempts a phrase only while the output is live, and for a deck that it
leaves on the phrase. -/
theorem settle_attempt (h : (settle s src t o).attempt = some (d, l, i)) :
    s.operation = .Live ∧ OnPhrase (settle s src t o).state d l i := by
  have hput : ∀ {a x deck deck'} {attempt : Option (DeckId × TrackLoadId × UInt16)},
      loaded s a x = some deck → Carries deck deck' → Attempts s a x deck' attempt →
      attempt = some (d, l, i) → s.operation = .Live ∧ OnPhrase (s.put_deck a deck') d l i := by
    intro a x deck deck' attempt hl hk ha hx
    obtain ⟨hlive, hplays, j, hj, he⟩ := ha _ hx
    cases he
    refine ⟨hlive, deck', ?_, hk.load.trans (loaded_eq_some.mp hl).2, hplays, hj⟩
    simp only [put_deck, map_get_insert, if_true]
  have hsettles := settles s src t o
  generalize settle s src t o = x at h hsettles ⊢
  cases hsettles with
  | tends hl hk _ ha => exact hput hl hk ha h
  | lands hl hk _ ha _ =>
    rw [forget_cue_of_eq]
    exact hput hl hk ha h
  | leads hl _ ha =>
    obtain ⟨hlive, hplays, j, hj, he⟩ := ha _ h
    cases he
    obtain ⟨hd, hx⟩ := loaded_eq_some.mp hl
    exact ⟨hlive, _, hd, hx, hplays, hj⟩
  | _ => cases h

/-- The attempt that the settled observation makes. -/
def launch (t : MonotonicTime) (x : Settled) :
    Except ReducerError (RuntimeState × DecisionReason × List Effect) :=
  match x.attempt with
  | none => .ok (x.state, x.decision, [])
  | some (d, l, i) => schedule x.state d l i t x.decision

@[simp] theorem forget_cue_of_operation (s : RuntimeState) (d : DeckId) :
    (s.forget_cue_of d).operation = s.operation := by
  rw [forget_cue_of_eq]

@[simp] theorem forget_cue_of_leader (s : RuntimeState) (d : DeckId) :
    (s.forget_cue_of d).leader_deck = s.leader_deck := by
  rw [forget_cue_of_eq]

theorem not_loaded (h : loaded s d l = none) :
    s.decks[d]? = none ∨ ∃ deck, s.decks[d]? = some deck ∧ deck.track_load_id ≠ l := by
  cases hd : s.decks[d]? with
  | none => exact .inl rfl
  | some deck => exact .inr ⟨deck, rfl, loaded_eq_none.mp h deck hd⟩

/-- An observation settles, then attempts. -/
theorem observe_eq (s : RuntimeState) (src : SourceId) (t : MonotonicTime) (o : DeckObservation) :
    observe s src t o = launch t (settle s src t o) := by
  cases o with
  | SourceStatusChanged status | TrackLoaded d m l => rfl
  | TrackMetadataHydrated d m l =>
    simp only [observe, observe_hydrated, settle]
    cases hl : loaded s d l with
    | none => obtain hd | ⟨deck, hd, hne⟩ := not_loaded hl <;> simp [*, quiet, launch, mismatch]
    | some deck =>
      obtain ⟨hd, rfl⟩ := loaded_eq_some.mp hl
      simp [hd, quiet, launch, hydrated]
  | PlaybackPosition d l beat =>
    simp only [observe, observe_position, settle]
    cases hl : loaded s d l with
    | none => obtain hd | ⟨deck, hd, hne⟩ := not_loaded hl <;> simp [*, quiet, launch, mismatch]
    | some deck =>
      obtain ⟨hd, rfl⟩ := loaded_eq_some.mp hl
      by_cases hb : beat < deck.beat <;> simp [hd, hb, quiet, launch]
  | PlaybackPositionSeeked d l beat =>
    simp only [observe, observe_seeked, settle]
    cases hl : loaded s d l with
    | none => obtain hd | ⟨deck, hd, hne⟩ := not_loaded hl <;> simp [*, launch, mismatch]
    | some deck =>
      obtain ⟨hd, rfl⟩ := loaded_eq_some.mp hl
      simp only [hd, ne_eq, not_true_eq_false, if_false, forget_cue_of_operation,
        forget_cue_of_leader, put_deck, launch]
      split
      · cases phrase_index_at_beat deck.metadata beat <;> rfl
      · rfl
  | PlaybackTempoChanged d l bpm =>
    simp only [observe, observe_tempo, settle]
    cases hl : loaded s d l with
    | none => obtain hd | ⟨deck, hd, hne⟩ := not_loaded hl <;> simp [*, quiet, launch, mismatch]
    | some deck =>
      obtain ⟨hd, rfl⟩ := loaded_eq_some.mp hl
      by_cases hb : 20000 ≤ bpm ∧ bpm ≤ 300000 <;> simp [hd, hb, quiet, launch, mismatch]
  | PlaybackStateChanged d l playing =>
    simp only [observe, observe_playing, settle]
    cases hl : loaded s d l with
    | none => obtain hd | ⟨deck, hd, hne⟩ := not_loaded hl <;> simp [*, launch, mismatch]
    | some deck =>
      obtain ⟨hd, rfl⟩ := loaded_eq_some.mp hl
      cases playing with
      | false => simp [hd, launch]
      | true =>
        cases hp : deck.playing <;> cases hi : deck.phrase_index <;>
          by_cases hv : s.operation = .Live <;>
            simp [hd, hp, hi, hv, launch, put_deck]
  | TrackUnloaded d l =>
    simp only [observe, observe_unloaded, settle]
    cases hl : loaded s d l with
    | none => obtain hd | ⟨deck, hd, hne⟩ := not_loaded hl <;> simp [*, quiet, launch, mismatch]
    | some deck =>
      obtain ⟨hd, rfl⟩ := loaded_eq_some.mp hl
      simp [hd, quiet, launch, unloaded]
  | PhraseChanged d l i =>
    simp only [observe, observe_phrase, settle]
    cases hl : loaded s d l with
    | none => obtain hd | ⟨deck, hd, hne⟩ := not_loaded hl <;> simp [*, launch, mismatch]
    | some deck =>
      obtain ⟨hd, rfl⟩ := loaded_eq_some.mp hl
      by_cases hi : (deck.metadata.phrase i).isSome = true
      · cases hp : deck.playing <;> by_cases hv : s.operation = .Live <;>
          simp [hd, hi, hp, hv, launch, put_deck]
      · simp [hd, hi, launch, mismatch]
  | LeaderChanged d l =>
    simp only [observe, observe_leader, settle]
    rw [← loaded]
    cases hl : loaded s d l with
    | none => rfl
    | some deck =>
      cases hp : activated_plan s d l deck with
      | none => simp [hp, launch]
      | some p =>
        by_cases hv : s.operation = .Live ∧ deck.playing = true <;>
          cases hi : deck.phrase_index <;> simp [hp, hv, hi, launch]

/-- An observation comes to its settled state, or a cue gets out of it. -/
theorem observe_cases {decision : DecisionReason} {effects : List Effect}
    (h : observe s src t o = .ok (s', decision, effects)) :
    (s' = (settle s src t o).state ∧ decision = (settle s src t o).decision ∧ effects = []) ∨
      ∃ d l i q, (settle s src t o).attempt = some (d, l, i) ∧
        Executes (settle s src t o).state d l i t s' q ∧
        decision = .PhraseExecutionScheduled ∧ effects = [.ExecuteCue q] := by
  rw [observe_eq] at h
  generalize settle s src t o = x at h ⊢
  unfold launch at h
  split at h
  · left
    cases h
    exact ⟨rfl, rfl, rfl⟩
  rename_i d l i ha
  unfold schedule at h
  split at h
  · cases h
  · rename_i s1 effect he
    right
    cases h
    obtain ⟨_, hn⟩ | ⟨q, hq, he⟩ := execution_effect_cases he
    · cases hn
    cases he
    exact ⟨d, l, i, q, ha, hq, rfl, rfl⟩
  · rename_i s1 he
    left
    cases h
    obtain ⟨hs, _⟩ | ⟨q, _, hn⟩ := execution_effect_cases he
    · exact ⟨hs, rfl, rfl⟩
    · cases hn

/-! ## One event -/

/-- The source has sent the number of the observation before. -/
def ObservationSeen (s : RuntimeState) (e : ObservationEnvelope) : Prop :=
  ∃ last, s.source_sequences[e.source_id]? = some last ∧ e.sequence ≤ last

/-- The clock of the source went back. -/
def TimeRegressed (s : RuntimeState) (e : ObservationEnvelope) : Prop :=
  ∃ last, s.source_times[e.source_id]? = some last ∧ e.observed_at < last

def CommandSeen (s : RuntimeState) (e : UserCommandEnvelope) : Prop :=
  ∃ last, s.command_sequences[e.client_id]? = some last ∧ e.sequence ≤ last

def EffectSeen (s : RuntimeState) (e : EffectResultEnvelope) : Prop :=
  ∃ last, s.effect_sequences[e.worker_id]? = some last ∧ e.sequence ≤ last

/-- The state once the number of the observation is noted. -/
def numbered (s : RuntimeState) (e : ObservationEnvelope) : RuntimeState :=
  { s with source_sequences := s.source_sequences.insert e.source_id e.sequence }

/-- The state once the number and the time of the observation are noted. -/
def stamped (s : RuntimeState) (e : ObservationEnvelope) : RuntimeState :=
  { numbered s e with source_times := s.source_times.insert e.source_id e.observed_at }

/-- The state once the command has moved the operation. -/
def commanded (s : RuntimeState) (e : UserCommandEnvelope) (target : OperationState) :
    RuntimeState :=
  { s with
    command_sequences := s.command_sequences.insert e.client_id e.sequence
    operation := target }

/-- The state once the number of the result is noted. -/
def worked (s : RuntimeState) (e : EffectResultEnvelope) : RuntimeState :=
  { s with effect_sequences := s.effect_sequences.insert e.worker_id e.sequence }

/-- The state once the plan is the plan of its deck. -/
def planned (s : RuntimeState) (plan : LightingPlan) : RuntimeState :=
  { s with
    plans := s.plans.insert plan.deck_id plan
    active_plan := if s.leader_deck = some plan.deck_id then some plan else s.active_plan }

/-- The observation in its settled form, once its source is stamped. -/
def settledOf (s : RuntimeState) (e : ObservationEnvelope) : Settled :=
  settle (stamped s e) e.source_id e.observed_at e.observation

/-- Everything that one event can do to the state, before it is counted and journaled. -/
inductive Does (s : RuntimeState) : DomainEvent → Reduction → Prop
  | started {t : MonotonicTime} (h : s.health = .Starting) :
      Does s (.RuntimeStarted t) ⟨{ s with health := .Ready }, .RuntimeInitialized, [], true⟩
  | stale {e : ObservationEnvelope} (h : ObservationSeen s e) :
      Does s (.Observation e) ⟨s, .StaleObservationIgnored, [], false⟩
  | regressed {e : ObservationEnvelope} (hnew : ¬ ObservationSeen s e) (h : TimeRegressed s e) :
      Does s (.Observation e) ⟨numbered s e, .ObservationTimeRegressed, [], false⟩
  | settled {e : ObservationEnvelope} (hnew : ¬ ObservationSeen s e) (ht : ¬ TimeRegressed s e) :
      Does s (.Observation e) ⟨(settledOf s e).state, (settledOf s e).decision, [],
        (settledOf s e).decision.changes_state⟩
  | scheduled {e : ObservationEnvelope} {d : DeckId} {l : TrackLoadId} {i : UInt16}
      {q : OutputExecutionRequest} {s' : RuntimeState} (hnew : ¬ ObservationSeen s e)
      (ht : ¬ TimeRegressed s e) (ha : (settledOf s e).attempt = some (d, l, i))
      (hx : Executes (settledOf s e).state d l i e.observed_at s' q) :
      Does s (.Observation e) ⟨s', .PhraseExecutionScheduled, [.ExecuteCue q], true⟩
  | repeated {e : UserCommandEnvelope} (h : CommandSeen s e) :
      Does s (.UserCommand e) ⟨s, .DuplicateCommandIgnored, [], false⟩
  | closed {e : UserCommandEnvelope} {target : OperationState} (hnew : ¬ CommandSeen s e)
      (hrev : e.expected_state_revision = s.revision)
      (hto : operation_target s.operation e.command = some target)
      (h : target = .Paused ∨ target = .Off) :
      Does s (.UserCommand e) ⟨{ commanded s e target with last_scheduled_cue := none },
        .OperationTransitionAccepted, [.EnsureOutputClosed .OperationTransitionAccepted], true⟩
  | opened {e : UserCommandEnvelope} {target : OperationState} (hnew : ¬ CommandSeen s e)
      (hrev : e.expected_state_revision = s.revision)
      (hto : operation_target s.operation e.command = some target)
      (h : target = .Armed ∨ target = .Live) :
      Does s (.UserCommand e)
        ⟨commanded s e target, .OperationTransitionAccepted, [], true⟩
  | resumed {e : UserCommandEnvelope} {d : DeckId} {l : TrackLoadId} {i : UInt16}
      {q : OutputExecutionRequest} {s' : RuntimeState} (hnew : ¬ CommandSeen s e)
      (hrev : e.expected_state_revision = s.revision)
      (hto : operation_target s.operation e.command = some .Live)
      (hc : current_phrase (commanded s e .Live) = some (d, l, i))
      (hx : Executes (commanded s e .Live) d l i e.issued_at s' q) :
      Does s (.UserCommand e) ⟨s', .OperationTransitionAccepted, [.ExecuteCue q], true⟩
  | redelivered {e : EffectResultEnvelope} (h : EffectSeen s e) :
      Does s (.EffectResult e) ⟨s, .DuplicateEffectIgnored, [], false⟩
  | noted {e : EffectResultEnvelope} {decision : DecisionReason} (hnew : ¬ EffectSeen s e)
      (h : decision = .PlanTrackLoadMismatch ∨ decision = .StalePlanIgnored ∨
        decision = .OutputGateConfirmedClosed) :
      Does s (.EffectResult e) ⟨worked s e, decision, [], false⟩
  | planned {e : EffectResultEnvelope} {plan : LightingPlan} {deck : DeckState}
      (hnew : ¬ EffectSeen s e) (he : e.result = .PlanGenerated plan)
      (hdeck : loaded s plan.deck_id plan.track_load_id = some deck)
      (htrack : deck.track_id = plan.track_id)
      (hrev : expected_plan_revision s plan.deck_id = .ok plan.revision) :
      Does s (.EffectResult e) ⟨planned (worked s e) plan, .PlanAccepted, [], true⟩
  | recorded {e : EffectResultEnvelope} {result : OutputEffectResult} (hnew : ¬ EffectSeen s e)
      (he : e.result = .OutputEffectRecorded result) :
      Does s (.EffectResult e)
        ⟨(worked s e).push_output_effect result, .OutputEffectRecorded, [], true⟩
  | overloaded {overload : QueueOverloadEvent} :
      Does s (.QueueOverloaded overload) (reduce_queue_overloaded s overload)

theorem any_iff_exists {o : Option α} {P : α → Prop} [DecidablePred P] :
    o.any (fun x => decide (P x)) = true ↔ ∃ x, o = some x ∧ P x := by
  cases o <;> simp

theorem reduce_observation_does {e : ObservationEnvelope} (h : reduce_observation s e = .ok r) :
    Does s (.Observation e) r := by
  simp only [reduce_observation] at h
  split at h
  · rename_i hseen
    cases h
    exact .stale (any_iff_exists.mp hseen)
  rename_i hseen
  have hnew : ¬ ObservationSeen s e := fun hs => hseen (any_iff_exists.mpr hs)
  split at h
  · rename_i ht
    cases h
    exact .regressed hnew (any_iff_exists.mp ht)
  rename_i ht
  have hclock : ¬ TimeRegressed s e := fun hs => ht (any_iff_exists.mpr hs)
  split at h
  · cases h
  rename_i s' decision effects ho
  cases h
  obtain ⟨hs, hd, he⟩ | ⟨d, l, i, q, ha, hx, hd, he⟩ := observe_cases ho
  · rw [hs, hd, he]
    exact .settled hnew hclock
  rw [hd, he]
  exact .scheduled hnew hclock ha hx

theorem reduce_command_does {e : UserCommandEnvelope} (h : reduce_command s e = .ok r) :
    Does s (.UserCommand e) r := by
  simp only [reduce_command] at h
  split at h
  · rename_i hseen
    cases h
    exact .repeated (any_iff_exists.mp hseen)
  rename_i hseen
  have hnew : ¬ CommandSeen s e := fun hs => hseen (any_iff_exists.mpr hs)
  split at h
  · cases h
  rename_i hrev
  rw [not_not] at hrev
  split at h
  · cases h
  rename_i target hto
  split at h
  · rename_i hclose
    cases h
    exact .closed hnew hrev hto hclose
  split at h
  · rename_i hlive
    subst hlive
    split at h
    · cases h
      exact .opened hnew hrev hto (.inr rfl)
    rename_i d l i hc
    split at h
    · cases h
    rename_i s' effect hx
    cases h
    obtain ⟨hs, ho⟩ | ⟨q, hq, ho⟩ := execution_effect_cases hx
    · rw [hs, ho]
      exact .opened hnew hrev hto (.inr rfl)
    rw [ho]
    exact .resumed hnew hrev hto hc hq
  · rename_i hopen hlive
    cases h
    have harm : target = .Armed := by
      cases target <;> simp_all
    exact .opened hnew hrev hto (.inl harm)

theorem accept_plan_does {e : EffectResultEnvelope} {plan : LightingPlan} (hnew : ¬ EffectSeen s e)
    (he : e.result = .PlanGenerated plan) (h : accept_plan (worked s e) plan = .ok r) :
    Does s (.EffectResult e) r := by
  unfold accept_plan at h
  split at h
  · cases h
    exact .noted hnew (.inl rfl)
  rename_i deck hdeck
  split at h
  · cases h
    exact .noted hnew (.inl rfl)
  rename_i hmatch
  rw [not_or, not_not, not_not] at hmatch
  split at h
  · cases h
  rename_i expected hexp
  split at h
  · cases h
    exact .noted hnew (.inr (.inl rfl))
  split at h
  · cases h
  rename_i hrev
  rw [not_not] at hrev
  cases h
  exact .planned hnew he (loaded_eq_some.mpr ⟨hdeck, hmatch.1⟩) hmatch.2 (hrev ▸ hexp)

theorem reduce_effect_result_does {e : EffectResultEnvelope}
    (h : reduce_effect_result s e = .ok r) : Does s (.EffectResult e) r := by
  simp only [reduce_effect_result] at h
  split at h
  · rename_i hseen
    cases h
    exact .redelivered (any_iff_exists.mp hseen)
  rename_i hseen
  have hnew : ¬ EffectSeen s e := fun hs => hseen (any_iff_exists.mpr hs)
  split at h
  · rename_i plan he
    exact accept_plan_does hnew he h
  · rename_i result he
    cases h
    exact .recorded hnew he
  · cases h
    exact .noted hnew (.inr (.inr rfl))

/-- Whatever the reducer does with an event, `Does` says it. -/
theorem reduce_event_does (h : reduce_event s e = .ok r) : Does s e r := by
  cases e with
  | RuntimeStarted t =>
    simp only [reduce_event, reduce_runtime_started] at h
    split at h
    · cases h
    rename_i hstart
    cases h
    exact .started (not_not.mp hstart)
  | Observation e => exact reduce_observation_does h
  | UserCommand e => exact reduce_command_does h
  | EffectResult e => exact reduce_effect_result_does h
  | QueueOverloaded overload =>
    cases h
    exact .overloaded

/-! ## The record of the event -/

/-- The state once the event is counted and journaled. -/
def journaled (s : RuntimeState) (e : DomainEvent) (decision : DecisionReason) (n : UInt64)
    (revision : StateRevision) : RuntimeState :=
  { s with
    processed_events := n
    last_decision := some decision
    timeline := RuntimeState.push_bounded 256 s.timeline (TimelineEntry.from_event n e decision)
    revision }

/-- The revision after a reduction: the next one when the state changed. -/
def RevisionAfter (r : Reduction) (revision : StateRevision) : Prop :=
  if r.state_changed then r.state.revision.checked_next = some revision
  else revision = r.state.revision

theorem record_event_ok {r r' : Reduction} (h : record_event e r = .ok r') :
    ∃ n revision, checked_add r.state.processed_events 1 = some n ∧ RevisionAfter r revision ∧
      r' = { r with state := journaled r.state e r.decision n revision } := by
  simp only [record_event] at h
  split at h
  · cases h
  rename_i n hn
  split at h
  · rename_i hc
    split at h
    · cases h
    rename_i revision hr
    cases h
    exact ⟨n, revision, hn, by rw [RevisionAfter, if_pos hc]; exact hr, rfl⟩
  · rename_i hc
    cases h
    exact ⟨n, r.state.revision, hn, by rw [RevisionAfter, if_neg hc], rfl⟩

/-- An accepted event does what it does, and is counted and journaled. -/
theorem reduce_does (h : reduce s e = .ok r) :
    ∃ r0 n revision, Does s e r0 ∧ checked_add r0.state.processed_events 1 = some n ∧
      RevisionAfter r0 revision ∧
      r = { r0 with state := journaled r0.state e r0.decision n revision } := by
  unfold reduce at h
  split at h
  · cases h
  rename_i r0 h0
  obtain ⟨n, revision, hn, hrev, hr⟩ := record_event_ok h
  exact ⟨r0, n, revision, reduce_event_does h0, hn, hrev, hr⟩

end lumi_domain
