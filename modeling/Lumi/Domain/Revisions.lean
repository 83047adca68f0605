-- The revision of the state, by which an operator's command says which state
-- it saw. It moves with every change that an operator can see, but for two
-- observations that change the state under the revision it had.
import Lumi.Domain.Steps

open rust replay

namespace lumi_domain

/-! ## What an operator sees -/

/-- What an operator sees of the state: all but the watermarks, the counters and the journal of
decisions. -/
structure View where
  operation : OperationState
  health : RuntimeHealth
  decks : BTreeMap DeckId DeckState
  plans : BTreeMap DeckId LightingPlan
  source_statuses : BTreeMap SourceId DeckSourceStatus
  leader_deck : Option DeckId
  active_plan : Option LightingPlan
  output_effects : List OutputEffectResult
  diagnostics : List Diagnostic

def RuntimeState.view (s : RuntimeState) : View where
  operation := s.operation
  health := s.health
  decks := s.decks
  plans := s.plans
  source_statuses := s.source_statuses
  leader_deck := s.leader_deck
  active_plan := s.active_plan
  output_effects := s.output_effects
  diagnostics := s.diagnostics

/-- The revision moves on by one. -/
def Advances (s s' : RuntimeState) : Prop :=
  s'.revision.value.toNat = s.revision.value.toNat + 1

/-- The event changes what an operator sees and counts as no change: a hydration that changes the
deck, or a change of the leader to a load that the deck does not hold, over an active plan. -/
def SilentChange (s : RuntimeState) : DomainEvent → Prop
  | .Observation e => ¬ ObservationSeen s e ∧ ¬ TimeRegressed s e ∧
      match e.observation with
      | .TrackMetadataHydrated d m l => ∃ deck, loaded s d l = some deck ∧ hydrated deck m ≠ deck
      | .LeaderChanged d l => loaded s d l = none ∧ s.active_plan ≠ none
      | _ => False
  | _ => False

/-! ## The revision and the change -/

variable {s : RuntimeState} {e : DomainEvent} {r : Reduction} {d : DeckId} {deck : DeckState}
  {i j : Nat}

theorem does_revision (h : Does s e r) : r.state.revision = s.revision := by
  have hsettle : ∀ e, (settledOf s e).state.revision = s.revision := by
    intro e
    obtain ⟨_, _, _, _, _, _, hs⟩ :=
      settle_frame (stamped s e) e.source_id e.observed_at e.observation
    simp only [settledOf, hs]
    rfl
  cases h with
  | settled => exact hsettle _
  | scheduled _ _ _ hx =>
    obtain ⟨p, c, n, _, _, _, rfl, _⟩ := hx
    exact hsettle _
  | resumed _ _ _ _ hx =>
    obtain ⟨p, c, n, _, _, _, rfl, _⟩ := hx
    rfl
  | _ => rfl

/-- The revision moves exactly when the reducer counts the event as a change. -/
theorem reduce_revision (h : reduce s e = .ok r) :
    r.state.revision.value.toNat =
      s.revision.value.toNat + if r.state_changed then 1 else 0 := by
  obtain ⟨r0, n, revision, hdoes, _, hrev, rfl⟩ := reduce_does h
  have hsame := does_revision hdoes
  unfold RevisionAfter at hrev
  simp only [journaled]
  split at hrev
  · rename_i hc
    rw [if_pos hc, ← hsame]
    exact (checked_next_eq_some.mp hrev).symm
  rename_i hc
  rw [if_neg hc, hrev, hsame]
  rfl

/-- An observation that counts as no change leaves what an operator sees, unless it is one of
the two. -/
theorem settle_view {e : ObservationEnvelope} (hnew : ¬ ObservationSeen s e)
    (ht : ¬ TimeRegressed s e) (hloud : ¬ SilentChange s (.Observation e))
    (hc : (settledOf s e).decision.changes_state = false) :
    (settledOf s e).state.view = s.view := by
  have hsettles : Settles (stamped s e) e.source_id e.observed_at e.observation (settledOf s e) :=
    settles _ _ _ _
  generalize ho : e.observation = o at hsettles
  generalize settledOf s e = x at hc hsettles ⊢
  cases hsettles with
  | rests => rfl
  | source | loads | unloads => cases hc
  | tends _ _ hc' | lands _ _ hc' | leads _ hc' =>
    rw [hc'] at hc
    cases hc
  | @hydrates d m l deck hdeck =>
    have hsame : hydrated deck m = deck := by
      by_contra hne
      apply hloud
      refine ⟨hnew, ht, ?_⟩
      rw [ho]
      exact ⟨deck, hdeck, hne⟩
    rw [hsame]
    simp only [RuntimeState.view, RuntimeState.put_deck,
      map_insert_same (loaded_eq_some.mp hdeck).1]
    rfl
  | @drops d l hdeck =>
    have hnone : s.active_plan = none := by
      by_contra hne
      apply hloud
      refine ⟨hnew, ht, ?_⟩
      rw [ho]
      exact ⟨hdeck, hne⟩
    simp only [RuntimeState.view, mismatch, hnone]
    rfl

/-- An event that counts as no change leaves what an operator sees, unless it is silent. -/
theorem does_view (h : Does s e r) (hloud : ¬ SilentChange s e) (hc : r.state_changed = false) :
    r.state.view = s.view := by
  cases h with
  | settled hnew ht => exact settle_view hnew ht hloud hc
  | stale | regressed | repeated | redelivered | noted => rfl
  | _ => cases hc

theorem view_put_other_deck {deck deck' : DeckState} (hd : s.decks[d]? = some deck)
    (hne : deck' ≠ deck) : (s.put_deck d deck').view ≠ s.view := by
  intro h
  have hget : (s.put_deck d deck').decks[d]? = some deck' := by
    simp only [RuntimeState.put_deck, map_get_insert, if_true]
  have hdecks : (s.put_deck d deck').decks = s.decks := congrArg View.decks h
  rw [hdecks, hd] at hget
  cases hget
  exact hne rfl

/-- A silent change makes no attempt, counts as no change, and is one. -/
theorem silentChange_settled {e : ObservationEnvelope} (h : SilentChange s (.Observation e)) :
    (settledOf s e).attempt = none ∧ (settledOf s e).decision.changes_state = false ∧
      (settledOf s e).state.view ≠ s.view := by
  obtain ⟨_, _, h⟩ := h
  split at h
  · rename_i d m l ho
    obtain ⟨deck, hdeck, hne⟩ := h
    have hl : loaded (stamped s e) d l = some deck := hdeck
    simp only [settledOf, ho, settle, hl]
    refine ⟨trivial, rfl, ?_⟩
    exact view_put_other_deck (s := stamped s e) (loaded_eq_some.mp hdeck).1 hne
  · rename_i d l ho
    obtain ⟨hnone, hplan⟩ := h
    have hl : loaded (stamped s e) d l = none := hnone
    simp only [settledOf, ho, settle, hl]
    refine ⟨rfl, rfl, ?_⟩
    intro h
    exact hplan (congrArg View.active_plan h).symm
  · exact h.elim

theorem silentChange_does (h : SilentChange s e) (hr : Does s e r) :
    r.state_changed = false ∧ r.state.view ≠ s.view := by
  cases hr with
  | stale hseen => exact absurd hseen h.1
  | regressed _ hreg => exact absurd hreg h.2.1
  | settled => exact (silentChange_settled h).2
  | scheduled _ _ ha _ =>
    rw [(silentChange_settled h).1] at ha
    cases ha
  | _ => exact h.elim

/-- A change that an operator sees advances the revision, except for a silent change. -/
theorem advances_iff (hr : reduce s e = .ok r) :
    (r.state.view ≠ s.view → Advances s r.state) ↔ ¬ SilentChange s e := by
  have hrev := reduce_revision hr
  obtain ⟨r0, n, revision, hdoes, _, _, hr0⟩ := reduce_does hr
  have hview : r.state.view = r0.state.view := by
    rw [hr0]
    rfl
  have hchanged : r.state_changed = r0.state_changed := by rw [hr0]
  rw [hview]
  rw [hchanged] at hrev
  unfold Advances
  constructor
  · intro h hsilent
    obtain ⟨hc, hother⟩ := silentChange_does hsilent hdoes
    have hnext := h hother
    simp only [hc, Bool.false_eq_true, if_false] at hrev
    omega
  · intro hloud hother
    cases hc : r0.state_changed with
    | true => rw [hrev, hc, if_pos rfl]
    | false => exact absurd (does_view hdoes hloud hc) hother

/-! ## The commands that saw an older state -/

theorem revision_le_of_run (es : List DomainEvent) (hij : i ≤ j) :
    (reducer.run (es.take i)).revision.value.toNat ≤
      (reducer.run (es.take j)).revision.value.toNat := by
  refine Machine.run_take_relates (m := reducer)
    (Q := fun s s' => s.revision.value.toNat ≤ s'.revision.value.toNat) ?_ ?_ ?_ es hij
  · intro s
    exact Nat.le_refl _
  · intro s s' s'' h h'
    exact Nat.le_trans h h'
  · intro s e r hr
    have hrev := reduce_revision hr
    change _ ≤ r.state.revision.value.toNat
    omega

/-- A command that saw another revision conflicts, unless the client has sent its number
before. -/
theorem reduce_command_conflict {c : UserCommandEnvelope}
    (h : c.expected_state_revision ≠ s.revision) :
    reduce s (.UserCommand c) = .error (.RevisionConflict c.expected_state_revision s.revision) ↔
      ¬ CommandSeen s c := by
  constructor
  · rintro hr hseen
    have hdup : s.command_sequences[c.client_id]?.any (c.sequence ≤ ·) = true :=
      any_iff_exists.mpr hseen
    simp only [reduce, reduce_event, reduce_command, hdup, if_true, record_event] at hr
    split at hr <;> cases hr
  · intro hnew
    have hfresh : s.command_sequences[c.client_id]?.any (c.sequence ≤ ·) = false := by
      rw [Bool.eq_false_iff]
      exact fun h => hnew (any_iff_exists.mp h)
    simp [reduce, reduce_event, reduce_command, hfresh, h]

/-- What an operator sees changes at an event between `i` and `j`. -/
def ViewChanges (es : List DomainEvent) (i j : Nat) : Prop :=
  ∃ k, i ≤ k ∧ k < j ∧
    (reducer.run (es.take (k + 1))).view ≠ (reducer.run (es.take k)).view

theorem revision_lt_of_change {es : List DomainEvent}
    (hloud : reducer.Along (fun s e => ¬ SilentChange s e) es) (hchange : ViewChanges es i j) :
    (reducer.run (es.take i)).revision.value.toNat <
      (reducer.run (es.take j)).revision.value.toNat := by
  obtain ⟨k, hik, hkj, hview⟩ := hchange
  have hbefore := revision_le_of_run es hik
  have hafter := revision_le_of_run es (Nat.succ_le_of_lt hkj)
  rcases he : es[k]? with _ | e
  · rw [List.getElem?_eq_none_iff] at he
    rw [List.take_of_length_le (by omega), List.take_of_length_le (by omega)] at hview
    exact absurd rfl hview
  rw [Machine.run_take_succ_get he] at hview hafter
  cases hr : reduce (reducer.run (es.take k)) e with
  | ok r =>
    rw [Machine.step_ok (m := reducer) hr] at hview hafter
    have hnext : Advances _ r.state := (advances_iff hr).mpr (hloud k e r he hr) hview
    unfold Advances at hnext
    change r.state.revision.value.toNat ≤ _ at hafter
    omega
  | error x =>
    rw [Machine.step_error (m := reducer) hr] at hview
    exact absurd rfl hview

/-- In every state that a run reaches, an accepted event that changes what an operator sees
advances the revision if and only if it is no silent change. In a run without silent changes, a
command that saw the state before such a change conflicts if and only if its number is new. -/
theorem a_visible_change_advances_the_revision_unless_it_is_silent (es : List DomainEvent) :
    (∀ e r, reduce (reducer.run es) e = .ok r →
      ((r.state.view ≠ (reducer.run es).view → Advances (reducer.run es) r.state) ↔
        ¬ SilentChange (reducer.run es) e)) ∧
    (reducer.Along (fun s e => ¬ SilentChange s e) es → ∀ i j c, ViewChanges es i j →
        c.expected_state_revision = (reducer.run (es.take i)).revision →
        (reduce (reducer.run (es.take j)) (.UserCommand c) =
            .error (.RevisionConflict c.expected_state_revision
              (reducer.run (es.take j)).revision) ↔
          ¬ CommandSeen (reducer.run (es.take j)) c)) := by
  constructor
  · intro e r hr
    exact advances_iff hr
  · intro hloud i j c hchange hread
    have hlt := revision_lt_of_change hloud hchange
    apply reduce_command_conflict
    intro heq
    rw [← heq, hread] at hlt
    exact absurd hlt (Nat.lt_irrefl _)

/-- The hydration of a loaded deck changes its track under the same revision. -/
theorem a_hydration_changes_the_deck_under_the_same_revision :
    ¬ ∀ (es : List DomainEvent) (e : DomainEvent) (r : Reduction),
      reduce (reducer.run es) e = .ok r → r.state.view ≠ (reducer.run es).view →
      Advances (reducer.run es) r.state := by
  intro h
  have hview : ∀ r : Reduction,
      reduce (reducer.run (sample.armed.take 2)) (sample.hydration 2) = .ok r →
      r.state.view ≠ (reducer.run (sample.armed.take 2)).view ∧
        ¬ Advances (reducer.run (sample.armed.take 2)) r.state := by
    intro r hr
    cases hr
    constructor
    · intro hv
      have hdeck := congrArg (fun v => v.decks[(⟨1⟩ : DeckId)]?.map (·.track_id)) hv
      exact absurd hdeck (by decide)
    · unfold Advances
      decide
  obtain ⟨r, hr⟩ : ∃ r, reduce (reducer.run (sample.armed.take 2)) (sample.hydration 2) = .ok r :=
    ⟨_, rfl⟩
  exact (hview r hr).2 (h _ _ r hr (hview r hr).1)

end lumi_domain
