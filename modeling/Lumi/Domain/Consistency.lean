-- The laws of the state: the plans, the leader, the active plan, the cue that
-- was scheduled last and the phrases of the decks agree with one another
-- after every run of events.
import Lumi.Domain.Steps

open rust replay

namespace lumi_domain

/-! ## The invariant -/

structure Consistent (s : RuntimeState) : Prop where
  plan_of_deck : ∀ (d : DeckId) (p : LightingPlan), s.plans[d]? = some p →
    p.deck_id = d ∧
      ∃ deck : DeckState, s.decks[d]? = some deck ∧ p.track_load_id = deck.track_load_id
  active_plan_of_leader : ∀ p, s.active_plan = some p →
    s.leader_deck = some p.deck_id ∧ s.plans[p.deck_id]? = some p
  leader_loaded : ∀ d, s.leader_deck = some d → ∃ deck, s.decks[d]? = some deck
  scheduled_loaded : ∀ d l i c r, s.last_scheduled_cue = some (d, l, i, c, r) →
    ∃ deck : DeckState, s.decks[d]? = some deck ∧ deck.track_load_id = l
  phrase_known : ∀ (d : DeckId) (deck : DeckState), s.decks[d]? = some deck → PhraseKnown deck

theorem consistent_default : Consistent RuntimeState.default := by
  constructor <;> intros <;> simp_all [RuntimeState.default]

variable {s s' : RuntimeState} {d : DeckId} {l : TrackLoadId} {deck : DeckState} {p : LightingPlan}
  {i : UInt16} {e : DomainEvent} {r : Reduction}

variable (h : Consistent s)
include h

/-- The invariant reads five fields. -/
theorem Consistent.frame (hd : s'.decks = s.decks) (hp : s'.plans = s.plans)
    (hl : s'.leader_deck = s.leader_deck) (ha : s'.active_plan = s.active_plan)
    (hc : s'.last_scheduled_cue = s.last_scheduled_cue) : Consistent s' := by
  obtain ⟨h1, h2, h3, h4, h5⟩ := h
  exact ⟨by rwa [hd, hp], by rwa [hl, hp, ha], by rwa [hl, hd], by rwa [hc, hd], by rwa [hd]⟩

/-! ## The updates keep the invariant -/

theorem consistent_put_deck {deck deck' : DeckState} (hd : s.decks[d]? = some deck)
    (hl : deck'.track_load_id = deck.track_load_id) (hk : PhraseKnown deck') :
    Consistent (s.put_deck d deck') := by
  -- Every deck is still there, with the load it had.
  have hget : ∀ (a : DeckId) (x : DeckState), s.decks[a]? = some x →
      ∃ y : DeckState, (s.put_deck d deck').decks[a]? = some y ∧
        y.track_load_id = x.track_load_id := by
    intro a x hx
    simp only [RuntimeState.put_deck, map_get_insert]
    by_cases hda : d = a
    · subst hda
      rw [hd] at hx
      cases hx
      exact ⟨deck', by simp, hl⟩
    · exact ⟨x, by simp [hda, hx], rfl⟩
  obtain ⟨h1, h2, h3, h4, h5⟩ := h
  refine ⟨?_, h2, ?_, ?_, ?_⟩
  · intro a p hp
    obtain ⟨hpa, x, hx, hpx⟩ := h1 a p hp
    obtain ⟨y, hy, hyx⟩ := hget a x hx
    exact ⟨hpa, y, hy, hpx.trans hyx.symm⟩
  · intro a ha
    obtain ⟨x, hx⟩ := h3 a ha
    obtain ⟨y, hy, _⟩ := hget a x hx
    exact ⟨y, hy⟩
  · intro a l i c r hc
    obtain ⟨x, hx, hxl⟩ := h4 a l i c r hc
    obtain ⟨y, hy, hyx⟩ := hget a x hx
    exact ⟨y, hy, hyx.trans hxl⟩
  · intro a x hx
    simp only [RuntimeState.put_deck, map_get_insert] at hx
    split at hx
    · cases hx
      exact hk
    · exact h5 a x hx

/-- To forget the scheduled cue, or to drop the active plan, breaks no agreement. -/
theorem consistent_forget {x : Option ExecutionIdentity} {a : Option LightingPlan}
    (hx : ∀ c, x = some c → s.last_scheduled_cue = some c)
    (ha : ∀ p, a = some p → s.active_plan = some p) :
    Consistent { s with last_scheduled_cue := x, active_plan := a } := by
  obtain ⟨h1, h2, h3, h4, h5⟩ := h
  refine ⟨h1, ?_, h3, ?_, h5⟩
  · intro p hp
    exact h2 p (ha p hp)
  · intro d l i c r hc
    exact h4 d l i c r (hx _ hc)

theorem consistent_load_track (d : DeckId) (m : TrackMetadata) (l : TrackLoadId)
    (t : MonotonicTime) : Consistent (s.load_track d m l t) := by
  rw [load_track_eq]
  obtain ⟨h1, h2, h3, h4, h5⟩ := h
  refine ⟨?_, ?_, ?_, ?_, ?_⟩
  · intro a p hp
    simp only [map_get_erase, map_get_insert] at hp ⊢
    split at hp
    · cases hp
    rename_i hda
    rw [if_neg hda]
    exact h1 a p hp
  · intro p hp
    obtain ⟨hp, hne⟩ := Option.filter_eq_some_iff.mp hp
    obtain ⟨hlead, hplan⟩ := h2 p hp
    have hda : d ≠ p.deck_id := fun he => by simp [he] at hne
    refine ⟨hlead, ?_⟩
    simp only [map_get_erase, if_neg hda]
    exact hplan
  · intro a ha
    simp only [map_get_insert]
    split
    · exact ⟨_, rfl⟩
    · exact h3 a ha
  · intro a l' i c r hc
    obtain ⟨hc, hne⟩ := Option.filter_eq_some_iff.mp hc
    have hda : d ≠ a := fun he => by simp [he] at hne
    simp only [map_get_insert, if_neg hda]
    exact h4 a l' i c r hc
  · intro a x hx
    simp only [map_get_insert] at hx
    split at hx
    · cases hx
      intro i hi
      cases hi
    · exact h5 a x hx

theorem consistent_unloaded (d : DeckId) : Consistent (unloaded s d) := by
  rw [unloaded_eq]
  obtain ⟨h1, h2, h3, h4, h5⟩ := h
  refine ⟨?_, ?_, ?_, ?_, ?_⟩
  · intro a p hp
    simp only [map_get_erase] at hp ⊢
    split at hp
    · cases hp
    rename_i hda
    rw [if_neg hda]
    exact h1 a p hp
  · intro p hp
    obtain ⟨hp, hne⟩ := Option.filter_eq_some_iff.mp hp
    obtain ⟨hlead, hplan⟩ := h2 p hp
    have hda : d ≠ p.deck_id := fun he => by simp [he] at hne
    refine ⟨Option.filter_eq_some_iff.mpr ⟨hlead, by simpa using hda.symm⟩, ?_⟩
    simp only [map_get_erase, if_neg hda]
    exact hplan
  · intro a ha
    obtain ⟨ha, hne⟩ := Option.filter_eq_some_iff.mp ha
    have hda : d ≠ a := fun he => by simp [he] at hne
    simp only [map_get_erase, if_neg hda]
    exact h3 a ha
  · intro a l' i c r hc
    obtain ⟨hc, hne⟩ := Option.filter_eq_some_iff.mp hc
    have hda : d ≠ a := fun he => by simp [he] at hne
    simp only [map_get_erase, if_neg hda]
    exact h4 a l' i c r hc
  · intro a x hx
    simp only [map_get_erase] at hx
    split at hx
    · cases hx
    · exact h5 a x hx

/-- The new leader is loaded, and its plan is the plan of its deck. -/
theorem consistent_leader (hd : s.decks[d]? = some deck) :
    Consistent { s with leader_deck := some d, active_plan := activated_plan s d l deck } := by
  obtain ⟨h1, h2, h3, h4, h5⟩ := h
  refine ⟨h1, ?_, ?_, h4, h5⟩
  · intro p hp
    have hplan := (Option.filter_eq_some_iff.mp hp).1
    have hpd := (h1 d p hplan).1
    rw [hpd]
    exact ⟨rfl, hplan⟩
  · intro a ha
    cases ha
    exact ⟨deck, hd⟩

theorem consistent_planned (hd : s.decks[p.deck_id]? = some deck)
    (hl : deck.track_load_id = p.track_load_id) : Consistent (planned s p) := by
  obtain ⟨h1, h2, h3, h4, h5⟩ := h
  refine ⟨?_, ?_, h3, h4, h5⟩
  · intro a x hx
    simp only [planned, map_get_insert] at hx ⊢
    split at hx
    · rename_i hpa
      cases hx
      exact ⟨hpa, deck, hpa ▸ hd, hl.symm⟩
    · exact h1 a x hx
  · intro x hx
    simp only [planned, map_get_insert] at hx ⊢
    split at hx
    · rename_i hlead
      cases hx
      exact ⟨hlead, by simp⟩
    rename_i hlead
    -- The active plan belongs to the leader, and the new plan does not.
    obtain ⟨hx1, hx2⟩ := h2 x hx
    have hne : p.deck_id ≠ x.deck_id := fun he => hlead (he ▸ hx1)
    exact ⟨hx1, by rw [if_neg hne]; exact hx2⟩

theorem consistent_executed {c : LightingCue} (n : UInt64) (he : Eligible s d l i p c) :
    Consistent (executed s n (identityOf d l i p c)) := by
  obtain ⟨hlead, hplan, hpd, hpl, _⟩ := he
  obtain ⟨h1, h2, h3, h4, h5⟩ := h
  refine ⟨h1, h2, h3, ?_, h5⟩
  intro d' l' i' c' r' hc
  cases hc
  obtain ⟨_, hp⟩ := h2 p hplan
  obtain ⟨_, deck, hdeck, hload⟩ := h1 _ p hp
  rw [hpd] at hdeck
  exact ⟨deck, hdeck, hload.symm.trans hpl⟩

theorem consistent_settle (src : SourceId) (t : MonotonicTime) (o : DeckObservation) :
    Consistent (settle s src t o).state := by
  have hput : ∀ {d l deck deck'}, loaded s d l = some deck → Carries deck deck' →
      Consistent (s.put_deck d deck') := fun hl hk =>
    consistent_put_deck h (loaded_eq_some.mp hl).1 hk.load
      (hk.phrase (h.phrase_known _ _ (loaded_eq_some.mp hl).1))
  have hsettles := settles s src t o
  generalize settle s src t o = x at hsettles ⊢
  cases hsettles with
  | rests => exact h
  | source => exact h.frame rfl rfl rfl rfl rfl
  | loads => exact consistent_load_track h _ _ _ t
  | hydrates hl =>
    exact consistent_put_deck h (loaded_eq_some.mp hl).1 rfl
      (fun i hi => phrase_index_at_beat_known hi)
  | tends hl hk => exact hput hl hk
  | lands hl hk =>
    rw [forget_cue_of_eq]
    exact consistent_forget (hput hl hk) (fun c hc => (Option.filter_eq_some_iff.mp hc).1)
      (fun p hp => hp)
  | unloads => exact consistent_unloaded h _
  | drops => exact consistent_forget h (fun c hc => hc) (by simp)
  | leads hl => exact consistent_leader h (loaded_eq_some.mp hl).1

theorem consistent_executes {t : MonotonicTime} {q : OutputExecutionRequest}
    (hx : Executes s d l i t s' q) : Consistent s' := by
  obtain ⟨p, c, n, he, _, _, rfl, _⟩ := hx
  exact consistent_executed h n he

theorem consistent_stamped (e : ObservationEnvelope) : Consistent (stamped s e) :=
  h.frame rfl rfl rfl rfl rfl

theorem consistent_commanded (e : UserCommandEnvelope) (target : OperationState) :
    Consistent (commanded s e target) := h.frame rfl rfl rfl rfl rfl

/-- Whatever an event does, the agreement stays. -/
theorem consistent_does (hr : Does s e r) : Consistent r.state := by
  cases hr with
  | started | regressed | noted | recorded | overloaded => exact h.frame rfl rfl rfl rfl rfl
  | stale | repeated | redelivered => exact h
  | settled => exact consistent_settle (consistent_stamped h _) _ _ _
  | scheduled _ _ _ hx =>
    exact consistent_executes (consistent_settle (consistent_stamped h _) _ _ _) hx
  | closed =>
    exact consistent_forget (consistent_commanded h _ _) (by simp) (fun p hp => hp)
  | opened => exact consistent_commanded h _ _
  | resumed _ _ _ _ hx => exact consistent_executes (consistent_commanded h _ _) hx
  | planned _ _ hdeck _ _ =>
    obtain ⟨hd, hl⟩ := loaded_eq_some.mp hdeck
    exact consistent_planned (h.frame rfl rfl rfl rfl rfl) hd hl

theorem consistent_reduce (hr : reduce s e = .ok r) : Consistent r.state := by
  obtain ⟨r0, n, revision, hdoes, _, _, rfl⟩ := reduce_does hr
  exact (consistent_does h hdoes).frame rfl rfl rfl rfl rfl

omit h

theorem consistent_reachable (h : reducer.Reachable s) : Consistent s :=
  Machine.reachable_keeps (m := reducer) consistent_default
    (fun _ _ _ h hr => consistent_reduce h hr) h

/-! ## The law -/

/-- The state agrees with itself after every run of events. -/
theorem every_run_keeps_the_state_consistent (es : List DomainEvent) :
    Consistent (reducer.run es) :=
  consistent_reachable (Machine.reachable_run es)

end lumi_domain
