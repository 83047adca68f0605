-- The active plan and the track of its deck. A plan is taken in and activated
-- only for the track that its deck holds; the one event that can bring the two
-- apart is the hydration of the deck with another track.
import Lumi.Domain.Consistency
import Lumi.Domain.Gate

open rust replay

namespace lumi_domain

/-! ## The agreement -/

/-- The deck of the active plan holds the track that the plan was built for. -/
def PlanAgrees (s : RuntimeState) : Prop :=
  ∀ p, s.active_plan = some p →
    ∃ deck : DeckState, s.decks[p.deck_id]? = some deck ∧ deck.track_id = p.track_id

/-- An accepted hydration puts another track under the active plan. -/
def SwapsTrack (s : RuntimeState) : DomainEvent → Prop
  | .Observation e => ¬ ObservationSeen s e ∧ ¬ TimeRegressed s e ∧
      ∃ d m l p, e.observation = .TrackMetadataHydrated d m l ∧ (loaded s d l).isSome ∧
        s.active_plan = some p ∧ p.deck_id = d ∧ m.id ≠ p.track_id
  | _ => False

/-- The request comes from the active plan, and the leader holds the track of that plan. -/
def FromPlanOfTrack (s : RuntimeState) (q : OutputExecutionRequest) : Prop :=
  ∃ (p : LightingPlan) (deck : DeckState), s.active_plan = some p ∧ p.id = q.plan_id ∧
    p.revision = q.plan_revision ∧ s.leader_deck = some q.deck_id ∧
    s.decks[q.deck_id]? = some deck ∧ deck.track_id = p.track_id

/-! ## The updates keep the agreement -/

variable {s : RuntimeState} {d : DeckId} {deck : DeckState} {e : DomainEvent} {r : Reduction}
  (h : PlanAgrees s)
include h

/-- What drops the active plan, or leaves it and the track of its deck, keeps the agreement. -/
theorem planAgrees_of {s' : RuntimeState}
    (hp : ∀ p, s'.active_plan = some p → s.active_plan = some p)
    (hd : ∀ (p : LightingPlan) (deck : DeckState), s'.active_plan = some p →
      s.decks[p.deck_id]? = some deck →
      ∃ deck' : DeckState, s'.decks[p.deck_id]? = some deck' ∧ deck'.track_id = deck.track_id) :
    PlanAgrees s' := by
  intro p hplan
  obtain ⟨deck, hdeck, ht⟩ := h p (hp p hplan)
  obtain ⟨deck', hdeck', ht'⟩ := hd p deck hplan hdeck
  exact ⟨deck', hdeck', ht'.trans ht⟩

theorem planAgrees_put_deck {deck deck' : DeckState} (hd : s.decks[d]? = some deck)
    (ht : s.active_plan.any (·.deck_id = d) → deck'.track_id = deck.track_id) :
    PlanAgrees (s.put_deck d deck') := by
  refine planAgrees_of h (fun p hp => hp) ?_
  intro p x hp hx
  simp only [RuntimeState.put_deck, map_get_insert] at hp ⊢
  by_cases hda : d = p.deck_id
  · rw [← hda, hd] at hx
    cases hx
    rw [hp] at ht
    exact ⟨deck', by rw [if_pos hda], ht (by simp [hda])⟩
  · exact ⟨x, by rw [if_neg hda]; exact hx, rfl⟩

theorem planAgrees_load_track (d : DeckId) (m : TrackMetadata) (l : TrackLoadId)
    (t : MonotonicTime) : PlanAgrees (s.load_track d m l t) := by
  rw [load_track_eq]
  refine planAgrees_of h (fun p hp => (Option.filter_eq_some_iff.mp hp).1) ?_
  intro p deck hp hdeck
  have hne : d ≠ p.deck_id := fun he => by simp [he] at hp
  simp only [map_get_insert, if_neg hne]
  exact ⟨deck, hdeck, rfl⟩

theorem planAgrees_unloaded (d : DeckId) : PlanAgrees (unloaded s d) := by
  rw [unloaded_eq]
  refine planAgrees_of h (fun p hp => (Option.filter_eq_some_iff.mp hp).1) ?_
  intro p deck hp hdeck
  have hne : d ≠ p.deck_id := fun he => by simp [he] at hp
  simp only [map_get_erase, if_neg hne]
  exact ⟨deck, hdeck, rfl⟩

/-- A plan is taken in for the track that its deck holds. -/
theorem planAgrees_planned {p : LightingPlan} (hd : s.decks[p.deck_id]? = some deck)
    (ht : deck.track_id = p.track_id) : PlanAgrees (planned s p) := by
  intro x hx
  simp only [planned] at hx ⊢
  split at hx
  · cases hx
    exact ⟨deck, hd, ht⟩
  · exact h x hx

variable (hs : Consistent s)
include hs

omit h in
/-- The leader gets a plan for the track that it holds. -/
theorem planAgrees_leader {l : TrackLoadId} (hd : s.decks[d]? = some deck) :
    PlanAgrees { s with leader_deck := some d, active_plan := activated_plan s d l deck } := by
  intro p hp
  obtain ⟨hplan, hok⟩ := Option.filter_eq_some_iff.mp hp
  have hpd := (hs.plan_of_deck d p hplan).1
  simp only [decide_eq_true_eq] at hok
  exact ⟨deck, by rw [hpd]; exact hd, hok.2.2.symm⟩

theorem planAgrees_settle {e : ObservationEnvelope} (hnew : ¬ ObservationSeen s e)
    (ht : ¬ TimeRegressed s e) (hsame : ¬ SwapsTrack s (.Observation e)) :
    PlanAgrees (settledOf s e).state := by
  have h' : PlanAgrees (stamped s e) := h
  have hput : ∀ {d l deck deck'}, loaded (stamped s e) d l = some deck → Carries deck deck' →
      PlanAgrees ((stamped s e).put_deck d deck') := fun hl hk =>
    planAgrees_put_deck h' (loaded_eq_some.mp hl).1
      fun _ => congrArg TrackMetadata.id hk.metadata
  have hsettles : Settles (stamped s e) e.source_id e.observed_at e.observation (settledOf s e) :=
    settles _ _ _ _
  generalize ho : e.observation = o at hsettles
  generalize settledOf s e = x at hsettles ⊢
  cases hsettles with
  | rests | source => exact h
  | loads => exact planAgrees_load_track h' _ _ _ _
  | @hydrates d m l deck hdeck =>
    have hd := (loaded_eq_some.mp hdeck).1
    refine planAgrees_put_deck h' hd ?_
    intro hany
    obtain ⟨p, hp, hpd⟩ := any_iff_exists.mp hany
    -- The deck had the track of the plan, and the hydration does not swap it.
    obtain ⟨x, hx, hxt⟩ := h' p hp
    rw [hpd, hd] at hx
    cases hx
    by_contra hne
    apply hsame
    refine ⟨hnew, ht, d, m, l, p, ho, ?_, hp, hpd, ?_⟩
    · exact Option.isSome_iff_exists.mpr ⟨_, hdeck⟩
    · intro hid
      exact hne (hid.trans hxt.symm)
  | tends hl hk => exact hput hl hk
  | lands hl hk =>
    rw [forget_cue_of_eq]
    exact hput hl hk
  | unloads => exact planAgrees_unloaded h' _
  | drops => exact nofun
  | leads hl => exact planAgrees_leader (consistent_stamped hs e) (loaded_eq_some.mp hl).1

/-! ## One event -/

theorem planAgrees_does (hsame : ¬ SwapsTrack s e) (hr : Does s e r) : PlanAgrees r.state := by
  cases hr with
  | settled hnew ht => exact planAgrees_settle h hs hnew ht hsame
  | scheduled hnew ht _ hx =>
    obtain ⟨p, c, n, _, _, _, rfl, _⟩ := hx
    exact planAgrees_settle h hs hnew ht hsame
  | resumed _ _ _ _ hx =>
    obtain ⟨p, c, n, _, _, _, rfl, _⟩ := hx
    exact h
  | planned _ _ hdeck htrack _ => exact planAgrees_planned h (loaded_eq_some.mp hdeck).1 htrack
  | _ => exact h

omit h hs in
/-- After a swap, the plan and its deck are apart. -/
theorem swapsTrack_does (h : SwapsTrack s e) (hr : Does s e r) : ¬ PlanAgrees r.state := by
  cases hr with
  | stale hseen => exact absurd hseen h.1
  | regressed _ hreg => exact absurd hreg h.2.1
  | @settled e =>
    obtain ⟨_, _, d, m, l, p, ho, hl, hp, hpd, hne⟩ := h
    obtain ⟨deck, hdeck⟩ := Option.isSome_iff_exists.mp hl
    have hl' : loaded (stamped s e) d l = some deck := hdeck
    simp only [settledOf, ho, settle, hl']
    intro hagree
    obtain ⟨x, hx, hxt⟩ := hagree p hp
    simp only [RuntimeState.put_deck, map_get_insert, hpd, if_true] at hx
    cases hx
    exact hne hxt
  | @scheduled e _ _ _ _ _ _ _ ha =>
    obtain ⟨_, _, d, m, l, p, ho, hl, _⟩ := h
    obtain ⟨deck, hdeck⟩ := Option.isSome_iff_exists.mp hl
    have hl' : loaded (stamped s e) d l = some deck := hdeck
    simp only [settledOf, ho, settle, hl'] at ha
    cases ha
  | _ => exact h.elim

theorem planAgrees_reduce (hr : reduce s e = .ok r) : PlanAgrees r.state ↔ ¬ SwapsTrack s e := by
  obtain ⟨r0, n, revision, hdoes, _, _, rfl⟩ := reduce_does hr
  constructor
  · intro hagree hswap
    exact swapsTrack_does hswap hdoes hagree
  · intro hsame
    have hagree : PlanAgrees r0.state := planAgrees_does h hs hsame hdoes
    exact hagree

omit h hs

/-! ## The law -/

/-- The run accepts no hydration that swaps the track under the active plan. -/
def NeverSwaps (es : List DomainEvent) : Prop := reducer.Along (fun s e => ¬ SwapsTrack s e) es

theorem planAgrees_run (es : List DomainEvent) (h : NeverSwaps es) (k : Nat) :
    PlanAgrees (reducer.run (es.take k)) := by
  have hboth : Consistent (reducer.run (es.take k)) ∧ PlanAgrees (reducer.run (es.take k)) := by
    refine Machine.run_keeps_while (m := reducer) (P := fun s => Consistent s ∧ PlanAgrees s)
      ⟨consistent_default, ?_⟩ ?_ es h k
    · intro p hp
      cases hp
    · rintro s e r ⟨hs, hagree⟩ hsame hr
      exact ⟨consistent_reduce hs hr, (planAgrees_reduce hagree hs hr).mpr hsame⟩
  exact hboth.2

/-- The active plan is a plan for the track of its deck all along a run if and only if the run
accepts no hydration that swaps the track under it, and then every cue comes out of a plan for
the track that the leader holds. -/
theorem the_active_plan_fits_the_track_unless_a_hydration_swaps_it (es : List DomainEvent) :
    ((∀ k, PlanAgrees (reducer.run (es.take k))) ↔ NeverSwaps es) ∧
    (NeverSwaps es → ∀ k e r q, es[k]? = some e →
      reduce (reducer.run (es.take k)) e = .ok r → .ExecuteCue q ∈ r.effects →
      FromPlanOfTrack r.state q) := by
  refine ⟨⟨?_, planAgrees_run es⟩, ?_⟩
  · intro h k e r he hr hswap
    have hs := consistent_reachable (Machine.reachable_run (es.take k))
    have hafter := h (k + 1)
    rw [Machine.run_take_succ_get he, Machine.step_ok (m := reducer) hr] at hafter
    exact (planAgrees_reduce (h k) hs hr).mp hafter hswap
  · intro h k e r q he hr hq
    have hs := consistent_reachable (Machine.reachable_run (es.take k))
    have hs' := consistent_reduce hs hr
    have hagree := (planAgrees_reduce (planAgrees_run es h k) hs hr).mpr (h k e r he hr)
    cases reduce_emits hr with
    | nothing heff => rw [heff] at hq; cases hq
    | closed heff => rw [heff] at hq; simp at hq
    | executed heff hgate =>
      rw [heff, List.mem_singleton] at hq
      cases hq
      obtain ⟨p, c, hp, hid, hrev, _⟩ := hgate.planned
      obtain ⟨deck, hdeck, ht⟩ := hagree p hp
      have hlead := (hs'.active_plan_of_leader p hp).1
      rw [hgate.leads, Option.some.injEq] at hlead
      rw [← hlead] at hdeck
      exact ⟨p, deck, hp, hid, hrev, hgate.leads, hdeck, ht⟩

namespace sample

/-- The track is swapped while the show is live. -/
def swapped : List DomainEvent := live ++ [hydration 5]

end sample

/-- After a hydration with another track the plan is still active, and the next landing gets a cue
of it out. -/
theorem a_hydration_leaves_the_plan_of_another_track_active :
    ¬ PlanAgrees (reducer.run sample.swapped) ∧
      ∃ r q, reduce (reducer.run sample.swapped)
          (sample.observation 6 (.PlaybackPositionSeeked ⟨1⟩ ⟨10⟩ 8)) = .ok r ∧
        r.effects = [.ExecuteCue q] ∧ ¬ FromPlanOfTrack r.state q := by
  constructor
  · intro h
    obtain ⟨deck, hdeck, ht⟩ := h sample.plan rfl
    cases hdeck
    exact absurd ht (by decide)
  · refine ⟨_, { sample.request with command_id := ⟨2⟩, scheduled_at := ⟨6⟩ }, rfl, rfl, ?_⟩
    rintro ⟨p, deck, hp, _, _, _, hdeck, ht⟩
    cases hp
    cases hdeck
    exact absurd ht (by decide)

end lumi_domain
