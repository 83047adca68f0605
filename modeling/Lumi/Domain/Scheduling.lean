-- When a cue gets out, and when it gets out again. The reducer remembers the
-- cue that it scheduled last and does not schedule it twice; the laws here say
-- which events make it forget.
import Lumi.Domain.Consistency
import Lumi.Domain.Gate

open rust replay

namespace lumi_domain

/-! ## The cue that was scheduled last -/

/-- Before its attempt, an observation leaves the scheduled cue as it is, or forgets it when it
is a cue of the deck. -/
theorem settle_cue (s : RuntimeState) (src : SourceId) (t : MonotonicTime) (o : DeckObservation) :
    (settle s src t o).state.last_scheduled_cue = s.last_scheduled_cue ∨
      ∃ d, Forgets s d o ∧ (settle s src t o).state.last_scheduled_cue =
        s.last_scheduled_cue.filter (·.1 ≠ d) := by
  have hsettles := settles s src t o
  generalize settle s src t o = x at hsettles ⊢
  cases hsettles with
  | @loads d m l => exact .inr ⟨d, rfl, by rw [load_track_eq]⟩
  | @lands _ d _ _ _ _ _ _ _ _ _ hf =>
    refine .inr ⟨d, hf, ?_⟩
    rw [forget_cue_of_eq]
    rfl
  | @unloads d l deck hl => exact .inr ⟨d, ⟨rfl, by rw [hl]; rfl⟩, by rw [unloaded_eq]⟩
  | _ => exact .inl rfl

variable {s : RuntimeState} {t : MonotonicTime} {x : ExecutionIdentity} {d : DeckId}
  {l : TrackLoadId} {i : UInt16} {e : DomainEvent} {p : LightingPlan} {c : LightingCue}
  {r : Reduction} {q : OutputExecutionRequest}

theorem settle_cue_none (src : SourceId) (t : MonotonicTime) (o : DeckObservation)
    (h : s.last_scheduled_cue = none) : (settle s src t o).state.last_scheduled_cue = none := by
  obtain hs | ⟨d, _, hs⟩ := settle_cue s src t o
  · rw [hs, h]
  rw [hs, h]
  rfl

/-- An observation that forgets the scheduled cue is about the deck of the cue. -/
theorem settle_cue_lost {src : SourceId} {o : DeckObservation} (h : s.last_scheduled_cue = some x)
    (hlost : (settle s src t o).state.last_scheduled_cue ≠ some x) : Forgets s x.1 o := by
  obtain hs | ⟨d, hf, hs⟩ := settle_cue s src t o
  · exact absurd (hs.trans h) hlost
  by_cases hd : x.1 = d
  · rw [hd]
    exact hf
  rw [hs, h] at hlost
  simp [hd] at hlost

/-! ## The start of the output -/

/-- The output waits, and everything else is in place for the cue. -/
structure Resumable (s : RuntimeState) (d : DeckId) (l : TrackLoadId) (i : UInt16)
    (p : LightingPlan) (c : LightingCue) : Prop where
  waits : s.operation = .Armed ∨ s.operation = .Paused
  on_phrase : OnPhrase s d l i
  eligible : Eligible s d l i p c

/-- A start that is new, from a client that has seen the state, with no counter at its end. -/
structure AcceptedStart (s : RuntimeState) (e : UserCommandEnvelope) : Prop where
  start : e.command = .Start
  new : ¬ CommandSeen s e
  current : e.expected_state_revision = s.revision
  command_room : s.output_command_sequence.toNat + 1 < 2 ^ 64
  event_room : s.processed_events.toNat + 1 < 2 ^ 64
  revision_room : s.revision.value.toNat + 1 < 2 ^ 64

/-- The command lets out the cue, and nothing else. -/
def Restores (s : RuntimeState) (e : UserCommandEnvelope) (d : DeckId) (l : TrackLoadId)
    (i : UInt16) (p : LightingPlan) (c : LightingCue) : Prop :=
  ∃ r n, reduce s (.UserCommand e) = .ok r ∧
    r.effects = [.ExecuteCue (requestOf d l i e.issued_at p c n)]

/-- Every start restores the cue of the current phrase. -/
def ResumeLaw (s : RuntimeState) : Prop :=
  ∀ d l i p c e, Resumable s d l i p c → AcceptedStart s e → Restores s e d l i p c

theorem checked_add_one {a : UInt64} (h : a.toNat + 1 < 2 ^ 64) :
    checked_add a 1 = some (a + 1) := by
  unfold checked_add
  rw [if_pos]
  exact h

/-- A start whose transition is fine is recorded, with the effects of the transition. -/
theorem record_event_changed {decision : DecisionReason} {effects : List Effect}
    (hn : s.processed_events.toNat + 1 < 2 ^ 64) (hr : s.revision.value.toNat + 1 < 2 ^ 64) :
    ∃ r, record_event e ⟨s, decision, effects, true⟩ = .ok r ∧ r.effects = effects := by
  unfold record_event
  rw [checked_add_one hn]
  simp only [RuntimeState.push_timeline, NumericIdentifier.checked_next, checked_add_one hr,
    Option.map_some, if_true]
  exact ⟨_, rfl, rfl⟩

/-- A start makes one attempt, for the phrase that the leader plays. -/
theorem reduce_command_start {e : UserCommandEnvelope} (hs : Resumable s d l i p c)
    (he : AcceptedStart s e) :
    reduce_command s e =
      match execution_effect (commanded s e .Live) d l i e.issued_at with
      | .error x => .error x
      | .ok (s', effect) => .ok ⟨s', .OperationTransitionAccepted, effect.toList, true⟩ := by
  have hnew : s.command_sequences[e.client_id]?.any (e.sequence ≤ ·) = false := by
    rw [Bool.eq_false_iff]
    exact fun h => he.new (any_iff_exists.mp h)
  have hto : operation_target s.operation e.command = some .Live := by
    obtain h | h := hs.waits <;> rw [he.start, h] <;> rfl
  obtain ⟨deck, hdeck, hl, hp, hi⟩ := hs.on_phrase
  have hcur : current_phrase (commanded s e .Live) = some (d, l, i) := by
    simp [current_phrase, commanded, hs.eligible.1, hdeck, hl, hp, hi]
  simp only [commanded] at hcur
  simp only [reduce_command, hnew, he.current, hto, hcur, Bool.false_eq_true, ne_eq,
    not_true_eq_false, reduceCtorEq, or_self, if_false, if_true]
  rfl

/-- A start lets the cue out unless it is the cue that was scheduled last. -/
theorem reduce_start {e : UserCommandEnvelope} (hs : Resumable s d l i p c)
    (he : AcceptedStart s e) :
    ∃ r, reduce s (.UserCommand e) = .ok r ∧
      r.effects = if s.last_scheduled_cue = some (identityOf d l i p c) then []
        else [.ExecuteCue (requestOf d l i e.issued_at p c (s.output_command_sequence + 1))] := by
  have hel : Eligible (commanded s e .Live) d l i p c := hs.eligible
  have hn : checked_add (commanded s e .Live).output_command_sequence 1 =
      some (s.output_command_sequence + 1) := checked_add_one he.command_room
  simp only [reduce, reduce_event]
  rw [reduce_command_start hs he, execution_effect_eligible e.issued_at hel, hn]
  by_cases hlast : s.last_scheduled_cue = some (identityOf d l i p c)
  · have hlast' : (commanded s e .Live).last_scheduled_cue = some (identityOf d l i p c) := hlast
    rw [if_pos hlast', if_pos hlast]
    exact record_event_changed he.event_room he.revision_room
  have hlast' : (commanded s e .Live).last_scheduled_cue ≠ some (identityOf d l i p c) := hlast
  rw [if_neg hlast', if_neg hlast]
  exact record_event_changed he.event_room he.revision_room

theorem restores_iff {e : UserCommandEnvelope} (hs : Resumable s d l i p c)
    (he : AcceptedStart s e) :
    Restores s e d l i p c ↔ s.last_scheduled_cue ≠ some (identityOf d l i p c) := by
  obtain ⟨r, hr, heff⟩ := reduce_start hs he
  constructor
  · rintro ⟨r', n, hr', heff'⟩ hlast
    rw [hr] at hr'
    cases hr'
    rw [if_pos hlast] at heff
    rw [heff] at heff'
    cases heff'
  · intro hlast
    rw [if_neg hlast] at heff
    exact ⟨r, _, hr, heff⟩

/-- An output that is not live has no cue scheduled. -/
def ClosedForgets (s : RuntimeState) : Prop :=
  s.operation ≠ .Live → s.last_scheduled_cue = none

/-- The event is no overload that takes the output from live to paused over a scheduled cue. -/
def NoCueLeft (s : RuntimeState) (e : DomainEvent) : Prop :=
  ∀ overload, e = .QueueOverloaded overload → s.operation = .Live → s.last_scheduled_cue = none

theorem closedForgets_does (h : ClosedForgets s) (hq : NoCueLeft s e) (hr : Does s e r) :
    ClosedForgets r.state := by
  cases hr with
  | started | stale | regressed | repeated | redelivered | noted | planned | recorded => exact h
  | @settled e =>
    obtain ⟨_, _, _, _, _, _, hs⟩ :=
      settle_frame (stamped s e) e.source_id e.observed_at e.observation
    intro hop
    simp only [settledOf, hs] at hop
    exact settle_cue_none _ _ _ (h hop)
  | scheduled _ _ ha hx =>
    -- The cue gets out through the open gate, so the output is live.
    intro hop
    cases scheduled_emits ha hx with
    | nothing heff | closed heff => cases heff
    | executed _ hgate => exact absurd hgate.live hop
  | closed => exact fun _ => rfl
  | opened _ _ hto ht =>
    intro _
    exact h (operation_target_opens hto ht)
  | resumed _ _ _ _ hx =>
    intro hop
    obtain ⟨p, c, n, _, _, _, rfl, _⟩ := hx
    exact absurd rfl hop
  | overloaded =>
    intro _
    change s.last_scheduled_cue = none
    by_cases hlive : s.operation = .Live
    · exact hq _ rfl hlive
    · exact h hlive

variable (es : List DomainEvent)

theorem closedForgets_run (hq : reducer.Along NoCueLeft es) (k : Nat) :
    ClosedForgets (reducer.run (es.take k)) := by
  refine Machine.run_keeps_while (m := reducer) (fun _ => rfl) ?_ es hq k
  intro s e r h hq hr
  obtain ⟨r0, n, revision, hdoes, _, _, rfl⟩ := reduce_does hr
  exact closedForgets_does h hq hdoes

namespace sample

/-- The queue overflows while the show is live, which pauses it. -/
def overloaded : List DomainEvent := live ++ [overload]

theorem new_command {e : UserCommandEnvelope} {last : CommandSequence}
    (h : s.command_sequences[e.client_id]? = some last) (hlt : ¬ e.sequence ≤ last) :
    ¬ CommandSeen s e := by
  rintro ⟨last', hlast, hle⟩
  rw [h] at hlast
  cases hlast
  exact hlt hle

end sample

/-- In a run in which no overload pauses a live output over a scheduled cue, every start
restores the cue of the current phrase, in every state of the run. In any state, a start
restores the cue exactly when it is not still the cue that was scheduled last. -/
theorem a_start_restores_the_cue_unless_an_overload_kept_it :
    (reducer.Along NoCueLeft es → ∀ k, ResumeLaw (reducer.run (es.take k))) ∧
    ∀ d l i p c e, Resumable (reducer.run es) d l i p c → AcceptedStart (reducer.run es) e →
      (Restores (reducer.run es) e d l i p c ↔
        (reducer.run es).last_scheduled_cue ≠ some (identityOf d l i p c)) := by
  constructor
  · intro hq k d l i p c e hs he
    have hnone : (reducer.run (es.take k)).last_scheduled_cue = none := by
      apply closedForgets_run es hq k
      obtain hop | hop := hs.waits <;> rw [hop] <;> simp
    exact (restores_iff hs he).mpr (by rw [hnone]; simp)
  · intro d l i p c e hs he
    exact restores_iff hs he

theorem a_start_restores_the_cue_of_the_short_show :
    Restores (reducer.run sample.armed) ⟨⟨1⟩, ⟨2⟩, ⟨7⟩, ⟨2⟩, .Start⟩ ⟨1⟩ ⟨10⟩ 0 sample.plan
      sample.cue := by
  have hq : reducer.Along NoCueLeft sample.armed := by
    intro k e r hk _ overload he
    have hmem := List.mem_of_getElem? hk
    rw [he] at hmem
    simp [sample.armed, sample.observation, sample.command, sample.plan_generated] at hmem
  refine (a_start_restores_the_cue_unless_an_overload_kept_it sample.armed).1 hq 7 _ _ _ _ _ _ ?_ ?_
  · exact ⟨.inl rfl, ⟨_, rfl, rfl, rfl, rfl⟩, rfl, rfl, rfl, rfl, rfl⟩
  · exact ⟨rfl, sample.new_command rfl (by decide), rfl, by decide, by decide, by decide⟩

/-- After an overload has paused the show, the start lets nothing out. -/
theorem a_start_after_an_overload_restores_nothing :
    ¬ ∀ es : List DomainEvent, ResumeLaw (reducer.run es) := by
  intro h
  have hs : Resumable (reducer.run sample.overloaded) ⟨1⟩ ⟨10⟩ 0 sample.plan sample.cue :=
    ⟨.inr rfl, ⟨_, rfl, rfl, rfl, rfl⟩, rfl, rfl, rfl, rfl, rfl⟩
  have he : AcceptedStart (reducer.run sample.overloaded) ⟨⟨1⟩, ⟨3⟩, ⟨9⟩, ⟨6⟩, .Start⟩ :=
    ⟨rfl, sample.new_command rfl (by decide), rfl, by decide, by decide, by decide⟩
  exact (restores_iff hs he).mp (h sample.overloaded _ _ _ _ _ _ hs he) rfl

/-! ## Two executions of one cue -/

def OutputExecutionRequest.identity (q : OutputExecutionRequest) : ExecutionIdentity :=
  (q.deck_id, q.track_load_id, q.phrase_index, q.cue_id, q.plan_revision)

/-- An accepted seek on the deck, while it holds the load. -/
def SeeksOn (s : RuntimeState) (d : DeckId) (l : TrackLoadId) : DomainEvent → Prop
  | .Observation e => ¬ ObservationSeen s e ∧ ¬ TimeRegressed s e ∧ (loaded s d l).isSome ∧
      ∃ beat, e.observation = .PlaybackPositionSeeked d l beat
  | _ => False

/-- An accepted stop of the deck, while it holds the load. -/
def StopsOn (s : RuntimeState) (d : DeckId) (l : TrackLoadId) : DomainEvent → Prop
  | .Observation e => ¬ ObservationSeen s e ∧ ¬ TimeRegressed s e ∧ (loaded s d l).isSome ∧
      e.observation = .PlaybackStateChanged d l false
  | _ => False

/-- A load on the deck, or an accepted unload of it. -/
def ReplacesTrack (s : RuntimeState) (d : DeckId) : DomainEvent → Prop
  | .Observation e => ¬ ObservationSeen s e ∧ ¬ TimeRegressed s e ∧
      ((∃ m l, e.observation = .TrackLoaded d m l) ∨
        ∃ l, e.observation = .TrackUnloaded d l ∧ (loaded s d l).isSome)
  | _ => False

/-- An accepted pause or off. -/
def ClosesByCommand (s : RuntimeState) : DomainEvent → Prop
  | .UserCommand e => ¬ CommandSeen s e ∧ e.expected_state_revision = s.revision ∧
      (e.command = .Pause ∨ e.command = .Off)
  | _ => False

/-- The event ends the execution context of the deck and the load. -/
def Reopens (s : RuntimeState) (d : DeckId) (l : TrackLoadId) (e : DomainEvent) : Prop :=
  SeeksOn s d l e ∨ StopsOn s d l e ∨ ReplacesTrack s d e ∨ ClosesByCommand s e

/-- The reduction lets out a cue with another identity. -/
def ExecutesOther (x : ExecutionIdentity) (r : Reduction) : Prop :=
  ∃ q, .ExecuteCue q ∈ r.effects ∧ q.identity ≠ x

theorem executes_identity {s s' : RuntimeState} (hx : Executes s d l i t s' q) :
    s'.last_scheduled_cue = some q.identity ∧ s.last_scheduled_cue ≠ some q.identity := by
  obtain ⟨p, c, n, _, hne, _, rfl, rfl⟩ := hx
  exact ⟨rfl, hne⟩

/-- The deck of a scheduled cue holds the load of the cue, so an observation that it accepts is
about that load. -/
theorem forgets_reopens {e : ObservationEnvelope} (hs : Consistent s)
    (hx : s.last_scheduled_cue = some x) (hnew : ¬ ObservationSeen s e) (ht : ¬ TimeRegressed s e)
    (hf : Forgets s x.1 e.observation) : Reopens s x.1 x.2.1 (.Observation e) := by
  obtain ⟨d, l, i, c, revision⟩ := x
  obtain ⟨deck, hdeck, hl⟩ := hs.scheduled_loaded d l i c revision hx
  have hload : ∀ l', (loaded s d l').isSome → l' = l := by
    intro l' h
    obtain ⟨deck', h'⟩ := Option.isSome_iff_exists.mp h
    obtain ⟨hd, hl'⟩ := loaded_eq_some.mp h'
    rw [hdeck] at hd
    cases hd
    rw [← hl', hl]
  cases ho : e.observation with
  | PlaybackPositionSeeked a l' beat =>
    rw [ho] at hf
    obtain ⟨rfl, hf⟩ := hf
    obtain rfl := hload l' hf
    exact .inl ⟨hnew, ht, hf, beat, ho⟩
  | PlaybackStateChanged a l' playing =>
    rw [ho] at hf
    obtain ⟨rfl, rfl, hf⟩ := hf
    obtain rfl := hload l' hf
    exact .inr (.inl ⟨hnew, ht, hf, ho⟩)
  | TrackLoaded a m l' =>
    rw [ho] at hf
    obtain rfl := hf
    exact .inr (.inr (.inl ⟨hnew, ht, .inl ⟨m, l', ho⟩⟩))
  | TrackUnloaded a l' =>
    rw [ho] at hf
    obtain ⟨rfl, hf⟩ := hf
    exact .inr (.inr (.inl ⟨hnew, ht, .inr ⟨l', ho, hf⟩⟩))
  | _ =>
    rw [ho] at hf
    exact hf.elim

/-- An event after which the scheduled cue is another one let out another cue, or ended the
execution context. -/
theorem reduce_loses_cue (hs : Consistent s) (hx : s.last_scheduled_cue = some x)
    (hr : reduce s e = .ok r) (hlost : r.state.last_scheduled_cue ≠ some x) :
    ExecutesOther x r ∨ Reopens s x.1 x.2.1 e := by
  obtain ⟨r0, n, revision, hdoes, _, _, rfl⟩ := reduce_does hr
  cases hdoes with
  | @settled e hnew ht =>
    have hf := settle_cue_lost (s := stamped s e) hx hlost
    exact .inr (forgets_reopens hs hx hnew ht hf)
  | scheduled _ _ _ hexec | resumed _ _ _ _ hexec =>
    left
    have hq := (executes_identity hexec).1
    refine ⟨_, List.mem_singleton.mpr rfl, ?_⟩
    intro he
    exact hlost (hq.trans (by rw [he]))
  | closed hnew hrev hto ht =>
    exact .inr (.inr (.inr (.inr ⟨hnew, hrev, operation_target_closes hto ht⟩)))
  | _ => exact absurd hx hlost

/-- The cue that was scheduled last gets out again only after a seek. -/
theorem reduce_repeats_cue (hs : Consistent s) (hx : s.last_scheduled_cue = some q.identity)
    (hr : reduce s e = .ok r) (hq : .ExecuteCue q ∈ r.effects) :
    SeeksOn s q.deck_id q.track_load_id e := by
  obtain ⟨r0, n, revision, hdoes, _, _, rfl⟩ := reduce_does hr
  cases hdoes with
  | @scheduled e d l i _ _ hnew ht ha hexec =>
    cases List.mem_singleton.mp hq
    have hf : Forgets s q.deck_id e.observation :=
      settle_cue_lost (s := stamped s e) hx (executes_identity hexec).2
    -- Of the observations that forget a cue, only a seek makes an attempt.
    obtain h | h | h | h := forgets_reopens hs hx hnew ht hf
    · exact h
    · obtain ⟨_, _, _, ho⟩ := h
      rw [settledOf, ho] at ha
      simp only [settle] at ha
      split at ha
      · cases ha
      · simp at ha
    · obtain ⟨_, _, ⟨m, l', ho⟩ | ⟨l', ho, _⟩⟩ := h <;> rw [settledOf, ho] at ha
      · cases ha
      simp only [settle] at ha
      split at ha <;> cases ha
    · exact h.elim
  | resumed _ _ _ _ hexec =>
    cases List.mem_singleton.mp hq
    exact absurd hx (executes_identity hexec).2
  | overloaded => simp [reduce_queue_overloaded] at hq
  | closed => simp at hq
  | _ => cases hq

/-- The event `k` of the run lets the request out. -/
def Emitted (k : Nat) (q : OutputExecutionRequest) : Prop :=
  ∃ e r, es[k]? = some e ∧ reduce (reducer.run (es.take k)) e = .ok r ∧ .ExecuteCue q ∈ r.effects

theorem reduce_emits_cue (hr : reduce s e = .ok r) (hq : .ExecuteCue q ∈ r.effects) :
    r.state.last_scheduled_cue = some q.identity := by
  obtain ⟨r0, n, revision, hdoes, _, _, rfl⟩ := reduce_does hr
  cases hdoes with
  | scheduled _ _ _ hexec | resumed _ _ _ _ hexec =>
    cases List.mem_singleton.mp hq
    exact (executes_identity hexec).1
  | overloaded => simp [reduce_queue_overloaded] at hq
  | closed => simp at hq
  | _ => cases hq

/-- An accepted event strictly between `i` and `j` lets out another cue, or ends the execution
context of the deck and the load. -/
def ContextEnds (i j : Nat) (x : ExecutionIdentity) : Prop :=
  ∃ k e r, i < k ∧ k < j ∧ es[k]? = some e ∧ reduce (reducer.run (es.take k)) e = .ok r ∧
    (ExecutesOther x r ∨ Reopens (reducer.run (es.take k)) x.1 x.2.1 e)

/-- A cue gets out twice only when its execution context ended between the two, or when the
second time is the landing of a seek. -/
theorem a_cue_gets_out_again_only_in_a_new_context (i j : Nat)
    (q q' : OutputExecutionRequest) (hij : i < j) (hi : Emitted es i q) (hj : Emitted es j q')
    (hsame : q'.identity = q.identity) :
    ContextEnds es i j q.identity ∨
      ∃ e, es[j]? = some e ∧ SeeksOn (reducer.run (es.take j)) q.deck_id q.track_load_id e := by
  obtain ⟨ei, ri, hei, hri, hqi⟩ := hi
  obtain ⟨ej, rj, hej, hrj, hqj⟩ := hj
  have hafter : (reducer.run (es.take (i + 1))).last_scheduled_cue = some q.identity := by
    rw [Machine.run_take_succ_get hei, Machine.step_ok (m := reducer) hri]
    exact reduce_emits_cue hri hqi
  by_cases hstill : (reducer.run (es.take j)).last_scheduled_cue = some q.identity
  · -- The cue is still scheduled, so the second time is a seek.
    right
    have hseek := reduce_repeats_cue (consistent_reachable (Machine.reachable_run _))
      (hsame ▸ hstill) hrj hqj
    have hd : q'.deck_id = q.deck_id := congrArg (·.1) hsame
    have hl : q'.track_load_id = q.track_load_id := congrArg (·.2.1) hsame
    rw [hd, hl] at hseek
    exact ⟨ej, hej, hseek⟩
  · left
    obtain ⟨k, e, r, hik, hkj, he, hr, hk, hlost⟩ := Machine.lost_between (m := reducer)
      (P := fun s => s.last_scheduled_cue = some q.identity) es (Nat.succ_le_of_lt hij) hafter
      hstill
    exact ⟨k, e, r, hik, hkj, he, hr,
      reduce_loses_cue (consistent_reachable (Machine.reachable_run _)) hk hr hlost⟩

namespace sample

/-- The deck lands twice in its phrase while the show is live. -/
def landings : List DomainEvent :=
  live ++ [observation 5 (.PlaybackPositionSeeked ⟨1⟩ ⟨10⟩ 8),
    observation 6 (.PlaybackPositionSeeked ⟨1⟩ ⟨10⟩ 16)]

/-- The request of the landing `n`. -/
def landing (n : UInt64) (t : UInt64) : OutputExecutionRequest :=
  { request with command_id := ⟨n⟩, scheduled_at := ⟨t⟩ }

theorem first_landing : Emitted landings 8 (landing 2 5) :=
  ⟨_, _, rfl, rfl, List.mem_singleton.mpr rfl⟩

theorem second_landing : Emitted landings 9 (landing 3 6) :=
  ⟨_, _, rfl, rfl, List.mem_singleton.mpr rfl⟩

end sample

theorem a_landing_gets_its_cue_out_again :
    ContextEnds sample.landings 8 9 (sample.landing 2 5).identity ∨
      ∃ e, sample.landings[9]? = some e ∧
        SeeksOn (reducer.run (sample.landings.take 9)) ⟨1⟩ ⟨10⟩ e :=
  a_cue_gets_out_again_only_in_a_new_context sample.landings 8 9 _ _ (by decide)
    sample.first_landing sample.second_landing rfl

/-- Two landings in a row let the same cue out twice with nothing between them. -/
theorem two_landings_in_a_row_repeat_a_cue :
    ¬ ∀ (es : List DomainEvent) (i j : Nat) (q q' : OutputExecutionRequest), i < j →
      Emitted es i q → Emitted es j q' → q'.identity = q.identity →
      ContextEnds es i j q.identity := by
  intro h
  obtain ⟨k, e, r, hik, hkj, _⟩ := h sample.landings 8 9 _ _ (by decide) sample.first_landing
    sample.second_landing rfl
  omega

end lumi_domain
