-- The output gate: at most one effect comes out of an event, a cue gets out
-- only while the gate is open for it, and the numbers of the commands grow
-- along every run.
import Lumi.Domain.Steps

open rust replay

namespace lumi_domain

/-! ## The gate -/

/-- The gate is open for the request: the output is live, the deck of the request leads and
plays the phrase, and the cue is the cue of the active plan for the phrase. -/
structure GateOpen (s : RuntimeState) (q : OutputExecutionRequest) : Prop where
  live : s.operation = .Live
  leads : s.leader_deck = some q.deck_id
  on_phrase : OnPhrase s q.deck_id q.track_load_id q.phrase_index
  planned : ∃ p c, s.active_plan = some p ∧ p.id = q.plan_id ∧ p.revision = q.plan_revision ∧
    p.cues[q.phrase_index.toNat]? = some c ∧ c.id = q.cue_id ∧ c.action = q.action ∧
    c.reason = q.cue_reason

/-- The request carries the next command number, which the state then holds. -/
def NextCommand (s : RuntimeState) (q : OutputExecutionRequest) (s' : RuntimeState) : Prop :=
  q.command_id.value.toNat = s.output_command_sequence.toNat + 1 ∧
    s'.output_command_sequence = q.command_id.value

variable {s s' : RuntimeState} {d : DeckId} {l : TrackLoadId} {i : UInt16} {t : MonotonicTime}
  {q : OutputExecutionRequest} {operation target : OperationState} {command : OperationCommand}
  {e : ObservationEnvelope} {r : Reduction}

theorem executes_gate (hlive : s.operation = .Live) (hon : OnPhrase s d l i)
    (hx : Executes s d l i t s' q) : GateOpen s' q := by
  obtain ⟨p, c, n, ⟨hlead, hplan, hpd, hpl, hc⟩, _, _, rfl, rfl⟩ := hx
  exact ⟨hlive, hlead, hon, p, c, hplan, rfl, rfl, hc, rfl, rfl, rfl⟩

theorem executes_next (hx : Executes s d l i t s' q) : NextCommand s q s' := by
  obtain ⟨p, c, n, _, _, hn, rfl, rfl⟩ := hx
  rw [checked_add_eq_some] at hn
  exact ⟨hn.symm, rfl⟩

/-! ## What comes out of an event -/

/-- A pause, an off or an overload: the events that close the output. -/
def ClosesOutput : DomainEvent → Prop
  | .UserCommand e => e.command = .Pause ∨ e.command = .Off
  | .QueueOverloaded _ => True
  | _ => False

/-- Nothing comes out and a live output stays live, or the output closes, or one cue gets out. -/
inductive Emits (s : RuntimeState) (e : DomainEvent) (r : Reduction) : Prop
  | nothing (heff : r.effects = [])
      (hseq : r.state.output_command_sequence = s.output_command_sequence)
      (hlive : s.operation = .Live → r.state.operation = .Live)
  | closed {reason : DecisionReason} (heff : r.effects = [.EnsureOutputClosed reason])
      (hseq : r.state.output_command_sequence = s.output_command_sequence)
      (hcloses : ClosesOutput e)
  | executed {q : OutputExecutionRequest} (heff : r.effects = [.ExecuteCue q])
      (hgate : GateOpen r.state q) (hnext : NextCommand s q r.state)

theorem operation_target_closes (h : operation_target operation command = some target)
    (ht : target = .Paused ∨ target = .Off) : command = .Pause ∨ command = .Off := by
  obtain rfl | rfl := ht <;> cases command <;> cases operation <;> simp_all [operation_target]

theorem operation_target_opens (h : operation_target operation command = some target)
    (ht : target = .Armed ∨ target = .Live) : operation ≠ .Live := by
  obtain rfl | rfl := ht <;> cases command <;> cases operation <;> simp_all [operation_target]

theorem current_phrase_onPhrase (h : current_phrase s = some (d, l, i)) :
    s.leader_deck = some d ∧ OnPhrase s d l i := by
  unfold current_phrase at h
  split at h
  · cases h
  rename_i a hlead
  split at h
  · cases h
  rename_i deck hdeck
  split at h
  · rename_i hplay
    obtain ⟨j, hj, he⟩ := Option.map_eq_some_iff.mp h
    cases he
    exact ⟨hlead, deck, hdeck, rfl, hplay, hj⟩
  · cases h

theorem settled_emits {decision : DecisionReason} {changed : Bool} :
    Emits s (.Observation e) ⟨(settledOf s e).state, decision, [], changed⟩ := by
  obtain ⟨_, _, _, _, _, _, hs⟩ :=
    settle_frame (stamped s e) e.source_id e.observed_at e.observation
  refine .nothing rfl ?_ ?_
  · simp only [settledOf, hs]
    rfl
  · intro hlive
    simp only [settledOf, hs]
    exact hlive

theorem scheduled_emits (ha : (settledOf s e).attempt = some (d, l, i))
    (hx : Executes (settledOf s e).state d l i e.observed_at s' q) :
    Emits s (.Observation e) ⟨s', .PhraseExecutionScheduled, [.ExecuteCue q], true⟩ := by
  obtain ⟨_, _, _, _, _, _, hs⟩ :=
    settle_frame (stamped s e) e.source_id e.observed_at e.observation
  obtain ⟨hlive, hon⟩ := settle_attempt ha
  obtain ⟨hid, hseq⟩ := executes_next hx
  refine .executed rfl (executes_gate ?_ hon hx) ⟨?_, hseq⟩
  · simp only [hs]
    exact hlive
  · simp only [settledOf, hs] at hid
    exact hid

theorem does_emits {e : DomainEvent} (h : Does s e r) : Emits s e r := by
  cases h with
  | started | stale | regressed | repeated | redelivered | noted | planned | recorded =>
    exact .nothing rfl rfl id
  | settled => exact settled_emits
  | scheduled _ _ ha hx => exact scheduled_emits ha hx
  | closed _ _ hto ht => exact .closed rfl rfl (operation_target_closes hto ht)
  | opened _ _ hto ht =>
    refine .nothing rfl rfl ?_
    intro hlive
    exact absurd hlive (operation_target_opens hto ht)
  | resumed _ _ _ hc hx =>
    obtain ⟨hid, hseq⟩ := executes_next hx
    exact .executed rfl (executes_gate rfl (current_phrase_onPhrase hc).2 hx) ⟨hid, hseq⟩
  | overloaded => exact .closed rfl rfl trivial

theorem reduce_emits {e : DomainEvent} (h : reduce s e = .ok r) : Emits s e r := by
  obtain ⟨r0, n, revision, hdoes, _, _, rfl⟩ := reduce_does h
  cases does_emits hdoes with
  | nothing heff hseq hlive => exact .nothing heff hseq hlive
  | closed heff hseq hcloses => exact .closed heff hseq hcloses
  | executed heff hgate hnext =>
    exact .executed heff ⟨hgate.live, hgate.leads, hgate.on_phrase, hgate.planned⟩ hnext

/-! ## The commands of a run -/

def Effect.request? : Effect → Option OutputExecutionRequest
  | EnsureOutputClosed _ => none
  | ExecuteCue q => some q

/-- The requests of the reductions, in their order. -/
def requestsOf (rs : List Reduction) : List OutputExecutionRequest :=
  rs.flatMap fun r => r.effects.filterMap Effect.request?

/-- From any state on, the commands have numbers above the number of the state, and the numbers
grow. -/
theorem requestsFrom_increase (es : List DomainEvent) (s : RuntimeState) :
    (∀ q ∈ requestsOf (reducer.reductionsFrom s es),
        s.output_command_sequence < q.command_id.value) ∧
      (requestsOf (reducer.reductionsFrom s es)).Pairwise
        (fun q q' => q.command_id.value < q'.command_id.value) := by
  induction es generalizing s with
  | nil => exact ⟨fun q hq => by simp [requestsOf, Machine.reductionsFrom] at hq, .nil⟩
  | cons e es ih =>
    rcases hr : reduce s e with x | r
    · rw [Machine.reductionsFrom_error (m := reducer) es hr]
      exact ih s
    rw [Machine.reductionsFrom_ok (m := reducer) es hr]
    obtain ⟨hlow, hpair⟩ := ih r.state
    have hquiet (heff : r.effects.filterMap Effect.request? = [])
        (hseq : r.state.output_command_sequence = s.output_command_sequence) :
        (∀ q ∈ requestsOf (r :: reducer.reductionsFrom r.state es),
            s.output_command_sequence < q.command_id.value) ∧
          (requestsOf (r :: reducer.reductionsFrom r.state es)).Pairwise
            (fun q q' => q.command_id.value < q'.command_id.value) := by
      simp only [requestsOf, List.flatMap_cons, heff, List.nil_append, ← hseq]
      exact ⟨hlow, hpair⟩
    cases reduce_emits hr with
    | nothing heff hseq _ | closed heff hseq _ => exact hquiet (by rw [heff]; rfl) hseq
    | @executed q heff _ hnext =>
      obtain ⟨hid, hseq⟩ := hnext
      have hlt : s.output_command_sequence < q.command_id.value := by
        rw [UInt64.lt_iff_toNat_lt]
        omega
      have hall : ∀ x ∈ requestsOf (reducer.reductionsFrom r.state es),
          q.command_id.value < x.command_id.value := by
        intro x hx
        rw [← hseq]
        exact hlow x hx
      have hcons : requestsOf (r :: reducer.reductionsFrom r.state es) =
          q :: requestsOf (reducer.reductionsFrom r.state es) := by
        simp [requestsOf, heff, Effect.request?]
      change (∀ x ∈ requestsOf (r :: reducer.reductionsFrom r.state es), _) ∧
        (requestsOf (r :: reducer.reductionsFrom r.state es)).Pairwise _
      rw [hcons]
      refine ⟨?_, List.pairwise_cons.mpr ⟨hall, hpair⟩⟩
      intro x hx
      obtain rfl | hx := List.mem_cons.mp hx
      · exact hlt
      · exact UInt64.lt_trans hlt (hall x hx)

/-! ## The law -/

/-- After every run: an event has at most one effect; a cue gets out only through the open gate
and under the next command number; a live output stops being live only for an event that closes
it, and then the close is the only effect. The command numbers of the run grow. -/
theorem the_output_gate_is_safe (es : List DomainEvent) :
    (∀ (e : DomainEvent) (r : Reduction), reduce (reducer.run es) e = .ok r →
      r.effects.length ≤ 1 ∧
      (∀ q, .ExecuteCue q ∈ r.effects →
        GateOpen r.state q ∧ NextCommand (reducer.run es) q r.state) ∧
      ((reducer.run es).operation = .Live → r.state.operation ≠ .Live →
        ClosesOutput e ∧ ∃ reason, r.effects = [.EnsureOutputClosed reason])) ∧
    (requestsOf (reducer.reductions es)).Pairwise
      (fun q q' => q.command_id.value < q'.command_id.value) := by
  refine ⟨?_, (requestsFrom_increase es _).2⟩
  intro e r hr
  cases reduce_emits hr with
  | nothing heff _ hlive =>
    refine ⟨by simp [heff], by simp [heff], ?_⟩
    intro h hne
    exact absurd (hlive h) hne
  | closed heff _ hcloses => exact ⟨by simp [heff], by simp [heff], fun _ _ => ⟨hcloses, _, heff⟩⟩
  | executed heff hgate hnext =>
    refine ⟨by simp [heff], ?_, ?_⟩
    · intro q hq
      rw [heff, List.mem_singleton] at hq
      cases hq
      exact ⟨hgate, hnext⟩
    · intro _ hne
      exact absurd hgate.live hne

/-- The start of the short show lets its cue out. -/
theorem the_output_gate_is_safe_at_a_start :
    ∃ r, reduce (reducer.run sample.armed) (sample.command 2 7 .Start) = .ok r ∧
      r.effects = [.ExecuteCue sample.request] ∧ GateOpen r.state sample.request := by
  obtain ⟨r, hr, heff⟩ : ∃ r,
      reduce (reducer.run sample.armed) (sample.command 2 7 .Start) = .ok r ∧
      r.effects = [.ExecuteCue sample.request] := ⟨_, rfl, rfl⟩
  have hgate := ((the_output_gate_is_safe sample.armed).1 _ r hr).2.1 sample.request
  exact ⟨r, hr, heff, (hgate (by rw [heff]; exact List.mem_singleton.mpr rfl)).1⟩

/-! ## Going live -/

/-- A start, by a client that has seen the state as it is. -/
def IsStart (s : RuntimeState) (e : DomainEvent) : Prop :=
  ∃ c, e = .UserCommand c ∧ c.command = .Start ∧ c.expected_state_revision = s.revision

theorem does_live {e : DomainEvent} (h : Does s e r) (hlive : r.state.operation = .Live) :
    s.operation = .Live ∨ IsStart s e := by
  have hstart : ∀ c, operation_target s.operation c = some .Live → c = .Start := by
    intro c
    cases c <;> cases s.operation <;> simp [operation_target]
  cases h with
  | @settled e =>
    obtain ⟨_, _, _, _, _, _, hs⟩ :=
      settle_frame (stamped s e) e.source_id e.observed_at e.observation
    rw [settledOf, hs] at hlive
    exact .inl hlive
  | scheduled _ _ ha => exact .inl (settle_attempt ha).1
  | closed _ _ _ ht => rcases ht with rfl | rfl <;> cases hlive
  | opened _ hrev hto => exact .inr ⟨_, rfl, hstart _ (hlive ▸ hto), hrev⟩
  | resumed _ hrev hto => exact .inr ⟨_, rfl, hstart _ hto, hrev⟩
  | overloaded =>
    by_contra hs
    simp_all [reduce_queue_overloaded, RuntimeState.push_diagnostic]
  | _ => exact .inl hlive

/-- The run has a start since which the output has been live. -/
def LiveSinceStart (es : List DomainEvent) : Prop :=
  ∃ earlier e later, es = earlier ++ e :: later ∧ IsStart (reducer.run earlier) e ∧
    ∀ part, part <+: later → (reducer.run (earlier ++ e :: part)).operation = .Live

/-- Nothing but a start makes the output live, in whatever order the events come. -/
theorem a_live_show_was_started (es : List DomainEvent)
    (h : (reducer.run es).operation = .Live) : LiveSinceStart es := by
  induction es using List.reverseRecOn with
  | nil => cases h
  | append_singleton es e ih =>
    by_cases hlive : (reducer.run es).operation = .Live
    · obtain ⟨earlier, start, later, rfl, hstart, hsince⟩ := ih hlive
      refine ⟨earlier, start, later ++ [e], by simp, hstart, fun part hpart => ?_⟩
      rcases List.prefix_concat_iff.mp hpart with rfl | hpart
      · simpa using h
      · exact hsince part hpart
    refine ⟨es, e, [], rfl, ?_, fun part hpart => by rwa [List.prefix_nil.mp hpart]⟩
    rw [Machine.run_snoc] at h
    cases hr : reduce (reducer.run es) e with
    | error x => exact absurd (Machine.step_error (m := reducer) hr ▸ h) hlive
    | ok r =>
      rw [Machine.step_ok (m := reducer) hr] at h
      obtain ⟨r0, _, _, hdoes, _, _, rfl⟩ := reduce_does hr
      exact (does_live hdoes h).resolve_left hlive

theorem the_short_show_was_started : LiveSinceStart sample.live :=
  a_live_show_was_started sample.live rfl

end lumi_domain
