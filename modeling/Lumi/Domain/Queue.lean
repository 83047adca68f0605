-- The bounded queue in front of the reducer. Each push and each pop is entered
-- in a ledger, and the ledger balances: no critical event is lost, and every
-- push into the full queue is covered by one overload event.
import Lumi.Domain.Reducer

open rust
open List (append_assoc append_nil filter_append length_map map_cons map_nil mem_append mem_map
  mem_singleton)

namespace lumi_domain

/-! ## The queue -/

structure InvalidQueueCapacity where
deriving DecidableEq

inductive IngressOutcome where
  | Accepted
  | AcceptedAfterEvictingNonCritical (evicted_kind : DomainEventKind)
deriving DecidableEq

inductive IngressError where
  | Saturated (rejected_kind : DomainEventKind) (critical : Bool)
deriving DecidableEq

structure BoundedEventQueue where
  capacity : Nat
  events : List DomainEvent
  pending_overload : Option QueueOverloadEvent
deriving DecidableEq

namespace BoundedEventQueue

def try_new (capacity : Nat) : Except InvalidQueueCapacity BoundedEventQueue :=
  if capacity = 0 then .error {} else .ok { capacity, events := [], pending_overload := none }

variable (queue : BoundedEventQueue)

def len : Nat :=
  queue.events.length + if queue.pending_overload.isSome then 1 else 0

def is_empty : Bool :=
  queue.events.isEmpty && queue.pending_overload.isNone

def record_overload (event : DomainEvent) : BoundedEventQueue :=
  match queue.pending_overload with
  | some overload =>
    { queue with
      pending_overload := some
        { overload with
          rejected_kind := event.kind
          rejected_critical := overload.rejected_critical || event.is_critical
          occurrences := saturating_add overload.occurrences 1 } }
  | none =>
    { queue with
      pending_overload := some
        { occurred_at := event.monotonic_time
          rejected_kind := event.kind
          rejected_critical := event.is_critical
          occurrences := 1 } }

/-- The event that goes when a critical event comes into the full queue. -/
def eviction_index : Option Nat :=
  rposition (fun queued => !queued.is_critical) queue.events

def push (event : DomainEvent) : BoundedEventQueue × Except IngressError IngressOutcome :=
  if queue.events.length < queue.capacity then
    ({ queue with events := queue.events ++ [event] }, .ok .Accepted)
  else
    let queue := queue.record_overload event
    match event.is_critical, queue.eviction_index with
    | true, some index =>
      match queue.events[index]? with
      | none => (queue, .error (.Saturated event.kind true))
      | some evicted =>
        ({ queue with events := queue.events.eraseIdx index ++ [event] },
          .ok (.AcceptedAfterEvictingNonCritical evicted.kind))
    | _, _ => (queue, .error (.Saturated event.kind event.is_critical))

def pop : BoundedEventQueue × Option DomainEvent :=
  match queue.pending_overload with
  | some overload => ({ queue with pending_overload := none }, some (.QueueOverloaded overload))
  | none =>
    match queue.events with
    | [] => (queue, none)
    | event :: events => ({ queue with events }, some event)

end BoundedEventQueue

/-! ## What a push does -/

/-- The queue takes the event while it has room; a critical event drives out the last event that
is not critical; any other event is rejected. Every push into the full queue is recorded. -/
inductive Pushes (q : BoundedEventQueue) (e : DomainEvent) :
    BoundedEventQueue → Except IngressError IngressOutcome → Prop
  | room (h : q.events.length < q.capacity) :
      Pushes q e { q with events := q.events ++ [e] } (.ok .Accepted)
  | evicts {pre post : List DomainEvent} {y : DomainEvent} (h : q.capacity ≤ q.events.length)
      (hc : e.is_critical = true) (hq : q.events = pre ++ y :: post)
      (hi : q.eviction_index = some pre.length) (hy : y.is_critical = false) :
      Pushes q e { q.record_overload e with events := pre ++ post ++ [e] }
        (.ok (.AcceptedAfterEvictingNonCritical y.kind))
  | rejects (h : q.capacity ≤ q.events.length)
      (hno : e.is_critical = true → ∀ x ∈ q.events, x.is_critical = true) :
      Pushes q e (q.record_overload e) (.error (.Saturated e.kind e.is_critical))

variable (q : BoundedEventQueue) (e : DomainEvent)

theorem record_overload_events : (q.record_overload e).events = q.events := by
  unfold BoundedEventQueue.record_overload
  split <;> rfl

theorem record_overload_capacity : (q.record_overload e).capacity = q.capacity := by
  unfold BoundedEventQueue.record_overload
  split <;> rfl

theorem push_pushes : Pushes q e (q.push e).1 (q.push e).2 := by
  unfold BoundedEventQueue.push
  split
  · rename_i h
    exact .room h
  rename_i h
  have hfull : q.capacity ≤ q.events.length := by omega
  have hindex : (q.record_overload e).eviction_index = q.eviction_index := by
    unfold BoundedEventQueue.eviction_index
    rw [record_overload_events]
  simp only [hindex, record_overload_events]
  rcases hc : e.is_critical with _ | _
  · have hrej : Pushes q e (q.record_overload e) (.error (.Saturated e.kind e.is_critical)) :=
      .rejects hfull (by simp [hc])
    rw [hc] at hrej
    exact hrej
  cases hi : q.eviction_index with
  | none =>
    have hall : ∀ x ∈ q.events, x.is_critical = true := by
      intro x hx
      simpa using rposition_eq_none.mp hi x hx
    have hrej : Pushes q e (q.record_overload e) (.error (.Saturated e.kind e.is_critical)) :=
      .rejects hfull (fun _ => hall)
    rw [hc] at hrej
    exact hrej
  | some i =>
    obtain ⟨pre, y, post, hq, rfl, hy, _⟩ := rposition_eq_some hi
    have hget : q.events[pre.length]? = some y := by simp [hq]
    have herase : q.events.eraseIdx pre.length = pre ++ post := by
      rw [hq, List.eraseIdx_append_of_length_le (Nat.le_refl _)]
      simp
    simp only [hget, herase]
    exact .evicts hfull hc hq hi (by simpa using hy)

/-! ## The ledger -/

/-- A pushed event with the number of its push. -/
abbrev Tagged := Nat × DomainEvent

inductive Entry where
  | accepted (x : Tagged)
  | saturated (x : Tagged)
  | evicted (x : Tagged) (by_push : Nat)
  | popped (x : Tagged)
  | overload (overload : QueueOverloadEvent) (covers : List Tagged)

/-- The queue with its books: the numbers of the events in it, the pushes into the full queue
that no overload event covers yet, and the log of what happened. -/
structure Ledger where
  queue : BoundedEventQueue
  pushes : Nat
  queued : List Tagged
  uncovered : List Tagged
  log : List Entry

inductive QueueOp where
  | push (event : DomainEvent)
  | pop

namespace Ledger

def start (queue : BoundedEventQueue) : Ledger where
  queue := queue
  pushes := 0
  queued := []
  uncovered := []
  log := []

/-- The push of the queue. A push that finds no room is noted as saturated. -/
def push (L : Ledger) (e : DomainEvent) : Ledger :=
  let x : Tagged := (L.pushes, e)
  let saturated := if L.queue.events.length < L.queue.capacity then [] else [x]
  let log := L.log ++ saturated.map .saturated
  let noted : Ledger :=
    { queue := (L.queue.push e).1
      pushes := L.pushes + 1
      queued := L.queued
      uncovered := L.uncovered ++ saturated
      log }
  match (L.queue.push e).2 with
  | .error _ => noted
  | .ok .Accepted => { noted with queued := L.queued ++ [x], log := log ++ [.accepted x] }
  | .ok (.AcceptedAfterEvictingNonCritical _) =>
    let index := L.queue.eviction_index.getD 0
    { noted with
      queued := L.queued.eraseIdx index ++ [x]
      log := log ++ L.queued[index]?.toList.map (.evicted · L.pushes) ++ [.accepted x] }

/-- The pop of the queue: the overload event covers what is uncovered. -/
def pop (L : Ledger) : Ledger :=
  match L.queue.pending_overload with
  | some overload =>
    { L with
      queue := L.queue.pop.1
      uncovered := []
      log := L.log ++ [.overload overload L.uncovered] }
  | none =>
    { L with
      queue := L.queue.pop.1
      queued := L.queued.tail
      log := L.log ++ L.queued.head?.toList.map .popped }

def step (L : Ledger) : QueueOp → Ledger
  | .push e => L.push e
  | .pop => L.pop

def run (L : Ledger) (ops : List QueueOp) : Ledger := ops.foldl step L

end Ledger

/-! ## The columns of the log -/

def acceptedOf (log : List Entry) : List Tagged :=
  log.filterMap fun | .accepted x => some x | _ => none

def saturatedOf (log : List Entry) : List Tagged :=
  log.filterMap fun | .saturated x => some x | _ => none

/-- Each evicted event, with the number of the push that drove it out. -/
def evictionsOf (log : List Entry) : List (Tagged × Nat) :=
  log.filterMap fun | .evicted x n => some (x, n) | _ => none

def poppedOf (log : List Entry) : List Tagged :=
  log.filterMap fun | .popped x => some x | _ => none

/-- The pushes that the overload events of the queue cover. -/
def coversOf (log : List Entry) : List Tagged :=
  log.flatMap fun | .overload _ covers => covers | _ => []

/-- What the pops returned. -/
def returnedOf (log : List Entry) : List DomainEvent :=
  log.filterMap fun
    | .popped x => some x.2
    | .overload overload _ => some (.QueueOverloaded overload)
    | _ => none

section columns

variable (log : List Entry) (entry : Entry)

@[simp] theorem acceptedOf_snoc : acceptedOf (log ++ [entry]) =
    acceptedOf log ++ (match entry with | .accepted x => [x] | _ => []) := by
  cases entry <;> simp [acceptedOf]

@[simp] theorem saturatedOf_snoc : saturatedOf (log ++ [entry]) =
    saturatedOf log ++ (match entry with | .saturated x => [x] | _ => []) := by
  cases entry <;> simp [saturatedOf]

@[simp] theorem evictionsOf_snoc : evictionsOf (log ++ [entry]) =
    evictionsOf log ++ (match entry with | .evicted x n => [(x, n)] | _ => []) := by
  cases entry <;> simp [evictionsOf]

@[simp] theorem poppedOf_snoc : poppedOf (log ++ [entry]) =
    poppedOf log ++ (match entry with | .popped x => [x] | _ => []) := by
  cases entry <;> simp [poppedOf]

@[simp] theorem coversOf_snoc : coversOf (log ++ [entry]) =
    coversOf log ++ (match entry with | .overload _ covers => covers | _ => []) := by
  cases entry <;> simp [coversOf]

end columns

/-! ## The balance -/

/-- The overload event says when the first of the pushes came, what the last of them was, how
many there were as far as the count goes, and whether one of them was critical. -/
structure Reports (overload : QueueOverloadEvent) (covers : List Tagged) : Prop where
  first : covers.head?.map (·.2.monotonic_time) = some overload.occurred_at
  last : covers.getLast?.map (·.2.kind) = some overload.rejected_kind
  count : overload.occurrences.toNat = min covers.length (2 ^ 64 - 1)
  critical : overload.rejected_critical = covers.any (·.2.is_critical)

/-- When an event of the queue is popped, every push into the full queue before it is covered;
an overload event covers exactly the pushes that were not covered before it. -/
def WellPlaced (pre : List Entry) : Entry → Prop
  | .popped _ => saturatedOf pre = coversOf pre
  | .overload overload covers =>
    saturatedOf pre = coversOf pre ++ covers ∧ Reports overload covers
  | _ => True

def WellReported (log : List Entry) : Prop :=
  ∀ pre entry, pre ++ [entry] <+: log → WellPlaced pre entry

/-- The events go out in the order of their pushes, but for the evicted ones, which are not
critical and make room for a later critical push. -/
structure Balanced (L : Ledger) : Prop where
  size : L.queue.events.length ≤ L.queue.capacity
  contents : L.queued.map Prod.snd = L.queue.events
  increasing : (acceptedOf L.log).Pairwise (·.1 < ·.1)
  numbered : ∀ x ∈ acceptedOf L.log, x.1 < L.pushes
  order : poppedOf L.log ++ L.queued =
    (acceptedOf L.log).filter (· ∉ (evictionsOf L.log).map Prod.fst)
  evictions : ∀ v ∈ evictionsOf L.log, v.1 ∈ acceptedOf L.log ∧ v.1.2.is_critical = false ∧
    v.1.1 < v.2 ∧ ∃ e, e.is_critical = true ∧ (v.2, e) ∈ acceptedOf L.log
  saturated_increasing : (saturatedOf L.log).Pairwise (·.1 < ·.1)
  saturated_numbered : ∀ x ∈ saturatedOf L.log, x.1 < L.pushes
  covered : saturatedOf L.log = coversOf L.log ++ L.uncovered
  pending : match L.queue.pending_overload with
    | none => L.uncovered = []
    | some overload => Reports overload L.uncovered
  reported : WellReported L.log

/-! ## One push and one pop in the books -/

/-- What a push does to the books. -/
inductive Books (L : Ledger) (e : DomainEvent) : Ledger → Prop
  | room (h : L.queue.events.length < L.queue.capacity) :
      Books L e
        { L with
          queue := { L.queue with events := L.queue.events ++ [e] }
          pushes := L.pushes + 1
          queued := L.queued ++ [(L.pushes, e)]
          log := L.log ++ [.accepted (L.pushes, e)] }
  | evicts {pre post : List Tagged} {y : Tagged} (h : L.queue.capacity ≤ L.queue.events.length)
      (hc : e.is_critical = true) (hq : L.queued = pre ++ y :: post)
      (hy : y.2.is_critical = false) :
      Books L e
        { queue :=
            { L.queue.record_overload e with
              events := (pre ++ post ++ [(L.pushes, e)]).map Prod.snd }
          pushes := L.pushes + 1
          queued := pre ++ post ++ [(L.pushes, e)]
          uncovered := L.uncovered ++ [(L.pushes, e)]
          log := L.log ++ [.saturated (L.pushes, e), .evicted y L.pushes,
            .accepted (L.pushes, e)] }
  | rejects (h : L.queue.capacity ≤ L.queue.events.length)
      (hno : e.is_critical = true → ∀ x ∈ L.queue.events, x.is_critical = true) :
      Books L e
        { L with
          queue := L.queue.record_overload e
          pushes := L.pushes + 1
          uncovered := L.uncovered ++ [(L.pushes, e)]
          log := L.log ++ [.saturated (L.pushes, e)] }

/-- The event at an index of the queue stands at the same index of the books. -/
theorem queued_split {queued : List Tagged} {pre post : List DomainEvent} {y : DomainEvent}
    (h : queued.map Prod.snd = pre ++ y :: post) :
    ∃ pre' y' post', queued = pre' ++ y' :: post' ∧ pre'.length = pre.length ∧ y'.2 = y ∧
      pre'.map Prod.snd = pre ∧ post'.map Prod.snd = post := by
  obtain ⟨pre', rest, rfl, hpre, hrest⟩ := List.map_eq_append_iff.mp h
  obtain ⟨y', post', rfl, hy, hpost⟩ := List.map_eq_cons_iff.mp hrest
  exact ⟨pre', y', post', rfl, by rw [← hpre, length_map], hy, hpre, hpost⟩

variable {L : Ledger} {l pre post : List Tagged} {n : Nat} {q} {y : Tagged}

/-! ## The books and the queue -/

namespace BoundedEventQueue

/-- The queue after the pushes and the pops. -/
def after (q : BoundedEventQueue) : List QueueOp → BoundedEventQueue
  | [] => q
  | .push e :: ops => (q.push e).1.after ops
  | .pop :: ops => q.pop.1.after ops

/-- What the pops return, in their order. -/
def returned (q : BoundedEventQueue) : List QueueOp → List DomainEvent
  | [] => []
  | .push e :: ops => (q.push e).1.returned ops
  | .pop :: ops => q.pop.2.toList ++ q.pop.1.returned ops

end BoundedEventQueue

/-- The ledger of a queue after the pushes and the pops. -/
def ledgerOf (q : BoundedEventQueue) (ops : List QueueOp) : Ledger := (Ledger.start q).run ops

theorem push_queue (L : Ledger) : (L.push e).queue = (L.queue.push e).1 := by
  unfold Ledger.push
  simp only
  split <;> rfl

theorem pop_queue (L : Ledger) : L.pop.queue = L.queue.pop.1 := by
  unfold Ledger.pop
  split <;> rfl

theorem run_queue (L : Ledger) (ops : List QueueOp) : (L.run ops).queue = L.queue.after ops := by
  induction ops generalizing L with
  | nil => rfl
  | cons op ops ih =>
    cases op with
    | push e =>
      change ((L.push e).run ops).queue = _
      rw [ih, push_queue]
      rfl
    | pop =>
      change (L.pop.run ops).queue = _
      rw [ih, pop_queue]
      rfl

theorem pop_accepted (L : Ledger) : acceptedOf L.pop.log = acceptedOf L.log := by
  unfold Ledger.pop
  split
  · simp [acceptedOf]
  · cases L.queued <;> simp [acceptedOf]

theorem pop_len (q : BoundedEventQueue) : q.pop.1.len = q.len - 1 := by
  unfold BoundedEventQueue.pop BoundedEventQueue.len
  cases hp : q.pending_overload with
  | some overload => simp
  | none =>
    cases hq : q.events with
    | nil => simp [hp, hq]
    | cons x rest => simp

/-- Pops alone bring out everything that is queued. -/
theorem run_pops (n : Nat) (L : Ledger) :
    (L.run (List.replicate n .pop)).queue.len = L.queue.len - n ∧
      acceptedOf (L.run (List.replicate n .pop)).log = acceptedOf L.log := by
  induction n generalizing L with
  | zero => exact ⟨rfl, rfl⟩
  | succ n ih =>
    obtain ⟨hlen, hacc⟩ := ih L.pop
    change (L.pop.run (List.replicate n .pop)).queue.len = _ ∧
      acceptedOf (L.pop.run (List.replicate n .pop)).log = _
    rw [hlen, hacc, pop_queue, pop_len, pop_accepted]
    exact ⟨by omega, rfl⟩

theorem after_capacity (q : BoundedEventQueue) (ops : List QueueOp) :
    (q.after ops).capacity = q.capacity := by
  induction ops generalizing q with
  | nil => rfl
  | cons op ops ih =>
    cases op with
    | push e =>
      change ((q.push e).1.after ops).capacity = _
      rw [ih]
      have hp := push_pushes q e
      generalize q.push e = result at hp
      obtain ⟨q', outcome⟩ := result
      cases hp with
      | room => rfl
      | evicts | rejects => exact record_overload_capacity q e
    | pop =>
      change (q.pop.1.after ops).capacity = _
      rw [ih]
      unfold BoundedEventQueue.pop
      split
      · rfl
      · split <;> rfl

variable (hL : L.queued.map Prod.snd = L.queue.events)
include hL

theorem push_books : Books L e (L.push e) := by
  unfold Ledger.push
  generalize hr : L.queue.push e = result
  have hp := push_pushes L.queue e
  rw [hr] at hp
  obtain ⟨q, outcome⟩ := result
  cases hp with
  | room h =>
    simp only [h, if_true, map_nil, append_nil]
    exact .room h
  | @evicts pre post y h hc hq hi hy =>
    have hfull : ¬ L.queue.events.length < L.queue.capacity := by omega
    rw [hq] at hL
    obtain ⟨pre', y', post', hq', hlen, rfl, rfl, rfl⟩ := queued_split hL
    have hget : L.queued[pre'.length]? = some y' := by simp [hq']
    have herase : L.queued.eraseIdx pre'.length = pre' ++ post' := by
      rw [hq', List.eraseIdx_append_of_length_le (Nat.le_refl _)]
      simp
    rw [length_map] at hi
    simp only [hfull, if_false, hi, Option.getD_some, hget, herase, map_cons, map_nil,
      Option.toList_some, append_assoc, List.cons_append, List.nil_append]
    have hbooks := Books.evicts (L := L) (e := e) h hc hq' hy
    simpa using hbooks
  | rejects h hno =>
    have hfull : ¬ L.queue.events.length < L.queue.capacity := by omega
    simp only [hfull, if_false]
    exact .rejects h hno

theorem push_returned : returnedOf (L.push e).log = returnedOf L.log := by
  have hbooks := push_books e hL
  generalize L.push e = L' at hbooks
  cases hbooks <;> simp [returnedOf]

theorem pop_returned : returnedOf L.pop.log = returnedOf L.log ++ L.queue.pop.2.toList := by
  unfold Ledger.pop BoundedEventQueue.pop
  cases hp : L.queue.pending_overload with
  | some overload => simp [returnedOf]
  | none =>
    rw [← hL]
    cases L.queued <;> simp [returnedOf]

omit hL

/-! ## The books stay balanced -/

theorem increasing_snoc (h : l.Pairwise (·.1 < ·.1)) (hn : ∀ x ∈ l, x.1 < n) :
    (l ++ [(n, e)]).Pairwise (·.1 < ·.1) := by
  rw [List.pairwise_append]
  refine ⟨h, List.pairwise_singleton _ _, ?_⟩
  intro x hx y hy
  cases mem_singleton.mp hy
  exact hn x hx

theorem numbered_snoc (hn : ∀ x ∈ l, x.1 < n) : ∀ x ∈ l ++ [(n, e)], x.1 < n + 1 := by
  intro x hx
  rcases mem_append.mp hx with hx | hx
  · exact Nat.lt_succ_of_lt (hn x hx)
  cases mem_singleton.mp hx
  exact Nat.lt_succ_self n

theorem wellReported_snoc {log : List Entry} {entry : Entry} (h : WellReported log)
    (he : WellPlaced log entry) : WellReported (log ++ [entry]) := by
  intro pre x hpre
  rcases List.prefix_concat_iff.mp hpre with heq | hlog
  · obtain ⟨rfl, hx⟩ := List.append_inj' heq rfl
    cases hx
    exact he
  · exact h pre x hlog

/-- The first push after an overload event starts a new one, and each further push adds to it. -/
theorem record_overload_reports {covers : List Tagged} (n : Nat)
    (h : match q.pending_overload with
      | none => covers = []
      | some overload => Reports overload covers) :
    ∃ overload, (q.record_overload e).pending_overload = some overload ∧
      Reports overload (covers ++ [(n, e)]) := by
  unfold BoundedEventQueue.record_overload
  rcases hp : q.pending_overload with _ | overload
  · rw [hp] at h
    cases h
    refine ⟨_, rfl, rfl, rfl, ?_, ?_⟩
    · rfl
    · simp
  rw [hp] at h
  obtain ⟨hfirst, hlast, hcount, hcrit⟩ := h
  refine ⟨_, rfl, ?_, ?_, ?_, ?_⟩
  · cases covers with
    | nil => cases hfirst
    | cons x rest => exact hfirst
  · simp
  · rw [saturating_add_toNat, hcount, List.length_append]
    simp only [UInt64.toNat_one, List.length_singleton]
    omega
  · simp only [hcrit, List.any_append, List.any_cons, List.any_nil, Bool.or_false]

theorem filter_ne_middle {α : Type} [DecidableEq α] {a b : List α} {y : α}
    (h : (a ++ y :: b).Nodup) : (a ++ y :: b).filter (· ≠ y) = a ++ b := by
  have hmid := List.nodup_middle.mp h
  obtain ⟨hy, _⟩ := List.nodup_cons.mp hmid
  rw [mem_append, not_or] at hy
  have ha : a.filter (· ≠ y) = a :=
    List.filter_eq_self.mpr fun x hx => by simpa using fun hxy : x = y => hy.1 (hxy ▸ hx)
  have hb : b.filter (· ≠ y) = b :=
    List.filter_eq_self.mpr fun x hx => by simpa using fun hxy : x = y => hy.2 (hxy ▸ hx)
  rw [filter_append, List.filter_cons_of_neg (by simp), ha, hb]

theorem nodup_of_increasing (h : l.Pairwise (·.1 < ·.1)) : l.Nodup := by
  refine h.imp ?_
  rintro x _ hlt rfl
  exact Nat.lt_irrefl _ hlt

theorem balanced_start {capacity : Nat} (h : BoundedEventQueue.try_new capacity = .ok q) :
    Balanced (Ledger.start q) := by
  unfold BoundedEventQueue.try_new at h
  split at h
  · cases h
  cases h
  refine ⟨Nat.zero_le _, rfl, .nil, ?_, rfl, ?_, .nil, ?_, rfl, rfl, ?_⟩
  · intro x hx
    cases hx
  · intro v hv
    cases hv
  · intro x hx
    cases hx
  · intro pre entry hpre
    have hnil := List.prefix_nil.mp hpre
    simp at hnil

variable (h : Balanced L)
include h

/-- A new event is not among the evicted ones. -/
theorem Balanced.fresh : (L.pushes, e) ∉ (evictionsOf L.log).map Prod.fst := by
  intro hmem
  obtain ⟨v, hv, hx⟩ := mem_map.mp hmem
  have hacc := (h.evictions v hv).1
  rw [hx] at hacc
  exact Nat.lt_irrefl _ (h.numbered _ hacc)

theorem balanced_room (hroom : L.queue.events.length < L.queue.capacity) :
    Balanced
      { L with
        queue := { L.queue with events := L.queue.events ++ [e] }
        pushes := L.pushes + 1
        queued := L.queued ++ [(L.pushes, e)]
        log := L.log ++ [.accepted (L.pushes, e)] } := by
  constructor
  · simpa using hroom
  · simp [h.contents]
  · simpa using increasing_snoc e h.increasing h.numbered
  · simpa using numbered_snoc e h.numbered
  · rw [evictionsOf_snoc, acceptedOf_snoc, poppedOf_snoc, append_nil, append_nil]
    rw [filter_append, ← h.order, List.filter_cons_of_pos (by simpa using h.fresh e)]
    exact append_assoc _ _ _ |>.symm
  · intro v hv
    obtain ⟨h1, h2, h3, e', he', h4⟩ := h.evictions v (by simpa using hv)
    exact ⟨by simp [h1], h2, h3, e', he', by simp [h4]⟩
  · simpa using h.saturated_increasing
  · intro x hx
    exact Nat.lt_succ_of_lt (h.saturated_numbered x (by simpa using hx))
  · simpa using h.covered
  · exact h.pending
  · exact wellReported_snoc h.reported trivial

theorem balanced_rejects :
    Balanced
      { L with
        queue := L.queue.record_overload e
        pushes := L.pushes + 1
        uncovered := L.uncovered ++ [(L.pushes, e)]
        log := L.log ++ [.saturated (L.pushes, e)] } := by
  constructor
  · simpa [record_overload_events, record_overload_capacity] using h.size
  · simpa [record_overload_events] using h.contents
  · simpa using h.increasing
  · intro x hx
    exact Nat.lt_succ_of_lt (h.numbered x (by simpa using hx))
  · rw [evictionsOf_snoc, acceptedOf_snoc, poppedOf_snoc]
    rw [append_nil, append_nil, append_nil]
    exact h.order
  · simpa using h.evictions
  · simpa using increasing_snoc e h.saturated_increasing h.saturated_numbered
  · simpa using numbered_snoc e h.saturated_numbered
  · simp [h.covered]
  · obtain ⟨overload, ho, hrep⟩ := record_overload_reports e L.pushes h.pending
    rw [ho]
    exact hrep
  · exact wellReported_snoc h.reported trivial

/-- The accepted events that are not evicted, once `y` is evicted for the new one. -/
theorem Balanced.order_evict (hq : L.queued = pre ++ y :: post) :
    poppedOf L.log ++ (pre ++ post ++ [(L.pushes, e)]) =
      (acceptedOf L.log ++ [(L.pushes, e)]).filter
        (· ∉ (evictionsOf L.log).map Prod.fst ++ [y]) := by
  have hkeep := h.order
  rw [hq] at hkeep
  have hnodup : (poppedOf L.log ++ pre ++ y :: post).Nodup := by
    rw [append_assoc, hkeep]
    exact (nodup_of_increasing h.increasing).filter _
  have hold : (acceptedOf L.log).filter (· ∉ (evictionsOf L.log).map Prod.fst ++ [y]) =
      poppedOf L.log ++ pre ++ post := by
    rw [← filter_ne_middle hnodup, append_assoc, hkeep, List.filter_filter]
    apply List.filter_congr
    intro x _
    rw [Bool.eq_iff_iff, Bool.and_eq_true, decide_eq_true_eq, decide_eq_true_eq,
      decide_eq_true_eq, mem_append, mem_singleton, not_or]
    exact and_comm
  have hy : y ∈ acceptedOf L.log := by
    have hmem : y ∈ poppedOf L.log ++ (pre ++ y :: post) := by simp
    rw [hkeep] at hmem
    exact (List.mem_filter.mp hmem).1
  have hne : (L.pushes, e) ≠ y := by
    rintro rfl
    exact Nat.lt_irrefl _ (h.numbered _ hy)
  have hnew : (L.pushes, e) ∉ (evictionsOf L.log).map Prod.fst ++ [y] := by
    rw [mem_append, not_or, mem_singleton]
    exact ⟨h.fresh e, hne⟩
  rw [filter_append, hold, List.filter_cons_of_pos (by simpa using hnew)]
  simp

theorem balanced_evicts (hc : e.is_critical = true)
    (hq : L.queued = pre ++ y :: post) (hy : y.2.is_critical = false) :
    Balanced
      { queue :=
          { L.queue.record_overload e with
            events := (pre ++ post ++ [(L.pushes, e)]).map Prod.snd }
        pushes := L.pushes + 1
        queued := pre ++ post ++ [(L.pushes, e)]
        uncovered := L.uncovered ++ [(L.pushes, e)]
        log := L.log ++ [.saturated (L.pushes, e), .evicted y L.pushes,
          .accepted (L.pushes, e)] } := by
  -- The three entries of the log, one after the other.
  have hlog : L.log ++ [Entry.saturated (L.pushes, e), Entry.evicted y L.pushes,
      Entry.accepted (L.pushes, e)] = L.log ++ [Entry.saturated (L.pushes, e)] ++
        [Entry.evicted y L.pushes] ++ [Entry.accepted (L.pushes, e)] := by simp
  rw [hlog]
  have hmem : y ∈ acceptedOf L.log := by
    have hin : y ∈ poppedOf L.log ++ L.queued := by simp [hq]
    rw [h.order] at hin
    exact (List.mem_filter.mp hin).1
  constructor
  · have hsize := h.size
    rw [← h.contents, hq] at hsize
    simp only [List.map_append, map_cons, List.length_append, length_map,
      List.length_cons, List.length_nil, record_overload_capacity] at hsize ⊢
    omega
  · rfl
  · simpa only [acceptedOf_snoc, append_nil] using increasing_snoc e h.increasing h.numbered
  · simpa only [acceptedOf_snoc, append_nil] using numbered_snoc e h.numbered
  · simp only [evictionsOf_snoc, acceptedOf_snoc, poppedOf_snoc, append_nil, List.map_append]
    exact h.order_evict e hq
  · intro v hv
    simp only [evictionsOf_snoc, acceptedOf_snoc, append_nil] at hv ⊢
    rcases mem_append.mp hv with hv | hv
    · obtain ⟨h1, h2, h3, e', he', h4⟩ := h.evictions v hv
      exact ⟨List.mem_append_left _ h1, h2, h3, e', he', List.mem_append_left _ h4⟩
    cases mem_singleton.mp hv
    refine ⟨List.mem_append_left _ hmem, hy, h.numbered y hmem, e, hc, ?_⟩
    exact List.mem_append_right _ (mem_singleton.mpr rfl)
  · simpa only [saturatedOf_snoc, append_nil] using
      increasing_snoc e h.saturated_increasing h.saturated_numbered
  · simpa only [saturatedOf_snoc, append_nil] using numbered_snoc e h.saturated_numbered
  · simp only [saturatedOf_snoc, coversOf_snoc, append_nil, h.covered]
    exact append_assoc _ _ _
  · obtain ⟨overload, ho, hrep⟩ := record_overload_reports e L.pushes h.pending
    simp only [ho]
    exact hrep
  · refine wellReported_snoc (wellReported_snoc (wellReported_snoc h.reported ?_) ?_) ?_
    all_goals trivial

theorem balanced_push : Balanced (L.push e) := by
  have hbooks := push_books e h.contents
  generalize L.push e = L' at hbooks
  cases hbooks with
  | room hroom => exact balanced_room e h hroom
  | evicts _ hc hq hy => exact balanced_evicts e h hc hq hy
  | rejects => exact balanced_rejects e h

theorem balanced_pop : Balanced L.pop := by
  unfold Ledger.pop
  have hpend := h.pending
  cases hp : L.queue.pending_overload with
  | some overload =>
    rw [hp] at hpend
    have hq : L.queue.pop.1 = { L.queue with pending_overload := none } := by
      simp [BoundedEventQueue.pop, hp]
    simp only [hq]
    constructor
    · exact h.size
    · exact h.contents
    · simpa using h.increasing
    · simpa using h.numbered
    · rw [evictionsOf_snoc, acceptedOf_snoc, poppedOf_snoc]
      rw [append_nil, append_nil, append_nil]
      exact h.order
    · simpa using h.evictions
    · simpa using h.saturated_increasing
    · simpa using h.saturated_numbered
    · simpa using h.covered
    · rfl
    · exact wellReported_snoc h.reported ⟨h.covered, hpend⟩
  | none =>
    rw [hp] at hpend
    cases hqueued : L.queued with
    | nil =>
      have hevents : L.queue.events = [] := by rw [← h.contents, hqueued]; rfl
      have hq : L.queue.pop.1 = L.queue := by simp [BoundedEventQueue.pop, hp, hevents]
      have hsame : { L with queue := L.queue, queued := [], log := L.log ++ [] } = L := by
        rw [append_nil, ← hqueued]
      simp only [hq, List.tail_nil, List.head?_nil, Option.toList_none, map_nil]
      rw [hsame]
      exact h
    | cons x rest =>
      have hevents : L.queue.events = x.2 :: rest.map Prod.snd := by
        rw [← h.contents, hqueued]
        rfl
      have hq : L.queue.pop.1 = { L.queue with events := rest.map Prod.snd } := by
        simp [BoundedEventQueue.pop, hp, hevents]
      have hall := h.covered
      rw [hpend, append_nil] at hall
      simp only [hq, List.tail_cons, List.head?_cons, Option.toList_some, map_cons, map_nil]
      constructor
      · have hsize := h.size
        rw [hevents] at hsize
        simp only [List.length_cons, length_map] at hsize ⊢
        omega
      · rfl
      · simpa using h.increasing
      · simpa using h.numbered
      · rw [evictionsOf_snoc, acceptedOf_snoc, poppedOf_snoc, append_nil, append_nil]
        rw [← h.order, hqueued, append_assoc]
        rfl
      · simpa using h.evictions
      · simpa using h.saturated_increasing
      · simpa using h.saturated_numbered
      · simpa using h.covered
      · simp only [hp]
        exact hpend
      · exact wellReported_snoc h.reported hall

theorem balanced_run (ops : List QueueOp) : Balanced (L.run ops) := by
  induction ops generalizing L with
  | nil => exact h
  | cons op ops ih =>
    cases op with
    | push e => exact ih (balanced_push e h)
    | pop => exact ih (balanced_pop h)

theorem run_returned (ops : List QueueOp) :
    returnedOf (L.run ops).log = returnedOf L.log ++ L.queue.returned ops := by
  induction ops generalizing L with
  | nil => exact (append_nil _).symm
  | cons op ops ih =>
    cases op with
    | push e =>
      change returnedOf ((L.push e).run ops).log = _
      rw [ih (balanced_push e h), push_returned e h.contents, push_queue]
      rfl
    | pop =>
      change returnedOf (L.pop.run ops).log = _
      rw [ih (balanced_pop h), pop_returned h.contents, pop_queue, append_assoc]
      rfl

/-! ## The critical events -/

def criticals (l : List Tagged) : List Tagged := l.filter (·.2.is_critical)

/-- No critical event is evicted, so the critical events that were accepted are those that were
popped and those that are still queued. -/
theorem Balanced.criticals_kept :
    criticals (acceptedOf L.log) = criticals (poppedOf L.log) ++ criticals L.queued := by
  unfold criticals
  rw [← filter_append, h.order, List.filter_filter]
  apply List.filter_congr
  intro x _
  by_cases hc : x.2.is_critical = true
  · have hnot : x ∉ (evictionsOf L.log).map Prod.fst := by
      intro hmem
      obtain ⟨v, hv, rfl⟩ := mem_map.mp hmem
      have hfalse := (h.evictions v hv).2.1
      rw [hc] at hfalse
      cases hfalse
    simp only [hc, hnot, not_false_eq_true, decide_true, Bool.and_self]
  · simp only [Bool.not_eq_true] at hc
    simp only [hc, Bool.false_and]

theorem Balanced.drained (hn : L.queue.len ≤ n) :
    criticals (poppedOf (L.run (List.replicate n .pop)).log) = criticals (acceptedOf L.log) := by
  have hafter := balanced_run h (List.replicate n .pop)
  obtain ⟨hlen, hacc⟩ := run_pops n L
  have hempty : (L.run (List.replicate n .pop)).queued = [] := by
    have hevents : (L.run (List.replicate n .pop)).queue.events.length = 0 := by
      unfold BoundedEventQueue.len at hlen hn
      omega
    rw [← hafter.contents, length_map] at hevents
    exact List.length_eq_zero_iff.mp hevents
  have hkept := hafter.criticals_kept
  rw [hempty, hacc] at hkept
  rw [hkept]
  exact (append_nil _).symm

theorem Balanced.len_le : L.queue.len ≤ L.queue.capacity + 1 := by
  have hsize := h.size
  unfold BoundedEventQueue.len
  split <;> omega

omit h

/-! ## The law -/

/-- For every capacity and every order of pushes and pops, the books of the queue balance: the
queue holds no more than its capacity, the accepted critical events come out once and in the order
of their pushes, and every push into the full queue is covered by one overload event, which comes
out before any other event does. -/
theorem the_queue_loses_nothing_critical_and_nothing_silently {capacity : Nat}
    {q : BoundedEventQueue} (h : BoundedEventQueue.try_new capacity = .ok q)
    (ops : List QueueOp) :
    ((ledgerOf q ops).queue = q.after ops ∧
      returnedOf (ledgerOf q ops).log = q.returned ops) ∧
    ((q.after ops).events.length ≤ capacity ∧ (q.after ops).len ≤ capacity + 1) ∧
    Balanced (ledgerOf q ops) ∧
    criticals (acceptedOf (ledgerOf q ops).log) =
      criticals (poppedOf (ledgerOf q ops).log) ++ criticals (ledgerOf q ops).queued ∧
    ∀ n, (q.after ops).len ≤ n →
      criticals (poppedOf ((ledgerOf q ops).run (List.replicate n .pop)).log) =
        criticals (acceptedOf (ledgerOf q ops).log) := by
  have hstart := balanced_start h
  have hL : Balanced (ledgerOf q ops) := balanced_run hstart ops
  have hqueue : (ledgerOf q ops).queue = q.after ops := run_queue _ _
  have hcap : (q.after ops).capacity = capacity := by
    rw [after_capacity]
    unfold BoundedEventQueue.try_new at h
    split at h <;> cases h
    rfl
  have hsize := hL.size
  have hlen := hL.len_le
  rw [hqueue, hcap] at hsize hlen
  refine ⟨⟨hqueue, run_returned hstart ops⟩, ⟨hsize, hlen⟩, hL, hL.criticals_kept, ?_⟩
  intro n hn
  exact hL.drained (by rw [hqueue]; exact hn)

namespace sample

/-- A queue for one event. -/
def small : BoundedEventQueue where
  capacity := 1
  events := []
  pending_overload := none

def tempo (n : UInt64) : DomainEvent := observation n (.PlaybackTempoChanged ⟨1⟩ ⟨10⟩ 128000)

/-- Two pushes into the full queue, each followed by a pop. -/
def overloads : List QueueOp :=
  [.push (tempo 1), .push (tempo 2), .pop, .push (tempo 3), .pop, .pop]

end sample

theorem the_small_queue_loses_nothing :
    Balanced (ledgerOf sample.small sample.overloads) ∧
      (saturatedOf (ledgerOf sample.small sample.overloads).log).length = 2 :=
  ⟨(@the_queue_loses_nothing_critical_and_nothing_silently 1 sample.small rfl
    sample.overloads).2.2.1, rfl⟩

/-! ## Where the books say less -/

def Entry.isOverload : Entry → Bool
  | .overload .. => true
  | _ => false

/-- Between a push into the full queue and the next event of the queue there is exactly one
overload event. -/
def ExactlyOneOverload (log : List Entry) : Prop :=
  ∀ pre x mid y post, log = pre ++ .saturated x :: (mid ++ .popped y :: post) →
    (∀ z, .popped z ∉ mid) → mid.countP Entry.isOverload = 1

def occurrencesOf : DomainEvent → Nat
  | .QueueOverloaded overload => overload.occurrences.toNat
  | _ => 0

/-- The occurrences of the overload events that were popped or are pending add up to the number of
pushes into the full queue. -/
def OccurrencesAddUp (L : Ledger) : Prop :=
  ((returnedOf L.log).map occurrencesOf).sum +
      (L.queue.pending_overload.map (·.occurrences.toNat)).getD 0 = (saturatedOf L.log).length

/-- A caller may push an overload event of its own. -/
def PushesOverload : QueueOp → Prop
  | .push (.QueueOverloaded _) => True
  | _ => False

/-- The full queue rejects one observation after the other. -/
theorem rejected_pushes (n : Nat) (L : Ledger) (hfull : L.queue.capacity ≤ L.queue.events.length)
    (hL : L.queued.map Prod.snd = L.queue.events) :
    (saturatedOf (L.run (List.replicate n (.push (sample.tempo 2)))).log).length =
        (saturatedOf L.log).length + n ∧
      coversOf (L.run (List.replicate n (.push (sample.tempo 2)))).log = coversOf L.log ∧
      returnedOf (L.run (List.replicate n (.push (sample.tempo 2)))).log = returnedOf L.log := by
  induction n generalizing L with
  | zero => exact ⟨rfl, rfl, rfl⟩
  | succ n ih =>
    have hbooks := push_books (sample.tempo 2) hL
    rw [List.replicate_succ]
    change (saturatedOf ((L.push (sample.tempo 2)).run _).log).length = _ ∧
      coversOf ((L.push (sample.tempo 2)).run _).log = _ ∧
      returnedOf ((L.push (sample.tempo 2)).run _).log = _
    generalize L.push (sample.tempo 2) = L' at hbooks
    cases hbooks with
    | room hroom => omega
    | evicts _ hc => cases hc
    | rejects _ _ =>
      have hevents : (L.queue.record_overload (sample.tempo 2)).events = L.queue.events :=
        record_overload_events _ _
      obtain ⟨h1, h2, h3⟩ := ih
        { L with
          queue := L.queue.record_overload (sample.tempo 2)
          pushes := L.pushes + 1
          uncovered := L.uncovered ++ [(L.pushes, sample.tempo 2)]
          log := L.log ++ [.saturated (L.pushes, sample.tempo 2)] }
        (by rw [record_overload_capacity, hevents]; exact hfull) (by rw [hevents]; exact hL)
      refine ⟨?_, ?_, ?_⟩
      · rw [h1]
        simp [saturatedOf]
        omega
      · rw [h2]
        simp [coversOf]
      · rw [h3]
        simp [returnedOf]

/-- The count of an overload event ends at `u64::MAX`, so one more push is not counted. -/
theorem occurrences_saturate (n : Nat) (hn : 2 ^ 64 ≤ n) :
    ¬ OccurrencesAddUp (ledgerOf sample.small
      (.push (sample.tempo 1) :: List.replicate n (.push (sample.tempo 2)))) := by
  have hbal : Balanced (ledgerOf sample.small
      (.push (sample.tempo 1) :: List.replicate n (.push (sample.tempo 2)))) :=
    balanced_run (@balanced_start sample.small 1 rfl) _
  have hrun : ledgerOf sample.small
      (.push (sample.tempo 1) :: List.replicate n (.push (sample.tempo 2))) =
      ((Ledger.start sample.small).push (sample.tempo 1)).run
        (List.replicate n (.push (sample.tempo 2))) := rfl
  obtain ⟨hsat, hcov, hret⟩ := rejected_pushes n
    ((Ledger.start sample.small).push (sample.tempo 1)) (Nat.le_refl 1) rfl
  rw [← hrun] at hsat hcov hret
  generalize ledgerOf sample.small
    (.push (sample.tempo 1) :: List.replicate n (.push (sample.tempo 2))) = L at *
  have hsat' : (saturatedOf L.log).length = n := by
    rw [hsat]
    exact Nat.zero_add n
  have hret' : returnedOf L.log = [] := hret
  have hcount : L.uncovered.length = n := by
    have hall := hbal.covered
    rw [hcov] at hall
    rw [← hsat', hall]
    rfl
  unfold OccurrencesAddUp
  rw [hret', hsat']
  have hpend := hbal.pending
  cases hp : L.queue.pending_overload with
  | none =>
    rw [hp] at hpend
    rw [hpend, List.length_nil] at hcount
    omega
  | some overload =>
    rw [hp] at hpend
    have hocc := hpend.count
    rw [hcount] at hocc
    simp only [map_nil, List.sum_nil, Option.map_some, Option.getD_some]
    omega

/-- Each pop of an overload event makes way for the next one while the queue is still full; a
caller may push overload events, which then come out with the others; and the count of an overload
event ends at `u64::MAX`. -/
theorem the_overload_events_say_less_than_one_each :
    (¬ ∀ capacity q ops, BoundedEventQueue.try_new capacity = .ok q →
      ExactlyOneOverload (ledgerOf q ops).log) ∧
    (¬ ∀ capacity q ops, BoundedEventQueue.try_new capacity = .ok q →
      OccurrencesAddUp (ledgerOf q ops)) ∧
    ¬ ∀ capacity q ops, BoundedEventQueue.try_new capacity = .ok q →
      (∀ op ∈ ops, ¬ PushesOverload op) → OccurrencesAddUp (ledgerOf q ops) := by
  refine ⟨?_, ?_, ?_⟩
  · intro h
    have hone := h 1 sample.small sample.overloads rfl [.accepted (0, sample.tempo 1)]
      (1, sample.tempo 2) _ (0, sample.tempo 1) [] rfl (by simp)
    cases hone
  · intro h
    have hsum := h 1 sample.small [.push sample.overload, .pop] rfl
    cases hsum
  · intro h
    refine occurrences_saturate (2 ^ 64) (Nat.le_refl _) (h 1 sample.small _ rfl ?_)
    intro op hop
    rcases List.mem_cons.mp hop with rfl | hop
    · exact id
    rw [List.eq_of_mem_replicate hop]
    exact id

end lumi_domain
