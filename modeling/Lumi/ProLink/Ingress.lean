-- Every interleaving of pushes to the bridge queue and drains of it. A message
-- without a coalescing key is handed over once; a message with one makes way
-- for the next of its key, or for the room that another message needs.
import Lumi.ProLink.Bridge

open rust

namespace lumi_prolink_input

variable {F : Type}

def keyless (messages : List (BridgeMessage F)) : List (BridgeMessage F) :=
  messages.filter (coalescing_key · |>.isNone)

/-- Two queued messages differ in their sequence numbers and in their keys. -/
def Apart (a b : BridgeMessage F) : Prop :=
  a.sequence ≠ b.sequence ∧ ∀ key, coalescing_key a = some key → coalescing_key b ≠ some key

theorem Apart.symm {a b : BridgeMessage F} (h : Apart a b) : Apart b a :=
  ⟨h.1.symm, fun key hb ha => h.2 key ha hb⟩

inductive IngressOp (F : Type) where
  | push (message : BridgeMessage F) (now : UInt64)
  | drain

/-- The queue, the pushed messages with the answers, and for every drain that brought messages
those that were queued and those that came out. -/
structure Ingress (F : Type) where
  queue : ProcessOutputQueue F
  pushed : List (BridgeMessage F × Bool)
  drained : List (List (BridgeMessage F) × List (BridgeMessage F))

namespace Ingress

def step (s : Ingress F) : IngressOp F → Ingress F
  | .push message now =>
    { s with
      queue := (s.queue.push message now).1
      pushed := s.pushed ++ [(message, (s.queue.push message now).2)] }
  | .drain =>
    { s with
      queue := (drain_messages s.queue).1
      drained := s.drained ++ match (drain_messages s.queue).2 with
        | .ok messages => [(s.queue.messages, messages)]
        | .error _ => [] }

def run (capacity : Nat) (ops : List (IngressOp F)) : Ingress F :=
  ops.foldl step ⟨.new capacity, [], []⟩

def accepted (s : Ingress F) : List (BridgeMessage F) := (s.pushed.filter (·.2)).map (·.1)

/-- The message that was pushed last of those with the key. -/
def last (s : Ingress F) (key : CoalescingKey) : Option (BridgeMessage F) :=
  (s.pushed.reverse.find? (coalescing_key ·.1 = some key)).map (·.1)

/-- What has no key and was taken is queued or was drained, in the order of the pushes. Of each key
only the last message is queued, and the receipts are those of the queued messages. -/
structure Kept (capacity : Nat) (s : Ingress F) : Prop where
  size : s.queue.messages.length ≤ capacity
  room : s.queue.capacity = capacity
  apart : s.queue.messages.Pairwise Apart
  received : ∀ n, s.queue.received_at[n]?.isSome ↔ ∃ m ∈ s.queue.messages, m.sequence = n
  known : ∀ m ∈ s.queue.messages, m ∈ s.pushed.map (·.1)
  conserved : keyless s.accepted = keyless ((s.drained.map (·.1)).flatten ++ s.queue.messages)
  latest : ∀ m ∈ s.queue.messages, ∀ key, coalescing_key m = some key → s.last key = some m
  sorted : ∀ x ∈ s.drained, x.2 = x.1.insertionSort (drains_before · ·)

variable {capacity : Nat} {s : Ingress F} {message : BridgeMessage F}

/-! ## A push -/

variable (h : Kept capacity s)
include h

theorem Kept.remove_first {p : BridgeMessage F → Bool}
    (hp : ∀ m, p m = true → coalescing_key m ≠ none) :
    Kept capacity { s with queue := s.queue.remove_first p } ∧
      (s.queue.remove_first p).messages.Sublist s.queue.messages ∧
      ((∀ m ∈ s.queue.messages, p m = false) ∧ s.queue.remove_first p = s.queue ∨
        ∃ y, p y = true ∧ (∀ m ∈ (s.queue.remove_first p).messages, Apart y m) ∧
          (s.queue.remove_first p).messages.length + 1 = s.queue.messages.length) := by
  unfold ProcessOutputQueue.remove_first
  split
  · rename_i y hfind
    obtain ⟨hy, pre, post, hsplit, hpre⟩ := List.find?_eq_some_iff_append.mp hfind
    have herase : s.queue.messages.eraseP p = pre ++ post := by
      rw [hsplit, List.eraseP_append_right _ (by simpa using hpre), List.eraseP_cons_of_pos hy]
    rw [herase]
    have hsub : (pre ++ post).Sublist s.queue.messages := by
      rw [hsplit]
      exact (List.sublist_cons_self y post).append_left pre
    have hapart := h.apart
    rw [hsplit, List.pairwise_append, List.pairwise_cons] at hapart
    obtain ⟨_, ⟨hpost, _⟩, hacross⟩ := hapart
    have hgone : ∀ m ∈ pre ++ post, Apart y m := by
      intro m hm
      rcases List.mem_append.mp hm with hm | hm
      · exact (hacross m hm y List.mem_cons_self).symm
      · exact hpost m hm
    refine ⟨⟨hsub.length_le.trans h.size, h.room, h.apart.sublist hsub, ?_,
      fun m hm => h.known m (hsub.mem hm), ?_, fun m hm => h.latest m (hsub.mem hm), h.sorted⟩,
      hsub, .inr ⟨y, hy, hgone, by simp [hsplit]; omega⟩⟩
    · intro n
      rw [map_get_erase]
      split
      · subst n
        simp only [Option.isSome_none, Bool.false_eq_true, false_iff]
        rintro ⟨m, hm, hsame⟩
        exact (hgone m hm).1 hsame.symm
      · rename_i hn
        rw [h.received, hsplit]
        simp [hn, or_and_right, exists_or]
    · have hconserved := h.conserved
      simp only [keyless, accepted, hsplit, List.filter_append] at hconserved ⊢
      rwa [List.filter_cons_of_neg (by simpa using hp y hy)] at hconserved
  · rename_i hfind
    exact ⟨h, .refl _, .inl ⟨by simpa using hfind, rfl⟩⟩

theorem Kept.coalesced (message : BridgeMessage F) :
    Kept capacity { s with queue := s.queue.coalesced message } ∧
      (∀ m ∈ (s.queue.coalesced message).messages, ∀ key, coalescing_key m = some key →
        coalescing_key message ≠ some key) ∧
      (s.queue.coalesced message = s.queue ∨
        (s.queue.coalesced message).messages.length + 1 = s.queue.messages.length) := by
  unfold ProcessOutputQueue.coalesced
  rcases hkey : coalescing_key message with _ | key
  · exact ⟨h, by simp, .inl rfl⟩
  obtain ⟨hkept, _, ⟨hnone, hsame⟩ | ⟨y, hy, hgone, hlength⟩⟩ :=
    h.remove_first (p := (coalescing_key · = some key)) (by simp +contextual)
  · refine ⟨hkept, ?_, .inl hsame⟩
    rintro m hm _ hm' ⟨⟩
    simp only [hsame] at hm
    simpa [hm'] using hnone m hm
  · refine ⟨hkept, ?_, .inr hlength⟩
    rintro m hm _ hm' ⟨⟩
    exact (hgone m hm).2 _ (of_decide_eq_true hy) hm'

theorem Kept.push_back (now : UInt64) (hroom : s.queue.messages.length < capacity)
    (hfresh : ∀ x ∈ s.pushed, x.1.sequence ≠ message.sequence)
    (hnokey : ∀ m ∈ s.queue.messages, ∀ key, coalescing_key m = some key →
      coalescing_key message ≠ some key) :
    Kept capacity { s with
      queue := s.queue.push_back message now
      pushed := s.pushed ++ [(message, true)] } := by
  have hmem {P : BridgeMessage F → Prop} (hold : ∀ m ∈ s.queue.messages, P m)
      (hnew : P message) : ∀ m ∈ s.queue.messages ++ [message], P m := by
    simpa [or_imp, forall_and] using ⟨hold, hnew⟩
  refine ⟨?_, h.room, ?_, ?_, ?_, ?_, ?_, h.sorted⟩
  · simpa [ProcessOutputQueue.push_back] using hroom
  · refine List.pairwise_append.mpr ⟨h.apart, List.pairwise_singleton _ _, ?_⟩
    intro m hm _ hmessage
    cases List.mem_singleton.mp hmessage
    obtain ⟨x, hx, rfl⟩ := List.mem_map.mp (h.known m hm)
    exact ⟨hfresh x hx, hnokey _ hm⟩
  · intro n
    have hreceived := h.received n
    simp only [ProcessOutputQueue.push_back, map_get_insert]
    split <;> simp_all
  · exact hmem (fun m hm => by simp [h.known m hm]) (by simp)
  · have hconserved := h.conserved
    simp only [keyless, accepted, ProcessOutputQueue.push_back, List.filter_append] at *
    simp [hconserved]
  · refine hmem (fun m hm key hkey => ?_) (fun key hkey => by simp [last, hkey])
    simpa [last, hnokey m hm key hkey] using h.latest m hm key hkey

/-- A refused push finds nothing queued that has a key. -/
theorem Kept.refused {now : UInt64} (hpush : (s.queue.push message now).2 = false) :
    (∀ m ∈ s.queue.messages, coalescing_key m = none) ∧
      ∃ e, (s.queue.push message now).1 = { s.queue with terminal_error := some e } := by
  obtain ⟨hkept, _, hsame⟩ := h.coalesced message
  unfold ProcessOutputQueue.push at hpush ⊢
  dsimp only at hpush ⊢
  split_ifs at hpush ⊢ with hfull hany
  have hroom := hkept.room
  have hsize := h.size
  obtain hsame | hlength := hsame
  · rw [hsame] at hany ⊢
    exact ⟨by simpa using hany, _, rfl⟩
  dsimp only at hroom
  omega

theorem Kept.push (now : UInt64) (hfresh : ∀ x ∈ s.pushed, x.1.sequence ≠ message.sequence) :
    Kept capacity (s.step (.push message now)) := by
  simp only [step]
  cases htaken : (s.queue.push message now).2 with
  | false =>
    obtain ⟨hnone, e, hpush⟩ := h.refused htaken
    rw [hpush]
    refine ⟨h.size, h.room, h.apart, h.received, fun m hm => by simp [h.known m hm],
      by simpa [accepted] using h.conserved, ?_, h.sorted⟩
    intro m hm key hkey
    rw [hnone m hm] at hkey
    cases hkey
  | true =>
    obtain ⟨hkept, hnokey, _⟩ := h.coalesced message
    unfold ProcessOutputQueue.push at htaken ⊢
    dsimp only at htaken ⊢
    have hroom : (s.queue.coalesced message).capacity = capacity := hkept.room
    have hsize : (s.queue.coalesced message).messages.length ≤ capacity := hkept.size
    split_ifs at htaken ⊢ with hfull hany
    · obtain ⟨hkept', hsub, ⟨hnone, _⟩ | ⟨_, _, _, hlength⟩⟩ := hkept.remove_first
        (p := fun m => (coalescing_key m).isSome) (by simp [Option.isSome_iff_ne_none])
      · obtain ⟨m, hm, hkeyed⟩ := List.any_eq_true.mp hany
        rw [hnone m hm] at hkeyed
        cases hkeyed
      refine hkept'.push_back now ?_ hfresh ?_
      · dsimp only at hlength ⊢
        omega
      · exact fun m hm => hnokey m (hsub.mem hm)
    · exact hkept.push_back now (by dsimp only; omega) hfresh hnokey

/-! ## Every interleaving -/

omit h in
theorem drained_receipts (messages : List (BridgeMessage F)) (received_at : BTreeMap UInt64 UInt64)
    (n : UInt64) :
    (messages.foldl (fun received_at m => received_at.erase m.sequence) received_at)[n]?.isSome ↔
      received_at[n]?.isSome ∧ ∀ m ∈ messages, m.sequence ≠ n := by
  induction messages generalizing received_at with
  | nil => simp
  | cons m messages ih =>
    rw [List.foldl_cons, ih, map_get_erase]
    split <;> simp_all

theorem Kept.drain : Kept capacity (s.step .drain) := by
  unfold step drain_messages
  cases s.queue.terminal_error with
  | some e =>
    exact ⟨h.size, h.room, h.apart, h.received, h.known, by simpa [accepted] using h.conserved,
      h.latest, by simpa using h.sorted⟩
  | none =>
    refine ⟨Nat.zero_le _, h.room, .nil, ?_, by simp, by simpa [accepted] using h.conserved,
      by simp, ?_⟩
    · intro n
      rw [drained_receipts, h.received]
      simp
    · simpa [or_imp, forall_and] using h.sorted

omit h

theorem kept_run (ops : List (IngressOp F))
    (hdistinct : ((run capacity ops).pushed.map (·.1.sequence)).Nodup) :
    Kept capacity (run capacity ops) := by
  induction ops using List.reverseRecOn with
  | nil => constructor <;> simp [run, ProcessOutputQueue.new, accepted, keyless]
  | append_singleton ops op ih =>
    have hsnoc : run capacity (ops ++ [op]) = (run capacity ops).step op := by simp [run]
    rw [hsnoc] at hdistinct ⊢
    cases op with
    | push message now =>
      simp only [step, List.map_append, List.nodup_append] at hdistinct
      obtain ⟨hnodup, _, hfresh⟩ := hdistinct
      refine (ih hnodup).push now fun x hx => ?_
      exact hfresh _ (List.mem_map_of_mem hx) _ (List.mem_singleton.mpr rfl)
    | drain => exact (ih hdistinct).drain

end Ingress

namespace sample

end sample

end lumi_prolink_input
