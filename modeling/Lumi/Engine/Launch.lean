-- The gate of the first launch over every history of calls. Until a launch
-- opens it, it admits one phrase at most: the nearest one ahead when it was
-- chosen. Once it is open, only a new cycle closes it.
import Lumi.Replay
import Lumi.Engine.Executor

open replay lumi_domain

namespace lumi_engine

open LaunchGate (allows arm cancel_pending)

namespace LaunchGate

/-! ## The choice of the target -/

/-- The loop of `observe` over the boundaries. It ends without a result at the target that is
waited for. -/
def scan (self : LaunchGate) (context : LaunchContext) (beat : UInt32) :
    Option LaunchBoundary → List LaunchBoundary → Option (Option LaunchBoundary)
  | next, [] => some next
  | next, boundary :: boundaries =>
    if self.state = .Waiting context boundary then none
    else self.scan context beat
      (if beat ≤ boundary.beat ∧ next.all (fun existing => boundary.beat < existing.beat) then
        some boundary
      else next) boundaries

/-- The boundary is the first of the nearest ones that are not behind the beat. -/
def Nearest (beat : UInt32) (boundaries : List LaunchBoundary) (target : LaunchBoundary) : Prop :=
  ∃ before after, boundaries = before ++ target :: after ∧ beat ≤ target.beat ∧
    (∀ boundary ∈ before, beat ≤ boundary.beat → target.beat < boundary.beat) ∧
    ∀ boundary ∈ after, beat ≤ boundary.beat → target.beat ≤ boundary.beat

section choice

variable {self : LaunchGate} {context : LaunchContext} {beat : UInt32}
  {boundaries : List LaunchBoundary} {target : LaunchBoundary}

theorem Nearest.least (h : Nearest beat boundaries target) {boundary : LaunchBoundary}
    (hmem : boundary ∈ boundaries) (hbeat : beat ≤ boundary.beat) :
    target.beat ≤ boundary.beat := by
  obtain ⟨before, after, rfl, -, hbefore, hafter⟩ := h
  rcases List.mem_append.mp hmem with hmem | hmem
  · exact Std.le_of_lt (hbefore boundary hmem hbeat)
  rcases List.mem_cons.mp hmem with rfl | hmem
  · exact Std.le_refl _
  · exact hafter boundary hmem hbeat

variable (self) (context) (beat) (boundaries)

/-- The loop stops at the target wherever it stands in the list, and else it finds the nearest
boundary. -/
theorem scan_eq : self.scan context beat none boundaries =
      if boundaries.any fun boundary => self.state = .Waiting context boundary then none
      else some (next_boundary beat boundaries) := by
  unfold next_boundary
  generalize (none : Option LaunchBoundary) = next
  induction boundaries generalizing next with
  | nil => rfl
  | cons boundary boundaries ih =>
    rw [scan]
    by_cases hwaiting : self.state = .Waiting context boundary
    · simp [hwaiting]
    rw [if_neg hwaiting, ih]
    simp [hwaiting]

/-- An observation of a deck that plays is the loop, and what it finds is the target. -/
theorem observe_scans (hs : self.state ≠ .Launched) :
    self.observe .OnPhraseStart context true beat boundaries =
      match self.scan context beat none boundaries with
      | none => self
      | some (some target) => ⟨.Waiting context target⟩
      | some none => ⟨.NoUpcomingBoundary context⟩ := by
  rw [scan_eq]
  unfold observe
  rw [if_neg hs, if_neg (by simp), if_neg (by simp)]
  by_cases hany : (boundaries.any fun boundary => self.state = .Waiting context boundary) = true
  · rw [if_pos hany, if_pos hany]
  rw [if_neg hany, if_neg hany]
  cases next_boundary beat boundaries <;> rfl

theorem next_boundary_snoc (boundary : LaunchBoundary) :
    next_boundary beat (boundaries ++ [boundary]) =
      if beat ≤ boundary.beat ∧
          (next_boundary beat boundaries).all (fun existing => boundary.beat < existing.beat) then
        some boundary
      else next_boundary beat boundaries := by
  unfold next_boundary
  rw [List.foldl_append]
  rfl

/-- What the loop finds, by induction on the boundaries it has seen. -/
theorem next_boundary_spec :
    match next_boundary beat boundaries with
    | some target => Nearest beat boundaries target
    | none => ∀ boundary ∈ boundaries, ¬ beat ≤ boundary.beat := by
  induction boundaries using List.reverseRecOn with
  | nil => exact fun boundary hmem => absurd hmem List.not_mem_nil
  | append_singleton boundaries boundary ih =>
    rw [next_boundary_snoc]
    cases hnext : next_boundary beat boundaries with
    | none =>
      rw [hnext] at ih
      by_cases hbeat : beat ≤ boundary.beat
      · rw [if_pos ⟨hbeat, rfl⟩]
        refine ⟨boundaries, [], rfl, hbeat, ?_, by simp⟩
        exact fun other hmem hother => absurd hother (ih other hmem)
      rw [if_neg fun h => hbeat h.1]
      intro other hmem
      rcases List.mem_append.mp hmem with hmem | hmem
      · exact ih other hmem
      rw [List.mem_singleton.mp hmem]
      exact hbeat
    | some target =>
      rw [hnext] at ih
      simp only [Option.all_some, decide_eq_true_eq]
      by_cases hnearer : beat ≤ boundary.beat ∧ boundary.beat < target.beat
      · rw [if_pos hnearer]
        refine ⟨boundaries, [], rfl, hnearer.1, ?_, by simp⟩
        exact fun other hmem hother => Std.lt_of_lt_of_le hnearer.2 (ih.least hmem hother)
      rw [if_neg hnearer]
      obtain ⟨before, after, rfl, hbeat, hbefore, hafter⟩ := ih
      refine ⟨before, after ++ [boundary], by simp, hbeat, hbefore, ?_⟩
      intro other hmem hother
      rcases List.mem_append.mp hmem with hmem | hmem
      · exact hafter other hmem hother
      rw [List.mem_singleton.mp hmem] at hother ⊢
      exact UInt32.not_lt.mp fun hlt => hnearer ⟨hother, hlt⟩

end choice

/-! ## One call -/

/-- `did_launch` with the answer that it gives. -/
def did_launch_returning (self : LaunchGate) (policy : LaunchPolicy) (context : LaunchContext)
    (phrase : UInt16) : LaunchGate × Bool :=
  if !self.allows policy context phrase then (self, false) else (⟨.Launched⟩, true)

end LaunchGate

/-- A call on the gate of a show that starts on a phrase. -/
inductive GateCall where
  | arm
  | cancel_pending
  | observe (context : LaunchContext) (playing : Bool) (beat : UInt32)
      (boundaries : List LaunchBoundary)
  | did_launch (context : LaunchContext) (phrase : UInt16)
deriving DecidableEq

/-- The gate, and whether a launch was confirmed since it was armed. -/
structure GateHistory where
  gate : LaunchGate
  launched : Bool
deriving DecidableEq

namespace GateHistory

def admits (h : GateHistory) (context : LaunchContext) (phrase : UInt16) : Prop :=
  h.gate.allows .OnPhraseStart context phrase = true

instance (h : GateHistory) (context : LaunchContext) (phrase : UInt16) :
    Decidable (h.admits context phrase) :=
  inferInstanceAs (Decidable (_ = true))

def after (h : GateHistory) : GateCall → GateHistory
  | .arm => ⟨LaunchGate.arm, false⟩
  | .cancel_pending => { h with gate := h.gate.cancel_pending }
  | .observe context playing beat boundaries =>
    { h with gate := h.gate.observe .OnPhraseStart context playing beat boundaries }
  | .did_launch context phrase =>
    let (gate, returned) := h.gate.did_launch_returning .OnPhraseStart context phrase
    ⟨gate, h.launched || returned⟩

/-- The calls on a gate that was armed. -/
def machine : Machine GateHistory GateCall Empty GateHistory where
  start := ⟨LaunchGate.arm, false⟩
  reduce h call := .ok (h.after call)
  next := id

/-- The gate is open exactly when a launch was confirmed. -/
def Settled (h : GateHistory) : Prop := h.launched = true ↔ h.gate.state = .Launched

section calls

variable {h : GateHistory} {c : LaunchContext} {p : UInt16} {target : LaunchBoundary}

theorem machine_snoc (calls : List GateCall) (call : GateCall) :
    machine.run (calls ++ [call]) = (machine.run calls).after call := Machine.run_snoc calls call

theorem admits_waiting (hs : h.gate.state = .Waiting c target) (c' : LaunchContext)
    (p' : UInt16) : h.admits c' p' ↔ c = c' ∧ target.phrase = p' := by
  simp [admits, allows, hs]

/-- What is admitted by a gate that is not open is waited for. -/
theorem waiting_of_admits (hs : h.gate.state ≠ .Launched) (ha : h.admits c p) :
    ∃ target, h.gate.state = .Waiting c target ∧ target.phrase = p := by
  unfold admits allows at ha
  cases hstate : h.gate.state with
  | Waiting selected target =>
    rw [hstate] at ha
    obtain ⟨rfl, hphrase⟩ : selected = c ∧ target.phrase = p := by simpa using ha
    exact ⟨target, rfl, hphrase⟩
  | WaitingForPlayback | NoUpcomingBoundary context => simp [hstate] at ha
  | Launched => exact absurd hstate hs

/-- What an observation leaves of a gate that is not open: nothing to wait for, the target that it
had, or a target of its own. -/
theorem observe_cases (hs : h.gate.state ≠ .Launched) (context : LaunchContext) (playing : Bool)
    (beat : UInt32) (boundaries : List LaunchBoundary) :
    let s := (h.after (.observe context playing beat boundaries)).gate.state
    s = .WaitingForPlayback ∨ s = .NoUpcomingBoundary context ∨
      (playing = true ∧ ∃ target, s = .Waiting context target ∧
        (h.gate.state = .Waiting context target ∨ LaunchGate.Nearest beat boundaries target)) := by
  rcases playing with _ | _
  · simp [after, LaunchGate.observe, cancel_pending, hs, arm]
  simp only [after]
  rw [LaunchGate.observe_scans _ _ _ _ hs, LaunchGate.scan_eq]
  by_cases hany : (boundaries.any fun boundary => h.gate.state = .Waiting context boundary) = true
  · rw [if_pos hany]
    obtain ⟨target, -, htarget⟩ := List.any_eq_true.mp hany
    have htarget := of_decide_eq_true htarget
    exact .inr (.inr ⟨trivial, target, htarget, .inl htarget⟩)
  · rw [if_neg hany]
    have hspec := LaunchGate.next_boundary_spec beat boundaries
    cases hnext : LaunchGate.next_boundary beat boundaries with
    | none => exact .inr (.inl rfl)
    | some target =>
      rw [hnext] at hspec
      exact .inr (.inr ⟨trivial, target, rfl, .inr hspec⟩)

theorem observe_launched (hs : h.gate.state = .Launched) (context : LaunchContext)
    (playing : Bool) (beat : UInt32) (boundaries : List LaunchBoundary) :
    h.after (.observe context playing beat boundaries) = h := by
  simp [after, LaunchGate.observe, hs]

/-- A target that the plan still has stays, wherever the beat is. -/
theorem observe_same (hs : h.gate.state = .Waiting c target) {boundaries : List LaunchBoundary}
    (hmem : target ∈ boundaries) (beat : UInt32) :
    h.after (.observe c true beat boundaries) = h := by
  have hany : (boundaries.any fun boundary => h.gate.state = .Waiting c boundary) = true :=
    List.any_eq_true.mpr ⟨target, hmem, decide_eq_true hs⟩
  have hgate : h.gate.observe .OnPhraseStart c true beat boundaries = h.gate := by
    unfold LaunchGate.observe
    rw [if_neg (by simp [hs]), if_neg (by simp), if_neg (by simp), if_pos hany]
  simp [after, hgate]

theorem settled_after (hs : h.Settled) (call : GateCall) : (h.after call).Settled := by
  unfold Settled at hs ⊢
  cases call with
  | arm => simp [after, arm]
  | cancel_pending =>
    by_cases hl : h.gate.state = .Launched <;>
      simp [after, cancel_pending, hl, hs, arm]
  | observe context playing beat boundaries =>
    by_cases hl : h.gate.state = .Launched
    · rw [observe_launched hl]
      exact hs
    have hcases := observe_cases hl context playing beat boundaries
    have hfalse : ¬ h.launched = true := fun ht => hl (hs.mp ht)
    refine iff_of_false hfalse ?_
    rcases hcases with h' | h' | ⟨-, target, h', -⟩ <;> rw [h'] <;> exact nofun
  | did_launch context phrase =>
    cases ha : h.gate.allows .OnPhraseStart context phrase with
    | true => simp [after, LaunchGate.did_launch_returning, ha]
    | false => simpa [after, LaunchGate.did_launch_returning, ha] using hs

theorem settled_run (calls : List GateCall) : (machine.run calls).Settled := by
  refine Machine.run_keeps (m := machine) (P := Settled) ?_ ?_ calls
  · simp [Settled, machine, arm]
  · intro h call r hs hr
    cases hr
    exact settled_after hs call

end calls

/-! ## Every history -/

/-- The call before the `k`th chose the target, and it was waited for ever since. -/
def Chose (calls : List GateCall) (c : LaunchContext) (target : LaunchBoundary) : Prop :=
  ∃ k beat boundaries, calls[k]? = some (.observe c true beat boundaries) ∧
    LaunchGate.Nearest beat boundaries target ∧
    ∀ j, k < j → j ≤ calls.length →
      (machine.run (calls.take j)).gate.state = .Waiting c target

variable {target : LaunchBoundary} {c : LaunchContext} {call : GateCall}

theorem chose_snoc {calls : List GateCall} (h : Chose calls c target)
    (hs : (machine.run (calls ++ [call])).gate.state = .Waiting c target) :
    Chose (calls ++ [call]) c target := by
  obtain ⟨k, beat, boundaries, hk, hnearest, hsince⟩ := h
  have hlt : k < calls.length := (List.getElem?_eq_some_iff.mp hk).1
  refine ⟨k, beat, boundaries, ?_, hnearest, ?_⟩
  · rw [List.getElem?_append_left hlt]
    exact hk
  · intro j hkj hj
    by_cases hjl : j ≤ calls.length
    · rw [List.take_append_of_le_length hjl]
      exact hsince j hkj hjl
    rw [List.length_append, List.length_singleton] at hj
    rw [List.take_of_length_le (by simp; omega)]
    exact hs

/-- A target that is waited for was chosen by an observation. -/
theorem chose_of_waiting (calls : List GateCall)
    (hs : (machine.run calls).gate.state = .Waiting c target) : Chose calls c target := by
  induction calls using List.reverseRecOn with
  | nil => cases hs
  | append_singleton calls call ih =>
    have hafter := hs
    rw [machine_snoc] at hs
    cases call with
    | arm => cases hs
    | cancel_pending =>
      by_cases hl : (machine.run calls).gate.state = .Launched <;>
        simp [after, cancel_pending, hl, arm] at hs
    | observe context playing beat boundaries =>
      by_cases hl : (machine.run calls).gate.state = .Launched
      · rw [observe_launched hl, hl] at hs
        cases hs
      rcases observe_cases hl context playing beat boundaries with
        h' | h' | ⟨rfl, target', h', hchoice⟩ <;> rw [h'] at hs
      · cases hs
      · cases hs
      cases hs
      rcases hchoice with hsame | hnearest
      · exact chose_snoc (ih hsame) hafter
      refine ⟨calls.length, beat, boundaries, by simp, hnearest, ?_⟩
      intro j hj hle
      rw [List.length_append, List.length_singleton] at hle
      rw [List.take_of_length_le (by simp; omega)]
      exact hafter
    | did_launch context phrase =>
      cases ha : (machine.run calls).gate.allows .OnPhraseStart context phrase with
      | true =>
        simp [after, LaunchGate.did_launch_returning, ha] at hs
      | false =>
        have hsame : (machine.run calls).gate.state = .Waiting c target := by
          simpa [after, LaunchGate.did_launch_returning, ha] using hs
        exact chose_snoc (ih hsame) hafter

theorem launched_after {h : GateHistory} (hs : h.gate.state = .Launched)
    (hcall : call ≠ .arm) : (h.after call).gate.state = .Launched := by
  cases call with
  | arm => exact absurd rfl hcall
  | cancel_pending => simp [after, cancel_pending, hs]
  | observe context playing beat boundaries => rw [observe_launched hs, hs]
  | did_launch context phrase =>
    simp [after, LaunchGate.did_launch_returning, allows, hs]

/-- Over every history of calls on a gate that was armed. While no launch was confirmed, it admits
at most one phrase of one context. This is the nearest boundary ahead of the deck in the observation
that chose it. Observations that play, and that have the context and the boundary, leave the target
as it is. An observation of another context takes it back. Only a launch of the target is confirmed.
Once one is confirmed, everything is admitted until the gate is armed again. -/
theorem the_gate_admits_the_chosen_phrase_until_it_opens (calls : List GateCall) :
    ((machine.run calls).launched = false →
      (∀ c p c' p', (machine.run calls).admits c p → (machine.run calls).admits c' p' →
        c = c' ∧ p = p') ∧
      (∀ c p, (machine.run calls).admits c p → ∃ target, target.phrase = p ∧
        Chose calls c target ∧
        ∀ more, (∀ call ∈ more, ∃ beat boundaries,
            call = .observe c true beat boundaries ∧ target ∈ boundaries) →
          (machine.run (calls ++ more)).gate.state = .Waiting c target) ∧
      (∀ c p c' playing beat boundaries, c' ≠ c →
        ¬ (machine.run (calls ++ [.observe c' playing beat boundaries])).admits c p) ∧
      ∀ c p, (machine.run (calls ++ [.did_launch c p])).launched = true →
        (machine.run calls).admits c p) ∧
    ((machine.run calls).launched = true →
      ∀ more, .arm ∉ more → ∀ c p, (machine.run (calls ++ more)).admits c p) := by
  have hsettled := settled_run calls
  constructor
  · intro hfalse
    have hs : (machine.run calls).gate.state ≠ .Launched := by
      intro hl
      rw [hsettled.mpr hl] at hfalse
      cases hfalse
    refine ⟨?_, ?_, ?_, ?_⟩
    · intro c p c' p' hp hp'
      obtain ⟨target, hstate, rfl⟩ := waiting_of_admits hs hp
      exact (admits_waiting hstate c' p').mp hp'
    · intro c p hp
      obtain ⟨target, hstate, hphrase⟩ := waiting_of_admits hs hp
      refine ⟨target, hphrase, chose_of_waiting calls hstate, ?_⟩
      intro more hmore
      suffices hrun : machine.run (calls ++ more) = machine.run calls by
        rw [hrun]
        exact hstate
      induction more using List.reverseRecOn with
      | nil => rw [List.append_nil]
      | append_singleton more call ih =>
        obtain ⟨beat, boundaries, rfl, hmem⟩ := hmore call (by simp)
        have hbefore := ih fun call hcall => hmore call (List.mem_append_left _ hcall)
        rw [← List.append_assoc, machine_snoc, hbefore, observe_same hstate hmem]
    · intro c p c' playing beat boundaries hne hp
      rw [machine_snoc] at hp
      rcases observe_cases hs c' playing beat boundaries with h' | h' | ⟨-, target, h', -⟩
      · simp [admits, allows, h'] at hp
      · simp [admits, allows, h'] at hp
      · exact hne ((admits_waiting h' c p).mp hp).1
    · intro c p hlaunched
      rw [machine_snoc] at hlaunched
      cases ha : (machine.run calls).gate.allows .OnPhraseStart c p with
      | true => exact ha
      | false =>
        simp [after, LaunchGate.did_launch_returning, ha, hfalse] at hlaunched
  · intro htrue more hmore c p
    have hlaunched : (machine.run (calls ++ more)).gate.state = .Launched := by
      induction more using List.reverseRecOn with
      | nil =>
        rw [List.append_nil]
        exact hsettled.mp htrue
      | append_singleton more call ih =>
        rw [← List.append_assoc, machine_snoc]
        refine launched_after (ih fun hmem => hmore (List.mem_append_left _ hmem)) ?_
        rintro rfl
        exact hmore (by simp)
    simp [admits, allows, hlaunched]

namespace sample

def context (epoch : UInt64) : LaunchContext := ⟨⟨1⟩, ⟨1⟩, ⟨1⟩, epoch⟩

def boundaries : List LaunchBoundary := [⟨0, 0⟩, ⟨1, 32⟩, ⟨2, 64⟩]

/-- The deck plays between the first two boundaries. -/
def chosen : List GateCall := [.observe (context 1) true 12 boundaries]

end sample

theorem the_second_phrase_is_chosen :
    (machine.run sample.chosen).launched = false ∧
      (machine.run sample.chosen).admits (sample.context 1) 1 ∧
      (∃ target, target.phrase = 1 ∧ Chose sample.chosen (sample.context 1) target ∧
        ∀ more, (∀ call ∈ more, ∃ beat boundaries,
            call = .observe (sample.context 1) true beat boundaries ∧ target ∈ boundaries) →
          (machine.run (sample.chosen ++ more)).gate.state =
            .Waiting (sample.context 1) target) ∧
      ∀ more, .arm ∉ more → ∀ c p,
        (machine.run (sample.chosen ++ [.did_launch (sample.context 1) 1] ++ more)).admits c p :=
  ⟨by decide, by decide,
    ((the_gate_admits_the_chosen_phrase_until_it_opens sample.chosen).1 (by decide)).2.1 _ _
      (by decide),
    (the_gate_admits_the_chosen_phrase_until_it_opens
      (sample.chosen ++ [.did_launch (sample.context 1) 1])).2 (by decide)⟩

end GateHistory

end lumi_engine
