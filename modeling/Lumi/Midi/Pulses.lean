-- What becomes of the actions that the engine gives to the lane. Each is in
-- the channel, scheduled, in flight or carried out, and never in two places;
-- and the count of pulses that the lane shows never runs ahead of them.
import Lumi.Midi.Lane

open rust

namespace lumi_midi_output

variable {lane' : Lane} {command : RealtimeMidiCommand} {self : RealtimeMidiController}

namespace Lane

/-! ## Where an action is -/

/-- The actions that wait in the channel. -/
def arriving (lane : Lane) : List ScheduledRealtimeMidiAction :=
  lane.commands.filterMap fun command =>
    match command with
    | .Schedule item => some item
    | _ => none

/-- A kind of actions, by their generation and what they do. -/
abbrev Kind := UInt64 → RealtimeMidiAction → Bool

/-- How many actions of the kind are in the list. -/
def among (p : Kind) (items : List ScheduledRealtimeMidiAction) : Nat :=
  items.countP fun item => p item.generation item.action

/-- How many actions of the kind were carried out, with or without success. -/
def carried_out (p : Kind) (dispatches : List RealtimeDispatchRecord) : Nat :=
  dispatches.countP fun record => p record.generation record.action

/-- How many actions of the kind the lane has, wherever they are. -/
def holds (p : Kind) (lane : Lane) : Nat :=
  among p lane.arriving + among p lane.scheduled + among p lane.in_flight +
    carried_out p lane.dispatches

variable {p : Kind} (lane : Lane) (answer : ProviderAnswer)

/-- A command that the lane takes changes what is scheduled, and nothing else of its actions. -/
theorem consume_keeps (command : RealtimeMidiCommand) :
    (lane.consume answer command).commands = lane.commands ∧
      (lane.consume answer command).phase = lane.phase ∧
      (lane.consume answer command).dispatches = lane.dispatches ∧
      (lane.consume answer command).status.emitted_count = lane.status.emitted_count := by
  cases command <;> simp only [consume, call, publish_controller_status, and_self]
  · split
    · exact ⟨rfl, rfl, rfl, rfl⟩
    · split <;> exact ⟨rfl, rfl, rfl, rfl⟩
  · split <;> exact ⟨rfl, rfl, rfl, rfl⟩

theorem among_retimed (g : UInt64) (deadline bank_deadline : Instant)
    (items : List ScheduledRealtimeMidiAction) :
    among p (items.map fun item =>
      if item.generation = g then retime deadline bank_deadline item else item) =
      among p items := by
  unfold among
  rw [List.countP_map]
  congr 1
  funext item
  simp only [Function.comp_apply]
  split
  · unfold retime
    split <;> simp_all
  · rfl

/-- What is scheduled after a command was there before, or it is what the command brings. -/
theorem consume_scheduled_le (command : RealtimeMidiCommand) (commands : List RealtimeMidiCommand) :
    among p (lane.consume answer command).scheduled +
        among p { lane with commands }.arriving ≤
      among p lane.scheduled + among p { lane with commands := command :: commands }.arriving := by
  cases command with
  | Schedule item =>
    have hnew : among p { lane with commands := .Schedule item :: commands }.arriving =
        among p { lane with commands }.arriving + among p [item] := by
      unfold arriving among
      rw [List.filterMap_cons_some (by rfl), List.countP_cons, List.countP_singleton]
    rw [hnew]
    simp only [consume]
    split
    · omega
    split
    · omega
    unfold among
    rw [List.countP_append]
    omega
  | SetGeneration next =>
    exact Nat.add_le_add_right (List.filter_sublist.countP_le) _
  | RetimePending requested deadline bank_deadline =>
    simp only [consume]
    split
    · rw [among_retimed]
      exact Nat.le_refl _
    · exact Nat.le_refl _
  | CancelAll | Stop => exact Nat.add_le_add_right (Nat.zero_le _) _
  | _ => exact Nat.le_refl _

/-- What is due leaves the list, and the rest stays. -/
theorem among_due :
    among p lane.due + among p (lane.scheduled.filter (!lane.is_due ·)) =
      among p lane.scheduled := by
  unfold among
  rw [due, (List.perm_insertionSort _ _).countP_eq, ← List.countP_append]
  exact (List.filter_append_perm lane.is_due lane.scheduled).countP_eq _

/-! ## What the count says -/

def pulses (dispatches : List RealtimeDispatchRecord) : Nat := dispatches.countP (·.succeeded)

/-- The pulse that went out and is not counted yet. -/
def uncounted (lane : Lane) : Nat :=
  match lane.phase with
  | .Pulsed true _ => 1
  | _ => 0

/-- Every pulse that is counted went out. -/
def Counted (lane : Lane) : Prop :=
  lane.status.emitted_count.toNat + lane.uncounted ≤ pulses lane.dispatches

/-! ## What the lane does by itself -/

/-- The second lane comes from the first without a new action from the engine. -/
structure Follows (lane lane' : Lane) : Prop where
  holds : ∀ p, lane'.holds p ≤ lane.holds p
  counted : lane.Counted → lane'.Counted
  dispatched : lane.dispatches <:+ lane'.dispatches

theorem Follows.refl : Follows lane lane :=
  ⟨fun _ => Nat.le_refl _, id, List.suffix_rfl⟩

theorem Follows.trans {lane lane' lane'' : Lane} (h : Follows lane lane')
    (h' : Follows lane' lane'') : Follows lane lane'' :=
  ⟨fun p => (h'.holds p).trans (h.holds p), h'.counted ∘ h.counted,
    h.dispatched.trans h'.dispatched⟩

variable {lane}

/-- Lanes with the same actions, the same phase and the same count. -/
theorem follows_of_eq (hcommands : lane'.arriving = lane.arriving)
    (hscheduled : lane'.scheduled = lane.scheduled) (hphase : lane'.phase = lane.phase)
    (hcount : lane'.status.emitted_count = lane.status.emitted_count)
    (hdispatches : lane'.dispatches = lane.dispatches) : Follows lane lane' := by
  refine ⟨fun p => ?_, fun h => ?_, hdispatches ▸ List.suffix_rfl⟩
  · simp only [holds, in_flight, hcommands, hscheduled, hphase, hdispatches, Nat.le_refl]
  · simpa only [Counted, uncounted, hphase, hcount, hdispatches] using h

theorem follows_consume {commands : List RealtimeMidiCommand}
    (hcommands : lane.commands = command :: commands) :
    Follows lane
      (consume { lane with commands, consumed := lane.consumed + 1 } answer command) := by
  obtain ⟨h1, h2, h3, h4⟩ :=
    consume_keeps { lane with commands, consumed := lane.consumed + 1 } answer command
  refine ⟨fun p => ?_, fun h => ?_, ?_⟩
  · have hle := consume_scheduled_le (p := p)
      { lane with commands, consumed := lane.consumed + 1 } answer command commands
    unfold holds in_flight arriving at *
    rw [h1, h2, h3, hcommands]
    dsimp only at hle ⊢
    omega
  · unfold Counted uncounted at h ⊢
    rw [h2, h3, h4]
    exact h
  · rw [h3]

theorem follows_dispatch {item : ScheduledRealtimeMidiAction}
    {due : List ScheduledRealtimeMidiAction} (hphase : lane.phase = .Dispatching (item :: due)) :
    Follows lane (lane.dispatch answer item due) := by
  refine ⟨fun p => ?_, fun h => ?_, List.suffix_cons _ _⟩
  · simp only [holds, in_flight, arriving, dispatch, hphase, among, carried_out, List.countP_cons]
    omega
  · simp only [Counted, uncounted, hphase] at h
    simp only [Counted, uncounted, dispatch, pulses, List.countP_cons] at h ⊢
    split <;> simp_all

variable (lane)

theorem follows_advance : Follows lane (lane.advance answer) := by
  unfold advance
  split
  · rename_i hphase
    split
    · rename_i command commands hcommands
      exact follows_consume answer hcommands
    split
    · refine ⟨fun p => ?_, fun h => ?_, List.suffix_rfl⟩
      · simp only [holds, in_flight, arriving, hphase, Nat.le_refl]
      · simpa only [Counted, uncounted, hphase] using h
    · exact .refl lane
  · rename_i hphase
    refine ⟨fun p => ?_, fun h => ?_, List.suffix_rfl⟩
    · have hdue := among_due (p := p) lane
      simp only [holds, in_flight, arriving, hphase] at hdue ⊢
      unfold among at hdue ⊢
      simp only [List.countP_nil]
      omega
    · simpa only [Counted, uncounted, hphase] using h
  · rename_i item due hphase
    exact follows_dispatch answer hphase
  · rename_i hphase
    refine ⟨fun p => ?_, fun h => ?_, List.suffix_rfl⟩
    · simp only [holds, in_flight, arriving, hphase, Nat.le_refl]
    · simpa only [Counted, uncounted, hphase] using h
  · rename_i succeeded due hphase
    refine ⟨fun p => ?_, fun h => ?_, List.suffix_rfl⟩
    · simp only [holds, in_flight, arriving, hphase, Nat.le_refl]
    · simp only [Counted, uncounted, hphase] at h ⊢
      cases succeeded with
      | true =>
        have hone : UInt64.toNat 1 = 1 := rfl
        simp only [if_true, saturating_add_toNat, hone] at h ⊢
        omega
      | false => simpa using h
  · rename_i due hphase
    refine ⟨fun p => ?_, fun h => ?_, List.suffix_rfl⟩
    · simp only [holds, in_flight, arriving, publish_controller_status, hphase, Nat.le_refl]
    · simpa only [Counted, uncounted, publish_controller_status, hphase] using h

theorem follows_tick (tick : Tick) : Follows lane (lane.tick tick) := by
  have hnow : Follows lane { lane with now := lane.now + tick.elapsed } :=
    follows_of_eq rfl rfl rfl rfl rfl
  exact hnow.trans (follows_advance _ tick.answer)

theorem follows_run (ticks : List Tick) : Follows lane (lane.run ticks) := by
  induction ticks generalizing lane with
  | nil => exact .refl lane
  | cons tick ticks ih => exact (follows_tick lane tick).trans (ih _)

theorem follows_serve (steps : Nat) (ticks : List Tick) :
    Follows lane (lane.serve steps ticks) := by
  induction steps generalizing lane ticks with
  | zero => exact .refl lane
  | succ steps ih =>
    unfold serve
    split
    · exact .refl lane
    · exact (follows_tick lane _).trans (ih _ _)

/-- Left alone, the lane carries out at most what it has, and its record only grows. -/
theorem the_lane_makes_nothing_up (ticks : List Tick) :
    carried_out p (lane.run ticks).dispatches ≤ lane.holds p ∧
      lane.dispatches <:+ (lane.run ticks).dispatches := by
  have h := follows_run lane ticks
  exact ⟨(Nat.le_add_left _ _).trans (h.holds p), h.dispatched⟩

end Lane

/-! ## What the engine's calls do -/

namespace RealtimeMidiController

variable {lane : Lane} {ε : Type}

/-- The lane of the controller comes from the lane without a new action. -/
def From (lane : Lane) (self : RealtimeMidiController) : Prop := lane.Follows self.lane

theorem from_elapse (h : From lane self) : From lane self.elapse :=
  Lane.Follows.trans h (Lane.follows_run _ _)

theorem keeps_status : Call.Keeps (From lane) (status : Call _ ε RealtimeMidiStatus) :=
  fun _ h => from_elapse h

theorem keeps_instant_now : Call.Keeps (From lane) (instant_now : Call _ ε Instant) :=
  fun _ h => from_elapse h

variable (hcommand : ∀ item, command ≠ .Schedule item)
include hcommand

/-- An action is in a command only when the command brings it. -/
theorem from_push (h : From lane self) : From lane (self.push command) := by
  refine Lane.Follows.trans h (Lane.follows_of_eq ?_ rfl rfl rfl rfl)
  unfold Lane.arriving push
  rw [List.filterMap_append]
  cases command <;> simp_all

theorem from_await (h : From lane self) : From lane (self.await command) :=
  Lane.Follows.trans (from_push hcommand (from_elapse h)) (Lane.follows_serve _ _ _)

theorem keeps_try_send : Call.Keeps (From lane) (try_send command) := by
  refine Call.Keeps.bind (Call.keeps_modify fun _ => from_elapse) fun _ => ?_
  refine Call.keeps_get_bind fun _ _ => ?_
  split
  · exact Call.keeps_modify fun _ => from_push hcommand
  · exact Call.keeps_lift _

theorem keeps_synchronous : Call.Keeps (From lane) (synchronous command) := by
  refine Call.Keeps.bind (Call.keeps_modify fun _ => from_await hcommand) fun _ => ?_
  exact Call.keeps_get_bind fun _ _ => Call.keeps_lift _

/-- The lane of the controller comes from the lane with one action from the engine at most. -/
structure Brought (item : ScheduledRealtimeMidiAction) (lane : Lane)
    (controller : RealtimeMidiController) : Prop where
  holds : ∀ p, controller.lane.holds p ≤ lane.holds p + Lane.among p [item]
  counted : lane.Counted → controller.lane.Counted
  dispatched : lane.dispatches <:+ controller.lane.dispatches

omit hcommand in
theorem brought_try_send (item : ScheduledRealtimeMidiAction) (self : RealtimeMidiController) :
    Brought item self.lane ((try_send (.Schedule item)).run self).1 := by
  have helapse := from_elapse (Lane.Follows.refl self.lane)
  have hsame : ∀ p, self.elapse.lane.holds p ≤ self.lane.holds p + Lane.among p [item] :=
    fun p => (helapse.holds p).trans (Nat.le_add_right _ _)
  unfold try_send
  rw [Call.modify_bind_run, Call.get_bind_run]
  split
  · refine ⟨fun p => ?_, helapse.counted, helapse.dispatched⟩
    have hholds := helapse.holds p
    have harriving : (self.elapse.push (.Schedule item)).lane.arriving =
        self.elapse.lane.arriving ++ [item] := by
      unfold Lane.arriving push
      rw [List.filterMap_append]
      rfl
    have hpushed : (self.elapse.push (.Schedule item)).lane.holds p =
        self.elapse.lane.holds p + Lane.among p [item] := by
      unfold Lane.holds
      rw [harriving]
      unfold Lane.among
      rw [List.countP_append]
      simp only [Lane.in_flight, push]
      omega
    exact hpushed ▸ Nat.add_le_add_right hholds _
  · exact ⟨hsame, helapse.counted, helapse.dispatched⟩

end RealtimeMidiController

end lumi_midi_output
