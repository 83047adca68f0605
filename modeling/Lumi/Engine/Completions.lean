-- When an execution is taken for completed. The executor compares the count of
-- the lane with the count at its last look, so a pulse of an older generation
-- that slips in between makes it announce a trigger that did not go out.
import Lumi.Midi.Pulses
import Lumi.Engine.Isolation

open rust replay lumi_domain lumi_midi_output
open UInt64 (le_refl le_trans)
open Call (Keeps Leads get_bind_run keeps_get_bind keeps_modify keeps_pure leads_modify
  leads_of_state leads_pure)

namespace lumi_engine

open RealtimeMidiController (brought_try_send cancel_all from_await instant_now keeps_instant_now
  keeps_status keeps_synchronous keeps_try_send schedule_bank set_generation synchronous try_send)

/-! ## Completions and what went out -/

/-- The banks of a generation. -/
def bank_of (generation : UInt64) : Lane.Kind := fun g action =>
  g = generation && !action.is_trigger

/-- The pulses that do not belong to the generation. -/
def other_pulses (generation : UInt64) (dispatches : List RealtimeDispatchRecord) : Nat :=
  dispatches.countP fun record => record.succeeded && record.generation ≠ generation

/-- The lane sent no pulse of another generation after the look that the execution counts from,
and the count is not at its end. -/
def Undisturbed (execution : ScheduledExecution) (dispatches : List RealtimeDispatchRecord) :
    Prop :=
  execution.lane_before.toNat + execution.actions.toNat < 2 ^ 64 ∧
    other_pulses execution.generation dispatches ≤ execution.lane_before.toNat

/-- The trigger of the execution went out. -/
def TriggerSent (execution : ScheduledExecution) (dispatches : List RealtimeDispatchRecord) :
    Prop :=
  ∃ record ∈ dispatches, record.succeeded = true ∧ record.action.is_trigger = true ∧
    record.generation = execution.generation

/-- The pulses of a generation, beyond its banks, are triggers. -/
theorem trigger_sent_of_pulses {execution : ScheduledExecution}
    {dispatches : List RealtimeDispatchRecord}
    (hbanks : Lane.carried_out (bank_of execution.generation) dispatches < execution.actions.toNat)
    (hpulses : execution.lane_before.toNat + execution.actions.toNat ≤ Lane.pulses dispatches)
    (h : Undisturbed execution dispatches) : TriggerSent execution dispatches := by
  by_contra hnot
  have hsplit : Lane.pulses dispatches ≤ other_pulses execution.generation dispatches +
      Lane.carried_out (bank_of execution.generation) dispatches := by
    unfold Lane.pulses other_pulses Lane.carried_out
    clear hbanks hpulses h
    induction dispatches with
    | nil => simp
    | cons record dispatches ih =>
      have hrest : ¬ TriggerSent execution dispatches := by
        rintro ⟨found, hmem, hfound⟩
        exact hnot ⟨found, List.mem_cons_of_mem _ hmem, hfound⟩
      have hrecord : ¬ (record.succeeded = true ∧ record.action.is_trigger = true ∧
          record.generation = execution.generation) :=
        fun hrecord => hnot ⟨record, List.mem_cons_self, hrecord⟩
      have hone : (if record.succeeded = true then 1 else 0) ≤
          (if (record.succeeded && decide (record.generation ≠ execution.generation)) = true
            then 1 else 0) +
          (if bank_of execution.generation record.generation record.action = true
            then 1 else 0) := by
        unfold bank_of
        grind
      have hdispatches := ih hrest
      simp only [List.countP_cons]
      omega
  unfold Undisturbed at h
  omega

/-! ## The account of the worker -/

/-- The executor announced the execution. -/
def Announced (executor : AutoloopCueExecutor) (identity : AutoloopExecutionIdentity) : Prop :=
  executor.completed_through = some identity ∨ ∃ target, executor.state = .Completed identity target

/-- The completion is the one of an execution that went to the lane, and if the lane was not
disturbed, the trigger of that execution had gone out. -/
def Settled (w : OutputWorker) (completion : CompletedExecution) : Prop :=
  ∃ execution, completion.execution = some execution ∧ execution ∈ w.scheduled_executions ∧
    execution.identity = completion.identity ∧
    (Undisturbed execution completion.dispatches → TriggerSent execution completion.dispatches)

/-- Every generation belongs to one execution and every execution has its own actions in the lane;
what is triggered went to the lane last; and every completion is settled. -/
structure Accounted (w : OutputWorker) : Prop where
  counted : w.midi_output.lane.Counted
  bounded : w.midi_output.lane.holds (fun g _ => w.realtime_generation < g) = 0
  executions : ∀ execution ∈ w.scheduled_executions,
    execution.generation ≤ w.realtime_generation ∧
      w.midi_output.lane.holds (bank_of execution.generation) < execution.actions.toNat
  distinct : (w.scheduled_executions.map (·.generation)).Nodup
  triggered : ∀ identity target expected,
    w.autoloop_executor.state = .Triggered identity target expected →
      ∃ execution, w.scheduled_executions.head? = some execution ∧
        execution.identity = identity ∧
        expected = saturating_add execution.lane_before execution.actions
  announced : ∀ identity, Announced w.autoloop_executor identity →
    ∃ completion ∈ w.completed_executions, completion.identity = identity
  settled : ∀ completion ∈ w.completed_executions, Settled w completion

/-! ## What leaves the account alone -/

/-- The executor comes from the other without a trigger or a completion. -/
structure Subsides (e e' : AutoloopCueExecutor) : Prop where
  triggered : ∀ identity target expected, e'.state = .Triggered identity target expected →
    e.state = .Triggered identity target expected
  announced : ∀ identity, Announced e' identity → Announced e identity

/-- Nothing goes to the lane and nothing is completed. -/
structure Quietly (w w' : OutputWorker) : Prop where
  lane : w.midi_output.lane.Follows w'.midi_output.lane
  generation : w.realtime_generation ≤ w'.realtime_generation
  scheduled : w'.scheduled_executions = w.scheduled_executions
  completed : w'.completed_executions = w.completed_executions
  executor : Subsides w.autoloop_executor w'.autoloop_executor

theorem Subsides.refl (e : AutoloopCueExecutor) : Subsides e e := ⟨fun _ _ _ h => h, fun _ h => h⟩

variable {e e' : AutoloopCueExecutor} {w' w : OutputWorker}

theorem Subsides.trans {e'' : AutoloopCueExecutor} (h : Subsides e e')
    (h' : Subsides e' e'') : Subsides e e'' :=
  ⟨fun i t n hs => h.triggered i t n (h'.triggered i t n hs),
    fun i hs => h.announced i (h'.announced i hs)⟩

theorem Quietly.refl (w : OutputWorker) : Quietly w w :=
  ⟨.refl _, le_refl _, rfl, rfl, .refl _⟩

theorem Settled.mono {completion : CompletedExecution} (h : Settled w completion)
    (hsub : ∀ execution ∈ w.scheduled_executions, execution ∈ w'.scheduled_executions) :
    Settled w' completion := by
  obtain ⟨execution, hexecution, hmem, hrest⟩ := h
  exact ⟨execution, hexecution, hsub execution hmem, hrest⟩

/-- A kind that is a part of another is not more in number. -/
theorem holds_mono {p q : Lane.Kind} (lane : Lane) (h : ∀ g a, p g a = true → q g a = true) :
    lane.holds p ≤ lane.holds q := by
  have hitems : ∀ items, Lane.among p items ≤ Lane.among q items := fun items =>
    List.countP_mono_left fun item _ => h item.generation item.action
  have hrecords : Lane.carried_out p lane.dispatches ≤ Lane.carried_out q lane.dispatches :=
    List.countP_mono_left fun record _ => h record.generation record.action
  have h1 := hitems lane.arriving
  have h2 := hitems lane.scheduled
  have h3 := hitems lane.in_flight
  unfold Lane.holds
  omega

theorem Accounted.quietly (h : Accounted w) (hq : Quietly w w') :
    Accounted w' where
  counted := hq.lane.counted h.counted
  bounded := by
    have hle := hq.lane.holds fun g _ => w.realtime_generation < g
    rw [h.bounded] at hle
    have hmono := holds_mono w'.midi_output.lane
      (p := fun g _ => decide (w'.realtime_generation < g))
      (q := fun g _ => decide (w.realtime_generation < g)) (by
        intro g a hg
        rw [decide_eq_true_eq] at hg ⊢
        exact UInt64.lt_of_le_of_lt hq.generation hg)
    omega
  executions := by
    rw [hq.scheduled]
    intro execution hexecution
    obtain ⟨hgeneration, hbanks⟩ := h.executions execution hexecution
    exact ⟨le_trans hgeneration hq.generation, (hq.lane.holds _).trans_lt hbanks⟩
  distinct := hq.scheduled ▸ h.distinct
  triggered := by
    rw [hq.scheduled]
    intro identity target expected hs
    exact h.triggered identity target expected (hq.executor.triggered _ _ _ hs)
  announced := by
    rw [hq.completed]
    intro identity hs
    exact h.announced identity (hq.executor.announced _ hs)
  settled := by
    rw [hq.completed]
    intro completion hcompletion
    exact (h.settled completion hcompletion).mono (by rw [hq.scheduled]; exact fun _ h => h)

/-! ## The requests -/

/-- An executor that is neither triggered nor completed, and that announces nothing new. -/
theorem subsides_of
    (htriggered : ∀ identity target expected, e'.state ≠ .Triggered identity target expected)
    (hcompleted : ∀ identity target, e'.state ≠ .Completed identity target)
    (hthrough : ∀ identity, e'.completed_through = some identity →
      e.completed_through = some identity) : Subsides e e' := by
  refine ⟨fun i t n h => absurd h (htriggered i t n), ?_⟩
  rintro identity (h | ⟨target, h⟩)
  · exact .inl (hthrough identity h)
  · exact absurd h (hcompleted identity target)

theorem subsides_cancel_pending (e : AutoloopCueExecutor) : Subsides e e.cancel_pending :=
  subsides_of nofun nofun fun _ h => h

theorem subsides_fail (e : AutoloopCueExecutor) (identity : AutoloopExecutionIdentity) :
    Subsides e (e.fail identity) := by
  unfold AutoloopCueExecutor.fail
  split
  · exact subsides_cancel_pending e
  · exact .refl e

theorem subsides_epoch (h : e.begin_execution_epoch = some e') : Subsides e e' := by
  unfold AutoloopCueExecutor.begin_execution_epoch at h
  obtain ⟨epoch, _, rfl⟩ := Option.map_eq_some_iff.mp h
  exact subsides_of nofun nofun nofun

theorem subsides_mark_bank_prepared (e : AutoloopCueExecutor) (schedule : AutoloopSchedule) :
    Subsides e (e.mark_bank_prepared schedule) := by
  unfold AutoloopCueExecutor.mark_bank_prepared
  split
  · exact subsides_of nofun nofun fun _ h => h
  · exact .refl e

variable {identity : AutoloopExecutionIdentity} {schedule : AutoloopSchedule}

/-- A scheduled execution is not a triggered one. -/
theorem schedule_identity_some {target : AutoloopTarget} {active_bank : Option UInt8}
    (h : e.schedule_identity identity target active_bank = some (e', schedule)) :
    Subsides e e' ∧ ∀ i t n, e'.state ≠ .Triggered i t n := by
  unfold AutoloopCueExecutor.schedule_identity at h
  split at h
  · cases h
  cases h
  exact ⟨subsides_of nofun nofun fun _ h => h, nofun⟩

namespace OutputWorker

variable {ε α : Type} {w : OutputWorker} {call : Call RealtimeMidiController ε α}
  {command : RealtimeMidiCommand}

theorem quietly_midi (h : ∀ lane, Keeps (RealtimeMidiController.From lane) call) :
    Keeps (Quietly w) (midi call) := by
  refine (h w.midi_output.lane).on (fun w' hq => hq.lane) fun w' midi_output hq hlane => ?_
  exact ⟨hlane, hq.generation, hq.scheduled, hq.completed, hq.executor⟩

theorem quietly_status :
    Keeps (Quietly w) (midi RealtimeMidiController.status : Method ε RealtimeMidiStatus) :=
  quietly_midi fun _ => keeps_status

theorem quietly_instant_now : Keeps (Quietly w) (midi instant_now : Method ε Instant) :=
  quietly_midi fun _ => keeps_instant_now

theorem quietly_synchronous (hcommand : ∀ item, command ≠ .Schedule item) :
    Keeps (Quietly w) (midi (synchronous command)) :=
  quietly_midi fun _ => keeps_synchronous hcommand

theorem quietly_midi_ok {call : Call RealtimeMidiController RealtimeMidiError α}
    (h : ∀ lane, Keeps (RealtimeMidiController.From lane) call) :
    Keeps (Quietly w) (midi_ok call : Method ε Bool) :=
  quietly_midi fun lane => (h lane).is_ok

theorem quietly_try_send (hcommand : ∀ item, command ≠ .Schedule item) :
    Keeps (Quietly w) (midi_ok (try_send command) : Method ε Bool) :=
  quietly_midi_ok fun _ => keeps_try_send hcommand

/-- A change of what the account does not read. -/
theorem Quietly.aside {w w' w'' : OutputWorker} (hq : Quietly w w') (ha : Aside w' w'') :
    Quietly w w'' :=
  ⟨ha.midi ▸ hq.lane, ha.generation ▸ hq.generation, ha.scheduled.trans hq.scheduled,
    ha.completed.trans hq.completed, ha.executor ▸ hq.executor⟩

theorem quietly_aside {f : OutputWorker → OutputWorker} (h : ∀ w, Aside w (f w)) :
    Keeps (Quietly w) (Call.modify f : Method ε Unit) :=
  keeps_modify fun w' hq => Quietly.aside hq (h w')

theorem quietly_on_executor {f : AutoloopCueExecutor → AutoloopCueExecutor}
    (h : ∀ e, Subsides e (f e)) : Keeps (Quietly w) (on_executor f : Method ε Unit) :=
  keeps_modify fun _ hq =>
    ⟨hq.lane, hq.generation, hq.scheduled, hq.completed, hq.executor.trans (h _)⟩

theorem quietly_begin_realtime_generation :
    Keeps (Quietly w) (begin_realtime_generation : Method ε (Option UInt64)) := by
  intro w' hq
  unfold begin_realtime_generation
  rw [get_bind_run]
  cases hnext : checked_add w'.realtime_generation 1 with
  | none => exact hq
  | some generation =>
    have hgeneration : w'.realtime_generation ≤ generation := by
      have hvalue := checked_add_eq_some.mp hnext
      rw [UInt64.le_iff_toNat_le]
      omega
    refine Keeps.bind (I := Quietly w) (quietly_try_send (by simp)) (fun sent => ?_) _ ?_
    · split <;> exact keeps_pure _
    · exact ⟨hq.lane, le_trans hq.generation hgeneration, hq.scheduled, hq.completed, hq.executor⟩

theorem quietly_try_cancel_all : Keeps (Quietly w) (try_cancel_all : Method ε Unit) :=
  (quietly_try_send (by simp)).bind fun _ => keeps_pure _

theorem quietly_invalidate : Keeps (Quietly w) (invalidate_autoloop_deadline : Method ε Unit) := by
  refine quietly_begin_realtime_generation.bind fun _ => ?_
  refine quietly_try_cancel_all.bind fun _ => keeps_modify fun w' hq => ?_
  exact ⟨hq.lane, hq.generation, hq.scheduled, hq.completed,
    hq.executor.trans (subsides_cancel_pending _)⟩

theorem quietly_begin_epoch (cause : TransportEpochCause) :
    Keeps (Quietly w) (begin_autoloop_execution_epoch cause) := by
  intro w' hq
  unfold begin_autoloop_execution_epoch
  rw [get_bind_run]
  rcases hexecutor : w'.autoloop_executor.begin_execution_epoch with _ | executor
  · exact hq
  have hrest : Keeps (Quietly w) (do
      Call.map_err midi_error (midi cancel_all)
      Call.modify fun self =>
        { self with
          transport_epoch_cause := some cause
          reassert_current_on_next_cue := true
          scheduled_future_autoloop := none } : Method EngineError Unit) := by
    refine Keeps.bind (Keeps.map_err (quietly_midi fun _ => ?_) _) fun _ => ?_
    · exact keeps_try_send (by simp)
    · exact keeps_modify fun _ hq =>
        ⟨hq.lane, hq.generation, hq.scheduled, hq.completed, hq.executor⟩
  exact hrest { w' with autoloop_executor := executor } ⟨hq.lane, hq.generation, hq.scheduled,
    hq.completed, hq.executor.trans (subsides_epoch hexecutor)⟩

theorem quietly_cancel_future :
    Keeps (Quietly w) (cancel_future_autoloop_deadline : Method ε Unit) := by
  refine keeps_get_bind fun _ _ => ?_
  split
  · exact keeps_pure _
  refine Keeps.bind (keeps_modify fun _ hq => ?_) fun _ => ?_
  · exact ⟨hq.lane, hq.generation, hq.scheduled, hq.completed, hq.executor⟩
  refine keeps_get_bind fun _ _ => ?_
  split
  · exact keeps_pure _
  refine quietly_begin_realtime_generation.bind fun _ => ?_
  refine quietly_try_cancel_all.bind fun _ => ?_
  exact quietly_on_executor subsides_cancel_pending

theorem quietly_ensure_lighting_midi : Keeps (Quietly w) ensure_lighting_midi := by
  refine keeps_get_bind fun _ _ => ?_
  split
  · refine quietly_status.bind fun _ => ?_
    split
    · refine quietly_instant_now.bind fun _ => ?_
      refine keeps_get_bind fun _ _ => ?_
      split
      · exact keeps_pure _
      refine Keeps.bind (quietly_aside fun _ => ?_) fun _ => ?_
      · exact ⟨⟨rfl, rfl, rfl, rfl⟩, rfl, rfl⟩
      · exact (quietly_synchronous (by simp)).map_err _
    · exact keeps_pure _
  · exact keeps_pure _

theorem quietly_toggle (number : UInt8) :
    Keeps (Quietly w)
      (midi_ok (RealtimeMidiController.toggle_static_look number) : Method ε Bool) :=
  quietly_midi_ok fun _ => keeps_synchronous (by simp)

variable (request : OutputExecutionRequest) {generation count : UInt64}
  {midi_output : RealtimeMidiController} {target : AutoloopTarget}

theorem quietly_execute_static_look_transition :
    Keeps (Quietly w) (execute_static_look_transition request : Method ε Unit) := by
  have hactive : ∀ desired : Option StaticLookTarget, Keeps (Quietly w)
      (Call.modify fun self => { self with active_static_look := desired } : Method ε Unit) :=
    fun _ => quietly_aside fun _ => ⟨⟨rfl, rfl, rfl, rfl⟩, rfl, rfl⟩
  refine keeps_get_bind fun _ _ => ?_
  dsimp only
  split
  · split
    · exact hactive _
    · exact keeps_pure _
  refine Keeps.bind ?_ fun ready => ?_
  · refine Keeps.bind quietly_ensure_lighting_midi.is_ok fun ensured => ?_
    split
    · exact quietly_status.bind fun _ => keeps_pure _
    · exact keeps_pure _
  split
  · refine (quietly_toggle _).bind fun toggled => ?_
    split
    · exact hactive _
    · exact keeps_pure _
  · exact keeps_pure _

theorem quietly_release_active_static_look :
    Keeps (Quietly w) (release_active_static_look : Method ε Unit) := by
  refine keeps_get_bind fun _ _ => ?_
  split
  · exact keeps_pure _
  refine (quietly_toggle _).bind fun toggled => ?_
  split
  · exact quietly_aside fun _ => ⟨⟨rfl, rfl, rfl, rfl⟩, rfl, rfl⟩
  · exact keeps_pure _

theorem quietly_toggle_static_look_manually (number : UInt8) :
    Keeps (Quietly w) (toggle_static_look_manually number) := by
  refine Keeps.bind ((quietly_synchronous (by simp)).map_err _) fun _ => ?_
  exact quietly_aside fun _ => ⟨⟨rfl, rfl, rfl, rfl⟩, rfl, rfl⟩

theorem quietly_publish_midi : Keeps (Quietly w) publish_midi := by
  refine quietly_instant_now.bind fun _ => ?_
  refine Keeps.bind (quietly_aside fun _ => ?_) fun _ => ?_
  · exact ⟨⟨rfl, rfl, rfl, rfl⟩, rfl, rfl⟩
  · exact (quietly_synchronous (by simp)).map_err _

theorem quietly_stop_midi : Keeps (Quietly w) (stop_midi : Method ε Unit) := by
  refine quietly_release_active_static_look.bind fun _ => ?_
  refine Keeps.bind (quietly_aside fun _ => ?_) fun _ => ?_
  · exact ⟨⟨rfl, rfl, rfl, rfl⟩, rfl, rfl⟩
  · exact quietly_midi fun _ =>
      keeps_modify fun _ => from_await (by simp)

theorem quietly_ensure_output_closed :
    Keeps (Quietly w) (ensure_output_closed : Method ε Unit) := by
  refine quietly_release_active_static_look.bind fun _ => ?_
  refine quietly_try_cancel_all.bind fun _ => ?_
  exact quietly_on_executor subsides_cancel_pending

theorem quietly_bank_deadline_for (deadline : Instant) :
    Keeps (Quietly w) (bank_deadline_for deadline : Method ε Instant) := by
  unfold bank_deadline_for
  split
  · exact keeps_pure _
  · exact quietly_instant_now

theorem quietly_retime (scheduled : ScheduledFutureAutoloop) (deadline : Instant) (bpm : UInt32) :
    Keeps (Quietly w) (retime_future_autoloop scheduled deadline bpm : Method ε Unit) := by
  unfold retime_future_autoloop
  split
  · refine (quietly_bank_deadline_for _).bind fun _ => ?_
    refine (quietly_try_send (by simp)).bind fun sent => ?_
    split
    · exact keeps_modify fun _ hq =>
        ⟨hq.lane, hq.generation, hq.scheduled, hq.completed, hq.executor⟩
    · exact keeps_pure _
  · exact keeps_pure _

/-- A quiet request keeps the account. -/
theorem keeps_accounted {call : Method ε α} (h : ∀ w, Keeps (Quietly w) call) :
    Keeps Accounted call :=
  fun w ha => ha.quietly (h w w (.refl w))

/-! ## Completing -/

/-- The execution that a look at the lane completes is settled. -/
theorem settled_of_emitted (ha : Accounted w) {identity : AutoloopExecutionIdentity}
    (h : w.autoloop_executor.emitted w.midi_output.lane.status.emitted_count = some identity) :
    Settled w ⟨identity, w.scheduled_executions.head?, w.midi_output.lane.dispatches⟩ := by
  unfold AutoloopCueExecutor.emitted at h
  split at h
  · rename_i triggered target expected hstate
    split at h
    · rename_i hcount
      cases h
      obtain ⟨execution, hhead, hidentity, hexpected⟩ := ha.triggered _ _ _ hstate
      have hmem := List.mem_of_head? hhead
      refine ⟨execution, hhead, hmem, hidentity, fun hundisturbed => ?_⟩
      refine trigger_sent_of_pulses ?_ ?_ hundisturbed
      · refine Nat.lt_of_le_of_lt ?_ (ha.executions execution hmem).2
        exact Nat.le_add_left _ _
      · have hcounted := ha.counted
        unfold Lane.Counted at hcounted
        rw [hexpected, ge_iff_le, UInt64.le_iff_toNat_le, saturating_add_toNat] at hcount
        have hsum := hundisturbed.1
        dsimp only at hsum ⊢
        omega
    · cases h
  · cases h

theorem announced_complete (h : Announced (e.complete_if_emitted count) identity) :
    Announced e identity ∨ e.emitted count = some identity := by
  unfold AutoloopCueExecutor.complete_if_emitted AutoloopCueExecutor.emitted at *
  split at h
  · rename_i triggered target expected hstate
    split at h
    · rename_i hcount
      rw [if_pos hcount]
      rcases h with h | ⟨_, h⟩
      · exact .inr h
      cases h
      exact .inr rfl
    · exact .inl h
  · exact .inl h

theorem triggered_complete {expected : UInt64}
    (h : (e.complete_if_emitted count).state = .Triggered identity target expected) :
    e.state = .Triggered identity target expected := by
  unfold AutoloopCueExecutor.complete_if_emitted at h
  split at h
  · split at h
    · cases h
    · exact h
  · exact h

/-- The worker after it has taken note of the count of its lane. -/
def completed (w : OutputWorker) : OutputWorker :=
  let lane_emitted_count := w.midi_output.lane.status.emitted_count
  { log_completion lane_emitted_count w with
    autoloop_executor := w.autoloop_executor.complete_if_emitted lane_emitted_count }

theorem accounted_completed (ha : Accounted w) : Accounted w.completed where
  counted := ha.counted
  bounded := ha.bounded
  executions := ha.executions
  distinct := ha.distinct
  triggered := fun i t n hs => ha.triggered i t n (triggered_complete hs)
  announced := by
    intro identity hs
    rcases announced_complete hs with hs | hs
    · obtain ⟨completion, hmem, hidentity⟩ := ha.announced identity hs
      exact ⟨completion, List.mem_append_right _ hmem, hidentity⟩
    refine ⟨⟨identity, w.scheduled_executions.head?, w.midi_output.lane.dispatches⟩, ?_, rfl⟩
    refine List.mem_append_left _ (List.mem_map.mpr ⟨identity, ?_, rfl⟩)
    exact Option.mem_toList.mpr hs
  settled := by
    intro completion hmem
    rcases List.mem_append.mp hmem with hmem | hmem
    · obtain ⟨identity, hidentity, rfl⟩ := List.mem_map.mp hmem
      exact settled_of_emitted ha (Option.mem_toList.mp hidentity)
    · exact ha.settled completion hmem

theorem accounted_complete_if_emitted : Keeps Accounted (complete_if_emitted : Method ε Unit) := by
  intro w ha
  have helapsed : Accounted { w with midi_output := w.midi_output.elapse } :=
    ha.quietly (quietly_status (ε := Empty) w (.refl w))
  exact accounted_completed helapsed

/-! ## Scheduling -/

/-- The worker may hand over an execution under the generation: the lane and the account know
nothing of it. -/
structure Fresh (generation : UInt64) (w : OutputWorker) : Prop where
  accounted : Accounted w
  current : w.realtime_generation = generation
  unused : ∀ execution ∈ w.scheduled_executions, execution.generation ≠ generation
  empty : w.midi_output.lane.holds (bank_of generation) = 0
  untriggered : ∀ i t n, w.autoloop_executor.state ≠ .Triggered i t n

/-- Nothing is triggered. -/
structure Ready (w : OutputWorker) : Prop where
  accounted : Accounted w
  untriggered : ∀ i t n, w.autoloop_executor.state ≠ .Triggered i t n

/-- A new generation is one that nothing in the lane carries. -/
theorem fresh_generation (h : Ready w)
    (hnext : checked_add w.realtime_generation 1 = some generation) :
    Fresh generation { w with realtime_generation := generation } := by
  have hvalue := checked_add_eq_some.mp hnext
  have hlt : w.realtime_generation < generation := by
    rw [UInt64.lt_iff_toNat_lt]
    have hone : UInt64.toNat 1 = 1 := rfl
    omega
  have hquiet : Quietly w { w with realtime_generation := generation } :=
    ⟨.refl _, UInt64.le_of_lt hlt, rfl, rfl, .refl _⟩
  refine ⟨h.accounted.quietly hquiet, rfl, fun execution hmem hsame => ?_, ?_, h.untriggered⟩
  · have hle := (h.accounted.executions execution hmem).1
    rw [hsame] at hle
    exact absurd hlt (UInt64.not_lt.mpr hle)
  · have hmono := holds_mono w.midi_output.lane (p := bank_of generation)
      (q := fun g _ => decide (w.realtime_generation < g)) (by
        intro g a hg
        simp only [bank_of, Bool.and_eq_true, decide_eq_true_eq] at hg ⊢
        exact hg.1 ▸ hlt)
    rw [h.accounted.bounded] at hmono
    exact Nat.le_zero.mp hmono

theorem Fresh.follows (h : Fresh generation w)
    (hlane : w.midi_output.lane.Follows midi_output.lane) :
    Fresh generation { w with midi_output } := by
  have hquiet : Quietly w { w with midi_output } := ⟨hlane, le_refl _, rfl, rfl, .refl _⟩
  refine ⟨h.accounted.quietly hquiet, h.current, h.unused, ?_, h.untriggered⟩
  exact Nat.le_zero.mp (h.empty ▸ hlane.holds (bank_of generation))

theorem fresh_midi (h : ∀ lane, Keeps (RealtimeMidiController.From lane) call) :
    Keeps (Fresh generation) (midi call) :=
  fun w hf => hf.follows (h w.midi_output.lane w.midi_output (.refl _))

theorem leads_begin_realtime_generation :
    Leads Ready (begin_realtime_generation : Method ε (Option UInt64))
      (fun generation w => match generation with
        | some generation => Fresh generation w
        | none => Accounted w) Accounted := by
  intro w h
  unfold begin_realtime_generation
  rw [get_bind_run]
  rcases hnext : checked_add w.realtime_generation 1 with _ | generation
  · exact h.accounted
  have hsent : Leads (Fresh generation)
      (do if ← midi_ok (set_generation generation)
            then return some generation else return none : Method ε (Option UInt64))
      (fun generation w => match generation with
        | some generation => Fresh generation w
        | none => Accounted w) Accounted := by
    refine Leads.bind (Q := fun _ => Fresh generation) ?_ fun sent => ?_
    · refine leads_of_state (fresh_midi fun lane => ?_) fun _ h => h.accounted
      exact (keeps_try_send (by simp)).is_ok
    · cases sent with
      | true => exact leads_pure fun _ h => h
      | false => exact leads_pure fun _ h => h.accounted
  exact hsent _ (fresh_generation h hnext)

/-- One action of the generation goes to the lane. -/
theorem accounted_brought {item : ScheduledRealtimeMidiAction} (h : Accounted w)
    (hcurrent : item.generation = w.realtime_generation)
    (hnew : ∀ execution ∈ w.scheduled_executions,
      bank_of execution.generation item.generation item.action = false)
    (hbrought : RealtimeMidiController.Brought item w.midi_output.lane midi_output) :
    Accounted { w with midi_output } where
  counted := hbrought.counted h.counted
  bounded := by
    have hle := hbrought.holds fun g _ => w.realtime_generation < g
    rw [h.bounded] at hle
    simpa [Lane.among, hcurrent] using hle
  executions := by
    intro execution hmem
    obtain ⟨hgeneration, hbanks⟩ := h.executions execution hmem
    have hle := hbrought.holds (bank_of execution.generation)
    have hnone : Lane.among (bank_of execution.generation) [item] = 0 := by
      simp [Lane.among, hnew execution hmem]
    exact ⟨hgeneration, by dsimp only; omega⟩
  distinct := h.distinct
  triggered := h.triggered
  announced := h.announced
  settled := h.settled

/-- The bank of the execution is with the lane if it has one. -/
structure Banked (generation : UInt64) (banks : Nat) (w : OutputWorker) : Prop where
  accounted : Accounted w
  current : w.realtime_generation = generation
  unused : ∀ execution ∈ w.scheduled_executions, execution.generation ≠ generation
  banks : w.midi_output.lane.holds (bank_of generation) ≤ banks
  untriggered : ∀ i t n, w.autoloop_executor.state ≠ .Triggered i t n

/-- The execution is the last of the account, and nothing is triggered. -/
structure Handed (execution : ScheduledExecution) (w : OutputWorker) : Prop where
  accounted : Accounted w
  current : w.realtime_generation = execution.generation
  last : w.scheduled_executions.head? = some execution
  untriggered : ∀ i t n, w.autoloop_executor.state ≠ .Triggered i t n

theorem leads_bank (schedule : AutoloopSchedule) (generation : UInt64) (deadline : Instant) :
    Leads (Fresh generation)
      (if schedule.select_bank then
        midi_ok (schedule_bank generation schedule.target.bank_number
          deadline)
      else pure true : Method ε Bool)
      (fun _ => Banked generation (if schedule.select_bank then 1 else 0)) Accounted := by
  refine leads_of_state (fun w h => ?_) fun _ h => h.accounted
  split
  · have hbrought := brought_try_send
      ⟨generation, deadline, .SelectBank schedule.target.bank_number⟩ w.midi_output
    have haccounted := accounted_brought h.accounted h.current.symm (fun execution hmem => by
      simp [bank_of, (h.unused execution hmem).symm]) hbrought
    have hbanks := hbrought.holds (bank_of generation)
    have hone : Lane.among (bank_of generation)
        [⟨generation, deadline, .SelectBank schedule.target.bank_number⟩] = 1 := by
      simp [Lane.among, bank_of, RealtimeMidiAction.is_trigger]
    rw [h.empty, hone] at hbanks
    exact ⟨haccounted, h.current, h.unused, hbanks, h.untriggered⟩
  · exact ⟨h.accounted, h.current, h.unused, Nat.le_of_eq h.empty, h.untriggered⟩

/-- The execution goes into the account once its bank is with the lane. -/
theorem handed_of_banked (execution : ScheduledExecution) {banks : Nat}
    (h : Banked execution.generation banks w) (hactions : banks < execution.actions.toNat) :
    Handed execution
      { w with scheduled_executions := execution :: w.scheduled_executions } where
  accounted :=
    { counted := h.accounted.counted
      bounded := h.accounted.bounded
      executions := by
        intro other hmem
        rcases List.mem_cons.mp hmem with rfl | hmem
        · exact ⟨UInt64.le_of_eq h.current.symm, Nat.lt_of_le_of_lt h.banks hactions⟩
        · exact h.accounted.executions other hmem
      distinct := by
        rw [List.map_cons, List.nodup_cons]
        refine ⟨fun hmem => ?_, h.accounted.distinct⟩
        obtain ⟨other, hother, hsame⟩ := List.mem_map.mp hmem
        exact h.unused other hother hsame
      triggered := fun i t n hs => absurd hs (h.untriggered i t n)
      announced := h.accounted.announced
      settled := fun completion hmem => (h.accounted.settled completion hmem).mono
        fun _ => List.mem_cons_of_mem _ }
  current := h.current
  last := rfl
  untriggered := h.untriggered

/-- The trigger of the execution that is the last of the account goes to the lane. -/
theorem handed_trigger (execution : ScheduledExecution) (bank autoloop : UInt8)
    (deadline : Instant) :
    Keeps (Handed execution)
      (midi_ok (RealtimeMidiController.schedule_autoloop execution.generation bank autoloop
        deadline) : Method ε Bool) := by
  intro w h
  have hbrought := brought_try_send
    ⟨execution.generation, deadline, .TriggerAutoloop bank autoloop⟩ w.midi_output
  have haccounted := accounted_brought h.accounted h.current.symm
    (fun _ _ => by simp [bank_of, RealtimeMidiAction.is_trigger]) hbrought
  exact ⟨haccounted, h.current, h.last, h.untriggered⟩

/-- The trigger of the last execution is noted. -/
theorem accounted_mark_triggered {execution : ScheduledExecution}
    (h : Handed execution w) (hidentity : execution.identity = schedule.identity) :
    Accounted { w with
      autoloop_executor := w.autoloop_executor.mark_triggered schedule
        (saturating_add execution.lane_before execution.actions) } := by
  unfold AutoloopCueExecutor.mark_triggered
  split
  · refine { h.accounted with triggered := ?_, announced := ?_, settled := h.accounted.settled }
    · intro identity target expected hs
      cases hs
      exact ⟨execution, h.last, hidentity, rfl⟩
    · rintro identity (hs | ⟨_, hs⟩)
      · exact h.accounted.announced identity (.inl hs)
      · cases hs
  · exact h.accounted

theorem accounted_fail (identity : AutoloopExecutionIdentity) :
    Keeps Accounted (on_executor (·.fail identity) : Method ε Unit) :=
  keeps_accounted fun _ => quietly_on_executor fun e => subsides_fail e identity

theorem accounted_send_schedule (schedule : AutoloopSchedule) (generation : UInt64)
    (bank_deadline deadline : Instant) (lane_before : RealtimeMidiStatus) :
    Leads (Fresh generation)
      (send_schedule schedule generation bank_deadline deadline lane_before : Method ε Bool)
      (fun _ => Accounted) Accounted := by
  refine (leads_bank schedule generation bank_deadline).bind fun sent => ?_
  have hfail : Keeps Accounted (on_executor (·.fail schedule.identity) : Method ε Unit) :=
    accounted_fail schedule.identity
  cases sent with
  | true =>
    let execution : ScheduledExecution :=
      ⟨generation, schedule.identity, lane_before.emitted_count,
        if schedule.select_bank then 2 else 1⟩
    rw [if_pos rfl]
    refine Leads.bind (Q := fun _ => Banked generation (if schedule.select_bank then 1 else 0))
      (leads_modify fun w h => ?_) fun _ => ?_
    · have hsub := subsides_mark_bank_prepared w.autoloop_executor schedule
      exact ⟨h.accounted.quietly ⟨.refl _, le_refl _, rfl, rfl, hsub⟩, h.current, h.unused,
        h.banks, fun i t n hs => h.untriggered i t n (hsub.triggered i t n hs)⟩
    refine Leads.bind (Q := fun _ => Handed execution) (leads_modify fun w h => ?_) fun _ => ?_
    · refine handed_of_banked execution h ?_
      dsimp only [execution]
      split <;> decide
    refine Leads.bind (Q := fun _ => Handed execution)
      (leads_of_state (handed_trigger execution _ _ _) fun _ h => h.accounted) fun sent => ?_
    split
    · refine Leads.bind (Q := fun _ => Accounted)
        (leads_modify fun w h => ?_) fun _ => leads_pure fun _ h => h
      exact accounted_mark_triggered h rfl
    refine leads_of_state (fun w h => ?_) fun _ h => h
    have hcancel : Keeps Accounted (try_cancel_all : Method ε Unit) :=
      keeps_accounted fun _ => quietly_try_cancel_all
    exact (hcancel.bind fun _ => hfail.bind fun _ => keeps_pure _) w h.accounted
  | false =>
    rw [if_neg Bool.false_ne_true]
    refine leads_of_state (fun w h => ?_) fun _ h => h
    exact (hfail.bind fun _ => keeps_pure _) w h.accounted

/-- The executor takes the execution, and it goes on under a new generation. -/
theorem accounted_scheduled {executor : AutoloopCueExecutor} {active_bank : Option UInt8}
    {rest : Option UInt64 → Method ε Unit} (h : Accounted w)
    (hschedule : w.autoloop_executor.schedule_identity identity target active_bank =
      some (executor, schedule))
    (hnone : Keeps Accounted (rest none))
    (hsome : ∀ generation,
      Leads (Fresh generation) (rest (some generation)) (fun _ => Accounted) Accounted) :
    Accounted ((do
      on_executor fun _ => executor
      let generation ← begin_realtime_generation
      rest generation : Method ε Unit).run w).1 := by
  obtain ⟨hsub, huntriggered⟩ := schedule_identity_some hschedule
  have hready : Ready { w with autoloop_executor := executor } :=
    ⟨h.quietly ⟨.refl _, le_refl _, rfl, rfl, hsub⟩, huntriggered⟩
  have hrest : Leads Ready (do
      let generation ← begin_realtime_generation
      rest generation : Method ε Unit) (fun _ => Accounted) Accounted := by
    refine leads_begin_realtime_generation.bind fun generation => ?_
    cases generation with
    | none => exact leads_of_state hnone fun _ h => h
    | some generation => exact hsome generation
  exact hrest.state hready

theorem accounted_execute_autoloop (bank_number autoloop_number : UInt8) :
    Keeps Accounted
      (execute_autoloop request bank_number autoloop_number : Method ε Unit) := by
  refine accounted_complete_if_emitted.bind fun _ => ?_
  refine Keeps.bind (keeps_accounted fun _ => quietly_status) fun lane_before => ?_
  intro w h
  rw [get_bind_run]
  split
  · exact h
  rename_i executor schedule hschedule
  refine accounted_scheduled h hschedule (accounted_fail schedule.identity) fun generation => ?_
  have hnow : Leads (Fresh generation)
      (midi instant_now : Method ε Instant)
      (fun _ => Fresh generation) Accounted :=
    leads_of_state (fresh_midi fun _ => keeps_instant_now)
      fun _ h => h.accounted
  refine hnow.bind fun now => Call.leads_get_bind fun w hw => ?_
  refine Leads.bind (Q := fun _ => Fresh generation) (leads_modify ?_) fun _ => ?_
  · rintro _ rfl
    exact ⟨hw.accounted.quietly ⟨.refl _, le_refl _, rfl, rfl, .refl _⟩, hw.current,
      hw.unused, hw.empty, hw.untriggered⟩
  · exact (accounted_send_schedule _ _ _ _ _).bind fun _ => leads_pure fun _ h => h

theorem accounted_forecast (identity : AutoloopExecutionIdentity) (target : AutoloopTarget)
    (trigger_delay : Duration) (bpm : UInt32) :
    Keeps Accounted (forecast identity target trigger_delay bpm : Method ε Unit) := by
  refine Keeps.bind (keeps_accounted fun _ => quietly_instant_now) fun now => ?_
  refine keeps_get_bind fun _ _ => ?_
  split
  · split
    · exact keeps_pure _
    split
    · exact keeps_accounted fun _ => quietly_retime _ _ _
    · exact keeps_pure _
  · refine Keeps.bind (keeps_accounted fun _ => quietly_status) fun lane_before => ?_
    intro w h
    rw [get_bind_run]
    split
    · exact h
    rename_i executor schedule hschedule
    refine accounted_scheduled h hschedule (accounted_fail identity) fun generation => ?_
    refine Leads.bind (Q := fun _ => Fresh generation) ?_ fun bank_deadline => ?_
    · refine leads_of_state (fun w hw => ?_) fun _ h => h.accounted
      split
      · unfold bank_deadline_for
        split
        · exact hw
        · exact fresh_midi (fun _ => keeps_instant_now) w hw
      · exact hw
    refine (accounted_send_schedule _ _ _ _ _).bind fun sent => ?_
    refine leads_of_state (fun w hw => ?_) fun _ h => h
    split
    · exact hw.quietly ⟨.refl _, le_refl _, rfl, rfl, .refl _⟩
    · exact hw

theorem accounted_observe_exact_live_beat (state : RuntimeState) (deck_id : DeckId)
    (absolute_beat : UInt32) :
    Keeps Accounted
      (observe_exact_live_beat state deck_id absolute_beat : Method ε Unit) := by
  have hcancel : Keeps Accounted (cancel_future_autoloop_deadline : Method ε Unit) :=
    keeps_accounted fun _ => quietly_cancel_future
  refine Keeps.bind (keeps_accounted fun _ => quietly_aside fun w => ?_) fun _ => ?_
  · exact aside_update_initial_launch state w
  refine accounted_complete_if_emitted.bind fun _ => ?_
  refine keeps_get_bind fun _ _ => ?_
  split
  · exact hcancel
  split
  · split
    · refine Keeps.bind (keeps_accounted fun _ => quietly_instant_now) fun now => ?_
      exact keeps_accounted fun _ => quietly_retime _ _ _
    · exact keeps_pure _
  · split
    · exact hcancel
    split
    · exact hcancel
    split
    · exact keeps_pure _
    dsimp only
    split
    · exact accounted_forecast _ _ _ _
    · exact keeps_pure _

theorem accounted_execute_cue : Keeps Accounted (execute_cue request) := by
  refine (Call.keeps_lift _).bind fun target => ?_
  refine Keeps.bind ?_ fun _ =>
    keeps_accounted fun _ => quietly_execute_static_look_transition request
  unfold execute_ready_autoloop
  split
  · exact keeps_pure _
  refine Keeps.bind (keeps_accounted fun _ => quietly_ensure_lighting_midi.is_ok) fun _ => ?_
  refine Keeps.bind (keeps_accounted fun _ => quietly_status) fun _ => ?_
  split
  · exact accounted_execute_autoloop request _ _
  · exact keeps_pure _

theorem accounted_service_pending_autoloop :
    Keeps Accounted (service_pending_autoloop : Method ε Unit) := by
  refine accounted_complete_if_emitted.bind fun _ => keeps_modify fun w h => ?_
  refine h.quietly ?_
  split <;> exact ⟨.refl _, le_refl _, rfl, rfl, .refl _⟩

theorem accounted_new : Accounted .new where
  counted := Nat.le_refl 0
  bounded := rfl
  executions := nofun
  distinct := List.nodup_nil
  triggered := nofun
  announced := by
    rintro identity (h | ⟨_, h⟩) <;> cases h
  settled := nofun

end OutputWorker

open OutputWorker

theorem accounted_tended : Tended Accounted where
  aside w _ ha h := h.quietly (Quietly.aside (.refl w) ha)
  schedule _ _ h := h.quietly ⟨.refl _, le_refl _, rfl, rfl, .refl _⟩
  tick _ _ h := h.quietly ⟨Lane.follows_tick _ _, le_refl _, rfl, rfl, .refl _⟩
  ensure_output_closed := keeps_accounted fun _ => quietly_ensure_output_closed
  execute_cue := accounted_execute_cue
  begin_autoloop_execution_epoch cause := keeps_accounted fun _ => quietly_begin_epoch cause
  invalidate_autoloop_deadline _ := keeps_accounted fun _ => quietly_invalidate
  observe_exact_live_beat := accounted_observe_exact_live_beat
  service_pending_autoloop := accounted_service_pending_autoloop
  ensure_lighting_midi := keeps_accounted fun _ => quietly_ensure_lighting_midi
  publish_midi := keeps_accounted fun _ => quietly_publish_midi
  stop_midi := keeps_accounted fun _ => quietly_stop_midi
  toggle_static_look_manually number :=
    keeps_accounted fun _ => quietly_toggle_static_look_manually number

/-! ## The law of completions -/

/-- After every run of the engine and the lane, what the executor announced was completed, every
generation went to the lane for one execution, and every completion has a trigger that had gone
out, if the lane was not disturbed between the look and the new generation. -/
theorem a_completion_follows_its_trigger_when_the_lane_is_undisturbed {stack : Nat}
    {catalog : lumi_library.AutoloopCatalog} {library : LibraryWorker} {r : EngineRuntime}
    (hr : (EngineRuntime.engine stack catalog library).Reachable r) :
    (∀ identity, Announced r.output_worker.autoloop_executor identity →
      ∃ completion ∈ r.output_worker.completed_executions, completion.identity = identity) ∧
    (r.output_worker.scheduled_executions.map (·.generation)).Nodup ∧
    ∀ completion ∈ r.output_worker.completed_executions, Settled r.output_worker completion := by
  have h := accounted_tended.reachable accounted_new hr
  exact ⟨h.announced, h.distinct, h.settled⟩

/-- The lane is never ahead of the engine: it counts no pulse that did not go out, and it has
carried out nothing of a generation that the engine has not come to. -/
theorem the_lane_is_never_ahead_of_the_engine (stack : Nat) (catalog : lumi_library.AutoloopCatalog)
    (library : LibraryWorker) (happenings : List EngineRuntime.Happening) :
    let r := (EngineRuntime.engine stack catalog library).run happenings
    r.lane.status.emitted_count.toNat ≤ Lane.pulses r.lane.dispatches ∧
      ∀ record ∈ r.lane.dispatches, record.generation ≤ r.output_worker.realtime_generation := by
  intro r
  have h : Accounted r.output_worker :=
    accounted_tended.reachable accounted_new (Machine.reachable_run happenings)
  refine ⟨(Nat.le_add_right _ _).trans h.counted, fun record hrecord => ?_⟩
  have hnone := (Nat.add_eq_zero_iff.mp h.bounded).2
  simpa using List.countP_eq_zero.mp hnone record hrecord

namespace sample

open EngineRuntime

/-- The trigger of the second phrase has fallen due, and the lane has it in its hands. -/
def falls_due : List Happening :=
  forecast ++ serve 5 ++ [.Lane ⟨Duration.from_millis 3000, none⟩, .Lane ⟨0, none⟩]

/-- The trigger goes out, and the engine looks at the lane. -/
def sent : List Happening := falls_due ++ serve 10 ++ [.Engine .ServicePendingAutoloop []]

/-- The leader is set back to its first phrase while the lane has the old trigger in its hands;
then the lane sends it, and the engine looks at the lane. -/
def set_back : List Happening :=
  falls_due ++ [observe 6 (.PlaybackPositionSeeked ⟨1⟩ ⟨10⟩ 2)] ++ serve 6 ++
    [.Engine .ServicePendingAutoloop []]

end sample

open sample in
theorem a_forecast_is_completed_after_its_trigger :
    (show_engine.run sent).output_worker.completed_executions ≠ [] ∧
      ∀ completion ∈ (show_engine.run sent).output_worker.completed_executions,
        Settled (show_engine.run sent).output_worker completion :=
  ⟨by decide +kernel,
    (a_completion_follows_its_trigger_when_the_lane_is_undisturbed (reachable_run sent)).2.2⟩

open sample in
/-- The first phrase is announced, and the lane has sent nothing of its generation. -/
theorem a_seek_announces_a_trigger_that_did_not_go_out :
    ∃ completion ∈ (show_engine.run set_back).output_worker.completed_executions,
      (show_engine.run set_back).output_worker.autoloop_executor.state.is_completed
        completion.identity = true ∧
      ∃ execution ∈ (show_engine.run set_back).output_worker.scheduled_executions,
        completion.execution = some execution ∧ execution.identity = completion.identity ∧
        ∀ record ∈ (show_engine.run set_back).lane.dispatches,
          record.generation ≠ execution.generation := by
  decide +kernel

end lumi_engine
