-- The decks that do not lead: what they report reaches neither the AutoLoops
-- that are pending for the leader nor the executor, but for one report. The
-- position of any deck ends the forecast for the leader.
import Lumi.Engine.Runs

open rust replay lumi_domain lumi_midi_output

namespace lumi_engine

/-! ## The transport of the output worker -/

/-- The executor, the forecast and the generation are as they were, and the lane got nothing from
the engine: what moved there, the lane moved itself. -/
structure Untouched (w w' : OutputWorker) : Prop where
  state : w'.autoloop_executor.state = w.autoloop_executor.state
  epoch : w'.autoloop_executor.execution_epoch = w.autoloop_executor.execution_epoch
  forecast : w'.scheduled_future_autoloop = w.scheduled_future_autoloop
  generation : w'.realtime_generation = w.realtime_generation
  lane : ∃ looks, w'.midi_output = RealtimeMidiController.elapse^[looks] w.midi_output

variable {w w' : OutputWorker} {s : RuntimeState} {src : SourceId} {t : MonotonicTime}
  {o : DeckObservation} {executor : AutoloopCueExecutor} {count : UInt64} {a : DeckId}

theorem SameTransport.untouched (h : SameTransport w w') : Untouched w w' :=
  ⟨by rw [h.executor], by rw [h.executor], h.forecast, h.generation, 0, h.midi⟩

/-! ## What a deck reports -/

/-- The deck that an observation is about. A change of the leader is about all of them. -/
def observed_deck : DeckObservation → Option DeckId
  | .TrackLoaded d _ _ | .TrackUnloaded d _ | .TrackMetadataHydrated d _ _
  | .PlaybackPosition d _ _ | .PlaybackPositionSeeked d _ _ | .PhraseChanged d _ _
  | .PlaybackTempoChanged d _ _ | .PlaybackStateChanged d _ _ => some d
  | .SourceStatusChanged _ | .LeaderChanged _ _ => none

/-- An observation tries to execute a phrase of the deck that it is about. -/
theorem settle_attempt_deck {d a : DeckId} {l : TrackLoadId} {i : UInt16}
    (hd : observed_deck o = some d) (h : (settle s src t o).attempt = some (a, l, i)) : a = d := by
  cases o <;> simp only [observed_deck, Option.some.injEq, reduceCtorEq] at hd
  all_goals
    subst hd
    simp only [settle, mismatch] at h
    repeat' split at h
  all_goals simp_all

/-- The deck leads after an observation about it if it led before. -/
theorem settle_leader {d : DeckId} (hd : observed_deck o = some d)
    (hlead : s.leader_deck ≠ some d) : (settle s src t o).state.leader_deck = s.leader_deck := by
  cases o <;> simp only [observed_deck, Option.some.injEq, reduceCtorEq] at hd
  all_goals
    subst hd
    simp only [settle, mismatch, load_track_eq, unloaded_eq, forget_cue_of_eq,
      RuntimeState.put_deck]
    repeat' split
  all_goals try rfl
  rcases hl : s.leader_deck with _ | a
  · rfl
  rw [hl] at hlead
  simpa using hlead

variable {e : ObservationEnvelope} {d : DeckId} (hd : observed_deck e.observation = some d)
  (hlead : s.leader_deck ≠ some d)
include hd hlead

/-- A deck that does not lead gets no cue out, and it does not become the leader. -/
theorem reduce_of_other_deck {red : Reduction} (h : reduce s (.Observation e) = .ok red) :
    red.effects = [] ∧ red.state.leader_deck = s.leader_deck := by
  obtain ⟨r0, n, revision, hdoes, _, _, rfl⟩ := reduce_does h
  have hsettled : (settledOf s e).state.leader_deck = s.leader_deck := settle_leader hd hlead
  cases hdoes with
  | stale | regressed => exact ⟨rfl, rfl⟩
  | settled => exact ⟨rfl, hsettled⟩
  | scheduled _ _ ha hx =>
    obtain ⟨p, c, k, ⟨hleads, _⟩, _⟩ := hx
    rw [settle_attempt_deck hd ha, hsettled] at hleads
    exact absurd hleads hlead

/-- No transport of the leader begins or ends with another deck. -/
theorem meet_transport_of_other : EngineRuntime.meet_transport s (.Observation e) = pure () := by
  have hcause : transport_epoch_cause s (.Observation e) = none := by
    cases ho : e.observation with
    | PlaybackStateChanged a l playing =>
      rw [ho] at hd
      cases hd
      cases playing <;> simp [transport_epoch_cause, ho, hlead]
    | _ =>
      rw [ho] at hd
      cases hd <;> simp [transport_epoch_cause, ho, hlead]
  have hstops : stops_live_transport s (.Observation e) = false := by
    cases ho : e.observation with
    | PlaybackStateChanged a l playing =>
      rw [ho] at hd
      cases hd
      cases playing <;> simp [stops_live_transport, ho, hlead]
    | _ => simp [stops_live_transport, ho]
  unfold EngineRuntime.meet_transport
  rw [hcause, hstops]
  rfl

omit hd hlead

/-! ## The position of another deck -/

/-- The count at which the executor takes its trigger for sent is reached. -/
def is_emitted (executor : AutoloopCueExecutor) (lane_emitted_count : UInt64) : Bool :=
  match executor.state with
  | .Triggered _ _ expected => expected ≤ lane_emitted_count
  | _ => false

theorem complete_if_emitted_of_not (h : is_emitted executor count = false) :
    executor.complete_if_emitted count = executor := by
  unfold AutoloopCueExecutor.complete_if_emitted
  unfold is_emitted at h
  split
  · rename_i identity target expected hs
    simp only [hs, decide_eq_false_iff_not] at h
    rw [if_neg h]
  · rfl

theorem complete_if_emitted_changes (h : is_emitted executor count = true) :
    (executor.complete_if_emitted count).state ≠ executor.state := by
  unfold AutoloopCueExecutor.complete_if_emitted
  unfold is_emitted at h
  split at h
  · rename_i identity target expected hs
    simp only [decide_eq_true_eq] at h
    simp [hs, h]
  · cases h

namespace OutputWorker

variable {ε : Type}

/-- The worker after it has looked at what the lane sent. -/
def noticed (state : RuntimeState) (w : OutputWorker) : OutputWorker :=
  let w := update_initial_launch state w
  let lane_emitted_count := w.midi_output.elapse.lane.status.emitted_count
  { log_completion lane_emitted_count { w with midi_output := w.midi_output.elapse } with
    autoloop_executor := w.autoloop_executor.complete_if_emitted lane_emitted_count }

theorem noticed_forecast (state : RuntimeState) (h : SameTransport w w') :
    (noticed state w').scheduled_future_autoloop = w.scheduled_future_autoloop := by
  rw [← h.forecast]
  exact (update_initial_launch_same state w').forecast

/-- The look leaves everything as it was, unless a trigger turns out to be sent. -/
theorem noticed_untouched (state : RuntimeState) (h : SameTransport w w') :
    Untouched w (noticed state w') ↔
      is_emitted w.autoloop_executor w.midi_output.elapse.lane.status.emitted_count = false := by
  have hlaunch := update_initial_launch_same state w'
  have hmidi : (noticed state w').midi_output = w.midi_output.elapse := by
    rw [← h.midi, ← hlaunch.midi]
    rfl
  have hexecutor : (noticed state w').autoloop_executor =
      w.autoloop_executor.complete_if_emitted
        w.midi_output.elapse.lane.status.emitted_count := by
    rw [← h.midi, ← hlaunch.midi, ← h.executor, ← hlaunch.executor]
    rfl
  cases he : is_emitted w.autoloop_executor w.midi_output.elapse.lane.status.emitted_count with
  | true =>
    refine iff_of_false (fun hu => ?_) (by simp)
    have hstate := hu.state
    rw [hexecutor] at hstate
    exact complete_if_emitted_changes he hstate
  | false =>
    rw [complete_if_emitted_of_not he] at hexecutor
    refine iff_of_true
        ⟨by rw [hexecutor], by rw [hexecutor], noticed_forecast state h, ?_, 1, hmidi⟩
      rfl
    rw [← h.generation]
    exact hlaunch.generation

/-- For a deck without a live plan, the worker looks at the lane and ends the forecast. -/
theorem observe_of_no_plan {state : RuntimeState} {d : DeckId} (beat : UInt32) (w : OutputWorker)
    (h : live_plan state d = none) :
    (observe_exact_live_beat state d beat : Method ε Unit).run w =
      (cancel_future_autoloop_deadline : Method ε Unit).run (noticed state w) := by
  unfold observe_exact_live_beat
  rw [h]
  rfl

theorem cancel_future_of_none (h : w.scheduled_future_autoloop = none) :
    (cancel_future_autoloop_deadline : Method ε Unit).run w = (w, .ok ()) := by
  unfold cancel_future_autoloop_deadline
  rw [Call.get_bind_run, h]
  rfl

/-- Whatever becomes of the lane, the forecast is gone. -/
theorem cancel_future_ends (w : OutputWorker) :
    ((cancel_future_autoloop_deadline : Method ε Unit).run w).1.scheduled_future_autoloop =
      none := by
  rcases h : w.scheduled_future_autoloop with _ | scheduled
  · rw [cancel_future_of_none h]
    exact h
  have hgone : Call.Keeps (fun w : OutputWorker => w.scheduled_future_autoloop = none)
      (do
        if (← Call.get).autoloop_executor.state.is_completed scheduled.identity then pure ()
        else do
          let _ ← begin_realtime_generation
          try_cancel_all
          on_executor (·.cancel_pending) : Method ε Unit) := by
    refine Call.keeps_get_bind fun _ _ => ?_
    split
    · exact Call.keeps_pure _
    refine Call.Keeps.bind ?_ fun _ => ?_
    · refine Call.keeps_get_bind fun _ _ => ?_
      split
      · exact Call.keeps_pure _
      refine Call.Keeps.bind (Call.keeps_modify fun _ h => h) fun _ => ?_
      refine Call.Keeps.bind (fun _ h => h) fun _ => ?_
      split <;> exact Call.keeps_pure _
    · refine Call.Keeps.bind (Call.Keeps.bind (fun _ h => h) fun _ => Call.keeps_pure _) ?_
      exact fun _ _ h => h
  unfold cancel_future_autoloop_deadline
  rw [Call.get_bind_run, h]
  exact hgone _ rfl

end OutputWorker

/-! ## The report of another deck -/

namespace EngineRuntime

/-- The engine is in order, and the transport is the one of the worker. -/
def KeepsTransport (w : OutputWorker) (r : EngineRuntime) : Prop :=
  InOrder r ∧ SameTransport w r.output_worker

theorem keepsTransport_bystander (w : OutputWorker) : Bystander (KeepsTransport w) where
  in_order _ h := h.1
  planning _ _ h := h
  looks _ _ h := ⟨h.1, h.2.executor, h.2.forecast, h.2.generation, h.2.midi⟩
  planned r e red h he := ⟨inOrder_bystander.planned r e red h.1 he, h.2⟩

variable {r : EngineRuntime}

/-- The reducer's half of the event leaves the transport alone. It is refused, or it goes on with
the leader that was there. -/
theorem reduce_source_event_of_other (hin : InOrder r) (hd : observed_deck e.observation = some d)
    (hlead : r.state.state.leader_deck ≠ some d) (activates : Bool) :
    ∃ r', KeepsTransport r.output_worker r' ∧
      ((∃ error, reduce r.state.state (.Observation e) = .error error ∧
          (reduce_source_event r.state.state activates (.Observation e)).run r =
            (r', .err (.DomainRuntime (.Reducer error)))) ∨
        (∃ red, reduce r.state.state (.Observation e) = .ok red) ∧
          r'.state.state.leader_deck = r.state.state.leader_deck ∧
          (reduce_source_event r.state.state activates (.Observation e)).run r = (r', .ok ())) := by
  obtain ⟨r1, hstate, hsame, hrun⟩ : ∃ r1 : EngineRuntime, r1.state = r.state ∧
      SameTransport r.output_worker r1.output_worker ∧
      (reduce_source_event r.state.state activates (.Observation e)).run r =
        (process_domain_event (.Observation e)).run r1 := by
    unfold reduce_source_event
    rw [meet_transport_of_other hd hlead, Call.pure_bind_run]
    cases activates with
    | false => exact ⟨r, rfl, .refl _, rfl⟩
    | true =>
      refine ⟨{ r with output_worker := r.output_worker.activate_pending_timing_offset }, rfl, ?_,
        rfl⟩
      unfold OutputWorker.activate_pending_timing_offset
      split <;> exact ⟨rfl, rfl, rfl, rfl⟩
  have hin1 : InOrder r1 := by
    unfold InOrder
    rw [hstate]
    exact hin
  rw [hrun]
  rcases he : reduce r.state.state (.Observation e) with error | red
  · rw [← hstate] at he
    exact ⟨r1, ⟨hin1, hsame⟩, .inl ⟨error, rfl, process_domain_event_refused hin1 he⟩⟩
  obtain ⟨heffects, hleader⟩ := reduce_of_other_deck hd hlead he
  have hreach : reducer.Reachable red.state := by
    have hstep := Machine.reachable_step (m := reducer) hin.reachable (.Observation e)
    rwa [Machine.step_ok (m := reducer) he] at hstep
  rw [← hstate] at he
  refine ⟨{ r1 with state := ⟨red.state, idle_queue⟩ }, ⟨⟨rfl, hreach⟩, hsame⟩,
    .inr ⟨⟨red, rfl⟩, hleader, ?_⟩⟩
  rw [process_domain_event_accepted hin1 he, heffects]
  rfl

/-- The report of another deck that is not a position. -/
theorem follow_of_no_beat (hbeat : exact_live_beat (.Observation e) = none) (stack : Nat)
    (self : EngineRuntime) (activates : Bool) (leader : Option DeckId) :
    Call.Keeps (KeepsTransport w)
      (follow_source_event stack self activates (.Observation e) leader) := by
  refine (keepsTransport_bystander w).plans.keeps_follow ?_ _ _ _
  unfold observe_beat
  rw [hbeat]
  exact Call.keeps_pure _

/-- The position of another deck. -/
theorem follow_of_beat {beat : UInt32} (hbeat : exact_live_beat (.Observation e) = some (a, beat))
    (hlead : r.state.state.leader_deck ≠ some a) (stack : Nat) (self : EngineRuntime)
    (leader : Option DeckId) :
    ((follow_source_event stack self
        (activates_pending_timing self.state.state leader (.Observation e)) (.Observation e)
        leader).run r).1.output_worker =
      ((OutputWorker.cancel_future_autoloop_deadline :
        OutputWorker.Method EngineError Unit).run
          (r.output_worker.noticed r.state.state)).1 := by
  obtain ⟨l, ho⟩ : ∃ l, e.observation = .PlaybackPosition a l beat := by
    cases ho : e.observation <;> simp only [exact_live_beat, ho, reduceCtorEq] at hbeat
    cases hbeat
    exact ⟨_, rfl⟩
  have hplan : OutputWorker.live_plan r.state.state a = none := by
    unfold OutputWorker.live_plan
    rw [if_pos (.inr hlead)]
  have hreplaced : replaced_reservation self.state.state (.Observation e) = none := by
    simp only [replaced_reservation, ho]
  have hactivates :
      activates_pending_timing self.state.state leader (.Observation e) = false := by
    simp only [activates_pending_timing, ho]
  have hinput : planning_input self.planning_worker (.Observation e) = none := by
    simp only [planning_input, ho]
  have hobserve := OutputWorker.observe_of_no_plan (ε := EngineError) beat r.output_worker hplan
  unfold follow_source_event observe_beat
  rw [hreplaced, hactivates, hinput, hbeat]
  rw [← hobserve]
  rcases Call.bind_cases
    (output (OutputWorker.observe_exact_live_beat r.state.state a beat))
    (fun _ => (pure () : Method EngineError Unit)) r with ⟨error, _, h⟩ | ⟨_, h⟩ | ⟨_, _, h⟩
  all_goals exact congrArg (·.1.output_worker) h

end EngineRuntime

open EngineRuntime

/-- The report is not a position, or the reducer refuses it, or there is no forecast to end and no
sent trigger to notice. -/
def Harmless (r : EngineRuntime) (e : ObservationEnvelope) : Prop :=
  exact_live_beat (.Observation e) = none ∨
    (∃ error, reduce r.state.state (.Observation e) = .error error) ∨
    (r.output_worker.scheduled_future_autoloop = none ∧
      is_emitted r.output_worker.autoloop_executor
        r.output_worker.midi_output.elapse.lane.status.emitted_count = false)

/-- A deck that does not lead leaves the lighting lane alone exactly when its report is
harmless. -/
theorem a_deck_that_does_not_lead_is_isolated_unless_its_position_ends_the_forecast {stack : Nat}
    {catalog : lumi_library.AutoloopCatalog} {library : LibraryWorker} {r : EngineRuntime}
    (hr : (engine stack catalog library).Reachable r) (schedule : List (List Lane.Tick))
    (e : ObservationEnvelope) (leader_deck_id : Option DeckId) {d : DeckId}
    (hd : observed_deck e.observation = some d) (hlead : r.state.state.leader_deck ≠ some d) :
    Untouched (r.with_schedule schedule).output_worker
        ((process_source_event stack (.Observation e) leader_deck_id).run
          (r.with_schedule schedule)).1.output_worker ↔
      Harmless (r.with_schedule schedule) e := by
  have hin : InOrder (r.with_schedule schedule) := by
    have hin := inOrder_reachable hr
    exact hin
  have hlead' : (r.with_schedule schedule).state.state.leader_deck ≠ some d := hlead
  generalize r.with_schedule schedule = r0 at hin hlead' ⊢
  obtain ⟨r1, ⟨hin1, hsame⟩, hrun⟩ := reduce_source_event_of_other hin hd hlead'
    (activates_pending_timing r0.state.state leader_deck_id (.Observation e))
  unfold process_source_event
  rw [Call.get_bind_run]
  rcases hrun with ⟨error, he, hrun⟩ | ⟨⟨red, he⟩, hleader, hrun⟩
  · rw [Call.bind_of_err hrun]
    exact iff_of_true hsame.untouched (.inr (.inl ⟨error, he⟩))
  rw [Call.bind_of_ok hrun]
  rcases hbeat : exact_live_beat (.Observation e) with _ | observed
  · have hkeeps := follow_of_no_beat (w := r0.output_worker) hbeat stack r0
      (activates_pending_timing r0.state.state leader_deck_id (.Observation e)) leader_deck_id
    exact iff_of_true (hkeeps r1 ⟨hin1, hsame⟩).2.untouched (.inl hbeat)
  obtain ⟨a, beat⟩ := observed
  have had : a = d := by
    cases ho : e.observation <;> simp only [exact_live_beat, ho, reduceCtorEq] at hbeat
    rw [ho] at hd
    cases hbeat
    cases hd
    rfl
  subst had
  rw [follow_of_beat hbeat (by rw [hleader]; exact hlead') stack r0 leader_deck_id]
  have hnoticed := OutputWorker.noticed_untouched r1.state.state hsame
  have hforecast := OutputWorker.noticed_forecast r1.state.state hsame
  unfold Harmless
  simp only [hbeat, he, reduceCtorEq, exists_false, false_or]
  cases hf : r0.output_worker.scheduled_future_autoloop with
  | none =>
    rw [hf] at hforecast
    rw [OutputWorker.cancel_future_of_none hforecast, hnoticed]
    simp
  | some scheduled =>
    refine iff_of_false (fun h => ?_) (by simp)
    have hend := h.forecast
    rw [OutputWorker.cancel_future_ends, hf] at hend
    cases hend

namespace sample

theorem reachable_run (happenings : List Happening) :
    (engine 1 catalog library).Reachable (show_engine.run happenings) :=
  Machine.reachable_run happenings

/-- The second deck, which does not lead, is at the beat 5. -/
def other_position : ObservationEnvelope := ⟨⟨1⟩, ⟨6⟩, ⟨6⟩, .PlaybackPosition ⟨2⟩ ⟨20⟩ 5⟩

end sample

open sample

/-- While nothing is forecast, the position of the second deck is harmless. -/
theorem a_position_without_a_forecast_leaves_the_lane_alone :
    (show_engine.run playing).state.state.leader_deck ≠ some ⟨2⟩ ∧
      Untouched (show_engine.run playing).output_worker
        ((process_source_event 1 (.Observation other_position) (some ⟨1⟩)).run
          (show_engine.run playing)).1.output_worker := by
  have hlead : (show_engine.run playing).state.state.leader_deck ≠ some ⟨2⟩ := by decide +kernel
  refine ⟨hlead, ?_⟩
  refine (a_deck_that_does_not_lead_is_isolated_unless_its_position_ends_the_forecast
    (reachable_run playing) [] other_position (some ⟨1⟩) rfl hlead).mpr (.inr (.inr ?_))
  decide +kernel

/-- A trigger for the leader is forecast. The position of the second deck ends the forecast, and
the lane, once served, has the trigger no more. -/
theorem a_position_of_another_deck_drops_the_trigger_of_the_leader :
    (show_engine.run forecast).state.state.leader_deck ≠ some ⟨2⟩ ∧
      ¬ Untouched (show_engine.run forecast).output_worker
        ((process_source_event 1 (.Observation other_position) (some ⟨1⟩)).run
          (show_engine.run forecast)).1.output_worker ∧
      (show_engine.run (forecast ++ serve 12)).lane.scheduled.any (·.action.is_trigger) = true ∧
      (show_engine.run (forecast ++ .Engine (.SourceEvent other_position (some ⟨1⟩)) [] ::
        serve 12)).lane.scheduled = [] := by
  refine ⟨by decide +kernel, fun h => ?_, by decide +kernel, by decide +kernel⟩
  have hforecast := h.forecast
  revert hforecast
  decide +kernel

end lumi_engine
