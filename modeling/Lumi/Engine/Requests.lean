-- What the engine asks of its parts, step by step: a condition that the output
-- worker keeps at every request, the reducer at every event and the planning of
-- a load at every turn holds after every run of the engine and the lane.
import Lumi.Engine.Commands

open rust replay lumi_domain lumi_library lumi_light_plans lumi_midi_output lumi_planner
open Call (Keeps keeps_get_bind keeps_lift keeps_modify keeps_pure)

namespace lumi_engine

/-! ## Requests to the output worker -/

/-- The two workers agree on the executor, the forecast, the generation and the lane. -/
structure SameTransport (w w' : OutputWorker) : Prop where
  executor : w'.autoloop_executor = w.autoloop_executor
  forecast : w'.scheduled_future_autoloop = w.scheduled_future_autoloop
  generation : w'.realtime_generation = w.realtime_generation
  midi : w'.midi_output = w.midi_output

theorem SameTransport.refl (w : OutputWorker) : SameTransport w w := ⟨rfl, rfl, rfl, rfl⟩

/-- The two workers differ in nothing that has to do with the lane. -/
structure Aside (w w' : OutputWorker) : Prop extends SameTransport w w' where
  scheduled : w'.scheduled_executions = w.scheduled_executions
  completed : w'.completed_executions = w.completed_executions

namespace OutputWorker

/-- The lane is served otherwise while the next step runs. -/
def with_schedule (self : OutputWorker) (schedule : List (List Lane.Tick)) : OutputWorker :=
  { self with midi_output := { self.midi_output with schedule } }

def tick_lane (self : OutputWorker) (tick : Lane.Tick) : OutputWorker :=
  { self with midi_output := { self.midi_output with lane := self.midi_output.lane.tick tick } }

/-- The launch gate is not a part of the transport. -/
theorem update_initial_launch_same (state : RuntimeState) (w : OutputWorker) :
    SameTransport w (update_initial_launch state w) := by
  unfold update_initial_launch
  split
  · exact .refl w
  · split <;> exact ⟨rfl, rfl, rfl, rfl⟩

end OutputWorker

theorem aside_update_initial_launch (state : RuntimeState) (w : OutputWorker) :
    Aside w (w.update_initial_launch state) := by
  refine ⟨OutputWorker.update_initial_launch_same state w, ?_, ?_⟩
  all_goals
    unfold OutputWorker.update_initial_launch
    split
    · rfl
    · split <;> rfl

/-- A condition on the output worker that it keeps whatever it is asked, and that the lane
keeps. -/
structure Tended (J : OutputWorker → Prop) : Prop where
  aside : ∀ w w', Aside w w' → J w → J w'
  schedule : ∀ w schedule, J w → J (OutputWorker.with_schedule w schedule)
  tick : ∀ w tick, J w → J (OutputWorker.tick_lane w tick)
  ensure_output_closed :
    Keeps J (OutputWorker.ensure_output_closed : OutputWorker.Method EngineError Unit)
  execute_cue : ∀ request, Keeps J (OutputWorker.execute_cue request)
  begin_autoloop_execution_epoch : ∀ cause,
    Keeps J (OutputWorker.begin_autoloop_execution_epoch cause)
  invalidate_autoloop_deadline : ∀ ε : Type,
    Keeps J (OutputWorker.invalidate_autoloop_deadline : OutputWorker.Method ε Unit)
  observe_exact_live_beat : ∀ state deck_id beat, Keeps J
    (OutputWorker.observe_exact_live_beat state deck_id beat : OutputWorker.Method EngineError Unit)
  service_pending_autoloop : Keeps J
    (OutputWorker.service_pending_autoloop : OutputWorker.Method CommandApplicationError Unit)
  ensure_lighting_midi : Keeps J OutputWorker.ensure_lighting_midi
  publish_midi : Keeps J OutputWorker.publish_midi
  stop_midi : Keeps J
    (OutputWorker.stop_midi : OutputWorker.Method CommandApplicationError Unit)
  toggle_static_look_manually : ∀ static_look_number,
    Keeps J (OutputWorker.toggle_static_look_manually static_look_number)

open EngineRuntime

variable {I : EngineRuntime → Prop} {J : OutputWorker → Prop} {ε α : Type} {stack : Nat}

/-! ## Planning a load -/

/-- A condition that the planning of a load keeps: with each turn of the planning worker, with the
looks of the load, and with the result that the reducer hears. -/
structure Plans (I : EngineRuntime → Prop) (stack : Nat) : Prop where
  sequenced : ∀ r n, I r → I { r with planning_worker.effect_sequence := n }
  released : ∀ r l, I r → I { r with planning_worker := r.planning_worker.release_load l }
  committed : ∀ r l, I r → I { r with planning_worker := r.planning_worker.commit_load l }
  forgotten : ∀ r l, I r → I { r with planning_worker := r.planning_worker.forget_plan l }
  reserved : ∀ r plan, I r → I { r with planning_worker := r.planning_worker.reserve_theme plan }
  materialized : ∀ r generated worker plan, I r →
    r.planning_worker.materialize_library_plan stack generated = .ok (worker, plan) →
    ∀ r', I r' → I { r' with planning_worker := worker }
  looks : ∀ r plans, I r → I { r with output_worker.static_look_plans := plans }
  result : ∀ e, Keeps I (process_domain_event (.EffectResult e))

namespace Plans

variable (hp : Plans I stack)
include hp

theorem keeps_plan_load (t : MonotonicTime) (input : PlanningInput) :
    Keeps I (plan_load stack t input) := by
  refine keeps_get_bind fun _ _ => ?_
  refine (keeps_lift _).bind fun sequence => ?_
  refine Keeps.bind (keeps_modify fun r => hp.sequenced r _) fun _ => ?_
  refine keeps_get_bind fun r hr => ?_
  refine (keeps_lift _).bind fun generated => ?_
  cases generated with
  | none =>
    refine Keeps.bind (keeps_modify fun r => hp.forgotten r _) fun _ => ?_
    exact fun r => hp.looks r _
  | some generated =>
    refine Call.keeps_lift_bind ?_
    rintro ⟨worker, plan⟩ hmat
    refine Keeps.bind (keeps_modify (hp.materialized r _ _ _ hr hmat)) fun _ => ?_
    refine keeps_get_bind fun _ _ => ?_
    refine Keeps.bind (fun r => hp.looks r _) fun _ => ?_
    exact Keeps.bind (keeps_modify fun r => hp.reserved r _) fun _ => hp.result _

/-- After the reducer, only the beat of a position reaches the transport. -/
theorem keeps_follow {e : DomainEvent} (hbeat : Keeps I (observe_beat e))
    (self : EngineRuntime) (activates : Bool) (leader : Option DeckId) :
    Keeps I (follow_source_event stack self activates e leader) := by
  refine Keeps.bind ?_ fun _ => ?_
  · unfold release_replaced
    split
    · exact keeps_pure _
    refine Keeps.bind (keeps_modify fun r => hp.released r _) fun _ => ?_
    exact fun r => hp.looks r _
  refine Keeps.bind (Keeps.when _ ?_) fun _ => ?_
  · refine keeps_get_bind fun _ _ => ?_
    dsimp only
    split
    · exact keeps_pure _
    · exact keeps_modify fun r => hp.committed r _
  refine hbeat.bind fun _ => ?_
  split
  · exact keeps_pure _
  · exact hp.keeps_plan_load _ _

end Plans

/-! ## The steps of the engine -/

/-- A condition that the output worker keeps, whatever the rest of the engine, and that the events
of the reducer keep. -/
structure Served (I : EngineRuntime → Prop) : Prop where
  output : ∀ r : EngineRuntime, Tended fun w => I { r with output_worker := w }
  numbered : ∀ r n, I r → I { r with operation_sequence := n }
  submit : ∀ e, Keeps I (runtime (submit_and_process e))

namespace Served

variable (hs : Served I)
include hs

theorem keeps_output {call : Call OutputWorker ε α} (h : ∀ J, Tended J → Keeps J call) :
    Keeps I (EngineRuntime.output call) :=
  fun r => h _ (hs.output r) r.output_worker

theorem keeps_aside {f : OutputWorker → OutputWorker} (h : ∀ w, Aside w (f w)) :
    Keeps I (EngineRuntime.output (Call.modify f) : Method ε Unit) :=
  hs.keeps_output fun _ hJ w => hJ.aside w _ (h w)

theorem keeps_process_domain_event (e : DomainEvent) : Keeps I (process_domain_event e) := by
  refine (hs.submit e).bind fun processed => ?_
  refine Keeps.for_each ?_ processed.effects
  intro effect
  refine Keeps.bind ?_ ?_
  · unfold perform
    split
    · refine Keeps.bind (hs.keeps_output fun _ hJ => ?_) fun _ => keeps_pure _
      exact hJ.ensure_output_closed
    refine keeps_get_bind fun _ _ => ?_
    refine (hs.keeps_aside fun w => aside_update_initial_launch _ w).bind fun _ => ?_
    refine keeps_get_bind fun _ _ => ?_
    dsimp only
    split
    · refine Keeps.bind (hs.keeps_output fun _ hJ => ?_) fun _ => keeps_pure _
      exact hJ.execute_cue _
    · exact keeps_pure _
  · rintro ⟨result, completed_at⟩
    refine keeps_get_bind fun _ _ => ?_
    refine (keeps_lift _).bind fun sequence => ?_
    refine Keeps.bind (hs.keeps_aside fun w => ?_) fun _ => ?_
    · exact ⟨⟨rfl, rfl, rfl, rfl⟩, rfl, rfl⟩
    · exact (hs.submit _).bind fun _ => keeps_pure _

theorem keeps_reduce (s : RuntimeState) (activates : Bool) (e : DomainEvent) :
    Keeps I (reduce_source_event s activates e) := by
  refine Keeps.bind ?_ fun _ => ?_
  · unfold meet_transport
    split
    · exact hs.keeps_output fun _ hJ => hJ.begin_autoloop_execution_epoch _
    split
    · refine hs.keeps_output fun _ hJ => (hJ.invalidate_autoloop_deadline _).bind fun _ => ?_
      exact keeps_modify fun w => hJ.aside w _ ⟨⟨rfl, rfl, rfl, rfl⟩, rfl, rfl⟩
    · exact keeps_pure _
  refine Keeps.bind (Keeps.when _ (hs.keeps_aside fun w => ?_)) fun _ =>
    hs.keeps_process_domain_event e
  unfold OutputWorker.activate_pending_timing_offset
  split <;> exact ⟨⟨rfl, rfl, rfl, rfl⟩, rfl, rfl⟩

theorem keeps_observe_beat (e : DomainEvent) : Keeps I (observe_beat e) := by
  unfold observe_beat
  split
  · exact keeps_pure _
  refine keeps_get_bind fun _ _ => hs.keeps_output fun _ hJ => ?_
  exact hJ.observe_exact_live_beat _ _ _

theorem keeps_apply_operation_command (t : MonotonicTime) (expected : StateRevision)
    (command : OperationCommand) : Keeps I (apply_operation_command t expected command) := by
  refine keeps_get_bind fun _ _ => ?_
  dsimp only
  split
  · refine (keeps_lift _).bind fun sequence => ?_
    refine Keeps.bind (keeps_modify fun r hr => hs.numbered r sequence hr) fun _ => ?_
    refine Keeps.bind ?_ fun _ => (hs.keeps_process_domain_event _).map_err _
    unfold meet_operation
    split
    · exact hs.keeps_aside fun w => ⟨⟨rfl, rfl, rfl, rfl⟩, rfl, rfl⟩
    · exact hs.keeps_aside fun w => ⟨⟨rfl, rfl, rfl, rfl⟩, rfl, rfl⟩
    · exact hs.keeps_aside fun w => ⟨⟨rfl, rfl, rfl, rfl⟩, rfl, rfl⟩
    · exact (hs.keeps_output fun _ hJ => hJ.begin_autoloop_execution_epoch _).map_err _
  · split
    · exact keeps_lift _
    · exact keeps_lift _

/-- What the parts of the engine keep, all its steps keep. -/
theorem keeps_perform_step (stack : Nat)
    (hfollow : ∀ self activates e leader,
      Keeps I (follow_source_event stack self activates e leader))
    (hedit : ∀ answers context command,
      Keeps I (apply_command stack answers context command))
    (hregister : ∀ r l context, I r →
      I { r with planning_worker := r.planning_worker.register_library_context l context })
    (hpolicy : ∀ r (policy : LightPlanningPolicy), policy.validate = .ok () → I r →
      I { r with planning_worker := r.planning_worker.synchronize_light_policy policy })
    (hcatalog : ∀ r catalog, I r →
      I { r with planning_worker := r.planning_worker.synchronize_themes catalog })
    (step : EngineStep) : Keeps I (perform_step stack step) := by
  cases step with
  | SourceEvent event leader =>
    refine Keeps.map_err ?_ _
    refine keeps_get_bind fun _ _ => ?_
    exact (hs.keeps_reduce _ _ _).bind fun _ => hfollow _ _ _ _
  | Edit answers context command => exact hedit answers context command
  | Operate t expected command => exact hs.keeps_apply_operation_command t expected command
  | SetLaunchPolicy policy expected =>
    refine keeps_get_bind fun _ _ => ?_
    split
    · exact keeps_lift _
    split
    · exact keeps_lift _
    · exact hs.keeps_aside fun w => ⟨⟨rfl, rfl, rfl, rfl⟩, rfl, rfl⟩
  | SetOutputTimingOffset millis leader =>
    refine keeps_get_bind fun _ _ => hs.keeps_aside fun w => ?_
    unfold OutputWorker.request_timing_offset_millis
    dsimp only
    split <;> exact ⟨⟨rfl, rfl, rfl, rfl⟩, rfl, rfl⟩
  | EnsureLightingMidi => exact (hs.keeps_output fun _ hJ => hJ.ensure_lighting_midi).map_err _
  | PublishMidiSource => exact (hs.keeps_output fun _ hJ => hJ.publish_midi).map_err _
  | TriggerMidiStaticLook number =>
    exact (hs.keeps_output fun _ hJ => hJ.toggle_static_look_manually number).map_err _
  | ServicePendingAutoloop => exact hs.keeps_output fun _ hJ => hJ.service_pending_autoloop
  | InvalidateAutoloopDeadline =>
    exact hs.keeps_output fun _ hJ => hJ.invalidate_autoloop_deadline _
  | StopMidiSource => exact hs.keeps_output fun _ hJ => hJ.stop_midi
  | RegisterLibraryContext l context => exact fun r hr => hregister r l context hr
  | ReplaceLightPlanningPolicy policy =>
    simp only [perform_step, replace_light_planning_policy]
    split
    · rename_i hvalid
      exact fun r hr => hpolicy r policy hvalid hr
    · exact keeps_lift _
  | MutateAutoloopCatalog catalog => exact fun r hr => hcatalog r catalog hr

/-- What holds at the start and is kept by every step holds after every run. -/
theorem reachable {catalog : AutoloopCatalog} {library : LibraryWorker} {r : EngineRuntime}
    (hstart : I (start catalog library)) (hstep : ∀ step, Keeps I (perform_step stack step))
    (h : (engine stack catalog library).Reachable r) : I r := by
  refine Machine.reachable_keeps hstart ?_ h
  intro r happening r' hr hnext
  cases hnext
  cases happening with
  | Engine step schedule => exact hstep step _ ((hs.output r).schedule _ schedule hr)
  | Lane tick => exact (hs.output r).tick _ tick hr

end Served

/-- What the worker keeps at every request holds after every run. -/
theorem Tended.reachable (hJ : Tended J) {catalog : AutoloopCatalog} {library : LibraryWorker}
    (hstart : J .new) {r : EngineRuntime} (h : (engine stack catalog library).Reachable r) :
    J r.output_worker := by
  have hs : Served fun r => J r.output_worker := ⟨fun _ => hJ, fun _ _ h => h, fun _ _ h => h⟩
  have hp : Plans (fun r => J r.output_worker) stack :=
    { sequenced := fun _ _ h => h
      released := fun _ _ h => h
      committed := fun _ _ h => h
      forgotten := fun _ _ h => h
      reserved := fun _ _ h => h
      materialized := fun _ _ _ _ _ _ _ h => h
      looks := fun r _ => hJ.aside _ _ ⟨⟨rfl, rfl, rfl, rfl⟩, rfl, rfl⟩
      result := fun _ => hs.keeps_process_domain_event _ }
  refine hs.reachable hstart (hs.keeps_perform_step stack ?_ ?_ ?_ ?_ ?_) h
  · exact fun _ _ e _ => hp.keeps_follow (hs.keeps_observe_beat e) _ _ _
  · intro answers context command
    refine keeps_get_bind fun _ _ => ?_
    refine (keeps_lift _).bind fun edit => ?_
    refine (keeps_lift _).bind fun library_worker => ?_
    refine keeps_modify fun r => hJ.aside r.output_worker _ ?_
    unfold publish_edit OutputWorker.synchronize_static_look_plan
    exact ⟨⟨rfl, rfl, rfl, rfl⟩, rfl, rfl⟩
  · exact fun _ _ _ h => h
  · exact fun _ _ _ h => h
  · exact fun _ _ h => h

end lumi_engine
