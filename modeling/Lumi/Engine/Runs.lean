-- What holds along every run of the engine: the queue is idle between two
-- steps, so that the reducer sees the event that was submitted, and its state
-- is one that a run of the reducer reaches.
import Lumi.Domain.Consistency
import Lumi.Domain.Gate
import Lumi.Engine.Requests

open rust replay lumi_domain lumi_library

namespace lumi_engine

/-! ## The idle queue -/

def idle_queue : BoundedEventQueue := ⟨EVENT_QUEUE_CAPACITY, [], none⟩

/-- With the idle queue, the event that is submitted is the one that is reduced. -/
theorem submit_and_process_idle (s : RuntimeState) (e : DomainEvent) :
    (submit_and_process e).run ⟨s, idle_queue⟩ =
      match reduce s e with
      | .error error => (⟨s, idle_queue⟩, .err (.DomainRuntime (.Reducer error)))
      | .ok r =>
        (⟨r.state, idle_queue⟩, .ok ⟨e.kind, r.state.revision, r.decision, r.effects⟩) := by
  have hsubmit : (SerializedRuntime.submit e).run ⟨s, idle_queue⟩ =
      (⟨s, ⟨EVENT_QUEUE_CAPACITY, [e], none⟩⟩, .ok .Accepted) := rfl
  have hnext : SerializedRuntime.process_next.run ⟨s, ⟨EVENT_QUEUE_CAPACITY, [e], none⟩⟩ =
      match reduce s e with
      | .error error => (⟨s, idle_queue⟩, .err error)
      | .ok r => (⟨r.state, idle_queue⟩,
          .ok (some ⟨e.kind, r.state.revision, r.decision, r.effects⟩)) := rfl
  unfold submit_and_process
  rw [Call.bind_run, Call.map_err_run, hsubmit]
  simp only [Outcome.map_err]
  rw [Call.bind_run, Call.map_err_run, hnext]
  cases reduce s e with
  | error error | ok r => rfl

/-- The queue is idle, and the state is one that the reducer reaches. -/
structure Orderly (r : SerializedRuntime) : Prop where
  idle : r.ingress = idle_queue
  reachable : reducer.Reachable r.state

theorem Orderly.eq {r : SerializedRuntime} (h : Orderly r) : r = ⟨r.state, idle_queue⟩ := by
  cases r
  exact congrArg _ h.idle

theorem orderly_process (e : DomainEvent) : Call.Keeps Orderly (submit_and_process e) := by
  intro r h
  rw [h.eq, submit_and_process_idle]
  cases hr : reduce r.state e with
  | error error => exact ⟨rfl, h.reachable⟩
  | ok red =>
    have hstep := Machine.reachable_step h.reachable e
    rw [Machine.step_ok (m := reducer) hr] at hstep
    exact ⟨rfl, hstep⟩

/-! ## Calls on the parts of the engine -/

namespace EngineRuntime

variable {I : EngineRuntime → Prop}

/-- The part of the engine that the reducer owns is orderly. -/
def InOrder (r : EngineRuntime) : Prop := Orderly r.state

variable {r : EngineRuntime} {e : DomainEvent} {red : Reduction} {stack : Nat}

/-- An event that the reducer refuses changes nothing. -/
theorem process_domain_event_refused {error : ReducerError} (h : InOrder r)
    (he : reduce r.state.state e = .error error) :
    (process_domain_event e).run r = (r, .err (.DomainRuntime (.Reducer error))) := by
  have hsubmit := submit_and_process_idle r.state.state e
  rw [he, ← h.eq] at hsubmit
  refine Call.bind_of_err ?_
  rw [runtime, Call.on_run, hsubmit]

/-- An event that the reducer accepts, and whose effects are then performed. -/
theorem process_domain_event_accepted (h : InOrder r) (he : reduce r.state.state e = .ok red) :
    (process_domain_event e).run r =
      (process_effects red.effects).run { r with state := ⟨red.state, idle_queue⟩ } := by
  have hsubmit := submit_and_process_idle r.state.state e
  rw [he, ← h.eq] at hsubmit
  have hrun : (runtime (submit_and_process e)).run r = ({ r with state := ⟨red.state, idle_queue⟩ },
      .ok ⟨e.kind, red.state.revision, red.decision, red.effects⟩) := by
    rw [runtime, Call.on_run, hsubmit]
  exact Call.bind_of_ok hrun

/-! ## Bystanders -/

/-- A condition that the planning of a load does not disturb: it is about the transport, and it
bears with every plan that the reducer accepts. -/
structure Bystander (I : EngineRuntime → Prop) : Prop where
  in_order : ∀ r, I r → InOrder r
  planning : ∀ r w, I r → I { r with planning_worker := w }
  looks : ∀ r plans, I r →
    I { r with output_worker := { r.output_worker with static_look_plans := plans } }
  planned : ∀ r e red, I r → reduce r.state.state (.EffectResult e) = .ok red →
    I { r with state := ⟨red.state, idle_queue⟩ }

namespace Bystander

variable (hb : Bystander I)
include hb

theorem keeps_effect_result (e : EffectResultEnvelope) :
    Call.Keeps I (process_domain_event (.EffectResult e)) := by
  intro r hr
  have hin := hb.in_order r hr
  cases he : reduce r.state.state (.EffectResult e) with
  | error error =>
    rw [process_domain_event_refused hin he]
    exact hr
  | ok red =>
    have hquiet : red.effects = [] := by
      obtain ⟨_, _, _, hdoes, _, _, rfl⟩ := reduce_does he
      cases hdoes <;> rfl
    rw [process_domain_event_accepted hin he, hquiet]
    exact hb.planned r e red hr he

theorem plans : Plans I stack where
  sequenced r _ := hb.planning r _
  released r _ := hb.planning r _
  committed r _ := hb.planning r _
  forgotten r _ := hb.planning r _
  reserved r _ := hb.planning r _
  materialized _ _ _ _ _ _ r := hb.planning r _
  looks := hb.looks
  result := hb.keeps_effect_result

end Bystander

theorem inOrder_bystander : Bystander InOrder where
  in_order _ h := h
  planning _ _ h := h
  looks _ _ h := h
  planned r e red h he := by
    have hstep := Machine.reachable_step (m := reducer) h.reachable (.EffectResult e)
    rw [Machine.step_ok (m := reducer) he] at hstep
    exact ⟨rfl, hstep⟩

/-! ## Steady conditions -/

/-- A condition that bears with whatever the output does, and that the events of the reducer
keep. -/
structure Steady (I : EngineRuntime → Prop) : Prop where
  output : ∀ r w, I r → I { r with output_worker := w }
  numbered : ∀ r n, I r → I { r with operation_sequence := n }
  submit : ∀ e, Call.Keeps I (runtime (submit_and_process e))

/-- The output worker does not matter to a steady condition, so each request keeps it. -/
theorem Steady.served (hs : Steady I) : Served I where
  output r := by
    have hsame : (fun w => I { r with output_worker := w }) = fun _ => I r := by
      funext w
      exact propext ⟨hs.output _ r.output_worker, hs.output r w⟩
    rw [hsame]
    constructor <;> intros <;> first | assumption | exact fun _ h => h
  numbered := hs.numbered
  submit := hs.submit

/-! ## Order along the runs -/

theorem inOrder_steady : Steady InOrder where
  output _ _ h := h
  numbered _ _ h := h
  submit e := (orderly_process e).on (fun _ h => h) fun _ _ _ h => h

/-- A revised plan is prepared when the reducer accepts it. -/
theorem prepare_revised_state_ok {plan : LightingPlan} {candidate : SerializedRuntime} {n : UInt64}
    (h : InOrder r) :
    r.prepare_revised_state plan = .ok (candidate, n) ↔
      checked_add r.planning_worker.effect_sequence 1 = some n ∧
        ∃ red, reduce r.state.state (.EffectResult (revision_result n plan)) = .ok red ∧
          red.decision = .PlanAccepted ∧ candidate = ⟨red.state, idle_queue⟩ := by
  have hsubmit := fun n =>
    submit_and_process_idle r.state.state (.EffectResult (revision_result n plan))
  rw [← h.eq] at hsubmit
  unfold prepare_revised_state
  simp only [Outcome.bind_eq_ok, Outcome.ok_or_eq_ok, hsubmit]
  constructor
  · rintro ⟨m, hm, processed, hprocessed, hrest⟩
    cases hred : reduce r.state.state (.EffectResult (revision_result m plan)) with
    | error error => simp only [hred, reduceCtorEq] at hprocessed
    | ok red =>
      simp only [hred, Outcome.ok.injEq] at hprocessed hrest
      subst hprocessed
      split at hrest
      · cases hrest
      rename_i hdecision
      cases hrest
      exact ⟨hm, red, hred, not_not.mp hdecision, rfl⟩
  · rintro ⟨hn, red, hred, hdecision, rfl⟩
    refine ⟨n, hn, ?_⟩
    simp [hred, hdecision]

/-- An edit is prepared when each of its parts is. -/
theorem prepare_edit_ok {answers : DatabaseAnswers} {context : PlanCommandContext}
    {command : PlanCommand} {edit : PreparedEdit} :
    r.prepare_edit stack answers context command = .ok edit ↔
      ∃ current input, r.current_plan context = .ok (current, input) ∧
        r.mutation answers current input command = .ok edit.mutation ∧
        r.planning_worker.prepare_library_plan stack edit.mutation.revised edit.mutation.scope
          (edit.mutation.replacement_context.or
            (r.planning_worker.library_context current.track_load_id)) = .ok edit.materialized ∧
        revise current edit.mutation edit.materialized.plan = .ok edit.revised ∧
        r.prepare_revised_state edit.revised =
          .ok (edit.candidate_state, edit.effect_sequence) := by
  unfold prepare_edit
  simp only [Outcome.bind_eq_ok, Outcome.map_err_eq_ok, Prod.exists]
  constructor
  · rintro ⟨current, input, hcurrent, mutation, hmutation, materialized, hmat, revised, hrev,
      candidate, n, hstate, hedit⟩
    cases hedit
    exact ⟨current, input, hcurrent, hmutation, hmat, hrev, hstate⟩
  · rintro ⟨current, input, hcurrent, hmutation, hmat, hrev, hstate⟩
    exact ⟨current, input, hcurrent, _, hmutation, _, hmat, _, hrev, _, _, hstate, rfl⟩

/-- A command on a plan publishes its edit as a whole, or it leaves the engine as it was. -/
theorem apply_command_cases (stack : Nat) (answers : DatabaseAnswers)
    (context : PlanCommandContext) (command : PlanCommand) (r : EngineRuntime) :
    (∃ edit library, r.prepare_edit stack answers context command = .ok edit ∧
        r.commit_phrase_edit answers edit.mutation = .ok library ∧
        (apply_command stack answers context command).run r =
          (r.publish_edit library edit, .ok ())) ∨
      ∃ x, x ≠ .ok () ∧ (apply_command stack answers context command).run r = (r, x) := by
  unfold apply_command
  rw [Call.get_bind_run, Call.bind_run, Call.lift_run]
  cases hedit : r.prepare_edit stack answers context command with
  | err error => exact .inr ⟨.err error, by simp, rfl⟩
  | panicked => exact .inr ⟨.panicked, by simp, rfl⟩
  | ok edit =>
    dsimp only
    rw [Call.bind_run, Call.lift_run]
    cases hlib : r.commit_phrase_edit answers edit.mutation with
    | err error => exact .inr ⟨.err error, by simp, rfl⟩
    | panicked => exact .inr ⟨.panicked, by simp, rfl⟩
    | ok library => exact .inl ⟨edit, library, rfl, hlib, rfl⟩

theorem inOrder_apply_command (stack : Nat) (answers : DatabaseAnswers)
    (context : PlanCommandContext) (command : PlanCommand) :
    Call.Keeps InOrder (apply_command stack answers context command) := by
  intro r hr
  rcases apply_command_cases stack answers context command r with
    ⟨edit, library, hedit, _, hrun⟩ | ⟨x, _, hrun⟩ <;> rw [hrun]
  · obtain ⟨_, _, _, _, _, _, hstate⟩ := prepare_edit_ok.mp hedit
    obtain ⟨_, red, hred, _, hcandidate⟩ := (prepare_revised_state_ok hr).mp hstate
    have hplanned := inOrder_bystander.planned r _ red hr hred
    unfold InOrder publish_edit
    rw [hcandidate]
    exact hplanned
  · exact hr

theorem inOrder_perform_step (stack : Nat) (step : EngineStep) :
    Call.Keeps InOrder (perform_step stack step) := by
  have hplanning := inOrder_bystander.planning
  refine inOrder_steady.served.keeps_perform_step stack ?_ (inOrder_apply_command stack)
    (fun r _ _ => hplanning r _) (fun r _ _ => hplanning r _) (fun r _ => hplanning r _) step
  intro self activates e leader
  exact inOrder_bystander.plans.keeps_follow (inOrder_steady.served.keeps_observe_beat e) _ _ _

/-- After every run the queue is idle, and the state is one that the reducer reaches. -/
theorem inOrder_reachable {catalog : AutoloopCatalog} {library : LibraryWorker}
    (h : (engine stack catalog library).Reachable r) : InOrder r :=
  inOrder_steady.served.reachable
    (orderly_process _ ⟨RuntimeState.default, idle_queue⟩ ⟨rfl, [], rfl⟩)
    (inOrder_perform_step stack) h

/-- The engine refines the reducer: whatever its two threads do, no event is left in the queue, and
the state is one that a run of the reducer ends in, so that it agrees with itself. -/
theorem the_engine_refines_the_reducer (stack : Nat) (catalog : AutoloopCatalog)
    (library : LibraryWorker) (happenings : List Happening) :
    ∃ es, ((engine stack catalog library).run happenings).state = ⟨reducer.run es, idle_queue⟩ ∧
      Consistent (reducer.run es) := by
  have h := inOrder_reachable (Machine.reachable_run (m := engine stack catalog library) happenings)
  obtain ⟨es, hes⟩ := h.reachable
  refine ⟨es, ?_, consistent_reachable (Machine.reachable_run es)⟩
  rw [hes]
  exact h.eq

end EngineRuntime

/-! ## A short show -/

namespace sample

open EngineRuntime

def theme (id : UInt64) (name : String) (order : UInt16)
    (h : id ≠ 0 ∧ order ≠ 0 ∧ validated_name name = .ok name := by decide +kernel) :
    AutoloopTheme :=
  ⟨⟨id⟩, name, order, h.1, h.2.1, name, h.2.2⟩

def themes : List AutoloopTheme :=
  [theme 1 "Amber" 1, theme 2 "Blue" 2, theme 3 "Cyan" 3, theme 4 "Dusk" 4]

/-- Four themes, and nothing mapped. -/
def catalog : AutoloopCatalog := ⟨1, 1, themes, [], [], rfl⟩

def library : LibraryWorker where
  source_kind := "rekordbox"
  source_id := "demo"
  tracks := ∅
  timelines := ∅
  phrase_protections := ∅
  phrase_roles := []
  autoloop_catalog := catalog

/-- A track of two phrases. -/
def metadata (id : TrackId) : TrackMetadata where
  id := id
  title := "Track"
  artist := "Lumi Test"
  bpm_milli := 128000
  musical_key := ⟨.A, .Minor⟩
  color := none
  duration_beats := 32
  phrases := [⟨0, 0, 16, .Intro⟩, ⟨1, 16, 32, .Outro⟩]
  identity_facts := none
  facts_valid := by decide
  phrases_valid := by decide

/-- The observation `n` of the source 1, with the lane waiting. -/
def observe (n : UInt64) (observation : DeckObservation) : Happening :=
  .Engine (.SourceEvent ⟨⟨1⟩, ⟨n⟩, ⟨n⟩, observation⟩ (some ⟨1⟩)) []

def operate (command : OperationCommand) : Happening :=
  .Engine (.Operate ⟨0⟩ ⟨0⟩ command) []

/-- The lane is served the number of times, and no time passes. -/
def serve (times : Nat) : List Happening := List.replicate times (.Lane ⟨0, none⟩)

def show_engine : Machine EngineRuntime Happening Empty EngineRuntime := engine 1 catalog library

/-- Two decks are loaded, and the first leads and plays its first phrase live. -/
def playing : List Happening :=
  [.Engine .PublishMidiSource [], observe 1 (.TrackLoaded ⟨1⟩ (metadata ⟨100⟩) ⟨10⟩),
    observe 2 (.TrackLoaded ⟨2⟩ (metadata ⟨200⟩) ⟨20⟩), observe 3 (.LeaderChanged ⟨1⟩ ⟨10⟩),
    operate .Arm, operate .Start, observe 4 (.PlaybackStateChanged ⟨1⟩ ⟨10⟩ true)]

/-- The beat 13 of the leader sets the trigger for the phrase at the beat 16. -/
def forecast : List Happening := playing ++ [observe 5 (.PlaybackPosition ⟨1⟩ ⟨10⟩ 13)]

example : (show_engine.run forecast).output_worker.scheduled_future_autoloop.isSome = true ∧
    (show_engine.run forecast).state.state.leader_deck = some ⟨1⟩ := by
  decide +kernel

end sample

end lumi_engine
