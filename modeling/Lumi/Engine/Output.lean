-- The output worker: it hands the AutoLoops of the plan to the realtime lane,
-- the current one at once and the next one ahead of its beat, and takes back
-- what has become stale.
import Lumi.Midi.Lane
import Lumi.Engine.Executor
import Lumi.Engine.Planning

open rust lumi_domain lumi_light_plans lumi_midi_output

namespace lumi_engine

/-! ## Timing -/

def AUTOLOOP_FORECAST_HORIZON_BEATS : UInt32 := 4

def AUTOLOOP_DEADLINE_REPLACEMENT_TOLERANCE : Duration := Duration.from_millis 10

def INTEGRATION_PUMP_INTERVAL : Duration := Duration.from_millis 5

def positive_timing_delay (offset_millis : Int16) : Duration :=
  Duration.from_millis offset_millis.toInt.toNat

def negative_timing_advance (offset_millis : Int16) : Duration :=
  Duration.from_millis (-offset_millis.toInt).toNat

/-- The time to the trigger of a cue that is some beats away. None is given for a trigger that
is too close for the bank to settle. -/
def phrase_trigger_delay (beats_until bpm_milli : UInt32) (offset_millis : Int16) :
    Option Duration :=
  if beats_until = 0 ∨ ¬ (20000 ≤ bpm_milli ∧ bpm_milli ≤ 300000) then none
  else
    let target := Duration.from_micros (60000000000 / bpm_milli.toNat) * beats_until.toNat
    let delay :=
      if offset_millis < 0 then target - negative_timing_advance offset_millis
      else target + positive_timing_delay offset_millis
    if BANK_SETTLE_DELAY + INTEGRATION_PUMP_INTERVAL ≤ delay then some delay else none

def deadline_drift_exceeds_tolerance (current candidate : Instant) (tolerance : Duration) : Bool :=
  if candidate ≤ current then tolerance < current - candidate else tolerance < candidate - current

/-! ## The worker -/

structure StaticLookTarget where
  modifier_id : String
  display_name : String
  static_look_number : UInt8
deriving DecidableEq

inductive StaticLookTransition where
  | Activate (target : StaticLookTarget)
  | Release (target : StaticLookTarget)
deriving DecidableEq

def StaticLookTransition.target : StaticLookTransition → StaticLookTarget
  | Activate target | Release target => target

inductive TransportEpochCause where
  | OperationStart
  | PlaybackStarted
  | PositionLanding
  | MasterHandoff
  | TrackLoad
deriving DecidableEq

structure ScheduledFutureAutoloop where
  generation : UInt64
  identity : AutoloopExecutionIdentity
  target : AutoloopTarget
  deadline : Instant
  effective_bpm_milli : UInt32
deriving DecidableEq

/-- An execution that went to the lane: the generation of its actions, the pulses that the lane had
counted at the look before, and how many actions they are. -/
structure ScheduledExecution where
  generation : UInt64
  identity : AutoloopExecutionIdentity
  lane_before : UInt64
  actions : UInt64
deriving DecidableEq

/-- An execution that was taken for completed: the last one that had gone to the lane, and what the
lane had sent by then. -/
structure CompletedExecution where
  identity : AutoloopExecutionIdentity
  execution : Option ScheduledExecution
  dispatches : List RealtimeDispatchRecord
deriving DecidableEq

/-- The diagnostics, the counters and the records for the screen are left out, and so is the MIDI
clock. The last two fields are not in the source and nothing reads them: they say which executions
went to the lane, and which were completed. -/
structure OutputWorker where
  launch_policy : LaunchPolicy
  launch_gate : LaunchGate
  midi_output : RealtimeMidiController
  effect_sequence : UInt64
  midi_auto_publish_enabled : Bool
  timing_offset_millis : Int16
  pending_timing_offset_millis : Option Int16
  last_midi_publish_attempt : Option Instant
  realtime_generation : UInt64
  autoloop_executor : AutoloopCueExecutor
  transport_epoch_cause : Option TransportEpochCause
  reassert_current_on_next_cue : Bool
  scheduled_future_autoloop : Option ScheduledFutureAutoloop
  static_look_plans : BTreeMap TrackLoadId (BTreeMap UInt16 StaticLookTarget)
  active_static_look : Option StaticLookTarget
  scheduled_executions : List ScheduledExecution
  completed_executions : List CompletedExecution

def automatic_midi_target (action : SemanticLightingAction) :
    Except EngineError (Option (UInt8 × UInt8)) :=
  match action with
  | .HoldCurrentLook => .ok none
  | .ApplyLook look =>
    if ¬ look.theme_id.value.toNat < 2 ^ 8 then
      .error (.Midi "Theme bank does not fit the MIDI profile")
    else if ¬ look.scene_id.value.toNat < 2 ^ 8 then
      .error (.Midi "Autoloop button does not fit the MIDI profile")
    else .ok (some (look.theme_id.value.toUInt8, look.scene_id.value.toUInt8))

/-- The bank and the button of a cue that has both. -/
def midi_target (cue : LightingCue) : Option (UInt8 × UInt8) :=
  match automatic_midi_target cue.action with
  | .ok target => target
  | .error _ => none

def static_look_target (choice : CompiledModifierChoice) : Option (UInt16 × StaticLookTarget) :=
  if choice.kind ≠ .Atmosphere ∨ choice.provider_kind ≠ "soundswitch" ∨
      choice.midi_channel ≠ STATIC_LOOK_CHANNEL ∨ ¬ (64 ≤ choice.midi_note ∧ choice.midi_note ≤ 95)
    then none
  else some (choice.phrase_index,
    ⟨choice.modifier_id, choice.display_name, choice.midi_note - 63⟩)

def static_look_transition (active desired : Option StaticLookTarget) :
    Option StaticLookTransition :=
  match active, desired with
  | none, none => none
  | some active, none => some (.Release active)
  | none, some desired => some (.Activate desired)
  | some active, some desired =>
    if active.static_look_number = desired.static_look_number then none
    else some (.Activate desired)

namespace OutputWorker

def new : OutputWorker where
  launch_policy := .Immediate
  launch_gate := .default
  midi_output := .new
  effect_sequence := 0
  midi_auto_publish_enabled := false
  timing_offset_millis := 0
  pending_timing_offset_millis := none
  last_midi_publish_attempt := none
  realtime_generation := 0
  autoloop_executor := .default
  transport_epoch_cause := none
  reassert_current_on_next_cue := false
  scheduled_future_autoloop := none
  static_look_plans := ∅
  active_static_look := none
  scheduled_executions := []
  completed_executions := []

abbrev Method (ε α : Type) := Call OutputWorker ε α

variable {ε α : Type}

/-- A call on the lane. -/
def midi (call : Call RealtimeMidiController ε α) : Method ε α :=
  Call.on midi_output (fun self midi_output => { self with midi_output }) call

/-- A call on the lane whose failure is only noticed. -/
def midi_ok (call : Call RealtimeMidiController RealtimeMidiError α) : Method ε Bool :=
  midi call.is_ok

def on_executor (f : AutoloopCueExecutor → AutoloopCueExecutor) : Method ε Unit :=
  Call.modify fun self => { self with autoloop_executor := f self.autoloop_executor }

def midi_error : RealtimeMidiError → EngineError := fun error => .Midi error.to_string

/-! ## Static looks -/

variable (self : OutputWorker)

def synchronize_static_look_plan (track_load_id : TrackLoadId)
    (compiled : Option CompiledLightPlan) : OutputWorker :=
  let choices := ((compiled.map (·.modifier_choices)).getD []).filterMap static_look_target
  let static_look_plans :=
    if choices.isEmpty then self.static_look_plans.erase track_load_id
    else self.static_look_plans.insert track_load_id
      (choices.foldl (fun map choice => map.insert choice.1 choice.2) ∅)
  { self with static_look_plans := bound static_look_plans }

def remove_static_look_plan (track_load_id : TrackLoadId) : OutputWorker :=
  { self with static_look_plans := self.static_look_plans.erase track_load_id }

/-- Publishes the source again when it is lost, once in a second. -/
def ensure_lighting_midi : Method EngineError Unit := do
  let self ← Call.get
  if self.midi_auto_publish_enabled then
    if (← midi RealtimeMidiController.status).source.state ≠ .Ready then
      let now ← midi RealtimeMidiController.instant_now
      let self ← Call.get
      if self.last_midi_publish_attempt.any fun attempt => now - attempt < Duration.from_millis 1000
        then pure ()
      else do
        Call.modify fun self => { self with last_midi_publish_attempt := some now }
        Call.map_err midi_error (midi RealtimeMidiController.publish)
    else pure ()
  else pure ()

/-- The state of the source after `ensure_lighting_midi`. -/
def lighting_midi_ready : Method ε Bool := do
  let ensured ← Call.is_ok ensure_lighting_midi
  if ensured then
    return (← midi RealtimeMidiController.status).source.state = .Ready
  else return false

def execute_static_look_transition (request : OutputExecutionRequest) : Method ε Unit := do
  let self ← Call.get
  let desired := self.static_look_plans[request.track_load_id]?.bind fun choices =>
    choices[request.phrase_index]?
  match static_look_transition self.active_static_look desired with
  | none =>
    if desired.isSome then Call.modify fun self => { self with active_static_look := desired }
    else pure ()
  | some transition =>
    if ← lighting_midi_ready then
      if ← midi_ok (RealtimeMidiController.toggle_static_look
          transition.target.static_look_number) then
        Call.modify fun self => { self with active_static_look := desired }
      else pure ()
    else pure ()

def release_active_static_look : Method ε Unit := do
  match (← Call.get).active_static_look with
  | none => pure ()
  | some active =>
    if ← midi_ok (RealtimeMidiController.toggle_static_look active.static_look_number) then
      Call.modify fun self => { self with active_static_look := none }
    else pure ()

def toggle_static_look_manually (static_look_number : UInt8) : Method EngineError Unit := do
  Call.map_err midi_error (midi (RealtimeMidiController.toggle_static_look static_look_number))
  Call.modify fun self =>
    { self with
      active_static_look :=
        if self.active_static_look.any (·.static_look_number = static_look_number) then none
        else some
          { modifier_id := "manual-static-look-" ++ toString static_look_number.toNat
            display_name := "Static Look " ++ toString static_look_number.toNat
            static_look_number } }

/-! ## Publishing -/

def publish_midi : Method EngineError Unit := do
  let now ← midi RealtimeMidiController.instant_now
  Call.modify fun self =>
    { self with midi_auto_publish_enabled := true, last_midi_publish_attempt := some now }
  Call.map_err midi_error (midi RealtimeMidiController.publish)

def stop_midi : Method ε Unit := do
  release_active_static_look
  Call.modify fun self =>
    { self with midi_auto_publish_enabled := false, last_midi_publish_attempt := none }
  midi RealtimeMidiController.stop

/-! ## Generations and epochs -/

def begin_realtime_generation : Method ε (Option UInt64) := do
  match checked_add (← Call.get).realtime_generation 1 with
  | none => return none
  | some generation => do
    Call.modify fun self => { self with realtime_generation := generation }
    if ← midi_ok (RealtimeMidiController.set_generation generation) then return some generation
    else return none

/-- `let _ = self.midi_output.cancel_all();`. -/
def try_cancel_all : Method ε Unit := do
  let _ ← midi_ok RealtimeMidiController.cancel_all

def invalidate_autoloop_deadline : Method ε Unit := do
  let _ ← begin_realtime_generation
  try_cancel_all
  Call.modify fun self =>
    { self with
      autoloop_executor := self.autoloop_executor.cancel_pending
      scheduled_future_autoloop := none }

def begin_autoloop_execution_epoch (cause : TransportEpochCause) : Method EngineError Unit := do
  let executor ← Call.lift (.ok_or (← Call.get).autoloop_executor.begin_execution_epoch
    (.Midi "AutoLoop execution epoch overflowed"))
  on_executor fun _ => executor
  Call.map_err midi_error (midi RealtimeMidiController.cancel_all)
  Call.modify fun self =>
    { self with
      transport_epoch_cause := some cause
      reassert_current_on_next_cue := true
      scheduled_future_autoloop := none }

/-- The completion is written down with what the lane has sent. -/
def log_completion (lane_emitted_count : UInt64) (self : OutputWorker) : OutputWorker :=
  { self with
    completed_executions :=
      (self.autoloop_executor.emitted lane_emitted_count).toList.map (fun identity =>
        ⟨identity, self.scheduled_executions.head?, self.midi_output.lane.dispatches⟩) ++
      self.completed_executions }

def complete_if_emitted : Method ε Unit := do
  let status ← midi RealtimeMidiController.status
  Call.modify (log_completion status.emitted_count)
  on_executor (·.complete_if_emitted status.emitted_count)

def service_pending_autoloop : Method ε Unit := do
  complete_if_emitted
  Call.modify fun self =>
    match self.autoloop_executor.state with
    | .Completed identity _ =>
      { self with
        launch_gate := self.launch_gate.did_launch self.launch_policy identity.launch_context
          identity.phrase_index }
    | _ => self

def cancel_future_autoloop_deadline : Method ε Unit := do
  match (← Call.get).scheduled_future_autoloop with
  | none => pure ()
  | some scheduled => do
    Call.modify fun self => { self with scheduled_future_autoloop := none }
    if (← Call.get).autoloop_executor.state.is_completed scheduled.identity then pure ()
    else do
      let _ ← begin_realtime_generation
      try_cancel_all
      on_executor (·.cancel_pending)

/-! ## The initial launch -/

def launch_boundaries (plan : LightingPlan) : List LaunchBoundary :=
  (plan.cues.filter fun cue => (midi_target cue).isSome).map fun cue =>
    ⟨cue.phrase_index, cue.start_beat⟩

variable (state : RuntimeState)

/-- The leader deck with its active plan. -/
def leading_plan : Option (DeckId × DeckState × LightingPlan) := do
  let deck_id ← state.leader_deck
  let deck ← state.decks[deck_id]?
  let plan ← state.active_plan.filter fun plan =>
    plan.deck_id = deck_id ∧ plan.track_load_id = deck.track_load_id
  return (deck_id, deck, plan)

def update_initial_launch (self : OutputWorker) : OutputWorker :=
  if self.launch_policy = .Immediate then self
  else match leading_plan state with
    | none => { self with launch_gate := self.launch_gate.cancel_pending }
    | some (deck_id, deck, plan) =>
      { self with
        launch_gate := self.launch_gate.observe self.launch_policy
          ⟨deck_id, plan.track_load_id, plan.revision, self.autoloop_executor.execution_epoch⟩
          (state.operation = .Live && deck.playing) deck.beat (launch_boundaries plan) }

def initial_launch_allows (identity : AutoloopExecutionIdentity) : Bool :=
  self.launch_gate.allows self.launch_policy identity.launch_context identity.phrase_index

def initial_phrase_launch : Bool :=
  self.launch_policy = .OnPhraseStart && self.launch_gate.state.is_waiting

/-! ## Executions -/

/-- The bank when it is to be selected, then the AutoLoop. It tells whether the trigger is with
the lane. -/
def send_schedule (schedule : AutoloopSchedule) (generation : UInt64)
    (bank_deadline deadline : Instant) (lane_before : RealtimeMidiStatus) : Method ε Bool := do
  let bank_sent ← (if schedule.select_bank then
    midi_ok (RealtimeMidiController.schedule_bank generation schedule.target.bank_number
      bank_deadline)
    else pure true)
  if bank_sent then do
    on_executor (·.mark_bank_prepared schedule)
    let actions := if schedule.select_bank then 2 else 1
    Call.modify fun self =>
      { self with
        scheduled_executions :=
          ⟨generation, schedule.identity, lane_before.emitted_count, actions⟩ ::
            self.scheduled_executions }
    if ← midi_ok (RealtimeMidiController.schedule_autoloop generation schedule.target.bank_number
        schedule.target.autoloop_number deadline) then do
      on_executor (·.mark_triggered schedule (saturating_add lane_before.emitted_count actions))
      return true
    else do
      try_cancel_all
      on_executor (·.fail schedule.identity)
      return false
  else do
    on_executor (·.fail schedule.identity)
    return false

def execute_autoloop (request : OutputExecutionRequest) (bank_number autoloop_number : UInt8) :
    Method ε Unit := do
  complete_if_emitted
  let lane_before ← midi RealtimeMidiController.status
  match (← Call.get).autoloop_executor.schedule request ⟨bank_number, autoloop_number⟩
      lane_before.source.active_bank with
  | none => pure ()
  | some (executor, schedule) => do
    on_executor fun _ => executor
    match ← begin_realtime_generation with
    | none => on_executor (·.fail schedule.identity)
    | some generation => do
      let now ← midi RealtimeMidiController.instant_now
      let self ← Call.get
      let configured_delay :=
        if self.reassert_current_on_next_cue && !self.initial_phrase_launch then 0
        else positive_timing_delay self.timing_offset_millis
      Call.modify fun self =>
        { self with reassert_current_on_next_cue := false, scheduled_future_autoloop := none }
      let deadline := now +
        if schedule.select_bank then max BANK_SETTLE_DELAY configured_delay else configured_delay
      let _ ← send_schedule schedule generation now deadline lane_before

/-- `deadline.checked_sub(BANK_SETTLE_DELAY).unwrap_or_else(Instant::now)`. -/
def bank_deadline_for (deadline : Instant) : Method ε Instant :=
  if BANK_SETTLE_DELAY ≤ deadline then pure (deadline - BANK_SETTLE_DELAY)
  else midi RealtimeMidiController.instant_now

def retime_future_autoloop (scheduled : ScheduledFutureAutoloop) (deadline : Instant)
    (bpm : UInt32) : Method ε Unit :=
  if deadline_drift_exceeds_tolerance scheduled.deadline deadline
      AUTOLOOP_DEADLINE_REPLACEMENT_TOLERANCE then do
    let bank_deadline ← bank_deadline_for deadline
    if ← midi_ok (RealtimeMidiController.retime_pending scheduled.generation deadline
        bank_deadline) then
      Call.modify fun self =>
        { self with
          scheduled_future_autoloop :=
            some { scheduled with deadline, effective_bpm_milli := bpm } }
    else pure ()
  else pure ()

/-! ## Forecasts -/

def scheduling_timing_offset_millis : Int16 :=
  self.pending_timing_offset_millis.getD self.timing_offset_millis

/-- The deck with its plan, while it leads and plays and the output is live. -/
def live_plan (deck_id : DeckId) : Option (DeckState × LightingPlan) :=
  if state.operation ≠ .Live ∨ state.leader_deck ≠ some deck_id then none
  else do
    let deck ← state.decks[deck_id]?.filter (·.playing)
    let plan ← state.active_plan.filter fun plan =>
      plan.deck_id = deck_id ∧ plan.track_load_id = deck.track_load_id
    return (deck, plan)

/-- The forecast whose beat has come while its trigger is still out, with its cue. -/
def passed_boundary (plan : LightingPlan) (deck_id : DeckId) (absolute_beat : UInt32) :
    Option (ScheduledFutureAutoloop × LightingCue) := do
  let scheduled ← self.scheduled_future_autoloop
  if scheduled.identity.deck_id = deck_id ∧ scheduled.identity.track_load_id = plan.track_load_id ∧
      scheduled.identity.plan_revision = plan.revision ∧
      self.autoloop_executor.state.is_triggered scheduled.identity then
    let cue ← plan.cues.find? fun cue =>
      cue.phrase_index = scheduled.identity.phrase_index ∧ cue.start_beat ≤ absolute_beat
    return (scheduled, cue)
  else none

/-- The cue that begins in the next four beats. -/
def upcoming_cue (plan : LightingPlan) (absolute_beat : UInt32) (initial_phrase_launch : Bool) :
    Option LightingCue :=
  plan.cues.find? fun cue =>
    absolute_beat < cue.start_beat ∧
      cue.start_beat - absolute_beat ≤ AUTOLOOP_FORECAST_HORIZON_BEATS ∧
      (initial_phrase_launch = false ∨ (midi_target cue).isSome)

/-- The end of `observe_exact_live_beat`: the trigger of the next cue is moved, or goes to the
lane. -/
def forecast (identity : AutoloopExecutionIdentity) (target : AutoloopTarget)
    (trigger_delay : Duration) (bpm : UInt32) : Method ε Unit := do
  let now ← midi RealtimeMidiController.instant_now
  let deadline := now + trigger_delay
  let self ← Call.get
  match self.scheduled_future_autoloop.filter (·.identity = identity) with
  | some existing =>
    if self.autoloop_executor.state.is_completed identity then pure ()
    else if deadline_drift_exceeds_tolerance existing.deadline deadline
        AUTOLOOP_DEADLINE_REPLACEMENT_TOLERANCE then
      retime_future_autoloop existing deadline bpm
    else pure ()
  | none => do
    let lane_before ← midi RealtimeMidiController.status
    match (← Call.get).autoloop_executor.schedule_identity identity target
        lane_before.source.active_bank with
    | none => pure ()
    | some (executor, schedule) => do
      on_executor fun _ => executor
      match ← begin_realtime_generation with
      | none => on_executor (·.fail identity)
      | some generation => do
        let bank_deadline ← (if schedule.select_bank then bank_deadline_for deadline
          else pure deadline)
        if ← send_schedule schedule generation bank_deadline deadline lane_before then
          Call.modify fun self =>
            { self with
              scheduled_future_autoloop := some
                { generation, identity, target, deadline, effective_bpm_milli := bpm } }
        else pure ()

def observe_exact_live_beat (deck_id : DeckId) (absolute_beat : UInt32) : Method ε Unit := do
  Call.modify (update_initial_launch state)
  complete_if_emitted
  let self ← Call.get
  match live_plan state deck_id with
  | none => cancel_future_autoloop_deadline
  | some (deck, plan) =>
    match self.passed_boundary plan deck_id absolute_beat with
    | some (scheduled, cue) =>
      if cue.start_beat = absolute_beat then do
        let now ← midi RealtimeMidiController.instant_now
        retime_future_autoloop scheduled
          (now + positive_timing_delay self.scheduling_timing_offset_millis)
          deck.effective_bpm_milli
      else pure ()
    | none =>
      match upcoming_cue plan absolute_beat self.initial_phrase_launch with
      | none => cancel_future_autoloop_deadline
      | some cue =>
        match midi_target cue with
        | none => cancel_future_autoloop_deadline
        | some (bank_number, autoloop_number) =>
          match phrase_trigger_delay (cue.start_beat - absolute_beat) deck.effective_bpm_milli
              self.scheduling_timing_offset_millis with
          | none => pure ()
          | some trigger_delay =>
            let identity : AutoloopExecutionIdentity :=
              { execution_epoch := self.autoloop_executor.execution_epoch
                deck_id
                track_load_id := plan.track_load_id
                plan_revision := plan.revision
                phrase_index := cue.phrase_index }
            if self.initial_launch_allows identity then
              forecast identity ⟨bank_number, autoloop_number⟩ trigger_delay
                deck.effective_bpm_milli
            else pure ()

/-! ## Offsets -/

def request_timing_offset_millis (millis : Int16) (defer_until_phrase : Bool) : OutputWorker :=
  let requested := max (-250) (min millis 250)
  if defer_until_phrase && requested != self.timing_offset_millis then
    { self with pending_timing_offset_millis := some requested }
  else
    { self with timing_offset_millis := requested, pending_timing_offset_millis := none }

def activate_pending_timing_offset : OutputWorker :=
  match self.pending_timing_offset_millis with
  | none => self
  | some pending =>
    { self with timing_offset_millis := pending, pending_timing_offset_millis := none }

end OutputWorker

end lumi_engine
