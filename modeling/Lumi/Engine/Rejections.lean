-- The observations that the reducer does not apply. The engine looks at what
-- an event says before the reducer has decided about it, and acts on what it
-- finds there. Only where it finds nothing, a rejected event moves nothing.
import Lumi.Engine.Isolation

open rust lumi_domain lumi_midi_output

namespace lumi_engine

/-! ## Rejected observations -/

/-- The load that the observation has to find on its deck. -/
def claimed_load : DeckObservation → Option (DeckId × TrackLoadId)
  | .TrackUnloaded d l | .TrackMetadataHydrated d _ l | .PlaybackPosition d l _
  | .PlaybackPositionSeeked d l _ | .PhraseChanged d l _ | .PlaybackTempoChanged d l _
  | .PlaybackStateChanged d l _ | .LeaderChanged d l => some (d, l)
  | .SourceStatusChanged _ | .TrackLoaded _ _ _ => none

/-- The reducer does not apply the observation: its number is not new, its time went back, or its
deck does not hold the load. -/
def Rejected (s : RuntimeState) (e : ObservationEnvelope) : Prop :=
  ObservationSeen s e ∨ TimeRegressed s e ∨
    ∃ d l, claimed_load e.observation = some (d, l) ∧ loaded s d l = none

variable {s : RuntimeState}

theorem settle_without_load {src : SourceId} {t : MonotonicTime}
    {o : DeckObservation} {d : DeckId} {l : TrackLoadId} (ho : claimed_load o = some (d, l))
    (hl : loaded s d l = none) : (settle s src t o).attempt = none := by
  cases o <;> simp only [claimed_load, Option.some.injEq, Prod.mk.injEq, reduceCtorEq] at ho
  all_goals
    obtain ⟨rfl, rfl⟩ := ho
    simp [settle, hl, mismatch]

variable {e : ObservationEnvelope}

/-- A rejected observation gets no cue out. -/
theorem Rejected.quiet {red : Reduction} (h : Rejected s e)
    (hred : reduce s (.Observation e) = .ok red) : red.effects = [] := by
  obtain ⟨r0, n, revision, hdoes, _, _, rfl⟩ := reduce_does hred
  cases hdoes with
  | scheduled hnew ht ha _ =>
    obtain hseen | hback | ⟨d, l, ho, hl⟩ := h
    · exact absurd hseen hnew
    · exact absurd hback ht
    have hnone : (settledOf s e).attempt = none := settle_without_load ho hl
    rw [hnone] at ha
    cases ha
  | _ => rfl

/-! ## What the engine finds in an event -/

/-- Nothing of what `process_source_event` looks for in the event is there. -/
structure Unclassified (r : EngineRuntime) (e : ObservationEnvelope)
    (leader_deck_id : Option DeckId) : Prop where
  begins_no_epoch : transport_epoch_cause r.state.state (.Observation e) = none
  stops_nothing : stops_live_transport r.state.state (.Observation e) = false
  activates_no_timing :
    activates_pending_timing r.state.state leader_deck_id (.Observation e) = false
  replaces_no_load : replaced_reservation r.state.state (.Observation e) = none
  lands_on_no_beat : exact_live_beat (.Observation e) = none
  plans_no_load : planning_input r.planning_worker (.Observation e) = none

/-- The execution, the lane, the launch, the timing, the looks and the reservations are the ones
that were there. -/
structure Untroubled (r r' : EngineRuntime) : Prop where
  transport : Untouched r.output_worker r'.output_worker
  launch_gate : r'.output_worker.launch_gate = r.output_worker.launch_gate
  timing : r'.output_worker.timing_offset_millis = r.output_worker.timing_offset_millis
  pending_timing : r'.output_worker.pending_timing_offset_millis =
    r.output_worker.pending_timing_offset_millis
  looks : r'.output_worker.static_look_plans = r.output_worker.static_look_plans
  reservations : r'.planning_worker.variation_history = r.planning_worker.variation_history

theorem undisturbed_state (r : EngineRuntime) (state : SerializedRuntime) :
    Untroubled r { r with state } :=
  ⟨(SameTransport.refl _).untouched, rfl, rfl, rfl, rfl, rfl⟩

open EngineRuntime

/-- An unclassified event goes to the reducer and nowhere else. -/
theorem Unclassified.process_source_event_eq {r : EngineRuntime} {leader_deck_id : Option DeckId}
    (h : Unclassified r e leader_deck_id) (stack : Nat) :
    ((process_source_event stack (.Observation e) leader_deck_id).run r).1 =
      ((process_domain_event (.Observation e)).run r).1 := by
  have hreduce : reduce_source_event r.state.state false (.Observation e) =
      process_domain_event (.Observation e) := by
    unfold reduce_source_event meet_transport
    rw [h.begins_no_epoch, h.stops_nothing]
    rfl
  have hfollow : follow_source_event stack r false (.Observation e) leader_deck_id =
      (pure () : Method EngineError Unit) := by
    unfold follow_source_event observe_beat
    rw [h.replaces_no_load, h.lands_on_no_beat, h.plans_no_load]
    rfl
  unfold process_source_event
  rw [Call.get_bind_run, h.activates_no_timing]
  dsimp only
  rw [hreduce, hfollow]
  rcases Call.bind_cases (process_domain_event (.Observation e))
    (fun _ => (pure () : Method EngineError Unit)) r with ⟨_, _, hrun⟩ | ⟨_, hrun⟩ | ⟨_, _, hrun⟩
  all_goals rw [hrun]
  rfl

/-- A rejected observation in which the engine finds nothing leaves the show as it is. -/
theorem a_rejected_observation_is_inert_where_the_engine_finds_nothing {stack : Nat}
    {catalog : lumi_library.AutoloopCatalog} {library : LibraryWorker} {r : EngineRuntime}
    (hr : (engine stack catalog library).Reachable r) (schedule : List (List Lane.Tick))
    (e : ObservationEnvelope) (leader_deck_id : Option DeckId)
    (hrejected : Rejected r.state.state e) (hnothing : Unclassified r e leader_deck_id) :
    Untroubled (r.with_schedule schedule)
      ((process_source_event stack (.Observation e) leader_deck_id).run
        (r.with_schedule schedule)).1 := by
  have hin : InOrder (r.with_schedule schedule) := inOrder_reachable (r := r) hr
  have hnothing' : Unclassified (r.with_schedule schedule) e leader_deck_id :=
    ⟨hnothing.1, hnothing.2, hnothing.3, hnothing.4, hnothing.5, hnothing.6⟩
  have hrejected' : Rejected (r.with_schedule schedule).state.state e := hrejected
  generalize r.with_schedule schedule = r0 at *
  rw [hnothing'.process_source_event_eq]
  cases hred : reduce r0.state.state (.Observation e) with
  | error error =>
    rw [process_domain_event_refused hin hred]
    exact undisturbed_state r0 r0.state
  | ok red =>
    rw [process_domain_event_accepted hin hred, hrejected'.quiet hred]
    exact undisturbed_state r0 _

namespace sample

/-- A seek on the leader's deck, for a load that it does not hold. -/
def stale_seek : ObservationEnvelope := ⟨⟨1⟩, ⟨6⟩, ⟨6⟩, .PlaybackPositionSeeked ⟨1⟩ ⟨99⟩ 0⟩

/-- A tempo for that load. -/
def stale_tempo : ObservationEnvelope := ⟨⟨1⟩, ⟨6⟩, ⟨6⟩, .PlaybackTempoChanged ⟨1⟩ ⟨99⟩ 130000⟩

theorem stale_load : loaded (show_engine.run forecast).state.state ⟨1⟩ ⟨99⟩ = none := by
  decide +kernel

end sample

open sample

/-- While a trigger is forecast, the tempo of a load that is not there leaves everything. -/
theorem a_tempo_of_another_load_leaves_the_forecast :
    Untroubled ((show_engine.run forecast).with_schedule [])
      ((process_source_event 1 (.Observation stale_tempo) (some ⟨1⟩)).run
        ((show_engine.run forecast).with_schedule [])).1 :=
  a_rejected_observation_is_inert_where_the_engine_finds_nothing
    (reachable_run forecast) [] stale_tempo (some ⟨1⟩)
    (.inr (.inr ⟨⟨1⟩, ⟨99⟩, rfl, stale_load⟩)) ⟨rfl, rfl, rfl, rfl, rfl, rfl⟩

/-- A seek of a load that is not there begins an epoch and drops the trigger. -/
theorem a_rejected_seek_begins_an_epoch :
    Rejected (show_engine.run forecast).state.state stale_seek ∧
      ¬ Untroubled (show_engine.run forecast)
        ((process_source_event 1 (.Observation stale_seek) (some ⟨1⟩)).run
          (show_engine.run forecast)).1 := by
  refine ⟨.inr (.inr ⟨⟨1⟩, ⟨99⟩, rfl, stale_load⟩), fun h => ?_⟩
  have hepoch := h.transport.epoch
  revert hepoch
  decide +kernel

end lumi_engine
