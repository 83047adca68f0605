-- A session of the engine with the provider. The engine calls the provider
-- and drains it after every call, and the reducer folds what was drained.
-- While the clock does not go back and no counter overflows, the reduced
-- state is what one sees who hears the story of the acts.
import Lumi.ProLink.Calls
import Lumi.ProLink.Story

open rust replay lumi_domain

namespace lumi_prolink_input

open ProLinkDeckSourceProvider

/-! ## What the events say -/

def envelopes (events : List DomainEvent) : List ObservationEnvelope :=
  events.filterMap fun
    | .Observation e => some e
    | _ => none

/-- The loads that the observations announce. -/
def announced (told : List DeckObservation) : List TrackLoadId :=
  told.filterMap fun
    | .TrackLoaded _ _ l => some l
    | _ => none

theorem observations_enveloped (time : MonotonicTime) (n : UInt64) (os : List DeckObservation) :
    (envelopes (enveloped SOURCE_ID time n os)).map (·.observation) = os := by
  induction os generalizing n with
  | nil => rfl
  | cons o os ih =>
    show o :: (envelopes (enveloped SOURCE_ID time (n + 1) os)).map (·.observation) = _
    rw [ih]

/-- The events are numbered one after the other. -/
theorem enveloped_numbers (time : MonotonicTime) {n : UInt64} {os : List DeckObservation}
    (h : n.toNat + os.length < 2 ^ 64) :
    (envelopes (enveloped SOURCE_ID time n os)).Pairwise (·.sequence < ·.sequence) ∧
      ∀ e ∈ envelopes (enveloped SOURCE_ID time n os), n < e.sequence.value ∧
        e.sequence.value.toNat ≤ n.toNat + os.length := by
  induction os generalizing n with
  | nil => exact ⟨.nil, fun e he => absurd he (List.not_mem_nil)⟩
  | cons o os ih =>
    rw [List.length_cons] at h
    have hn := next_toNat (n := n) (by omega)
    obtain ⟨hpairs, hbounds⟩ := ih (n := n + 1) (by omega)
    have hlt : n < n + 1 := by
      rw [UInt64.lt_iff_toNat_lt]
      omega
    constructor
    · exact List.pairwise_cons.mpr ⟨fun e he => (hbounds e he).1, hpairs⟩
    · intro e he
      rcases List.mem_cons.mp he with rfl | he
      · refine ⟨hlt, ?_⟩
        show (n + 1).toNat ≤ _
        rw [List.length_cons]
        omega
      · obtain ⟨hlow, hhigh⟩ := hbounds e he
        refine ⟨UInt64.lt_trans hlt hlow, ?_⟩
        rw [List.length_cons]
        omega

theorem announced_script (x : Faces) (acts : List Act) :
    announced (script x acts) = acts.filterMap Act.loads := by
  induction acts generalizing x with
  | nil => rfl
  | cons a acts ih =>
    have hone : announced (a.tells x) = a.loads.toList := by
      cases a with
      | load d face track =>
        simp only [Act.tells, announced, Act.loads, List.filterMap_append]
        split_ifs <;> rfl
      | source status | adopt d bpm => rfl
      | report d beat seeked =>
        simp only [Act.tells, Act.about]
        split
        · rename_i face _
          cases new_phrase face beat <;> by_cases hbeat : face.beat = beat <;> cases seeked <;>
            simp [announced, Act.loads, hbeat]
        · rfl
      | unload d | tempo d bpm | jump d beat | play d playing | lead d | hydrate d m =>
        simp only [Act.tells, Act.about]
        split <;> rfl
    rw [script, announced, List.filterMap_append, ← announced, ← announced, hone, ih]
    cases hloads : a.loads <;> simp [hloads]

/-! ## The session -/

structure Operation (F : Type) where
  time : MonotonicTime
  call : ProviderCall F

/-- The provider after a drain, and all that was drained. -/
structure Session where
  provider : ProLinkDeckSourceProvider
  events : List DomainEvent
  clock : MonotonicTime

/-- A counter of the provider was at its end. -/
def overflowed {F : Type} : Outcome (ProLinkProviderError F) Unit → Bool
  | .err .SequenceOverflow | .err .TrackLoadIdOverflow | .err .TimingGenerationOverflow => true
  | _ => false

theorem overflowed_err {F : Type} {e : ProLinkProviderError F} (h : Overflows e) :
    overflowed (.err e) = true := by
  cases e <;> first | rfl | cases h

namespace Session

variable {F : Type} [Binary64 F]

/-- The state that the events fold to. -/
def runtime (s : Session) : RuntimeState := reducer.run s.events

def start (time : MonotonicTime) : Session :=
  let (provider, events) := (ProLinkDeckSourceProvider.new time).drain_events
  { provider, events, clock := time }

/-- How the call of an operation ends. -/
def called (s : Session) (operation : Operation F) :
    ProLinkDeckSourceProvider × Outcome (ProLinkProviderError F) Unit :=
  (operation.call.method operation.time).run s.provider

/-- A call and the drain after it, also when the call fails. -/
def after (s : Session) (operation : Operation F) : Session :=
  let (provider, events) := (s.called operation).1.drain_events
  { provider, events := s.events ++ events, clock := operation.time }

/-- The operation is in time, and no counter overflows, neither in the provider nor in the
reducer. -/
@[mk_iff] structure Fits (s : Session) (operation : Operation F) : Prop where
  in_time : s.clock ≤ operation.time
  counts : overflowed (s.called operation).2 = false
  reduced : (reducer.refusal s.runtime (s.called operation).1.pending_events).any
    ReducerError.overflows = false

instance (s : Session) (operation : Operation F) : Decidable (s.Fits operation) :=
  decidable_of_iff' _ (fits_iff s operation)

def story (s : Session) : Story := ⟨s.provider.faces, (envelopes s.events).map (·.observation)⟩

/-- What ties the two sides together. -/
structure Linked (s : Session) : Prop where
  drained : s.provider.pending_events = []
  heard : s.runtime.faces = s.story.heard
  behind : Behind SOURCE_ID s.runtime s.provider.sequence s.clock
  ordered : (envelopes s.events).Pairwise (·.sequence < ·.sequence)
  numbered : ∀ e ∈ envelopes s.events, e.sequence.value ≤ s.provider.sequence
  fresh : (announced s.story.told).Pairwise (·.value < ·.value)
  loads : ∀ l ∈ announced s.story.told, l.value < s.provider.next_track_load_id

theorem linked_start (time : MonotonicTime) : Linked (start time) := by
  have haccepts : reducer.refusal RuntimeState.default
      (enveloped SOURCE_ID time 0 [.SourceStatusChanged .Starting]) = none := rfl
  obtain ⟨hfaces, hbehind⟩ := runFrom_enveloped (m := 1)
    (behind_default SOURCE_ID 0 time) rfl haccepts
  refine ⟨rfl, ?_, hbehind, List.pairwise_singleton _ _, ?_, List.Pairwise.nil, ?_⟩
  · exact hfaces
  · intro e he
    rw [List.mem_singleton.mp he]
    exact UInt64.le_refl _
  · exact fun l hl => absurd hl (List.not_mem_nil)

/-- One operation adds its acts to the story. -/
theorem Linked.after {s : Session} {operation : Operation F} (h : Linked s)
    (hfits : s.Fits operation) :
    Linked (s.after operation) ∧ ∃ acts, CallActs s.provider operation.call acts ∧
      (s.after operation).story = s.story.after acts := by
  rcases call_ends operation.call operation.time s.provider with ⟨e, he, hover⟩ | ⟨acts, hq, hacts⟩
  · have hcounts := hfits.counts
    rw [show (s.called operation).2 = .err e from he, overflowed_err hover] at hcounts
    cases hcounts
  have hevents : (s.called operation).1.pending_events =
      enveloped SOURCE_ID operation.time s.provider.sequence (script s.provider.faces acts) := by
    have := hq.events
    rw [h.drained] at this
    exact this
  have hlog : (s.after operation).events = s.events ++
      enveloped SOURCE_ID operation.time s.provider.sequence (script s.provider.faces acts) := by
    rw [← hevents]
    rfl
  have hlt := (s.called operation).1.sequence.toNat_lt
  have hcount : (s.called operation).1.sequence.toNat =
      s.provider.sequence.toNat + (script s.provider.faces acts).length := hq.sequence
  have htold : (s.after operation).story.told =
      s.story.told ++ script s.provider.faces acts := by
    show (envelopes (s.after operation).events).map (·.observation) = _
    rw [hlog, envelopes, List.filterMap_append, List.map_append, ← envelopes, ← envelopes,
      observations_enveloped]
    rfl
  have hstory : (s.after operation).story = s.story.after acts := by
    rw [Story.after_eq, ← show s.provider.faces = s.story.shown from rfl, ← htold, ← hq.faces]
    rfl
  have hruntime : (s.after operation).runtime = reducer.runFrom s.runtime
      (enveloped SOURCE_ID operation.time s.provider.sequence (script s.provider.faces acts)) := by
    unfold runtime
    rw [hlog, Machine.run_append]
  have haccepted := not_refused hfits.reduced hevents
  obtain ⟨hfaces, hbehind⟩ := runFrom_enveloped (h.behind.later hfits.in_time) hcount haccepted
  obtain ⟨hpairs, hbounds⟩ := enveloped_numbers operation.time (by omega :
    s.provider.sequence.toNat + (script s.provider.faces acts).length < 2 ^ 64)
  refine ⟨⟨rfl, ?_, ?_, ?_, ?_, ?_, ?_⟩, acts, hacts, hstory⟩
  · rw [hruntime, hfaces, h.heard]
    unfold Story.heard
    rw [htold]
    unfold Faces.listen
    rw [List.foldl_append]
  · rw [hruntime]
    exact hbehind
  · rw [hlog, envelopes, List.filterMap_append, ← envelopes, ← envelopes, List.pairwise_append]
    refine ⟨h.ordered, hpairs, ?_⟩
    intro e he e' he'
    exact UInt64.lt_of_le_of_lt (h.numbered e he) (hbounds e' he').1
  · intro e he
    rw [hlog, envelopes, List.filterMap_append, ← envelopes, ← envelopes, List.mem_append] at he
    show e.sequence.value ≤ (s.called operation).1.sequence
    rw [UInt64.le_iff_toNat_le]
    rcases he with he | he
    · have := UInt64.le_iff_toNat_le.mp (h.numbered e he)
      omega
    have := (hbounds e he).2
    omega
  · rw [htold, announced, List.filterMap_append, ← announced, ← announced, announced_script,
      List.pairwise_append]
    refine ⟨h.fresh, hq.loads, ?_⟩
    intro l hl l' hl'
    exact UInt64.lt_of_lt_of_le (h.loads l hl) (hq.numbers l' hl').1
  · intro l hl
    rw [htold, announced, List.filterMap_append, ← announced, ← announced, announced_script,
      List.mem_append] at hl
    rcases hl with hl | hl
    · exact UInt64.lt_of_lt_of_le (h.loads l hl) hq.next
    · exact (hq.numbers l hl).2

end Session

/-! ## Runs -/

/-- The session as a machine: it starts with a new provider. -/
def session (F : Type) [Binary64 F] (time : MonotonicTime) :
    Machine Session (Operation F) Empty Session where
  start := .start time
  reduce s operation := .ok (s.after operation)
  next := id

section runs

variable {F : Type} [Binary64 F] {time : MonotonicTime} {operations : List (Operation F)}

/-- What the acts of a fitting operation keep under a condition holds all along a run whose
operations fit and meet the condition. -/
theorem session_keeps {I : Session → Prop} {C : Session → Operation F → Prop} (h0 : I (.start time))
    (hstep : ∀ s operation acts, s.Linked → I s → C s operation →
      CallActs s.provider operation.call acts →
      (s.after operation).story = s.story.after acts → I (s.after operation))
    (hfits : (session F time).Along Session.Fits operations)
    (hcond : (session F time).Along C operations) (k : Nat) :
    ((session F time).run (operations.take k)).Linked ∧
      I ((session F time).run (operations.take k)) := by
  refine Machine.run_keeps_while (m := session F time) (P := fun s => s.Linked ∧ I s)
    (Q := fun s operation => s.Fits operation ∧ C s operation) ⟨Session.linked_start time, h0⟩
    ?_ operations ?_ k
  · rintro s operation r ⟨hs, hI⟩ ⟨hfit, hC⟩ hr
    cases hr
    obtain ⟨hlinked, acts, hacts, hstory⟩ := hs.after hfit
    exact ⟨hlinked, hstep s operation acts hs hI hC hacts hstory⟩
  · exact fun k e r he hr => ⟨hfits k e r he hr, hcond k e r he hr⟩

end runs

/-! ## The frames of a player -/

namespace sample

def message (nanos : UInt64) (event : BridgeEvent ℚ) : BridgeMessage ℚ where
  sequence := nanos
  observed_at_nanos := nanos
  traffic_class := .Critical
  event := event

/-- The first player with the track of the second, as tempo master. -/
def status (playing : Bool) (beat_number : Int) (effective_bpm : ℚ) : DeckStatus ℚ where
  device_number := 1
  device_name := "CDJ"
  playing := playing
  tempo_master := true
  source_player := 2
  source_slot := "USB_SLOT"
  rekordbox_id := 7
  track_bpm := 128
  effective_bpm := effective_bpm
  beat_number := beat_number
  beat_within_bar := 1

def frame (nanos : UInt64) (playing : Bool) (beat_number : Int) : BridgeMessage ℚ :=
  message nanos (.DeckStatus (status playing beat_number 128))

def beat (nanos : UInt64) (beat_within_bar : UInt8) : BridgeMessage ℚ :=
  message nanos (.Beat { device_number := 1, beat_within_bar, tempo_master := true })

def precise_position (nanos playback_position_millis : UInt64) : BridgeMessage ℚ :=
  message nanos (.PrecisePosition
    { device_number := 1, playback_position_millis, beat_within_bar := 1, tempo_master := true })

/-- What the provider queues for `precise_position` on its first load. -/
def observation (nanos playback_position_millis : UInt64) (effective_bpm_milli : UInt32) :
    ProLinkPrecisePositionObservation where
  deck_id := ⟨1⟩
  track_load_id := ⟨1⟩
  observed_at_nanos := nanos
  playback_position_millis := playback_position_millis
  effective_bpm_milli := effective_bpm_milli
  beat_within_bar := 1

end sample

end lumi_prolink_input
