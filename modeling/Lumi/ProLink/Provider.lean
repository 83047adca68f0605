-- The Pro DJ Link provider. It keeps a shadow of every loaded deck, reads
-- the messages of the bridge against it, and sends the differences as
-- observations of one source.
import Lumi.Call
import Lumi.ProLink.Bridge
import Lumi.ProLink.Positions

open rust lumi_domain

namespace lumi_prolink_input

def SOURCE_ID : SourceId := ⟨31⟩

def DEFAULT_TRACK_MINUTES : Nat := 10

structure ProLinkTrackIdentity where
  rekordbox_id : UInt32
  source_player : UInt8
  source_slot : String
  signature : Option String
deriving DecidableEq

structure ProLinkTimingObservation where
  deck_id : DeckId
  observed_at_nanos : UInt64
  absolute_beat : UInt32
  effective_bpm_milli : UInt32
  beat_within_bar : UInt8
  playing : Bool
  generation : UInt64
  discontinuity : Bool

structure ProLinkPrecisePositionObservation where
  deck_id : DeckId
  track_load_id : TrackLoadId
  observed_at_nanos : UInt64
  playback_position_millis : UInt64
  effective_bpm_milli : UInt32
  beat_within_bar : UInt8
deriving DecidableEq

structure ProLinkAuthoritativePosition where
  deck_id : DeckId
  track_load_id : TrackLoadId
  absolute_beat : UInt32
  effective_bpm_milli : UInt32
  playing : Bool
  generation : UInt64
  discontinuity : Bool

/-- The instants of the packets are diagnostics, except that a beat packet came at all. -/
structure LoadedDeck where
  identity : ProLinkTrackIdentity
  track_load_id : TrackLoadId
  metadata : TrackMetadata
  beat : UInt32
  last_status_beat : UInt32
  last_status_observed_at_nanos : UInt64
  pending_status_discontinuity : Option PendingStatusDiscontinuity
  last_status_discontinuity : Option StatusDiscontinuity
  phrase_index : Option UInt16
  precise_position_seen : Bool
  exact_beat_received : Bool
  last_precise_position_millis : Option UInt64
  last_precise_position_observed_at_nanos : Option UInt64
  pending_precise_discontinuity : Option PendingPreciseDiscontinuity
  last_position_observed_at_nanos : UInt64
  effective_bpm_milli : UInt32
  playing : Bool
  discontinuity_revision : UInt64

structure ProLinkDeckSourceProvider where
  sequence : UInt64
  next_track_load_id : UInt64
  decks : BTreeMap DeckId LoadedDeck
  signatures : BTreeMap UInt8 (Option String)
  leader_deck_id : Option DeckId
  pending_events : List DomainEvent
  source_status : DeckSourceStatus
  timing_generation : UInt64
  timing_observations : List ProLinkTimingObservation
  precise_position_observations : List ProLinkPrecisePositionObservation

inductive ProLinkProviderError (F : Type) where
  | SequenceOverflow
  | TrackLoadIdOverflow
  | TimingGenerationOverflow
  | LoadedDeckMissing
  | InvalidBpm (bpm : F)
  | InvalidBeatNumber (beat_number : Int)
  | InvalidTrack (error : TrackValidationError)

/-! ## Conversions -/

def source_status : SourceCondition → DeckSourceStatus
  | .Starting | .Discovering => .Starting
  | .Ready => .Ready
  | .Degraded => .Degraded
  | .Stopped => .Disconnected

def bpm_milli {F : Type} [Binary64 F] (bpm : F) : Except (ProLinkProviderError F) UInt32 :=
  let milli := Binary64.round (Binary64.mul bpm (Binary64.literal 1000))
  if Binary64.le (Binary64.literal 20000) milli && Binary64.le milli (Binary64.literal 300000) then
    .ok (Binary64.as_u32 milli)
  else .error (.InvalidBpm bpm)

def placeholder_duration_beats (bpm_milli current_beat : UInt32) : UInt32 :=
  let ten_minutes :=
    UInt32.ofNat (min (bpm_milli.toNat * DEFAULT_TRACK_MINUTES) (2 ^ 32 - 1) / 1000)
  max ten_minutes (u32_saturating_add current_beat 1)

def track_identity_key (identity : ProLinkTrackIdentity) : UInt64 :=
  identity.source_player.toUInt64 <<< 56 ||| identity.rekordbox_id.toUInt64

/-- `u32::try_from(beat_number)` and `saturating_sub(1)`. -/
def status_beat {F : Type} (beat_number : Int) : Except (ProLinkProviderError F) UInt32 :=
  if 0 ≤ beat_number ∧ beat_number < 2 ^ 32 then .ok (UInt32.ofNat (beat_number.toNat - 1))
  else .error (.InvalidBeatNumber beat_number)

namespace ProLinkDeckSourceProvider

variable {F : Type}

/-- A method of the provider. -/
abbrev Method (F α : Type) := Call ProLinkDeckSourceProvider (ProLinkProviderError F) α

/-! ## Small steps -/

def envelope (sequence : UInt64) (time : MonotonicTime) (observation : DeckObservation) :
    DomainEvent :=
  .Observation ⟨SOURCE_ID, ⟨sequence⟩, time, observation⟩

def emit (time : MonotonicTime) (observation : DeckObservation) : Method F Unit := do
  let self ← Call.get
  let sequence ← Call.lift (Outcome.ok_or (checked_add self.sequence 1) .SequenceOverflow)
  Call.modify fun self => { self with
    sequence
    pending_events := self.pending_events ++ [envelope sequence time observation] }

def advance_timing_generation : Method F Unit := do
  let self ← Call.get
  let timing_generation ← Call.lift
    (Outcome.ok_or (checked_add self.timing_generation 1) .TimingGenerationOverflow)
  Call.modify fun self => { self with timing_generation }

variable (self : ProLinkDeckSourceProvider)

/-- `if let Some(deck) = self.decks.get_mut(&deck_id) { .. }`. -/
def update_deck (deck_id : DeckId) (f : LoadedDeck → LoadedDeck) : ProLinkDeckSourceProvider :=
  match self.decks[deck_id]? with
  | some deck => { self with decks := self.decks.insert deck_id (f deck) }
  | none => self

def observe_timing (observation : ProLinkTimingObservation) : ProLinkDeckSourceProvider :=
  { self with timing_observations := self.timing_observations ++ [observation] }

def update_source_status (status : DeckSourceStatus) (time : MonotonicTime) : Method F Unit := do
  let self ← Call.get
  Call.when (self.source_status ≠ status) do
    Call.modify fun self => { self with source_status := status }
    emit time (.SourceStatusChanged status)

def unload_deck (deck_id : DeckId) (time : MonotonicTime) : Method F Unit := do
  let self ← Call.get
  match self.decks[deck_id]? with
  | some previous => do
    Call.modify fun self => { self with decks := self.decks.erase deck_id }
    emit time (.TrackUnloaded deck_id previous.track_load_id)
    Call.modify fun self => { self with
      leader_deck_id := if self.leader_deck_id = some deck_id then none else self.leader_deck_id }
  | none =>
    Call.modify fun self => { self with
      leader_deck_id := if self.leader_deck_id = some deck_id then none else self.leader_deck_id }

/-- `new` starts the source and says so. -/
def new (time : MonotonicTime) : ProLinkDeckSourceProvider where
  sequence := 1
  next_track_load_id := 1
  decks := ∅
  signatures := ∅
  leader_deck_id := none
  pending_events := [envelope 1 time (.SourceStatusChanged .Starting)]
  source_status := .Starting
  timing_generation := 0
  timing_observations := []
  precise_position_observations := []

/-! ## Status frames -/

/-- The three marks that `apply_status` sets on its way. -/
structure StatusMarks where
  discontinuity : Bool
  stopped_timing_changed : Bool
  playing_tempo_changed : Bool

/-- What `apply_status` reads out of a frame before it changes anything. -/
structure StatusReading where
  deck_id : DeckId
  identity : ProLinkTrackIdentity
  track_bpm_milli : UInt32
  effective_bpm_milli : UInt32
  beat : UInt32
  observed_at_nanos : UInt64

section status

variable [Binary64 F] (status : DeckStatus F) (reading : StatusReading) (time : MonotonicTime)

/-- A deck right after `apply_status` has loaded it. -/
def loaded_deck (metadata : TrackMetadata) (track_load_id : TrackLoadId)
    (timing_generation : UInt64) : LoadedDeck where
  identity := reading.identity
  track_load_id := track_load_id
  metadata := metadata
  beat := reading.beat
  last_status_beat := reading.beat
  last_status_observed_at_nanos := reading.observed_at_nanos
  pending_status_discontinuity := none
  last_status_discontinuity := none
  phrase_index := none
  precise_position_seen := false
  exact_beat_received := false
  last_precise_position_millis := none
  last_precise_position_observed_at_nanos := none
  pending_precise_discontinuity := none
  last_position_observed_at_nanos := reading.observed_at_nanos
  effective_bpm_milli := reading.effective_bpm_milli
  playing := status.playing
  discontinuity_revision := timing_generation

/-- What is known of a track before the library is asked. -/
def placeholder_track : Except TrackValidationError TrackMetadata :=
  TrackMetadata.try_new_unanalyzed ⟨track_identity_key reading.identity⟩
    ("External track " ++ toString reading.identity.rekordbox_id.toNat) status.device_name
    reading.track_bpm_milli ⟨.C, .Minor⟩
    (placeholder_duration_beats reading.track_bpm_milli reading.beat)

def allocate_track_load_id : Method F TrackLoadId := do
  let self ← Call.get
  let next_track_load_id ← Call.lift
    (Outcome.ok_or (checked_add self.next_track_load_id 1) .TrackLoadIdOverflow)
  Call.modify fun self => { self with next_track_load_id }
  pure ⟨self.next_track_load_id⟩

/-- The branch of `apply_status` for a track that the deck does not hold. -/
def load_status : Method F StatusMarks := do
  let deck_id := reading.deck_id
  advance_timing_generation
  unload_deck deck_id time
  let track_load_id ← allocate_track_load_id
  let metadata ← Call.lift (Outcome.lift .InvalidTrack (placeholder_track status reading))
  Call.modify fun self =>
    let deck := loaded_deck status reading metadata track_load_id self.timing_generation
    { self with decks := self.decks.insert deck_id deck }
  emit time (.TrackLoaded deck_id metadata track_load_id)
  emit time (.PlaybackPosition deck_id track_load_id reading.beat)
  Call.when (reading.effective_bpm_milli ≠ reading.track_bpm_milli)
    (emit time (.PlaybackTempoChanged deck_id track_load_id reading.effective_bpm_milli))
  emit time (.PlaybackStateChanged deck_id track_load_id status.playing)
  pure ⟨true, true, false⟩

/-- A stopped deck that reports another beat was moved by hand. -/
def status_seeks (previous : LoadedDeck) : Bool :=
  !previous.playing && previous.beat ≠ reading.beat &&
    position_is_discontinuous F previous.beat reading.beat
      previous.last_position_observed_at_nanos reading.observed_at_nanos
      previous.effective_bpm_milli previous.playing

def status_discontinuity_candidate (previous : LoadedDeck) : Bool :=
  previous.playing && status.playing &&
    status_jump_can_be_discontinuity previous.last_status_beat reading.beat &&
    position_is_discontinuous F previous.last_status_beat reading.beat
      previous.last_status_observed_at_nanos reading.observed_at_nanos
      previous.effective_bpm_milli true

/-- The landing that the frames confirm, once this frame is read. -/
def status_baseline (previous deck : LoadedDeck) : LoadedDeck :=
  if status_discontinuity_candidate status reading previous then
    let pending := confirmed_status_discontinuity F previous.pending_status_discontinuity
      reading.beat reading.observed_at_nanos reading.effective_bpm_milli
    if pending.confirmation_count ≥ STATUS_DISCONTINUITY_CONFIRMATIONS then
      { deck with
        last_status_beat := reading.beat
        last_status_observed_at_nanos := reading.observed_at_nanos
        pending_status_discontinuity := none
        last_status_discontinuity := some ⟨reading.beat, reading.observed_at_nanos⟩ }
    else { deck with pending_status_discontinuity := some pending }
  else
    { deck with
      last_status_beat := reading.beat
      last_status_observed_at_nanos := reading.observed_at_nanos
      pending_status_discontinuity := none
      last_status_discontinuity := previous.last_status_discontinuity.bind fun candidate =>
        advance_confirmed_status_landing F candidate previous.last_status_beat
          previous.last_status_observed_at_nanos reading.beat reading.observed_at_nanos
          reading.effective_bpm_milli }

/-- The deck once `apply_status` has followed the frame. -/
def followed_deck (previous : LoadedDeck) (discontinuity : Bool) (timing_generation : UInt64)
    (deck : LoadedDeck) : LoadedDeck :=
  let deck := { deck with
    beat := if status_seeks (F := F) reading previous || !previous.playing then reading.beat
      else deck.beat
    last_position_observed_at_nanos := reading.observed_at_nanos }
  let deck := status_baseline status reading previous deck
  { deck with
    effective_bpm_milli := reading.effective_bpm_milli
    playing := status.playing
    discontinuity_revision := if discontinuity then timing_generation
      else deck.discontinuity_revision }

/-- The branch of `apply_status` for the track that the deck holds. -/
def follow_status (previous : LoadedDeck) : Method F StatusMarks := do
  let deck_id := reading.deck_id
  let track_load_id := previous.track_load_id
  let tempo_changed : Bool := previous.effective_bpm_milli ≠ reading.effective_bpm_milli
  Call.when tempo_changed
    (emit time (.PlaybackTempoChanged deck_id track_load_id reading.effective_bpm_milli))
  let seeked := status_seeks (F := F) reading previous
  Call.when (previous.beat ≠ reading.beat && seeked) do
    advance_timing_generation
    emit time (.PlaybackPositionSeeked deck_id track_load_id reading.beat)
  Call.when (previous.beat ≠ reading.beat && !seeked && !previous.playing)
    (emit time (.PlaybackPosition deck_id track_load_id reading.beat))
  let started := !previous.playing && status.playing
  Call.when started advance_timing_generation
  Call.when (previous.playing ≠ status.playing)
    (emit time (.PlaybackStateChanged deck_id track_load_id status.playing))
  let discontinuity := seeked || started
  Call.modify fun self => self.update_deck deck_id
    (followed_deck status reading previous discontinuity self.timing_generation)
  pure ⟨discontinuity, tempo_changed || seeked || previous.playing ≠ status.playing,
    tempo_changed && previous.playing && status.playing⟩

/-- A tempo master that does not lead yet leads from now on. -/
def lead_status (marks : StatusMarks) : Method F StatusMarks := do
  let self ← Call.get
  if status.tempo_master && self.leader_deck_id ≠ some reading.deck_id then do
    advance_timing_generation
    let deck ← Call.lift (Outcome.ok_or self.decks[reading.deck_id]? .LoadedDeckMissing)
    Call.modify fun self => { self with leader_deck_id := some reading.deck_id }
    emit time (.LeaderChanged reading.deck_id deck.track_load_id)
    pure { marks with discontinuity := true, stopped_timing_changed := true }
  else pure marks

/-- A frame is published to the clock only while the deck stands, or for a change of its tempo. -/
def time_status (marks : StatusMarks) (self : ProLinkDeckSourceProvider) :
    ProLinkDeckSourceProvider :=
  if status.tempo_master && !status.playing && marks.stopped_timing_changed then
    self.observe_timing
      { deck_id := reading.deck_id
        observed_at_nanos := reading.observed_at_nanos
        absolute_beat := reading.beat
        effective_bpm_milli := reading.effective_bpm_milli
        beat_within_bar := max status.beat_within_bar 1
        playing := status.playing
        generation := self.timing_generation
        discontinuity := marks.discontinuity }
  else if status.tempo_master && status.playing && marks.playing_tempo_changed &&
      !marks.discontinuity then
    self.observe_timing
      { deck_id := reading.deck_id
        observed_at_nanos := reading.observed_at_nanos
        absolute_beat := (self.decks[reading.deck_id]?.map (·.beat)).getD reading.beat
        effective_bpm_milli := reading.effective_bpm_milli
        beat_within_bar := max status.beat_within_bar 1
        playing := true
        generation := self.timing_generation
        discontinuity := false }
  else self

end status

section messages

variable [Binary64 F]

def read_status (self : ProLinkDeckSourceProvider) (status : DeckStatus F)
    (observed_at_nanos : UInt64) : Except (ProLinkProviderError F) StatusReading := do
  let track_bpm_milli ← bpm_milli status.track_bpm
  let effective_bpm_milli ← bpm_milli status.effective_bpm
  let beat ← status_beat status.beat_number
  let identity :=
    { rekordbox_id := status.rekordbox_id
      source_player := status.source_player
      source_slot := status.source_slot
      signature := self.signatures[status.device_number]?.join }
  .ok { deck_id := ⟨status.device_number⟩, identity, track_bpm_milli, effective_bpm_milli, beat,
        observed_at_nanos }

/-- The two branches of `apply_status` on the deck. -/
def deck_status (status : DeckStatus F) (reading : StatusReading) (time : MonotonicTime) :
    Method F StatusMarks := do
  let self ← Call.get
  match self.decks[reading.deck_id]?.filter (·.identity = reading.identity) with
  | some previous => follow_status status reading time previous
  | none => load_status status reading time

def apply_status (status : DeckStatus F) (observed_at_nanos : UInt64) (time : MonotonicTime) :
    Method F Unit :=
  if status.rekordbox_id = 0 ∨ status.source_player = 0 then
    unload_deck ⟨status.device_number⟩ time
  else do
    let self ← Call.get
    let reading ← Call.lift (Outcome.lift id (read_status self status observed_at_nanos))
    let marks ← deck_status status reading time
    let marks ← lead_status status reading time marks
    Call.modify (time_status status reading marks)

/-! ## Positions -/

def queue_precise_position (position : PrecisePosition) (observed_at_nanos : UInt64)
    (self : ProLinkDeckSourceProvider) : ProLinkDeckSourceProvider :=
  if !position.tempo_master then self
  else match self.decks[(⟨position.device_number⟩ : DeckId)]? with
    | none => self
    | some deck =>
      { self with precise_position_observations := self.precise_position_observations ++
          [{ deck_id := ⟨position.device_number⟩
             track_load_id := deck.track_load_id
             observed_at_nanos
             playback_position_millis := position.playback_position_millis
             effective_bpm_milli := deck.effective_bpm_milli
             beat_within_bar := position.beat_within_bar }] }

def tell_phrase (deck_id : DeckId) (track_load_id : TrackLoadId) (phrase_index : Option UInt16)
    (time : MonotonicTime) : Method F Unit :=
  match phrase_index with
  | some phrase_index => emit time (.PhraseChanged deck_id track_load_id phrase_index)
  | none => pure ()

/-- Where a position leads a deck: the part that beats and precise positions share. A move is
told before the deck takes it, and a new phrase after. -/
def report_position (deck_id : DeckId) (previous : LoadedDeck) (absolute_beat : UInt32)
    (seeked : Bool) (time : MonotonicTime) (taken : UInt64 → LoadedDeck → LoadedDeck) :
    Method F Unit := do
  Call.when (previous.beat ≠ absolute_beat) (emit time
    (if seeked then .PlaybackPositionSeeked deck_id previous.track_load_id absolute_beat
      else .PlaybackPosition deck_id previous.track_load_id absolute_beat))
  let phrase_index := (phrase_index_at previous.metadata absolute_beat).filter fun phrase_index =>
    some phrase_index ≠ previous.phrase_index
  Call.modify fun self => self.update_deck deck_id fun deck =>
    taken self.timing_generation { deck with
      beat := absolute_beat
      phrase_index := phrase_index.or previous.phrase_index }
  tell_phrase deck_id previous.track_load_id phrase_index time

/-- The jump that the frames still support when a beat packet comes. -/
def status_seek (previous : LoadedDeck) (observed_at_nanos : UInt64) : Option StatusDiscontinuity :=
  previous.last_status_discontinuity.filter fun candidate =>
    status_discontinuity_is_still_supported candidate previous.last_status_beat observed_at_nanos

/-- The beat of the track that a beat packet means. -/
def beat_landing (previous : LoadedDeck) (beat : Beat) (observed_at_nanos : UInt64) : UInt32 :=
  match status_seek previous observed_at_nanos with
  | some candidate => align_beat_within_bar candidate.absolute_beat beat.beat_within_bar
  | none =>
    if observed_at_nanos.toNat - previous.last_status_observed_at_nanos.toNat <
        60000000000000 / max previous.effective_bpm_milli.toNat 1 then
      align_beat_within_bar previous.last_status_beat beat.beat_within_bar
    else
      precise_absolute_beat previous.last_status_beat (some previous.beat) beat.beat_within_bar

def beat_seeks (previous : LoadedDeck) (beat : Beat) (observed_at_nanos : UInt64) : Bool :=
  (status_seek previous observed_at_nanos).isSome &&
    u32_abs_diff (beat_landing previous beat observed_at_nanos) previous.beat > 1

/-- A beat packet that is out of order. -/
def beat_is_stale (previous : LoadedDeck) (beat : Beat) (observed_at_nanos : UInt64) : Bool :=
  let absolute_beat := beat_landing previous beat observed_at_nanos
  !beat_seeks previous beat observed_at_nanos &&
    (absolute_beat < previous.beat ||
      (absolute_beat = previous.beat && previous.exact_beat_received))

/-- What a beat packet leaves on the deck besides its beat and phrase. -/
def beat_taken (seeked continuous : Bool) (observed_at_nanos timing_generation : UInt64)
    (deck : LoadedDeck) : LoadedDeck :=
  { deck with
    exact_beat_received := true
    last_position_observed_at_nanos := observed_at_nanos
    pending_precise_discontinuity := if seeked then none else deck.pending_precise_discontinuity
    pending_status_discontinuity := if seeked || continuous then none
      else deck.pending_status_discontinuity
    last_status_discontinuity := if seeked || continuous then none
      else deck.last_status_discontinuity
    discontinuity_revision := if seeked then timing_generation else deck.discontinuity_revision }

def apply_beat (beat : Beat) (observed_at_nanos : UInt64) (time : MonotonicTime) :
    Method F Unit := do
  let self ← Call.get
  match self.decks[(⟨beat.device_number⟩ : DeckId)]?.filter fun _ => beat.tempo_master with
  | none => pure ()
  | some previous =>
    if beat_is_stale previous beat observed_at_nanos then pure ()
    else do
      let absolute_beat := beat_landing previous beat observed_at_nanos
      let seeked := beat_seeks previous beat observed_at_nanos
      let continuous := (status_seek previous observed_at_nanos).isSome &&
        u32_abs_diff absolute_beat previous.beat ≤ 1
      Call.when seeked advance_timing_generation
      report_position ⟨beat.device_number⟩ previous absolute_beat seeked time
        (beat_taken seeked continuous observed_at_nanos)
      Call.modify fun self => self.observe_timing
        { deck_id := ⟨beat.device_number⟩
          observed_at_nanos
          absolute_beat
          effective_bpm_milli := previous.effective_bpm_milli
          beat_within_bar := beat.beat_within_bar
          playing := previous.playing
          generation := self.timing_generation
          discontinuity := seeked }

def apply_tempo_status (tempo : TempoStatus F) (observed_at_nanos : UInt64) : Method F Unit := do
  let self ← Call.get
  match self.decks[(⟨tempo.device_number⟩ : DeckId)]?.filter fun _ => tempo.tempo_master with
  | none => pure ()
  | some deck => do
    let effective_bpm_milli ← Call.lift (Outcome.lift id (bpm_milli tempo.effective_bpm))
    Call.modify fun self => self.observe_timing
      { deck_id := ⟨tempo.device_number⟩
        observed_at_nanos
        absolute_beat := deck.beat
        effective_bpm_milli
        beat_within_bar := max tempo.beat_within_bar 1
        playing := tempo.playing
        generation := self.timing_generation
        discontinuity := false }

def ingest (message : BridgeMessage F) (time : MonotonicTime) : Method F Unit :=
  match message.event with
  | .SourceStatus status => update_source_status (lumi_prolink_input.source_status status) time
  | .DeviceLost device_number => unload_deck ⟨device_number⟩ time
  | .DeckStatus status => apply_status status message.observed_at_nanos time
  | .TrackSignature signature => Call.modify fun self =>
      ({ self with signatures := self.signatures.insert signature.deck_number signature.signature
        : ProLinkDeckSourceProvider }).update_deck ⟨signature.deck_number⟩ fun deck =>
          { deck with identity := { deck.identity with signature := signature.signature } }
  | .Error => update_source_status .Degraded time
  | .Beat beat => apply_beat beat message.observed_at_nanos time
  | .TempoStatus tempo => apply_tempo_status tempo message.observed_at_nanos
  | .PrecisePosition position =>
    Call.modify (queue_precise_position position message.observed_at_nanos)
  | .Hello | .DeviceFound _ | .TrackMetadata _ | .USBMedia _ | .USBMount _ => pure ()

end messages

/-! ## Precise positions -/

section precise

variable (previous : LoadedDeck) (observation : ProLinkPrecisePositionObservation)
  (absolute_beat : UInt32) (known_hot_cue_target : Bool)

def precise_discontinuity_candidate : Bool :=
  if !previous.precise_position_seen then u32_abs_diff previous.beat absolute_beat > 2
  else position_millis_is_discontinuous previous.last_precise_position_millis
    observation.playback_position_millis previous.last_precise_position_observed_at_nanos
    observation.observed_at_nanos previous.metadata.bpm_milli observation.effective_bpm_milli
    previous.playing

def precise_pending : PendingPreciseDiscontinuity :=
  confirmed_precise_discontinuity previous.pending_precise_discontinuity
    { playback_position_millis := observation.playback_position_millis
      absolute_beat
      observed_at_nanos := observation.observed_at_nanos
      track_bpm_milli := previous.metadata.bpm_milli
      effective_bpm_milli := observation.effective_bpm_milli
      playing := previous.playing }

/-- A jump counts when it lands on a hot cue, was seen twice, and the frames tell of it too. -/
def precise_jump_confirmed : Bool :=
  let pending := precise_pending previous observation absolute_beat
  known_hot_cue_target && PRECISE_POSITION_HOT_CUE_CONFIRMATIONS ≤ pending.confirmation_count &&
    (status_corroborates_discontinuity previous.last_status_discontinuity pending.absolute_beat
        observation.observed_at_nanos ||
      (known_hot_cue_target &&
        status_timeline_matches previous.last_status_beat
          previous.last_status_observed_at_nanos pending.absolute_beat
          observation.observed_at_nanos))

/-- The position only becomes the new baseline: it is the first one of a deck that plays, or it
is the beat that the deck has reached already. -/
def precise_position_absorbed : Bool :=
  previous.playing && (!previous.precise_position_seen ||
    (precise_discontinuity_candidate previous observation absolute_beat &&
      u32_abs_diff previous.beat absolute_beat ≤ 1))

/-- The position is a jump that nothing confirms yet. -/
def precise_position_held : Bool :=
  !precise_position_absorbed previous observation absolute_beat &&
    previous.precise_position_seen &&
    precise_discontinuity_candidate previous observation absolute_beat &&
    !precise_jump_confirmed previous observation absolute_beat known_hot_cue_target

/-- The position is a confirmed jump. -/
def precise_position_seeks : Bool :=
  !precise_position_absorbed previous observation absolute_beat &&
    previous.precise_position_seen &&
    precise_discontinuity_candidate previous observation absolute_beat &&
    precise_jump_confirmed previous observation absolute_beat known_hot_cue_target

/-- What every position that is not held leaves on the deck. -/
def precise_baseline (deck : LoadedDeck) : LoadedDeck :=
  { deck with
    precise_position_seen := true
    last_precise_position_millis := some observation.playback_position_millis
    last_precise_position_observed_at_nanos := some observation.observed_at_nanos
    last_position_observed_at_nanos := observation.observed_at_nanos
    effective_bpm_milli := observation.effective_bpm_milli }

/-- What an absorbed position leaves on the deck. -/
def precise_absorbed (deck : LoadedDeck) : LoadedDeck :=
  { precise_baseline observation deck with
    pending_precise_discontinuity := if previous.precise_position_seen then none
      else deck.pending_precise_discontinuity }

/-- What an accepted position leaves on the deck besides its beat and phrase. -/
def precise_taken (seeked : Bool) (timing_generation : UInt64) (deck : LoadedDeck) : LoadedDeck :=
  { precise_baseline observation deck with
    pending_precise_discontinuity := none
    pending_status_discontinuity := if seeked then none else deck.pending_status_discontinuity
    last_status_discontinuity := if seeked then none else deck.last_status_discontinuity
    discontinuity_revision := if seeked then timing_generation else deck.discontinuity_revision }

end precise

/-- The end of `apply_authoritative_position`, for a position that moves the deck. -/
def take_position (observation : ProLinkPrecisePositionObservation) (previous : LoadedDeck)
    (absolute_beat : UInt32) (seeked : Bool) (time : MonotonicTime) :
    Method F (Option ProLinkAuthoritativePosition) := do
  Call.when seeked advance_timing_generation
  report_position observation.deck_id previous absolute_beat seeked time
    (precise_taken observation seeked)
  let self ← Call.get
  Call.when (!previous.precise_position_seen || seeked ||
      previous.effective_bpm_milli ≠ observation.effective_bpm_milli)
    (Call.modify fun self => self.observe_timing
      { deck_id := observation.deck_id
        observed_at_nanos := observation.observed_at_nanos
        absolute_beat
        effective_bpm_milli := observation.effective_bpm_milli
        beat_within_bar := max observation.beat_within_bar 1
        playing := previous.playing
        generation := self.timing_generation
        discontinuity := seeked })
  pure (some
    { deck_id := observation.deck_id
      track_load_id := observation.track_load_id
      absolute_beat
      effective_bpm_milli := observation.effective_bpm_milli
      playing := previous.playing
      generation := self.timing_generation
      discontinuity := seeked })

/-- A deck that plays is moved by its beats, and by a precise position only when it jumps. -/
def apply_authoritative_position (observation : ProLinkPrecisePositionObservation)
    (absolute_beat : UInt32) (known_hot_cue_target : Bool) (time : MonotonicTime) :
    Method F (Option ProLinkAuthoritativePosition) := do
  let self ← Call.get
  match self.decks[observation.deck_id]?.filter (·.track_load_id = observation.track_load_id) with
  | none => pure none
  | some previous =>
    let seeked := precise_position_seeks previous observation absolute_beat known_hot_cue_target
    if precise_position_absorbed previous observation absolute_beat then do
      Call.modify (·.update_deck observation.deck_id (precise_absorbed previous observation))
      pure none
    else if precise_position_held previous observation absolute_beat known_hot_cue_target then do
      Call.modify (·.update_deck observation.deck_id fun deck => { deck with
        pending_precise_discontinuity :=
          some (precise_pending previous observation absolute_beat) })
      pure none
    else if previous.playing && !seeked then do
      Call.modify (·.update_deck observation.deck_id fun deck =>
        { precise_baseline observation deck with pending_precise_discontinuity := none })
      pure none
    else take_position observation previous absolute_beat seeked time

/-! ## Library and media -/

def deck_of_load (track_load_id : TrackLoadId) : Option DeckId :=
  (self.decks.toList.find? (·.2.track_load_id = track_load_id)).map (·.1)

def publish_hydrated_track (track_load_id : TrackLoadId) (metadata : TrackMetadata)
    (time : MonotonicTime) : Method F Bool := do
  let self ← Call.get
  match self.deck_of_load track_load_id with
  | none => pure false
  | some deck_id => do
    Call.modify (·.update_deck deck_id fun deck => { deck with metadata, phrase_index := none })
    emit time (.TrackMetadataHydrated deck_id metadata track_load_id)
    pure true

def invalidate_source_media (source_player : UInt8) (time : MonotonicTime) : Method F Unit := do
  let self ← Call.get
  Call.for_each (unload_deck · time) ((self.decks.toList.filter fun deck =>
    deck.2.identity.source_player = source_player ∧
      deck.2.identity.source_slot = "USB_SLOT").map (·.1))

def clear (time : MonotonicTime) : Method F Unit := do
  let self ← Call.get
  Call.for_each (unload_deck · time) (self.decks.toList.map (·.1))
  Call.modify fun self => { self with leader_deck_id := none }

def begin_bridge_recovery (time : MonotonicTime) : Method F Unit := do
  clear time
  Call.modify fun self => { self with
    signatures := ∅
    leader_deck_id := none
    timing_observations := []
    precise_position_observations := [] }
  update_source_status .Starting time

/-! ## Drains -/

def drain_events : ProLinkDeckSourceProvider × List DomainEvent :=
  ({ self with pending_events := [] }, self.pending_events)

def drain_precise_position_observations :
    ProLinkDeckSourceProvider × List ProLinkPrecisePositionObservation :=
  ({ self with precise_position_observations := [] }, self.precise_position_observations)

def drain_timing_observations : ProLinkDeckSourceProvider × List ProLinkTimingObservation :=
  ({ self with timing_observations := [] },
    self.timing_observations.filter (·.generation = self.timing_generation))

end ProLinkDeckSourceProvider

end lumi_prolink_input
