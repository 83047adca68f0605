-- The deck source of the local playback. The client owns the audio; the
-- provider keeps a shadow of the two decks and sends the differences of their
-- transport as observations of one source.
import Lumi.Call
import Lumi.Domain.Source

open rust lumi_domain

namespace lumi_local_playback

def LOCAL_SOURCE_ID : UInt64 := 20

structure LocalDeck where
  track_load_id : TrackLoadId
  metadata : TrackMetadata
  beat : UInt32
  phrase_index : UInt16
  playing : Bool
  pending_phrase_activation : Bool

structure LocalPlaybackDeckSourceProvider where
  source_id : SourceId
  decks : BTreeMap DeckId LocalDeck
  leader_deck_id : Option DeckId
  next_track_load_id : UInt64
  sequence : UInt64
  pending_events : List DomainEvent

inductive LocalPlaybackError where
  | UnknownDeck (deck_id : DeckId)
  | DeckNotLoaded (deck_id : DeckId)
  | StaleTrackLoad (expected actual : TrackLoadId)
  | TrackLoadIdOverflow
  | SequenceOverflow
deriving DecidableEq

def validate_deck (deck_id : DeckId) : Except LocalPlaybackError Unit :=
  if deck_id.value = 1 ∨ deck_id.value = 2 then .ok () else .error (.UnknownDeck deck_id)

/-- The phrase of the track at the beat; past the last phrase it is still the last one. -/
def transport_phrase (metadata : TrackMetadata) (beat : UInt32) : UInt16 :=
  match (metadata.phrases.find? fun phrase =>
      beat ≥ phrase.start_beat && beat < phrase.end_beat).or metadata.phrases.getLast? with
  | some phrase => phrase.index
  | none => 0

namespace LocalPlaybackDeckSourceProvider

/-- A method of the provider. -/
abbrev Method (α : Type) := Call LocalPlaybackDeckSourceProvider LocalPlaybackError α

def emit (at_time : MonotonicTime) (observation : DeckObservation) : Method Unit := do
  let self ← Call.get
  let sequence ← Call.lift (Outcome.ok_or (checked_add self.sequence 1) .SequenceOverflow)
  Call.modify fun self => { self with
    sequence
    pending_events := self.pending_events ++
      [.Observation ⟨self.source_id, ⟨sequence⟩, at_time, observation⟩] }

def new (at_time : MonotonicTime) : Outcome LocalPlaybackError LocalPlaybackDeckSourceProvider :=
  let provider : LocalPlaybackDeckSourceProvider :=
    { source_id := ⟨LOCAL_SOURCE_ID⟩
      decks := ∅
      leader_deck_id := none
      next_track_load_id := 1
      sequence := 0
      pending_events := [] }
  match (emit at_time (.SourceStatusChanged .Ready)).run provider with
  | (provider, .ok ()) => .ok provider
  | (_, .err e) => .err e
  | (_, .panicked) => .panicked

/-! ## The calls -/

variable (deck_id : DeckId)

def set_leader (at_time : MonotonicTime) : Method Unit := do
  let self ← Call.get
  let deck ← Call.lift (Outcome.ok_or self.decks[deck_id]? (.DeckNotLoaded deck_id))
  Call.modify fun self => { self with leader_deck_id := some deck_id }
  emit at_time (.LeaderChanged deck_id deck.track_load_id)

def emit_position_state (at_time : MonotonicTime) : Method Unit := do
  let self ← Call.get
  let deck ← Call.lift (Outcome.ok_or self.decks[deck_id]? (.DeckNotLoaded deck_id))
  emit at_time (.PlaybackPosition deck_id deck.track_load_id 0)
  emit at_time (.PhraseChanged deck_id deck.track_load_id 0)
  emit at_time (.PlaybackStateChanged deck_id deck.track_load_id false)

/-- What `load_track` says first: the track that the deck held is gone. -/
def unload_previous (at_time : MonotonicTime) : Method Unit := do
  let self ← Call.get
  match self.decks[deck_id]? with
  | some previous => emit at_time (.TrackUnloaded deck_id previous.track_load_id)
  | none => pure ()

/-- A deck right after `load_track` has put the track on it. -/
def loaded_deck (metadata : TrackMetadata) (track_load_id : TrackLoadId) : LocalDeck where
  track_load_id := track_load_id
  metadata := metadata
  beat := 0
  phrase_index := 0
  playing := false
  pending_phrase_activation := true

def load_track (metadata : TrackMetadata) (at_time : MonotonicTime) : Method TrackLoadId := do
  Call.lift (Outcome.lift id (validate_deck deck_id))
  unload_previous deck_id at_time
  let self ← Call.get
  let track_load_id : TrackLoadId := ⟨self.next_track_load_id⟩
  let next_track_load_id ← Call.lift
    (Outcome.ok_or (checked_add self.next_track_load_id 1) .TrackLoadIdOverflow)
  Call.modify fun self => { self with
    next_track_load_id
    decks := self.decks.insert deck_id (loaded_deck metadata track_load_id) }
  emit at_time (.TrackLoaded deck_id metadata track_load_id)
  emit_position_state deck_id at_time
  let self ← Call.get
  Call.when self.leader_deck_id.isNone (set_leader deck_id at_time)
  pure track_load_id

/-- The deck after a transport update, and whether the update tells its phrase. -/
def transported (deck : LocalDeck) (beat : UInt32) (playing : Bool) : LocalDeck × Bool :=
  let duration := deck.metadata.duration_beats
  let normalized_beat := min beat duration
  let phrase_index := transport_phrase deck.metadata normalized_beat
  let normalized_playing := playing && normalized_beat < duration
  let phrase_changed : Bool := deck.phrase_index ≠ phrase_index
  let started_playing := !deck.playing && normalized_playing
  let should_activate_phrase := normalized_playing &&
    (phrase_changed || (started_playing && deck.pending_phrase_activation))
  ({ deck with
      beat := normalized_beat
      phrase_index
      playing := normalized_playing
      pending_phrase_activation :=
        if phrase_changed && !normalized_playing then true
        else if should_activate_phrase then false
        else deck.pending_phrase_activation },
    phrase_changed || should_activate_phrase)

def update_transport (track_load_id : TrackLoadId) (beat : UInt32) (playing : Bool)
    (at_time : MonotonicTime) : Method Unit := do
  let self ← Call.get
  let previous ← Call.lift (Outcome.ok_or self.decks[deck_id]? (.DeckNotLoaded deck_id))
  if previous.track_load_id ≠ track_load_id then
    Call.lift (.err (.StaleTrackLoad previous.track_load_id track_load_id))
  else do
    let (deck, tells_phrase) := transported previous beat playing
    Call.modify fun self => { self with decks := self.decks.insert deck_id deck }
    Call.when (previous.beat ≠ deck.beat) (emit at_time
      (if deck.beat < previous.beat then .PlaybackPositionSeeked deck_id track_load_id deck.beat
        else .PlaybackPosition deck_id track_load_id deck.beat))
    Call.when (previous.playing ≠ deck.playing)
      (emit at_time (.PlaybackStateChanged deck_id track_load_id deck.playing))
    Call.when tells_phrase
      (emit at_time (.PhraseChanged deck_id track_load_id deck.phrase_index))

def clear (at_time : MonotonicTime) : Method Unit := do
  let self ← Call.get
  Call.for_each (fun (deck_id, deck) => emit at_time (.TrackUnloaded deck_id deck.track_load_id))
    self.decks.toList
  Call.modify fun self => { self with decks := ∅, leader_deck_id := none }

def drain_events (self : LocalPlaybackDeckSourceProvider) :
    LocalPlaybackDeckSourceProvider × List DomainEvent :=
  ({ self with pending_events := [] }, self.pending_events)

end LocalPlaybackDeckSourceProvider

/-- A call of the engine on the provider. -/
inductive ProviderCall where
  | load_track (deck_id : DeckId) (metadata : TrackMetadata)
  | set_leader (deck_id : DeckId)
  | update_transport (deck_id : DeckId) (track_load_id : TrackLoadId) (beat : UInt32)
      (playing : Bool)
  | clear

open LocalPlaybackDeckSourceProvider in
def ProviderCall.method (at_time : MonotonicTime) : ProviderCall → Method Unit
  | load_track deck_id metadata => do
    let _ ← LocalPlaybackDeckSourceProvider.load_track deck_id metadata at_time
    pure ()
  | set_leader deck_id => LocalPlaybackDeckSourceProvider.set_leader deck_id at_time
  | update_transport deck_id track_load_id beat playing =>
    LocalPlaybackDeckSourceProvider.update_transport deck_id track_load_id beat playing at_time
  | clear => LocalPlaybackDeckSourceProvider.clear at_time

end lumi_local_playback
