-- What the provider does, in a few acts: it loads and unloads a deck, gives
-- it a tempo, moves it, reports where it is, starts and stops it, and names
-- the leader. Every call is a list of acts, and the events that it leaves are
-- what the acts say.
import Lumi.Domain.Source
import Lumi.ProLink.Provider

open rust lumi_domain

namespace lumi_prolink_input

/-- A track on a medium: its number, the player and the slot. -/
abbrev Track := UInt32 × UInt8 × String

inductive Act where
  | source (status : DeckSourceStatus)
  | unload (d : DeckId)
  | load (d : DeckId) (face : Face) (track : Track)
  /-- A tempo that is told. -/
  | tempo (d : DeckId) (bpm : UInt32)
  /-- A tempo that is taken over and not told. -/
  | adopt (d : DeckId) (bpm : UInt32)
  /-- A deck that stands is moved; the phrase that was told last stays. -/
  | jump (d : DeckId) (beat : UInt32)
  | report (d : DeckId) (beat : UInt32) (seeked : Bool)
  | play (d : DeckId) (playing : Bool)
  | lead (d : DeckId)
  | hydrate (d : DeckId) (metadata : TrackMetadata)

/-- The phrase that a report tells: the one at the beat, when it was not told last. -/
def new_phrase (face : Face) (beat : UInt32) : Option UInt16 :=
  (phrase_index_at face.metadata beat).filter fun i => some i ≠ face.phrase_index

namespace Act

/-- What is said about a deck, while it is there. -/
def about (x : Faces) (d : DeckId) (f : Face → List DeckObservation) : List DeckObservation :=
  match x.decks d with
  | some face => f face
  | none => []

def tells (x : Faces) : Act → List DeckObservation
  | source status => [.SourceStatusChanged status]
  | unload d => about x d fun face => [.TrackUnloaded d face.track_load_id]
  | load d face _ =>
    [.TrackLoaded d face.metadata face.track_load_id,
      .PlaybackPosition d face.track_load_id face.beat] ++
    (if face.effective_bpm_milli ≠ face.metadata.bpm_milli then
      [.PlaybackTempoChanged d face.track_load_id face.effective_bpm_milli] else []) ++
    [.PlaybackStateChanged d face.track_load_id face.playing]
  | tempo d bpm => about x d fun face => [.PlaybackTempoChanged d face.track_load_id bpm]
  | adopt _ _ => []
  | jump d beat => about x d fun face => [.PlaybackPositionSeeked d face.track_load_id beat]
  | report d beat seeked => about x d fun face =>
    (if face.beat ≠ beat then
      [if seeked then .PlaybackPositionSeeked d face.track_load_id beat
        else .PlaybackPosition d face.track_load_id beat] else []) ++
    (new_phrase face beat).toList.map (.PhraseChanged d face.track_load_id ·)
  | play d playing => about x d fun face => [.PlaybackStateChanged d face.track_load_id playing]
  | lead d => about x d fun face => [.LeaderChanged d face.track_load_id]
  | hydrate d metadata => about x d fun face =>
    [.TrackMetadataHydrated d metadata face.track_load_id]

/-- The faces with the face of the deck changed. -/
def change (x : Faces) (d : DeckId) (f : Face → Face) : Faces := x.put d ((x.decks d).map f)

def perform (x : Faces) : Act → Faces
  | source _ => x
  | unload d => x.without d
  | load d face _ => x.put d (some face)
  | tempo d bpm | adopt d bpm => change x d fun face => { face with effective_bpm_milli := bpm }
  | jump d beat => change x d fun face => { face with beat }
  | report d beat _ => change x d fun face =>
    { face with beat, phrase_index := (new_phrase face beat).or face.phrase_index }
  | play d playing => change x d fun face => { face with playing }
  | lead d => if (x.decks d).isSome then { x with leader := some d } else x
  | hydrate d metadata => change x d fun face => { face with metadata, phrase_index := none }

/-- The track that each deck holds. -/
def hold (tracks : DeckId → Option Track) : Act → DeckId → Option Track
  | unload d => Function.update tracks d none
  | load d _ track => Function.update tracks d (some track)
  | _ => tracks

/-- The load that the act makes. -/
def loads : Act → Option TrackLoadId
  | load _ face _ => some face.track_load_id
  | _ => none

end Act

def perform_all (x : Faces) (acts : List Act) : Faces := acts.foldl Act.perform x

/-- What the acts say, one after the other. -/
def script (x : Faces) : List Act → List DeckObservation
  | [] => []
  | act :: acts => act.tells x ++ script (act.perform x) acts

theorem perform_all_append (x : Faces) (acts acts' : List Act) :
    perform_all x (acts ++ acts') = perform_all (perform_all x acts) acts' :=
  List.foldl_append

theorem script_append (x : Faces) (acts acts' : List Act) :
    script x (acts ++ acts') = script x acts ++ script (perform_all x acts) acts' := by
  induction acts generalizing x with
  | nil => rfl
  | cons act acts ih => simp [script, ih, perform_all]

section optional

variable {x : Faces} {d : DeckId} {face : Face}

theorem script_ite (x : Faces) (c : Prop) [Decidable c] (act : Act) :
    script x (if c then [act] else []) = if c then act.tells x else [] := by
  split <;> simp [script]

theorem perform_ite (x : Faces) (c : Prop) [Decidable c] (act : Act) :
    perform_all x (if c then [act] else []) = if c then act.perform x else x := by
  split <;> rfl

variable (h : x.decks d = some face)
include h

theorem about_some (f : Face → List DeckObservation) : Act.about x d f = f face := by
  simp [Act.about, h]

theorem change_some (f : Face → Face) : Act.change x d f = x.put d (some (f face)) := by
  simp [Act.change, h]

theorem decks_change (f : Face → Face) : (Act.change x d f).decks d = some (f face) := by
  simp [Act.change, Faces.put, h]

theorem change_ite (c : Prop) [Decidable c] (f : Face → Face) :
    (if c then Act.change x d f else x) = x.put d (some (if c then f face else face)) := by
  split
  · exact change_some h f
  · exact (put_same h).symm

omit h

end optional

/-! ## The faces of the provider -/

def LoadedDeck.face (deck : LoadedDeck) : Face where
  metadata := deck.metadata
  track_load_id := deck.track_load_id
  beat := deck.beat
  effective_bpm_milli := deck.effective_bpm_milli
  playing := deck.playing
  phrase_index := deck.phrase_index

def LoadedDeck.track (deck : LoadedDeck) : Track :=
  (deck.identity.rekordbox_id, deck.identity.source_player, deck.identity.source_slot)

namespace ProLinkDeckSourceProvider

variable {F : Type} {p q : ProLinkDeckSourceProvider} {os : List DeckObservation} {d : DeckId}
  {time : MonotonicTime} {call : Method F Unit} {deck : LoadedDeck}

def faces (self : ProLinkDeckSourceProvider) : Faces where
  decks d := self.decks[d]?.map LoadedDeck.face
  leader := self.leader_deck_id

def tracks (self : ProLinkDeckSourceProvider) : DeckId → Option Track :=
  fun d => self.decks[d]?.map LoadedDeck.track

theorem faces_insert (hdecks : q.decks = p.decks.insert d deck)
    (hleader : q.leader_deck_id = p.leader_deck_id) : q.faces = p.faces.put d (some deck.face) := by
  apply Faces.ext
  · funext a
    simp only [faces, hdecks, map_get_insert, Faces.put, Function.update_apply]
    by_cases h : d = a
    · simp [h]
    · simp [h, Ne.symm h]
  · exact hleader

theorem tracks_insert (hdecks : q.decks = p.decks.insert d deck) :
    q.tracks = Function.update p.tracks d (some deck.track) := by
  funext a
  simp only [tracks, hdecks, map_get_insert, Function.update_apply]
  by_cases h : d = a
  · simp [h]
  · simp [h, Ne.symm h]

theorem tracks_same {track : Option Track} (h : p.decks[d]?.map LoadedDeck.track = track) :
    Function.update p.tracks d track = p.tracks :=
  Function.update_eq_self_iff.mpr h.symm

/-- The state differs by what was told, and perhaps by what is for the clock. -/
structure Told (p : ProLinkDeckSourceProvider) (time : MonotonicTime)
    (os : List DeckObservation) (q : ProLinkDeckSourceProvider) : Prop where
  decks : q.decks = p.decks
  leader : q.leader_deck_id = p.leader_deck_id
  next : q.next_track_load_id = p.next_track_load_id
  sequence : q.sequence.toNat = p.sequence.toNat + os.length
  events : q.pending_events = p.pending_events ++ enveloped SOURCE_ID time p.sequence os

/-- The call did the acts: the faces and the tracks are what they leave, the events are what they
tell, and their loads have new numbers. -/
structure Enacts (p : ProLinkDeckSourceProvider) (time : MonotonicTime) (acts : List Act)
    (q : ProLinkDeckSourceProvider) : Prop where
  faces : q.faces = perform_all p.faces acts
  tracks : q.tracks = acts.foldl Act.hold p.tracks
  sequence : q.sequence.toNat = p.sequence.toNat + (script p.faces acts).length
  events : q.pending_events = p.pending_events ++
    enveloped SOURCE_ID time p.sequence (script p.faces acts)
  next : p.next_track_load_id ≤ q.next_track_load_id
  loads : (acts.filterMap Act.loads).Pairwise (·.value < ·.value)
  numbers : ∀ l ∈ acts.filterMap Act.loads,
    p.next_track_load_id ≤ l.value ∧ l.value < q.next_track_load_id

section told

variable {p q r : ProLinkDeckSourceProvider} {time : MonotonicTime}
  {os os' : List DeckObservation} {acts acts' : List Act}

theorem Told.trans (h : Told p time os q) (h' : Told q time os' r) : Told p time (os ++ os') r where
  decks := h'.decks.trans h.decks
  leader := h'.leader.trans h.leader
  next := h'.next.trans h.next
  sequence := by
    rw [h'.sequence, h.sequence, List.length_append]
    omega
  events := by
    rw [h'.events, h.events, enveloped_append h.sequence, List.append_assoc]

theorem Told.faces (h : Told p time os q) : q.faces = p.faces := by
  unfold ProLinkDeckSourceProvider.faces
  rw [h.decks, h.leader]

theorem Told.tracks (h : Told p time os q) : q.tracks = p.tracks := by
  unfold ProLinkDeckSourceProvider.tracks
  rw [h.decks]

theorem Enacts.trans (h : Enacts p time acts q) (h' : Enacts q time acts' r) :
    Enacts p time (acts ++ acts') r where
  faces := by rw [h'.faces, h.faces, perform_all_append]
  tracks := by rw [h'.tracks, h.tracks, List.foldl_append]
  sequence := by
    rw [h'.sequence, h.sequence, script_append, List.length_append, h.faces]
    omega
  events := by
    rw [h'.events, h.events, script_append, enveloped_append h.sequence, h.faces, List.append_assoc]
  next := UInt64.le_trans h.next h'.next
  loads := by
    rw [List.filterMap_append, List.pairwise_append]
    refine ⟨h.loads, h'.loads, ?_⟩
    intro l hl l' hl'
    exact UInt64.lt_of_lt_of_le (h.numbers l hl).2 (h'.numbers l' hl').1
  numbers := by
    intro l hl
    rw [List.filterMap_append, List.mem_append] at hl
    rcases hl with hl | hl
    · exact ⟨(h.numbers l hl).1, UInt64.lt_of_lt_of_le (h.numbers l hl).2 h'.next⟩
    · exact ⟨UInt64.le_trans h.next (h'.numbers l hl).1, (h'.numbers l hl).2⟩

/-- Acts without a load, where the decks are settled by hand. -/
theorem Told.enacts (h : Told p time os q) (hscript : script p.faces acts = os)
    (hfaces : r.faces = perform_all p.faces acts)
    (htracks : r.tracks = acts.foldl Act.hold p.tracks)
    (hsequence : r.sequence = q.sequence) (hevents : r.pending_events = q.pending_events)
    (hnext : r.next_track_load_id = q.next_track_load_id)
    (hloads : acts.filterMap Act.loads = []) : Enacts p time acts r where
  faces := hfaces
  tracks := htracks
  sequence := by rw [hsequence, h.sequence, hscript]
  events := by rw [hevents, h.events, hscript]
  next := by
    rw [hnext, h.next]
    exact UInt64.le_refl _
  loads := by
    rw [hloads]
    exact List.Pairwise.nil
  numbers := by
    rw [hloads]
    intro l hl
    cases hl

theorem Told.refl (p : ProLinkDeckSourceProvider) (time : MonotonicTime) : Told p time [] p :=
  ⟨rfl, rfl, rfl, rfl, (List.append_nil _).symm⟩

theorem Enacts.refl (p : ProLinkDeckSourceProvider) (time : MonotonicTime) : Enacts p time [] p :=
  (Told.refl p time).enacts rfl rfl rfl rfl rfl rfl rfl

end told

/-! ## Small steps -/

/-- A counter is at its end. -/
def Overflows : ProLinkProviderError F → Prop
  | .SequenceOverflow | .TrackLoadIdOverflow | .TimingGenerationOverflow => True
  | _ => False

/-- The call tells the observations, unless a counter overflows. -/
def Tells (call : Method F Unit) (p : ProLinkDeckSourceProvider) (time : MonotonicTime)
    (os : List DeckObservation) : Prop :=
  Call.Ends Overflows call p fun q o => o = .ok () ∧ Told p time os q

theorem emit_tells (time : MonotonicTime) (o : DeckObservation) (p : ProLinkDeckSourceProvider) :
    Tells (F := F) (emit time o) p time [o] := by
  unfold Tells emit
  apply Call.ends_get_bind
  cases h : checked_add p.sequence 1 with
  | none => exact .inl ⟨.SequenceOverflow, rfl, trivial⟩
  | some n =>
    right
    refine ⟨rfl, rfl, rfl, rfl, (checked_add_eq_some.mp h).symm, ?_⟩
    simp only [enveloped, checked_add_eq h]
    rfl

theorem advance_tells (p : ProLinkDeckSourceProvider) (time : MonotonicTime) :
    Tells (F := F) advance_timing_generation p time [] := by
  unfold Tells advance_timing_generation
  apply Call.ends_get_bind
  cases checked_add p.timing_generation 1 with
  | none => exact .inl ⟨.TimingGenerationOverflow, rfl, trivial⟩
  | some n => exact .inr ⟨rfl, rfl, rfl, rfl, rfl, (List.append_nil _).symm⟩

theorem when_tells (c : Bool)
    (h : Tells call p time os) : Tells (Call.when c call) p time (if c then os else []) := by
  cases c with
  | true => exact h
  | false => exact .inr ⟨rfl, Told.refl p time⟩

theorem Tells.andThen {next : Method F Unit} {os' : List DeckObservation} (h : Tells call p time os)
    (h' : ∀ q, Tells next q time os') : Tells (call >>= fun _ => next) p time (os ++ os') := by
  apply Call.Ends.followed_by h
  intro q hq
  exact (h' q).mono fun r o hr => ⟨hr.1, hq.trans hr.2⟩

end ProLinkDeckSourceProvider

end lumi_prolink_input
