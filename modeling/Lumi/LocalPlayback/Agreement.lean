-- The local playback and the reducer agree on the decks after every call. On
-- the leader they agree until a track is loaded on the leading deck: the
-- provider unloads the deck and keeps it as leader, and the reducer lets the
-- leader of an unloaded deck go.
import Lumi.LocalPlayback.Provider

open rust replay lumi_domain
open tiling (Tiles)
open Call (Ends ends_get_bind ends_ok_or_bind)

namespace lumi_local_playback

open LocalPlaybackDeckSourceProvider

/-! ## The phrase at a beat -/

/-- The phrases of the track reach from its first beat to its end. -/
def Covered (metadata : TrackMetadata) : Prop :=
  ∀ beat, beat < metadata.duration_beats → (phrase_index_at_beat metadata beat).isSome

section phrases

variable {metadata : TrackMetadata} {beat : UInt32}

theorem duration_pos (metadata : TrackMetadata) : 0 < metadata.duration_beats.toNat := by
  have h := metadata.facts_valid
  unfold validate_track_facts at h
  split_ifs at h with _ _ _ hzero
  rw [Nat.pos_iff_ne_zero]
  intro hn
  exact hzero (UInt32.toNat_inj.mp hn)

theorem phrases_tile (h : metadata.phrases ≠ []) :
    Tiles (·.start_beat.toNat) (·.end_beat.toNat) 0 metadata.phrases
      metadata.duration_beats.toNat := by
  rcases metadata.phrases_valid with ⟨hnone, -⟩ | hvalid
  · exact absurd hnone h
  unfold validate_phrases at hvalid
  rw [if_neg h] at hvalid
  split at hvalid
  · cases hvalid
  rename_i hwalk
  split_ifs at hvalid with hend
  rw [not_not] at hend
  rw [← hend]
  exact (walk_phrases_ok hwalk).2

theorem covered_iff : Covered metadata ↔ metadata.phrases ≠ [] := by
  constructor
  · intro h hnone
    have h0 := h 0 (UInt32.lt_iff_toNat_lt.mpr (duration_pos metadata))
    simp [phrase_index_at_beat, hnone] at h0
  · intro h beat hbeat
    obtain ⟨pre, phrase, post, hphrases, -, hstart, hend, -⟩ :=
      (phrases_tile h).split_at (Nat.zero_le _) (UInt32.lt_iff_toNat_lt.mp hbeat)
    unfold phrase_index_at_beat
    rw [Option.isSome_map, List.find?_isSome]
    refine ⟨phrase, by simp [hphrases], ?_⟩
    rw [Bool.and_eq_true, decide_eq_true_eq, decide_eq_true_eq]
    exact ⟨UInt32.le_iff_toNat_le.mpr hstart, UInt32.lt_iff_toNat_lt.mpr hend⟩

instance (metadata : TrackMetadata) : Decidable (Covered metadata) :=
  decidable_of_iff _ covered_iff.symm

/-- The track of a load is covered by its phrases. -/
def ProviderCall.Covers : ProviderCall → Prop
  | .load_track _ metadata => Covered metadata
  | _ => True

instance : (call : ProviderCall) → Decidable call.Covers
  | .load_track _ metadata => inferInstanceAs (Decidable (Covered metadata))
  | .set_leader _ | .update_transport _ _ _ _ | .clear => inferInstanceAs (Decidable True)

/-- Before the end of the track, the provider and the reducer see one phrase. -/
theorem phrase_index_at_transport (h : Covered metadata) (hbeat : beat < metadata.duration_beats) :
    phrase_index_at_beat metadata beat = some (transport_phrase metadata beat) := by
  have hsome := h beat hbeat
  unfold phrase_index_at_beat at hsome ⊢
  unfold transport_phrase
  rw [Option.isSome_map] at hsome
  obtain ⟨phrase, hphrase⟩ := Option.isSome_iff_exists.mp hsome
  rw [hphrase]
  rfl

theorem phrase_of_mem {phrase : TrackPhrase} (h : phrase ∈ metadata.phrases) :
    (metadata.phrase phrase.index).isSome := by
  obtain ⟨i, hi⟩ := List.mem_iff_getElem?.mp h
  have hindex := metadata.phrases_indexed.get hi
  rw [Nat.zero_add] at hindex
  unfold TrackMetadata.phrase
  rw [hindex, hi]
  rfl

/-- The phrase of the provider is a phrase of the track. -/
theorem transport_phrase_isSome (h : Covered metadata) (beat : UInt32) :
    (metadata.phrase (transport_phrase metadata beat)).isSome := by
  unfold transport_phrase
  split
  · rename_i phrase hphrase
    apply phrase_of_mem
    rcases Option.or_eq_some_iff.mp hphrase with hfound | ⟨-, hlast⟩
    · exact List.mem_of_find?_eq_some hfound
    · exact List.mem_of_getLast? hlast
  · rename_i hnone
    rw [Option.or_eq_none_iff, List.getLast?_eq_none_iff] at hnone
    exact absurd hnone.2 (covered_iff.mp h)

theorem transport_phrase_zero (h : Covered metadata) : transport_phrase metadata 0 = 0 := by
  have hne := covered_iff.mp h
  have htiles := phrases_tile hne
  have hindexed := metadata.phrases_indexed
  unfold transport_phrase
  cases hphrases : metadata.phrases with
  | nil => exact absurd hphrases hne
  | cons phrase phrases =>
    rw [hphrases] at htiles hindexed
    have hstart : phrase.start_beat = 0 := UInt32.toNat_inj.mp htiles.1
    have hend : 0 < phrase.end_beat := UInt32.lt_iff_toNat_lt.mpr htiles.2.1
    rw [List.find?_cons_of_pos (by simp [hstart, hend])]
    exact UInt16.toNat_inj.mp hindexed.1

end phrases

/-! ## What is said -/

def LocalDeck.face (deck : LocalDeck) : Face where
  metadata := deck.metadata
  track_load_id := deck.track_load_id
  beat := deck.beat
  effective_bpm_milli := deck.metadata.bpm_milli
  playing := deck.playing
  phrase_index := some deck.phrase_index

namespace LocalPlaybackDeckSourceProvider

variable {p q r : LocalPlaybackDeckSourceProvider} {time : MonotonicTime} {d : DeckId}
  {os os' : List DeckObservation} {α : Type} {deck : LocalDeck} {call : Method Unit}

/-- The faces of the decks. -/
def shown (self : LocalPlaybackDeckSourceProvider) (d : DeckId) : Option Face :=
  self.decks[d]?.map LocalDeck.face

theorem shown_insert (h : q.decks = p.decks.insert d deck) :
    q.shown = Function.update p.shown d (some deck.face) := by
  funext a
  simp only [shown, h, map_get_insert, Function.update_apply]
  by_cases hd : d = a
  · simp [hd]
  · simp [hd, Ne.symm hd]

/-- The events between the two states are the observations. -/
structure Says (p : LocalPlaybackDeckSourceProvider) (time : MonotonicTime)
    (os : List DeckObservation) (q : LocalPlaybackDeckSourceProvider) : Prop where
  source_id : q.source_id = p.source_id
  sequence : q.sequence.toNat = p.sequence.toNat + os.length
  events : q.pending_events = p.pending_events ++ enveloped p.source_id time p.sequence os

theorem Says.trans (h : Says p time os q) (h' : Says q time os' r) : Says p time (os ++ os') r where
  source_id := h'.source_id.trans h.source_id
  sequence := by
    rw [h'.sequence, h.sequence, List.length_append]
    omega
  events := by
    rw [h'.events, h.events, h.source_id, enveloped_append h.sequence, List.append_assoc]

/-- The observations were told, and the decks and the leader stayed. -/
structure Told (p : LocalPlaybackDeckSourceProvider) (time : MonotonicTime)
    (os : List DeckObservation) (q : LocalPlaybackDeckSourceProvider) : Prop extends
    Says p time os q where
  decks : q.decks = p.decks
  leader : q.leader_deck_id = p.leader_deck_id

theorem Told.refl (p : LocalPlaybackDeckSourceProvider) (time : MonotonicTime) : Told p time [] p :=
  ⟨⟨rfl, rfl, (List.append_nil _).symm⟩, rfl, rfl⟩

theorem Told.trans (h : Told p time os q) (h' : Told q time os' r) : Told p time (os ++ os') r :=
  ⟨h.toSays.trans h'.toSays, h'.decks.trans h.decks, h'.leader.trans h.leader⟩

/-- A counter is at its end. -/
def Overflows (e : LocalPlaybackError) : Prop := e = .SequenceOverflow ∨ e = .TrackLoadIdOverflow

/-- The call tells the observations, unless a counter overflows. -/
def Tells (call : Method Unit) (p : LocalPlaybackDeckSourceProvider) (time : MonotonicTime)
    (os : List DeckObservation) : Prop :=
  Ends Overflows call p fun q o => o = .ok () ∧ Told p time os q

theorem emit_tells (time : MonotonicTime) (o : DeckObservation)
    (p : LocalPlaybackDeckSourceProvider) : Tells (emit time o) p time [o] := by
  unfold Tells emit
  apply ends_get_bind
  refine ends_ok_or_bind ?_ fun _ => .inl (.inl rfl)
  intro n h
  refine Call.ends_modify ⟨rfl, ⟨rfl, (checked_add_eq_some.mp h).symm, ?_⟩, rfl, rfl⟩
  simp only [enveloped, checked_add_eq h]

theorem when_tells (c : Bool) (h : Tells call p time os) :
    Tells (Call.when c call) p time (if c then os else []) := by
  cases c with
  | true => exact h
  | false => exact .inr ⟨rfl, Told.refl p time⟩

theorem Tells.andThen {next : Method Unit} (h : Tells call p time os)
    (h' : ∀ q, Tells next q time os') : Tells (call >>= fun _ => next) p time (os ++ os') := by
  apply Ends.followed_by h
  intro q hq
  exact (h' q).mono fun r o hr => ⟨hr.1, hq.trans hr.2⟩

theorem for_each_tells {α : Type} {f : α → Method Unit} {g : α → DeckObservation}
    (h : ∀ a q, Tells (f a) q time [g a]) (l : List α) (p : LocalPlaybackDeckSourceProvider) :
    Tells (Call.for_each f l) p time (l.map g) := by
  induction l generalizing p with
  | nil => exact .inr ⟨rfl, Told.refl p time⟩
  | cons a l ih => exact (h a p).andThen fun q => ih q

/-! ## The calls -/

/-- What is said about a track that is put on a deck. -/
def load_observations (d : DeckId) (metadata : TrackMetadata) (l : TrackLoadId) :
    List DeckObservation :=
  [.TrackLoaded d metadata l, .PlaybackPosition d l 0, .PhraseChanged d l 0,
    .PlaybackStateChanged d l false]

/-- The track of the deck is unloaded, when there is one. -/
def unload_observations (p : LocalPlaybackDeckSourceProvider) (d : DeckId) : List DeckObservation :=
  p.decks[d]?.toList.map fun deck => .TrackUnloaded d deck.track_load_id

theorem unload_previous_tells (time : MonotonicTime) (d : DeckId)
    (p : LocalPlaybackDeckSourceProvider) :
    Tells (unload_previous d time) p time (p.unload_observations d) := by
  unfold unload_previous unload_observations
  apply ends_get_bind
  cases p.decks[d]? with
  | some previous => exact emit_tells _ _ _
  | none => exact .inr ⟨rfl, Told.refl p time⟩

theorem emit_position_state_tells (time : MonotonicTime) (h : p.decks[d]? = some deck) :
    Tells (emit_position_state d time) p time
      [.PlaybackPosition d deck.track_load_id 0, .PhraseChanged d deck.track_load_id 0,
        .PlaybackStateChanged d deck.track_load_id false] := by
  unfold emit_position_state
  apply ends_get_bind
  rw [h]
  refine ends_ok_or_bind ?_ nofun
  rintro _ ⟨⟩
  exact (emit_tells _ _ _).andThen fun _ => (emit_tells _ _ _).andThen fun _ => emit_tells _ _ _

/-- The deck leads, and it is told. -/
structure Leads (p : LocalPlaybackDeckSourceProvider) (time : MonotonicTime) (d : DeckId)
    (l : TrackLoadId) (q : LocalPlaybackDeckSourceProvider) : Prop extends
    Says p time [.LeaderChanged d l] q where
  decks : q.decks = p.decks
  leader : q.leader_deck_id = some d

theorem set_leader_ends (time : MonotonicTime) (h : p.decks[d]? = some deck) :
    Ends Overflows (set_leader d time) p fun q o =>
      o = .ok () ∧ Leads p time d deck.track_load_id q := by
  unfold set_leader
  apply ends_get_bind
  rw [h]
  refine ends_ok_or_bind ?_ nofun
  rintro _ ⟨⟩
  apply Call.ends_modify_bind
  refine (emit_tells time _ _).mono ?_
  rintro q o ⟨rfl, hq⟩
  exact ⟨rfl, ⟨hq.source_id, hq.sequence, hq.events⟩, hq.decks, hq.leader⟩

/-- After a load the deck holds the new track, and it leads when none did. -/
structure Loads (p : LocalPlaybackDeckSourceProvider) (time : MonotonicTime) (d : DeckId)
    (metadata : TrackMetadata) (l : TrackLoadId) (q : LocalPlaybackDeckSourceProvider) :
    Prop extends
    Says p time (p.unload_observations d ++ load_observations d metadata l ++
      if p.leader_deck_id.isNone then [.LeaderChanged d l] else []) q where
  decks : q.decks = p.decks.insert d (loaded_deck metadata l)
  leader : q.leader_deck_id = p.leader_deck_id.or (some d)

theorem load_track_ends (d : DeckId) (metadata : TrackMetadata)
    (p : LocalPlaybackDeckSourceProvider) (hvalid : validate_deck d = .ok ()) :
    Ends Overflows (load_track d metadata time) p fun q o =>
      (∃ l, o = .ok l) ∧ ∃ l, Loads p time d metadata l q := by
  unfold load_track
  rw [hvalid]
  apply Call.ends_pure_bind (a := ())
  refine Ends.followed_by (unload_previous_tells time d p) ?_
  intro q hq
  apply ends_get_bind
  refine ends_ok_or_bind ?_ fun _ => .inl (.inr rfl)
  intro next _
  apply Call.ends_modify_bind
  refine Ends.followed_by (emit_tells time _ _) ?_
  intro q1 hq1
  have hdeck : q1.decks[d]? = some (loaded_deck metadata ⟨q.next_track_load_id⟩) := by
    rw [hq1.decks, map_get_insert, if_pos rfl]
  refine Ends.followed_by (emit_position_state_tells time hdeck) ?_
  intro q2 hq2
  have hloaded : Says q time [.TrackLoaded d metadata ⟨q.next_track_load_id⟩] q1 :=
    ⟨hq1.source_id, hq1.sequence, hq1.events⟩
  have hsaid : Says p time (p.unload_observations d ++
      load_observations d metadata ⟨q.next_track_load_id⟩) q2 :=
    hq.toSays.trans (hloaded.trans hq2.toSays)
  have hdecks : q2.decks = p.decks.insert d (loaded_deck metadata ⟨q.next_track_load_id⟩) := by
    rw [hq2.decks, hq1.decks, ← hq.decks]
  have hleader : q2.leader_deck_id = p.leader_deck_id := by
    rw [hq2.leader, hq1.leader, ← hq.leader]
  apply ends_get_bind
  rw [hleader]
  cases hlead : p.leader_deck_id with
  | some leader =>
    refine .inr ⟨⟨_, rfl⟩, _, ⟨?_, hdecks, ?_⟩⟩
    · rw [hlead]
      exact (List.append_nil _).symm ▸ hsaid
    · rw [hlead]
      exact hleader.trans hlead
  | none =>
    have hdeck2 : q2.decks[d]? = some (loaded_deck metadata ⟨q.next_track_load_id⟩) := by
      rw [hdecks, map_get_insert, if_pos rfl]
    refine Ends.followed_by (set_leader_ends time hdeck2) ?_
    intro r hr
    refine .inr ⟨⟨_, rfl⟩, _, ⟨?_, hr.decks.trans hdecks, ?_⟩⟩
    · rw [hlead]
      exact hsaid.trans hr.toSays
    · rw [hlead]
      exact hr.leader

/-- What a transport update says: where the deck is, whether it plays and the phrase, each when it
is new. -/
def transport_observations (d : DeckId) (previous : LocalDeck) (after : LocalDeck × Bool) :
    List DeckObservation :=
  (if previous.beat ≠ after.1.beat then
    [if after.1.beat < previous.beat then
      .PlaybackPositionSeeked d previous.track_load_id after.1.beat
      else .PlaybackPosition d previous.track_load_id after.1.beat] else []) ++
  ((if previous.playing ≠ after.1.playing then
    [.PlaybackStateChanged d previous.track_load_id after.1.playing] else []) ++
  if after.2 then [.PhraseChanged d previous.track_load_id after.1.phrase_index] else [])

/-- A transport update of the load that the deck holds. -/
structure Transports (p : LocalPlaybackDeckSourceProvider) (time : MonotonicTime) (d : DeckId)
    (previous : LocalDeck) (beat : UInt32) (playing : Bool)
    (q : LocalPlaybackDeckSourceProvider) : Prop extends
    Says p time (transport_observations d previous (transported previous beat playing)) q where
  decks : q.decks = p.decks.insert d (transported previous beat playing).1
  leader : q.leader_deck_id = p.leader_deck_id

theorem update_transport_ends {previous : LocalDeck} (beat : UInt32) (playing : Bool)
    (h : p.decks[d]? = some previous) :
    Ends Overflows (update_transport d previous.track_load_id beat playing time) p fun q _ =>
      Transports p time d previous beat playing q := by
  unfold update_transport
  apply ends_get_bind
  rw [h]
  refine ends_ok_or_bind ?_ nofun
  rintro _ ⟨⟩
  rw [if_neg (not_not.mpr rfl)]
  apply Call.ends_modify_bind
  refine (((when_tells _ (emit_tells time _ _)).andThen fun _ =>
    (when_tells _ (emit_tells time _ _)).andThen fun _ =>
      when_tells _ (emit_tells time _ _))).mono ?_
  rintro q o ⟨-, hq⟩
  refine ⟨?_, hq.decks, hq.leader⟩
  have hsaid := hq.toSays
  simp only [decide_eq_true_eq] at hsaid
  exact ⟨hsaid.source_id, hsaid.sequence, hsaid.events⟩

def clear_observations (p : LocalPlaybackDeckSourceProvider) : List DeckObservation :=
  p.decks.toList.map fun (d, deck) => .TrackUnloaded d deck.track_load_id

structure Clears (p : LocalPlaybackDeckSourceProvider) (time : MonotonicTime)
    (q : LocalPlaybackDeckSourceProvider) : Prop extends Says p time p.clear_observations q where
  decks : q.decks = ∅
  leader : q.leader_deck_id = none

theorem clear_ends (p : LocalPlaybackDeckSourceProvider) :
    Ends Overflows (clear time) p fun q _ => Clears p time q := by
  unfold clear
  apply ends_get_bind
  refine Ends.followed_by (for_each_tells (fun a q => emit_tells time _ q) p.decks.toList p) ?_
  intro q hq
  exact Call.ends_modify ⟨⟨hq.source_id, hq.sequence, hq.events⟩, rfl, rfl⟩

/-! ## Who hears it -/

/-- A deck is valid, its phrases cover the track, and it is in the phrase of its beat. -/
structure Placed (d : DeckId) (deck : LocalDeck) : Prop where
  valid : validate_deck d = .ok ()
  covered : Covered deck.metadata
  inside : deck.beat ≤ deck.metadata.duration_beats
  phrase : deck.phrase_index = transport_phrase deck.metadata deck.beat

structure Sound (p : LocalPlaybackDeckSourceProvider) : Prop where
  placed : ∀ d deck, p.decks[d]? = some deck → Placed d deck
  leads : ∀ d, p.leader_deck_id = some d → (p.decks[d]?).isSome

theorem Sound.insert (hp : Sound p) (hdeck : Placed d deck)
    (hdecks : q.decks = p.decks.insert d deck)
    (hleader : ∀ a, q.leader_deck_id = some a → a ≠ d → p.leader_deck_id = some a) : Sound q := by
  constructor
  · intro a other ha
    rw [hdecks, map_get_insert] at ha
    split_ifs at ha with hda
    · cases ha
      exact hda ▸ hdeck
    · exact hp.placed a other ha
  · intro a ha
    rw [hdecks, map_get_insert]
    split_ifs with hda
    · rfl
    · exact hp.leads a (hleader a ha (Ne.symm hda))

theorem sound_of_empty (hdecks : p.decks = ∅) (hleader : p.leader_deck_id = none) : Sound p :=
  ⟨fun d deck hd => by simp [hdecks] at hd, fun d hd => by simp [hleader] at hd⟩

/-- Who has heard all that was said sees the decks, and no leader but the one there is. -/
structure Heard (y : Faces) (p : LocalPlaybackDeckSourceProvider) : Prop where
  decks : y.decks = p.shown
  leader : y.leader = none ∨ y.leader = p.leader_deck_id

section hearing

variable {y : Faces} {previous : LocalDeck}

theorem listen_append (y : Faces) (os os' : List DeckObservation) :
    y.listen (os ++ os') = (y.listen os).listen os' := List.foldl_append

theorem listen_load (y : Faces) (d : DeckId) (metadata : TrackMetadata) (l : TrackLoadId)
    (h : Covered metadata) :
    y.listen (load_observations d metadata l) = y.put d (some (loaded_deck metadata l).face) := by
  have hphrase : (metadata.phrase 0).isSome := by
    have := transport_phrase_isSome h 0
    rwa [transport_phrase_zero h] at this
  have hzero : ¬ (0 : UInt32) < 0 := UInt32.lt_irrefl 0
  simp only [load_observations, Faces.listen, List.foldl_cons, List.foldl_nil, Faces.observe]
  rw [alter_some (decks_put y d _) rfl, put_put, if_neg hzero, alter_some (decks_put y d _) rfl,
    put_put, if_pos hphrase, alter_some (decks_put y d _) rfl, put_put]
  rfl

theorem listen_leader {f : Face} (h : y.decks d = some f) :
    y.listen [.LeaderChanged d f.track_load_id] = { y with leader := some d } := by
  simp [Faces.listen, Faces.observe, h]

theorem listen_unload (hy : y.Led) (hdecks : y.decks = p.shown) :
    y.listen (p.unload_observations d) = y.without d := by
  unfold unload_observations
  cases hd : p.decks[d]? with
  | none =>
    have hnone : y.decks d = none := by simp [hdecks, shown, hd]
    exact (without_absent hy hnone).symm
  | some deck =>
    apply hy.observe_unloaded
    intro f hf
    rw [hdecks, shown, hd] at hf
    cases hf
    rfl

theorem listen_optional {f g : Face} {o : DeckObservation} {c : Prop} [Decidable c]
    (hy : y.decks d = some f) (ho : c → y.listen [o] = y.put d (some g)) (hsame : ¬ c → g = f) :
    y.listen (if c then [o] else []) = y.put d (some g) := by
  by_cases hc : c
  · rw [if_pos hc]
    exact ho hc
  rw [if_neg hc, hsame hc]
  exact (put_same hy).symm

/-- What an update leaves: the same load, at a beat of the track and in the phrase of the beat, and
a phrase that is new is told. -/
structure Moves (previous : LocalDeck) (after : LocalDeck × Bool) : Prop where
  metadata : after.1.metadata = previous.metadata
  track_load_id : after.1.track_load_id = previous.track_load_id
  inside : after.1.beat ≤ previous.metadata.duration_beats
  phrase : after.1.phrase_index = transport_phrase previous.metadata after.1.beat
  told : previous.phrase_index ≠ after.1.phrase_index → after.2 = true

theorem transported_moves (previous : LocalDeck) (beat : UInt32) (playing : Bool) :
    Moves previous (transported previous beat playing) := by
  refine ⟨rfl, rfl, ?_, rfl, ?_⟩
  · exact Std.min_le_right
  · intro hne
    have hchanged : decide (previous.phrase_index ≠
        transport_phrase previous.metadata (min beat previous.metadata.duration_beats)) = true :=
      decide_eq_true hne
    simp only [transported, hchanged, Bool.true_or]

/-- The update is heard as it is: a beat that leads back is heard as a jump, into the phrase that
the provider has for it. -/
theorem listen_transport {after : LocalDeck × Bool} (hy : y.decks d = some previous.face)
    (hplaced : Placed d previous) (hmoves : Moves previous after) :
    y.listen (transport_observations d previous after) = y.put d (some after.1.face) := by
  obtain ⟨deck, tells_phrase⟩ := after
  obtain ⟨hmetadata, hload, hinside, hphrase, htold⟩ := hmoves
  dsimp only at hmetadata hload hinside hphrase htold
  let f1 : Face := { previous.face with
    beat := deck.beat
    phrase_index := some (if deck.beat < previous.beat then deck.phrase_index
      else previous.phrase_index) }
  let f2 : Face := { f1 with playing := deck.playing }
  have hposition : y.listen (if previous.beat ≠ deck.beat then
      [if deck.beat < previous.beat then
        .PlaybackPositionSeeked d previous.track_load_id deck.beat
        else .PlaybackPosition d previous.track_load_id deck.beat] else []) =
      y.put d (some f1) := by
    refine listen_optional hy ?_ ?_
    · intro _
      by_cases hback : deck.beat < previous.beat
      · have hbefore : deck.beat < previous.metadata.duration_beats :=
          Std.lt_of_lt_of_le hback hplaced.inside
        have hsame := phrase_index_at_transport hplaced.covered hbefore
        rw [if_pos hback]
        show y.alter d previous.track_load_id _ = _
        rw [alter_some (l := previous.track_load_id) hy rfl]
        simp only [f1, if_pos hback, hphrase, ← hsame]
        rfl
      · rw [if_neg hback]
        show y.alter d previous.track_load_id _ = _
        rw [alter_some (l := previous.track_load_id) hy rfl, if_neg (by exact hback)]
        simp only [f1, if_neg hback]
        rfl
    · intro hsame
      rw [not_not] at hsame
      simp only [f1, ← hsame, if_neg (UInt32.lt_irrefl _)]
      rfl
  have hplaying : (y.put d (some f1)).listen (if previous.playing ≠ deck.playing then
      [.PlaybackStateChanged d previous.track_load_id deck.playing] else []) =
      y.put d (some f2) := by
    rw [← put_put y d (some f1) (some f2)]
    refine listen_optional (decks_put _ _ _) (fun _ => alter_some (decks_put _ _ _) rfl) ?_
    intro hsame
    rw [not_not] at hsame
    simp only [f2, f1, ← hsame]
    rfl
  have htell : (y.put d (some f2)).listen (if tells_phrase then
      [.PhraseChanged d previous.track_load_id deck.phrase_index] else []) =
      y.put d (some deck.face) := by
    have hface : deck.face = { f2 with phrase_index := some deck.phrase_index } := by
      simp only [LocalDeck.face, f2, f1, hmetadata, hload]
    rw [← put_put y d (some f2) (some deck.face)]
    refine listen_optional (decks_put _ _ _) ?_ ?_
    · intro _
      have hknown : (f2.metadata.phrase deck.phrase_index).isSome := by
        rw [hphrase]
        exact transport_phrase_isSome hplaced.covered _
      show (y.put d (some f2)).alter d previous.track_load_id _ = _
      rw [alter_some (l := previous.track_load_id) (decks_put _ _ _) rfl, if_pos hknown, hface]
    · intro hsilent
      have hsame : previous.phrase_index = deck.phrase_index := by
        by_contra hne
        exact hsilent (htold hne)
      rw [hface]
      simp only [f2, f1, hsame, ite_self]
  unfold transport_observations
  rw [listen_append, listen_append, hposition, hplaying, htell]

theorem listen_unload_each (l : List (DeckId × LocalDeck)) {y : Faces} (hy : y.Led)
    (hload : ∀ x ∈ l, ∀ f, y.decks x.1 = some f → f.track_load_id = x.2.track_load_id) :
    y.listen (l.map fun (d, deck) => .TrackUnloaded d deck.track_load_id) =
      (l.map (·.1)).foldl Faces.without y := by
  induction l generalizing y with
  | nil => rfl
  | cons x l ih =>
    show (y.observe (.TrackUnloaded x.1 x.2.track_load_id)).listen _ = _
    rw [hy.observe_unloaded (hload x List.mem_cons_self), List.map_cons, List.foldl_cons]
    apply ih (hy.without x.1)
    intro x' hx' f hf
    apply hload x' (List.mem_cons_of_mem x hx') f
    rw [decks_without] at hf
    split at hf
    · cases hf
    · exact hf

/-- Who hears every deck unloaded sees none, and no leader. -/
theorem listen_clear (hy : y.Led) (hdecks : y.decks = p.shown) :
    y.listen p.clear_observations = ⟨fun _ => none, none⟩ := by
  have hload : ∀ x ∈ p.decks.toList, ∀ f, y.decks x.1 = some f →
      f.track_load_id = x.2.track_load_id := by
    intro x hx f hf
    rw [Std.ExtTreeMap.mem_toList_iff_getElem?_eq_some] at hx
    rw [hdecks, shown, hx] at hf
    cases hf
    rfl
  have hnone : ∀ d, ((p.decks.toList.map (·.1)).foldl Faces.without y).decks d = none := by
    intro d
    rw [decks_without_each]
    split
    · rfl
    rename_i hd
    rw [hdecks, shown, Option.map_eq_none_iff, ← Option.not_isSome_iff_eq_none]
    intro hsome
    obtain ⟨deck, hdeck⟩ := Option.isSome_iff_exists.mp hsome
    rw [← Std.ExtTreeMap.mem_toList_iff_getElem?_eq_some] at hdeck
    exact hd (List.mem_map.mpr ⟨_, hdeck, rfl⟩)
  have hled := hy.without_each (p.decks.toList.map (·.1))
  unfold clear_observations
  rw [listen_unload_each _ hy hload]
  apply Faces.ext
  · exact funext hnone
  · rw [← Option.not_isSome_iff_eq_none]
    intro hsome
    obtain ⟨d, hd⟩ := Option.isSome_iff_exists.mp hsome
    have := hled d hd
    rw [hnone d] at this
    cases this

theorem Heard.led (h : Heard y p) (hp : Sound p) : y.Led := by
  intro d hd
  rw [h.decks, shown, Option.isSome_map]
  apply hp.leads
  rcases h.leader with hnone | hsame
  · rw [hnone] at hd
    cases hd
  · rw [← hsame, hd]

end hearing

/-! ## One call -/

/-- A track is not loaded on the deck that leads. -/
def SparesLeader (p : LocalPlaybackDeckSourceProvider) : ProviderCall → Prop
  | .load_track d _ => p.leader_deck_id ≠ some d
  | _ => True

/-- What a call says is heard, and the leader is heard unless the call loads its deck anew. -/
structure Steps (p : LocalPlaybackDeckSourceProvider) (time : MonotonicTime)
    (call : ProviderCall) (os : List DeckObservation) (q : LocalPlaybackDeckSourceProvider) :
    Prop where
  said : Says p time os q
  sound : Sound q
  heard : ∀ y, Heard y p → Heard (y.listen os) q
  leader : ∀ y, Heard y p → y.leader = p.leader_deck_id →
    ((y.listen os).leader = q.leader_deck_id ↔ SparesLeader p call)

section steps

variable {call : ProviderCall} (hp : Sound p) {metadata : TrackMetadata}
include hp

/-- A call that fails changes nothing and says nothing. -/
theorem steps_refused (hspares : SparesLeader p call) : Steps p time call [] p where
  said := (Told.refl p time).toSays
  sound := hp
  heard _ hy := hy
  leader _ _ hlead := iff_of_true hlead hspares

theorem Leads.steps {deck : LocalDeck} (hd : p.decks[d]? = some deck)
    (h : Leads p time d deck.track_load_id q) :
    Steps p time (.set_leader d) [.LeaderChanged d deck.track_load_id] q := by
  have hlisten : ∀ y, Heard y p →
      y.listen [.LeaderChanged d deck.track_load_id] = { y with leader := some d } := by
    intro y hy
    apply listen_leader (f := deck.face)
    rw [hy.decks, shown, hd]
    rfl
  refine ⟨h.toSays, ⟨?_, ?_⟩, ?_, ?_⟩
  · rw [h.decks]
    exact hp.placed
  · intro a ha
    rw [h.leader] at ha
    cases ha
    rw [h.decks, hd]
    rfl
  · intro y hy
    rw [hlisten y hy]
    refine ⟨?_, .inr h.leader.symm⟩
    unfold shown
    rw [h.decks]
    exact hy.decks
  · intro y hy _
    rw [hlisten y hy]
    exact iff_of_true h.leader.symm trivial

theorem Transports.steps {previous : LocalDeck} {beat : UInt32} {playing : Bool}
    (hd : p.decks[d]? = some previous) (h : Transports p time d previous beat playing q) :
    Steps p time (.update_transport d previous.track_load_id beat playing)
      (transport_observations d previous (transported previous beat playing)) q := by
  have hplaced := hp.placed d previous hd
  have hmoves := transported_moves previous beat playing
  have hlisten : ∀ y, Heard y p →
      y.listen (transport_observations d previous (transported previous beat playing)) =
        y.put d (some (transported previous beat playing).1.face) := by
    intro y hy
    apply listen_transport _ hplaced hmoves
    rw [hy.decks, shown, hd]
    rfl
  refine ⟨h.toSays, hp.insert ?_ h.decks fun a ha _ => h.leader.symm.trans ha, ?_, ?_⟩
  · exact ⟨hplaced.valid, hmoves.metadata ▸ hplaced.covered, hmoves.metadata ▸ hmoves.inside,
      hmoves.metadata ▸ hmoves.phrase⟩
  · intro y hy
    rw [hlisten y hy]
    refine ⟨?_, ?_⟩
    · rw [shown_insert h.decks, ← hy.decks]
      rfl
    · rw [h.leader]
      exact hy.leader
  · intro y hy hlead
    rw [hlisten y hy]
    exact iff_of_true (hlead.trans h.leader.symm) trivial

theorem Clears.steps (h : Clears p time q) : Steps p time .clear p.clear_observations q := by
  refine ⟨h.toSays, sound_of_empty h.decks h.leader, ?_, ?_⟩
  · intro y hy
    rw [listen_clear (hy.led hp) hy.decks]
    refine ⟨?_, .inl rfl⟩
    funext d
    simp [shown, h.decks]
  · intro y hy _
    rw [listen_clear (hy.led hp) hy.decks]
    exact iff_of_true h.leader.symm trivial

theorem Loads.steps {l : TrackLoadId} (hvalid : validate_deck d = .ok ())
    (hcovered : Covered metadata) (h : Loads p time d metadata l q) :
    ∃ os, Steps p time (.load_track d metadata) os q := by
  let os := p.unload_observations d ++ load_observations d metadata l ++
    if p.leader_deck_id.isNone then [.LeaderChanged d l] else []
  -- Without a leader the deck leads; else the leader is as it was heard, less this deck.
  have hlisten : ∀ y, Heard y p →
      y.listen os = { (y.without d).put d (some (loaded_deck metadata l).face) with
        leader := if p.leader_deck_id = none then some d
          else if y.leader = some d then none else y.leader } := by
    intro y hy
    simp only [os]
    rw [listen_append, listen_append, listen_unload (hy.led hp) hy.decks,
      listen_load _ d metadata l hcovered]
    cases hlead : p.leader_deck_id with
    | none =>
      exact listen_leader (f := (loaded_deck metadata l).face) (decks_put _ _ _)
    | some leader => rfl
  have hdecks : ∀ y, Heard y p → (y.listen os).decks = q.shown := by
    intro y hy
    rw [hlisten y hy, shown_insert h.decks, ← hy.decks]
    show ((y.put d none).put d _).decks = _
    rw [put_put]
    rfl
  refine ⟨os, h.toSays, hp.insert ?_ h.decks ?_, ?_, ?_⟩
  · exact ⟨hvalid, hcovered, UInt32.zero_le, (transport_phrase_zero hcovered).symm⟩
  · intro a ha hda
    rw [h.leader] at ha
    rcases Option.or_eq_some_iff.mp ha with ha | ⟨-, ha⟩
    · exact ha
    · exact absurd (Option.some.inj ha).symm hda
  · intro y hy
    refine ⟨hdecks y hy, ?_⟩
    rw [hlisten y hy, h.leader]
    cases hlead : p.leader_deck_id with
    | none => exact .inr rfl
    | some leader =>
      have hleader := hy.leader
      rw [hlead] at hleader
      simp only [reduceCtorEq, if_false, Option.some_or]
      split_ifs
      · exact .inl rfl
      · exact hleader
  · intro y hy hsame
    rw [hlisten y hy, h.leader, hsame]
    cases hlead : p.leader_deck_id with
    | none => simp [SparesLeader, hlead]
    | some leader => by_cases hd : leader = d <;> simp [SparesLeader, hlead, hd]

theorem load_track_steps (hcovered : Covered metadata) :
    Ends Overflows (load_track d metadata time) p fun q _ =>
      ∃ os, Steps p time (.load_track d metadata) os q := by
  cases hvalid : validate_deck d with
  | ok _ =>
    refine (load_track_ends d metadata p hvalid).mono ?_
    rintro q o ⟨-, l, hq⟩
    exact hq.steps hp hvalid hcovered
  | error e =>
    -- A deck that leads is a valid deck.
    have hspares : SparesLeader p (.load_track d metadata) := by
      intro hlead
      obtain ⟨deck, hdeck⟩ := Option.isSome_iff_exists.mp (hp.leads d hlead)
      have := (hp.placed d deck hdeck).valid
      rw [hvalid] at this
      cases this
    unfold load_track
    rw [hvalid]
    exact .inr ⟨[], steps_refused hp hspares⟩

omit hp

theorem call_ends (time : MonotonicTime) (hp : Sound p) (hcovers : call.Covers) :
    Ends Overflows (call.method time) p fun q _ => ∃ os, Steps p time call os q := by
  cases call with
  | load_track d metadata =>
    refine (load_track_steps hp hcovers).bind ?_ ?_ ?_
    · exact fun q _ hq => .inr hq
    · exact fun q _ hq => hq
    · exact fun q hq => hq
  | set_leader d =>
    cases hd : p.decks[d]? with
    | some deck =>
      refine (set_leader_ends time hd).mono ?_
      rintro q o ⟨-, hq⟩
      exact ⟨_, hq.steps hp hd⟩
    | none =>
      unfold ProviderCall.method set_leader
      apply ends_get_bind
      rw [hd]
      exact .inr ⟨[], steps_refused hp trivial⟩
  | update_transport d l beat playing =>
    cases hd : p.decks[d]? with
    | some previous =>
      by_cases hl : previous.track_load_id = l
      · subst hl
        exact (update_transport_ends beat playing hd).mono fun q _ hq => ⟨_, hq.steps hp hd⟩
      unfold ProviderCall.method update_transport
      apply ends_get_bind
      rw [hd]
      refine ends_ok_or_bind ?_ nofun
      rintro _ ⟨⟩
      rw [if_pos hl]
      exact .inr ⟨[], steps_refused hp trivial⟩
    | none =>
      unfold ProviderCall.method update_transport
      apply ends_get_bind
      rw [hd]
      exact .inr ⟨[], steps_refused hp trivial⟩
  | clear => exact (clear_ends p).mono fun q _ hq => ⟨_, hq.steps hp⟩

end steps

end LocalPlaybackDeckSourceProvider

/-! ## The session -/

structure Operation where
  time : MonotonicTime
  call : ProviderCall

/-- The provider after a drain, and all that was drained. -/
structure Session where
  provider : LocalPlaybackDeckSourceProvider
  events : List DomainEvent
  clock : MonotonicTime

/-- A counter of the provider was at its end. -/
def overflowed : Outcome LocalPlaybackError Unit → Bool
  | .err .SequenceOverflow | .err .TrackLoadIdOverflow => true
  | _ => false

namespace Session

/-- The state that the events fold to. -/
def runtime (s : Session) : RuntimeState := reducer.run s.events

/-- The session of a new provider. -/
def start (time : MonotonicTime) : Session :=
  match LocalPlaybackDeckSourceProvider.new time with
  | .ok provider =>
    let (provider, events) := provider.drain_events
    { provider, events, clock := time }
  -- A new provider has used no number yet, so this case does not occur.
  | _ => { provider := ⟨⟨LOCAL_SOURCE_ID⟩, ∅, none, 1, 0, []⟩, events := [], clock := time }

/-- How the call of an operation ends. -/
def called (s : Session) (operation : Operation) :
    LocalPlaybackDeckSourceProvider × Outcome LocalPlaybackError Unit :=
  (operation.call.method operation.time).run s.provider

/-- A call and the drain after it, also when the call fails. -/
def after (s : Session) (operation : Operation) : Session :=
  let (provider, events) := (s.called operation).1.drain_events
  { provider, events := s.events ++ events, clock := operation.time }

/-- The operation is in time, its track is covered by phrases, and no counter overflows, neither
in the provider nor in the reducer. -/
@[mk_iff] structure Fits (s : Session) (operation : Operation) : Prop where
  in_time : s.clock ≤ operation.time
  covers : operation.call.Covers
  counts : overflowed (s.called operation).2 = false
  reduced : (reducer.refusal s.runtime (s.called operation).1.pending_events).any
    ReducerError.overflows = false

instance (s : Session) (operation : Operation) : Decidable (s.Fits operation) :=
  decidable_of_iff' _ (fits_iff s operation)

/-- What ties the two sides together. -/
structure Linked (s : Session) : Prop where
  drained : s.provider.pending_events = []
  sound : s.provider.Sound
  heard : Heard s.runtime.faces s.provider
  behind : Behind s.provider.source_id s.runtime s.provider.sequence s.clock

theorem linked_start (time : MonotonicTime) :
    Linked (start time) ∧
      (start time).runtime.faces.leader = (start time).provider.leader_deck_id := by
  have haccepts : reducer.refusal RuntimeState.default
      (enveloped ⟨LOCAL_SOURCE_ID⟩ time 0 [.SourceStatusChanged .Ready]) = none := rfl
  obtain ⟨hfaces, hbehind⟩ := runFrom_enveloped (m := 1)
    (behind_default ⟨LOCAL_SOURCE_ID⟩ 0 time) rfl haccepts
  have hstart : start time = ⟨⟨⟨LOCAL_SOURCE_ID⟩, ∅, none, 1, 1, []⟩,
      enveloped ⟨LOCAL_SOURCE_ID⟩ time 0 [.SourceStatusChanged .Ready], time⟩ := rfl
  have hruntime : (start time).runtime = reducer.runFrom RuntimeState.default
      (enveloped ⟨LOCAL_SOURCE_ID⟩ time 0 [.SourceStatusChanged .Ready]) := by
    rw [hstart]
    rfl
  rw [← hruntime] at hfaces hbehind
  have hleader : (start time).runtime.faces.leader = (start time).provider.leader_deck_id := by
    rw [hfaces, hstart]
    rfl
  refine ⟨⟨?_, ?_, ⟨?_, .inr hleader⟩, ?_⟩, hleader⟩
  · rw [hstart]
  · exact hstart ▸ sound_of_empty rfl rfl
  · rw [hfaces, hstart]
    rfl
  · rw [hstart] at hbehind ⊢
    exact hbehind

/-- One operation, and what it says is heard. -/
theorem Linked.after {s : Session} {operation : Operation} (h : Linked s)
    (hfits : s.Fits operation) :
    Linked (s.after operation) ∧ (s.runtime.faces.leader = s.provider.leader_deck_id →
      ((s.after operation).runtime.faces.leader = (s.after operation).provider.leader_deck_id ↔
        s.provider.SparesLeader operation.call)) := by
  rcases call_ends operation.time h.sound hfits.covers with ⟨e, he, hover⟩ | ⟨os, hq⟩
  · have hcounts := hfits.counts
    rw [show (s.called operation).2 = .err e from he] at hcounts
    rcases hover with rfl | rfl <;> cases hcounts
  have hevents : (s.called operation).1.pending_events =
      enveloped s.provider.source_id operation.time s.provider.sequence os := by
    have := hq.said.events
    rw [h.drained] at this
    exact this
  have hruntime : (s.after operation).runtime = reducer.runFrom s.runtime
      (enveloped s.provider.source_id operation.time s.provider.sequence os) := by
    show reducer.run (s.events ++ (s.called operation).1.pending_events) = _
    rw [hevents, Machine.run_append]
    rfl
  have haccepted := not_refused hfits.reduced hevents
  obtain ⟨hfaces, hbehind⟩ := runFrom_enveloped (h.behind.later hfits.in_time) hq.said.sequence
    haccepted
  rw [← hruntime] at hfaces hbehind
  refine ⟨⟨rfl, ⟨hq.sound.placed, hq.sound.leads⟩, ?_, ?_⟩, ?_⟩
  · rw [hfaces]
    have hheard := hq.heard _ h.heard
    exact ⟨hheard.decks, hheard.leader⟩
  · have hsource : (s.after operation).provider.source_id = s.provider.source_id :=
      hq.said.source_id
    rw [hsource]
    exact hbehind
  · intro hlead
    rw [hfaces]
    exact hq.leader _ h.heard hlead

end Session

/-- The session as a machine: it starts with a new provider. -/
def session (time : MonotonicTime) : Machine Session Operation Empty Session where
  start := .start time
  reduce s operation := .ok (s.after operation)
  next := id

/-- Both sides have the same decks, with the same load, beat and phrase, each playing or not as the
other has it, and the same leader. -/
def Agrees (s : Session) : Prop :=
  (∀ d : DeckId,
    s.runtime.decks[d]?.map (fun deck =>
        (deck.track_load_id, deck.beat, deck.playing, deck.phrase_index)) =
      s.provider.decks[d]?.map fun deck =>
        (deck.track_load_id, deck.beat, deck.playing, some deck.phrase_index)) ∧
  s.runtime.leader_deck = s.provider.leader_deck_id

section runs

variable {time : MonotonicTime} {operations : List Operation}

theorem session_linked (hfits : (session time).Along Session.Fits operations) (k : Nat) :
    ((session time).run (operations.take k)).Linked := by
  refine Machine.run_keeps_while (m := session time) (Q := Session.Fits)
    (Session.linked_start time).1 ?_ operations hfits k
  rintro s operation r hs hfit hr
  cases hr
  exact (hs.after hfit).1

/-- On the decks the two sides agree in every run. -/
theorem Session.Linked.agrees_iff {s : Session} (h : s.Linked) :
    Agrees s ↔ s.runtime.faces.leader = s.provider.leader_deck_id := by
  refine ⟨fun hagrees => hagrees.2, fun hleader => ⟨fun d => ?_, hleader⟩⟩
  have hd := congrArg (·.map fun face : Face =>
    (face.track_load_id, face.beat, face.playing, face.phrase_index)) (congrFun h.heard.decks d)
  simp only [RuntimeState.faces, shown, Option.map_map] at hd
  exact hd

/-- The local playback and the reducer agree after every call, also after one that fails, if and
only if no track is loaded on the deck that leads. A load on the leading deck unloads it first, for
which the reducer lets the leader go, and the provider, which still has one, names no new leader. -/
theorem the_local_playback_agrees_unless_the_leader_is_loaded_anew (time : MonotonicTime)
    (operations : List Operation) (hfits : (session time).Along Session.Fits operations) :
    (∀ k, Agrees ((session time).run (operations.take k))) ↔
      (session time).Along (fun s operation => s.provider.SparesLeader operation.call)
        operations := by
  constructor
  · intro h k operation r hk _
    have hlinked := session_linked hfits k
    obtain ⟨hnext, hleader⟩ := hlinked.after (hfits k operation _ hk rfl)
    have hafter := h (k + 1)
    rw [Machine.run_take_succ_get hk] at hafter
    exact (hleader (hlinked.agrees_iff.mp (h k))).mp (hnext.agrees_iff.mp hafter)
  · intro h k
    rw [(session_linked hfits k).agrees_iff]
    refine (Machine.run_keeps_while (m := session time)
      (P := fun s => s.Linked ∧ s.runtime.faces.leader = s.provider.leader_deck_id)
      (Q := fun s operation => s.Fits operation ∧ s.provider.SparesLeader operation.call)
      (Session.linked_start time) ?_ operations
      (fun k e r he hr => ⟨hfits k e r he hr, h k e r he hr⟩) k).2
    rintro s operation r ⟨hs, hlead⟩ ⟨hfit, hspares⟩ hr
    cases hr
    obtain ⟨hnext, hleader⟩ := hs.after hfit
    exact ⟨hnext, (hleader hlead).mpr hspares⟩

end runs

namespace sample

/-- A track plays on the first deck, which leads, and another track is loaded over it. -/
def loaded_over : List Operation :=
  [⟨⟨1⟩, .load_track ⟨1⟩ (lumi_domain.sample.metadata ⟨7⟩)⟩,
    ⟨⟨2⟩, .update_transport ⟨1⟩ ⟨1⟩ 16 true⟩,
    ⟨⟨3⟩, .load_track ⟨1⟩ (lumi_domain.sample.metadata ⟨8⟩)⟩]

end sample

theorem the_local_playback_agrees_until_the_load :
    (∀ k, Agrees ((session ⟨0⟩).run (sample.loaded_over.take k))) ↔
      (session ⟨0⟩).Along (fun s operation => s.provider.SparesLeader operation.call)
        sample.loaded_over :=
  the_local_playback_agrees_unless_the_leader_is_loaded_anew ⟨0⟩ sample.loaded_over
    (Machine.along_of_alongFrom (by decide +kernel))

/-- The provider reports the first deck as the leader, and the engine has none. -/
theorem a_load_on_the_leader_leaves_no_leader :
    (session ⟨0⟩).Along Session.Fits sample.loaded_over ∧
      ((session ⟨0⟩).run (sample.loaded_over.take 2)).runtime.leader_deck = some ⟨1⟩ ∧
      ((session ⟨0⟩).run sample.loaded_over).provider.leader_deck_id = some ⟨1⟩ ∧
      ((session ⟨0⟩).run sample.loaded_over).runtime.leader_deck = none ∧
      ¬ Agrees ((session ⟨0⟩).run sample.loaded_over) := by
  refine ⟨Machine.along_of_alongFrom (by decide +kernel), by decide +kernel, by decide +kernel,
    by decide +kernel, ?_⟩
  intro h
  exact absurd h.2 (by decide +kernel)

end lumi_local_playback
