-- What a run of the reducer shows of the decks: the face of each deck and
-- the leader. An observation that is new and in time changes the faces by
-- what it says alone, and no other event changes them.
import Lumi.Domain.Steps

open rust

namespace lumi_domain

/-- A deck without the time of its last observation. -/
structure Face where
  metadata : TrackMetadata
  track_load_id : TrackLoadId
  beat : UInt32
  effective_bpm_milli : UInt32
  playing : Bool
  phrase_index : Option UInt16

def DeckState.face (deck : DeckState) : Face where
  metadata := deck.metadata
  track_load_id := deck.track_load_id
  beat := deck.beat
  effective_bpm_milli := deck.effective_bpm_milli
  playing := deck.playing
  phrase_index := deck.phrase_index

@[ext] structure Faces where
  decks : DeckId → Option Face
  leader : Option DeckId

namespace Faces

variable (x : Faces)

def put (d : DeckId) (face : Option Face) : Faces :=
  { x with decks := Function.update x.decks d face }

/-- The change of the deck, while it holds the load. -/
def alter (d : DeckId) (l : TrackLoadId) (f : Face → Face) : Faces :=
  match x.decks d with
  | some face => if face.track_load_id = l then x.put d (some (f face)) else x
  | none => x

/-- The faces without the deck. -/
def without (d : DeckId) : Faces :=
  { x.put d none with leader := if x.leader = some d then none else x.leader }

/-- What an observation does to the faces. -/
def observe : DeckObservation → Faces
  | .SourceStatusChanged _ => x
  | .TrackLoaded d m l => x.put d (some ⟨m, l, 0, m.bpm_milli, false, none⟩)
  | .TrackMetadataHydrated d m l => x.alter d l fun face =>
    { face with metadata := m, phrase_index := phrase_index_at_beat m face.beat }
  | .PlaybackPosition d l beat => x.alter d l fun face =>
    if beat < face.beat then face else { face with beat }
  | .PlaybackPositionSeeked d l beat => x.alter d l fun face =>
    { face with beat, phrase_index := phrase_index_at_beat face.metadata beat }
  | .PlaybackTempoChanged d l bpm => x.alter d l fun face =>
    if 20000 ≤ bpm ∧ bpm ≤ 300000 then { face with effective_bpm_milli := bpm } else face
  | .PlaybackStateChanged d l playing => x.alter d l fun face => { face with playing }
  | .TrackUnloaded d l =>
    if (x.decks d).any (·.track_load_id = l) then x.without d else x
  | .PhraseChanged d l i => x.alter d l fun face =>
    if (face.metadata.phrase i).isSome then { face with phrase_index := some i } else face
  | .LeaderChanged d l =>
    if (x.decks d).any (·.track_load_id = l) then { x with leader := some d } else x

end Faces

/-! ## The faces of the state -/

def RuntimeState.faces (s : RuntimeState) : Faces where
  decks d := s.decks[d]?.map DeckState.face
  leader := s.leader_deck

theorem faces_put_deck (s : RuntimeState) (d : DeckId) (deck : DeckState) :
    (s.put_deck d deck).faces = s.faces.put d (some deck.face) := by
  apply Faces.ext
  · funext a
    simp only [RuntimeState.faces, RuntimeState.put_deck, map_get_insert, Faces.put,
      Function.update_apply]
    by_cases h : d = a
    · simp [h]
    · simp [h, Ne.symm h]
  · rfl

theorem faces_forget_cue_of (s : RuntimeState) (d : DeckId) :
    (s.forget_cue_of d).faces = s.faces := by
  rw [forget_cue_of_eq]
  rfl

variable {s : RuntimeState} {d : DeckId} {l : TrackLoadId} {deck : DeckState} {f : Face → Face}
  {e : ObservationEnvelope} {r : Reduction} {x : Faces}

theorem faces_of_loaded (h : loaded s d l = some deck) :
    s.faces.decks d = some deck.face ∧ deck.face.track_load_id = l := by
  obtain ⟨hd, hl⟩ := loaded_eq_some.mp h
  simp [RuntimeState.faces, hd, DeckState.face, hl]

theorem alter_not_loaded (h : loaded s d l = none) : s.faces.alter d l f = s.faces := by
  unfold Faces.alter
  split
  · rename_i face hface
    obtain ⟨deck, hdeck, rfl⟩ := Option.map_eq_some_iff.mp hface
    rw [if_neg]
    exact loaded_eq_none.mp h deck hdeck
  · rfl

theorem any_loaded : (s.faces.decks d).any (·.track_load_id = l) = (loaded s d l).isSome := by
  simp only [RuntimeState.faces, loaded]
  cases s.decks[d]? with
  | none => rfl
  | some deck => by_cases hl : deck.track_load_id = l <;> simp [DeckState.face, hl]

theorem put_same {face : Face} (h : x.decks d = some face) : x.put d (some face) = x := by
  apply Faces.ext
  · funext a
    by_cases ha : a = d
    · simp [Faces.put, ha, h]
    · simp [Faces.put, ha]
  · rfl

theorem decks_put (x : Faces) (d : DeckId) (o : Option Face) : (x.put d o).decks d = o := by
  simp [Faces.put]

theorem put_put (x : Faces) (d : DeckId) (o o' : Option Face) :
    (x.put d o).put d o' = x.put d o' := by
  simp [Faces.put]

theorem alter_some {g : Face} {h : Face → Face} (hx : x.decks d = some g)
    (hl : g.track_load_id = l) : x.alter d l h = x.put d (some (h g)) := by
  simp [Faces.alter, hx, hl]

theorem faces_unloaded (s : RuntimeState) (d : DeckId) :
    (unloaded s d).faces = s.faces.without d := by
  rw [unloaded_eq]
  apply Faces.ext
  · funext a
    simp only [RuntimeState.faces, map_get_erase, Faces.without, Faces.put, Function.update_apply]
    by_cases h : d = a
    · simp [h]
    · simp [h, Ne.symm h]
  · show s.leader_deck.filter (· ≠ d) = if s.leader_deck = some d then none else s.leader_deck
    rw [filter_ne_eq]
    cases s.leader_deck <;> simp

/-- An observation of a load passes by a deck without that load. -/
theorem faces_of_load {x : DeckState → Settled}
    (h : ∀ deck, loaded s d l = some deck →
      (x deck).state.faces = s.faces.put d (some (f deck.face))) :
    (match loaded s d l with | none => mismatch s | some deck => x deck).state.faces =
      s.faces.alter d l f := by
  cases hl : loaded s d l with
  | none => exact (alter_not_loaded hl).symm
  | some deck =>
    obtain ⟨hd, hload⟩ := faces_of_loaded hl
    simpa [Faces.alter, hd, hload] using h deck hl

/-- An observation that settles does to the faces what it says. -/
theorem faces_settle (s : RuntimeState) (src : SourceId) (t : MonotonicTime)
    (o : DeckObservation) : (settle s src t o).state.faces = s.faces.observe o := by
  cases o with
  | SourceStatusChanged status => rfl
  | TrackLoaded d m l =>
    simp only [settle, load_track_eq]
    exact faces_put_deck s d (freshDeck m l t)
  | TrackMetadataHydrated d m l =>
    exact faces_of_load fun deck _ => faces_put_deck s d (hydrated deck m)
  | PlaybackPosition d l beat =>
    refine faces_of_load fun deck h => ?_
    by_cases hb : beat < deck.beat
    · rw [if_pos hb, if_pos (by exact hb)]
      exact (put_same (faces_of_loaded h).1).symm
    rw [if_neg hb, if_neg (by exact hb)]
    exact faces_put_deck s d _
  | PlaybackPositionSeeked d l beat =>
    refine faces_of_load fun deck _ => ?_
    rw [faces_forget_cue_of]
    exact faces_put_deck s d _
  | PlaybackTempoChanged d l bpm =>
    refine faces_of_load fun deck h => ?_
    by_cases hb : 20000 ≤ bpm ∧ bpm ≤ 300000
    · rw [if_pos hb, if_pos hb]
      exact faces_put_deck s d _
    rw [if_neg hb, if_neg hb]
    exact (put_same (faces_of_loaded h).1).symm
  | PlaybackStateChanged d l playing =>
    refine faces_of_load fun deck _ => ?_
    cases playing with
    | true => exact faces_put_deck s d _
    | false =>
      dsimp only
      rw [if_neg (by decide), faces_forget_cue_of]
      exact faces_put_deck s d _
  | TrackUnloaded d l =>
    simp only [settle, Faces.observe, any_loaded]
    cases h : loaded s d l with
    | none => rfl
    | some deck => exact faces_unloaded s d
  | PhraseChanged d l i =>
    refine faces_of_load fun deck h => ?_
    by_cases hi : (deck.metadata.phrase i).isSome = true
    · have hface : (deck.face.metadata.phrase i).isSome = true := hi
      rw [if_pos hi, if_pos hface]
      split <;> exact faces_put_deck s d _
    · rw [if_neg hi, if_neg (by exact hi)]
      exact (put_same (faces_of_loaded h).1).symm
  | LeaderChanged d l =>
    simp only [settle, Faces.observe, any_loaded]
    cases h : loaded s d l with
    | none | some deck => rfl

/-! ## The leader of the faces -/

/-- The leader is a deck that is there. -/
def Faces.Led (x : Faces) : Prop := ∀ d, x.leader = some d → (x.decks d).isSome

theorem decks_without (x : Faces) (d a : DeckId) :
    (x.without d).decks a = if a = d then none else x.decks a := by
  simp [Faces.without, Faces.put, Function.update_apply]

theorem Faces.Led.without (h : x.Led) (d : DeckId) : (x.without d).Led := by
  intro a ha
  have hleader : (if x.leader = some d then none else x.leader) = some a := ha
  rw [decks_without]
  split at hleader
  · cases hleader
  rename_i hne
  rw [if_neg]
  · exact h a hleader
  · rintro rfl
    exact hne hleader

theorem Faces.Led.without_each (h : x.Led) (ds : List DeckId) : (ds.foldl Faces.without x).Led := by
  induction ds generalizing x with
  | nil => exact h
  | cons d ds ih => exact ih (h.without d)

theorem decks_without_each (ds : List DeckId) (x : Faces) (d : DeckId) :
    (ds.foldl Faces.without x).decks d = if d ∈ ds then none else x.decks d := by
  induction ds generalizing x with
  | nil => simp
  | cons a ds ih =>
    rw [List.foldl_cons, ih, decks_without]
    by_cases had : d = a <;> simp [had]

theorem without_absent (hx : x.Led) (h : x.decks d = none) : x.without d = x := by
  have hleader : x.leader ≠ some d := by
    intro hlead
    have := hx d hlead
    rw [h] at this
    cases this
  apply Faces.ext
  · exact Function.update_eq_self_iff.mpr h.symm
  · exact if_neg hleader

theorem Faces.Led.observe_unloaded (hx : x.Led)
    (h : ∀ f, x.decks d = some f → f.track_load_id = l) :
    x.observe (.TrackUnloaded d l) = x.without d := by
  rw [Faces.observe]
  cases hd : x.decks d with
  | none =>
    rw [if_neg (by simp)]
    exact (without_absent hx hd).symm
  | some f => rw [if_pos (by simp [h f hd])]

/-! ## Refusals -/

/-- A counter of the reducer is at its end. -/
def ReducerError.overflows : ReducerError → Bool
  | StateRevisionOverflow | PlanRevisionOverflow | OutputCommandSequenceOverflow
  | ProcessedEventOverflow => true
  | _ => false

theorem schedule_refused {i : UInt16} {t : MonotonicTime} {otherwise : DecisionReason}
    {x : ReducerError} (h : schedule s d l i t otherwise = .error x) : x.overflows = true := by
  unfold schedule at h
  split at h
  · rename_i hx
    cases h
    dsimp only [execution_effect] at hx
    repeat' split at hx
    all_goals cases hx
    rfl
  · cases h
  · cases h

/-- An observation is refused only when a counter is at its end. -/
theorem observation_refused {x : ReducerError} (h : reduce s (.Observation e) = .error x) :
    x.overflows = true := by
  have hobserve : ∀ (s : RuntimeState) (o : DeckObservation),
      observe s e.source_id e.observed_at o = .error x → x.overflows = true := by
    intro s o ho
    cases o with
    | PlaybackPositionSeeked d l beat | PlaybackStateChanged d l playing | PhraseChanged d l i
    | LeaderChanged d l =>
      simp only [observe, observe_seeked, observe_playing, observe_phrase, observe_leader] at ho
      repeat' split at ho
      all_goals first | exact schedule_refused ho | cases ho
    | _ => cases ho
  unfold reduce at h
  split at h
  · rename_i hevent
    cases h
    simp only [reduce_event, reduce_observation] at hevent
    repeat' split at hevent
    all_goals first | cases hevent; done | skip
    rename_i ho
    cases hevent
    exact hobserve _ _ ho
  · dsimp only [record_event] at h
    repeat' split at h
    all_goals cases h
    all_goals rfl

/-! ## The faces along a run -/

/-- An observation that is new and in time is stamped, and the faces observe it. -/
theorem reduce_observation_faces (h : reduce s (.Observation e) = .ok r)
    (hnew : ¬ ObservationSeen s e) (htime : ¬ TimeRegressed s e) :
    r.state.faces = s.faces.observe e.observation ∧
      r.state.source_sequences = s.source_sequences.insert e.source_id e.sequence ∧
      r.state.source_times = s.source_times.insert e.source_id e.observed_at := by
  obtain ⟨r0, n, revision, hdoes, -, -, rfl⟩ := reduce_does h
  have hstamped : (stamped s e).faces = s.faces := rfl
  have hsettled : (settledOf s e).state.faces = s.faces.observe e.observation := by
    rw [settledOf, faces_settle, hstamped]
  obtain ⟨decks, plans, statuses, leader, plan, cue, hframe⟩ :=
    settle_frame (stamped s e) e.source_id e.observed_at e.observation
  rw [← settledOf] at hframe
  have hmarks : (settledOf s e).state.source_sequences =
      s.source_sequences.insert e.source_id e.sequence ∧
      (settledOf s e).state.source_times = s.source_times.insert e.source_id e.observed_at := by
    rw [hframe]
    exact ⟨rfl, rfl⟩
  cases hdoes with
  | stale hseen => exact absurd hseen hnew
  | regressed _ hback => exact absurd hback htime
  | settled _ _ => exact ⟨hsettled, hmarks⟩
  | scheduled _ _ _ hx =>
    obtain ⟨p, c, m, -, -, -, rfl, -⟩ := hx
    exact ⟨hsettled, hmarks⟩

end lumi_domain
