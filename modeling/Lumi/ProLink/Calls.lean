-- The acts of each call. Unless a counter overflows, a call does the acts
-- that are listed here for it, whether it ends well or with an error.
import Lumi.ProLink.Acts

open rust lumi_domain
open Call (Ends ends_get_bind ends_modify ends_modify_bind ends_pure)

namespace lumi_prolink_input.ProLinkDeckSourceProvider

variable {F : Type} {p q : ProLinkDeckSourceProvider} {time : MonotonicTime} {d : DeckId}

/-- The call does the acts and ends well, unless a counter overflows. -/
def Does {α : Type} (call : Method F α) (p : ProLinkDeckSourceProvider) (time : MonotonicTime)
    (acts : List Act) : Prop :=
  Ends Overflows call p fun q o => (∃ a, o = .ok a) ∧ Enacts p time acts q

/-! ## Decks -/

variable {deck : LoadedDeck} {acts : List Act} {f : LoadedDeck → LoadedDeck} {l : TrackLoadId}
  {bpm : UInt32}

theorem faces_decks (h : p.decks[d]? = some deck) : p.faces.decks d = some deck.face := by
  simp [faces, h]

theorem update_deck_eq (h : p.decks[d]? = some deck) (f : LoadedDeck → LoadedDeck) :
    p.update_deck d f = { p with decks := p.decks.insert d (f deck) } := by
  simp [update_deck, h]

/-- What was told, and then the deck was settled. -/
theorem Told.update_deck (hdeck : p.decks[d]? = some deck)
    (htold : Told p time (script p.faces acts) q)
    (hface : perform_all p.faces acts = p.faces.put d (some (f deck).face))
    (htrack : (f deck).track = deck.track) (hhold : acts.foldl Act.hold p.tracks = p.tracks)
    (hloads : acts.filterMap Act.loads = []) : Enacts p time acts (q.update_deck d f) := by
  have hq : q.decks[d]? = some deck := by rw [htold.decks, hdeck]
  rw [update_deck_eq hq]
  apply htold.enacts rfl
  · rw [hface, ← htold.faces]
    exact faces_insert rfl rfl
  · rw [hhold, tracks_insert (p := q) rfl, htold.tracks]
    exact tracks_same (by rw [hdeck, Option.map_some, htrack])
  · rfl
  · rfl
  · rfl
  · exact hloads

/-- A change of the deck that does not show. -/
theorem update_deck_quiet
    (h : ∀ deck, p.decks[d]? = some deck →
      (f deck).face = deck.face ∧ (f deck).track = deck.track) :
    Enacts p time [] (p.update_deck d f) := by
  cases hdeck : p.decks[d]? with
  | none =>
    have heq : p.update_deck d f = p := by simp [ProLinkDeckSourceProvider.update_deck, hdeck]
    rw [heq]
    exact Enacts.refl p time
  | some deck =>
    obtain ⟨hface, htrack⟩ := h deck hdeck
    apply (Told.refl p time).update_deck hdeck _ htrack rfl rfl
    rw [hface]
    exact (put_same (faces_decks hdeck)).symm

/-- A change of what only the clock and the queues read. -/
theorem enacts_aside (hdecks : q.decks = p.decks) (hleader : q.leader_deck_id = p.leader_deck_id)
    (hnext : q.next_track_load_id = p.next_track_load_id) (hsequence : q.sequence = p.sequence)
    (hevents : q.pending_events = p.pending_events) : Enacts p time [] q := by
  refine (Told.refl p time).enacts rfl ?_ ?_ hsequence hevents hnext rfl
  · simp [faces, hdecks, hleader, perform_all]
  · unfold tracks
    rw [hdecks]
    rfl

theorem observe_timing_aside (observation : ProLinkTimingObservation) :
    Enacts p time [] (p.observe_timing observation) :=
  enacts_aside rfl rfl rfl rfl rfl

/-! ## Source and loads -/

theorem update_source_status_does (status : DeckSourceStatus) :
    Does (F := F) (update_source_status status time) p time
      (if p.source_status ≠ status then [.source status] else []) := by
  unfold Does update_source_status
  apply ends_get_bind
  by_cases h : p.source_status = status
  · simp only [h, ne_eq, not_true_eq_false, decide_false, if_false]
    exact .inr ⟨⟨(), rfl⟩, Enacts.refl p time⟩
  simp only [ne_eq, h, not_false_eq_true, decide_true, if_true]
  apply ends_modify_bind
  refine (emit_tells time _ _).mono ?_
  rintro q o ⟨ho, htold⟩
  refine ⟨⟨(), ho⟩, ?_⟩
  have hp : Told p time [.SourceStatusChanged status] q :=
    ⟨htold.decks, htold.leader, htold.next, htold.sequence, htold.events⟩
  exact hp.enacts rfl hp.faces hp.tracks rfl rfl rfl rfl

theorem without_leader (x : Faces) (d : DeckId) (h : x.decks d = none) :
    x.without d = { x with leader := if x.leader = some d then none else x.leader } := by
  apply Faces.ext
  · funext a
    by_cases ha : a = d
    · simp [Faces.without, Faces.put, ha, h]
    · simp [Faces.without, Faces.put, ha]
  · rfl

theorem unload_deck_does (d : DeckId) : Does (F := F) (unload_deck d time) p time [.unload d] := by
  unfold Does unload_deck
  apply ends_get_bind
  cases hdeck : p.decks[d]? with
  | none =>
    have hnone : p.faces.decks d = none := by simp [faces, hdeck]
    have hscript : script p.faces [.unload d] = [] := by
      simp [script, Act.tells, Act.about, hnone]
    refine ends_modify ⟨⟨(), rfl⟩, ?_⟩
    refine (Told.refl p time).enacts hscript ?_ ?_ rfl rfl rfl rfl
    · rw [perform_all, List.foldl_cons, List.foldl_nil, Act.perform, without_leader _ _ hnone]
      rfl
    · exact (tracks_same (by rw [hdeck, Option.map_none])).symm
  | some deck =>
    have hscript : script p.faces [.unload d] = [.TrackUnloaded d deck.track_load_id] := by
      simp [script, Act.tells, Act.about, faces_decks hdeck, LoadedDeck.face]
    apply ends_modify_bind
    apply (emit_tells time _ _).followed_by
    intro q htold
    refine ends_modify ⟨⟨(), rfl⟩, ?_⟩
    have hdecks : q.decks = p.decks.erase d := htold.decks
    have hleader : q.leader_deck_id = p.leader_deck_id := htold.leader
    refine ⟨?_, ?_, ?_, ?_, ?_, List.Pairwise.nil, fun l hl => absurd hl (List.not_mem_nil)⟩
    · apply Faces.ext
      · funext a
        simp only [faces, hdecks, map_get_erase, perform_all, List.foldl_cons, List.foldl_nil,
          Act.perform, Faces.without, Faces.put, Function.update_apply]
        by_cases h : d = a
        · simp [h]
        · simp [h, Ne.symm h]
      · show (if q.leader_deck_id = some d then none else q.leader_deck_id) = _
        rw [hleader]
        rfl
    · funext a
      simp only [tracks, hdecks, map_get_erase, List.foldl_cons, List.foldl_nil, Act.hold,
        Function.update_apply]
      by_cases h : d = a
      · simp [h]
      · simp [h, Ne.symm h]
    · rw [hscript]
      exact htold.sequence
    · rw [hscript]
      exact htold.events
    · show p.next_track_load_id ≤ q.next_track_load_id
      rw [htold.next]
      exact UInt64.le_refl _

theorem Does.followed_by {α : Type} {call : Method F Unit} {f : Unit → Method F α}
    {Q : ProLinkDeckSourceProvider → Outcome (ProLinkProviderError F) α → Prop}
    (h : Does call p time acts) (hnext : ∀ q, Enacts p time acts q → Ends Overflows (f ()) q Q) :
    Ends Overflows (call >>= f) p Q :=
  (h.mono fun _ _ hq => ⟨hq.1.choose_spec, hq.2⟩ :
    Ends Overflows call p fun q o => o = .ok () ∧ Enacts p time acts q).followed_by hnext

theorem Told.aside (h : Told p time [] q) : Enacts p time [] q :=
  h.enacts rfl h.faces h.tracks rfl rfl rfl rfl

/-! ## Status frames that load -/

def StatusReading.track (reading : StatusReading) : Track :=
  (reading.identity.rekordbox_id, reading.identity.source_player, reading.identity.source_slot)

theorem allocate_ends : Ends Overflows (allocate_track_load_id (F := F)) p fun q o =>
    o = .ok ⟨p.next_track_load_id⟩ ∧ ∃ n, p.next_track_load_id.toNat + 1 = n.toNat ∧
      q = { p with next_track_load_id := n } := by
  unfold allocate_track_load_id
  apply ends_get_bind
  cases h : checked_add p.next_track_load_id 1 with
  | none => exact .inl ⟨.TrackLoadIdOverflow, rfl, trivial⟩
  | some n => exact .inr ⟨rfl, n, checked_add_eq_some.mp h, rfl⟩

theorem placeholder_track_ok {status : DeckStatus F} {reading : StatusReading} {m : TrackMetadata}
    (h : placeholder_track status reading = .ok m) :
    m.bpm_milli = reading.track_bpm_milli ∧ m.phrases = [] := by
  unfold placeholder_track TrackMetadata.try_new_unanalyzed at h
  split at h
  · cases h
  cases h
  exact ⟨rfl, rfl⟩

section status

variable {status : DeckStatus F} {reading : StatusReading}

/-- The face of a deck that a frame has loaded. -/
def loaded_face (status : DeckStatus F) (reading : StatusReading) (metadata : TrackMetadata)
    (track_load_id : TrackLoadId) : Face :=
  ⟨metadata, track_load_id, reading.beat, reading.effective_bpm_milli, status.playing, none⟩

/-- A frame loads its track under the next number, or the track is refused and the deck is
empty. -/
theorem load_status_ends :
    Ends Overflows (load_status status reading time) p fun q o =>
      (∃ marks m l, o = .ok marks ∧ m.bpm_milli = reading.track_bpm_milli ∧ m.phrases = [] ∧
        Enacts p time [.unload reading.deck_id,
          .load reading.deck_id (loaded_face status reading m l) reading.track] q) ∨
      ∃ e, o = .err (.InvalidTrack e) ∧ placeholder_track status reading = .error e ∧
        Enacts p time [.unload reading.deck_id] q := by
  unfold load_status
  apply (advance_tells p time).followed_by
  intro q1 h1
  apply (unload_deck_does reading.deck_id).followed_by
  intro q2 h2
  have h12 : Enacts p time [.unload reading.deck_id] q2 := h1.aside.trans h2
  apply allocate_ends.followed_by
  rintro q3 ⟨n, hn, rfl⟩
  have hnext : q2.next_track_load_id < n := by
    rw [UInt64.lt_iff_toNat_lt]
    omega
  apply Call.ends_check_bind
  · intro m hm
    obtain ⟨hbpm, hphrases⟩ := placeholder_track_ok hm
    apply ends_modify_bind
    apply (emit_tells time _ _).followed_by
    intro q4 h4
    apply (emit_tells time _ q4).followed_by
    intro q5 h5
    apply (when_tells _ (emit_tells time _ q5)).followed_by
    intro q6 h6
    apply (emit_tells time _ q6).followed_by
    intro q7 h7
    refine ends_pure (.inl ⟨_, m, ⟨q2.next_track_load_id⟩, rfl, hbpm, hphrases, ?_⟩)
    apply h12.trans
    -- The deck is there first, and then everything is told of it.
    have htold := ((h4.trans h5).trans h6).trans h7
    have hdecks : q7.decks = q2.decks.insert reading.deck_id (loaded_deck status reading m
        ⟨q2.next_track_load_id⟩ q2.timing_generation) := htold.decks
    have hscript : script q2.faces [.load reading.deck_id
        (loaded_face status reading m ⟨q2.next_track_load_id⟩) reading.track] = _ :=
      List.append_nil _
    have hload : ∀ l ∈ [Act.load reading.deck_id (loaded_face status reading m
        ⟨q2.next_track_load_id⟩) reading.track].filterMap Act.loads,
        l = ⟨q2.next_track_load_id⟩ := by
      simp [Act.loads, loaded_face]
    refine ⟨?_, ?_, ?_, ?_, ?_, ?_, ?_⟩
    · exact faces_insert hdecks htold.leader
    · exact tracks_insert hdecks
    · rw [htold.sequence, hscript]
      simp [Act.tells, loaded_face, hbpm]
    · rw [htold.events, hscript]
      simp [Act.tells, loaded_face, hbpm]
    · rw [htold.next]
      exact UInt64.le_of_lt hnext
    · simp [Act.loads]
    · intro l hl
      rw [hload l hl, htold.next]
      exact ⟨UInt64.le_refl _, hnext⟩
  · intro e he
    right
    refine ⟨e, rfl, he, h12.faces, h12.tracks, h12.sequence, h12.events, ?_, h12.loads, ?_⟩
    · exact UInt64.le_trans h12.next (UInt64.le_of_lt hnext)
    · exact fun l hl => absurd hl (by simp [Act.loads])

/-! ## Status frames that follow -/

variable {previous : LoadedDeck}

/-- The acts of a frame about the track that the deck holds. -/
def follow_acts (status : DeckStatus F) (reading : StatusReading) (previous : LoadedDeck) :
    List Act :=
  (if previous.effective_bpm_milli ≠ reading.effective_bpm_milli then
    [.tempo reading.deck_id reading.effective_bpm_milli] else []) ++
  (if previous.playing = false ∧ previous.beat ≠ reading.beat then
    [.jump reading.deck_id reading.beat] else []) ++
  (if previous.playing ≠ status.playing then [.play reading.deck_id status.playing] else [])

/-- The face of a deck that a frame was about. -/
def followed_face (status : DeckStatus F) (reading : StatusReading) (face : Face) : Face :=
  { face with
    beat := if face.playing then face.beat else reading.beat
    effective_bpm_milli := reading.effective_bpm_milli
    playing := status.playing }

/-- What the acts of the frame tell, and what they leave. -/
theorem follow_acts_spec (status : DeckStatus F) {x : Faces}
    (h : x.decks reading.deck_id = some previous.face) :
    script x (follow_acts status reading previous) =
      (if previous.effective_bpm_milli ≠ reading.effective_bpm_milli then
        [.PlaybackTempoChanged reading.deck_id previous.track_load_id reading.effective_bpm_milli]
        else []) ++
      (if previous.playing = false ∧ previous.beat ≠ reading.beat then
        [.PlaybackPositionSeeked reading.deck_id previous.track_load_id reading.beat] else []) ++
      (if previous.playing ≠ status.playing then
        [.PlaybackStateChanged reading.deck_id previous.track_load_id status.playing] else []) ∧
    perform_all x (follow_acts status reading previous) =
      x.put reading.deck_id (some (followed_face status reading previous.face)) := by
  -- The face after the tempo, and then after the move.
  let k1 : Face := if previous.effective_bpm_milli ≠ reading.effective_bpm_milli then
    { previous.face with effective_bpm_milli := reading.effective_bpm_milli } else previous.face
  let k2 : Face := if previous.playing = false ∧ previous.beat ≠ reading.beat then
    { k1 with beat := reading.beat } else k1
  have h1 := decks_put x reading.deck_id (some k1)
  have h2 := decks_put x reading.deck_id (some k2)
  have hk1 : k1.track_load_id = previous.track_load_id := by
    simp only [k1]
    split <;> rfl
  have hk2 : k2.track_load_id = previous.track_load_id := by
    simp only [k2]
    split <;> exact hk1
  constructor
  · rw [follow_acts, script_append, script_append, perform_all_append, script_ite, script_ite,
      script_ite, perform_ite, perform_ite]
    simp only [Act.perform, Act.tells]
    rw [change_ite h, change_ite h1, put_put, about_some h, about_some h1, about_some h2, hk1, hk2]
    rfl
  · rw [follow_acts, perform_all_append, perform_all_append, perform_ite, perform_ite, perform_ite]
    simp only [Act.perform]
    rw [change_ite h, change_ite h1, put_put, change_ite h2, put_put]
    congr 2
    simp only [k2, k1, followed_face, LoadedDeck.face]
    rcases Bool.eq_false_or_eq_true previous.playing with hp | hp <;>
    rcases Bool.eq_false_or_eq_true status.playing with hs | hs <;>
      by_cases hbpm : previous.effective_bpm_milli = reading.effective_bpm_milli <;>
        by_cases hbeat : previous.beat = reading.beat <;> simp [hp, hs, hbpm, hbeat]

/-! ## The leader and the clock -/

/-- The frame makes its deck the leader, if it is not. -/
def lead_acts (p : ProLinkDeckSourceProvider) (status : DeckStatus F) (d : DeckId) : List Act :=
  if status.tempo_master = true ∧ p.leader_deck_id ≠ some d then [.lead d] else []

theorem lead_status_does (marks : StatusMarks) (hdeck : p.decks[reading.deck_id]? = some deck) :
    Does (lead_status status reading time marks) p time
      (lead_acts p status reading.deck_id) := by
  unfold Does lead_status lead_acts
  apply ends_get_bind
  by_cases h : status.tempo_master = true ∧ p.leader_deck_id ≠ some reading.deck_id
  · rw [if_pos (by simpa using h), if_pos h]
    apply (advance_tells p time).followed_by
    intro q1 h1
    rw [hdeck]
    apply Call.ends_pure_bind (a := deck)
    apply ends_modify_bind
    apply (emit_tells time _ _).followed_by
    intro q2 h2
    refine ends_pure ⟨⟨_, rfl⟩, ?_⟩
    -- Up to the leader, the state is what was told.
    have htold : Told q1 time [.LeaderChanged reading.deck_id deck.track_load_id]
        { q2 with leader_deck_id := q1.leader_deck_id } :=
      ⟨h2.decks, rfl, h2.next, h2.sequence, h2.events⟩
    have hdecks : q2.decks = p.decks := h2.decks.trans h1.decks
    have hleader : q2.leader_deck_id = some reading.deck_id := h2.leader
    refine (h1.trans htold).enacts ?_ ?_ ?_ rfl rfl rfl rfl
    · simp [script, Act.tells, about_some (faces_decks hdeck), LoadedDeck.face]
    · simp [faces, perform_all, Act.perform, hdecks, hleader, hdeck]
    · unfold tracks
      rw [hdecks]
      rfl
  · rw [if_neg (by simpa using h), if_neg h]
    exact ends_pure ⟨⟨marks, rfl⟩, Enacts.refl p time⟩

theorem lead_acts_cases (q : ProLinkDeckSourceProvider) (d : DeckId) :
    lead_acts q status d = [] ∨ lead_acts q status d = [.lead d] := by
  unfold lead_acts
  split
  · exact .inr rfl
  · exact .inl rfl

theorem time_status_aside (marks : StatusMarks) :
    Enacts p time [] (time_status status reading marks p) := by
  unfold time_status
  split
  · exact observe_timing_aside _
  split
  · exact observe_timing_aside _
  · exact Enacts.refl p time

/-- What follows on the deck: the leader and the clock. -/
theorem apply_status_end (marks : StatusMarks) (hdeck : p.decks[reading.deck_id]? = some deck) :
    Does (lead_status status reading time marks >>= fun marks =>
      Call.modify (time_status status reading marks)) p time
      (lead_acts p status reading.deck_id) := by
  apply (lead_status_does marks hdeck).bind
  · rintro q a ⟨-, hq⟩
    refine ends_modify ⟨⟨(), rfl⟩, ?_⟩
    have hclock : Enacts q time [] (time_status status reading a q) := time_status_aside a
    simpa using hq.trans hclock
  · rintro q e ⟨⟨a, ha⟩, -⟩
    cases ha
  · rintro q ⟨⟨a, ha⟩, -⟩
    cases ha

/-! ## Status frames that follow -/

variable [Binary64 F]

/-- A deck that stands is moved by every frame with another beat. -/
theorem status_seeks_eq : status_seeks (F := F) reading previous =
    (!previous.playing && decide (previous.beat ≠ reading.beat)) := by
  unfold status_seeks position_is_discontinuous
  cases previous.playing with
  | true => rfl
  | false => simp

theorem status_baseline_face (status : DeckStatus F) (reading : StatusReading)
    (previous deck : LoadedDeck) :
    (status_baseline status reading previous deck).face = deck.face ∧
      (status_baseline status reading previous deck).track = deck.track := by
  unfold status_baseline
  dsimp only
  split
  · split <;> exact ⟨rfl, rfl⟩
  · exact ⟨rfl, rfl⟩

theorem followed_deck_face (status : DeckStatus F) (reading : StatusReading)
    (previous : LoadedDeck) (discontinuity : Bool) (generation : UInt64) :
    (followed_deck status reading previous discontinuity generation previous).face =
        followed_face status reading previous.face ∧
      (followed_deck status reading previous discontinuity generation previous).track =
        previous.track := by
  obtain ⟨hface, htrack⟩ := status_baseline_face status reading previous { previous with
    beat := if status_seeks (F := F) reading previous || !previous.playing then reading.beat
      else previous.beat
    last_position_observed_at_nanos := reading.observed_at_nanos }
  refine ⟨?_, htrack⟩
  unfold followed_deck LoadedDeck.face
  rw [Face.mk.injEq]
  have hbeat := congrArg Face.beat hface
  have hmetadata := congrArg Face.metadata hface
  have hload := congrArg Face.track_load_id hface
  have hphrase := congrArg Face.phrase_index hface
  refine ⟨hmetadata, hload, hbeat.trans ?_, rfl, rfl, hphrase⟩
  rw [status_seeks_eq]
  cases hplaying : previous.playing <;> simp [LoadedDeck.face, followed_face]

/-- A frame about the track of the deck ends well, with its acts. -/
theorem follow_status_does (hdeck : p.decks[reading.deck_id]? = some previous) :
    Does (follow_status status reading time previous) p time
      (follow_acts status reading previous) := by
  obtain ⟨hscript, hperform⟩ := follow_acts_spec status (faces_decks hdeck)
  unfold Does follow_status
  rw [status_seeks_eq]
  apply (when_tells _ (emit_tells time _ p)).followed_by
  intro q1 h1
  apply (when_tells _ ((advance_tells q1 time).andThen fun r => emit_tells time _ r)).followed_by
  intro q2 h2
  apply (when_tells _ (emit_tells time _ q2)).followed_by
  intro q3 h3
  apply (when_tells _ (advance_tells q3 time)).followed_by
  intro q4 h4
  apply (when_tells _ (emit_tells time _ q4)).followed_by
  intro q5 h5
  apply ends_modify_bind
  refine ends_pure ⟨⟨_, rfl⟩, ?_⟩
  have htold : Told p time (script p.faces (follow_acts status reading previous)) q5 := by
    rw [hscript]
    convert (((h1.trans h2).trans h3).trans h4).trans h5 using 1
    cases previous.playing <;> by_cases hbeat : previous.beat = reading.beat <;> simp [hbeat]
  obtain ⟨hface, htrack⟩ := followed_deck_face status reading previous
    ((!previous.playing && decide (previous.beat ≠ reading.beat)) ||
      (!previous.playing && status.playing)) q5.timing_generation
  refine htold.update_deck hdeck ?_ htrack ?_ ?_
  · rw [hperform, hface]
  · unfold follow_acts
    split_ifs <;> rfl
  · unfold follow_acts
    split_ifs <;> rfl

/-! ## Status frames -/

/-- How a frame ends, with its acts. -/
inductive StatusEnds (p : ProLinkDeckSourceProvider) (status : DeckStatus F) (nanos : UInt64) :
    List Act → Outcome (ProLinkProviderError F) Unit → Prop
  /-- There is no track. -/
  | empty (h : status.rekordbox_id = 0 ∨ status.source_player = 0) :
      StatusEnds p status nanos [.unload ⟨status.device_number⟩] (.ok ())
  /-- The frame cannot be read. -/
  | unread {e : ProLinkProviderError F} (h : read_status p status nanos = .error e) :
      StatusEnds p status nanos [] (.err e)
  /-- The track is new, and refused. -/
  | refused {reading : StatusReading} {e : TrackValidationError}
      (hread : read_status p status nanos = .ok reading)
      (htrack : placeholder_track status reading = .error e) :
      StatusEnds p status nanos [.unload reading.deck_id] (.err (.InvalidTrack e))
  /-- The track is new, and loaded. -/
  | loads {reading : StatusReading} {m : TrackMetadata} {l : TrackLoadId} {lead : List Act}
      (hread : read_status p status nanos = .ok reading)
      (hbpm : m.bpm_milli = reading.track_bpm_milli) (hphrases : m.phrases = [])
      (hlead : lead = [] ∨ lead = [.lead reading.deck_id]) :
      StatusEnds p status nanos ([.unload reading.deck_id,
        .load reading.deck_id (loaded_face status reading m l) reading.track] ++ lead) (.ok ())
  /-- The deck holds the track. -/
  | follows {reading : StatusReading} {previous : LoadedDeck} {lead : List Act}
      (hread : read_status p status nanos = .ok reading)
      (hdeck : p.decks[reading.deck_id]? = some previous)
      (hsame : previous.identity = reading.identity)
      (hlead : lead = [] ∨ lead = [.lead reading.deck_id]) :
      StatusEnds p status nanos (follow_acts status reading previous ++ lead) (.ok ())

theorem deck_of_face {face : Face} (h : p.faces.decks d = some face) :
    ∃ deck, p.decks[d]? = some deck ∧ deck.face = face :=
  Option.map_eq_some_iff.mp h

theorem apply_status_ends (status : DeckStatus F) (nanos : UInt64) :
    Ends Overflows (apply_status status nanos time) p fun q o =>
      ∃ acts, Enacts p time acts q ∧ StatusEnds p status nanos acts o := by
  unfold apply_status
  by_cases hempty : status.rekordbox_id = 0 ∨ status.source_player = 0
  · rw [if_pos hempty]
    refine (unload_deck_does _).mono ?_
    rintro q o ⟨⟨a, rfl⟩, hq⟩
    exact ⟨_, hq, .empty hempty⟩
  · rw [if_neg hempty]
    apply ends_get_bind
    apply Call.ends_check_bind
    · intro reading hread
      -- The deck first, and then the leader and the clock.
      have hdeck : Ends Overflows (deck_status status reading time) p fun q o =>
          (∃ e, o = .err e ∧ ∃ acts, Enacts p time acts q ∧
            StatusEnds p status nanos acts (.err e)) ∨
          ∃ marks acts deck, o = .ok marks ∧ q.decks[reading.deck_id]? = some deck ∧
            Enacts p time acts q ∧ ∀ lead, lead = [] ∨ lead = [.lead reading.deck_id] →
              StatusEnds p status nanos (acts ++ lead) (.ok ()) := by
        unfold deck_status
        apply ends_get_bind
        cases hprevious : p.decks[reading.deck_id]?.filter (·.identity = reading.identity) with
        | some previous =>
          obtain ⟨hp, hsame⟩ := Option.filter_eq_some_iff.mp hprevious
          refine (follow_status_does hp).mono ?_
          rintro q o ⟨⟨marks, rfl⟩, hq⟩
          have hface : q.faces.decks reading.deck_id =
              some (followed_face status reading previous.face) := by
            rw [hq.faces, (follow_acts_spec status (faces_decks hp)).2, decks_put]
          obtain ⟨deck, hdeck, -⟩ := deck_of_face hface
          exact .inr ⟨marks, _, deck, rfl, hdeck, hq, fun lead hlead =>
            .follows hread hp (of_decide_eq_true hsame) hlead⟩
        | none =>
          refine load_status_ends.mono ?_
          rintro q o (⟨marks, m, l, rfl, hbpm, hphrases, hq⟩ | ⟨e, rfl, htrack, hq⟩)
          · have hface : q.faces.decks reading.deck_id =
                some (loaded_face status reading m l) := by
              rw [hq.faces]
              exact decks_put _ _ _
            obtain ⟨deck, hdeck, -⟩ := deck_of_face hface
            exact .inr ⟨marks, _, deck, rfl, hdeck, hq, fun lead hlead =>
              .loads hread hbpm hphrases hlead⟩
          · exact .inl ⟨_, rfl, _, hq, .refused hread htrack⟩
      apply hdeck.bind
      · rintro q marks (⟨e, he, -⟩ | ⟨_, acts, deck, -, hdeck, hq, hends⟩)
        · cases he
        · refine (apply_status_end marks hdeck).mono ?_
          rintro r o ⟨⟨a, rfl⟩, hr⟩
          exact ⟨_, hq.trans hr, hends _ (lead_acts_cases q reading.deck_id)⟩
      · rintro q e (⟨e', he, hacts⟩ | ⟨_, _, _, ho, _⟩)
        · cases he
          exact hacts
        · cases ho
      · rintro q (⟨_, he, _⟩ | ⟨_, _, _, ho, _⟩)
        · cases he
        · cases ho
    · intro e he
      exact ⟨[], Enacts.refl p time, .unread he⟩

end status

/-! ## Positions -/

section positions

variable {previous : LoadedDeck}

theorem tell_phrase_tells (phrase_index : Option UInt16) (p : ProLinkDeckSourceProvider) :
    Tells (F := F) (tell_phrase d l phrase_index time) p time
      (phrase_index.toList.map (.PhraseChanged d l ·)) := by
  cases phrase_index with
  | some i => exact emit_tells time _ p
  | none => exact ends_pure ⟨rfl, Told.refl p time⟩

/-- A report of a position, after acts that only gave the deck its tempo. -/
theorem report_position_does (beat : UInt32) (seeked : Bool) (bpm : UInt32) (pre : List Act)
    (taken : UInt64 → LoadedDeck → LoadedDeck) (hdeck : p.decks[d]? = some previous)
    (hface : ∀ generation deck, deck.effective_bpm_milli = previous.effective_bpm_milli →
      (taken generation deck).face = { deck.face with effective_bpm_milli := bpm })
    (htrack : ∀ generation deck, (taken generation deck).track = deck.track)
    (hquiet : script p.faces pre = [])
    (hpre : perform_all p.faces pre =
      p.faces.put d (some { previous.face with effective_bpm_milli := bpm }))
    (hhold : pre.foldl Act.hold p.tracks = p.tracks) (hloads : pre.filterMap Act.loads = []) :
    Does (F := F) (report_position d previous beat seeked time taken) p time
      (pre ++ [.report d beat seeked]) := by
  unfold Does report_position
  apply (when_tells _ (emit_tells time _ p)).followed_by
  intro q1 h1
  apply ends_modify_bind
  have hq1 : q1.decks[d]? = some previous := by rw [h1.decks, hdeck]
  rw [update_deck_eq hq1]
  refine (tell_phrase_tells (new_phrase previous.face beat) _).mono ?_
  rintro q3 o ⟨ho, h3⟩
  refine ⟨⟨(), ho⟩, ?_⟩
  have htold : Told q1 time
      ((new_phrase previous.face beat).toList.map (.PhraseChanged d previous.track_load_id ·))
      { q3 with decks := q1.decks } :=
    ⟨rfl, h3.leader, h3.next, h3.sequence, h3.events⟩
  have hdecks : q3.decks = p.decks.insert d (taken q1.timing_generation { previous with
      beat := beat
      phrase_index := (new_phrase previous.face beat).or previous.phrase_index }) := by
    rw [h3.decks, ← h1.decks]
    rfl
  have hleader : q3.leader_deck_id = p.leader_deck_id := h3.leader.trans h1.leader
  have hput := decks_put p.faces d (some { previous.face with effective_bpm_milli := bpm })
  refine (h1.trans htold).enacts ?_ ?_ ?_ rfl rfl rfl ?_
  · rw [script_append, hquiet, hpre, List.nil_append]
    simp only [script, List.append_nil, Act.tells, about_some hput, decide_eq_true_eq]
    rfl
  · rw [perform_all_append, hpre, faces_insert hdecks hleader, hface]
    · show _ = Act.change _ d _
      rw [change_some hput, put_put]
      rfl
    · rfl
  · rw [List.foldl_append, hhold, tracks_insert hdecks, htrack]
    exact tracks_same (by rw [hdeck, Option.map_some]; rfl)
  · rw [List.filterMap_append, hloads]
    rfl

/-- The acts of a beat packet. -/
inductive BeatActs (p : ProLinkDeckSourceProvider) (beat : Beat) (nanos : UInt64) :
    List Act → Prop
  /-- The packet is not for a deck, or it is out of order. -/
  | ignored (h : ∀ previous, p.decks[(⟨beat.device_number⟩ : DeckId)]? = some previous →
      beat.tempo_master = true → beat_is_stale previous beat nanos = true) :
      BeatActs p beat nanos []
  | accepted {previous : LoadedDeck}
      (hdeck : p.decks[(⟨beat.device_number⟩ : DeckId)]? = some previous)
      (hmaster : beat.tempo_master = true) (hfresh : beat_is_stale previous beat nanos = false) :
      BeatActs p beat nanos [.report ⟨beat.device_number⟩ (beat_landing previous beat nanos)
        (beat_seeks previous beat nanos)]

theorem apply_beat_ends (beat : Beat) (nanos : UInt64) :
    Ends Overflows (apply_beat (F := F) beat nanos time) p fun q o =>
      ∃ acts, Enacts p time acts q ∧ o = .ok () ∧ BeatActs p beat nanos acts := by
  unfold apply_beat
  apply ends_get_bind
  cases hprevious : p.decks[(⟨beat.device_number⟩ : DeckId)]?.filter fun _ => beat.tempo_master with
  | none =>
    refine ends_pure ⟨[], Enacts.refl p time, rfl, .ignored ?_⟩
    intro previous hdeck hmaster
    have hnot := Option.filter_eq_none_iff.mp hprevious previous hdeck
    exact absurd hmaster hnot
  | some previous =>
    obtain ⟨hdeck, hmaster⟩ := Option.filter_eq_some_iff.mp hprevious
    dsimp only
    cases hstale : beat_is_stale previous beat nanos with
    | true =>
      rw [if_pos rfl]
      refine ends_pure ⟨[], Enacts.refl p time, rfl, .ignored ?_⟩
      intro deck hd _
      rw [hdeck] at hd
      cases hd
      exact hstale
    | false =>
      rw [if_neg (by decide)]
      apply (when_tells _ (advance_tells p time)).followed_by
      intro q1 h1
      rw [ite_self] at h1
      have hq1 : q1.decks[(⟨beat.device_number⟩ : DeckId)]? = some previous := by
        rw [h1.decks, hdeck]
      refine (report_position_does (beat_landing previous beat nanos)
        (beat_seeks previous beat nanos) previous.effective_bpm_milli [] _ hq1 ?_ ?_ rfl
        (put_same (faces_decks hq1)).symm rfl rfl).followed_by ?_
      · intro generation deck hbpm
        rw [← hbpm]
        rfl
      · exact fun _ _ => rfl
      · intro q2 h2
        refine ends_modify ⟨_, ?_, rfl, .accepted hdeck hmaster hstale⟩
        simpa using (h1.aside.trans h2).trans (observe_timing_aside _)

/-- A beat packet that is accepted and no jump does not lead back. -/
theorem accepted_beat_is_ahead {beat : Beat} {nanos : UInt64}
    (hfresh : beat_is_stale previous beat nanos = false)
    (hseeks : beat_seeks previous beat nanos = false) :
    previous.beat ≤ beat_landing previous beat nanos := by
  unfold beat_is_stale at hfresh
  simp only [hseeks, Bool.not_false, Bool.true_and, Bool.or_eq_false_iff,
    decide_eq_false_iff_not] at hfresh
  exact UInt32.not_lt.mp hfresh.1

/-! ## Precise positions -/

/-- The acts of a precise position. -/
inductive PositionActs (p : ProLinkDeckSourceProvider)
    (observation : ProLinkPrecisePositionObservation) (absolute_beat : UInt32)
    (known_hot_cue_target : Bool) : List Act → Prop
  /-- The deck does not hold the load. -/
  | elsewhere (h : ∀ previous, p.decks[observation.deck_id]? = some previous →
      previous.track_load_id ≠ observation.track_load_id) :
      PositionActs p observation absolute_beat known_hot_cue_target []
  | held {previous : LoadedDeck} (hdeck : p.decks[observation.deck_id]? = some previous)
      (hload : previous.track_load_id = observation.track_load_id)
      (h : precise_position_held previous observation absolute_beat known_hot_cue_target = true) :
      PositionActs p observation absolute_beat known_hot_cue_target []
  /-- The deck plays on; only its tempo is taken over. -/
  | adopted {previous : LoadedDeck} (hdeck : p.decks[observation.deck_id]? = some previous)
      (hload : previous.track_load_id = observation.track_load_id)
      (hplaying : previous.playing = true)
      (h : precise_position_held previous observation absolute_beat known_hot_cue_target = false) :
      PositionActs p observation absolute_beat known_hot_cue_target
        [.adopt observation.deck_id observation.effective_bpm_milli]
  /-- The deck stands, or it jumps. -/
  | moved {previous : LoadedDeck} (hdeck : p.decks[observation.deck_id]? = some previous)
      (hload : previous.track_load_id = observation.track_load_id)
      (h : precise_position_held previous observation absolute_beat known_hot_cue_target = false)
      (hmoves : previous.playing = false ∨
        precise_position_seeks previous observation absolute_beat known_hot_cue_target = true) :
      PositionActs p observation absolute_beat known_hot_cue_target
        [.adopt observation.deck_id observation.effective_bpm_milli,
          .report observation.deck_id absolute_beat
            (precise_position_seeks previous observation absolute_beat known_hot_cue_target)]

theorem adopt_acts_spec (hdeck : p.decks[d]? = some previous) :
    perform_all p.faces [.adopt d bpm] =
      p.faces.put d (some { previous.face with effective_bpm_milli := bpm }) :=
  change_some (faces_decks hdeck) _

/-- A position that only gives the deck its tempo. -/
theorem adopt_enacts (hdeck : p.decks[d]? = some previous)
    (hface : (f previous).face = { previous.face with effective_bpm_milli := bpm })
    (htrack : (f previous).track = previous.track) :
    Enacts p time [.adopt d bpm] (p.update_deck d f) := by
  refine (Told.refl p time).update_deck hdeck ?_ htrack rfl rfl
  rw [hface]
  exact adopt_acts_spec hdeck

theorem take_position_does {observation : ProLinkPrecisePositionObservation}
    (absolute_beat : UInt32) (seeked : Bool)
    (hdeck : p.decks[observation.deck_id]? = some previous) :
    Does (F := F) (take_position observation previous absolute_beat seeked time) p time
      [.adopt observation.deck_id observation.effective_bpm_milli,
        .report observation.deck_id absolute_beat seeked] := by
  unfold Does take_position
  apply (when_tells _ (advance_tells p time)).followed_by
  intro q1 h1
  rw [ite_self] at h1
  have hq1 : q1.decks[observation.deck_id]? = some previous := by rw [h1.decks, hdeck]
  refine (report_position_does absolute_beat seeked observation.effective_bpm_milli
    [.adopt observation.deck_id observation.effective_bpm_milli] _ hq1 ?_ ?_ rfl
    (adopt_acts_spec hq1) rfl rfl).followed_by ?_
  · exact fun _ _ _ => rfl
  · exact fun _ _ => rfl
  · intro q2 h2
    apply ends_get_bind
    have hq2 : Enacts p time [.adopt observation.deck_id observation.effective_bpm_milli,
        .report observation.deck_id absolute_beat seeked] q2 := h1.aside.trans h2
    cases (!previous.precise_position_seen || seeked ||
        decide (previous.effective_bpm_milli ≠ observation.effective_bpm_milli)) with
    | false => exact ends_pure ⟨⟨_, rfl⟩, hq2⟩
    | true =>
      apply ends_modify_bind
      exact ends_pure ⟨⟨_, rfl⟩, by simpa using hq2.trans (observe_timing_aside _)⟩

theorem apply_authoritative_position_ends (observation : ProLinkPrecisePositionObservation)
    (absolute_beat : UInt32) (known_hot_cue_target : Bool) :
    Ends Overflows (apply_authoritative_position (F := F) observation absolute_beat
      known_hot_cue_target time) p fun q o => ∃ acts, Enacts p time acts q ∧ (∃ a, o = .ok a) ∧
        PositionActs p observation absolute_beat known_hot_cue_target acts := by
  unfold apply_authoritative_position
  apply ends_get_bind
  cases hprevious : p.decks[observation.deck_id]?.filter
      (·.track_load_id = observation.track_load_id) with
  | none =>
    refine ends_pure ⟨[], Enacts.refl p time, ⟨_, rfl⟩, .elsewhere ?_⟩
    intro previous hdeck
    simpa using Option.filter_eq_none_iff.mp hprevious previous hdeck
  | some previous =>
    obtain ⟨hdeck, hload⟩ := Option.filter_eq_some_iff.mp hprevious
    rw [decide_eq_true_eq] at hload
    dsimp only
    by_cases habsorbed : precise_position_absorbed previous observation absolute_beat = true
    · rw [if_pos habsorbed]
      apply ends_modify_bind
      refine ends_pure ⟨_, adopt_enacts hdeck rfl rfl, ⟨_, rfl⟩, .adopted hdeck hload ?_ ?_⟩
      · unfold precise_position_absorbed at habsorbed
        rw [Bool.and_eq_true] at habsorbed
        exact habsorbed.1
      · simp [precise_position_held, habsorbed]
    · rw [if_neg habsorbed]
      by_cases hheld : precise_position_held previous observation absolute_beat
          known_hot_cue_target = true
      · rw [if_pos hheld]
        apply ends_modify_bind
        refine ends_pure ⟨[], update_deck_quiet ?_, ⟨_, rfl⟩, .held hdeck hload hheld⟩
        exact fun _ _ => ⟨rfl, rfl⟩
      · rw [if_neg hheld]
        rw [Bool.not_eq_true] at hheld
        by_cases hplays : (previous.playing && !precise_position_seeks previous observation
            absolute_beat known_hot_cue_target) = true
        · rw [if_pos hplays]
          apply ends_modify_bind
          refine ends_pure ⟨_, adopt_enacts hdeck rfl rfl, ⟨_, rfl⟩, .adopted hdeck hload ?_ hheld⟩
          rw [Bool.and_eq_true] at hplays
          exact hplays.1
        · rw [if_neg hplays]
          refine (take_position_does absolute_beat _ hdeck).mono ?_
          rintro q o ⟨ho, hq⟩
          refine ⟨_, hq, ho, .moved hdeck hload hheld ?_⟩
          cases hstands : previous.playing with
          | false => exact .inl rfl
          | true => exact .inr (by simpa [hstands] using hplays)

end positions

/-! ## Library and media -/

theorem deck_of_load_holds (h : p.deck_of_load l = some d) :
    ∃ deck, p.decks[d]? = some deck ∧ deck.track_load_id = l := by
  unfold deck_of_load at h
  obtain ⟨⟨a, deck⟩, hfind, rfl⟩ := Option.map_eq_some_iff.mp h
  have hmem := List.mem_of_find?_eq_some hfind
  rw [Std.ExtTreeMap.mem_toList_iff_getElem?_eq_some] at hmem
  exact ⟨deck, hmem, by simpa using List.find?_some hfind⟩

theorem publish_hydrated_track_ends (l : TrackLoadId) (m : TrackMetadata) :
    Ends Overflows (publish_hydrated_track (F := F) l m time) p fun q _ =>
      Enacts p time [] q ∨ ∃ d deck, p.decks[d]? = some deck ∧ deck.track_load_id = l ∧
        Enacts p time [.hydrate d m] q := by
  unfold publish_hydrated_track
  apply ends_get_bind
  rcases hload : p.deck_of_load l with _ | d
  · exact ends_pure (.inl (Enacts.refl p time))
  obtain ⟨deck, hdeck, rfl⟩ := deck_of_load_holds hload
  apply ends_modify_bind
  rw [update_deck_eq hdeck]
  apply (emit_tells time _ _).followed_by
  intro q hq
  refine ends_pure (.inr ⟨d, deck, hdeck, rfl, ?_⟩)
  -- Up to the deck, the state is what was told.
  have htold : Told p time [.TrackMetadataHydrated d m deck.track_load_id]
      { q with decks := p.decks } :=
    ⟨rfl, hq.leader, hq.next, hq.sequence, hq.events⟩
  have hdecks : q.decks = p.decks.insert d { deck with metadata := m, phrase_index := none } :=
    hq.decks
  refine htold.enacts ?_ ?_ ?_ rfl rfl rfl rfl
  · simp [script, Act.tells, about_some (faces_decks hdeck), LoadedDeck.face]
  · rw [faces_insert hdecks hq.leader]
    show _ = Act.change _ d _
    rw [change_some (faces_decks hdeck)]
    rfl
  · rw [tracks_insert hdecks]
    exact tracks_same (by rw [hdeck, Option.map_some]; rfl)

theorem unload_each_does (ds : List DeckId) (p : ProLinkDeckSourceProvider) :
    Does (F := F) (Call.for_each (unload_deck · time) ds) p time (ds.map .unload) := by
  induction ds generalizing p with
  | nil => exact ends_pure ⟨⟨(), rfl⟩, Enacts.refl p time⟩
  | cons d ds ih =>
    apply (unload_deck_does d).followed_by
    intro q hq
    exact (ih q).mono fun r o hr => ⟨hr.1, hq.trans hr.2⟩

/-- A leader without a deck is let go as if its deck were unloaded. -/
theorem unlead_enacts (hdecks : q.decks = p.decks) (hleader : q.leader_deck_id = none)
    (hnext : q.next_track_load_id = p.next_track_load_id) (hsequence : q.sequence = p.sequence)
    (hevents : q.pending_events = p.pending_events) (hempty : ∀ d : DeckId, p.decks[d]? = none) :
    Enacts p time (p.leader_deck_id.toList.map .unload) q := by
  have htracks : q.tracks = p.tracks := by
    unfold tracks
    rw [hdecks]
  have hfaces : q.faces = { p.faces with leader := none } := by
    simp [faces, hdecks, hleader]
  cases hlead : p.leader_deck_id with
  | none => exact enacts_aside hdecks (hleader.trans hlead.symm) hnext hsequence hevents
  | some d =>
    have hnone : p.faces.decks d = none := by simp [faces, hempty]
    refine (Told.refl p time).enacts ?_ ?_ ?_ hsequence hevents hnext rfl
    · simp [script, Act.tells, Act.about, hnone]
    · show _ = p.faces.without d
      rw [without_leader _ _ hnone, hfaces]
      simp [faces, hlead]
    · exact htracks.trans (tracks_same (by rw [hempty, Option.map_none])).symm

theorem clear_ends : Ends Overflows (clear (F := F) time) p fun q o =>
    o = .ok () ∧ q.leader_deck_id = none ∧ ∃ ds : List DeckId,
      Enacts p time (ds.map .unload) q := by
  unfold clear
  apply ends_get_bind
  apply (unload_each_does _ p).followed_by
  intro q hq
  refine ends_modify ⟨rfl, rfl, p.decks.toList.map (·.1) ++ q.leader_deck_id.toList, ?_⟩
  have hempty : ∀ d : DeckId, q.decks[d]? = none := by
    intro d
    have hface : q.faces.decks d = none := by
      rw [hq.faces, perform_all, List.foldl_map]
      refine (decks_without_each _ _ d).trans ?_
      split
      · rfl
      rename_i hd
      cases hdeck : p.decks[d]? with
      | none => simp [faces, hdeck]
      | some deck =>
        rw [← Std.ExtTreeMap.mem_toList_iff_getElem?_eq_some] at hdeck
        exact absurd (List.mem_map.mpr ⟨_, hdeck, rfl⟩) hd
    simpa [faces] using hface
  rw [List.map_append]
  exact hq.trans (unlead_enacts rfl rfl rfl rfl rfl hempty)

/-- A recovery empties the decks and starts the source anew. -/
theorem begin_bridge_recovery_ends : Ends Overflows (begin_bridge_recovery (F := F) time) p
    fun q _ => ∃ (ds : List DeckId) (source : List Act),
      Enacts p time (ds.map .unload ++ source) q ∧
      (source = [] ∨ source = [.source .Starting]) := by
  unfold begin_bridge_recovery
  apply clear_ends.followed_by
  rintro q ⟨hleader, ds, hq⟩
  apply ends_modify_bind
  have haside : Enacts q time [] { q with
      signatures := ∅
      leader_deck_id := none
      timing_observations := []
      precise_position_observations := [] } :=
    enacts_aside rfl hleader.symm rfl rfl rfl
  refine (update_source_status_does .Starting).mono ?_
  rintro r o ⟨-, hr⟩
  refine ⟨ds, _, hq.trans (haside.trans hr), ?_⟩
  split
  · exact .inr rfl
  · exact .inl rfl

/-! ## Every call -/

/-- A call of the engine on the provider. -/
inductive ProviderCall (F : Type) where
  | ingest (message : BridgeMessage F)
  | apply_authoritative_position (observation : ProLinkPrecisePositionObservation)
      (absolute_beat : UInt32) (known_hot_cue_target : Bool)
  | publish_hydrated_track (track_load_id : TrackLoadId) (metadata : TrackMetadata)
  | invalidate_source_media (source_player : UInt8)
  | clear
  | begin_bridge_recovery
  | mark_degraded
  | drain_timing_observations
  | drain_precise_position_observations

variable [Binary64 F]

/-- The call as it is made, without the value that it gives back. -/
def ProviderCall.method (time : MonotonicTime) : ProviderCall F → Method F Unit
  | ingest message => ProLinkDeckSourceProvider.ingest message time
  | apply_authoritative_position observation absolute_beat known_hot_cue_target => do
    let _ ← ProLinkDeckSourceProvider.apply_authoritative_position observation absolute_beat
      known_hot_cue_target time
  | publish_hydrated_track track_load_id metadata => do
    let _ ← ProLinkDeckSourceProvider.publish_hydrated_track track_load_id metadata time
  | invalidate_source_media source_player =>
    ProLinkDeckSourceProvider.invalidate_source_media source_player time
  | clear => ProLinkDeckSourceProvider.clear time
  | begin_bridge_recovery => ProLinkDeckSourceProvider.begin_bridge_recovery time
  | mark_degraded => update_source_status .Degraded time
  | drain_timing_observations => Call.modify fun self => self.drain_timing_observations.1
  | drain_precise_position_observations =>
    Call.modify fun self => self.drain_precise_position_observations.1

theorem apply_tempo_status_ends (tempo : TempoStatus F) (nanos : UInt64) :
    Ends Overflows (apply_tempo_status tempo nanos) p fun q _ => Enacts p time [] q := by
  unfold apply_tempo_status
  apply ends_get_bind
  split
  · exact ends_pure (Enacts.refl p time)
  apply Call.ends_check_bind
  · exact fun _ _ => ends_modify (observe_timing_aside _)
  · exact fun _ _ => Enacts.refl p time

theorem queue_precise_position_aside (position : PrecisePosition) (nanos : UInt64) :
    Enacts p time [] (queue_precise_position position nanos p) := by
  unfold queue_precise_position
  split
  · exact Enacts.refl p time
  split
  · exact Enacts.refl p time
  · exact enacts_aside rfl rfl rfl rfl rfl

/-- Acts that empty decks, or are about the source. -/
def Clears (acts : List Act) : Prop :=
  ∃ (ds : List DeckId) (source : List Act), acts = ds.map .unload ++ source ∧
    (source = [] ∨ ∃ status, source = [.source status])

/-- The call is neither a frame or a beat of a deck nor a precise position. -/
def ProviderCall.Quiet : ProviderCall F → Prop
  | ingest message =>
    match message.event with
    | .DeckStatus _ | .Beat _ => False
    | _ => True
  | apply_authoritative_position _ _ _ => False
  | _ => True

/-- The acts of a call. -/
inductive CallActs (p : ProLinkDeckSourceProvider) : ProviderCall F → List Act → Prop
  | status {message : BridgeMessage F} {status : DeckStatus F} {acts : List Act}
      {o : Outcome (ProLinkProviderError F) Unit} (hevent : message.event = .DeckStatus status)
      (h : StatusEnds p status message.observed_at_nanos acts o) :
      CallActs p (.ingest message) acts
  | beat {message : BridgeMessage F} {beat : Beat} {acts : List Act}
      (hevent : message.event = .Beat beat)
      (h : BeatActs p beat message.observed_at_nanos acts) : CallActs p (.ingest message) acts
  | position {observation : ProLinkPrecisePositionObservation} {absolute_beat : UInt32}
      {known_hot_cue_target : Bool} {acts : List Act}
      (h : PositionActs p observation absolute_beat known_hot_cue_target acts) :
      CallActs p (.apply_authoritative_position observation absolute_beat known_hot_cue_target)
        acts
  | hydrate {d : DeckId} {deck : LoadedDeck} {m : TrackMetadata}
      (hdeck : p.decks[d]? = some deck) :
      CallActs p (.publish_hydrated_track deck.track_load_id m) [.hydrate d m]
  | clears {call : ProviderCall F} {acts : List Act} (hquiet : call.Quiet) (h : Clears acts) :
      CallActs p call acts

theorem Clears.nil : Clears [] := ⟨[], [], rfl, .inl rfl⟩

theorem Clears.unload (ds : List DeckId) : Clears (ds.map .unload) :=
  ⟨ds, [], (List.append_nil _).symm, .inl rfl⟩

theorem Clears.source (c : Prop) [Decidable c] (status : DeckSourceStatus) :
    Clears (if c then [.source status] else []) := by
  split
  · exact ⟨[], _, rfl, .inr ⟨status, rfl⟩⟩
  · exact .nil

theorem ingest_ends (message : BridgeMessage F) (time : MonotonicTime)
    (p : ProLinkDeckSourceProvider) :
    Ends Overflows (ingest message time) p fun q _ =>
      ∃ acts, Enacts p time acts q ∧ CallActs p (.ingest message) acts := by
  obtain ⟨sequence, nanos, traffic_class, event⟩ := message
  unfold ingest
  cases event with
  | SourceStatus status | Error =>
    exact (update_source_status_does _).mono fun q _ hq => ⟨_, hq.2, .clears trivial (.source _ _)⟩
  | DeviceLost n =>
    exact (unload_deck_does _).mono fun q _ hq => ⟨_, hq.2, .clears trivial (.unload [_])⟩
  | DeckStatus status =>
    exact (apply_status_ends status nanos).mono fun q o ⟨acts, hq, hacts⟩ =>
      ⟨acts, hq, .status rfl hacts⟩
  | Beat beat =>
    exact (apply_beat_ends beat nanos).mono fun q o ⟨acts, hq, _, hacts⟩ =>
      ⟨acts, hq, .beat rfl hacts⟩
  | TempoStatus tempo =>
    exact (apply_tempo_status_ends tempo nanos).mono fun q _ hq =>
      ⟨[], hq, .clears trivial .nil⟩
  | PrecisePosition position =>
    exact ends_modify ⟨[], queue_precise_position_aside position nanos, .clears trivial .nil⟩
  | TrackSignature signature =>
    refine ends_modify ⟨[], ?_, .clears trivial .nil⟩
    have haside : Enacts p time [] { p with
        signatures := p.signatures.insert signature.deck_number signature.signature } :=
      enacts_aside rfl rfl rfl rfl rfl
    exact haside.trans (update_deck_quiet fun _ _ => ⟨rfl, rfl⟩)
  | Hello | DeviceFound _ | USBMedia _ | USBMount _ | TrackMetadata _ =>
    exact ends_pure ⟨[], Enacts.refl p time, .clears trivial .nil⟩

/-- Every call does the acts that are listed for it, unless a counter overflows. -/
theorem call_ends (call : ProviderCall F) (time : MonotonicTime) (p : ProLinkDeckSourceProvider) :
    Ends Overflows (call.method time) p fun q _ =>
      ∃ acts, Enacts p time acts q ∧ CallActs p call acts := by
  cases call with
  | ingest message => exact ingest_ends message time p
  | apply_authoritative_position observation absolute_beat known_hot_cue_target =>
    have hends : Ends Overflows (apply_authoritative_position (F := F) observation
        absolute_beat known_hot_cue_target time) p fun q _ => ∃ acts, Enacts p time acts q ∧
          CallActs (F := F) p (.apply_authoritative_position observation absolute_beat
            known_hot_cue_target) acts :=
      (apply_authoritative_position_ends observation absolute_beat known_hot_cue_target).mono
        fun q _ ⟨acts, hq, _, hacts⟩ => ⟨acts, hq, .position hacts⟩
    exact hends.bind (fun q _ hq => ends_pure hq) (fun q _ hq => hq) (fun q hq => hq)
  | publish_hydrated_track l m =>
    have hends : Ends Overflows (publish_hydrated_track (F := F) l m time) p fun q _ =>
        ∃ acts, Enacts p time acts q ∧ CallActs p (F := F) (.publish_hydrated_track l m) acts := by
      refine (publish_hydrated_track_ends l m).mono ?_
      rintro q - (hq | ⟨d, deck, hdeck, rfl, hq⟩)
      · exact ⟨[], hq, .clears trivial .nil⟩
      · exact ⟨_, hq, .hydrate hdeck⟩
    exact hends.bind (fun q _ hq => ends_pure hq) (fun q _ hq => hq) (fun q hq => hq)
  | invalidate_source_media source_player =>
    apply ends_get_bind
    exact (unload_each_does _ p).mono fun q _ hq => ⟨_, hq.2, .clears trivial (.unload _)⟩
  | clear =>
    exact clear_ends.mono fun q _ ⟨_, _, ds, hq⟩ => ⟨_, hq, .clears trivial (.unload ds)⟩
  | begin_bridge_recovery =>
    refine begin_bridge_recovery_ends.mono ?_
    rintro q - ⟨ds, source, hq, hsource⟩
    exact ⟨_, hq, .clears trivial ⟨ds, source, rfl, hsource.imp id fun h => ⟨_, h⟩⟩⟩
  | mark_degraded =>
    exact (update_source_status_does .Degraded).mono fun q _ hq =>
      ⟨_, hq.2, .clears trivial (.source _ _)⟩
  | drain_timing_observations | drain_precise_position_observations =>
    exact ends_modify ⟨[], enacts_aside rfl rfl rfl rfl rfl, .clears trivial .nil⟩

end lumi_prolink_input.ProLinkDeckSourceProvider
