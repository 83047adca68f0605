-- The provider and the reducer agree. On the decks, their loads, who plays
-- and who leads they agree after every call. On the beats they agree until a
-- precise position leads a standing deck back.
import Lumi.ProLink.Session

open rust replay lumi_domain

namespace lumi_prolink_input

open ProLinkDeckSourceProvider Story

variable {F : Type} [Binary64 F] {time : MonotonicTime} {operations : List (Operation F)}

/-! ## The two sides of a session -/

variable (f g : Face) {acts : List Act} {s : Session} {operation : Operation F}

/-- What is heard changes the beat and the phrase of a deck that reports, and nothing else. -/
theorem hears_report (d : DeckId) (beat : UInt32) (seeked : Bool) :
    ∃ beat' phrase_index, (Act.report d beat seeked).hears f g =
      { g with beat := beat', phrase_index } := by
  have hposition : ∃ b i, hear_position f g beat seeked =
      { g with beat := b, phrase_index := i } := by
    unfold hear_position
    split_ifs <;> exact ⟨_, _, rfl⟩
  obtain ⟨b, i, hp⟩ := hposition
  simp only [Act.hears, hp]
  cases new_phrase f beat with
  | none => exact ⟨b, i, rfl⟩
  | some j =>
    simp only [hear_phrase]
    split_ifs <;> exact ⟨b, _, rfl⟩

theorem map_of_rel {β : Type} {K : Face → Face → Prop} (view : Face → β) {o o' : Option Face}
    (h : Option.Rel K o o') (hview : ∀ f g, K f g → view f = view g) :
    o'.map view = o.map view := by
  cases h with
  | none => rfl
  | some hK => simp [hview _ _ hK]

theorem Session.Linked.deck (h : s.Linked) (d : DeckId) :
    s.runtime.decks[d]?.map DeckState.face = s.story.heard.decks d := by
  rw [← h.heard]
  rfl

/-! ## Who plays what -/

/-- Both sides hold the load, and both play it or both stand. -/
def SamePlay : Prop := f.track_load_id = g.track_load_id ∧ f.playing = g.playing

theorem samePlay_free (a : Act) : Free SamePlay a := by
  refine ⟨?_, fun d face track _ => ⟨rfl, rfl⟩⟩
  rintro f g ⟨hload, hplaying⟩
  cases a with
  | report d beat seeked =>
    obtain ⟨b, i, hhears⟩ := hears_report f g d beat seeked
    rw [hhears]
    exact ⟨hload, hplaying⟩
  | tempo d bpm =>
    simp only [Act.hears]
    split_ifs <;> exact ⟨hload, hplaying⟩
  | play d playing => exact ⟨hload, rfl⟩
  | source | unload | load | lead | adopt | jump | hydrate => exact ⟨hload, hplaying⟩

theorem session_follows (hfits : (session F time).Along Session.Fits operations) (k : Nat) :
    ((session F time).run (operations.take k)).Linked ∧
      Follows SamePlay ((session F time).run (operations.take k)).story := by
  refine session_keeps (C := fun _ _ => True) (I := fun s => Follows SamePlay s.story) ?_ ?_ hfits
    (fun _ _ _ _ _ => trivial) k
  · exact ⟨fun d => .none, rfl, fun d hd => by cases hd⟩
  · intro s operation acts _ hs _ _ hstory
    rw [hstory]
    exact hs.frees (fun _ _ h => h.1) fun a _ => samePlay_free a

/-- After every call, also after one that fails, the reducer holds the decks of the provider, with
their loads, and each plays or stands as the provider has it. The leader is the same, the source
numbers its events upwards, and no load gets a number that another one had. -/
theorem the_reducer_follows_who_plays_what (time : MonotonicTime)
    (operations : List (Operation F)) (hfits : (session F time).Along Session.Fits operations)
    (k : Nat) :
    let s := (session F time).run (operations.take k)
    (∀ d : DeckId, s.runtime.decks[d]?.map (fun deck => (deck.track_load_id, deck.playing)) =
        s.provider.decks[d]?.map fun deck => (deck.track_load_id, deck.playing)) ∧
      s.runtime.leader_deck = s.provider.leader_deck_id ∧
      (envelopes s.events).Pairwise (·.sequence < ·.sequence) ∧
      (announced ((envelopes s.events).map (·.observation))).Nodup := by
  intro s
  obtain ⟨hlinked, hfollows⟩ := session_follows hfits k
  refine ⟨?_, ?_, hlinked.ordered, ?_⟩
  · intro d
    have hd := map_of_rel (fun face => (face.track_load_id, face.playing))
      (hfollows.decks d) fun f g hK => by rw [hK.1, hK.2]
    rw [← hlinked.deck d, Option.map_map] at hd
    exact hd.trans (Option.map_map _ _ _)
  · have hleader := hfollows.leader
    rw [← hlinked.heard] at hleader
    exact hleader
  · apply List.nodup_iff_pairwise_ne.mpr
    refine hlinked.fresh.imp ?_
    rintro l _ hlt rfl
    exact UInt64.lt_irrefl _ hlt

namespace sample

/-- A deck loads, plays a bar and starts over after a recovery of the bridge. -/
def recovered : List (Operation ℚ) :=
  [⟨⟨1⟩, .ingest (frame 1 true 1)⟩, ⟨⟨2⟩, .ingest (beat 2 2)⟩, ⟨⟨2⟩, .begin_bridge_recovery⟩,
    ⟨⟨3⟩, .ingest (frame 3 false 9)⟩]

end sample

theorem the_reducer_follows_a_recovery :
    let s := (session ℚ ⟨0⟩).run (sample.recovered.take 4)
    (∀ d : DeckId, s.runtime.decks[d]?.map (fun deck => (deck.track_load_id, deck.playing)) =
        s.provider.decks[d]?.map fun deck => (deck.track_load_id, deck.playing)) ∧
      s.runtime.leader_deck = s.provider.leader_deck_id ∧
      (envelopes s.events).Pairwise (·.sequence < ·.sequence) ∧
      (announced ((envelopes s.events).map (·.observation))).Nodup :=
  the_reducer_follows_who_plays_what ⟨0⟩ sample.recovered
    (Machine.along_of_alongFrom (by decide +kernel)) 4

/-! ## Beats -/

/-- After the milliseconds of the last precise position, this one is a jump. -/
def position_jumps (deck : LoadedDeck) (observation : ProLinkPrecisePositionObservation) : Bool :=
  deck.precise_position_seen &&
    position_millis_is_discontinuous deck.last_precise_position_millis
      observation.playback_position_millis deck.last_precise_position_observed_at_nanos
      observation.observed_at_nanos deck.metadata.bpm_milli observation.effective_bpm_milli
      deck.playing

section jumps

variable {deck : LoadedDeck} {observation : ProLinkPrecisePositionObservation}
  {absolute_beat : UInt32} {known_hot_cue_target : Bool}

/-- A position that is held, or that moves the deck as a jump, is a jump. -/
theorem position_jumps_of_taken
    (h : precise_position_held deck observation absolute_beat known_hot_cue_target = true ∨
      precise_position_seeks deck observation absolute_beat known_hot_cue_target = true) :
    position_jumps deck observation = true := by
  simp only [precise_position_held, precise_position_seeks, precise_discontinuity_candidate,
    Bool.and_eq_true] at h
  obtain ⟨⟨⟨-, hseen⟩, hjumps⟩, -⟩ | ⟨⟨⟨-, hseen⟩, hjumps⟩, -⟩ := h <;>
    simpa [position_jumps, hseen] using hjumps

/-- On a deck that stands, a jump is held or moves the deck as a jump. -/
theorem seeks_of_position_jumps (hstands : deck.playing = false)
    (hjumps : position_jumps deck observation = true)
    (hheld : precise_position_held deck observation absolute_beat known_hot_cue_target = false) :
    precise_position_seeks deck observation absolute_beat known_hot_cue_target = true := by
  have habsorbed : precise_position_absorbed deck observation absolute_beat = false := by
    simp [precise_position_absorbed, hstands]
  simp only [position_jumps, Bool.and_eq_true] at hjumps
  simpa [precise_position_held, precise_position_seeks, precise_discontinuity_candidate, habsorbed,
    hjumps.1, hjumps.2] using hheld

end jumps

def SameBeat : Prop := f.track_load_id = g.track_load_id ∧ f.beat = g.beat

theorem sameBeat_load (h : SameBeat f g) : f.track_load_id = g.track_load_id := h.1

def Act.Reports : Act → Prop
  | .report _ _ _ => True
  | _ => False

theorem sameBeat_free {a : Act} (ha : ¬ a.Reports) : Free SameBeat a := by
  refine ⟨?_, fun d face track _ => ⟨rfl, rfl⟩⟩
  rintro f g ⟨hload, hbeat⟩
  cases a with
  | report => exact absurd trivial ha
  | tempo d bpm =>
    simp only [Act.hears]
    split_ifs <;> exact ⟨hload, hbeat⟩
  | jump d beat => exact ⟨hload, rfl⟩
  | source | unload | load | lead | adopt | play | hydrate => exact ⟨hload, hbeat⟩

theorem hear_phrase_beat (g : Face) (i : Option UInt16) :
    (hear_phrase g i).beat = g.beat ∧ (hear_phrase g i).track_load_id = g.track_load_id := by
  cases i with
  | none => exact ⟨rfl, rfl⟩
  | some i =>
    simp only [hear_phrase]
    split_ifs <;> exact ⟨rfl, rfl⟩

/-- A report is followed when it is a jump or leads forward. -/
theorem sameBeat_report {f g : Face} {beat : UInt32} {seeked : Bool} (d : DeckId)
    (h : SameBeat f g) (hforward : seeked = true ∨ f.beat ≤ beat) :
    SameBeat ((Act.report d beat seeked).shows f) ((Act.report d beat seeked).hears f g) := by
  obtain ⟨hload, hbeat⟩ := h
  obtain ⟨hb, hl⟩ := hear_phrase_beat (hear_position f g beat seeked) (new_phrase f beat)
  refine ⟨?_, ?_⟩
  · show f.track_load_id = (hear_phrase _ _).track_load_id
    rw [hl, hear_position_load, hload]
  · show beat = (hear_phrase _ _).beat
    rw [hb]
    unfold hear_position
    by_cases hsame : f.beat = beat
    · rw [if_pos hsame, ← hbeat, hsame]
    rw [if_neg hsame]
    by_cases hseeked : seeked = true
    · rw [if_pos hseeked]
    rw [if_neg hseeked, if_neg]
    rw [← hbeat]
    exact UInt32.not_lt.mpr (hforward.resolve_left hseeked)

/-- A precise position leads a deck that stands forward, or it is a jump. -/
def LeadsForward (s : Session) (operation : Operation F) : Prop :=
  match operation.call with
  | .apply_authoritative_position observation absolute_beat _ =>
    ∀ deck, s.provider.decks[observation.deck_id]? = some deck →
      deck.track_load_id = observation.track_load_id →
      deck.playing = true ∨ deck.beat ≤ absolute_beat ∨ position_jumps deck observation = true
  | _ => True

def BeatsAgree (s : Session) : Prop :=
  ∀ d : DeckId, s.runtime.decks[d]?.map (·.beat) = s.provider.decks[d]?.map (·.beat)

theorem no_report_optional {c : Prop} [Decidable c] {a b : Act}
    (ha : a ∈ if c then [b] else []) (hb : ¬ b.Reports) : ¬ a.Reports := by
  split at ha
  · rw [List.mem_singleton.mp ha]
    exact hb
  · cases ha

theorem no_report_lead {lead : List Act} {d : DeckId} {a : Act}
    (hlead : lead = [] ∨ lead = [.lead d]) (ha : a ∈ lead) : ¬ a.Reports := by
  rcases hlead with rfl | rfl
  · cases ha
  rw [List.mem_singleton.mp ha]
  exact fun h => h

/-- A frame reports no position. -/
theorem status_no_report {p : ProLinkDeckSourceProvider} {status : DeckStatus F} {nanos : UInt64}
    {o : Outcome (ProLinkProviderError F) Unit} (h : StatusEnds p status nanos acts o) :
    ∀ a ∈ acts, ¬ a.Reports := by
  intro a ha
  cases h with
  | empty _ | refused _ _ => rw [List.mem_singleton.mp ha]; exact fun h => h
  | unread _ => cases ha
  | loads _ _ _ hlead =>
    rcases List.mem_append.mp ha with ha | ha
    · simp only [List.mem_cons, List.not_mem_nil, or_false] at ha
      rcases ha with rfl | rfl <;> exact fun h => h
    · exact no_report_lead hlead ha
  | follows _ _ _ hlead =>
    rcases List.mem_append.mp ha with ha | ha
    · simp only [follow_acts, List.mem_append] at ha
      rcases ha with (ha | ha) | ha <;> exact no_report_optional ha fun h => h
    · exact no_report_lead hlead ha

theorem clears_no_report (h : Clears acts) : ∀ a ∈ acts, ¬ a.Reports := by
  obtain ⟨ds, source, rfl, hsource⟩ := h
  intro a ha
  rcases List.mem_append.mp ha with ha | ha
  · obtain ⟨d, -, rfl⟩ := List.mem_map.mp ha
    exact fun h => h
  rcases hsource with rfl | ⟨status, rfl⟩
  · cases ha
  rw [List.mem_singleton.mp ha]
  exact fun h => h

theorem sameBeat_after (hs : Follows SameBeat s.story) (hforward : LeadsForward s operation)
    (hacts : CallActs s.provider operation.call acts) : Follows SameBeat (s.story.after acts) := by
  obtain ⟨t, call⟩ := operation
  cases hacts with
  | status hevent h =>
    exact hs.frees sameBeat_load fun a ha => sameBeat_free (status_no_report h a ha)
  | clears hquiet h =>
    exact hs.frees sameBeat_load fun a ha => sameBeat_free (clears_no_report h a ha)
  | hydrate hdeck =>
    exact hs.free (a := .hydrate _ _) sameBeat_load (sameBeat_free fun h => h)
  | beat hevent h =>
    cases h with
    | ignored _ => exact hs
    | @accepted previous hdeck _ hfresh =>
      refine hs.deck (a := .report _ _ _) sameBeat_load rfl ?_
      intro f g hf hK
      cases (faces_decks hdeck).symm.trans hf
      apply sameBeat_report _ hK
      rcases Bool.eq_false_or_eq_true (beat_seeks previous _ _) with hseeks | hseeks
      · exact .inl hseeks
      · exact .inr (accepted_beat_is_ahead hfresh hseeks)
  | @position observation absolute_beat known_hot_cue_target _ h =>
    have hadopted := hs.free (a := .adopt observation.deck_id observation.effective_bpm_milli)
      sameBeat_load (sameBeat_free fun h => h)
    cases h with
    | elsewhere _ | held _ _ _ => exact hs
    | adopted _ _ _ _ => exact hadopted
    | @moved previous hdeck hload hheld hmoves =>
      refine hadopted.deck (a := .report _ _ _) sameBeat_load rfl ?_
      intro f g hf hK
      cases (shown_act (a := .adopt _ _) rfl (faces_decks hdeck)).symm.trans hf
      apply sameBeat_report _ hK
      by_cases hseeks : precise_position_seeks previous observation absolute_beat
          known_hot_cue_target = true
      · exact .inl hseeks
      have hstands := hmoves.resolve_right hseeks
      rcases hforward previous hdeck hload with hplaying | hahead | hjumps
      · rw [hstands] at hplaying
        cases hplaying
      · exact .inr hahead
      · exact absurd (seeks_of_position_jumps hstands hjumps hheld) hseeks

/-- The beats that are heard are the beats that are shown. -/
def HeardBeats (x : Story) : Prop :=
  ∀ d, (x.heard.decks d).map Face.beat = (x.shown.decks d).map Face.beat

theorem beatsAgree_iff (h : s.Linked) : BeatsAgree s ↔ HeardBeats s.story := by
  apply forall_congr'
  intro d
  rw [← h.deck d, Option.map_map]
  show _ ↔ _ = (s.provider.decks[d]?.map LoadedDeck.face).map Face.beat
  rw [Option.map_map]
  rfl

/-- A position that leads back and is no jump is not heard. -/
theorem a_step_back_is_not_heard {x : Story} {d : DeckId} {f g : Face} {beat : UInt32}
    (hf : x.shown.decks d = some f) (hg : x.heard.decks d = some g)
    (hload : f.track_load_id = g.track_load_id) (hbeat : f.beat = g.beat) (hback : beat < f.beat)
    (bpm : UInt32) : let y := x.after [.adopt d bpm, .report d beat false]
    (y.shown.decks d).map Face.beat = some beat ∧
      (y.heard.decks d).map Face.beat = some f.beat := by
  intro y
  obtain ⟨hshown, hheard⟩ := act_deck (a := .adopt d bpm) rfl hf hg hload
  have hf' : (x.act (.adopt d bpm)).shown.decks d = some { f with effective_bpm_milli := bpm } := by
    rw [hshown, decks_put]
    rfl
  have hg' : (x.act (.adopt d bpm)).heard.decks d = some g := by
    rw [hheard, decks_put]
    rfl
  obtain ⟨hshown', hheard'⟩ := act_deck (a := .report d beat false) rfl hf' hg' hload
  have hne : f.beat ≠ beat := by
    rintro rfl
    exact UInt32.lt_irrefl _ hback
  refine ⟨?_, ?_⟩
  · show Option.map Face.beat (((x.act _).act _).shown.decks d) = _
    rw [hshown', decks_put]
    rfl
  · show Option.map Face.beat (((x.act _).act _).heard.decks d) = _
    rw [hheard', decks_put, Option.map_some]
    congr 1
    show (hear_phrase _ _).beat = _
    rw [(hear_phrase_beat _ _).1, hear_position, if_neg (by exact hne), if_neg (by decide),
      if_pos (hbeat ▸ hback), hbeat]

theorem leadsForward_of_heard (hplay : Follows SamePlay s.story)
    (hacts : CallActs s.provider operation.call acts) (hbefore : HeardBeats s.story)
    (hafter : HeardBeats (s.story.after acts)) : LeadsForward s operation := by
  obtain ⟨t, call⟩ := operation
  cases call with
  | apply_authoritative_position observation absolute_beat known_hot_cue_target =>
    intro deck hdeck hload
    by_contra hnot
    obtain ⟨hstands, hback, hjumps⟩ : deck.playing = false ∧ absolute_beat < deck.beat ∧
        position_jumps deck observation = false := by
      simpa using hnot
    have hf : s.story.shown.decks observation.deck_id = some deck.face := faces_decks hdeck
    obtain ⟨g, hg, hsame⟩ := hplay.some_left hf
    have hbeat : deck.face.beat = g.beat := by
      have := hbefore observation.deck_id
      rw [hg, hf] at this
      exact (Option.some.inj this).symm
    cases hacts with
    | clears hquiet _ => exact hquiet
    | position h =>
      cases h with
      | elsewhere helse => exact helse deck hdeck hload
      | held hdeck' _ hheld =>
        cases hdeck.symm.trans hdeck'
        rw [position_jumps_of_taken (.inl hheld)] at hjumps
        cases hjumps
      | adopted hdeck' _ hplaying _ =>
        cases hdeck.symm.trans hdeck'
        rw [hstands] at hplaying
        cases hplaying
      | moved hdeck' _ _ _ =>
        cases hdeck.symm.trans hdeck'
        have hseeks : precise_position_seeks deck observation absolute_beat
            known_hot_cue_target = false := by
          rw [← Bool.not_eq_true]
          intro hseeks
          rw [position_jumps_of_taken (.inr hseeks)] at hjumps
          cases hjumps
        rw [hseeks] at hafter
        obtain ⟨hshown, hheard⟩ := a_step_back_is_not_heard hf hg hsame.1 hbeat hback
          observation.effective_bpm_milli
        have := hafter observation.deck_id
        rw [hshown, hheard] at this
        cases this
        exact UInt32.lt_irrefl _ hback
  | _ => trivial

/-- The beats agree after every call if and only if every precise position for a deck that stands
leads forward or is a jump. A position that leads back otherwise goes out as a plain position,
which the reducer does not follow. -/
theorem the_beats_agree_unless_a_position_leads_back (time : MonotonicTime)
    (operations : List (Operation F)) (hfits : (session F time).Along Session.Fits operations) :
    (∀ k, BeatsAgree ((session F time).run (operations.take k))) ↔
      (session F time).Along LeadsForward operations := by
  constructor
  · intro h k operation r hk _
    obtain ⟨hlinked, hplay⟩ := session_follows hfits k
    obtain ⟨hlinked', acts, hacts, hstory⟩ := hlinked.after (hfits k operation _ hk rfl)
    have hafter : BeatsAgree (((session F time).run (operations.take k)).after operation) := by
      have hnext := h (k + 1)
      rw [Machine.run_take_succ_get hk] at hnext
      exact hnext
    rw [beatsAgree_iff hlinked', hstory] at hafter
    exact leadsForward_of_heard hplay hacts ((beatsAgree_iff hlinked).mp (h k)) hafter
  · intro h k
    have hstart : Follows SameBeat (Session.start time).story :=
      ⟨fun d => .none, rfl, fun d hd => by cases hd⟩
    obtain ⟨hlinked, hfollows⟩ := session_keeps (I := fun s => Follows SameBeat s.story) hstart
      (fun s operation acts _ hs hforward hacts hstory =>
        hstory ▸ sameBeat_after hs hforward hacts) hfits h k
    rw [beatsAgree_iff hlinked]
    exact fun d => map_of_rel Face.beat (hfollows.decks d) fun f g hK => hK.2

namespace sample

/-- A deck stands on its eleventh beat, and its first precise position is two beats before. -/
def led_back : List (Operation ℚ) :=
  [⟨⟨1⟩, .ingest (frame 1 false 11)⟩, ⟨⟨2⟩, .ingest (precise_position 2 3750)⟩,
    ⟨⟨2⟩, .drain_precise_position_observations⟩,
    ⟨⟨3⟩, .apply_authoritative_position (observation 2 3750 128000) 8 false⟩]

end sample

theorem the_beats_agree_until_the_position_leads_back :
    (∀ k, BeatsAgree ((session ℚ ⟨0⟩).run (sample.led_back.take k))) ↔
      (session ℚ ⟨0⟩).Along LeadsForward sample.led_back :=
  the_beats_agree_unless_a_position_leads_back ⟨0⟩ sample.led_back
    (Machine.along_of_alongFrom (by decide +kernel))

/-- The position that the provider queued leads its own deck to the ninth beat, and the reducer
stays on the eleventh. -/
theorem a_position_leads_one_side_back :
    (session ℚ ⟨0⟩).Along Session.Fits sample.led_back ∧
      ((session ℚ ⟨0⟩).run (sample.led_back.take 2)).provider.precise_position_observations =
        [sample.observation 2 3750 128000] ∧
      ((session ℚ ⟨0⟩).run sample.led_back).provider.decks[(⟨1⟩ : DeckId)]?.map (·.beat) =
        some 8 ∧
      ((session ℚ ⟨0⟩).run sample.led_back).runtime.decks[(⟨1⟩ : DeckId)]?.map (·.beat) =
        some 10 ∧
      ¬ BeatsAgree ((session ℚ ⟨0⟩).run sample.led_back) := by
  refine ⟨Machine.along_of_alongFrom (by decide +kernel), by decide +kernel, by decide +kernel,
    by decide +kernel, ?_⟩
  intro h
  exact absurd (h ⟨1⟩) (by decide +kernel)

end lumi_prolink_input
