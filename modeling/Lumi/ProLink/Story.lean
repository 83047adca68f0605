-- The story that the acts tell. The provider shows faces and tells of them,
-- and who hears all that is told sees faces too. One lemma says how an act
-- changes the two faces of a deck, and every law of the two compares them
-- act by act.
import Lumi.ProLink.Acts

open lumi_domain

namespace lumi_prolink_input

/-! ## One deck -/

namespace Act

variable {d : DeckId} {f : Face}

/-- The deck that the act changes, while it is there. -/
def deck : Act → Option DeckId
  | tempo d _ | adopt d _ | jump d _ | report d _ _ | play d _ | hydrate d _ => some d
  | _ => none

/-- The face that the provider shows after the act. -/
def shows (f : Face) : Act → Face
  | tempo _ bpm | adopt _ bpm => { f with effective_bpm_milli := bpm }
  | jump _ beat => { f with beat }
  | report _ beat _ =>
    { f with beat, phrase_index := (new_phrase f beat).or f.phrase_index }
  | play _ playing => { f with playing }
  | hydrate _ metadata => { f with metadata, phrase_index := none }
  | _ => f

end Act

/-- A reported position is heard while it is new, and it leads back only as a jump. -/
def hear_position (f g : Face) (beat : UInt32) (seeked : Bool) : Face :=
  if f.beat = beat then g
  else if seeked then
    { g with beat, phrase_index := phrase_index_at_beat g.metadata beat }
  else if beat < g.beat then g else { g with beat }

/-- A phrase is heard when the track has it. -/
def hear_phrase (g : Face) : Option UInt16 → Face
  | some i => if (g.metadata.phrase i).isSome then { g with phrase_index := some i } else g
  | none => g

/-- A deck that was heard of for the first time. -/
def hear_load (f : Face) : Face :=
  { f with
    effective_bpm_milli :=
      if f.effective_bpm_milli ≠ f.metadata.bpm_milli ∧
          20000 ≤ f.effective_bpm_milli ∧ f.effective_bpm_milli ≤ 300000 then
        f.effective_bpm_milli else f.metadata.bpm_milli
    phrase_index := none }

namespace Act

variable {x : Faces} {d : DeckId} {f g : Face}

/-- The face that is heard of after the act of a deck that showed `f` and was heard as `g`. -/
def hears (f g : Face) : Act → Face
  | tempo _ bpm => if 20000 ≤ bpm ∧ bpm ≤ 300000 then { g with effective_bpm_milli := bpm } else g
  | jump _ beat => { g with beat, phrase_index := phrase_index_at_beat g.metadata beat }
  | report _ beat seeked => hear_phrase (hear_position f g beat seeked) (new_phrase f beat)
  | play _ playing => { g with playing }
  | hydrate _ metadata =>
    { g with metadata, phrase_index := phrase_index_at_beat metadata g.beat }
  | _ => g

theorem perform_deck {a : Act} (ha : a.deck = some d) : a.perform x = change x d a.shows := by
  cases a <;> cases ha <;> rfl

theorem tells_absent {a : Act} (ha : a.deck = some d) (hx : x.decks d = none) : a.tells x = [] := by
  cases a <;> cases ha <;> simp [tells, about, hx]

end Act

section hearing

variable {x y : Faces} {d : DeckId} {f g : Face}

theorem hear_position_load (f g : Face) (beat : UInt32) (seeked : Bool) :
    (hear_position f g beat seeked).track_load_id = g.track_load_id := by
  unfold hear_position
  split_ifs <;> rfl

variable (hy : y.decks d = some g) (hl : f.track_load_id = g.track_load_id)
include hy hl

theorem listen_position (beat : UInt32) (seeked : Bool) :
    Faces.listen y (if f.beat ≠ beat then
      [if seeked then .PlaybackPositionSeeked d f.track_load_id beat
        else .PlaybackPosition d f.track_load_id beat] else []) =
    y.put d (some (hear_position f g beat seeked)) := by
  unfold hear_position
  by_cases hbeat : f.beat = beat
  · rw [if_neg (not_not.mpr hbeat), if_pos hbeat]
    exact (put_same hy).symm
  rw [if_pos hbeat, if_neg hbeat]
  cases seeked with
  | true => exact alter_some hy hl.symm
  | false =>
    show Faces.alter y d f.track_load_id _ = _
    rw [alter_some hy hl.symm]
    rfl

theorem listen_phrase (i : Option UInt16) :
    Faces.listen y (i.toList.map (.PhraseChanged d f.track_load_id ·)) =
      y.put d (some (hear_phrase g i)) := by
  cases i with
  | none => exact (put_same hy).symm
  | some i => exact alter_some hy hl.symm

/-- Of an act on a deck, one hears about this deck only. -/
theorem listen_deck {a : Act} (ha : a.deck = some d) (hx : x.decks d = some f) :
    Faces.listen y (a.tells x) = y.put d (some (a.hears f g)) := by
  cases a with
  | adopt => cases ha; exact (put_same hy).symm
  | report d beat seeked =>
    cases ha
    have hnext := decks_put y d (some (hear_position f g beat seeked))
    have hload : f.track_load_id = (hear_position f g beat seeked).track_load_id := by
      rw [hear_position_load, hl]
    simp only [Act.tells, about_some hx]
    rw [Faces.listen, List.foldl_append, ← Faces.listen, ← Faces.listen, listen_position hy hl,
      listen_phrase hnext hload, put_put]
    rfl
  | tempo d bpm | jump d beat | play d playing | hydrate d m =>
    cases ha
    simp only [Act.tells, about_some hx]
    exact alter_some hy hl.symm
  | source | unload | load | lead => cases ha

omit hy hl in
theorem listen_load (y : Faces) (d : DeckId) (f : Face) (track : Track) :
    Faces.listen y ((Act.load d f track).tells x) = y.put d (some (hear_load f)) := by
  have hzero : ¬ f.beat < 0 := by
    rw [UInt32.lt_iff_toNat_lt]
    exact Nat.not_lt_zero _
  unfold Faces.listen Act.tells
  rw [List.foldl_append, List.foldl_append]
  simp only [List.foldl_cons, List.foldl_nil, Faces.observe]
  rw [alter_some (decks_put y d _) rfl, put_put, if_neg hzero]
  by_cases hbpm : f.effective_bpm_milli = f.metadata.bpm_milli
  · rw [if_neg (not_not.mpr hbpm), List.foldl_nil, alter_some (decks_put y d _) rfl, put_put]
    simp [hear_load, hbpm]
  rw [if_pos hbpm, List.foldl_cons, List.foldl_nil, Faces.observe,
    alter_some (decks_put y d _) rfl, put_put]
  by_cases hvalid : 20000 ≤ f.effective_bpm_milli ∧ f.effective_bpm_milli ≤ 300000
  · rw [if_pos hvalid, alter_some (decks_put y d _) rfl, put_put]
    simp [hear_load, hbpm, hvalid]
  rw [if_neg hvalid, alter_some (decks_put y d _) rfl, put_put]
  simp [hear_load, hbpm, hvalid]

end hearing

/-! ## The story -/

/-- The faces that the provider shows, and all that it has told. -/
structure Story where
  shown : Faces
  told : List DeckObservation

namespace Story

def act (x : Story) (a : Act) : Story := ⟨a.perform x.shown, x.told ++ a.tells x.shown⟩

def after (x : Story) (acts : List Act) : Story := acts.foldl act x

def heard (x : Story) : Faces := Faces.listen ⟨fun _ => none, none⟩ x.told

variable {x : Story} {a : Act} {d : DeckId} {f g : Face}

theorem after_eq (x : Story) (acts : List Act) :
    x.after acts = ⟨perform_all x.shown acts, x.told ++ script x.shown acts⟩ := by
  induction acts generalizing x with
  | nil => simp [after, perform_all, script]
  | cons a acts ih =>
    show (x.act a).after acts = _
    rw [ih]
    simp [act, perform_all, script]

theorem heard_act (x : Story) (a : Act) :
    (x.act a).heard = Faces.listen x.heard (a.tells x.shown) := by
  simp [heard, act, Faces.listen]

/-- What an act does to the two faces of its deck. -/
theorem act_deck (ha : a.deck = some d) (hf : x.shown.decks d = some f)
    (hg : x.heard.decks d = some g) (hl : f.track_load_id = g.track_load_id) :
    (x.act a).shown = x.shown.put d (some (a.shows f)) ∧
      (x.act a).heard = x.heard.put d (some (a.hears f g)) := by
  refine ⟨?_, ?_⟩
  · show a.perform x.shown = _
    rw [Act.perform_deck ha, change_some hf]
  · rw [heard_act, listen_deck hg hl ha hf]

theorem shown_act (ha : a.deck = some d) (hf : x.shown.decks d = some f) :
    (x.act a).shown.decks d = some (a.shows f) := by
  show (a.perform x.shown).decks d = _
  rw [Act.perform_deck ha, decks_change hf]

/-- An act on a deck that is not there does nothing. -/
theorem act_absent (ha : a.deck = some d) (hf : x.shown.decks d = none) : x.act a = x := by
  have hput : x.shown.put d none = x.shown := by
    apply Faces.ext
    · exact Function.update_eq_self_iff.mpr hf.symm
    · rfl
  unfold act
  rw [Act.perform_deck ha, Act.tells_absent ha hf, Act.change, hf, Option.map_none, hput,
    List.append_nil]

/-- Deck by deck, the face that is heard of relates to the face that is shown, and the leader is
the same and is there. -/
structure Follows (K : Face → Face → Prop) (x : Story) : Prop where
  decks : ∀ d, Option.Rel K (x.shown.decks d) (x.heard.decks d)
  leader : x.heard.leader = x.shown.leader
  leads : ∀ d, x.shown.leader = some d → (x.shown.decks d).isSome

section follows

variable {K : Face → Face → Prop}

theorem rel_update {y z : DeckId → Option Face} {o o' : Option Face}
    (h : ∀ d, Option.Rel K (y d) (z d)) (ho : Option.Rel K o o') (d a : DeckId) :
    Option.Rel K (Function.update y d o a) (Function.update z d o' a) := by
  by_cases had : a = d
  · rw [had, Function.update_self, Function.update_self]
    exact ho
  rw [Function.update_of_ne had, Function.update_of_ne had]
  exact h a

theorem leads_put {y : Faces} (h : ∀ d, y.leader = some d → (y.decks d).isSome) (f : Face)
    (a : DeckId) (ha : y.leader = some a) : ((y.put d (some f)).decks a).isSome := by
  show (Function.update y.decks d (some f) a).isSome
  by_cases had : a = d
  · rw [had, Function.update_self]
    rfl
  rw [Function.update_of_ne had]
  exact h a ha

variable (h : Follows K x)
include h

theorem Follows.some_left (hf : x.shown.decks d = some f) :
    ∃ g, x.heard.decks d = some g ∧ K f g := by
  have hd := h.decks d
  rw [hf] at hd
  cases hd' : x.heard.decks d with
  | none => rw [hd'] at hd; cases hd
  | some g =>
    rw [hd'] at hd
    cases hd with
    | some hK => exact ⟨g, rfl, hK⟩

theorem Follows.load (d : DeckId) (face : Face) (track : Track)
    (hK : K face (hear_load face)) : Follows K (x.act (.load d face track)) := by
  have hheard : (x.act (.load d face track)).heard = x.heard.put d (some (hear_load face)) := by
    rw [heard_act, listen_load]
  refine ⟨?_, ?_, ?_⟩
  · rw [hheard]
    exact rel_update h.decks (.some hK) d
  · rw [hheard]
    exact h.leader
  · exact leads_put h.leads face

variable (hload : ∀ f g, K f g → f.track_load_id = g.track_load_id)
include hload

theorem Follows.unload (d : DeckId) : Follows K (x.act (.unload d)) := by
  cases hf : x.shown.decks d with
  | none =>
    have hact : x.act (.unload d) = x := by
      unfold act
      simp only [Act.tells, Act.perform, Act.about, hf, List.append_nil]
      rw [without_absent h.leads hf]
    rw [hact]
    exact h
  | some f =>
    obtain ⟨g, hg, hK⟩ := h.some_left hf
    have hheard : (x.act (.unload d)).heard = x.heard.without d := by
      rw [heard_act]
      simp only [Act.tells, about_some hf]
      show Faces.observe x.heard (.TrackUnloaded d f.track_load_id) = _
      rw [Faces.observe, hg, if_pos (by simp [hload f g hK])]
    refine ⟨?_, ?_, ?_⟩
    · rw [hheard]
      exact rel_update h.decks .none d
    · rw [hheard]
      show (if x.heard.leader = some d then none else x.heard.leader) = _
      rw [h.leader]
      rfl
    · exact Faces.Led.without h.leads d

theorem Follows.lead (d : DeckId) : Follows K (x.act (.lead d)) := by
  rcases hf : x.shown.decks d with _ | f
  · have hact : x.act (.lead d) = x := by
      simp [act, Act.tells, Act.perform, Act.about, hf]
    rw [hact]
    exact h
  obtain ⟨g, hg, hK⟩ := h.some_left hf
  have hshown : (x.act (.lead d)).shown = { x.shown with leader := some d } := by
    simp [act, Act.perform, hf]
  have hheard : (x.act (.lead d)).heard = { x.heard with leader := some d } := by
    rw [heard_act]
    simp only [Act.tells, about_some hf]
    show Faces.observe x.heard (.LeaderChanged d f.track_load_id) = _
    rw [Faces.observe, hg, if_pos (by simp [hload f g hK])]
  refine ⟨?_, ?_, ?_⟩
  · rw [hshown, hheard]
    exact h.decks
  · rw [hshown, hheard]
  · rw [hshown]
    intro a ha
    cases ha
    exact Option.isSome_of_eq_some hf

/-- An act on a deck is followed when it keeps the two faces of the deck related. -/
theorem Follows.deck (ha : a.deck = some d)
    (hkeeps : ∀ f g, x.shown.decks d = some f → K f g → K (a.shows f) (a.hears f g)) :
    Follows K (x.act a) := by
  rcases hf : x.shown.decks d with _ | f
  · rw [act_absent ha hf]
    exact h
  obtain ⟨g, hg, hK⟩ := h.some_left hf
  obtain ⟨hshown, hheard⟩ := act_deck ha hf hg (hload f g hK)
  refine ⟨?_, ?_, ?_⟩
  · rw [hshown, hheard]
    exact rel_update h.decks (.some (hkeeps f g hf hK)) d
  · rw [hshown, hheard]
    exact h.leader
  · rw [hshown]
    exact leads_put h.leads _

/-- The act keeps the faces related, whatever they are. -/
def Free (K : Face → Face → Prop) (a : Act) : Prop :=
  (∀ f g, K f g → K (a.shows f) (a.hears f g)) ∧
    ∀ d face track, a = .load d face track → K face (hear_load face)

theorem Follows.free (ha : Free K a) : Follows K (x.act a) := by
  cases a with
  | source status =>
    have hheard : (x.act (.source status)).heard = x.heard := by
      rw [heard_act]
      rfl
    refine ⟨?_, ?_, h.leads⟩
    · rw [hheard]
      exact h.decks
    · rw [hheard]
      exact h.leader
  | unload d => exact h.unload hload d
  | load d face track => exact h.load d face track (ha.2 d face track rfl)
  | lead d => exact h.lead hload d
  | tempo d _ | adopt d _ | jump d _ | report d _ _ | play d _ | hydrate d _ =>
    exact h.deck hload rfl fun f g _ hK => ha.1 f g hK

theorem Follows.frees {acts : List Act} (ha : ∀ a ∈ acts, Free K a) : Follows K (x.after acts) := by
  induction acts generalizing x with
  | nil => exact h
  | cons a acts ih =>
    exact ih (h.free hload (ha a List.mem_cons_self)) fun b hb => ha b (List.mem_cons_of_mem a hb)

end follows

end Story

end lumi_prolink_input
