-- Edits that take each other back: a split and a merge, a boundary moved to and
-- fro, and the restore of any earlier revision.
import Lumi.Library.Editing

open rust tiling

namespace lumi_library

/-! ## The phrases on both sides of a boundary -/

theorem PhraseInstance.bare_eq_iff {p q : PhraseInstance} :
    p.bare = q.bare ↔ p.start_beat = q.start_beat ∧ p.end_beat = q.end_beat ∧
      p.role_id = q.role_id ∧ p.loop_strategy = q.loop_strategy := by
  cases p
  cases q
  simp [bare]

variable {to_beat : UInt32} {t t' head : LumiPhraseTimeline}

section pairs

variable {pre post after : List PhraseInstance} {x y : PhraseInstance} {phrase_index : UInt16}

/-- Two neighbours are found again under other numbers. -/
theorem SameBut.pair (h : SameBut (pre ++ ([x, y] ++ post)) after) :
    ∃ pre' x' y' post', after = pre' ++ x' :: y' :: post' ∧ pre'.length = pre.length ∧
      SameBut pre' pre ∧ SameBut post' post ∧ x.bare = x'.bare ∧ y.bare = y'.bare := by
  rw [SameBut, List.map_append, List.map_eq_append_iff] at h
  obtain ⟨pre', rest, rfl, hpre, hrest⟩ := h
  rw [List.map_append, List.map_eq_append_iff] at hrest
  obtain ⟨pair, post', rfl, hpair, hpost⟩ := hrest
  simp only [List.map_cons, List.map_nil, List.map_eq_cons_iff, List.map_eq_nil_iff] at hpair
  obtain ⟨x', _, rfl, hx, y', _, rfl, hy, rfl⟩ := hpair
  refine ⟨pre', x', y', post', rfl, ?_, hpre.symm, hpost.symm, hx.symm, hy.symm⟩
  simpa using congrArg List.length hpre

theorem apply_merge_next_pair (hindex : phrase_index.toNat = pre.length) :
    apply_merge_next (pre ++ x :: y :: post) phrase_index =
      .ok (pre ++ x.between x.start_beat y.end_beat :: post) := by
  unfold apply_merge_next phrase_index_index
  rw [if_neg (by simp [hindex]), hindex, Outcome.ok_bind, if_neg (by simp)]
  simp only [vec_index_mid, vec_index_next, vec_set_mid, vec_remove_next, Outcome.ok_bind]
  rfl

theorem apply_move_boundary_pair (hindex : phrase_index.toNat = pre.length)
    (hstart : x.start_beat < to_beat) (hend : to_beat < y.end_beat) :
    apply_move_boundary (pre ++ x :: y :: post) phrase_index to_beat =
      .ok (pre ++ x.between x.start_beat to_beat :: y.between to_beat y.end_beat :: post) := by
  have hbetween : ¬ (to_beat ≤ x.start_beat ∨ to_beat ≥ y.end_beat) := by
    simp only [not_or, ge_iff_le, UInt32.not_le]
    exact ⟨hstart, hend⟩
  unfold apply_move_boundary phrase_index_index
  rw [if_neg (by simp [hindex]), hindex, Outcome.ok_bind, if_neg (by simp)]
  simp only [vec_index_mid, vec_index_next, Outcome.ok_bind, if_neg hbetween, vec_set_mid,
    vec_set_next]
  rfl

end pairs

/-- An edit of the edited timeline that brings the old phrases back is accepted. -/
theorem edit_back {command back : TimelineEditCommand} {edited : List PhraseInstance}
    (hrev : t.revision.value < u64_max - 1) (h : t.edit command = .ok t')
    (hsame : SameBut edited t.phrases)
    (hback : apply_edit t'.phrases t'.total_beats back = reindex edited) :
    ∃ t'', t'.edit back = .ok t'' ∧ t''.phrases = t.phrases := by
  obtain ⟨-, hne, -, -, hrevision⟩ := edit_ok h
  have hwf := t.wellFormed
  have hnext : t'.revision.value < u64_max := by
    have hlt := UInt64.lt_iff_toNat_lt.mp hrev
    have hmax : (u64_max - 1).toNat = 2 ^ 64 - 2 := rfl
    rw [UInt64.lt_iff_toNat_lt, show u64_max.toNat = 2 ^ 64 - 1 from rfl]
    omega
  have happly : apply_edit t'.phrases t'.total_beats back = .ok t.phrases :=
    hback.trans (reindex_from_of_numbered hsame hwf.numbered)
  exact edit_of_apply t' hnext happly hne.symm hwf.sound

/-- Where the neighbours are the same but for their numbers, so are the lists. -/
theorem SameBut.around {pre pre' mid mid' post post' : List PhraseInstance}
    (hpre : SameBut pre' pre) (hmid : SameBut mid' mid) (hpost : SameBut post' post) :
    SameBut (pre' ++ (mid' ++ post')) (pre ++ (mid ++ post)) := by
  simp only [SameBut, List.map_append] at *
  rw [hpre, hmid, hpost]

/-- A merge takes a split back. -/
theorem merge_after_split {phrase_index : UInt16} {at_beat : UInt32}
    (hrev : t.revision.value < u64_max - 1) (h : t.edit (.Split phrase_index at_beat) = .ok t') :
    ∃ t'', t'.edit (.MergeNext phrase_index) = .ok t'' ∧ t''.phrases = t.phrases := by
  obtain ⟨edited, hedits, hsame⟩ := edit_edits h
  generalize hphrases : t.phrases = phrases at hedits
  obtain ⟨pre, post, hpatch⟩ := hedits
  cases hpatch with
  | split hindex hstart hend =>
    rename_i x
    obtain ⟨pre', l, r, post', hafter, hlength, hpre, hpost, hl, hr⟩ := hsame.pair
    obtain ⟨hlstart, _, hlrole, hlstrategy⟩ := PhraseInstance.bare_eq_iff.mp hl
    obtain ⟨_, hrend, _, _⟩ := PhraseInstance.bare_eq_iff.mp hr
    have hmerged : x.bare = (l.between l.start_beat r.end_beat).bare :=
      PhraseInstance.bare_eq_iff.mpr ⟨hlstart, hrend, hlrole, hlstrategy⟩
    have hback : SameBut (pre' ++ ([l.between l.start_beat r.end_beat] ++ post')) t.phrases := by
      rw [hphrases]
      exact hpre.around (congrArg (fun p => [p]) hmerged) hpost
    rw [← hphrases]
    apply edit_back hrev h hback
    rw [hafter]
    show apply_merge_next _ _ >>= reindex = _
    rw [apply_merge_next_pair (hindex.trans hlength.symm), Outcome.ok_bind]
    rfl

/-- A boundary that was moved can be moved back. -/
theorem move_boundary_back {boundary : UInt16} {left : PhraseInstance}
    (hrev : t.revision.value < u64_max - 1) (hleft : t.phrases[boundary.toNat]? = some left)
    (h : t.edit (.MoveBoundary boundary to_beat) = .ok t') :
    ∃ t'', t'.edit (.MoveBoundary boundary left.end_beat) = .ok t'' ∧ t''.phrases = t.phrases := by
  obtain ⟨edited, hedits, hsame⟩ := edit_edits h
  have hcut := t.wellFormed.cut
  generalize hphrases : t.phrases = phrases at hedits
  obtain ⟨pre, post, hpatch⟩ := hedits
  cases hpatch with
  | move_boundary hindex hstart hend =>
    rename_i x y
    obtain ⟨pre', l, r, post', hafter, hlength, hpre, hpost, hl, hr⟩ := hsame.pair
    obtain ⟨hlstart, _, hlrole, hlstrategy⟩ := PhraseInstance.bare_eq_iff.mp hl
    obtain ⟨_, hrend, hrrole, hrstrategy⟩ := PhraseInstance.bare_eq_iff.mp hr
    obtain rfl : x = left := by simpa [hphrases, hindex] using hleft
    -- The neighbours meet at the old boundary.
    rw [hphrases] at hcut
    obtain ⟨a, _, hrest⟩ := tiles_append.mp hcut
    obtain ⟨b, hmid, _⟩ := tiles_append.mp hrest
    obtain ⟨rfl, hx, hxy, hy, _⟩ := hmid
    have hmeet : y.start_beat = x.end_beat := UInt32.toNat_inj.mp hxy
    have hleft : x.bare = (l.between l.start_beat x.end_beat).bare :=
      PhraseInstance.bare_eq_iff.mpr ⟨hlstart, rfl, hlrole, hlstrategy⟩
    have hright : y.bare = (r.between x.end_beat r.end_beat).bare :=
      PhraseInstance.bare_eq_iff.mpr ⟨hmeet, hrend, hrrole, hrstrategy⟩
    have hback : SameBut (pre' ++ ([l.between l.start_beat x.end_beat,
        r.between x.end_beat r.end_beat] ++ post')) t.phrases := by
      rw [hphrases]
      refine hpre.around ?_ hpost
      rw [SameBut, List.map_cons, List.map_cons, List.map_cons, List.map_cons, hleft, hright]
    rw [← hphrases]
    apply edit_back hrev h hback
    rw [hafter]
    show apply_move_boundary _ _ _ >>= reindex = _
    rw [apply_move_boundary_pair (hindex.trans hlength.symm) (hlstart ▸ hx) (hrend ▸ hy),
      Outcome.ok_bind]
    rfl

/-! ## Histories -/

/-- The revisions that accepted edits and restores make out of a timeline, the newest first. -/
inductive History (t : LumiPhraseTimeline) : List LumiPhraseTimeline → Prop where
  | start : History t [t]
  | edit {head next : LumiPhraseTimeline} {earlier : List LumiPhraseTimeline}
      {command : TimelineEditCommand} (h : History t (head :: earlier))
      (hedit : head.edit command = .ok next) : History t (next :: head :: earlier)
  | restore {head target next : LumiPhraseTimeline} {earlier : List LumiPhraseTimeline}
      {reason : TimelineRevisionReason} (h : History t (head :: earlier))
      (hrestore : head.restore target reason = .ok next) : History t (next :: head :: earlier)

theorem restore_ok {head target next : LumiPhraseTimeline} {reason : TimelineRevisionReason}
    (h : head.restore target reason = .ok next) :
    next.track_id = head.track_id ∧ next.total_beats = head.total_beats ∧
      head.revision.value.toNat + 1 = next.revision.value.toNat := by
  unfold LumiPhraseTimeline.restore at h
  split at h
  · cases h
  split at h
  · cases h
  split at h
  · cases h
  rename_i next_revision hnext
  unfold LumiPhraseTimeline.map_err at h
  split at h
  · rename_i timeline hnew
    cases h
    obtain ⟨_, rfl⟩ := try_new_with_history_eq_ok hnew
    exact ⟨rfl, rfl, TimelineRevision.checked_next_eq_some.mp hnext⟩
  · cases h

/-- A revision of the same track that is not newer. -/
def Precedes (target head : LumiPhraseTimeline) : Prop :=
  head.track_id = target.track_id ∧ head.total_beats = target.total_beats ∧
    target.revision ≤ head.revision

theorem Precedes.next {target head next : LumiPhraseTimeline} (h : Precedes target head)
    (htrack : next.track_id = head.track_id) (hbeats : next.total_beats = head.total_beats)
    (hrevision : head.revision.value.toNat + 1 = next.revision.value.toNat) :
    Precedes target next := by
  obtain ⟨htrack', hbeats', hle⟩ := h
  refine ⟨htrack.trans htrack', hbeats.trans hbeats', ?_⟩
  change target.revision.value ≤ head.revision.value at hle
  change target.revision.value ≤ next.revision.value
  rw [UInt64.le_iff_toNat_le] at *
  omega

theorem Precedes.refl (t : LumiPhraseTimeline) : Precedes t t := ⟨rfl, rfl, UInt64.le_refl _⟩

theorem History.precedes {earlier : List LumiPhraseTimeline} (h : History t (head :: earlier)) :
    ∀ target ∈ head :: earlier, Precedes target head := by
  generalize hrevisions : head :: earlier = revisions at h
  induction h generalizing head earlier with
  | start =>
    cases hrevisions
    intro target htarget
    rw [List.mem_singleton.mp htarget]
    exact .refl t
  | edit h hedit ih =>
    cases hrevisions
    obtain ⟨_, _, htrack, hbeats, hrevision⟩ := edit_ok hedit
    intro target htarget
    rcases List.mem_cons.mp htarget with rfl | htarget
    · exact .refl target
    · exact (ih rfl target htarget).next htrack hbeats hrevision
  | restore h hrestore ih =>
    cases hrevisions
    obtain ⟨htrack, hbeats, hrevision⟩ := restore_ok hrestore
    intro target htarget
    rcases List.mem_cons.mp htarget with rfl | htarget
    · exact .refl target
    · exact (ih rfl target htarget).next htrack hbeats hrevision

/-! ## The law of the inverses -/

/-- A merge takes a split back, and a boundary that was moved can be moved back. In every history,
an undo, a redo or a restore of any revision brings its phrases back under their own numbers. -/
theorem edits_are_taken_back (t : LumiPhraseTimeline) :
    (t.revision.value < u64_max - 1 →
      (∀ phrase_index at_beat t', t.edit (.Split phrase_index at_beat) = .ok t' →
        ∃ t'', t'.edit (.MergeNext phrase_index) = .ok t'' ∧ t''.phrases = t.phrases) ∧
      ∀ boundary to_beat left t', t.phrases[boundary.toNat]? = some left →
        t.edit (.MoveBoundary boundary to_beat) = .ok t' →
        ∃ t'', t'.edit (.MoveBoundary boundary left.end_beat) = .ok t'' ∧
          t''.phrases = t.phrases) ∧
    ∀ head earlier, History t (head :: earlier) → head.revision.value < u64_max →
      ∀ target ∈ head :: earlier, ∀ reason,
        reason = .Undo ∨ reason = .Redo ∨ reason = .RestoreRevision →
        (∀ index < target.phrases.length, index < 2 ^ 16) ∧
        ∃ t', head.restore target reason = .ok t' ∧ t'.phrases = target.phrases ∧
          t'.revision.value.toNat = head.revision.value.toNat + 1 ∧
          t'.parent_revision = some head.revision ∧ t'.restored_from = some target.revision := by
  refine ⟨?_, ?_⟩
  · intro hrev
    refine ⟨?_, ?_⟩
    · intro phrase_index at_beat t' h
      exact merge_after_split hrev h
    · intro boundary to_beat left t' hleft h
      exact move_boundary_back hrev hleft h
  · intro head earlier hhistory hrev target htarget reason hreason
    obtain ⟨htrack, hbeats, hearlier⟩ := hhistory.precedes target htarget
    obtain ⟨t', hrestore, hphrases, hrevision, hparent, hrestored, -⟩ :=
      a_restore_brings_the_phrases_back htrack hbeats hreason hrev hearlier
    refine ⟨?_, t', hrestore, hphrases, hrevision, hparent, hrestored⟩
    intro index hindex
    exact hindex.trans_le target.length_le

theorem a_split_of_the_sample_is_taken_back :
    (∃ t'', sample.split.edit (.MergeNext 0) = .ok t'' ∧
      t''.phrases = sample.timeline.phrases) ∧
    ∃ t', sample.split.restore sample.timeline .Undo = .ok t' ∧
      t'.phrases = sample.timeline.phrases := by
  obtain ⟨hedits, hrestores⟩ := edits_are_taken_back sample.timeline
  refine ⟨(hedits (by decide)).1 0 4 sample.split rfl, ?_⟩
  have hhistory : History sample.timeline [sample.split, sample.timeline] :=
    .edit .start (show sample.timeline.edit (.Split 0 4) = .ok sample.split from rfl)
  obtain ⟨_, t', hrestore, hphrases, -⟩ := hrestores sample.split [sample.timeline] hhistory
    (by decide) sample.timeline (by simp) .Undo (.inl rfl)
  exact ⟨t', hrestore, hphrases⟩

end lumi_library
