-- The laws of the timeline editor: an edit never panics, what it cuts still
-- covers the beats of the track, and the check at its end refuses nothing but
-- a loop strategy that the user sent out of order.
import Lumi.Library.Timeline

open rust tiling lumi_domain
open UInt32 (le_iff_toNat_le lt_iff_toNat_lt not_le not_lt toNat_inj)
open Outcome (ok_bind returns_ok)

namespace lumi_library

open LumiPhraseTimeline (restore try_new_with_history)
open TimelineRevision (checked_next_eq_some exists_next)

/-! ## What the check accepts -/

/-- The phrases cover the beats from `a` up to `b`, one after the other, and none is empty. -/
def Cut (a : Nat) (phrases : List PhraseInstance) (b : Nat) : Prop :=
  Tiles (·.start_beat.toNat) (·.end_beat.toNat) a phrases b

variable {b a : Nat}

@[simp] theorem cut_nil : Cut a [] b ↔ a = b := Iff.rfl

variable {p : PhraseInstance} {ps : List PhraseInstance}

theorem cut_cons :
    Cut a (p :: ps) b ↔
      p.start_beat.toNat = a ∧ a < p.end_beat.toNat ∧ Cut p.end_beat.toNat ps b := Iff.rfl

/-- The phrases carry the indexes from `n` on. -/
def Numbered (n : Nat) (phrases : List PhraseInstance) : Prop :=
  Indexed (·.index.toNat) n phrases

/-- Some phrase has a strategy that the constructor refuses. -/
def AnyRefused (phrases : List PhraseInstance) : Prop :=
  ∃ p ∈ phrases, p.loop_strategy.is_refused = true

instance (phrases : List PhraseInstance) : Decidable (AnyRefused phrases) :=
  inferInstanceAs (Decidable (∃ p ∈ phrases, p.loop_strategy.is_refused = true))

theorem anyRefused_cons :
    AnyRefused (p :: ps) ↔ p.loop_strategy.is_refused = true ∨ AnyRefused ps := by
  simp [AnyRefused]

variable {total_beats : UInt32} {phrases : List PhraseInstance} {n : Nat}

theorem walk_phrases_ok {a e : UInt32} (h : walk_phrases total_beats n a phrases = .ok e) :
    Numbered n phrases ∧ Cut a.toNat phrases e.toNat ∧ ¬ AnyRefused phrases := by
  induction phrases generalizing n a with
  | nil =>
    cases h
    exact ⟨indexed_nil, rfl, by simp [AnyRefused]⟩
  | cons p ps ih =>
    unfold walk_phrases at h
    split_ifs at h with hi hr hs
    obtain ⟨hn, hc, hsound⟩ := ih h
    simp only [not_or, not_not, not_le] at hi hr
    refine ⟨⟨hi, hn⟩, ⟨congrArg UInt32.toNat hr.1, ?_, hc⟩, ?_⟩
    · rw [← hr.1]
      exact lt_iff_toNat_lt.mp hr.2.1
    · rw [anyRefused_cons]
      exact fun hany => hany.elim hs hsound

/-- Numbered phrases that cover the beats pass the walk, but for their strategies. -/
theorem walk_phrases_of_cut {a e : UInt32} (hn : Numbered n phrases)
    (hc : Cut a.toNat phrases e.toNat) (he : e ≤ total_beats) :
    walk_phrases total_beats n a phrases =
      if AnyRefused phrases then .error .InvalidLoopStrategy else .ok e := by
  induction phrases generalizing n a with
  | nil =>
    have hae : a = e := toNat_inj.mp hc
    simp [walk_phrases, AnyRefused, hae]
  | cons p ps ih =>
    obtain ⟨hi, hn⟩ := hn
    obtain ⟨hlo, hlt, hc⟩ := cut_cons.mp hc
    have hle : p.end_beat.toNat ≤ e.toNat := hc.le
    have hrange : ¬ (p.start_beat ≠ a ∨ p.end_beat ≤ p.start_beat ∨ p.end_beat > total_beats) := by
      simp only [ne_eq, ← toNat_inj, gt_iff_lt, le_iff_toNat_le, lt_iff_toNat_lt] at he ⊢
      omega
    unfold walk_phrases
    rw [if_neg (not_not.mpr hi), if_neg hrange, ih hn hc]
    by_cases hs : p.loop_strategy.is_refused = true
    · rw [if_pos hs, if_pos (anyRefused_cons.mpr (.inl hs))]
    rw [if_neg hs]
    simp [anyRefused_cons, hs]

/-- What the check promises of a timeline. -/
structure WellFormed (track_id : TrackId) (total_beats : UInt32)
    (phrases : List PhraseInstance) : Prop where
  track : track_id.value ≠ 0
  duration : total_beats ≠ 0
  not_empty : phrases ≠ []
  numbered : Numbered 0 phrases
  cut : Cut 0 phrases total_beats.toNat
  sound : ¬ AnyRefused phrases

variable (t : LumiPhraseTimeline) {q : PhraseInstance}

theorem LumiPhraseTimeline.wellFormed : WellFormed t.track_id t.total_beats t.phrases := by
  have h := t.valid
  unfold validate_timeline at h
  split_ifs at h with htrack hbeats hempty hhistory
  split at h
  · cases h
  rename_i previous_end hwalk
  split_ifs at h with hend
  rw [ne_eq, not_not] at hend
  subst hend
  obtain ⟨hn, hc, hs⟩ := walk_phrases_ok hwalk
  exact ⟨htrack, hbeats, by simpa using hempty, hn, hc, hs⟩

/-- There are no more phrases than numbers. -/
theorem LumiPhraseTimeline.length_le : t.phrases.length ≤ 2 ^ 16 := by
  by_contra hlong
  rw [Nat.not_le] at hlong
  have hindex : t.phrases[2 ^ 16].index.toNat = 0 + 2 ^ 16 :=
    t.wellFormed.numbered.get (List.getElem?_eq_getElem hlong)
  have hlt := t.phrases[2 ^ 16].index.toNat_lt
  omega

/-- The check of phrases that come after a timeline: only a strategy can fail it. -/
theorem validate_next {revision : TimelineRevision} {restored_from : Option TimelineRevision}
    (hrev : t.revision.value.toNat + 1 = revision.value.toNat)
    (hrestored : restored_from.any (· ≥ revision) = false) (hbeats : total_beats ≠ 0)
    (hn : Numbered 0 phrases) (hc : Cut 0 phrases total_beats.toNat) :
    validate_timeline t.track_id revision total_beats (some t.revision) restored_from phrases =
      if AnyRefused phrases then .error .InvalidLoopStrategy else .ok () := by
  have hempty : phrases ≠ [] := by
    rintro rfl
    exact hbeats (toNat_inj.mp (show (0 : Nat) = _ from hc).symm)
  have hparent : ¬ t.revision ≥ revision := by
    change ¬ revision.value ≤ t.revision.value
    rw [UInt64.le_iff_toNat_le]
    omega
  have hwalk : walk_phrases total_beats 0 0 phrases =
      if AnyRefused phrases then .error .InvalidLoopStrategy else .ok total_beats :=
    walk_phrases_of_cut hn hc UInt32.le_rfl
  unfold validate_timeline
  rw [if_neg t.wellFormed.track, if_neg hbeats, if_neg (by simpa using hempty),
    if_neg (by simp [hparent, hrestored]), hwalk]
  by_cases hany : AnyRefused phrases
  · simp [hany]
  · simp [hany]

/-! ## What a command does -/

/-- The errors that tell the user what to do otherwise. -/
def UserError : TimelineEditError → Prop
  | .UnknownPhrase | .InvalidBeatSelection | .InvalidSplitBoundary | .InvalidBoundaryMove
  | .MissingPreviousPhrase | .MissingNextPhrase | .CannotDeleteOnlyPhrase | .NoChange
  | .TooManyPhrases => True
  | _ => False

/-- The strategy that a command brings to the timeline. -/
def TimelineEditCommand.strategy : TimelineEditCommand → PhraseLoopStrategy
  | .SetLoopStrategy _ strategy => strategy
  | _ => .Auto

/-- The phrase on other beats. -/
def PhraseInstance.between (phrase : PhraseInstance) (start_beat end_beat : UInt32) :
    PhraseInstance :=
  (PhraseInstance.new 0 start_beat end_beat phrase.role_id).with_loop_strategy
    phrase.loop_strategy

/-- The phrases that give way to a command, behind `k` others, and those that take their place. -/
inductive Patch :
    TimelineEditCommand → Nat → List PhraseInstance → List PhraseInstance → Prop where
  | create {k start_beat end_beat role_id mid x y} (hfirst : mid.head? = some x)
      (hlast : mid.getLast? = some y) (hselection : start_beat < end_beat)
      (hbefore : x.start_beat ≤ start_beat) (hstart : start_beat < x.end_beat)
      (hend : y.start_beat < end_beat) (hafter : end_beat ≤ y.end_beat) :
      Patch (.Create start_beat end_beat role_id) k mid
        ((if x.start_beat < start_beat then [x.between x.start_beat start_beat] else []) ++
          .new 0 start_beat end_beat role_id ::
            if end_beat < y.end_beat then [y.between end_beat y.end_beat] else [])
  | split {k phrase_index at_beat x} (hindex : phrase_index.toNat = k)
      (hstart : x.start_beat < at_beat) (hend : at_beat < x.end_beat) :
      Patch (.Split phrase_index at_beat) k [x]
        [x.between x.start_beat at_beat, .new 0 at_beat x.end_beat x.role_id]
  | merge_previous {k phrase_index x y} (hindex : phrase_index.toNat = k + 1) :
      Patch (.MergePrevious phrase_index) k [x, y] [y.between x.start_beat y.end_beat]
  | merge_next {k phrase_index x y} (hindex : phrase_index.toNat = k) :
      Patch (.MergeNext phrase_index) k [x, y] [x.between x.start_beat y.end_beat]
  | move_boundary {k boundary to_beat x y} (hindex : boundary.toNat = k)
      (hstart : x.start_beat < to_beat) (hend : to_beat < y.end_beat) :
      Patch (.MoveBoundary boundary to_beat) k [x, y]
        [x.between x.start_beat to_beat, y.between to_beat y.end_beat]
  | absorb_previous {k phrase_index x y} (hindex : phrase_index.toNat = k + 1) :
      Patch (.Delete phrase_index .Previous) k [x, y] [x.between x.start_beat y.end_beat]
  | absorb_next {k phrase_index x y} (hindex : phrase_index.toNat = k) :
      Patch (.Delete phrase_index .Next) k [x, y] [y.between x.start_beat y.end_beat]
  | change_role {k phrase_index role_id x} (hindex : phrase_index.toNat = k) :
      Patch (.ChangeRole phrase_index role_id) k [x] [.new 0 x.start_beat x.end_beat role_id]
  | set_loop_strategy {k phrase_index strategy x} (hindex : phrase_index.toNat = k) :
      Patch (.SetLoopStrategy phrase_index strategy) k [x]
        [(x.between x.start_beat x.end_beat).with_loop_strategy strategy]

/-- A patch somewhere among the phrases. -/
inductive Edits (command : TimelineEditCommand) :
    List PhraseInstance → List PhraseInstance → Prop where
  | patch (pre post : List PhraseInstance) {mid mid' : List PhraseInstance}
      (h : Patch command pre.length mid mid') :
      Edits command (pre ++ (mid ++ post)) (pre ++ (mid' ++ post))

theorem mem_ite_singleton {c : Prop} [Decidable c] : q ∈ (if c then [p] else []) ↔ c ∧ q = p := by
  split <;> simp [*]

section arms

variable {phrases : List PhraseInstance}

theorem phrase_index_index_returns (index : UInt16) (len : Nat) :
    (phrase_index_index index len).Returns (fun i => index.toNat = i ∧ i < len) UserError := by
  unfold phrase_index_index
  split
  · trivial
  rename_i h
  exact ⟨rfl, Nat.lt_of_not_ge h⟩

variable (phrase_index : UInt16)

theorem apply_split_returns (at_beat : UInt32) :
    (apply_split phrases phrase_index at_beat).Returns
      (Edits (.Split phrase_index at_beat) phrases) UserError := by
  unfold apply_split
  apply (phrase_index_index_returns phrase_index phrases.length).bind
  rintro index ⟨hindex, hlt⟩
  obtain ⟨pre, x, post, rfl, rfl⟩ := vec_split hlt
  simp only [vec_index_mid, ok_bind]
  split
  · trivial
  rename_i hat
  simp only [not_or, ge_iff_le, not_le] at hat
  simp only [vec_set_mid, vec_insert_next, ok_bind, returns_ok]
  exact .patch pre post (.split hindex hat.1 hat.2)

theorem apply_merge_previous_returns :
    (apply_merge_previous phrases phrase_index).Returns
      (Edits (.MergePrevious phrase_index) phrases) UserError := by
  unfold apply_merge_previous
  apply (phrase_index_index_returns phrase_index phrases.length).bind
  rintro index ⟨hindex, hlt⟩
  split
  · trivial
  rename_i hzero
  obtain ⟨k, rfl⟩ := Nat.exists_eq_succ_of_ne_zero hzero
  obtain ⟨pre, x, y, post, rfl, rfl⟩ := vec_split_pair hlt
  simp only [Nat.succ_eq_add_one, Nat.add_sub_cancel, vec_index_mid, vec_index_next, vec_set_next,
    vec_remove_mid, ok_bind, returns_ok]
  exact .patch pre post (.merge_previous hindex)

theorem apply_merge_next_returns :
    (apply_merge_next phrases phrase_index).Returns
      (Edits (.MergeNext phrase_index) phrases) UserError := by
  unfold apply_merge_next
  apply (phrase_index_index_returns phrase_index phrases.length).bind
  rintro index ⟨hindex, _⟩
  split
  · trivial
  rename_i hnext
  obtain ⟨pre, x, y, post, rfl, rfl⟩ := vec_split_pair (Nat.lt_of_not_ge hnext)
  simp only [vec_index_mid, vec_index_next, vec_set_mid, vec_remove_next, ok_bind, returns_ok]
  exact .patch pre post (.merge_next hindex)

theorem apply_move_boundary_returns (boundary : UInt16) (to_beat : UInt32) :
    (apply_move_boundary phrases boundary to_beat).Returns
      (Edits (.MoveBoundary boundary to_beat) phrases) UserError := by
  unfold apply_move_boundary
  apply (phrase_index_index_returns boundary phrases.length).bind
  rintro left ⟨hindex, _⟩
  split
  · trivial
  rename_i hnext
  obtain ⟨pre, x, y, post, rfl, rfl⟩ := vec_split_pair (Nat.lt_of_not_ge hnext)
  simp only [vec_index_mid, vec_index_next, ok_bind]
  split
  · trivial
  rename_i hto
  simp only [not_or, ge_iff_le, not_le] at hto
  simp only [vec_set_mid, vec_set_next, ok_bind, returns_ok]
  exact .patch pre post (.move_boundary hindex hto.1 hto.2)

theorem apply_delete_returns (absorb_into : PhraseAbsorption) :
    (apply_delete phrases phrase_index absorb_into).Returns
      (Edits (.Delete phrase_index absorb_into) phrases) UserError := by
  unfold apply_delete
  apply (phrase_index_index_returns phrase_index phrases.length).bind
  rintro index ⟨hindex, hlt⟩
  split
  · trivial
  cases absorb_into with
  | Previous =>
    by_cases hzero : index = 0
    · obtain ⟨pre, x, post, rfl, rfl⟩ := vec_split hlt
      rw [vec_index_mid, ok_bind, if_neg (by omega)]
      trivial
    obtain ⟨k, rfl⟩ := Nat.exists_eq_succ_of_ne_zero hzero
    obtain ⟨pre, x, y, post, rfl, rfl⟩ := vec_split_pair hlt
    simp only [Nat.succ_eq_add_one, Nat.add_sub_cancel, vec_index_mid, vec_index_next,
      vec_set_mid, vec_remove_next, ok_bind, gt_iff_lt, Nat.succ_pos, ↓reduceIte,
      returns_ok]
    exact .patch pre post (.absorb_previous hindex)
  | Next =>
    by_cases hnext : index + 1 < phrases.length
    · obtain ⟨pre, x, y, post, rfl, rfl⟩ := vec_split_pair hnext
      simp only [hnext, vec_index_mid, vec_index_next, vec_set_next, vec_remove_mid,
        ok_bind, ↓reduceIte, returns_ok]
      exact .patch pre post (.absorb_next hindex)
    · obtain ⟨pre, x, post, rfl, rfl⟩ := vec_split hlt
      simp only [hnext, vec_index_mid, ok_bind, ↓reduceIte]
      trivial

theorem apply_change_role_returns (role_id : PhraseRoleId) :
    (apply_change_role phrases phrase_index role_id).Returns
      (Edits (.ChangeRole phrase_index role_id) phrases) UserError := by
  unfold apply_change_role
  apply (phrase_index_index_returns phrase_index phrases.length).bind
  rintro index ⟨hindex, hlt⟩
  obtain ⟨pre, x, post, rfl, rfl⟩ := vec_split hlt
  simp only [vec_index_mid, ok_bind]
  split
  · trivial
  rw [vec_set_mid, returns_ok]
  exact .patch pre post (.change_role hindex)

theorem apply_set_loop_strategy_returns (strategy : PhraseLoopStrategy) :
    (apply_set_loop_strategy phrases phrase_index strategy).Returns
      (Edits (.SetLoopStrategy phrase_index strategy) phrases) UserError := by
  unfold apply_set_loop_strategy
  apply (phrase_index_index_returns phrase_index phrases.length).bind
  rintro index ⟨hindex, hlt⟩
  obtain ⟨pre, x, post, rfl, rfl⟩ := vec_split hlt
  simp only [vec_index_mid, ok_bind]
  split
  · trivial
  rw [vec_set_mid, returns_ok]
  exact .patch pre post (.set_loop_strategy hindex)

end arms

/-! ## The loop of `Create` -/

section create

variable {start_beat end_beat : UInt32} {role_id : PhraseRoleId} {x y : PhraseInstance}
  {replacement phrases : List PhraseInstance}

/-- Phrases outside of the selection stay. -/
theorem create_loop_outside (h : ∀ p ∈ phrases, p.end_beat ≤ start_beat ∨ p.start_beat ≥ end_beat) :
    phrases.foldl (create_turn start_beat end_beat role_id) replacement =
      replacement ++ phrases := by
  induction phrases generalizing replacement with
  | nil => simp
  | cons p ps ih =>
    rw [List.foldl_cons, create_turn, if_pos (h p List.mem_cons_self),
      ih fun q hq => h q (List.mem_cons_of_mem p hq), List.append_assoc, List.singleton_append]

/-- The phrase around the start of the selection brings the new phrase. -/
theorem create_turn_first
    (hreplacement : replacement.getLast?.all (fun last => last.end_beat ≤ start_beat) = true)
    (hselection : start_beat < end_beat) (hbefore : x.start_beat ≤ start_beat)
    (hstart : start_beat < x.end_beat) :
    create_turn start_beat end_beat role_id replacement x =
      replacement ++
        ((if x.start_beat < start_beat then [x.between x.start_beat start_beat] else []) ++
          .new 0 start_beat end_beat role_id ::
            if end_beat < x.end_beat then [x.between end_beat x.end_beat] else []) := by
  have hin : ¬ (x.end_beat ≤ start_beat ∨ x.start_beat ≥ end_beat) := by
    simp only [ge_iff_le, le_iff_toNat_le, lt_iff_toNat_lt] at *
    omega
  unfold create_turn
  rw [if_neg hin]
  dsimp only
  by_cases hleft : x.start_beat < start_beat
  · have hpiece : (replacement ++ [(PhraseInstance.new 0 x.start_beat start_beat
        x.role_id).with_loop_strategy x.loop_strategy]).getLast?.all
          (fun last => last.end_beat ≤ start_beat) = true := by
      simp [PhraseInstance.new, PhraseInstance.with_loop_strategy]
    rw [if_pos hleft, if_pos hleft, if_pos hpiece]
    by_cases hright : end_beat < x.end_beat
    · simp [hright, PhraseInstance.between]
    · simp [hright, PhraseInstance.between]
  · rw [if_neg hleft, if_neg hleft, if_pos hreplacement]
    by_cases hright : end_beat < x.end_beat
    · simp [hright, PhraseInstance.between]
    · simp [hright]

/-- A phrase that starts within the selection leaves what is behind it. -/
theorem create_turn_within {last : PhraseInstance} (hlast : replacement.getLast? = some last)
    (hpast : start_beat < last.end_beat) (hstart : start_beat < x.start_beat)
    (hx : x.start_beat < x.end_beat) (hend : x.start_beat < end_beat) :
    create_turn start_beat end_beat role_id replacement x =
      replacement ++ if end_beat < x.end_beat then [x.between end_beat x.end_beat] else [] := by
  have hin : ¬ (x.end_beat ≤ start_beat ∨ x.start_beat ≥ end_beat) := by
    simp only [ge_iff_le, le_iff_toNat_le, lt_iff_toNat_lt] at *
    omega
  unfold create_turn
  rw [if_neg hin]
  dsimp only
  have hnew : ¬ replacement.getLast?.all (fun last => last.end_beat ≤ start_beat) = true := by
    simpa [hlast] using hpast
  rw [if_neg (not_lt.mpr (UInt32.le_of_lt hstart)), if_neg hnew]
  by_cases hright : end_beat < x.end_beat
  · simp [hright, PhraseInstance.between]
  · simp [hright]

/-- The loop over the phrases that start within the selection, up to the one at its end. -/
theorem create_loop_within {a : Nat} {pre : List PhraseInstance} {last : PhraseInstance}
    (hlast : replacement.getLast? = some last) (hpast : start_beat < last.end_beat)
    (ha : start_beat.toNat < a) (hc : Cut a (pre ++ [y]) y.end_beat.toNat)
    (hend : y.start_beat < end_beat) :
    (pre ++ [y]).foldl (create_turn start_beat end_beat role_id) replacement =
      replacement ++ if end_beat < y.end_beat then [y.between end_beat y.end_beat] else [] := by
  induction pre generalizing a with
  | nil =>
    obtain ⟨rfl, hlt, _⟩ := hc
    exact create_turn_within hlast hpast ha hlt hend
  | cons p pre ih =>
    obtain ⟨rfl, hlt, hc⟩ := hc
    have hle : p.end_beat.toNat ≤ y.start_beat.toNat := (tiles_snoc.mp hc).1.le
    have hinside : p.start_beat < end_beat ∧ ¬ end_beat < p.end_beat := by
      simp only [lt_iff_toNat_lt] at *
      omega
    rw [List.cons_append, List.foldl_cons, create_turn_within hlast hpast ha hlt hinside.1,
      if_neg hinside.2, List.append_nil]
    exact ih (ha.trans hlt) hc

theorem apply_create_returns (h : Cut 0 phrases total_beats.toNat) :
    (apply_create phrases total_beats start_beat end_beat role_id).Returns
      (Edits (.Create start_beat end_beat role_id) phrases) UserError := by
  unfold apply_create
  split
  · trivial
  rename_i hselection
  simp only [ge_iff_le, gt_iff_lt, not_or, not_le, not_lt] at hselection
  obtain ⟨hselection, htotal⟩ := hselection
  rw [le_iff_toNat_le] at htotal
  have hlt := lt_iff_toNat_lt.mp hselection
  -- The phrase `x` around the start, and the phrase `y` that reaches the end.
  obtain ⟨pre, x, rest, rfl, hpre, hbefore, hstart, hrest⟩ :=
    h.split_at (Nat.zero_le start_beat.toNat) (hlt.trans_le htotal)
  have hfrom : Cut x.start_beat.toNat (x :: rest) total_beats.toNat :=
    ⟨rfl, hbefore.trans_lt hstart, hrest⟩
  obtain ⟨inner, y, post, hsplit, hinner, hend, hafter, hpost⟩ :=
    hfrom.split_before (hbefore.trans_lt hlt) htotal
  have houtside : ∀ p ∈ pre, p.end_beat ≤ start_beat ∨ p.start_beat ≥ end_beat := by
    intro p hp
    exact .inl (le_iff_toNat_le.mpr ((hpre.bounds hp).2.2.trans hbefore))
  have hbehind : ∀ p ∈ post, p.end_beat ≤ start_beat ∨ p.start_beat ≥ end_beat := by
    intro p hp
    exact .inr (le_iff_toNat_le.mpr (hafter.trans (hpost.bounds hp).1))
  have hlast : pre.getLast?.all (fun last => last.end_beat ≤ start_beat) = true := by
    have hle := hpre.last_le (Nat.zero_le start_beat.toNat)
    rw [decide_eq_true hbefore] at hle
    exact hle
  have hfirst := @create_turn_first start_beat end_beat role_id x pre hlast hselection hbefore
    hstart
  rw [returns_ok, List.foldl_append, create_loop_outside houtside, List.nil_append, hsplit]
  rcases inner with _ | ⟨z, inner⟩
  · obtain ⟨rfl, rfl⟩ := List.cons.inj hsplit
    rw [List.nil_append, List.foldl_cons, hfirst, create_loop_outside hbehind, List.append_assoc]
    have hpatch : Patch (.Create start_beat end_beat role_id) pre.length [x] _ :=
      .create rfl rfl hselection hbefore hstart hend hafter
    exact .patch pre rest hpatch
  obtain ⟨rfl, hmiddle⟩ := List.cons.inj hsplit
  obtain ⟨_, _, hinner⟩ := hinner
  have hwithin : ¬ end_beat < x.end_beat := by
    have hle : x.end_beat.toNat ≤ y.start_beat.toNat := hinner.le
    rw [lt_iff_toNat_lt]
    omega
  have hcut : Cut x.end_beat.toNat (inner ++ [y]) y.end_beat.toNat :=
    tiles_snoc.mpr ⟨hinner, hend.trans_le hafter, rfl⟩
  have hloop := @create_loop_within start_beat end_beat role_id y
    (pre ++ ((if x.start_beat < start_beat then [x.between x.start_beat start_beat] else []) ++
      [.new 0 start_beat end_beat role_id])) x.end_beat.toNat inner
    (.new 0 start_beat end_beat role_id) (by simp) hselection hstart hcut hend
  rw [if_neg hwithin] at hfirst
  have hmid : x :: inner ++ y :: post = x :: (inner ++ [y]) ++ post := by simp
  rw [hmid, List.foldl_append, List.foldl_cons, hfirst, hloop, create_loop_outside hbehind,
    List.append_assoc, List.append_assoc, List.append_assoc, List.singleton_append]
  have hpatch : Patch (.Create start_beat end_beat role_id) pre.length
      (x :: (inner ++ [y])) _ :=
    .create rfl (by simp [List.getLast?_cons]) hselection hbefore hstart hend hafter
  have hedits := Edits.patch pre post hpatch
  rw [List.append_assoc, List.cons_append] at hedits
  exact hedits

end create

/-! ## What a patch keeps -/

section patches

variable {command : TimelineEditCommand} {k total : Nat}
  {mid mid' phrases after : List PhraseInstance}

/-- A piece of a phrase, unless it is empty. -/
theorem cut_piece {phrase : PhraseInstance} {a b : UInt32} (h : a ≤ b) :
    Cut a.toNat (if a < b then [phrase.between a b] else []) b.toNat := by
  split
  · rename_i hlt
    exact ⟨rfl, hlt, rfl⟩
  rename_i hge
  exact congrArg UInt32.toNat (UInt32.le_antisymm h (not_lt.mp hge))

/-- The phrases in the middle cover the beats that they covered. -/
theorem Patch.cut (h : Patch command k mid mid') {a b : Nat} (hmid : Cut a mid b) :
    Cut a mid' b := by
  cases h with
  | create hfirst hlast hselection hbefore hstart hend hafter =>
    rename_i start_beat end_beat role_id x y
    obtain ⟨ys, rfl⟩ := List.getLast?_eq_some_iff.mp hlast
    obtain ⟨xs, hxs⟩ := List.head?_eq_some_iff.mp hfirst
    obtain ⟨_, _, rfl⟩ := tiles_snoc.mp hmid
    rw [hxs] at hmid
    obtain ⟨rfl, _⟩ := hmid
    exact tiles_append.mpr ⟨start_beat.toNat, cut_piece hbefore, rfl, hselection, cut_piece hafter⟩
  | split hindex hstart hend =>
    obtain ⟨rfl, _, rfl⟩ := hmid
    exact ⟨rfl, hstart, rfl, hend, rfl⟩
  | merge_previous hindex | merge_next hindex | absorb_previous hindex | absorb_next hindex =>
    obtain ⟨rfl, hx, hxy, hy, rfl⟩ := hmid
    exact ⟨rfl, hx.trans hy, rfl⟩
  | move_boundary hindex hstart hend =>
    obtain ⟨rfl, _, _, _, rfl⟩ := hmid
    exact ⟨rfl, hstart, rfl, hend, rfl⟩
  | change_role hindex | set_loop_strategy hindex => exact hmid

/-- A strategy in the middle is the one of the command, or it was there. -/
theorem Patch.strategies (h : Patch command k mid mid') :
    ∀ p ∈ mid', p.loop_strategy = command.strategy ∨
      ∃ q ∈ mid, q.loop_strategy = p.loop_strategy := by
  cases h with
  | create hfirst hlast hselection hbefore hstart hend hafter =>
    rename_i start_beat end_beat role_id x y
    intro p hp
    rcases List.mem_append.mp hp with hp | hp
    · obtain ⟨_, rfl⟩ := mem_ite_singleton.mp hp
      exact .inr ⟨x, List.mem_of_mem_head? hfirst, rfl⟩
    rcases List.mem_cons.mp hp with rfl | hp
    · exact .inl rfl
    obtain ⟨_, rfl⟩ := mem_ite_singleton.mp hp
    exact .inr ⟨y, List.mem_of_getLast? hlast, rfl⟩
  | _ => simp [PhraseInstance.between, PhraseInstance.new, PhraseInstance.with_loop_strategy,
      TimelineEditCommand.strategy]

/-- The phrases after a command cover the same beats, and each of them has the strategy that the
command brings or the one of a phrase before. -/
structure Recut (total : Nat) (strategy : PhraseLoopStrategy)
    (before after : List PhraseInstance) : Prop where
  cut : Cut 0 after total
  strategies : ∀ p ∈ after, p.loop_strategy = strategy ∨
    ∃ q ∈ before, q.loop_strategy = p.loop_strategy

theorem Edits.recut (h : Edits command phrases after) (hcut : Cut 0 phrases total) :
    Recut total command.strategy phrases after := by
  obtain ⟨pre, post, hpatch⟩ := h
  constructor
  · obtain ⟨a, hpre, hrest⟩ := tiles_append.mp hcut
    obtain ⟨b, hmid, hpost⟩ := tiles_append.mp hrest
    exact tiles_append.mpr ⟨a, hpre, tiles_append.mpr ⟨b, hpatch.cut hmid, hpost⟩⟩
  · intro p hp
    rcases List.mem_append.mp hp with hp | hp
    · exact .inr ⟨p, List.mem_append_left _ hp, rfl⟩
    rcases List.mem_append.mp hp with hp | hp
    · rcases hpatch.strategies p hp with hp | ⟨q, hq, hqp⟩
      · exact .inl hp
      · exact .inr ⟨q, List.mem_append_right _ (List.mem_append_left _ hq), hqp⟩
    · exact .inr ⟨p, List.mem_append_right _ (List.mem_append_right _ hp), rfl⟩

end patches

/-! ## The numbers of the phrases -/

/-- The phrase without its number. -/
def PhraseInstance.bare (phrase : PhraseInstance) : PhraseInstance := { phrase with index := 0 }

/-- Phrases that differ at most in their numbers. -/
def SameBut (phrases after : List PhraseInstance) : Prop :=
  after.map PhraseInstance.bare = phrases.map PhraseInstance.bare

theorem PhraseInstance.bare_inj (hbare : p.bare = q.bare) (hindex : p.index = q.index) : p = q := by
  cases p
  cases q
  simp_all [bare]

variable {after : List PhraseInstance} {strategy : PhraseLoopStrategy}

theorem SameBut.cut (h : SameBut phrases after) : Cut a after b ↔ Cut a phrases b := by
  have hbare (l : List PhraseInstance) : Cut a (l.map PhraseInstance.bare) b ↔ Cut a l b :=
    tiles_map
  rw [← hbare after, h, hbare]

/-- Lists with the same numbers are the same when they differ at most in them. -/
theorem SameBut.eq_of_numbered (h : SameBut phrases after) (hafter : Numbered n after)
    (hphrases : Numbered n phrases) : after = phrases := by
  induction after generalizing n phrases with
  | nil =>
    rw [SameBut, List.map_nil, eq_comm, List.map_eq_nil_iff] at h
    exact h.symm
  | cons p ps ih =>
    cases phrases with
    | nil => cases h
    | cons q qs =>
      obtain ⟨hp, hps⟩ := List.cons.inj h
      obtain ⟨hpn, hafter⟩ := hafter
      obtain ⟨hqn, hphrases⟩ := hphrases
      have hindex : p.index = q.index := UInt16.toNat_inj.mp (hpn.trans hqn.symm)
      rw [PhraseInstance.bare_inj hp hindex, ih hps hafter hphrases]

theorem SameBut.mem (h : SameBut phrases after)
    (hp : p ∈ after) : ∃ q ∈ phrases, q.bare = p.bare := by
  have hmem : p.bare ∈ phrases.map PhraseInstance.bare := h ▸ List.mem_map_of_mem hp
  exact List.mem_map.mp hmem

theorem reindex_from_returns :
    (reindex_from n phrases).Returns (fun after => SameBut phrases after ∧ Numbered n after)
      UserError := by
  induction phrases generalizing n with
  | nil => exact ⟨rfl, indexed_nil⟩
  | cons p ps ih =>
    unfold reindex_from
    split
    · rename_i hn
      apply ih.bind
      rintro rest ⟨hsame, hnum⟩
      refine ⟨?_, ?_, hnum⟩
      · show _ :: rest.map PhraseInstance.bare = _ :: ps.map PhraseInstance.bare
        rw [hsame]
        rfl
      · simpa [PhraseInstance.new, PhraseInstance.with_loop_strategy] using hn
    · trivial

/-- Phrases that have their numbers are what `reindex` gives. -/
theorem reindex_from_of_numbered (hsame : SameBut phrases after) (hn : Numbered n after) :
    reindex_from n phrases = .ok after := by
  induction phrases generalizing n after with
  | nil =>
    rw [SameBut, List.map_nil, List.map_eq_nil_iff] at hsame
    rw [hsame]
    rfl
  | cons p ps ih =>
    rcases after with _ | ⟨q, qs⟩
    · cases hsame
    obtain ⟨hbare, hsame⟩ := List.cons.inj hsame
    obtain ⟨hq, hn⟩ := hn
    have hlt : n < 2 ^ 16 := hq ▸ q.index.toNat_lt
    have hindex : UInt16.ofNat n = q.index := by
      rw [← hq]
      exact UInt16.ofNat_toNat
    unfold reindex_from
    rw [if_pos hlt, ih hsame hn, ok_bind, hindex]
    congr 2
    exact PhraseInstance.bare_inj hbare.symm rfl

/-- The phrases of a timeline after `apply_edit`: edited, and with numbers of their own. -/
theorem apply_edit_returns (h : Cut 0 phrases total_beats.toNat) (command : TimelineEditCommand) :
    (apply_edit phrases total_beats command).Returns
      (fun after => Numbered 0 after ∧ ∃ edited, Edits command phrases edited ∧
        SameBut edited after) UserError := by
  have hreindex : ∀ edited, Edits command phrases edited →
      (reindex edited).Returns (fun after => Numbered 0 after ∧ ∃ edited,
        Edits command phrases edited ∧ SameBut edited after) UserError := by
    intro edited hedits
    apply (reindex_from_returns).mono
    rintro after ⟨hsame, hnum⟩
    exact ⟨hnum, edited, hedits, hsame⟩
  cases command with
  | Create => exact (apply_create_returns h).bind hreindex
  | Split => exact (apply_split_returns _ _).bind hreindex
  | MergePrevious => exact (apply_merge_previous_returns _).bind hreindex
  | MergeNext => exact (apply_merge_next_returns _).bind hreindex
  | MoveBoundary => exact (apply_move_boundary_returns _ _).bind hreindex
  | Delete => exact (apply_delete_returns _ _).bind hreindex
  | ChangeRole => exact (apply_change_role_returns _ _).bind hreindex
  | SetLoopStrategy => exact (apply_set_loop_strategy_returns _ _).bind hreindex

theorem Recut.renumber {total : Nat} {edited : List PhraseInstance}
    (h : Recut total strategy phrases edited) (hsame : SameBut edited after) :
    Recut total strategy phrases after := by
  refine ⟨hsame.cut.mpr h.cut, ?_⟩
  intro p hp
  obtain ⟨q, hq, hqp⟩ := hsame.mem hp
  have hstrategy : q.loop_strategy = p.loop_strategy :=
    congrArg (fun phrase => phrase.loop_strategy) hqp
  rw [← hstrategy]
  exact h.strategies q hq

/-- The constructor refuses exactly the overrides that are empty or not strictly increasing. -/
theorem is_refused_iff :
    strategy.is_refused = true ↔ ∃ overrides, strategy = .ThemeSpecificExact overrides ∧
      (overrides = [] ∨ ¬ overrides.Pairwise (·.theme_id < ·.theme_id)) := by
  cases strategy with
  | Auto | FixedVariant => simp [PhraseLoopStrategy.is_refused]
  | ThemeSpecificExact overrides =>
    have hneighbours := @windows_pair_all _ overrides
      (fun v w => v.theme_id < w.theme_id) (fun a b c => UInt64.lt_trans)
    have hnot : ∀ v w : ThemeSpecificVariant,
        v.theme_id ≥ w.theme_id ↔ ¬ v.theme_id < w.theme_id := by
      intro v w
      exact UInt64.not_lt.symm
    simp only [PhraseLoopStrategy.ThemeSpecificExact.injEq, exists_eq_left', ← hneighbours]
    simp [PhraseLoopStrategy.is_refused, hnot]

variable {command : TimelineEditCommand} {t' : LumiPhraseTimeline}

/-- Only a command that sets a strategy can bring one that the constructor refuses. -/
theorem strategy_is_refused (h : command.strategy.is_refused = true) :
    ∃ phrase_index overrides,
      command = .SetLoopStrategy phrase_index (.ThemeSpecificExact overrides) ∧
      (overrides = [] ∨ ¬ overrides.Pairwise (·.theme_id < ·.theme_id)) := by
  cases command with
  | SetLoopStrategy phrase_index strategy =>
    obtain ⟨overrides, rfl, hoverrides⟩ := is_refused_iff.mp h
    exact ⟨phrase_index, overrides, rfl, hoverrides⟩
  | _ => cases h

section constructor

variable {track_id : TrackId} {revision : TimelineRevision} {baseline_revision : SourceRevision}
  {total_beats : UInt32} {origin : TimelineRevisionOrigin} {reason : TimelineRevisionReason}
  {parent_revision restored_from : Option TimelineRevision} {phrases : List PhraseInstance}

theorem try_new_with_history_ok
    (h : validate_timeline track_id revision total_beats parent_revision restored_from phrases =
      .ok ()) :
    try_new_with_history track_id revision baseline_revision total_beats origin
        reason parent_revision restored_from phrases =
      .ok ⟨track_id, revision, baseline_revision, total_beats, origin, reason, parent_revision,
        restored_from, phrases, h⟩ := by
  unfold try_new_with_history
  split
  · rename_i hcheck
    rw [h] at hcheck
    cases hcheck
  · rfl

theorem try_new_with_history_eq_ok {t : LumiPhraseTimeline}
    (h : try_new_with_history track_id revision baseline_revision total_beats
      origin reason parent_revision restored_from phrases = .ok t) :
    ∃ valid, t = ⟨track_id, revision, baseline_revision, total_beats, origin, reason,
      parent_revision, restored_from, phrases, valid⟩ := by
  unfold try_new_with_history at h
  split at h
  · cases h
  cases h
  exact ⟨_, rfl⟩

theorem try_new_with_history_error {e : TimelineValidationError}
    (h : validate_timeline track_id revision total_beats parent_revision restored_from phrases =
      .error e) :
    try_new_with_history track_id revision baseline_revision total_beats origin
        reason parent_revision restored_from phrases = .error e := by
  unfold try_new_with_history
  split
  · rename_i hcheck
    rw [h] at hcheck
    cases hcheck
    rfl
  · rename_i hcheck
    rw [h] at hcheck
    cases hcheck

end constructor

/-! ## The law of the editor -/

theorem edit_ok {t : LumiPhraseTimeline} (h : t.edit command = .ok t') :
    apply_edit t.phrases t.total_beats command = .ok t'.phrases ∧ t'.phrases ≠ t.phrases ∧
      t'.track_id = t.track_id ∧ t'.total_beats = t.total_beats ∧
      t.revision.value.toNat + 1 = t'.revision.value.toNat := by
  unfold LumiPhraseTimeline.edit at h
  split at h
  · cases h
  rename_i next hnext
  obtain ⟨phrases, happly, h⟩ := Outcome.bind_eq_ok.mp h
  split at h
  · cases h
  rename_i hne
  unfold LumiPhraseTimeline.map_err at h
  split at h
  · rename_i timeline hnew
    cases h
    obtain ⟨_, rfl⟩ := try_new_with_history_eq_ok hnew
    exact ⟨happly, hne, rfl, rfl, checked_next_eq_some.mp hnext⟩
  · cases h

/-- The phrases of an accepted edit: edited, and with numbers of their own. -/
theorem edit_edits {t : LumiPhraseTimeline} (h : t.edit command = .ok t') :
    ∃ edited, Edits command t.phrases edited ∧ SameBut edited t'.phrases := by
  have hreturns := apply_edit_returns t.wellFormed.cut command
  rw [(edit_ok h).1] at hreturns
  exact hreturns.2

/-- New phrases that the arms give make a timeline, unless a strategy among them is refused. -/
theorem edit_of_apply (hrev : t.revision.value < u64_max)
    (happly : apply_edit t.phrases t.total_beats command = .ok phrases) (hne : phrases ≠ t.phrases)
    (hsound : ¬ AnyRefused phrases) : ∃ t', t.edit command = .ok t' ∧ t'.phrases = phrases := by
  have hwf := t.wellFormed
  have hreturns := apply_edit_returns hwf.cut command
  rw [happly] at hreturns
  obtain ⟨hn, edited, hedits, hsame⟩ := hreturns
  unfold LumiPhraseTimeline.edit
  obtain ⟨next, hnext⟩ := exists_next hrev
  rw [hnext]
  have hcheck := validate_next t (checked_next_eq_some.mp hnext)
    Option.any_none hwf.duration hn (hsame.cut.mpr (hedits.recut hwf.cut).cut)
  rw [if_neg hsound] at hcheck
  simp only [happly, ok_bind, hne, if_false, try_new_with_history_ok hcheck]
  exact ⟨_, rfl, rfl⟩

theorem an_edit_returns_a_timeline_or_tells_the_user
    (command : TimelineEditCommand) (hrev : t.revision.value < u64_max) :
    (∃ t', t.edit command = .ok t' ∧
      Cut 0 t'.phrases t.total_beats.toNat ∧ t'.phrases ≠ [] ∧ Numbered 0 t'.phrases ∧
      t'.revision.value.toNat = t.revision.value.toNat + 1 ∧
      t'.parent_revision = some t.revision ∧ t'.track_id = t.track_id ∧
      t'.baseline_revision = t.baseline_revision ∧ t'.total_beats = t.total_beats) ∨
    (∃ e, t.edit command = .err e ∧ UserError e) ∨
    (∃ phrase_index overrides, t.edit command = .err (.InvalidResult .InvalidLoopStrategy) ∧
      command = .SetLoopStrategy phrase_index (.ThemeSpecificExact overrides) ∧
      (overrides = [] ∨ ¬ overrides.Pairwise (·.theme_id < ·.theme_id))) := by
  have hwf := t.wellFormed
  unfold LumiPhraseTimeline.edit
  obtain ⟨next, hnext⟩ := exists_next hrev
  rw [hnext]
  have hrevision := checked_next_eq_some.mp hnext
  have happly := apply_edit_returns hwf.cut command
  cases hedit : apply_edit t.phrases t.total_beats command with
  | panicked => rw [hedit] at happly; exact happly.elim
  | err e =>
    rw [hedit] at happly
    exact .inr (.inl ⟨e, rfl, happly⟩)
  | ok phrases =>
    rw [hedit] at happly
    obtain ⟨hn, edited, hedits, hsame⟩ := happly
    have hrecut := (hedits.recut hwf.cut).renumber hsame
    simp only [ok_bind]
    split
    · exact .inr (.inl ⟨.NoChange, rfl, trivial⟩)
    have hcheck := validate_next t hrevision Option.any_none hwf.duration hn hrecut.cut
    by_cases hany : AnyRefused phrases
    · -- The strategies of the timeline are sound, so the refused one comes with the command.
      rw [if_pos hany] at hcheck
      obtain ⟨p, hp, hrefused⟩ := hany
      have hcommand : command.strategy.is_refused = true := by
        rcases hrecut.strategies p hp with hs | ⟨q, hq, hs⟩
        · rw [← hs]
          exact hrefused
        rw [← hs] at hrefused
        exact absurd ⟨q, hq, hrefused⟩ hwf.sound
      obtain ⟨phrase_index, overrides, hset, hoverrides⟩ := strategy_is_refused hcommand
      refine .inr (.inr ⟨phrase_index, overrides, ?_, hset, hoverrides⟩)
      rw [try_new_with_history_error hcheck]
      rfl
    · rw [if_neg hany] at hcheck
      rw [try_new_with_history_ok hcheck]
      refine .inl ⟨_, rfl, hrecut.cut, ?_, hn, hrevision.symm, rfl, rfl, rfl, rfl⟩
      exact (LumiPhraseTimeline.mk _ _ _ _ _ _ _ _ _ hcheck).wellFormed.not_empty

namespace sample

def role : PhraseRoleId := ⟨"intro", by decide, by decide⟩

def timeline : LumiPhraseTimeline where
  track_id := ⟨1⟩
  revision := .initial
  baseline_revision := ⟨"r1", by decide, by decide⟩
  total_beats := 16
  origin := .SourceImport
  reason := .InitialSourceMapping
  parent_revision := none
  restored_from := none
  phrases := [.new 0 0 8 role, .new 1 8 16 role]
  valid := by decide

/-- The same timeline at the last revision. -/
def last : LumiPhraseTimeline := { timeline with
  revision := ⟨u64_max, by decide⟩
  valid := by decide }

/-- The timeline after a split of its first phrase. -/
def split : LumiPhraseTimeline where
  track_id := ⟨1⟩
  revision := ⟨2, by decide⟩
  baseline_revision := ⟨"r1", by decide, by decide⟩
  total_beats := 16
  origin := .UserEdit
  reason := .SplitPhrase
  parent_revision := some .initial
  restored_from := none
  phrases := [.new 0 0 4 role, .new 1 4 8 role, .new 2 8 16 role]
  valid := by decide

end sample

theorem a_split_gives_the_next_revision :
    sample.timeline.revision.value < u64_max ∧
      ∃ t', sample.timeline.edit (.Split 0 4) = .ok t' ∧ Cut 0 t'.phrases 16 ∧
        Numbered 0 t'.phrases ∧ t'.revision.value.toNat = 2 := by
  refine ⟨by decide, ?_⟩
  rcases an_edit_returns_a_timeline_or_tells_the_user sample.timeline (.Split 0 4) (by decide) with
    ⟨t', h, hcut, _, hn, hrev, _⟩ | ⟨e, h, he⟩ | ⟨_, _, _, hset, _⟩
  · exact ⟨t', h, hcut, hn, hrev⟩
  · cases h
  · cases hset

/-! ## The law of the restore -/

/-- The phrases of a timeline already have the numbers that `restore` gives them. -/
theorem renumber_of_numbered (h : Numbered n phrases) :
    LumiPhraseTimeline.renumber n phrases = phrases := by
  induction phrases generalizing n with
  | nil => rfl
  | cons p ps ih =>
    obtain ⟨hp, hps⟩ := h
    have hn : n < 2 ^ 16 := hp ▸ p.index.toNat_lt
    have hindex : UInt16.ofNat n = p.index := by
      rw [← hp]
      exact UInt16.ofNat_toNat
    unfold LumiPhraseTimeline.renumber
    rw [if_pos hn, hindex, ih hps]
    rfl

/-- A restore of an earlier revision of the same timeline brings its phrases back. -/
theorem a_restore_brings_the_phrases_back {head target : LumiPhraseTimeline}
    {reason : TimelineRevisionReason} (htrack : head.track_id = target.track_id)
    (hbeats : head.total_beats = target.total_beats)
    (hreason : reason = .Undo ∨ reason = .Redo ∨ reason = .RestoreRevision)
    (hrev : head.revision.value < u64_max) (hearlier : target.revision ≤ head.revision) :
    ∃ t', restore head target reason = .ok t' ∧
      t'.phrases = target.phrases ∧ t'.revision.value.toNat = head.revision.value.toNat + 1 ∧
      t'.parent_revision = some head.revision ∧ t'.restored_from = some target.revision ∧
      t'.track_id = head.track_id ∧ t'.total_beats = head.total_beats := by
  have hwf := target.wellFormed
  unfold restore
  rw [if_neg (by simp [htrack, hbeats]), if_neg (not_not.mpr hreason)]
  obtain ⟨next, hnext⟩ := exists_next hrev
  rw [hnext]
  have hrevision := checked_next_eq_some.mp hnext
  have hrestored : (some target.revision).any (· ≥ next) = false := by
    have hle : target.revision.value.toNat ≤ head.revision.value.toNat :=
      UInt64.le_iff_toNat_le.mp hearlier
    have hlt : ¬ target.revision ≥ next := by
      change ¬ next.value ≤ target.revision.value
      rw [UInt64.le_iff_toNat_le]
      omega
    simpa using hlt
  have hcheck := validate_next head hrevision hrestored head.wellFormed.duration
    hwf.numbered (hbeats ▸ hwf.cut)
  rw [if_neg hwf.sound] at hcheck
  simp only
  rw [renumber_of_numbered hwf.numbered, try_new_with_history_ok hcheck]
  exact ⟨_, rfl, rfl, hrevision.symm, rfl, rfl, rfl, rfl⟩

end lumi_library
