-- A merge picks each phrase from one of two sides. It is accepted exactly when
-- the choices settle every conflict and the picked phrases cover the beats of
-- the source, and then it gives the picked phrases and no others.
import Lumi.Library.Rebase

open rust
open Outcome (bind_eq_err bind_eq_ok err_bind ok_bind ok_or)

namespace lumi_library

open reconciliation

/-! ## What is picked -/

/-- The choices name each place where the sides differ exactly once, and no other. -/
structure Settles (current source : List PhraseInstance) (choices : List PhraseConflictChoice) :
    Prop where
  once : (choices.map (·.phrase_index)).Nodup
  exact : ∀ place : Nat, (∃ choice ∈ choices, choice.phrase_index.toNat = place) ↔
    current[place]? ≠ source[place]?

/-- The phrase of the chosen side at a place; where no choice was made, it is Lumi's. -/
def picked (current source : List PhraseInstance) (choices : List PhraseConflictChoice)
    (place : Nat) : Option PhraseInstance :=
  match choices.find? (·.phrase_index.toNat = place) with
  | some ⟨_, .Source⟩ => source[place]?
  | _ => current[place]?

/-- The picked phrases, one at each place of the longer side. -/
def Picks (current source : List PhraseInstance) (choices : List PhraseConflictChoice)
    (phrases : List PhraseInstance) : Prop :=
  phrases.length = max current.length source.length ∧
    ∀ place < phrases.length, phrases[place]? = picked current source choices place

section merge

variable {current source phrases : List PhraseInstance} {choices : List PhraseConflictChoice}
  {place : Nat} {phrase : PhraseInstance} {total_beats : UInt32}

theorem merged_phrase_ok :
    merged_phrase current source choices place = .ok phrase ↔
      place < 2 ^ 16 ∧ picked current source choices place = some phrase := by
  unfold merged_phrase u16_index
  by_cases hplace : place < 2 ^ 16
  · have hfind : (choices.find? fun choice => choice.phrase_index = UInt16.ofNat place) =
        choices.find? (·.phrase_index.toNat = place) := by
      congr
      funext choice
      apply decide_eq_decide.mpr
      rw [← UInt16.toNat_inj, UInt16.toNat_ofNat', Nat.mod_eq_of_lt hplace]
    rw [if_pos hplace, ok_bind]
    dsimp only
    rw [hfind, Outcome.ok_or_eq_ok, picked]
    cases hchoice : choices.find? (·.phrase_index.toNat = place) with
    | none => exact (and_iff_right hplace).symm
    | some choice =>
      obtain ⟨index, side⟩ := choice
      cases side with
      | Lumi | Source => exact (and_iff_right hplace).symm
  · rw [if_neg hplace, err_bind]
    constructor
    · intro h
      cases h
    · rintro ⟨h, -⟩
      exact absurd h hplace

/-- The loop of the merge gives the picked phrases. -/
theorem collect_merged :
    Outcome.collect (merged_phrase current source choices)
        (List.range (max current.length source.length)) = .ok phrases ↔
      Picks current source choices phrases ∧ phrases.length ≤ 2 ^ 16 := by
  rw [Outcome.collect_eq_ok, List.forall₂_iff_get]
  constructor
  · rintro ⟨hlength, hplaces⟩
    rw [List.length_range] at hlength
    have hplace (place : Nat) (h : place < phrases.length) :
        place < 2 ^ 16 ∧ picked current source choices place = phrases[place]? := by
      have hmerged := hplaces place (by rw [List.length_range]; omega) h
      rw [List.get_eq_getElem, List.getElem_range, List.get_eq_getElem] at hmerged
      rw [List.getElem?_eq_getElem h]
      exact merged_phrase_ok.mp hmerged
    refine ⟨⟨hlength.symm, fun place h => (hplace place h).2.symm⟩, ?_⟩
    by_contra hlong
    exact absurd (hplace (2 ^ 16) (by omega)).1 (Nat.lt_irrefl _)
  · rintro ⟨⟨hlength, hpicked⟩, hshort⟩
    refine ⟨by rw [List.length_range, hlength], ?_⟩
    intro place hrange hplace
    rw [List.get_eq_getElem, List.getElem_range, List.get_eq_getElem]
    refine merged_phrase_ok.mpr ⟨hplace.trans_le hshort, ?_⟩
    rw [← hpicked place hplace, List.getElem?_eq_getElem hplace]

theorem validate_coverage_ok {previous : UInt32} :
    validate_coverage total_beats previous phrases = .ok () ↔
      Cut previous.toNat phrases total_beats.toNat := by
  induction phrases generalizing previous with
  | nil =>
    unfold validate_coverage
    rw [cut_nil, UInt32.toNat_inj]
    split
    · rename_i hne
      simp [hne]
    rename_i heq
    simpa using heq
  | cons p ps ih =>
    unfold validate_coverage
    rw [cut_cons, ← ih, UInt32.toNat_inj]
    by_cases hgap : p.start_beat ≠ previous ∨ p.end_beat ≤ p.start_beat
    · rw [if_pos hgap]
      constructor
      · intro h
        cases h
      · rintro ⟨rfl, hlt, -⟩
        rcases hgap with hne | hle
        · exact absurd rfl hne
        · exact absurd (UInt32.le_iff_toNat_le.mp hle) (by omega)
    · rw [if_neg hgap]
      rw [not_or, not_not, UInt32.not_le, UInt32.lt_iff_toNat_lt] at hgap
      obtain ⟨rfl, hlt⟩ := hgap
      simp [hlt]

/-- The conflicts of the preview, where every place has a number. -/
theorem mem_conflicts (h : max current.length source.length ≤ 2 ^ 16) {index : UInt16} :
    index ∈ conflicts current source ↔ current[index.toNat]? ≠ source[index.toNat]? := by
  unfold conflicts
  rw [List.mem_map]
  constructor
  · rintro ⟨place, hplace, rfl⟩
    rw [List.mem_filter, List.mem_range] at hplace
    obtain ⟨hlt, hdiffers⟩ := hplace
    have hindex : (UInt16.ofNat place).toNat = place := by
      rw [UInt16.toNat_ofNat', Nat.mod_eq_of_lt (by omega)]
    rw [if_pos (by omega), hindex]
    simpa using hdiffers
  · intro hdiffers
    refine ⟨index.toNat, ?_, ?_⟩
    · rw [List.mem_filter, List.mem_range]
      refine ⟨?_, by simpa using hdiffers⟩
      by_contra hout
      rw [List.getElem?_eq_none (by omega), List.getElem?_eq_none (by omega)] at hdiffers
      exact hdiffers rfl
    · rw [if_pos index.toNat_lt, UInt16.ofNat_toNat]

/-- The check of the choices asks whether they settle the conflicts. -/
theorem settles_iff (h : max current.length source.length ≤ 2 ^ 16) :
    Settles current source choices ↔
      (choices.map (·.phrase_index)).Nodup ∧
        choices.map (·.phrase_index) ⊆ conflicts current source ∧
        conflicts current source ⊆ choices.map (·.phrase_index) := by
  constructor
  · rintro ⟨honce, hexact⟩
    refine ⟨honce, ?_, ?_⟩
    · intro index hindex
      obtain ⟨choice, hchoice, rfl⟩ := List.mem_map.mp hindex
      exact (mem_conflicts h).mpr ((hexact _).mp ⟨choice, hchoice, rfl⟩)
    · intro index hindex
      obtain ⟨choice, hchoice, heq⟩ := (hexact _).mpr ((mem_conflicts h).mp hindex)
      exact List.mem_map.mpr ⟨choice, hchoice, UInt16.toNat_inj.mp heq⟩
  · rintro ⟨honce, hsub, hsup⟩
    refine ⟨honce, ?_⟩
    intro place
    constructor
    · rintro ⟨choice, hchoice, rfl⟩
      exact (mem_conflicts h).mp (hsub (List.mem_map_of_mem hchoice))
    · intro hdiffers
      have hlt : place < 2 ^ 16 := by
        by_contra hout
        rw [List.getElem?_eq_none (by omega), List.getElem?_eq_none (by omega)] at hdiffers
        exact hdiffers rfl
      have hindex : (UInt16.ofNat place).toNat = place := by
        rw [UInt16.toNat_ofNat', Nat.mod_eq_of_lt hlt]
      have hmem : UInt16.ofNat place ∈ conflicts current source :=
        (mem_conflicts h).mpr (by rwa [hindex])
      obtain ⟨choice, hchoice, heq⟩ := List.mem_map.mp (hsup hmem)
      exact ⟨choice, hchoice, by rw [heq, hindex]⟩

theorem merge_phrases_ok {t : LumiPhraseTimeline} :
    merge_phrases t source choices total_beats = .ok phrases ↔
      Settles t.phrases source choices ∧ Picks t.phrases source choices phrases ∧
        Cut 0 phrases total_beats.toNat ∧ phrases.length ≤ 2 ^ 16 := by
  unfold merge_phrases
  dsimp only
  constructor
  · intro h
    split at h
    · cases h
    rename_i hchoices
    rw [not_or, not_not, not_not] at hchoices
    obtain ⟨merged, hmerged, h⟩ := bind_eq_ok.mp h
    obtain ⟨_, hcovers, h⟩ := bind_eq_ok.mp h
    cases h
    obtain ⟨hpicks, hshort⟩ := collect_merged.mp hmerged
    have hsettles := (settles_iff (hpicks.1 ▸ hshort)).mpr hchoices
    exact ⟨hsettles, hpicks, validate_coverage_ok.mp hcovers, hshort⟩
  · rintro ⟨hsettles, hpicks, hcut, hshort⟩
    have hchoices := (settles_iff (hpicks.1 ▸ hshort)).mp hsettles
    rw [if_neg (by rw [not_or, not_not, not_not]; exact hchoices),
      collect_merged.mpr ⟨hpicks, hshort⟩, ok_bind,
      (validate_coverage_ok.mpr hcut : validate_coverage total_beats 0 phrases = .ok ()),
      ok_bind]

end merge

/-! ## The law of the merge -/

section law

variable {t t' : LumiPhraseTimeline} {new_baseline_revision : SourceRevision}
  {source_total_beats : UInt32} {source phrases : List PhraseInstance}
  {choices : List PhraseConflictChoice} {strategy : ReconcileStrategy}

theorem reconciliation.reindex_same {n : Nat} {after : List PhraseInstance}
    (h : reconciliation.reindex n phrases = .ok after) : SameBut phrases after := by
  induction phrases generalizing n after with
  | nil =>
    cases h
    rfl
  | cons p ps ih =>
    obtain ⟨_, _, h⟩ := bind_eq_ok.mp h
    obtain ⟨rest, hrest, h⟩ := bind_eq_ok.mp h
    cases h
    show _ :: rest.map PhraseInstance.bare = _ :: ps.map PhraseInstance.bare
    rw [ih hrest]
    rfl

/-- A reconciled timeline has the phrases of its strategy. -/
theorem reconcile_phrases
    (h : reconcile_timeline t new_baseline_revision source_total_beats source strategy = .ok t') :
    t'.total_beats = source_total_beats ∧
      ∃ phrases, strategy_phrases t source_total_beats source strategy = .ok phrases ∧
        SameBut phrases t'.phrases := by
  obtain ⟨_, _, h⟩ := bind_eq_ok.mp h
  obtain ⟨phrases, hphrases, h⟩ := bind_eq_ok.mp h
  obtain ⟨after, hafter, h⟩ := bind_eq_ok.mp h
  obtain ⟨_, rfl⟩ := try_new_with_history_eq_ok (Outcome.lift_eq_ok.mp h)
  exact ⟨rfl, phrases, hphrases, reconciliation.reindex_same hafter⟩

/-- Strategies with the same phrases give the same timeline. -/
theorem reconcile_congr {strategy' : ReconcileStrategy}
    (h : strategy_phrases t source_total_beats source strategy =
      strategy_phrases t source_total_beats source strategy') :
    reconcile_timeline t new_baseline_revision source_total_beats source strategy =
      reconcile_timeline t new_baseline_revision source_total_beats source strategy' := by
  unfold reconcile_timeline
  rw [h]

/-- Every picked phrase comes from one of the sides. -/
theorem Picks.sound (h : Picks t.phrases source choices phrases) (hsource : ¬ AnyRefused source) :
    ¬ AnyRefused phrases := by
  rintro ⟨p, hp, hrefused⟩
  obtain ⟨place, hplace⟩ := List.mem_iff_getElem?.mp hp
  have hlt := (List.getElem?_eq_some_iff.mp hplace).1
  rw [h.2 place hlt] at hplace
  unfold picked at hplace
  split at hplace
  · exact hsource ⟨p, List.mem_of_getElem? hplace, hrefused⟩
  · exact t.wellFormed.sound ⟨p, List.mem_of_getElem? hplace, hrefused⟩

theorem Picks.covers_beats (h : Picks t.phrases source choices phrases)
    (hcut : Cut 0 phrases source_total_beats.toNat) : source_total_beats ≠ 0 := by
  rintro rfl
  have hpositive := List.length_pos_iff.mpr t.wellFormed.not_empty
  have hlength := h.1
  cases phrases with
  | nil =>
    rw [List.length_nil] at hlength
    omega
  | cons p ps =>
    obtain ⟨_, hlt, hps⟩ := cut_cons.mp hcut
    exact absurd (hlt.trans_le hps.le) (Nat.lt_irrefl 0)

theorem reconcile_merge_ok (new_baseline_revision : SourceRevision)
    (hrev : t.revision.value < u64_max) (hsource : ¬ AnyRefused source)
    (h : merge_phrases t source choices source_total_beats = .ok phrases) :
    ∃ t', reconcile_timeline t new_baseline_revision source_total_beats source
        (.Merge choices) = .ok t' ∧ SameBut phrases t'.phrases := by
  obtain ⟨_, hpicks, hcut, hshort⟩ := merge_phrases_ok.mp h
  have hphrases : strategy_phrases t source_total_beats source (.Merge choices) = .ok phrases := h
  obtain ⟨t', ht', hsame, -⟩ := reconcile_of_phrases new_baseline_revision hrev hphrases hshort
    (hpicks.covers_beats hcut) hcut (hpicks.sound hsource)
  exact ⟨t', ht', hsame⟩

/-- Where every choice is of one side, that side is picked throughout. -/
theorem picked_source (hsettles : Settles t.phrases source choices)
    (hside : ∀ choice ∈ choices, choice.side = .Source) (place : Nat) :
    picked t.phrases source choices place = source[place]? := by
  unfold picked
  cases hfind : choices.find? (·.phrase_index.toNat = place) with
  | none =>
    -- No choice was made, so the sides agree.
    by_contra hdiffers
    obtain ⟨choice, hchoice, hplace⟩ := (hsettles.exact place).mpr hdiffers
    exact absurd (decide_eq_true hplace) (List.find?_eq_none.mp hfind choice hchoice)
  | some choice =>
    obtain ⟨index, side⟩ := choice
    cases hside _ (List.mem_of_find?_eq_some hfind)
    rfl

theorem picked_lumi (hside : ∀ choice ∈ choices, choice.side = .Lumi) (place : Nat) :
    picked t.phrases source choices place = t.phrases[place]? := by
  unfold picked
  split
  · rename_i index hfind
    cases hside _ (List.mem_of_find?_eq_some hfind)
  · rfl

/-- The choices pick one list of phrases. -/
theorem Picks.unique {other : List PhraseInstance} (h : Picks t.phrases source choices phrases)
    (hother : Picks t.phrases source choices other) : phrases = other := by
  have hlength : phrases.length = other.length := h.1.trans hother.1.symm
  apply List.ext_getElem?
  intro place
  by_cases hplace : place < phrases.length
  · rw [h.2 place hplace, hother.2 place (hlength ▸ hplace)]
  · rw [List.getElem?_eq_none (by omega), List.getElem?_eq_none (by omega)]

/-- The errors of a merge are its own. -/
theorem merge_phrases_err {error : ReconcileError}
    (h : merge_phrases t source choices source_total_beats = .err error)
    {e : TimelineValidationError} : error ≠ .InvalidTimeline e := by
  have hcoverage (phrases : List PhraseInstance) (previous : UInt32) :
      validate_coverage source_total_beats previous phrases ≠ .err (.InvalidTimeline e) := by
    induction phrases generalizing previous with
    | nil =>
      unfold validate_coverage
      split <;> simp
    | cons p ps ih =>
      unfold validate_coverage
      split
      · simp
      · exact ih _
  have hplace (place : Nat) :
      merged_phrase t.phrases source choices place ≠ .err (.InvalidTimeline e) := by
    unfold merged_phrase u16_index
    by_cases hlt : place < 2 ^ 16
    · rw [if_pos hlt, ok_bind]
      dsimp only [ok_or]
      split <;> simp
    · rw [if_neg hlt, err_bind]
      simp
  rintro rfl
  unfold merge_phrases at h
  dsimp only at h
  split at h
  · cases h
  rcases bind_eq_err.mp h with hmerged | ⟨phrases, _, h⟩
  · obtain ⟨place, _, herr⟩ := Outcome.collect_eq_err hmerged
    exact hplace place herr
  rcases bind_eq_err.mp h with hcovers | ⟨_, _, h⟩
  · exact hcoverage phrases 0 hcovers
  · cases h

theorem picks_source (hlength : t.phrases.length = source.length)
    (hsettles : Settles t.phrases source choices)
    (hside : ∀ choice ∈ choices, choice.side = .Source) :
    Picks t.phrases source choices source := by
  refine ⟨by rw [hlength, Nat.max_self], ?_⟩
  intro place _
  rw [picked_source hsettles hside]

theorem picks_lumi (hlength : t.phrases.length = source.length)
    (hside : ∀ choice ∈ choices, choice.side = .Lumi) :
    Picks t.phrases source choices t.phrases := by
  refine ⟨by rw [hlength, Nat.max_self], ?_⟩
  intro place _
  rw [picked_lumi hside]

end law

/-- Below the last revision, a merge is accepted exactly when the choices settle the conflicts and
the picked phrases cover the beats of the source. Then the timeline has the picked phrases; no
accepted choice fails the check of the constructor. On sides of one length, the source alone gives
what a replacement gives, and Lumi alone what keeping Lumi gives. -/
theorem a_merge_gives_what_was_picked (t : LumiPhraseTimeline)
    (new_baseline_revision : SourceRevision) (source_total_beats : UInt32)
    (source : List PhraseInstance) (choices : List PhraseConflictChoice)
    (hrev : t.revision.value < u64_max) (hsource : ¬ AnyRefused source) :
    let merged := reconcile_timeline t new_baseline_revision source_total_beats source
      (.Merge choices)
    ((∃ t', merged = .ok t') ↔ Settles t.phrases source choices ∧
      ∃ phrases, Picks t.phrases source choices phrases ∧
        Cut 0 phrases source_total_beats.toNat ∧ phrases.length ≤ 2 ^ 16) ∧
    (∀ t', merged = .ok t' → t'.phrases.length = max t.phrases.length source.length ∧
      ∀ place < t'.phrases.length, t'.phrases[place]?.map PhraseInstance.bare =
        (picked t.phrases source choices place).map PhraseInstance.bare) ∧
    (∀ error, merged ≠ .err (.InvalidTimeline error)) ∧
    (t.phrases.length = source.length → Settles t.phrases source choices →
      ((∀ choice ∈ choices, choice.side = .Source) → ∀ t', merged = .ok t' ↔
        reconcile_timeline t new_baseline_revision source_total_beats source .ReplaceWithSource =
          .ok t') ∧
      ((∀ choice ∈ choices, choice.side = .Lumi) → source_total_beats = t.total_beats →
        merged =
          reconcile_timeline t new_baseline_revision source_total_beats source .KeepLumi)) := by
  intro merged
  have hphrases {t' : LumiPhraseTimeline} (h : merged = .ok t') :
      ∃ phrases, merge_phrases t source choices source_total_beats = .ok phrases ∧
        SameBut phrases t'.phrases := (reconcile_phrases h).2
  refine ⟨⟨?_, ?_⟩, ?_, ?_, ?_⟩
  · rintro ⟨t', h⟩
    obtain ⟨phrases, hmerge, -⟩ := hphrases h
    obtain ⟨hsettles, hpicks⟩ := merge_phrases_ok.mp hmerge
    exact ⟨hsettles, phrases, hpicks⟩
  · rintro ⟨hsettles, phrases, hpicks⟩
    obtain ⟨t', ht', -⟩ := reconcile_merge_ok new_baseline_revision hrev hsource
      (merge_phrases_ok.mpr ⟨hsettles, hpicks⟩)
    exact ⟨t', ht'⟩
  · intro t' h
    obtain ⟨phrases, hmerge, hsame⟩ := hphrases h
    obtain ⟨-, ⟨hlength, hpicked⟩, -⟩ := merge_phrases_ok.mp hmerge
    have hlength' : t'.phrases.length = phrases.length := by
      simpa using congrArg List.length hsame
    refine ⟨hlength'.trans hlength, ?_⟩
    intro place hplace
    rw [← hpicked place (by omega), ← List.getElem?_map, ← List.getElem?_map, hsame]
  · intro error herr
    rcases bind_eq_err.mp herr with hoverflow | ⟨_, _, h⟩
    · exact absurd hoverflow (by unfold ok_or; split <;> simp)
    rcases bind_eq_err.mp h with hmerge | ⟨phrases, hmerge, -⟩
    · exact merge_phrases_err hmerge rfl
    obtain ⟨t', ht', -⟩ := reconcile_merge_ok new_baseline_revision hrev hsource hmerge
    rw [show merged = _ from ht'] at herr
    cases herr
  · intro hlength hsettles
    refine ⟨?_, ?_⟩
    · intro hside t'
      have hpicks := picks_source hlength hsettles hside
      by_cases hcut : Cut 0 source source_total_beats.toNat
      · have hmerge : merge_phrases t source choices source_total_beats = .ok source :=
          merge_phrases_ok.mpr ⟨hsettles, hpicks, hcut, hlength ▸ t.length_le⟩
        have hreplace : strategy_phrases t source_total_beats source (.Merge choices) =
            strategy_phrases t source_total_beats source .ReplaceWithSource := hmerge
        rw [← reconcile_congr hreplace]
      · -- Neither of the two accepts phrases with a gap.
        constructor
        · intro h
          obtain ⟨phrases, hmerge, -⟩ := hphrases h
          obtain ⟨-, hpicks', hcut', -⟩ := merge_phrases_ok.mp hmerge
          rw [hpicks'.unique hpicks] at hcut'
          exact absurd hcut' hcut
        · intro h
          obtain ⟨hbeats, phrases, hreplace, hsame⟩ := reconcile_phrases h
          cases hreplace
          exact absurd (hsame.cut.mp (hbeats ▸ t'.wellFormed.cut)) hcut
    · rintro hside rfl
      have hmerge : merge_phrases t source choices t.total_beats = .ok t.phrases :=
        merge_phrases_ok.mpr
          ⟨hsettles, picks_lumi hlength hside, t.wellFormed.cut, t.length_le⟩
      apply reconcile_congr
      show merge_phrases t source choices t.total_beats = _
      rw [hmerge, strategy_phrases, if_neg (by simp)]

theorem a_merge_without_conflicts_keeps_lumi :
    sample.timeline.revision.value < u64_max ∧ ¬ AnyRefused sample.timeline.phrases ∧
      reconcile_timeline sample.timeline sample.timeline.baseline_revision 16
          sample.timeline.phrases (.Merge []) =
        reconcile_timeline sample.timeline sample.timeline.baseline_revision 16
          sample.timeline.phrases .KeepLumi := by
  refine ⟨by decide, by decide, ?_⟩
  obtain ⟨-, -, -, hsides⟩ := a_merge_gives_what_was_picked sample.timeline
    sample.timeline.baseline_revision 16 sample.timeline.phrases [] (by decide) (by decide)
  exact (hsides rfl ⟨List.nodup_nil, by simp⟩).2 (by simp) rfl

/-- Phrases that leave out a beat. -/
def sample.gap : List PhraseInstance := [.new 0 0 7 role, .new 1 8 16 role]

/-- At the last revision a merge is refused although its choices settle everything. And a source
with a gap is refused by a merge in another way than by a replacement. -/
theorem a_merge_at_the_last_revision_overflows :
    (conflicts sample.last.phrases sample.last.phrases = [] ∧ Cut 0 sample.last.phrases 16 ∧
      reconcile_timeline sample.last sample.last.baseline_revision 16 sample.last.phrases
        (.Merge []) = .err .RevisionOverflow) ∧
    conflicts sample.timeline.phrases sample.gap = [0] ∧
    reconcile_timeline sample.timeline sample.timeline.baseline_revision 16 sample.gap
      (.Merge [⟨0, .Source⟩]) = .err .NonContiguousMerge ∧
    reconcile_timeline sample.timeline sample.timeline.baseline_revision 16 sample.gap
      .ReplaceWithSource = .err (.InvalidTimeline .InvalidPhraseCoverage) :=
  ⟨⟨by decide, sample.last.wellFormed.cut, by decide⟩, by decide⟩

end lumi_library
