-- A rebase moves the phrases of a timeline to another number of beats. It
-- finds room for every phrase as soon as there are as many beats as phrases,
-- and it keeps the proportions where they are whole numbers.
import Lumi.Library.Reconciliation

open rust tiling
open Outcome (ok_bind ok_or)
open UInt32 (ofNat_toNat toNat_inj)

namespace lumi_library

open reconciliation

/-! ## From phrases to a timeline -/

section phrases

variable {current : LumiPhraseTimeline} {source_total_beats : UInt32}
  {source_phrases phrases : List PhraseInstance} {strategy : ReconcileStrategy}

theorem reconciliation.reindex_ok {n : Nat} (h : n + phrases.length ≤ 2 ^ 16) :
    ∃ after, reconciliation.reindex n phrases = .ok after ∧ SameBut phrases after ∧
      Numbered n after := by
  induction phrases generalizing n with
  | nil => exact ⟨[], rfl, rfl, indexed_nil⟩
  | cons p ps ih =>
    rw [List.length_cons] at h
    obtain ⟨rest, hrest, hsame, hn⟩ := @ih (n + 1) (by omega)
    have hlt : n < 2 ^ 16 := by omega
    unfold reconciliation.reindex u16_index
    rw [if_pos hlt, ok_bind, hrest, ok_bind]
    refine ⟨_, rfl, ?_, ?_, hn⟩
    · show _ :: rest.map PhraseInstance.bare = _ :: ps.map PhraseInstance.bare
      rw [hsame]
      rfl
    · simpa [PhraseInstance.new, PhraseInstance.with_loop_strategy] using hlt

/-- Sound phrases that cover the beats of the source make a timeline. -/
theorem reconcile_of_phrases (new_baseline_revision : SourceRevision)
    (hrev : current.revision.value < u64_max)
    (hphrases : strategy_phrases current source_total_beats source_phrases strategy = .ok phrases)
    (hlength : phrases.length ≤ 2 ^ 16) (hbeats : source_total_beats ≠ 0)
    (hcut : Cut 0 phrases source_total_beats.toNat) (hsound : ¬ AnyRefused phrases) :
    ∃ t', reconcile_timeline current new_baseline_revision source_total_beats source_phrases
        strategy = .ok t' ∧ SameBut phrases t'.phrases ∧ Numbered 0 t'.phrases := by
  obtain ⟨after, hafter, hsame, hn⟩ := @reconciliation.reindex_ok phrases 0 (by omega)
  obtain ⟨next, hnext⟩ := TimelineRevision.exists_next hrev
  have hcheck := validate_next current (TimelineRevision.checked_next_eq_some.mp hnext)
    Option.any_none hbeats hn (hsame.cut.mpr hcut)
  have hrefused : ¬ AnyRefused after := by
    rintro ⟨p, hp, hrefused⟩
    obtain ⟨q, hq, hbare⟩ := hsame.mem hp
    have hstrategy : q.loop_strategy = p.loop_strategy :=
      congrArg (fun phrase => phrase.loop_strategy) hbare
    exact hsound ⟨q, hq, hstrategy ▸ hrefused⟩
  rw [if_neg hrefused] at hcheck
  refine ⟨⟨current.track_id, next, new_baseline_revision, source_total_beats, .SourceReconcile,
    .SourceReconcile, some current.revision, none, after, hcheck⟩, ?_, hsame, hn⟩
  unfold reconcile_timeline
  rw [hnext, hphrases]
  simp only [ok_or, ok_bind, hafter, try_new_with_history_ok hcheck]
  rfl

end phrases

/-! ## The end of a phrase -/

section ends

variable {total_beats source_total_beats previous end_beat : UInt32} {remaining : Nat}

/-- A beat of the track is rounded to a beat of the source. -/
theorem rounded_le {e s t : Nat} (he : e ≤ t) (ht : 0 < t) : (e * s + t / 2) / t ≤ s := by
  rw [← Nat.lt_succ_iff, Nat.div_lt_iff_lt_mul ht]
  have hle : e * s ≤ t * s := Nat.mul_le_mul_right s he
  have hhalf : t / 2 < t := Nat.div_lt_self ht (by omega)
  calc e * s + t / 2 < t * s + t := by omega
    _ = s.succ * t := by rw [Nat.succ_mul, Nat.mul_comm]

/-- The bounds of the clamp are in order, and no step leaves its type. -/
theorem rebased_end_ok (htotal : total_beats ≠ 0) (hend : end_beat ≤ total_beats)
    (hroom : previous.toNat + 1 + remaining ≤ source_total_beats.toNat) :
    rebased_end total_beats source_total_beats previous end_beat remaining =
      .ok (max (previous.toNat + 1) (min
        ((end_beat.toNat * source_total_beats.toNat + total_beats.toNat / 2) / total_beats.toNat)
        (source_total_beats.toNat - remaining))) := by
  have hpositive : 0 < total_beats.toNat := by
    rw [Nat.pos_iff_ne_zero]
    intro hzero
    exact htotal (toNat_inj.mp hzero)
  have hsource := source_total_beats.toNat_lt
  have hbeat := end_beat.toNat_lt
  have hbeats := total_beats.toNat_lt
  have hproduct : end_beat.toNat * source_total_beats.toNat ≤ (2 ^ 32 - 1) * (2 ^ 32 - 1) :=
    Nat.mul_le_mul (by omega) (by omega)
  have hrounded := @rounded_le _ source_total_beats.toNat _ (UInt32.le_iff_toNat_le.mp hend)
    hpositive
  unfold rebased_end fit fit_sub clamp
  rw [if_pos (by omega), ok_bind, if_pos (by omega), ok_bind, if_neg htotal]
  dsimp only
  rw [if_neg (by omega), if_pos (by omega), ok_bind, if_pos (by omega), ok_bind, if_neg (by omega)]

end ends

/-! ## The loop -/

section loop

variable {total_beats source_total_beats previous : UInt32} {phrases : List PhraseInstance}
  {a : Nat}

theorem toNat_ofNat_of_lt {n : Nat} (h : n < 2 ^ 32) : (UInt32.ofNat n).toNat = n := by
  rw [UInt32.toNat_ofNat', Nat.mod_eq_of_lt h]

/-- What a rebase leaves of a phrase. -/
def PhraseInstance.label (phrase : PhraseInstance) : UInt16 × PhraseRoleId × PhraseLoopStrategy :=
  (phrase.index, phrase.role_id, phrase.loop_strategy)

/-- With a beat for each phrase the loop covers the beats of the source. -/
theorem rebase_from_ok (htotal : total_beats ≠ 0) (hne : phrases ≠ [])
    (hcut : Cut a phrases total_beats.toNat)
    (hroom : previous.toNat + phrases.length ≤ source_total_beats.toNat) :
    ∃ rebased, rebase_from total_beats source_total_beats previous phrases = .ok rebased ∧
      Cut previous.toNat rebased source_total_beats.toNat ∧
      rebased.map PhraseInstance.label = phrases.map PhraseInstance.label := by
  induction phrases generalizing a previous with
  | nil => exact absurd rfl hne
  | cons p ps ih =>
    obtain ⟨_, _, hps⟩ := cut_cons.mp hcut
    have hsource := source_total_beats.toNat_lt
    rw [List.length_cons] at hroom
    unfold rebase_from
    rw [if_neg (by omega)]
    cases ps with
    | nil =>
      refine ⟨_, rfl, ⟨rfl, ?_, ?_⟩, rfl⟩
      · show previous.toNat < (UInt32.ofNat source_total_beats.toNat).toNat
        rw [ofNat_toNat]
        omega
      · show (UInt32.ofNat source_total_beats.toNat).toNat = source_total_beats.toNat
        rw [ofNat_toNat]
    | cons q qs =>
      have hend : p.end_beat ≤ total_beats := UInt32.le_iff_toNat_le.mpr hps.le
      rw [if_neg (by simp), rebased_end_ok htotal hend (by omega), ok_bind]
      generalize hlast : max (previous.toNat + 1) (min
        ((p.end_beat.toNat * source_total_beats.toNat + total_beats.toNat / 2) /
          total_beats.toNat) (source_total_beats.toNat - (q :: qs).length)) = last
      have hlast : previous.toNat < last ∧ last + (q :: qs).length ≤ source_total_beats.toNat := by
        omega
      have hfits := toNat_ofNat_of_lt (show last < 2 ^ 32 by omega)
      dsimp only
      obtain ⟨rest, hrest, hcovers, hlabels⟩ :=
        @ih (UInt32.ofNat last) p.end_beat.toNat (by simp) hps (by omega)
      rw [hrest, ok_bind]
      refine ⟨_, rfl, ⟨rfl, ?_, hcovers⟩, ?_⟩
      · show previous.toNat < (UInt32.ofNat last).toNat
        omega
      · rw [List.map_cons, List.map_cons, hlabels]
        rfl

/-- The phrase on the beats in proportion. -/
def PhraseInstance.scaled (total_beats source_total_beats : UInt32) (phrase : PhraseInstance) :
    PhraseInstance :=
  { phrase with
    start_beat := UInt32.ofNat
      (phrase.start_beat.toNat * source_total_beats.toNat / total_beats.toNat)
    end_beat := UInt32.ofNat
      (phrase.end_beat.toNat * source_total_beats.toNat / total_beats.toNat) }

/-- Boundaries that are whole in proportion keep their order. -/
theorem scaled_lt {b s t : Nat} (hab : a < b) (hs : 0 < s) (ha : t ∣ a * s) (hb : t ∣ b * s)
    (ht : 0 < t) : a * s / t < b * s / t := by
  obtain ⟨j, hj⟩ := ha
  obtain ⟨k, hk⟩ := hb
  rw [hj, hk, Nat.mul_div_cancel_left _ ht, Nat.mul_div_cancel_left _ ht]
  have hlt : t * j < t * k := by
    rw [← hj, ← hk]
    exact Nat.mul_lt_mul_of_pos_right hab hs
  exact Nat.lt_of_mul_lt_mul_left hlt

/-- So there is a beat for each phrase between them. -/
theorem scaled_room {s t : Nat} (hcut : Cut a phrases t) (hs : 0 < s) (ht : 0 < t) (ha : t ∣ a * s)
    (hends : ∀ p ∈ phrases, t ∣ p.end_beat.toNat * s) : a * s / t + phrases.length ≤ s := by
  induction phrases generalizing a with
  | nil =>
    obtain rfl : a = t := hcut
    rw [Nat.mul_div_cancel_left _ ht, List.length_nil, Nat.add_zero]
  | cons p ps ih =>
    obtain ⟨_, hlt, hps⟩ := cut_cons.mp hcut
    have hp := hends p List.mem_cons_self
    have hroom := ih hps hp fun q hq => hends q (List.mem_cons_of_mem p hq)
    have hnext := scaled_lt hlt hs ha hp ht
    rw [List.length_cons]
    omega

/-- Where no boundary has to be rounded, each goes to its place in proportion. -/
theorem rebase_from_exact (htotal : total_beats ≠ 0) (hsource : source_total_beats ≠ 0)
    (hcut : Cut a phrases total_beats.toNat) (ha : total_beats.toNat ∣ a * source_total_beats.toNat)
    (hends : ∀ p ∈ phrases, total_beats.toNat ∣ p.end_beat.toNat * source_total_beats.toNat) :
    rebase_from total_beats source_total_beats
        (UInt32.ofNat (a * source_total_beats.toNat / total_beats.toNat)) phrases =
      .ok (phrases.map (PhraseInstance.scaled total_beats source_total_beats)) := by
  have htotal' : 0 < total_beats.toNat := by
    rw [Nat.pos_iff_ne_zero]
    exact fun hzero => htotal (toNat_inj.mp hzero)
  have hsource' : 0 < source_total_beats.toNat := by
    rw [Nat.pos_iff_ne_zero]
    exact fun hzero => hsource (toNat_inj.mp hzero)
  have hlt := source_total_beats.toNat_lt
  induction phrases generalizing a with
  | nil => rfl
  | cons p ps ih =>
    have hroom := scaled_room hcut hsource' htotal' ha hends
    obtain ⟨rfl, hgrows, hps⟩ := cut_cons.mp hcut
    have hp := hends p List.mem_cons_self
    have hrest := ih hps hp fun q hq => hends q (List.mem_cons_of_mem p hq)
    rw [List.length_cons] at hroom
    have hlength : ps.length < source_total_beats.toNat :=
      Nat.lt_of_lt_of_le (Nat.lt_succ_self _) ((Nat.le_add_left _ _).trans hroom)
    unfold rebase_from
    rw [if_neg (by omega)]
    cases ps with
    | nil =>
      have hlast : p.end_beat.toNat = total_beats.toNat := hps
      have hwhole : p.end_beat.toNat * source_total_beats.toNat / total_beats.toNat =
          source_total_beats.toNat := by
        rw [hlast, Nat.mul_div_cancel_left _ htotal']
      rw [if_pos (by simp), ok_bind, List.map_cons, PhraseInstance.scaled, hwhole]
      rfl
    | cons q qs =>
      have hend : p.end_beat ≤ total_beats := UInt32.le_iff_toNat_le.mpr hps.le
      have hnext := scaled_lt hgrows hsource' ha hp htotal'
      have hbehind := scaled_room hps hsource' htotal' hp
        fun r hr => hends r (List.mem_cons_of_mem p hr)
      -- The product is a multiple, so adding half of the beats rounds nothing up.
      have hrounded : (p.end_beat.toNat * source_total_beats.toNat + total_beats.toNat / 2) /
          total_beats.toNat = p.end_beat.toNat * source_total_beats.toNat / total_beats.toNat := by
        rw [Nat.add_div_of_dvd_right hp, Nat.div_eq_of_lt (Nat.div_lt_self htotal' (by omega)),
          Nat.add_zero]
      have hscaled : p.scaled total_beats source_total_beats =
          ⟨p.index,
            UInt32.ofNat (p.start_beat.toNat * source_total_beats.toNat / total_beats.toNat),
            UInt32.ofNat (p.end_beat.toNat * source_total_beats.toNat / total_beats.toNat),
            p.role_id, p.loop_strategy⟩ := rfl
      rw [List.map_cons, hscaled]
      generalize p.start_beat.toNat * source_total_beats.toNat / total_beats.toNat = first at *
      generalize p.end_beat.toNat * source_total_beats.toNat / total_beats.toNat = last at *
      have hprevious := @toNat_ofNat_of_lt first (by omega)
      rw [if_neg (by simp), rebased_end_ok htotal hend (by omega), hrounded, hprevious,
        Nat.min_eq_left (by omega), Nat.max_eq_right (by omega), ok_bind]
      dsimp only
      rw [hrest, ok_bind]
      rfl

end loop

/-! ## The law of the rebase -/

variable {phrases : List PhraseInstance} {t : LumiPhraseTimeline}

/-- Phrases with the labels of a timeline have its numbers, and no strategy that is refused. -/
theorem sound_of_labels
    (h : phrases.map PhraseInstance.label = t.phrases.map PhraseInstance.label) :
    Numbered 0 phrases ∧ ¬ AnyRefused phrases ∧ phrases.length = t.phrases.length := by
  have hwf := t.wellFormed
  refine ⟨?_, ?_, ?_⟩
  · have hnumbered (l : List PhraseInstance) :
        Indexed (fun label : UInt16 × PhraseRoleId × PhraseLoopStrategy => label.1.toNat) 0
          (l.map PhraseInstance.label) ↔ Numbered 0 l := indexed_map
    rw [← hnumbered, h, hnumbered]
    exact hwf.numbered
  · rintro ⟨p, hp, hrefused⟩
    have hmem : p.label ∈ t.phrases.map PhraseInstance.label := h ▸ List.mem_map_of_mem hp
    obtain ⟨q, hq, hlabel⟩ := List.mem_map.mp hmem
    have hstrategy : q.loop_strategy = p.loop_strategy := congrArg (·.2.2) hlabel
    exact hwf.sound ⟨q, hq, hstrategy ▸ hrefused⟩
  · simpa using congrArg List.length h

/-- Rebased phrases with the labels of the timeline are the phrases of the new one. -/
theorem rebase_of_phrases {source_total_beats : UInt32} (new_baseline_revision : SourceRevision)
    (source_phrases : List PhraseInstance) (hrev : t.revision.value < u64_max)
    (hbeats : source_total_beats ≠ 0) (hrebase : rebase_phrases t source_total_beats = .ok phrases)
    (hlabels : phrases.map PhraseInstance.label = t.phrases.map PhraseInstance.label)
    (hcut : Cut 0 phrases source_total_beats.toNat) :
    ∃ t', reconcile_timeline t new_baseline_revision source_total_beats source_phrases .Rebase =
        .ok t' ∧ t'.phrases = phrases := by
  obtain ⟨hnumbered, hsound, hlength⟩ := sound_of_labels hlabels
  have hphrases : strategy_phrases t source_total_beats source_phrases .Rebase = .ok phrases :=
    hrebase
  obtain ⟨t', ht', hsame, hn⟩ := reconcile_of_phrases new_baseline_revision hrev hphrases
    (hlength ▸ t.length_le) hbeats hcut hsound
  exact ⟨t', ht', hsame.eq_of_numbered hn hnumbered⟩

section law

variable {t : LumiPhraseTimeline} {source_total_beats : UInt32}

/-- There are too few beats exactly when there are fewer than phrases. -/
theorem insufficient_iff :
    source_total_beats = 0 ∨ source_total_beats < UInt32.ofNat t.phrases.length ↔
      source_total_beats.toNat < t.phrases.length := by
  have hlength := t.length_le
  have hpositive := List.length_pos_iff.mpr t.wellFormed.not_empty
  rw [← toNat_inj, UInt32.lt_iff_toNat_lt, toNat_ofNat_of_lt (by omega),
    show (0 : UInt32).toNat = 0 from rfl]
  omega

theorem rebase_phrases_ok (h : t.phrases.length ≤ source_total_beats.toNat) :
    ∃ rebased, rebase_phrases t source_total_beats = .ok rebased ∧
      Cut 0 rebased source_total_beats.toNat ∧
      rebased.map PhraseInstance.label = t.phrases.map PhraseInstance.label := by
  have hwf := t.wellFormed
  unfold rebase_phrases
  rw [if_neg (by rw [insufficient_iff]; omega)]
  exact @rebase_from_ok _ _ 0 _ _ hwf.duration hwf.not_empty hwf.cut (by simpa using h)

/-- Without ambiguities every boundary of the track is whole in proportion. -/
theorem whole_ends (h : rebase_ambiguities t source_total_beats = []) :
    ∀ p ∈ t.phrases,
      t.total_beats.toNat ∣ p.end_beat.toNat * source_total_beats.toNat := by
  have hwf := t.wellFormed
  have hsplit := List.dropLast_append_getLast hwf.not_empty
  have hcut := hwf.cut
  rw [← hsplit] at hcut
  obtain ⟨_, _, hend⟩ := tiles_snoc.mp hcut
  intro p hp
  rw [← hsplit] at hp
  rcases List.mem_append.mp hp with hp | hp
  · rw [rebase_ambiguities, List.map_eq_nil_iff, List.filter_eq_nil_iff,
      ← List.dropLast_eq_take] at h
    exact Nat.dvd_of_mod_eq_zero (by simpa using h p hp)
  · rw [List.mem_singleton.mp hp, hend]
    exact Nat.dvd_mul_right _ _

theorem rebase_phrases_exact (hbeats : source_total_beats ≠ 0)
    (h : rebase_ambiguities t source_total_beats = []) :
    rebase_phrases t source_total_beats =
      .ok (t.phrases.map (PhraseInstance.scaled t.total_beats source_total_beats)) ∧
    t.phrases.length ≤ source_total_beats.toNat := by
  have hwf := t.wellFormed
  have hends := whole_ends h
  have hpositive {n : UInt32} (hn : n ≠ 0) : 0 < n.toNat := by
    rw [Nat.pos_iff_ne_zero]
    exact fun hzero => hn (toNat_inj.mp hzero)
  have hroom := scaled_room hwf.cut (hpositive hbeats) (hpositive hwf.duration) (by simp) hends
  rw [Nat.zero_mul, Nat.zero_div, Nat.zero_add] at hroom
  have hexact := rebase_from_exact hwf.duration hbeats hwf.cut (by simp) hends
  rw [Nat.zero_mul, Nat.zero_div] at hexact
  refine ⟨?_, hroom⟩
  unfold rebase_phrases
  rw [if_neg (by rw [insufficient_iff]; omega)]
  exact hexact

/-- On its own number of beats every phrase is where it is in proportion. -/
theorem scaled_self (hbeats : t.total_beats ≠ 0) (p : PhraseInstance) :
    p.scaled t.total_beats t.total_beats = p := by
  have hpositive : 0 < t.total_beats.toNat := by
    rw [Nat.pos_iff_ne_zero]
    exact fun hzero => hbeats (toNat_inj.mp hzero)
  unfold PhraseInstance.scaled
  rw [Nat.mul_div_cancel _ hpositive, Nat.mul_div_cancel _ hpositive, ofNat_toNat, ofNat_toNat]

end law

/-- Below the last revision, a rebase fails only when there are fewer beats than phrases; otherwise
it keeps the phrases in their order on all beats of the source. Where no boundary has to be
rounded, each goes to its place in proportion, and on the same number of beats none moves. -/
theorem a_rebase_is_total_and_proportional (t : LumiPhraseTimeline)
    (new_baseline_revision : SourceRevision) (source_total_beats : UInt32)
    (source_phrases : List PhraseInstance) (hrev : t.revision.value < u64_max) :
    (reconcile_timeline t new_baseline_revision source_total_beats source_phrases .Rebase =
      .err .InsufficientBeats ↔ source_total_beats.toNat < t.phrases.length) ∧
    (t.phrases.length ≤ source_total_beats.toNat →
      ∃ t', reconcile_timeline t new_baseline_revision source_total_beats source_phrases .Rebase =
          .ok t' ∧ Cut 0 t'.phrases source_total_beats.toNat ∧
        t'.phrases.map PhraseInstance.label = t.phrases.map PhraseInstance.label) ∧
    (source_total_beats = t.total_beats →
      ∃ t', reconcile_timeline t new_baseline_revision source_total_beats source_phrases .Rebase =
          .ok t' ∧ t'.phrases = t.phrases) ∧
    (1 ≤ source_total_beats → rebase_ambiguities t source_total_beats = [] →
      ∃ t', reconcile_timeline t new_baseline_revision source_total_beats source_phrases .Rebase =
          .ok t' ∧
        t'.phrases = t.phrases.map (PhraseInstance.scaled t.total_beats source_total_beats)) := by
  have hwf := t.wellFormed
  have hfits (h : t.phrases.length ≤ source_total_beats.toNat) : source_total_beats ≠ 0 := by
    rintro rfl
    exact hwf.not_empty (List.length_eq_zero_iff.mp (Nat.le_zero.mp h))
  have htotal (h : t.phrases.length ≤ source_total_beats.toNat) :
      ∃ t', reconcile_timeline t new_baseline_revision source_total_beats source_phrases .Rebase =
          .ok t' ∧ rebase_phrases t source_total_beats = .ok t'.phrases ∧
        Cut 0 t'.phrases source_total_beats.toNat ∧
        t'.phrases.map PhraseInstance.label = t.phrases.map PhraseInstance.label := by
    obtain ⟨rebased, hrebase, hcut, hlabels⟩ := rebase_phrases_ok h
    obtain ⟨t', ht', rfl⟩ := rebase_of_phrases new_baseline_revision source_phrases hrev (hfits h)
      hrebase hlabels hcut
    exact ⟨t', ht', hrebase, hcut, hlabels⟩
  have hexact (hbeats : source_total_beats ≠ 0)
      (hwhole : rebase_ambiguities t source_total_beats = []) :
      ∃ t', reconcile_timeline t new_baseline_revision source_total_beats source_phrases .Rebase =
          .ok t' ∧
        t'.phrases =
          t.phrases.map (PhraseInstance.scaled t.total_beats source_total_beats) := by
    obtain ⟨hrebase, hroom⟩ := rebase_phrases_exact hbeats hwhole
    obtain ⟨t', ht', hphrases, -⟩ := htotal hroom
    rw [hrebase] at hphrases
    exact ⟨t', ht', (Outcome.ok.inj hphrases).symm⟩
  refine ⟨?_, ?_, ?_, ?_⟩
  · constructor
    · intro herr
      by_contra hroom
      obtain ⟨t', ht', -⟩ := htotal (Nat.le_of_not_lt hroom)
      rw [herr] at ht'
      cases ht'
    · intro hfew
      unfold reconcile_timeline
      obtain ⟨next, hnext⟩ := TimelineRevision.exists_next hrev
      rw [hnext]
      simp only [ok_or, ok_bind, strategy_phrases, rebase_phrases,
        if_pos (insufficient_iff.mpr hfew), Outcome.err_bind]
  · intro hroom
    obtain ⟨t', ht', -, hcut, hlabels⟩ := htotal hroom
    exact ⟨t', ht', hcut, hlabels⟩
  · rintro rfl
    have hwhole : rebase_ambiguities t t.total_beats = [] := by
      simp [rebase_ambiguities]
    obtain ⟨t', ht', hphrases⟩ := hexact hwf.duration hwhole
    refine ⟨t', ht', ?_⟩
    rw [hphrases, funext (scaled_self hwf.duration), List.map_id'']
    intro p
    rfl
  · intro hbeats hwhole
    refine hexact ?_ hwhole
    rintro rfl
    exact absurd hbeats (by decide)

theorem a_rebase_to_half_of_the_beats :
    sample.timeline.revision.value < u64_max ∧ rebase_ambiguities sample.timeline 8 = [] ∧
      ∃ t', reconcile_timeline sample.timeline sample.timeline.baseline_revision 8 [] .Rebase =
          .ok t' ∧
        t'.phrases = [.new 0 0 4 sample.role, .new 1 4 8 sample.role] :=
  ⟨by decide, by decide,
    (a_rebase_is_total_and_proportional sample.timeline sample.timeline.baseline_revision 8 []
      (by decide)).2.2.2 (by decide) (by decide)⟩

/-- At the last revision a rebase to no beats is refused for another reason. -/
theorem a_rebase_at_the_last_revision_overflows :
    (0 : UInt32).toNat < sample.last.phrases.length ∧
      reconcile_timeline sample.last sample.last.baseline_revision 0 [] .Rebase =
        .err .RevisionOverflow := by
  decide

end lumi_library
