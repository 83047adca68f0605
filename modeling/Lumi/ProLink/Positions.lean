-- The rules by which the provider reads positions: which beat of a bar a
-- packet means, which step of a position is a jump, and which jumps the
-- packets of a player confirm.
import Lumi.Binary64
import Lumi.Domain.Reducer

open rust lumi_domain

namespace lumi_prolink_input

def PRECISE_POSITION_FORWARD_SEEK_TOLERANCE_MILLIS : Nat := 750

def PRECISE_POSITION_HOT_CUE_CONFIRMATIONS : UInt8 := 2

def PRECISE_POSITION_STATUS_TOLERANCE_BEATS : Nat := 1

def STATUS_DISCONTINUITY_CONFIRMATIONS : UInt8 := 3

def STATUS_DISCONTINUITY_MAX_AGE_NANOS : Nat := 1000000000

def STATUS_BACKWARD_JITTER_MAX_BEATS : Nat := 8

structure PendingPreciseDiscontinuity where
  playback_position_millis : UInt64
  absolute_beat : UInt32
  observed_at_nanos : UInt64
  confirmation_count : UInt8

structure StatusDiscontinuity where
  absolute_beat : UInt32
  observed_at_nanos : UInt64

structure PendingStatusDiscontinuity where
  absolute_beat : UInt32
  observed_at_nanos : UInt64
  confirmation_count : UInt8

structure PrecisePositionCandidate where
  playback_position_millis : UInt64
  absolute_beat : UInt32
  observed_at_nanos : UInt64
  track_bpm_milli : UInt32
  effective_bpm_milli : UInt32
  playing : Bool

/-- `u8::saturating_add(1)`. -/
def one_more (count : UInt8) : UInt8 := UInt8.ofNat (min (count.toNat + 1) 255)

/-! ## Phrases -/

/-- Behind its last phrase, a track is still in it. -/
def phrase_index_at (metadata : TrackMetadata) (beat : UInt32) : Option UInt16 :=
  ((metadata.phrases.find? fun phrase => phrase.start_beat ≤ beat && beat < phrase.end_beat).or
    (metadata.phrases.getLast?.filter fun phrase => phrase.start_beat ≤ beat)).map (·.index)

/-! ## Beats -/

/-- The common end of the two alignments: the beat of the bar that is nearest to the reference. -/
def nearest_beat (reference : UInt32) (beat_within_bar : UInt8) : Option UInt32 :=
  let remainder := UInt32.ofNat (min (beat_within_bar.toNat - 1) 3)
  let base := u32_saturating_add (u32_saturating_sub reference (reference % 4)) remainder
  List.argmin (u32_abs_diff · reference)
    [u32_saturating_sub base 4, base, u32_saturating_add base 4]

def precise_absolute_beat (status_beat : UInt32) (previous_precise_beat : Option UInt32)
    (beat_within_bar : UInt8) : UInt32 :=
  let reference := match previous_precise_beat with
    | none => status_beat
    | some beat => max status_beat (u32_saturating_add beat 1)
  (nearest_beat reference beat_within_bar).getD status_beat

def align_beat_within_bar (reference : UInt32) (beat_within_bar : UInt8) : UInt32 :=
  (nearest_beat reference beat_within_bar).getD reference

/-- The least of three, and of equal ones the first. -/
theorem argmin_three {α : Type} (f : α → Nat) (x y z : α) :
    ∃ a, List.argmin f [x, y, z] = some a ∧ f a ≤ f x ∧ f a ≤ f y ∧ f a ≤ f z ∧
      (a = x ∨ (a = y ∨ a = z) ∧ f a < f x) := by
  by_cases hz : f z < f y
  · by_cases hx : f z < f x
    · exact ⟨z, by simp [List.argmin_cons, hz, hx], by grind⟩
    · exact ⟨x, by simp [List.argmin_cons, hz, hx], by grind⟩
  · by_cases hx : f y < f x
    · exact ⟨y, by simp [List.argmin_cons, hz, hx], by grind⟩
    · exact ⟨x, by simp [List.argmin_cons, hz, hx], by grind⟩

/-- The beat has its place in the bar, and no other beat in that place is nearer. -/
structure Aligned (reference : UInt32) (beat_within_bar : UInt8) (beat : UInt32) : Prop where
  in_place : beat.toNat % 4 = beat_within_bar.toNat - 1
  nearest : ∀ other : UInt32, other.toNat % 4 = beat_within_bar.toNat - 1 →
    u32_abs_diff beat reference ≤ u32_abs_diff other reference

section bar

variable (reference : UInt32) {beat_within_bar : UInt8}

/-- Of the three candidates, the first one is cut off at the start of the track, and may then be
in another place. -/
theorem nearest_beat_eq (hfirst : 1 ≤ beat_within_bar) (hlast : beat_within_bar ≤ 4) :
    ∃ beat, nearest_beat reference beat_within_bar = some beat ∧
      u32_abs_diff beat reference ≤ 2 ∧
      (reference.toNat + 8 < 2 ^ 32 → (Aligned reference beat_within_bar beat ↔
        2 ≤ reference.toNat ∨ beat_within_bar.toNat ≤ reference.toNat + 1)) := by
  have hreference := reference.toNat_lt
  have h1 : 1 ≤ beat_within_bar.toNat := hfirst
  have h2 : beat_within_bar.toNat ≤ 4 := hlast
  generalize hbase : u32_saturating_add (u32_saturating_sub reference (reference % 4))
    (UInt32.ofNat (min (beat_within_bar.toNat - 1) 3)) = base
  have hb : base.toNat = reference.toNat - reference.toNat % 4 + (beat_within_bar.toNat - 1) := by
    rw [← hbase, u32_saturating_add_toNat, u32_saturating_sub_toNat, UInt32.toNat_mod,
      UInt32.toNat_ofNat_of_lt' (by change _ < 2 ^ 32; omega)]
    change min (_ - _ % 4 + _) _ = _
    omega
  have hlow := u32_saturating_sub_toNat base 4
  have hhigh := u32_saturating_add_toNat base 4
  change _ = _ - 4 at hlow
  change _ = min (_ + 4) _ at hhigh
  obtain ⟨beat, hbeat, hchoice⟩ := argmin_three (u32_abs_diff · reference)
    (u32_saturating_sub base 4) base (u32_saturating_add base 4)
  rw [← hbase] at hbeat
  unfold u32_abs_diff at hchoice
  have hnear : u32_abs_diff beat reference ≤ 2 := by
    unfold u32_abs_diff
    omega
  refine ⟨beat, hbeat, hnear, fun htop => ⟨fun h => ?_, fun h => ?_⟩⟩
  · have hplace := h.in_place
    grind
  have hplace : beat.toNat % 4 = beat_within_bar.toNat - 1 := by grind
  refine ⟨hplace, fun other hother => ?_⟩
  -- Two beats in one place are four apart.
  unfold u32_abs_diff at hnear ⊢
  clear hchoice
  omega

end bar

/-- A beat is aligned with its place in the bar exactly when the reference lies behind the first
two beats, or not before the first beat in that place. The beat that is taken after an exact one
is never more than two before the reference. -/
theorem a_beat_is_aligned_behind_the_start (beat_within_bar : UInt8) (hfirst : 1 ≤ beat_within_bar)
    (hlast : beat_within_bar ≤ 4) :
    (∀ reference : UInt32, reference.toNat + 8 < 2 ^ 32 →
      (Aligned reference beat_within_bar (align_beat_within_bar reference beat_within_bar) ↔
        2 ≤ reference.toNat ∨ beat_within_bar.toNat ≤ reference.toNat + 1)) ∧
    ∀ status_beat beat reference, reference = max status_beat (u32_saturating_add beat 1) →
      u32_abs_diff (precise_absolute_beat status_beat (some beat) beat_within_bar) reference ≤ 2 ∧
      (reference.toNat + 8 < 2 ^ 32 → (Aligned reference beat_within_bar
          (precise_absolute_beat status_beat (some beat) beat_within_bar) ↔
        2 ≤ reference.toNat ∨ beat_within_bar.toNat ≤ reference.toNat + 1)) := by
  constructor
  · intro reference htop
    obtain ⟨beat, hbeat, -, haligned⟩ := nearest_beat_eq reference hfirst hlast
    rw [align_beat_within_bar, hbeat]
    exact haligned htop
  · rintro status_beat beat reference rfl
    obtain ⟨beat', hbeat', hspec⟩ :=
      nearest_beat_eq (max status_beat (u32_saturating_add beat 1)) hfirst hlast
    simp only [precise_absolute_beat, hbeat']
    exact hspec

theorem the_fourth_beat_of_the_second_bar_is_aligned :
    Aligned 6 4 (align_beat_within_bar 6 4) ∧ align_beat_within_bar 6 4 = 7 :=
  ⟨((a_beat_is_aligned_behind_the_start 4 (by decide) (by decide)).1 6 (by decide)).mpr
    (by decide), by decide +kernel⟩

/-- At the start of the track the candidate that is cut off wins, in the first place of a bar. -/
theorem the_fourth_beat_is_taken_for_the_first :
    align_beat_within_bar 0 4 = 0 ∧ precise_absolute_beat 0 (some 0) 4 = 0 ∧
      ¬ Aligned 0 4 (align_beat_within_bar 0 4) := by
  refine ⟨by decide +kernel, by decide +kernel, fun h => ?_⟩
  exact absurd h.in_place (by decide +kernel)

/-! ## Jumps -/

def status_timeline_matches (status_beat : UInt32) (status_observed_at_nanos : UInt64)
    (absolute_beat : UInt32) (observed_at_nanos : UInt64) : Bool :=
  u32_abs_diff status_beat absolute_beat ≤ PRECISE_POSITION_STATUS_TOLERANCE_BEATS &&
    u64_abs_diff observed_at_nanos status_observed_at_nanos ≤ STATUS_DISCONTINUITY_MAX_AGE_NANOS

def status_corroborates_discontinuity (status : Option StatusDiscontinuity)
    (absolute_beat : UInt32) (observed_at_nanos : UInt64) : Bool :=
  status.any fun status =>
    status_timeline_matches status.absolute_beat status.observed_at_nanos absolute_beat
      observed_at_nanos

def status_discontinuity_is_still_supported (candidate : StatusDiscontinuity)
    (current_beat : UInt32) (observed_at_nanos : UInt64) : Bool :=
  status_timeline_matches candidate.absolute_beat candidate.observed_at_nanos current_beat
    observed_at_nanos

section jumps

variable (F : Type) [Binary64 F]

/-- While the deck plays, the wall clock predicts the beat in floating point. -/
def position_is_discontinuous (previous_beat candidate_beat : UInt32)
    (previous_observed_at_nanos observed_at_nanos : UInt64) (effective_bpm_milli : UInt32)
    (playing : Bool) : Bool :=
  if !playing then previous_beat ≠ candidate_beat
  else
    let elapsed_nanos := u64_saturating_sub observed_at_nanos previous_observed_at_nanos
    let expected_progress : F := Binary64.div (Binary64.div
      (Binary64.mul (Binary64.of_u64 elapsed_nanos) (Binary64.of_u32 effective_bpm_milli))
      (Binary64.literal 1000)) (Binary64.literal 60000000000)
    let expected_beat := Binary64.add (Binary64.of_u32 previous_beat) expected_progress
    let tolerance : F := Binary64.literal (9 / 4)
    Binary64.lt (Binary64.add (Binary64.of_u32 candidate_beat) tolerance)
        (Binary64.of_u32 previous_beat : F) ||
      Binary64.lt (Binary64.add expected_beat tolerance) (Binary64.of_u32 candidate_beat)

def advance_confirmed_status_landing (candidate : StatusDiscontinuity)
    (previous_beat : UInt32) (previous_observed_at_nanos : UInt64) (beat : UInt32)
    (observed_at_nanos : UInt64) (bpm_milli : UInt32) : Option StatusDiscontinuity :=
  if observed_at_nanos < previous_observed_at_nanos ∨
      ¬ status_discontinuity_is_still_supported candidate previous_beat
        previous_observed_at_nanos ∨
      u64_abs_diff observed_at_nanos candidate.observed_at_nanos >
        STATUS_DISCONTINUITY_MAX_AGE_NANOS ∨
      beat < previous_beat ∨
      position_is_discontinuous F previous_beat beat previous_observed_at_nanos
        observed_at_nanos bpm_milli true then none
  else some { candidate with absolute_beat := beat }

def confirmed_status_discontinuity (pending : Option PendingStatusDiscontinuity)
    (absolute_beat : UInt32) (observed_at_nanos : UInt64) (effective_bpm_milli : UInt32) :
    PendingStatusDiscontinuity :=
  let supported := pending.filter fun pending =>
    !position_is_discontinuous F pending.absolute_beat absolute_beat pending.observed_at_nanos
      observed_at_nanos effective_bpm_milli true
  { absolute_beat, observed_at_nanos
    confirmation_count := (supported.map (one_more ·.confirmation_count)).getD 1 }

end jumps

def position_millis_is_discontinuous (previous_position_millis : Option UInt64)
    (candidate_position_millis : UInt64) (previous_observed_at_nanos : Option UInt64)
    (observed_at_nanos : UInt64) (track_bpm_milli effective_bpm_milli : UInt32)
    (playing : Bool) : Bool :=
  match previous_position_millis, previous_observed_at_nanos with
  | some previous_position_millis, some previous_observed_at_nanos =>
    if !playing then previous_position_millis ≠ candidate_position_millis
    else if candidate_position_millis < previous_position_millis then true
    else
      let elapsed_millis := (observed_at_nanos.toNat - previous_observed_at_nanos.toNat) / 1000000
      let expected_progress := min (elapsed_millis * effective_bpm_milli.toNat /
        max track_bpm_milli.toNat 1) (2 ^ 64 - 1)
      let expected := min (previous_position_millis.toNat + expected_progress) (2 ^ 64 - 1)
      min (expected + PRECISE_POSITION_FORWARD_SEEK_TOLERANCE_MILLIS) (2 ^ 64 - 1) <
        candidate_position_millis.toNat
  | _, _ => false

def confirmed_precise_discontinuity (pending : Option PendingPreciseDiscontinuity)
    (candidate : PrecisePositionCandidate) : PendingPreciseDiscontinuity :=
  let supported := pending.filter fun pending =>
    u32_abs_diff pending.absolute_beat candidate.absolute_beat ≤ 1 &&
      !position_millis_is_discontinuous (some pending.playback_position_millis)
        candidate.playback_position_millis (some pending.observed_at_nanos)
        candidate.observed_at_nanos candidate.track_bpm_milli candidate.effective_bpm_milli
        candidate.playing
  { playback_position_millis := candidate.playback_position_millis
    absolute_beat := candidate.absolute_beat
    observed_at_nanos := candidate.observed_at_nanos
    confirmation_count := (supported.map (one_more ·.confirmation_count)).getD 1 }

def status_jump_can_be_discontinuity (previous_beat candidate_beat : UInt32) : Bool :=
  previous_beat ≤ candidate_beat ||
    u32_abs_diff previous_beat candidate_beat > STATUS_BACKWARD_JITTER_MAX_BEATS

end lumi_prolink_input
