-- The mask over the phrases of an export. Applying the mask twice gives the
-- body back, but whether a body is masked is guessed from its mood, and for
-- one count of phrases and one mood the masked mood does not look masked.
import Lumi.Rekordbox.Analysis

open rust

namespace lumi_rekordbox_analysis

open AnalysisError Outcome

section mask

variable {body : List UInt8} {increment : UInt8} {count mood : UInt16} {i : Nat}

/-! ## The mask -/

@[simp] theorem apply_mask_length (increment : UInt8) (body : List UInt8) :
    (apply_mask increment body).length = body.length := by
  unfold apply_mask
  rw [List.length_append, List.length_mapIdx, ← List.length_append, List.take_append_drop]

/-- The mask leaves the bytes in front of the mood alone. -/
theorem apply_mask_front (hi : i < 6) : (apply_mask increment body)[i]? = body[i]? := by
  unfold apply_mask
  by_cases h : i < body.length
  · rw [List.getElem?_append_left (by rw [List.length_take]; omega), List.getElem?_take_of_lt hi]
  · rw [List.getElem?_eq_none (by simp; omega), List.getElem?_eq_none (by omega)]

theorem apply_mask_behind (i : Nat) :
    (apply_mask increment body)[6 + i]? =
      body[6 + i]?.map fun byte => byte ^^^ mask_byte increment i := by
  unfold apply_mask
  by_cases h : body.length ≤ 6
  · rw [List.getElem?_eq_none (by simp; omega), List.getElem?_eq_none (by omega)]
    rfl
  have hfront : (body.take 6).length = 6 := by
    rw [List.length_take]
    omega
  rw [List.getElem?_append_right (by omega), hfront, Nat.add_sub_cancel_left,
    List.getElem?_mapIdx, List.getElem?_drop]

/-- A masked body under the same mask is the body. -/
theorem apply_mask_twice (increment : UInt8) (body : List UInt8) :
    apply_mask increment (apply_mask increment body) = body := by
  apply List.ext_getElem?
  intro i
  by_cases hi : i < 6
  · rw [apply_mask_front hi, apply_mask_front hi]
  obtain ⟨k, rfl⟩ := Nat.exists_eq_add_of_le (Nat.le_of_not_lt hi)
  rw [apply_mask_behind, apply_mask_behind, Option.map_map]
  cases body[6 + k]? with
  | none => rfl
  | some byte => simp

/-! ## The guess -/

theorem getD_apply_mask_front (hi : i < 6) :
    (apply_mask increment body).getD i 0 = body.getD i 0 := by
  rw [List.getD_eq_getElem?_getD, List.getD_eq_getElem?_getD, apply_mask_front hi]

theorem getD_apply_mask_behind (hi : 6 + i < body.length) :
    (apply_mask increment body).getD (6 + i) 0 =
      body.getD (6 + i) 0 ^^^ mask_byte increment i := by
  rw [List.getD_eq_getElem?_getD, List.getD_eq_getElem?_getD, apply_mask_behind,
    List.getElem?_eq_getElem hi]
  rfl

/-- The count of the phrases is never masked. -/
theorem masked_count (hlength : 20 ≤ body.length) (hcount : be_u16 body 4 = .ok count) :
    be_u16 (apply_mask increment body) 4 = .ok count := by
  rw [be_u16_of_le (by omega) (by omega)] at hcount
  rw [be_u16_of_le (by simp; omega) (by omega), getD_apply_mask_front (by omega),
    getD_apply_mask_front (by omega), hcount]

/-- The mood as it stands under the mask. -/
def mood_under_mask (increment : UInt8) (mood : UInt16) : UInt16 :=
  u16_from_be_bytes (0 ^^^ mask_byte increment 0)
    (UInt8.ofNat mood.toNat ^^^ mask_byte increment 1)

/-- The masked mood looks unmasked for one count and one mood: its first byte is that of the mask,
which is only nothing for a count of 53. -/
theorem mood_looks_unmasked (hcount : count ≤ 255) (hmood : 1 ≤ mood ∧ mood ≤ 3) :
    mood_under_mask (UInt8.ofNat count.toNat) mood ≤ 20 ↔ count = 53 ∧ mood = 2 := by
  have hthree : mood = 1 ∨ mood = 2 ∨ mood = 3 := by
    have h1 : (1 : UInt16).toNat ≤ mood.toNat := hmood.1
    have h3 : mood.toNat ≤ (3 : UInt16).toNat := hmood.2
    simp only [← UInt16.toNat_inj]
    have hone : (1 : UInt16).toNat = 1 := rfl
    have htwo : (2 : UInt16).toNat = 2 := rfl
    have hthree : (3 : UInt16).toNat = 3 := rfl
    omega
  by_cases h53 : count = 53
  · subst h53
    rcases hthree with rfl | rfl | rfl <;> decide +kernel
  simp only [h53, false_and, iff_false]
  intro hle
  have hword : (mood_under_mask (UInt8.ofNat count.toNat) mood).toNat ≤ 20 := hle
  unfold mood_under_mask at hword
  rw [u16_from_be_bytes_toNat] at hword
  have hhigh : (0 ^^^ mask_byte (UInt8.ofNat count.toNat) 0).toNat =
      (203 + count.toNat) % 256 := by
    rw [UInt8.zero_xor]
    show ((203 : UInt8) + UInt8.ofNat count.toNat).toNat = _
    rw [UInt8.toNat_add, UInt8.toNat_ofNat']
    show (203 + count.toNat % 256) % 256 = _
    omega
  have hsmall : count.toNat ≤ 255 := hcount
  have hne : count.toNat ≠ 53 := fun h => h53 (UInt16.toNat_inj.mp h)
  omega

theorem masked_mood (hlength : 20 ≤ body.length) (hmood : be_u16 body 6 = .ok mood)
    (hsmall : mood ≤ 3) :
    be_u16 (apply_mask increment body) 6 = .ok (mood_under_mask increment mood) := by
  rw [be_u16_of_le (by omega) (by omega), Outcome.ok.injEq] at hmood
  have hword : (body.getD 6 0).toNat * 256 + (body.getD 7 0).toNat = mood.toNat := by
    rw [← u16_from_be_bytes_toNat, hmood]
  have hle : mood.toNat ≤ 3 := hsmall
  have hhigh : body.getD 6 0 = 0 := by
    apply UInt8.toNat_inj.mp
    show (body.getD 6 0).toNat = 0
    omega
  have hlow : body.getD 7 0 = UInt8.ofNat mood.toNat := by
    apply UInt8.toNat_inj.mp
    rw [UInt8.toNat_ofNat']
    omega
  rw [be_u16_of_le (by simp; omega) (by omega), getD_apply_mask_behind (i := 0) (by omega),
    getD_apply_mask_behind (i := 1) (by omega), hhigh, hlow]
  rfl

/-- What the parser does with a masked body. -/
theorem parse_masked (hlength : 20 ≤ body.length) (hcount : be_u16 body 4 = .ok count)
    (hmood : be_u16 body 6 = .ok mood) (hsmall : mood ≤ 3) :
    parse_phrases (apply_mask increment body) =
      (decode (apply_mask increment body) count (mood_under_mask increment mood) >>=
        fun decoded => decoded_phrases decoded count.toNat) := by
  rw [parse_phrases, if_neg (by simp; omega), masked_count hlength hcount, ok_bind,
    masked_mood hlength hmood hsmall, ok_bind]

/-- A masked mood that does not look masked is taken for the mood itself, and it is none. -/
theorem parse_masked_refused (hlength : 20 ≤ body.length) (hcount : be_u16 body 4 = .ok 53)
    (hmood : be_u16 body 6 = .ok 2) :
    parse_phrases (apply_mask 53 body) = .err MalformedAnalysisFile := by
  rw [parse_masked hlength hcount hmood (by decide), decode, if_neg (by decide +kernel), ok_bind,
    decoded_phrases, masked_mood hlength hmood (by decide), ok_bind, if_pos (by decide +kernel)]

end mask

/-! ## The law -/

theorem a_masked_body_parses_alike_unless_its_mood_looks_unmasked (body : List UInt8)
    (count mood : UInt16) (phrases : List AnalysisPhrase) (hcount : be_u16 body 4 = .ok count)
    (hsmall : count ≤ 255) (hmood : be_u16 body 6 = .ok mood) (hrange : 1 ≤ mood ∧ mood ≤ 3)
    (h : parse_phrases body = .ok phrases) :
    parse_phrases (apply_mask (UInt8.ofNat count.toNat) body) = .ok phrases ↔
      ¬ (count = 53 ∧ mood = 2) := by
  have hlength : 20 ≤ body.length := by
    by_contra hshort
    rw [parse_phrases, if_pos (Nat.lt_of_not_le hshort)] at h
    cases h
  by_cases hlooks : count = 53 ∧ mood = 2
  · obtain ⟨rfl, rfl⟩ := hlooks
    have hrefused : parse_phrases (apply_mask (UInt8.ofNat (53 : UInt16).toNat) body) =
        .err MalformedAnalysisFile := parse_masked_refused hlength hcount hmood
    rw [hrefused]
    simp
  · -- The body itself does not look masked, so its phrases are read as they stand.
    have hplain : decoded_phrases body count.toNat = .ok phrases := by
      have hlow : ¬ mood > 20 := UInt16.not_lt.mpr (UInt16.le_trans hrange.2 (by decide))
      rwa [parse_phrases, if_neg (Nat.not_lt.mpr hlength), hcount, ok_bind, hmood, ok_bind, decode,
        if_neg hlow, ok_bind] at h
    have hguess : mood_under_mask (UInt8.ofNat count.toNat) mood > 20 :=
      UInt16.not_le.mp fun hle => hlooks ((mood_looks_unmasked hsmall hrange).mp hle)
    rw [parse_masked hlength hcount hmood hrange.2, decode, if_pos hguess, mask_increment,
      if_pos (show count.toNat < 2 ^ 8 from Nat.lt_succ_of_le hsmall)]
    show decoded_phrases (apply_mask _ (apply_mask _ body)) _ = _ ↔ _
    rw [apply_mask_twice, hplain]
    exact iff_of_true rfl hlooks

namespace masks

/-- An entry that starts with the beat, in a table whose entries are four beats apart. -/
def phrase_block (index : Nat) : List UInt8 :=
  [0, 0, 0, UInt8.ofNat (index * 4 + 1), 0, 1] ++ List.replicate 18 0

/-- A phrase table of the mood with so many phrases. -/
def phrase_body (count : Nat) (mood : UInt8) : List UInt8 :=
  [0, 0, 0, 24, 0, UInt8.ofNat count, 0, mood, 0, 0, 0, 0, 0, 0, 1, 0, 0, 0, 0, 0] ++
    (List.range count).flatMap phrase_block

theorem phrase_block_at (l : List Nat) (place : Nat) {i j : Nat} (hl : l[i]? = some place)
    (hj : j < 24) : (l.flatMap phrase_block)[i * 24 + j]? = (phrase_block place)[j]? := by
  have hlength : ∀ place, (phrase_block place).length = 24 := fun _ => rfl
  induction l generalizing i with
  | nil => cases hl
  | cons first l ih =>
    rw [List.flatMap_cons]
    cases i with
    | zero =>
      cases hl
      rw [Nat.zero_mul, Nat.zero_add, List.getElem?_append_left (by rw [hlength]; exact hj)]
    | succ i =>
      rw [List.getElem?_append_right (by rw [hlength]; omega), hlength,
        show (i + 1) * 24 + j - 24 = i * 24 + j by omega]
      exact ih hl

variable {index count : Nat}

theorem phrase_body_at {j : Nat} (mood : UInt8) (hindex : index < count) (hj : j < 24) :
    (phrase_body count mood).getD (20 + index * 24 + j) 0 = (phrase_block index).getD j 0 := by
  rw [List.getD_eq_getElem?_getD, List.getD_eq_getElem?_getD, phrase_body,
    List.getElem?_append_right (by simp; omega)]
  congr 1
  rw [← phrase_block_at (List.range count) index (i := index) (by simp [hindex]) hj]
  congr 1
  simp
  omega

theorem phrase_body_length (count : Nat) (mood : UInt8) :
    (phrase_body count mood).length = 20 + count * 24 := by
  unfold phrase_body
  rw [List.length_append, List.length_flatMap]
  simp [phrase_block]

theorem phrase_entry_at (mood : UInt8) (hindex : index < count)
    (hcount : count ≤ 60) : phrase_entry (phrase_body count mood) index =
      .ok ⟨(u16_from_be_bytes 0 (UInt8.ofNat (index * 4 + 1))).toUInt32, 1, 0, 0, 0⟩ := by
  have hlength := phrase_body_length count mood
  have hbeat : be_u16 (phrase_body count mood) (20 + index * 24 + 2) =
      .ok (u16_from_be_bytes 0 (UInt8.ofNat (index * 4 + 1))) := by
    rw [be_u16_of_le (by omega) (by omega), phrase_body_at mood hindex (by omega), Nat.add_assoc,
      phrase_body_at mood hindex (by omega)]
    rfl
  have hkind : be_u16 (phrase_body count mood) (20 + index * 24 + 4) = .ok 1 := by
    rw [be_u16_of_le (by omega) (by omega), phrase_body_at mood hindex (by omega), Nat.add_assoc,
      phrase_body_at mood hindex (by omega)]
    show Outcome.ok (u16_from_be_bytes 0 1) = _
    decide
  have hbyte (j : Nat) (hj : 6 ≤ j ∧ j < 24) :
      (vec_index (phrase_body count mood) (20 + index * 24 + j) : Outcome AnalysisError UInt8) =
        .ok 0 := by
    have hplace : 20 + index * 24 + j < (phrase_body count mood).length := by omega
    rw [vec_index_eq hplace, ← List.getD_eq_getElem _ 0 hplace, phrase_body_at mood hindex hj.2]
    obtain ⟨k, rfl⟩ := Nat.exists_eq_add_of_le hj.1
    rw [phrase_block, List.getD_append_right _ _ _ _ (by simp),
      List.getD_replicate _ (by simp; omega)]
  have hstart : u16_from_be_bytes 0 (UInt8.ofNat (index * 4 + 1)) ≠ 0 := by
    intro h
    have hzero := congrArg UInt16.toNat h
    rw [u16_from_be_bytes_toNat, UInt8.toNat_ofNat'] at hzero
    simp only [UInt8.toNat_zero, UInt16.toNat_zero] at hzero
    omega
  unfold phrase_entry
  simp only [usize_mul_eq (show index * 24 < 2 ^ 64 by omega), ok_bind,
    usize_add_eq (show 20 + index * 24 < 2 ^ 64 by omega),
    usize_add_eq (show 20 + index * 24 + 2 < 2 ^ 64 by omega),
    usize_add_eq (show 20 + index * 24 + 4 < 2 ^ 64 by omega), hbeat, hkind, if_neg hstart,
    usize_add_eq (show 20 + index * 24 + 6 < 2 ^ 64 by omega),
    usize_add_eq (show 20 + index * 24 + 7 < 2 ^ 64 by omega),
    usize_add_eq (show 20 + index * 24 + 19 < 2 ^ 64 by omega), hbyte 6 (by omega),
    hbyte 7 (by omega), hbyte 19 (by omega)]

/-- The entries of the table. -/
def entries (count : Nat) : List PhraseEntry :=
  (List.range count).map fun index =>
    ⟨(u16_from_be_bytes 0 (UInt8.ofNat (index * 4 + 1))).toUInt32, 1, 0, 0, 0⟩

theorem parse_phrase_body :
    parse_phrases (phrase_body 53 2) = analysis_phrases 2 256 (entries 53) := by
  have hlength := phrase_body_length 53 2
  have hcount : be_u16 (phrase_body 53 2) 4 = .ok 53 := by decide +kernel
  have hmood : be_u16 (phrase_body 53 2) 6 = .ok 2 := by decide +kernel
  have hend : be_u16 (phrase_body 53 2) 14 = .ok 256 := by decide +kernel
  have hrange : validate_entry_range (phrase_body 53 2) 53 24 20 = .ok () := by decide +kernel
  have hentries : collect (phrase_entry (phrase_body 53 2)) (List.range 53) =
      .ok (entries 53) := by
    rw [collect_eq_ok, entries, List.forall₂_map_right_iff, List.forall₂_same]
    intro index hindex
    exact phrase_entry_at 2 (List.mem_range.mp hindex) (by omega)
  rw [parse_phrases, if_neg (by omega), hcount, ok_bind, hmood, ok_bind, decode,
    if_neg (by decide), ok_bind, decoded_phrases, hmood, ok_bind, if_neg (by decide)]
  show (validate_entry_range _ 53 24 20 >>= fun _ => be_u16 _ 14 >>= fun final_end_beat =>
    collect _ (List.range 53) >>= analysis_phrases 2 final_end_beat.toUInt32) = _
  rw [hrange, ok_bind, hend, ok_bind, hentries, ok_bind]
  rfl

end masks

theorem a_masked_table_of_two_phrases_parses_alike :
    parse_phrases (masks.phrase_body 2 1) =
      .ok [⟨0, 4, "Intro 2"⟩, ⟨4, 256, "Intro 2"⟩] ∧
    parse_phrases (apply_mask 2 (masks.phrase_body 2 1)) =
      .ok [⟨0, 4, "Intro 2"⟩, ⟨4, 256, "Intro 2"⟩] :=
  have h : parse_phrases (masks.phrase_body 2 1) =
      .ok [⟨0, 4, "Intro 2"⟩, ⟨4, 256, "Intro 2"⟩] := by decide +kernel
  ⟨h, (a_masked_body_parses_alike_unless_its_mood_looks_unmasked (masks.phrase_body 2 1) 2 1 _
    (by decide +kernel) (by decide) (by decide +kernel) (by decide) h).mpr (by decide)⟩

/-- A table of 53 phrases in the middle mood is read as it stands, and refused once it is
masked. -/
theorem a_masked_table_of_fifty_three_phrases_is_refused :
    (∃ phrases, parse_phrases (masks.phrase_body 53 2) = .ok phrases) ∧
    parse_phrases (apply_mask 53 (masks.phrase_body 53 2)) = .err MalformedAnalysisFile := by
  constructor
  · have hparsed : (analysis_phrases 2 256 (masks.entries 53)).accepted.isOk = true := by
      decide +kernel
    rw [masks.parse_phrase_body]
    cases h : analysis_phrases 2 256 (masks.entries 53) with
    | ok phrases => exact ⟨phrases, rfl⟩
    | err error | panicked => simp [h, Outcome.accepted, Except.isOk, Except.toBool] at hparsed
  · exact parse_masked_refused (by decide +kernel) (by decide +kernel) (by decide +kernel)

end lumi_rekordbox_analysis
