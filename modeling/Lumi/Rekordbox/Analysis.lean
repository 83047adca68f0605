-- The parser of Rekordbox's analysis files: a header, and tags that follow one
-- another, each with its own table. Every addition of an offset, every index
-- and every range stands as the code has it, so a wrong one would panic here.
-- A pointer is 64 bits wide. The file system is asked for the canonical form
-- of a path, so what it answers is a parameter.
import Lumi.Slices

open rust

namespace lumi_rekordbox_analysis

/-! ## What is parsed -/

/-- The one error of the parser. -/
inductive AnalysisError where
  | MalformedAnalysisFile
deriving DecidableEq

open AnalysisError Outcome

structure WaveformCoverage where
  preview_points : Nat
  detailed_points : Nat
  color_preview_points : Nat
  color_detailed_points : Nat
  three_band_preview_points : Nat
  three_band_detailed_points : Nat
deriving DecidableEq

structure AnalysisBeat where
  beat_number : UInt16
  tempo_centi_bpm : UInt16
  time_millis : UInt32
deriving DecidableEq

structure AnalysisWaveformPoint where
  low : UInt8
  mid : UInt8
  high : UInt8
deriving DecidableEq

structure AnalysisPhrase where
  start_beat : UInt32
  end_beat : UInt32
  source_label : String
deriving DecidableEq

structure AnalysisHotCue where
  index : UInt8
  time_millis : UInt32
  loop_end_millis : Option UInt32
  comment : String
  color_rgb : UInt8 × UInt8 × UInt8
deriving DecidableEq

structure ParsedAnalysisFile where
  audio_location : Option String
  beat_grid : List AnalysisBeat
  phrases : List AnalysisPhrase
  hot_cues : List AnalysisHotCue
  hot_cue_priority : UInt8
  waveform : List AnalysisWaveformPoint
  waveform_priority : UInt8
  waveform_coverage : WaveformCoverage
deriving DecidableEq

def ParsedAnalysisFile.default : ParsedAnalysisFile :=
  ⟨none, [], [], [], 0, [], 0, ⟨0, 0, 0, 0, 0, 0⟩⟩

/-! ## Reading numbers -/

def be_u16 (bytes : List UInt8) (offset : Nat) : Outcome AnalysisError UInt16 := do
  let stop ← usize_add offset 2
  let value ← ok_or (slice_get bytes offset stop) MalformedAnalysisFile
  let high ← vec_index value 0
  let low ← vec_index value 1
  .ok (u16_from_be_bytes high low)

def be_u32 (bytes : List UInt8) (offset : Nat) : Outcome AnalysisError UInt32 := do
  let stop ← usize_add offset 4
  let value ← ok_or (slice_get bytes offset stop) MalformedAnalysisFile
  let b0 ← vec_index value 0
  let b1 ← vec_index value 1
  let b2 ← vec_index value 2
  let b3 ← vec_index value 3
  .ok (u32_from_be_bytes b0 b1 b2 b3)

/-- Every `u32` is a `usize`. -/
def usize_from_u32 (value : UInt32) : Outcome AnalysisError Nat := .ok value.toNat

/-- `usize_from_u32(be_u32(bytes, offset)?)?`. -/
def be_usize (bytes : List UInt8) (offset : Nat) : Outcome AnalysisError Nat := do
  let value ← be_u32 bytes offset
  usize_from_u32 value

section reads

variable {bytes : List UInt8} {offset : Nat}

theorem be_u16_of_le (h : offset + 2 ≤ bytes.length) (hfits : offset + 2 < 2 ^ 64) :
    be_u16 bytes offset =
      .ok (u16_from_be_bytes (bytes.getD offset 0) (bytes.getD (offset + 1) 0)) := by
  have hget : slice_get bytes offset (offset + 2) =
      some [bytes.getD offset 0, bytes.getD (offset + 1) 0] := by
    rw [slice_get_eq_some]
    refine ⟨by omega, h, ?_⟩
    rw [Nat.add_sub_cancel_left, List.drop_eq_getElem_cons (by omega), List.take_succ_cons,
      List.drop_eq_getElem_cons (by omega), List.take_succ_cons, List.take_zero,
      List.getD_eq_getElem _ _ (by omega), List.getD_eq_getElem _ _ (by omega)]
  unfold be_u16
  rw [usize_add_eq hfits, ok_bind, hget]
  rfl

end reads

/-! ## Tables of a fixed entry size -/

variable (body : List UInt8)

def validate_entry_range (count entry_bytes data_offset : Nat) : Outcome AnalysisError Unit := do
  let data_bytes ← ok_or (usize_checked_mul count entry_bytes) MalformedAnalysisFile
  let stop ← ok_or (usize_checked_add data_offset data_bytes) MalformedAnalysisFile
  if stop > body.length then .err MalformedAnalysisFile
  else .ok ()

/-- The published mask of the phrases. -/
def base : List UInt8 :=
  [0xCB, 0xE1, 0xEE, 0xFA, 0xE5, 0xEE, 0xAD, 0xEE, 0xE9, 0xD2, 0xE9, 0xEB, 0xE1, 0xE9, 0xF3, 0xE8,
    0xE9, 0xF4, 0xE1]

/-- `base[index % base.len()].wrapping_add(increment)`. -/
def mask_byte (increment : UInt8) (index : Nat) : UInt8 :=
  base.getD (index % base.length) 0 + increment

/-- Every byte from the sixth on with its byte of the mask. -/
def apply_mask (increment : UInt8) (body : List UInt8) : List UInt8 :=
  body.take 6 ++ (body.drop 6).mapIdx fun index byte => byte ^^^ mask_byte increment index

def phrase_label (mood kind : UInt16) (k1 k2 k3 : UInt8) : String :=
  match mood.toNat with
  | 1 =>
    match kind.toNat with
    | 1 => "Intro " ++ if k1 = 1 then "1" else "2"
    | 2 => "Up " ++ if k2 = 0 ∧ k3 = 0 then "1" else if k2 = 0 ∧ k3 = 1 then "2"
        else if k2 = 1 ∧ k3 = 0 then "3" else "1"
    | 3 => "Down"
    | 5 => "Chorus " ++ if k1 = 1 then "1" else "2"
    | 6 => "Outro " ++ if k1 = 1 then "1" else "2"
    | kind => "High " ++ toString kind
  | 2 =>
    match kind.toNat with
    | 1 => "Intro"
    | 8 => "Bridge"
    | 9 => "Chorus"
    | 10 => "Outro"
    | kind => if 2 ≤ kind ∧ kind ≤ 7 then "Verse " ++ toString (kind - 1)
        else "Mid " ++ toString kind
  | 3 =>
    match kind.toNat with
    | 1 => "Intro"
    | 8 => "Bridge"
    | 9 => "Chorus"
    | 10 => "Outro"
    | kind => if 2 ≤ kind ∧ kind ≤ 4 then "Verse 1" else if 5 ≤ kind ∧ kind ≤ 7 then "Verse 2"
        else "Low " ++ toString kind
  | _ => "Phrase " ++ toString kind.toNat

/-- An entry of the phrase table: the beat it starts with, counted from one, and its kind. -/
structure PhraseEntry where
  beat : UInt32
  kind : UInt16
  k1 : UInt8
  k2 : UInt8
  k3 : UInt8
deriving DecidableEq

def phrase_entry (decoded : List UInt8) (index : Nat) : Outcome AnalysisError PhraseEntry := do
  let entry_offset ← usize_mul index 24
  let entry_offset ← usize_add 20 entry_offset
  let beat_offset ← usize_add entry_offset 2
  let beat ← be_u16 decoded beat_offset
  let kind_offset ← usize_add entry_offset 4
  let kind ← be_u16 decoded kind_offset
  if beat = 0 then .err MalformedAnalysisFile
  else
    let k1_offset ← usize_add entry_offset 6
    let k1 ← vec_index decoded k1_offset
    let k2_offset ← usize_add entry_offset 7
    let k2 ← vec_index decoded k2_offset
    let k3_offset ← usize_add entry_offset 19
    let k3 ← vec_index decoded k3_offset
    .ok ⟨beat.toUInt32, kind, k1, k2, k3⟩

/-- The phrase of an entry, up to the beat of the next one. -/
def analysis_phrase (mood : UInt16) (next : UInt32) (entry : PhraseEntry) :
    Outcome AnalysisError AnalysisPhrase :=
  let start_beat := u32_saturating_sub entry.beat 1
  let end_beat := u32_saturating_sub next 1
  if end_beat ≤ start_beat then .err MalformedAnalysisFile
  else .ok ⟨start_beat, end_beat, phrase_label mood entry.kind entry.k1 entry.k2 entry.k3⟩

/-- Each entry with the next one, and the last one with the end of the track. -/
def analysis_phrases (mood : UInt16) (final_end_beat : UInt32) :
    List PhraseEntry → Outcome AnalysisError (List AnalysisPhrase)
  | [] => .ok []
  | entry :: entries => do
    let next := (entries.head?.map (·.beat)).getD (u32_saturating_add final_end_beat 1)
    let phrase ← analysis_phrase mood next entry
    let phrases ← analysis_phrases mood final_end_beat entries
    .ok (phrase :: phrases)

/-- `u8::try_from(count)`. -/
def mask_increment (count : UInt16) : Option UInt8 :=
  if count.toNat < 2 ^ 8 then some (UInt8.ofNat count.toNat) else none

/-- A mood over 20 tells that the body is masked. -/
def decode (count mood : UInt16) : Outcome AnalysisError (List UInt8) :=
  if mood > 20 then do
    let increment ← ok_or (mask_increment count) MalformedAnalysisFile
    .ok (apply_mask increment body)
  else .ok body

def decoded_phrases (decoded : List UInt8) (count : Nat) :
    Outcome AnalysisError (List AnalysisPhrase) := do
  let mood ← be_u16 decoded 6
  if ¬ (1 ≤ mood ∧ mood ≤ 3) then .err MalformedAnalysisFile
  else
    validate_entry_range decoded count 24 20
    let final_end_beat ← be_u16 decoded 14
    let entries ← collect (phrase_entry decoded) (List.range count)
    analysis_phrases mood final_end_beat.toUInt32 entries

def parse_phrases : Outcome AnalysisError (List AnalysisPhrase) := do
  if body.length < 20 then .err MalformedAnalysisFile
  else
    let count ← be_u16 body 4
    let mood ← be_u16 body 6
    let decoded ← decode body count mood
    decoded_phrases decoded count.toNat

/-! ## Hot cues -/

def loop_end_millis (cue_type : UInt8) (time_millis loop_time : UInt32) : Option UInt32 :=
  if cue_type = 2 ∧ loop_time > time_millis then some loop_time else none

/-- `text.trim()`. -/
def trim (text : List Char) : List Char :=
  ((text.dropWhile is_whitespace).reverse.dropWhile is_whitespace).reverse

section tags

variable (canonicalize : String → Option (Option String))

/-- A tag as the loop meets it. -/
structure Tag where
  tag_id : List UInt8
  tag_bytes : Nat
  body : List UInt8
deriving DecidableEq

end tags

end lumi_rekordbox_analysis
