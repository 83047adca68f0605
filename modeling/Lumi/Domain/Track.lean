-- The tracks of the decks. A `TrackMetadata` carries the checks of its
-- constructors as fields, so a track whose phrases are out of order, leave a
-- gap or pass the end of the track does not exist.
import Lumi.Tiling
import Lumi.Domain.Identifiers

open rust tiling

namespace lumi_domain

/-! ## The facts of a track -/

inductive DeckSourceStatus where
  | Starting
  | Ready
  | Degraded
  | Disconnected
deriving DecidableEq

inductive PitchClass where
  | C
  | CSharp
  | D
  | DSharp
  | E
  | F
  | FSharp
  | G
  | GSharp
  | A
  | ASharp
  | B
deriving DecidableEq

inductive KeyMode where
  | Major
  | Minor
deriving DecidableEq

structure MusicalKey where
  pitch_class : PitchClass
  mode : KeyMode
deriving DecidableEq

inductive PhraseKind where
  | Intro
  | Verse
  | Build
  | Drop
  | Breakdown
  | Outro
deriving DecidableEq

structure TrackColor where
  red : UInt8
  green : UInt8
  blue : UInt8
deriving DecidableEq

def TrackColor.rgb_u32 (color : TrackColor) : UInt32 :=
  color.red.toUInt32 <<< 16 ||| color.green.toUInt32 <<< 8 ||| color.blue.toUInt32

structure TrackPhrase where
  index : UInt16
  start_beat : UInt32
  end_beat : UInt32
  kind : PhraseKind
deriving DecidableEq

inductive TrackValidationError where
  | EmptyTitle
  | EmptyArtist
  | BpmOutOfRange (bpm_milli : UInt32)
  | EmptyDuration
  | EmptyPhrases
  | UnorderedPhraseIndex
  | InvalidPhraseRange
  | IncompletePhraseCoverage
  | InvalidIdentityFacts
deriving DecidableEq

structure TrackIdentityFacts where
  provider_kind : String
  source_id : String
  source_track_id : String
  analysis_revision : String
  lumi_timeline_revision : UInt64
  complete : ¬ (is_blank provider_kind ∨ is_blank source_id ∨ is_blank source_track_id ∨
    is_blank analysis_revision ∨ lumi_timeline_revision = 0)
deriving DecidableEq

def TrackIdentityFacts.try_new (provider_kind source_id source_track_id analysis_revision : String)
    (lumi_timeline_revision : UInt64) : Except TrackValidationError TrackIdentityFacts :=
  if h : is_blank provider_kind ∨ is_blank source_id ∨ is_blank source_track_id ∨
      is_blank analysis_revision ∨ lumi_timeline_revision = 0 then
    .error .InvalidIdentityFacts
  else
    .ok ⟨provider_kind, source_id, source_track_id, analysis_revision, lumi_timeline_revision, h⟩

/-! ## The checks of the constructors -/

def validate_track_facts (title artist : String) (bpm_milli duration_beats : UInt32) :
    Except TrackValidationError Unit :=
  if is_blank title then .error .EmptyTitle
  else if is_blank artist then .error .EmptyArtist
  else if ¬ (20000 ≤ bpm_milli ∧ bpm_milli ≤ 300000) then .error (.BpmOutOfRange bpm_milli)
  else if duration_beats = 0 then .error .EmptyDuration
  else .ok ()

/-- The loop over the phrases in `try_new_with_color`. It gives the end of the last phrase. -/
def walk_phrases (duration_beats : UInt32) :
    Nat → UInt32 → List TrackPhrase → Except TrackValidationError UInt32
  | _, previous_end, [] => .ok previous_end
  | expected_index, previous_end, phrase :: phrases =>
    if phrase.index.toNat ≠ expected_index then .error .UnorderedPhraseIndex
    else if phrase.start_beat ≠ previous_end ∨ phrase.end_beat ≤ phrase.start_beat ∨
        phrase.end_beat > duration_beats then .error .InvalidPhraseRange
    else walk_phrases duration_beats (expected_index + 1) phrase.end_beat phrases

def validate_phrases (duration_beats : UInt32) (phrases : List TrackPhrase) :
    Except TrackValidationError Unit :=
  if phrases = [] then .error .EmptyPhrases
  else match walk_phrases duration_beats 0 0 phrases with
    | .error e => .error e
    | .ok previous_end =>
      if previous_end ≠ duration_beats then .error .IncompletePhraseCoverage else .ok ()

/-- A track of a deck. A track with no usable analysis has no phrase and no color; every other
track has phrases that passed the walk. -/
structure TrackMetadata where
  id : TrackId
  title : String
  artist : String
  bpm_milli : UInt32
  musical_key : MusicalKey
  color : Option TrackColor
  duration_beats : UInt32
  phrases : List TrackPhrase
  identity_facts : Option TrackIdentityFacts
  facts_valid : validate_track_facts title artist bpm_milli duration_beats = .ok ()
  phrases_valid : (phrases = [] ∧ color = none) ∨ validate_phrases duration_beats phrases = .ok ()
deriving DecidableEq

namespace TrackMetadata

def try_new_unanalyzed (id : TrackId) (title artist : String) (bpm_milli : UInt32)
    (musical_key : MusicalKey) (duration_beats : UInt32) :
    Except TrackValidationError TrackMetadata :=
  match h : validate_track_facts title artist bpm_milli duration_beats with
  | .error e => .error e
  | .ok () => .ok ⟨id, title, artist, bpm_milli, musical_key, none, duration_beats, [], none, h,
      .inl ⟨rfl, rfl⟩⟩

def try_new_with_color (id : TrackId) (title artist : String) (bpm_milli : UInt32)
    (musical_key : MusicalKey) (color : Option TrackColor) (duration_beats : UInt32)
    (phrases : List TrackPhrase) : Except TrackValidationError TrackMetadata :=
  match h : validate_track_facts title artist bpm_milli duration_beats with
  | .error e => .error e
  | .ok () =>
    match hp : validate_phrases duration_beats phrases with
    | .error e => .error e
    | .ok () => .ok ⟨id, title, artist, bpm_milli, musical_key, color, duration_beats, phrases,
        none, h, .inr hp⟩

def try_new (id : TrackId) (title artist : String) (bpm_milli : UInt32)
    (musical_key : MusicalKey) (duration_beats : UInt32) (phrases : List TrackPhrase) :
    Except TrackValidationError TrackMetadata :=
  try_new_with_color id title artist bpm_milli musical_key none duration_beats phrases

def with_identity_facts (metadata : TrackMetadata) (identity_facts : TrackIdentityFacts) :
    TrackMetadata :=
  { metadata with identity_facts := some identity_facts }

def phrase (metadata : TrackMetadata) (index : UInt16) : Option TrackPhrase :=
  metadata.phrases[index.toNat]?

/-- The constructors make every track there is: a track is what one of them returns, with the
identity facts put on it. -/
theorem every_track_is_constructed (m : TrackMetadata) :
    ∃ base, (try_new_unanalyzed m.id m.title m.artist m.bpm_milli m.musical_key
          m.duration_beats = .ok base ∨
        try_new_with_color m.id m.title m.artist m.bpm_milli m.musical_key m.color
          m.duration_beats m.phrases = .ok base) ∧
      m = { base with identity_facts := m.identity_facts } := by
  obtain ⟨id, title, artist, bpm, key, color, duration, phrases, facts, hf, hp⟩ := m
  rcases hp with ⟨rfl, rfl⟩ | hp
  · refine ⟨⟨id, title, artist, bpm, key, none, duration, [], none, hf, .inl ⟨rfl, rfl⟩⟩, ?_, rfl⟩
    left
    unfold try_new_unanalyzed
    split <;> simp_all
  · refine ⟨⟨id, title, artist, bpm, key, color, duration, phrases, none, hf, .inr hp⟩, ?_, rfl⟩
    right
    unfold try_new_with_color
    split <;> simp_all
    split <;> simp_all

end TrackMetadata

/-! ## What the walk over the phrases promises -/

theorem walk_phrases_ok {duration_beats e a : UInt32} {n : Nat} {phrases : List TrackPhrase}
    (h : walk_phrases duration_beats n a phrases = .ok e) :
    Indexed (·.index.toNat) n phrases ∧
      Tiles (·.start_beat.toNat) (·.end_beat.toNat) a.toNat phrases e.toNat := by
  induction phrases generalizing n a with
  | nil => cases h; exact ⟨indexed_nil, rfl⟩
  | cons p ps ih =>
    unfold walk_phrases at h
    split_ifs at h with hi hr
    obtain ⟨h1, h2⟩ := ih h
    simp only [not_or, not_not, UInt32.not_le] at hi hr
    refine ⟨⟨hi, h1⟩, ⟨congrArg UInt32.toNat hr.1, ?_, h2⟩⟩
    rw [← hr.1]
    exact UInt32.lt_iff_toNat_lt.mp hr.2.1

theorem TrackMetadata.phrases_indexed (m : TrackMetadata) :
    Indexed (·.index.toNat) 0 m.phrases := by
  rcases m.phrases_valid with ⟨h, _⟩ | h
  · rw [h]; exact indexed_nil
  unfold validate_phrases at h
  split at h
  · cases h
  split at h
  · cases h
  rename_i hw
  exact (walk_phrases_ok hw).1

/-- `phrase` finds a phrase by its place in the list, which is its index. -/
theorem TrackMetadata.phrase_index (m : TrackMetadata) {i : UInt16} {p : TrackPhrase}
    (h : m.phrase i = some p) : p ∈ m.phrases ∧ p.index = i := by
  refine ⟨List.mem_of_getElem? h, UInt16.toNat_inj.mp ?_⟩
  rw [m.phrases_indexed.get h, Nat.zero_add]

end lumi_domain
