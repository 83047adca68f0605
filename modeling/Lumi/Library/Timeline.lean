-- The phrase timelines of the library: who may build one, and how each
-- command of the editor cuts the phrases anew. A `LumiPhraseTimeline` carries
-- the check of its constructor as a field.
import Lumi.Tiling
import Lumi.Domain.Identifiers

open rust lumi_domain

namespace lumi_library

/-! ## Identifiers -/

inductive TextIdentifierError where
  | Empty (label : String)
  | TooLong (label : String)
deriving DecidableEq

/-- `text_identifier!`: a text that is not blank and has at most 255 bytes. -/
structure TextIdentifier (label : String) where
  value : String
  not_blank : is_blank value = false
  not_long : value.utf8ByteSize ≤ 255

def TextIdentifier.try_new (label value : String) :
    Except TextIdentifierError (TextIdentifier label) :=
  if blank : is_blank value then .error (.Empty label)
  else if long : value.utf8ByteSize > 255 then .error (.TooLong label)
  else .ok ⟨value, Bool.eq_false_iff.mpr blank, Nat.le_of_not_gt long⟩

theorem TextIdentifier.value_inj {label : String} {a b : TextIdentifier label} :
    a.value = b.value ↔ a = b := by
  cases a
  cases b
  simp

instance {label : String} : DecidableEq (TextIdentifier label) := fun _ _ =>
  decidable_of_iff _ TextIdentifier.value_inj

abbrev SourceRevision := TextIdentifier "source revision"
abbrev PhraseRoleId := TextIdentifier "phrase role id"
abbrev VariantId := TextIdentifier "variant id"

structure TimelineRevision where
  value : UInt64
  positive : value ≠ 0
deriving DecidableEq

namespace TimelineRevision

def try_new (value : UInt64) : Except TextIdentifierError TimelineRevision :=
  if h : value = 0 then .error (.Empty "timeline revision") else .ok ⟨value, h⟩

def initial : TimelineRevision := ⟨1, by decide⟩

instance : LE TimelineRevision := ⟨fun a b => a.value ≤ b.value⟩

instance (a b : TimelineRevision) : Decidable (a ≤ b) :=
  inferInstanceAs (Decidable (a.value ≤ b.value))

def checked_next (revision : TimelineRevision) : Option TimelineRevision :=
  match h : checked_add revision.value 1 with
  | some value => some ⟨value, by
      have := checked_add_eq_some.mp h
      rintro rfl
      simp at this⟩
  | none => none

variable {a : TimelineRevision}

theorem checked_next_eq_some {b : TimelineRevision} :
    a.checked_next = some b ↔ a.value.toNat + 1 = b.value.toNat := by
  obtain ⟨b, hb⟩ := b
  unfold checked_next
  split
  · rename_i value h
    have hv := checked_add_eq_some.mp h
    rw [UInt64.toNat_one] at hv
    rw [Option.some.injEq, TimelineRevision.mk.injEq, ← UInt64.toNat_inj, hv]
  · rename_i h
    have hv := checked_add_eq_none.mp h
    have hlt := b.toNat_lt
    rw [UInt64.toNat_one] at hv
    simp only [reduceCtorEq, false_iff]
    omega

theorem exists_next (h : a.value < u64_max) : ∃ b, a.checked_next = some b := by
  unfold checked_next
  split
  · exact ⟨_, rfl⟩
  rename_i hfull
  have hv := checked_add_eq_none.mp hfull
  have hmax : u64_max.toNat = 2 ^ 64 - 1 := rfl
  rw [UInt64.toNat_one] at hv
  rw [UInt64.lt_iff_toNat_lt] at h
  omega

end TimelineRevision

/-! ## Phrases -/

inductive TimelineRevisionOrigin where
  | SourceImport
  | UserEdit
  | SourceReconcile
  | RevisionRestore
deriving DecidableEq

inductive TimelineRevisionReason where
  | InitialSourceMapping
  | CreatePhrase
  | SplitPhrase
  | MergePrevious
  | MergeNext
  | MoveBoundary
  | AbsorbPrevious
  | AbsorbNext
  | ChangeRole
  | ChangeLoopStrategy
  | Undo
  | Redo
  | RestoreRevision
  | SourceReconcile
deriving DecidableEq

structure ThemeSpecificVariant where
  theme_id : ThemeId
  variant_id : VariantId
deriving DecidableEq

inductive PhraseLoopStrategy where
  | Auto
  | FixedVariant (variant : VariantId)
  | ThemeSpecificExact (overrides : List ThemeSpecificVariant)
deriving DecidableEq

structure PhraseInstance where
  index : UInt16
  start_beat : UInt32
  end_beat : UInt32
  role_id : PhraseRoleId
  loop_strategy : PhraseLoopStrategy
deriving DecidableEq

namespace PhraseInstance

def new (index : UInt16) (start_beat end_beat : UInt32) (role_id : PhraseRoleId) : PhraseInstance :=
  { index, start_beat, end_beat, role_id, loop_strategy := .Auto }

def with_loop_strategy (phrase : PhraseInstance) (loop_strategy : PhraseLoopStrategy) :
    PhraseInstance :=
  { phrase with loop_strategy }

end PhraseInstance

/-! ## The check of the constructor -/

inductive TimelineValidationError where
  | InvalidTrackId
  | EmptyDuration
  | EmptyPhrases
  | UnorderedPhraseIndex
  | InvalidPhraseCoverage
  | InvalidRevisionHistory
  | InvalidLoopStrategy
deriving DecidableEq

/-- The overrides of a strategy that the constructor refuses: there is none, or a theme does not
come after the theme before it. -/
def PhraseLoopStrategy.is_refused : PhraseLoopStrategy → Bool
  | .ThemeSpecificExact overrides =>
    overrides.isEmpty ||
      (windows_pair overrides).any fun pair => pair.1.theme_id ≥ pair.2.theme_id
  | _ => false

/-- The loop over the phrases. It gives the end of the last phrase. -/
def walk_phrases (total_beats : UInt32) :
    Nat → UInt32 → List PhraseInstance → Except TimelineValidationError UInt32
  | _, previous_end, [] => .ok previous_end
  | expected_index, previous_end, phrase :: phrases =>
    if phrase.index.toNat ≠ expected_index then .error .UnorderedPhraseIndex
    else if phrase.start_beat ≠ previous_end ∨ phrase.end_beat ≤ phrase.start_beat ∨
        phrase.end_beat > total_beats then .error .InvalidPhraseCoverage
    else if phrase.loop_strategy.is_refused then .error .InvalidLoopStrategy
    else walk_phrases total_beats (expected_index + 1) phrase.end_beat phrases

def validate_timeline (track_id : TrackId) (revision : TimelineRevision) (total_beats : UInt32)
    (parent_revision restored_from : Option TimelineRevision) (phrases : List PhraseInstance) :
    Except TimelineValidationError Unit :=
  if track_id.value = 0 then .error .InvalidTrackId
  else if total_beats = 0 then .error .EmptyDuration
  else if phrases.isEmpty then .error .EmptyPhrases
  else if parent_revision.any (· ≥ revision) || restored_from.any (· ≥ revision) then
    .error .InvalidRevisionHistory
  else match walk_phrases total_beats 0 0 phrases with
    | .error e => .error e
    | .ok previous_end =>
      if previous_end ≠ total_beats then .error .InvalidPhraseCoverage else .ok ()

structure LumiPhraseTimeline where
  track_id : TrackId
  revision : TimelineRevision
  baseline_revision : SourceRevision
  total_beats : UInt32
  origin : TimelineRevisionOrigin
  reason : TimelineRevisionReason
  parent_revision : Option TimelineRevision
  restored_from : Option TimelineRevision
  phrases : List PhraseInstance
  valid : validate_timeline track_id revision total_beats parent_revision restored_from phrases =
    .ok ()
deriving DecidableEq

/-! ## The commands of the editor -/

inductive PhraseAbsorption where
  | Previous
  | Next
deriving DecidableEq

inductive TimelineEditCommand where
  | Create (start_beat end_beat : UInt32) (role_id : PhraseRoleId)
  | Split (phrase_index : UInt16) (at_beat : UInt32)
  | MergePrevious (phrase_index : UInt16)
  | MergeNext (phrase_index : UInt16)
  | MoveBoundary (boundary_after_phrase_index : UInt16) (to_beat : UInt32)
  | Delete (phrase_index : UInt16) (absorb_into : PhraseAbsorption)
  | ChangeRole (phrase_index : UInt16) (role_id : PhraseRoleId)
  | SetLoopStrategy (phrase_index : UInt16) (strategy : PhraseLoopStrategy)
deriving DecidableEq

def TimelineEditCommand.reason : TimelineEditCommand → TimelineRevisionReason
  | .Create .. => .CreatePhrase
  | .Split .. => .SplitPhrase
  | .MergePrevious .. => .MergePrevious
  | .MergeNext .. => .MergeNext
  | .MoveBoundary .. => .MoveBoundary
  | .Delete _ .Previous => .AbsorbPrevious
  | .Delete _ .Next => .AbsorbNext
  | .ChangeRole .. => .ChangeRole
  | .SetLoopStrategy .. => .ChangeLoopStrategy

inductive TimelineEditError where
  | UnknownPhrase
  | InvalidBeatSelection
  | InvalidSplitBoundary
  | InvalidBoundaryMove
  | MissingPreviousPhrase
  | MissingNextPhrase
  | CannotDeleteOnlyPhrase
  | NoChange
  | TooManyPhrases
  | RevisionOverflow
  | IncompatibleRevision
  | InvalidRestoreReason
  | InvalidResult (error : TimelineValidationError)
deriving DecidableEq

/-- What an edit gives: it may panic, for it reads and writes the phrases by their place. -/
abbrev Edited := Outcome TimelineEditError

def phrase_index_index (index : UInt16) (len : Nat) : Edited Nat :=
  if index.toNat ≥ len then .err .UnknownPhrase else .ok index.toNat

/-- One turn of the loop of `Create`: what the phrase leaves in the replacement. -/
def create_turn (start_beat end_beat : UInt32) (role_id : PhraseRoleId)
    (replacement : List PhraseInstance) (phrase : PhraseInstance) : List PhraseInstance :=
  if phrase.end_beat ≤ start_beat ∨ phrase.start_beat ≥ end_beat then
    replacement ++ [phrase]
  else
    let replacement :=
      if phrase.start_beat < start_beat then
        replacement ++ [(PhraseInstance.new 0 phrase.start_beat start_beat
          phrase.role_id).with_loop_strategy phrase.loop_strategy]
      else replacement
    let replacement :=
      if replacement.getLast?.all (fun last => last.end_beat ≤ start_beat) then
        replacement ++ [PhraseInstance.new 0 start_beat end_beat role_id]
      else replacement
    if phrase.end_beat > end_beat then
      replacement ++ [(PhraseInstance.new 0 end_beat phrase.end_beat
        phrase.role_id).with_loop_strategy phrase.loop_strategy]
    else replacement

/-! The arms of `apply_edit`, one for each command. -/

variable (phrases : List PhraseInstance)

def apply_create (total_beats start_beat end_beat : UInt32) (role_id : PhraseRoleId) :
    Edited (List PhraseInstance) :=
  if start_beat ≥ end_beat ∨ end_beat > total_beats then .err .InvalidBeatSelection
  else .ok (phrases.foldl (create_turn start_beat end_beat role_id) [])

variable (phrase_index : UInt16)

def apply_split (at_beat : UInt32) : Edited (List PhraseInstance) := do
  let index ← phrase_index_index phrase_index phrases.length
  let phrase ← vec_index phrases index
  if at_beat ≤ phrase.start_beat ∨ at_beat ≥ phrase.end_beat then
    .err .InvalidSplitBoundary
  else
    let phrases ← vec_set phrases index
      ((PhraseInstance.new 0 phrase.start_beat at_beat phrase.role_id).with_loop_strategy
        phrase.loop_strategy)
    vec_insert phrases (index + 1) (PhraseInstance.new 0 at_beat phrase.end_beat phrase.role_id)

def apply_merge_previous : Edited (List PhraseInstance) := do
  let index ← phrase_index_index phrase_index phrases.length
  if index = 0 then .err .MissingPreviousPhrase
  else
    let selected ← vec_index phrases index
    let previous ← vec_index phrases (index - 1)
    let phrases ← vec_set phrases index
      ((PhraseInstance.new 0 previous.start_beat selected.end_beat
        selected.role_id).with_loop_strategy selected.loop_strategy)
    vec_remove phrases (index - 1)

def apply_merge_next : Edited (List PhraseInstance) := do
  let index ← phrase_index_index phrase_index phrases.length
  if index + 1 ≥ phrases.length then .err .MissingNextPhrase
  else
    let selected ← vec_index phrases index
    let next ← vec_index phrases (index + 1)
    let phrases ← vec_set phrases index
      ((PhraseInstance.new 0 selected.start_beat next.end_beat
        selected.role_id).with_loop_strategy selected.loop_strategy)
    vec_remove phrases (index + 1)

def apply_move_boundary (boundary_after_phrase_index : UInt16) (to_beat : UInt32) :
    Edited (List PhraseInstance) := do
  let left ← phrase_index_index boundary_after_phrase_index phrases.length
  if left + 1 ≥ phrases.length then .err .MissingNextPhrase
  else
    let left_phrase ← vec_index phrases left
    let right_phrase ← vec_index phrases (left + 1)
    if to_beat ≤ left_phrase.start_beat ∨ to_beat ≥ right_phrase.end_beat then
      .err .InvalidBoundaryMove
    else
      let phrases ← vec_set phrases left
        ((PhraseInstance.new 0 left_phrase.start_beat to_beat
          left_phrase.role_id).with_loop_strategy left_phrase.loop_strategy)
      vec_set phrases (left + 1)
        ((PhraseInstance.new 0 to_beat right_phrase.end_beat
          right_phrase.role_id).with_loop_strategy right_phrase.loop_strategy)

def apply_delete (absorb_into : PhraseAbsorption) : Edited (List PhraseInstance) := do
  let index ← phrase_index_index phrase_index phrases.length
  if phrases.length = 1 then .err .CannotDeleteOnlyPhrase
  else
    let removed ← vec_index phrases index
    match absorb_into with
    | .Previous =>
      if index > 0 then
        let previous ← vec_index phrases (index - 1)
        let phrases ← vec_set phrases (index - 1)
          ((PhraseInstance.new 0 previous.start_beat removed.end_beat
            previous.role_id).with_loop_strategy previous.loop_strategy)
        vec_remove phrases index
      else .err .MissingPreviousPhrase
    | .Next =>
      if index + 1 < phrases.length then
        let next ← vec_index phrases (index + 1)
        let phrases ← vec_set phrases (index + 1)
          ((PhraseInstance.new 0 removed.start_beat next.end_beat
            next.role_id).with_loop_strategy next.loop_strategy)
        vec_remove phrases index
      else .err .MissingNextPhrase

def apply_change_role (role_id : PhraseRoleId) : Edited (List PhraseInstance) := do
  let index ← phrase_index_index phrase_index phrases.length
  let phrase ← vec_index phrases index
  if phrase.role_id = role_id then .err .NoChange
  else vec_set phrases index (PhraseInstance.new 0 phrase.start_beat phrase.end_beat role_id)

def apply_set_loop_strategy (strategy : PhraseLoopStrategy) : Edited (List PhraseInstance) := do
  let index ← phrase_index_index phrase_index phrases.length
  let phrase ← vec_index phrases index
  if phrase.loop_strategy = strategy then .err .NoChange
  else
    vec_set phrases index
      ((PhraseInstance.new 0 phrase.start_beat phrase.end_beat phrase.role_id).with_loop_strategy
        strategy)

/-- The loop of `reindex`, from the place `index` on. -/
def reindex_from : Nat → List PhraseInstance → Edited (List PhraseInstance)
  | _, [] => .ok []
  | index, phrase :: phrases =>
    if index < 2 ^ 16 then do
      let rest ← reindex_from (index + 1) phrases
      .ok ((PhraseInstance.new (UInt16.ofNat index) phrase.start_beat phrase.end_beat
        phrase.role_id).with_loop_strategy phrase.loop_strategy :: rest)
    else .err .TooManyPhrases

def reindex : Edited (List PhraseInstance) :=
  reindex_from 0 phrases

def apply_edit (current : List PhraseInstance) (total_beats : UInt32) :
    TimelineEditCommand → Edited (List PhraseInstance)
  | .Create start_beat end_beat role_id =>
    apply_create current total_beats start_beat end_beat role_id >>= reindex
  | .Split phrase_index at_beat => apply_split current phrase_index at_beat >>= reindex
  | .MergePrevious phrase_index => apply_merge_previous current phrase_index >>= reindex
  | .MergeNext phrase_index => apply_merge_next current phrase_index >>= reindex
  | .MoveBoundary boundary_after_phrase_index to_beat =>
    apply_move_boundary current boundary_after_phrase_index to_beat >>= reindex
  | .Delete phrase_index absorb_into => apply_delete current phrase_index absorb_into >>= reindex
  | .ChangeRole phrase_index role_id => apply_change_role current phrase_index role_id >>= reindex
  | .SetLoopStrategy phrase_index strategy =>
    apply_set_loop_strategy current phrase_index strategy >>= reindex

/-! ## The timeline -/

namespace LumiPhraseTimeline

def try_new_with_history (track_id : TrackId) (revision : TimelineRevision)
    (baseline_revision : SourceRevision) (total_beats : UInt32)
    (origin : TimelineRevisionOrigin) (reason : TimelineRevisionReason)
    (parent_revision restored_from : Option TimelineRevision) (phrases : List PhraseInstance) :
    Except TimelineValidationError LumiPhraseTimeline :=
  match valid : validate_timeline track_id revision total_beats parent_revision restored_from
      phrases with
  | .error e => .error e
  | .ok () => .ok ⟨track_id, revision, baseline_revision, total_beats, origin, reason,
      parent_revision, restored_from, phrases, valid⟩

def try_new (track_id : TrackId) (revision : TimelineRevision) (baseline_revision : SourceRevision)
    (total_beats : UInt32)
    (origin : TimelineRevisionOrigin) (phrases : List PhraseInstance) :
    Except TimelineValidationError LumiPhraseTimeline :=
  let reason := match origin with
    | .SourceImport => .InitialSourceMapping
    | .UserEdit => .ChangeRole
    | .SourceReconcile => .SourceReconcile
    | .RevisionRestore => .RestoreRevision
  let parent_revision :=
    if revision = TimelineRevision.initial then none
    else (TimelineRevision.try_new (revision.value - 1)).toOption
  try_new_with_history track_id revision baseline_revision total_beats origin reason
    parent_revision none phrases

/-- `map_err(TimelineEditError::InvalidResult)`. -/
def map_err : Except TimelineValidationError LumiPhraseTimeline → Edited LumiPhraseTimeline
  | .ok timeline => .ok timeline
  | .error e => .err (.InvalidResult e)

def edit (self : LumiPhraseTimeline) (command : TimelineEditCommand) : Edited LumiPhraseTimeline :=
  match self.revision.checked_next with
  | none => .err .RevisionOverflow
  | some next_revision => do
    let phrases ← apply_edit self.phrases self.total_beats command
    if phrases = self.phrases then .err .NoChange
    else map_err (try_new_with_history self.track_id next_revision self.baseline_revision
      self.total_beats .UserEdit command.reason (some self.revision) none phrases)

/-- The loop of `restore` that numbers the phrases of the target anew. -/
def renumber : Nat → List PhraseInstance → List PhraseInstance
  | _, [] => []
  | index, phrase :: phrases =>
    (PhraseInstance.new (if index < 2 ^ 16 then UInt16.ofNat index else UInt16.ofNat (2 ^ 16 - 1))
      phrase.start_beat phrase.end_beat phrase.role_id).with_loop_strategy phrase.loop_strategy ::
        renumber (index + 1) phrases

def restore (head target : LumiPhraseTimeline) (reason : TimelineRevisionReason) :
    Edited LumiPhraseTimeline :=
  if head.track_id ≠ target.track_id ∨ head.total_beats ≠ target.total_beats then
    .err .IncompatibleRevision
  else if ¬ (reason = .Undo ∨ reason = .Redo ∨ reason = .RestoreRevision) then
    .err .InvalidRestoreReason
  else match head.revision.checked_next with
    | none => .err .RevisionOverflow
    | some next_revision =>
      map_err (try_new_with_history head.track_id next_revision head.baseline_revision
        head.total_beats .RevisionRestore reason (some head.revision) (some target.revision)
        (renumber 0 target.phrases))

/-- Every timeline is one that `try_new_with_history` returns. -/
theorem every_timeline_is_constructed (t : LumiPhraseTimeline) :
    try_new_with_history t.track_id t.revision t.baseline_revision t.total_beats t.origin t.reason
      t.parent_revision t.restored_from t.phrases = .ok t := by
  have hvalid := t.valid
  unfold try_new_with_history
  split
  · rename_i h
    rw [hvalid] at h
    cases h
  · rfl

end LumiPhraseTimeline

end lumi_library
