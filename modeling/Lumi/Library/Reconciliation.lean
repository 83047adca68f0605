-- How a timeline follows its source: the phrases that a reconcile strategy
-- keeps, moves, merges or replaces, and the points that a new analysis leaves.
import Lumi.Library.Editing

open rust

namespace lumi_library

inductive ReconcileSide where
  | Lumi
  | Source
deriving DecidableEq

structure PhraseConflictChoice where
  phrase_index : UInt16
  side : ReconcileSide
deriving DecidableEq

inductive ReconcileStrategy where
  | KeepLumi
  | Rebase
  | Merge (choices : List PhraseConflictChoice)
  | ReplaceWithSource
deriving DecidableEq

inductive ReconcileError where
  | RevisionOverflow
  | KeepLumiDurationChanged
  | InsufficientBeats
  | ArithmeticOverflow
  | TooManyPhrases
  | IncompleteConflictChoices
  | MissingMergePhrase
  | NonContiguousMerge
  | InvalidTimeline (error : TimelineValidationError)
deriving DecidableEq

namespace reconciliation

abbrev Result (α : Type) := Outcome ReconcileError α

/-- `u16::try_from(index)`. -/
def u16_index (index : Nat) : Result UInt16 :=
  if index < 2 ^ 16 then .ok (UInt16.ofNat index) else .err .TooManyPhrases

/-- `Ord::clamp`, which panics on bounds that are out of order. -/
def clamp (value low high : Nat) : Result Nat :=
  if high < low then .panicked else .ok (max low (min value high))

/-- Arithmetic on so many bits, which panics when the value does not fit. -/
def fit (bits value : Nat) : Result Nat :=
  if value < 2 ^ bits then .ok value else .panicked

def fit_sub (a b : Nat) : Result Nat :=
  if b ≤ a then .ok (a - b) else .panicked

/-! ## Strategies -/

/-- The end of a phrase that is not the last one, with `remaining` phrases behind it. -/
def rebased_end (total_beats source_total_beats previous end_beat : UInt32) (remaining : Nat) :
    Result Nat := do
  let numerator ← fit 64 (end_beat.toNat * source_total_beats.toNat)
  let raised ← fit 64 (numerator + total_beats.toNat / 2)
  if total_beats = 0 then .panicked
  else
    let rounded := raised / total_beats.toNat
    if 2 ^ 32 ≤ rounded then .err .ArithmeticOverflow
    else
      let low ← fit 32 (previous.toNat + 1)
      let high ← fit_sub source_total_beats.toNat remaining
      clamp rounded low high

/-- The loop of `rebase_phrases`. Behind the phrase come `phrases`, and each of them needs a
beat. -/
def rebase_from (total_beats source_total_beats : UInt32) :
    UInt32 → List PhraseInstance → Result (List PhraseInstance)
  | _, [] => .ok []
  | previous, phrase :: phrases =>
    if 2 ^ 32 ≤ phrases.length then .err .TooManyPhrases
    else do
      let last ← if phrases.isEmpty then .ok source_total_beats.toNat
        else rebased_end total_beats source_total_beats previous phrase.end_beat phrases.length
      let rebased := (PhraseInstance.new phrase.index previous (UInt32.ofNat last)
        phrase.role_id).with_loop_strategy phrase.loop_strategy
      let rest ← rebase_from total_beats source_total_beats (UInt32.ofNat last) phrases
      .ok (rebased :: rest)

variable (current : LumiPhraseTimeline) (source_total_beats : UInt32)

def rebase_phrases : Result (List PhraseInstance) :=
  if source_total_beats = 0 ∨ source_total_beats < UInt32.ofNat current.phrases.length then
    .err .InsufficientBeats
  else rebase_from current.total_beats source_total_beats 0 current.phrases

/-- The phrases whose end a rebase has to round, as `ReconcilePreview::between` tells them. -/
def rebase_ambiguities : List UInt16 :=
  ((current.phrases.take (current.phrases.length - 1)).filter fun phrase =>
    phrase.end_beat.toNat * source_total_beats.toNat % current.total_beats.toNat ≠ 0).map (·.index)

/-- The indices of the conflicts of `ReconcilePreview::between`. -/
def conflicts (current source : List PhraseInstance) : List UInt16 :=
  ((List.range (max current.length source.length)).filter fun index =>
    current[index]? ≠ source[index]?).map fun index =>
      if index < 2 ^ 16 then UInt16.ofNat index else UInt16.ofNat (2 ^ 16 - 1)

def validate_coverage (total_beats : UInt32) : UInt32 → List PhraseInstance → Result Unit
  | previous, [] => if previous ≠ total_beats then .err .NonContiguousMerge else .ok ()
  | previous, phrase :: phrases =>
    if phrase.start_beat ≠ previous ∨ phrase.end_beat ≤ phrase.start_beat then
      .err .NonContiguousMerge
    else validate_coverage total_beats phrase.end_beat phrases

/-- The turn of `merge_phrases` at an index. -/
def merged_phrase (current source : List PhraseInstance) (choices : List PhraseConflictChoice)
    (index : Nat) : Result PhraseInstance := do
  let phrase_index ← u16_index index
  let side := ((choices.find? (·.phrase_index = phrase_index)).map (·.side)).getD .Lumi
  Outcome.ok_or (match side with
    | .Lumi => current[index]?
    | .Source => source[index]?) .MissingMergePhrase

def merge_phrases (source : List PhraseInstance) (choices : List PhraseConflictChoice)
    (source_total_beats : UInt32) :
    Result (List PhraseInstance) := do
  let expected := conflicts current.phrases source
  let selected := choices.map (·.phrase_index)
  if ¬ selected.Nodup ∨ ¬ (selected ⊆ expected ∧ expected ⊆ selected) then
    .err .IncompleteConflictChoices
  else
    let merged ← Outcome.collect (merged_phrase current.phrases source choices)
      (List.range (max current.phrases.length source.length))
    validate_coverage source_total_beats 0 merged
    .ok merged

def reindex : Nat → List PhraseInstance → Result (List PhraseInstance)
  | _, [] => .ok []
  | index, phrase :: phrases => do
    let new_index ← u16_index index
    let rest ← reindex (index + 1) phrases
    .ok ((PhraseInstance.new new_index phrase.start_beat phrase.end_beat
      phrase.role_id).with_loop_strategy phrase.loop_strategy :: rest)

def strategy_phrases (source_phrases : List PhraseInstance) :
    ReconcileStrategy → Result (List PhraseInstance)
  | .KeepLumi =>
    if current.total_beats ≠ source_total_beats then .err .KeepLumiDurationChanged
    else .ok current.phrases
  | .Rebase => rebase_phrases current source_total_beats
  | .Merge choices => merge_phrases current source_phrases choices source_total_beats
  | .ReplaceWithSource => .ok source_phrases

end reconciliation

open reconciliation

def reconcile_timeline (current : LumiPhraseTimeline) (new_baseline_revision : SourceRevision)
    (source_total_beats : UInt32) (source_phrases : List PhraseInstance)
    (strategy : ReconcileStrategy) : reconciliation.Result LumiPhraseTimeline := do
  let next_revision ← Outcome.ok_or current.revision.checked_next .RevisionOverflow
  let phrases ← strategy_phrases current source_total_beats source_phrases strategy
  let phrases ← reconciliation.reindex 0 phrases
  Outcome.lift .InvalidTimeline (LumiPhraseTimeline.try_new_with_history current.track_id
    next_revision new_baseline_revision source_total_beats .SourceReconcile .SourceReconcile
    (some current.revision) none phrases)

theorem reconcile_timeline_ok {current t : LumiPhraseTimeline}
    {new_baseline_revision : SourceRevision} {source_total_beats : UInt32}
    {source_phrases : List PhraseInstance} {strategy : ReconcileStrategy}
    (h : reconcile_timeline current new_baseline_revision source_total_beats source_phrases
      strategy = .ok t) : t.track_id = current.track_id ∧ t.reason = .SourceReconcile := by
  obtain ⟨_, _, h⟩ := Outcome.bind_eq_ok.mp h
  obtain ⟨_, _, h⟩ := Outcome.bind_eq_ok.mp h
  obtain ⟨_, _, h⟩ := Outcome.bind_eq_ok.mp h
  obtain ⟨_, rfl⟩ := try_new_with_history_eq_ok (Outcome.lift_eq_ok.mp h)
  exact ⟨rfl, rfl⟩

end lumi_library

namespace lumi_library_sqlite

open lumi_library

/-! ## A new analysis -/

/-- A row of `phrase_points`. -/
structure PhrasePoint where
  beat : Nat
  role_id : PhraseRoleId
  loop_strategy : PhraseLoopStrategy
deriving DecidableEq

/-- A phrase of the analysis: its beats and its label. -/
structure RawPhrase where
  start_beat : Nat
  end_beat : Nat
  source_label : String
deriving DecidableEq

def points (timeline : LumiPhraseTimeline) : List PhrasePoint :=
  timeline.phrases.map fun phrase => ⟨phrase.start_beat.toNat, phrase.role_id, phrase.loop_strategy⟩

/-- The old analysis began with a partial bar of one beat, and the new one does not. -/
def legacy_partial_bar_phrase_projection (old new : List RawPhrase) : Bool :=
  match old with
  | first :: second :: rest =>
    old.length = new.length + 1 && first.start_beat = 0 && first.end_beat = 1 &&
      first.source_label = second.source_label &&
      ((second :: rest).zip new).all fun pair =>
        pair.1.start_beat = pair.2.start_beat + 1 && pair.1.source_label = pair.2.source_label
  | _ => false

def repair_legacy_partial_bar_timeline_points (old new : List RawPhrase)
    (points : List PhrasePoint) : List PhrasePoint :=
  if legacy_partial_bar_phrase_projection old new then
    let source_start_mapping : BTreeMap Nat Nat := ((old.drop 1).zip new).foldl
      (fun map pair => map.insert pair.1.start_beat pair.2.start_beat) ∅
    let repaired : BTreeMap Nat PhrasePoint := points.foldl (fun map point =>
      let mapped := source_start_mapping[point.beat]?.getD point.beat
      map.insert mapped { point with beat := mapped }) ∅
    repaired.toList.map (·.2)
  else points

/-- The phrases between the points, up to the end of the grid. -/
def phrases_between (total_beats : Nat) : Nat → List PhrasePoint → List PhraseInstance
  | _, [] => []
  | index, point :: points =>
    (PhraseInstance.new (UInt16.ofNat index) (UInt32.ofNat point.beat)
      (UInt32.ofNat ((points.head?.map (·.beat)).getD total_beats))
      point.role_id).with_loop_strategy point.loop_strategy ::
        phrases_between total_beats (index + 1) points

inductive RefreshError where
  | CorruptData
  | ArithmeticOverflow
  | InvalidTimeline (error : TimelineValidationError)
deriving DecidableEq

/-- The timeline that a new analysis appends to the head, if the head does not rest on this
analysis yet. -/
def timeline_for_analysis_refresh (head : LumiPhraseTimeline) (analysis_revision : SourceRevision)
    (total_beats : UInt32) (old_raw_phrases new_raw_phrases : List RawPhrase) :
    Outcome RefreshError (Option LumiPhraseTimeline) :=
  if head.baseline_revision = analysis_revision then .ok none
  else
    let kept := (repair_legacy_partial_bar_timeline_points old_raw_phrases new_raw_phrases
      (points head)).filter (·.beat < total_beats.toNat)
    if kept.head?.map (·.beat) ≠ some 0 then .err .CorruptData
    else do
      let revision ← Outcome.ok_or head.revision.checked_next .ArithmeticOverflow
      if 2 ^ 16 < kept.length then .err .ArithmeticOverflow
      else
        let timeline ← Outcome.lift .InvalidTimeline (LumiPhraseTimeline.try_new_with_history
          head.track_id revision analysis_revision total_beats .SourceReconcile .SourceReconcile
          (some head.revision) none (phrases_between total_beats.toNat 0 kept))
        .ok (some timeline)

theorem timeline_for_analysis_refresh_ok {head t : LumiPhraseTimeline}
    {analysis_revision : SourceRevision} {total_beats : UInt32}
    {old_raw_phrases new_raw_phrases : List RawPhrase}
    (h : timeline_for_analysis_refresh head analysis_revision total_beats old_raw_phrases
      new_raw_phrases = .ok (some t)) :
    t.track_id = head.track_id ∧ t.reason = .SourceReconcile := by
  unfold timeline_for_analysis_refresh at h
  split at h
  · cases h
  dsimp only at h
  split at h
  · cases h
  obtain ⟨_, _, h⟩ := Outcome.bind_eq_ok.mp h
  split at h
  · cases h
  obtain ⟨_, htimeline, h⟩ := Outcome.bind_eq_ok.mp h
  cases h
  obtain ⟨_, rfl⟩ := try_new_with_history_eq_ok (Outcome.lift_eq_ok.mp htimeline)
  exact ⟨rfl, rfl⟩

end lumi_library_sqlite
