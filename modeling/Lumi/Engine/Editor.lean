-- The timelines of the library worker and all that writes them: the editor,
-- live role changes, undo and redo, copies from another track or an archive,
-- and the source. The stacks of undo and redo are read back from the rows.
import Lumi.Undo
import Lumi.Engine.Library

open rust lumi_domain lumi_library lumi_library_sqlite

namespace lumi_engine

/-! ## The history of a timeline -/

/-- A row of `timeline_revisions` without the phrases. -/
structure TimelineRevisionSummary where
  revision : TimelineRevision
  baseline_revision : SourceRevision
  total_beats : UInt32
  origin : TimelineRevisionOrigin
  reason : TimelineRevisionReason
  parent_revision : Option TimelineRevision
  restored_from : Option TimelineRevision
  phrase_count : Nat
deriving DecidableEq

def summary (timeline : LumiPhraseTimeline) : TimelineRevisionSummary where
  revision := timeline.revision
  baseline_revision := timeline.baseline_revision
  total_beats := timeline.total_beats
  origin := timeline.origin
  reason := timeline.reason
  parent_revision := timeline.parent_revision
  restored_from := timeline.restored_from
  phrase_count := timeline.phrases.length

inductive HistoryAction where
  | Undo
  | Redo
deriving DecidableEq

/-- The tops of the stacks are in front. -/
structure TimelineHistory where
  undo : List TimelineRevision
  redo : List TimelineRevision
deriving DecidableEq

namespace TimelineHistory

/-- The variables of the loop of `replay`. -/
structure Replay where
  current : Option TimelineRevision
  undo : List TimelineRevision
  redo : List TimelineRevision
deriving DecidableEq

namespace Replay

def start : Replay := ⟨none, [], []⟩

def push_undo (r : Replay) : List TimelineRevision :=
  match r.current with
  | some previous => previous :: r.undo
  | none => r.undo

def turn (r : Replay) (summary : TimelineRevisionSummary) : LibraryWorker.Result Replay :=
  match summary.reason with
  | .InitialSourceMapping => .ok { r with current := some summary.revision }
  | .Undo => do
    let target ← Outcome.ok_or summary.restored_from .CorruptHistory
    let previous ← Outcome.ok_or r.current .CorruptHistory
    if r.undo.head? ≠ some target then .err .CorruptHistory
    else .ok ⟨some target, r.undo.tail, previous :: r.redo⟩
  | .Redo => do
    let target ← Outcome.ok_or summary.restored_from .CorruptHistory
    let previous ← Outcome.ok_or r.current .CorruptHistory
    if r.redo.head? ≠ some target then .err .CorruptHistory
    else .ok ⟨some target, previous :: r.undo, r.redo.tail⟩
  | .RestoreRevision => .ok ⟨summary.restored_from, r.push_undo, []⟩
  | _ => .ok ⟨some summary.revision, r.push_undo, []⟩

end Replay

/-- The loop over the summaries, the oldest first. -/
def replay_loop : Replay → List TimelineRevisionSummary → LibraryWorker.Result Replay
  | r, [] => .ok r
  | r, summary :: summaries => r.turn summary >>= fun r => replay_loop r summaries

def replay (summaries : List TimelineRevisionSummary) : LibraryWorker.Result TimelineHistory := do
  let r ← replay_loop .start summaries
  if r.current.isNone then .err .CorruptHistory else .ok ⟨r.undo, r.redo⟩

end TimelineHistory

namespace LibraryWorker

/-- A track's timeline in the archive of creative work. -/
structure CreativeArchive where
  total_beats : UInt32
  phrases : List PhraseInstance
deriving DecidableEq

variable (self : LibraryWorker)

def require_open_track (track_id : TrackId) : Result Unit :=
  if self.editor_track_id ≠ some track_id then .err .EditorTrackMismatch else .ok ()

/-- The rows of a track, the head in front. -/
def revisions (track_id : TrackId) : List LumiPhraseTimeline := self.timelines[track_id]?.getD []

variable (answers : DatabaseAnswers)

def timeline_revision (call : Nat) (track_id : TrackId) (revision : TimelineRevision) :
    Result LumiPhraseTimeline := do
  query answers call
  Outcome.ok_or ((self.revisions track_id).find? (·.revision = revision))
    (.UnknownTimelineRevision revision.value)

/-- The loop of `rebuild_history` over pages of 200 rows. After a page with rows comes another
turn, so one turn for each row, and one, are enough. -/
def read_pages (answers : DatabaseAnswers) (rows : List LumiPhraseTimeline) :
    Nat → Nat → UInt32 → Result (List LumiPhraseTimeline)
  | 0, _, _ => .ok []
  | turns + 1, call, offset => do
    query answers call
    let page := (rows.drop offset.toNat).take 200
    if 2 ^ 32 ≤ offset.toNat + page.length then .err .HistoryOverflow
    else
      let next := offset + UInt32.ofNat page.length
      if rows.length ≤ next.toNat ∨ page.length = 0 then .ok page
      else do
        let rest ← read_pages answers rows turns (call + 1) next
        .ok (page ++ rest)

def rebuild_history (call : Nat) (track_id : TrackId) : Result TimelineHistory := do
  to_i64 track_id.value
  let rows := self.revisions track_id
  let summaries ← read_pages answers rows (rows.length + 1) call 0
  TimelineHistory.replay (summaries.reverse.map summary)

/-! ## The editor -/

/-- `command.assigned_role_id()`. -/
def assigned_role_id : TimelineEditCommand → Option PhraseRoleId
  | .Create _ _ role_id => some role_id
  | .ChangeRole _ role_id => some role_id
  | _ => none

def require_assigned_role (call : Nat) (command : TimelineEditCommand) : Result Unit :=
  match assigned_role_id command with
  | some role_id => self.require_active_role answers call role_id
  | none => .ok ()

variable (track_id expected_revision : UInt64)

def edit_timeline (command : TimelineEditCommand) : Result LibraryWorker := do
  self.require_open_track ⟨track_id⟩
  self.require_phrases_unlocked answers 0 ⟨track_id⟩
  self.require_assigned_role answers 1 command
  let head ← self.require_expected_head answers 2 ⟨track_id⟩ expected_revision
  let edited ← (head.edit command).map_err .TimelineEdit
  self.append_timeline_revision answers 3 edited (some head.revision)

/-- The two halves of a live change of a role, one after the other. -/
def change_live_phrase_role (phrase_index : UInt16) (role_id : PhraseRoleId) :
    Result LibraryWorker := do
  let (prepared, _) ← self.prepare_live_phrase_role answers track_id expected_revision
    phrase_index role_id
  self.commit_live_phrase_role answers prepared

def set_phrase_loop_strategy
    (track_id expected_timeline_revision expected_catalog_revision : UInt64)
    (phrase_index : UInt16) (strategy : PhraseLoopStrategy) : Result LibraryWorker := do
  self.require_open_track ⟨track_id⟩
  self.require_phrases_unlocked answers 0 ⟨track_id⟩
  let head ← self.require_expected_head answers 1 ⟨track_id⟩ expected_timeline_revision
  let phrase ← Outcome.ok_or head.phrases[phrase_index.toNat]? (.TimelineEdit .UnknownPhrase)
  query answers 2
  if self.autoloop_catalog.revision ≠ expected_catalog_revision then
    .err (.AutoloopCatalogRevisionConflict expected_catalog_revision
      self.autoloop_catalog.revision)
  else
    Outcome.lift .AutoloopCatalog
      (self.autoloop_catalog.validate_loop_strategy phrase.role_id strategy)
    let edited ← (head.edit (.SetLoopStrategy phrase_index strategy)).map_err .TimelineEdit
    self.append_timeline_revision answers 3 edited (some head.revision)

def history_reason : HistoryAction → TimelineRevisionReason
  | .Undo => .Undo
  | .Redo => .Redo

def history_target (history : TimelineHistory) : HistoryAction → Result TimelineRevision
  | .Undo => Outcome.ok_or history.undo.head? .NothingToUndo
  | .Redo => Outcome.ok_or history.redo.head? .NothingToRedo

/-- The pages of the history are read after the other calls of the database have their
numbers. -/
def restore_from_history (action : HistoryAction) : Result LibraryWorker := do
  self.require_open_track ⟨track_id⟩
  self.require_phrases_unlocked answers 0 ⟨track_id⟩
  let head ← self.require_expected_head answers 1 ⟨track_id⟩ expected_revision
  let history ← self.rebuild_history answers 4 ⟨track_id⟩
  let target_revision ← history_target history action
  let target ← self.timeline_revision answers 2 ⟨track_id⟩ target_revision
  let restored ← (LumiPhraseTimeline.restore head target (history_reason action)).map_err
    .TimelineEdit
  self.append_timeline_revision answers 3 restored (some head.revision)

def undo_timeline : Result LibraryWorker :=
  self.restore_from_history answers track_id expected_revision .Undo

def redo_timeline : Result LibraryWorker :=
  self.restore_from_history answers track_id expected_revision .Redo

def restore_timeline_revision (track_id expected_revision target_revision : UInt64) :
    Result LibraryWorker := do
  self.require_open_track ⟨track_id⟩
  self.require_phrases_unlocked answers 0 ⟨track_id⟩
  let head ← self.require_expected_head answers 1 ⟨track_id⟩ expected_revision
  let target_revision ← Outcome.ok_or (TimelineRevision.try_new target_revision).toOption
    (.InvalidTimelineRevision target_revision)
  let target ← self.timeline_revision answers 2 ⟨track_id⟩ target_revision
  let restored ← (LumiPhraseTimeline.restore head target .RestoreRevision).map_err .TimelineEdit
  self.append_timeline_revision answers 3 restored (some head.revision)

/-! ## Copies -/

/-- The tracks that `creative_timeline_candidates` offers are an argument. The last call of the
database writes the review of the two tracks, and its error comes with the worker, whose new
revision stays. -/
def reuse_creative_timeline (candidates : List TrackId)
    (source_track_id target_track_id expected_target_revision : UInt64) :
    Result (LibraryWorker × Result Unit) := do
  self.require_open_track ⟨target_track_id⟩
  self.require_phrases_unlocked answers 0 ⟨target_track_id⟩
  let target ← self.require_expected_head answers 1 ⟨target_track_id⟩ expected_target_revision
  to_i64 source_track_id
  query answers 2
  let source ← Outcome.ok_or (self.timeline_head ⟨source_track_id⟩)
    .CreativeTimelineSourceUnavailable
  query answers 3
  if ⟨source_track_id⟩ ∉ candidates then .err .CreativeTimelineSourceUnavailable
  else if source.total_beats ≠ target.total_beats then
    .err (.CreativeTimelineIncompatible source.total_beats target.total_beats)
  else
    let revision ← Outcome.ok_or target.revision.checked_next .HistoryOverflow
    let copied ← Outcome.lift .TimelineValidation (LumiPhraseTimeline.try_new_with_history
      ⟨target_track_id⟩ revision target.baseline_revision target.total_beats .RevisionRestore
      .RestoreRevision (some target.revision) none (LumiPhraseTimeline.renumber 0 source.phrases))
    let worker ← self.append_timeline_revision answers 4 copied (some target.revision)
    .ok (worker, query answers 5)

/-- The tracks that match the archive are an argument. The row is written as it is and checked
when it is read. -/
def relink_creative_archive (candidates : List TrackId) (archive : CreativeArchive) :
    Result LibraryWorker := do
  query answers 0
  match candidates with
  | [track_id] =>
    query answers 1
    let head ← Outcome.ok_or (self.timeline_head track_id)
      (.Persistence (.Database "Query returned no rows"))
    if head.total_beats ≠ archive.total_beats then .ok self
    else
      let track ← Outcome.ok_or self.tracks[track_id]?
        (.Persistence (.Database "Query returned no rows"))
      let baseline_revision ← Outcome.lift (.Persistence ∘ .InvalidIdentifier)
        (TextIdentifier.try_new "source revision" track.source_revision)
      let next_revision ← required_revision (some head.revision)
      let copied ← Outcome.lift (.Persistence ∘ .InvalidTimeline)
        (LumiPhraseTimeline.try_new_with_history track_id next_revision baseline_revision
          archive.total_beats .RevisionRestore .RestoreRevision (some head.revision) none
          archive.phrases)
      self.append_timeline_revision answers 2 copied (some head.revision)
  | _ => .ok self

/-! ## The source -/

/-- What `map_source_phrases_from_parts` makes of an analysis. -/
structure MappedSource where
  revision : SourceRevision
  total_beats : UInt32
  phrases : List PhraseInstance
deriving DecidableEq

def ensure_timeline (track_id : TrackId) (mapped : MappedSource) : Result LibraryWorker := do
  to_i64 track_id.value
  query answers 0
  if (self.timeline_head track_id).isSome then .ok self
  else
    let timeline ← Outcome.lift .TimelineValidation (LumiPhraseTimeline.try_new_with_history
      track_id .initial mapped.revision mapped.total_beats .SourceImport .InitialSourceMapping none
      none mapped.phrases)
    self.append_timeline_revision answers 1 timeline none

/-- The turn of `remap_untouched_source_timelines` for a track. -/
def remap_untouched_source_timeline (track_id : TrackId) (mapped : MappedSource) :
    Result LibraryWorker := do
  query answers 0
  match self.timeline_head track_id with
  | none => .ok self
  | some head =>
    if head.revision ≠ .initial ∨ head.origin ≠ .SourceImport ∨
        head.reason ≠ .InitialSourceMapping then .ok self
    else if head.phrases = mapped.phrases then .ok self
    else
      let revision ← Outcome.ok_or head.revision.checked_next .HistoryOverflow
      let remapped ← Outcome.lift .TimelineValidation (LumiPhraseTimeline.try_new_with_history
        track_id revision head.baseline_revision mapped.total_beats .SourceReconcile
        .SourceReconcile (some head.revision) none mapped.phrases)
      self.append_timeline_revision answers 1 remapped (some head.revision)

/-- A change of the source that is more than metadata. The calls of the database after the append
complete the refresh, and their error comes with the worker. -/
def reconcile_source_refresh (incoming : MappedSource) (strategy : ReconcileStrategy) :
    Result (LibraryWorker × Result Unit) := do
  self.require_open_track ⟨track_id⟩
  self.require_phrases_unlocked answers 0 ⟨track_id⟩
  let head ← self.require_expected_head answers 1 ⟨track_id⟩ expected_revision
  query answers 2
  let reconciled ← (reconcile_timeline head incoming.revision incoming.total_beats
    incoming.phrases strategy).map_err .Reconcile
  let worker ← self.append_timeline_revision answers 3 reconciled (some head.revision)
  .ok (worker, query answers 4)

/-- A device brings a new analysis of the track. -/
def refresh_analysis (track_id : TrackId) (analysis_revision : SourceRevision)
    (total_beats : UInt32)
    (old_raw_phrases new_raw_phrases : List RawPhrase) : Result LibraryWorker := do
  query answers 0
  match self.timeline_head track_id with
  | none => .ok self
  | some head =>
    let refreshed ← (timeline_for_analysis_refresh head analysis_revision total_beats
      old_raw_phrases new_raw_phrases).map_err fun
        | .CorruptData => .Persistence (.Database "analysis refresh lost the first phrase boundary")
        | .ArithmeticOverflow => .Persistence .ArithmeticOverflow
        | .InvalidTimeline error => .Persistence (.InvalidTimeline error)
    match refreshed with
    | none => .ok self
    | some timeline => self.append_timeline_revision answers 1 timeline (some head.revision)

end LibraryWorker

end lumi_engine
