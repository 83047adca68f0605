-- The library worker as far as a live plan reaches it: it prepares the change
-- of a phrase's role and appends the edited timeline in one transaction.
import Lumi.Library.Reconciliation
import Lumi.Engine.Context

open rust lumi_domain lumi_library lumi_light_plans
open Outcome (bind_eq_ok)

namespace lumi_engine

/-! ## The repository -/

structure PhraseRole where
  id : PhraseRoleId
  display_name : String
  archived : Bool
deriving DecidableEq

structure StoredTrack where
  title : String
  artist : String
  bpm_milli : UInt32
  musical_key : MusicalKey
  color : Option TrackColor
  source_track_id : String
  source_revision : String
deriving DecidableEq

/-- For a policy that fails its check, the error of the check stands in the place of the text
that the source makes of it. -/
inductive SqliteLibraryError where
  | Database (error : String)
  | CorruptData (error : LightPlanError)
  | InvalidIdentifier (error : TextIdentifierError)
  | InvalidTimeline (error : TimelineValidationError)
  | ArithmeticOverflow
  | RevisionConflict (expected actual : Option TimelineRevision)
  | InvalidNextRevision (required received : TimelineRevision)
deriving DecidableEq

/-- The errors of the functions that are modelled here. -/
inductive LibraryWorkerError where
  | Persistence (error : SqliteLibraryError)
  | CreativeTimelineSourceUnavailable
  | CreativeTimelineIncompatible (source_beats target_beats : UInt32)
  | AutoloopCatalog (error : AutoloopCatalogError)
  | Identifier (error : TextIdentifierError)
  | TimelineEdit (error : TimelineEditError)
  | TimelineValidation (error : TimelineValidationError)
  | SimulatorTrackValidation (error : TrackValidationError)
  | UnknownTrack (track_id : UInt64)
  | EditorTrackMismatch
  | MissingTimeline
  | TrackPhrasesProtected
  | UnknownPhraseRole
  | ArchivedPhraseRole
  | AutoloopCatalogRevisionConflict (expected actual : UInt64)
  | InvalidTimelineRevision (revision : UInt64)
  | UnknownTimelineRevision (revision : UInt64)
  | TimelineRevisionConflict (expected actual : TimelineRevision)
  | NothingToUndo
  | NothingToRedo
  | CorruptHistory
  | HistoryOverflow
  | Reconcile (error : ReconcileError)
deriving DecidableEq

/-- The worker with the tables of its database: every revision of a timeline is kept, the head
in front. -/
structure LibraryWorker where
  source_kind : String
  source_id : String
  tracks : BTreeMap TrackId StoredTrack
  timelines : BTreeMap TrackId (List LumiPhraseTimeline)
  phrase_protections : BTreeMap TrackId Bool
  editor_track_id : Option TrackId := none
  phrase_roles : List PhraseRole
  autoloop_catalog : AutoloopCatalog

/-- What the database answers to the calls of one command, by their number: nothing, or the text
of an error. SQLite is trusted with this: a transaction that reports an error has changed no
table. -/
abbrev DatabaseAnswers := Nat → Option String

namespace LibraryWorker

abbrev Result (α : Type) := Outcome LibraryWorkerError α

/-- One call of the database. -/
def query (answers : DatabaseAnswers) (call : Nat) : Result Unit :=
  match answers call with
  | none => .ok ()
  | some error => .err (.Persistence (.Database error))

/-- A number that goes into a column. -/
def to_i64 (value : UInt64) : Result Unit :=
  if value.toNat < 2 ^ 63 then .ok () else .err (.Persistence .ArithmeticOverflow)

variable (self : LibraryWorker)

def timeline_head (track_id : TrackId) : Option LumiPhraseTimeline :=
  self.timelines[track_id]?.bind List.head?

def require_phrases_unlocked (answers : DatabaseAnswers) (call : Nat) (track_id : TrackId) :
    Result Unit := do
  to_i64 track_id.value
  query answers call
  if self.phrase_protections[track_id]?.getD false then .err .TrackPhrasesProtected else .ok ()

def require_active_role (answers : DatabaseAnswers) (call : Nat) (role_id : PhraseRoleId) :
    Result Unit := do
  query answers call
  let role ← Outcome.ok_or (self.phrase_roles.find? (·.id = role_id)) .UnknownPhraseRole
  if role.archived then .err .ArchivedPhraseRole else .ok ()

def require_expected_head (answers : DatabaseAnswers) (call : Nat) (track_id : TrackId)
    (expected_revision : UInt64) : Result LumiPhraseTimeline := do
  let expected ← Outcome.ok_or (TimelineRevision.try_new expected_revision).toOption
    (.InvalidTimelineRevision expected_revision)
  to_i64 track_id.value
  query answers call
  let head ← Outcome.ok_or (self.timeline_head track_id) .MissingTimeline
  if head.revision ≠ expected then .err (.TimelineRevisionConflict expected head.revision)
  else .ok head

/-! ## Tracks for playback -/

def planner_phrase_kind (phrase : PhraseInstance) (phrase_count : Nat) : PhraseKind :=
  match phrase.role_id.value with
  | "intro-outro" => if phrase.index.toNat + 1 = phrase_count then .Outro else .Intro
  | "bridge" => .Verse
  | "breakdown-1" | "breakdown-2" | "breakdown-3" => .Breakdown
  | "synth" | "pre-drop" | "buildup-1" | "buildup-2" | "buildup-3" => .Build
  | "drop" => .Drop
  | _ => .Verse

def role_display_name (roles : List PhraseRole) (id : PhraseRoleId) : String :=
  ((roles.find? (·.id = id)).map (·.display_name)).getD id.value

def playback_metadata (timeline : LumiPhraseTimeline) (track : StoredTrack) :
    Except TrackValidationError TrackMetadata := do
  let phrases := timeline.phrases.map fun phrase : PhraseInstance =>
    ({ index := phrase.index
       start_beat := phrase.start_beat
       end_beat := phrase.end_beat
       kind := planner_phrase_kind phrase timeline.phrases.length } : TrackPhrase)
  let identity ← TrackIdentityFacts.try_new self.source_kind self.source_id track.source_track_id
    track.source_revision timeline.revision.value
  let metadata ← TrackMetadata.try_new_with_color timeline.track_id track.title track.artist
    track.bpm_milli track.musical_key track.color timeline.total_beats phrases
  return metadata.with_identity_facts identity

def playback_phrase (phrase : PhraseInstance) : LibraryPhrasePlanContext where
  phrase_index := phrase.index
  start_beat := phrase.start_beat
  end_beat := phrase.end_beat
  role_id := phrase.role_id
  role_name := role_display_name self.phrase_roles phrase.role_id
  strategy := phrase.loop_strategy

def playback_context (timeline : LumiPhraseTimeline) (track : StoredTrack) :
    LibraryPlanContext where
  timeline_revision := timeline.revision.value
  track_color := track.color
  catalog := self.autoloop_catalog
  phrases := timeline.phrases.map self.playback_phrase
  autoloop_overrides := ∅
  indexed := tiling.indexed_map.mpr timeline.wellFormed.numbered

/-- The metadata and the context of a timeline. The database is asked for the track, the roles,
the catalog and, twice, for the audio. -/
def playback_track_for_timeline (answers : DatabaseAnswers) (call : Nat)
    (timeline : LumiPhraseTimeline) : Result (TrackMetadata × LibraryPlanContext) := do
  to_i64 timeline.track_id.value
  query answers call
  let track ← Outcome.ok_or self.tracks[timeline.track_id]?
    (.UnknownTrack timeline.track_id.value)
  query answers (call + 1)
  query answers (call + 2)
  let metadata ← Outcome.lift .SimulatorTrackValidation (self.playback_metadata timeline track)
  query answers (call + 3)
  query answers (call + 4)
  .ok (metadata, self.playback_context timeline track)

/-! ## Live edits of a role -/

structure PreparedLivePhraseEdit where
  timeline : LumiPhraseTimeline
  expected_revision : TimelineRevision
  role_id : PhraseRoleId
deriving DecidableEq

def prepare_live_phrase_role (answers : DatabaseAnswers) (track_id expected_revision : UInt64)
    (phrase_index : UInt16) (role_id : PhraseRoleId) :
    Result (PreparedLivePhraseEdit × LibraryPlanContext) := do
  self.require_phrases_unlocked answers 0 ⟨track_id⟩
  self.require_active_role answers 1 role_id
  let head ← self.require_expected_head answers 2 ⟨track_id⟩ expected_revision
  let edited ← (head.edit (.ChangeRole phrase_index role_id)).map_err .TimelineEdit
  let (_, context) ← self.playback_track_for_timeline answers 3 edited
  .ok (⟨edited, head.revision, role_id⟩, context)

/-- The revision that may follow the head. -/
def required_revision (actual_head : Option TimelineRevision) : Result TimelineRevision :=
  match actual_head with
  | none => .ok TimelineRevision.initial
  | some revision => Outcome.ok_or revision.checked_next (.Persistence .ArithmeticOverflow)

/-- One transaction: the checks, the rows of the revision and its phrases, and the new head. -/
def append_timeline_revision (answers : DatabaseAnswers) (call : Nat)
    (timeline : LumiPhraseTimeline) (expected_head : Option TimelineRevision) :
    Result LibraryWorker := do
  to_i64 timeline.track_id.value
  let actual_head := (self.timeline_head timeline.track_id).map (·.revision)
  if actual_head ≠ expected_head then
    .err (.Persistence (.RevisionConflict expected_head actual_head))
  else
    let required ← required_revision actual_head
    if timeline.revision ≠ required then
      .err (.Persistence (.InvalidNextRevision required timeline.revision))
    else
      to_i64 timeline.revision.value
      query answers call
      .ok { self with
        timelines := self.timelines.insert timeline.track_id
          (timeline :: self.timelines[timeline.track_id]?.getD []) }

def commit_live_phrase_role (answers : DatabaseAnswers) (prepared : PreparedLivePhraseEdit) :
    Result LibraryWorker := do
  self.require_phrases_unlocked answers 8 prepared.timeline.track_id
  self.require_active_role answers 9 prepared.role_id
  self.append_timeline_revision answers 10 prepared.timeline (some prepared.expected_revision)

/-! ## What the calls give -/

section specs

variable {self library : LibraryWorker} {answers : DatabaseAnswers} {call : Nat}
  {prepared : PreparedLivePhraseEdit} {expected_revision : UInt64}

theorem require_expected_head_ok {track_id : TrackId} {head : LumiPhraseTimeline}
    (h : self.require_expected_head answers call track_id expected_revision = .ok head) :
    self.timeline_head track_id = some head := by
  obtain ⟨_, _, h⟩ := bind_eq_ok.mp h
  obtain ⟨_, _, h⟩ := bind_eq_ok.mp h
  obtain ⟨_, _, h⟩ := bind_eq_ok.mp h
  obtain ⟨_, hhead, h⟩ := bind_eq_ok.mp h
  split at h
  · cases h
  cases h
  exact Outcome.ok_or_eq_ok.mp hhead

/-- The worker with a timeline in front of those of its track. -/
def appended (self : LibraryWorker) (timeline : LumiPhraseTimeline) : LibraryWorker :=
  { self with
    timelines := self.timelines.insert timeline.track_id
      (timeline :: self.timelines[timeline.track_id]?.getD []) }

theorem append_timeline_revision_ok {timeline : LumiPhraseTimeline}
    {expected : Option TimelineRevision}
    (h : self.append_timeline_revision answers call timeline expected = .ok library) :
    library = self.appended timeline ∧
      required_revision ((self.timeline_head timeline.track_id).map (·.revision)) =
        .ok timeline.revision := by
  obtain ⟨_, _, h⟩ := bind_eq_ok.mp h
  dsimp only at h
  split at h
  · cases h
  obtain ⟨required, hrequired, h⟩ := bind_eq_ok.mp h
  split at h
  · cases h
  rename_i hrevision
  obtain ⟨_, _, h⟩ := bind_eq_ok.mp h
  obtain ⟨_, _, h⟩ := bind_eq_ok.mp h
  cases h
  rw [ne_eq, not_not] at hrevision
  exact ⟨rfl, hrevision ▸ hrequired⟩

theorem commit_live_phrase_role_ok
    (h : self.commit_live_phrase_role answers prepared = .ok library) :
    library = self.appended prepared.timeline := by
  obtain ⟨_, _, h⟩ := bind_eq_ok.mp h
  obtain ⟨_, _, h⟩ := bind_eq_ok.mp h
  exact (append_timeline_revision_ok h).1

/-- The edit that is prepared is the change of the role in the newest timeline of the track. -/
theorem prepare_live_phrase_role_ok {track_id : UInt64} {phrase_index : UInt16}
    {role_id : PhraseRoleId} {context : LibraryPlanContext}
    (h : self.prepare_live_phrase_role answers track_id expected_revision phrase_index role_id =
      .ok (prepared, context)) :
    ∃ head, self.timeline_head ⟨track_id⟩ = some head ∧
      head.edit (.ChangeRole phrase_index role_id) = .ok prepared.timeline := by
  obtain ⟨_, _, h⟩ := bind_eq_ok.mp h
  obtain ⟨_, _, h⟩ := bind_eq_ok.mp h
  obtain ⟨head, hhead, h⟩ := bind_eq_ok.mp h
  obtain ⟨edited, hedited, h⟩ := bind_eq_ok.mp h
  obtain ⟨⟨_, context'⟩, _, h⟩ := bind_eq_ok.mp h
  cases h
  exact ⟨head, require_expected_head_ok hhead, Outcome.map_err_eq_ok.mp hedited⟩

end specs

end LibraryWorker

end lumi_engine
