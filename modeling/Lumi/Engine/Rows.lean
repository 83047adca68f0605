-- The rows that a track can acquire, whoever writes them, and beside them the
-- two stacks of contents that an editor would keep. The replay of the rows
-- names these contents as long as no row is a copy.
import Lumi.Replay
import Lumi.Engine.Editor

open rust replay undo_redo lumi_domain lumi_library lumi_library_sqlite
open List (length_cons map_cons tail_cons)

namespace lumi_engine

/-! ## Every writer of a timeline -/

/-- What a client or a source does to the timeline of a track. -/
inductive TimelineOperation where
  | Open
  | Protect (locked : Bool)
  | EnsureTimeline (mapped : LibraryWorker.MappedSource)
  | Edit (expected_revision : UInt64) (command : TimelineEditCommand)
  | LivePhraseRole (expected_revision : UInt64) (phrase_index : UInt16) (role_id : PhraseRoleId)
  | LoopStrategy (expected_timeline_revision expected_catalog_revision : UInt64)
      (phrase_index : UInt16) (strategy : PhraseLoopStrategy)
  | History (action : HistoryAction) (expected_revision : UInt64)
  | RestoreRevision (expected_revision target_revision : UInt64)
  | Reuse (candidates : List TrackId) (source_track_id expected_revision : UInt64)
  | Relink (archive : LibraryWorker.CreativeArchive)
  | Remap (mapped : LibraryWorker.MappedSource)
  | Reconcile (expected_revision : UInt64) (incoming : LibraryWorker.MappedSource)
      (strategy : ReconcileStrategy)
  | RefreshAnalysis (analysis_revision : SourceRevision) (total_beats : UInt32)
      (old_raw_phrases new_raw_phrases : List RawPhrase)

namespace TimelineOperation

def apply (answers : DatabaseAnswers) (track_id : TrackId) (worker : LibraryWorker) :
    TimelineOperation → LibraryWorker.Result LibraryWorker
  | .Open => .ok { worker with editor_track_id := some track_id }
  | .Protect locked => .ok { worker with
      phrase_protections := worker.phrase_protections.insert track_id locked }
  | .EnsureTimeline mapped => worker.ensure_timeline answers track_id mapped
  | .Edit expected_revision command =>
    worker.edit_timeline answers track_id.value expected_revision command
  | .LivePhraseRole expected_revision phrase_index role_id =>
    worker.change_live_phrase_role answers track_id.value expected_revision phrase_index role_id
  | .LoopStrategy expected_timeline_revision expected_catalog_revision phrase_index strategy =>
    worker.set_phrase_loop_strategy answers track_id.value expected_timeline_revision
      expected_catalog_revision phrase_index strategy
  | .History action expected_revision =>
    worker.restore_from_history answers track_id.value expected_revision action
  | .RestoreRevision expected_revision target_revision =>
    worker.restore_timeline_revision answers track_id.value expected_revision target_revision
  | .Reuse candidates source_track_id expected_revision => do
    let (worker, _) ← worker.reuse_creative_timeline answers candidates source_track_id
      track_id.value expected_revision
    .ok worker
  | .Relink archive => worker.relink_creative_archive answers [track_id] archive
  | .Remap mapped => worker.remap_untouched_source_timeline answers track_id mapped
  | .Reconcile expected_revision incoming strategy => do
    let (worker, _) ← worker.reconcile_source_refresh answers track_id.value expected_revision
      incoming strategy
    .ok worker
  | .RefreshAnalysis analysis_revision total_beats old_raw_phrases new_raw_phrases =>
    worker.refresh_analysis answers track_id analysis_revision total_beats old_raw_phrases
      new_raw_phrases

/-- Undo and redo move between contents. Every other operation puts a new one. -/
def action : TimelineOperation → Option HistoryAction
  | .History action _ => some action
  | _ => none

end TimelineOperation

/-- The contents of a timeline as an editor would keep them. -/
abbrev Contents := Stacks (List PhraseInstance)

/-- The two stacks after an operation that left these phrases. -/
def follow (action : Option HistoryAction) (phrases : List PhraseInstance) :
    Option Contents → Option Contents
  | none => some (.start phrases)
  | some model =>
    match action with
    | none => some (model.put phrases)
    | some .Undo => model.back
    | some .Redo => model.forth

/-- The worker, and beside it the contents that the operations have made. -/
structure Timelines where
  worker : LibraryWorker
  model : TrackId → Option Contents

/-- An operation on a track, with what the database answers to it. -/
structure TimelineCommand where
  answers : DatabaseAnswers
  track_id : TrackId
  operation : TimelineOperation

/-- The model follows where the operation has moved the head. -/
def Timelines.after (s : Timelines) (command : TimelineCommand) (worker : LibraryWorker) :
    Timelines where
  worker := worker
  model :=
    if worker.timeline_head command.track_id = s.worker.timeline_head command.track_id then
      s.model
    else Function.update s.model command.track_id (follow command.operation.action
      (((worker.timeline_head command.track_id).map (·.phrases)).getD [])
      (s.model command.track_id))

/-- A library whose tracks have no timelines yet. -/
def timelines (library : LibraryWorker) :
    Machine Timelines TimelineCommand (Option LibraryWorkerError) Timelines where
  start := ⟨{ library with timelines := ∅ }, fun _ => none⟩
  reduce s command := do
    let worker ← (command.operation.apply command.answers command.track_id s.worker).accepted
    return s.after command worker
  next := id

/-! ## What the writers write -/

def summaries (rows : List LumiPhraseTimeline) : List TimelineRevisionSummary :=
  rows.reverse.map summary

/-- A copy of the phrases of another track or of an archive. -/
def Copied (t : LumiPhraseTimeline) : Prop := t.reason = .RestoreRevision ∧ t.restored_from = none

instance (t : LumiPhraseTimeline) : Decidable (Copied t) := inferInstanceAs (Decidable (_ ∧ _))

/-- The reasons of the revisions that bring phrases of their own. -/
def IsChange : TimelineRevisionReason → Prop
  | .InitialSourceMapping | .Undo | .Redo | .RestoreRevision => False
  | _ => True

/-- The revision names the one that it brings back, and has its phrases. -/
def BringsBack (t target : LumiPhraseTimeline) (reason : TimelineRevisionReason) : Prop :=
  t.reason = reason ∧ t.restored_from = some target.revision ∧ t.phrases = target.phrases

/-- The revision of the history that an action brings back. -/
def TimelineHistory.top (history : TimelineHistory) : HistoryAction → Option TimelineRevision
  | .Undo => history.undo.head?
  | .Redo => history.redo.head?

/-- What each writer may append to the rows of a track. -/
inductive Written (rows : List LumiPhraseTimeline) :
    Option HistoryAction → LumiPhraseTimeline → Prop
  | mapped {t} : rows = [] → t.reason = .InitialSourceMapping → Written rows none t
  | changed {t} : rows ≠ [] → IsChange t.reason → Written rows none t
  | restored {t target} : rows.find? (·.revision = target.revision) = some target →
      BringsBack t target .RestoreRevision → Written rows none t
  | copied {t} : rows ≠ [] → Copied t → Written rows none t
  | moved {t target action history} : rows.find? (·.revision = target.revision) = some target →
      TimelineHistory.replay (summaries rows) = .ok history →
      history.top action = some target.revision →
      BringsBack t target (LibraryWorker.history_reason action) → Written rows (some action) t

/-- The rows that a track can acquire, and the contents that the operations have made. -/
inductive Acquired (track_id : TrackId) : List LumiPhraseTimeline → Option Contents → Prop
  | empty : Acquired track_id [] none
  | write {rows model action t} : Acquired track_id rows model → Written rows action t →
      t.revision.value.toNat = rows.length + 1 → t.track_id = track_id →
      Acquired track_id (t :: rows) (follow action t.phrases model)

/-! ## The replay of acquired rows -/

section replays

variable {rows : List LumiPhraseTimeline} {model : Contents} {t : LumiPhraseTimeline}
  {action : Option HistoryAction}

/-- The phrases of a revision. -/
def phrases_of (rows : List LumiPhraseTimeline) (revision : TimelineRevision) :
    Option (List PhraseInstance) :=
  (rows.find? (·.revision = revision)).map (·.phrases)

namespace TimelineHistory

theorem replay_loop_snoc (r : Replay) (l : List TimelineRevisionSummary)
    (summary : TimelineRevisionSummary) :
    replay_loop r (l ++ [summary]) = replay_loop r l >>= fun r => r.turn summary := by
  induction l generalizing r with
  | nil =>
    change (r.turn summary >>= fun r => .ok r) = r.turn summary
    cases r.turn summary <;> rfl
  | cons first l ih =>
    change (r.turn first >>= fun r => replay_loop r (l ++ [summary])) =
      (r.turn first >>= fun r => replay_loop r l) >>= fun r => r.turn summary
    cases r.turn first with
    | ok r' => exact ih r'
    | err e | panicked => rfl

theorem replay_eq_ok {l : List TimelineRevisionSummary} {history : TimelineHistory} :
    replay l = .ok history ↔
      ∃ r, replay_loop .start l = .ok r ∧ r.current ≠ none ∧ history = ⟨r.undo, r.redo⟩ := by
  unfold replay
  rw [Outcome.bind_eq_ok]
  refine exists_congr fun r => and_congr_right fun _ => ?_
  cases r.current <;> simp [eq_comm]

end TimelineHistory

open TimelineHistory

/-- What the replay of the rows leaves: it has no current revision exactly after a copy, and
every copy further back has cost it one revision to undo. -/
structure Replays (rows : List LumiPhraseTimeline) (model : Contents) (r : Replay) : Prop where
  bounded : ∀ row ∈ rows, row.revision.value.toNat ≤ rows.length
  loop : replay_loop .start (summaries rows) = .ok r
  lost : r.current = none ↔ ∃ head ∈ rows.head?, Copied head
  undo_length : r.undo.length + rows.tail.countP (decide <| Copied ·) = model.undo.length
  redo_length : r.redo.length = model.redo.length

/-- The revisions of the replay have the contents of the model. -/
structure Names (rows : List LumiPhraseTimeline) (model : Contents) (r : Replay) : Prop where
  head : rows.head?.map (·.phrases) = some model.current
  current : r.current.bind (phrases_of rows) = some model.current
  undo : r.undo.map (phrases_of rows) = model.undo.map some
  redo : r.redo.map (phrases_of rows) = model.redo.map some

variable (hbounded : ∀ row ∈ rows, row.revision.value.toNat ≤ rows.length)
  (ht : t.revision.value.toNat = rows.length + 1) {revision : TimelineRevision}
include hbounded ht

/-- A new revision leaves those before it where they are. -/
theorem phrases_of_cons {phrases : List PhraseInstance}
    (h : phrases_of rows revision = some phrases) :
    phrases_of (t :: rows) revision = some phrases := by
  have hne : ¬ t.revision = revision := by
    rintro rfl
    obtain ⟨row, hrow, -⟩ := Option.map_eq_some_iff.mp h
    have hle := hbounded row (List.mem_of_find?_eq_some hrow)
    have heq : row.revision = t.revision := by simpa using List.find?_some hrow
    rw [heq] at hle
    omega
  unfold phrases_of at h ⊢
  rw [List.find?_cons_of_neg (by simpa using hne), h]

theorem map_phrases_of_cons {revisions : List TimelineRevision}
    {contents : List (List PhraseInstance)}
    (h : revisions.map (phrases_of rows) = contents.map some) :
    revisions.map (phrases_of (t :: rows)) = contents.map some := by
  rw [← h]
  refine List.map_congr_left fun revision hrevision => ?_
  have hmem : phrases_of rows revision ∈ contents.map some := h ▸ List.mem_map_of_mem hrevision
  obtain ⟨phrases, -, hphrases⟩ := List.mem_map.mp hmem
  rw [← hphrases]
  exact phrases_of_cons hbounded ht hphrases.symm

omit hbounded ht

theorem phrases_of_head : phrases_of (t :: rows) t.revision = some t.phrases := by
  simp [phrases_of]

variable {r r' : Replay} {current : Option TimelineRevision}

theorem Replays.snoc (h : Replays rows model r) (hturn : r.turn (summary t) = .ok r') :
    replay_loop .start (summaries (t :: rows)) = .ok r' := by
  unfold summaries
  rw [List.reverse_cons, List.map_append, List.map_singleton, replay_loop_snoc]
  exact Outcome.bind_eq_ok.mpr ⟨r, h.loop, hturn⟩

include ht

theorem Replays.bounded_cons (h : Replays rows model r) :
    ∀ row ∈ t :: rows, row.revision.value.toNat ≤ (t :: rows).length := by
  intro row hrow
  rw [length_cons]
  rcases List.mem_cons.mp hrow with rfl | hrow
  · exact ht.le
  · exact Nat.le_succ_of_le (h.bounded row hrow)

/-- A revision that puts a new content. -/
theorem Replays.put (h : Replays rows model r) (hrows : rows ≠ [])
    (hturn : r.turn (summary t) = .ok ⟨current, r.push_undo, []⟩)
    (hlost : current = none ↔ Copied t) :
    Replays (t :: rows) (model.put t.phrases) ⟨current, r.push_undo, []⟩ where
  bounded := h.bounded_cons ht
  loop := h.snoc hturn
  lost := by simpa using hlost
  undo_length := by
    obtain ⟨head, rest, rfl⟩ := List.exists_cons_of_ne_nil hrows
    have hlength := h.undo_length
    have hcopied := h.lost
    simp only [List.head?_cons, Option.mem_some_iff, exists_eq_left', tail_cons] at hcopied hlength
    simp only [tail_cons, List.countP_cons, Stacks.put, length_cons, decide_eq_true_eq]
    unfold Replay.push_undo
    cases hcurrent : r.current with
    | none =>
      rw [if_pos (hcopied.mp hcurrent)]
      dsimp only
      omega
    | some previous =>
      rw [if_neg fun hc => by rw [hcopied.mpr hc] at hcurrent; cases hcurrent]
      simp only [length_cons]
      omega
  redo_length := rfl

theorem Names.put (h : Names rows model r) (hr : Replays rows model r)
    (hcurrent : current.bind (phrases_of (t :: rows)) = some t.phrases) :
    Names (t :: rows) (model.put t.phrases) ⟨current, r.push_undo, []⟩ where
  head := rfl
  current := hcurrent
  undo := by
    obtain ⟨previous, hprevious, hphrases⟩ := Option.bind_eq_some_iff.mp h.current
    simp only [Replay.push_undo, hprevious, Stacks.put, map_cons,
      phrases_of_cons hr.bounded ht hphrases, map_phrases_of_cons hr.bounded ht h.undo]
  redo := rfl

variable {previous target : TimelineRevision} {rest : List TimelineRevision} {track_id : TrackId}

variable (h : Replays rows model r)
include h

omit ht in
/-- With a current revision the head is no copy. -/
theorem Replays.count_of_current (hcurrent : r.current = some previous) :
    rows.countP (decide <| Copied ·) = rows.tail.countP (decide <| Copied ·) := by
  have hnot : ¬ ∃ head ∈ rows.head?, Copied head := by
    rw [← h.lost, hcurrent]
    exact Option.some_ne_none previous
  cases rows with
  | nil => rfl
  | cons head rows =>
    simp only [List.head?_cons, Option.mem_some_iff, exists_eq_left'] at hnot
    rw [List.countP_cons_of_neg (by simpa using hnot), tail_cons]

/-- A revision that undoes. -/
theorem Replays.back (hreason : t.reason = .Undo) (hfrom : t.restored_from = some target)
    (hcurrent : r.current = some previous) (hundo : r.undo = target :: rest) :
    ∃ model', model.back = some model' ∧
      Replays (t :: rows) model' ⟨some target, rest, previous :: r.redo⟩ ∧
      (Names rows model r → phrases_of rows target = some t.phrases →
        Names (t :: rows) model' ⟨some target, rest, previous :: r.redo⟩) := by
  have hlength := h.undo_length
  have hturn : r.turn (summary t) = .ok ⟨some target, rest, previous :: r.redo⟩ := by
    simp [Replay.turn, summary, hreason, hfrom, Outcome.ok_or, hcurrent, hundo]
  rcases hmodel : model.undo with _ | ⟨p, ps⟩
  · rw [hundo, hmodel, length_cons, List.length_nil] at hlength
    omega
  rw [hundo, hmodel, length_cons, length_cons] at hlength
  refine ⟨⟨ps, p, model.current :: model.redo⟩, by simp [Stacks.back, hmodel],
    ⟨h.bounded_cons ht, h.snoc hturn, ?_, ?_, ?_⟩, fun hn hphrases => ?_⟩
  · simp [Copied, hreason]
  · rw [tail_cons, h.count_of_current hcurrent]
    dsimp only
    omega
  · rw [length_cons, length_cons, h.redo_length]
  · have hnames := hn.undo
    rw [hundo, hmodel, map_cons, map_cons, hphrases, List.cons.injEq, Option.some.injEq] at hnames
    obtain ⟨rfl, hrest⟩ := hnames
    obtain ⟨_, hprevious, hwas⟩ := Option.bind_eq_some_iff.mp hn.current
    rw [hcurrent, Option.some.injEq] at hprevious
    subst hprevious
    refine ⟨rfl, phrases_of_cons h.bounded ht hphrases, map_phrases_of_cons h.bounded ht hrest,
      ?_⟩
    rw [map_cons, map_cons, phrases_of_cons h.bounded ht hwas,
      map_phrases_of_cons h.bounded ht hn.redo]

/-- A revision that does again what was undone. -/
theorem Replays.forth (hreason : t.reason = .Redo) (hfrom : t.restored_from = some target)
    (hcurrent : r.current = some previous) (hredo : r.redo = target :: rest) :
    ∃ model', model.forth = some model' ∧
      Replays (t :: rows) model' ⟨some target, previous :: r.undo, rest⟩ ∧
      (Names rows model r → phrases_of rows target = some t.phrases →
        Names (t :: rows) model' ⟨some target, previous :: r.undo, rest⟩) := by
  have hlength := h.undo_length
  have hredos := h.redo_length
  have hturn : r.turn (summary t) = .ok ⟨some target, previous :: r.undo, rest⟩ := by
    simp [Replay.turn, summary, hreason, hfrom, Outcome.ok_or, hcurrent, hredo]
  rcases hmodel : model.redo with _ | ⟨p, ps⟩
  · rw [hredo, hmodel] at hredos
    cases hredos
  rw [hredo, hmodel, length_cons, length_cons, Nat.succ_inj] at hredos
  refine ⟨⟨model.current :: model.undo, p, ps⟩, by simp [Stacks.forth, hmodel],
    ⟨h.bounded_cons ht, h.snoc hturn, ?_, ?_, hredos⟩, fun hn hphrases => ?_⟩
  · simp [Copied, hreason]
  · rw [tail_cons, h.count_of_current hcurrent]
    simp only [length_cons]
    omega
  · have hnames := hn.redo
    rw [hredo, hmodel, map_cons, map_cons, hphrases, List.cons.injEq, Option.some.injEq] at hnames
    obtain ⟨rfl, hrest⟩ := hnames
    obtain ⟨_, hprevious, hwas⟩ := Option.bind_eq_some_iff.mp hn.current
    rw [hcurrent, Option.some.injEq] at hprevious
    subst hprevious
    refine ⟨rfl, phrases_of_cons h.bounded ht hphrases, ?_,
      map_phrases_of_cons h.bounded ht hrest⟩
    rw [map_cons, map_cons, phrases_of_cons h.bounded ht hwas,
      map_phrases_of_cons h.bounded ht hn.undo]

/-- One more revision: the replay and the model take it together. -/
theorem Replays.write (hrows : rows ≠ []) (hw : Written rows action t) :
    ∃ model' r', follow action t.phrases (some model) = some model' ∧
      Replays (t :: rows) model' r' ∧
      (Names rows model r → ¬ Copied t → Names (t :: rows) model' r') := by
  cases hw with
  | mapped hnil => exact absurd hnil hrows
  | changed _ hchange =>
    have hturn : r.turn (summary t) = .ok ⟨some t.revision, r.push_undo, []⟩ := by
      unfold Replay.turn summary
      cases hreason : t.reason <;> simp_all [IsChange]
    have hcopied : ¬ Copied t := by
      rintro ⟨hreason, -⟩
      rw [hreason] at hchange
      exact hchange
    exact ⟨_, _, rfl, h.put ht hrows hturn (by simpa using hcopied),
      fun hn _ => hn.put ht h phrases_of_head⟩
  | @restored _ target hfind hback =>
    obtain ⟨hreason, hfrom, hphrases⟩ := hback
    have hturn : r.turn (summary t) = .ok ⟨some target.revision, r.push_undo, []⟩ := by
      simp [Replay.turn, summary, hreason, hfrom]
    have htarget : phrases_of rows target.revision = some t.phrases := by
      rw [phrases_of, hfind, hphrases, Option.map_some]
    exact ⟨_, _, rfl, h.put ht hrows hturn (by simp [Copied, hfrom]),
      fun hn _ => hn.put ht h (phrases_of_cons h.bounded ht htarget)⟩
  | copied _ hcopied =>
    have hturn : r.turn (summary t) = .ok ⟨none, r.push_undo, []⟩ := by
      simp [Replay.turn, summary, hcopied.1, hcopied.2]
    exact ⟨_, _, rfl, h.put ht hrows hturn (by simpa using hcopied),
      fun _ hnot => absurd hcopied hnot⟩
  | @moved _ target action history hfind hreplay htop hback =>
    obtain ⟨hreason, hfrom, hphrases⟩ := hback
    obtain ⟨r0, hloop, hcurrent, rfl⟩ := replay_eq_ok.mp hreplay
    rw [h.loop, Outcome.ok.injEq] at hloop
    subst hloop
    obtain ⟨previous, hprevious⟩ := Option.ne_none_iff_exists'.mp hcurrent
    have htarget : phrases_of rows target.revision = some t.phrases := by
      rw [phrases_of, hfind, hphrases, Option.map_some]
    cases action with
    | Undo =>
      obtain ⟨rest, hundo⟩ := List.head?_eq_some_iff.mp htop
      obtain ⟨model', hmodel, hr, hn⟩ := h.back ht hreason hfrom hprevious hundo
      exact ⟨model', _, hmodel, hr, fun hnames _ => hn hnames htarget⟩
    | Redo =>
      obtain ⟨rest, hredo⟩ := List.head?_eq_some_iff.mp htop
      obtain ⟨model', hmodel, hr, hn⟩ := h.forth ht hreason hfrom hprevious hredo
      exact ⟨model', _, hmodel, hr, fun hnames _ => hn hnames htarget⟩

omit h ht

/-- The first revision of a track. -/
theorem replays_first (hw : Written [] action t) (ht : t.revision.value.toNat = 1) :
    Replays [t] (.start t.phrases) ⟨some t.revision, [], []⟩ ∧
      Names [t] (.start t.phrases) ⟨some t.revision, [], []⟩ := by
  have hreason : t.reason = .InitialSourceMapping := by
    cases hw with
    | mapped _ hreason => exact hreason
    | changed hne | copied hne => exact absurd rfl hne
    | restored hfind | moved hfind => cases hfind
  refine ⟨⟨?_, ?_, ?_, rfl, rfl⟩, ⟨rfl, phrases_of_head, rfl, rfl⟩⟩
  · simp [ht]
  · simp [summaries, replay_loop, Replay.turn, summary, hreason, Replay.start]
  · simp [Copied, hreason]

/-- The revision is one that the replay holds. -/
def TimelineHistory.Replay.Holds (r : Replay) (revision : TimelineRevision) : Prop :=
  r.current = some revision ∨ revision ∈ r.undo ∨ revision ∈ r.redo

theorem holds_turn {summary : TimelineRevisionSummary} (h : r.turn summary = .ok r')
    (hholds : r'.Holds revision) :
    revision = summary.revision ∨
      (summary.reason = .RestoreRevision ∧ summary.restored_from = some revision) ∨
      r.Holds revision := by
  have hpush : revision ∈ r.push_undo → r.Holds revision := by
    unfold Replay.push_undo
    cases hcurrent : r.current with
    | none => exact fun hx => .inr (.inl hx)
    | some previous => grind [Replay.Holds]
  unfold Replay.turn at h
  split at h
  case h_2 | h_3 =>
    obtain ⟨target, htarget, h⟩ := Outcome.bind_eq_ok.mp h
    obtain ⟨previous, hprevious, h⟩ := Outcome.bind_eq_ok.mp h
    rw [Outcome.ok_or_eq_ok] at htarget hprevious
    split_ifs at h
    cases h
    grind [Replay.Holds, List.mem_of_mem_tail, List.mem_of_mem_head?]
  all_goals
    cases h
    grind [Replay.Holds]

variable {model : Option Contents} (ha : Acquired track_id rows model)
include ha

/-- Every track's rows can be gone through, and without a copy they name the contents. -/
theorem Acquired.replays :
    (rows = [] ∧ model = none) ∨
      ∃ s r, model = some s ∧ rows ≠ [] ∧ Replays rows s r ∧
        ((∀ row ∈ rows, ¬ Copied row) → Names rows s r) := by
  induction ha with
  | empty => exact .inl ⟨rfl, rfl⟩
  | @write rows model action t hrows hw ht _ ih =>
    right
    rcases ih with ⟨rfl, rfl⟩ | ⟨s, r, rfl, hne, hr, hn⟩
    · obtain ⟨hr, hn⟩ := replays_first hw ht
      exact ⟨_, _, rfl, List.cons_ne_nil _ _, hr, fun _ => hn⟩
    obtain ⟨s', r', hfollow, hr', hn'⟩ := hr.write ht hne hw
    refine ⟨s', r', hfollow, List.cons_ne_nil _ _, hr', fun hnot => ?_⟩
    rw [List.forall_mem_cons] at hnot
    exact hn' (hn hnot.2) hnot.1

/-- What the replay of the rows holds is among them. -/
theorem Acquired.found (hr : replay_loop .start (summaries rows) = .ok r)
    (hholds : r.Holds revision) : ∃ row ∈ rows, row.revision = revision := by
  induction ha generalizing r with
  | empty =>
    cases hr
    simp [Replay.Holds, Replay.start] at hholds
  | @write rows model action t _ hw _ _ ih =>
    unfold summaries at hr
    rw [List.reverse_cons, List.map_append, List.map_singleton, replay_loop_snoc] at hr
    obtain ⟨before, hbefore, hturn⟩ := Outcome.bind_eq_ok.mp hr
    rw [List.exists_mem_cons_iff]
    rcases holds_turn hturn hholds with rfl | ⟨hreason, hfrom⟩ | hheld
    · exact .inl rfl
    · change t.reason = _ at hreason
      right
      cases hw with
      | mapped _ hmapped => cases hmapped.symm.trans hreason
      | changed _ hchange =>
        rw [hreason] at hchange
        exact hchange.elim
      | @restored _ target hfind hback =>
        rw [← Option.some.inj (hback.2.1.symm.trans hfrom)]
        exact ⟨target, List.mem_of_find?_eq_some hfind, rfl⟩
      | copied _ hcopied => cases hcopied.2.symm.trans hfrom
      | @moved _ _ action _ _ _ _ hback =>
        have hmoved := hback.1.symm.trans hreason
        cases action <;> cases hmoved
    · exact .inr (ih hbefore hheld)

theorem Acquired.head_revision {head : LumiPhraseTimeline} (hhead : rows.head? = some head) :
    head.revision.value.toNat = rows.length := by
  cases ha with
  | empty => cases hhead
  | write _ _ ht _ =>
    cases hhead
    exact ht

theorem Acquired.bounded : ∀ row ∈ rows, row.revision.value.toNat ≤ rows.length := by
  rcases ha.replays with ⟨rfl, _⟩ | ⟨_, _, _, _, hr, _⟩
  · exact fun _ hrow => absurd hrow List.not_mem_nil
  · exact hr.bounded

theorem Acquired.track : ∀ row ∈ rows, row.track_id = track_id := by
  induction ha with
  | empty => exact fun _ hrow => absurd hrow List.not_mem_nil
  | write _ _ _ htrack ih => exact List.forall_mem_cons.mpr ⟨htrack, ih⟩

/-- The replay of the rows gives revisions with the contents of the model. -/
def Faithful (rows : List LumiPhraseTimeline) (model : Contents) : Prop :=
  ∃ history, replay (summaries rows) = .ok history ∧
    history.undo.map (phrases_of rows) = model.undo.map some ∧
    history.redo.map (phrases_of rows) = model.redo.map some

omit h in
omit ha in
/-- The history is faithful exactly when no revision is a copy. -/
theorem Acquired.faithful_iff {model : Contents} (h : Acquired track_id rows (some model)) :
    Faithful rows model ↔ ∀ row ∈ rows, ¬ Copied row := by
  rcases h.replays with ⟨_, hnone⟩ | ⟨s, r, hsome, hne, hr, hn⟩
  · cases hnone
  cases hsome
  constructor
  · rintro ⟨history, hreplay, hundo, -⟩
    obtain ⟨r0, hloop, hcurrent, rfl⟩ := replay_eq_ok.mp hreplay
    rw [hr.loop, Outcome.ok.injEq] at hloop
    subst hloop
    obtain ⟨previous, hprevious⟩ := Option.ne_none_iff_exists'.mp hcurrent
    -- The stack of the replay is as long as that of the model, so no copy is further back.
    have hlength := congrArg List.length hundo
    have hcount := hr.undo_length
    rw [List.length_map, List.length_map] at hlength
    rw [← hr.count_of_current hprevious] at hcount
    have hzero : rows.countP (decide <| Copied ·) = 0 := by
      dsimp only at hlength
      omega
    simpa using List.countP_eq_zero.mp hzero
  · intro hnot
    have hnames := hn hnot
    obtain ⟨previous, hprevious, _⟩ := Option.bind_eq_some_iff.mp hnames.current
    exact ⟨⟨r.undo, r.redo⟩, replay_eq_ok.mpr ⟨r, hr.loop, by simp [hprevious], rfl⟩,
      hnames.undo, hnames.redo⟩

end replays

end lumi_engine
