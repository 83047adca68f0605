-- Each operation on a timeline appends at most one row, and it is one of those
-- that a track can acquire. So the rows of every run are acquired ones.
import Lumi.Engine.Rows

open rust replay lumi_domain lumi_library lumi_library_sqlite
open Outcome (bind_eq_ok guard_eq_ok lift_eq_ok map_err_eq_ok ok_or_eq_ok)

namespace lumi_engine

open LumiPhraseTimeline (restore)

/-! ## The operations write what is written -/

variable {expected_revision : UInt64} {revision : TimelineRevision}
  {expected : Option TimelineRevision} {command : TimelineEditCommand}
  {reason : TimelineRevisionReason} {rows : List LumiPhraseTimeline} {phrase_index : UInt16}
  {history : TimelineHistory} {action : HistoryAction} {mapped : MappedSource} {s : Timelines}

namespace LibraryWorker

variable {self worker : LibraryWorker} {answers : DatabaseAnswers} {call : Nat}
  {track_id : TrackId} {head t : LumiPhraseTimeline}

theorem timeline_head_eq : self.timeline_head track_id = (self.revisions track_id).head? := by
  unfold timeline_head revisions
  cases self.timelines[track_id]? <;> rfl

theorem head_of_ok
    (h : self.require_expected_head answers call track_id expected_revision = .ok head) :
    (self.revisions track_id).head? = some head :=
  timeline_head_eq ▸ require_expected_head_ok h

theorem timeline_revision_ok (h : self.timeline_revision answers call track_id revision = .ok t) :
    (self.revisions track_id).find? (·.revision = t.revision) = some t ∧ t.revision = revision := by
  obtain ⟨_, _, h⟩ := bind_eq_ok.mp h
  have hfind := ok_or_eq_ok.mp h
  have hrevision : t.revision = revision := by simpa using List.find?_some hfind
  exact ⟨hrevision ▸ hfind, hrevision⟩

/-- A revision comes in front of the rows of its track. -/
structure Appends (old worker : LibraryWorker) (track_id : TrackId) (t : LumiPhraseTimeline) :
    Prop where
  row : worker.revisions track_id = t :: old.revisions track_id
  others : ∀ other, other ≠ track_id → worker.revisions other = old.revisions other
  track : t.track_id = track_id
  next : required_revision ((old.revisions track_id).head?.map (·.revision)) = .ok t.revision

theorem appends_of_ok (h : self.append_timeline_revision answers call t expected = .ok worker)
    (htrack : t.track_id = track_id) : Appends self worker track_id t := by
  subst htrack
  obtain ⟨rfl, hnext⟩ := append_timeline_revision_ok h
  refine ⟨?_, fun other hother => ?_, rfl, timeline_head_eq ▸ hnext⟩
  · simp [revisions, appended]
  · simp [revisions, appended, map_get_insert, Ne.symm hother]

end LibraryWorker

variable {head t : LumiPhraseTimeline}

theorem edit_ok (h : head.edit command = .ok t) :
    t.track_id = head.track_id ∧ IsChange t.reason := by
  unfold LumiPhraseTimeline.edit at h
  split at h
  · cases h
  obtain ⟨phrases, _, h⟩ := bind_eq_ok.mp h
  split at h
  · cases h
  unfold LumiPhraseTimeline.map_err at h
  split at h
  · rename_i htimeline
    cases h
    obtain ⟨_, rfl⟩ := try_new_with_history_eq_ok htimeline
    refine ⟨rfl, ?_⟩
    cases command with
    | Delete phrase_index absorb_into => cases absorb_into <;> exact trivial
    | _ => exact trivial
  · cases h

theorem restore_ok {target : LumiPhraseTimeline} (h : restore head target reason = .ok t) :
    t.track_id = head.track_id ∧ BringsBack t target reason := by
  unfold restore at h
  split at h
  · cases h
  split at h
  · cases h
  split at h
  · cases h
  unfold LumiPhraseTimeline.map_err at h
  split at h
  · rename_i htimeline
    cases h
    obtain ⟨_, rfl⟩ := try_new_with_history_eq_ok htimeline
    exact ⟨rfl, rfl, rfl, renumber_of_numbered target.wellFormed.numbered⟩
  · cases h

section apply

variable {worker worker' : LibraryWorker} {answers : DatabaseAnswers} {track_id : TrackId}
  {model : Option Contents} {operation : TimelineOperation}

/-- The operation leaves the rows of all tracks alone, or it writes one for its own track. -/
def Writes (worker worker' : LibraryWorker) (track_id : TrackId)
    (action : Option HistoryAction) : Prop :=
  (∀ track, worker'.revisions track = worker.revisions track) ∨
    ∃ t, worker.Appends worker' track_id t ∧ Written (worker.revisions track_id) action t

open LibraryWorker

theorem ne_nil_of_head? (h : rows.head? = some head) : rows ≠ [] := by
  rintro rfl
  cases h

/-- The pages that are read are the rows, none twice and none left out. -/
theorem read_pages_ok {rows read : List LumiPhraseTimeline} {turns call : Nat} {offset : UInt32}
    (h : read_pages answers rows turns call offset = .ok read)
    (hturns : rows.length ≤ turns + offset.toNat) : read = rows.drop offset.toNat := by
  induction turns generalizing call offset read with
  | zero =>
    cases h
    exact (List.drop_eq_nil_of_le (by omega)).symm
  | succ turns ih =>
    obtain ⟨_, _, h⟩ := bind_eq_ok.mp h
    dsimp only at h
    split at h
    · cases h
    rename_i hfits
    generalize hpage : (rows.drop offset.toNat).take 200 = page at h hfits
    have hlen := congrArg List.length hpage
    rw [List.length_take, List.length_drop] at hlen
    have hnext : (offset + UInt32.ofNat page.length).toNat = offset.toNat + page.length := by
      rw [UInt32.toNat_add, UInt32.toNat_ofNat']
      omega
    have hrest : rows.drop offset.toNat = page ++ rows.drop (offset.toNat + page.length) := by
      conv_lhs => rw [← List.take_append_drop 200 (rows.drop offset.toNat), hpage, List.drop_drop]
      rcases Nat.lt_or_ge (rows.length - offset.toNat) 200 with hlt | hge
      · rw [List.drop_eq_nil_of_le (by omega), List.drop_eq_nil_of_le (by omega)]
      · rw [show page.length = 200 by omega]
    split at h
    · rename_i hlast
      cases h
      rw [hnext] at hlast
      rw [hrest, List.drop_eq_nil_of_le (by omega), List.append_nil]
    · rename_i hmore
      obtain ⟨rest, hread, h⟩ := bind_eq_ok.mp h
      cases h
      rw [hrest, ih hread (by omega), hnext]

theorem rebuild_history_ok {call : Nat}
    (h : worker.rebuild_history answers call track_id = .ok history) :
    TimelineHistory.replay (summaries (worker.revisions track_id)) = .ok history := by
  obtain ⟨_, _, h⟩ := bind_eq_ok.mp h
  obtain ⟨read, hread, h⟩ := bind_eq_ok.mp h
  rw [read_pages_ok hread (by simp), UInt32.toNat_zero, List.drop_zero] at h
  exact h

theorem history_target_eq_ok :
    history_target history action = .ok revision ↔ history.top action = some revision := by
  cases action <;> exact ok_or_eq_ok

theorem reuse_creative_timeline_writes {candidates : List TrackId}
    {source_track_id expected_revision : UInt64} {reviewed : LibraryWorker.Result Unit}
    (h : worker.reuse_creative_timeline answers candidates source_track_id track_id.value
      expected_revision = .ok (worker', reviewed)) : Writes worker worker' track_id none := by
  simp only [reuse_creative_timeline, bind_eq_ok, guard_eq_ok, lift_eq_ok] at h
  obtain ⟨_, _, _, _, target, hhead, _, _, _, _, _, _, _, _, _, _, _, _, copied, hcopied, _,
    happend, h⟩ := h
  cases h
  obtain ⟨_, rfl⟩ := try_new_with_history_eq_ok hcopied
  exact .inr ⟨_, appends_of_ok happend rfl, .copied (ne_nil_of_head? (head_of_ok hhead)) ⟨rfl, rfl⟩⟩

theorem relink_creative_archive_writes {archive : CreativeArchive}
    (h : worker.relink_creative_archive answers [track_id] archive = .ok worker') :
    Writes worker worker' track_id none := by
  simp only [relink_creative_archive, bind_eq_ok, ok_or_eq_ok, timeline_head_eq] at h
  obtain ⟨_, _, _, _, head, hhead, h⟩ := h
  split at h
  · cases h
    exact .inl fun _ => rfl
  simp only [bind_eq_ok, lift_eq_ok] at h
  obtain ⟨_, _, _, _, _, _, copied, hcopied, h⟩ := h
  obtain ⟨_, rfl⟩ := try_new_with_history_eq_ok hcopied
  exact .inr ⟨_, appends_of_ok h rfl, .copied (ne_nil_of_head? hhead) ⟨rfl, rfl⟩⟩

theorem ensure_timeline_writes (h : worker.ensure_timeline answers track_id mapped = .ok worker') :
    Writes worker worker' track_id none := by
  simp only [ensure_timeline, bind_eq_ok, timeline_head_eq] at h
  obtain ⟨_, _, _, _, h⟩ := h
  split at h
  · cases h
    exact .inl fun _ => rfl
  rename_i hnone
  simp only [bind_eq_ok, lift_eq_ok] at h
  obtain ⟨timeline, htimeline, h⟩ := h
  obtain ⟨_, rfl⟩ := try_new_with_history_eq_ok htimeline
  exact .inr ⟨_, appends_of_ok h rfl, .mapped (by simpa using hnone) rfl⟩

theorem remap_untouched_source_timeline_writes
    (h : worker.remap_untouched_source_timeline answers track_id mapped = .ok worker') :
    Writes worker worker' track_id none := by
  simp only [remap_untouched_source_timeline, bind_eq_ok, timeline_head_eq] at h
  obtain ⟨_, _, h⟩ := h
  split at h
  · cases h
    exact .inl fun _ => rfl
  rename_i head hhead
  split at h
  · cases h
    exact .inl fun _ => rfl
  split at h
  · cases h
    exact .inl fun _ => rfl
  simp only [bind_eq_ok, lift_eq_ok] at h
  obtain ⟨_, _, timeline, htimeline, h⟩ := h
  obtain ⟨_, rfl⟩ := try_new_with_history_eq_ok htimeline
  exact .inr ⟨_, appends_of_ok h rfl, .changed (ne_nil_of_head? hhead) trivial⟩

variable {call : Nat} (hacq : Acquired track_id (worker.revisions track_id) model)
  (hhead : (worker.revisions track_id).head? = some head)
  (happend : worker.append_timeline_revision answers call t expected = .ok worker')
include hacq hhead happend

/-- An edit of the head that is appended. -/
theorem writes_edit (hedit : head.edit command = .ok t) : Writes worker worker' track_id none := by
  obtain ⟨htrack, hchange⟩ := edit_ok hedit
  rw [hacq.track head (List.mem_of_mem_head? hhead)] at htrack
  exact .inr ⟨t, appends_of_ok happend htrack, .changed (ne_nil_of_head? hhead) hchange⟩

/-- A revision of the track that is brought back in front. -/
theorem writes_restore {target : LumiPhraseTimeline}
    (hrestore : restore head target reason = .ok t) :
    worker.Appends worker' track_id t ∧ BringsBack t target reason := by
  obtain ⟨htrack, hback⟩ := restore_ok hrestore
  rw [hacq.track head (List.mem_of_mem_head? hhead)] at htrack
  exact ⟨appends_of_ok happend htrack, hback⟩

/-- A timeline of the source that is appended to the head. -/
theorem writes_reconciled (ht : t.track_id = head.track_id ∧ t.reason = .SourceReconcile) :
    Writes worker worker' track_id none := by
  obtain ⟨htrack, hreason⟩ := ht
  rw [hacq.track head (List.mem_of_mem_head? hhead)] at htrack
  refine .inr ⟨t, appends_of_ok happend htrack, .changed (ne_nil_of_head? hhead) ?_⟩
  rw [hreason]
  exact trivial

omit hhead happend

theorem edit_timeline_writes
    (h : worker.edit_timeline answers track_id.value expected_revision command = .ok worker') :
    Writes worker worker' track_id none := by
  simp only [edit_timeline, bind_eq_ok, map_err_eq_ok] at h
  obtain ⟨_, _, _, _, _, _, head, hhead, edited, hedit, h⟩ := h
  exact writes_edit hacq (head_of_ok hhead) h hedit

theorem change_live_phrase_role_writes {role_id : PhraseRoleId}
    (h : worker.change_live_phrase_role answers track_id.value expected_revision phrase_index
      role_id = .ok worker') : Writes worker worker' track_id none := by
  simp only [change_live_phrase_role, commit_live_phrase_role, bind_eq_ok] at h
  obtain ⟨⟨prepared, _⟩, hprepare, _, _, _, _, hcommit⟩ := h
  obtain ⟨head, hhead, hedit⟩ := prepare_live_phrase_role_ok hprepare
  exact writes_edit hacq (timeline_head_eq ▸ hhead) hcommit hedit

theorem set_phrase_loop_strategy_writes
    {expected_timeline_revision expected_catalog_revision : UInt64} {strategy : PhraseLoopStrategy}
    (h : worker.set_phrase_loop_strategy answers track_id.value expected_timeline_revision
      expected_catalog_revision phrase_index strategy = .ok worker') :
    Writes worker worker' track_id none := by
  simp only [set_phrase_loop_strategy, bind_eq_ok, guard_eq_ok, map_err_eq_ok] at h
  obtain ⟨_, _, _, _, head, hhead, _, _, _, _, _, _, _, edited, hedit, h⟩ := h
  exact writes_edit hacq (head_of_ok hhead) h hedit

theorem restore_timeline_revision_writes {expected_revision target_revision : UInt64}
    (h : worker.restore_timeline_revision answers track_id.value expected_revision
      target_revision = .ok worker') : Writes worker worker' track_id none := by
  simp only [restore_timeline_revision, bind_eq_ok, map_err_eq_ok] at h
  obtain ⟨_, _, _, _, head, hhead, _, _, target, htarget, t, hrestore, h⟩ := h
  obtain ⟨happends, hback⟩ := writes_restore hacq (head_of_ok hhead) h hrestore
  exact .inr ⟨t, happends, .restored (timeline_revision_ok htarget).1 hback⟩

theorem restore_from_history_writes
    (h : worker.restore_from_history answers track_id.value expected_revision action =
      .ok worker') : Writes worker worker' track_id (some action) := by
  simp only [restore_from_history, bind_eq_ok, map_err_eq_ok] at h
  obtain ⟨_, _, _, _, head, hhead, history, hhistory, revision, htop, target, htarget, t,
    hrestore, h⟩ := h
  obtain ⟨happends, hback⟩ := writes_restore hacq (head_of_ok hhead) h hrestore
  obtain ⟨hfind, rfl⟩ := timeline_revision_ok htarget
  exact .inr ⟨t, happends, .moved hfind (rebuild_history_ok hhistory) (history_target_eq_ok.mp htop)
    hback⟩

theorem reconcile_source_refresh_writes {incoming : MappedSource} {strategy : ReconcileStrategy}
    {completed : LibraryWorker.Result Unit}
    (h : worker.reconcile_source_refresh answers track_id.value expected_revision incoming
      strategy = .ok (worker', completed)) : Writes worker worker' track_id none := by
  simp only [reconcile_source_refresh, bind_eq_ok, map_err_eq_ok] at h
  obtain ⟨_, _, _, _, head, hhead, _, _, t, ht, _, happend, h⟩ := h
  cases h
  exact writes_reconciled hacq (head_of_ok hhead) happend (reconcile_timeline_ok ht)

theorem refresh_analysis_writes {analysis_revision : SourceRevision} {total_beats : UInt32}
    {old_raw_phrases new_raw_phrases : List RawPhrase}
    (h : worker.refresh_analysis answers track_id analysis_revision total_beats old_raw_phrases
      new_raw_phrases = .ok worker') : Writes worker worker' track_id none := by
  simp only [refresh_analysis, bind_eq_ok, timeline_head_eq] at h
  obtain ⟨_, _, h⟩ := h
  split at h
  · cases h
    exact .inl fun _ => rfl
  rename_i head hhead
  simp only [bind_eq_ok, map_err_eq_ok] at h
  obtain ⟨refreshed, hrefreshed, h⟩ := h
  split at h
  · cases h
    exact .inl fun _ => rfl
  · exact writes_reconciled hacq hhead h (timeline_for_analysis_refresh_ok hrefreshed)

theorem apply_writes (h : operation.apply answers track_id worker = .ok worker') :
    Writes worker worker' track_id operation.action := by
  cases operation with
  | Open | Protect locked =>
    cases h
    exact .inl fun _ => rfl
  | EnsureTimeline mapped => exact ensure_timeline_writes h
  | Edit expected_revision command => exact edit_timeline_writes hacq h
  | LivePhraseRole expected_revision phrase_index role_id =>
    exact change_live_phrase_role_writes hacq h
  | LoopStrategy expected_timeline_revision expected_catalog_revision phrase_index strategy =>
    exact set_phrase_loop_strategy_writes hacq h
  | History action expected_revision => exact restore_from_history_writes hacq h
  | RestoreRevision expected_revision target_revision =>
    exact restore_timeline_revision_writes hacq h
  | Reuse candidates source_track_id expected_revision =>
    obtain ⟨⟨_, _⟩, hreuse, h⟩ := bind_eq_ok.mp h
    cases h
    exact reuse_creative_timeline_writes hreuse
  | Relink archive => exact relink_creative_archive_writes h
  | Remap mapped => exact remap_untouched_source_timeline_writes h
  | Reconcile expected_revision incoming strategy =>
    obtain ⟨⟨_, _⟩, hreconcile, h⟩ := bind_eq_ok.mp h
    cases h
    exact reconcile_source_refresh_writes hacq hreconcile
  | RefreshAnalysis analysis_revision total_beats old_raw_phrases new_raw_phrases =>
    exact refresh_analysis_writes hacq h

end apply

/-! ## Runs -/

theorem required_revision_ok {track_id : TrackId} {model : Option Contents}
    (hacq : Acquired track_id rows model)
    (h : LibraryWorker.required_revision (rows.head?.map (·.revision)) = .ok revision) :
    revision.value.toNat = rows.length + 1 := by
  cases hhead : rows.head? with
  | none =>
    rw [hhead] at h
    cases h
    rw [List.head?_eq_none_iff.mp hhead]
    rfl
  | some head =>
    rw [hhead] at h
    have hnext := TimelineRevision.checked_next_eq_some.mp (ok_or_eq_ok.mp h)
    rw [← hnext, hacq.head_revision hhead]

/-- The model of each track is that of the rows it has acquired. -/
def Modelled (s : Timelines) : Prop :=
  ∀ track_id, Acquired track_id (s.worker.revisions track_id) (s.model track_id)

theorem Modelled.after {command : TimelineCommand} {worker : LibraryWorker} (hs : Modelled s)
    (h : command.operation.apply command.answers command.track_id s.worker = .ok worker) :
    Modelled (s.after command worker) := by
  intro track_id
  rcases apply_writes (hs command.track_id) h with hsame | ⟨t, happends, hw⟩
  · have hhead : worker.timeline_head command.track_id =
        s.worker.timeline_head command.track_id := by
      rw [LibraryWorker.timeline_head_eq, LibraryWorker.timeline_head_eq, hsame]
    simp only [Timelines.after, hhead, if_true, hsame]
    exact hs track_id
  · have hrevision := required_revision_ok (hs command.track_id) happends.next
    have hhead : worker.timeline_head command.track_id = some t := by
      rw [LibraryWorker.timeline_head_eq, happends.row, List.head?_cons]
    have hmoved : ¬ some t = s.worker.timeline_head command.track_id := by
      intro hsame
      rw [LibraryWorker.timeline_head_eq] at hsame
      have hlast := (hs command.track_id).head_revision hsame.symm
      omega
    simp only [Timelines.after, hhead, if_neg hmoved, Option.map_some, Option.getD_some]
    by_cases htrack : track_id = command.track_id
    · subst htrack
      rw [Function.update_self, happends.row]
      exact .write (hs _) hw hrevision happends.track
    · rw [Function.update_of_ne htrack, happends.others track_id htrack]
      exact hs track_id

theorem modelled_reachable {library : LibraryWorker} (h : (timelines library).Reachable s) :
    Modelled s := by
  refine Machine.reachable_keeps (P := Modelled) ?_ ?_ h
  · intro track_id
    have hnone : (timelines library).start.worker.revisions track_id = [] := by
      simp [timelines, LibraryWorker.revisions]
    rw [hnone]
    exact .empty
  · intro s command s' hs hreduce
    cases happly : (command.operation.apply command.answers command.track_id s.worker) with
    | ok worker =>
      simp only [timelines, happly, Outcome.accepted] at hreduce
      cases hreduce
      exact hs.after happly
    | err e | panicked => simp [timelines, happly, Outcome.accepted] at hreduce

end lumi_engine
