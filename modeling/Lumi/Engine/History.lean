-- The undo history of a timeline is faithful as long as no revision of it was
-- copied from another track or from an archive: a copy names no revision that
-- it restored, and the replay of the rows then loses the current one.
import Lumi.Engine.Writers

open rust replay undo_redo lumi_domain lumi_library
open Outcome (bind_eq_ok map_err_eq_ok ok_bind ok_or)

namespace lumi_engine

open LibraryWorker (head_of_ok history_reason history_target read_pages timeline_head_eq to_i64)

/-! ## Undo and redo -/

/-- How far the phrases reach. -/
def beats (phrases : List PhraseInstance) : UInt32 :=
  (phrases.getLast?.map (·.end_beat)).getD 0

theorem beats_phrases (t : LumiPhraseTimeline) : beats t.phrases = t.total_beats := by
  have hwf := t.wellFormed
  rcases List.eq_nil_or_concat t.phrases with hnil | ⟨l, last, hlast⟩
  · exact absurd hnil hwf.not_empty
  have hcut := hwf.cut
  rw [hlast, List.concat_eq_append] at hcut
  obtain ⟨_, _, hend⟩ := tiling.tiles_snoc.mp hcut
  rw [beats, hlast, List.concat_eq_append, List.getLast?_concat]
  exact UInt32.toNat_inj.mp hend

/-- The track is open and its phrases are not protected, the database answers, and the rows can
be counted in the pages. -/
structure Ready (worker : LibraryWorker) (answers : DatabaseAnswers) (track_id : TrackId) :
    Prop where
  is_open : worker.editor_track_id = some track_id
  unlocked : worker.phrase_protections[track_id]?.getD false = false
  answered : ∀ call, answers call = none
  column : track_id.value.toNat < 2 ^ 63
  counted : (worker.revisions track_id).length < 2 ^ 32

def history_command (worker : LibraryWorker) (answers : DatabaseAnswers) (track_id : TrackId)
    (expected_revision : UInt64) : HistoryAction → LibraryWorker.Result LibraryWorker
  | .Undo => worker.undo_timeline answers track_id.value expected_revision
  | .Redo => worker.redo_timeline answers track_id.value expected_revision

/-- The command, sent for the head, appends a revision with these phrases. -/
def Restores (worker : LibraryWorker) (answers : DatabaseAnswers) (track_id : TrackId)
    (action : HistoryAction) (phrases : List PhraseInstance) : Prop :=
  ∃ head worker' t, worker.timeline_head track_id = some head ∧
    history_command worker answers track_id head.revision.value action = .ok worker' ∧
    worker'.revisions track_id = t :: worker.revisions track_id ∧ t.phrases = phrases

/-- The move of the model. -/
def Contents.move (s : Contents) : HistoryAction → Option Contents
  | .Undo => s.back
  | .Redo => s.forth

section commands

variable {worker : LibraryWorker} {answers : DatabaseAnswers} {track_id : TrackId} {s s' : Contents}
  {action : HistoryAction} {head : LumiPhraseTimeline}

theorem query_ok (hanswers : ∀ call, answers call = none) (call : Nat) :
    LibraryWorker.query answers call = .ok () := by
  rw [LibraryWorker.query, hanswers call]

theorem read_pages_succeeds (hanswers : ∀ call, answers call = none)
    {rows : List LumiPhraseTimeline} (hrows : rows.length < 2 ^ 32) (turns call : Nat)
    {offset : UInt32} (hoffset : offset.toNat ≤ rows.length) :
    ∃ read, read_pages answers rows turns call offset = .ok read := by
  induction turns generalizing call offset with
  | zero => exact ⟨_, rfl⟩
  | succ turns ih =>
    unfold read_pages
    rw [query_ok hanswers, ok_bind]
    dsimp only
    have hlen : ((rows.drop offset.toNat).take 200).length ≤ rows.length - offset.toNat := by
      rw [List.length_take, List.length_drop]
      exact Nat.min_le_right _ _
    rw [if_neg (by omega)]
    split
    · exact ⟨_, rfl⟩
    have hnext : (offset + UInt32.ofNat ((rows.drop offset.toNat).take 200).length).toNat ≤
        rows.length := by
      rw [UInt32.toNat_add, UInt32.toNat_ofNat']
      omega
    obtain ⟨read, hread⟩ := ih (call + 1) hnext
    exact ⟨_, bind_eq_ok.mpr ⟨read, hread, rfl⟩⟩

variable {history : TimelineHistory} {t target : LumiPhraseTimeline}

theorem restore_beats {reason : TimelineRevisionReason}
    (h : LumiPhraseTimeline.restore head target reason = .ok t) :
    head.total_beats = target.total_beats := by
  unfold LumiPhraseTimeline.restore at h
  split at h
  · cases h
  rename_i hcompatible
  rw [not_or, ne_eq, ne_eq, not_not, not_not] at hcompatible
  exact hcompatible.2

variable (hready : Ready worker answers track_id)
  (hacq : Acquired track_id (worker.revisions track_id) (some s))
  (hnot : ∀ row ∈ worker.revisions track_id, ¬ Copied row)
include hacq hnot

/-- Where nothing was copied, the target of the command has the content that the model moves
to. -/
theorem target_of_move (hmove : s.move action = some s') :
    ∃ history target, TimelineHistory.replay (summaries (worker.revisions track_id)) =
        .ok history ∧ history_target history action = .ok target.revision ∧
      (worker.revisions track_id).find? (·.revision = target.revision) = some target ∧
      target.phrases = s'.current := by
  obtain ⟨history, hreplay, hundo, hredo⟩ := hacq.faithful_iff.mpr hnot
  have hfind : ∀ {revision : TimelineRevision},
      phrases_of (worker.revisions track_id) revision = some s'.current →
      ∃ target, revision = target.revision ∧
        (worker.revisions track_id).find? (·.revision = target.revision) = some target ∧
        target.phrases = s'.current := by
    intro revision h
    obtain ⟨target, htarget, hphrases⟩ := Option.map_eq_some_iff.mp h
    have hrevision : target.revision = revision := by simpa using List.find?_some htarget
    exact ⟨target, hrevision.symm, hrevision ▸ htarget, hphrases⟩
  cases action with
  | Undo =>
    obtain ⟨hmodel, -⟩ := Stacks.back_eq_some.mp hmove
    rw [hmodel, List.map_cons] at hundo
    obtain ⟨revision, rest, hrest, hphrases, -⟩ := List.map_eq_cons_iff.mp hundo
    obtain ⟨target, rfl, hrow, hcurrent⟩ := hfind hphrases
    exact ⟨history, target, hreplay, by simp [history_target, hrest, ok_or], hrow, hcurrent⟩
  | Redo =>
    obtain ⟨hmodel, -⟩ := Stacks.forth_eq_some.mp hmove
    rw [hmodel, List.map_cons] at hredo
    obtain ⟨revision, rest, hrest, hphrases, -⟩ := List.map_eq_cons_iff.mp hredo
    obtain ⟨target, rfl, hrow, hcurrent⟩ := hfind hphrases
    exact ⟨history, target, hreplay, by simp [history_target, hrest, ok_or], hrow, hcurrent⟩

theorem current_of_head :
    ∃ head, worker.timeline_head track_id = some head ∧ head.phrases = s.current := by
  rcases hacq.replays with ⟨_, hnone⟩ | ⟨_, r, hsome, _, _, hn⟩
  · cases hnone
  cases hsome
  obtain ⟨head, hhead, hphrases⟩ := Option.map_eq_some_iff.mp (hn hnot).head
  exact ⟨head, timeline_head_eq.trans hhead, hphrases⟩

omit hnot

/-- What an undo or a redo appends reaches as far as the head before it. -/
theorem restore_from_history_beats {expected_revision : UInt64} {worker' : LibraryWorker}
    (h : worker.restore_from_history answers track_id.value expected_revision action =
      .ok worker') :
    ∃ head t, worker.timeline_head track_id = some head ∧
      worker'.revisions track_id = t :: worker.revisions track_id ∧
      beats t.phrases = beats head.phrases := by
  obtain ⟨_, _, h⟩ := bind_eq_ok.mp h
  obtain ⟨_, _, h⟩ := bind_eq_ok.mp h
  obtain ⟨head, hhead, h⟩ := bind_eq_ok.mp h
  obtain ⟨_, _, h⟩ := bind_eq_ok.mp h
  obtain ⟨_, _, h⟩ := bind_eq_ok.mp h
  obtain ⟨target, _, h⟩ := bind_eq_ok.mp h
  obtain ⟨t, hrestore, h⟩ := bind_eq_ok.mp h
  rw [map_err_eq_ok] at hrestore
  have hrow := head_of_ok hhead
  obtain ⟨happends, _, _, hphrases⟩ := writes_restore hacq hrow h hrestore
  refine ⟨head, t, timeline_head_eq.trans hrow, happends.row, ?_⟩
  rw [hphrases, beats_phrases, beats_phrases, restore_beats hrestore]

include hready

omit hacq in
theorem rebuild_history_succeeds (call : Nat)
    (h : TimelineHistory.replay (summaries (worker.revisions track_id)) = .ok history) :
    worker.rebuild_history answers call track_id = .ok history := by
  have hzero : (0 : UInt32).toNat ≤ (worker.revisions track_id).length := Nat.zero_le _
  obtain ⟨read, hread⟩ := read_pages_succeeds hready.answered hready.counted
    ((worker.revisions track_id).length + 1) call hzero
  have hrows := read_pages_ok hread (by simp)
  rw [UInt32.toNat_zero, List.drop_zero] at hrows
  subst hrows
  unfold LibraryWorker.rebuild_history
  rw [to_i64, if_pos hready.column, ok_bind]
  exact bind_eq_ok.mpr ⟨_, hread, h⟩

theorem append_succeeds (hhead : worker.timeline_head track_id = some head)
    (htrack : t.track_id = track_id) (ht : t.revision.value.toNat = head.revision.value.toNat + 1)
    (call : Nat) :
    ∃ worker', worker.append_timeline_revision answers call t (some head.revision) =
      .ok worker' := by
  have hlast := hacq.head_revision (timeline_head_eq ▸ hhead)
  have hcounted := hready.counted
  have hnext : head.revision.checked_next = some t.revision :=
    TimelineRevision.checked_next_eq_some.mpr ht.symm
  subst htrack
  unfold LibraryWorker.append_timeline_revision
  rw [to_i64, if_pos hready.column, ok_bind]
  dsimp only
  rw [hhead, Option.map_some, if_neg (not_not.mpr rfl), LibraryWorker.required_revision, hnext,
    ok_or, ok_bind, if_neg (not_not.mpr rfl), to_i64,
    if_pos (by omega), ok_bind, query_ok hready.answered, ok_bind]
  exact ⟨_, rfl⟩

section restore

variable (hhead : worker.timeline_head track_id = some head)
  (hreplay : TimelineHistory.replay (summaries (worker.revisions track_id)) = .ok history)
  (htop : history_target history action = .ok target.revision)
  (hfind : (worker.revisions track_id).find? (·.revision = target.revision) = some target)
include hhead hreplay htop hfind

omit hacq in
/-- Up to the restore nothing fails. -/
theorem history_command_eq :
    history_command worker answers track_id head.revision.value action =
      (LumiPhraseTimeline.restore head target (history_reason action)).map_err
        LibraryWorkerError.TimelineEdit >>= fun restored =>
          worker.append_timeline_revision answers 3 restored (some head.revision) := by
  have hcommand : history_command worker answers track_id head.revision.value action =
      worker.restore_from_history answers track_id.value head.revision.value action := by
    cases action <;> rfl
  have hopen : worker.require_open_track ⟨track_id.value⟩ = .ok () := by
    rw [LibraryWorker.require_open_track, if_neg (not_not.mpr hready.is_open)]
  have hunlocked : worker.require_phrases_unlocked answers 0 ⟨track_id.value⟩ = .ok () := by
    rw [LibraryWorker.require_phrases_unlocked, to_i64, if_pos hready.column,
      ok_bind, query_ok hready.answered, ok_bind, hready.unlocked]
    rfl
  have hexpected : worker.require_expected_head answers 1 ⟨track_id.value⟩ head.revision.value =
      .ok head := by
    rw [LibraryWorker.require_expected_head, TimelineRevision.try_new,
      dif_neg head.revision.positive, Except.toOption, ok_or,
      ok_bind, to_i64, if_pos hready.column, ok_bind,
      query_ok hready.answered, ok_bind, hhead, ok_or, ok_bind,
      if_neg (not_not.mpr rfl)]
  have htarget : worker.timeline_revision answers 2 ⟨track_id.value⟩ target.revision =
      .ok target := by
    rw [LibraryWorker.timeline_revision, query_ok hready.answered, ok_bind, hfind, ok_or]
  rw [hcommand, LibraryWorker.restore_from_history, hopen, ok_bind, hunlocked,
    ok_bind, hexpected, ok_bind, rebuild_history_succeeds hready 4 hreplay,
    ok_bind, htop, ok_bind, htarget, ok_bind]

/-- The command brings the target back exactly when it reaches as far as the head. -/
theorem restores_target_iff :
    Restores worker answers track_id action target.phrases ↔
      head.total_beats = target.total_beats := by
  have hcommand := history_command_eq hready hhead hreplay htop hfind
  constructor
  · rintro ⟨head', worker', t, hhead', hok, -, -⟩
    rw [hhead, Option.some.injEq] at hhead'
    subst hhead'
    rw [hcommand] at hok
    obtain ⟨_, hrestore, _⟩ := bind_eq_ok.mp hok
    exact restore_beats (map_err_eq_ok.mp hrestore)
  · intro htotal
    have hrow : (worker.revisions track_id).head? = some head := timeline_head_eq ▸ hhead
    have hmem := List.mem_of_find?_eq_some hfind
    have htrack := hacq.track head (List.mem_of_mem_head? hrow)
    have hlast := hacq.head_revision hrow
    have hbounded := hacq.bounded target hmem
    have hcounted := hready.counted
    have hreason : history_reason action = .Undo ∨
        history_reason action = .Redo ∨
        history_reason action = .RestoreRevision := by
      cases action
      · exact .inl rfl
      · exact .inr (.inl rfl)
    have hrev : head.revision.value < u64_max := by
      have hmax : u64_max.toNat = 2 ^ 64 - 1 := rfl
      rw [UInt64.lt_iff_toNat_lt]
      omega
    have hearlier : target.revision ≤ head.revision := by
      change target.revision.value ≤ head.revision.value
      rw [UInt64.le_iff_toNat_le]
      omega
    obtain ⟨t, hrestore, hback, hrevision, -, -, htrack', -⟩ := a_restore_brings_the_phrases_back
      (htrack.trans (hacq.track target hmem).symm) htotal hreason hrev hearlier
    obtain ⟨worker', happend⟩ := append_succeeds hready hacq hhead (htrack'.trans htrack)
      hrevision 3
    refine ⟨head, worker', t, hhead, ?_, ?_, hback⟩
    · rw [hcommand, hrestore]
      exact happend
    · exact (LibraryWorker.appends_of_ok happend (htrack'.trans htrack)).row

end restore

include hnot

/-- Where nothing was copied, a command brings back the content that the model moves to exactly
when this content reaches as far as the current one. -/
theorem restores_iff (hmove : s.move action = some s') :
    Restores worker answers track_id action s'.current ↔ beats s'.current = beats s.current := by
  obtain ⟨head, hhead, hcurrent⟩ := current_of_head hacq hnot
  obtain ⟨history, target, hreplay, htop, hfind, hphrases⟩ := target_of_move hacq hnot hmove
  rw [← hphrases, ← hcurrent, beats_phrases, beats_phrases, eq_comm (a := target.total_beats)]
  exact restores_target_iff hready hacq hhead hreplay htop hfind

end commands

/-! ## The law of the history -/

/-- No revision of the track is a copy. -/
def NoCopy (x : Timelines) (track_id : TrackId) : Prop :=
  ∀ row ∈ x.worker.revisions track_id, ¬ Copied row

/-- The command was one of the track's and has moved its head. -/
def Moved (x : Timelines) (command : TimelineCommand) (y : Timelines) (track_id : TrackId) : Prop :=
  command.track_id = track_id ∧
    y.worker.timeline_head track_id ≠ x.worker.timeline_head track_id

section moved

variable {library : LibraryWorker} {x : Timelines} {command : TimelineCommand} {track_id : TrackId}
  {s s' : Contents} (hmoved : Moved x command ((timelines library).step x command) track_id)
include hmoved

theorem step_of_moved :
    ∃ worker, command.operation.apply command.answers command.track_id x.worker = .ok worker ∧
      (timelines library).step x command = x.after command worker := by
  cases happly : command.operation.apply command.answers command.track_id x.worker with
  | ok worker =>
    refine ⟨worker, rfl, Machine.step_ok (r := x.after command worker) ?_⟩
    simp only [timelines, happly, Outcome.accepted]
    rfl
  | err e =>
    have herror : (timelines library).reduce x command = .error (some e) := by
      simp only [timelines, happly, Outcome.accepted]
      rfl
    rw [Machine.step_error herror] at hmoved
    exact absurd rfl hmoved.2
  | panicked =>
    have herror : (timelines library).reduce x command = .error none := by
      simp only [timelines, happly, Outcome.accepted]
      rfl
    rw [Machine.step_error herror] at hmoved
    exact absurd rfl hmoved.2

/-- The model follows a command that has moved the head. -/
theorem model_of_moved (hs : x.model track_id = some s)
    (hs' : ((timelines library).step x command).model track_id = some s') :
    ∃ phrases, follow command.operation.action phrases (some s) = some s' := by
  obtain ⟨worker, _, hstep⟩ := step_of_moved hmoved
  obtain ⟨rfl, hhead⟩ := hmoved
  rw [hstep] at hhead hs'
  change worker.timeline_head command.track_id ≠ _ at hhead
  unfold Timelines.after at hs'
  dsimp only at hs'
  rw [if_neg hhead, Function.update_self, hs] at hs'
  exact ⟨_, hs'⟩

/-- A command leaves the rows that there were. -/
theorem noCopy_before (hx : Modelled x)
    (h : NoCopy ((timelines library).step x command) track_id) : NoCopy x track_id := by
  obtain ⟨worker, happly, hstep⟩ := step_of_moved hmoved
  obtain ⟨rfl, _⟩ := hmoved
  intro row hrow
  refine h row ?_
  rw [hstep]
  rcases apply_writes (hx command.track_id) happly with hsame | ⟨t, happends, _⟩
  · exact (hsame command.track_id).symm ▸ hrow
  change row ∈ worker.revisions command.track_id
  rw [happends.row]
  exact List.mem_cons_of_mem t hrow

end moved

section law

variable {library : LibraryWorker} {commands : List TimelineCommand} {track_id : TrackId}
  {s : Contents}

/-- After every run the history of a track is faithful exactly when no revision of the track is a
copy. Without a copy, the current content is that of the head, and an undo or a redo brings back
the content of the model exactly when it reaches as far as the current one: so an undo after a
change brings back what was current before it, and a redo after an undo what was undone. -/
theorem the_history_is_faithful_without_copies
    (hs : ((timelines library).run commands).model track_id = some s) :
    (Faithful (((timelines library).run commands).worker.revisions track_id) s ↔
      NoCopy ((timelines library).run commands) track_id) ∧
    (NoCopy ((timelines library).run commands) track_id →
      (((timelines library).run commands).worker.timeline_head track_id).map (·.phrases) =
          some s.current ∧
      ∀ answers, Ready ((timelines library).run commands).worker answers track_id →
        (∀ action s', s.move action = some s' →
          (Restores ((timelines library).run commands).worker answers track_id action s'.current ↔
            beats s'.current = beats s.current)) ∧
        ∀ earlier command s0, commands = earlier ++ [command] →
          ((timelines library).run earlier).model track_id = some s0 →
          Moved ((timelines library).run earlier) command ((timelines library).run commands)
            track_id →
          (command.operation.action = none →
            (Restores ((timelines library).run commands).worker answers track_id .Undo s0.current ↔
              beats s0.current = beats s.current)) ∧
          (command.operation.action = some .Undo →
            Restores ((timelines library).run commands).worker answers track_id .Redo
              s0.current)) := by
  have hmodelled := modelled_reachable (Machine.reachable_run (m := timelines library) commands)
  have hacq := hmodelled track_id
  rw [hs] at hacq
  refine ⟨hacq.faithful_iff, fun hnot => ⟨?_, fun answers hready => ⟨fun action s' hmove =>
    restores_iff hready hacq hnot hmove, ?_⟩⟩⟩
  · obtain ⟨head, hhead, hcurrent⟩ := current_of_head hacq hnot
    rw [hhead, Option.map_some, hcurrent]
  · rintro earlier command s0 rfl hs0 hmoved
    rw [Machine.run_snoc] at hs hnot hmoved hacq hready ⊢
    have hearlier := modelled_reachable (Machine.reachable_run (m := timelines library) earlier)
    have hacq0 := hearlier track_id
    rw [hs0] at hacq0
    obtain ⟨phrases, hfollow⟩ := model_of_moved hmoved hs0 hs
    constructor
    · intro haction
      rw [haction] at hfollow
      cases hfollow
      have hback : Contents.move (s0.put phrases) .Undo = some { s0 with redo := [phrases] } := rfl
      have hiff := restores_iff hready hacq hnot hback
      exact hiff
    · intro haction
      rw [haction] at hfollow
      have hforth : s.move .Redo = some s0 := Stacks.forth_of_back hfollow
      refine (restores_iff hready hacq hnot hforth).mpr ?_
      -- The undo has taken a content that reaches as far as the one it left.
      obtain ⟨worker, happly, hstep⟩ := step_of_moved hmoved
      have hnot0 := noCopy_before hmoved hearlier hnot
      obtain ⟨rfl, -⟩ := hmoved
      obtain ⟨expected, hoperation⟩ : ∃ expected,
          command.operation = .History .Undo expected := by
        cases hop : command.operation with
        | History action expected =>
          rw [hop] at haction
          cases haction
          exact ⟨expected, rfl⟩
        | _ =>
          rw [hop] at haction
          cases haction
      rw [hoperation] at happly
      obtain ⟨head0, t, hhead0, hrow, hbeats⟩ := restore_from_history_beats hacq0 happly
      obtain ⟨head0', hhead0', hcurrent0⟩ := current_of_head hacq0 hnot0
      obtain ⟨head, hhead, hcurrent⟩ := current_of_head hacq hnot
      rw [hhead0, Option.some.injEq] at hhead0'
      subst hhead0'
      rw [hstep] at hhead
      change worker.timeline_head command.track_id = some head at hhead
      rw [timeline_head_eq, hrow, List.head?_cons, Option.some.injEq] at hhead
      subst hhead
      rw [← hcurrent0, ← hcurrent, hbeats]

/-- What the editor offers to undo or to redo is a revision of the track, and the command for the
head brings its phrases back exactly when it has as many beats as the head. -/
theorem an_offered_step_works_when_the_beats_agree {x : Timelines} {answers : DatabaseAnswers}
    {call : Nat} {history : TimelineHistory} {action : HistoryAction} {revision : TimelineRevision}
    (hx : (timelines library).Reachable x) (hready : Ready x.worker answers track_id)
    (hhistory : x.worker.rebuild_history answers call track_id = .ok history)
    (hoffered : history.top action = some revision) :
    ∃ head target, x.worker.timeline_head track_id = some head ∧
      target ∈ x.worker.revisions track_id ∧ target.revision = revision ∧
      (Restores x.worker answers track_id action target.phrases ↔
        head.total_beats = target.total_beats) := by
  have hacq := modelled_reachable hx track_id
  have hreplay := rebuild_history_ok hhistory
  obtain ⟨r, hloop, -, rfl⟩ := TimelineHistory.replay_eq_ok.mp hreplay
  have hholds : r.Holds revision := by
    cases action with
    | Undo => exact .inr (.inl (List.mem_of_mem_head? hoffered))
    | Redo => exact .inr (.inr (List.mem_of_mem_head? hoffered))
  obtain ⟨row, hrow, rfl⟩ := hacq.found hloop hholds
  obtain ⟨target, hfind⟩ : ∃ target, (x.worker.revisions track_id).find?
      (·.revision = row.revision) = some target :=
    Option.isSome_iff_exists.mp (List.find?_isSome.mpr ⟨row, hrow, by simp⟩)
  have hsame : target.revision = row.revision := by simpa using List.find?_some hfind
  rcases hacq.replays with ⟨hnil, -⟩ | ⟨s, _, hs, hne, -, -⟩
  · rw [hnil] at hrow
    cases hrow
  obtain ⟨head, hhead⟩ := Option.ne_none_iff_exists'.mp (mt List.head?_eq_none_iff.mp hne)
  rw [hs] at hacq
  rw [← hsame] at hfind hoffered
  refine ⟨head, target, timeline_head_eq.trans hhead, List.mem_of_find?_eq_some hfind, hsame, ?_⟩
  exact restores_target_iff hready hacq (timeline_head_eq.trans hhead) hreplay
    (history_target_eq_ok.mpr hoffered) hfind

end law

namespace sample

/-- A library with one role and no catalog. -/
def shelf : LibraryWorker where
  source_kind := "rekordbox"
  source_id := "demo"
  tracks := ∅
  timelines := ∅
  phrase_protections := ∅
  phrase_roles := []
  autoloop_catalog := ⟨0, 0, [], [], [], rfl⟩

/-- An analysis of as many beats, in two phrases that meet at beat 8. -/
def analysis (total_beats : UInt32) : LibraryWorker.MappedSource where
  revision := lumi_library.sample.timeline.baseline_revision
  total_beats := total_beats
  phrases := [.new 0 0 8 lumi_library.sample.role, .new 1 8 total_beats lumi_library.sample.role]

def send (track_id : TrackId) (operation : TimelineOperation) : TimelineCommand :=
  ⟨fun _ => none, track_id, operation⟩

/-- The track is imported, opened and split at beat 4. -/
def edited (track_id : TrackId) : List TimelineCommand :=
  [send track_id (.EnsureTimeline (analysis 16)), send track_id .Open,
    send track_id (.Edit 1 (.Split 0 4))]

/-- The second track is imported and takes over the phrases of the first. -/
def reused : List TimelineCommand :=
  edited ⟨1⟩ ++ [send ⟨2⟩ (.EnsureTimeline (analysis 16)), send ⟨2⟩ .Open,
    send ⟨2⟩ (.Reuse [⟨1⟩] 1 1)]

/-- The source comes back with eight beats more, and the timeline takes its phrases. -/
def reconciled : List TimelineCommand :=
  edited ⟨1⟩ ++ [send ⟨1⟩ (.Reconcile 2 (analysis 24) .ReplaceWithSource)]

/-- What an undo, sent for the revision, answers. -/
def undo_error (commands : List TimelineCommand) (track_id : TrackId) (revision : UInt64) :
    Option LibraryWorkerError :=
  match ((timelines shelf).run commands).worker.undo_timeline (fun _ => none) track_id.value
      revision with
  | .err e => some e
  | _ => none

/-- The reasons of the rows of a track, the head in front. -/
def reasons (commands : List TimelineCommand) (track_id : TrackId) : List TimelineRevisionReason :=
  (((timelines shelf).run commands).worker.revisions track_id).map (·.reason)

end sample

open sample

theorem ready_edited : Ready ((timelines shelf).run (edited ⟨1⟩)).worker (fun _ => none) ⟨1⟩ :=
  ⟨by decide +kernel, by decide +kernel, fun _ => rfl, by decide, by decide +kernel⟩

/-- The split can be undone, and the undo brings the two phrases of the analysis back. -/
theorem a_split_can_be_undone :
    ∃ s, ((timelines shelf).run (edited ⟨1⟩)).model ⟨1⟩ = some s ∧
      NoCopy ((timelines shelf).run (edited ⟨1⟩)) ⟨1⟩ ∧
      Faithful (((timelines shelf).run (edited ⟨1⟩)).worker.revisions ⟨1⟩) s ∧
      Restores ((timelines shelf).run (edited ⟨1⟩)).worker (fun _ => none) ⟨1⟩ .Undo
        (analysis 16).phrases := by
  have hmodel : (((timelines shelf).run (edited ⟨1⟩)).model ⟨1⟩).map
      (fun s => (s.undo, beats s.current)) = some ([(analysis 16).phrases], 16) := by
    decide +kernel
  have hrows : ∀ row ∈ ((timelines shelf).run (edited ⟨1⟩)).worker.revisions ⟨1⟩,
      ¬ Copied row := by decide +kernel
  obtain ⟨s, hs, hundo⟩ := Option.map_eq_some_iff.mp hmodel
  obtain ⟨hfaithful, hmoves⟩ := the_history_is_faithful_without_copies hs
  rw [Prod.mk.injEq] at hundo
  obtain ⟨hundo, hbeats⟩ := hundo
  have hmove : s.move .Undo = some ⟨[], (analysis 16).phrases, s.current :: s.redo⟩ := by
    simp [Contents.move, Stacks.back, hundo]
  refine ⟨s, hs, hrows, hfaithful.mpr hrows, ?_⟩
  refine (((hmoves hrows).2 _ ready_edited).1 .Undo _ hmove).mpr ?_
  rw [hbeats]
  change beats (analysis 16).phrases = 16
  decide

/-- After the phrases of another track are taken over, the history is corrupt and nothing can be
undone. After a reconcile that changes the length of the track the undo is refused. -/
theorem a_reused_timeline_has_a_corrupt_history :
    reasons reused ⟨2⟩ = [.RestoreRevision, .InitialSourceMapping] ∧
      TimelineHistory.replay (summaries (((timelines shelf).run reused).worker.revisions ⟨2⟩)) =
        .err .CorruptHistory ∧
      undo_error reused ⟨2⟩ 2 = some .CorruptHistory ∧
      reasons reconciled ⟨1⟩ = [.SourceReconcile, .SplitPhrase, .InitialSourceMapping] ∧
      undo_error reconciled ⟨1⟩ 3 = some (.TimelineEdit .IncompatibleRevision) :=
  ⟨by decide +kernel, by decide +kernel, by decide +kernel, by decide +kernel,
    by decide +kernel⟩

/-- The undo of the split is offered, and works. -/
theorem an_offered_undo_takes_the_split_back : ∃ target : LumiPhraseTimeline,
    target.revision.value = 1 ∧
      Restores ((timelines shelf).run (edited ⟨1⟩)).worker (fun _ => none) ⟨1⟩ .Undo
        target.phrases := by
  have hhistory : ((timelines shelf).run (edited ⟨1⟩)).worker.rebuild_history (fun _ => none) 0
      ⟨1⟩ = .ok ⟨[⟨1, by decide⟩], []⟩ := by decide +kernel
  have hoffered : TimelineHistory.top ⟨[⟨1, by decide⟩], []⟩ .Undo = some ⟨1, by decide⟩ := rfl
  have hbeats : ∀ row ∈ ((timelines shelf).run (edited ⟨1⟩)).worker.revisions ⟨1⟩,
      row.total_beats = 16 := by decide +kernel
  obtain ⟨head, target, hhead, hmem, hrevision, hworks⟩ :=
    an_offered_step_works_when_the_beats_agree (Machine.reachable_run _) ready_edited hhistory
      hoffered
  rw [timeline_head_eq] at hhead
  refine ⟨target, by rw [hrevision], hworks.mpr ?_⟩
  rw [hbeats head (List.mem_of_mem_head? hhead), hbeats target hmem]

/-- After a reconcile that changes the length of the track an undo is offered, and is refused. -/
theorem an_undo_is_offered_and_refused :
    ((timelines shelf).run reconciled).worker.rebuild_history (fun _ => none) 0 ⟨1⟩ =
        .ok ⟨[⟨2, by decide⟩, ⟨1, by decide⟩], []⟩ ∧
      (((timelines shelf).run reconciled).worker.timeline_head ⟨1⟩).map (·.revision.value) =
        some 3 ∧
      undo_error reconciled ⟨1⟩ 3 = some (.TimelineEdit .IncompatibleRevision) :=
  ⟨by decide +kernel, by decide +kernel, by decide +kernel⟩

end lumi_engine
