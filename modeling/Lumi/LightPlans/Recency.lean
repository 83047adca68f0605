-- Which plans the protections against repeats look at. A plan is live while
-- it is reserved or among the committed ones that are kept. The history looks
-- at the committed plans first and then goes through the reserved ones by
-- their names, so it sees the newest plans first only while the two orders
-- agree.
import Lumi.LightPlans.Policy

open rust
open List (filter_cons_of_pos map_cons map_map map_take mem_cons mem_cons_self nodup_cons
  take_succ_cons)

namespace lumi_light_plans

/-! ## Calls on a history -/

inductive HistoryCall where
  | reserve (reservation_id : String) (plan : CompiledLightPlan)
  | release (reservation_id : String)
  | commit (reservation_id : String)

namespace VariationHistory

def call (self : VariationHistory) : HistoryCall → VariationHistory
  | .reserve reservation_id plan => self.reserve reservation_id plan
  | .release reservation_id => self.release reservation_id
  | .commit reservation_id => self.commit reservation_id

/-- The history after the calls, from the empty one. -/
def after (calls : List HistoryCall) : VariationHistory := calls.foldl call default

end VariationHistory

/-! ## The live plans by time -/

/-- A live plan: it is reserved under a name, or it is committed. -/
structure Live where
  name : Option String
  entry : PlanHistoryEntry

namespace Live

/-- The plans without the committed ones behind the first `n`. -/
def keep_committed : Nat → List Live → List Live
  | _, [] => []
  | n, ⟨some name, entry⟩ :: lives => ⟨some name, entry⟩ :: keep_committed n lives
  | 0, ⟨none, _⟩ :: lives => keep_committed 0 lives
  | n + 1, ⟨none, entry⟩ :: lives => ⟨none, entry⟩ :: keep_committed n lives

/-- A plan that is reserved or committed becomes the newest one. -/
def touch (lives : List Live) : HistoryCall → List Live
  | .reserve reservation_id plan =>
    ⟨some reservation_id, history_entry plan⟩ :: lives.filter (·.name ≠ some reservation_id)
  | .release reservation_id => lives.filter (·.name ≠ some reservation_id)
  | .commit reservation_id =>
    match lives.find? (·.name = some reservation_id) with
    | none => lives
    | some live => keep_committed HISTORY_LIMIT
        (⟨none, live.entry⟩ :: lives.filter (·.name ≠ some reservation_id))

end Live

/-- The live plans, ordered by the time of the call that reserved or committed them last, the
newest first. -/
def live (calls : List HistoryCall) : List Live := calls.foldl Live.touch []

def variant_uses (role_id : String) (entries : List PlanHistoryEntry) : List String :=
  entries.flatMap fun entry => (entry.by_role[role_id]?.getD []).reverse

def modifier_uses (entries : List PlanHistoryEntry) : List String :=
  entries.flatMap fun entry => entry.modifiers.reverse

/-- For every limit, what the history treats as recent are the newest uses of the live plans. -/
structure NewestProtect (history : VariationHistory) (lives : List Live) : Prop where
  variants : ∀ role_id limit variant, variant ∈ history.recent_variants role_id limit ↔
    variant ∈ (variant_uses role_id (lives.map Live.entry)).take limit
  modifiers : ∀ limit modifier, modifier ∈ history.recent_modifiers limit ↔
    modifier ∈ (modifier_uses (lives.map Live.entry)).take limit
  signatures : ∀ limit signature, signature ∈ history.recent_signatures limit ↔
    signature ∈ ((lives.map (·.entry.signature)).take limit)

/-! ## The kept plans -/

def Live.committed (live : Live) : Bool := live.name.isNone

@[simp] theorem committed_none (entry : PlanHistoryEntry) : Live.committed ⟨none, entry⟩ = true :=
  rfl

@[simp] theorem committed_some (name : String) (entry : PlanHistoryEntry) :
    Live.committed ⟨some name, entry⟩ = false := rfl

theorem filter_keep (n : Nat) (lives : List Live) :
    (Live.keep_committed n lives).filter Live.committed = (lives.filter Live.committed).take n ∧
      (Live.keep_committed n lives).filter (fun live => !live.committed) =
        lives.filter fun live => !live.committed := by
  induction lives generalizing n with
  | nil => simp [Live.keep_committed]
  | cons live lives ih =>
    obtain ⟨name, entry⟩ := live
    cases name with
    | some name => simp [Live.keep_committed, ih n]
    | none =>
      cases n with
      | zero => simp [Live.keep_committed, ih 0]
      | succ n =>
        refine ⟨?_, by simp [Live.keep_committed, ih n]⟩
        rw [Live.keep_committed, filter_cons_of_pos rfl, filter_cons_of_pos rfl, (ih n).1,
          take_succ_cons]

/-! ## The history tracks the live plans -/

/-- The reserved ones among the plans, with their names. -/
def reservations (lives : List Live) : List (String × PlanHistoryEntry) :=
  lives.filterMap fun live => live.name.map (·, live.entry)

structure Tracks (history : VariationHistory) (lives : List Live) : Prop where
  committed : history.committed.reverse = (lives.filter Live.committed).map Live.entry
  reserved : ∀ name entry, history.reserved[name]? = some entry ↔
    (name, entry) ∈ reservations lives
  names : ((reservations lives).map Prod.fst).Nodup

section tracks

variable {history : VariationHistory} (name : String) (lives : List Live)

theorem reservations_filter :
    reservations (lives.filter (·.name ≠ some name)) =
      (reservations lives).filter (·.1 ≠ name) := by
  induction lives with
  | nil => rfl
  | cons live lives ih =>
    obtain ⟨other, entry⟩ := live
    unfold reservations at ih ⊢
    cases other with
    | none => simpa using ih
    | some other =>
      by_cases h : other = name
      · simpa [h] using ih
      · simpa [h] using ih

theorem committed_filter :
    (lives.filter (·.name ≠ some name)).filter Live.committed = lives.filter Live.committed := by
  rw [List.filter_filter]
  congr 1
  funext live
  cases h : live.name <;> simp [Live.committed, h]

theorem reservations_eq :
    reservations lives = reservations (lives.filter fun live => !live.committed) := by
  induction lives with
  | nil => rfl
  | cons live lives ih =>
    obtain ⟨name, entry⟩ := live
    unfold reservations at ih ⊢
    cases name <;> simpa using ih

variable {lives} (h : Tracks history lives)
include h

theorem Tracks.erase :
    (∀ other entry, (history.reserved.erase name)[other]? = some entry ↔
      (other, entry) ∈ reservations (lives.filter (·.name ≠ some name))) ∧
    ((reservations (lives.filter (·.name ≠ some name))).map Prod.fst).Nodup := by
  constructor
  · intro other entry
    rw [map_get_erase, reservations_filter, List.mem_filter, ← h.reserved]
    by_cases hname : name = other
    · simp [hname]
    · simp [hname, Ne.symm hname]
  · rw [reservations_filter]
    exact h.names.sublist (List.filter_sublist.map _)

theorem tracks_reserve (plan : CompiledLightPlan) :
    Tracks (history.reserve name plan) (Live.touch lives (.reserve name plan)) := by
  obtain ⟨hreserved, hnames⟩ := h.erase name
  refine ⟨?_, ?_, ?_⟩
  · show history.committed.reverse = _
    rw [h.committed, Live.touch, List.filter_cons_of_neg (by simp), committed_filter]
  · intro other entry
    show (history.reserved.insert name _)[other]? = _ ↔ (other, entry) ∈
      (name, history_entry plan) :: reservations (lives.filter (·.name ≠ some name))
    rw [map_get_insert, mem_cons, ← hreserved, map_get_erase]
    by_cases hname : name = other
    · simp [hname, eq_comm]
    · simp [hname, Ne.symm hname]
  · show ((name, history_entry plan) ::
      reservations (lives.filter (·.name ≠ some name))).map Prod.fst |>.Nodup
    rw [map_cons, nodup_cons]
    refine ⟨?_, hnames⟩
    rw [reservations_filter]
    simp

theorem tracks_release : Tracks (history.release name) (Live.touch lives (.release name)) := by
  obtain ⟨hreserved, hnames⟩ := h.erase name
  refine ⟨?_, hreserved, hnames⟩
  show history.committed.reverse = ((lives.filter _).filter _).map _
  rw [h.committed, committed_filter]

theorem find_live :
    (lives.find? (·.name = some name)).map Live.entry = history.reserved[name]? := by
  cases hfind : lives.find? (·.name = some name) with
  | none =>
    cases hget : history.reserved[name]? with
    | none => rfl
    | some entry =>
      obtain ⟨live, hlive, heq⟩ := List.mem_filterMap.mp ((h.reserved name entry).mp hget)
      have hnot := List.find?_eq_none.mp hfind live hlive
      obtain ⟨other, hother, heq'⟩ := Option.map_eq_some_iff.mp heq
      cases heq'
      simp [hother] at hnot
  | some live =>
    have hname : live.name = some name := by simpa using List.find?_some hfind
    have hmem : (name, live.entry) ∈ reservations lives :=
      List.mem_filterMap.mpr ⟨live, List.mem_of_find?_eq_some hfind, by simp [hname]⟩
    exact ((h.reserved name live.entry).mpr hmem).symm

theorem tracks_commit : Tracks (history.commit name) (Live.touch lives (.commit name)) := by
  have hfind := find_live name h
  cases hlive : lives.find? (·.name = some name) with
  | none =>
    rw [hlive, Option.map_none] at hfind
    have hcommit : history.commit name = history := by
      simp [VariationHistory.commit, ← hfind]
    have htouch : Live.touch lives (.commit name) = lives := by
      simp only [Live.touch, hlive]
    rw [hcommit, htouch]
    exact h
  | some live =>
    rw [hlive, Option.map_some] at hfind
    obtain ⟨hreserved, hnames⟩ := h.erase name
    have htouch : Live.touch lives (.commit name) = Live.keep_committed HISTORY_LIMIT
        (⟨none, live.entry⟩ :: lives.filter (·.name ≠ some name)) := by
      simp only [Live.touch, hlive]
    have hreservations : reservations (Live.touch lives (.commit name)) =
        reservations (lives.filter (·.name ≠ some name)) := by
      rw [htouch, reservations_eq, (filter_keep _ _).2, ← reservations_eq]
      rfl
    unfold VariationHistory.commit
    rw [← hfind]
    refine ⟨?_, ?_, ?_⟩
    · -- The committed plans are cut from the front, so the newest are kept.
      dsimp only
      rw [htouch, (filter_keep ..).1, filter_cons_of_pos rfl, committed_filter, map_take,
        map_cons, ← h.committed, List.reverse_drop, List.reverse_append]
      simp only [List.reverse_singleton, List.singleton_append, List.length_append,
        List.length_singleton]
      rw [List.take_eq_take_iff]
      simp only [List.length_cons, List.length_reverse]
      omega
    · intro other entry
      rw [hreservations]
      exact hreserved other entry
    · rw [hreservations]
      exact hnames

omit h

/-- Every history tracks its live plans. -/
theorem tracks_after (calls : List HistoryCall) :
    Tracks (VariationHistory.after calls) (live calls) := by
  induction calls using List.reverseRecOn with
  | nil => exact ⟨rfl, fun name entry => by simp [VariationHistory.after, VariationHistory.default,
      live, reservations], List.nodup_nil⟩
  | append_singleton calls call ih =>
    unfold VariationHistory.after live at ih ⊢
    rw [List.foldl_append, List.foldl_append]
    cases call with
    | reserve name plan => exact tracks_reserve name ih plan
    | release name => exact tracks_release name ih
    | commit name => exact tracks_commit name ih

end tracks

/-! ## The order of the looks -/

namespace VariationHistory

/-- The live plans in the order of `entries`. -/
def looks (self : VariationHistory) : List Live :=
  self.committed.reverse.map (⟨none, ·⟩) ++
    self.reserved.toList.reverse.map fun reservation => ⟨some reservation.1, reservation.2⟩

theorem entries_eq (self : VariationHistory) : self.entries = self.looks.map Live.entry := by
  unfold entries looks
  rw [List.map_append, map_map, map_map, ← List.map_reverse]
  simp [Function.comp_def]

end VariationHistory

/-- The newer plan is looked at before the older one. -/
def Before (newer older : Live) : Prop :=
  match newer.name, older.name with
  | none, _ => True
  | some _, none => False
  | some newer, some older => older < newer

instance (newer older : Live) : Decidable (Before newer older) := by
  unfold Before
  split <;> infer_instance

/-- No reservation is newer than a committed plan, and a newer reservation has the greater
name. -/
def InOrder (lives : List Live) : Prop := lives.Pairwise Before

section order

variable {history : VariationHistory} {lives : List Live}

theorem committed_first (h : InOrder lives) :
    lives = lives.filter Live.committed ++ lives.filter fun live => !live.committed := by
  induction lives with
  | nil => rfl
  | cons live lives ih =>
    obtain ⟨hfirst, hrest⟩ := List.pairwise_cons.mp h
    obtain ⟨name, entry⟩ := live
    rcases name with _ | name
    · rw [filter_cons_of_pos rfl, List.filter_cons_of_neg (by simp), List.cons_append, ← ih hrest]
    have hreserved : ∀ other ∈ lives, other.committed = false := by
      intro other hother
      have hbefore := hfirst other hother
      unfold Before at hbefore
      cases hname : other.name with
      | none =>
        rw [hname] at hbefore
        exact hbefore.elim
      | some _ => simp [Live.committed, hname]
    rw [List.filter_cons_of_neg (by simp), filter_cons_of_pos (by simp),
      List.filter_eq_nil_iff.mpr (by simpa using hreserved),
      List.filter_eq_self.mpr (by simpa using hreserved)]
    rfl

/-- A committed plan has no name. -/
theorem map_committed (lives : List Live) :
    ((lives.filter Live.committed).map Live.entry).map (⟨none, ·⟩) =
      lives.filter Live.committed := by
  rw [map_map]
  conv_rhs => rw [← List.map_id (lives.filter Live.committed)]
  apply List.map_congr_left
  intro live hlive
  have hname := (List.mem_filter.mp hlive).2
  obtain ⟨name, entry⟩ := live
  cases name with
  | none => rfl
  | some name => cases hname

/-- A reserved plan is its reservation. -/
theorem map_reservations (lives : List Live) :
    (reservations lives).map (fun reservation => (⟨some reservation.1, reservation.2⟩ : Live)) =
      lives.filter fun live => !live.committed := by
  induction lives with
  | nil => rfl
  | cons live lives ih =>
    obtain ⟨name, entry⟩ := live
    unfold reservations at ih ⊢
    cases name <;> simpa using ih

theorem reservations_perm (h : Tracks history lives) :
    history.reserved.toList.Perm (reservations lives) := by
  apply (List.perm_ext_iff_of_nodup ?_ ?_).mpr
  · rintro ⟨name, entry⟩
    rw [Std.ExtTreeMap.mem_toList_iff_getElem?_eq_some]
    exact h.reserved name entry
  · apply List.nodup_iff_pairwise_ne.mpr
    refine Std.ExtTreeMap.distinct_keys_toList.imp ?_
    rintro reservation _ hne rfl
    exact hne Std.ReflCmp.compare_self
  · exact h.names.of_map

/-- The history looks at the live plans, each once. -/
theorem looks_perm (h : Tracks history lives) : history.looks.Perm lives := by
  unfold VariationHistory.looks
  rw [h.committed, map_committed]
  refine List.Perm.trans ?_ (List.filter_append_perm Live.committed lives)
  apply List.Perm.append_left
  rw [← map_reservations]
  exact ((List.reverse_perm _).trans (reservations_perm h)).map _

theorem reserved_inOrder (history : VariationHistory) :
    history.reserved.toList.reverse.Pairwise fun newer older => older.1 < newer.1 := by
  rw [List.pairwise_reverse]
  exact Std.ExtTreeMap.ordered_keys_toList.imp compare_lt_iff_lt.mp

/-- It looks at the committed plans first, and then goes down the names. -/
theorem looks_inOrder (history : VariationHistory) : InOrder history.looks := by
  unfold InOrder VariationHistory.looks
  rw [List.pairwise_append]
  refine ⟨?_, ?_, ?_⟩
  · rw [List.pairwise_map]
    exact List.pairwise_of_forall fun _ _ => trivial
  · rw [List.pairwise_map]
    exact reserved_inOrder history
  · intro newer hnewer older _
    obtain ⟨entry, -, rfl⟩ := List.mem_map.mp hnewer
    trivial

theorem reservations_inOrder (h : InOrder lives) :
    (reservations lives).Pairwise fun newer older => older.1 < newer.1 := by
  unfold reservations
  rw [List.pairwise_filterMap]
  refine h.imp ?_
  intro newer older hbefore a ha b hb
  obtain ⟨newer_name, hnewer, rfl⟩ := Option.map_eq_some_iff.mp ha
  obtain ⟨older_name, holder, rfl⟩ := Option.map_eq_some_iff.mp hb
  unfold Before at hbefore
  rwa [hnewer, holder] at hbefore

/-- While the orders agree, the history looks at the newest plans first. -/
theorem looks_eq (h : Tracks history lives) (horder : InOrder lives) : history.looks = lives := by
  have hreserved : history.reserved.toList.reverse = reservations lives := by
    refine (reserved_inOrder history).eq_of_mem_iff (reservations_inOrder horder) ?_
    intro reservation
    rw [List.mem_reverse]
    exact (reservations_perm h).mem_iff
  unfold VariationHistory.looks
  rw [h.committed, map_committed, hreserved, map_reservations, ← committed_first horder]

/-! ## The law -/

theorem protect_of_looks (h : history.looks = lives) : NewestProtect history lives := by
  have hentries : history.entries = lives.map Live.entry := by
    rw [history.entries_eq, h]
  refine ⟨?_, ?_, ?_⟩
  · intro role_id limit variant
    rw [VariationHistory.recent_variants, hentries]
    rfl
  · intro limit modifier
    rw [VariationHistory.recent_modifiers, hentries]
    rfl
  · intro limit signature
    rw [VariationHistory.recent_signatures, hentries, ← map_take, map_map]
    rw [map_take]
    rfl

end order

/-- Two sequences without repeats whose beginnings have the same elements are the same. -/
theorem eq_of_mem_take {α : Type} {l l' : List α} (hl : l.Nodup) (hl' : l'.Nodup)
    (h : ∀ k a, a ∈ l.take k ↔ a ∈ l'.take k) : l = l' := by
  induction l generalizing l' with
  | nil =>
    cases l' with
    | nil => rfl
    | cons a l' => simpa using h 1 a
  | cons a l ih =>
    cases l' with
    | nil => simpa using h 1 a
    | cons b l' =>
      have hab : a = b := by simpa using h 1 a
      subst hab
      obtain ⟨ha, hl⟩ := nodup_cons.mp hl
      obtain ⟨hb, hl'⟩ := nodup_cons.mp hl'
      congr 1
      apply ih hl hl'
      intro k c
      have hk := h (k + 1) c
      rw [take_succ_cons, take_succ_cons, mem_cons, mem_cons] at hk
      constructor
      · intro hc
        rcases hk.mp (.inr hc) with rfl | hc'
        · exact absurd (List.mem_of_mem_take hc) ha
        · exact hc'
      · intro hc
        rcases hk.mpr (.inr hc) with rfl | hc'
        · exact absurd (List.mem_of_mem_take hc) hb
        · exact hc'

theorem eq_of_map_eq {α β : Type} {f : α → β} {l l' : List α}
    (hinj : ∀ a ∈ l, ∀ b ∈ l', f a = f b → a = b) (h : l.map f = l'.map f) : l = l' := by
  induction l generalizing l' with
  | nil => simpa using h.symm
  | cons a l ih =>
    cases l' with
    | nil => simp at h
    | cons b l' =>
      rw [map_cons, map_cons, List.cons.injEq] at h
      rw [hinj a mem_cons_self b mem_cons_self h.1]
      congr 1
      apply ih _ h.2
      intro c hc d hd
      exact hinj c (List.mem_cons_of_mem _ hc) d (List.mem_cons_of_mem _ hd)

/-- The history treats the newest uses as recent when no reservation is newer than a committed
plan and the newer reservations have the greater names, and then the plan that was reserved or
committed last takes part. Where the live plans have signatures of their own, it does so only
then. -/
theorem the_newest_plans_protect_while_they_are_looked_at_first (calls : List HistoryCall) :
    (InOrder (live calls) → NewestProtect (VariationHistory.after calls) (live calls) ∧
      ∀ newest older limit, live calls = newest :: older → 1 ≤ limit →
        newest.entry.signature ∈ (VariationHistory.after calls).recent_signatures limit) ∧
    (((live calls).map (·.entry.signature)).Nodup →
      NewestProtect (VariationHistory.after calls) (live calls) → InOrder (live calls)) := by
  have htracks := tracks_after calls
  constructor
  · intro horder
    have hprotect := protect_of_looks (looks_eq htracks horder)
    refine ⟨hprotect, ?_⟩
    intro newest older limit hlive hlimit
    obtain ⟨k, rfl⟩ := Nat.exists_eq_add_of_le' hlimit
    rw [hprotect.signatures, hlive, map_cons, take_succ_cons]
    exact mem_cons_self
  · intro hdistinct hprotect
    -- The signatures come in the same order, and each names one plan.
    have hperm := looks_perm htracks
    have hsignatures : (VariationHistory.after calls).looks.map (·.entry.signature) =
        (live calls).map (·.entry.signature) := by
      refine eq_of_mem_take ((hperm.map _).nodup_iff.mpr hdistinct) hdistinct ?_
      intro k signature
      rw [← hprotect.signatures, VariationHistory.recent_signatures, VariationHistory.entries_eq,
        ← map_take, ← map_take, map_map]
      rfl
    have hlooks : (VariationHistory.after calls).looks = live calls := by
      refine eq_of_map_eq ?_ hsignatures
      intro live hlive other hother heq
      exact List.inj_on_of_nodup_map hdistinct (hperm.mem_iff.mp hlive) hother heq
    rw [← hlooks]
    exact looks_inOrder _

namespace recency

/-- A plan without choices, with a signature. -/
def signed (signature : UInt64) : CompiledLightPlan where
  policy_revision := 1
  variation_seed := 0
  theme_id := 1
  choices := []
  modifier_choices := []
  signature

/-- The plan reserved for the next track is committed when that track plays. -/
def committed_last : List HistoryCall :=
  [.reserve "track-load:1" (signed 1), .commit "track-load:1", .reserve "track-load:2" (signed 2),
    .commit "track-load:2"]

def reserved_last : List HistoryCall :=
  [.reserve "track-load:1" (signed 1), .commit "track-load:1", .reserve "track-load:2" (signed 2)]

def two_reserved : List HistoryCall :=
  [.reserve "track-load:9" (signed 9), .reserve "track-load:10" (signed 10)]

end recency

theorem the_committed_plans_protect :
    InOrder (live recency.committed_last) ∧
    NewestProtect (VariationHistory.after recency.committed_last) (live recency.committed_last) :=
  have horder : InOrder (live recency.committed_last) := by
    unfold InOrder
    decide +kernel
  ⟨horder,
    ((the_newest_plans_protect_while_they_are_looked_at_first recency.committed_last).1 horder).1⟩

/-- A plan that is reserved behind a committed one does not take part with the limit one, and of
two reserved plans the greater name wins, whichever is newer. -/
theorem the_plan_reserved_last_does_not_protect :
    (live recency.reserved_last).map (·.entry.signature) = [2, 1] ∧
    (VariationHistory.after recency.reserved_last).recent_signatures 1 = [1] ∧
    (live recency.two_reserved).map (·.entry.signature) = [10, 9] ∧
    (VariationHistory.after recency.two_reserved).recent_signatures 1 = [9] := by
  decide +kernel

end lumi_light_plans
