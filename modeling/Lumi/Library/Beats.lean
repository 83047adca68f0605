-- What an edit means for the beats of a track: each command paints one range of
-- beats with a role and a strategy, and leaves all other beats as they are.
import Lumi.Library.Editing

open tiling
open UInt32 (le_iff_toNat_le lt_iff_toNat_lt)

namespace lumi_library

/-! ## The beats of a timeline -/

/-- What a phrase says of its beats. -/
def PhraseInstance.content (phrase : PhraseInstance) : PhraseRoleId × PhraseLoopStrategy :=
  (phrase.role_id, phrase.loop_strategy)

/-- What the phrases show at a beat. -/
abbrev showing (phrases : List PhraseInstance) (beat : Nat) :
    Option (PhraseRoleId × PhraseLoopStrategy) :=
  shown (·.end_beat.toNat) PhraseInstance.content phrases beat

theorem SameBut.showing {phrases after : List PhraseInstance} (h : SameBut phrases after)
    (beat : Nat) : showing after beat = showing phrases beat := by
  have hbare (l : List PhraseInstance) :
      lumi_library.showing (l.map PhraseInstance.bare) beat = lumi_library.showing l beat :=
    shown_map
  rw [← hbare after, h, hbare]

namespace LumiPhraseTimeline

variable (t : LumiPhraseTimeline)

/-- The phrase that contains the beat. -/
def phrase_at (beat : Nat) : Option PhraseInstance :=
  t.phrases.find? fun phrase =>
    phrase.start_beat.toNat ≤ beat ∧ beat < phrase.end_beat.toNat

def content (beat : Nat) : Option (PhraseRoleId × PhraseLoopStrategy) :=
  (t.phrase_at beat).map PhraseInstance.content

def role (beat : Nat) : Option PhraseRoleId :=
  (t.content beat).map (·.1)

/-- The phrase that contains a beat is the only one. -/
theorem phrase_at_eq_some {t : LumiPhraseTimeline} {beat : Nat} {phrase : PhraseInstance} :
    t.phrase_at beat = some phrase ↔
      phrase ∈ t.phrases ∧ phrase.start_beat.toNat ≤ beat ∧ beat < phrase.end_beat.toNat := by
  unfold phrase_at
  constructor
  · intro h
    exact ⟨List.mem_of_find?_eq_some h, by simpa using List.find?_some h⟩
  · rintro ⟨hmem, hin⟩
    cases hfind : t.phrases.find? fun phrase =>
        phrase.start_beat.toNat ≤ beat ∧ beat < phrase.end_beat.toNat with
    | none => exact absurd (decide_eq_true hin) (List.find?_eq_none.mp hfind phrase hmem)
    | some other =>
      have hother := List.find?_some hfind
      have hsame := t.wellFormed.cut.unique hmem (List.mem_of_find?_eq_some hfind) hin
        (by simpa using hother)
      rw [hsame]

theorem content_eq_showing : t.content = showing t.phrases := by
  funext beat
  exact t.wellFormed.cut.find?_map (Nat.zero_le beat)

end LumiPhraseTimeline

/-- The beats that a command paints, and what they get: read off the phrases that it finds. -/
def TimelineEditCommand.stroke (phrases : List PhraseInstance) :
    TimelineEditCommand → Option (Stroke Nat (PhraseRoleId × PhraseLoopStrategy))
  | .Create start_beat end_beat role_id =>
    some ⟨start_beat.toNat, end_beat.toNat, (role_id, .Auto)⟩
  | .Split phrase_index at_beat => do
    let phrase ← phrases[phrase_index.toNat]?
    some ⟨at_beat.toNat, phrase.end_beat.toNat, (phrase.role_id, .Auto)⟩
  | .MergePrevious phrase_index => do
    let previous ← phrases[phrase_index.toNat - 1]?
    let phrase ← phrases[phrase_index.toNat]?
    some ⟨previous.start_beat.toNat, phrase.end_beat.toNat, phrase.content⟩
  | .MergeNext phrase_index => do
    let phrase ← phrases[phrase_index.toNat]?
    let next ← phrases[phrase_index.toNat + 1]?
    some ⟨phrase.start_beat.toNat, next.end_beat.toNat, phrase.content⟩
  | .MoveBoundary boundary_after_phrase_index to_beat => do
    let left ← phrases[boundary_after_phrase_index.toNat]?
    let right ← phrases[boundary_after_phrase_index.toNat + 1]?
    -- The phrase that grows takes the beats between the boundaries.
    if left.end_beat ≤ to_beat then
      some ⟨left.end_beat.toNat, to_beat.toNat, left.content⟩
    else some ⟨to_beat.toNat, left.end_beat.toNat, right.content⟩
  | .Delete phrase_index .Previous => do
    let previous ← phrases[phrase_index.toNat - 1]?
    let removed ← phrases[phrase_index.toNat]?
    some ⟨removed.start_beat.toNat, removed.end_beat.toNat, previous.content⟩
  | .Delete phrase_index .Next => do
    let removed ← phrases[phrase_index.toNat]?
    let next ← phrases[phrase_index.toNat + 1]?
    some ⟨removed.start_beat.toNat, removed.end_beat.toNat, next.content⟩
  | .ChangeRole phrase_index role_id => do
    let phrase ← phrases[phrase_index.toNat]?
    some ⟨phrase.start_beat.toNat, phrase.end_beat.toNat, (role_id, .Auto)⟩
  | .SetLoopStrategy phrase_index strategy => do
    let phrase ← phrases[phrase_index.toNat]?
    some ⟨phrase.start_beat.toNat, phrase.end_beat.toNat, (phrase.role_id, strategy)⟩

/-! ## What a patch paints -/

section paints

variable {command : TimelineEditCommand} {mid mid' : List PhraseInstance}
  {start_beat end_beat : UInt32} {x y : PhraseInstance}

variable (phrase : PhraseInstance) {role_id : PhraseRoleId} {b a : Nat} {index : UInt16}

@[grind =] theorem PhraseInstance.between_content :
    (phrase.between start_beat end_beat).content = phrase.content := rfl

@[grind =] theorem PhraseInstance.between_role :
    (phrase.between start_beat end_beat).role_id = phrase.role_id := rfl

@[grind =] theorem PhraseInstance.new_content :
    (PhraseInstance.new index start_beat end_beat role_id).content = (role_id, .Auto) := rfl

@[grind =] theorem PhraseInstance.new_end :
    (PhraseInstance.new index start_beat end_beat role_id).end_beat = end_beat := rfl

@[grind =] theorem PhraseInstance.between_end :
    (phrase.between start_beat end_beat).end_beat = end_beat := rfl

@[grind =] theorem PhraseInstance.with_loop_strategy_content (strategy : PhraseLoopStrategy) :
    (phrase.with_loop_strategy strategy).content = (phrase.role_id, strategy) := rfl

@[grind =] theorem PhraseInstance.with_loop_strategy_end (strategy : PhraseLoopStrategy) :
    (phrase.with_loop_strategy strategy).end_beat = phrase.end_beat := rfl

/-- The first phrase starts where the phrases start, and the last one ends where they end. -/
theorem cut_ends (hmid : Cut a mid b) (hfirst : mid.head? = some x)
    (hlast : mid.getLast? = some y) : x.start_beat.toNat = a ∧ y.end_beat.toNat = b := by
  obtain ⟨ys, hys⟩ := List.getLast?_eq_some_iff.mp hlast
  obtain ⟨xs, hxs⟩ := List.head?_eq_some_iff.mp hfirst
  refine ⟨?_, ?_⟩
  · rw [hxs] at hmid
    exact hmid.1
  · rw [hys] at hmid
    exact (tiles_snoc.mp hmid).2.2

/-- The middle of a created phrase. -/
theorem created_shown (hmid : Cut a mid b) (hfirst : mid.head? = some x)
    (hlast : mid.getLast? = some y) (hbefore : x.start_beat ≤ start_beat)
    (hstart : start_beat < x.end_beat) (hend : y.start_beat < end_beat)
    (hafter : end_beat ≤ y.end_beat) {n : Nat} (ha : a ≤ n) (hb : n < b) :
    showing ((if x.start_beat < start_beat then [x.between x.start_beat start_beat] else []) ++
        .new 0 start_beat end_beat role_id ::
          if end_beat < y.end_beat then [y.between end_beat y.end_beat] else []) n =
      paint ⟨start_beat.toNat, end_beat.toNat, (role_id, .Auto)⟩ (showing mid) n := by
  obtain ⟨hfrom, hto⟩ := cut_ends hmid hfirst hlast
  have hpiece : Cut a _ start_beat.toNat := hfrom ▸ @cut_piece x _ _ hbefore
  rw [lt_iff_toNat_lt] at hstart hend
  rw [le_iff_toNat_le] at hbefore hafter
  rw [showing, hpiece.shown_append ha]
  by_cases hleft : n < start_beat.toNat
  · -- Before the selection the first phrase shows, now as before.
    obtain ⟨xs, rfl⟩ := List.head?_eq_some_iff.mp hfirst
    have hlt : x.start_beat < start_beat := lt_iff_toNat_lt.mpr (by omega)
    rw [if_pos hleft, paint_outside (.inl hleft), if_pos hlt, showing, shown,
      PhraseInstance.between_end, if_pos hleft, PhraseInstance.between_content, shown,
      if_pos (hleft.trans hstart)]
  rw [if_neg hleft, shown]
  by_cases hin : n < end_beat.toNat
  · rw [paint_inside (not_lt.mp hleft) hin, PhraseInstance.new_end, if_pos hin,
      PhraseInstance.new_content]
  -- Behind it the last phrase shows.
  obtain ⟨ys, rfl⟩ := List.getLast?_eq_some_iff.mp hlast
  have hys := (tiles_snoc.mp hmid).1
  have hlt : end_beat < y.end_beat := lt_iff_toNat_lt.mpr (by omega)
  rw [paint_outside (.inr (not_lt.mp hin)), PhraseInstance.new_end, if_neg hin, if_pos hlt,
    showing, hys.shown_append ha, if_neg (by omega)]
  rfl

/-- A patch paints the beats of its command in the middle. -/
theorem Patch.paints {pre post : List PhraseInstance} (h : Patch command pre.length mid mid')
    (hmid : Cut a mid b) :
    ∃ stroke, command.stroke (pre ++ (mid ++ post)) = some stroke ∧ a ≤ stroke.first ∧
      stroke.past ≤ b ∧
      ∀ n, a ≤ n → n < b → showing mid' n = paint stroke (showing mid) n := by
  cases h with
  | create hfirst hlast hselection hbefore hstart hend hafter =>
    rename_i start_beat end_beat role_id x y
    obtain ⟨hfrom, hto⟩ := cut_ends hmid hfirst hlast
    refine ⟨_, rfl, ?_, ?_, ?_⟩
    · rw [← hfrom]
      exact le_iff_toNat_le.mp hbefore
    · rw [← hto]
      exact le_iff_toNat_le.mp hafter
    · intro n ha hb
      exact created_shown hmid hfirst hlast hbefore hstart hend hafter ha hb
  | split hindex hstart hend =>
    simp only [cut_cons, cut_nil] at hmid
    obtain ⟨rfl, hx, rfl⟩ := hmid
    rw [lt_iff_toNat_lt] at hstart hend
    refine ⟨_, by simp [TimelineEditCommand.stroke, hindex]; rfl, hstart.le, Nat.le_refl _, ?_⟩
    intro n ha hb
    simp only [shown, paint]
    grind
  | merge_previous hindex | merge_next hindex =>
    simp only [cut_cons, cut_nil] at hmid
    obtain ⟨rfl, hx, hxy, hy, rfl⟩ := hmid
    refine ⟨_, by simp [TimelineEditCommand.stroke, hindex]; rfl, Nat.le_refl _, Nat.le_refl _, ?_⟩
    intro n ha hb
    simp only [shown, paint]
    grind
  | move_boundary hindex hstart hend =>
    rename_i boundary to_beat x y
    simp only [cut_cons, cut_nil] at hmid
    obtain ⟨rfl, hx, hxy, hy, rfl⟩ := hmid
    rw [lt_iff_toNat_lt] at hstart hend
    by_cases hgrows : x.end_beat ≤ to_beat
    · have hle := le_iff_toNat_le.mp hgrows
      refine ⟨_, by simp [TimelineEditCommand.stroke, hindex, hgrows]; rfl, hx.le, hend.le, ?_⟩
      intro n ha hb
      simp only [shown, paint]
      grind
    · have hlt := lt_iff_toNat_lt.mp (UInt32.not_le.mp hgrows)
      refine ⟨_, by simp [TimelineEditCommand.stroke, hindex, hgrows]; rfl, hstart.le, hy.le, ?_⟩
      intro n ha hb
      simp only [shown, paint]
      grind
  | absorb_previous hindex =>
    simp only [cut_cons, cut_nil] at hmid
    obtain ⟨rfl, hx, hxy, hy, rfl⟩ := hmid
    refine ⟨_, by simp [TimelineEditCommand.stroke, hindex]; rfl, hxy ▸ hx.le, Nat.le_refl _, ?_⟩
    intro n ha hb
    simp only [shown, paint]
    grind
  | absorb_next hindex =>
    simp only [cut_cons, cut_nil] at hmid
    obtain ⟨rfl, hx, hxy, hy, rfl⟩ := hmid
    refine ⟨_, by simp [TimelineEditCommand.stroke, hindex]; rfl, Nat.le_refl _, hy.le, ?_⟩
    intro n ha hb
    simp only [shown, paint]
    grind
  | change_role hindex | set_loop_strategy hindex =>
    simp only [cut_cons, cut_nil] at hmid
    obtain ⟨rfl, hx, rfl⟩ := hmid
    refine ⟨_, by simp [TimelineEditCommand.stroke, hindex]; rfl, Nat.le_refl _, Nat.le_refl _, ?_⟩
    intro n ha hb
    simp only [shown, paint]
    grind

/-- An edit paints the beats of its command. -/
theorem Edits.paints {total : Nat} {phrases after : List PhraseInstance}
    (h : Edits command phrases after) (hcut : Cut 0 phrases total) :
    ∃ stroke, command.stroke phrases = some stroke ∧
      ∀ n, showing after n = paint stroke (showing phrases) n := by
  obtain ⟨pre, post, hpatch⟩ := h
  obtain ⟨a, _, hrest⟩ := tiles_append.mp hcut
  obtain ⟨b, hmid, _⟩ := tiles_append.mp hrest
  obtain ⟨stroke, hstroke, _⟩ := hpatch.paints hmid
  refine ⟨stroke, hstroke, ?_⟩
  intro n
  apply hcut.shown_splice _ (Nat.zero_le n)
  intro a b hmid
  obtain ⟨stroke', hstroke', hfirst, hpast, hshown⟩ := hpatch.paints hmid
  rw [hstroke] at hstroke'
  cases hstroke'
  exact ⟨hpatch.cut hmid, hfirst, hpast, hshown⟩

end paints

/-! ## The boundaries around a created phrase -/

/-- A phrase starts or ends at the beat. -/
def IsBoundary (phrases : List PhraseInstance) (beat : Nat) : Prop :=
  ∃ phrase ∈ phrases, phrase.start_beat.toNat = beat ∨ phrase.end_beat.toNat = beat

section boundaries

variable {phrases after mid : List PhraseInstance} {start_beat end_beat : UInt32}
  {role_id : PhraseRoleId} {x y : PhraseInstance} {a b n : Nat}

theorem isBoundary_append : IsBoundary (phrases ++ after) n ↔
    IsBoundary phrases n ∨ IsBoundary after n := by
  simp only [IsBoundary, List.mem_append, or_and_right, exists_or]

theorem isBoundary_cons : IsBoundary (x :: phrases) n ↔
    (x.start_beat.toNat = n ∨ x.end_beat.toNat = n) ∨ IsBoundary phrases n := by
  simp [IsBoundary]

/-- The boundaries lie within the covered beats. -/
theorem IsBoundary.bounds (hcut : Cut a phrases b) (h : IsBoundary phrases n) : a ≤ n ∧ n ≤ b := by
  obtain ⟨p, hp, hn⟩ := h
  obtain ⟨h1, h2, h3⟩ := hcut.bounds hp
  omega

theorem SameBut.boundary (hsame : SameBut phrases after) (h : IsBoundary after n) :
    IsBoundary phrases n := by
  obtain ⟨p, hp, hn⟩ := h
  obtain ⟨q, hq, hbare⟩ := hsame.mem hp
  have hstart : q.start_beat = p.start_beat := congrArg (fun phrase => phrase.start_beat) hbare
  have hend : q.end_beat = p.end_beat := congrArg (fun phrase => phrase.end_beat) hbare
  exact ⟨q, hq, by rwa [hstart, hend]⟩

/-- The created phrase is among the phrases. -/
theorem Edits.created_mem (h : Edits (.Create start_beat end_beat role_id) phrases after) :
    PhraseInstance.new 0 start_beat end_beat role_id ∈ after := by
  obtain ⟨pre, post, hpatch⟩ := h
  cases hpatch with
  | create => simp

/-- The phrases that a created phrase touches have no boundary before and behind it but their
ends. -/
theorem boundary_of_touched (hmid : Cut a mid b) (hfirst : mid.head? = some x)
    (hlast : mid.getLast? = some y) (hstart : start_beat < x.end_beat)
    (hend : y.start_beat < end_beat) (h : IsBoundary mid n) :
    n = a ∨ n = b ∨ (start_beat.toNat < n ∧ n < end_beat.toNat) := by
  rw [lt_iff_toNat_lt] at hstart hend
  obtain ⟨p, hp, hn⟩ := h
  obtain ⟨xs, hxs⟩ := List.head?_eq_some_iff.mp hfirst
  obtain ⟨ys, hys⟩ := List.getLast?_eq_some_iff.mp hlast
  have hafter : (p.start_beat.toNat = a ∧ start_beat.toNat < p.end_beat.toNat) ∨
      start_beat.toNat < p.start_beat.toNat := by
    rw [hxs] at hp hmid
    obtain ⟨rfl, _, hrest⟩ := cut_cons.mp hmid
    rcases List.mem_cons.mp hp with rfl | hp
    · exact .inl ⟨rfl, hstart⟩
    · exact .inr (hstart.trans_le (hrest.bounds hp).1)
  have hbefore : (p.end_beat.toNat = b ∧ p.start_beat.toNat < end_beat.toNat) ∨
      p.end_beat.toNat < end_beat.toNat := by
    rw [hys] at hp hmid
    obtain ⟨hrest, _, rfl⟩ := tiles_snoc.mp hmid
    rcases List.mem_append.mp hp with hp | hp
    · exact .inr ((hrest.bounds hp).2.2.trans_lt hend)
    rw [List.mem_singleton.mp hp]
    exact .inl ⟨rfl, hend⟩
  have hlt : p.start_beat.toNat < p.end_beat.toNat := (hmid.bounds hp).2.1
  omega

/-- The boundaries of the phrases that take the place of the touched ones. -/
theorem boundary_of_created (ha : x.start_beat.toNat = a) (hb : y.end_beat.toNat = b)
    (hbefore : x.start_beat ≤ start_beat) (hafter : end_beat ≤ y.end_beat) :
    IsBoundary
        ((if x.start_beat < start_beat then [x.between x.start_beat start_beat] else []) ++
          .new 0 start_beat end_beat role_id ::
            if end_beat < y.end_beat then [y.between end_beat y.end_beat] else []) n ↔
      n = a ∨ n = b ∨ n = start_beat.toNat ∨ n = end_beat.toNat := by
  rw [isBoundary_append, isBoundary_cons]
  have hpiece (p : PhraseInstance) (s e : UInt32) :
      IsBoundary (if s < e then [p.between s e] else []) n ↔
        s.toNat < e.toNat ∧ (s.toNat = n ∨ e.toNat = n) := by
    rw [← lt_iff_toNat_lt]
    by_cases hlt : s < e
    · simp [hlt, IsBoundary, PhraseInstance.between, PhraseInstance.new,
        PhraseInstance.with_loop_strategy]
    · simp [hlt, IsBoundary]
  rw [hpiece, hpiece]
  rw [le_iff_toNat_le] at hbefore hafter
  show _ ∨ (start_beat.toNat = n ∨ end_beat.toNat = n) ∨ _ ↔ _
  omega

/-- Outside of a created phrase every boundary stays, and its ends are new ones. -/
theorem Edits.boundaries {total : Nat}
    (h : Edits (.Create start_beat end_beat role_id) phrases after) (hcut : Cut 0 phrases total) :
    IsBoundary after n ↔
      (IsBoundary phrases n ∧ ¬ (start_beat.toNat < n ∧ n < end_beat.toNat)) ∨
        n = start_beat.toNat ∨ n = end_beat.toNat := by
  obtain ⟨pre, post, hpatch⟩ := h
  obtain ⟨a, hpre, hrest⟩ := tiles_append.mp hcut
  obtain ⟨b, hmid, hpost⟩ := tiles_append.mp hrest
  cases hpatch with
  | create hfirst hlast hselection hbefore hstart hend hafter =>
    rename_i x y
    obtain ⟨ha, hb⟩ := cut_ends hmid hfirst hlast
    have hfrom : n = a → IsBoundary _ n := fun hn =>
      ⟨x, List.mem_of_mem_head? hfirst, .inl (ha.trans hn.symm)⟩
    have hto : n = b → IsBoundary _ n := fun hn =>
      ⟨y, List.mem_of_getLast? hlast, .inr (hb.trans hn.symm)⟩
    have htouched : IsBoundary _ n → _ := boundary_of_touched hmid hfirst hlast hstart hend
    have hleft : IsBoundary pre n → 0 ≤ n ∧ n ≤ a := IsBoundary.bounds hpre
    have hright : IsBoundary post n → b ≤ n ∧ n ≤ total := IsBoundary.bounds hpost
    rw [isBoundary_append, isBoundary_append, boundary_of_created ha hb hbefore hafter,
      isBoundary_append, isBoundary_append]
    rw [le_iff_toNat_le] at hbefore hafter
    rw [lt_iff_toNat_lt] at hselection
    constructor
    · rintro (hn | (hn | hn | hn) | hn)
      · exact .inl ⟨.inl hn, by have := hleft hn; omega⟩
      · exact .inl ⟨.inr (.inl (hfrom hn)), by omega⟩
      · exact .inl ⟨.inr (.inl (hto hn)), by omega⟩
      · exact .inr hn
      · exact .inl ⟨.inr (.inr hn), by have := hright hn; omega⟩
    · rintro (⟨hn | hn | hn, hout⟩ | hn)
      · exact .inl hn
      · exact .inr (.inl (by have := htouched hn; omega))
      · exact .inr (.inr hn)
      · exact .inr (.inl (.inr (.inr hn)))

end boundaries

/-! ## The law of the beats -/

section strokes

variable {phrases after : List PhraseInstance} {phrase_index : UInt16}
  {stroke : Stroke Nat (PhraseRoleId × PhraseLoopStrategy)}

theorem Edits.split_stroke {at_beat : UInt32}
    (h : Edits (.Split phrase_index at_beat) phrases after)
    (hstroke : TimelineEditCommand.stroke phrases (.Split phrase_index at_beat) = some stroke) :
    ∃ x ∈ phrases, x.start_beat.toNat ≤ at_beat.toNat ∧
      stroke = ⟨at_beat.toNat, x.end_beat.toNat, (x.role_id, .Auto)⟩ := by
  obtain ⟨pre, post, hpatch⟩ := h
  cases hpatch with
  | split hindex hstart hend =>
    rename_i x
    simp only [TimelineEditCommand.stroke, hindex] at hstroke
    refine ⟨x, by simp, (lt_iff_toNat_lt.mp hstart).le, ?_⟩
    simpa [eq_comm] using hstroke

theorem Edits.set_loop_strategy_stroke {strategy : PhraseLoopStrategy}
    (h : Edits (.SetLoopStrategy phrase_index strategy) phrases after)
    (hstroke : TimelineEditCommand.stroke phrases (.SetLoopStrategy phrase_index strategy) =
      some stroke) :
    ∃ x ∈ phrases,
      stroke = ⟨x.start_beat.toNat, x.end_beat.toNat, (x.role_id, strategy)⟩ := by
  obtain ⟨pre, post, hpatch⟩ := h
  cases hpatch with
  | set_loop_strategy hindex =>
    rename_i x
    simp only [TimelineEditCommand.stroke, hindex] at hstroke
    exact ⟨x, by simp, by simpa [eq_comm] using hstroke⟩

end strokes

/-- A stroke within a phrase that keeps its role. -/
theorem paint_keeps_role {t : LumiPhraseTimeline} {p : PhraseInstance} (hp : p ∈ t.phrases)
    {stroke : Stroke Nat (PhraseRoleId × PhraseLoopStrategy)}
    (hfirst : p.start_beat.toNat ≤ stroke.first) (hpast : stroke.past = p.end_beat.toNat)
    (hrole : stroke.value.1 = p.role_id) (beat : Nat) :
    (paint stroke t.content beat).map (·.1) = t.role beat := by
  by_cases hin : stroke.first ≤ beat ∧ beat < stroke.past
  · have hat : t.phrase_at beat = some p :=
      LumiPhraseTimeline.phrase_at_eq_some.mpr ⟨hp, hfirst.trans hin.1, hpast ▸ hin.2⟩
    rw [paint_inside hin.1 hin.2, LumiPhraseTimeline.role, LumiPhraseTimeline.content, hat]
    exact congrArg some hrole
  · rw [paint_outside (by omega)]
    rfl

/-- An accepted edit paints the beats of its command and no other. A split and a new strategy
leave every role; a created phrase is one phrase, and every boundary outside of it stays. -/
theorem an_edit_paints_its_beats (t t' : LumiPhraseTimeline) (command : TimelineEditCommand)
    (h : t.edit command = .ok t') :
    ∃ stroke, command.stroke t.phrases = some stroke ∧
      (∀ beat, t'.content beat = paint stroke t.content beat) ∧
      (∀ phrase_index at_beat, command = .Split phrase_index at_beat →
        ∀ beat, t'.role beat = t.role beat) ∧
      (∀ phrase_index strategy, command = .SetLoopStrategy phrase_index strategy →
        ∀ beat, t'.role beat = t.role beat) ∧
      ∀ start_beat end_beat role_id, command = .Create start_beat end_beat role_id →
        (∃ phrase ∈ t'.phrases, phrase.start_beat = start_beat ∧ phrase.end_beat = end_beat) ∧
        ∀ beat, IsBoundary t'.phrases beat ↔
          (IsBoundary t.phrases beat ∧ ¬ (start_beat.toNat < beat ∧ beat < end_beat.toNat)) ∨
            beat = start_beat.toNat ∨ beat = end_beat.toNat := by
  have hcut := t.wellFormed.cut
  obtain ⟨edited, hedits, hsame⟩ := edit_edits h
  obtain ⟨stroke, hstroke, hpaints⟩ := hedits.paints hcut
  have hcontent (beat : Nat) : t'.content beat = paint stroke t.content beat := by
    rw [t'.content_eq_showing, hsame.showing, hpaints, t.content_eq_showing]
  refine ⟨stroke, hstroke, hcontent, ?_, ?_, ?_⟩
  · rintro phrase_index at_beat rfl beat
    obtain ⟨x, hx, hstart, rfl⟩ := hedits.split_stroke hstroke
    rw [LumiPhraseTimeline.role, hcontent]
    exact paint_keeps_role hx hstart rfl rfl beat
  · rintro phrase_index strategy rfl beat
    obtain ⟨x, hx, rfl⟩ := hedits.set_loop_strategy_stroke hstroke
    rw [LumiPhraseTimeline.role, hcontent]
    exact paint_keeps_role hx (Nat.le_refl _) rfl rfl beat
  · rintro start_beat end_beat role_id rfl
    refine ⟨?_, ?_⟩
    · obtain ⟨p, hp, hbare⟩ := SameBut.mem hsame.symm hedits.created_mem
      exact ⟨p, hp, congrArg (fun phrase => phrase.start_beat) hbare,
        congrArg (fun phrase => phrase.end_beat) hbare⟩
    · intro beat
      rw [← hedits.boundaries hcut]
      exact ⟨hsame.boundary, SameBut.boundary hsame.symm⟩

theorem a_split_paints_its_right_piece :
    sample.timeline.edit (.Split 0 4) = .ok sample.split ∧
      ∃ stroke, TimelineEditCommand.stroke sample.timeline.phrases (.Split 0 4) = some stroke ∧
        ∀ beat, sample.split.content beat = paint stroke sample.timeline.content beat := by
  refine ⟨rfl, ?_⟩
  obtain ⟨stroke, hstroke, hcontent, -⟩ :=
    an_edit_paints_its_beats sample.timeline sample.split (.Split 0 4) rfl
  exact ⟨stroke, hstroke, hcontent⟩

end lumi_library
