-- The lighting plans. A `LightingPlan` carries the checks of its constructor
-- as a field: its cues tile the track, carry their places as phrase indexes
-- and have names of their own, and the first cue shows the plan's theme.
import Lumi.Domain.Track

open rust tiling

namespace lumi_domain

/-! ## Cues -/

inductive PlanStatus where
  | Ready
  | Fallback
deriving DecidableEq

inductive ThemeSelectionReason where
  | GlobalLock
  | PlanInstanceUserChoice
  | ColorForce
  | ColorPrefer
  | Rotation
  | DefaultTheme
deriving DecidableEq

inductive SceneCategory where
  | Ambient
  | Groove
  | Build
  | Impact
  | Break
deriving DecidableEq

structure LoopSelection where
  bank : UInt8
  slot : UInt8
deriving DecidableEq

inductive CueOrigin where
  | Automatic
  | Fallback
  | User
deriving DecidableEq

inductive CueReason where
  | PhraseCategoryMatched (phrase_kind : PhraseKind) (category : SceneCategory)
  | MissingPhraseAnalysis
  | MissingAutoloopMapping
deriving DecidableEq

inductive PlanValidationError where
  | ZeroRevision
  | ZeroConfigurationRevision
  | EmptyTrackDuration
  | EmptyCues
  | EmptyThemeName
  | EmptySceneName
  | DuplicateCueId (id : CueId)
  | UnorderedPhraseIndex
  | InvalidCueRange
  | IncompleteCueCoverage
  | FallbackCueInReadyPlan
  | FallbackPlanWithoutFallbackCue
  | MissingThemeDecision
  | ThemeDecisionInFallbackPlan
  | InconsistentThemeDecision
  | RevisionOverflow
deriving DecidableEq

structure ThemeDecision where
  theme_id : ThemeId
  theme_name : String
  reason : ThemeSelectionReason
  matched_color : Option UInt32
  named : is_blank theme_name = false
deriving DecidableEq

def ThemeDecision.try_new (theme_id : ThemeId) (theme_name : String) (reason : ThemeSelectionReason)
    (matched_color : Option UInt32) :
    Except PlanValidationError ThemeDecision :=
  match h : is_blank theme_name with
  | true => .error .EmptyThemeName
  | false => .ok ⟨theme_id, theme_name, reason, matched_color, h⟩

structure LightingLook where
  theme_id : ThemeId
  theme_name : String
  scene_id : SceneId
  scene_name : String
  category : SceneCategory
  loop_selection : LoopSelection
  theme_named : is_blank theme_name = false
  scene_named : is_blank scene_name = false
deriving DecidableEq

def LightingLook.try_new (theme_id : ThemeId) (theme_name : String) (scene_id : SceneId)
    (scene_name : String) (category : SceneCategory) (loop_selection : LoopSelection) :
    Except PlanValidationError LightingLook :=
  match ht : is_blank theme_name with
  | true => .error .EmptyThemeName
  | false =>
    match hs : is_blank scene_name with
    | true => .error .EmptySceneName
    | false => .ok ⟨theme_id, theme_name, scene_id, scene_name, category, loop_selection, ht, hs⟩

inductive SemanticLightingAction where
  | ApplyLook (look : LightingLook)
  | HoldCurrentLook
deriving DecidableEq

structure LightingCue where
  id : CueId
  phrase_index : UInt16
  start_beat : UInt32
  end_beat : UInt32
  action : SemanticLightingAction
  origin : CueOrigin
  reason : CueReason
  locked : Bool
deriving DecidableEq

namespace LightingCue

def new (id : CueId) (phrase_index : UInt16) (start_beat end_beat : UInt32)
    (action : SemanticLightingAction) (origin : CueOrigin) (reason : CueReason) : LightingCue :=
  { id, phrase_index, start_beat, end_beat, action, origin, reason, locked := false }

def revised (cue : LightingCue) (action : SemanticLightingAction) (origin : CueOrigin)
    (locked : Bool) : LightingCue :=
  { cue with action, origin, locked }

def hold_for_missing_autoloop_mapping (cue : LightingCue) : LightingCue :=
  { cue with
    action := .HoldCurrentLook
    origin := .Automatic
    reason := .MissingAutoloopMapping
    locked := false }

end LightingCue

/-! ## Plans -/

/-- The loop over the cues in `try_new_with_theme_decision`: the end of the last cue, and
whether a cue is a fallback. -/
def walk_cues : List CueId → Nat → UInt32 → Bool → List LightingCue →
    Except PlanValidationError (UInt32 × Bool)
  | _, _, previous_end, contains_fallback, [] => .ok (previous_end, contains_fallback)
  | cue_ids, expected_index, previous_end, contains_fallback, cue :: cues =>
    if cue.id ∈ cue_ids then .error (.DuplicateCueId cue.id)
    else if cue.phrase_index.toNat ≠ expected_index then .error .UnorderedPhraseIndex
    else if cue.start_beat ≠ previous_end ∨ cue.end_beat ≤ cue.start_beat then
      .error .InvalidCueRange
    else walk_cues (cue.id :: cue_ids) (expected_index + 1) cue.end_beat
      (contains_fallback || cue.origin == .Fallback) cues

/-- The cue does not show the theme of the decision. -/
def shows_other_theme (decision : ThemeDecision) (cue : LightingCue) : Bool :=
  match cue.action with
  | .ApplyLook look => look.theme_id != decision.theme_id || look.theme_name != decision.theme_name
  | .HoldCurrentLook => true

/-- The checks of `try_new_with_theme_decision`, in their order. -/
def validate_plan (track_duration_beats : UInt32) (revision : PlanRevision)
    (configuration_revision : PlanConfigurationRevision) (status : PlanStatus)
    (theme_decision : Option ThemeDecision) (cues : List LightingCue) :
    Except PlanValidationError Unit :=
  if revision.value = 0 then .error .ZeroRevision
  else if configuration_revision.value = 0 then .error .ZeroConfigurationRevision
  else if track_duration_beats = 0 then .error .EmptyTrackDuration
  else if cues = [] then .error .EmptyCues
  else match walk_cues [] 0 0 false cues with
    | .error e => .error e
    | .ok (previous_end, contains_fallback) =>
      if status = .Ready ∧ contains_fallback = true then .error .FallbackCueInReadyPlan
      else if status = .Fallback ∧ contains_fallback = false then
        .error .FallbackPlanWithoutFallbackCue
      else if status = .Ready ∧ theme_decision = none then .error .MissingThemeDecision
      else if status = .Fallback ∧ theme_decision ≠ none then .error .ThemeDecisionInFallbackPlan
      else if theme_decision.any fun decision => cues.head?.any (shows_other_theme decision) then
        .error .InconsistentThemeDecision
      else if previous_end ≠ track_duration_beats then .error .IncompleteCueCoverage
      else .ok ()

structure LightingPlan where
  id : PlanId
  deck_id : DeckId
  track_id : TrackId
  track_duration_beats : UInt32
  track_load_id : TrackLoadId
  revision : PlanRevision
  configuration_revision : PlanConfigurationRevision
  seed : UInt64
  status : PlanStatus
  theme_decision : Option ThemeDecision
  cues : List LightingCue
  valid : validate_plan track_duration_beats revision configuration_revision status
    theme_decision cues = .ok ()
deriving DecidableEq

namespace LightingPlan

def try_new_with_theme_decision (id : PlanId) (deck_id : DeckId) (track_id : TrackId)
    (track_duration_beats : UInt32) (track_load_id : TrackLoadId) (revision : PlanRevision)
    (configuration_revision : PlanConfigurationRevision) (seed : UInt64) (status : PlanStatus)
    (theme_decision : Option ThemeDecision) (cues : List LightingCue) :
    Except PlanValidationError LightingPlan :=
  match h : validate_plan track_duration_beats revision configuration_revision status
      theme_decision cues with
  | .error e => .error e
  | .ok () => .ok ⟨id, deck_id, track_id, track_duration_beats, track_load_id, revision,
      configuration_revision, seed, status, theme_decision, cues, h⟩

/-- The theme that a cue shows, as a decision for the default theme. -/
def default_decision_of (cue : LightingCue) : Option ThemeDecision :=
  match cue.action with
  | .ApplyLook look =>
    (ThemeDecision.try_new look.theme_id look.theme_name .DefaultTheme none).toOption
  | .HoldCurrentLook => none

def try_new (id : PlanId) (deck_id : DeckId) (track_id : TrackId) (track_duration_beats : UInt32)
    (track_load_id : TrackLoadId) (revision : PlanRevision)
    (configuration_revision : PlanConfigurationRevision) (seed : UInt64) (status : PlanStatus)
    (cues : List LightingCue) : Except PlanValidationError LightingPlan :=
  try_new_with_theme_decision id deck_id track_id track_duration_beats track_load_id revision
    configuration_revision seed status (cues.findSome? default_decision_of) cues

/-- The plan with other cues, under the same revision. -/
def with_materialized_cues (plan : LightingPlan) (cues : List LightingCue) :
    Except PlanValidationError LightingPlan :=
  try_new_with_theme_decision plan.id plan.deck_id plan.track_id plan.track_duration_beats
    plan.track_load_id plan.revision plan.configuration_revision plan.seed plan.status
    plan.theme_decision cues

def revised_with_theme_decision (plan : LightingPlan) (cues : List LightingCue)
    (theme_decision : Option ThemeDecision) : Except PlanValidationError LightingPlan :=
  match plan.revision.checked_next with
  | none => .error .RevisionOverflow
  | some revision =>
    try_new_with_theme_decision plan.id plan.deck_id plan.track_id plan.track_duration_beats
      plan.track_load_id revision plan.configuration_revision plan.seed plan.status theme_decision
      cues

def revised (plan : LightingPlan) (cues : List LightingCue) :
    Except PlanValidationError LightingPlan :=
  plan.revised_with_theme_decision cues plan.theme_decision

end LightingPlan

/-! ## What the walk over the cues promises -/

variable {ids : List CueId} {n : Nat} {a e : UInt32} {f f' : Bool} {cues : List LightingCue}
  {p plan : LightingPlan} {c cue : LightingCue} {decision : ThemeDecision}
  {theme_decision : Option ThemeDecision}

theorem walk_cues_ok (h : walk_cues ids n a f cues = .ok (e, f')) :
    Indexed (·.phrase_index.toNat) n cues ∧
      Tiles (·.start_beat.toNat) (·.end_beat.toNat) a.toNat cues e.toNat := by
  induction cues generalizing ids n a f with
  | nil => cases h; exact ⟨indexed_nil, rfl⟩
  | cons c cs ih =>
    unfold walk_cues at h
    split_ifs at h with hd hi hr
    obtain ⟨h1, h2⟩ := ih h
    simp only [not_or, not_not, UInt32.not_le] at hi hr
    refine ⟨⟨hi, h1⟩, ⟨congrArg UInt32.toNat hr.1, ?_, h2⟩⟩
    rw [← hr.1]
    exact UInt32.lt_iff_toNat_lt.mp hr.2

/-- The checks all pass: the walk reaches the end of the track, and the status, the fallback
cues and the theme decision agree. -/
theorem validate_plan_ok {d : UInt32} {r : PlanRevision} {c : PlanConfigurationRevision}
    {s : PlanStatus} {t : Option ThemeDecision} :
    validate_plan d r c s t cues = .ok () ↔
      r.value ≠ 0 ∧ c.value ≠ 0 ∧ d ≠ 0 ∧ cues ≠ [] ∧
      ∃ f, walk_cues [] 0 0 false cues = .ok (d, f) ∧
        (s = .Ready → f = false ∧ t ≠ none) ∧ (s = .Fallback → f = true ∧ t = none) ∧
        ∀ decision, t = some decision → ∀ cue, cues.head? = some cue →
          shows_other_theme decision cue = false := by
  unfold validate_plan
  cases hw : walk_cues [] 0 0 false cues with
  | error e => grind
  | ok ef =>
    obtain ⟨e, f⟩ := ef
    cases s <;> cases t <;> cases f <;> cases hc : cues.head? <;> simp <;> grind

/-- What the walk reads of a cue, but for its origin. -/
def LightingCue.place (cue : LightingCue) : CueId × UInt16 × UInt32 × UInt32 :=
  (cue.id, cue.phrase_index, cue.start_beat, cue.end_beat)

/-- What no edit changes of a cue. -/
def LightingCue.anchor (cue : LightingCue) : (CueId × UInt16 × UInt32 × UInt32) × CueReason :=
  (cue.place, cue.reason)

/-- Cues in the same places take the walk the same way. -/
theorem walk_cues_of_places {cues cues' : List LightingCue}
    (hplaces : cues.map LightingCue.place = cues'.map LightingCue.place)
    (h : walk_cues ids n a f cues = .ok (e, f')) (g : Bool) :
    walk_cues ids n a g cues' = .ok (e, g || cues'.any (·.origin == .Fallback)) := by
  induction cues generalizing ids n a f g cues' with
  | nil =>
    cases h
    rw [List.map_nil, eq_comm, List.map_eq_nil_iff] at hplaces
    subst hplaces
    simp [walk_cues]
  | cons c cs ih =>
    cases cues' with
    | nil => simp at hplaces
    | cons c' cs' =>
      simp only [List.map_cons, List.cons.injEq, LightingCue.place, Prod.mk.injEq] at hplaces
      obtain ⟨⟨hid, hindex, hstart, hend⟩, hrest⟩ := hplaces
      unfold walk_cues at h ⊢
      rw [← hid, ← hindex, ← hstart, ← hend]
      split_ifs at h ⊢
      rw [ih hrest h, List.any_cons, Bool.or_assoc]

/-- No cue of a ready plan is a fallback. -/
theorem LightingPlan.no_fallback (h : p.status = .Ready) (hc : c ∈ p.cues) :
    c.origin ≠ .Fallback := by
  obtain ⟨_, _, _, _, f, hw, hready, _⟩ := validate_plan_ok.mp p.valid
  have hflag := walk_cues_of_places rfl hw false
  rw [hw, (hready h).1, Except.ok.injEq, Prod.mk.injEq, Bool.false_or] at hflag
  intro horigin
  have hany : p.cues.any (·.origin == .Fallback) = true :=
    List.any_eq_true.mpr ⟨c, hc, by simp [horigin]⟩
  rw [← hflag.2] at hany
  cases hany

/-- A plan is ready when it has a theme. -/
theorem LightingPlan.ready_iff_decided (p : LightingPlan) :
    p.status = .Ready ↔ p.theme_decision ≠ none := by
  obtain ⟨_, _, _, _, _, _, hready, hfallback, _⟩ := validate_plan_ok.mp p.valid
  constructor
  · intro h
    exact (hready h).2
  · intro h
    cases hs : p.status with
    | Ready => rfl
    | Fallback => exact absurd (hfallback hs).2 h

theorem LightingPlan.decided (h : p.status = .Ready) :
    ∃ decision, p.theme_decision = some decision :=
  Option.ne_none_iff_exists'.mp (p.ready_iff_decided.mp h)

/-- The first cue of a plan shows the theme of the plan. -/
theorem LightingPlan.first_cue_shows (hd : p.theme_decision = some decision)
    (hc : p.cues.head? = some cue) : shows_other_theme decision cue = false := by
  obtain ⟨_, _, _, _, _, _, _, _, hshows⟩ := validate_plan_ok.mp p.valid
  exact hshows decision hd cue hc

theorem shows_other_theme_eq_false :
    shows_other_theme decision cue = false ↔ ∃ look, cue.action = .ApplyLook look ∧
      look.theme_id = decision.theme_id ∧ look.theme_name = decision.theme_name := by
  unfold shows_other_theme
  cases cue.action with
  | ApplyLook look | HoldCurrentLook => simp

/-! ## Revisions of a plan -/

theorem LightingPlan.try_new_with_theme_decision_eq_ok {id : PlanId} {deck_id : DeckId}
    {track_id : TrackId} {track_duration_beats : UInt32} {track_load_id : TrackLoadId}
    {revision : PlanRevision} {configuration_revision : PlanConfigurationRevision} {seed : UInt64}
    {status : PlanStatus} :
    try_new_with_theme_decision id deck_id track_id track_duration_beats track_load_id revision
        configuration_revision seed status theme_decision cues = .ok plan ↔
      ∃ valid, plan = ⟨id, deck_id, track_id, track_duration_beats, track_load_id, revision,
        configuration_revision, seed, status, theme_decision, cues, valid⟩ := by
  unfold try_new_with_theme_decision
  split
  · rename_i e he
    simp only [reduceCtorEq, false_iff]
    rintro ⟨valid, _⟩
    rw [he] at valid
    cases valid
  · rename_i hv
    rw [Except.ok.injEq]
    constructor
    · rintro rfl
      exact ⟨hv, rfl⟩
    · rintro ⟨_, rfl⟩
      rfl

/-- The plan after a revision: another revision, decision and cues, and all else as it was. -/
structure LightingPlan.RevisedTo (plan plan' : LightingPlan) : Prop where
  id : plan'.id = plan.id
  deck_id : plan'.deck_id = plan.deck_id
  track_id : plan'.track_id = plan.track_id
  track_duration_beats : plan'.track_duration_beats = plan.track_duration_beats
  track_load_id : plan'.track_load_id = plan.track_load_id
  configuration_revision : plan'.configuration_revision = plan.configuration_revision
  status : plan'.status = plan.status
  revision : plan'.revision.value.toNat = plan.revision.value.toNat + 1
  seed : plan'.seed = plan.seed

theorem LightingPlan.revised_with_theme_decision_ok {plan plan' : LightingPlan}
    (h : plan.revised_with_theme_decision cues theme_decision = .ok plan') :
    plan.RevisedTo plan' ∧ plan'.cues = cues ∧ plan'.theme_decision = theme_decision := by
  unfold revised_with_theme_decision at h
  split at h
  · cases h
  rename_i revision hnext
  obtain ⟨valid, rfl⟩ := try_new_with_theme_decision_eq_ok.mp h
  exact ⟨⟨rfl, rfl, rfl, rfl, rfl, rfl, rfl, (checked_next_eq_some.mp hnext).symm, rfl⟩, rfl, rfl⟩

theorem LightingPlan.cues_indexed (p : LightingPlan) : Indexed (·.phrase_index.toNat) 0 p.cues := by
  obtain ⟨_, _, _, _, f, hw, _⟩ := validate_plan_ok.mp p.valid
  exact (walk_cues_ok hw).1

/-- A plan keeps the cue of a phrase at the place of the phrase. -/
theorem LightingPlan.cue_phrase_index (p : LightingPlan) {i : UInt16}
    (h : p.cues[i.toNat]? = some c) : c.phrase_index = i := by
  apply UInt16.toNat_inj.mp
  rw [p.cues_indexed.get h, Nat.zero_add]

end lumi_domain
