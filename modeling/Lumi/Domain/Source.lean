-- One source of observations and the reducer behind it. The source numbers
-- its events one after the other and its clock does not go back; while no
-- counter overflows, the reducer hears all that the source tells.
import Lumi.Domain.Faces

open rust replay

namespace lumi_domain

/-! ## Events -/

/-- The observations as events of the source, numbered from the number that was used last. -/
def enveloped (source_id : SourceId) (time : MonotonicTime) :
    UInt64 → List DeckObservation → List DomainEvent
  | _, [] => []
  | n, o :: os =>
    .Observation ⟨source_id, ⟨n + 1⟩, time, o⟩ :: enveloped source_id time (n + 1) os

section enveloped

variable {source_id : SourceId} {time : MonotonicTime} {n m : UInt64}
  {os os' : List DeckObservation}

theorem next_toNat (h : n.toNat + 1 < 2 ^ 64) : (n + 1).toNat = n.toNat + 1 := by
  rw [UInt64.toNat_add, UInt64.toNat_one, Nat.mod_eq_of_lt h]

theorem enveloped_append (h : m.toNat = n.toNat + os.length) :
    enveloped source_id time n (os ++ os') =
      enveloped source_id time n os ++ enveloped source_id time m os' := by
  induction os generalizing n with
  | nil => rw [UInt64.toNat_inj.mp h]; rfl
  | cons o os ih =>
    have hm := m.toNat_lt
    simp only [List.length_cons] at h
    have hn := next_toNat (n := n) (by omega)
    simp only [List.cons_append, enveloped]
    rw [ih (by omega)]

theorem mem_enveloped {event : DomainEvent} (h : event ∈ enveloped source_id time n os) :
    ∃ e, event = .Observation e := by
  induction os generalizing n with
  | nil => cases h
  | cons o os ih =>
    rcases List.mem_cons.mp h with rfl | h
    · exact ⟨_, rfl⟩
    · exact ih h

end enveloped

/-! ## The reducer behind the source -/

/-- What one hears who has heard the observations. -/
def Faces.listen (y : Faces) (os : List DeckObservation) : Faces := os.foldl Faces.observe y

/-- The reducer knows no later number and no later time of the source. -/
structure Behind (source_id : SourceId) (s : RuntimeState) (n : UInt64) (time : MonotonicTime) :
    Prop where
  sequence : ∀ last, s.source_sequences[source_id]? = some last → last.value ≤ n
  time : ∀ t, s.source_times[source_id]? = some t → t ≤ time

section behind

variable {source_id : SourceId} {s : RuntimeState} {n m : UInt64} {time : MonotonicTime}
  {os : List DeckObservation}

theorem behind_default (source_id : SourceId) (n : UInt64) (time : MonotonicTime) :
    Behind source_id RuntimeState.default n time :=
  ⟨fun _ hlast => (nomatch hlast), fun _ ht => (nomatch ht)⟩

theorem Behind.later {t t' : MonotonicTime} (h : Behind source_id s n t) (ht : t ≤ t') :
    Behind source_id s n t' :=
  ⟨h.sequence, fun last hlast => Std.le_trans (h.time last hlast) ht⟩

theorem reduce_envelope {r : Reduction} {o : DeckObservation}
    (h : reduce s (.Observation ⟨source_id, ⟨n + 1⟩, time, o⟩) = .ok r)
    (hs : Behind source_id s n time) (hn : n.toNat + 1 < 2 ^ 64) :
    r.state.faces = s.faces.observe o ∧ Behind source_id r.state (n + 1) time := by
  have hnext := next_toNat hn
  have hnew : ¬ ObservationSeen s ⟨source_id, ⟨n + 1⟩, time, o⟩ := by
    rintro ⟨last, hlast, hle⟩
    have hbehind := hs.sequence last hlast
    have hle' : n + 1 ≤ last.value := hle
    rw [UInt64.le_iff_toNat_le] at hbehind hle'
    omega
  have htime : ¬ TimeRegressed s ⟨source_id, ⟨n + 1⟩, time, o⟩ := by
    rintro ⟨last, hlast, hlt⟩
    have hbehind : last.value ≤ time.value := hs.time last hlast
    have hlt' : time.value < last.value := hlt
    rw [UInt64.le_iff_toNat_le] at hbehind
    rw [UInt64.lt_iff_toNat_lt] at hlt'
    omega
  obtain ⟨hfaces, hsequence, htimes⟩ := reduce_observation_faces h hnew htime
  refine ⟨hfaces, ?_, ?_⟩
  · intro last hlast
    rw [hsequence, map_get_insert, if_pos rfl] at hlast
    cases hlast
    exact UInt64.le_refl _
  · intro t ht
    rw [htimes, map_get_insert, if_pos rfl] at ht
    cases ht
    exact Std.le_refl time

/-- Only a counter stops the reducer. -/
theorem not_refused {events : List DomainEvent}
    (h : (reducer.refusal s events).any ReducerError.overflows = false)
    (hevents : events = enveloped source_id time n os) :
    reducer.refusal s (enveloped source_id time n os) = none := by
  rw [hevents] at h
  cases hx : reducer.refusal s (enveloped source_id time n os) with
  | none => rfl
  | some x =>
    obtain ⟨s', e, he, hrefused⟩ := Machine.refused_of_refusal hx
    obtain ⟨envelope, rfl⟩ := mem_enveloped he
    rw [hx, Option.any_some, observation_refused hrefused] at h
    cases h

/-- The reducer hears all that is told. -/
theorem runFrom_enveloped (hs : Behind source_id s n time) (hm : m.toNat = n.toNat + os.length)
    (haccepts : reducer.refusal s (enveloped source_id time n os) = none) :
    (reducer.runFrom s (enveloped source_id time n os)).faces = Faces.listen s.faces os ∧
      Behind source_id (reducer.runFrom s (enveloped source_id time n os)) m time := by
  induction os generalizing s n with
  | nil =>
    have hmn : m = n := UInt64.toNat_inj.mp hm
    exact ⟨rfl, hmn ▸ hs⟩
  | cons o os ih =>
    have hlt := m.toNat_lt
    rw [List.length_cons] at hm
    have hn : n.toNat + 1 < 2 ^ 64 := by omega
    obtain ⟨r, hr, hrest⟩ := Machine.refusal_cons haccepts
    obtain ⟨hfaces, hbehind⟩ := reduce_envelope hr hs hn
    have hstep : reducer.step s (.Observation ⟨source_id, ⟨n + 1⟩, time, o⟩) = r.state :=
      Machine.step_ok hr
    rw [enveloped, Machine.runFrom_cons, hstep]
    have hnext := next_toNat hn
    obtain ⟨hrun, hend⟩ := ih hbehind (by omega) hrest
    refine ⟨?_, hend⟩
    rw [hrun, hfaces]
    rfl

end behind

end lumi_domain
