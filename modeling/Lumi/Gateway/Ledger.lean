-- The ledger of the guard. A command that was admitted stays in it until its
-- outcome is known, so it is admitted once; its first result is what every
-- repetition gets, until a full ledger makes room for others.
import Lumi.Gateway.Guard

open rust lumi_remote_protocol

namespace lumi_remote_gateway

variable (forwarded_command_id : CommandKey → String)

/-! ## Calls -/

inductive GuardCall where
  | admit_command (device_id : String) (command : RemoteCommand)
  | record_result (result : RemoteCommandResult)
  | transfer_control (device_id lease_id : String)
  | revoke_control

/-- The guard behind a call. -/
def GuardCall.perform (guard : GatewayCommandGuard) : GuardCall → GatewayCommandGuard
  | .admit_command device_id command =>
    ((GatewayCommandGuard.admit_command forwarded_command_id device_id command).run guard).1
  | .record_result result => guard.record_result result
  | .transfer_control device_id lease_id => guard.transfer_control device_id lease_id
  | .revoke_control => guard.revoke_control

def guard_run (guard : GatewayCommandGuard) (calls : List GuardCall) : GatewayCommandGuard :=
  calls.foldl (GuardCall.perform forwarded_command_id) guard

/-- What the guard says to a command. -/
def GatewayCommandGuard.answer (guard : GatewayCommandGuard) (device_id : String)
    (command : RemoteCommand) : Outcome CommandGuardError CommandAdmission :=
  ((admit_command forwarded_command_id device_id command).run guard).2

/-! ## How an admission ends -/

namespace GatewayCommandGuard

variable {forwarded_command_id} {guard : GatewayCommandGuard}

theorem make_room_ok {room : GatewayCommandGuard}
    (h : guard.make_room forwarded_command_id = .ok room) :
    (guard.insertion_order.length ≠ guard.capacity ∧ room = guard) ∨
      (guard.insertion_order.length = guard.capacity ∧
        ∃ index oldest outcome, guard.insertion_order[index]? = some oldest ∧
          guard.accepted[oldest]? = some outcome ∧ outcome.result.isSome = true ∧
          room = { guard with
            insertion_order := guard.insertion_order.eraseIdx index
            forwarded := guard.forwarded.erase (forwarded_command_id oldest)
            accepted := guard.accepted.erase oldest }) := by
  unfold make_room at h
  split at h
  · rename_i hfull
    split at h
    · cases h
    rename_i index hindex
    obtain ⟨hlt, hcompleted, _⟩ := List.findIdx?_eq_some_iff_getElem.mp hindex
    rw [List.getElem?_eq_getElem hlt] at h
    cases h
    obtain ⟨outcome, houtcome, hresult⟩ := (Option.any_eq_true _ _).mp hcompleted
    exact .inr ⟨hfull, index, _, outcome, List.getElem?_eq_getElem hlt, houtcome, hresult, rfl⟩
  · cases h
    exact .inl ⟨by assumption, rfl⟩

/-- An admission is refused, it changes nothing, or it enters a command that the ledger did not
hold. -/
theorem admit_ends (forwarded_command_id : CommandKey → String) (guard : GatewayCommandGuard)
    (device_id : String) (command : RemoteCommand) :
    (∃ e, (admit_command forwarded_command_id device_id command).run guard = (guard, .err e)) ∨
    (guard.policy.authorize device_id command = .ok () ∧
      ((command.is_mutating = false ∧
          (admit_command forwarded_command_id device_id command).run guard =
            (guard, .ok .Accepted)) ∨
        (command.is_mutating = true ∧
          ((∃ outcome admission, guard.accepted[command_key device_id command]? = some outcome ∧
              replay outcome command = .ok admission ∧
              (admit_command forwarded_command_id device_id command).run guard =
                (guard, .ok admission)) ∨
            (guard.accepted[command_key device_id command]? = none ∧
              ∃ room, guard.make_room forwarded_command_id = .ok room ∧
                (admit_command forwarded_command_id device_id command).run guard =
                  (room.enter forwarded_command_id (command_key device_id command) command,
                    .ok .Accepted)))))) := by
  unfold admit_command
  rw [Call.get_bind_run]
  rcases hauthorized : guard.policy.authorize device_id command with e | _
  · exact .inl ⟨_, rfl⟩
  rw [Outcome.lift_ok, Call.lift_ok_bind_run]
  rcases hmutating : command.is_mutating with _ | _
  · exact .inr ⟨rfl, .inl ⟨rfl, rfl⟩⟩
  rw [if_neg (by simp)]
  dsimp only
  cases houtcome : guard.accepted[command_key device_id command]? with
  | some outcome =>
    dsimp only
    cases hreplay : replay outcome command with
    | error e => exact .inl ⟨_, rfl⟩
    | ok admission =>
      exact .inr ⟨rfl, .inr ⟨rfl, .inl ⟨outcome, admission, rfl, hreplay, rfl⟩⟩⟩
  | none =>
    dsimp only
    cases hroom : guard.make_room forwarded_command_id with
    | error e => exact .inl ⟨_, rfl⟩
    | ok room => exact .inr ⟨rfl, .inr ⟨rfl, .inr ⟨rfl, room, rfl, rfl⟩⟩⟩

end GatewayCommandGuard

/-! ## The entry of one command -/

/-- The result of the command that the call brings, under the id that the client gave. -/
def GuardCall.result_of (key : CommandKey) : GuardCall → Option RemoteCommandResult
  | .record_result result =>
    if result.command_id = forwarded_command_id key then
      some { result with command_id := key.command_id }
    else none
  | _ => none

/-- The first result of the command among the calls. -/
def first_result (key : CommandKey) (calls : List GuardCall) : Option RemoteCommandResult :=
  calls.findSome? (·.result_of forwarded_command_id key)

/-- The call admits a command while the ledger is full. -/
def AdmitsWhenFull (guard : GatewayCommandGuard) (call : GuardCall) : Prop :=
  guard.insertion_order.length = guard.capacity ∧
    ∃ device_id command, call = .admit_command device_id command ∧ command.is_mutating = true ∧
      guard.answer forwarded_command_id device_id command = .ok .Accepted

/-- A result of the command was recorded, and later a command was admitted to a full ledger. -/
def Forgotten (guard : GatewayCommandGuard) (key : CommandKey) (calls : List GuardCall) : Prop :=
  ∃ earlier recorded between admitted later,
    calls = earlier ++ recorded :: (between ++ admitted :: later) ∧
      (GuardCall.result_of forwarded_command_id key recorded).isSome = true ∧
      AdmitsWhenFull forwarded_command_id
        (guard_run forwarded_command_id guard (earlier ++ recorded :: between)) admitted

/-! ## The three containers -/

/-- Accepted commands, forwarded ids and the order of insertion describe the same keys, none of them
twice, and not too many. -/
structure Consistent (guard : GatewayCommandGuard) : Prop where
  accepted : ∀ key : CommandKey, guard.accepted[key]?.isSome = true ↔ key ∈ guard.insertion_order
  forwarded : ∀ (id : String) key, guard.forwarded[id]? = some key ↔
    key ∈ guard.insertion_order ∧ forwarded_command_id key = id
  nodup : guard.insertion_order.Nodup
  bounded : guard.insertion_order.length ≤ guard.capacity

section consistent

variable {forwarded_command_id} {guard : GatewayCommandGuard} {key : CommandKey}

theorem guard_run_snoc (calls : List GuardCall) (call : GuardCall) :
    guard_run forwarded_command_id guard (calls ++ [call]) =
      call.perform forwarded_command_id (guard_run forwarded_command_id guard calls) := by
  unfold guard_run
  rw [List.foldl_append]
  rfl

theorem Forgotten.snoc {calls : List GuardCall} (h : Forgotten forwarded_command_id guard key calls)
    (call : GuardCall) : Forgotten forwarded_command_id guard key (calls ++ [call]) := by
  obtain ⟨earlier, recorded, between, admitted, later, rfl, hrecorded, hadmitted⟩ := h
  exact ⟨earlier, recorded, between, admitted, later ++ [call], by simp, hrecorded, hadmitted⟩

variable (h : Consistent forwarded_command_id guard)
include h

theorem Consistent.record_result (result : RemoteCommandResult) :
    Consistent forwarded_command_id (guard.record_result result) := by
  unfold GatewayCommandGuard.record_result
  split
  · exact h
  split
  · exact h
  rename_i key _ outcome houtcome
  split
  · refine ⟨?_, h.forwarded, h.nodup, h.bounded⟩
    intro other
    dsimp only
    rw [map_get_insert, ← h.accepted]
    split
    · rename_i heq
      simp [← heq, houtcome]
    · rfl
  · exact h

/-- A call leaves the entry of a command there, with the first result; only an admission to a full
ledger removes it, and only when it has its result. -/
theorem Consistent.entry {command : RemoteCommand} {result : Option RemoteCommandResult}
    (hentry : guard.accepted[key]? = some ⟨command, result⟩) (call : GuardCall) :
    (call.perform forwarded_command_id guard).accepted[key]? =
        some ⟨command, result.or (call.result_of forwarded_command_id key)⟩ ∨
      (result.isSome = true ∧ AdmitsWhenFull forwarded_command_id guard call) := by
  cases call with
  | transfer_control device_id lease_id | revoke_control =>
    simp only [GuardCall.result_of, Option.or_none]
    exact .inl hentry
  | record_result recorded =>
    have hmem : key ∈ guard.insertion_order := (h.accepted key).mp (by simp [hentry])
    refine .inl ?_
    simp only [GuardCall.perform, GatewayCommandGuard.record_result, GuardCall.result_of]
    by_cases hid : recorded.command_id = forwarded_command_id key
    · rw [if_pos hid, (h.forwarded _ key).mpr ⟨hmem, hid.symm⟩]
      dsimp only
      rw [hentry]
      cases result with
      | none => simp
      | some result => simpa using hentry
    · rw [if_neg hid, Option.or_none]
      split
      · exact hentry
      rename_i other hother
      have hne : other ≠ key := by
        rintro rfl
        exact hid ((h.forwarded _ other).mp hother).2.symm
      split
      · exact hentry
      split
      · dsimp only
        rw [map_get_insert, if_neg hne]
        exact hentry
      · exact hentry
  | admit_command device_id admitted =>
    simp only [GuardCall.result_of, Option.or_none, GuardCall.perform, AdmitsWhenFull,
      GatewayCommandGuard.answer]
    rcases GatewayCommandGuard.admit_ends forwarded_command_id guard device_id admitted with
      ⟨e, hrun⟩ | ⟨_, ⟨_, hrun⟩ | ⟨hmutating, ⟨outcome, admission, _, _, hrun⟩ |
        ⟨hnew, room, hroom, hrun⟩⟩⟩
    · rw [hrun]
      exact .inl hentry
    · rw [hrun]
      exact .inl hentry
    · rw [hrun]
      exact .inl hentry
    have hne : GatewayCommandGuard.command_key device_id admitted ≠ key := by
      rintro rfl
      rw [hentry] at hnew
      cases hnew
    rcases GatewayCommandGuard.make_room_ok hroom with
      ⟨_, rfl⟩ | ⟨hfull, index, oldest, outcome, _, houtcome, hresult, rfl⟩
    · left
      rw [hrun]
      dsimp only [GatewayCommandGuard.enter]
      rw [map_get_insert, if_neg hne]
      exact hentry
    · by_cases holdest : oldest = key
      · subst holdest
        rw [hentry] at houtcome
        cases houtcome
        exact .inr ⟨hresult, hfull, device_id, admitted, rfl, hmutating, by rw [hrun]⟩
      · left
        rw [hrun]
        dsimp only [GatewayCommandGuard.enter]
        rw [map_get_insert, if_neg hne, map_get_erase, if_neg holdest]
        exact hentry

variable (hinj : Function.Injective forwarded_command_id)
include hinj

theorem Consistent.enter (command : RemoteCommand) (hnew : key ∉ guard.insertion_order)
    (hroom : guard.insertion_order.length < guard.capacity) :
    Consistent forwarded_command_id (guard.enter forwarded_command_id key command) := by
  unfold GatewayCommandGuard.enter
  refine ⟨?_, ?_, ?_, ?_⟩
  · intro other
    dsimp only
    rw [map_get_insert, List.mem_append, List.mem_singleton, ← h.accepted]
    split
    · simp_all
    rename_i hne
    exact ⟨.inl, fun hor => hor.resolve_right fun heq => hne heq.symm⟩
  · intro id other
    dsimp only
    rw [map_get_insert, List.mem_append, List.mem_singleton]
    split
    · rename_i hid
      constructor
      · intro hsome
        cases hsome
        exact ⟨.inr rfl, hid⟩
      · rintro ⟨_, hother⟩
        rw [hinj (hid.trans hother.symm)]
    · rename_i hid
      rw [h.forwarded]
      refine and_congr_left fun hother => ⟨.inl, fun hor => hor.resolve_right ?_⟩
      rintro rfl
      exact hid hother
  · exact h.nodup.append (List.nodup_singleton key) (List.disjoint_singleton.mpr hnew)
  · rw [List.length_append, List.length_singleton]
    exact hroom

variable (hcapacity : 0 < guard.capacity)
include hcapacity

theorem Consistent.make_room {room : GatewayCommandGuard}
    (hroom : guard.make_room forwarded_command_id = .ok room) :
    Consistent forwarded_command_id room ∧ room.insertion_order.length < room.capacity ∧
      room.capacity = guard.capacity := by
  rcases GatewayCommandGuard.make_room_ok hroom with
    ⟨hfree, rfl⟩ | ⟨hfull, index, oldest, _, hindex, _, _, rfl⟩
  · exact ⟨h, Nat.lt_of_le_of_ne h.bounded hfree, rfl⟩
  have hmem (key : CommandKey) := mem_eraseIdx_of_nodup h.nodup hindex key
  have hlength : (guard.insertion_order.eraseIdx index).length < guard.capacity := by
    obtain ⟨hlt, _⟩ := List.getElem?_eq_some_iff.mp hindex
    rw [List.length_eraseIdx_of_lt hlt, hfull]
    omega
  refine ⟨⟨?_, ?_, h.nodup.eraseIdx index, hlength.le⟩, hlength, rfl⟩
  · intro key
    dsimp only
    rw [map_get_erase, hmem, ← h.accepted]
    split
    · simp_all
    rename_i hne
    exact ⟨fun hsome => ⟨hsome, fun heq => hne heq.symm⟩, And.left⟩
  · intro id key
    dsimp only
    rw [map_get_erase, hmem, and_right_comm, ← h.forwarded]
    split
    · rename_i hid
      constructor
      · intro hnone
        cases hnone
      · rintro ⟨hsome, hne⟩
        exact absurd (hinj (((h.forwarded id key).mp hsome).2.trans hid.symm)) hne
    · rename_i hid
      refine ⟨fun hsome => ⟨hsome, ?_⟩, And.left⟩
      rintro rfl
      exact hid ((h.forwarded id key).mp hsome).2

theorem Consistent.perform (call : GuardCall) :
    Consistent forwarded_command_id (call.perform forwarded_command_id guard) ∧
      (call.perform forwarded_command_id guard).capacity = guard.capacity := by
  cases call with
  | admit_command device_id command =>
    simp only [GuardCall.perform]
    rcases GatewayCommandGuard.admit_ends forwarded_command_id guard device_id command with
      ⟨e, hrun⟩ | ⟨_, ⟨_, hrun⟩ | ⟨_, ⟨outcome, admission, _, _, hrun⟩ | ⟨hnew, room, hroom, hrun⟩⟩⟩
      <;> rw [hrun]
    · exact ⟨h, rfl⟩
    · exact ⟨h, rfl⟩
    · exact ⟨h, rfl⟩
    obtain ⟨hconsistent, hfree, hsame⟩ := h.make_room hinj hcapacity hroom
    refine ⟨hconsistent.enter hinj command ?_ hfree, hsame⟩
    rw [← hconsistent.accepted]
    rcases GatewayCommandGuard.make_room_ok hroom with
      ⟨_, rfl⟩ | ⟨_, index, oldest, _, _, _, _, rfl⟩
    · simp [hnew]
    dsimp only
    rw [map_get_erase, hnew]
    simp
  | record_result result =>
    refine ⟨h.record_result result, ?_⟩
    simp only [GuardCall.perform, GatewayCommandGuard.record_result]
    split
    · rfl
    split
    · rfl
    · split <;> rfl
  | transfer_control device_id lease_id | revoke_control =>
    exact ⟨⟨h.accepted, h.forwarded, h.nodup, h.bounded⟩, rfl⟩

theorem Consistent.run (calls : List GuardCall) :
    Consistent forwarded_command_id (guard_run forwarded_command_id guard calls) ∧
      (guard_run forwarded_command_id guard calls).capacity = guard.capacity := by
  induction calls using List.reverseRecOn with
  | nil => exact ⟨h, rfl⟩
  | append_singleton calls call ih =>
    rw [guard_run_snoc]
    obtain ⟨hconsistent, hsame⟩ := ih.1.perform hinj (ih.2 ▸ hcapacity) call
    exact ⟨hconsistent, hsame.trans ih.2⟩

/-- Until it is forgotten, the entry of a command holds the command and its first result. -/
theorem Consistent.tracked {command : RemoteCommand}
    (hentry : guard.accepted[key]? = some ⟨command, none⟩) (calls : List GuardCall) :
    Forgotten forwarded_command_id guard key calls ∨
      (guard_run forwarded_command_id guard calls).accepted[key]? =
        some ⟨command, first_result forwarded_command_id key calls⟩ := by
  induction calls using List.reverseRecOn with
  | nil => exact .inr hentry
  | append_singleton calls call ih =>
    rcases ih with hforgotten | htracked
    · exact .inl (hforgotten.snoc call)
    rw [guard_run_snoc]
    rcases (h.run hinj hcapacity calls).1.entry htracked call with hnext | ⟨hsome, hadmits⟩
    · right
      rw [hnext, first_result, first_result, List.findSome?_append]
      simp
    left
    obtain ⟨result, hresult⟩ := Option.isSome_iff_exists.mp hsome
    obtain ⟨earlier, recorded, between, rfl, hrecorded, _⟩ := List.findSome?_eq_some_iff.mp hresult
    exact ⟨earlier, recorded, between, call, [], by simp, by simp [hrecorded], hadmits⟩

end consistent

/-! ## What the guard answers -/

namespace GatewayCommandGuard

variable {forwarded_command_id} {guard : GatewayCommandGuard} {device_id : String}
  {command : RemoteCommand}

/-- A command that is accepted and changes something was not in the ledger, and is now. -/
theorem answer_accepted (hmutating : command.is_mutating = true)
    (h : guard.answer forwarded_command_id device_id command = .ok .Accepted) :
    guard.accepted[command_key device_id command]? = none ∧ command.validate = .ok () ∧
      (GuardCall.perform forwarded_command_id guard (.admit_command device_id command)).accepted[
        command_key device_id command]? = some ⟨command, none⟩ := by
  unfold answer at h
  rcases admit_ends forwarded_command_id guard device_id command with
    ⟨e, hrun⟩ | ⟨hauthorized, ⟨hreading, hrun⟩ | ⟨_, ⟨outcome, admission, _, hreplay, hrun⟩ |
      ⟨hnew, room, _, hrun⟩⟩⟩
  · rw [hrun] at h
    cases h
  · rw [hmutating] at hreading
    cases hreading
  · rw [hrun] at h
    cases h
    unfold replay at hreplay
    split at hreplay
    · cases hreplay
    · split at hreplay <;> cases hreplay
  · refine ⟨hnew, ?_, ?_⟩
    · unfold GatewayCommandPolicy.authorize at hauthorized
      split at hauthorized
      · cases hauthorized
      · assumption
    · simp only [GuardCall.perform]
      rw [hrun]
      exact Std.ExtTreeMap.getElem?_insert_self

/-- What the controller hears about a command id that is in the ledger. -/
theorem answer_known {outcome : CommandOutcome}
    (hcontroller : guard.controller = some ⟨device_id, command.controller_lease_id⟩)
    (hentry : guard.accepted[command_key device_id command]? = some outcome) :
    guard.answer forwarded_command_id device_id command =
      match command.validate with
      | .error error => .err (.Unauthorized (.InvalidCommand error))
      | .ok () =>
        if command.is_mutating then .lift id (replay outcome command) else .ok .Accepted := by
  have hpolicy : guard.policy.controller = some ⟨device_id, command.controller_lease_id⟩ :=
    hcontroller
  unfold answer admit_command
  rw [Call.get_bind_run]
  rcases hvalid : command.validate with e | _
  · simp only [GatewayCommandPolicy.authorize, hvalid]
    rfl
  have hauthorized : guard.policy.authorize device_id command = .ok () := by
    cases hmutating : command.is_mutating <;>
      simp [GatewayCommandPolicy.authorize, hvalid, hmutating, hpolicy]
  rw [hauthorized, Outcome.lift_ok, Call.lift_ok_bind_run]
  cases hmutating : command.is_mutating with
  | false => rfl
  | true =>
    rw [if_neg (by simp)]
    dsimp only
    rw [hentry]
    rfl

end GatewayCommandGuard

/-! ## Every history -/

theorem consistent_new {capacity : Nat} {guard : GatewayCommandGuard}
    (h : GatewayCommandGuard.new capacity = .ok guard) :
    Consistent forwarded_command_id guard ∧ guard.capacity = capacity ∧ 0 < capacity := by
  unfold GatewayCommandGuard.new at h
  split at h
  · cases h
  rename_i hcapacity
  cases h
  refine ⟨⟨?_, ?_, List.nodup_nil, Nat.zero_le _⟩, rfl, by omega⟩ <;> simp

/-- A device hears of the results of its own commands alone. -/
theorem Consistent.result_for_device {forwarded_command_id : CommandKey → String}
    {guard : GatewayCommandGuard} (h : Consistent forwarded_command_id guard)
    {device_id forwarded_id : String} {result : RemoteCommandResult}
    (hresult : guard.result_for_device device_id forwarded_id = some result) :
    ∃ key outcome, key.device_id = device_id ∧ forwarded_command_id key = forwarded_id ∧
      guard.accepted[key]? = some outcome ∧ outcome.result = some result := by
  unfold GatewayCommandGuard.result_for_device at hresult
  obtain ⟨key, hkey, hresult⟩ := Option.bind_eq_some_iff.mp hresult
  split at hresult
  · cases hresult
  rename_i hdevice
  obtain ⟨outcome, houtcome, hresult⟩ := Option.bind_eq_some_iff.mp hresult
  exact ⟨key, outcome, not_not.mp hdevice, ((h.forwarded _ key).mp hkey).2, houtcome, hresult⟩

/-- A command is admitted once while its outcome matters. After an admission of a command that
changes something, the key is admitted again only once the command is forgotten; until then the
controller that repeats it hears that it is pending or its first result, and another command under
its id is refused unless it changes nothing. -/
theorem commands_are_admitted_once_while_their_outcome_matters
    (hinj : Function.Injective forwarded_command_id) (capacity : Nat) (guard : GatewayCommandGuard)
    (hnew : GatewayCommandGuard.new capacity = .ok guard) (calls : List GuardCall) :
    Consistent forwarded_command_id (guard_run forwarded_command_id guard calls) ∧
    (guard_run forwarded_command_id guard calls).insertion_order.length ≤ capacity ∧
    (∀ call (key : CommandKey) outcome,
      (guard_run forwarded_command_id guard calls).accepted[key]? = some outcome →
      outcome.result = none → ∃ result,
        (guard_run forwarded_command_id guard (calls ++ [call])).accepted[key]? =
          some ⟨outcome.command, result⟩) ∧
    (∀ before since device_id command,
      calls = before ++ .admit_command device_id command :: since → command.is_mutating = true →
      (guard_run forwarded_command_id guard before).answer forwarded_command_id device_id command =
        .ok .Accepted →
      let key := GatewayCommandGuard.command_key device_id command
      let admitted :=
        guard_run forwarded_command_id guard (before ++ [.admit_command device_id command])
      let ledger := guard_run forwarded_command_id guard calls
      (∀ command', command'.is_mutating = true →
        GatewayCommandGuard.command_key device_id command' = key →
        ledger.answer forwarded_command_id device_id command' = .ok .Accepted →
        Forgotten forwarded_command_id admitted key since) ∧
      (¬ Forgotten forwarded_command_id admitted key since →
        ledger.controller = some ⟨device_id, command.controller_lease_id⟩ →
        ledger.answer forwarded_command_id device_id command =
          (match first_result forwarded_command_id key since with
          | none => .ok .Pending
          | some result => .ok (.Completed result)) ∧
        ∀ command', command' ≠ command →
          GatewayCommandGuard.command_key device_id command' = key →
          ledger.answer forwarded_command_id device_id command' =
            match command'.validate with
            | .error error => .err (.Unauthorized (.InvalidCommand error))
            | .ok () =>
              if command'.is_mutating then .err .CommandIdReused else .ok .Accepted)) ∧
    ∀ device_id key, key.device_id ≠ device_id →
      (guard_run forwarded_command_id guard calls).result_for_device device_id
        (forwarded_command_id key) = none := by
  obtain ⟨hstart, hcapacity, hpositive⟩ := consistent_new forwarded_command_id hnew
  have hpositive : 0 < guard.capacity := hcapacity ▸ hpositive
  have hrun := hstart.run hinj hpositive
  refine ⟨(hrun calls).1, ?_, ?_, ?_, ?_⟩
  · rw [← hcapacity, ← (hrun calls).2]
    exact (hrun calls).1.bounded
  · rintro call key ⟨command, result⟩ hentry rfl
    rw [guard_run_snoc]
    rcases (hrun calls).1.entry hentry call with hnext | ⟨hsome, _⟩
    · exact ⟨_, hnext⟩
    · cases hsome
  · rintro before since device_id command rfl hmutating haccepted key admitted ledger
    obtain ⟨_, hvalid, hentry⟩ := GatewayCommandGuard.answer_accepted hmutating haccepted
    have hentry : admitted.accepted[key]? = some ⟨command, none⟩ := by
      show (guard_run forwarded_command_id guard (before ++ [_])).accepted[key]? = _
      rw [guard_run_snoc]
      exact hentry
    have hledger : ledger = guard_run forwarded_command_id admitted since := by
      show guard_run forwarded_command_id guard (before ++ _ :: since) = _
      rw [guard_run, List.append_cons, List.foldl_append]
      rfl
    have htracked := (hrun (before ++ [.admit_command device_id command])).1.tracked hinj
      ((hrun _).2 ▸ hpositive) hentry since
    rw [show guard_run forwarded_command_id _ since = ledger from hledger.symm] at htracked
    refine ⟨?_, ?_⟩
    · intro command' hmutating' hkey haccepted'
      rcases htracked with hforgotten | htracked
      · exact hforgotten
      have hnone := (GatewayCommandGuard.answer_accepted hmutating' haccepted').1
      rw [hkey, htracked] at hnone
      cases hnone
    · intro hnot hcontroller
      have htracked := htracked.resolve_left hnot
      refine ⟨?_, ?_⟩
      · rw [GatewayCommandGuard.answer_known hcontroller htracked, hvalid]
        simp only [hmutating, if_true, GatewayCommandGuard.replay]
        cases first_result forwarded_command_id key since <;> simp [Outcome.lift]
      · intro command' hother hkey
        have hlease : command'.controller_lease_id = command.controller_lease_id :=
          congrArg CommandKey.lease_id hkey
        rw [GatewayCommandGuard.answer_known (hlease ▸ hcontroller) (hkey ▸ htracked)]
        simp [GatewayCommandGuard.replay, hother.symm, Outcome.lift]
  · intro device_id key hdevice
    cases hresult : (guard_run forwarded_command_id guard calls).result_for_device device_id
        (forwarded_command_id key) with
    | none => rfl
    | some result =>
      obtain ⟨other, _, hother, hid, _⟩ := (hrun calls).1.result_for_device hresult
      rw [hinj hid] at hother
      exact absurd hother hdevice

namespace ledger

/-- A text, and another one behind it. -/
def packed : List Char → List Char → List Char
  | [], rest => '.' :: rest
  | c :: text, rest => ',' :: c :: packed text rest

theorem packed_inj {text text' rest rest' : List Char} (h : packed text rest = packed text' rest') :
    text = text' ∧ rest = rest' := by
  induction text generalizing text' with
  | nil =>
    cases text' with
    | nil => exact ⟨rfl, (List.cons.inj h).2⟩
    | cons c text' => simp [packed] at h
  | cons c text ih =>
    cases text' with
    | nil => simp [packed] at h
    | cons c' text' =>
      simp only [packed, List.cons.injEq, true_and] at h
      obtain ⟨rfl, rfl⟩ := ih h.2
      exact ⟨by rw [h.1], rfl⟩

/-- Ids without collisions. -/
def forwarded_id (key : CommandKey) : String :=
  String.ofList (packed key.device_id.toList (packed key.lease_id.toList key.command_id.toList))

theorem forwarded_id_injective : Function.Injective forwarded_id := by
  intro key key' h
  obtain ⟨hdevice, h⟩ := packed_inj (String.ofList_injective h)
  obtain ⟨hlease, hcommand⟩ := packed_inj h
  cases key
  cases key'
  simp_all [String.toList_inj]

def command (kind : RemoteCommandKind) : RemoteCommand := ⟨"command", "lease", 1000, kind⟩

def link : RemoteCommand := command (.SetAbletonLinkEnabled true 1)

def result (state_revision : UInt64) : RemoteCommandResult :=
  ⟨forwarded_id ⟨"phone", "lease", "command"⟩, .Accepted, some state_revision, none, none⟩

def guard : GatewayCommandGuard := ⟨⟨none⟩, ∅, ∅, [], 64⟩

/-- A command is admitted, and its result comes twice. -/
def calls : List GuardCall :=
  [.transfer_control "phone" "lease"] ++ .admit_command "phone" link ::
    [.record_result (result 2), .record_result (result 3)]

end ledger

theorem a_repeated_command_hears_its_first_result :
    (guard_run ledger.forwarded_id ledger.guard ledger.calls).answer ledger.forwarded_id "phone"
      ledger.link = .ok (.Completed { ledger.result 2 with command_id := "command" }) := by
  refine (((commands_are_admitted_once_while_their_outcome_matters ledger.forwarded_id
    ledger.forwarded_id_injective 64 ledger.guard rfl ledger.calls).2.2.2.1 _ _ "phone" ledger.link
    rfl rfl (by decide +kernel)).2 ?_ (by decide +kernel)).1.trans (by decide +kernel)
  rintro ⟨earlier, recorded, between, _, later, hcalls, _, _, device_id, command, rfl, _⟩
  have hmem : GuardCall.admit_command device_id command ∈
      [GuardCall.record_result (ledger.result 2), .record_result (ledger.result 3)] := by
    rw [hcalls]
    simp
  simp at hmem

/-- A request for a snapshot under the id of a command is accepted. -/
theorem a_snapshot_under_the_id_of_a_command_is_accepted :
    (guard_run ledger.forwarded_id ledger.guard ledger.calls).answer ledger.forwarded_id "phone"
      ledger.link = .ok (.Completed { ledger.result 2 with command_id := "command" }) ∧
    (guard_run ledger.forwarded_id ledger.guard ledger.calls).answer ledger.forwarded_id "phone"
      (ledger.command .RequestSnapshot) = .ok .Accepted := by
  decide +kernel

end lumi_remote_gateway
