-- Only the controller reaches the engine. Each step of the gateway is at most
-- one call on the guard, so the ledger is consistent at every point; a command
-- that the relay sends was admitted from a session of its device, and its lease
-- has been in force since then, because no lease is granted twice.
import Lumi.Gateway.Grants

open rust lumi_remote_protocol

namespace lumi_remote_gateway

open GatewayCommandGuard (admit_ends command_key forwarded_command make_room_ok)

variable {Digest : Type}

/-! ## The calls of a run on the guard -/

/-- The lease that the step may draw. -/
def GatewayStep.lease : GatewayStep → Option String
  | .authenticate _ _ outside => outside.lease
  | .commit _ outside => outside.lease
  | _ => none

/-- The step leaves the guard alone, or it is one call on it; a transfer has the drawn lease. -/
def CallsGuard (forwarded_command_id : CommandKey → String) (step : GatewayStep)
    (guard guard' : GatewayCommandGuard) : Prop :=
  guard' = guard ∨ ∃ call, guard' = GuardCall.perform forwarded_command_id guard call ∧
    ∀ device_id lease_id, call = .transfer_control device_id lease_id →
      step.lease = some lease_id

variable {forwarded_command_id : CommandKey → String} {step : GatewayStep}
  {system : GatewaySystem Digest}

theorem granted_call {guard guard' : GatewayCommandGuard} {owner : Option String}
    {rotate_lease : Bool} (h : granted guard owner rotate_lease step.lease = some guard') :
    CallsGuard forwarded_command_id step guard guard' := by
  unfold granted at h
  split at h
  · exact .inl (Option.some.inj h).symm
  cases owner with
  | none => exact .inr ⟨.revoke_control, (Option.some.inj h).symm, by simp⟩
  | some owner =>
    obtain ⟨lease_id, hlease, rfl⟩ := Option.map_eq_some_iff.mp h
    refine .inr ⟨.transfer_control owner lease_id, rfl, ?_⟩
    intro device_id lease_id' heq
    cases heq
    exact hlease

theorem Moves.calls_guard [DecidableEq Digest] {hash_secret : String → Digest}
    {system' : GatewaySystem Digest}
    (h : Moves forwarded_command_id hash_secret system step system') :
    CallsGuard forwarded_command_id step system.state.command_guard
      system'.state.command_guard := by
  cases h with
  | enters _ _ _ hcommitted _ => exact granted_call hcommitted.guard
  | reads _ _ _ => exact .inr ⟨.admit_command _ _, rfl, by simp⟩
  | answers _ hanswers =>
    cases hanswers with
    | quiet _ _ hstate => exact .inl (by rw [hstate])
    | revoked _ _ hcommitted _ | transferred _ _ hcommitted _ => exact granted_call hcommitted.guard
  | records _ result _ => exact .inr ⟨.record_result result, rfl, by simp⟩
  | _ => exact .inl rfl

/-! ## One call -/

/-- The entries of the ledger are commands that change something, under their own lease. -/
def Stored (guard : GatewayCommandGuard) : Prop :=
  ∀ (key : CommandKey) outcome, guard.accepted[key]? = some outcome →
    outcome.command.is_mutating = true ∧ outcome.command.controller_lease_id = key.lease_id

variable {device_id lease_id : String} {grant : Grant} {system' : GatewaySystem Digest} {i : Nat}
  {steps : List GatewayStep}

variable {command : RemoteCommand}

section call

variable {forwarded_command_id : CommandKey → String} {guard : GatewayCommandGuard}

theorem Stored.perform (h : Stored guard) (call : GuardCall) :
    Stored (call.perform forwarded_command_id guard) := by
  cases call with
  | transfer_control device_id lease_id | revoke_control => exact h
  | record_result result =>
    simp only [GuardCall.perform, GatewayCommandGuard.record_result]
    split
    · exact h
    rename_i key _
    split
    · exact h
    rename_i outcome houtcome
    split
    · intro key' outcome' houtcome'
      dsimp only at houtcome'
      rw [map_get_insert] at houtcome'
      split at houtcome'
      · rename_i heq
        cases houtcome'
        exact heq ▸ h key outcome houtcome
      · exact h key' outcome' houtcome'
    · exact h
  | admit_command device_id command =>
    simp only [GuardCall.perform]
    rcases admit_ends forwarded_command_id guard device_id command with
      ⟨e, hrun⟩ | ⟨_, ⟨_, hrun⟩ | ⟨hmutating, ⟨_, _, _, _, hrun⟩ | ⟨_, room, hroom, hrun⟩⟩⟩
      <;> rw [hrun]
    · exact h
    · exact h
    · exact h
    have hroom : Stored room := by
      rcases make_room_ok hroom with ⟨_, rfl⟩ | ⟨_, _, _, _, _, _, _, rfl⟩
      · exact h
      intro key outcome houtcome
      dsimp only at houtcome
      rw [map_get_erase] at houtcome
      split at houtcome
      · cases houtcome
      · exact h key outcome houtcome
    intro key outcome houtcome
    dsimp only [GatewayCommandGuard.enter] at houtcome
    rw [map_get_insert] at houtcome
    split at houtcome
    · rename_i heq
      cases houtcome
      exact ⟨hmutating, heq ▸ rfl⟩
    · exact hroom key outcome houtcome

theorem perform_controller (call : GuardCall) :
    (call.perform forwarded_command_id guard).controller = guard.controller ∨
      (call.perform forwarded_command_id guard).controller = none ∨
      ∃ device_id lease_id, call = .transfer_control device_id lease_id ∧
        (call.perform forwarded_command_id guard).controller = some ⟨device_id, lease_id⟩ := by
  cases call with
  | admit_command device_id command =>
    exact .inl (congrArg GatewayCommandPolicy.controller
      (admit_policy forwarded_command_id guard device_id command))
  | record_result result =>
    exact .inl (congrArg GatewayCommandPolicy.controller (record_result_policy guard result))
  | transfer_control device_id lease_id => exact .inr (.inr ⟨device_id, lease_id, rfl, rfl⟩)
  | revoke_control => exact .inr (.inl rfl)

theorem authorize_ok {policy : GatewayCommandPolicy}
    (hmutating : command.is_mutating = true) (h : policy.authorize device_id command = .ok ()) :
    policy.controller = some ⟨device_id, command.controller_lease_id⟩ := by
  unfold GatewayCommandPolicy.authorize at h
  split at h
  · cases h
  rw [hmutating, if_neg (by simp)] at h
  split at h
  · cases h
  rename_i controller hcontroller
  split at h
  · cases h
  rename_i hmatch
  rw [not_or, not_not, not_not] at hmatch
  rw [hcontroller]
  cases controller
  simp_all

/-- The ledger is consistent, has room and holds commands under their own lease. -/
structure InOrder (forwarded_command_id : CommandKey → String) (guard : GatewayCommandGuard) :
    Prop where
  consistent : Consistent forwarded_command_id guard
  positive : 0 < guard.capacity
  stored : Stored guard

theorem InOrder.perform (h : InOrder forwarded_command_id guard)
    (hinj : Function.Injective forwarded_command_id) (call : GuardCall) :
    InOrder forwarded_command_id (call.perform forwarded_command_id guard) := by
  obtain ⟨hconsistent, hcapacity⟩ := h.consistent.perform hinj h.positive call
  exact ⟨hconsistent, hcapacity ▸ h.positive, h.stored.perform call⟩

/-- A command that the relay may send is the controller's. -/
theorem authorize_forwarded_ok (hinj : Function.Injective forwarded_command_id)
    (hguard : InOrder forwarded_command_id guard)
    (h : guard.authorize_forwarded
      (forwarded_command forwarded_command_id device_id command) = .ok ()) :
    guard.controller = some ⟨device_id, command.controller_lease_id⟩ := by
  unfold GatewayCommandGuard.authorize_forwarded at h
  split at h
  · cases h
  rename_i key hkey
  split at h
  · cases h
  rename_i outcome houtcome
  have hsame : key = command_key device_id command :=
    hinj ((hguard.consistent.forwarded _ key).mp hkey).2
  obtain ⟨hmutating, hlease⟩ := hguard.stored key outcome houtcome
  subst hsame
  split at h
  · cases h
  rename_i hauthorized
  have hcontroller := authorize_ok hmutating hauthorized
  rwa [hlease] at hcontroller

end call

/-! ## Where a command comes from -/

/-- The step admits a command that changes something, from a session of the device. -/
def Admits (forwarded_command_id : CommandKey → String) (system : GatewaySystem Digest)
    (step : GatewayStep) (device_id : String) (command : RemoteCommand) : Prop :=
  ∃ i grant ready snapshot, step = .select i ready (.incoming false snapshot) ∧
    system.sessions i = .serving grant .waiting ∧ grant.device_id = device_id ∧
    ready.incoming = some command ∧ command.is_mutating = true ∧
    system.state.command_guard.answer forwarded_command_id device_id command = .ok .Accepted

theorem Admits.controller (h : Admits forwarded_command_id system step device_id command) :
    system.state.command_guard.controller = some ⟨device_id, command.controller_lease_id⟩ := by
  obtain ⟨_, _, _, _, _, _, _, _, hmutating, haccepted⟩ := h
  unfold GatewayCommandGuard.answer at haccepted
  rcases admit_ends forwarded_command_id system.state.command_guard device_id
    command with ⟨e, hrun⟩ | ⟨hauthorized, _⟩
  · rw [hrun] at haccepted
    cases haccepted
  · exact authorize_ok hmutating hauthorized

section sources

variable {forwarded_command_id : CommandKey → String} {system : GatewaySystem Digest}

theorem put_submitting {i j : Nat} {session : Session}
    (h : (system.put j session).sessions i = .serving grant (.submitting command)) :
    system.sessions i = .serving grant (.submitting command) ∨
      (i = j ∧ session = .serving grant (.submitting command)) := by
  by_cases hij : i = j
  · subst hij
    exact .inr ⟨rfl, by simpa [GatewaySystem.put] using h⟩
  · exact .inl (by simpa [GatewaySystem.put, hij] using h)

variable [DecidableEq Digest] {hash_secret : String → Digest} {identity : InstallationIdentity}
  {step : GatewayStep} {command : RemoteCommand}

variable (hmoves : Moves forwarded_command_id hash_secret system step system')
include hmoves

/-- Only a command that is read makes a session submit. -/
theorem Moves.submitting (h : system'.sessions i = .serving grant (.submitting command)) :
    system.sessions i = .serving grant (.submitting command) ∨
      Admits forwarded_command_id system step grant.device_id command := by
  cases hmoves with
  | subscribes _ | enters _ _ _ _ _ | ends _ _ | submits _ =>
    exact .inl ((put_submitting h).resolve_right (by simp))
  | goes_on _ _ hactivity =>
    rcases put_submitting h with h | ⟨_, h⟩
    · exact .inl h
    cases h
    exact absurd rfl (hactivity command)
  | @reads _ _ ready _ _ snapshot _ hi hready hsession =>
    rcases put_submitting h with h | ⟨rfl, hsubmitting⟩
    · exact .inl h
    rcases hsession with rfl | ⟨activity, rfl, hsubmits⟩
    · cases hsubmitting
    cases hsubmitting
    obtain ⟨rfl, rfl, hmutating, haccepted⟩ := hsubmits command rfl
    exact .inr ⟨i, grant, ready, snapshot, rfl, hi, rfl, hready, hmutating, haccepted⟩
  | _ => exact .inl h

/-- What is in the channel was there, or a session submits it. -/
theorem Moves.commands (h : command ∈ system'.commands) :
    command ∈ system.commands ∨ ∃ i grant submitted,
      system.sessions i = .serving grant (.submitting submitted) ∧
      command = forwarded_command forwarded_command_id grant.device_id
        submitted := by
  cases hmoves with
  | submits hi =>
    rcases List.mem_append.mp h with h | h
    · exact .inl h
    · exact .inr ⟨_, _, _, hi, List.mem_singleton.mp h⟩
  | relays _ hcommands _ => exact .inl (hcommands h)
  | _ => exact .inl h

/-- The step makes the relay send the command. -/
def Sends (forwarded_command_id : CommandKey → String) (hash_secret : String → Digest)
    (identity : InstallationIdentity) (system : GatewaySystem Digest) (step : GatewayStep)
    (command : RemoteCommand) : Prop :=
  system.relay ≠ .sending command ∧
    (system.step forwarded_command_id hash_secret identity step).relay = .sending command

theorem Moves.sending (h : system'.relay = .sending command) :
    system.relay = .sending command ∨ (command ∈ system.commands ∧
      system.state.command_guard.authorize_forwarded command = .ok ()) := by
  cases hmoves with
  | records _ _ hrelay =>
    rcases hrelay with rfl | rfl
    · exact .inl h
    · cases h
  | relays _ _ hrelay =>
    rcases hrelay with rfl | hrelay
    · exact .inl h
    · exact .inr (hrelay command h)
  | _ => exact .inl h

omit hmoves

end sources

/-! ## Runs -/

section runs

variable [DecidableEq Digest] {forwarded_command_id : CommandKey → String}
  {hash_secret : String → Digest} {identity : InstallationIdentity} {system : GatewaySystem Digest}

theorem system_run_snoc (steps : List GatewayStep) (step : GatewayStep) :
    system.run forwarded_command_id hash_secret identity (steps ++ [step]) =
      (system.run forwarded_command_id hash_secret identity steps).step forwarded_command_id
        hash_secret identity step := by
  simp [GatewaySystem.run, List.foldl_append]

/-- A step of the run admitted the command. -/
def Admitted (forwarded_command_id : CommandKey → String) (hash_secret : String → Digest)
    (identity : InstallationIdentity) (system : GatewaySystem Digest) (steps : List GatewayStep)
    (device_id : String) (command : RemoteCommand) : Prop :=
  ∃ earlier step later, steps = earlier ++ step :: later ∧
    Admits forwarded_command_id
      (system.run forwarded_command_id hash_secret identity earlier) step device_id command

theorem Admitted.snoc
    (h : Admitted forwarded_command_id hash_secret identity system steps device_id command)
    (last : GatewayStep) :
    Admitted forwarded_command_id hash_secret identity system (steps ++ [last]) device_id
      command := by
  obtain ⟨earlier, step, later, rfl, hadmits⟩ := h
  exact ⟨earlier, step, later ++ [last], by simp, hadmits⟩

/-- The ledger is in order, and what is on its way to the relay was admitted in the run. -/
structure Traced (forwarded_command_id : CommandKey → String) (hash_secret : String → Digest)
    (identity : InstallationIdentity) (system : GatewaySystem Digest)
    (steps : List GatewayStep) (now : GatewaySystem Digest) : Prop where
  in_order : InOrder forwarded_command_id now.state.command_guard
  submitting : ∀ i grant command, now.sessions i = .serving grant (.submitting command) →
    Admitted forwarded_command_id hash_secret identity system steps grant.device_id command
  queued : ∀ command ∈ now.commands, ∃ device_id admitted,
    command = GatewayCommandGuard.forwarded_command forwarded_command_id device_id admitted ∧
    Admitted forwarded_command_id hash_secret identity system steps device_id admitted

theorem Traced.run (hinj : Function.Injective forwarded_command_id)
    (h : Traced forwarded_command_id hash_secret identity system [] system)
    (steps : List GatewayStep) :
    Traced forwarded_command_id hash_secret identity system steps
      (system.run forwarded_command_id hash_secret identity steps) := by
  induction steps using List.reverseRecOn with
  | nil => exact h
  | append_singleton steps step ih =>
    rw [system_run_snoc]
    have hmoves : Moves forwarded_command_id hash_secret
        (system.run forwarded_command_id hash_secret identity steps) step _ :=
      step_moves identity _ step
    refine ⟨?_, ?_, ?_⟩
    · rcases hmoves.calls_guard with hguard | ⟨call, hguard, _⟩ <;> rw [hguard]
      · exact ih.in_order
      exact ih.in_order.perform hinj call
    · intro i grant command hi
      rcases hmoves.submitting hi with hi | hadmits
      · exact (ih.submitting i grant command hi).snoc step
      · exact ⟨steps, step, [], rfl, hadmits⟩
    · intro command hcommand
      rcases hmoves.commands hcommand with hcommand | ⟨i, grant, submitted, hi, rfl⟩
      · obtain ⟨device_id, admitted, rfl, hadmitted⟩ := ih.queued command hcommand
        exact ⟨device_id, admitted, rfl, hadmitted.snoc step⟩
      · exact ⟨grant.device_id, submitted, rfl, (ih.submitting i grant submitted hi).snoc step⟩

/-- A lease that the step does not draw was in force before it, when it is after it. -/
theorem step_controller {step : GatewayStep} (hlease : step.lease ≠ some lease_id)
    (h : (system.step forwarded_command_id hash_secret identity
      step).state.command_guard.controller = some ⟨device_id, lease_id⟩) :
    system.state.command_guard.controller = some ⟨device_id, lease_id⟩ := by
  have hmoves : Moves forwarded_command_id hash_secret system step _ :=
    step_moves identity system step
  rcases hmoves.calls_guard with hguard | ⟨call, hguard, hdraw⟩
  · rwa [hguard] at h
  rw [hguard] at h
  rcases perform_controller call with hsame | hnone | ⟨device, lease, hcall, hnew⟩
  · rwa [hsame] at h
  · rw [hnone] at h
    cases h
  rw [hnew] at h
  cases h
  exact absurd (hdraw device_id lease_id hcall) hlease

variable (h : (system.run forwarded_command_id hash_secret identity
  steps).state.command_guard.controller = some ⟨device_id, lease_id⟩)
include h

/-- While its lease is not drawn again, who controls at the end controlled all along. -/
theorem controller_all_along (hlease : lease_id ∉ steps.filterMap GatewayStep.lease)
    {part : List GatewayStep} (hpart : part <+: steps) :
    (system.run forwarded_command_id hash_secret identity
      part).state.command_guard.controller = some ⟨device_id, lease_id⟩ := by
  induction steps using List.reverseRecOn with
  | nil => rwa [List.prefix_nil.mp hpart]
  | append_singleton steps step ih =>
    rcases List.prefix_concat_iff.mp hpart with rfl | hpart
    · exact h
    rw [List.filterMap_append, List.mem_append, not_or] at hlease
    rw [system_run_snoc] at h
    have hstep : step.lease ≠ some lease_id := by
      intro heq
      exact hlease.2 (by simp [heq])
    exact ih (step_controller hstep h) hlease.1 hpart

/-- The lease in force was in force at the start, or a step drew it. -/
theorem controller_drawn :
    system.state.command_guard.controller = some ⟨device_id, lease_id⟩ ∨
      lease_id ∈ steps.filterMap GatewayStep.lease := by
  by_cases hlease : lease_id ∈ steps.filterMap GatewayStep.lease
  · exact .inr hlease
  · exact .inl (controller_all_along h hlease List.nil_prefix)

end runs

section start

variable {trust_store : Option (PairingRegistrySnapshot Digest)} {lease : Option String}
  {state : SharedGatewayState Digest}

variable (h : SharedGatewayState.load trust_store lease = .ok state)
include h

/-- The guard of a start is new, or it was handed to the controller of the file. -/
theorem load_guard :
    ∃ guard, GatewayCommandGuard.new DEFAULT_COMMAND_LEDGER_CAPACITY = .ok guard ∧
      (state.command_guard = guard ∨ ∃ owner lease_id, lease = some lease_id ∧
        state.command_guard = guard.transfer_control owner lease_id) := by
  unfold SharedGatewayState.load at h
  simp only [except_bind_eq_ok] at h
  obtain ⟨registry, _, guard, hguard, h⟩ := h
  cases hguard
  refine ⟨_, rfl, ?_⟩
  split at h
  · cases h
    exact .inl rfl
  split at h
  · cases h
  cases h
  exact .inr ⟨_, _, rfl, rfl⟩

theorem load_controller
    (hcontroller : state.command_guard.controller = some ⟨device_id, lease_id⟩) :
    lease = some lease_id := by
  obtain ⟨guard, hnew, hguard | ⟨owner, drawn, hlease, hguard⟩⟩ := load_guard h
  · cases hnew
    rw [hguard] at hcontroller
    cases hcontroller
  rw [hguard] at hcontroller
  cases hcontroller
  exact hlease

theorem traced_start [DecidableEq Digest] (forwarded_command_id : CommandKey → String)
    (hash_secret : String → Digest) (identity : InstallationIdentity)
    (hinj : Function.Injective forwarded_command_id) :
    Traced forwarded_command_id hash_secret identity (.start state) [] (.start state) := by
  obtain ⟨guard, hnew, hguard⟩ := load_guard h
  obtain ⟨hconsistent, hcapacity, hpositive⟩ := consistent_new forwarded_command_id hnew
  have hempty : InOrder forwarded_command_id guard := by
    refine ⟨hconsistent, hcapacity ▸ hpositive, ?_⟩
    cases hnew
    intro key outcome hkey
    simp at hkey
  refine ⟨?_, ?_, ?_⟩
  · show InOrder forwarded_command_id state.command_guard
    rcases hguard with hguard | ⟨owner, lease_id, _, hguard⟩
    · rwa [hguard]
    rw [hguard]
    exact hempty.perform hinj (.transfer_control owner lease_id)
  · intro i grant command hi
    cases hi
  · intro command hcommand
    cases hcommand

end start

/-- In every run with leases that are never drawn twice, a command that the relay sends was
admitted from a session of its device, and from then until it is sent that device controls under
the lease of the command. -/
theorem only_the_controller_reaches_the_engine [DecidableEq Digest]
    (forwarded_command_id : CommandKey → String)
    (hinj : Function.Injective forwarded_command_id) (hash_secret : String → Digest)
    (identity : InstallationIdentity) (trust_store : Option (PairingRegistrySnapshot Digest))
    (lease : Option String) (state : SharedGatewayState Digest)
    (hload : SharedGatewayState.load trust_store lease = .ok state) (steps : List GatewayStep)
    (hleases : (lease.toList ++ steps.filterMap GatewayStep.lease).Nodup) (step : GatewayStep)
    (sent : RemoteCommand)
    (hsends : Sends forwarded_command_id hash_secret identity
      ((GatewaySystem.start state).run forwarded_command_id hash_secret identity steps) step
      sent) :
    ∃ device_id command earlier admission later, steps = earlier ++ admission :: later ∧
      Admits forwarded_command_id
        ((GatewaySystem.start state).run forwarded_command_id hash_secret identity earlier)
        admission device_id command ∧
      sent = GatewayCommandGuard.forwarded_command forwarded_command_id device_id command ∧
      ∀ part, part <+: admission :: later →
        ((GatewaySystem.start state).run forwarded_command_id hash_secret identity
          (earlier ++ part)).state.command_guard.controller =
            some ⟨device_id, command.controller_lease_id⟩ := by
  have htraced := (traced_start hload forwarded_command_id hash_secret identity hinj).run hinj steps
  obtain ⟨hqueued, hauthorized⟩ :=
    ((step_moves identity _ step).sending hsends.2).resolve_left hsends.1
  obtain ⟨device_id, command, rfl, earlier, admission, later, rfl, hadmits⟩ :=
    htraced.queued sent hqueued
  have hend := authorize_forwarded_ok hinj htraced.in_order hauthorized
  refine ⟨device_id, command, earlier, admission, later, rfl, hadmits, rfl, ?_⟩
  -- The lease was drawn before the admission, so it is not drawn after it.
  have hdrawn : command.controller_lease_id ∈
      lease.toList ++ earlier.filterMap GatewayStep.lease := by
    rcases controller_drawn hadmits.controller with hstart | hdrawn
    · rw [load_controller hload hstart]
      simp
    · exact List.mem_append_right _ hdrawn
  have hlater : command.controller_lease_id ∉
      (admission :: later).filterMap GatewayStep.lease := by
    rw [List.filterMap_append, ← List.append_assoc] at hleases
    intro hlater
    exact List.disjoint_of_nodup_append hleases hdrawn hlater
  intro part hpart
  rw [GatewaySystem.run, List.foldl_append] at hend ⊢
  exact controller_all_along hend hlater hpart

namespace sessions

/-- A phone pairs and submits a command. -/
def submitted : List GatewayStep :=
  [.commit .CreateInvitation (trust.clock 1000000 "first"),
    .commit (.ApproveInvitation "invitation" "123456") (trust.clock 1000000 "second"),
    .subscribe 0,
    .authenticate 0 (.Pair "invitation" "0123456789abcdef0123456789abcdef" "phone" "Phone"
      trust.credential none) (trust.clock 1000000 "lease"),
    .written 0,
    .select 0 ⟨false, some ledger.link⟩ (.incoming false false),
    .submit 0 true]

/-- The command as the relay sends it. -/
def forwarded : RemoteCommand :=
  GatewayCommandGuard.forwarded_command ledger.forwarded_id "phone" ledger.link

end sessions

theorem a_command_of_the_phone_is_sent :
    Sends ledger.forwarded_id id trust.installation (sessions.run sessions.submitted)
      (.request false false) sessions.forwarded ∧
    ∃ device_id command earlier admission later,
      sessions.submitted = earlier ++ admission :: later ∧
      Admits ledger.forwarded_id (sessions.run earlier) admission device_id command ∧
      sessions.forwarded =
        GatewayCommandGuard.forwarded_command ledger.forwarded_id device_id command ∧
      ∀ part, part <+: admission :: later →
        (sessions.run (earlier ++ part)).state.command_guard.controller =
          some ⟨device_id, command.controller_lease_id⟩ := by
  have hsends : Sends ledger.forwarded_id id trust.installation
      (sessions.run sessions.submitted) (.request false false) sessions.forwarded :=
    ⟨by decide +kernel, by decide +kernel⟩
  exact ⟨hsends, only_the_controller_reaches_the_engine ledger.forwarded_id
    ledger.forwarded_id_injective id trust.installation none none sessions.state rfl
    sessions.submitted (by decide) (.request false false) sessions.forwarded hsends⟩

end lumi_remote_gateway
