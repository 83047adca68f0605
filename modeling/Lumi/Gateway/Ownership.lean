-- One owner, three times: in the registry, in the guard and in the file. Every
-- operation that changes the registry commits a copy, and the commit brings
-- guard and file along.
import Lumi.Gateway.Orderly

open rust lumi_remote_protocol
open Call (bind_of_err bind_of_ok bind_run on_run)

namespace lumi_remote_gateway

variable {Digest : Type}

/-! ## The copies that the operations commit -/

namespace PairingRegistry

variable (registry : PairingRegistry Digest)

def seen_candidate (device_id : String) (device : PairedDevice Digest)
    (client_version : Option String) (now : UInt64) : PairingRegistry Digest :=
  set_client_version { registry with
    devices := registry.devices.insert device_id { device with last_seen_unix_millis := now } }
    device_id client_version

def paired_candidate (hash_secret : String → Digest)
    (invitation_id device_id display_name device_credential : String)
    (client_version : Option String) (now : UInt64) : PairingRegistry Digest :=
  (registry.exchanged hash_secret invitation_id device_id display_name device_credential
    now).set_client_version device_id client_version

def revoked_candidate (device_id : String) (now : UInt64) : PairingRegistry Digest :=
  let candidate := { registry with devices := registry.devices.erase device_id }
  if registry.controller_device_id = some device_id then
    candidate.record_controller_change registry.controller_device_id "controllerRevoked" now
  else candidate

def transferred_candidate (device_id : String) (now : UInt64) : PairingRegistry Digest :=
  record_controller_change { registry with
    devices := registry.devices.map fun _ device =>
      { device with controller := device.device_id == device_id } }
    registry.controller_device_id "macTransfer" now

end PairingRegistry

/-! ## Commits -/

/-- The guard behind a commit, unless no lease could be drawn. -/
def granted (command_guard : GatewayCommandGuard) (owner : Option String) (rotate_lease : Bool)
    (lease : Option String) : Option GatewayCommandGuard :=
  if command_guard.controller.map (·.device_id) = owner ∧ rotate_lease = false then
    some command_guard
  else
    match owner with
    | none => some command_guard.revoke_control
    | some owner => lease.map (command_guard.transfer_control owner)

variable {command_guard command_guard' : GatewayCommandGuard} {rotate_lease : Bool}
  {lease client_version : Option String} {device_id : String} {candidate : PairingRegistry Digest}
  {hello : RemoteClientHello} {operation : GatewayOperation}
  {trust_store : Option (PairingRegistrySnapshot Digest)}

theorem granted_owner {owner : Option String}
    (h : granted command_guard owner rotate_lease lease = some command_guard') :
    command_guard'.controller.map (·.device_id) = owner := by
  unfold granted at h
  split at h
  · cases h
    exact (by assumption : _ ∧ _).1
  cases owner with
  | none =>
    cases h
    rfl
  | some owner =>
    obtain ⟨lease, _, rfl⟩ := Option.map_eq_some_iff.mp h
    rfl

/-- A new owner, or a lease that is rotated, gets the lease that was drawn. -/
theorem granted_lease {owner : String}
    (h : granted command_guard (some owner) rotate_lease lease = some command_guard')
    (hnew : ¬ (command_guard.controller.map (·.device_id) = some owner ∧ rotate_lease = false)) :
    ∃ lease_id, lease = some lease_id ∧ command_guard'.controller = some ⟨owner, lease_id⟩ := by
  unfold granted at h
  rw [if_neg hnew] at h
  obtain ⟨lease_id, hlease, rfl⟩ := Option.map_eq_some_iff.mp h
  exact ⟨lease_id, hlease, rfl⟩

/-- The candidate was saved, and registry, guard and file follow it. -/
structure Committed (outside : Surroundings) (rotate_lease : Bool)
    (candidate : PairingRegistry Digest) (state state' : SharedGatewayState Digest) : Prop where
  saves : outside.saves = true
  guard : granted state.command_guard candidate.controller_device_id rotate_lease outside.lease =
    some state'.command_guard
  registry : state'.registry = candidate
  trust_store : state'.trust_store = some candidate.snapshot

namespace SharedGatewayState

variable (state : SharedGatewayState Digest) (outside : Surroundings)
  (candidate : PairingRegistry Digest)

theorem commit_registry_run (rotate_lease : Bool) :
    (commit_registry outside candidate rotate_lease).run state =
      match granted state.command_guard candidate.controller_device_id rotate_lease
        outside.lease with
      | none => (state, .err .Identity)
      | some command_guard =>
        if outside.saves then
          ({ state with
              registry := candidate
              command_guard
              trust_store := some candidate.snapshot }, .ok ())
        else (state, .err (.TrustStore .Io)) := by
  unfold commit_registry granted
  rw [Call.get_bind_run]
  cases howner : candidate.controller_device_id with
  | none =>
    cases hsaves : outside.saves <;> cases rotate_lease <;>
      cases state.command_guard.controller <;>
      simp [PersistentTrustStore.save, hsaves, Call.when, bind_run]
  | some owner =>
    by_cases hsame : state.command_guard.controller.map (·.device_id) = some owner <;>
      cases hsaves : outside.saves <;> cases rotate_lease <;>
      cases hlease : outside.lease <;>
      simp [PersistentTrustStore.save, hsaves, hsame, Call.when, bind_run, Outcome.ok_or]

theorem commit_registry_ends (rotate_lease : Bool) :
    (∃ e, (commit_registry outside candidate rotate_lease).run state = (state, .err e)) ∨
      ∃ state', (commit_registry outside candidate rotate_lease).run state = (state', .ok ()) ∧
        Committed outside rotate_lease candidate state state' ∧
        state'.trust_revision = state.trust_revision := by
  rw [commit_registry_run]
  cases hgranted : granted state.command_guard candidate.controller_device_id rotate_lease
      outside.lease with
  | none => exact .inl ⟨_, rfl⟩
  | some command_guard =>
    cases hsaves : outside.saves with
    | false => exact .inl ⟨_, rfl⟩
    | true => exact .inr ⟨_, rfl, ⟨hsaves, hgranted, rfl, rfl⟩, rfl⟩

theorem commit_change_ends (rotate_lease : Bool) :
    (∃ e, (commit_change outside candidate rotate_lease).run state = (state, .err e)) ∨
      ∃ state', (commit_change outside candidate rotate_lease).run state =
          (state', .ok (none, true)) ∧
        Committed outside rotate_lease candidate state state' ∧
        state'.trust_revision = state.trust_revision := by
  unfold commit_change
  rcases commit_registry_ends state outside candidate rotate_lease with
    ⟨e, hrun⟩ | ⟨state', hrun, hcommitted⟩
  · exact .inl ⟨.InvalidPersistedDevice, bind_of_err (by rw [Call.map_err_run, hrun]; rfl)⟩
  · exact .inr ⟨state', bind_of_ok (by rw [Call.map_err_run, hrun]; rfl), hcommitted⟩

/-! ## How the operations end -/

variable (hash_secret : String → Digest) (identity : InstallationIdentity)

/-- The copy behind a hello. -/
def Enters [DecidableEq Digest] (registry : PairingRegistry Digest) (now : UInt64)
    (candidate : PairingRegistry Digest) : RemoteClientHello → Prop
  | .Authenticate device_id _ client_version =>
    ∃ device, registry.devices[device_id]? = some device ∧
      candidate = registry.seen_candidate device_id device client_version now
  | .Pair invitation_id invitation_secret device_id display_name device_credential
      client_version =>
    registry.check_exchange hash_secret invitation_id invitation_secret device_id display_name
        device_credential now = .ok () ∧
      candidate = registry.paired_candidate hash_secret invitation_id device_id display_name
        device_credential client_version now

/-- The device that says the hello. -/
def device_of_hello : RemoteClientHello → String
  | .Authenticate device_id _ _ => device_id
  | .Pair _ _ device_id _ _ _ => device_id

theorem candidate_of_hello_ends [DecidableEq Digest] (registry : PairingRegistry Digest)
    (hello : RemoteClientHello) (now : UInt64) :
    (∃ candidate e, (candidate_of_hello hash_secret hello now).run registry =
        (candidate, .err e)) ∨
      ∃ candidate paired, (candidate_of_hello hash_secret hello now).run registry =
        (candidate, .ok (device_of_hello hello, paired)) ∧
          Enters hash_secret registry now candidate hello := by
  cases hello with
  | Authenticate device_id credential client_version =>
    rcases PairingRegistry.authenticate_ends hash_secret registry device_id credential now with
      ⟨⟨e, hrun⟩, _⟩ | ⟨device, hdevice, _, hrun⟩
    · exact .inl ⟨registry, e, bind_of_err hrun⟩
    · exact .inr ⟨_, false, bind_of_ok hrun, device, hdevice, rfl⟩
  | Pair invitation_id invitation_secret device_id display_name device_credential client_version =>
    rcases PairingRegistry.exchange_ends hash_secret registry invitation_id invitation_secret
      device_id display_name device_credential now with ⟨e, hrun⟩ | ⟨hcheck, hrun⟩
    · exact .inl ⟨registry, e, bind_of_err hrun⟩
    · exact .inr ⟨_, true, bind_of_ok hrun, hcheck, rfl⟩

theorem authenticate_ends [DecidableEq Digest] (hello : RemoteClientHello) :
    (∃ e, (authenticate hash_secret identity outside hello).run state = (state, .err e)) ∨
      ∃ candidate paired state', hello.validate = .ok () ∧
        Enters hash_secret state.registry outside.now candidate hello ∧
        Committed outside false candidate state state' ∧
        state'.trust_revision = state.trust_revision ∧
        (authenticate hash_secret identity outside hello).run state =
          (state', .ok (device_of_hello hello,
            state'.server_hello identity (device_of_hello hello) paired)) := by
  unfold authenticate
  rcases hvalid : hello.validate with e | _
  · exact .inl ⟨_, rfl⟩
  rw [Outcome.lift_ok, Call.lift_ok_bind_run, Call.get_bind_run]
  rcases candidate_of_hello_ends hash_secret state.registry hello outside.now with
    ⟨candidate, e, hentered⟩ | ⟨candidate, paired, hentered, henters⟩ <;> rw [hentered]
  · exact .inl ⟨_, rfl⟩
  dsimp only
  rw [Outcome.map_err_ok, Call.lift_ok_bind_run]
  rcases commit_registry_ends state outside candidate false with
    ⟨e, hcommit⟩ | ⟨state', hcommit, hcommitted, hrevision⟩
  · exact .inl ⟨e, bind_of_err hcommit⟩
  exact .inr ⟨candidate, paired, state', rfl, henters, hcommitted, hrevision, bind_of_ok hcommit⟩

/-- What a request does up to the notification, and whether the sessions have to be notified. -/
inductive Answers (outside : Surroundings) (state state' : SharedGatewayState Digest) :
    GatewayAdminRequest → Bool → Prop
  | quiet {request : GatewayAdminRequest} (pending : BTreeMap String (PendingInvitation Digest))
      (hrequest : ∀ device_id, request ≠ .RevokeDevice device_id ∧
        request ≠ .TransferControl device_id)
      (hstate : state' = { state with registry := { state.registry with pending } }) :
      Answers outside state state' request false
  | revoked (device_id : String) (hdevice : state.registry.contains_device device_id = true)
      (hcommitted : Committed outside false
        (state.registry.revoked_candidate device_id outside.now) state state')
      (hrevision : state'.trust_revision = state.trust_revision) :
      Answers outside state state' (.RevokeDevice device_id) true
  | transferred (device_id : String) (hdevice : state.registry.contains_device device_id = true)
      (hcommitted : Committed outside true
        (state.registry.transferred_candidate device_id outside.now) state state')
      (hrevision : state'.trust_revision = state.trust_revision) :
      Answers outside state state' (.TransferControl device_id) true

theorem create_invitation_ends :
    (∃ e, (create_invitation hash_secret identity outside).run state = (state, .err e)) ∨
      ∃ invitation pending, (create_invitation hash_secret identity outside).run state =
        ({ state with registry := { state.registry with pending } }, .ok invitation) := by
  unfold create_invitation
  cases outside.invitation with
  | none => exact .inl ⟨_, rfl⟩
  | some draw =>
    have hdrawn : (Outcome.ok_or (some draw) PairingError.InvalidInvitation) = .ok draw := rfl
    rw [hdrawn, Call.lift_ok_bind_run]
    rcases PairingRegistry.create_invitation_ends hash_secret state.registry
      (invitation_request identity outside.now draw) with ⟨e, hrun⟩ | hrun
    · exact .inl ⟨e, bind_of_err (by rw [on_run, hrun])⟩
    · exact .inr ⟨_, _, bind_of_ok (by rw [on_run, hrun])⟩

theorem commit_request_ends (request : GatewayAdminRequest) :
    (∃ e, (commit_request hash_secret identity outside request).run state = (state, .err e)) ∨
      ∃ state' invitation changed,
        (commit_request hash_secret identity outside request).run state =
          (state', .ok (invitation, changed)) ∧ Answers outside state state' request changed := by
  cases request with
  | Status => exact .inr ⟨state, none, false, rfl, .quiet state.registry.pending (by simp) rfl⟩
  | CreateInvitation =>
    rcases create_invitation_ends state outside hash_secret identity with
      ⟨e, hrun⟩ | ⟨invitation, pending, hrun⟩
    · exact .inl ⟨e, bind_of_err hrun⟩
    · exact .inr ⟨_, some invitation, false, bind_of_ok hrun, .quiet pending (by simp) rfl⟩
  | ApproveInvitation invitation_id short_code =>
    rcases PairingRegistry.approve_ends state.registry invitation_id short_code with
      ⟨e, hrun⟩ | ⟨invitation, _, _, hrun⟩
    · exact .inl ⟨e, bind_of_err (by rw [on_run, hrun])⟩
    exact .inr ⟨_, none, false, bind_of_ok (by rw [on_run, hrun]), .quiet _ (by simp) rfl⟩
  | RevokeDevice device_id =>
    rcases hdevice : state.registry.contains_device device_id with _ | _
    · refine .inl ⟨.DeviceUnknown, ?_⟩
      simp [commit_request, PairingRegistry.revoke_ends, hdevice]
    have hrequest : (commit_request hash_secret identity outside (.RevokeDevice device_id)).run
        state = (commit_change outside (state.registry.revoked_candidate device_id outside.now)
          false).run state := by
      simp [commit_request, PairingRegistry.revoke_ends, hdevice,
        PairingRegistry.revoked_candidate]
    rw [hrequest]
    rcases commit_change_ends state outside _ false with
      ⟨e, hrun⟩ | ⟨state', hrun, hcommitted, hrevision⟩
    · exact .inl ⟨e, hrun⟩
    · exact .inr ⟨state', none, true, hrun, .revoked device_id hdevice hcommitted hrevision⟩
  | TransferControl device_id =>
    rcases PairingRegistry.set_controller_ends state.registry device_id with
      ⟨e, hset⟩ | ⟨hdevice, hset⟩
    · refine .inl ⟨.DeviceUnknown, ?_⟩
      simp [commit_request, hset]
    have hrequest : (commit_request hash_secret identity outside
        (.TransferControl device_id)).run state = (commit_change outside
          (state.registry.transferred_candidate device_id outside.now) true).run state := by
      simp [commit_request, hset, PairingRegistry.transferred_candidate]
    rw [hrequest]
    rcases commit_change_ends state outside _ true with
      ⟨e, hrun⟩ | ⟨state', hrun, hcommitted, hrevision⟩
    · exact .inl ⟨e, hrun⟩
    · exact .inr ⟨state', none, true, hrun, .transferred device_id hdevice hcommitted hrevision⟩

end SharedGatewayState

variable (hash_secret : String → Digest) (identity : InstallationIdentity)

/-- What an operation of a gateway that runs does when it ends well. A notification comes last and
counts the revision alone. -/
inductive Passes [DecidableEq Digest] (outside : Surroundings)
    (state state' : SharedGatewayState Digest) : GatewayOperation → Prop
  | entered {hello : RemoteClientHello} {candidate : PairingRegistry Digest}
      (hvalid : hello.validate = .ok ())
      (henters : SharedGatewayState.Enters hash_secret state.registry outside.now candidate hello)
      (hcommitted : Committed outside false candidate state state') :
      Passes outside state state' (.hello hello)
  | answered {request : GatewayAdminRequest} {changed : Bool}
      (hanswers : SharedGatewayState.Answers outside state
        { state' with trust_revision := state.trust_revision } request changed) :
      Passes outside state state' (.request request)

/-! ## The candidates -/

section candidates

variable {registry : PairingRegistry Digest} {hash_secret} (h : Orderly registry)
include h

theorem Orderly.seen_candidate {device : PairedDevice Digest}
    (hdevice : registry.devices[device_id]? = some device)
    (hversion : ∀ text, client_version = some text → is_identifier text 64 = true) (now : UInt64) :
    Orderly (registry.seen_candidate device_id device client_version now) ∧
      (registry.seen_candidate device_id device client_version now).controller_device_id =
        registry.controller_device_id := by
  obtain ⟨hseen, howner⟩ := h.seen hdevice now
  obtain ⟨hversioned, howner'⟩ := hseen.versioned device_id hversion
  exact ⟨hversioned, howner'.trans howner⟩

theorem Orderly.paired_candidate [DecidableEq Digest]
    {invitation_id invitation_secret device_id display_name device_credential : String}
    {now : UInt64}
    (hcheck : registry.check_exchange hash_secret invitation_id invitation_secret device_id
      display_name device_credential now = .ok ())
    (hversion : ∀ text, client_version = some text → is_identifier text 64 = true) :
    Orderly (registry.paired_candidate hash_secret invitation_id device_id display_name
        device_credential client_version now) ∧
      (registry.paired_candidate hash_secret invitation_id device_id display_name
        device_credential client_version now).controller_device_id =
        if registry.controller_selection_initialized then registry.controller_device_id
        else some device_id := by
  obtain ⟨hexchanged, howner⟩ := h.exchanged hcheck
  obtain ⟨hversioned, howner'⟩ := hexchanged.versioned device_id hversion
  exact ⟨hversioned, howner'.trans howner⟩

theorem Orderly.revoked_candidate (device_id : String) (now : UInt64) :
    Orderly (registry.revoked_candidate device_id now) ∧
      (registry.revoked_candidate device_id now).controller_device_id =
        if registry.controller_device_id = some device_id then none
        else registry.controller_device_id := by
  have hrevoked := h.revoked device_id
  have howner : PairingRegistry.controller_device_id
      { registry with devices := registry.devices.erase device_id } =
        if registry.controller_device_id = some device_id then none
        else registry.controller_device_id := by
    apply Option.ext
    intro id
    rw [hrevoked.controller_eq_some]
    dsimp only
    rw [map_get_erase]
    by_cases hid : device_id = id
    · subst hid
      split
      · simp
      · simp_all
    · rw [if_neg hid]
      split
      · rename_i hcontroller
        rw [← h.controller_eq_some, hcontroller, Option.some.injEq]
        simp [hid]
      · rw [h.controller_eq_some]
  unfold PairingRegistry.revoked_candidate
  split
  · refine ⟨hrevoked.recorded (by decide +kernel) (fun id hid => h.controller_valid hid) now, ?_⟩
    rw [if_pos (by assumption)] at howner
    exact howner
  · rw [if_neg (by assumption)] at howner
    exact ⟨hrevoked, howner⟩

theorem Orderly.transferred_candidate (hdevice : registry.contains_device device_id = true)
    (now : UInt64) :
    Orderly (registry.transferred_candidate device_id now) ∧
      (registry.transferred_candidate device_id now).controller_device_id = some device_id := by
  have hcontrolled := h.controlled device_id
  refine ⟨hcontrolled.recorded (by decide +kernel) (fun id hid => h.controller_valid hid) now,
    hcontrolled.controller_eq_some.mpr ?_⟩
  obtain ⟨device, hsome⟩ := Option.isSome_iff_exists.mp hdevice
  refine ⟨{ device with controller := device.device_id == device_id }, ?_, ?_⟩
  · rw [Std.ExtTreeMap.getElem?_map, hsome]
    rfl
  · exact beq_iff_eq.mpr (h.keyed device_id device hsome)

end candidates

/-! ## Registry, guard and file -/

/-- The controller of a saved registry. -/
def owner_of (trust_store : Option (PairingRegistrySnapshot Digest)) : Option String :=
  trust_store.bind fun snapshot => (snapshot.devices.find? (·.controller)).map (·.device_id)

/-- Guard and file follow the registry. There is a file once a controller was chosen. -/
structure Held (state : SharedGatewayState Digest) : Prop where
  orderly : Orderly state.registry
  guard : state.command_guard.controller.map (·.device_id) = state.registry.controller_device_id
  trust_store : state.trust_store =
    if state.registry.controller_selection_initialized then some state.registry.snapshot else none

/-- What a gateway leaves for its next start. -/
def Left (trust_store : Option (PairingRegistrySnapshot Digest)) : Prop :=
  trust_store = none ∨ ∃ registry, Orderly registry ∧
    registry.controller_selection_initialized = true ∧ trust_store = some registry.snapshot

def Kept : GatewayProcess Digest → Prop
  | .running state => Held state
  | .stopped trust_store => Left trust_store

section held

variable {state state' : SharedGatewayState Digest} {process : GatewayProcess Digest}
  {outside : Surroundings} {hash_secret}

theorem Held.left (h : Held state) : Left state.trust_store := by
  rw [h.trust_store]
  split
  · exact .inr ⟨state.registry, h.orderly, by assumption, rfl⟩
  · exact .inl rfl

theorem Kept.left (h : Kept process) : Left process.trust_store := by
  cases process with
  | running state => exact Held.left h
  | stopped trust_store => exact h

theorem Held.owner (h : Held state) :
    owner_of state.trust_store = state.registry.controller_device_id := by
  rw [h.trust_store]
  split
  · rfl
  rename_i hchosen
  have hempty := h.orderly.chosen (Bool.eq_false_iff.mpr hchosen)
  simp [owner_of, PairingRegistry.controller_device_id, PairingRegistry.paired_devices, hempty]

theorem held_of_committed (h : Committed outside rotate_lease candidate state state')
    (horderly : Orderly candidate) (hchosen : candidate.controller_selection_initialized = true) :
    Held state' where
  orderly := h.registry ▸ horderly
  guard := by rw [h.registry, granted_owner h.guard]
  trust_store := by rw [h.registry, if_pos hchosen, h.trust_store]

/-- The choice of a controller stays made. -/
theorem set_client_version_chosen (registry : PairingRegistry Digest) (device_id : String)
    (client_version : Option String) :
    (registry.set_client_version device_id client_version).controller_selection_initialized =
      registry.controller_selection_initialized := by
  unfold PairingRegistry.set_client_version
  split <;> rfl

theorem hello_version (h : hello.validate = .ok ()) :
    match hello with
    | .Authenticate _ _ client_version | .Pair _ _ _ _ _ client_version =>
      ∀ text, client_version = some text → is_identifier text 64 = true := by
  have hversion {value : Option String} (h : validate_version value = .ok ()) :
      ∀ text, value = some text → is_identifier text 64 = true := by
    rintro text rfl
    simpa [validate_version, validate_hello_identifier] using h
  cases hello with
  | Authenticate device_id credential client_version =>
    simp only [RemoteClientHello.validate, except_bind_eq_ok] at h
    obtain ⟨_, _, _, _, h⟩ := h
    exact hversion h
  | Pair invitation_id invitation_secret device_id display_name device_credential client_version =>
    simp only [RemoteClientHello.validate, except_bind_eq_ok] at h
    obtain ⟨_, _, _, _, _, _, _, _, _, _, h⟩ := h
    exact hversion h

/-- A commit that keeps owner and lease keeps the guard. -/
theorem Committed.same_guard (h : Committed outside false candidate state state')
    (howner : state.command_guard.controller.map (·.device_id) = candidate.controller_device_id) :
    state'.command_guard = state.command_guard := by
  have hguard := h.guard
  unfold granted at hguard
  rw [if_pos ⟨howner, rfl⟩] at hguard
  exact (Option.some.inj hguard).symm

/-- The three operations that change who controls. -/
def GatewayOperation.changes_owner (state : SharedGatewayState Digest) : GatewayOperation → Bool
  | .hello (.Pair ..) => state.trust_store.isNone
  | .request (.TransferControl _) => true
  | .request (.RevokeDevice device_id) => state.registry.controller_device_id = some device_id
  | _ => false

/-- What an operation that ends well does to the controller and its lease. -/
inductive OwnerStep (outside : Surroundings) (state state' : SharedGatewayState Digest) :
    GatewayOperation → Prop
  | same {operation : GatewayOperation} (hoperation : operation.changes_owner state = false)
      (hcontroller : state'.command_guard.controller = state.command_guard.controller) :
      OwnerStep outside state state' operation
  | first_pairing
      {invitation_id invitation_secret device_id display_name device_credential lease : String}
      {client_version : Option String} (hfirst : state.trust_store = none)
      (hlease : outside.lease = some lease)
      (hcontroller : state'.command_guard.controller = some ⟨device_id, lease⟩) :
      OwnerStep outside state state' (.hello (.Pair invitation_id invitation_secret device_id
        display_name device_credential client_version))
  | transfer {device_id lease : String} (hlease : outside.lease = some lease)
      (hcontroller : state'.command_guard.controller = some ⟨device_id, lease⟩) :
      OwnerStep outside state state' (.request (.TransferControl device_id))
  | revocation {device_id : String}
      (howner : state.registry.controller_device_id = some device_id)
      (hcontroller : state'.command_guard.controller = none) :
      OwnerStep outside state state' (.request (.RevokeDevice device_id))

theorem Held.enters [DecidableEq Digest] (h : Held state) (hvalid : hello.validate = .ok ())
    (henters : SharedGatewayState.Enters hash_secret state.registry outside.now candidate hello)
    (hcommitted : Committed outside false candidate state state') :
    Held state' ∧ OwnerStep outside state state' (.hello hello) := by
  have hversion := hello_version hvalid
  cases hello with
  | Authenticate device_id credential client_version =>
    obtain ⟨device, hdevice, rfl⟩ := henters
    obtain ⟨horderly, howner⟩ := h.orderly.seen_candidate hdevice hversion outside.now
    have hchosen := h.orderly.chosen_of_device hdevice
    refine ⟨held_of_committed hcommitted horderly ?_, .same rfl ?_⟩
    · rw [PairingRegistry.seen_candidate, set_client_version_chosen, hchosen]
    · rw [hcommitted.same_guard (h.guard.trans howner.symm)]
  | Pair invitation_id invitation_secret device_id display_name device_credential client_version =>
    obtain ⟨hcheck, rfl⟩ := henters
    obtain ⟨horderly, howner⟩ := h.orderly.paired_candidate hcheck hversion
    refine ⟨held_of_committed hcommitted horderly ?_, ?_⟩
    · rw [PairingRegistry.paired_candidate, set_client_version_chosen, PairingRegistry.exchanged]
      split <;> rfl
    · have hfile := h.trust_store
      cases hchosen : state.registry.controller_selection_initialized with
      | true =>
        rw [hchosen, if_pos rfl] at howner hfile
        refine .same ?_ (by rw [hcommitted.same_guard (h.guard.trans howner.symm)])
        simp [GatewayOperation.changes_owner, hfile]
      | false =>
        rw [hchosen, if_neg (by simp)] at howner hfile
        have hnone : state.command_guard.controller.map (·.device_id) = none := by
          rw [h.guard, ← h.owner, hfile]
          rfl
        have hguard := hcommitted.guard
        rw [howner] at hguard
        obtain ⟨lease, hlease, hcontroller⟩ := granted_lease hguard (by simp [hnone])
        exact .first_pairing hfile hlease hcontroller

theorem Held.answers (h : Held state) {request : GatewayAdminRequest} {changed : Bool}
    (hanswers : SharedGatewayState.Answers outside state state' request changed) :
    Held state' ∧ OwnerStep outside state state' (.request request) := by
  cases hanswers with
  | quiet pending hrequest hstate =>
    subst hstate
    refine ⟨⟨h.orderly.invited pending, h.guard, h.trust_store⟩, .same ?_ rfl⟩
    cases request with
    | RevokeDevice device_id => exact absurd rfl (hrequest device_id).1
    | TransferControl device_id => exact absurd rfl (hrequest device_id).2
    | _ => rfl
  | revoked device_id hdevice hcommitted _ =>
    obtain ⟨horderly, howner⟩ := h.orderly.revoked_candidate device_id outside.now
    obtain ⟨device, hsome⟩ := Option.isSome_iff_exists.mp hdevice
    refine ⟨held_of_committed hcommitted horderly ?_, ?_⟩
    · rw [← h.orderly.chosen_of_device hsome, PairingRegistry.revoked_candidate]
      split <;> rfl
    · by_cases hcontroller : state.registry.controller_device_id = some device_id
      · rw [if_pos hcontroller] at howner
        have hnone := granted_owner hcommitted.guard
        rw [howner, Option.map_eq_none_iff] at hnone
        exact .revocation hcontroller hnone
      · rw [if_neg hcontroller] at howner
        refine .same ?_ (by rw [hcommitted.same_guard (h.guard.trans howner.symm)])
        simpa [GatewayOperation.changes_owner] using hcontroller
  | transferred device_id hdevice hcommitted _ =>
    obtain ⟨horderly, howner⟩ := h.orderly.transferred_candidate hdevice outside.now
    obtain ⟨device, hsome⟩ := Option.isSome_iff_exists.mp hdevice
    refine ⟨held_of_committed hcommitted horderly (h.orderly.chosen_of_device hsome), ?_⟩
    have hguard := hcommitted.guard
    rw [howner] at hguard
    obtain ⟨lease, hlease, hcontroller⟩ := granted_lease hguard (by simp)
    exact .transfer hlease hcontroller

theorem Held.passes [DecidableEq Digest] (h : Held state)
    (hpasses : Passes hash_secret outside state state' operation) :
    Held state' ∧ OwnerStep outside state state' operation := by
  cases hpasses with
  | entered hvalid henters hcommitted => exact h.enters hvalid henters hcommitted
  | answered hanswers =>
    obtain ⟨⟨horderly, hguard, hfile⟩, hstep⟩ := h.answers hanswers
    refine ⟨⟨horderly, hguard, hfile⟩, ?_⟩
    cases hstep with
    | same hoperation hcontroller => exact .same hoperation hcontroller
    | transfer hlease hcontroller => exact .transfer hlease hcontroller
    | revocation howner hcontroller => exact .revocation howner hcontroller

/-! ## Restarts -/

theorem load_ok (h : SharedGatewayState.load trust_store lease = .ok state) :
    PersistentTrustStore.load trust_store = .ok state.registry ∧
      state.command_guard.controller.map (·.device_id) = state.registry.controller_device_id ∧
      state.trust_store = trust_store := by
  unfold SharedGatewayState.load at h
  simp only [except_bind_eq_ok] at h
  obtain ⟨registry, hregistry, command_guard, hguard, h⟩ := h
  have hregistry : PersistentTrustStore.load trust_store = .ok registry := by
    cases hload : PersistentTrustStore.load trust_store with
    | error e =>
      rw [hload] at hregistry
      cases hregistry
    | ok loaded =>
      rw [hload] at hregistry
      cases hregistry
      rfl
  cases hguard
  cases howner : registry.controller_device_id with
  | none =>
    rw [howner] at h
    cases h
    exact ⟨hregistry, by rw [howner]; rfl, rfl⟩
  | some owner =>
    rw [howner] at h
    cases lease with
    | none => cases h
    | some lease =>
      cases h
      exact ⟨hregistry, by rw [howner]; rfl, rfl⟩

theorem Left.load (hleft : Left trust_store)
    (h : SharedGatewayState.load trust_store lease = .ok state) :
    Held state ∧ state.trust_store = trust_store := by
  obtain ⟨hregistry, hguard, hfile⟩ := load_ok h
  rcases hleft with rfl | ⟨registry, horderly, hchosen, rfl⟩
  · have hdefault : state.registry = .default := (Except.ok.inj hregistry).symm
    refine ⟨⟨?_, hguard, ?_⟩, hfile⟩
    · rw [hdefault]
      exact orderly_default
    · rw [hdefault]
      exact hfile
  · obtain ⟨_, hsame⟩ := horderly.loads.mp (load_some.mp hregistry)
    refine ⟨⟨?_, hguard, ?_⟩, hfile⟩
    · rw [hsame]
      exact horderly.invited ∅
    · rw [hfile, hsame]
      exact (if_pos hchosen).symm

end held

/-! ## Every run -/

section runs

variable [DecidableEq Digest] (operation : GatewayOperation) (outside : Surroundings)

theorem perform_running (state : SharedGatewayState Digest) (hoperation : operation ≠ .restart) :
    operation.perform hash_secret identity outside (.running state) = (.running state, false) ∨
      ∃ state', operation.perform hash_secret identity outside (.running state) =
          (.running state', true) ∧ Passes hash_secret outside state state' operation := by
  cases operation with
  | restart => exact absurd rfl hoperation
  | hello hello =>
    simp only [GatewayOperation.perform]
    rcases SharedGatewayState.authenticate_ends state outside hash_secret identity hello with
      ⟨e, hrun⟩ | ⟨candidate, paired, state', hvalid, henters, hcommitted, _, hrun⟩ <;> rw [hrun]
    · exact .inl rfl
    exact .inr ⟨state', rfl, .entered hvalid henters hcommitted⟩
  | request request =>
    simp only [GatewayOperation.perform, SharedGatewayState.apply_request]
    rcases SharedGatewayState.commit_request_ends state outside hash_secret identity request with
      ⟨e, hrun⟩ | ⟨state', invitation, changed, hrun, hanswers⟩
    · rw [bind_of_err hrun]
      exact .inl rfl
    have hrevision : state'.trust_revision = state.trust_revision := by
      cases hanswers with
      | quiet pending _ hstate => rw [hstate]
      | revoked _ _ _ hrevision | transferred _ _ _ hrevision => exact hrevision
    have hanswers' : SharedGatewayState.Answers outside state
        { state' with trust_revision := state.trust_revision } request changed := by
      rwa [← hrevision]
    rw [bind_of_ok hrun]
    cases changed <;> exact .inr ⟨_, rfl, .answered hanswers'⟩

theorem gateway_run_snoc (operations : List (GatewayOperation × Surroundings)) :
    gateway_run hash_secret identity (operations ++ [(operation, outside)]) =
      (operation.perform hash_secret identity outside
        (gateway_run hash_secret identity operations)).1 := by
  unfold gateway_run
  rw [List.foldl_append]
  rfl

theorem perform_restart (process : GatewayProcess Digest) :
    GatewayOperation.perform hash_secret identity outside .restart process =
      match SharedGatewayState.load process.trust_store outside.lease with
      | .ok state => (.running state, true)
      | .error _ => (.stopped process.trust_store, false) := by
  cases process <;> rfl

theorem perform_stopped (trust_store : Option (PairingRegistrySnapshot Digest))
    (hoperation : operation ≠ .restart) :
    operation.perform hash_secret identity outside (.stopped trust_store) =
      (.stopped trust_store, false) := by
  cases operation with
  | restart => exact absurd rfl hoperation
  | hello hello | request request => rfl

theorem Kept.perform {process : GatewayProcess Digest} (h : Kept process) :
    Kept (operation.perform hash_secret identity outside process).1 := by
  by_cases hoperation : operation = .restart
  · subst hoperation
    rw [perform_restart]
    cases hload : SharedGatewayState.load process.trust_store outside.lease with
    | error e => exact h.left
    | ok state => exact (h.left.load hload).1
  · cases process with
    | stopped trust_store =>
      rw [perform_stopped hash_secret identity operation outside trust_store hoperation]
      exact h
    | running state =>
      rcases perform_running hash_secret identity operation outside state hoperation with
        hrun | ⟨state', hrun, hpasses⟩ <;> rw [hrun]
      · exact h
      exact (Held.passes h hpasses).1

theorem kept_run (operations : List (GatewayOperation × Surroundings)) :
    Kept (gateway_run hash_secret identity operations) := by
  induction operations using List.reverseRecOn with
  | nil => exact .inl rfl
  | append_singleton operations operation ih =>
    obtain ⟨operation, outside⟩ := operation
    rw [gateway_run_snoc]
    exact ih.perform hash_secret identity operation outside

end runs

/-- The operation writes the trust store if it gets that far. -/
def GatewayOperation.saves : GatewayOperation → Bool
  | .hello _ => true
  | .request (.RevokeDevice _) => true
  | .request (.TransferControl _) => true
  | _ => false

theorem Passes.saved [DecidableEq Digest] {hash_secret : String → Digest}
    {state state' : SharedGatewayState Digest} {outside : Surroundings}
    (h : Passes hash_secret outside state state' operation) (hoperation : operation.saves = true) :
    outside.saves = true := by
  cases h with
  | entered _ _ hcommitted => exact hcommitted.saves
  | @answered request _ hanswers =>
    cases hanswers with
    | quiet pending hrequest hstate =>
      cases request with
      | RevokeDevice device_id => exact absurd rfl (hrequest device_id).1
      | TransferControl device_id => exact absurd rfl (hrequest device_id).2
      | _ => cases hoperation
    | revoked _ _ hcommitted _ | transferred _ _ hcommitted _ => exact hcommitted.saves

/-- At every point of every run at most one device controls, and registry, guard and file name the
same one. An operation that fails changes nothing, one that ends well changes the controller only
in the three ways of `OwnerStep`, and a restart brings the same one back. -/
theorem one_device_owns_the_gateway [DecidableEq Digest]
    (operations : List (GatewayOperation × Surroundings)) (operation : GatewayOperation)
    (outside : Surroundings) :
    (∀ state, gateway_run hash_secret identity operations = .running state →
      (∀ device ∈ state.registry.paired_devices, ∀ device' ∈ state.registry.paired_devices,
        device.controller = true → device'.controller = true → device = device') ∧
      state.command_guard.controller.map (·.device_id) = state.registry.controller_device_id ∧
      owner_of state.trust_store = state.registry.controller_device_id ∧
      (operation ≠ .restart →
        (operation.perform hash_secret identity outside (.running state) =
          (.running state, false)) ∨
        ((operation.saves = true → outside.saves = true) ∧
          ∃ state', operation.perform hash_secret identity outside (.running state) =
              (.running state', true) ∧ OwnerStep outside state state' operation))) ∧
    owner_of (GatewayOperation.perform hash_secret identity outside .restart
        (gateway_run hash_secret identity operations)).1.trust_store =
      owner_of (gateway_run hash_secret identity operations).trust_store := by
  have hkept := kept_run hash_secret identity operations
  refine ⟨?_, ?_⟩
  · intro state hrun
    rw [hrun] at hkept
    have hheld : Held state := hkept
    refine ⟨?_, hheld.guard, hheld.owner, ?_⟩
    · intro device hdevice device' hdevice' hcontrols hcontrols'
      rw [hheld.orderly.mem_paired_devices] at hdevice hdevice'
      have hid := hheld.orderly.one_controls _ _ _ _ hdevice hdevice' hcontrols hcontrols'
      rw [hid, hdevice'] at hdevice
      exact (Option.some.inj hdevice).symm
    · intro hoperation
      rcases perform_running hash_secret identity operation outside state hoperation with
        hfailed | ⟨state', hwell, hpasses⟩
      · exact .inl hfailed
      · exact .inr ⟨hpasses.saved, state', hwell, (hheld.passes hpasses).2⟩
  · rw [perform_restart]
    cases hload : SharedGatewayState.load
        (gateway_run hash_secret identity operations).trust_store outside.lease with
    | error e => rfl
    | ok state => exact congrArg owner_of (hkept.left.load hload).2

namespace trust

def installation : InstallationIdentity :=
  ⟨"installation", "0123456789abcdef0123456789abcdef0123456789abcdef0123456789abcdef"⟩

/-- The clock shows this time, and everything else goes well. -/
def clock (now : UInt64) (lease : String) : Surroundings where
  now
  lease := some lease
  invitation := some ⟨"invitation", "0123456789abcdef0123456789abcdef", 123456⟩
  saves := true

def credential : String := "fedcba9876543210fedcba9876543210"

/-- A device is invited and pairs. -/
def pairs (device_id lease : String) (now : UInt64) : List (GatewayOperation × Surroundings) :=
  [(.request .CreateInvitation, clock now lease),
    (.request (.ApproveInvitation "invitation" "123456"), clock now lease),
    (.hello (.Pair "invitation" "0123456789abcdef0123456789abcdef" device_id device_id credential
      none), clock now lease)]

def start : GatewayOperation × Surroundings := (.restart, clock 1000000 "start")

end trust

end lumi_remote_gateway
