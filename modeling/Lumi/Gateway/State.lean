-- The state that the sessions and the administration of the gateway share:
-- the registry, the guard and the trust store. Every change of the registry
-- that has to last is made on a copy, and the copy takes the registry's place
-- once it is saved. What comes from outside (the clock, random texts and
-- whether a file can be written) is given to each operation.
import Lumi.Gateway.Guard
import Lumi.Gateway.Registry

open rust lumi_remote_protocol

namespace lumi_remote_gateway

/-! ## Data -/

def DEFAULT_COMMAND_LEDGER_CAPACITY : Nat := 1024

structure InstallationIdentity where
  installation_id : String
  certificate_fingerprint_sha256 : String
deriving DecidableEq

inductive TrustStoreError where
  | Io
  | InvalidRegistry (error : PairingError)
deriving DecidableEq

inductive GatewayNetworkError where
  | Authentication (error : RemoteAuthenticationError)
  | Pairing (error : PairingError)
  | Command (error : CommandGuardError)
  | Identity
  | TrustStore (error : TrustStoreError)
deriving DecidableEq

/-- The random texts of an invitation: two times `random_hex`, and the number behind the code. -/
structure InvitationDraw where
  invitation_id : String
  invitation_secret : String
  short_code_seed : UInt64
deriving DecidableEq

/-- What one operation finds outside: `unix_millis()`, the results of `random_hex`, and whether the
trust store can be written. -/
structure Surroundings where
  now : UInt64
  lease : Option String
  invitation : Option InvitationDraw
  saves : Bool
deriving DecidableEq

structure SharedGatewayState (Digest : Type) where
  registry : PairingRegistry Digest
  command_guard : GatewayCommandGuard
  /-- The file, if there is one. -/
  trust_store : Option (PairingRegistrySnapshot Digest)
  /-- How often the watch channel was written. -/
  trust_revision : Nat

variable {Digest : Type}

/-! ## The trust store -/

namespace PersistentTrustStore

def load (file : Option (PairingRegistrySnapshot Digest)) :
    Except TrustStoreError (PairingRegistry Digest) :=
  match file with
  | none => .ok .default
  | some snapshot => (PairingRegistry.from_snapshot snapshot).mapError .InvalidRegistry

/-- The file is written beside the old one and renamed: it is there as a whole or not at all. -/
def save (outside : Surroundings) (registry : PairingRegistry Digest) :
    Call (SharedGatewayState Digest) GatewayNetworkError Unit :=
  if outside.saves then Call.modify ({ · with trust_store := some registry.snapshot })
  else Call.lift (.err (.TrustStore .Io))

end PersistentTrustStore

namespace SharedGatewayState

/-! ## Start -/

/-- A controller that was saved gets a new lease. -/
def load (trust_store : Option (PairingRegistrySnapshot Digest)) (lease : Option String) :
    Except GatewayNetworkError (SharedGatewayState Digest) := do
  let registry ← (PersistentTrustStore.load trust_store).mapError .TrustStore
  let command_guard ← (GatewayCommandGuard.new DEFAULT_COMMAND_LEDGER_CAPACITY).mapError .Command
  match registry.controller_device_id with
  | none => .ok ⟨registry, command_guard, trust_store, 0⟩
  | some controller_device_id =>
    match lease with
    | none => .error .Identity
    | some lease =>
      .ok ⟨registry, command_guard.transfer_control controller_device_id lease, trust_store, 0⟩

/-! ## Changes of the registry -/

def notify_trust_changed {ε : Type} : Call (SharedGatewayState Digest) ε Unit :=
  Call.modify fun self => { self with trust_revision := self.trust_revision + 1 }

/-- Nothing that the sessions see changes before the save. -/
def commit_registry (outside : Surroundings) (candidate : PairingRegistry Digest)
    (rotate_lease : Bool) : Call (SharedGatewayState Digest) GatewayNetworkError Unit := do
  let self ← Call.get
  let owner := candidate.controller_device_id
  let ownership_changed : Bool := self.command_guard.controller.map (·.device_id) ≠ owner
  let lease ←
    if (ownership_changed || rotate_lease) && owner.isSome then
      Call.lift (.ok_or (outside.lease.map some) .Identity)
    else pure none
  PersistentTrustStore.save outside candidate
  Call.when (ownership_changed || rotate_lease) (Call.modify fun self =>
    { self with
      command_guard :=
        match owner, lease with
        | some owner, some lease => self.command_guard.transfer_control owner lease
        | _, _ => self.command_guard.revoke_control })
  Call.modify ({ · with registry := candidate })

section hashed

variable [DecidableEq Digest] (hash_secret : String → Digest) (identity : InstallationIdentity)

/-- What a hello does to the copy of the registry: the device, and whether it was paired. -/
def candidate_of_hello (hello : RemoteClientHello) (now : UInt64) :
    Call (PairingRegistry Digest) PairingError (String × Bool) :=
  match hello with
  | .Authenticate device_id credential client_version => do
    PairingRegistry.authenticate hash_secret device_id credential now
    Call.modify (·.set_client_version device_id client_version)
    pure (device_id, false)
  | .Pair invitation_id invitation_secret device_id display_name device_credential
      client_version => do
    let _ ← PairingRegistry.exchange hash_secret invitation_id invitation_secret device_id
      display_name device_credential now
    Call.modify (·.set_client_version device_id client_version)
    pure (device_id, true)

/-- The answer to a hello that got in. -/
def server_hello (self : SharedGatewayState Digest) (device_id : String) (paired : Bool) :
    RemoteServerHello :=
  let lease := self.command_guard.controller_lease_for device_id
  let controller_display_name :=
    (self.registry.paired_devices.find? (·.controller)).map (·.display_name)
  if paired then .Paired identity.installation_id lease controller_display_name
  else .Authenticated identity.installation_id lease controller_display_name

def authenticate (outside : Surroundings) (hello : RemoteClientHello) :
    Call (SharedGatewayState Digest) GatewayNetworkError (String × RemoteServerHello) := do
  Call.lift (.lift .Authentication hello.validate)
  let self ← Call.get
  let (candidate, entered) := (candidate_of_hello hash_secret hello outside.now).run self.registry
  let (device_id, paired) ← Call.lift (entered.map_err .Pairing)
  commit_registry outside candidate false
  let self ← Call.get
  pure (device_id, self.server_hello identity device_id paired)

/-! ## Administration -/

end hashed

end SharedGatewayState

inductive GatewayAdminRequest where
  | Status
  | CreateInvitation
  | ApproveInvitation (invitation_id short_code : String)
  | RevokeDevice (device_id : String)
  | TransferControl (device_id : String)
deriving DecidableEq

structure GatewayPairingInvitation where
  installation_id : String
  invitation_id : String
  invitation_secret : String
  short_code : String
  certificate_fingerprint_sha256 : String
  expires_at_unix_millis : UInt64
  approved : Bool
deriving DecidableEq

/-- `format!("{:06}", seed % 1_000_000)`. -/
def short_code_of (seed : UInt64) : String :=
  let digits := toString (seed % 1000000).toNat
  String.ofList (List.replicate (6 - digits.length) '0') ++ digits

namespace SharedGatewayState

section hashed

variable [DecidableEq Digest] (hash_secret : String → Digest) (identity : InstallationIdentity)

/-- The invitation as the registry gets it. -/
def invitation_request (now : UInt64) (draw : InvitationDraw) : PairingInvitationRequest where
  invitation_id := draw.invitation_id
  invitation_secret := draw.invitation_secret
  short_code := short_code_of draw.short_code_seed
  certificate_fingerprint_sha256 := identity.certificate_fingerprint_sha256
  created_at_unix_millis := now
  expires_at_unix_millis := saturating_add now MAX_INVITATION_LIFETIME_MILLIS

variable (outside : Surroundings)

def create_invitation : Call (SharedGatewayState Digest) PairingError GatewayPairingInvitation := do
  let draw ← Call.lift (.ok_or outside.invitation .InvalidInvitation)
  let request := invitation_request identity outside.now draw
  (PairingRegistry.create_invitation hash_secret request).on registry
    fun self registry => { self with registry }
  pure {
    installation_id := identity.installation_id
    invitation_id := request.invitation_id
    invitation_secret := request.invitation_secret
    short_code := request.short_code
    certificate_fingerprint_sha256 := request.certificate_fingerprint_sha256
    expires_at_unix_millis := request.expires_at_unix_millis
    approved := false }

/-- The end of the two requests that change who is trusted. -/
def commit_change (candidate : PairingRegistry Digest) (rotate_lease : Bool) :
    Call (SharedGatewayState Digest) PairingError (Option GatewayPairingInvitation × Bool) := do
  (commit_registry outside candidate rotate_lease).map_err fun _ => .InvalidPersistedDevice
  pure (none, true)

/-- A request up to the notification of the sessions, with its answer and whether the sessions have
to be notified. -/
def commit_request : GatewayAdminRequest →
    Call (SharedGatewayState Digest) PairingError (Option GatewayPairingInvitation × Bool)
  | .Status => pure (none, false)
  | .CreateInvitation => do
    let invitation ← create_invitation hash_secret identity outside
    pure (some invitation, false)
  | .ApproveInvitation invitation_id short_code => do
    (PairingRegistry.approve invitation_id short_code).on registry
      fun self registry => { self with registry }
    pure (none, false)
  | .RevokeDevice device_id => do
    let self ← Call.get
    let previous := self.registry.controller_device_id
    let (candidate, revoked) := (PairingRegistry.revoke device_id).run self.registry
    if revoked = .ok true then
      let candidate :=
        if previous = some device_id then
          candidate.record_controller_change previous "controllerRevoked" outside.now
        else candidate
      commit_change outside candidate false
    else Call.lift (.err .DeviceUnknown)
  | .TransferControl device_id => do
    let self ← Call.get
    let previous := self.registry.controller_device_id
    let (candidate, set) := (PairingRegistry.set_controller device_id).run self.registry
    if set = .ok () then
      let candidate := candidate.record_controller_change previous "macTransfer" outside.now
      commit_change outside candidate true
    else Call.lift (.err .DeviceUnknown)

def apply_request (request : GatewayAdminRequest) :
    Call (SharedGatewayState Digest) PairingError (Option GatewayPairingInvitation) := do
  let (invitation, changed) ← commit_request hash_secret identity outside request
  Call.when changed notify_trust_changed
  pure invitation

end hashed

end SharedGatewayState

/-! ## A gateway and its restarts -/

/-- A gateway that runs, or what is left of one that did not start: the file. -/
inductive GatewayProcess (Digest : Type) where
  | running (state : SharedGatewayState Digest)
  | stopped (trust_store : Option (PairingRegistrySnapshot Digest))

def GatewayProcess.trust_store : GatewayProcess Digest → Option (PairingRegistrySnapshot Digest)
  | running state => state.trust_store
  | stopped trust_store => trust_store

/-- An operation as a whole, since each of them holds the lock of the registry. -/
inductive GatewayOperation where
  | hello (client_hello : RemoteClientHello)
  | request (admin_request : GatewayAdminRequest)
  | restart
deriving DecidableEq

section operations

variable [DecidableEq Digest] (hash_secret : String → Digest) (identity : InstallationIdentity)

/-- The gateway behind an operation, and whether the operation ended well. -/
def GatewayOperation.perform (outside : Surroundings) :
    GatewayOperation → GatewayProcess Digest → GatewayProcess Digest × Bool
  | .hello client_hello, .running state =>
    match (SharedGatewayState.authenticate hash_secret identity outside client_hello).run state with
    | (state, .ok _) => (.running state, true)
    | (state, _) => (.running state, false)
  | .request admin_request, .running state =>
    match (SharedGatewayState.apply_request hash_secret identity outside admin_request).run
      state with
    | (state, .ok _) => (.running state, true)
    | (state, _) => (.running state, false)
  | .restart, process =>
    match SharedGatewayState.load process.trust_store outside.lease with
    | .ok state => (.running state, true)
    | .error _ => (.stopped process.trust_store, false)
  | _, .stopped trust_store => (.stopped trust_store, false)

/-- The operations one after the other, from a start without a file. -/
def gateway_run (operations : List (GatewayOperation × Surroundings)) : GatewayProcess Digest :=
  operations.foldl (fun process (operation, outside) =>
    (operation.perform hash_secret identity outside process).1) (.stopped none)

end operations

end lumi_remote_gateway
