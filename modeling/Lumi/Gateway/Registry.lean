-- The registry of the paired devices: invitations that wait for an approval
-- and an exchange, the devices with the digests of their credentials, and who
-- of them controls. The digest is a parameter, since nothing rests on how it
-- is computed.
import Lumi.Call
import Lumi.Gateway.Protocol

open rust lumi_remote_protocol

namespace lumi_remote_gateway

/-! ## Data -/

def MAX_PAIRED_DEVICES : Nat := 8

/-- Five minutes. -/
def MAX_INVITATION_LIFETIME_MILLIS : UInt64 := 5 * 60 * 1000

inductive PairingError where
  | InvalidInvitation
  | InvitationUnknown
  | InvitationExpired
  | ApprovalRequired
  | ShortCodeMismatch
  | InvitationSecretMismatch
  | InvalidIdentifier
  | InvalidCredential
  | InvalidPersistedDevice
  | DeviceLimitReached
  | DeviceUnknown
  | CredentialMismatch
deriving DecidableEq

structure PairingInvitationRequest where
  invitation_id : String
  invitation_secret : String
  short_code : String
  certificate_fingerprint_sha256 : String
  created_at_unix_millis : UInt64
  expires_at_unix_millis : UInt64
deriving DecidableEq

structure PendingInvitation (Digest : Type) where
  invitation_id : String
  secret_sha256 : Digest
  short_code : String
  certificate_fingerprint_sha256 : String
  expires_at_unix_millis : UInt64
  approved : Bool
deriving DecidableEq

structure PairedDevice (Digest : Type) where
  device_id : String
  display_name : String
  credential_sha256 : Digest
  paired_at_unix_millis : UInt64
  last_seen_unix_millis : UInt64
  controller : Bool
  client_version : Option String
deriving DecidableEq

structure ControllerChange where
  at_unix_millis : UInt64
  reason : String
  previous_device_id : Option String
  device_id : Option String
deriving DecidableEq

structure PairingRegistrySnapshot (Digest : Type) where
  devices : List (PairedDevice Digest)
  controller_selection_initialized : Bool
  controller_changes : List ControllerChange
deriving DecidableEq

structure PairingRegistry (Digest : Type) where
  pending : BTreeMap String (PendingInvitation Digest)
  devices : BTreeMap String (PairedDevice Digest)
  controller_selection_initialized : Bool
  controller_changes : List ControllerChange

/-! ## Checks -/

def validate_public_identifier (value : String) (maximum : Nat) : Except PairingError Unit :=
  if is_identifier value maximum then .ok () else .error .InvalidIdentifier

theorem validate_public_identifier_ok {value : String} {maximum : Nat} {u : Unit} :
    validate_public_identifier value maximum = .ok u ↔ is_identifier value maximum = true := by
  unfold validate_public_identifier
  split_ifs with h <;> simp [h]

def is_ascii_digit (c : Char) : Bool := 0x30 ≤ c.toNat && c.toNat ≤ 0x39

def is_ascii_hexdigit (c : Char) : Bool :=
  is_ascii_digit c || (0x41 ≤ c.toNat && c.toNat ≤ 0x46) || (0x61 ≤ c.toNat && c.toNat ≤ 0x66)

def valid_sha256_fingerprint (value : String) : Bool :=
  value.utf8ByteSize = 64 && value.toList.all is_ascii_hexdigit

variable {Digest : Type}

namespace PairingRegistry

/-- The registry of a store that is not there. -/
def default : PairingRegistry Digest := ⟨∅, ∅, false, []⟩

/-! ## Snapshots -/

def validate_change (change : ControllerChange) : Except PairingError Unit := do
  validate_public_identifier change.reason 64
  [change.device_id, change.previous_device_id].reduceOption.forM
    (validate_public_identifier · 128)

/-- A device as it was saved. -/
def validate_device (device : PairedDevice Digest) : Except PairingError Unit := do
  validate_public_identifier device.device_id 128
  validate_public_identifier device.display_name 128
  match device.client_version with
  | some version => validate_public_identifier version 64
  | none => .ok ()

/-- The saved devices one after the other, with the number of controllers among them. -/
def restore_devices : List (PairedDevice Digest) → BTreeMap String (PairedDevice Digest) → Nat →
    Except PairingError (BTreeMap String (PairedDevice Digest) × Nat)
  | [], devices, controller_count => .ok (devices, controller_count)
  | device :: rest, devices, controller_count => do
    validate_device device
    if device.paired_at_unix_millis = 0 ∨
        device.last_seen_unix_millis < device.paired_at_unix_millis ∨
        devices[device.device_id]?.isSome then .error .InvalidPersistedDevice
    else
      restore_devices rest (devices.insert device.device_id device)
        (if device.controller then controller_count + 1 else controller_count)

def from_snapshot (snapshot : PairingRegistrySnapshot Digest) :
    Except PairingError (PairingRegistry Digest) := do
  if snapshot.devices.length > MAX_PAIRED_DEVICES then .error .DeviceLimitReached
  else if snapshot.controller_changes.length > 32 then .error .InvalidPersistedDevice
  else
    snapshot.controller_changes.forM validate_change
    let (devices, controller_count) ← restore_devices snapshot.devices ∅ 0
    if controller_count > 1 then .error .InvalidPersistedDevice
    else
      .ok {
        pending := ∅
        devices
        controller_selection_initialized :=
          snapshot.controller_selection_initialized || !snapshot.devices.isEmpty
        controller_changes := snapshot.controller_changes }

variable (self : PairingRegistry Digest)

/-- The devices in the order of their ids. -/
def paired_devices : List (PairedDevice Digest) :=
  self.devices.toList.map Prod.snd

def snapshot : PairingRegistrySnapshot Digest where
  devices := self.paired_devices
  controller_selection_initialized := self.controller_selection_initialized
  controller_changes := self.controller_changes

/-! ## Who controls -/

def controller_device_id : Option String :=
  (self.paired_devices.find? (·.controller)).map (·.device_id)

variable (device_id : String)

def contains_device : Bool :=
  self.devices[device_id]?.isSome

/-- The history of the changes is bounded: the oldest one is dropped. -/
def record_controller_change (previous : Option String) (reason : String)
    (at_unix_millis : UInt64) : PairingRegistry Digest :=
  let controller_changes :=
    if self.controller_changes.length = 32 then self.controller_changes.eraseIdx 0
    else self.controller_changes
  { self with
    controller_changes := controller_changes ++
      [⟨at_unix_millis, reason, previous, self.controller_device_id⟩] }

def set_controller : Call (PairingRegistry Digest) PairingError Unit := do
  let self ← Call.get
  if !self.contains_device device_id then Call.lift (.err .DeviceUnknown)
  else Call.modify fun self => { self with
    devices := self.devices.map fun _ device =>
      { device with controller := device.device_id == device_id } }

/-- An older client does not send its version, and then the last known one stays. -/
def set_client_version (version : Option String) : PairingRegistry Digest :=
  match self.devices[device_id]?, version with
  | some device, some version =>
    { self with
      devices := self.devices.insert device_id { device with client_version := some version } }
  | _, _ => self

/-! ## Invitations -/

section hashed

variable [DecidableEq Digest] (hash_secret : String → Digest) (request : PairingInvitationRequest)

/-- The checks of a new invitation. -/
def check_invitation : Except PairingError Unit := do
  validate_public_identifier request.invitation_id 128
  if request.invitation_secret.utf8ByteSize < 32 ∨ request.invitation_secret.utf8ByteSize > 256 ∨
      request.short_code.utf8ByteSize ≠ 6 ∨ !request.short_code.toList.all is_ascii_digit ∨
      !valid_sha256_fingerprint request.certificate_fingerprint_sha256 then
    .error .InvalidInvitation
  else if request.expires_at_unix_millis < request.created_at_unix_millis then
    .error .InvalidInvitation
  else
    let lifetime := request.expires_at_unix_millis - request.created_at_unix_millis
    if lifetime = 0 ∨ lifetime > MAX_INVITATION_LIFETIME_MILLIS then .error .InvalidInvitation
    else .ok ()

def pending_invitation : PendingInvitation Digest where
  invitation_id := request.invitation_id
  secret_sha256 := hash_secret request.invitation_secret
  short_code := request.short_code
  certificate_fingerprint_sha256 := request.certificate_fingerprint_sha256
  expires_at_unix_millis := request.expires_at_unix_millis
  approved := false

/-- A new invitation takes the place of the one that waits. -/
def create_invitation : Call (PairingRegistry Digest) PairingError Unit := do
  Call.lift (.lift id (check_invitation request))
  Call.modify fun self => { self with pending := ∅ }
  Call.modify fun self => { self with
    pending := self.pending.insert request.invitation_id (pending_invitation hash_secret request) }

def approve (invitation_id short_code : String) :
    Call (PairingRegistry Digest) PairingError Unit := do
  let self ← Call.get
  let invitation ← Call.lift (.ok_or self.pending[invitation_id]? .InvitationUnknown)
  if invitation.short_code ≠ short_code then Call.lift (.err .ShortCodeMismatch)
  else Call.modify fun self => { self with
    pending := self.pending.insert invitation_id { invitation with approved := true } }

/-- The checks of an exchange, all of them in front of its first change. -/
def check_exchange (self : PairingRegistry Digest)
    (invitation_id invitation_secret device_id display_name device_credential : String)
    (now_unix_millis : UInt64) : Except PairingError Unit := do
  match self.pending[invitation_id]? with
  | none => .error .InvitationUnknown
  | some invitation =>
    if now_unix_millis > invitation.expires_at_unix_millis then .error .InvitationExpired
    else if !invitation.approved then .error .ApprovalRequired
    else if invitation.secret_sha256 ≠ hash_secret invitation_secret then
      .error .InvitationSecretMismatch
    else do
      validate_public_identifier device_id 128
      validate_public_identifier display_name 128
      if device_credential.utf8ByteSize < 32 ∨ device_credential.utf8ByteSize > 256 then
        .error .InvalidCredential
      else if !self.contains_device device_id ∧ self.devices.size ≥ MAX_PAIRED_DEVICES then
        .error .DeviceLimitReached
      else .ok ()

/-- The device of an exchange. It keeps control and version of the device whose place it takes;
the first device of all controls. -/
def exchanged_device (self : PairingRegistry Digest)
    (device_id display_name device_credential : String) (now_unix_millis : UInt64) :
    PairedDevice Digest where
  device_id
  display_name
  credential_sha256 := hash_secret device_credential
  paired_at_unix_millis := now_unix_millis
  last_seen_unix_millis := now_unix_millis
  controller := !self.controller_selection_initialized ||
    self.devices[device_id]?.any (·.controller)
  client_version := self.devices[device_id]?.bind (·.client_version)

def exchange (invitation_id invitation_secret device_id display_name device_credential : String)
    (now_unix_millis : UInt64) :
    Call (PairingRegistry Digest) PairingError (PairedDevice Digest) := do
  let self ← Call.get
  Call.lift (.lift id (self.check_exchange hash_secret invitation_id invitation_secret device_id
    display_name device_credential now_unix_millis))
  Call.modify fun self => { self with pending := self.pending.erase invitation_id }
  let initial_pairing := !self.controller_selection_initialized
  let device := self.exchanged_device hash_secret device_id display_name device_credential
    now_unix_millis
  Call.modify fun self => { self with
    controller_selection_initialized := true
    devices := self.devices.insert device_id device }
  Call.when initial_pairing
    (Call.modify (·.record_controller_change none "firstPairing" now_unix_millis))
  pure device

def authenticate (device_id credential : String) (now_unix_millis : UInt64) :
    Call (PairingRegistry Digest) PairingError Unit := do
  let self ← Call.get
  let device ← Call.lift (.ok_or self.devices[device_id]? .DeviceUnknown)
  if device.credential_sha256 ≠ hash_secret credential then Call.lift (.err .CredentialMismatch)
  else Call.modify fun self => { self with
    devices := self.devices.insert device_id
      { device with last_seen_unix_millis := now_unix_millis } }

end hashed

/-- Whether the device was there. -/
def revoke : Call (PairingRegistry Digest) PairingError Bool := do
  let self ← Call.get
  Call.modify fun self => { self with devices := self.devices.erase device_id }
  pure (self.contains_device device_id)

end PairingRegistry

end lumi_remote_gateway
