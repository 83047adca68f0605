-- Who can authenticate, from the calls on the registry alone. A credential
-- comes in by an exchange of the newest invitation, approved with its own
-- code, in time and once, and it stays until the next exchange of the device
-- or its revocation.
import Lumi.Gateway.Registry

open rust
open Std.ExtTreeMap (contains_iff_mem mem_iff_isSome_getElem? size_empty size_erase size_erase_le
  size_insert size_map)

namespace lumi_remote_gateway

open PairingRegistry (from_snapshot restore_devices)

variable {Digest : Type} (hash_secret : String → Digest)

/-! ## How the calls end -/

variable {invitation_id invitation_secret device_id display_name device_credential : String}
  {now : UInt64} {invitation : PendingInvitation Digest} {device : PairedDevice Digest}
  {rest : List (PairedDevice Digest)} {devices : BTreeMap String (PairedDevice Digest)} {n : Nat}
  {snapshot : PairingRegistrySnapshot Digest}

namespace PairingRegistry

variable (self : PairingRegistry Digest)

theorem create_invitation_ends (request : PairingInvitationRequest) :
    (∃ e, (create_invitation hash_secret request).run self = (self, .err e)) ∨
      (create_invitation hash_secret request).run self =
        ({ self with
            pending := (∅ : BTreeMap String (PendingInvitation Digest)).insert
              request.invitation_id (pending_invitation hash_secret request) }, .ok ()) := by
  unfold create_invitation
  cases check_invitation request with
  | error e => exact .inl ⟨e, rfl⟩
  | ok _ => exact .inr rfl

theorem approve_ends (invitation_id short_code : String) :
    (∃ e, (approve invitation_id short_code).run self = (self, .err e)) ∨
      ∃ invitation, self.pending[invitation_id]? = some invitation ∧
        invitation.short_code = short_code ∧
        (approve invitation_id short_code).run self =
          ({ self with
              pending := self.pending.insert invitation_id { invitation with approved := true } },
            .ok ()) := by
  unfold approve
  rw [Call.get_bind_run]
  rcases hpending : self.pending[invitation_id]? with _ | invitation
  · exact .inl ⟨_, rfl⟩
  by_cases hcode : invitation.short_code = short_code
  · refine .inr ⟨invitation, rfl, hcode, ?_⟩
    show (if invitation.short_code ≠ short_code then _ else _ : Call _ _ _).run self = _
    rw [if_neg (not_not.mpr hcode)]
    rfl
  · refine .inl ⟨.ShortCodeMismatch, ?_⟩
    show (if invitation.short_code ≠ short_code then _ else _ : Call _ _ _).run self = _
    rw [if_pos hcode]
    rfl

/-- The registry behind an exchange. -/
def exchanged (self : PairingRegistry Digest)
    (invitation_id device_id display_name device_credential : String) (now : UInt64) :
    PairingRegistry Digest :=
  let registry : PairingRegistry Digest :=
    { self with
      pending := self.pending.erase invitation_id
      controller_selection_initialized := true
      devices := self.devices.insert device_id
        (self.exchanged_device hash_secret device_id display_name device_credential now) }
  if self.controller_selection_initialized then registry
  else registry.record_controller_change none "firstPairing" now

theorem exchange_ends [DecidableEq Digest]
    (invitation_id invitation_secret device_id display_name device_credential : String)
    (now : UInt64) :
    (∃ e, (exchange hash_secret invitation_id invitation_secret device_id display_name
      device_credential now).run self = (self, .err e)) ∨
    (self.check_exchange hash_secret invitation_id invitation_secret device_id display_name
        device_credential now = .ok () ∧
      (exchange hash_secret invitation_id invitation_secret device_id display_name
        device_credential now).run self =
        (self.exchanged hash_secret invitation_id device_id display_name device_credential now,
          .ok (self.exchanged_device hash_secret device_id display_name device_credential
            now))) := by
  unfold exchange
  rw [Call.get_bind_run]
  cases hcheck : self.check_exchange hash_secret invitation_id invitation_secret device_id
      display_name device_credential now with
  | error e => exact .inl ⟨e, rfl⟩
  | ok _ =>
    refine .inr ⟨rfl, ?_⟩
    unfold exchanged
    cases hinit : self.controller_selection_initialized <;> rfl

theorem authenticate_ends [DecidableEq Digest] (device_id credential : String) (now : UInt64) :
    ((∃ e, (authenticate hash_secret device_id credential now).run self = (self, .err e)) ∧
      self.devices[device_id]?.map (·.credential_sha256) ≠ some (hash_secret credential)) ∨
    ∃ device, self.devices[device_id]? = some device ∧
      device.credential_sha256 = hash_secret credential ∧
      (authenticate hash_secret device_id credential now).run self =
        ({ self with
            devices := self.devices.insert device_id
              { device with last_seen_unix_millis := now } }, .ok ()) := by
  unfold authenticate
  rw [Call.get_bind_run]
  rcases hdevice : self.devices[device_id]? with _ | device
  · exact .inl ⟨⟨_, rfl⟩, by simp⟩
  by_cases hcredential : device.credential_sha256 = hash_secret credential
  · refine .inr ⟨device, rfl, hcredential, ?_⟩
    show (if device.credential_sha256 ≠ hash_secret credential then _ else _ :
      Call _ _ _).run self = _
    rw [if_neg (not_not.mpr hcredential)]
    rfl
  · refine .inl ⟨⟨.CredentialMismatch, ?_⟩, by simpa using hcredential⟩
    show (if device.credential_sha256 ≠ hash_secret credential then _ else _ :
      Call _ _ _).run self = _
    rw [if_pos hcredential]
    rfl

theorem set_controller_ends (device_id : String) :
    (∃ e, (set_controller device_id).run self = (self, .err e)) ∨
      (self.contains_device device_id = true ∧
        (set_controller device_id).run self =
          ({ self with
              devices := self.devices.map fun _ device =>
                { device with controller := device.device_id == device_id } }, .ok ())) := by
  unfold set_controller
  rw [Call.get_bind_run]
  cases hcontains : self.contains_device device_id with
  | false => exact .inl ⟨_, rfl⟩
  | true => exact .inr ⟨rfl, rfl⟩

theorem revoke_ends (device_id : String) :
    (revoke device_id).run self =
      ({ self with devices := self.devices.erase device_id },
        .ok (self.contains_device device_id)) := rfl

variable {self}

/-- What an exchange asks for. -/
theorem check_exchange_ok [DecidableEq Digest]
    (h : self.check_exchange hash_secret invitation_id invitation_secret device_id display_name
      device_credential now = .ok ()) :
    ∃ invitation, self.pending[invitation_id]? = some invitation ∧
      now ≤ invitation.expires_at_unix_millis ∧ invitation.approved = true ∧
      invitation.secret_sha256 = hash_secret invitation_secret ∧
      (self.contains_device device_id = true ∨ self.devices.size < MAX_PAIRED_DEVICES) ∧
      lumi_remote_protocol.is_identifier device_id 128 = true ∧
      lumi_remote_protocol.is_identifier display_name 128 = true := by
  unfold check_exchange at h
  rcases hpending : self.pending[invitation_id]? with _ | invitation
  · rw [hpending] at h
    cases h
  rw [hpending] at h
  refine ⟨invitation, rfl, ?_⟩
  dsimp only at h
  by_cases hexpired : now > invitation.expires_at_unix_millis
  · simp [hexpired] at h
  by_cases happroved : (!invitation.approved) = true
  · simp [hexpired, happroved] at h
  by_cases hsecret : invitation.secret_sha256 ≠ hash_secret invitation_secret
  · simp [hexpired, happroved, hsecret] at h
  rw [if_neg hexpired, if_neg happroved, if_neg hsecret] at h
  simp only [except_bind_eq_ok, validate_public_identifier_ok] at h
  obtain ⟨_, hid, _, hname, h⟩ := h
  split_ifs at h with hcredential hlimit
  refine ⟨UInt64.not_lt.mp hexpired, by simpa using happroved, not_not.mp hsecret, ?_, hid, hname⟩
  rcases Bool.eq_false_or_eq_true (self.contains_device device_id) with hhas | hnew
  · exact .inl hhas
  · exact .inr (Nat.lt_of_not_le fun hfull => hlimit ⟨by simp [hnew], hfull⟩)

end PairingRegistry

/-! ## Calls and their history -/

inductive RegistryCall where
  | create_invitation (request : PairingInvitationRequest)
  | approve (invitation_id short_code : String)
  | exchange (invitation_id invitation_secret device_id display_name device_credential : String)
      (now_unix_millis : UInt64)
  | authenticate (device_id credential : String) (now_unix_millis : UInt64)
  | set_controller (device_id : String)
  | revoke (device_id : String)

/-- Whether a call ended well. -/
def ended_well {α : Type} : Outcome PairingError α → Bool
  | .ok _ => true
  | _ => false

/-- The registry behind a call, and whether the call ended well. -/
def RegistryCall.perform [DecidableEq Digest] (self : PairingRegistry Digest) :
    RegistryCall → PairingRegistry Digest × Bool
  | .create_invitation request =>
    ((PairingRegistry.create_invitation hash_secret request).run self).map id ended_well
  | .approve invitation_id short_code =>
    ((PairingRegistry.approve invitation_id short_code).run self).map id ended_well
  | .exchange invitation_id invitation_secret device_id display_name device_credential now =>
    ((PairingRegistry.exchange hash_secret invitation_id invitation_secret device_id
      display_name device_credential now).run self).map id ended_well
  | .authenticate device_id credential now =>
    ((PairingRegistry.authenticate hash_secret device_id credential now).run self).map id ended_well
  | .set_controller device_id =>
    ((PairingRegistry.set_controller device_id).run self).map id ended_well
  | .revoke device_id => ((PairingRegistry.revoke device_id).run self).map id ended_well

/-- Calls with how they ended, the oldest first. -/
abbrev RegistryLog : Type := List (RegistryCall × Bool)

/-- The registry and its log, one call after the other. -/
def registry_history [DecidableEq Digest] (start : PairingRegistry Digest)
    (calls : List RegistryCall) : PairingRegistry Digest × RegistryLog :=
  calls.foldl (fun (registry, log) call =>
    ((call.perform hash_secret registry).1, log ++ [(call, (call.perform hash_secret registry).2)]))
    (start, [])

/-! ## What the history says -/

/-- A credential that came in by an exchange, or one whose digest was loaded. -/
inductive Credential (Digest : Type) where
  | exchanged (credential : String)
  | loaded (digest : Digest)
deriving DecidableEq

namespace Credential

def digest : Credential Digest → Digest
  | exchanged credential => hash_secret credential
  | loaded digest => digest

/-- The presented text is the credential. -/
def opens (presented : String) : Credential Digest → Prop
  | exchanged credential => presented = credential
  | loaded digest => hash_secret presented = digest

end Credential

/-- The credential of the device after one more call: the newest exchange gives it, and a
revocation takes it away. -/
def hold (device_id : String) (credential : Option (Credential Digest)) :
    RegistryCall × Bool → Option (Credential Digest)
  | (.exchange _ _ exchanged_id _ device_credential _, true) =>
    if exchanged_id = device_id then some (.exchanged device_credential) else credential
  | (.revoke revoked_id, _) => if revoked_id = device_id then none else credential
  | _ => credential

def held (start : PairingRegistry Digest) (log : RegistryLog) (device_id : String) :
    Option (Credential Digest) :=
  log.foldl (hold device_id) (start.devices[device_id]?.map fun device =>
    .loaded device.credential_sha256)

/-- The entry is an invitation that was created, or an exchange that succeeded. -/
def supersedes : RegistryCall × Bool → Bool
  | (.create_invitation _, true) => true
  | (.exchange .., true) => true
  | _ => false

/-- The newest invitation has this id and this secret, it was approved with its own short code and
not exchanged so far, and it is not past its expiry. -/
def Invited (log : RegistryLog) (invitation_id invitation_secret : String)
    (now_unix_millis : UInt64) : Prop :=
  ∃ earlier request since, log = earlier ++ (.create_invitation request, true) :: since ∧
    (∀ entry ∈ since, supersedes entry = false) ∧ request.invitation_id = invitation_id ∧
    request.invitation_secret = invitation_secret ∧
    (.approve invitation_id request.short_code, true) ∈ since ∧
    now_unix_millis ≤ request.expires_at_unix_millis

/-! ## The registry follows its history -/

/-- The digest that the registry holds for a device. -/
def PairingRegistry.credential_of (self : PairingRegistry Digest) (device_id : String) :
    Option Digest :=
  self.devices[device_id]?.map PairedDevice.credential_sha256

/-- The invitation is the newest one of the log, and waits. -/
def Waits (log : RegistryLog) (invitation_id : String) (invitation : PendingInvitation Digest) :
    Prop :=
  ∃ earlier request since, log = earlier ++ (.create_invitation request, true) :: since ∧
    (∀ entry ∈ since, supersedes entry = false) ∧ request.invitation_id = invitation_id ∧
    invitation.secret_sha256 = hash_secret request.invitation_secret ∧
    invitation.short_code = request.short_code ∧
    invitation.expires_at_unix_millis = request.expires_at_unix_millis ∧
    (invitation.approved = true → (.approve invitation_id request.short_code, true) ∈ since)

structure Follows (start : PairingRegistry Digest) (log : RegistryLog)
    (registry : PairingRegistry Digest) : Prop where
  waiting : ∀ invitation_id invitation, registry.pending[invitation_id]? = some invitation →
    Waits hash_secret log invitation_id invitation
  credentials : ∀ device_id, registry.credential_of device_id =
    (held start log device_id).map (·.digest hash_secret)
  devices : registry.devices.size ≤ MAX_PAIRED_DEVICES
  pending : registry.pending.size ≤ 1

section follows

variable {hash_secret} {start registry registry' : PairingRegistry Digest} {log : RegistryLog}
  {entry : RegistryCall × Bool}

theorem held_snoc (log : RegistryLog) (entry : RegistryCall × Bool) (device_id : String) :
    held start (log ++ [entry]) device_id = hold device_id (held start log device_id) entry := by
  unfold held
  rw [List.foldl_append]
  rfl

theorem Waits.snoc (h : Waits hash_secret log invitation_id invitation)
    (hentry : supersedes entry = false) :
    Waits hash_secret (log ++ [entry]) invitation_id invitation := by
  obtain ⟨earlier, request, since, rfl, hsince, hid, hsecret, hcode, hexpires, happroved⟩ := h
  refine ⟨earlier, request, since ++ [entry], by simp, ?_, hid, hsecret, hcode, hexpires, ?_⟩
  · intro other hother
    rcases List.mem_append.mp hother with hother | hother
    · exact hsince other hother
    rw [List.mem_singleton.mp hother]
    exact hentry
  · intro h
    exact List.mem_append_left _ (happroved h)

theorem credential_of_insert (registry : PairingRegistry Digest) (device_id other : String)
    (device : PairedDevice Digest) :
    PairingRegistry.credential_of
        { registry with devices := registry.devices.insert device_id device } other =
      if device_id = other then some device.credential_sha256
      else registry.credential_of other := by
  unfold PairingRegistry.credential_of
  rw [map_get_insert]
  split_ifs <;> rfl

theorem restore_devices_cons {restored : BTreeMap String (PairedDevice Digest) × Nat} :
    restore_devices (device :: rest) devices n = .ok restored ↔
      PairingRegistry.validate_device device = .ok () ∧
      ¬ (device.paired_at_unix_millis = 0 ∨
        device.last_seen_unix_millis < device.paired_at_unix_millis ∨
        devices[device.device_id]?.isSome = true) ∧
      restore_devices rest (devices.insert device.device_id device)
        (if device.controller then n + 1 else n) = .ok restored := by
  rw [restore_devices, except_bind_eq_ok]
  constructor
  · rintro ⟨_, hvalid, h⟩
    split at h
    · cases h
    · exact ⟨hvalid, by assumption, h⟩
  · rintro ⟨hvalid, hnot, h⟩
    exact ⟨(), hvalid, by rw [if_neg hnot]; exact h⟩

theorem restore_devices_size {devices devices' : BTreeMap String (PairedDevice Digest)} {n n' : Nat}
    (h : restore_devices rest devices n = .ok (devices', n')) :
    devices'.size ≤ devices.size + rest.length := by
  induction rest generalizing devices n with
  | nil =>
    cases h
    exact Nat.le_refl _
  | cons device rest ih =>
    have hrest := ih (restore_devices_cons.mp h).2.2
    have hinsert := Std.ExtTreeMap.size_insert_le (t := devices) (k := device.device_id)
      (v := device)
    rw [List.length_cons]
    omega

/-- A registry that was loaded holds no invitation and not too many devices. -/
theorem from_snapshot_bounds (h : from_snapshot snapshot = .ok start) :
    start.pending = ∅ ∧ start.devices.size ≤ MAX_PAIRED_DEVICES := by
  unfold from_snapshot at h
  split_ifs at h with hmany hchanges
  simp only [except_bind_eq_ok] at h
  obtain ⟨_, _, ⟨devices, n⟩, hdevices, h⟩ := h
  split_ifs at h
  cases h
  refine ⟨rfl, ?_⟩
  have hsize := restore_devices_size hdevices
  simp only [size_empty, Nat.zero_add] at hsize
  exact hsize.trans (Nat.le_of_not_lt hmany)

theorem follows_loaded (h : from_snapshot snapshot = .ok start) :
    Follows hash_secret start [] start := by
  obtain ⟨hpending, hdevices⟩ := from_snapshot_bounds h
  refine ⟨?_, ?_, hdevices, by simp [hpending]⟩
  · intro invitation_id invitation hwaiting
    simp [hpending] at hwaiting
  · intro device_id
    unfold PairingRegistry.credential_of held
    rw [List.foldl_nil, Option.map_map]
    rfl

theorem opens_iff (hinj : Function.Injective hash_secret) {presented : String}
    {credential : Credential Digest} :
    credential.opens hash_secret presented ↔
      credential.digest hash_secret = hash_secret presented := by
  cases credential with
  | exchanged credential =>
    show presented = credential ↔ hash_secret credential = hash_secret presented
    exact ⟨fun h => h ▸ rfl, fun h => (hinj h).symm⟩
  | loaded digest => exact eq_comm

variable (h : Follows hash_secret start log registry)
include h

/-- A call that changes neither invitations nor credentials. -/
theorem Follows.quiet (hpending : registry'.pending = registry.pending)
    (hdevices : ∀ device_id, registry'.credential_of device_id = registry.credential_of device_id)
    (hsize : registry'.devices.size ≤ registry.devices.size) (hentry : supersedes entry = false)
    (hhold : ∀ device_id, hold device_id (held start log device_id) entry =
      held start log device_id) :
    Follows hash_secret start (log ++ [entry]) registry' where
  waiting invitation_id invitation hwaiting :=
    (h.waiting invitation_id invitation (hpending ▸ hwaiting)).snoc hentry
  credentials device_id := by rw [hdevices, h.credentials, held_snoc, hhold]
  devices := hsize.trans h.devices
  pending := hpending ▸ h.pending

/-- A call that fails leaves everything as it was. -/
theorem Follows.failed {call : RegistryCall} (hcall : ∀ device_id, call ≠ .revoke device_id) :
    Follows hash_secret start (log ++ [(call, false)]) registry := by
  refine h.quiet rfl (fun _ => rfl) (Nat.le_refl _) ?_ ?_
  · cases call <;> rfl
  · intro device_id
    cases call with
    | revoke revoked_id => exact (hcall revoked_id rfl).elim
    | _ => rfl

theorem Follows.create_invitation (request : PairingInvitationRequest) :
    Follows hash_secret start (log ++ [(.create_invitation request, true)])
      { registry with
        pending := (∅ : BTreeMap String (PendingInvitation Digest)).insert request.invitation_id
          (PairingRegistry.pending_invitation hash_secret request) } where
  waiting invitation_id invitation hwaiting := by
    dsimp only at hwaiting
    rw [map_get_insert] at hwaiting
    split_ifs at hwaiting with hid
    · cases hwaiting
      refine ⟨log, request, [], rfl, by simp, hid, rfl, rfl, rfl, ?_⟩
      intro happroved
      cases happroved
    · simp at hwaiting
  credentials device_id := by
    rw [held_snoc]
    exact h.credentials device_id
  devices := h.devices
  pending := by
    show (Std.ExtTreeMap.insert _ _ _).size ≤ 1
    rw [size_insert]
    simp

theorem Follows.approve {invitation_id short_code : String}
    (hpending : registry.pending[invitation_id]? = some invitation)
    (hcode : invitation.short_code = short_code) :
    Follows hash_secret start (log ++ [(.approve invitation_id short_code, true)])
      { registry with
        pending := registry.pending.insert invitation_id
          { invitation with approved := true } } where
  waiting other_id other hwaiting := by
    dsimp only at hwaiting
    rw [map_get_insert] at hwaiting
    split_ifs at hwaiting with hid
    · cases hwaiting
      subst hid hcode
      obtain ⟨earlier, request, since, rfl, hsince, hid, hsecret, hcode, hexpires, _⟩ :=
        h.waiting _ _ hpending
      refine ⟨earlier, request, since ++ [(.approve invitation_id invitation.short_code, true)],
        by simp, ?_, hid, hsecret, hcode, hexpires, ?_⟩
      · intro entry hentry
        rcases List.mem_append.mp hentry with hentry | hentry
        · exact hsince entry hentry
        rw [List.mem_singleton.mp hentry]
        rfl
      · intro _
        rw [hcode]
        simp
    · exact (h.waiting _ _ hwaiting).snoc rfl
  credentials device_id := by
    rw [held_snoc]
    exact h.credentials device_id
  devices := h.devices
  pending := by
    show (Std.ExtTreeMap.insert _ _ _).size ≤ 1
    rw [size_insert]
    have hmem : invitation_id ∈ registry.pending := by
      rw [mem_iff_isSome_getElem?, hpending]
      rfl
    simpa [hmem] using h.pending

theorem Follows.authenticate
    {device_id credential : String} (hdevice : registry.devices[device_id]? = some device) :
    Follows hash_secret start (log ++ [(.authenticate device_id credential now, true)])
      { registry with
        devices := registry.devices.insert device_id
          { device with last_seen_unix_millis := now } } := by
  refine h.quiet rfl ?_ ?_ rfl fun _ => rfl
  · intro other
    rw [credential_of_insert]
    split_ifs with hsame
    · subst hsame
      rw [PairingRegistry.credential_of, hdevice]
      rfl
    · rfl
  · show (registry.devices.insert device_id _).size ≤ _
    rw [size_insert, if_pos]
    rw [contains_iff_mem, mem_iff_isSome_getElem?, hdevice]
    rfl

theorem Follows.set_controller (device_id : String) :
    Follows hash_secret start (log ++ [(.set_controller device_id, true)])
      { registry with
        devices := registry.devices.map fun _ device =>
          { device with controller := device.device_id == device_id } } := by
  refine h.quiet rfl ?_ ?_ rfl fun _ => rfl
  · intro other
    show (Std.ExtTreeMap.map _ registry.devices)[other]?.map _ = _
    rw [Std.ExtTreeMap.getElem?_map, Option.map_map]
    rfl
  · show (Std.ExtTreeMap.map _ registry.devices).size ≤ _
    rw [size_map]

theorem Follows.revoke (device_id : String) (b : Bool) :
    Follows hash_secret start (log ++ [(.revoke device_id, b)])
      { registry with devices := registry.devices.erase device_id } where
  waiting other_id other hwaiting := (h.waiting other_id other hwaiting).snoc rfl
  credentials other := by
    rw [held_snoc]
    show (registry.devices.erase device_id)[other]?.map PairedDevice.credential_sha256 = _
    rw [map_get_erase]
    unfold hold
    dsimp only
    split_ifs
    · rfl
    · exact h.credentials other
  devices := size_erase_le.trans h.devices
  pending := h.pending

variable [DecidableEq Digest]
  (hcheck : registry.check_exchange hash_secret invitation_id invitation_secret device_id
    display_name device_credential now = .ok ())
include hcheck

theorem Follows.exchange :
    Follows hash_secret start (log ++ [(.exchange invitation_id invitation_secret device_id
        display_name device_credential now, true)])
      (registry.exchanged hash_secret invitation_id device_id display_name device_credential
        now) := by
  obtain ⟨invitation, hpending, _, _, _, hlimit, _⟩ :=
    PairingRegistry.check_exchange_ok hash_secret hcheck
  have hmem : registry.pending.contains invitation_id = true := by
    rw [contains_iff_mem, mem_iff_isSome_getElem?, hpending]
    rfl
  -- The invitation was the only one that waited.
  have hempty : registry.pending.erase invitation_id = ∅ := by
    rw [Std.ExtTreeMap.eq_empty_iff_size_eq_zero, size_erase, if_pos hmem]
    have hsize := h.pending
    omega
  have hfollows : Follows hash_secret start (log ++ [(.exchange invitation_id invitation_secret
      device_id display_name device_credential now, true)])
      { registry with
        pending := registry.pending.erase invitation_id
        controller_selection_initialized := true
        devices := registry.devices.insert device_id
          (registry.exchanged_device hash_secret device_id display_name device_credential
            now) } := by
    refine ⟨?_, ?_, ?_, ?_⟩
    · intro other_id other hwaiting
      dsimp only at hwaiting
      rw [hempty] at hwaiting
      simp at hwaiting
    · intro other
      rw [held_snoc]
      show (registry.devices.insert device_id _)[other]?.map PairedDevice.credential_sha256 = _
      rw [map_get_insert]
      unfold hold
      dsimp only
      split_ifs
      · rfl
      · exact h.credentials other
    · show (registry.devices.insert device_id _).size ≤ _
      rw [size_insert]
      split_ifs with hknown
      · exact h.devices
      refine hlimit.resolve_left ?_
      rw [PairingRegistry.contains_device, ← mem_iff_isSome_getElem?, ← contains_iff_mem]
      exact hknown
    · show (registry.pending.erase invitation_id).size ≤ 1
      rw [hempty]
      simp
  unfold PairingRegistry.exchanged
  dsimp only
  split_ifs
  · exact hfollows
  · exact ⟨hfollows.waiting, hfollows.credentials, hfollows.devices, hfollows.pending⟩

/-- An exchange that succeeds is one of the newest invitation. -/
theorem Follows.invited (hinj : Function.Injective hash_secret) :
    Invited log invitation_id invitation_secret now := by
  obtain ⟨invitation, hpending, hnow, happroved, hsecret, _⟩ :=
    PairingRegistry.check_exchange_ok hash_secret hcheck
  obtain ⟨earlier, request, since, hlog, hsince, hid, hsecret', _, hexpires, happroval⟩ :=
    h.waiting _ _ hpending
  refine ⟨earlier, request, since, hlog, hsince, hid, ?_, happroval happroved, hexpires ▸ hnow⟩
  exact hinj (hsecret'.symm.trans hsecret)

omit hcheck

/-- Every call keeps the registry in step with its history. -/
theorem Follows.perform (call : RegistryCall) :
    Follows hash_secret start (log ++ [(call, (call.perform hash_secret registry).2)])
      (call.perform hash_secret registry).1 := by
  cases call with
  | create_invitation request =>
    simp only [RegistryCall.perform]
    rcases PairingRegistry.create_invitation_ends hash_secret registry request with
      ⟨e, hrun⟩ | hrun <;> rw [hrun]
    · exact h.failed (by simp)
    exact h.create_invitation request
  | approve invitation_id short_code =>
    simp only [RegistryCall.perform]
    rcases PairingRegistry.approve_ends registry invitation_id short_code with
      ⟨e, hrun⟩ | ⟨invitation, hpending, hcode, hrun⟩ <;> rw [hrun]
    · exact h.failed (by simp)
    exact h.approve hpending hcode
  | exchange invitation_id invitation_secret device_id display_name device_credential now =>
    simp only [RegistryCall.perform]
    rcases PairingRegistry.exchange_ends hash_secret registry invitation_id
      invitation_secret device_id display_name device_credential now with ⟨e, hrun⟩ | ⟨hcheck, hrun⟩
      <;> rw [hrun]
    · exact h.failed (by simp)
    exact h.exchange hcheck
  | authenticate device_id credential now =>
    simp only [RegistryCall.perform]
    rcases PairingRegistry.authenticate_ends hash_secret registry device_id credential now
      with ⟨⟨e, hrun⟩, _⟩ | ⟨device, hdevice, _, hrun⟩ <;> rw [hrun]
    · exact h.failed (by simp)
    exact h.authenticate hdevice
  | set_controller device_id =>
    simp only [RegistryCall.perform]
    rcases PairingRegistry.set_controller_ends registry device_id with
      ⟨e, hrun⟩ | ⟨_, hrun⟩ <;> rw [hrun]
    · exact h.failed (by simp)
    exact h.set_controller device_id
  | revoke device_id => exact h.revoke device_id true

/-- A call that brings a credential in is an exchange that succeeds. -/
theorem Follows.brought_in (call : RegistryCall) {digest : Digest}
    (hafter : (call.perform hash_secret registry).1.credential_of device_id = some digest)
    (hbefore : registry.credential_of device_id ≠ some digest) :
    ∃ invitation_id invitation_secret display_name device_credential now,
      call = .exchange invitation_id invitation_secret device_id display_name device_credential
        now ∧
      (call.perform hash_secret registry).2 = true ∧ hash_secret device_credential = digest := by
  have hnext := (h.perform call).credentials device_id
  rw [held_snoc, hafter] at hnext
  rw [h.credentials] at hbefore
  cases call with
  | exchange invitation_id invitation_secret exchanged_id display_name device_credential now =>
    rcases Bool.eq_false_or_eq_true (RegistryCall.perform hash_secret registry (.exchange
      invitation_id invitation_secret exchanged_id display_name device_credential now)).2 with
      hwell | hfailed
    · rw [hwell] at hnext ⊢
      unfold hold at hnext
      dsimp only at hnext
      split_ifs at hnext with hsame
      · subst hsame
        refine ⟨invitation_id, invitation_secret, display_name, device_credential, now, rfl, rfl,
          ?_⟩
        exact (Option.some.inj hnext).symm
      · exact (hbefore hnext.symm).elim
    · rw [hfailed] at hnext
      exact (hbefore hnext.symm).elim
  | revoke revoked_id =>
    unfold hold at hnext
    dsimp only at hnext
    split_ifs at hnext
    · cases hnext
    · exact (hbefore hnext.symm).elim
  | _ => exact (hbefore hnext.symm).elim

omit h

theorem registry_history_snoc (calls : List RegistryCall) (call : RegistryCall) :
    registry_history hash_secret start (calls ++ [call]) =
      ((call.perform hash_secret (registry_history hash_secret start calls).1).1,
        (registry_history hash_secret start calls).2 ++
          [(call, (call.perform hash_secret (registry_history hash_secret start calls).1).2)]) := by
  unfold registry_history
  rw [List.foldl_append]
  rfl

theorem follows_history (h : from_snapshot snapshot = .ok start) (calls : List RegistryCall) :
    Follows hash_secret start (registry_history hash_secret start calls).2
      (registry_history hash_secret start calls).1 := by
  induction calls using List.reverseRecOn with
  | nil => exact follows_loaded h
  | append_singleton calls call ih =>
    rw [registry_history_snoc]
    exact ih.perform call

theorem authenticates_iff (device_id presented : String) (now : UInt64) :
    (RegistryCall.perform hash_secret registry (.authenticate device_id presented now)).2 = true ↔
      registry.credential_of device_id = some (hash_secret presented) := by
  simp only [RegistryCall.perform]
  rcases PairingRegistry.authenticate_ends hash_secret registry device_id presented now
    with ⟨⟨e, hrun⟩, hmismatch⟩ | ⟨device, hdevice, hmatch, hrun⟩ <;> rw [hrun]
  · exact iff_of_false (by simp [ended_well]) hmismatch
  refine iff_of_true rfl ?_
  rw [PairingRegistry.credential_of, hdevice, ← hmatch]
  rfl

end follows

/-! ## The law -/

/-- A device gets in by an exchange of the newest invitation, approved with its own code, in time
and not yet exchanged, and by nothing else. An exchange that fails changes nothing. A device
authenticates with the credential of its last exchange, or with the one that was loaded, unless it
was revoked since. There are never too many devices, nor two invitations. -/
theorem a_device_gets_in_by_its_invitation_alone {Digest : Type} [DecidableEq Digest]
    (hash_secret : String → Digest) (hinj : Function.Injective hash_secret)
    (snapshot : PairingRegistrySnapshot Digest) (start : PairingRegistry Digest)
    (hstart : PairingRegistry.from_snapshot snapshot = .ok start) (calls : List RegistryCall)
    (registry : PairingRegistry Digest) (log : RegistryLog)
    (hhistory : registry_history hash_secret start calls = (registry, log)) :
    (∀ call device_id digest,
      (RegistryCall.perform hash_secret registry call).1.credential_of device_id = some digest →
      registry.credential_of device_id ≠ some digest →
      ∃ invitation_id invitation_secret display_name device_credential now,
        call = .exchange invitation_id invitation_secret device_id display_name device_credential
          now ∧
        (RegistryCall.perform hash_secret registry call).2 = true ∧
        Invited log invitation_id invitation_secret now ∧
        hash_secret device_credential = digest) ∧
    (∀ invitation_id invitation_secret device_id display_name device_credential now,
      (RegistryCall.perform hash_secret registry (.exchange invitation_id invitation_secret
        device_id display_name device_credential now)).2 = false →
      (RegistryCall.perform hash_secret registry (.exchange invitation_id invitation_secret
        device_id display_name device_credential now)).1 = registry) ∧
    (∀ device_id presented now,
      (RegistryCall.perform hash_secret registry (.authenticate device_id presented now)).2 = true ↔
        ∃ credential, held start log device_id = some credential ∧
          credential.opens hash_secret presented) ∧
    registry.devices.size ≤ MAX_PAIRED_DEVICES ∧ registry.pending.size ≤ 1 := by
  have h : Follows hash_secret start _ _ := follows_history hstart calls
  rw [hhistory] at h
  refine ⟨?_, ?_, ?_, h.devices, h.pending⟩
  · intro call device_id digest hafter hbefore
    obtain ⟨invitation_id, invitation_secret, display_name, device_credential, now, rfl, hwell,
      hdigest⟩ := h.brought_in call hafter hbefore
    refine ⟨invitation_id, invitation_secret, display_name, device_credential, now, rfl, hwell, ?_,
      hdigest⟩
    rcases PairingRegistry.exchange_ends hash_secret registry invitation_id
      invitation_secret device_id display_name device_credential now with ⟨e, hrun⟩ | ⟨hcheck, _⟩
    · simp [RegistryCall.perform, hrun, ended_well] at hwell
    · exact h.invited hcheck hinj
  · intro invitation_id invitation_secret device_id display_name device_credential now hfailed
    simp only [RegistryCall.perform] at hfailed ⊢
    rcases PairingRegistry.exchange_ends hash_secret registry invitation_id
      invitation_secret device_id display_name device_credential now with ⟨e, hrun⟩ | ⟨_, hrun⟩
    · rw [hrun]
      rfl
    rw [hrun] at hfailed
    cases hfailed
  · intro device_id presented now
    rw [authenticates_iff, h.credentials, Option.map_eq_some_iff]
    simp only [opens_iff hinj]

namespace pairing

/-- An invitation for five minutes, with a secret and a code. -/
def request : PairingInvitationRequest where
  invitation_id := "invitation"
  invitation_secret := "0123456789abcdef0123456789abcdef"
  short_code := "123456"
  certificate_fingerprint_sha256 :=
    "0123456789abcdef0123456789abcdef0123456789abcdef0123456789abcdef"
  created_at_unix_millis := 1000
  expires_at_unix_millis := 301000

def credential : String := "fedcba9876543210fedcba9876543210"

def exchange (now : UInt64) : RegistryCall :=
  .exchange "invitation" request.invitation_secret "phone" "Phone" credential now

/-- A device pairs, and a second exchange of the invitation comes too late. -/
def calls : List RegistryCall :=
  [.create_invitation request, .approve "invitation" "123456", exchange 2000, exchange 3000]

end pairing

theorem a_phone_gets_in_by_its_invitation :
    (registry_history id .default pairing.calls).2.map Prod.snd = [true, true, true, false] ∧
    (RegistryCall.perform id (registry_history id .default pairing.calls).1
      (.authenticate "phone" pairing.credential 4000)).2 = true :=
  ⟨by decide +kernel,
    ((a_device_gets_in_by_its_invitation_alone id Function.injective_id ⟨[], false, []⟩ .default rfl
      pairing.calls _ _ rfl).2.2.1 "phone" pairing.credential 4000).mpr
      ⟨.exchanged pairing.credential, by decide +kernel, rfl⟩⟩

end lumi_remote_gateway
