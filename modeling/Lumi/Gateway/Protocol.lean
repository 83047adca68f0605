-- What a remote client and the gateway say to each other: hellos, commands
-- and their results, each with the checks that it has to pass. Texts are
-- measured in bytes of UTF-8.
import Lumi.Rust

namespace lumi_remote_protocol

/-! ## Identifiers -/

/-- `char::is_control`. -/
def is_control (c : Char) : Bool := c.toNat < 0x20 || (0x7f ≤ c.toNat && c.toNat ≤ 0x9f)

/-- The text is not empty, not too long and without control characters. -/
def is_identifier (value : String) (maximum : Nat) : Bool :=
  !(value.isEmpty || value.utf8ByteSize > maximum || value.toList.any is_control)

/-! ## Hellos -/

inductive RemoteAuthenticationError where
  | InvalidIdentifier
  | InvalidSecret
deriving DecidableEq

/-- `auth::validate_identifier`. -/
def validate_hello_identifier (value : String) (maximum : Nat) :
    Except RemoteAuthenticationError Unit :=
  if is_identifier value maximum then .ok () else .error .InvalidIdentifier

def validate_secret (value : String) : Except RemoteAuthenticationError Unit :=
  if !(32 ≤ value.utf8ByteSize && value.utf8ByteSize ≤ 512) || value.toList.any is_control then
    .error .InvalidSecret
  else .ok ()

def validate_version (value : Option String) : Except RemoteAuthenticationError Unit :=
  match value with
  | some value => validate_hello_identifier value 64
  | none => .ok ()

inductive RemoteClientHello where
  | Authenticate (device_id credential : String) (client_version : Option String)
  | Pair (invitation_id invitation_secret device_id display_name device_credential : String)
      (client_version : Option String)
deriving DecidableEq

def RemoteClientHello.validate : RemoteClientHello → Except RemoteAuthenticationError Unit
  | .Authenticate device_id credential client_version => do
    validate_hello_identifier device_id 128
    validate_secret credential
    validate_version client_version
  | .Pair invitation_id invitation_secret device_id display_name device_credential
      client_version => do
    validate_hello_identifier invitation_id 128
    validate_secret invitation_secret
    validate_hello_identifier device_id 128
    validate_hello_identifier display_name 128
    validate_secret device_credential
    validate_version client_version

inductive RemoteServerHello where
  | Authenticated (installation_id : String) (controller_lease_id : Option String)
      (controller_display_name : Option String)
  | Paired (installation_id : String) (controller_lease_id : Option String)
      (controller_display_name : Option String)
deriving DecidableEq

/-- The lease that the hello grants. -/
def RemoteServerHello.controller_lease_id : RemoteServerHello → Option String
  | .Authenticated _ controller_lease_id _ => controller_lease_id
  | .Paired _ controller_lease_id _ => controller_lease_id

/-! ## Commands -/

inductive OperationTarget where
  | Off
  | Armed
  | Live
  | Paused
deriving DecidableEq

inductive RemoteLaunchPolicy where
  | Immediate
  | OnPhraseStart
deriving DecidableEq

inductive RemoteCommandKind where
  | SetOperationState (operation_state : OperationTarget) (expected_state_revision : UInt64)
  | SetAbletonLinkEnabled (enabled : Bool) (expected_state_revision : UInt64)
  | SetOutputTimingOffset (millis : Int16) (expected_state_revision : UInt64)
      (expected_timing_offset_millis : Option Int16)
  | SetLaunchPolicy (policy expected_policy : RemoteLaunchPolicy)
  | SelectThemeFromPhrase (plan_id : String) (track_load_id expected_plan_revision : UInt64)
      (phrase_index : UInt16) (theme_id : UInt64)
  | SelectAutoloopForPhrase (plan_id : String) (track_load_id expected_plan_revision : UInt64)
      (phrase_index : UInt16) (autoloop_number : UInt8)
  | ChangePhraseRole (plan_id : String) (track_load_id expected_plan_revision : UInt64)
      (phrase_index : UInt16) (role_id : String)
  | SetCueLock (plan_id : String) (track_load_id expected_plan_revision : UInt64)
      (phrase_index : UInt16) (locked : Bool)
  | RequestSnapshot
deriving DecidableEq

structure RemoteCommand where
  command_id : String
  controller_lease_id : String
  issued_at_unix_millis : UInt64
  command : RemoteCommandKind
deriving DecidableEq

inductive RemoteCommandError where
  | InvalidIdentifier (field : String)
  | TimingOffsetOutOfRange
  | AutoloopOutOfRange
deriving DecidableEq

/-- `command::validate_identifier`. -/
def validate_identifier (field value : String) (maximum : Nat) : Except RemoteCommandError Unit :=
  if is_identifier value maximum then .ok () else .error (.InvalidIdentifier field)

/-- `(-250..=250).contains(&millis)`. -/
def is_timing_offset (millis : Int16) : Bool := -250 ≤ millis.toInt && millis.toInt ≤ 250

namespace RemoteCommand

def validate (self : RemoteCommand) : Except RemoteCommandError Unit := do
  validate_identifier "commandId" self.command_id 128
  validate_identifier "controllerLeaseId" self.controller_lease_id 128
  match self.command with
  | .SetOutputTimingOffset millis _ expected_timing_offset_millis =>
    if !is_timing_offset millis || expected_timing_offset_millis.any (!is_timing_offset ·) then
      .error .TimingOffsetOutOfRange
    else .ok ()
  | .SelectAutoloopForPhrase plan_id _ _ _ autoloop_number => do
    validate_identifier "planId" plan_id 128
    if !(1 ≤ autoloop_number && autoloop_number ≤ 32) then .error .AutoloopOutOfRange
    else .ok ()
  | .SelectThemeFromPhrase plan_id _ _ _ _ => validate_identifier "planId" plan_id 128
  | .SetCueLock plan_id _ _ _ _ => validate_identifier "planId" plan_id 128
  | .ChangePhraseRole plan_id _ _ _ role_id => do
    validate_identifier "planId" plan_id 128
    validate_identifier "roleId" role_id 128
  | _ => .ok ()

def is_mutating (self : RemoteCommand) : Bool := self.command ≠ .RequestSnapshot

end RemoteCommand

inductive RemoteCommandResultStatus where
  | Accepted
  | Duplicate
  | Conflict
  | Rejected
deriving DecidableEq

structure RemoteCommandResult where
  command_id : String
  status : RemoteCommandResultStatus
  state_revision : Option UInt64
  plan_revision : Option UInt64
  reason_code : Option String
deriving DecidableEq

end lumi_remote_protocol
