-- The guard over the commands of the remotes: who may command, and a bounded
-- ledger of the commands that were admitted, so that none of them runs twice.
-- Commands go on to the engine under an id of their own, which is a digest of
-- device, lease and client id; the digest is a parameter.
import Lumi.Call
import Lumi.Gateway.Protocol

open rust lumi_remote_protocol

namespace lumi_remote_gateway

/-! ## Who may command -/

structure ControllerLease where
  device_id : String
  lease_id : String
deriving DecidableEq

inductive CommandAuthorizationError where
  | InvalidCommand (error : RemoteCommandError)
  | NoControllerLease
  | ControllerLeaseMismatch
deriving DecidableEq

structure GatewayCommandPolicy where
  controller : Option ControllerLease
deriving DecidableEq

namespace GatewayCommandPolicy

def transfer_control (_ : GatewayCommandPolicy) (device_id lease_id : String) :
    GatewayCommandPolicy :=
  ⟨some ⟨device_id, lease_id⟩⟩

def revoke_control (_ : GatewayCommandPolicy) : GatewayCommandPolicy := ⟨none⟩

def authorize (self : GatewayCommandPolicy) (device_id : String) (command : RemoteCommand) :
    Except CommandAuthorizationError Unit :=
  match command.validate with
  | .error error => .error (.InvalidCommand error)
  | .ok () =>
    if !command.is_mutating then .ok ()
    else
      match self.controller with
      | none => .error .NoControllerLease
      | some controller =>
        if controller.device_id ≠ device_id ∨ controller.lease_id ≠ command.controller_lease_id then
          .error .ControllerLeaseMismatch
        else .ok ()

end GatewayCommandPolicy

/-! ## The ledger -/

inductive CommandAdmission where
  | Accepted
  | Pending
  | Completed (result : RemoteCommandResult)
deriving DecidableEq

/-- The authenticated device, its lease and the id that the client gave. -/
structure CommandKey where
  device_id : String
  lease_id : String
  command_id : String
deriving DecidableEq

instance : Ord CommandKey where
  compare := compareLex (compareOn CommandKey.device_id)
    (compareLex (compareOn CommandKey.lease_id) (compareOn CommandKey.command_id))

instance : Std.TransOrd CommandKey :=
  inferInstanceAs (Std.TransCmp (compareLex (compareOn CommandKey.device_id)
    (compareLex (compareOn CommandKey.lease_id) (compareOn CommandKey.command_id))))

instance : Std.LawfulEqOrd CommandKey where
  eq_of_compare {a b} h := by
    obtain ⟨hdevice, h⟩ := compareLex_eq_eq.mp h
    obtain ⟨hlease, hcommand⟩ := compareLex_eq_eq.mp h
    have hdevice : a.device_id = b.device_id := Std.LawfulEqOrd.eq_of_compare hdevice
    have hlease : a.lease_id = b.lease_id := Std.LawfulEqOrd.eq_of_compare hlease
    have hcommand : a.command_id = b.command_id := Std.LawfulEqOrd.eq_of_compare hcommand
    cases a
    cases b
    simp_all

structure CommandOutcome where
  command : RemoteCommand
  result : Option RemoteCommandResult
deriving DecidableEq

structure GatewayCommandGuard where
  policy : GatewayCommandPolicy
  accepted : BTreeMap CommandKey CommandOutcome
  forwarded : BTreeMap String CommandKey
  insertion_order : List CommandKey
  capacity : Nat

inductive CommandGuardError where
  | InvalidCapacity
  | CommandIdReused
  | LedgerFull
  | UnknownCommand
  | Unauthorized (error : CommandAuthorizationError)
deriving DecidableEq

namespace GatewayCommandGuard

def new (capacity : Nat) : Except CommandGuardError GatewayCommandGuard :=
  if ¬ (64 ≤ capacity ∧ capacity ≤ 8192) then .error .InvalidCapacity
  else .ok ⟨⟨none⟩, ∅, ∅, [], capacity⟩

def transfer_control (self : GatewayCommandGuard) (device_id lease_id : String) :
    GatewayCommandGuard :=
  { self with policy := self.policy.transfer_control device_id lease_id }

def revoke_control (self : GatewayCommandGuard) : GatewayCommandGuard :=
  { self with policy := self.policy.revoke_control }

def controller (self : GatewayCommandGuard) : Option ControllerLease := self.policy.controller

def controller_lease_for (self : GatewayCommandGuard) (device_id : String) : Option String :=
  (self.controller.filter (·.device_id = device_id)).map (·.lease_id)

section forwarded

variable (forwarded_command_id : CommandKey → String) (self : GatewayCommandGuard)

/-- The first place of the ledger whose command has its outcome. -/
def first_completed : Option Nat :=
  self.insertion_order.findIdx? fun key => self.accepted[key]?.any (·.result.isSome)

/-- A full ledger makes room: a command whose outcome is known leaves it. -/
def make_room : Except CommandGuardError GatewayCommandGuard :=
  if self.insertion_order.length = self.capacity then
    match self.first_completed with
    | none => .error .LedgerFull
    | some index =>
      match self.insertion_order[index]? with
      | none => .ok self
      | some oldest => .ok { self with
          insertion_order := self.insertion_order.eraseIdx index
          forwarded := self.forwarded.erase (forwarded_command_id oldest)
          accepted := self.accepted.erase oldest }
  else .ok self

def enter (key : CommandKey) (command : RemoteCommand) : GatewayCommandGuard :=
  { self with
    forwarded := self.forwarded.insert (forwarded_command_id key) key
    accepted := self.accepted.insert key ⟨command, none⟩
    insertion_order := self.insertion_order ++ [key] }

def command_key (device_id : String) (command : RemoteCommand) : CommandKey :=
  ⟨device_id, command.controller_lease_id, command.command_id⟩

/-- What the ledger says to a command that it knows. -/
def replay (outcome : CommandOutcome) (command : RemoteCommand) :
    Except CommandGuardError CommandAdmission :=
  if outcome.command ≠ command then .error .CommandIdReused
  else
    match outcome.result with
    | some result => .ok (.Completed result)
    | none => .ok .Pending

def admit_command (device_id : String) (command : RemoteCommand) :
    Call GatewayCommandGuard CommandGuardError CommandAdmission := do
  let self ← Call.get
  Call.lift (.lift .Unauthorized (self.policy.authorize device_id command))
  if !command.is_mutating then pure .Accepted
  else
    let key := command_key device_id command
    match self.accepted[key]? with
    | some outcome => Call.lift (.lift id (replay outcome command))
    | none =>
      let room ← Call.lift (.lift id (self.make_room forwarded_command_id))
      Call.modify fun _ => room.enter forwarded_command_id key command
      pure .Accepted

def forwarded_command (device_id : String) (command : RemoteCommand) : RemoteCommand :=
  { command with command_id := forwarded_command_id (command_key device_id command) }

/-- The first result of a command is kept, under the id that the client gave. -/
def record_result (result : RemoteCommandResult) : GatewayCommandGuard :=
  match self.forwarded[result.command_id]? with
  | none => self
  | some key =>
    match self.accepted[key]? with
    | none => self
    | some outcome =>
      if outcome.result.isNone then
        { self with
          accepted := self.accepted.insert key
            { outcome with result := some { result with command_id := key.command_id } } }
      else self

def result_for_device (device_id forwarded_id : String) : Option RemoteCommandResult := do
  let key ← self.forwarded[forwarded_id]?
  if key.device_id ≠ device_id then none
  else
    let outcome ← self.accepted[key]?
    outcome.result

def authorize_forwarded (command : RemoteCommand) : Except CommandGuardError Unit :=
  match self.forwarded[command.command_id]? with
  | none => .error .UnknownCommand
  | some key =>
    match self.accepted[key]? with
    | none => .error .UnknownCommand
    | some outcome =>
      match self.policy.authorize key.device_id outcome.command with
      | .error error => .error (.Unauthorized error)
      | .ok () => .ok ()

end forwarded

end GatewayCommandGuard

end lumi_remote_gateway
