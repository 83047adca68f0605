-- The gateway as it runs: client sessions, administration and the relay to the
-- engine, one step after the other in any order. A step goes from one `await`
-- to the next, or covers what holds a lock throughout; a step that cannot be
-- taken changes nothing.
import Lumi.Gateway.State

open rust lumi_remote_protocol

namespace lumi_remote_gateway

/-! ## Sessions -/

/-- What a session got with its hello: its device, the lease that it was told, and the trust
revision at its subscription. -/
structure Grant where
  device_id : String
  controller_lease_id : Option String
  seen : Nat
deriving DecidableEq

/-- What a session is at. -/
inductive Activity where
  /-- It writes the hello, the first snapshot or another frame. -/
  | writing
  /-- It waits in `select!`. -/
  | waiting
  /-- Its command was admitted and goes to the relay. -/
  | submitting (command : RemoteCommand)
  /-- It waits for the answer of the relay. -/
  | awaiting
deriving DecidableEq

inductive Session where
  | connecting
  | subscribed (seen : Nat)
  | serving (grant : Grant) (activity : Activity)
  | ended
deriving DecidableEq

/-- What is ready at a `select!`, apart from a change of trust: a frame of the relay, and a command
of the client. -/
structure Ready where
  update : Bool
  incoming : Option RemoteCommand
deriving DecidableEq

/-- The branches of the `select!`. A frame may be written or filtered; a command may be over the
rate limit, and a snapshot may be there to be written. -/
inductive Branch where
  | trust_changed
  | update (written : Bool)
  | incoming (limited snapshot : Bool)
deriving DecidableEq

def Branch.is_ready (grant : Grant) (trust_revision : Nat) (ready : Ready) : Branch → Bool
  | .trust_changed => grant.seen ≠ trust_revision
  | .update _ => ready.update
  | .incoming .. => ready.incoming.isSome

/-- The relay between its steps: a command that it refuses still waits for its result. -/
inductive RelayActivity where
  | idle
  | rejecting (command : RemoteCommand)
  | sending (command : RemoteCommand)
deriving DecidableEq

structure GatewaySystem (Digest : Type) where
  state : SharedGatewayState Digest
  /-- A request holds the registry between its commit and its notification. -/
  notifying : Bool
  sessions : Nat → Session
  /-- The channel from the sessions to the relay. -/
  commands : List RemoteCommand
  relay : RelayActivity

inductive GatewayStep where
  | subscribe (i : Nat)
  | authenticate (i : Nat) (client_hello : RemoteClientHello) (outside : Surroundings)
  | written (i : Nat)
  | select (i : Nat) (ready : Ready) (branch : Branch)
  | submit (i : Nat) (sent : Bool)
  | respond (i : Nat) (sent : Bool)
  | fail (i : Nat)
  | commit (admin_request : GatewayAdminRequest) (outside : Surroundings)
  | notify
  | result (recorded : RemoteCommandResult)
  | request (closed expired : Bool)
  | reject
  | sent
  | retry

variable {Digest : Type}

namespace GatewaySystem

variable (forwarded_command_id : CommandKey → String)

def put (self : GatewaySystem Digest) (i : Nat) (session : Session) : GatewaySystem Digest :=
  { self with sessions := Function.update self.sessions i session }

/-- A change of the guard under its lock. -/
def with_guard (self : GatewaySystem Digest) (command_guard : GatewayCommandGuard) :
    GatewaySystem Digest :=
  { self with state := { self.state with command_guard } }

/-- The session reads a command of its client. -/
def incoming (self : GatewaySystem Digest) (i : Nat) (grant : Grant) (command : RemoteCommand)
    (limited snapshot : Bool) : GatewaySystem Digest :=
  match command.validate with
  | .error _ => self.put i .ended
  | .ok () =>
    if limited then self.put i (.serving grant .writing)
    else
      match (GatewayCommandGuard.admit_command forwarded_command_id grant.device_id command).run
        self.state.command_guard with
      | (command_guard, .ok .Accepted) =>
        (self.with_guard command_guard).put i <|
          if command.is_mutating then .serving grant (.submitting command)
          else .serving grant (if snapshot then .writing else .waiting)
      | (command_guard, .ok _) =>
        (self.with_guard command_guard).put i (.serving grant .writing)
      | (command_guard, _) => (self.with_guard command_guard).put i .ended

/-- The session takes a branch of its `select!` that is ready. -/
def select (self : GatewaySystem Digest) (i : Nat) (grant : Grant) (ready : Ready) :
    Branch → GatewaySystem Digest
  | .trust_changed => self.put i .ended
  | .update written => self.put i (.serving grant (if written then .writing else .waiting))
  | .incoming limited snapshot =>
    match ready.incoming with
    | none => self
    | some command => self.incoming forwarded_command_id i grant command limited snapshot

/-- The result of a command that the relay refuses. -/
def rejection (command : RemoteCommand) : RemoteCommandResult where
  command_id := command.command_id
  status := .Rejected
  state_revision := none
  plan_revision := none
  reason_code := some "commandExpiredOrControlRevoked"

/-- The relay takes a request out of the channel. -/
def request (self : GatewaySystem Digest) (closed expired : Bool) : GatewaySystem Digest :=
  match self.relay, self.commands with
  | .idle, command :: commands =>
    if closed then { self with commands }
    else if expired then { self with commands, relay := .rejecting command }
    else
      match self.state.command_guard.authorize_forwarded command with
      | .error _ => { self with commands, relay := .rejecting command }
      | .ok () => { self with commands, relay := .sending command }
  | _, _ => self

variable [DecidableEq Digest] (hash_secret : String → Digest) (identity : InstallationIdentity)

def step (self : GatewaySystem Digest) : GatewayStep → GatewaySystem Digest
  | .subscribe i =>
    match self.sessions i with
    | .connecting => self.put i (.subscribed self.state.trust_revision)
    | _ => self
  | .authenticate i client_hello outside =>
    match self.sessions i with
    | .subscribed seen =>
      -- The registry is locked while a request notifies.
      if self.notifying then self
      else
        match (SharedGatewayState.authenticate hash_secret identity outside client_hello).run
          self.state with
        | (state, .ok (device_id, server_hello)) =>
          { self with state }.put i
            (.serving ⟨device_id, server_hello.controller_lease_id, seen⟩ .writing)
        | (state, _) => { self with state }.put i .ended
    | _ => self
  | .written i =>
    match self.sessions i with
    | .serving grant .writing => self.put i (.serving grant .waiting)
    | _ => self
  | .select i ready branch =>
    match self.sessions i with
    | .serving grant .waiting =>
      if branch.is_ready grant self.state.trust_revision ready then
        self.select forwarded_command_id i grant ready branch
      else self
    | _ => self
  | .submit i sent =>
    match self.sessions i with
    | .serving grant (.submitting command) =>
      if sent then
        { self with
          commands := self.commands ++ [GatewayCommandGuard.forwarded_command forwarded_command_id
            grant.device_id command] }.put i (.serving grant .awaiting)
      else self.put i (.serving grant .writing)
    | _ => self
  | .respond i sent =>
    match self.sessions i with
    | .serving grant .awaiting =>
      self.put i (.serving grant (if sent then .waiting else .writing))
    | _ => self
  | .fail i => self.put i .ended
  | .commit admin_request outside =>
    if self.notifying then self
    else
      match (SharedGatewayState.commit_request hash_secret identity outside admin_request).run
        self.state with
      | (state, .ok (_, changed)) => { self with state, notifying := changed }
      | (state, _) => { self with state }
  | .notify =>
    if self.notifying then
      { self with
        state :=
          ((SharedGatewayState.notify_trust_changed : Call _ PairingError Unit).run self.state).1
        notifying := false }
    else self
  | .result recorded => self.with_guard (self.state.command_guard.record_result recorded)
  | .request closed expired => self.request closed expired
  | .reject =>
    match self.relay with
    | .rejecting command =>
      { self.with_guard (self.state.command_guard.record_result (rejection command)) with
        relay := .idle }
    | _ => self
  | .sent =>
    match self.relay with
    | .sending _ => { self with relay := .idle }
    | _ => self
  | .retry =>
    match self.relay with
    | .idle => { self with commands := self.commands.tail }
    | _ => self

/-- A gateway that was just loaded. -/
def start (state : SharedGatewayState Digest) : GatewaySystem Digest :=
  ⟨state, false, fun _ => .connecting, [], .idle⟩

def run (self : GatewaySystem Digest) (steps : List GatewayStep) : GatewaySystem Digest :=
  steps.foldl (step forwarded_command_id hash_secret identity) self

end GatewaySystem

end lumi_remote_gateway
