-- No session outlives its grant. A session subscribes to changes of trust
-- before it authenticates, and a request that changes trust holds the registry
-- until it has notified: so a session was told what holds now, or it has a
-- change to see.
import Lumi.Gateway.Ledger
import Lumi.Gateway.Ownership
import Lumi.Gateway.Sessions

open rust lumi_remote_protocol

namespace lumi_remote_gateway

open GatewayCommandGuard (admit_command admit_ends make_room_ok)

variable {Digest : Type}

/-! ## What leaves the controller alone -/

theorem admit_policy (forwarded_command_id : CommandKey → String) (guard : GatewayCommandGuard)
    (device_id : String) (command : RemoteCommand) :
    ((admit_command forwarded_command_id device_id command).run
      guard).1.policy = guard.policy := by
  rcases admit_ends forwarded_command_id guard device_id command with
    ⟨e, hrun⟩ | ⟨_, ⟨_, hrun⟩ | ⟨_, ⟨_, _, _, _, hrun⟩ | ⟨_, room, hroom, hrun⟩⟩⟩
  · rw [hrun]
  · rw [hrun]
  · rw [hrun]
  rw [hrun]
  rcases make_room_ok hroom with ⟨_, rfl⟩ | ⟨_, _, _, _, _, _, _, rfl⟩ <;> rfl

theorem record_result_policy (guard : GatewayCommandGuard) (result : RemoteCommandResult) :
    (guard.record_result result).policy = guard.policy := by
  unfold GatewayCommandGuard.record_result
  split
  · rfl
  split
  · rfl
  · split <;> rfl

variable {hello : RemoteClientHello} {activity : Activity} {outside : Surroundings}
  {candidate : PairingRegistry Digest} {step : GatewayStep} {system' : GatewaySystem Digest}
  {j : Nat}

/-- A hello keeps the registry in order and every device in it. Once a controller was chosen it
keeps the controller. -/
theorem Orderly.entered [DecidableEq Digest] {hash_secret : String → Digest}
    {registry candidate : PairingRegistry Digest} {now : UInt64} (h : Orderly registry)
    (hvalid : hello.validate = .ok ())
    (henters : SharedGatewayState.Enters hash_secret registry now candidate hello) :
    Orderly candidate ∧ candidate.controller_selection_initialized = true ∧
      (registry.controller_selection_initialized = true →
        candidate.controller_device_id = registry.controller_device_id) ∧
      (∀ id, registry.contains_device id = true → candidate.contains_device id = true) ∧
      candidate.contains_device (SharedGatewayState.device_of_hello hello) = true := by
  have hversion := hello_version hvalid
  have hinsert {registry : PairingRegistry Digest} (device_id : String)
      (device : PairedDevice Digest) (id : String)
      (h : registry.devices[id]?.isSome = true ∨ device_id = id) :
      (registry.devices.insert device_id device)[id]?.isSome = true := by
    rw [map_get_insert]
    split
    · rfl
    · exact h.resolve_right (by assumption)
  have hversioned {registry : PairingRegistry Digest} (device_id : String)
      (client_version : Option String) (id : String) (h : registry.contains_device id = true) :
      (registry.set_client_version device_id client_version).contains_device id = true := by
    unfold PairingRegistry.set_client_version
    split
    · exact hinsert device_id _ id (.inl h)
    · exact h
  cases hello with
  | Authenticate device_id credential client_version =>
    obtain ⟨device, hdevice, rfl⟩ := henters
    obtain ⟨horderly, howner⟩ := h.seen_candidate hdevice hversion now
    refine ⟨horderly, ?_, fun _ => howner, ?_, ?_⟩
    · rw [PairingRegistry.seen_candidate, set_client_version_chosen]
      exact h.chosen_of_device hdevice
    · exact fun id hid => hversioned device_id _ id (hinsert device_id _ id (.inl hid))
    · exact hversioned device_id _ device_id (hinsert device_id _ device_id (.inr rfl))
  | Pair invitation_id invitation_secret device_id display_name device_credential client_version =>
    obtain ⟨hcheck, rfl⟩ := henters
    obtain ⟨horderly, howner⟩ := h.paired_candidate hcheck hversion
    have hdevices : ∀ id, registry.devices[id]?.isSome = true ∨ device_id = id →
        (registry.exchanged hash_secret invitation_id device_id display_name device_credential
          now).contains_device id = true := by
      intro id hid
      unfold PairingRegistry.exchanged
      split <;> exact hinsert device_id _ id hid
    refine ⟨horderly, ?_, ?_, ?_, ?_⟩
    · rw [PairingRegistry.paired_candidate, set_client_version_chosen, PairingRegistry.exchanged]
      split <;> rfl
    · intro hchosen
      rw [howner, if_pos hchosen]
    · exact fun id hid => hversioned device_id _ id (hdevices id (.inl hid))
    · exact hversioned device_id _ device_id (hdevices device_id (.inr rfl))

/-! ## What a step does -/

section moves

variable [DecidableEq Digest] (forwarded_command_id : CommandKey → String)
  (hash_secret : String → Digest) (identity : InstallationIdentity)

/-- What a step does; one that cannot be taken relays nothing. -/
inductive Moves (system : GatewaySystem Digest) : GatewayStep → GatewaySystem Digest → Prop
  | subscribes {i : Nat} (hi : system.sessions i = .connecting) :
      Moves system (.subscribe i) (system.put i (.subscribed system.state.trust_revision))
  | enters {i seen : Nat} {hello : RemoteClientHello} {outside : Surroundings}
      {candidate : PairingRegistry Digest} {state : SharedGatewayState Digest}
      (hi : system.sessions i = .subscribed seen) (hvalid : hello.validate = .ok ())
      (henters : SharedGatewayState.Enters hash_secret system.state.registry outside.now candidate
        hello) (hcommitted : Committed outside false candidate system.state state)
      (hrevision : state.trust_revision = system.state.trust_revision) :
      Moves system (.authenticate i hello outside)
        ({ system with state }.put i (.serving ⟨SharedGatewayState.device_of_hello hello,
          state.command_guard.controller_lease_for (SharedGatewayState.device_of_hello hello),
          seen⟩ .writing))
  | ends (step : GatewayStep) (i : Nat) : Moves system step (system.put i .ended)
  | goes_on (step : GatewayStep) {i : Nat} {grant : Grant} {activity activity' : Activity}
      (hi : system.sessions i = .serving grant activity)
      (hactivity : ∀ command, activity' ≠ .submitting command) :
      Moves system step (system.put i (.serving grant activity'))
  | reads {i : Nat} {grant : Grant} {ready : Ready} {command : RemoteCommand}
      {limited snapshot : Bool} {session : Session}
      (hi : system.sessions i = .serving grant .waiting) (hready : ready.incoming = some command)
      (hsession : session = .ended ∨ ∃ activity, session = .serving grant activity ∧
        ∀ submitted, activity = .submitting submitted → submitted = command ∧ limited = false ∧
          command.is_mutating = true ∧ system.state.command_guard.answer forwarded_command_id
            grant.device_id command = .ok .Accepted) :
      Moves system (.select i ready (.incoming limited snapshot))
        ((system.with_guard ((GatewayCommandGuard.admit_command forwarded_command_id grant.device_id
          command).run system.state.command_guard).1).put i session)
  | submits {i : Nat} {grant : Grant} {command : RemoteCommand}
      (hi : system.sessions i = .serving grant (.submitting command)) :
      Moves system (.submit i true) ({ system with
        commands := system.commands ++ [GatewayCommandGuard.forwarded_command forwarded_command_id
          grant.device_id command] }.put i (.serving grant .awaiting))
  | answers {request : GatewayAdminRequest} {outside : Surroundings} {changed : Bool}
      {state : SharedGatewayState Digest} (hquiet : ¬ system.notifying = true)
      (hanswers : SharedGatewayState.Answers outside system.state state request changed) :
      Moves system (.commit request outside) { system with state, notifying := changed }
  | notifies :
      Moves system .notify { system with
        state := { system.state with trust_revision := system.state.trust_revision + 1 }
        notifying := false }
  | records (step : GatewayStep) (result : RemoteCommandResult) {relay : RelayActivity}
      (hrelay : relay = system.relay ∨ relay = .idle) :
      Moves system step
        { system.with_guard (system.state.command_guard.record_result result) with relay }
  | relays (step : GatewayStep) {commands : List RemoteCommand} {relay : RelayActivity}
      (hcommands : commands ⊆ system.commands)
      (hrelay : relay = system.relay ∨ ∀ command, relay = .sending command →
        command ∈ system.commands ∧
          system.state.command_guard.authorize_forwarded command = .ok ()) :
      Moves system step { system with commands, relay }

variable {forwarded_command_id hash_secret} {system : GatewaySystem Digest}

theorem Moves.stays (step : GatewayStep) :
    Moves forwarded_command_id hash_secret system step system :=
  .relays step (fun _ h => h) (.inl rfl)

theorem incoming_moves {i : Nat} {grant : Grant} {ready : Ready} {command : RemoteCommand}
    (hi : system.sessions i = .serving grant .waiting) (hready : ready.incoming = some command)
    (limited snapshot : Bool) :
    Moves forwarded_command_id hash_secret system (.select i ready (.incoming limited snapshot))
      (system.incoming forwarded_command_id i grant command limited snapshot) := by
  unfold GatewaySystem.incoming
  split
  · exact .ends _ i
  split
  · exact .goes_on _ hi (by simp)
  rename_i hlimited
  -- The guard changes in each of the three cases; only a change that is accepted is submitted.
  have hread {session : Session} {command_guard : GatewayCommandGuard} {answer}
      (hrun : (admit_command forwarded_command_id grant.device_id
        command).run system.state.command_guard = (command_guard, answer))
      (hsession : session = .ended ∨ ∃ activity, session = .serving grant activity ∧
        ∀ submitted, activity = .submitting submitted → submitted = command ∧
          command.is_mutating = true ∧ answer = .ok .Accepted) :
      Moves forwarded_command_id hash_secret system
        (.select i ready (.incoming limited snapshot))
        ((system.with_guard command_guard).put i session) := by
    have hguard : command_guard = ((admit_command forwarded_command_id
        grant.device_id command).run system.state.command_guard).1 := by
      rw [hrun]
    subst hguard
    refine .reads hi hready (hsession.imp id ?_)
    rintro ⟨activity, hactivity, hsubmits⟩
    refine ⟨activity, hactivity, ?_⟩
    intro submitted hsubmitted
    obtain ⟨hsame, hmutating, hanswer⟩ := hsubmits submitted hsubmitted
    refine ⟨hsame, by simpa using hlimited, hmutating, ?_⟩
    rw [GatewayCommandGuard.answer, hrun, hanswer]
  split
  · rename_i command_guard hrun
    refine hread hrun (.inr ?_)
    cases hmutating : command.is_mutating with
    | true => exact ⟨_, rfl, by simp⟩
    | false => cases snapshot <;> exact ⟨_, rfl, by simp⟩
  · rename_i command_guard _ _ hrun
    exact hread hrun (.inr ⟨_, rfl, by simp⟩)
  · rename_i command_guard _ _ hrun
    exact hread hrun (.inl rfl)

theorem step_moves (system : GatewaySystem Digest) (step : GatewayStep) :
    Moves forwarded_command_id hash_secret system step
      (system.step forwarded_command_id hash_secret identity step) := by
  cases step with
  | subscribe i =>
    simp only [GatewaySystem.step]
    split
    · exact .subscribes (by assumption)
    · exact .stays _
  | authenticate i hello outside =>
    simp only [GatewaySystem.step]
    split
    · split
      · exact .stays _
      rcases SharedGatewayState.authenticate_ends system.state outside hash_secret identity hello
        with ⟨e, hrun⟩ | ⟨candidate, paired, state, hvalid, henters, hcommitted, hrevision, hrun⟩
        <;> rw [hrun]
      · exact .ends _ i
      have hmoves := @Moves.enters _ _ forwarded_command_id hash_secret system _ _ _ _ _ _
        (by assumption) hvalid henters hcommitted hrevision
      cases paired <;> exact hmoves
    · exact .stays _
  | written i =>
    simp only [GatewaySystem.step]
    split
    · exact .goes_on _ (by assumption) (by simp)
    · exact .stays _
  | select i ready branch =>
    simp only [GatewaySystem.step]
    split
    · rename_i grant hi
      split
      · cases branch with
        | trust_changed => exact .ends _ i
        | update written => exact .goes_on _ hi (by cases written <;> simp)
        | incoming limited snapshot =>
          simp only [GatewaySystem.select]
          split
          · exact .stays _
          · exact incoming_moves hi (by assumption) limited snapshot
      · exact .stays _
    · exact .stays _
  | submit i sent =>
    simp only [GatewaySystem.step]
    split
    · cases sent with
      | true => exact .submits (by assumption)
      | false => exact .goes_on _ (by assumption) (by simp)
    · exact .stays _
  | respond i sent =>
    simp only [GatewaySystem.step]
    split
    · exact .goes_on _ (by assumption) (by cases sent <;> simp)
    · exact .stays _
  | fail i => exact .ends _ i
  | commit request outside =>
    simp only [GatewaySystem.step]
    split
    · exact .stays _
    rcases SharedGatewayState.commit_request_ends system.state outside hash_secret identity
      request with ⟨e, hrun⟩ | ⟨state, invitation, changed, hrun, hanswers⟩ <;> rw [hrun]
    · exact .stays _
    exact .answers (by assumption) hanswers
  | notify =>
    simp only [GatewaySystem.step]
    split
    · exact .notifies
    · exact .stays _
  | result recorded => exact .records _ recorded (.inl rfl)
  | request closed expired =>
    simp only [GatewaySystem.step, GatewaySystem.request]
    split
    · rename_i command commands _ hcommands
      have hrest : commands ⊆ system.commands := by
        rw [hcommands]
        exact List.subset_cons_self command commands
      split
      · exact .relays _ hrest (.inl rfl)
      split
      · exact .relays _ hrest (.inr (by simp))
      split
      · exact .relays _ hrest (.inr (by simp))
      · exact .relays _ hrest (.inr (by simp_all))
    · exact .stays _
  | reject =>
    simp only [GatewaySystem.step]
    split
    · exact .records _ _ (.inr rfl)
    · exact .stays _
  | sent =>
    simp only [GatewaySystem.step]
    split
    · exact .relays _ (fun _ h => h) (.inr (by simp))
    · exact .stays _
  | retry =>
    simp only [GatewaySystem.step]
    split
    · exact .relays _ (List.tail_subset _) (.inl rfl)
    · exact .stays _

end moves

/-! ## The invariant -/

/-- The session was told what holds now, and its device is paired. -/
def Grant.current (grant : Grant) (state : SharedGatewayState Digest) : Prop :=
  grant.controller_lease_id = state.command_guard.controller_lease_for grant.device_id ∧
    state.registry.contains_device grant.device_id = true

/-- Registry and guard agree, a session has seen no later change than the last, and one that serves
is current or has a change to see; a request that is about to notify makes up for the rest. -/
structure Granted (system : GatewaySystem Digest) : Prop where
  orderly : Orderly system.state.registry
  guard : system.state.command_guard.controller.map (·.device_id) =
    system.state.registry.controller_device_id
  subscribed : ∀ i seen, system.sessions i = .subscribed seen → seen ≤ system.state.trust_revision
  serving : ∀ i grant activity, system.sessions i = .serving grant activity →
    grant.seen ≤ system.state.trust_revision ∧
    system.state.registry.controller_selection_initialized = true ∧
    (system.notifying = true ∨ grant.current system.state ∨
      grant.seen < system.state.trust_revision)

namespace Granted

variable {system : GatewaySystem Digest} (h : Granted system) {state : SharedGatewayState Digest}
include h

/-- A session goes on with its grant, subscribes or ends. -/
theorem put (i : Nat) (session : Session)
    (hsubscribed : ∀ seen, session = .subscribed seen → seen ≤ system.state.trust_revision)
    (hserving : ∀ grant activity, session = .serving grant activity →
      grant.seen ≤ system.state.trust_revision ∧
      system.state.registry.controller_selection_initialized = true ∧
      (system.notifying = true ∨ grant.current system.state ∨
        grant.seen < system.state.trust_revision)) : Granted (system.put i session) := by
  refine ⟨h.orderly, h.guard, ?_, ?_⟩
  · intro j seen hj
    by_cases hij : j = i
    · subst hij
      exact hsubscribed seen (by simpa [GatewaySystem.put] using hj)
    · exact h.subscribed j seen (by simpa [GatewaySystem.put, hij] using hj)
  · intro j grant activity hj
    by_cases hij : j = i
    · subst hij
      exact hserving grant activity (by simpa [GatewaySystem.put] using hj)
    · exact h.serving j grant activity (by simpa [GatewaySystem.put, hij] using hj)

theorem end_session (i : Nat) : Granted (system.put i .ended) :=
  h.put i .ended (by simp) (by simp)

theorem go_on {i : Nat} {grant : Grant} (hi : system.sessions i = .serving grant activity)
    (activity' : Activity) : Granted (system.put i (.serving grant activity')) := by
  refine h.put i _ (by simp) ?_
  intro grant' activity'' heq
  cases heq
  exact h.serving i grant activity hi

theorem with_guard {command_guard : GatewayCommandGuard}
    (hpolicy : command_guard.policy = system.state.command_guard.policy) :
    Granted (system.with_guard command_guard) := by
  have hcontroller : command_guard.controller = system.state.command_guard.controller :=
    congrArg GatewayCommandPolicy.controller hpolicy
  refine ⟨h.orderly, ?_, h.subscribed, ?_⟩
  · show command_guard.controller.map _ = _
    rw [hcontroller]
    exact h.guard
  · intro i grant activity hi
    obtain ⟨hseen, hchosen, hcurrent⟩ := h.serving i grant activity hi
    refine ⟨hseen, hchosen, hcurrent.imp id (Or.imp ?_ id)⟩
    rintro ⟨hlease, hpaired⟩
    refine ⟨?_, hpaired⟩
    rw [hlease]
    simp only [GatewaySystem.with_guard, GatewayCommandGuard.controller_lease_for, hcontroller]

/-- A commit keeps guard and registry together; what the sessions were told stands or falls. -/
theorem commit {rotate_lease notifying : Bool}
    (hcommitted : Committed outside rotate_lease candidate system.state state)
    (hrevision : state.trust_revision = system.state.trust_revision) (horderly : Orderly candidate)
    (hchosen : candidate.controller_selection_initialized = true)
    (htold : ∀ i grant activity, system.sessions i = .serving grant activity →
      notifying = true ∨ grant.current state ∨ grant.seen < state.trust_revision) :
    Granted { system with state, notifying } := by
  have hregistry := hcommitted.registry
  refine ⟨hregistry ▸ horderly, ?_, ?_, ?_⟩
  · show state.command_guard.controller.map _ = state.registry.controller_device_id
    rw [hregistry]
    exact granted_owner hcommitted.guard
  · intro i seen hi
    exact (h.subscribed i seen hi).trans hrevision.ge
  · intro i grant activity hi
    exact ⟨(h.serving i grant activity hi).1.trans hrevision.ge, hregistry ▸ hchosen,
      htold i grant activity hi⟩

theorem relayed (commands : List RemoteCommand) (relay : RelayActivity) :
    Granted { system with commands, relay } :=
  ⟨h.orderly, h.guard, h.subscribed, h.serving⟩

/-- A hello: the sessions before it keep what they were told, as it keeps the controller. -/
theorem enters [DecidableEq Digest] {hash_secret : String → Digest} {i seen : Nat}
    (hi : system.sessions i = .subscribed seen) (hvalid : hello.validate = .ok ())
    (henters : SharedGatewayState.Enters hash_secret system.state.registry outside.now candidate
      hello) (hcommitted : Committed outside false candidate system.state state)
    (hrevision : state.trust_revision = system.state.trust_revision) :
    Granted ({ system with state }.put i (.serving ⟨SharedGatewayState.device_of_hello hello,
      state.command_guard.controller_lease_for (SharedGatewayState.device_of_hello hello), seen⟩
      .writing)) := by
  obtain ⟨horderly, hchosen, howner, hdevices, hdevice⟩ := h.orderly.entered hvalid henters
  have hregistry := hcommitted.registry
  refine (h.commit hcommitted hrevision horderly hchosen ?_).put i _ (by simp) ?_
  · intro j grant activity hj
    obtain ⟨_, hwas, hcurrent⟩ := h.serving j grant activity hj
    have hsame := hcommitted.same_guard (h.guard.trans (howner hwas).symm)
    rw [hrevision]
    refine hcurrent.imp id (Or.imp ?_ id)
    rintro ⟨hlease, hpaired⟩
    exact ⟨by rw [hsame]; exact hlease, hregistry ▸ hdevices _ hpaired⟩
  · intro grant activity heq
    cases heq
    exact ⟨(h.subscribed i seen hi).trans hrevision.ge, hregistry ▸ hchosen,
      .inr (.inl ⟨rfl, hregistry ▸ hdevice⟩)⟩

/-- A request notifies whenever it changed more than the invitations. -/
theorem answers {request : GatewayAdminRequest} {changed : Bool}
    (hquiet : ¬ system.notifying = true)
    (hanswers : SharedGatewayState.Answers outside system.state state request changed) :
    Granted { system with state, notifying := changed } := by
  cases hanswers with
  | quiet pending _ hstate =>
    subst hstate
    refine ⟨h.orderly.invited pending, h.guard, h.subscribed, ?_⟩
    intro i grant activity hi
    obtain ⟨hseen, hchosen, hcurrent⟩ := h.serving i grant activity hi
    exact ⟨hseen, hchosen, .inr (hcurrent.resolve_left hquiet)⟩
  | revoked device_id hdevice hcommitted hrevision =>
    obtain ⟨device, hsome⟩ := Option.isSome_iff_exists.mp hdevice
    refine h.commit hcommitted hrevision (h.orderly.revoked_candidate _ _).1 ?_
      fun _ _ _ _ => .inl rfl
    rw [← h.orderly.chosen_of_device hsome, PairingRegistry.revoked_candidate]
    split <;> rfl
  | transferred device_id hdevice hcommitted hrevision =>
    obtain ⟨device, hsome⟩ := Option.isSome_iff_exists.mp hdevice
    exact h.commit hcommitted hrevision (h.orderly.transferred_candidate hdevice _).1
      (h.orderly.chosen_of_device hsome) fun _ _ _ _ => .inl rfl

omit h

section steps

variable [DecidableEq Digest] {hash_secret : String → Digest} {identity : InstallationIdentity}
  {forwarded_command_id : CommandKey → String}

theorem moves (h : Granted system)
    (hmoves : Moves forwarded_command_id hash_secret system step system') : Granted system' := by
  cases hmoves with
  | subscribes _ =>
    refine h.put _ _ ?_ (by simp)
    intro seen heq
    cases heq
    exact Nat.le_refl _
  | enters hi hvalid henters hcommitted hrevision =>
    exact h.enters hi hvalid henters hcommitted hrevision
  | ends _ i => exact h.end_session i
  | goes_on _ hi _ => exact h.go_on hi _
  | reads hi _ hsession =>
    have hadmitted (device_id : String) (command : RemoteCommand) :=
      h.with_guard (admit_policy forwarded_command_id system.state.command_guard device_id command)
    rcases hsession with rfl | ⟨activity, rfl, _⟩
    · exact (hadmitted _ _).end_session _
    · exact (hadmitted _ _).go_on hi _
  | submits hi => exact (h.go_on hi .awaiting).relayed _ _
  | answers hquiet hanswers => exact h.answers hquiet hanswers
  | notifies =>
    -- What was told before is no longer believed.
    refine ⟨h.orderly, h.guard, ?_, ?_⟩
    · exact fun i seen hi => (h.subscribed i seen hi).trans (Nat.le_succ _)
    · intro i grant activity hi
      obtain ⟨hseen, hchosen, _⟩ := h.serving i grant activity hi
      exact ⟨hseen.trans (Nat.le_succ _), hchosen, .inr (.inr (Nat.lt_succ_of_le hseen))⟩
  | records _ result _ =>
    exact (h.with_guard (record_result_policy system.state.command_guard result)).relayed _ _
  | relays _ _ _ => exact h.relayed _ _

theorem run (h : Granted system) (steps : List GatewayStep) :
    Granted (system.run forwarded_command_id hash_secret identity steps) := by
  induction steps generalizing system with
  | nil => exact h
  | cons first steps ih => exact ih (h.moves (step_moves identity system first))

end steps

end Granted

theorem granted_start {trust_store : Option (PairingRegistrySnapshot Digest)}
    {lease : Option String} {state : SharedGatewayState Digest}
    (h : SharedGatewayState.load trust_store lease = .ok state) :
    Granted (GatewaySystem.start state) := by
  obtain ⟨hregistry, hguard, _⟩ := load_ok h
  refine ⟨?_, hguard, ?_, ?_⟩
  · cases trust_store with
    | none =>
      show Orderly state.registry
      rw [← Except.ok.inj hregistry]
      exact orderly_default
    | some snapshot => exact orderly_of_from_snapshot (load_some.mp hregistry)
  · intro i seen hi
    cases hi
  · intro i grant activity hi
    cases hi

/-! ## A change of trust stays to be seen -/

/-- The session keeps its grant until it ends. -/
def KeepsGrant (grant : Grant) (session : Session) : Prop :=
  session = .ended ∨ ∃ activity, session = .serving grant activity

section keeps

variable {system : GatewaySystem Digest} {grant : Grant} {i : Nat}
  (h : KeepsGrant grant (system.sessions i))
include h

theorem KeepsGrant.put {session : Session} (hsession : i = j → KeepsGrant grant session) :
    KeepsGrant grant ((system.put j session).sessions i) := by
  by_cases hij : i = j
  · subst hij
    simpa [GatewaySystem.put] using hsession rfl
  · simpa [GatewaySystem.put, hij] using h

theorem KeepsGrant.put_ended (j : Nat) : KeepsGrant grant ((system.put j .ended).sessions i) :=
  h.put fun _ => .inl rfl

theorem KeepsGrant.put_serving {grant' : Grant}
    (hj : system.sessions j = .serving grant' activity) (activity' : Activity) :
    KeepsGrant grant ((system.put j (.serving grant' activity')).sessions i) := by
  refine h.put ?_
  rintro rfl
  rw [hj] at h
  rcases h with h | ⟨_, h⟩
  · cases h
  cases h
  exact .inr ⟨_, rfl⟩

omit h

variable [DecidableEq Digest] {hash_secret : String → Digest} {identity : InstallationIdentity}
  {forwarded_command_id : CommandKey → String}

theorem KeepsGrant.moves (h : KeepsGrant grant (system.sessions i))
    (hmoves : Moves forwarded_command_id hash_secret system step system') :
    KeepsGrant grant (system'.sessions i) := by
  have hnew {j : Nat} {session : Session} (hj : system.sessions j = session)
      (hnew : session = .connecting ∨ ∃ seen, session = .subscribed seen) : i ≠ j := by
    rintro rfl
    rw [hj] at h
    rcases hnew with rfl | ⟨seen, rfl⟩ <;> rcases h with h | ⟨_, h⟩ <;> cases h
  have hstate (system' : GatewaySystem Digest) (hsame : system'.sessions = system.sessions) :
      KeepsGrant grant (system'.sessions i) := hsame ▸ h
  cases hmoves with
  | subscribes hj => exact h.put fun hij => absurd hij (hnew hj (.inl rfl))
  | enters hj _ _ _ _ =>
    exact (hstate _ rfl).put fun hij => absurd hij (hnew hj (.inr ⟨_, rfl⟩))
  | ends _ j => exact h.put_ended j
  | goes_on _ hj _ => exact h.put_serving hj _
  | reads hj _ hsession =>
    rcases hsession with rfl | ⟨activity, rfl, _⟩
    · exact (hstate _ rfl).put_ended _
    · exact (hstate _ rfl).put_serving hj _
  | submits hj => exact (hstate _ rfl).put_serving hj _
  | _ => exact h

/-- The trust revision never goes back. -/
theorem Moves.revision (h : Moves forwarded_command_id hash_secret system step system') :
    system.state.trust_revision ≤ system'.state.trust_revision := by
  cases h with
  | enters _ _ _ _ hrevision => exact hrevision.ge
  | answers _ hanswers =>
    cases hanswers with
    | quiet _ _ hstate => exact le_of_eq (by rw [hstate])
    | revoked _ _ _ hrevision | transferred _ _ _ hrevision => exact hrevision.ge
  | notifies => exact Nat.le_succ _
  | _ => exact Nat.le_refl _

/-- A session with a change to see keeps its grant and the change until it ends. -/
theorem KeepsGrant.run {n : Nat} (h : KeepsGrant grant (system.sessions i))
    (hn : n < system.state.trust_revision) (steps : List GatewayStep) :
    KeepsGrant grant
        ((system.run forwarded_command_id hash_secret identity steps).sessions i) ∧
      n < (system.run forwarded_command_id hash_secret identity steps).state.trust_revision := by
  induction steps generalizing system with
  | nil => exact ⟨h, hn⟩
  | cons first steps ih =>
    have hmoves : Moves forwarded_command_id hash_secret system first _ :=
      step_moves identity system first
    exact ih (h.moves hmoves) (hn.trans_le hmoves.revision)

/-- No two devices are in control at once: while no request is about to notify, every session that
holds a lease and has no change of trust to see holds the one that the guard asks for. -/
theorem one_device_is_in_control {trust_store : Option (PairingRegistrySnapshot Digest)}
    {lease : Option String} {state : SharedGatewayState Digest} {steps : List GatewayStep}
    {lease_id : String} (hload : SharedGatewayState.load trust_store lease = .ok state)
    (hrun : (GatewaySystem.start state).run forwarded_command_id hash_secret identity steps =
      system) (hquiet : system.notifying = false)
    (hi : system.sessions i = .serving grant activity)
    (hseen : grant.seen = system.state.trust_revision)
    (hlease : grant.controller_lease_id = some lease_id) :
    system.state.command_guard.controller = some ⟨grant.device_id, lease_id⟩ := by
  have hgranted : Granted system := hrun ▸ (granted_start hload).run steps
  rcases (hgranted.serving i grant activity hi).2.2 with hnotifying | hcurrent | hlater
  · exact absurd hnotifying (by simp [hquiet])
  · obtain ⟨held, hheld, rfl⟩ := Option.map_eq_some_iff.mp (hcurrent.1.symm.trans hlease)
    obtain ⟨hcontroller, hdevice⟩ := Option.filter_eq_some_iff.mp hheld
    rw [hcontroller, ← of_decide_eq_true hdevice]
  · exact absurd hseen hlater.ne

end keeps

/-- While no request is about to notify, a session that serves was told the lease that its device
has now and its device is paired, or it has a change of trust to see. It keeps that change until it
ends, and a wait at which nothing else is ready ends it. -/
theorem no_session_outlives_its_grant [DecidableEq Digest]
    (forwarded_command_id : CommandKey → String) (hash_secret : String → Digest)
    (identity : InstallationIdentity) (trust_store : Option (PairingRegistrySnapshot Digest))
    (lease : Option String) (state : SharedGatewayState Digest)
    (hload : SharedGatewayState.load trust_store lease = .ok state) (steps : List GatewayStep)
    (system : GatewaySystem Digest)
    (hrun : (GatewaySystem.start state).run forwarded_command_id hash_secret identity steps =
      system) (i : Nat) (grant : Grant) (activity : Activity)
    (hi : system.sessions i = .serving grant activity) :
    (system.notifying = false →
      grant.current system.state ∨ grant.seen ≠ system.state.trust_revision) ∧
    (grant.seen ≠ system.state.trust_revision →
      (∀ more,
        KeepsGrant grant
          ((system.run forwarded_command_id hash_secret identity more).sessions i) ∧
        grant.seen ≠
          (system.run forwarded_command_id hash_secret identity more).state.trust_revision) ∧
      (activity = .waiting →
        (∀ branch, Branch.is_ready grant system.state.trust_revision ⟨false, none⟩ branch = true ↔
          branch = .trust_changed) ∧
        (system.step forwarded_command_id hash_secret identity
          (.select i ⟨false, none⟩ .trust_changed)).sessions i = .ended)) := by
  have hgranted : Granted system := hrun ▸ (granted_start hload).run steps
  obtain ⟨hseen, _, hcurrent⟩ := hgranted.serving i grant activity hi
  refine ⟨?_, ?_⟩
  · intro hquiet
    rcases hcurrent with hnotifying | hcurrent | hlater
    · rw [hquiet] at hnotifying
      cases hnotifying
    · exact .inl hcurrent
    · exact .inr hlater.ne
  · intro hpending
    refine ⟨?_, ?_⟩
    · intro more
      have hkeeps : KeepsGrant grant (system.sessions i) := .inr ⟨activity, hi⟩
      have hlater : KeepsGrant grant
          ((system.run forwarded_command_id hash_secret identity more).sessions i) ∧ _ :=
        hkeeps.run (lt_of_le_of_ne hseen hpending) more
      exact ⟨hlater.1, hlater.2.ne⟩
    · rintro rfl
      have hready : Branch.is_ready grant system.state.trust_revision ⟨false, none⟩
          .trust_changed = true := by
        simpa [Branch.is_ready] using hpending
      refine ⟨?_, ?_⟩
      · intro branch
        cases branch <;> simp [Branch.is_ready, hpending]
      · simp only [GatewaySystem.step, hi]
        rw [if_pos hready]
        simp [GatewaySystem.select, GatewaySystem.put]

namespace sessions

/-- The first start. -/
def state : SharedGatewayState String :=
  ⟨.default, ⟨⟨none⟩, ∅, ∅, [], DEFAULT_COMMAND_LEDGER_CAPACITY⟩, none, 0⟩

/-- A phone pairs and waits, and its pairing is revoked. -/
def revoked : List GatewayStep :=
  [.commit .CreateInvitation (trust.clock 1000000 "a"),
    .commit (.ApproveInvitation "invitation" "123456") (trust.clock 1000000 "a"),
    .subscribe 0,
    .authenticate 0 (.Pair "invitation" "0123456789abcdef0123456789abcdef" "phone" "Phone"
      trust.credential none) (trust.clock 1000000 "a"),
    .written 0,
    .commit (.RevokeDevice "phone") (trust.clock 1000000 "b"),
    .notify]

def run (steps : List GatewayStep) : GatewaySystem String :=
  (GatewaySystem.start state).run ledger.forwarded_id id trust.installation steps

end sessions

theorem a_revoked_phone_has_a_change_to_see :
    (sessions.run sessions.revoked).sessions 0 = .serving ⟨"phone", some "a", 0⟩ .waiting ∧
    (Grant.current ⟨"phone", some "a", 0⟩ (sessions.run sessions.revoked).state ∨
      0 ≠ (sessions.run sessions.revoked).state.trust_revision) :=
  ⟨by decide +kernel,
    (no_session_outlives_its_grant ledger.forwarded_id id trust.installation none none
      sessions.state rfl sessions.revoked _ rfl 0 ⟨"phone", some "a", 0⟩ .waiting
      (by decide +kernel)).1 (by decide +kernel)⟩

/-- The next wait of a session with a change to see need not end it: a frame that is ready at the
same time may go first. -/
theorem a_frame_goes_before_the_change :
    (sessions.run sessions.revoked).sessions 0 = .serving ⟨"phone", some "a", 0⟩ .waiting ∧
    (sessions.run sessions.revoked).state.trust_revision = 1 ∧
    (sessions.run (sessions.revoked ++ [.select 0 ⟨true, none⟩ (.update true)])).sessions 0 =
      .serving ⟨"phone", some "a", 0⟩ .writing := by
  decide +kernel

open sessions in
theorem the_phone_is_in_control :
    (run (revoked.take 5)).state.command_guard.controller = some ⟨"phone", "a"⟩ :=
  have hi : (run (revoked.take 5)).sessions 0 = .serving ⟨"phone", some "a", 0⟩ .waiting := by
    decide +kernel
  one_device_is_in_control (show SharedGatewayState.load none none = .ok state from rfl) rfl
    (by decide +kernel) hi (by decide +kernel) rfl

end lumi_remote_gateway
