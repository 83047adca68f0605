-- What the gateway saves it can load again, as long as the clock does not show
-- a time before the pairing of the device that authenticates. The loader asks
-- for such times, and the writers do not look at them.
import Lumi.Gateway.Ownership

open rust

namespace lumi_remote_gateway

variable {Digest : Type} {registry registry' : PairingRegistry Digest}

/-! ## The times of the devices -/

variable {device : PairedDevice Digest} {process : GatewayProcess Digest}
  {operation : GatewayOperation}

/-- Only the times of the devices count. -/
theorem inTime_of_times
    (htimes : ∀ id : String,
      registry'.devices[id]?.map (fun device =>
          (device.paired_at_unix_millis, device.last_seen_unix_millis)) =
        registry.devices[id]?.map (fun device =>
          (device.paired_at_unix_millis, device.last_seen_unix_millis)))
    (h : InTime registry) : InTime registry' := by
  intro id device hdevice
  have htime := htimes id
  rw [hdevice, Option.map_some, eq_comm, Option.map_eq_some_iff] at htime
  obtain ⟨other, hother, htime⟩ := htime
  have hin := h id other hother
  unfold PairedDevice.in_time at hin ⊢
  rw [← (Prod.mk.inj htime).1, ← (Prod.mk.inj htime).2]
  exact hin

variable (device_id : String) (client_version : Option String)

theorem set_client_version_times (id : String) :
    (registry.set_client_version device_id client_version).devices[id]?.map (fun device =>
        (device.paired_at_unix_millis, device.last_seen_unix_millis)) =
      registry.devices[id]?.map (fun device =>
        (device.paired_at_unix_millis, device.last_seen_unix_millis)) := by
  unfold PairingRegistry.set_client_version
  split
  · rename_i device text hdevice
    dsimp only
    rw [map_get_insert]
    split
    · subst id
      rw [hdevice]
      rfl
    · rfl
  · rfl

theorem inTime_versioned :
    InTime (registry.set_client_version device_id client_version) ↔ InTime registry :=
  ⟨inTime_of_times fun id => (set_client_version_times device_id client_version id).symm,
    inTime_of_times (set_client_version_times device_id client_version)⟩

variable (h : InTime registry)
include h

theorem InTime.put {id : String}
    (hdevices : registry'.devices = registry.devices.insert id device) :
    InTime registry' ↔ device.in_time := by
  constructor
  · intro hall
    exact hall id device (by rw [hdevices, Std.ExtTreeMap.getElem?_insert_self])
  · intro hdevice id' device' hdevice'
    rw [hdevices, map_get_insert] at hdevice'
    split at hdevice'
    · cases hdevice'
      exact hdevice
    · exact h id' device' hdevice'

theorem InTime.seen_candidate {device_id : String}
    (hdevice : registry.devices[device_id]? = some device) (client_version : Option String)
    (now : UInt64) :
    InTime (registry.seen_candidate device_id device client_version now) ↔
      device.paired_at_unix_millis ≤ now := by
  unfold PairingRegistry.seen_candidate
  rw [inTime_versioned, h.put rfl]
  exact and_iff_right (h device_id device hdevice).1

theorem InTime.paired_candidate {hash_secret : String → Digest}
    (invitation_id device_id display_name device_credential : String)
    (client_version : Option String) (now : UInt64) :
    InTime (registry.paired_candidate hash_secret invitation_id device_id display_name
      device_credential client_version now) ↔ now ≠ 0 := by
  have hdevices : (registry.exchanged hash_secret invitation_id device_id display_name
      device_credential now).devices = registry.devices.insert device_id
        (registry.exchanged_device hash_secret device_id display_name device_credential now) := by
    unfold PairingRegistry.exchanged
    split <;> rfl
  unfold PairingRegistry.paired_candidate
  rw [inTime_versioned, h.put hdevices]
  exact and_iff_left (UInt64.le_refl now)

theorem InTime.revoked_candidate (now : UInt64) :
    InTime (registry.revoked_candidate device_id now) := by
  have hdevices : (registry.revoked_candidate device_id now).devices =
      registry.devices.erase device_id := by
    unfold PairingRegistry.revoked_candidate
    split <;> rfl
  intro id device hdevice
  rw [hdevices, map_get_erase] at hdevice
  split at hdevice
  · cases hdevice
  · exact h id device hdevice

theorem InTime.transferred_candidate (now : UInt64) :
    InTime (registry.transferred_candidate device_id now) := by
  refine inTime_of_times (fun id => ?_) h
  unfold PairingRegistry.transferred_candidate PairingRegistry.record_controller_change
  rw [Std.ExtTreeMap.getElem?_map, Option.map_map]
  rfl

/-! ## One operation -/

/-- The clock is in order for the operation: a device authenticates no earlier than it was paired,
and the clock of a pairing is set. -/
def ClockInOrder (outside : Surroundings) :
    GatewayOperation → GatewayProcess Digest → Prop
  | .hello (.Authenticate device_id _ _), .running state =>
    ∀ device, state.registry.devices[device_id]? = some device →
      device.paired_at_unix_millis ≤ outside.now
  | .hello (.Pair ..), .running _ => outside.now ≠ 0
  | _, _ => True

/-- The times of the registry, or of the one in the file, are in order. -/
def Timely : GatewayProcess Digest → Prop
  | .running state => InTime state.registry
  | .stopped trust_store => trust_store = none ∨ ∃ registry, Orderly registry ∧
      InTime registry ∧ trust_store = some registry.snapshot

/-- What was saved loads again, and it is the registry as it is, but for its invitation. -/
def Restores (process : GatewayProcess Digest) : Prop :=
  ∀ snapshot, process.trust_store = some snapshot →
    ∃ registry, PersistentTrustStore.load (some snapshot) = .ok registry ∧
      ∀ state, process = .running state → registry = { state.registry with pending := ∅ }

omit h

theorem Kept.restores_iff (h : Kept process) : Restores process ↔ Timely process := by
  cases process with
  | running state =>
    have hheld : Held state := h
    have hfile := hheld.trust_store
    cases hchosen : state.registry.controller_selection_initialized with
    | false =>
      rw [hchosen, if_neg (by simp)] at hfile
      have hempty := hheld.orderly.chosen hchosen
      refine iff_of_true ?_ ?_
      · intro snapshot hsnapshot
        rw [GatewayProcess.trust_store, hfile] at hsnapshot
        cases hsnapshot
      · intro id device hdevice
        rw [hempty] at hdevice
        simp at hdevice
    | true =>
      rw [hchosen, if_pos rfl] at hfile
      constructor
      · intro hrestores
        obtain ⟨registry, hload, _⟩ := hrestores _ hfile
        exact (hheld.orderly.loads.mp (load_some.mp hload)).1
      · intro htimely snapshot hsnapshot
        have hsame : snapshot = state.registry.snapshot :=
          Option.some.inj (hsnapshot.symm.trans hfile)
        refine ⟨{ state.registry with pending := ∅ }, ?_, ?_⟩
        · rw [hsame, load_some]
          exact hheld.orderly.loads.mpr ⟨htimely, rfl⟩
        · intro state' hstate'
          cases hstate'
          rfl
  | stopped trust_store =>
    constructor
    · intro hrestores
      rcases (h : Left trust_store) with hnone | ⟨registry, horderly, _, hsome⟩
      · exact .inl hnone
      obtain ⟨loaded, hload, _⟩ := hrestores registry.snapshot hsome
      exact .inr ⟨registry, horderly, (horderly.loads.mp (load_some.mp hload)).1, hsome⟩
    · rintro (rfl | ⟨registry, horderly, hinTime, rfl⟩) snapshot hsnapshot
      · cases hsnapshot
      · cases hsnapshot
        refine ⟨{ registry with pending := ∅ }, ?_, fun state hstate => by cases hstate⟩
        rw [load_some]
        exact horderly.loads.mpr ⟨hinTime, rfl⟩

variable {hash_secret : String → Digest} {identity : InstallationIdentity}
  {outside : Surroundings} {state state' : SharedGatewayState Digest}

theorem Passes.inTime_iff [DecidableEq Digest] (h : InTime state.registry)
    (hpasses : Passes hash_secret outside state state' operation) :
    InTime state'.registry ↔ ClockInOrder outside operation (.running state) := by
  cases hpasses with
  | @entered hello candidate _ henters hcommitted =>
    rw [hcommitted.registry]
    cases hello with
    | Authenticate device_id credential client_version =>
      obtain ⟨device, hdevice, rfl⟩ := henters
      rw [h.seen_candidate hdevice]
      simp [ClockInOrder, hdevice]
    | Pair invitation_id invitation_secret device_id display_name device_credential
        client_version =>
      obtain ⟨_, rfl⟩ := henters
      rw [h.paired_candidate]
      rfl
  | answered hanswers =>
    refine iff_of_true ?_ trivial
    cases hanswers with
    | quiet pending _ hstate =>
      have hregistry := congrArg SharedGatewayState.registry hstate
      dsimp only at hregistry
      rw [hregistry]
      exact h
    | revoked device_id _ hcommitted _ =>
      have hregistry : state'.registry = _ := hcommitted.registry
      rw [hregistry]
      exact h.revoked_candidate device_id outside.now
    | transferred device_id _ hcommitted _ =>
      have hregistry : state'.registry = _ := hcommitted.registry
      rw [hregistry]
      exact h.transferred_candidate device_id outside.now

theorem Kept.timely_restart [DecidableEq Digest] (h : Kept process) (htimely : Timely process) :
    Timely (GatewayOperation.perform hash_secret identity outside .restart process).1 := by
  have hfile : process.trust_store = none ∨ ∃ registry, Orderly registry ∧ InTime registry ∧
      process.trust_store = some registry.snapshot := by
    cases process with
    | stopped trust_store => exact htimely
    | running state =>
      rcases Held.left h with hnone | ⟨registry, horderly, _, hsome⟩
      · exact .inl hnone
      obtain ⟨loaded, hload, _⟩ := (Kept.restores_iff h).mpr htimely _ hsome
      exact .inr ⟨registry, horderly, (horderly.loads.mp (load_some.mp hload)).1, hsome⟩
  rw [perform_restart]
  rcases hload : SharedGatewayState.load process.trust_store outside.lease with e | state
  · exact hfile
  obtain ⟨hregistry, _⟩ := load_ok hload
  show InTime state.registry
  rcases hfile with hnone | ⟨registry, horderly, hinTime, hsome⟩
  · rw [hnone] at hregistry
    rw [← Except.ok.inj hregistry]
    simp [InTime, PairingRegistry.default]
  rw [hsome, load_some, horderly.loads] at hregistry
  rw [hregistry.2]
  exact hinTime

/-- From a gateway whose times are in order, an operation leads to one exactly when it fails or
its clock is in order. -/
theorem Kept.timely_iff [DecidableEq Digest] (h : Kept process) (htimely : Timely process)
    (operation : GatewayOperation) :
    Timely (operation.perform hash_secret identity outside process).1 ↔
      ((operation.perform hash_secret identity outside process).2 = true →
        ClockInOrder outside operation process) := by
  by_cases hoperation : operation = .restart
  · subst hoperation
    exact iff_of_true (h.timely_restart htimely) fun _ => trivial
  cases process with
  | stopped trust_store =>
    rw [perform_stopped hash_secret identity operation outside trust_store hoperation]
    exact iff_of_true htimely fun hwell => by cases hwell
  | running state =>
    rcases perform_running hash_secret identity operation outside state hoperation with
      hrun | ⟨state', hrun, hpasses⟩ <;> rw [hrun]
    · exact iff_of_true htimely fun hwell => by cases hwell
    show InTime state'.registry ↔ (true = true → _)
    rw [hpasses.inTime_iff htimely]
    exact ⟨fun hclock _ => hclock, fun hclock => hclock rfl⟩

/-! ## Every run -/

theorem gateway_run_take_succ [DecidableEq Digest]
    {operations : List (GatewayOperation × Surroundings)} {k : Nat} {outside : Surroundings}
    (h : operations[k]? = some (operation, outside)) :
    gateway_run hash_secret identity (operations.take (k + 1)) =
      (operation.perform hash_secret identity outside
        (gateway_run hash_secret identity (operations.take k))).1 := by
  rw [List.take_add_one, h]
  exact gateway_run_snoc hash_secret identity operation outside (operations.take k)

/-- Along a run, everything that was saved loads again exactly as long as the clock is in order for
each operation that ends well. -/
theorem saved_registries_load_while_the_clock_is_in_order [DecidableEq Digest]
    (hash_secret : String → Digest) (identity : InstallationIdentity)
    (operations : List (GatewayOperation × Surroundings)) :
    (∀ k, Restores (gateway_run hash_secret identity (operations.take k))) ↔
      ∀ k operation outside, operations[k]? = some (operation, outside) →
        (operation.perform hash_secret identity outside
          (gateway_run hash_secret identity (operations.take k))).2 = true →
        ClockInOrder outside operation
          (gateway_run hash_secret identity (operations.take k)) := by
  have hkept := fun k => kept_run hash_secret identity (operations.take k)
  simp only [fun k => (hkept k).restores_iff]
  constructor
  · intro htimely k operation outside hoperation
    have hnext := htimely (k + 1)
    rw [gateway_run_take_succ hoperation] at hnext
    exact ((hkept k).timely_iff (htimely k) operation).mp hnext
  · intro hclock k
    induction k with
    | zero => exact .inl rfl
    | succ k ih =>
      cases hoperation : operations[k]? with
      | none =>
        rw [List.getElem?_eq_none_iff] at hoperation
        rw [List.take_of_length_le (by omega)] at ih ⊢
        exact ih
      | some entry =>
        obtain ⟨operation, outside⟩ := entry
        rw [gateway_run_take_succ hoperation]
        exact ((hkept k).timely_iff ih operation).mpr (hclock k operation outside hoperation)

/-- A device pairs, the clock is set back, and the device authenticates: the file that this saves is
refused, and with it the pairing. -/
theorem a_clock_set_back_loses_the_pairing :
    (gateway_run (id : String → String) trust.installation
        (trust.start :: trust.pairs "phone" "a" 1200000)).trust_store.map
      (fun snapshot => (PersistentTrustStore.load (some snapshot)).isOk) = some true ∧
    (gateway_run (id : String → String) trust.installation
        (trust.start :: trust.pairs "phone" "a" 1200000 ++
          [(.hello (.Authenticate "phone" trust.credential none),
            trust.clock 1100000 "b")])).trust_store.map
      (fun snapshot => (PersistentTrustStore.load (some snapshot)).isOk) = some false := by
  decide +kernel

end lumi_remote_gateway
