-- The registries that the gateway can come to. All of them pass every check of
-- the loader but the one on the times of their devices, so a saved registry
-- loads again exactly when these times are in order.
import Lumi.Gateway.Pairing
import Lumi.Gateway.State

open rust lumi_remote_protocol

namespace lumi_remote_gateway

open PairingRegistry (contains_device controller_device_id exchanged_device from_snapshot
  paired_devices restore_devices validate_change validate_device)

variable {Digest : Type} {registry registry' : PairingRegistry Digest}

/-! ## The invariant -/

/-- The devices stand under their ids and at most one of them controls, and the bounds and texts
are those that the loader asks for. A registry whose controller was never chosen is empty. -/
structure Orderly (registry : PairingRegistry Digest) : Prop where
  keyed : ∀ (id : String) device, registry.devices[id]? = some device → device.device_id = id
  valid : ∀ (id : String) device, registry.devices[id]? = some device →
    PairingRegistry.validate_device device = .ok ()
  bounded : registry.devices.size ≤ MAX_PAIRED_DEVICES
  one_controls : ∀ (id id' : String) device device', registry.devices[id]? = some device →
    registry.devices[id']? = some device' → device.controller = true →
    device'.controller = true → id = id'
  history_bounded : registry.controller_changes.length ≤ 32
  history : ∀ change ∈ registry.controller_changes,
    PairingRegistry.validate_change change = .ok ()
  chosen : registry.controller_selection_initialized = false → registry.devices = ∅

/-- The times of a device as the loader asks for them. -/
def PairedDevice.in_time (device : PairedDevice Digest) : Prop :=
  device.paired_at_unix_millis ≠ 0 ∧ device.paired_at_unix_millis ≤ device.last_seen_unix_millis

def InTime (registry : PairingRegistry Digest) : Prop :=
  ∀ (id : String) device, registry.devices[id]? = some device → device.in_time

theorem orderly_default : Orderly (.default : PairingRegistry Digest) := by
  constructor <;> simp [PairingRegistry.default]

/-- Invitations do not matter. -/
theorem Orderly.invited (h : Orderly registry)
    (pending : BTreeMap String (PendingInvitation Digest)) : Orderly { registry with pending } :=
  ⟨h.keyed, h.valid, h.bounded, h.one_controls, h.history_bounded, h.history, h.chosen⟩

/-! ## Texts -/

theorem validate_change_ok {change : ControllerChange} :
    validate_change change = .ok () ↔ is_identifier change.reason 64 = true ∧
      (∀ id, change.device_id = some id → is_identifier id 128 = true) ∧
      ∀ id, change.previous_device_id = some id → is_identifier id 128 = true := by
  unfold validate_change
  simp only [except_bind_eq_ok, validate_public_identifier_ok, except_forM_eq_ok,
    List.reduceOption_mem_iff, List.mem_cons, List.not_mem_nil, or_false]
  constructor
  · rintro ⟨_, hreason, hids⟩
    exact ⟨hreason, fun id hid => hids id (.inl hid.symm), fun id hid => hids id (.inr hid.symm)⟩
  · rintro ⟨hreason, hdevice, hprevious⟩
    refine ⟨(), hreason, fun id hid => ?_⟩
    rcases hid with hid | hid
    · exact hdevice id hid.symm
    · exact hprevious id hid.symm

variable {device : PairedDevice Digest} {id : String} {l : List (PairedDevice Digest)}
  {devices : BTreeMap String (PairedDevice Digest)} {snapshot : PairingRegistrySnapshot Digest}

theorem validate_device_ok :
    validate_device device = .ok () ↔
      is_identifier device.device_id 128 = true ∧ is_identifier device.display_name 128 = true ∧
      ∀ version, device.client_version = some version → is_identifier version 64 = true := by
  unfold validate_device
  simp only [except_bind_eq_ok, validate_public_identifier_ok]
  cases device.client_version with
  | none => simp
  | some version => simp [validate_public_identifier_ok]

/-! ## The controller -/

theorem mem_paired_devices :
    device ∈ registry.paired_devices ↔ ∃ id : String, registry.devices[id]? = some device := by
  unfold paired_devices
  simp [Std.ExtTreeMap.mem_toList_iff_getElem?_eq_some]

variable (h : Orderly registry)
include h

theorem Orderly.mem_paired_devices :
    device ∈ registry.paired_devices ↔ registry.devices[device.device_id]? = some device := by
  rw [lumi_remote_gateway.mem_paired_devices]
  constructor
  · rintro ⟨id, hid⟩
    rwa [h.keyed id device hid]
  · exact fun hid => ⟨_, hid⟩

theorem Orderly.controller_eq_some :
    registry.controller_device_id = some id ↔
      ∃ device, registry.devices[id]? = some device ∧ device.controller = true := by
  unfold controller_device_id
  rw [Option.map_eq_some_iff]
  constructor
  · rintro ⟨device, hfind, rfl⟩
    have hmem := List.mem_of_find?_eq_some hfind
    exact ⟨device, h.mem_paired_devices.mp hmem, List.find?_some hfind⟩
  · rintro ⟨device, hdevice, hcontroller⟩
    have hsome : (registry.paired_devices.find? (·.controller)).isSome = true :=
      List.find?_isSome.mpr ⟨device, lumi_remote_gateway.mem_paired_devices.mpr ⟨id, hdevice⟩,
        hcontroller⟩
    obtain ⟨found, hfind⟩ := Option.isSome_iff_exists.mp hsome
    have hmem := h.mem_paired_devices.mp (List.mem_of_find?_eq_some hfind)
    exact ⟨found, hfind, h.one_controls _ _ _ _ hmem hdevice (List.find?_some hfind) hcontroller⟩

theorem Orderly.controller_valid
    (hid : registry.controller_device_id = some id) : is_identifier id 128 = true := by
  obtain ⟨device, hdevice, _⟩ := h.controller_eq_some.mp hid
  have hvalid := (validate_device_ok.mp (h.valid id device hdevice)).1
  rwa [h.keyed id device hdevice] at hvalid

/-- Who controls is a matter of the devices' flags alone. -/
theorem Orderly.same_controller (h' : Orderly registry')
    (hflags : ∀ id : String, registry'.devices[id]?.any (·.controller) =
      registry.devices[id]?.any (·.controller)) :
    registry'.controller_device_id = registry.controller_device_id := by
  have hflag {r : PairingRegistry Digest} (hr : Orderly r) (id : String) :
      r.controller_device_id = some id ↔ r.devices[id]?.any (·.controller) = true := by
    rw [hr.controller_eq_some, Option.any_eq_true]
  apply Option.ext
  intro id
  rw [hflag h', hflag h, hflags]

omit h

/-! ## One step of the registry -/

variable (h : Orderly registry)
include h

/-- A device is put in its place. -/
theorem Orderly.put (hdevices : registry'.devices = registry.devices.insert id device)
    (hchanges : registry'.controller_changes = registry.controller_changes)
    (hchosen : registry'.controller_selection_initialized = true) (hid : device.device_id = id)
    (hvalid : validate_device device = .ok ())
    (hroom : registry.contains_device id = true ∨ registry.devices.size < MAX_PAIRED_DEVICES)
    (hone : device.controller = true → ∀ (id' : String) device',
      registry.devices[id']? = some device' → device'.controller = true → id' = id) :
    Orderly registry' := by
  have hget : ∀ (id' : String) device', registry'.devices[id']? = some device' →
      (id = id' ∧ device = device') ∨ (id ≠ id' ∧ registry.devices[id']? = some device') := by
    intro id' device' hdevice'
    rw [hdevices, map_get_insert] at hdevice'
    split at hdevice'
    · exact .inl ⟨by assumption, Option.some.inj hdevice'⟩
    · exact .inr ⟨by assumption, hdevice'⟩
  refine ⟨?_, ?_, ?_, ?_, hchanges ▸ h.history_bounded, hchanges ▸ h.history, ?_⟩
  · intro id' device' hdevice'
    rcases hget id' device' hdevice' with ⟨rfl, rfl⟩ | ⟨_, hold⟩
    · exact hid
    · exact h.keyed id' device' hold
  · intro id' device' hdevice'
    rcases hget id' device' hdevice' with ⟨rfl, rfl⟩ | ⟨_, hold⟩
    · exact hvalid
    · exact h.valid id' device' hold
  · rw [hdevices, Std.ExtTreeMap.size_insert]
    have hbounded := h.bounded
    rcases hroom with hthere | hroom
    · rw [if_pos (by simpa [contains_device] using hthere)]
      exact hbounded
    · split <;> omega
  · intro a b device_a device_b ha hb hca hcb
    rcases hget a device_a ha with ⟨rfl, rfl⟩ | ⟨hna, holda⟩ <;>
      rcases hget b device_b hb with ⟨rfl, rfl⟩ | ⟨hnb, holdb⟩
    · rfl
    · exact (hone hca b device_b holdb hcb).symm
    · exact hone hcb a device_a holda hca
    · exact h.one_controls a b device_a device_b holda holdb hca hcb
  · intro hnot
    rw [hchosen] at hnot
    cases hnot

variable (hdevice : registry.devices[id]? = some device)
include hdevice

/-- A registry that holds a device has had its controller chosen. -/
theorem Orderly.chosen_of_device : registry.controller_selection_initialized = true := by
  cases hchosen : registry.controller_selection_initialized with
  | true => rfl
  | false =>
    rw [h.chosen hchosen] at hdevice
    simp at hdevice

/-- A device is replaced by one that controls if it does. -/
theorem Orderly.replace {device' : PairedDevice Digest} (hid : device'.device_id = device.device_id)
    (hvalid : validate_device device' = .ok ())
    (hcontroller : device'.controller = device.controller) :
    Orderly { registry with devices := registry.devices.insert id device' } ∧
      controller_device_id
        { registry with devices := registry.devices.insert id device' } =
        registry.controller_device_id := by
  have horderly : Orderly { registry with devices := registry.devices.insert id device' } := by
    refine h.put rfl rfl (h.chosen_of_device hdevice) (hid.trans (h.keyed id device hdevice))
      hvalid (.inl ?_) ?_
    · simp [contains_device, hdevice]
    · intro hflag id' other hother hflag'
      exact h.one_controls id' id other device hother hdevice hflag' (hcontroller ▸ hflag)
  refine ⟨horderly, h.same_controller horderly ?_⟩
  intro id'
  dsimp only
  rw [map_get_insert]
  split
  · subst id'
    simp [hdevice, hcontroller]
  · rfl

theorem Orderly.seen (now : UInt64) :
    Orderly { registry with
        devices := registry.devices.insert id { device with last_seen_unix_millis := now } } ∧
      controller_device_id { registry with
        devices := registry.devices.insert id { device with last_seen_unix_millis := now } } =
        registry.controller_device_id :=
  h.replace hdevice rfl (validate_device_ok.mpr (validate_device_ok.mp (h.valid id device hdevice)))
    rfl

omit hdevice

theorem Orderly.versioned (id : String) {version : Option String}
    (hversion : ∀ text, version = some text → is_identifier text 64 = true) :
    Orderly (registry.set_client_version id version) ∧
      (registry.set_client_version id version).controller_device_id =
        registry.controller_device_id := by
  unfold PairingRegistry.set_client_version
  split
  · rename_i device text hdevice
    obtain ⟨hid, hname, _⟩ := validate_device_ok.mp (h.valid id device hdevice)
    refine h.replace hdevice rfl (validate_device_ok.mpr ⟨hid, hname, ?_⟩) rfl
    intro other hother
    cases hother
    exact hversion text rfl
  · exact ⟨h, rfl⟩

theorem Orderly.recorded {previous : Option String} {reason : String}
    (hreason : is_identifier reason 64 = true)
    (hprevious : ∀ id, previous = some id → is_identifier id 128 = true) (now : UInt64) :
    Orderly (registry.record_controller_change previous reason now) := by
  refine ⟨h.keyed, h.valid, h.bounded, h.one_controls, ?_, ?_, h.chosen⟩
  · have hbounded := h.history_bounded
    simp only [PairingRegistry.record_controller_change, List.length_append, List.length_singleton]
    split
    · rw [List.length_eraseIdx_of_lt (by omega)]
      omega
    · omega
  · intro change hchange
    rcases List.mem_append.mp hchange with hold | hnew
    · refine h.history change ?_
      split at hold
      · exact List.mem_of_mem_eraseIdx hold
      · exact hold
    · rw [List.mem_singleton.mp hnew]
      exact validate_change_ok.mpr ⟨hreason, fun id hid => h.controller_valid hid, hprevious⟩

theorem Orderly.revoked (id : String) :
    Orderly { registry with devices := registry.devices.erase id } := by
  have hget : ∀ (id' : String) device', (registry.devices.erase id)[id']? = some device' →
      registry.devices[id']? = some device' := by
    intro id' device' hdevice'
    rw [map_get_erase] at hdevice'
    split at hdevice'
    · cases hdevice'
    · exact hdevice'
  refine ⟨?_, ?_, Std.ExtTreeMap.size_erase_le.trans h.bounded, ?_, h.history_bounded, h.history,
    ?_⟩
  · exact fun id' device' hdevice' => h.keyed id' device' (hget id' device' hdevice')
  · exact fun id' device' hdevice' => h.valid id' device' (hget id' device' hdevice')
  · exact fun a b device_a device_b ha hb =>
      h.one_controls a b device_a device_b (hget a device_a ha) (hget b device_b hb)
  · intro hchosen
    dsimp only
    rw [h.chosen hchosen]
    exact Std.ExtTreeMap.erase_empty

theorem Orderly.controlled (id : String) :
    Orderly { registry with
      devices := registry.devices.map fun _ device =>
        { device with controller := device.device_id == id } } := by
  have hget : ∀ (id' : String) device', (registry.devices.map fun _ device =>
        { device with controller := device.device_id == id })[id']? = some device' →
      ∃ device, registry.devices[id']? = some device ∧
        device' = { device with controller := device.device_id == id } := by
    intro id' device' hdevice'
    rw [Std.ExtTreeMap.getElem?_map, Option.map_eq_some_iff] at hdevice'
    obtain ⟨device, hdevice, rfl⟩ := hdevice'
    exact ⟨device, hdevice, rfl⟩
  have hflag : ∀ (id' : String) device', (registry.devices.map fun _ device =>
        { device with controller := device.device_id == id })[id']? = some device' →
      device'.controller = true → id' = id := by
    intro id' device' hdevice' hcontroller
    obtain ⟨device, hdevice, rfl⟩ := hget id' device' hdevice'
    rw [← h.keyed id' device hdevice]
    exact eq_of_beq hcontroller
  refine ⟨?_, ?_, ?_, ?_, h.history_bounded, h.history, ?_⟩
  · intro id' device' hdevice'
    obtain ⟨device, hdevice, rfl⟩ := hget id' device' hdevice'
    exact h.keyed id' device hdevice
  · intro id' device' hdevice'
    obtain ⟨device, hdevice, rfl⟩ := hget id' device' hdevice'
    exact validate_device_ok.mpr (validate_device_ok.mp (h.valid id' device hdevice))
  · dsimp only
    rw [Std.ExtTreeMap.size_map]
    exact h.bounded
  · intro a b device_a device_b ha hb hca hcb
    rw [hflag a device_a ha hca, hflag b device_b hb hcb]
  · intro hchosen
    dsimp only
    rw [h.chosen hchosen]
    rfl

/-- A pairing keeps who controls; in a registry without a choice, the device is chosen. -/
theorem Orderly.exchanged [DecidableEq Digest] {hash_secret : String → Digest}
    {invitation_id invitation_secret device_id display_name device_credential : String}
    {now : UInt64}
    (hcheck : registry.check_exchange hash_secret invitation_id invitation_secret device_id
      display_name device_credential now = .ok ()) :
    Orderly (registry.exchanged hash_secret invitation_id device_id display_name
        device_credential now) ∧
      (registry.exchanged hash_secret invitation_id device_id display_name device_credential
        now).controller_device_id =
        if registry.controller_selection_initialized then registry.controller_device_id
        else some device_id := by
  obtain ⟨_, _, _, _, _, hroom, hid, hname⟩ := PairingRegistry.check_exchange_ok hash_secret hcheck
  have hput : Orderly { registry with
      pending := registry.pending.erase invitation_id
      controller_selection_initialized := true
      devices := registry.devices.insert device_id
        (registry.exchanged_device hash_secret device_id display_name device_credential now) } := by
    refine h.put rfl rfl rfl rfl (validate_device_ok.mpr ⟨hid, hname, ?_⟩) hroom ?_
    · intro version hversion
      obtain ⟨device, hdevice, hversion⟩ := Option.bind_eq_some_iff.mp hversion
      exact (validate_device_ok.mp (h.valid device_id device hdevice)).2.2 version hversion
    · intro hflag id' device' hdevice' hflag'
      rw [exchanged_device, h.chosen_of_device hdevice', Bool.not_true,
        Bool.false_or, Option.any_eq_true] at hflag
      obtain ⟨device, hdevice, hflag⟩ := hflag
      exact h.one_controls id' device_id device' device hdevice' hdevice hflag' hflag
  unfold PairingRegistry.exchanged
  cases hchosen : registry.controller_selection_initialized with
  | true =>
    refine ⟨hput, h.same_controller hput ?_⟩
    intro id
    show ((registry.devices.insert device_id _)[id]?).any _ = _
    rw [map_get_insert]
    split
    · subst id
      simp [exchanged_device, hchosen]
    · rfl
  | false =>
    refine ⟨hput.recorded (by decide +kernel) (by simp) now, hput.controller_eq_some.mpr ?_⟩
    refine ⟨_, Std.ExtTreeMap.getElem?_insert_self, ?_⟩
    simp [exchanged_device, hchosen]

omit h

/-! ## Saved and loaded -/

theorem restore_devices_eq_ok {n : Nat} {restored : BTreeMap String (PairedDevice Digest) × Nat} :
    restore_devices l devices n = .ok restored ↔
      (∀ device ∈ l, validate_device device = .ok () ∧ device.in_time) ∧
      (l.map (·.device_id)).Nodup ∧ (∀ device ∈ l, devices[device.device_id]? = none) ∧
      restored = (l.foldl (fun devices device => devices.insert device.device_id device) devices,
        n + l.countP (·.controller)) := by
  induction l generalizing devices n with
  | nil =>
    rw [restore_devices, Except.ok.injEq]
    simp [eq_comm]
  | cons device l ih =>
    have hcount : (if device.controller then n + 1 else n) + l.countP (·.controller) =
        n + (device :: l).countP (·.controller) := by
      rw [List.countP_cons]
      split <;> omega
    rw [restore_devices_cons, ih, hcount]
    simp only [List.forall_mem_cons, List.map_cons, List.nodup_cons, List.foldl_cons, not_or,
      map_get_insert, PairedDevice.in_time, UInt64.not_lt, List.mem_map, not_exists, not_and]
    constructor
    · rintro ⟨hvalid, ⟨hpaired, hseen, hnew⟩, hall, hdistinct, hfree, hrestored⟩
      have hother : ∀ other ∈ l, ¬ other.device_id = device.device_id := by
        intro other hmem heq
        have hfree := hfree other hmem
        rw [if_pos heq.symm] at hfree
        cases hfree
      refine ⟨⟨⟨hvalid, hpaired, hseen⟩, hall⟩, ⟨hother, hdistinct⟩, ⟨by simpa using hnew, ?_⟩,
        hrestored⟩
      intro other hmem
      have hfree := hfree other hmem
      rwa [if_neg (Ne.symm (hother other hmem))] at hfree
    · rintro ⟨⟨⟨hvalid, hpaired, hseen⟩, hall⟩, ⟨hother, hdistinct⟩, ⟨hnew, hfree⟩, hrestored⟩
      refine ⟨hvalid, ⟨hpaired, hseen, by simpa using hnew⟩, hall, hdistinct, ?_, hrestored⟩
      intro other hmem
      rw [if_neg (Ne.symm (hother other hmem))]
      exact hfree other hmem

theorem foldl_insert_get (hl : (l.map (·.device_id)).Nodup) :
    (l.foldl (fun devices device => devices.insert device.device_id device) devices)[id]? =
        some device ↔
      (device ∈ l ∧ device.device_id = id) ∨
        ((∀ other ∈ l, other.device_id ≠ id) ∧ devices[id]? = some device) := by
  induction l generalizing devices with
  | nil => simp
  | cons first l ih =>
    rw [List.map_cons, List.nodup_cons] at hl
    rw [List.foldl_cons, ih hl.2, map_get_insert, List.mem_cons, List.forall_mem_cons]
    by_cases hfirst : first.device_id = id
    · subst hfirst
      have hnot : ∀ other ∈ l, other.device_id ≠ first.device_id :=
        fun other hmem heq => hl.1 (heq ▸ List.mem_map_of_mem hmem)
      constructor
      · rintro (⟨hmem, hid⟩ | ⟨_, hsome⟩)
        · exact absurd hid (hnot device hmem)
        · rw [if_pos rfl] at hsome
          cases hsome
          exact .inl ⟨.inl rfl, rfl⟩
      · rintro (⟨rfl | hmem, hid⟩ | ⟨⟨hne, _⟩, _⟩)
        · exact .inr ⟨hnot, if_pos rfl⟩
        · exact absurd hid (hnot device hmem)
        · exact absurd rfl hne
    · rw [if_neg hfirst]
      constructor
      · rintro (⟨hmem, hid⟩ | ⟨hnone, hsome⟩)
        · exact .inl ⟨.inr hmem, hid⟩
        · exact .inr ⟨⟨hfirst, hnone⟩, hsome⟩
      · rintro (⟨rfl | hmem, hid⟩ | ⟨⟨_, hnone⟩, hsome⟩)
        · exact absurd hid hfirst
        · exact .inl ⟨hmem, hid⟩
        · exact .inr ⟨hnone, hsome⟩

variable (h : Orderly registry)
include h

theorem Orderly.ids_nodup : (registry.paired_devices.map (·.device_id)).Nodup := by
  unfold paired_devices
  rw [List.map_map, List.Nodup, List.pairwise_map]
  refine Std.ExtTreeMap.distinct_keys_toList.imp_of_mem ?_
  rintro ⟨id, device⟩ ⟨id', device'⟩ hmem hmem' hdistinct heq
  rw [Std.ExtTreeMap.mem_toList_iff_getElem?_eq_some] at hmem hmem'
  apply hdistinct
  have hid : id = id' := by
    rw [← h.keyed id device hmem, ← h.keyed id' device' hmem']
    exact heq
  rw [hid]
  exact Std.ReflCmp.compare_self

theorem Orderly.restored_devices :
    registry.paired_devices.foldl (fun devices device => devices.insert device.device_id device)
      (∅ : BTreeMap String (PairedDevice Digest)) = registry.devices := by
  apply Std.ExtTreeMap.ext_getElem?
  intro id
  apply Option.ext
  intro device
  rw [foldl_insert_get h.ids_nodup, h.mem_paired_devices]
  constructor
  · rintro (⟨hmem, rfl⟩ | ⟨_, hempty⟩)
    · exact hmem
    · simp at hempty
  · intro hdevice
    have hid := h.keyed id device hdevice
    exact .inl ⟨by rwa [hid], hid⟩

theorem Orderly.controllers : registry.paired_devices.countP (·.controller) ≤ 1 := by
  rw [List.countP_eq_length_filter]
  have hnodup : (registry.paired_devices.filter (·.controller)).Nodup := h.ids_nodup.of_map.filter _
  match hfilter : registry.paired_devices.filter (·.controller) with
  | [] => simp [hfilter]
  | [_] => simp [hfilter]
  | first :: second :: rest =>
    have hmem : ∀ device ∈ [first, second],
        registry.devices[device.device_id]? = some device ∧ device.controller = true := by
      intro device hdevice
      have hdevice : device ∈ registry.paired_devices.filter (·.controller) := by
        rw [hfilter]
        exact List.mem_of_mem_take (i := 2) hdevice
      rw [List.mem_filter, h.mem_paired_devices] at hdevice
      exact hdevice
    have hfirst := hmem first (by simp)
    have hsecond := hmem second (by simp)
    have hid := h.one_controls _ _ _ _ hfirst.1 hsecond.1 hfirst.2 hsecond.2
    have hsame : first = second := Option.some.inj (hfirst.1.symm.trans (hid ▸ hsecond.1))
    rw [hfilter, hsame] at hnodup
    simp at hnodup

/-- A saved registry loads when the times of its devices are in order, and only then; what is lost
is the invitation. -/
theorem Orderly.loads :
    from_snapshot registry.snapshot = .ok registry' ↔
      InTime registry ∧ registry' = { registry with pending := ∅ } := by
  have hlength : registry.snapshot.devices.length ≤ MAX_PAIRED_DEVICES := by
    show (registry.devices.toList.map Prod.snd).length ≤ _
    rw [List.length_map, Std.ExtTreeMap.length_toList]
    exact h.bounded
  have hflag : (registry.controller_selection_initialized ||
      !registry.paired_devices.isEmpty) = registry.controller_selection_initialized := by
    cases hchosen : registry.controller_selection_initialized with
    | true => rfl
    | false => simp [paired_devices, h.chosen hchosen]
  have hchanges : registry.snapshot.controller_changes.length ≤ 32 := h.history_bounded
  have hhistory : registry.snapshot.controller_changes.forM validate_change =
      .ok () := except_forM_eq_ok.mpr h.history
  have hinTime : (∀ device ∈ registry.paired_devices, device.in_time) ↔ InTime registry := by
    simp only [lumi_remote_gateway.mem_paired_devices]
    exact ⟨fun hall id device hdevice => hall device ⟨id, hdevice⟩,
      fun hall device ⟨id, hdevice⟩ => hall id device hdevice⟩
  unfold from_snapshot
  rw [if_neg (Nat.not_lt.mpr hlength), if_neg (Nat.not_lt.mpr hchanges), hhistory, ← hinTime]
  simp only [except_bind_eq_ok, restore_devices_eq_ok]
  constructor
  · rintro ⟨_, _, ⟨devices, n⟩, ⟨hall, _, _, hrestored⟩, hloaded⟩
    cases hrestored
    split at hloaded
    · cases hloaded
    cases hloaded
    refine ⟨fun device hmem => (hall device hmem).2, ?_⟩
    show PairingRegistry.mk ∅ (registry.paired_devices.foldl _ ∅) (_ || _) _ = _
    rw [h.restored_devices]
    exact congrArg (fun flag => PairingRegistry.mk ∅ registry.devices flag _) hflag
  · rintro ⟨hall, rfl⟩
    refine ⟨(), trivial, (registry.devices, registry.paired_devices.countP (·.controller)), ⟨?_,
      h.ids_nodup, by simp, ?_⟩, ?_⟩
    · intro device hmem
      exact ⟨h.valid _ device (h.mem_paired_devices.mp hmem), hall device hmem⟩
    · rw [show registry.snapshot.devices = registry.paired_devices from rfl, h.restored_devices,
        Nat.zero_add]
    · rw [if_neg (Nat.not_lt.mpr h.controllers)]
      exact congrArg (fun flag => Except.ok (PairingRegistry.mk ∅ registry.devices flag _)) hflag

omit h

/-- Every registry that loads is in order, whoever wrote the file. -/
theorem orderly_of_from_snapshot (h : from_snapshot snapshot = .ok registry) :
    Orderly registry := by
  have hbounds := (from_snapshot_bounds h).2
  unfold from_snapshot at h
  split_ifs at h with hmany hchanges
  simp only [except_bind_eq_ok, restore_devices_eq_ok] at h
  obtain ⟨_, hhistory, ⟨devices, n⟩, ⟨hall, hdistinct, _, hrestored⟩, h⟩ := h
  cases hrestored
  split_ifs at h with hcount
  cases h
  have hget : ∀ (id : String) device, (snapshot.devices.foldl
      (fun devices device => devices.insert device.device_id device)
      (∅ : BTreeMap String (PairedDevice Digest)))[id]? = some device ↔
      device ∈ snapshot.devices ∧ device.device_id = id := by
    intro id device
    rw [foldl_insert_get hdistinct]
    simp
  refine ⟨?_, ?_, hbounds, ?_, Nat.le_of_not_lt hchanges, except_forM_eq_ok.mp hhistory, ?_⟩
  · exact fun id device hdevice => ((hget id device).mp hdevice).2
  · exact fun id device hdevice => (hall device ((hget id device).mp hdevice).1).1
  · intro id id' device device' hdevice hdevice' hcontrols hcontrols'
    obtain ⟨hmem, rfl⟩ := (hget id device).mp hdevice
    obtain ⟨hmem', rfl⟩ := (hget id' device').mp hdevice'
    dsimp only at hcount
    rw [Nat.zero_add, List.countP_eq_length_filter] at hcount
    have hfilter : ∀ d, d ∈ snapshot.devices → d.controller = true →
        d ∈ snapshot.devices.filter (·.controller) :=
      fun d hd hcontroller => List.mem_filter.mpr ⟨hd, hcontroller⟩
    have hdevice := hfilter device hmem hcontrols
    have hdevice' := hfilter device' hmem' hcontrols'
    match hlist : snapshot.devices.filter (·.controller) with
    | [] => simp [hlist] at hdevice
    | [first] =>
      rw [hlist, List.mem_singleton] at hdevice hdevice'
      rw [hdevice, hdevice']
    | first :: second :: rest => simp [hlist] at hcount
  · intro hchosen
    rw [Bool.or_eq_false_iff, Bool.not_eq_false', List.isEmpty_iff] at hchosen
    simp [hchosen.2]

theorem load_some :
    PersistentTrustStore.load (some snapshot) = .ok registry ↔
      from_snapshot snapshot = .ok registry := by
  unfold PersistentTrustStore.load
  cases h : from_snapshot snapshot <;> simp [h, Except.mapError]

end lumi_remote_gateway
