import AcceleratorHealth.Acceptance
import AcceleratorHealth.Lib.Machine

/-! Registered uuids against tracked devices. Ids come from the uuids themselves and from a
counter, in one number space: a registration is harmless exactly when the id it draws is
not yet taken. -/
namespace AcceleratorHealth
open Locked Persistence

namespace HealthStore

/-- Registered uuids and tracked devices in one-to-one correspondence. -/
structure OneToOne (s : HealthStore) : Prop where
  filed : s.Filed
  tracked : ∀ uuid id, s.uuidIndex.find? uuid = some id →
    ∃ d, s.devices.find? id = some d ∧ d.uuid = uuid

theorem oneToOne_init (policy : HealthPolicy) (epoch : UInt64) : (init policy epoch).OneToOne :=
  ⟨filed_init policy epoch, fun _ _ h => by simp [init] at h⟩

namespace OneToOne
variable {s : HealthStore} {uuid uuid' : DeviceUuid} {id : AcceleratorId}

theorem iff (hs : s.OneToOne) :
    s.uuidIndex.find? uuid = some id ↔ ∃ d, s.devices.find? id = some d ∧ d.uuid = uuid := by
  constructor
  · exact hs.tracked uuid id
  · rintro ⟨d, hd, rfl⟩
    exact (hs.filed id d hd).2

/-- Two uuids never share an id. -/
theorem injective (hs : s.OneToOne) (h : s.uuidIndex.find? uuid = some id)
    (h' : s.uuidIndex.find? uuid' = some id) : uuid = uuid' := by
  obtain ⟨d, hd, rfl⟩ := hs.tracked uuid id h
  obtain ⟨d', hd', rfl⟩ := hs.tracked uuid' id h'
  rw [hd] at hd'
  cases hd'
  rfl

end OneToOne

/-- The id that an unknown uuid would be given is not taken: its own value, or the
counter's for the null uuid. -/
def Free (s : HealthStore) (uuid : DeviceUuid) : Prop :=
  s.uuidIndex.find? uuid = none →
    (uuid.get ≠ 0 → s.devices.find? ⟨uuid.get⟩ = none) ∧
      (uuid.get = 0 → s.devices.find? ⟨s.nextDeviceRaw⟩ = none)

instance (s : HealthStore) (uuid : DeviceUuid) : Decidable (s.Free uuid) :=
  inferInstanceAs (Decidable (_ → (_ → _) ∧ (_ → _)))

/-- The registration returns an id tracked with that uuid, and every device tracked before
keeps its whole record. -/
structure Undisturbed (now : Timestamp) (uuid : DeviceUuid) (node : NodeId) (s : HealthStore) :
    Prop where
  returned : ∃ d, (s.registerDevice now uuid node).2.devices.find?
    (s.registerDevice now uuid node).1 = some d ∧ d.uuid = uuid
  kept : ∀ k d, s.devices.find? k = some d →
    (s.registerDevice now uuid node).2.devices.find? k = some d

section Register
variable {s : HealthStore} {uuid : DeviceUuid} {node : NodeId} {now : Timestamp}

theorem free_iff : s.Free uuid ↔
    (s.uuidIndex.find? uuid = none → s.devices.find? (s.deviceIdFor uuid) = none) := by
  unfold Free deviceIdFor
  by_cases hnull : uuid.get = 0
  · simp [hnull]
  · simp [hnull]

theorem registerDevice_known {id : AcceleratorId} (h : s.uuidIndex.find? uuid = some id) :
    s.registerDevice now uuid node = (id, s) := by
  simp only [registerDevice, h]

theorem registerDevice_unknown (h : s.uuidIndex.find? uuid = none) :
    s.registerDevice now uuid node =
      (s.deviceIdFor uuid, trackDevice (newDevice now (s.deviceIdFor uuid) uuid node) s) := by
  simp only [registerDevice, h]

theorem find?_registered (h : s.uuidIndex.find? uuid = none) (k : AcceleratorId) :
    (s.registerDevice now uuid node).2.devices.find? k =
      if k = s.deviceIdFor uuid then some (newDevice now (s.deviceIdFor uuid) uuid node)
      else s.devices.find? k := by
  rw [registerDevice_unknown h]
  exact find?_trackDevice _ _ _

theorem find?_uuid_registered (h : s.uuidIndex.find? uuid = none) (uuid' : DeviceUuid) :
    (s.registerDevice now uuid node).2.uuidIndex.find? uuid' =
      if uuid' = uuid then some (s.deviceIdFor uuid) else s.uuidIndex.find? uuid' := by
  rw [registerDevice_unknown h]
  exact OrdMap.find?_insert _ _ _ _

/-- A registration leaves the ids that other uuids would be given as they were. -/
theorem deviceIdFor_registered (h : s.uuidIndex.find? uuid = none) {uuid' : DeviceUuid}
    (hne : uuid' ≠ uuid) :
    (s.registerDevice now uuid node).2.deviceIdFor uuid' = s.deviceIdFor uuid' := by
  have hnext : uuid.get ≠ 0 →
      (s.registerDevice now uuid node).2.nextDeviceRaw = s.nextDeviceRaw := by
    intro hget
    rw [registerDevice_unknown h]
    exact if_pos hget
  unfold deviceIdFor
  split_ifs with hnull
  · rfl
  · rw [hnext]
    intro h0
    apply hne
    apply StrongId.ext
    change uuid'.get = uuid.get
    rw [h0, not_not.mp hnull]

/-- When a registration disturbs nothing: exactly when its id is free. -/
theorem registerDevice_undisturbed_iff (hs : s.OneToOne) :
    s.Undisturbed now uuid node ↔ s.Free uuid := by
  rw [free_iff]
  cases huuid : s.uuidIndex.find? uuid with
  | some id =>
    refine iff_of_true ⟨?_, ?_⟩ (by simp)
    · rw [registerDevice_known huuid]
      exact hs.tracked uuid id huuid
    · rw [registerDevice_known huuid]
      exact fun _ _ h => h
  | none =>
    simp only [forall_const]
    constructor
    · rintro ⟨-, hkept⟩
      cases hd : s.devices.find? (s.deviceIdFor uuid) with
      | none => rfl
      | some d =>
        have hnew := hkept _ d hd
        rw [find?_registered huuid, if_pos rfl] at hnew
        have hfiled := (hs.filed _ d hd).2
        rw [← Option.some.inj hnew] at hfiled
        exact absurd (huuid.symm.trans hfiled) (by simp)
    · intro hfree
      constructor
      · rw [find?_registered huuid, registerDevice_unknown huuid, if_pos rfl]
        exact ⟨_, rfl, rfl⟩
      · intro k d hk
        rw [find?_registered huuid, if_neg]
        · exact hk
        · rintro rfl
          rw [hfree] at hk
          cases hk

theorem oneToOne_registerDevice (hs : s.OneToOne) (hfree : s.Free uuid) :
    (s.registerDevice now uuid node).2.OneToOne := by
  refine ⟨registerDevice_filed hs.filed, fun uuid' id h => ?_⟩
  have hundisturbed : s.Undisturbed now uuid node := (registerDevice_undisturbed_iff hs).mpr hfree
  cases huuid : s.uuidIndex.find? uuid with
  | some id' =>
    rw [registerDevice_known huuid] at h ⊢
    exact hs.tracked uuid' id h
  | none =>
    rw [find?_uuid_registered huuid] at h
    split_ifs at h with heq
    · cases h
      rw [find?_registered huuid, if_pos rfl, heq]
      exact ⟨_, rfl, rfl⟩
    · obtain ⟨d, hd, hdu⟩ := hs.tracked uuid' id h
      exact ⟨d, hundisturbed.kept _ d hd, hdu⟩

end Register

/-! ### Runs -/

/-- The steps that keep uuids and ids apart: registrations whose id is free, and images
whose records have different ids. -/
def KeepsIdentities (s : HealthStore) (c : Call) : Prop :=
  match c.op with
  | .registerDevice uuid _ => s.Free uuid
  | .decode data | .loadFromFile (some data) => ((records data).map Device.id).Nodup
  | _ => True

section Loads
variable {s : HealthStore} {data : Bytes} {clk : Readings}

theorem oneToOne_decode (hs : s.OneToOne) (hids : ((records data).map Device.id).Nodup) :
    (decodeStateInternal data s).state.OneToOne := by
  refine ⟨decode_filed hs.filed, fun uuid id h => ?_⟩
  rcases decode_devices data s with heq | ⟨hdevices, huuids⟩
  · rw [heq] at h ⊢
    exact hs.tracked uuid id h
  · rw [huuids, find?_byUuid_iff (records_uuids data)] at h
    obtain ⟨d, hd, huuid, hid⟩ := h
    refine ⟨d, ?_, huuid⟩
    rw [hdevices, find?_byId_iff hids]
    exact ⟨hd, hid⟩

/-- A call that only works on devices keeps the correspondence. -/
theorem OneToOne.of_evolves {s' : HealthStore} (hs : s.OneToOne) (hfiled : s'.Filed)
    (huuid : s'.uuidIndex = s.uuidIndex) (hkeys : s'.devices.keys = s.devices.keys)
    (hdev : ∀ k d', s'.devices.find? k = some d' →
      ∃ d, s.devices.find? k = some d ∧ d'.uuid = d.uuid) : s'.OneToOne := by
  refine ⟨hfiled, fun uuid id h => ?_⟩
  rw [huuid] at h
  obtain ⟨d, hd, rfl⟩ := hs.tracked uuid id h
  have hmem : id ∈ s'.devices.keys := hkeys ▸ OrdMap.mem_keys_iff.mpr ⟨d, hd⟩
  obtain ⟨d', hd'⟩ := OrdMap.mem_keys_iff.mp hmem
  obtain ⟨d₀, hd₀, heq⟩ := hdev id d' hd'
  rw [hd] at hd₀
  cases hd₀
  exact ⟨d', hd', heq⟩

theorem oneToOne_load {contents : Option Bytes} (hs : s.OneToOne)
    (hids : ∀ data, contents = some data → ((records data).map Device.id).Nodup) :
    (loadInternal clk contents s).state.OneToOne := by
  cases contents with
  | none => exact hs
  | some data =>
    have hdecoded := oneToOne_decode hs (hids data rfl)
    refine loadInternal_leaves (P := OneToOne) (fun _ => hdecoded) fun _ => ?_
    have hdistrust : (distrust (decodeStateInternal data s).state).OneToOne := by
      refine hdecoded.of_evolves (distrust_filed hdecoded.filed) rfl (OrdMap.keys_mapValues _ _)
        fun k d' hk => ?_
      obtain ⟨d, hd, rfl⟩ := find?_distrust hk
      exact ⟨d, hd, rfl⟩
    have hframe := (reassessAll_evolves clk (distrust (decodeStateInternal data s).state)).toFrame
    refine hdistrust.of_evolves (reassessAll_filed hdistrust.filed) hframe.uuidIndex hframe.keys
      fun k d' hk => ?_
    obtain ⟨d, hd, rfl | ⟨clk', l, rfl, rfl⟩⟩ := reassessAll_device hk
    · exact ⟨d', hd, rfl⟩
    · exact ⟨l.d, hd, (advances_reassessLocked clk' l).continues.uuid⟩

end Loads

theorem step_oneToOne {s : HealthStore} {c : Call} (hs : s.OneToOne) (h : s.KeepsIdentities c) :
    (s.step c).OneToOne := by
  by_cases hload : c.op.loads = false
  · by_cases hreg : ∃ uuid node, c.op = .registerDevice uuid node
    · obtain ⟨uuid, node, hop⟩ := hreg
      simp only [KeepsIdentities, hop] at h
      simp only [step, exec, hop]
      exact oneToOne_registerDevice hs h
    · have hreg' : ∀ uuid node, c.op ≠ .registerDevice uuid node :=
        fun uuid node h => hreg ⟨uuid, node, h⟩
      have hframe := step_frame (s := s) hload hreg'
      refine hs.of_evolves (step_filed c hs.filed) hframe.uuidIndex hframe.keys fun k d' hk => ?_
      obtain ⟨d, hd, rfl | ⟨l, l', rfl, -, htouch, rfl⟩⟩ := step_touched s hload hreg' k d' hk
      · exact ⟨d', hd, rfl⟩
      · exact ⟨l.d, hd, htouch.continues.uuid⟩
  · rcases step_loads (s := s) (Bool.of_not_eq_false hload) with
      ⟨data, hop, hstep⟩ | ⟨-, hstep⟩ | ⟨data, hop, hstep⟩ <;> rw [hstep]
    · simp only [KeepsIdentities, hop] at h
      exact oneToOne_decode hs h
    · exact hs
    · refine oneToOne_load hs fun data' hdata => ?_
      cases hdata
      simpa only [KeepsIdentities, hop] using h

/-! ### Registrations in any order -/

/-- The device with this uuid is tracked under this id. -/
def Tracks (s : HealthStore) (k : AcceleratorId) (uuid : DeviceUuid) : Prop :=
  ∃ d, s.devices.find? k = some d ∧ d.uuid = uuid

/-- Registrations one after another, each with its node and its clock readings. -/
def registrations (rs : List (DeviceUuid × NodeId × Readings)) : List Call :=
  rs.map fun r => ⟨.registerDevice r.1 r.2.1, r.2.2⟩

/-- Registrations that do not collide, with tracked devices or among themselves. -/
structure Fits (s : HealthStore) (uuids : List DeviceUuid) : Prop where
  free : ∀ u ∈ uuids, s.Free u
  apart : ∀ u ∈ uuids, ∀ u' ∈ uuids, s.uuidIndex.find? u = none → s.uuidIndex.find? u' = none →
    s.deviceIdFor u = s.deviceIdFor u' → u = u'

theorem Fits.perm {s : HealthStore} {us us' : List DeviceUuid} (h : s.Fits us) (hp : us.Perm us') :
    s.Fits us' :=
  ⟨fun u hu => h.free u (hp.mem_iff.mpr hu),
    fun u hu u' hu' => h.apart u (hp.mem_iff.mpr hu) u' (hp.mem_iff.mpr hu')⟩

section Batch
variable {s : HealthStore} {uuid : DeviceUuid} {node : NodeId} {now : Timestamp}

theorem fits_known {us : List DeviceUuid} {id : AcceleratorId}
    (h : s.uuidIndex.find? uuid = some id) : s.Fits (uuid :: us) ↔ s.Free uuid ∧ s.Fits us := by
  constructor
  · rintro ⟨hfree, hapart⟩
    exact ⟨hfree uuid List.mem_cons_self, fun u hu => hfree u (List.mem_cons_of_mem _ hu),
      fun u hu u' hu' => hapart u (List.mem_cons_of_mem _ hu) u' (List.mem_cons_of_mem _ hu')⟩
  · rintro ⟨hfree, hfits⟩
    refine ⟨List.forall_mem_cons.mpr ⟨hfree, hfits.free⟩, fun u hu u' hu' hnone hnone' heq => ?_⟩
    rcases List.mem_cons.mp hu with rfl | hu
    · exact absurd (h.symm.trans hnone) (by simp)
    rcases List.mem_cons.mp hu' with rfl | hu'
    · exact absurd (h.symm.trans hnone') (by simp)
    exact hfits.apart u hu u' hu' hnone hnone' heq

/-- What a batch meets after a registration, told of the store before it. -/
theorem fits_registered_iff {us : List DeviceUuid} (h : s.uuidIndex.find? uuid = none) :
    (s.registerDevice now uuid node).2.Fits us ↔
      (∀ u ∈ us, u ≠ uuid → s.uuidIndex.find? u = none →
        s.deviceIdFor u ≠ s.deviceIdFor uuid ∧ s.devices.find? (s.deviceIdFor u) = none) ∧
      ∀ u ∈ us, ∀ u' ∈ us, u ≠ uuid → u' ≠ uuid → s.uuidIndex.find? u = none →
        s.uuidIndex.find? u' = none → s.deviceIdFor u = s.deviceIdFor u' → u = u' := by
  have hknown : ∀ u, (s.registerDevice now uuid node).2.uuidIndex.find? u = none ↔
      u ≠ uuid ∧ s.uuidIndex.find? u = none := by
    intro u
    rw [find?_uuid_registered h]
    split_ifs with heq <;> simp [heq]
  have hid : ∀ u, u ≠ uuid →
      (s.registerDevice now uuid node).2.deviceIdFor u = s.deviceIdFor u := fun u hne =>
    deviceIdFor_registered h hne
  have hfind : ∀ k, (s.registerDevice now uuid node).2.devices.find? k = none ↔
      k ≠ s.deviceIdFor uuid ∧ s.devices.find? k = none := by
    intro k
    rw [find?_registered h]
    split_ifs with heq <;> simp [heq]
  constructor
  · rintro ⟨hfree, hapart⟩
    constructor
    · intro u hu hne hnone
      have huntracked := free_iff.mp (hfree u hu) ((hknown u).mpr ⟨hne, hnone⟩)
      rwa [hid u hne, hfind] at huntracked
    · intro u hu u' hu' hne hne' hnone hnone' heq
      apply hapart u hu u' hu' ((hknown u).mpr ⟨hne, hnone⟩) ((hknown u').mpr ⟨hne', hnone'⟩)
      rw [hid u hne, hid u' hne', heq]
  · rintro ⟨hfree, hapart⟩
    constructor
    · intro u hu
      refine free_iff.mpr fun hnone => ?_
      obtain ⟨hne, hnone⟩ := (hknown u).mp hnone
      rw [hid u hne, hfind]
      exact hfree u hu hne hnone
    · intro u hu u' hu' hnone hnone' heq
      obtain ⟨hne, hnone⟩ := (hknown u).mp hnone
      obtain ⟨hne', hnone'⟩ := (hknown u').mp hnone'
      rw [hid u hne, hid u' hne'] at heq
      exact hapart u hu u' hu' hne hne' hnone hnone' heq

/-- The rest of a batch fits after the first registration exactly when it fits before it
and draws none of the ids that the first one has drawn. -/
theorem fits_unknown {us : List DeviceUuid} (h : s.uuidIndex.find? uuid = none)
    (hfree : s.Free uuid) :
    (s.registerDevice now uuid node).2.Fits us ↔ s.Fits (uuid :: us) := by
  rw [fits_registered_iff h]
  constructor
  · rintro ⟨hrest, hapart⟩
    constructor
    · refine List.forall_mem_cons.mpr ⟨hfree, fun u hu => free_iff.mpr fun hnone => ?_⟩
      by_cases hne : u = uuid
      · rw [hne]
        exact free_iff.mp hfree h
      · exact (hrest u hu hne hnone).2
    · intro u hu u' hu' hnone hnone' heq
      by_contra hdiff
      have hmem : u ≠ uuid → u ∈ us := (List.mem_cons.mp hu).resolve_left
      have hmem' : u' ≠ uuid → u' ∈ us := (List.mem_cons.mp hu').resolve_left
      by_cases hne : u = uuid
      · have hne' : u' ≠ uuid := fun h => hdiff (hne.trans h.symm)
        rw [hne] at heq
        exact (hrest u' (hmem' hne') hne' hnone').1 heq.symm
      by_cases hne' : u' = uuid
      · rw [hne'] at heq
        exact (hrest u (hmem hne) hne hnone).1 heq
      exact hdiff (hapart u (hmem hne) u' (hmem' hne') hne hne' hnone hnone' heq)
  · rintro ⟨hall, hapart⟩
    constructor
    · intro u hu hne hnone
      have hmem := List.mem_cons_of_mem uuid hu
      exact ⟨fun heq => hne (hapart u hmem uuid List.mem_cons_self hnone h heq),
        free_iff.mp (hall u hmem) hnone⟩
    · intro u hu u' hu' _ _
      exact hapart u (List.mem_cons_of_mem _ hu) u' (List.mem_cons_of_mem _ hu')

/-- Whether a batch of registrations keeps identities does not depend on its order. -/
theorem along_registrations_iff {rs : List (DeviceUuid × NodeId × Readings)} :
    Machine.Along step KeepsIdentities s (registrations rs) ↔ s.Fits (rs.map Prod.fst) := by
  induction rs generalizing s with
  | nil => exact iff_of_true trivial ⟨by simp, by simp⟩
  | cons r rest ih =>
    change s.Free r.1 ∧ Machine.Along step KeepsIdentities (s.registerDevice (r.2.2 0) r.1 r.2.1).2
      (registrations rest) ↔ _
    rw [ih, List.map_cons]
    cases huuid : s.uuidIndex.find? r.1 with
    | some id => rw [registerDevice_known huuid, fits_known huuid]
    | none =>
      constructor
      · rintro ⟨hfree, hrest⟩
        exact (fits_unknown huuid hfree).mp hrest
      · intro hfits
        have hfree := hfits.free r.1 List.mem_cons_self
        exact ⟨hfree, (fits_unknown huuid hfree).mpr hfits⟩

/-- What a batch of registrations adds, said without its order. -/
theorem tracks_registrations_iff {rs : List (DeviceUuid × NodeId × Readings)} {k : AcceleratorId}
    {u : DeviceUuid} (hrun : Machine.Along step KeepsIdentities s (registrations rs)) :
    (Machine.run step s (registrations rs)).Tracks k u ↔
      s.Tracks k u ∨ (u ∈ rs.map Prod.fst ∧ s.uuidIndex.find? u = none ∧ k = s.deviceIdFor u) := by
  induction rs generalizing s with
  | nil => simp [registrations]
  | cons r rest ih =>
    obtain ⟨hfree, hrest⟩ := hrun
    have hfree : s.Free r.1 := hfree
    have hturn : s.step ⟨.registerDevice r.1 r.2.1, r.2.2⟩ =
        (s.registerDevice (r.2.2 0) r.1 r.2.1).2 := rfl
    change (Machine.run step (s.step ⟨.registerDevice r.1 r.2.1, r.2.2⟩)
      (registrations rest)).Tracks k u ↔ _
    rw [ih hrest, hturn, List.map_cons, List.mem_cons]
    cases huuid : s.uuidIndex.find? r.1 with
    | some id =>
      rw [registerDevice_known huuid]
      refine or_congr_right (and_congr_left fun hnone => ?_)
      rw [or_iff_right]
      rintro rfl
      exact absurd (huuid.symm.trans hnone.1) (by simp)
    | none =>
      have hdrawn : s.devices.find? (s.deviceIdFor r.1) = none := free_iff.mp hfree huuid
      have htracks : (s.registerDevice (r.2.2 0) r.1 r.2.1).2.Tracks k u ↔
          s.Tracks k u ∨ (u = r.1 ∧ k = s.deviceIdFor r.1) := by
        unfold Tracks
        rw [find?_registered huuid]
        split_ifs with heq
        · rw [heq, hdrawn]
          simp [newDevice, eq_comm]
        · simp [heq]
      rw [htracks, find?_uuid_registered huuid]
      by_cases hu : u = r.1
      · subst hu
        simp [huuid]
      · rw [deviceIdFor_registered huuid hu]
        simp [hu]

end Batch

/-- What the identities of a store promise: registered uuids and tracked devices correspond
one to one, a registration disturbs no other device exactly when its id is free, and a
batch of registrations tracks the same devices in any order. -/
structure IdentitiesKept (s : HealthStore) : Prop where
  corresponds : ∀ uuid id, s.uuidIndex.find? uuid = some id ↔ s.Tracks id uuid
  injective : ∀ uuid uuid' id, s.uuidIndex.find? uuid = some id →
    s.uuidIndex.find? uuid' = some id → uuid = uuid'
  undisturbed : ∀ now uuid node, s.Undisturbed now uuid node ↔ s.Free uuid
  anyOrder : ∀ rs rs' : List (DeviceUuid × NodeId × Readings), rs.Perm rs' →
    Machine.Along step KeepsIdentities s (registrations rs) → ∀ k uuid,
      (Machine.run step s (registrations rs)).Tracks k uuid ↔
        (Machine.run step s (registrations rs')).Tracks k uuid

/-- In every run whose registrations draw free ids and whose images repeat no id, a
registration never disturbs another device. -/
theorem registration_disturbs_nothing (policy : HealthPolicy) (epoch : UInt64) (calls : List Call)
    (hrun : Machine.Along step KeepsIdentities (init policy epoch) calls) :
    (after policy epoch calls).IdentitiesKept := by
  have hone : (after policy epoch calls).OneToOne :=
    Machine.run_invariant (fun _ _ hs hc => step_oneToOne hs hc) (oneToOne_init policy epoch) hrun
  refine ⟨fun _ _ => hone.iff, fun _ _ _ => hone.injective,
    fun _ _ _ => registerDevice_undisturbed_iff hone, fun rs rs' hp hrs k uuid => ?_⟩
  have hfits := along_registrations_iff.mp hrs
  have hrs' := along_registrations_iff.mpr (hfits.perm (hp.map Prod.fst))
  rw [tracks_registrations_iff hrs, tracks_registrations_iff hrs', (hp.map Prod.fst).mem_iff]

/-- A device with the null uuid, a device with uuid 7, and the first one again. -/
def apart : List Call := [
  (Op.registerDevice ⟨0⟩ ⟨1⟩).at 1, (Op.registerDevice ⟨7⟩ ⟨1⟩).at 1,
  (Op.registerDevice ⟨0⟩ ⟨2⟩).at 1]

theorem registration_disturbs_nothing_apart : (after {} 0 apart).IdentitiesKept := by
  have hfirst : (init {} 0).Free ⟨0⟩ := by decide +kernel
  have hsecond : ((init {} 0).step ((Op.registerDevice ⟨0⟩ ⟨1⟩).at 1)).Free ⟨7⟩ := by decide +kernel
  have hthird : (((init {} 0).step ((Op.registerDevice ⟨0⟩ ⟨1⟩).at 1)).step
      ((Op.registerDevice ⟨7⟩ ⟨1⟩).at 1)).Free ⟨0⟩ := by decide +kernel
  exact registration_disturbs_nothing {} 0 apart ⟨hfirst, hsecond, hthird, trivial⟩

/-- A device with the null uuid, which gets id 1, and a fault of it. -/
def unnamed : List Call := [
  (Op.registerDevice ⟨0⟩ ⟨1⟩).at 1,
  (Op.recordFault { id := ⟨1⟩, accelerator := ⟨1⟩, severity := .critical }).at 1]

/-- Registering uuid 1 then replaces that device: its record and its faults are gone, and
the two uuids share an id. -/
theorem registration_erases_device :
    (after {} 0 unnamed).Reachable ∧ ¬(after {} 0 unnamed).Undisturbed ⟨1⟩ ⟨1⟩ ⟨1⟩ ∧
      ((after {} 0 unnamed).devices.find? ⟨1⟩).map (fun d => d.faults.faults.length) = some 1 ∧
      (((after {} 0 unnamed).registerDevice ⟨1⟩ ⟨1⟩ ⟨1⟩).2.devices.find? ⟨1⟩).map
        (fun d => d.faults.faults.length) = some 0 := by
  have hbefore : ((after {} 0 unnamed).devices.find? ⟨1⟩).map
      (fun d => d.faults.faults.length) = some 1 := by decide +kernel
  have hafter : (((after {} 0 unnamed).registerDevice ⟨1⟩ ⟨1⟩ ⟨1⟩).2.devices.find? ⟨1⟩).map
      (fun d => d.faults.faults.length) = some 0 := by decide +kernel
  refine ⟨⟨_, _, _, rfl⟩, fun h => ?_, hbefore, hafter⟩
  obtain ⟨d, hd, hlength⟩ := Option.map_eq_some_iff.mp hbefore
  rw [h.kept ⟨1⟩ d hd, Option.map_some, hlength] at hafter
  cases hafter

end HealthStore
end AcceleratorHealth
