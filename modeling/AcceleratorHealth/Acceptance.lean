import AcceleratorHealth.Loads
import AcceleratorHealth.Reloading

/-! Accepted images. The decoder refuses repeated uuids, but neither repeated ids nor
devices whose readiness contradicts the rest of their record. -/
namespace AcceleratorHealth
open Codec Wire Util

/-- Ready for work although the health state, a quarantine or a recovery forbids it. -/
def Device.Impossible (d : Device) : Prop :=
  (d.readiness = .ready ∨ d.readiness = .readyDegraded) ∧
    (¬(d.state = .healthy ∨ d.state = .degraded) ∨ d.quarantined ∨ d.inRecovery)

instance (d : Device) : Decidable d.Impossible := inferInstanceAs (Decidable (_ ∧ _))

namespace HealthStore

/-- As many devices as announced, uuids and ids in one-to-one correspondence, and no
device in an impossible state. -/
structure WellFormed (count : Nat) (s : HealthStore) : Prop where
  tracked : s.devices.keys.length = count
  uuids : ∀ uuid id, s.uuidIndex.find? uuid = some id ↔
    ∃ d, s.devices.find? id = some d ∧ d.id = id ∧ d.uuid = uuid
  possible : ∀ id d, s.devices.find? id = some d → ¬d.Impossible

end HealthStore

namespace Persistence

section Accepted
variable {ds : List Device}

theorem find?_byUuid_iff (huuid : (ds.map Device.uuid).Nodup) (uuid : DeviceUuid)
    (id : AcceleratorId) :
    (OrdMap.empty.insertAll (ds.map fun d => (d.uuid, d.id))).find? uuid = some id ↔
      ∃ d ∈ ds, d.uuid = uuid ∧ d.id = id := by
  constructor
  · intro h
    obtain ⟨d, hd, heq⟩ := List.mem_map.mp (OrdMap.mem_of_find?_insertAll h)
    exact ⟨d, hd, congrArg Prod.fst heq, congrArg Prod.snd heq⟩
  · rintro ⟨d, hd, rfl, rfl⟩
    apply OrdMap.find?_insertAll_of_mem
    · rwa [List.map_map]
    · exact List.mem_map.mpr ⟨d, hd, rfl⟩

theorem find?_byId_iff (hid : (ds.map Device.id).Nodup) (id : AcceleratorId) (d : Device) :
    (OrdMap.empty.insertAll (ds.map fun d => (d.id, d))).find? id = some d ↔
      d ∈ ds ∧ d.id = id := by
  constructor
  · intro h
    obtain ⟨d', hd', heq⟩ := List.mem_map.mp (OrdMap.mem_of_find?_insertAll h)
    cases heq
    exact ⟨hd', rfl⟩
  · rintro ⟨hd, rfl⟩
    apply OrdMap.find?_insertAll_of_mem
    · rwa [List.map_map]
    · exact List.mem_map.mpr ⟨d, hd, rfl⟩

end Accepted

/-- When an accepted image makes a well-formed store: its records have different ids and
none of them is in an impossible state. -/
theorem accepted_image_well_formed_iff (data : Bytes) (out : HealthStore)
    (hok : (decodeStateInternal data out).result = .ok ()) :
    (decodeStateInternal data out).state.WellFormed (announced data) ↔
      ((records data).map Device.id).Nodup ∧ ∀ d ∈ records data, ¬d.Impossible := by
  obtain ⟨hlength, h, r, -, hloaded⟩ := decode_of_ok hok
  obtain ⟨hdevices, huuids⟩ := loaded_devices h (records data) out
  rw [hloaded]
  have hnodup : ((OrdMap.empty.insertAll ((records data).map fun d => (d.id, d)) :
      OrdMap AcceleratorId Device).keys.length = announced data) ↔
        ((records data).map Device.id).Nodup := by
    rw [← hlength, ← List.length_map (fun d : Device => (d.id, d)),
      OrdMap.length_keys_insertAll_iff, List.map_map]
    rfl
  constructor
  · intro h
    have hid := hnodup.mp (hdevices ▸ h.tracked)
    refine ⟨hid, fun d hd => ?_⟩
    apply h.possible d.id d
    rw [hdevices, find?_byId_iff hid]
    exact ⟨hd, rfl⟩
  · rintro ⟨hid, hpossible⟩
    refine ⟨hdevices ▸ hnodup.mpr hid, fun uuid id => ?_, fun id d hd => ?_⟩
    · simp only [hdevices, huuids, find?_byUuid_iff (records_uuids data), find?_byId_iff hid]
      constructor
      · rintro ⟨d, hd, huuid, hdid⟩
        exact ⟨d, ⟨hd, hdid⟩, hdid, huuid⟩
      · rintro ⟨d, ⟨hd, hdid⟩, -, huuid⟩
        exact ⟨d, hd, huuid, hdid⟩
    · rw [hdevices, find?_byId_iff hid] at hd
      exact hpossible d hd.1

/-- The body of an image that lists these devices under a new store's header. -/
def bodyOf (ds : List Device) : Bytes :=
  match emitAll ([HealthPolicy.write {}, Generation.write (⟨1⟩ : PolicyGeneration), u64 0]
    ++ counted writeDevice ds) with
  | .ok body => body
  | .error _ => []

/-- A device record as a new store writes it. -/
def freshDevice (id uuid : UInt64) : Device := HealthStore.newDevice ⟨0⟩ ⟨id⟩ ⟨uuid⟩ ⟨1⟩

private theorem pair_accepted {data : Bytes} {id : UInt64}
    (hid : id = 7 ∨ id = 8)
    (hopen : openImage data = .ok (bodyOf [freshDevice 7 7, freshDevice id 8])) :
    (decodeStateInternal data (.init {} 0)).result = .ok () := by
  unfold decodeStateInternal
  rw [hopen]
  rcases hid with rfl | rfl <;> decide +kernel

private theorem pair_listed {data : Bytes}
    (hopen : openImage data = .ok (bodyOf [freshDevice 7 7, freshDevice 8 8])) :
    ((records data).map Device.id).Nodup ∧ ∀ d ∈ records data, ¬d.Impossible := by
  unfold records header
  rw [hopen]
  decide +kernel

private theorem pair_merged {data : Bytes}
    (hopen : openImage data = .ok (bodyOf [freshDevice 7 7, freshDevice 7 8])) :
    (decodeStateInternal data (.init {} 0)).state.devices.keys.length ≠ announced data := by
  unfold decodeStateInternal announced header
  rw [hopen]
  decide +kernel

theorem accepted_image_of_two_is_well_formed :
    (decodeStateInternal (sealImage (bodyOf [freshDevice 7 7, freshDevice 8 8]))
      (.init {} 0)).state.WellFormed
        (announced (sealImage (bodyOf [freshDevice 7 7, freshDevice 8 8]))) := by
  have hopen := (openImage_sealImage (bodyOf [freshDevice 7 7, freshDevice 8 8])).1
    (by decide +kernel)
  exact (accepted_image_well_formed_iff _ _ (pair_accepted (Or.inr rfl) hopen)).mpr
    (pair_listed hopen)

/-- Two records with one id: the image is accepted, and one device is lost. -/
theorem accepted_image_repeats_id :
    (decodeStateInternal (sealImage (bodyOf [freshDevice 7 7, freshDevice 7 8]))
      (.init {} 0)).result = .ok () ∧
    ¬(decodeStateInternal (sealImage (bodyOf [freshDevice 7 7, freshDevice 7 8]))
      (.init {} 0)).state.WellFormed
        (announced (sealImage (bodyOf [freshDevice 7 7, freshDevice 7 8]))) := by
  have hopen := (openImage_sealImage (bodyOf [freshDevice 7 7, freshDevice 7 8])).1
    (by decide +kernel)
  exact ⟨pair_accepted (Or.inl rfl) hopen, fun h => pair_merged hopen h.tracked⟩

end Persistence
end AcceleratorHealth
