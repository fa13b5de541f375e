import AcceleratorHealth.Images
import AcceleratorHealth.Queries

/-! What an accepted decode leaves in its target: the header's values, the records under
their ids, counters past the largest id and indexes rebuilt from the records. Of the old
target only the worker registry and the fence remain. -/
namespace AcceleratorHealth
open Codec Wire

namespace Persistence

attribute [local irreducible] readHeader readDevice

/-- The device count that an image announces. -/
def announced (data : Bytes) : Nat :=
  match header data with
  | none => 0
  | some (_, r) =>
    match readCount.run r with
    | .error _ => 0
    | .ok (count, _) => count.toNat

/-- The largest raw id, as the device loop keeps it. -/
def maxRaw (m : UInt64) (ds : List Device) : UInt64 :=
  ds.foldl (fun m d => if m < d.id.get then d.id.get else m) m

/-- The target after an accepted decode. -/
def loaded (h : Header) (ds : List Device) (out : HealthStore) : HealthStore :=
  let next := maxRaw 0 ds + 1
  recomputeIndexes
    { enter ds (adoptHeader h out) with
      nextDeviceRaw := next, nextFaultRaw := next, nextObservationRaw := next
      nextValidationRaw := next, nextQuarantineRaw := next, nextRecoveryRaw := next
      nextAssessmentRaw := next, nextIncidentRaw := next }

/-- A device loop that completes has taken every record. -/
theorem each_loadDevice_of_ok {xs : List Nat} {l : Loading}
    (h : (Exit.each (fun _ l => loadDevice l) xs l).result = .ok ()) :
    (listed xs.length l.seenUuid l.reader).length = xs.length ∧
      (Exit.each (fun _ l => loadDevice l) xs l).state.maxDeviceRaw =
        maxRaw l.maxDeviceRaw (listed xs.length l.seenUuid l.reader) := by
  induction xs generalizing l with
  | nil => exact ⟨rfl, rfl⟩
  | cons x rest ih =>
    unfold Exit.each at h ⊢
    rw [List.length_cons, listed]
    cases hrun : readDevice.run l.reader with
    | error e =>
      rw [loadDevice_of_error hrun] at h
      cases h
    | ok dr =>
      obtain ⟨d, r⟩ := dr
      rw [loadDevice_of_ok hrun] at h ⊢
      by_cases hseen : l.seenUuid.contains d.uuid = true
      · rw [if_pos hseen] at h
        cases h
      · rw [if_neg hseen, Exit.ok_andThen] at h ⊢
        simp only [if_neg hseen, List.length_cons]
        obtain ⟨hlength, hmax⟩ := ih h
        exact ⟨congrArg (· + 1) hlength, hmax⟩

/-- An accepted image lists as many records as it announces, and these are what the
target then holds. -/
theorem decode_of_ok {data : Bytes} {out : HealthStore}
    (hok : (decodeStateInternal data out).result = .ok ()) :
    (records data).length = announced data ∧ ∃ h r, header data = some (h, r) ∧
      (decodeStateInternal data out).state = loaded h (records data) out := by
  unfold decodeStateInternal at hok ⊢
  cases hopen : openImage data with
  | error e => simp [hopen, Exit.throw] at hok
  | ok body =>
    simp only [hopen] at hok ⊢
    cases hread : readHeader.run { data := body } with
    | error e => simp [hread, Exit.throw] at hok
    | ok hr =>
      obtain ⟨h, r⟩ := hr
      have hheader : header data = some (h, r) := by simp [header, hopen, hread]
      simp only [hread] at hok ⊢
      cases hcount : (orError "invalid device count" readCount : Decode UInt32).run r with
      | error e => simp [hcount, Exit.throw] at hok
      | ok cr =>
        obtain ⟨count, r'⟩ := cr
        have hcount' : readCount.run r = .ok (count, r') := by
          simp only [orError, StateT.run] at hcount ⊢
          cases hread' : readCount r with
          | error e => simp [hread'] at hcount
          | ok cr => simpa [hread'] using hcount
        simp only [hcount] at hok ⊢
        have hrecords : records data = listed count.toNat .empty r' := by
          simp only [records, hheader, hcount']
        have hannounced : announced data = count.toNat := by
          simp only [announced, hheader, hcount']
        cases hloop : (loadDevices count.toNat { out := adoptHeader h out, reader := r' }).result
          with
        | error e => simp [hloop, Exit.throw] at hok
        | ok u =>
          have heach := each_loadDevice_of_ok hloop
          have hout : (loadDevices count.toNat
              { out := adoptHeader h out, reader := r' }).state.out =
              enter (records data) (adoptHeader h out) := by
            simp only [loadDevices, each_loadDevice, List.length_range, hrecords]
          simp only [List.length_range] at heach
          simp only [hloop] at hok ⊢
          split_ifs at hok ⊢ with hrest
          · cases hok
          refine ⟨by rw [hrecords, hannounced, heach.1], h, r, hheader, ?_⟩
          rw [Exit.ok_state, finishLoad, hout]
          change recomputeIndexes _ = recomputeIndexes _
          rw [hrecords, loadDevices, heach.2]

/-- The loop reads its cursor and its uuids, never the target. -/
theorem each_loadDevice_congr {xs : List Nat} {l l' : Loading} (hreader : l'.reader = l.reader)
    (hseen : l'.seenUuid = l.seenUuid) :
    (Exit.each (fun _ l => loadDevice l) xs l').result =
        (Exit.each (fun _ l => loadDevice l) xs l).result ∧
      (Exit.each (fun _ l => loadDevice l) xs l').state.reader =
        (Exit.each (fun _ l => loadDevice l) xs l).state.reader := by
  induction xs generalizing l l' with
  | nil => exact ⟨rfl, hreader⟩
  | cons x rest ih =>
    unfold Exit.each
    cases hrun : readDevice.run l.reader with
    | error e =>
      rw [loadDevice_of_error hrun, loadDevice_of_error (hreader ▸ hrun)]
      exact ⟨rfl, hreader⟩
    | ok dr =>
      obtain ⟨d, r⟩ := dr
      rw [loadDevice_of_ok hrun, loadDevice_of_ok (hreader ▸ hrun), hseen]
      split_ifs
      · exact ⟨rfl, hreader⟩
      · rw [Exit.ok_andThen, Exit.ok_andThen]
        apply ih
        · rfl
        · simp only [Loading.taken, hseen]

/-- Whether an image is accepted does not depend on the target. -/
theorem decode_result_eq (data : Bytes) (out out' : HealthStore) :
    (decodeStateInternal data out').result = (decodeStateInternal data out).result := by
  unfold decodeStateInternal
  cases openImage data with
  | error e => rfl
  | ok body =>
    simp only
    cases readHeader.run { data := body } with
    | error e => rfl
    | ok hr =>
      obtain ⟨h, r⟩ := hr
      simp only
      cases (orError "invalid device count" readCount : Decode UInt32).run r with
      | error e => rfl
      | ok cr =>
        obtain ⟨count, r'⟩ := cr
        have hloop : ∀ t, (loadDevices count.toNat { out := t, reader := r' }).result =
              (loadDevices count.toNat { out := out, reader := r' }).result ∧
            (loadDevices count.toNat { out := t, reader := r' }).state.reader =
              (loadDevices count.toNat { out := out, reader := r' }).state.reader :=
          fun t => each_loadDevice_congr rfl rfl
        simp only [(hloop (adoptHeader h out)).1, (hloop (adoptHeader h out')).1,
          (hloop (adoptHeader h out)).2, (hloop (adoptHeader h out')).2]
        split
        · rfl
        · split_ifs <;> rfl

/-! ### What is rebuilt -/

theorem foldl_indexDevice (ds : List Device) (s : HealthStore) :
    ds.foldl indexDevice s =
      { s with
        stateIndex := ds.foldl (fun index d => index.add d.state d.id) s.stateIndex
        readinessIndex := ds.foldl (fun index d => index.add d.readiness d.id) s.readinessIndex
        faultIndex := ds.foldl (fun index d =>
          d.faults.openFaults.foldl (fun index f => index.add f.type d.id) index) s.faultIndex
        quarantineIndex := ds.foldl (fun ids d =>
          if d.quarantined then ids.insert d.id () else ids) s.quarantineIndex } := by
  induction ds generalizing s with
  | nil => rfl
  | cons d rest ih =>
    rw [List.foldl_cons, ih]
    rfl

theorem recomputeIndexes_eq (s : HealthStore) :
    recomputeIndexes s =
      { s with
        stateIndex := s.devices.values.foldl (fun index d => index.add d.state d.id) .empty
        readinessIndex := s.devices.values.foldl (fun index d => index.add d.readiness d.id) .empty
        faultIndex := s.devices.values.foldl (fun index d =>
          d.faults.openFaults.foldl (fun index f => index.add f.type d.id) index) .empty
        quarantineIndex := s.devices.values.foldl (fun ids d =>
          if d.quarantined then ids.insert d.id () else ids) .empty
        staleIndex := .empty } := by
  rw [recomputeIndexes, foldl_indexDevice]

section Rebuilt
variable {s : HealthStore} {id : AcceleratorId}

theorem mem_recomputed_state {state : HealthState} :
    id ∈ (recomputeIndexes s).byHealthState state ↔
      ∃ d ∈ s.devices.values, d.state = state ∧ d.id = id := by
  rw [HealthStore.byHealthState, recomputeIndexes_eq, Index.mem_ids_foldl_add]
  simp only [Index.mem_ids_empty, or_false]

theorem mem_recomputed_readiness {r : ReadinessState} :
    id ∈ (recomputeIndexes s).byReadiness r ↔
      ∃ d ∈ s.devices.values, d.readiness = r ∧ d.id = id := by
  rw [HealthStore.byReadiness, recomputeIndexes_eq, Index.mem_ids_foldl_add]
  simp only [Index.mem_ids_empty, or_false]

/-- Faults are indexed again only while they are open. -/
theorem mem_recomputed_faultType {t : FaultType} :
    id ∈ (recomputeIndexes s).byFaultType t ↔
      ∃ d ∈ s.devices.values, (∃ f ∈ d.faults.openFaults, f.type = t) ∧ d.id = id := by
  rw [HealthStore.byFaultType, recomputeIndexes_eq]
  suffices h : ∀ (ds : List Device) (index : Index FaultType),
      id ∈ Index.ids (ds.foldl (fun index d =>
        d.faults.openFaults.foldl (fun index f => index.add f.type d.id) index) index) t ↔
        (∃ d ∈ ds, (∃ f ∈ d.faults.openFaults, f.type = t) ∧ d.id = id) ∨ id ∈ index.ids t by
    rw [h]
    simp only [Index.mem_ids_empty, or_false]
  intro ds
  induction ds with
  | nil => simp
  | cons d rest ih =>
    intro index
    rw [List.foldl_cons, ih, Index.mem_ids_foldl_add]
    simp only [List.exists_mem_cons_iff, ← exists_and_right, and_assoc]
    constructor
    · rintro (h | h | h)
      · exact Or.inl (Or.inr h)
      · exact Or.inl (Or.inl h)
      · exact Or.inr h
    · rintro ((h | h) | h)
      · exact Or.inr (Or.inl h)
      · exact Or.inl h
      · exact Or.inr (Or.inr h)

theorem mem_recomputed_quarantined :
    id ∈ (recomputeIndexes s).quarantined ↔
      ∃ d ∈ s.devices.values, d.quarantined = true ∧ d.id = id := by
  rw [HealthStore.quarantined, recomputeIndexes_eq]
  suffices h : ∀ (ds : List Device) (ids : OrdMap.Keys AcceleratorId),
      id ∈ OrdMap.keys (ds.foldl (fun ids d =>
        if d.quarantined then ids.insert d.id () else ids) ids) ↔
        (∃ d ∈ ds, d.quarantined = true ∧ d.id = id) ∨ id ∈ ids.keys by
    rw [h]
    simp [OrdMap.keys, OrdMap.empty]
  intro ds
  induction ds with
  | nil => simp
  | cons d rest ih =>
    intro ids
    rw [List.foldl_cons, ih]
    by_cases hd : d.quarantined = true
    · rw [if_pos hd, OrdMap.mem_keys_insert]
      simp only [List.exists_mem_cons_iff, hd, true_and, eq_comm (a := id)]
      constructor
      · rintro (h | h | h)
        · exact Or.inl (Or.inr h)
        · exact Or.inl (Or.inl h)
        · exact Or.inr h
      · rintro ((h | h) | h)
        · exact Or.inr (Or.inl h)
        · exact Or.inl h
        · exact Or.inr (Or.inr h)
    · simp [hd]

end Rebuilt

/-- Of the old target only the worker registry and the fence remain. -/
theorem loaded_eq (h : Header) (ds : List Device) (out out' : HealthStore) :
    loaded h ds out =
      { loaded h ds out' with
        workerBootRegistry := out.workerBootRegistry
        lastObservedGeneration := out.lastObservedGeneration } := by
  unfold loaded
  rw [recomputeIndexes_eq, recomputeIndexes_eq]
  rfl

theorem loaded_devices (h : Header) (ds : List Device) (out : HealthStore) :
    (loaded h ds out).devices = OrdMap.empty.insertAll (ds.map fun d => (d.id, d)) ∧
      (loaded h ds out).uuidIndex = OrdMap.empty.insertAll (ds.map fun d => (d.uuid, d.id)) := by
  unfold loaded
  rw [recomputeIndexes_eq]
  exact ⟨rfl, rfl⟩

end Persistence
end AcceleratorHealth
