import AcceleratorHealth.Loads
import AcceleratorHealth.Reloading

/-! The views of a store against its records, and what becomes of them when the store is
saved and loaded: an image holds the records only, so a view survives exactly when it
says no more than its rebuilding finds. -/
namespace AcceleratorHealth
open Codec Locked Persistence

namespace HealthStore

/-- The tracked devices that meet a condition, read off the records. -/
def idsWhere (p : Device → Bool) (s : HealthStore) : List AcceleratorId :=
  (s.devices.entries.filter fun e => p e.2).map Prod.fst

/-- The faults of all tracked devices, one device after another. -/
def recordedFaults (s : HealthStore) : List Fault := s.deviceIds.flatMap fun id => s.faultsOf id

section Ids
variable {s t : HealthStore} {p : Device → Bool} {id : AcceleratorId}

theorem mem_idsWhere : id ∈ s.idsWhere p ↔ ∃ d, s.devices.find? id = some d ∧ p d = true := by
  simp [idsWhere, OrdMap.find?_eq_some_iff]

theorem idsWhere_sorted : (s.idsWhere p).Pairwise (· < ·) :=
  List.pairwise_map.mpr (s.devices.sorted.filter _)

theorem quarantined_sorted : s.quarantined.Pairwise (· < ·) :=
  List.pairwise_map.mpr s.quarantineIndex.sorted

/-- Sorted lists of ids are compared by their members. -/
theorem eq_idsWhere_iff {ids : List AcceleratorId} (hsorted : ids.Pairwise (· < ·)) :
    ids = s.idsWhere p ↔ ∀ id, id ∈ ids ↔ ∃ d, s.devices.find? id = some d ∧ p d = true := by
  constructor
  · rintro rfl id
    exact mem_idsWhere
  · intro h
    exact hsorted.eq_of_mem_iff idsWhere_sorted fun id => (h id).trans mem_idsWhere.symm

theorem idsWhere_mapValues {f : Device → Device} (h : t.devices = s.devices.mapValues fun _ => f)
    (hp : ∀ d, p (f d) = p d) : t.idsWhere p = s.idsWhere p := by
  simp only [idsWhere, h, OrdMap.mapValues, List.filter_map, List.map_map, Function.comp_def, hp]

theorem mem_recordedFaults {f : Fault} :
    f ∈ s.recordedFaults ↔ ∃ d ∈ s.devices.values, f ∈ d.faults.faults := by
  simp only [recordedFaults, deviceIds, List.mem_flatMap, faultsOf, OrdMap.mem_keys_iff,
    OrdMap.mem_values_iff]
  constructor
  · rintro ⟨id, ⟨d, hd⟩, hf⟩
    rw [hd] at hf
    exact ⟨d, ⟨id, hd⟩, hf⟩
  · rintro ⟨d, ⟨id, hd⟩, hf⟩
    refine ⟨id, ⟨d, hd⟩, ?_⟩
    rw [hd]
    exact hf

end Ids

/-- The state, readiness and quarantine indexes list what the records say. -/
structure Indexed (s : HealthStore) : Prop where
  state : ∀ state, s.byHealthState state = s.idsWhere fun d => d.state = state
  readiness : ∀ r, s.byReadiness r = s.idsWhere fun d => d.readiness = r
  quarantine : s.quarantined = s.idsWhere Device.quarantined

end HealthStore

namespace Persistence
open HealthStore

section Rebuilt
variable {s : HealthStore} (hid : ∀ k d, s.devices.find? k = some d → d.id = k)
include hid

/-- With every device filed under its own id, a rebuilt view lists ids by their records. -/
theorem rebuilt_iff {p : Device → Prop} {id : AcceleratorId} :
    (∃ d ∈ s.devices.values, p d ∧ d.id = id) ↔ ∃ d, s.devices.find? id = some d ∧ p d := by
  constructor
  · rintro ⟨d, hd, hp, rfl⟩
    obtain ⟨k, hk⟩ := OrdMap.mem_values_iff.mp hd
    exact ⟨d, hid k d hk ▸ hk, hp⟩
  · rintro ⟨d, hd, hp⟩
    exact ⟨d, OrdMap.mem_values_iff.mpr ⟨id, hd⟩, hp, hid id d hd⟩

theorem indexed_recomputed : (recomputeIndexes s).Indexed := by
  have hdevices : (recomputeIndexes s).devices = s.devices := (recomputeIndexes_fields s).1
  constructor
  · intro state
    apply (eq_idsWhere_iff (Index.ids_sorted _ _)).mpr
    intro id
    simp only [hdevices, decide_eq_true_eq]
    exact mem_recomputed_state.trans (rebuilt_iff hid)
  · intro r
    apply (eq_idsWhere_iff (Index.ids_sorted _ _)).mpr
    intro id
    simp only [hdevices, decide_eq_true_eq]
    exact mem_recomputed_readiness.trans (rebuilt_iff hid)
  · apply (eq_idsWhere_iff quarantined_sorted).mpr
    intro id
    rw [hdevices]
    exact mem_recomputed_quarantined.trans (rebuilt_iff hid)

/-- The rebuilt fault index lists a device under the types of its open faults. -/
theorem byFaultType_recomputed (t : FaultType) :
    (recomputeIndexes s).byFaultType t =
      s.idsWhere fun d => d.faults.openFaults.any fun f => f.type = t := by
  apply (eq_idsWhere_iff (Index.ids_sorted _ _)).mpr
  intro id
  simp only [List.any_eq_true, decide_eq_true_eq]
  exact mem_recomputed_faultType.trans (rebuilt_iff hid)

end Rebuilt
end Persistence

namespace HealthStore

/-! ### Saved and loaded -/

/-- Every query answers on `s'` as it does on `s`, whatever the clock reads; the fault
lists are compared as multisets, with each other and with the faults of all devices. -/
structure AnswersAlike (s s' : HealthStore) : Prop where
  byHealthState : ∀ state, s'.byHealthState state = s.byHealthState state
  byReadiness : ∀ r, s'.byReadiness r = s.byReadiness r
  byFaultType : ∀ t, s'.byFaultType t = s.byFaultType t
  quarantined : s'.quarantined = s.quarantined
  revalidationRequired : s'.revalidationRequired = s.revalidationRequired
  staleEvidence : s'.staleEvidence = s.staleEvidence
  allFaults : s'.allFaults.Perm s.allFaults
  recorded : s.allFaults.Perm s.recordedFaults
  recorded' : s'.allFaults.Perm s'.recordedFaults
  accounting : ∀ clk, s'.accounting clk = s.accounting clk

/-- Views that say no more than their rebuilding finds: the three rebuilt indexes are in
agreement with the records, and there is nothing in the views that are not rebuilt, or
only in part: no faults and no stale evidence. -/
structure Rederivable (s : HealthStore) : Prop where
  indexed : s.Indexed
  allFaults : s.allFaults = []
  faults : ∀ d ∈ s.devices.values, d.faults.faults = []
  byFaultType : ∀ t, s.byFaultType t = []
  staleEvidence : s.staleEvidence = []

/-- The target after loading a store's own image: rebuilt from the store's records. -/
structure RebuiltFrom (s t : HealthStore) : Prop where
  policy : t.policy = s.policy
  devices : t.devices = s.devices.mapValues fun _ d => { d with requiresRevalidation := false }
  globalFaults : t.globalFaults = []

theorem Sound.rebuilt {s out : HealthStore} {data : Bytes} (hs : s.Sound)
    (hdata : encodeStateInternal s = .ok data)
    (hok : (decodeStateInternal data out).result = .ok ()) :
    ∃ t, s.RebuiltFrom t ∧ (decodeStateInternal data out).state = recomputeIndexes t := by
  obtain ⟨htexts, hadmissible⟩ := hs.admissible_of_reloads ⟨data, hdata, hok⟩
  have hstorable : s.Storable :=
    { toAdmissible := hadmissible
      texts := htexts
      filed := fun k d hk => (hs.filed k d hk).1
      keyed := fun d hd => (hs.device hd).keyed
      uuids := hs.uuids }
  unfold encodeStateInternal at hdata
  cases hbody : encodeBody s with
  | error e =>
    rw [hbody] at hdata
    cases hdata
  | ok body =>
    rw [hbody] at hdata
    cases hdata
    obtain ⟨l, hdecode, hout⟩ := (decode_encoded hs.uuids hbody out).1 hadmissible
    refine ⟨_, ?_, congrArg Exit.state hdecode⟩
    constructor
    · change l.out.policy = _
      rw [hout]
      rfl
    · change l.out.devices = _
      rw [hout, enter_restored hstorable]
    · change l.out.globalFaults = _
      rw [hout]
      rfl

section Reloaded
variable {s t : HealthStore}

theorem RebuiltFrom.recomputed (h : s.RebuiltFrom t) (hs : s.Sound) :
    (recomputeIndexes t).Indexed ∧ ∀ f, (recomputeIndexes t).byFaultType f =
      s.idsWhere fun d => d.faults.openFaults.any fun x => x.type = f := by
  have hid : ∀ k d, t.devices.find? k = some d → d.id = k := by
    intro k d hk
    rw [h.devices] at hk
    obtain ⟨d₀, hd₀, rfl⟩ := OrdMap.find?_mapValues_eq_some_iff.mp hk
    exact (hs.filed k d₀ hd₀).1
  refine ⟨indexed_recomputed hid, fun f => ?_⟩
  rw [byFaultType_recomputed hid]
  exact idsWhere_mapValues h.devices fun _ => rfl

/-- Counts and flags of the records are all in the image. -/
theorem RebuiltFrom.accounting (h : s.RebuiltFrom t) (clk : Readings) :
    (recomputeIndexes t).accounting clk = s.accounting clk := by
  have hvalues : t.devices.values =
      s.devices.values.map fun d => { d with requiresRevalidation := false } := by
    rw [h.devices]
    simp only [OrdMap.values, OrdMap.mapValues, List.map_map, Function.comp_def]
  unfold HealthStore.accounting recomputeAccounting
  rw [(recomputeIndexes_fields t).1, (recomputeIndexes_fields t).2.2.1, hvalues, h.policy,
    List.zipIdx_map, List.foldl_map, List.foldl_map]
  rfl

theorem RebuiltFrom.idsWhere (h : s.RebuiltFrom t) {p : Device → Bool}
    (hp : ∀ d, p { d with requiresRevalidation := false } = p d) :
    (recomputeIndexes t).idsWhere p = s.idsWhere p := by
  have hdevices : (recomputeIndexes t).devices = t.devices := (recomputeIndexes_fields t).1
  exact idsWhere_mapValues (hdevices.trans h.devices) hp

theorem RebuiltFrom.revalidationRequired (h : s.RebuiltFrom t) :
    (recomputeIndexes t).revalidationRequired = s.revalidationRequired :=
  h.idsWhere (p := fun d => d.readiness = .revalidationRequired || d.readiness = .notReady)
    fun _ => rfl

theorem RebuiltFrom.allFaults (h : s.RebuiltFrom t) : (recomputeIndexes t).allFaults = [] := by
  rw [recomputeIndexes_eq]
  exact h.globalFaults

theorem staleEvidence_recomputed : (recomputeIndexes t).staleEvidence = [] := by
  rw [recomputeIndexes_eq]
  rfl

theorem RebuiltFrom.faults (h : s.RebuiltFrom t)
    (hnone : ∀ d ∈ s.devices.values, d.faults.faults = []) :
    ∀ d ∈ (recomputeIndexes t).devices.values, d.faults.faults = [] := by
  intro d hd
  obtain ⟨k, hk⟩ := OrdMap.mem_values_iff.mp hd
  rw [(recomputeIndexes_fields t).1, h.devices] at hk
  obtain ⟨d₀, hd₀, rfl⟩ := OrdMap.find?_mapValues_eq_some_iff.mp hk
  exact hnone d₀ (OrdMap.mem_values_iff.mpr ⟨k, hd₀⟩)

theorem recordedFaults_eq_nil_iff :
    s.recordedFaults = [] ↔ ∀ d ∈ s.devices.values, d.faults.faults = [] := by
  simp only [List.eq_nil_iff_forall_not_mem, mem_recordedFaults, not_exists, not_and]
  exact ⟨fun h d hd f => h f d hd, fun h f d hd => h d hd f⟩

/-- A view of the open faults is empty where no fault is on record. -/
theorem idsWhere_openFaults_eq_nil (hnone : ∀ d ∈ s.devices.values, d.faults.faults = [])
    (f : FaultType) : (s.idsWhere fun d => d.faults.openFaults.any fun x => x.type = f) = [] := by
  rw [List.eq_nil_iff_forall_not_mem]
  intro id hid
  obtain ⟨d, hd, hany⟩ := mem_idsWhere.mp hid
  simp [FaultHistory.openFaults, hnone d (OrdMap.mem_values_iff.mpr ⟨id, hd⟩)] at hany

theorem RebuiltFrom.rederivable (h : s.RebuiltFrom t) (hs : s.Sound)
    (hsame : s.AnswersAlike (recomputeIndexes t)) : s.Rederivable := by
  obtain ⟨hindexed, hfaultType⟩ := h.recomputed hs
  have hnone : s.allFaults = [] := List.nil_perm.mp (h.allFaults ▸ hsame.allFaults)
  have hfaults : ∀ d ∈ s.devices.values, d.faults.faults = [] :=
    recordedFaults_eq_nil_iff.mp (List.nil_perm.mp (hnone ▸ hsame.recorded))
  constructor
  · constructor
    · intro state
      rw [← hsame.byHealthState, hindexed.state, h.idsWhere fun _ => rfl]
    · intro r
      rw [← hsame.byReadiness, hindexed.readiness, h.idsWhere fun _ => rfl]
    · rw [← hsame.quarantined, hindexed.quarantine, h.idsWhere fun _ => rfl]
  · exact hnone
  · exact hfaults
  · intro f
    rw [← hsame.byFaultType, hfaultType, idsWhere_openFaults_eq_nil hfaults]
  · rw [← hsame.staleEvidence, staleEvidence_recomputed]

theorem RebuiltFrom.answersAlike (h : s.RebuiltFrom t) (hs : s.Sound) (hre : s.Rederivable) :
    s.AnswersAlike (recomputeIndexes t) := by
  obtain ⟨hindexed, hfaultType⟩ := h.recomputed hs
  constructor
  · intro state
    rw [hindexed.state, hre.indexed.state, h.idsWhere fun _ => rfl]
  · intro r
    rw [hindexed.readiness, hre.indexed.readiness, h.idsWhere fun _ => rfl]
  · intro f
    rw [hfaultType, hre.byFaultType, idsWhere_openFaults_eq_nil hre.faults]
  · rw [hindexed.quarantine, hre.indexed.quarantine, h.idsWhere fun _ => rfl]
  · exact h.revalidationRequired
  · rw [staleEvidence_recomputed, hre.staleEvidence]
  · rw [h.allFaults, hre.allFaults]
  · rw [hre.allFaults, recordedFaults_eq_nil_iff.mpr hre.faults]
  · rw [h.allFaults, recordedFaults_eq_nil_iff.mpr (h.faults hre.faults)]
  · exact h.accounting

end Reloaded

/-- Loading a store's own image brings back every view exactly when the views say no more
than their rebuilding finds. -/
theorem reload_restores_views_iff (s out : HealthStore) (data : Bytes) (h : s.Reachable)
    (hdata : encodeStateInternal s = .ok data)
    (hok : (decodeStateInternal data out).result = .ok ()) :
    s.AnswersAlike (decodeStateInternal data out).state ↔ s.Rederivable := by
  have hs := reachable_sound h
  obtain ⟨t, ht, hstate⟩ := hs.rebuilt hdata hok
  rw [hstate]
  exact ⟨ht.rederivable hs, ht.answersAlike hs⟩

/-- A device that is observed and has no fault on record. -/
theorem reload_restores_views_after_bringUp :
    ∃ data, encodeStateInternal (after {} 0 bringUp) = .ok data ∧
      (after {} 0 bringUp).AnswersAlike (decodeStateInternal data (init {} 0)).state := by
  have hreachable : (after {} 0 bringUp).Reachable := ⟨{}, 0, bringUp, rfl⟩
  have hload : (after {} 0 bringUp).Loadable :=
    ⟨by decide +kernel, by decide +kernel, by decide +kernel, by decide +kernel⟩
  obtain ⟨data, hdata, hok⟩ := (reachable_sound hreachable).reloads hload (init {} 0)
  refine ⟨data, hdata, (reload_restores_views_iff _ _ data hreachable hdata hok).mpr ?_⟩
  constructor
  · exact ⟨by decide +kernel, by decide +kernel, by decide +kernel⟩
  · decide +kernel
  · decide +kernel
  · decide +kernel
  · decide +kernel

/-- One recorded fault. -/
def faulted : List Call := [
  (Op.registerDevice ⟨7⟩ ⟨1⟩).at 1,
  (Op.recordFault { id := ⟨1⟩, accelerator := ⟨7⟩ }).at 1]

/-- The fault is in the device's history after the load, and gone from the list of all
faults. -/
theorem reload_loses_fault_view :
    (after {} 0 faulted).Reachable ∧ ∃ data, encodeStateInternal (after {} 0 faulted) = .ok data ∧
      (decodeStateInternal data (init {} 0)).result = .ok () ∧
      ¬(after {} 0 faulted).AnswersAlike (decodeStateInternal data (init {} 0)).state := by
  have hreachable : (after {} 0 faulted).Reachable := ⟨{}, 0, faulted, rfl⟩
  have hs := reachable_sound hreachable
  have hload : (after {} 0 faulted).Loadable :=
    ⟨by decide +kernel, by decide +kernel, by decide +kernel, by decide +kernel⟩
  obtain ⟨data, hdata, hok⟩ := hs.reloads hload (init {} 0)
  refine ⟨hreachable, data, hdata, hok, fun h => ?_⟩
  obtain ⟨t, ht, hstate⟩ := hs.rebuilt hdata hok
  have hlength := h.allFaults.length_eq
  have hbefore : (after {} 0 faulted).allFaults.length = 1 := by decide +kernel
  have hafter : (decodeStateInternal data (init {} 0)).state.allFaults = [] := by
    rw [hstate]
    exact ht.allFaults
  rw [hbefore, hafter] at hlength
  cases hlength

end HealthStore
end AcceleratorHealth
