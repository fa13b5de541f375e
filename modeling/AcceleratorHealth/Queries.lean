import AcceleratorHealth.Store

/-! The queries on a store: lists read off the indexes, lists and counts computed from
the records, and how the index updates change what a query lists. -/
namespace AcceleratorHealth

namespace Index
variable {κ : Type} [LinearOrder κ]

/-- The ids listed under a key, in increasing order. -/
def ids (index : Index κ) (k : κ) : List AcceleratorId :=
  match index.find? k with
  | none => []
  | some ids => ids.keys

/-- The id is listed under one key at most. -/
def ListedOnce (index : Index κ) (id : AcceleratorId) : Prop :=
  ∀ k k', id ∈ index.ids k → id ∈ index.ids k' → k = k'

/-- No id is listed under two keys. -/
def Exclusive (index : Index κ) : Prop :=
  ∀ k k' id, id ∈ index.ids k → id ∈ index.ids k' → k = k'

theorem mem_ids_iff {index : Index κ} {k : κ} {id : AcceleratorId} :
    id ∈ index.ids k ↔ ((index.find? k).getD .empty).contains id = true := by
  unfold ids
  cases index.find? k with
  | none => simp [OrdMap.contains]
  | some ids =>
    rw [OrdMap.mem_keys_iff, Option.getD_some, OrdMap.contains, Option.isSome_iff_exists]

theorem ids_sorted (index : Index κ) (k : κ) : (index.ids k).Pairwise (· < ·) := by
  unfold ids
  split
  · exact .nil
  · exact List.pairwise_map.mpr (OrdMap.sorted _)

theorem mem_ids_empty {k : κ} {id : AcceleratorId} : id ∉ Index.ids (OrdMap.empty) k := by
  simp [ids]

theorem mem_ids_insert {index : Index κ} {k k' : κ} {set : OrdMap.Keys AcceleratorId}
    {id : AcceleratorId} :
    id ∈ Index.ids (index.insert k set) k' ↔
      if k' = k then set.contains id = true else id ∈ index.ids k' := by
  rw [mem_ids_iff, OrdMap.find?_insert]
  split_ifs
  · rfl
  · exact mem_ids_iff.symm

theorem contains_insert {ids : OrdMap.Keys AcceleratorId} {id id' : AcceleratorId} :
    OrdMap.contains (ids.insert id ()) id' = true ↔ id' = id ∨ ids.contains id' = true := by
  rw [OrdMap.contains, OrdMap.find?_insert]
  by_cases h : id' = id
  · simp [h]
  · simp [h, OrdMap.contains]

theorem contains_erase {ids : OrdMap.Keys AcceleratorId} {id id' : AcceleratorId} :
    OrdMap.contains (ids.erase id) id' = true ↔ id' ≠ id ∧ ids.contains id' = true := by
  rw [OrdMap.contains, OrdMap.find?_erase]
  by_cases h : id' = id
  · simp [h]
  · simp [h, OrdMap.contains]

theorem mem_ids_add {index : Index κ} {k k' : κ} {id id' : AcceleratorId} :
    id' ∈ (index.add k id).ids k' ↔ (k' = k ∧ id' = id) ∨ id' ∈ index.ids k' := by
  rw [add, mem_ids_insert]
  split_ifs with hk
  · rw [contains_insert, ← mem_ids_iff, hk]
    tauto
  · simp [hk]

/-- The search for the set to leave stops at the first; there is no other. -/
theorem mem_ids_remove_of_listedOnce {index : Index κ} {id : AcceleratorId}
    (honce : index.ListedOnce id) {k : κ} {id' : AcceleratorId} :
    id' ∈ (index.remove id).ids k ↔ id' ≠ id ∧ id' ∈ index.ids k := by
  have hmem : ∀ e ∈ index.entries, e.2.contains id = true → id ∈ index.ids e.1 := by
    intro e he hc
    rw [mem_ids_iff, OrdMap.find?_eq_some_iff.mpr he]
    exact hc
  unfold remove
  cases hfind : index.entries.find? fun e => e.2.contains id with
  | none =>
    rw [List.find?_eq_none] at hfind
    simp only
    refine ⟨fun h => ⟨?_, h⟩, And.right⟩
    rintro rfl
    unfold ids at h
    split at h
    · simp at h
    next set hset =>
      obtain ⟨u, hu⟩ := OrdMap.mem_keys_iff.mp h
      apply hfind _ (OrdMap.find?_eq_some_iff.mp hset)
      simp [OrdMap.contains, hu]
  | some e =>
    have he := List.mem_of_find?_eq_some hfind
    have hin : id ∈ index.ids e.1 := hmem e he (by simpa using List.find?_some hfind)
    have hset : index.find? e.1 = some e.2 := OrdMap.find?_eq_some_iff.mpr he
    change id' ∈ Index.ids (index.insert e.1 (e.2.erase id)) k ↔ _
    rw [mem_ids_insert]
    split_ifs with hk
    · rw [contains_erase, hk, mem_ids_iff, hset, Option.getD_some]
    · refine ⟨fun h => ⟨?_, h⟩, And.right⟩
      rintro rfl
      exact hk (honce _ _ h hin)

theorem mem_ids_remove {index : Index κ} (hex : index.Exclusive) {k : κ} {id id' : AcceleratorId} :
    id' ∈ (index.remove id).ids k ↔ id' ≠ id ∧ id' ∈ index.ids k :=
  mem_ids_remove_of_listedOnce fun k k' => hex k k' id

/-- Moving one id keeps every id under one key. -/
theorem exclusive_move {index : Index κ} (hex : index.Exclusive) (k : κ) (id : AcceleratorId) :
    ((index.remove id).add k id).Exclusive := by
  intro k₁ k₂ id' h₁ h₂
  rw [mem_ids_add, mem_ids_remove hex] at h₁ h₂
  rcases h₁ with ⟨rfl, rfl⟩ | ⟨hne, h₁⟩
  · rcases h₂ with ⟨rfl, -⟩ | ⟨hne, -⟩
    · rfl
    · exact absurd rfl hne
  · rcases h₂ with ⟨-, rfl⟩ | ⟨-, h₂⟩
    · exact absurd rfl hne
    · exact hex _ _ _ h₁ h₂

theorem mem_ids_foldl_add {α : Type} {key : α → κ} {id : α → AcceleratorId} {l : List α}
    {index : Index κ} {k : κ} {id' : AcceleratorId} :
    id' ∈ Index.ids (l.foldl (fun index x => index.add (key x) (id x)) index) k ↔
      (∃ x ∈ l, key x = k ∧ id x = id') ∨ id' ∈ index.ids k := by
  induction l generalizing index with
  | nil => simp
  | cons x rest ih =>
    rw [List.foldl_cons, ih, mem_ids_add]
    simp only [List.exists_mem_cons_iff, eq_comm (a := k), eq_comm (a := id')]
    constructor
    · rintro (h | h | h)
      · exact Or.inl (Or.inr h)
      · exact Or.inl (Or.inl h)
      · exact Or.inr h
    · rintro ((h | h) | h)
      · exact Or.inr (Or.inl h)
      · exact Or.inl h
      · exact Or.inr (Or.inr h)

end Index

structure Accounting where
  tracked : UInt64 := 0
  healthy : UInt64 := 0
  degraded : UInt64 := 0
  unhealthy : UInt64 := 0
  failed : UInt64 := 0
  quarantined : UInt64 := 0
  recovering : UInt64 := 0
  stale : UInt64 := 0
  validationRecords : UInt64 := 0
  unresolvedFaults : UInt64 := 0
  resolvedFaults : UInt64 := 0

namespace Accounting

def countIf (b : Bool) (n : UInt64) : UInt64 := if b then n + 1 else n

/-- The first pass: one device. -/
def visit (a : Accounting) (d : Device) : Accounting :=
  { a with
    tracked := a.tracked + 1
    healthy := countIf (d.state = .healthy) a.healthy
    degraded := countIf (d.state = .degraded) a.degraded
    unhealthy := countIf (d.state = .unhealthy) a.unhealthy
    failed := countIf (d.state = .failed) a.failed
    quarantined := countIf (d.state = .quarantined) a.quarantined
    recovering := countIf d.inRecovery a.recovering
    validationRecords := a.validationRecords + UInt64.ofNat d.validations.length
    unresolvedFaults :=
      d.faults.faults.foldl (fun n f => countIf (f.resolution = .open) n) a.unresolvedFaults
    resolvedFaults :=
      d.faults.faults.foldl (fun n f => countIf (f.resolution ≠ .open) n) a.resolvedFaults }

/-- The second pass, which reads the clock once for each device. -/
def visitStale (policy : HealthPolicy) (clk : Readings) (a : Accounting) (d : Device × Nat) :
    Accounting :=
  { a with stale := countIf (policy.freshnessOf d.1.lastObservation (clk d.2)).isOld a.stale }

end Accounting

namespace HealthStore

def deviceIds (s : HealthStore) : List AcceleratorId := s.devices.keys

def byHealthState (state : HealthState) (s : HealthStore) : List AcceleratorId :=
  s.stateIndex.ids state

def byReadiness (r : ReadinessState) (s : HealthStore) : List AcceleratorId :=
  s.readinessIndex.ids r

def byFaultType (t : FaultType) (s : HealthStore) : List AcceleratorId := s.faultIndex.ids t

def quarantined (s : HealthStore) : List AcceleratorId := s.quarantineIndex.keys

def revalidationRequired (s : HealthStore) : List AcceleratorId :=
  (s.devices.entries.filter fun e =>
    e.2.readiness = .revalidationRequired || e.2.readiness = .notReady).map Prod.fst

def staleEvidence (s : HealthStore) : List AcceleratorId := s.staleIndex.keys

def faultsOf (id : AcceleratorId) (s : HealthStore) : List Fault :=
  match s.devices.find? id with
  | none => []
  | some d => d.faults.faults

def assessmentOf (id : AcceleratorId) (s : HealthStore) : HealthAssessment :=
  match s.devices.find? id with
  | none => {}
  | some d => d.latestAssessment

def allFaults (s : HealthStore) : List Fault := s.globalFaults

def recomputeAccounting (clk : Readings) (s : HealthStore) : Accounting :=
  s.devices.values.zipIdx.foldl (.visitStale s.policy clk) (s.devices.values.foldl .visit {})

def accounting (clk : Readings) (s : HealthStore) : Accounting := s.recomputeAccounting clk

end HealthStore
end AcceleratorHealth
