import AcceleratorHealth.Agreement
import AcceleratorHealth.Loops
import AcceleratorHealth.Queries

/-! Reassessing twice. What the engine asks for depends on the state it replaces, but it asks
for the same again of a device that it has just assessed, so a second pass at the same
reading finds nothing to do. -/
namespace AcceleratorHealth
open Locked

/-! ### The target as a fixpoint -/

namespace AssessmentInput
variable (i : AssessmentInput)

theorem recoveryTarget_idem (s : HealthState) :
    recoveryTarget (recoveryTarget s) = recoveryTarget s := by
  cases s <;> rfl

/-- Of a device in the state it asks for, the evidence asks for nothing else. -/
theorem target_target : { i with currentState := i.target }.target = i.target := by
  change (if i.inRecovery = true then recoveryTarget i.target
    else if i.quarantined = true then .quarantined
    else if (i.faultStats.hasOpenFatal || i.scan.anyFatalDim) = true then .failed
    else if i.scan.anyFailed = true then .unhealthy
    else if i.faultStats.hasOpenCritical
        ∧ i.policy.quarantineAfterFailures.toInt32 ≤ i.consecutive then .quarantined
    else if i.policy.unhealthyAfterFailures.toInt32 ≤ i.consecutive then .unhealthy
    else if i.policy.degradeAfterFailures.toInt32 ≤ i.consecutive then .degraded
    else if i.freshness.isOld = true then
      if i.target = .healthy then .degraded else i.target
    else .healthy) = i.target
  -- the same rule applies both times; only the first and the last but one look at the state
  by_cases hrecovery : i.inRecovery = true
  · have htarget : i.target = recoveryTarget i.currentState := if_pos hrecovery
    rw [if_pos hrecovery, htarget, recoveryTarget_idem]
  by_cases hquarantined : i.quarantined = true
  · unfold target
    rw [if_neg hrecovery, if_pos hquarantined,
      if_neg hrecovery, if_pos hquarantined]
  by_cases hfatal : (i.faultStats.hasOpenFatal || i.scan.anyFatalDim) = true
  · unfold target
    rw [if_neg hrecovery, if_neg hquarantined, if_pos hfatal,
      if_neg hrecovery, if_neg hquarantined, if_pos hfatal]
  by_cases hfailed : i.scan.anyFailed = true
  · unfold target
    rw [if_neg hrecovery, if_neg hquarantined, if_neg hfatal, if_pos hfailed,
      if_neg hrecovery, if_neg hquarantined, if_neg hfatal, if_pos hfailed]
  by_cases hcritical : i.faultStats.hasOpenCritical = true ∧
      i.policy.quarantineAfterFailures.toInt32 ≤ i.consecutive
  · unfold target
    rw [if_neg hrecovery, if_neg hquarantined, if_neg hfatal, if_neg hfailed, if_pos hcritical,
      if_neg hrecovery, if_neg hquarantined, if_neg hfatal, if_neg hfailed, if_pos hcritical]
  by_cases hunhealthy : i.policy.unhealthyAfterFailures.toInt32 ≤ i.consecutive
  · unfold target
    rw [if_neg hrecovery, if_neg hquarantined, if_neg hfatal, if_neg hfailed, if_neg hcritical,
      if_pos hunhealthy, if_neg hrecovery, if_neg hquarantined, if_neg hfatal, if_neg hfailed,
      if_neg hcritical, if_pos hunhealthy]
  by_cases hdegrade : i.policy.degradeAfterFailures.toInt32 ≤ i.consecutive
  · unfold target
    rw [if_neg hrecovery, if_neg hquarantined, if_neg hfatal, if_neg hfailed, if_neg hcritical,
      if_neg hunhealthy, if_pos hdegrade, if_neg hrecovery, if_neg hquarantined, if_neg hfatal,
      if_neg hfailed, if_neg hcritical, if_neg hunhealthy, if_pos hdegrade]
  have htarget : i.target = if i.freshness.isOld = true then
      if i.currentState = .healthy then .degraded else i.currentState else .healthy := by
    unfold target
    rw [if_neg hrecovery, if_neg hquarantined, if_neg hfatal, if_neg hfailed, if_neg hcritical,
      if_neg hunhealthy, if_neg hdegrade]
  rw [if_neg hrecovery, if_neg hquarantined, if_neg hfatal, if_neg hfailed, if_neg hcritical,
    if_neg hunhealthy, if_neg hdegrade, htarget]
  by_cases hold : i.freshness.isOld = true
  · rw [if_pos hold, if_pos hold]
    split_ifs <;> simp_all
  · rw [if_neg hold, if_neg hold]

/-- The current state matters to an assessment only for the target. -/
theorem assess_of_target {s : HealthState} (h : { i with currentState := s }.target = i.target) :
    { i with currentState := s }.assess = i.assess := by
  unfold assess reasons confidence action digest digestBytes readinessInput
  simp only [h]
  rfl

end AssessmentInput
/-! ### The indexes -/

namespace Index
variable {κ : Type} [LinearOrder κ] {index : Index κ} {k k' : κ} {id id' : AcceleratorId}

theorem mem_ids_move (honce : index.ListedOnce id) :
    id' ∈ ((index.remove id).add k id).ids k' ↔
      if id' = id then k' = k else id' ∈ index.ids k' := by
  rw [mem_ids_add, mem_ids_remove_of_listedOnce honce]
  by_cases h : id' = id <;> simp [h]

theorem insert_erase_of_contains {ids : OrdMap.Keys AcceleratorId} (h : ids.contains id = true) :
    OrdMap.insert (ids.erase id) id () = ids := by
  obtain ⟨u, hu⟩ := Option.isSome_iff_exists.mp h
  apply OrdMap.ext_find?
  intro id'
  rw [OrdMap.find?_insert, OrdMap.find?_erase]
  split_ifs with hid
  · rw [hid, hu]
  · rfl

/-- An id that is listed where it belongs stays there. -/
theorem move_of_listed (h : ∀ k', id ∈ index.ids k' ↔ k' = k) :
    (index.remove id).add k id = index := by
  have hmem : id ∈ index.ids k := (h k).mpr rfl
  obtain ⟨set, hset, hcontains⟩ : ∃ set, index.find? k = some set ∧ set.contains id = true := by
    rw [mem_ids_iff] at hmem
    cases hfind : index.find? k with
    | none => simp [hfind, OrdMap.contains] at hmem
    | some set => exact ⟨set, rfl, by simpa [hfind] using hmem⟩
  have hremove : index.remove id = index.insert k (set.erase id) := by
    have hsome : (index.entries.find? fun e => e.2.contains id).isSome := by
      rw [List.find?_isSome]
      exact ⟨(k, set), OrdMap.find?_eq_some_iff.mp hset, hcontains⟩
    obtain ⟨e, he⟩ := Option.isSome_iff_exists.mp hsome
    have hentry := OrdMap.find?_eq_some_iff.mpr (List.mem_of_find?_eq_some he)
    have hfound : e.2.contains id = true := by simpa using List.find?_some he
    have hkey : e.1 = k := (h e.1).mp (by rw [mem_ids_iff, hentry]; exact hfound)
    rw [hkey, hset] at hentry
    unfold remove
    rw [he]
    change index.insert e.1 (e.2.erase id) = _
    rw [hkey, ← Option.some.inj hentry]
  rw [hremove]
  apply OrdMap.ext_find?
  intro k'
  unfold add
  rw [OrdMap.find?_insert, OrdMap.find?_insert_self, OrdMap.find?_insert, Option.getD_some,
    insert_erase_of_contains hcontains]
  split_ifs with hk
  · rw [hk, hset]
  · rfl

end Index

/-- The device is listed where its state, its readiness and its evidence put it. -/
structure HealthStore.Shelves (s : HealthStore) (now : Timestamp) (d : Device) : Prop where
  state : ∀ x, d.id ∈ s.stateIndex.ids x ↔ x = d.state
  readiness : ∀ x, d.id ∈ s.readinessIndex.ids x ↔ x = d.readiness
  stale : s.staleIndex.contains d.id = (s.policy.freshnessOf d.lastObservation now).isOld

/-- The id is listed at most once in the state index and in the readiness index. -/
structure HealthStore.ListsOnce (s : HealthStore) (id : AcceleratorId) : Prop where
  state : s.stateIndex.ListedOnce id
  readiness : s.readinessIndex.ListedOnce id

/-! ### One device -/

/-- The parts of a store that say where devices are listed. -/
def HealthStore.shelf (s : HealthStore) :=
  (s.policy, s.stateIndex, s.readinessIndex, s.staleIndex)

theorem HealthStore.Shelves.congr {s s' : HealthStore} {now : Timestamp} {d : Device}
    (h : s.Shelves now d) (heq : s'.shelf = s.shelf) : s'.Shelves now d := by
  simp only [shelf, Prod.mk.injEq] at heq
  obtain ⟨hpolicy, hstate, hreadiness, hstale⟩ := heq
  exact ⟨hstate ▸ h.state, hreadiness ▸ h.readiness, hstale ▸ hpolicy ▸ h.stale⟩

theorem HealthStore.ListsOnce.congr {s s' : HealthStore} {id : AcceleratorId}
    (h : s.ListsOnce id) (heq : s'.shelf = s.shelf) : s'.ListsOnce id := by
  simp only [shelf, Prod.mk.injEq] at heq
  exact ⟨heq.2.1 ▸ h.state, heq.2.2.1 ▸ h.readiness⟩

namespace Locked
variable {now : Timestamp} {l l' m : Locked} {blocked : Bool}

/-- The part of a publication that concerns the indexes. -/
def fileIndexes (now : Timestamp) (d : Device) (s : HealthStore) : HealthStore :=
  { s with
    stateIndex := (s.stateIndex.remove d.id).add d.state d.id
    readinessIndex := (s.readinessIndex.remove d.id).add d.readiness d.id
    staleIndex :=
      if (s.policy.freshnessOf d.lastObservation now).isOld then s.staleIndex.insert d.id ()
      else s.staleIndex.erase d.id }

theorem shelves_fileIndexes {s : HealthStore} {d : Device} (honce : s.ListsOnce d.id) :
    (fileIndexes now d s).Shelves now d where
  state x := by simp [fileIndexes, Index.mem_ids_move honce.state]
  readiness x := by simp [fileIndexes, Index.mem_ids_move honce.readiness]
  stale := by
    unfold fileIndexes
    simp only
    split_ifs with hold
    · rw [hold]
      exact Index.contains_insert.mpr (Or.inl rfl)
    · rw [Bool.eq_false_iff.mpr hold, Bool.eq_false_iff]
      exact fun h => (Index.contains_erase.mp h).1 rfl

/-- A device that is listed where it belongs is not moved. -/
theorem fileIndexes_of_shelves {s : HealthStore} {d : Device} (h : s.Shelves now d) :
    fileIndexes now d s = s := by
  have hstale : (if (s.policy.freshnessOf d.lastObservation now).isOld then
      s.staleIndex.insert d.id () else s.staleIndex.erase d.id) = s.staleIndex := by
    rw [← h.stale]
    apply OrdMap.ext_find?
    intro id
    split_ifs with hcontains
    · obtain ⟨u, hu⟩ := Option.isSome_iff_exists.mp hcontains
      rw [OrdMap.insert_eq_self hu]
    · rw [OrdMap.find?_erase]
      split_ifs with hid
      · rw [hid]
        exact (Option.not_isSome_iff_eq_none.mp hcontains).symm
      · rfl
  unfold fileIndexes
  rw [Index.move_of_listed h.state, Index.move_of_listed h.readiness, hstale]

/-- Filing one device does not touch another. -/
theorem shelves_fileIndexes_of_ne {s : HealthStore} {d e : Device} (h : s.Shelves now e)
    (honce : s.ListsOnce d.id) (hne : e.id ≠ d.id) : (fileIndexes now d s).Shelves now e where
  state x := by simpa [fileIndexes, Index.mem_ids_move honce.state, hne] using h.state x
  readiness x := by simpa [fileIndexes, Index.mem_ids_move honce.readiness, hne] using h.readiness x
  stale := by
    refine Eq.trans ?_ h.stale
    unfold fileIndexes OrdMap.contains
    simp only
    split_ifs
    · rw [OrdMap.find?_insert_of_ne _ _ hne]
    · rw [OrdMap.find?_erase, if_neg hne]

theorem listsOnce_fileIndexes (now : Timestamp) {s : HealthStore} {d : Device} {id : AcceleratorId}
    (h : s.ListsOnce id) (honce : s.ListsOnce d.id) : (fileIndexes now d s).ListsOnce id where
  state x y hx hy := by
    simp only [fileIndexes, Index.mem_ids_move honce.state] at hx hy
    split_ifs at hx hy with hid
    · rw [hx, hy]
    · exact h.state x y hx hy
  readiness x y hx hy := by
    simp only [fileIndexes, Index.mem_ids_move honce.readiness] at hx hy
    split_ifs at hx hy with hid
    · rw [hx, hy]
    · exact h.readiness x y hx hy

theorem store_published : (published now l blocked m).store =
    fileIndexes now (published now l blocked m).d m.store := rfl

/-- At `now` a reassessment takes no transition and publishes what is already there. -/
def Rests (now : Timestamp) (l : Locked) : Prop :=
  ∃ blocked, (if blocked then
      target now l ≠ l.d.state ∧ canTransition l.d.state (target now l) = false
    else target now l = l.d.state) ∧ (published now l blocked l).d = l.d

theorem Rests.reassessLocked_eq (clk : Readings) (h : Rests (clk 0) l) :
    reassessLocked clk l = .ok () ⟨fileIndexes (clk 0) l.d l.store, l.d⟩ := by
  obtain ⟨blocked, hcase, hd⟩ := h
  have hpublished : published (clk 0) l blocked l = ⟨fileIndexes (clk 0) l.d l.store, l.d⟩ := by
    have hstore : (published (clk 0) l blocked l).store =
        fileIndexes (clk 0) (published (clk 0) l blocked l).d l.store := store_published
    rw [hd] at hstore
    rw [← hstore]
    exact congrArg (Locked.mk (published (clk 0) l blocked l).store) hd
  rw [← hpublished]
  cases blocked with
  | true => exact reassessLocked_eq_blocked hcase.1 hcase.2
  | false => exact reassessLocked_eq_same hcase

theorem Rests.congr (h : Rests now l) (hd : l'.d = l.d) (hpolicy : l'.store.policy = l.store.policy)
    (hgeneration : l'.store.policyGeneration = l.store.policyGeneration) : Rests now l' := by
  obtain ⟨blocked, hcase, hpublished⟩ := h
  have htarget : target now l' = target now l := by
    unfold target assessmentInput
    rw [hd, hpolicy]
  have hsame : (published now l' blocked l').d = (published now l blocked l).d := by
    unfold published publish verdict assessmentInput readinessInput updateIndexesLocked
    simp only [hd, hpolicy, hgeneration]
  refine ⟨blocked, ?_, by rw [hsame, hpublished, hd]⟩
  rw [htarget, hd]
  exact hcase

/-- Published once more from the same assessment, a device stays as it is. -/
theorem published_published
    (h : (assessmentInput now m).assess = (assessmentInput now l).assess) :
    (published now (published now l blocked m) blocked (published now l blocked m)).d =
      (published now l blocked m).d := by
  have hinput : (assessmentInput now (published now l blocked m)).assess =
      (assessmentInput now l).assess := h
  unfold published at hinput ⊢
  rw [hinput]
  rfl

/-- A reassessment that is not cut short leaves nothing to do at its reading. -/
theorem rests_reassessLocked (clk : Readings) (h : ¬Tears (clk 0) l) :
    Rests (clk 0) (reassessLocked clk l).state := by
  apply reassessLocked_state
  · intro hsame
    exact ⟨false, hsame, published_published rfl⟩
  · intro g hlegal hnext
    have hfixed : (assessmentInput (clk 0) (moved (clk 1) (target (clk 0) l) (str "health")
        (str (enumToString (target (clk 0) l))) g l)).target = target (clk 0) l :=
      (assessmentInput (clk 0) l).target_target
    exact ⟨false, hfixed, published_published ((assessmentInput (clk 0) l).assess_of_target hfixed)⟩
  · intro hdiffers hblocked
    exact ⟨true, ⟨hdiffers, hblocked⟩, published_published rfl⟩
  · intro hlegal hspent
    exact absurd ⟨hlegal, hspent⟩ h

/-- What a reassessment that is not cut short does to the indexes. -/
theorem shelf_reassessLocked (clk : Readings) (h : ¬Tears (clk 0) l) :
    (reassessLocked clk l).state.store.shelf =
      (fileIndexes (clk 0) (reassessLocked clk l).state.d l.store).shelf :=
  reassessLocked_state
    (P := fun l' : Locked => l'.store.shelf = (fileIndexes (clk 0) l'.d l.store).shelf)
    (fun _ => rfl) (fun _ _ _ => rfl) (fun _ _ => rfl)
    fun hlegal hspent => absurd ⟨hlegal, hspent⟩ h

end Locked
/-! ### The store -/

namespace HealthStore
variable {now : Timestamp} {s : HealthStore} {k j : AcceleratorId}

/-- A reassessment of the device at `now` finds nothing to do. -/
def Still (now : Timestamp) (k : AcceleratorId) (s : HealthStore) : Prop :=
  ∀ d, s.devices.find? k = some d → Rests now ⟨s, d⟩ ∧ s.Shelves now d

theorem Still.reassess_eq (h : s.Still now k) : s.reassess (fun _ => now) k = .ok () s := by
  unfold HealthStore.reassess
  cases hd : s.devices.find? k with
  | none => exact onDevice_none hd
  | some d =>
    obtain ⟨hrests, hshelves⟩ := h d hd
    rw [onDevice_some hd, Rests.reassessLocked_eq (fun _ => now) hrests,
      fileIndexes_of_shelves hshelves]
    change Exit.ok () { s with devices := s.devices.insert k d } = _
    rw [OrdMap.insert_eq_self hd]

/-- What a reassessment that is not cut short leaves of the store. -/
structure Reassessed (now : Timestamp) (k : AcceleratorId) (d : Device) (s s' : HealthStore)
    (d' : Device) : Prop where
  devices : s'.devices = s.devices.insert k d'
  policyGeneration : s'.policyGeneration = s.policyGeneration
  shelf : s'.shelf = (fileIndexes now d' s).shelf
  id : d'.id = d.id
  rests : Rests now ⟨s', d'⟩

theorem exists_reassessed {d : Device} (hd : s.devices.find? k = some d) (h : ¬Tears now ⟨s, d⟩) :
    ∃ s' d', s.reassess (fun _ => now) k = .ok () s' ∧ Reassessed now k d s s' d' := by
  have hkeeps := (advances_reassessLocked (fun _ => now) ⟨s, d⟩).continues
  have hresult : (reassessLocked (fun _ => now) ⟨s, d⟩).result = .ok () :=
    reassessLocked_returns_iff.mpr h
  refine ⟨(reassessLocked (fun _ => now) ⟨s, d⟩).state.commit k, _, ?_, ?_, ?_, ?_, hkeeps.id, ?_⟩
  · unfold HealthStore.reassess
    rw [onDevice_some hd]
    unfold Exit.mapState
    rw [hresult]
    rfl
  · exact congrArg (fun devices => OrdMap.insert devices k _) hkeeps.devices
  · exact hkeeps.policyGeneration
  · exact shelf_reassessLocked (fun _ => now) h
  · exact (rests_reassessLocked (fun _ => now) h).congr rfl rfl rfl

namespace Reassessed
variable {d d' : Device} {s' : HealthStore}

theorem still (h : Reassessed now k d s s' d') (honce : s.ListsOnce d.id) : s'.Still now k := by
  intro e he
  rw [h.devices, OrdMap.find?_insert_self] at he
  cases he
  exact ⟨h.rests, (shelves_fileIndexes (h.id ▸ honce)).congr h.shelf⟩

theorem find?_of_ne (h : Reassessed now k d s s' d') (hne : j ≠ k) :
    s'.devices.find? j = s.devices.find? j := by
  rw [h.devices, OrdMap.find?_insert_of_ne _ _ hne]

end Reassessed

/-- Reassessing one device twice is reassessing it once. -/
theorem reassess_reassess
    (h : ∀ d, s.devices.find? k = some d → ¬Tears now ⟨s, d⟩ ∧ s.ListsOnce d.id) :
    ∃ s', s.reassess (fun _ => now) k = .ok () s' ∧ s'.reassess (fun _ => now) k = .ok () s' := by
  cases hd : s.devices.find? k with
  | none =>
    have hmissing : s.reassess (fun _ => now) k = .ok () s := onDevice_none hd
    exact ⟨s, hmissing, hmissing⟩
  | some d =>
    obtain ⟨hwhole, honce⟩ := h d hd
    obtain ⟨s', d', heq, hreassessed⟩ := exists_reassessed hd hwhole
    exact ⟨s', heq, (hreassessed.still honce).reassess_eq⟩

/-! ### All devices -/

/-- Between two turns of a pass: the devices whose turn is over rest, the others have a health
generation left for a transition. -/
structure Sweeping (now : Timestamp) (rest : List AcceleratorId) (s : HealthStore) : Prop where
  filed : ∀ j d, s.devices.find? j = some d → d.id = j
  once : ∀ j d, s.devices.find? j = some d → s.ListsOnce d.id
  turns : rest.Nodup
  room : ∀ j ∈ rest, ∀ d, s.devices.find? j = some d → d.healthGeneration ≠ .last
  still : ∀ j ∉ rest, s.Still now j

theorem Sweeping.turn {rest : List AcceleratorId} (h : Sweeping now (k :: rest) s) :
    ∃ s', s.reassess (fun _ => now) k = .ok () s' ∧ Sweeping now rest s' := by
  obtain ⟨hk, hrest⟩ := List.nodup_cons.mp h.turns
  cases hd : s.devices.find? k with
  | none =>
    refine ⟨s, onDevice_none hd, h.filed, h.once, hrest,
      fun j hj => h.room j (List.mem_cons_of_mem k hj), fun j hj => ?_⟩
    by_cases hjk : j = k
    · intro d hd'
      rw [hjk, hd] at hd'
      cases hd'
    · exact h.still j (by simp [hjk, hj])
  | some d =>
    have hwhole : ¬Tears now ⟨s, d⟩ := fun htears => h.room k List.mem_cons_self d hd htears.2
    obtain ⟨s', d', heq, hre⟩ := exists_reassessed hd hwhole
    have honce := h.once k d hd
    have hid : d'.id = k := hre.id.trans (h.filed k d hd)
    have hself : s'.devices.find? k = some d' := by rw [hre.devices, OrdMap.find?_insert_self]
    refine ⟨s', heq, ?_, ?_, hrest, ?_, ?_⟩
    · intro j e he
      by_cases hjk : j = k
      · subst hjk
        cases hself.symm.trans he
        exact hid
      · exact h.filed j e (hre.find?_of_ne hjk ▸ he)
    · intro j e he
      refine (listsOnce_fileIndexes now ?_ (hre.id ▸ honce)).congr hre.shelf
      by_cases hjk : j = k
      · subst hjk
        cases hself.symm.trans he
        exact hre.id ▸ honce
      · exact h.once j e (hre.find?_of_ne hjk ▸ he)
    · intro j hj e he
      have hjk : j ≠ k := fun hjk => hk (hjk ▸ hj)
      exact h.room j (List.mem_cons_of_mem k hj) e (hre.find?_of_ne hjk ▸ he)
    · intro j hj
      by_cases hjk : j = k
      · exact hjk ▸ hre.still honce
      · intro e he
        have he' : s.devices.find? j = some e := hre.find?_of_ne hjk ▸ he
        obtain ⟨hrests, hshelves⟩ := h.still j (by simp [hjk, hj]) e he'
        have hne : e.id ≠ d'.id := by rw [h.filed j e he', hid]; exact hjk
        exact ⟨hrests.congr rfl (congrArg Prod.fst hre.shelf) hre.policyGeneration,
          (shelves_fileIndexes_of_ne hshelves (hre.id ▸ honce) hne).congr hre.shelf⟩

theorem reassessAll_eq (now : Timestamp) (s : HealthStore) : s.reassessAll (fun _ => now) =
    Exit.each (fun e => HealthStore.reassess (fun _ => now) e.1) s.devices.keys.zipIdx s := rfl

/-- A pass over devices that all have a health generation left leaves every one at rest. -/
theorem exists_reassessAll (now : Timestamp) (hfiled : ∀ j d, s.devices.find? j = some d → d.id = j)
    (honce : ∀ j d, s.devices.find? j = some d → s.ListsOnce d.id)
    (hroom : s.AllDevices fun d => d.healthGeneration ≠ .last) :
    ∃ s', s.reassessAll (fun _ => now) = .ok () s' ∧ ∀ j, s'.Still now j := by
  have hstart : Sweeping now (s.devices.keys.zipIdx.map Prod.fst) s := by
    rw [List.zipIdx_map_fst]
    refine ⟨hfiled, honce, s.devices.keys_nodup, fun j _ d => hroom j d, fun j hj d hd => ?_⟩
    exact absurd (OrdMap.mem_keys_iff.mpr ⟨d, hd⟩) hj
  have hsat := Exit.each_sat (I := fun rest t => Sweeping now (rest.map Prod.fst) t)
    (R := fun _ _ => False) (f := fun e => HealthStore.reassess (fun _ => now) e.1)
    (fun e rest t ht => by
      obtain ⟨t', heq, hnext⟩ := ht.turn
      rw [heq]
      exact hnext) _ s hstart
  rw [← reassessAll_eq] at hsat
  obtain ⟨hok, herror⟩ := Exit.sat_iff.mp hsat
  cases hres : (s.reassessAll fun _ => now).result with
  | error e => exact (herror e hres).elim
  | ok u =>
    refine ⟨_, ?_, fun j => (hok u hres).still j (by simp)⟩
    exact congrArg (Exit.mk _) hres

/-- Reassessment is idempotent: at one reading, a second pass over one device or over all of
them finds nothing to do. -/
theorem reassess_idempotent (hs : s.Reachable)
    (honce : s.AllDevices fun d => s.ListsOnce d.id)
    (hroom : s.AllDevices fun d => d.healthGeneration ≠ .last) (now : Timestamp) :
    (∀ k, ∃ s', s.reassess (fun _ => now) k = .ok () s' ∧
      s'.reassess (fun _ => now) k = .ok () s') ∧
    ∃ s', s.reassessAll (fun _ => now) = .ok () s' ∧
      s'.reassessAll (fun _ => now) = .ok () s' := by
  constructor
  · intro k
    exact reassess_reassess fun d hd =>
      ⟨fun htears => hroom k d hd htears.2, honce k d hd⟩
  · obtain ⟨s', heq, hstill⟩ :=
      exists_reassessAll now (fun j d hd => (reachable_filed hs j d hd).1) honce hroom
    refine ⟨s', heq, ?_⟩
    rw [reassessAll_eq]
    exact Exit.each_of_fixed fun e _ => (hstill e.1).reassess_eq

/-- Ten minutes after it was brought up, device 7 is found on expired evidence once. -/
theorem reassess_idempotent_after_bringUp :
    ∃ s', (after {} 0 bringUp).reassessAll (fun _ => ⟨600000000000⟩) = .ok () s' ∧
      s'.reassessAll (fun _ => ⟨600000000000⟩) = .ok () s' :=
  (reassess_idempotent ⟨{}, 0, bringUp, rfl⟩
    (fun k d hd => by
      have hlisted : (after {} 0 bringUp).AllDevices fun d =>
          (∀ x y, d.id ∈ (after {} 0 bringUp).stateIndex.ids x →
            d.id ∈ (after {} 0 bringUp).stateIndex.ids y → x = y) ∧
          ∀ x y, d.id ∈ (after {} 0 bringUp).readinessIndex.ids x →
            d.id ∈ (after {} 0 bringUp).readinessIndex.ids y → x = y := by decide +kernel
      exact ⟨(hlisted k d hd).1, (hlisted k d hd).2⟩)
    (by decide +kernel) ⟨600000000000⟩).2

end HealthStore
end AcceleratorHealth
