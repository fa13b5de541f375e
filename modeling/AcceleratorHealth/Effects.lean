import AcceleratorHealth.Operations

/-! From bodies to calls: how a call changes the store around the devices, and which
body, if any, has run on a given device. -/
namespace AcceleratorHealth

namespace HealthStore

/-- The same devices under the same uuids, and observation generations that only grow. -/
structure Frame (s s' : HealthStore) : Prop where
  uuidIndex : s'.uuidIndex = s.uuidIndex
  keys : s'.devices.keys = s.devices.keys
  fence : ∀ key g, s.lastObservedGeneration.find? key = some g →
    ∃ g', s'.lastObservedGeneration.find? key = some g' ∧ g ≤ g'

namespace Frame

theorem refl (s : HealthStore) : Frame s s := ⟨rfl, rfl, fun _ g h => ⟨g, h, Nat.le_refl _⟩⟩

theorem trans {s s' s'' : HealthStore} (h : Frame s s') (h' : Frame s' s'') : Frame s s'' where
  uuidIndex := h'.uuidIndex.trans h.uuidIndex
  keys := h'.keys.trans h.keys
  fence key g hg := by
    obtain ⟨g₁, hg₁, hle₁⟩ := h.fence key g hg
    obtain ⟨g₂, hg₂, hle₂⟩ := h'.fence key g₁ hg₁
    exact ⟨g₂, hg₂, Nat.le_trans hle₁ hle₂⟩

theorem of_eq {s s' : HealthStore} (h : s'.uuidIndex = s.uuidIndex)
    (h' : s'.devices.keys = s.devices.keys)
    (h'' : s'.lastObservedGeneration = s.lastObservedGeneration) : Frame s s' :=
  ⟨h, h', fun _ g hg => ⟨g, h'' ▸ hg, Nat.le_refl _⟩⟩

end Frame

/-- What a call that only works on devices leaves in the rest of the store. -/
structure Evolves (s s' : HealthStore) : Prop extends Frame s s' where
  policy : s'.policy = s.policy
  policyGeneration : s'.policyGeneration = s.policyGeneration
  coordinatorEpoch : s'.coordinatorEpoch = s.coordinatorEpoch
  registry : s'.workerBootRegistry = s.workerBootRegistry

namespace Evolves

theorem refl (s : HealthStore) : Evolves s s := ⟨.refl s, rfl, rfl, rfl, rfl⟩

theorem trans {s s' s'' : HealthStore} (h : Evolves s s') (h' : Evolves s' s'') :
    Evolves s s'' where
  toFrame := h.toFrame.trans h'.toFrame
  policy := h'.policy.trans h.policy
  policyGeneration := h'.policyGeneration.trans h.policyGeneration
  coordinatorEpoch := h'.coordinatorEpoch.trans h.coordinatorEpoch
  registry := h'.registry.trans h.registry

theorem of_continues {s : HealthStore} {k : AcceleratorId} {d : Device} {l' : Locked}
    (hd : s.devices.find? k = some d) (h : Locked.Continues ⟨s, d⟩ l') :
    Evolves s (l'.commit k) where
  policy := h.policy
  policyGeneration := h.policyGeneration
  coordinatorEpoch := h.coordinatorEpoch
  registry := h.registry
  uuidIndex := h.uuidIndex
  keys := by
    change (l'.store.devices.insert k l'.d).keys = _
    rw [h.devices]
    exact OrdMap.keys_insert_of_mem hd
  fence := h.fence

end Evolves

theorem find?_commit {s : HealthStore} {d : Device} {l' : Locked}
    (h : Locked.Continues ⟨s, d⟩ l') (id k : AcceleratorId) :
    (l'.commit id).devices.find? k = if k = id then some l'.d else s.devices.find? k := by
  change (l'.store.devices.insert id l'.d).find? k = _
  rw [h.devices, OrdMap.find?_insert]

section OnDevice
variable {α : Type} {id : AcceleratorId} {missing : Except Exn α}
  {body : Locked → Exit Exn Locked α} {s : HealthStore}

theorem onDevice_none (h : s.devices.find? id = none) :
    onDevice id missing body s = ⟨s, missing⟩ := by
  simp only [onDevice, h]

theorem onDevice_some {d : Device} (h : s.devices.find? id = some d) :
    onDevice id missing body s = (body ⟨s, d⟩).mapState (Locked.commit id) := by
  simp only [onDevice, h]

/-- The device that a body has run on. -/
theorem find?_onDevice_self {d : Device} (hd : s.devices.find? id = some d)
    (hbody : Locked.Continues ⟨s, d⟩ (body ⟨s, d⟩).state) :
    (onDevice id missing body s).state.devices.find? id = some (body ⟨s, d⟩).state.d := by
  rw [onDevice_some hd, Exit.mapState_state, find?_commit hbody, if_pos rfl]

theorem onDevice_evolves (hbody : ∀ l, Locked.Continues l (body l).state) :
    Evolves s (onDevice id missing body s).state := by
  cases h : s.devices.find? id with
  | none =>
    rw [onDevice_none h]
    exact .refl s
  | some d =>
    rw [onDevice_some h]
    exact .of_continues h (hbody _)

/-- After a call on one device every device is as before or as its body left it. -/
theorem onDevice_device (hbody : ∀ l, Locked.Continues l (body l).state) {k : AcceleratorId}
    {d' : Device} (h : (onDevice id missing body s).state.devices.find? k = some d') :
    ∃ d, s.devices.find? k = some d ∧
      (d' = d ∨ k = id ∧ d' = (body ⟨s, d⟩).state.d) := by
  cases hd : s.devices.find? id with
  | none =>
    rw [onDevice_none hd] at h
    exact ⟨d', h, Or.inl rfl⟩
  | some d =>
    rw [onDevice_some hd, Exit.mapState_state, find?_commit (hbody _)] at h
    split_ifs at h with hk
    · cases h
      exact ⟨d, hk ▸ hd, Or.inr ⟨hk, rfl⟩⟩
    · exact ⟨d', h, Or.inl rfl⟩

end OnDevice

section ForDevices
variable {body : Nat → Locked → Exit Exn Locked Unit} {s : HealthStore}

/-- The body has run on a device, in a store that differs from `s` only by other turns. -/
def Visited (body : Nat → Locked → Exit Exn Locked Unit) (s : HealthStore) (d d' : Device)
    (result : Except Exn Unit → Prop) : Prop :=
  ∃ i s₁, Evolves s s₁ ∧ result (body i ⟨s₁, d⟩).result ∧ d' = (body i ⟨s₁, d⟩).state.d

/-- Invariant of the loop over the devices: those still to come are as they were. -/
private def LoopInv (body : Nat → Locked → Exit Exn Locked Unit) (s : HealthStore)
    (rest : List (AcceleratorId × Nat)) (s' : HealthStore) : Prop :=
  Evolves s s' ∧ (rest.map Prod.fst).Nodup ∧
    ∀ k d', s'.devices.find? k = some d' → ∃ d, s.devices.find? k = some d ∧
      (k ∈ rest.map Prod.fst ∧ d' = d ∨
        k ∉ rest.map Prod.fst ∧ Visited body s d d' (· = .ok ()))

/-- How a loop that throws `e` leaves the store: some device has thrown it and is as its body
left it, and every device is as it was or has been visited. -/
def Stopped (body : Nat → Locked → Exit Exn Locked Unit) (s : HealthStore) (e : Exn)
    (s' : HealthStore) : Prop :=
  Evolves s s' ∧
    (∃ k d d', s.devices.find? k = some d ∧ s'.devices.find? k = some d' ∧
      Visited body s d d' (· = .error e)) ∧
    ∀ k d', s'.devices.find? k = some d' → ∃ d, s.devices.find? k = some d ∧
      (d' = d ∨ Visited body s d d' fun _ => True)

private theorem loop_turn (hbody : ∀ i l, Locked.Continues l (body i l).state)
    (e : AcceleratorId × Nat) (rest : List (AcceleratorId × Nat)) (s' : HealthStore)
    (h : LoopInv body s (e :: rest) s') :
    (onDevice e.1 (.ok ()) (body e.2) s').Sat (fun _ => LoopInv body s rest)
      (fun e t => Stopped body s e t) := by
  obtain ⟨hev, hnodup, hdev⟩ := h
  rw [List.map_cons, List.nodup_cons] at hnodup
  simp only [List.map_cons, List.mem_cons, not_or] at hdev
  cases hd : s'.devices.find? e.1 with
  | none =>
    rw [onDevice_none hd]
    refine ⟨hev, hnodup.2, fun k d' hk => ?_⟩
    obtain ⟨d, hsd, hcase⟩ := hdev k d' hk
    have hne : k ≠ e.1 := fun heq => by simp [heq, hd] at hk
    exact ⟨d, hsd, by simpa [hne] using hcase⟩
  | some d₀ =>
    obtain ⟨d, hsd, hcase⟩ := hdev e.1 d₀ hd
    obtain rfl : d₀ = d := by simpa using hcase
    have hev' : Evolves s ((body e.2 ⟨s', d₀⟩).state.commit e.1) :=
      hev.trans (.of_continues hd (hbody e.2 _))
    rw [onDevice_some hd]
    apply Exit.Sat.mapState
    rw [Exit.sat_iff]
    constructor
    · intro _ hok
      refine ⟨hev', hnodup.2, fun k d' hk => ?_⟩
      rw [find?_commit (hbody e.2 _)] at hk
      split_ifs at hk with heq
      · cases hk
        exact ⟨d₀, heq ▸ hsd, Or.inr ⟨heq ▸ hnodup.1, e.2, s', hev, hok, rfl⟩⟩
      · obtain ⟨d, hsd', hcase'⟩ := hdev k d' hk
        exact ⟨d, hsd', by simpa [heq] using hcase'⟩
    · intro err herr
      refine ⟨hev', ⟨e.1, d₀, _, hsd, ?_, e.2, s', hev, herr, rfl⟩, fun k d' hk => ?_⟩
      · rw [find?_commit (hbody e.2 _), if_pos rfl]
      rw [find?_commit (hbody e.2 _)] at hk
      split_ifs at hk with heq
      · cases hk
        exact ⟨d₀, heq ▸ hsd, Or.inr ⟨e.2, s', hev, trivial, rfl⟩⟩
      · obtain ⟨d, hsd', hcase'⟩ := hdev k d' hk
        refine ⟨d, hsd', ?_⟩
        rcases hcase' with ⟨-, rfl⟩ | ⟨-, i, s₁, hs₁, -, rfl⟩
        · exact Or.inl rfl
        · exact Or.inr ⟨i, s₁, hs₁, trivial, rfl⟩

/-- A loop that completes has visited every device; one that throws has visited some. -/
theorem forDevices_sat (hbody : ∀ i l, Locked.Continues l (body i l).state) :
    (forDevices body s).Sat
      (fun _ s' => Evolves s s' ∧ ∀ k d', s'.devices.find? k = some d' →
        ∃ d, s.devices.find? k = some d ∧ Visited body s d d' (· = .ok ()))
      (Stopped body s) := by
  have hkeys : (s.devices.keys.zipIdx).map Prod.fst = s.devices.keys := List.zipIdx_map_fst 0 _
  have hstart : LoopInv body s s.devices.keys.zipIdx s := by
    refine ⟨.refl s, ?_, fun k d hk => ⟨d, hk, Or.inl ⟨?_, rfl⟩⟩⟩
    · rw [hkeys]
      exact s.devices.keys_nodup
    · rw [hkeys]
      exact OrdMap.mem_keys_iff.mpr ⟨d, hk⟩
  refine (Exit.each_sat (loop_turn hbody) _ s hstart).mono (fun _ s' h => ?_) fun _ _ h => h
  refine ⟨h.1, fun k d' hk => ?_⟩
  obtain ⟨d, hd, hcase⟩ := h.2.2 k d' hk
  exact ⟨d, hd, by simpa using hcase⟩

theorem forDevices_evolves (hbody : ∀ i l, Locked.Continues l (body i l).state) :
    Evolves s (forDevices body s).state :=
  ((forDevices_sat hbody).mono (S := fun _ => Evolves s) (T := fun _ => Evolves s)
    (fun _ _ h => h.1) fun _ _ h => h.1).state

theorem forDevices_device (hbody : ∀ i l, Locked.Continues l (body i l).state)
    {k : AcceleratorId} {d' : Device} (h : (forDevices body s).state.devices.find? k = some d') :
    ∃ d, s.devices.find? k = some d ∧ (d' = d ∨ Visited body s d d' fun _ => True) := by
  have hall : ∀ k d', (forDevices body s).state.devices.find? k = some d' →
      ∃ d, s.devices.find? k = some d ∧ (d' = d ∨ Visited body s d d' fun _ => True) := by
    refine ((forDevices_sat hbody).mono
      (S := fun _ s' => ∀ k d', s'.devices.find? k = some d' →
        ∃ d, s.devices.find? k = some d ∧ (d' = d ∨ Visited body s d d' fun _ => True))
      (T := fun _ s' => ∀ k d', s'.devices.find? k = some d' →
        ∃ d, s.devices.find? k = some d ∧ (d' = d ∨ Visited body s d d' fun _ => True))
      (fun _ s' h k d' hk => ?_) fun _ _ h => h.2.2).state
    obtain ⟨d, hd, i, s₁, hs₁, -, heq⟩ := h.2 k d' hk
    exact ⟨d, hd, Or.inr ⟨i, s₁, hs₁, trivial, heq⟩⟩
  exact hall k d' h

end ForDevices
end HealthStore

namespace Locked

/-- `setPolicy` marks every device before it reassesses them. -/
def flagPolicy (l : Locked) : Locked :=
  { l with d := { l.d with policyGenerationChangedFlag := true } }

/-- The bodies that a call may run on the device with id `k`, and their two ends. -/
inductive Touch (c : Call) (k : AcceleratorId) : Locked → Locked → Prop
  | observation {l : Locked} {obs : AcceleratorObservation} {env : AuthorityEnvelope}
      (op : c.op = .acceptObservation obs env) (target : k = obs.accelerator) :
      Touch c k l (acceptObservation c.clk obs env l).state
  | fault {l : Locked} {fault : Fault} (op : c.op = .recordFault fault)
      (target : k = fault.accelerator) : Touch c k l (recordFault c.clk fault l).state
  | validation {l : Locked} {v : ValidationRecord} (op : c.op = .recordValidation v)
      (target : k = v.accelerator) : Touch c k l (recordValidation c.clk v l).state
  | quarantine {l : Locked} {authority : QuarantineAuthority} {reason triggeredBy : Str}
      (op : c.op = .beginQuarantine k authority reason triggeredBy) :
      Touch c k l (beginQuarantine c.clk k authority reason triggeredBy l).state
  | clear {l : Locked} (op : c.op = .clearQuarantine k) :
      Touch c k l (clearQuarantine c.clk k l).state
  | recovery {l : Locked} (op : c.op = .beginRecovery k) : Touch c k l (beginRecovery c.clk l).state
  | revalidation {l : Locked} {v : ValidationRecord} (op : c.op = .revalidate k v) :
      Touch c k l (revalidate c.clk v l).state
  | lost {l : Locked} {reason : Str} (op : c.op = .markLost k reason) :
      Touch c k l (markLost (c.clk 0) reason l).state
  | reassess {l : Locked} (clk : Readings) (op : c.op = .reassess k ∨ c.op = .reassessAll) :
      Touch c k l (reassessLocked clk l).state
  | orphan {l : Locked} (clk : Readings) {worker : WorkerId} {boot : WorkerBootId}
      (op : c.op = .invalidateWorker worker boot) :
      Touch c k l (HealthStore.orphan clk worker boot l).state
  | policy {l : Locked} (clk : Readings) {policy : HealthPolicy} (op : c.op = .setPolicy policy) :
      Touch c k l (reassessLocked clk (flagPolicy l)).state
  | policySkipped {l : Locked} {policy : HealthPolicy} (op : c.op = .setPolicy policy) :
      Touch c k l (flagPolicy l)

theorem Touch.continues {c : Call} {k : AcceleratorId} {l l' : Locked} (h : Touch c k l l') :
    Continues l l' := by
  have hflag : Proceeds l (flagPolicy l) := .of_edit rfl
  cases h with
  | observation => exact (advances_acceptObservation ..).continues
  | fault => exact (advances_recordFault ..).continues
  | validation => exact (advances_recordValidation ..).continues
  | quarantine => exact (advances_beginQuarantine ..).continues
  | clear => exact (advances_clearQuarantine ..).continues
  | recovery => exact (advances_beginRecovery ..).continues
  | revalidation => exact (advances_revalidate ..).continues
  | lost => exact (advances_markLost ..).continues
  | reassess clk => exact (advances_reassessLocked clk l).continues
  | orphan clk => exact (advances_orphan ..).continues
  | policy clk => exact hflag.trans_continues (advances_reassessLocked clk _).continues
  | policySkipped => exact hflag.continues

theorem Touch.actsOn {c : Call} {k : AcceleratorId} {l l' : Locked} (h : Touch c k l l') :
    c.op.actsOn k := by
  cases h with
  | observation op target | fault op target | validation op target =>
    simp [op, target, Op.actsOn]
  | quarantine op | clear op | recovery op | revalidation op | lost op | orphan _ op
  | policy _ op | policySkipped op => simp [op, Op.actsOn]
  | reassess _ op => rcases op with op | op <;> simp [op, Op.actsOn]

end Locked

namespace HealthStore
open Locked

/-- A device tracked after the call was tracked before it, and is as it was or as one
body left it, in a store that has the policy in force at the end. -/
def Touched (c : Call) (s s' : HealthStore) : Prop :=
  ∀ k d', s'.devices.find? k = some d' → ∃ d, s.devices.find? k = some d ∧
    (d' = d ∨ ∃ l l', l.d = d ∧ l.store.policy = s'.policy ∧ Touch c k l l' ∧ d' = l'.d)

section Touched
variable {c : Call} {s : HealthStore} {α : Type} {id : AcceleratorId} {missing : Except Exn α}

theorem touched_onDevice {body : Locked → Exit Exn Locked α}
    (h : ∀ l, Touch c id l (body l).state) : Touched c s (onDevice id missing body s).state := by
  intro k d' hk
  have hev : Evolves s (onDevice id missing body s).state :=
    onDevice_evolves fun l => (h l).continues
  obtain ⟨d, hd, rfl | ⟨rfl, rfl⟩⟩ := onDevice_device (fun l => (h l).continues) hk
  · exact ⟨d', hd, Or.inl rfl⟩
  · exact ⟨d, hd, Or.inr ⟨⟨s, d⟩, _, rfl, hev.policy.symm, h ⟨s, d⟩, rfl⟩⟩

theorem touched_forDevices {body : Nat → Locked → Exit Exn Locked Unit}
    (h : ∀ i l k, Touch c k l (body i l).state) : Touched c s (forDevices body s).state := by
  intro k d' hk
  have hbody : ∀ i l, Continues l (body i l).state := fun i l => (h i l default).continues
  obtain ⟨d, hd, rfl | ⟨i, s₁, hs₁, -, rfl⟩⟩ := forDevices_device hbody hk
  · exact ⟨d', hd, Or.inl rfl⟩
  · refine ⟨d, hd, Or.inr ⟨⟨s₁, d⟩, _, rfl, ?_, h i ⟨s₁, d⟩ k, rfl⟩⟩
    rw [hs₁.policy, (forDevices_evolves hbody).policy]

theorem touched_of_devices_eq {s' : HealthStore} (h : s'.devices = s.devices) :
    Touched c s s' := fun _ d' hk => ⟨d', h ▸ hk, Or.inl rfl⟩

theorem setPolicy_of_ok {clk : Readings} {policy : HealthPolicy} {g : PolicyGeneration}
    (h : s.policyGeneration.next = .ok g) :
    s.setPolicy clk policy = (adoptPolicy policy g s).reassessAll clk := by
  simp only [setPolicy, h]

theorem setPolicy_of_error {clk : Readings} {policy : HealthPolicy} {e : Exn}
    (h : s.policyGeneration.next = .error e) :
    s.setPolicy clk policy = .throw e { s with policy } := by
  simp only [setPolicy, h]

theorem find?_adoptPolicy {policy : HealthPolicy} {g : PolicyGeneration} {k : AcceleratorId}
    {d : Device} (h : (adoptPolicy policy g s).devices.find? k = some d) :
    ∃ d₀, s.devices.find? k = some d₀ ∧ d = { d₀ with policyGenerationChangedFlag := true } :=
  OrdMap.find?_mapValues_eq_some_iff.mp h

theorem touched_setPolicy {policy : HealthPolicy} (hop : c.op = .setPolicy policy) :
    Touched c s (s.setPolicy c.clk policy).state := by
  cases hg : s.policyGeneration.next with
  | error e =>
    rw [setPolicy_of_error hg]
    exact touched_of_devices_eq rfl
  | ok g =>
    rw [setPolicy_of_ok hg]
    intro k d' hk
    have hbody : ∀ i l, Continues l (reassessLocked (c.clk.drop (2 * i)) l).state :=
      fun i l => (advances_reassessLocked _ l).continues
    have hpolicy := (forDevices_evolves (s := adoptPolicy policy g s) hbody).policy
    obtain ⟨d₁, hd₁, hcase⟩ := forDevices_device hbody hk
    obtain ⟨d, hd, rfl⟩ := find?_adoptPolicy hd₁
    refine ⟨d, hd, Or.inr ?_⟩
    rcases hcase with rfl | ⟨i, s₁, hs₁, -, rfl⟩
    · exact ⟨⟨adoptPolicy policy g s, d⟩, _, rfl, hpolicy.symm, .policySkipped hop, rfl⟩
    · exact ⟨⟨s₁, d⟩, _, rfl, hs₁.policy.trans hpolicy.symm, .policy _ hop, rfl⟩

end Touched

/-- What any call but `registerDevice`, `decode` and `loadFromFile` does to devices. -/
theorem step_touched {c : Call} (s : HealthStore) (hload : c.op.loads = false)
    (hreg : ∀ uuid node, c.op ≠ .registerDevice uuid node) : Touched c s (s.step c) := by
  unfold step exec
  cases hop : c.op with
  | setPolicy policy => exact touched_setPolicy hop
  | rollCoordinatorEpoch => exact touched_of_devices_eq rfl
  | setCoordinatorEpoch e => exact touched_of_devices_eq rfl
  | registerWorker worker boot => exact touched_of_devices_eq rfl
  | invalidateWorker worker boot =>
    simp only [Exit.mapResult_state, invalidateWorker]
    split_ifs
    · refine Exit.state_andThen (P := Touched c s)
        (touched_forDevices fun i l k => .orphan _ hop) fun _ h => h
    · exact touched_of_devices_eq rfl
  | registerDevice uuid node => exact absurd hop (hreg uuid node)
  | markLost id reason => exact touched_onDevice fun l => .lost hop
  | acceptObservation obs env => exact touched_onDevice fun l => .observation hop rfl
  | recordFault fault => exact touched_onDevice fun l => .fault hop rfl
  | recordValidation v => exact touched_onDevice fun l => .validation hop rfl
  | beginQuarantine id authority reason triggeredBy =>
    exact touched_onDevice fun l => .quarantine hop
  | clearQuarantine id => exact touched_onDevice fun l => .clear hop
  | beginRecovery id => exact touched_onDevice fun l => .recovery hop
  | revalidate id v => exact touched_onDevice fun l => .revalidation hop
  | reassess id => exact touched_onDevice fun l => .reassess _ (Or.inl hop)
  | reassessAll => exact touched_forDevices fun i l k => .reassess _ (Or.inr hop)
  | decode data => simp [hop, Op.loads] at hload
  | loadFromFile contents => simp [hop, Op.loads] at hload

end HealthStore
end AcceleratorHealth
