import AcceleratorHealth.Images

/-! Registration and the identity of tracked devices: every device is filed under its
own id and found by its uuid, and away from null uuids and loads its id is its uuid. -/
namespace AcceleratorHealth
open Codec Locked Persistence

namespace HealthStore

/-- Every tracked device meets the condition. -/
def AllDevices (P : Device → Prop) (s : HealthStore) : Prop :=
  ∀ k d, s.devices.find? k = some d → P d

instance (P : Device → Prop) [DecidablePred P] (s : HealthStore) : Decidable (s.AllDevices P) :=
  decidable_of_iff (∀ e ∈ s.devices.entries, P e.2)
    ⟨fun h k _ hk => h (k, _) (OrdMap.find?_eq_some_iff.mp hk),
      fun h e he => h e.1 e.2 (OrdMap.find?_eq_some_iff.mpr he)⟩

theorem allDevices_init (P : Device → Prop) (policy : HealthPolicy) (epoch : UInt64) :
    AllDevices P (init policy epoch) := fun _ _ h => by simp [init] at h

theorem find?_trackDevice (d : Device) (s : HealthStore) (k : AcceleratorId) :
    (trackDevice d s).devices.find? k = if k = d.id then some d else s.devices.find? k :=
  OrdMap.find?_insert ..

theorem registerDevice_device {now : Timestamp} {uuid : DeviceUuid} {node : NodeId}
    {s : HealthStore} {k : AcceleratorId} {d : Device}
    (h : (s.registerDevice now uuid node).2.devices.find? k = some d) :
    s.devices.find? k = some d ∨
      s.uuidIndex.find? uuid = none ∧ k = (s.registerDevice now uuid node).1 ∧
        d = newDevice now k uuid node := by
  unfold registerDevice at h ⊢
  split at h
  · exact Or.inl h
  next hnone =>
    simp only [find?_trackDevice] at h
    split_ifs at h with hk
    · cases h
      exact Or.inr ⟨hnone, hk, by rw [hk]; rfl⟩
    · exact Or.inl h

/-- What any call but a load does to a tracked device: an old one is as it was or as one
body left it, a new one has just been registered under an unknown uuid. -/
theorem step_device {s : HealthStore} {c : Call} {k : AcceleratorId} {d' : Device}
    (hload : c.op.loads = false) (hk : (s.step c).devices.find? k = some d') :
    (∃ d, s.devices.find? k = some d ∧
      (d' = d ∨ ∃ l l', l.d = d ∧ l.store.policy = (s.step c).policy ∧ Touch c k l l' ∧
        d' = l'.d)) ∨
    ∃ uuid node, c.op = .registerDevice uuid node ∧ s.uuidIndex.find? uuid = none ∧
      k = s.deviceIdFor uuid ∧ d' = newDevice (c.clk 0) k uuid node := by
  by_cases hreg : ∃ uuid node, c.op = .registerDevice uuid node
  · obtain ⟨uuid, node, hop⟩ := hreg
    simp only [step, exec, hop] at hk
    rcases registerDevice_device hk with hd | ⟨hnone, hid, rfl⟩
    · exact Or.inl ⟨d', hd, Or.inl rfl⟩
    · refine Or.inr ⟨uuid, node, hop, hnone, ?_, rfl⟩
      simpa only [registerDevice, hnone] using hid
  · exact Or.inl (step_touched s hload (fun uuid node h => hreg ⟨uuid, node, h⟩) k d' hk)

/-! ### What a call leaves alone outside the devices -/

theorem onDevice_advances {α : Type} {id : AcceleratorId} {missing : Except Exn α}
    {body : Locked → Exit Exn Locked α} {s : HealthStore} (h : ∀ l, Advances l (body l)) :
    Evolves s (onDevice id missing body s).state :=
  onDevice_evolves fun l => (h l).continues

theorem reassessAll_evolves (clk : Readings) (s : HealthStore) :
    Evolves s (s.reassessAll clk).state :=
  forDevices_evolves fun _ l => (advances_reassessLocked _ l).continues

/-- After a loop of reassessments every device is as before or as one of them left it. -/
theorem reassessAll_device {clk : Readings} {s : HealthStore} {k : AcceleratorId} {d' : Device}
    (h : (s.reassessAll clk).state.devices.find? k = some d') :
    ∃ d, s.devices.find? k = some d ∧
      (d' = d ∨ ∃ clk' l, l.d = d ∧ d' = (reassessLocked clk' l).state.d) := by
  obtain ⟨d, hd, rfl | ⟨i, s₁, -, -, rfl⟩⟩ :=
    forDevices_device (fun i l => (advances_reassessLocked (clk.drop (2 * i)) l).continues) h
  · exact ⟨d', hd, Or.inl rfl⟩
  · exact ⟨d, hd, Or.inr ⟨clk.drop (2 * i), ⟨s₁, d⟩, rfl, rfl⟩⟩

/-- What holds of a device after the decode, and is kept by the distrust and by a
reassessment, holds of it after the load. -/
theorem loadInternal_device {P : Device → Prop} {data : Bytes} {clk : Readings} {s : HealthStore}
    {k : AcceleratorId}
    (hdecoded : ∀ d, (decodeStateInternal data s).state.devices.find? k = some d → P d)
    (hdistrust : ∀ d, P d → P { d with requiresRevalidation := true })
    (hreassess : ∀ clk l, P l.d → P (reassessLocked clk l).state.d) :
    ∀ d, (loadInternal clk (some data) s).state.devices.find? k = some d → P d := by
  refine loadInternal_leaves (P := fun t => ∀ d, t.devices.find? k = some d → P d)
    (fun _ => hdecoded) fun _ d' hd' => ?_
  have hdistrusted : ∀ d, (distrust (decodeStateInternal data s).state).devices.find? k = some d →
      P d := by
    intro d hd
    obtain ⟨d₀, hd₀, rfl⟩ := find?_distrust hd
    exact hdistrust d₀ (hdecoded d₀ hd₀)
  obtain ⟨d, hd, rfl | ⟨clk', l, rfl, rfl⟩⟩ := reassessAll_device hd'
  · exact hdistrusted d' hd
  · exact hreassess clk' l (hdistrusted l.d hd)

theorem step_evolves {s : HealthStore} {c : Call} (h : c.op.onDevices) : Evolves s (s.step c) := by
  unfold step exec
  cases hop : c.op with
  | markLost id reason => exact onDevice_advances fun l => advances_markLost ..
  | acceptObservation obs env => exact onDevice_advances fun l => advances_acceptObservation ..
  | recordFault fault => exact onDevice_advances fun l => advances_recordFault ..
  | recordValidation v => exact onDevice_advances fun l => advances_recordValidation ..
  | beginQuarantine id authority reason triggeredBy =>
    exact onDevice_advances fun l => advances_beginQuarantine ..
  | clearQuarantine id => exact onDevice_advances fun l => advances_clearQuarantine ..
  | beginRecovery id => exact onDevice_advances fun l => advances_beginRecovery ..
  | revalidate id v => exact onDevice_advances fun l => advances_revalidate ..
  | reassess id => exact onDevice_advances fun l => advances_reassessLocked ..
  | reassessAll => exact reassessAll_evolves _ _
  | _ => simp [hop, Op.onDevices] at h

/-- A policy change that is not refused, up to the policy itself. -/
theorem setPolicy_frame (clk : Readings) (policy : HealthPolicy) (s : HealthStore) :
    Frame s (s.setPolicy clk policy).state ∧
      (s.setPolicy clk policy).state.coordinatorEpoch = s.coordinatorEpoch ∧
      (s.setPolicy clk policy).state.workerBootRegistry = s.workerBootRegistry := by
  cases hg : s.policyGeneration.next with
  | error e =>
    rw [setPolicy_of_error hg]
    exact ⟨.of_eq rfl rfl rfl, rfl, rfl⟩
  | ok g =>
    rw [setPolicy_of_ok hg]
    have hadopt : Frame s (adoptPolicy policy g s) := .of_eq rfl (OrdMap.keys_mapValues _ _) rfl
    have hall := reassessAll_evolves clk (adoptPolicy policy g s)
    exact ⟨hadopt.trans hall.toFrame, hall.coordinatorEpoch, hall.registry⟩

/-- `invalidateWorker` withdraws the boot id last, so a call that throws does not. -/
theorem invalidateWorker_sat (clk : Readings) (worker : WorkerId) (boot : WorkerBootId)
    (s : HealthStore) :
    (s.invalidateWorker clk worker boot).Sat
      (fun _ s' => Frame s s' ∧ s'.coordinatorEpoch = s.coordinatorEpoch ∧
        (s.isWorkerCurrent worker boot = false ∧ s'.workerBootRegistry = s.workerBootRegistry ∨
          s'.workerBootRegistry = s.workerBootRegistry.erase worker))
      (fun _ => Evolves s) := by
  unfold invalidateWorker
  split_ifs with hcurrent
  · refine Exit.Sat.andThen (P := Evolves s)
      (Exit.sat_of_state (forDevices_evolves fun i l =>
        (advances_orphan _ worker boot l).continues))
      fun s' h => ?_
    exact ⟨h.toFrame.trans (.of_eq rfl rfl rfl), h.coordinatorEpoch, Or.inr (by
      change s'.workerBootRegistry.erase worker = _
      rw [h.registry])⟩
  · exact ⟨.refl s, rfl, Or.inl ⟨by simpa using hcurrent, rfl⟩⟩

theorem invalidateWorker_frame (clk : Readings) (worker : WorkerId) (boot : WorkerBootId)
    (s : HealthStore) : Frame s (s.invalidateWorker clk worker boot).state :=
  ((invalidateWorker_sat clk worker boot s).mono (S := fun _ => Frame s) (T := fun _ => Frame s)
    (fun _ _ h => h.1) fun _ _ h => h.toFrame).state

theorem coordinatorEpoch_invalidateWorker (clk : Readings) (worker : WorkerId)
    (boot : WorkerBootId) (s : HealthStore) :
    (s.invalidateWorker clk worker boot).state.coordinatorEpoch = s.coordinatorEpoch :=
  ((invalidateWorker_sat clk worker boot s).mono
    (S := fun _ s' => s'.coordinatorEpoch = s.coordinatorEpoch)
    (T := fun _ s' => s'.coordinatorEpoch = s.coordinatorEpoch)
    (fun _ _ h => h.2.1) fun _ _ h => h.coordinatorEpoch).state

theorem step_frame {s : HealthStore} {c : Call} (hload : c.op.loads = false)
    (hreg : ∀ uuid node, c.op ≠ .registerDevice uuid node) : Frame s (s.step c) := by
  by_cases h : c.op.onDevices = true
  · exact (step_evolves h).toFrame
  · unfold step exec
    cases hop : c.op with
    | setPolicy policy => exact (setPolicy_frame ..).1
    | rollCoordinatorEpoch => exact .of_eq rfl rfl rfl
    | setCoordinatorEpoch e => exact .of_eq rfl rfl rfl
    | registerWorker worker boot => exact .of_eq rfl rfl rfl
    | invalidateWorker worker boot => exact invalidateWorker_frame ..
    | registerDevice uuid node => exact absurd hop (hreg uuid node)
    | decode data => simp [hop, Op.loads] at hload
    | loadFromFile contents => simp [hop, Op.loads] at hload
    | _ => simp [hop, Op.onDevices] at h

theorem tracked_registerDevice {now : Timestamp} {uuid : DeviceUuid} {node : NodeId}
    {s : HealthStore} {k : AcceleratorId} {d : Device} (hk : s.devices.find? k = some d) :
    ∃ d', (s.registerDevice now uuid node).2.devices.find? k = some d' := by
  unfold registerDevice
  split
  · exact ⟨d, hk⟩
  · simp only [find?_trackDevice]
    split_ifs
    · exact ⟨_, rfl⟩
    · exact ⟨d, hk⟩

/-- No call but a load ever drops a device. -/
theorem step_tracked {s : HealthStore} {c : Call} {k : AcceleratorId} {d : Device}
    (hload : c.op.loads = false) (hk : s.devices.find? k = some d) :
    ∃ d', (s.step c).devices.find? k = some d' := by
  by_cases hreg : ∃ uuid node, c.op = .registerDevice uuid node
  · obtain ⟨uuid, node, hop⟩ := hreg
    simp only [step, exec, hop]
    exact tracked_registerDevice hk
  · have hkeys := (step_frame (s := s) hload fun uuid node h => hreg ⟨uuid, node, h⟩).keys
    rw [← OrdMap.mem_keys_iff, hkeys]
    exact OrdMap.mem_keys_iff.mpr ⟨d, hk⟩

/-! ### Identity -/

/-- Every device is filed under its own id, which is found by its uuid. -/
def Filed (s : HealthStore) : Prop :=
  ∀ k d, s.devices.find? k = some d → d.id = k ∧ s.uuidIndex.find? d.uuid = some k

theorem filed_init (policy : HealthPolicy) (epoch : UInt64) : (init policy epoch).Filed :=
  fun _ _ h => by simp [init] at h

theorem registerDevice_filed {now : Timestamp} {uuid : DeviceUuid} {node : NodeId}
    {s : HealthStore} (hs : s.Filed) : (s.registerDevice now uuid node).2.Filed := by
  unfold registerDevice
  split
  · exact hs
  next hnone =>
    intro k d hk
    simp only [find?_trackDevice] at hk
    change d.id = k ∧ (s.uuidIndex.insert uuid (deviceIdFor uuid s)).find? d.uuid = some k
    split_ifs at hk with heq
    · cases hk
      exact ⟨heq.symm, by rw [heq]; exact OrdMap.find?_insert_self _ _ _⟩
    · obtain ⟨hid, huuid⟩ := hs k d hk
      refine ⟨hid, ?_⟩
      rw [OrdMap.find?_insert_of_ne]
      · exact huuid
      · rintro heq'
        rw [heq', hnone] at huuid
        cases huuid

theorem decode_filed {data : Bytes} {out : HealthStore} (hout : out.Filed) :
    (decodeStateInternal data out).state.Filed := by
  rcases decode_devices data out with heq | ⟨hdev, huuid⟩
  · rw [heq]
    exact hout
  · intro k d hk
    rw [hdev] at hk
    obtain ⟨d', hd', heq⟩ := List.mem_map.mp (OrdMap.mem_of_find?_insertAll hk)
    cases heq
    refine ⟨rfl, ?_⟩
    rw [huuid]
    refine OrdMap.find?_insertAll_of_mem ?_ _ (List.mem_map.mpr ⟨d, hd', rfl⟩)
    simpa [List.map_map, Function.comp_def] using records_uuids data

theorem distrust_filed {s : HealthStore} (hs : s.Filed) : (distrust s).Filed := by
  intro k d hk
  obtain ⟨d₀, hd₀, rfl⟩ := find?_distrust hk
  exact hs k d₀ hd₀

theorem evolves_filed {s s' : HealthStore} (h : Evolves s s')
    (hdev : ∀ k d', s'.devices.find? k = some d' →
      ∃ d, s.devices.find? k = some d ∧ d'.id = d.id ∧ d'.uuid = d.uuid)
    (hs : s.Filed) : s'.Filed := by
  intro k d' hk
  obtain ⟨d, hd, hid, huuid⟩ := hdev k d' hk
  rw [hid, huuid, h.uuidIndex]
  exact hs k d hd

theorem reassessAll_filed {clk : Readings} {s : HealthStore} (hs : s.Filed) :
    (s.reassessAll clk).state.Filed := by
  refine evolves_filed (reassessAll_evolves clk s) (fun k d' hk => ?_) hs
  obtain ⟨d, hd, rfl | ⟨clk', l, rfl, rfl⟩⟩ := reassessAll_device hk
  · exact ⟨d', hd, rfl, rfl⟩
  · have hbody := (advances_reassessLocked clk' l).continues
    exact ⟨l.d, hd, hbody.id, hbody.uuid⟩

theorem step_filed {s : HealthStore} (c : Call) (hs : s.Filed) : (s.step c).Filed := by
  by_cases hload : c.op.loads = false
  · by_cases hreg : ∃ uuid node, c.op = .registerDevice uuid node
    · obtain ⟨uuid, node, hop⟩ := hreg
      simp only [step, exec, hop]
      exact registerDevice_filed hs
    · have hreg' : ∀ uuid node, c.op ≠ .registerDevice uuid node :=
        fun uuid node h => hreg ⟨uuid, node, h⟩
      intro k d' hk
      rw [(step_frame hload hreg').uuidIndex]
      obtain ⟨d, hd, rfl | ⟨l, l', rfl, -, htouch, rfl⟩⟩ := step_touched s hload hreg' k d' hk
      · exact hs k d' hd
      · rw [htouch.continues.id, htouch.continues.uuid]
        exact hs k l.d hd
  · rcases step_loads (s := s) (Bool.of_not_eq_false hload) with
      ⟨data, -, hstep⟩ | ⟨-, hstep⟩ | ⟨data, -, hstep⟩ <;> rw [hstep]
    · exact decode_filed hs
    · exact hs
    · exact loadInternal_leaves (P := Filed) (fun _ => decode_filed hs)
        fun _ => reassessAll_filed (distrust_filed (decode_filed hs))

theorem reachable_filed {s : HealthStore} (h : s.Reachable) : s.Filed := by
  obtain ⟨policy, epoch, calls, rfl⟩ := h
  exact Machine.run_invariant (C := fun _ _ => True) (fun _ c hs _ => step_filed c hs)
    (filed_init policy epoch) (Machine.along_of_forall fun _ _ _ => trivial)

/-- Every device's id is also its uuid. -/
structure Named (s : HealthStore) : Prop where
  filed : s.Filed
  value : ∀ k d, s.devices.find? k = some d → d.uuid.value = k.value

theorem named_init (policy : HealthPolicy) (epoch : UInt64) : (init policy epoch).Named :=
  ⟨filed_init policy epoch, fun _ _ h => by simp [init] at h⟩

/-- An unknown uuid that is not null names an untracked device. -/
theorem find?_deviceIdFor {s : HealthStore} {uuid : DeviceUuid} (hs : s.Named)
    (hnone : s.uuidIndex.find? uuid = none) (hnull : uuid.get ≠ 0) :
    s.devices.find? (s.deviceIdFor uuid) = none := by
  cases hd : s.devices.find? (s.deviceIdFor uuid) with
  | none => rfl
  | some d =>
    have huuid : d.uuid = uuid := by
      ext
      rw [hs.value _ d hd, deviceIdFor, if_pos hnull]
      rfl
    have hfound := (hs.filed _ d hd).2
    rw [huuid, hnone] at hfound
    cases hfound

theorem registersNull_eq_false {c : Call} {uuid : DeviceUuid} {node : NodeId}
    (h : c.op.registersNull = false) (hop : c.op = .registerDevice uuid node) :
    uuid.get ≠ 0 := by
  simpa [hop, Op.registersNull] using h

theorem step_named {s : HealthStore} {c : Call} (hs : s.Named) (hc : c.op.plain) :
    (s.step c).Named := by
  refine ⟨step_filed c hs.filed, fun k d' hk => ?_⟩
  rcases step_device hc.1 hk with ⟨d, hd, rfl | ⟨l, l', rfl, -, htouch, rfl⟩⟩ |
    ⟨uuid, node, hop, -, rfl, rfl⟩
  · exact hs.value k d' hd
  · rw [htouch.continues.uuid]
    exact hs.value k l.d hd
  · rw [deviceIdFor, if_pos (registersNull_eq_false hc.2 hop)]
    rfl

theorem after_named {policy : HealthPolicy} {epoch : UInt64} {calls : List Call}
    (hplain : ∀ c ∈ calls, c.op.plain) : (after policy epoch calls).Named :=
  Machine.run_invariant (C := fun _ c => c.op.plain) (fun _ _ => step_named)
    (named_init policy epoch) (Machine.along_of_forall fun c hc _ => hplain c hc)

/-- In plain runs a registration never replaces a tracked device, so an old device is
always as it was or as one body left it. -/
theorem step_old {s : HealthStore} {c : Call} {k : AcceleratorId} {d : Device} (hs : s.Named)
    (hc : c.op.plain) (hk : s.devices.find? k = some d) :
    ∃ d', (s.step c).devices.find? k = some d' ∧
      (d' = d ∨ ∃ l l', l.d = d ∧ Touch c k l l' ∧ d' = l'.d) := by
  obtain ⟨d', hd'⟩ := step_tracked hc.1 hk
  refine ⟨d', hd', ?_⟩
  rcases step_device hc.1 hd' with ⟨d₀, hd₀, hcase⟩ | ⟨uuid, node, hop, hnone, rfl, -⟩
  · obtain rfl : d₀ = d := Option.some.inj (hd₀.symm.trans hk)
    rcases hcase with rfl | ⟨l, l', hl, -, htouch, rfl⟩
    · exact Or.inl rfl
    · exact Or.inr ⟨l, l', hl, htouch, rfl⟩
  · rw [find?_deviceIdFor hs hnone (registersNull_eq_false hc.2 hop)] at hk
    cases hk

end HealthStore
end AcceleratorHealth
