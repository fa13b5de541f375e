import AcceleratorHealth.Agreement
import AcceleratorHealth.Queries

/-! The store's own lists of faults and changes against the histories of its devices. Every
body adds to both alike, so that either is what the other says of a device, in one order:
nothing is lost, told twice or moved, whatever the calls and however they end. -/
namespace AcceleratorHealth
open Locked

/-! ### One list for all keys -/

/-- The list for all keys and the one of a single key grow alike, by entries of that key. -/
def GrowAlike {β κ : Type} (key : β → κ) (own : κ) (log log' mine mine' : List β) : Prop :=
  ∃ more, log' = log ++ more ∧ mine' = mine ++ more ∧ ∀ x ∈ more, key x = own

namespace GrowAlike
variable {β κ : Type} {key : β → κ} {own k : κ} {log log' log'' mine mine' mine'' : List β}

theorem refl (key : β → κ) (own : κ) (log mine : List β) : GrowAlike key own log log mine mine :=
  ⟨[], (List.append_nil _).symm, (List.append_nil _).symm, by simp⟩

theorem trans (h : GrowAlike key own log log' mine mine')
    (h' : GrowAlike key own log' log'' mine' mine'') :
    GrowAlike key own log log'' mine mine'' := by
  obtain ⟨more, rfl, rfl, hkey⟩ := h
  obtain ⟨more', rfl, rfl, hkey'⟩ := h'
  refine ⟨more ++ more', List.append_assoc .., List.append_assoc .., ?_⟩
  exact List.forall_mem_append.mpr ⟨hkey, hkey'⟩

variable [DecidableEq κ]

/-- What is listed under the key stays what its own list holds. -/
theorem filter_own (h : GrowAlike key own log log' mine mine')
    (hmine : log.filter (fun x => key x = own) = mine) :
    log'.filter (fun x => key x = own) = mine' := by
  obtain ⟨more, rfl, rfl, hkey⟩ := h
  have hall : more.filter (fun x => key x = own) = more :=
    List.filter_eq_self.mpr fun x hx => by simpa using hkey x hx
  rw [List.filter_append, hmine, hall]

/-- Under another key nothing changes. -/
theorem filter_of_ne (h : GrowAlike key own log log' mine mine') (hne : k ≠ own) :
    log'.filter (fun x => key x = k) = log.filter (fun x => key x = k) := by
  obtain ⟨more, rfl, -, hkey⟩ := h
  have hnone : more.filter (fun x => key x = k) = [] :=
    List.filter_eq_nil_iff.mpr fun x hx => by simpa [hkey x hx] using hne.symm
  rw [List.filter_append, hnone, List.append_nil]

end GrowAlike

/-! ### What a body adds -/

namespace Locked

/-- The body adds the same to the global lists and to those of the device, under its id. -/
structure Posts (l l' : Locked) : Prop where
  id : l'.d.id = l.d.id
  devices : l'.store.devices = l.store.devices
  faults : GrowAlike Fault.accelerator l.d.id l.store.globalFaults l'.store.globalFaults
    l.d.faults.faults l'.d.faults.faults
  changes : GrowAlike HealthChange.accelerator l.d.id l.store.globalChanges l'.store.globalChanges
    l.d.changes l'.d.changes

namespace Posts
variable {l l' l'' : Locked}

theorem of_edit (hid : l'.d.id = l.d.id) (hdevices : l'.store.devices = l.store.devices)
    (hfaults : l'.store.globalFaults = l.store.globalFaults)
    (hown : l'.d.faults.faults = l.d.faults.faults)
    (hchanges : l'.store.globalChanges = l.store.globalChanges)
    (hlog : l'.d.changes = l.d.changes) :
    l.Posts l' where
  id := hid
  devices := hdevices
  faults := by
    rw [hfaults, hown]
    exact .refl ..
  changes := by
    rw [hchanges, hlog]
    exact .refl ..

theorem refl (l : Locked) : l.Posts l := .of_edit rfl rfl rfl rfl rfl rfl

theorem trans (h : l.Posts l') (h' : l'.Posts l'') : l.Posts l'' where
  id := h'.id.trans h.id
  devices := h'.devices.trans h.devices
  faults := h.faults.trans (h.id ▸ h'.faults)
  changes := h.changes.trans (h.id ▸ h'.changes)

theorem andThen {β : Type} {x : Exit Exn Locked Unit} {f : Locked → Exit Exn Locked β}
    (h : l.Posts x.state) (hf : ∀ l' : Locked, l'.Posts (f l').state) :
    l.Posts (x.andThen f).state :=
  Exit.state_andThen h fun l' hl' => hl'.trans (hf l')

end Posts

theorem posts_moved (now : Timestamp) (toState : HealthState) (label detail : Str)
    (g : HealthGeneration) (l : Locked) : l.Posts (moved now toState label detail g l) where
  id := rfl
  devices := rfl
  faults := .refl ..
  changes := ⟨[_], rfl, rfl, by simp [torn]⟩

theorem posts_applyTransitionLocked (now : Timestamp) (toState : HealthState) (label detail : Str)
    (l : Locked) : l.Posts (applyTransitionLocked now toState label detail l).state :=
  applyTransitionLocked_state (.refl l) (fun _ _ => .of_edit rfl rfl rfl rfl rfl rfl)
    fun _ _ _ => posts_moved ..

theorem posts_published (now : Timestamp) (blocked : Bool) (l l' : Locked) :
    l'.Posts (published now l blocked l') :=
  .of_edit rfl rfl rfl rfl rfl rfl

theorem posts_reassessLocked (clk : Readings) (l : Locked) : l.Posts (reassessLocked clk l).state :=
  reassessLocked_state (fun _ => posts_published _ _ l l)
    (fun _ _ _ => (posts_moved ..).trans (posts_published ..))
    (fun _ _ => posts_published _ _ l l) fun _ _ => .of_edit rfl rfl rfl rfl rfl rfl

/-! ### Every body posts -/

theorem posts_acceptObservation (clk : Readings) (obs : AcceleratorObservation)
    (env : AuthorityEnvelope) (l : Locked) : l.Posts (acceptObservation clk obs env l).state := by
  unfold acceptObservation
  cases hf : fence env l with
  | some rejection => exact .refl l
  | none =>
    have htake : l.Posts (takeObservation obs env l) := by
      unfold takeObservation
      simp only
      split_ifs <;> exact .of_edit rfl rfl rfl rfl rfl rfl
    exact .andThen (htake.trans (posts_reassessLocked ..)) fun l' => .refl l'

theorem posts_recordFault (clk : Readings) {fault : Fault} {l : Locked}
    (hid : fault.accelerator = l.d.id) : l.Posts (recordFault clk fault l).state := by
  unfold recordFault
  cases hrecord : l.d.faults.record fault with
  | error e => exact .refl l
  | ok faults =>
    have htake : l.Posts (takeFault fault faults l) :=
      { id := rfl
        devices := rfl
        faults := ⟨[fault], rfl, (FaultHistory.record_eq_ok hrecord).2, by simpa using hid⟩
        changes := .refl .. }
    exact htake.trans (posts_reassessLocked ..)

theorem posts_addValidation (v : ValidationRecord) (l : Locked) : l.Posts (addValidation v l) :=
  .of_edit rfl rfl rfl rfl rfl rfl

theorem posts_beginQuarantine (clk : Readings) (id : AcceleratorId)
    (authority : QuarantineAuthority)
    (reason triggeredBy : Str) (l : Locked) :
    l.Posts (beginQuarantine clk id authority reason triggeredBy l).state := by
  unfold beginQuarantine
  split_ifs
  · exact .refl l
  · have hopen : l.Posts (openQuarantine (clk 0) id authority reason triggeredBy l) :=
      .of_edit rfl rfl rfl rfl rfl rfl
    exact .andThen (hopen.trans (posts_applyTransitionLocked ..)) (posts_reassessLocked _)

theorem posts_clearQuarantine (clk : Readings) (id : AcceleratorId) (l : Locked) :
    l.Posts (clearQuarantine clk id l).state := by
  have hclose : l.Posts (closeQuarantine id l) := by
    unfold closeQuarantine
    cases l.d.quarantine with
    | none => exact .refl l
    | some q => exact .of_edit rfl rfl rfl rfl rfl rfl
  exact hclose.trans (posts_reassessLocked ..)

theorem posts_openRecovery (now : Timestamp) (l : Locked) : l.Posts (openRecovery now l).state := by
  unfold openRecovery
  simp only
  split <;> exact .of_edit rfl rfl rfl rfl rfl rfl

theorem posts_beginRecovery (clk : Readings) (l : Locked) :
    l.Posts (beginRecovery clk l).state := by
  unfold beginRecovery
  split_ifs
  · exact .refl l
  · exact .refl l
  · exact .andThen (.andThen (posts_applyTransitionLocked ..) (posts_openRecovery _))
      (posts_reassessLocked _)

theorem posts_recoveryPassed (clk : Readings) (l : Locked) :
    l.Posts (recoveryPassed clk l).state := by
  unfold recoveryPassed
  refine .andThen ?_ fun l' => ?_
  · split_ifs
    · exact posts_applyTransitionLocked ..
    · exact .refl l
  · have hcount : l'.Posts (countSuccess l') := .of_edit rfl rfl rfl rfl rfl rfl
    simp only
    split_ifs
    · exact .andThen (hcount.trans (posts_applyTransitionLocked ..))
        fun l'' => .of_edit rfl rfl rfl rfl rfl rfl
    · exact hcount

theorem posts_recoveryStep (clk : Readings) (v : ValidationRecord) (l : Locked) :
    l.Posts (recoveryStep clk v l).state := by
  unfold recoveryStep
  split_ifs
  · exact posts_recoveryPassed clk l
  · unfold recoveryFailed
    split_ifs
    · exact posts_applyTransitionLocked ..
    · exact .refl l
  · exact .refl l

theorem posts_revalidate (clk : Readings) (v : ValidationRecord) (l : Locked) :
    l.Posts (revalidate clk v l).state := by
  rw [revalidate_state]
  exact .andThen ((posts_addValidation v l).trans (posts_recoveryStep ..)) (posts_reassessLocked _)

theorem posts_markLost (now : Timestamp) (reason : Str) (l : Locked) :
    l.Posts (markLost now reason l).state := by
  have hedit : l.Posts { l with d := { l.d with present := false } } :=
    .of_edit rfl rfl rfl rfl rfl rfl
  unfold markLost
  simp only
  split_ifs with hlost hlegal
  · exact hedit
  · exact hedit.trans (posts_applyTransitionLocked ..)
  · exact absurd (canTransition_lost hlost) hlegal

theorem posts_orphan (clk : Readings) (worker : WorkerId) (boot : WorkerBootId) (l : Locked) :
    l.Posts (HealthStore.orphan clk worker boot l).state := by
  unfold HealthStore.orphan
  split_ifs
  · have hedit : l.Posts { l with d :=
        { l.d with lastObservation := {}, deviceGenerationChangedFlag := false } } :=
      .of_edit rfl rfl rfl rfl rfl rfl
    exact hedit.trans (posts_reassessLocked ..)
  · exact .refl l

end Locked

/-! ### Every call keeps the histories -/

namespace HealthStore
open Locked
variable {s : HealthStore} {k : AcceleratorId}

/-- The changes of a device, the oldest first; none where it is not tracked. -/
def changesOf (id : AcceleratorId) (s : HealthStore) : List HealthChange :=
  match s.devices.find? id with
  | none => []
  | some d => d.changes

theorem faultsOf_none (h : s.devices.find? k = none) : s.faultsOf k = [] := by
  rw [faultsOf, h]

theorem faultsOf_some {d : Device} (h : s.devices.find? k = some d) :
    s.faultsOf k = d.faults.faults := by
  rw [faultsOf, h]

theorem changesOf_none (h : s.devices.find? k = none) : s.changesOf k = [] := by
  rw [changesOf, h]

theorem changesOf_some {d : Device} (h : s.devices.find? k = some d) :
    s.changesOf k = d.changes := by
  rw [changesOf, h]

theorem faultsOf_congr {s' : HealthStore} (h : s'.devices.find? k = s.devices.find? k) :
    s'.faultsOf k = s.faultsOf k := by
  rw [faultsOf, faultsOf, h]

theorem changesOf_congr {s' : HealthStore} (h : s'.devices.find? k = s.devices.find? k) :
    s'.changesOf k = s.changesOf k := by
  rw [changesOf, changesOf, h]

/-- What the store lists under an id is what its device has, in one order. -/
structure Kept (s : HealthStore) : Prop where
  ids : ∀ k d, s.devices.find? k = some d → d.id = k
  faults : ∀ k, s.allFaults.filter (fun f => f.accelerator = k) = s.faultsOf k
  changes : ∀ k, s.globalChanges.filter (fun hc => hc.accelerator = k) = s.changesOf k

namespace Kept

theorem init (policy : HealthPolicy) (epoch : UInt64) : (init policy epoch).Kept where
  ids _ _ h := by cases h
  faults _ := rfl
  changes _ := rfl

theorem commit {l l' : Locked} (hs : l.store.Kept) (hd : l.store.devices.find? k = some l.d)
    (h : l.Posts l') : (l'.commit k).Kept := by
  have hid : l.d.id = k := hs.ids k l.d hd
  have hself : (l'.commit k).devices.find? k = some l'.d := OrdMap.find?_insert_self ..
  have hother : ∀ k', k' ≠ k → (l'.commit k).devices.find? k' = l.store.devices.find? k' := by
    intro k' hne
    rw [← h.devices]
    exact OrdMap.find?_insert_of_ne _ _ hne
  refine ⟨fun k' d' hk' => ?_, fun k' => ?_, fun k' => ?_⟩
  · by_cases hk : k' = k
    · rw [hk, hself, Option.some.injEq] at hk'
      rw [← hk', h.id, hid, hk]
    · rw [hother k' hk] at hk'
      exact hs.ids k' d' hk'
  · by_cases hk : k' = k
    · rw [hk, faultsOf_some hself]
      exact GrowAlike.filter_own (hid ▸ h.faults) ((hs.faults k).trans (faultsOf_some hd))
    · rw [faultsOf_congr (hother k' hk), ← hs.faults k']
      exact h.faults.filter_of_ne (hid ▸ hk)
  · by_cases hk : k' = k
    · rw [hk, changesOf_some hself]
      exact GrowAlike.filter_own (hid ▸ h.changes) ((hs.changes k).trans (changesOf_some hd))
    · rw [changesOf_congr (hother k' hk), ← hs.changes k']
      exact h.changes.filter_of_ne (hid ▸ hk)

theorem onDevice {α : Type} {missing : Except Exn α} {body : Locked → Exit Exn Locked α}
    (hs : s.Kept) (hbody : ∀ l : Locked, l.d.id = k → l.Posts (body l).state) :
    (onDevice k missing body s).state.Kept := by
  cases hd : s.devices.find? k with
  | none => rwa [onDevice_none hd]
  | some d =>
    rw [onDevice_some hd]
    exact commit (l := ⟨s, d⟩) hs hd (hbody _ (hs.ids k d hd))

theorem forDevices {body : Nat → Locked → Exit Exn Locked Unit} (hs : s.Kept)
    (hbody : ∀ (i : Nat) (l : Locked), l.Posts (body i l).state) :
    (forDevices body s).state.Kept :=
  Exit.each_state (fun e _ _ ht => ht.onDevice fun l _ => hbody e.2 l) hs

theorem reassessAll (hs : s.Kept) (clk : Readings) : (s.reassessAll clk).state.Kept :=
  forDevices hs fun _ _ => posts_reassessLocked ..

/-- The policy flag is all that changes of a device. -/
theorem adoptPolicy (hs : s.Kept) (policy : HealthPolicy) (g : PolicyGeneration) :
    (s.adoptPolicy policy g).Kept where
  ids k d hk := by
    obtain ⟨d₀, hd₀, rfl⟩ := OrdMap.find?_mapValues_eq_some_iff.mp hk
    exact hs.ids k d₀ hd₀
  faults k := by
    refine (hs.faults k).trans ?_
    rw [faultsOf, faultsOf, HealthStore.adoptPolicy, OrdMap.find?_mapValues]
    cases s.devices.find? k <;> rfl
  changes k := by
    refine (hs.changes k).trans ?_
    rw [changesOf, changesOf, HealthStore.adoptPolicy, OrdMap.find?_mapValues]
    cases s.devices.find? k <;> rfl

theorem setPolicy (hs : s.Kept) (clk : Readings) (policy : HealthPolicy) :
    (s.setPolicy clk policy).state.Kept := by
  unfold HealthStore.setPolicy
  split
  · exact ⟨hs.ids, hs.faults, hs.changes⟩
  · exact (hs.adoptPolicy policy _).reassessAll clk

theorem invalidateWorker (hs : s.Kept) (clk : Readings) (worker : WorkerId) (boot : WorkerBootId) :
    (s.invalidateWorker clk worker boot).state.Kept := by
  unfold HealthStore.invalidateWorker
  split_ifs
  · exact Exit.state_andThen (forDevices hs fun _ _ => posts_orphan ..)
      fun t ht => ⟨ht.ids, ht.faults, ht.changes⟩
  · exact hs

/-- A new device starts with no history, and nothing is listed under its id before. -/
theorem trackDevice {now : Timestamp} {uuid : DeviceUuid} {node : NodeId} (hs : s.Kept)
    (hnone : s.devices.find? k = none) : (s.trackDevice (newDevice now k uuid node)).Kept := by
  have hself : (s.trackDevice (newDevice now k uuid node)).devices.find? k =
      some (newDevice now k uuid node) := OrdMap.find?_insert_self ..
  have hother : ∀ k', k' ≠ k → (s.trackDevice (newDevice now k uuid node)).devices.find? k' =
      s.devices.find? k' := fun _ hne => OrdMap.find?_insert_of_ne _ _ hne
  refine ⟨fun k' d' hk' => ?_, fun k' => (hs.faults k').trans ?_,
    fun k' => (hs.changes k').trans ?_⟩
  · by_cases hk : k' = k
    · rw [hk, hself, Option.some.injEq] at hk'
      rw [← hk', hk]
      rfl
    · rw [hother k' hk] at hk'
      exact hs.ids k' d' hk'
  · by_cases hk : k' = k
    · rw [hk, faultsOf_none hnone, faultsOf_some hself]
      rfl
    · exact (faultsOf_congr (hother k' hk)).symm
  · by_cases hk : k' = k
    · rw [hk, changesOf_none hnone, changesOf_some hself]
      rfl
    · exact (changesOf_congr (hother k' hk)).symm

theorem registerDevice {uuid : DeviceUuid} (hs : s.Kept) (hnamed : s.Named)
    (hnull : uuid.get ≠ 0) (now : Timestamp) (node : NodeId) :
    (s.registerDevice now uuid node).2.Kept := by
  unfold HealthStore.registerDevice
  split
  · exact hs
  next hnone => exact hs.trackDevice (find?_deviceIdFor hnamed hnone hnull)

theorem step {c : Call} (hs : s.Kept) (hnamed : s.Named) (hc : c.op.plain) : (s.step c).Kept := by
  obtain ⟨hload, hnull⟩ := hc
  unfold HealthStore.step exec
  cases hop : c.op with
  | setPolicy policy => exact hs.setPolicy c.clk policy
  | rollCoordinatorEpoch => exact ⟨hs.ids, hs.faults, hs.changes⟩
  | setCoordinatorEpoch e => exact ⟨hs.ids, hs.faults, hs.changes⟩
  | registerWorker worker boot => exact ⟨hs.ids, hs.faults, hs.changes⟩
  | invalidateWorker worker boot => exact hs.invalidateWorker c.clk worker boot
  | registerDevice uuid node =>
    exact hs.registerDevice hnamed (registersNull_eq_false hnull hop) (c.clk 0) node
  | markLost id reason => exact hs.onDevice fun _ _ => posts_markLost ..
  | acceptObservation obs env => exact hs.onDevice fun _ _ => posts_acceptObservation ..
  | recordFault fault => exact hs.onDevice fun _ hid => posts_recordFault c.clk hid.symm
  | recordValidation v =>
    exact hs.onDevice fun l _ => (posts_addValidation v l).trans (posts_reassessLocked ..)
  | beginQuarantine id authority reason triggeredBy =>
    exact hs.onDevice fun _ _ => posts_beginQuarantine ..
  | clearQuarantine id => exact hs.onDevice fun _ _ => posts_clearQuarantine ..
  | beginRecovery id => exact hs.onDevice fun _ _ => posts_beginRecovery ..
  | revalidate id v => exact hs.onDevice fun _ _ => posts_revalidate ..
  | reassess id => exact hs.onDevice fun _ _ => posts_reassessLocked ..
  | reassessAll => exact hs.reassessAll c.clk
  | decode data => simp [hop, Op.loads] at hload
  | loadFromFile contents => simp [hop, Op.loads] at hload

end Kept

/-- In every plain run the faults and the changes that the store lists under an id are those
of its device, each as often and in the same order; also where calls throw. -/
theorem histories_kept (policy : HealthPolicy) (epoch : UInt64) (calls : List Call)
    (hplain : ∀ c ∈ calls, c.op.plain) : (after policy epoch calls).Kept := by
  have hrun : (after policy epoch calls).Named ∧ (after policy epoch calls).Kept :=
    Machine.run_invariant (P := fun s : HealthStore => s.Named ∧ s.Kept)
      (C := fun _ c => c.op.plain)
      (fun _ _ hs hc => ⟨step_named hs.1 hc, hs.2.step hs.1 hc⟩)
      ⟨named_init policy epoch, .init policy epoch⟩
      (Machine.along_of_forall fun c hc _ => hplain c hc)
  exact hrun.2

theorem histories_kept_after_bringUp : (after {} 0 bringUp).Kept :=
  histories_kept {} 0 bringUp (by decide)

end HealthStore
end AcceleratorHealth
