import AcceleratorHealth.RecoveryPath
import AcceleratorHealth.Views

/-! The indexes against the device records while a body holds the lock. A transition puts
the state ahead of its index, and the publication that ends every reassessment brings both
indexes up to date; a body that ends without one leaves the index behind. -/
namespace AcceleratorHealth
open Codec Locked Persistence

namespace HealthStore

/-- Every index says of an id what the record filed under it says. -/
structure Consistent (s : HealthStore) : Prop where
  filed : ∀ k d, s.devices.find? k = some d → d.id = k
  state : ∀ k st, k ∈ s.stateIndex.ids st ↔ ∃ d, s.devices.find? k = some d ∧ d.state = st
  readiness : ∀ k r, k ∈ s.readinessIndex.ids r ↔
    ∃ d, s.devices.find? k = some d ∧ d.readiness = r
  quarantine : ∀ k, k ∈ s.quarantineIndex.keys ↔
    ∃ d, s.devices.find? k = some d ∧ d.quarantined = true
  faults : ∀ k t, k ∈ s.faultIndex.ids t ↔
    ∃ d, s.devices.find? k = some d ∧ ∃ f ∈ d.faults.faults, f.type = t

end HealthStore

namespace Locked

/-- The record of a device as the body that holds the lock on `id` sees it. -/
def record (id : AcceleratorId) (l : Locked) (k : AcceleratorId) : Option Device :=
  if k = id then some l.d else l.store.devices.find? k

theorem find?_commit_eq (id k : AcceleratorId) (l : Locked) :
    (l.commit id).devices.find? k = l.record id k :=
  OrdMap.find?_insert _ _ _ _

/-- What a body may assume and has to keep: only the device's own entries in the state
and readiness indexes may be behind, and each of these lists it at most once. -/
structure Pending (id : AcceleratorId) (l : Locked) : Prop where
  filed : ∀ k d, l.record id k = some d → d.id = k
  oneState : l.store.stateIndex.Exclusive
  oneReadiness : l.store.readinessIndex.Exclusive
  state : ∀ k st, k ≠ id → (k ∈ l.store.stateIndex.ids st ↔
    ∃ d, l.record id k = some d ∧ d.state = st)
  readiness : ∀ k r, k ≠ id → (k ∈ l.store.readinessIndex.ids r ↔
    ∃ d, l.record id k = some d ∧ d.readiness = r)
  quarantine : ∀ k, k ∈ l.store.quarantineIndex.keys ↔
    ∃ d, l.record id k = some d ∧ d.quarantined = true
  faults : ∀ k t, k ∈ l.store.faultIndex.ids t ↔
    ∃ d, l.record id k = some d ∧ ∃ f ∈ d.faults.faults, f.type = t

/-- The device's own entries are right as well. -/
structure Settled (id : AcceleratorId) (l : Locked) : Prop extends Pending id l where
  ownState : ∀ st, id ∈ l.store.stateIndex.ids st ↔ l.d.state = st
  ownReadiness : ∀ r, id ∈ l.store.readinessIndex.ids r ↔ l.d.readiness = r

/-- All that a pending body has to account for. -/
def footing (l : Locked) :=
  (l.store.devices, l.store.stateIndex, l.store.readinessIndex, l.store.quarantineIndex,
    l.store.faultIndex, l.d.id, l.d.quarantined, l.d.faults)

variable {id : AcceleratorId} {l l' : Locked}

theorem record_self (id : AcceleratorId) (l : Locked) : l.record id id = some l.d := if_pos rfl

theorem exists_record_self {P : Device → Prop} :
    (∃ d, l.record id id = some d ∧ P d) ↔ P l.d := by
  simp [record_self]

theorem record_of_ne {k : AcceleratorId} (h : k ≠ id) :
    l.record id k = l.store.devices.find? k := if_neg h

/-- What is said of every record, said of the device in hand and of the others. -/
theorem record_iff {k : AcceleratorId} {P : Device → Prop} :
    (∃ d, l.record id k = some d ∧ P d) ↔
      (k = id ∧ P l.d) ∨ (k ≠ id ∧ ∃ d, l.store.devices.find? k = some d ∧ P d) := by
  by_cases h : k = id
  · subst h
    simp [exists_record_self]
  · simp [record_of_ne h, h]

theorem Pending.named (h : Pending id l) : l.d.id = id := h.filed id l.d (record_self id l)

/-- An entry is right of the device in hand, or it is about another device. -/
theorem listed_iff {k : AcceleratorId} {P : Device → Prop} {listed : Prop}
    (h : listed ↔ ∃ d, l.record id k = some d ∧ P d) :
    listed ↔ (k = id ∧ P l.d) ∨ (k ≠ id ∧ listed) := by
  by_cases hk : k = id
  · subst hk
    rw [h, exists_record_self]
    simp
  · simp [hk]

/-- An edit of the device's record, told to the quarantine and the fault index. -/
theorem Pending.edit (h : Pending id l) (hdevices : l'.store.devices = l.store.devices)
    (hstate : l'.store.stateIndex = l.store.stateIndex)
    (hreadiness : l'.store.readinessIndex = l.store.readinessIndex) (hid : l'.d.id = l.d.id)
    (hquarantine : ∀ k, k ∈ l'.store.quarantineIndex.keys ↔
      (k = id ∧ l'.d.quarantined = true) ∨ (k ≠ id ∧ k ∈ l.store.quarantineIndex.keys))
    (hfaults : ∀ k t, k ∈ l'.store.faultIndex.ids t ↔
      (k = id ∧ ∃ f ∈ l'.d.faults.faults, f.type = t) ∨ (k ≠ id ∧ k ∈ l.store.faultIndex.ids t)) :
    Pending id l' := by
  have hother : ∀ k, k ≠ id → l'.record id k = l.record id k := fun k hk => by
    rw [record_of_ne hk, record_of_ne hk, hdevices]
  have hrecord : ∀ {P : Device → Prop} {k : AcceleratorId} {listed : Prop},
      (listed ↔ ∃ d, l.record id k = some d ∧ P d) →
        ((k = id ∧ P l'.d) ∨ (k ≠ id ∧ listed) ↔ ∃ d, l'.record id k = some d ∧ P d) := by
    intro P k listed hlisted
    rw [record_iff, hdevices]
    refine or_congr Iff.rfl (and_congr_right fun hk => ?_)
    rw [hlisted, record_of_ne hk]
  constructor
  · intro k d hk
    by_cases heq : k = id
    · subst heq
      rw [record_self] at hk
      cases hk
      rw [hid]
      exact h.named
    · exact h.filed k d (hother k heq ▸ hk)
  · rw [hstate]
    exact h.oneState
  · rw [hreadiness]
    exact h.oneReadiness
  · intro k st hk
    rw [hstate, hother k hk]
    exact h.state k st hk
  · intro k r hk
    rw [hreadiness, hother k hk]
    exact h.readiness k r hk
  · intro k
    exact (hquarantine k).trans (hrecord (h.quarantine k))
  · intro k t
    exact (hfaults k t).trans (hrecord (h.faults k t))

theorem Pending.of_edit (h : Pending id l) (heq : l'.footing = l.footing) : Pending id l' := by
  simp only [footing, Prod.mk.injEq] at heq
  obtain ⟨hdevices, hstate, hreadiness, hquarantine, hfault, hid, hq, hfaults⟩ := heq
  refine h.edit hdevices hstate hreadiness hid (fun k => ?_) fun k t => ?_
  · rw [hquarantine, hq]
    exact listed_iff (h.quarantine k)
  · rw [hfault, hfaults]
    exact listed_iff (h.faults k t)

theorem Settled.of_edit (h : Settled id l) (heq : l'.footing = l.footing)
    (hstate : l'.d.state = l.d.state) (hreadiness : l'.d.readiness = l.d.readiness) :
    Settled id l' := by
  refine ⟨h.toPending.of_edit heq, fun st => ?_, fun r => ?_⟩
  all_goals simp only [footing, Prod.mk.injEq] at heq
  · rw [heq.2.1, hstate]
    exact h.ownState st
  · rw [heq.2.2.1, hreadiness]
    exact h.ownReadiness r

theorem Settled.consistent (h : Settled id l) : (l.commit id).Consistent := by
  constructor
  · intro k d hk
    rw [find?_commit_eq] at hk
    exact h.filed k d hk
  · intro k st
    rw [find?_commit_eq]
    by_cases hk : k = id
    · subst hk
      exact (h.ownState st).trans (exists_record_self (P := fun d => d.state = st)).symm
    · exact h.state k st hk
  · intro k r
    rw [find?_commit_eq]
    by_cases hk : k = id
    · subst hk
      exact (h.ownReadiness r).trans (exists_record_self (P := fun d => d.readiness = r)).symm
    · exact h.readiness k r hk
  · intro k
    rw [find?_commit_eq]
    exact h.quarantine k
  · intro k t
    rw [find?_commit_eq]
    exact h.faults k t

/-- Publication, and registration too, ends by moving the device in both indexes. -/
theorem Pending.updateIndexes (h : Pending id l) : Settled id (updateIndexesLocked l) := by
  have hrecord : ∀ k, (updateIndexesLocked l).record id k = l.record id k := fun _ => rfl
  have hid := h.named
  refine { h with
    oneState := Index.exclusive_move h.oneState _ _
    oneReadiness := Index.exclusive_move h.oneReadiness _ _
    state := fun k st hk => ?_
    readiness := fun k r hk => ?_
    ownState := fun st => ?_
    ownReadiness := fun r => ?_ }
  · change k ∈ ((l.store.stateIndex.remove l.d.id).add l.d.state l.d.id).ids st ↔ _
    rw [hrecord, Index.mem_ids_add, Index.mem_ids_remove h.oneState, hid, h.state k st hk]
    simp [hk]
  · change k ∈ ((l.store.readinessIndex.remove l.d.id).add l.d.readiness l.d.id).ids r ↔ _
    rw [hrecord, Index.mem_ids_add, Index.mem_ids_remove h.oneReadiness, hid, h.readiness k r hk]
    simp [hk]
  · change id ∈ ((l.store.stateIndex.remove l.d.id).add l.d.state l.d.id).ids st ↔ l.d.state = st
    rw [Index.mem_ids_add, Index.mem_ids_remove h.oneState, hid]
    simp [eq_comm]
  · change id ∈ ((l.store.readinessIndex.remove l.d.id).add l.d.readiness l.d.id).ids r ↔
      l.d.readiness = r
    rw [Index.mem_ids_add, Index.mem_ids_remove h.oneReadiness, hid]
    simp [eq_comm]

theorem Pending.published {now : Timestamp} {l₀ : Locked} {blocked : Bool} (h : Pending id l) :
    Settled id (published now l₀ blocked l) := by
  apply Pending.updateIndexes
  exact h.of_edit rfl

end Locked

namespace HealthStore.Consistent
variable {s : HealthStore}

/-- A record has one state, so no index of states can list it twice. -/
theorem oneState (hs : s.Consistent) : s.stateIndex.Exclusive := by
  intro k k' id h h'
  obtain ⟨d, hd, rfl⟩ := (hs.state id k).mp h
  obtain ⟨d', hd', rfl⟩ := (hs.state id k').mp h'
  rw [hd] at hd'
  cases hd'
  rfl

theorem oneReadiness (hs : s.Consistent) : s.readinessIndex.Exclusive := by
  intro k k' id h h'
  obtain ⟨d, hd, rfl⟩ := (hs.readiness id k).mp h
  obtain ⟨d', hd', rfl⟩ := (hs.readiness id k').mp h'
  rw [hd] at hd'
  cases hd'
  rfl

/-- A body starts with every index in order. -/
theorem settled {id : AcceleratorId} {d : Device} (hs : s.Consistent)
    (hd : s.devices.find? id = some d) : Settled id ⟨s, d⟩ := by
  have hrecord : ∀ k, Locked.record id ⟨s, d⟩ k = s.devices.find? k := by
    intro k
    unfold Locked.record
    split_ifs with hk
    · rw [hk, hd]
    · rfl
  have hown : ∀ {P : Device → Prop}, (∃ d', s.devices.find? id = some d' ∧ P d') ↔ P d := by
    simp [hd]
  refine ⟨⟨fun k d' hk => hs.filed k d' (hrecord k ▸ hk), hs.oneState, hs.oneReadiness,
    fun k st _ => ?_, fun k r _ => ?_, fun k => ?_, fun k t => ?_⟩, fun st => ?_, fun r => ?_⟩
  · rw [hrecord]
    exact hs.state k st
  · rw [hrecord]
    exact hs.readiness k r
  · rw [hrecord]
    exact hs.quarantine k
  · rw [hrecord]
    exact hs.faults k t
  · exact (hs.state id st).trans hown
  · exact (hs.readiness id r).trans hown

end HealthStore.Consistent

/-- `n` more health states can be numbered. -/
def Device.Spare (n : Nat) (d : Device) : Prop := d.healthGeneration.value.toNat + n < 2 ^ 64

instance (n : Nat) (d : Device) : Decidable (d.Spare n) :=
  inferInstanceAs (Decidable (_ < _))

theorem Device.Spare.ne_last {n : Nat} {d : Device} (h : d.Spare (n + 1)) :
    d.healthGeneration ≠ .last := by
  unfold Device.Spare at h
  intro heq
  rw [heq] at h
  have hlast : (Generation.last : HealthGeneration).value.toNat = 2 ^ 64 - 1 := rfl
  omega

theorem Device.Spare.mono {m n : Nat} {d : Device} (h : d.Spare n) (hle : m ≤ n) : d.Spare m := by
  unfold Device.Spare at h ⊢
  omega

namespace Locked

section Bodies
variable {id : AcceleratorId} {l : Locked} {n : Nat} {now : Timestamp} {clk : Readings}

/-- A legal transition with a number to spare, and what it leaves for the next. -/
theorem Pending.transition {toState : HealthState} {label detail : Str} (h : Pending id l)
    (hlegal : canTransition l.d.state toState) (hroom : l.d.Spare (n + 1)) :
    (applyTransitionLocked now toState label detail l).Sat
      (fun _ l' => Pending id l' ∧ l'.d.Spare n ∧ l'.d.state = toState ∧
        l'.d.inRecovery = l.d.inRecovery ∧ l'.d.recovery = l.d.recovery ∧
        l'.d.quarantine = l.d.quarantine) fun _ _ => False := by
  apply applyTransitionLocked_sat
  · intro hsame
    exact absurd hsame (canTransition_ne hlegal)
  · intro _ hillegal
    simp [hillegal] at hlegal
  · intro _ hlast
    exact hroom.ne_last hlast
  · intro g _ hg
    refine ⟨h.of_edit rfl, ?_, rfl, rfl, rfl, rfl⟩
    have hnext := Generation.next_toNat hg
    change g.value.toNat + n < 2 ^ 64
    unfold Device.Spare at hroom
    omega

theorem reassessLocked_settles (h : Pending id l) (hroom : l.d.Spare 1) :
    (reassessLocked clk l).Sat (fun _ => Settled id) fun _ _ => False := by
  apply reassessLocked_sat
  · exact fun _ => h.published
  · intro g _ _
    exact Pending.published (h.of_edit rfl)
  · exact fun _ _ => h.published
  · intro _ hlast
    exact hroom.ne_last hlast

theorem settled_acceptObservation {obs : AcceleratorObservation} {env : AuthorityEnvelope}
    (h : Settled id l) (hroom : l.d.Spare 1) :
    Settled id (acceptObservation clk obs env l).state := by
  unfold acceptObservation
  cases fence env l with
  | some rejection => exact h
  | none =>
    simp only
    have htaken : Pending id (takeObservation obs env l) := by
      refine h.toPending.of_edit ?_
      simp only [footing, takeObservation, Device.quarantined]
      split_ifs <;> rfl
    have hroom' : (takeObservation obs env l).d.Spare 1 := by
      unfold takeObservation
      simp only
      split_ifs <;> exact hroom
    exact Exit.state_andThen (reassessLocked_settles htaken hroom').state_of_returns fun _ h => h

theorem settled_recordFault {fault : Fault} (h : Settled id l) (hroom : l.d.Spare 1)
    (hid : fault.accelerator = id) : Settled id (recordFault clk fault l).state := by
  unfold recordFault
  cases hrecord : l.d.faults.record fault with
  | error e => exact h
  | ok faults =>
    obtain ⟨-, happend⟩ := FaultHistory.record_eq_ok hrecord
    apply Exit.Sat.state_of_returns
    refine reassessLocked_settles (l := takeFault fault faults l) ?_ hroom
    refine h.toPending.edit rfl rfl rfl rfl (fun k => listed_iff (h.quarantine k)) fun k t => ?_
    · change k ∈ (l.store.faultIndex.add fault.type fault.accelerator).ids t ↔
        (k = id ∧ ∃ f ∈ faults.faults, f.type = t) ∨ _
      rw [Index.mem_ids_add, hid, happend]
      by_cases hk : k = id
      · subst hk
        rw [h.faults, exists_record_self]
        simp only [true_and, and_true, ne_eq, not_true_eq_false, false_and, or_false,
          List.mem_append, List.mem_singleton, or_and_right, exists_or, exists_eq_left]
        rw [or_comm, eq_comm]
      · simp [hk]

theorem settled_recordValidation {v : ValidationRecord} (h : Settled id l) (hroom : l.d.Spare 1) :
    Settled id (recordValidation clk v l).state :=
  (reassessLocked_settles (l := addValidation v l) (h.toPending.of_edit rfl) hroom).state_of_returns

theorem quarantined_openQuarantine {authority : QuarantineAuthority} {reason triggeredBy : Str} :
    (openQuarantine now id authority reason triggeredBy l).d.quarantined = true := rfl

theorem pending_openQuarantine {authority : QuarantineAuthority} {reason triggeredBy : Str}
    (h : Pending id l) : Pending id (openQuarantine now id authority reason triggeredBy l) := by
  refine h.edit rfl rfl rfl rfl (fun k => ?_) fun k t => listed_iff (h.faults k t)
  change k ∈ (l.store.quarantineIndex.insert id ()).keys ↔ _
  rw [OrdMap.mem_keys_insert, quarantined_openQuarantine]
  by_cases hk : k = id <;> simp [hk]

theorem settled_openQuarantine {authority : QuarantineAuthority} {reason triggeredBy : Str}
    (h : Settled id l) : Settled id (openQuarantine now id authority reason triggeredBy l) :=
  ⟨pending_openQuarantine h.toPending, h.ownState, h.ownReadiness⟩

/-- An active quarantine asks for QUARANTINED, outside recovery. -/
theorem settled_reassessLocked_quarantined (h : Pending id l) (hq : l.d.quarantined = true)
    (hs : l.d.state = .quarantined) (hroom : l.d.inRecovery = true → l.d.Spare 1) :
    Settled id (reassessLocked clk l).state := by
  by_cases hin : l.d.inRecovery = true
  · exact (reassessLocked_settles h (hroom hin)).state_of_returns
  · rw [reassessLocked_eq_same]
    · rw [Exit.ok_state]
      exact h.published
    · rw [hs]
      simp [target, AssessmentInput.target, assessmentInput, hin, hq]

/-- The moves of a quarantine whose record is open. -/
theorem settled_enterQuarantine {reason : Str} (h : Settled id l) (hq : l.d.quarantined = true)
    (hroom : l.d.Spare (if l.d.inRecovery then 2 else 1)) :
    Settled id ((applyTransitionLocked now .quarantined (str "quarantine") reason l).andThen
      (reassessLocked clk)).state := by
  have hone : l.d.Spare 1 := by
    refine hroom.mono ?_
    split_ifs <;> simp
  by_cases hs : l.d.state = .quarantined
  · have hstay : applyTransitionLocked now .quarantined (str "quarantine") reason l = .ok () l :=
      if_pos hs
    rw [hstay, Exit.ok_andThen]
    exact settled_reassessLocked_quarantined h.toPending hq hs fun _ => hone
  by_cases hlegal : canTransition l.d.state .quarantined = true
  swap
  · rw [applyTransitionLocked_eq_refused hs (by simpa using hlegal), Exit.throw_andThen]
    exact h
  by_cases hin : l.d.inRecovery = true
  · rw [if_pos hin] at hroom
    exact (h.toPending.transition hlegal hroom).andThen_state fun l₂ h₂ =>
      (reassessLocked_settles h₂.1 h₂.2.1).state_of_returns
  · refine (h.toPending.transition (n := 0) hlegal hone).andThen_state fun l₂ h₂ => ?_
    obtain ⟨hpending, -, hs₂, hin₂, -, hq₂⟩ := h₂
    have hactive : l₂.d.quarantined = true := by
      unfold Device.quarantined
      rw [hq₂]
      exact hq
    exact settled_reassessLocked_quarantined hpending hactive hs₂ fun h => absurd (hin₂ ▸ h) hin

theorem settled_beginQuarantine {authority : QuarantineAuthority} {reason triggeredBy : Str}
    (h : Settled id l) (hroom : l.d.Spare (if l.d.inRecovery then 2 else 1)) :
    Settled id (beginQuarantine clk id authority reason triggeredBy l).state := by
  unfold beginQuarantine
  split_ifs
  · exact h
  · exact settled_enterQuarantine (settled_openQuarantine h) quarantined_openQuarantine hroom

theorem pending_closeQuarantine (h : Pending id l) : Pending id (closeQuarantine id l) := by
  unfold closeQuarantine
  cases hq : l.d.quarantine with
  | none => exact h
  | some q =>
    refine h.edit rfl rfl rfl rfl (fun k => ?_) fun k t => listed_iff (h.faults k t)
    change k ∈ OrdMap.keys (l.store.quarantineIndex.erase id) ↔ (k = id ∧ false = true) ∨ _
    rw [OrdMap.mem_keys_iff, OrdMap.mem_keys_iff]
    by_cases hk : k = id
    · simp [OrdMap.find?_erase, hk]
    · simp [OrdMap.find?_erase, hk]

theorem settled_clearQuarantine (h : Settled id l) (hroom : l.d.Spare 1) :
    Settled id (clearQuarantine clk id l).state := by
  refine (reassessLocked_settles (pending_closeQuarantine h.toPending) ?_).state_of_returns
  unfold closeQuarantine
  split <;> exact hroom

theorem settled_markLost {reason : Str} (h : Settled id l) (hlost : l.d.state = .lost) :
    Settled id (Locked.markLost now reason l).state := by
  unfold Locked.markLost
  simp only
  rw [if_pos hlost]
  exact h.of_edit rfl rfl rfl

theorem orphan_settles {worker : WorkerId} {boot : WorkerBootId} (h : Settled id l)
    (hroom : l.d.Spare 1) :
    (HealthStore.orphan clk worker boot l).Sat (fun _ => Settled id) fun _ _ => False := by
  unfold HealthStore.orphan
  split_ifs
  · exact reassessLocked_settles (h.toPending.of_edit rfl) hroom
  · exact h

theorem settled_beginRecovery (h : Settled id l) (hroom : l.d.Spare 1)
    (hnext : l.d.inRecovery = false → canTransition l.d.state .recovering →
      ∀ rec, l.d.recovery = some rec → rec.generation ≠ .last) :
    Settled id (Locked.beginRecovery clk l).state := by
  unfold Locked.beginRecovery
  by_cases hin : l.d.inRecovery = true
  · rw [if_pos hin]
    exact h
  rw [if_neg hin]
  by_cases hlegal : canTransition l.d.state .recovering = true
  swap
  · rw [if_pos (by simp [hlegal])]
    exact h
  rw [if_neg (by simp [hlegal])]
  have hgenerations := hnext (by simpa using hin) hlegal
  refine Exit.Sat.andThen_state (P := fun l' => Pending id l' ∧ l'.d.inRecovery = true ∧
    l'.d.state = .recovering)
      ((h.toPending.transition (n := 0) hlegal hroom).andThen fun l₂ h₂ => ?_) fun l₃ h₃ => ?_
  · obtain ⟨hpending, -, hs₂, -, hrecovery, -⟩ := h₂
    obtain ⟨g, hg⟩ := nextRecoveryGeneration_iff.mpr (hrecovery ▸ hgenerations)
    unfold openRecovery
    rw [hg]
    exact ⟨hpending.of_edit rfl, rfl, hs₂⟩
  · rw [reassessLocked_underway h₃.2.1 (Or.inl h₃.2.2), Exit.ok_state]
    exact h₃.1.published

/-- The recovery part of a passing validation takes up to two numbers. -/
theorem recoveryPassed_pending (h : Pending id l) (hroom : l.d.Spare 3) :
    (recoveryPassed clk l).Sat (fun _ l' => Pending id l' ∧ l'.d.Spare 1) fun _ _ => False := by
  unfold recoveryPassed
  refine Exit.Sat.andThen (P := fun l' => Pending id l' ∧ l'.d.Spare 2) ?_ fun l₂ h₂ => ?_
  · split_ifs with henter
    · exact (h.transition henter.2 hroom).mono (fun _ _ h => ⟨h.1, h.2.1⟩) fun _ _ h => h
    · exact ⟨h, hroom.mono (by simp)⟩
  · have hcount : Pending id (countSuccess l₂) := h₂.1.of_edit rfl
    have hspare : (countSuccess l₂).d.Spare 2 := h₂.2
    simp only
    split_ifs with hdone
    · have hlegal : canTransition (countSuccess l₂).d.state .healthy := by
        simp only [revalidated, Bool.and_eq_true, decide_eq_true_eq] at hdone
        rw [hdone.1]
        rfl
      refine (hcount.transition hlegal hspare).andThen fun l₃ h₃ => ?_
      exact ⟨h₃.1.of_edit rfl, h₃.2.1⟩
    · exact ⟨hcount, hspare.mono (by simp)⟩

theorem recoveryFailed_pending (h : Pending id l) (hroom : l.d.Spare 2) :
    (recoveryFailed now l).Sat (fun _ l' => Pending id l' ∧ l'.d.Spare 1) fun _ _ => False := by
  unfold recoveryFailed
  split_ifs with hs
  · have hlegal : canTransition l.d.state .quarantined := by
      rcases hs with hs | hs <;> rw [hs] <;> rfl
    exact (h.transition hlegal hroom).mono (fun _ _ h => ⟨h.1, h.2.1⟩) fun _ _ h => h
  · exact ⟨h, hroom.mono (by simp)⟩

theorem settled_revalidate {v : ValidationRecord} (h : Settled id l)
    (hroom : l.d.Spare (if l.d.inRecovery then if v.passed then 3 else 2 else 1)) :
    Settled id (Locked.revalidate clk v l).state := by
  rw [revalidate_state]
  have hadded : Pending id (addValidation v l) := h.toPending.of_edit rfl
  refine Exit.Sat.andThen_state (P := fun l' => Pending id l' ∧ l'.d.Spare 1) ?_ fun l' h' =>
    (reassessLocked_settles h'.1 h'.2).state_of_returns
  unfold recoveryStep
  change (if l.d.inRecovery = true then _ else _ : Exit Exn Locked Unit).Sat _ _
  by_cases hin : l.d.inRecovery = true
  · rw [if_pos hin] at hroom ⊢
    by_cases hv : v.passed = true
    · rw [if_pos hv] at hroom ⊢
      exact recoveryPassed_pending hadded hroom
    · rw [if_neg hv] at hroom ⊢
      exact recoveryFailed_pending hadded hroom
  · rw [if_neg hin] at hroom ⊢
    exact ⟨hadded, hroom⟩

end Bodies
end Locked
end AcceleratorHealth
