import AcceleratorHealth.RecoveryGate
import AcceleratorHealth.Queries

/-! What holds a device in quarantine. Three ways lead there: an operator's quarantine, a
validation that fails in recovery, and the policy's count of failures; only the first one
opens a record, and none of them ends a recovery. -/
namespace AcceleratorHealth
open Codec Locked Persistence

namespace AssessmentInput
variable {i : AssessmentInput}

/-- The assessment goes by the policy's `quarantineAfterFailures`. -/
structure CountsToQuarantine (i : AssessmentInput) : Prop where
  inRecovery : i.inRecovery = false
  quarantined : i.quarantined = false
  fatal : (i.faultStats.hasOpenFatal || i.scan.anyFatalDim) = false
  failed : i.scan.anyFailed = false
  critical : i.faultStats.hasOpenCritical = true
  count : i.policy.quarantineAfterFailures.toInt32 ≤ i.consecutive

theorem CountsToQuarantine.target_eq (h : i.CountsToQuarantine) : i.target = .quarantined := by
  unfold target
  rw [if_neg (by simp [h.inRecovery]), if_neg (by simp [h.quarantined]), if_neg (by simp [h.fatal]),
    if_neg (by simp [h.failed]), if_pos ⟨h.critical, h.count⟩]

end AssessmentInput

/-- QUARANTINED and not in recovery. -/
structure Device.Confined (d : Device) : Prop where
  state : d.state = .quarantined
  inRecovery : d.inRecovery = false

/-! ### One device -/

namespace Locked
variable {now : Timestamp} {clk : Readings} {l l' : Locked} {c : Call} {k id : AcceleratorId}
  {authority : QuarantineAuthority} {reason triggeredBy : Str}

/-- No evidence asks a quarantined device for a state that the table lets it reach. -/
theorem target_illegal (h : l.d.Confined) : canTransition l.d.state (target now l) = false := by
  have hcurrent : (assessmentInput now l).currentState = .quarantined := h.state
  rw [h.state]
  rcases AssessmentInput.target_cases (i := assessmentInput now l) h.inRecovery with
    ht | ht | ht | ht | ht | ht
  · rw [target, ht, hcurrent]
    rfl
  all_goals
    rw [target, ht]
    rfl

theorem confined_reassessLocked (h : l.d.Confined) : (reassessLocked clk l).state.d.Confined := by
  apply reassessLocked_state (P := fun l' => l'.d.Confined)
  · exact fun _ => ⟨h.state, h.inRecovery⟩
  · intro g hlegal _
    rw [target_illegal h] at hlegal
    cases hlegal
  · exact fun _ _ => ⟨h.state, h.inRecovery⟩
  · intro hlegal _
    rw [target_illegal h] at hlegal
    cases hlegal

theorem confined_takeObservation {obs : AcceleratorObservation} {env : AuthorityEnvelope}
    (h : l.d.Confined) : (takeObservation obs env l).d.Confined := by
  unfold takeObservation
  constructor
  · simp only
    split_ifs <;> exact h.state
  · simp only
    split_ifs <;> exact h.inRecovery

theorem confined_closeQuarantine (h : l.d.Confined) : (closeQuarantine id l).d.Confined := by
  unfold closeQuarantine
  split
  · exact h
  · exact ⟨h.state, h.inRecovery⟩

theorem confined_beginQuarantine (h : l.d.Confined) :
    (beginQuarantine clk id authority reason triggeredBy l).state.d.Confined := by
  unfold beginQuarantine
  split_ifs
  · exact h
  · have hopened : (openQuarantine (clk 0) id authority reason triggeredBy l).d.Confined :=
      ⟨h.state, h.inRecovery⟩
    have hstay : applyTransitionLocked (clk 1) .quarantined (str "quarantine") reason
        (openQuarantine (clk 0) id authority reason triggeredBy l) =
          .ok () (openQuarantine (clk 0) id authority reason triggeredBy l) :=
      if_pos hopened.state
    rw [hstay, Exit.ok_andThen]
    exact confined_reassessLocked hopened

theorem confined_revalidate {v : ValidationRecord} (h : l.d.Confined) :
    (Locked.revalidate clk v l).state.d.Confined := by
  have hadded : (addValidation v l).d.Confined := ⟨h.state, h.inRecovery⟩
  have hstep : recoveryStep clk v (addValidation v l) = .ok () (addValidation v l) := by
    unfold recoveryStep
    rw [if_neg (by simp [hadded.inRecovery])]
  rw [revalidate_state, hstep, Exit.ok_andThen]
  exact confined_reassessLocked hadded

/-- Every body but those of `beginRecovery` and `markLost` leaves the device confined. -/
theorem Touch.confined (htouch : Touch c k l l') (h : l.d.Confined)
    (hrecovery : c.op ≠ .beginRecovery k) (hlost : ∀ reason, c.op ≠ .markLost k reason) :
    l'.d.Confined := by
  cases htouch with
  | observation =>
    unfold acceptObservation
    split
    · exact h
    · exact Exit.state_andThen (P := fun l' : Locked => l'.d.Confined)
        (confined_reassessLocked (confined_takeObservation h)) fun _ h => h
  | fault =>
    unfold recordFault
    split
    · exact h
    · exact confined_reassessLocked ⟨h.state, h.inRecovery⟩
  | validation => exact confined_reassessLocked ⟨h.state, h.inRecovery⟩
  | quarantine => exact confined_beginQuarantine h
  | clear => exact confined_reassessLocked (confined_closeQuarantine h)
  | recovery op => exact absurd op hrecovery
  | revalidation => exact confined_revalidate h
  | lost op => exact absurd op (hlost _)
  | reassess => exact confined_reassessLocked h
  | orphan =>
    unfold HealthStore.orphan
    split_ifs
    · exact confined_reassessLocked ⟨h.state, h.inRecovery⟩
    · exact h
  | policy => exact confined_reassessLocked ⟨h.state, h.inRecovery⟩
  | policySkipped => exact ⟨h.state, h.inRecovery⟩

/-- A reassessment that goes by the count opens no record. -/
theorem quarantined_of_counts (h : (assessmentInput (clk 0) l).CountsToQuarantine)
    (hreassessed : reassessLocked clk l = .ok () l') : l'.d.quarantined = false := by
  have hbasis := basis_reassessLocked clk l
  rw [hreassessed, Exit.ok_state] at hbasis
  rw [of_basis_eq hbasis Device.quarantined fun _ => rfl]
  exact h.quarantined

/-- Outside recovery the record that `beginQuarantine` opens keeps the reassessment at
QUARANTINED. -/
theorem beginQuarantine_sat (hout : l.d.inRecovery = false) :
    (beginQuarantine clk id authority reason triggeredBy l).Sat
      (fun _ l' => l'.d.Confined ∧ id ∈ l'.store.quarantineIndex.keys) fun _ _ => True := by
  unfold beginQuarantine
  split_ifs
  · trivial
  have hlisted : id ∈
      (openQuarantine (clk 0) id authority reason triggeredBy l).store.quarantineIndex.keys :=
    OrdMap.mem_keys_insert.mpr (Or.inl rfl)
  refine Exit.Sat.andThen (P := fun l₁ : Locked => l₁.d.state = .quarantined ∧
    l₁.d.inRecovery = false ∧ l₁.d.quarantined = true ∧ id ∈ l₁.store.quarantineIndex.keys) ?_
    fun l₁ h₁ => ?_
  · apply applyTransitionLocked_sat
    · exact fun hs => ⟨hs, hout, rfl, hlisted⟩
    · exact fun _ _ => trivial
    · exact fun _ _ => trivial
    · exact fun _ _ _ => ⟨rfl, hout, rfl, hlisted⟩
  · obtain ⟨hs, hin, hq, hmem⟩ := h₁
    have htarget : target (clk.drop 2 0) l₁ = l₁.d.state := by
      rw [hs]
      change AssessmentInput.target (assessmentInput (clk.drop 2 0) l₁) = _
      unfold AssessmentInput.target
      rw [if_neg (by simp [assessmentInput, hin]), if_pos (by simp [assessmentInput, hq])]
    rw [reassessLocked_eq_same htarget]
    exact ⟨⟨hs, hin⟩, hmem⟩

end Locked

/-- The calls that take a device out of quarantine. -/
def Op.releases (id : AcceleratorId) : Op → Bool
  | .beginRecovery k | .markLost k _ => k = id
  | _ => false

/-! ### Runs -/

namespace HealthStore
variable {s : HealthStore} {c : Call} {id : AcceleratorId} {later : List Call}

/-- The record of the device, when there is one, is confined. -/
def Confines (id : AcceleratorId) (s : HealthStore) : Prop :=
  ∀ d, s.devices.find? id = some d → d.Confined

/-- The call does not replace the record of the device: no registration draws its id, and
an image that lists it lists it as confined. -/
structure KeepsRecord (id : AcceleratorId) (s : HealthStore) (c : Call) : Prop where
  registered : ∀ uuid node, c.op = .registerDevice uuid node → s.uuidIndex.find? uuid = none →
    s.deviceIdFor uuid ≠ id
  image : ∀ data, c.op = .decode data ∨ c.op = .loadFromFile (some data) →
    ∀ d ∈ records data, d.id = id → d.Confined

theorem decode_confines {data : Bytes} (hs : s.Confines id)
    (himage : ∀ d ∈ records data, d.id = id → d.Confined) :
    (decodeStateInternal data s).state.Confines id := by
  by_cases hh : (header data).isSome = true
  · intro d hd
    obtain ⟨hmem, hid⟩ := decode_device_of_header hh hd
    exact himage d hmem hid
  · obtain ⟨e, he⟩ := decode_of_header_none (by simpa using hh) s
    rw [he]
    exact hs

theorem step_confines (hs : s.Confines id) (h : s.KeepsRecord id c)
    (hkept : c.op.releases id = false) : (s.step c).Confines id := by
  by_cases hload : c.op.loads = false
  · intro d' hd'
    have hrecovery : c.op ≠ .beginRecovery id := fun hop => by simp [hop, Op.releases] at hkept
    have hlost : ∀ reason, c.op ≠ .markLost id reason := fun reason hop => by
      simp [hop, Op.releases] at hkept
    rcases step_device hload hd' with ⟨d, hd, rfl | ⟨l, l', rfl, -, htouch, rfl⟩⟩ |
      ⟨uuid, node, hop, hnone, hid, -⟩
    · exact hs d' hd
    · exact htouch.confined (hs l.d hd) hrecovery hlost
    · exact absurd hid.symm (h.registered uuid node hop hnone)
  rcases step_loads (s := s) (Bool.of_not_eq_false hload) with
    ⟨data, hop, hstep⟩ | ⟨-, hstep⟩ | ⟨data, hop, hstep⟩ <;> rw [hstep]
  · exact decode_confines hs (h.image data (Or.inl hop))
  · exact hs
  · exact loadInternal_device (decode_confines hs (h.image data (Or.inr hop)))
      (fun _ h => ⟨h.state, h.inRecovery⟩) fun _ _ => confined_reassessLocked

/-- A run of calls that keep the record, none of which releases the device. -/
theorem run_confines (hs : s.Confines id) (hrun : Machine.Along step (KeepsRecord id) s later)
    (hkept : ∀ c ∈ later, c.op.releases id = false) :
    (Machine.run step s later).Confines id := by
  have hboth := hrun.and (Machine.along_of_forall (C := fun _ c => c.op.releases id = false)
    fun c hc _ => hkept c hc)
  exact Machine.run_invariant (fun _ _ hs h => step_confines hs h.1 h.2) hs hboth

/-- The ways into quarantine. Any body may have led up to the reassessment that goes by
the count. -/
inductive EntersQuarantine (s : HealthStore) (c : Call) (id : AcceleratorId) : Prop
  | begun {authority : QuarantineAuthority} {reason triggeredBy : Str}
      (op : c.op = .beginQuarantine id authority reason triggeredBy)
      (returned : (s.beginQuarantine c.clk id authority reason triggeredBy).result = .ok ())
  | failed {v : ValidationRecord} {d : Device} (op : c.op = .revalidate id v)
      (failed : v.passed = false) (tracked : s.devices.find? id = some d)
      (recovering : d.inRecovery = true)
  | counted {l l' : Locked} {clk : Readings}
      (counts : (assessmentInput (clk 0) l).CountsToQuarantine)
      (reassessed : reassessLocked clk l = .ok () l')
      (left : (s.step c).devices.find? id = some l'.d)

/-- The device is quarantined in its state, in its record and in the index. -/
structure Sealed (id : AcceleratorId) (s : HealthStore) : Prop where
  device : ∃ d, s.devices.find? id = some d ∧ d.Confined ∧ d.quarantined = true
  listed : id ∈ s.quarantined

/-- The call seals the device, which is confined after every later run in which it is not
released. -/
structure Sticks (s : HealthStore) (c : Call) (id : AcceleratorId) (later : List Call) : Prop where
  now : (s.step c).Sealed id
  later : (∀ c' ∈ later, c'.op.releases id = false) →
    (Machine.run step (s.step c) later).Confines id

theorem beginQuarantine_of_tracked {d : Device} {clk : Readings} {authority : QuarantineAuthority}
    {reason triggeredBy : Str} (hd : s.devices.find? id = some d) :
    s.beginQuarantine clk id authority reason triggeredBy =
      (Locked.beginQuarantine clk id authority reason triggeredBy ⟨s, d⟩).mapState (commit id) :=
  onDevice_some hd

/-- The record that a call of `beginQuarantine` leaves. -/
theorem find?_step_beginQuarantine {d : Device} {authority : QuarantineAuthority}
    {reason triggeredBy : Str} (hop : c.op = .beginQuarantine id authority reason triggeredBy)
    (hd : s.devices.find? id = some d) :
    (s.step c).devices.find? id =
      some (Locked.beginQuarantine c.clk id authority reason triggeredBy ⟨s, d⟩).state.d := by
  obtain ⟨op, clk⟩ := c
  cases hop
  change (s.beginQuarantine clk id authority reason triggeredBy).state.devices.find? id = _
  exact find?_onDevice_self hd (advances_beginQuarantine ..).continues

theorem tracked_of_returned {clk : Readings} {authority : QuarantineAuthority}
    {reason triggeredBy : Str}
    (h : (s.beginQuarantine clk id authority reason triggeredBy).result = .ok ()) :
    ∃ d, s.devices.find? id = some d := by
  cases hd : s.devices.find? id with
  | none =>
    rw [beginQuarantine, onDevice_none hd] at h
    cases h
  | some d => exact ⟨d, rfl⟩

/-- A quarantine that begins outside recovery seals the device. -/
theorem sealed_beginQuarantine {d : Device} {authority : QuarantineAuthority}
    {reason triggeredBy : Str} (hop : c.op = .beginQuarantine id authority reason triggeredBy)
    (hreturned : (s.beginQuarantine c.clk id authority reason triggeredBy).result = .ok ())
    (hd : s.devices.find? id = some d) (hout : d.inRecovery = false) : (s.step c).Sealed id := by
  rw [beginQuarantine_of_tracked hd, Exit.mapState_result] at hreturned
  obtain ⟨hconfined, hlisted⟩ :=
    (Exit.sat_iff.mp (beginQuarantine_sat (l := ⟨s, d⟩) hout)).1 () hreturned
  refine ⟨⟨_, find?_step_beginQuarantine hop hd, hconfined, quarantined_beginQuarantine⟩, ?_⟩
  obtain ⟨op, clk⟩ := c
  cases hop
  change id ∈ (s.beginQuarantine clk id authority reason triggeredBy).state.quarantineIndex.keys
  rw [beginQuarantine_of_tracked hd]
  exact hlisted

/-- Nothing seals a device in recovery, and the policy's count opens no record. -/
theorem begun_of_sealed (henters : s.EntersQuarantine c id) (hsealed : (s.step c).Sealed id) :
    ∃ authority reason triggeredBy d, c.op = .beginQuarantine id authority reason triggeredBy ∧
      s.devices.find? id = some d ∧ d.inRecovery = false := by
  obtain ⟨d', hd', hconfined, hactive⟩ := hsealed.device
  cases henters with
  | @begun authority reason triggeredBy op returned =>
    obtain ⟨d, hd⟩ := tracked_of_returned returned
    refine ⟨authority, reason, triggeredBy, d, op, hd, ?_⟩
    rw [find?_step_beginQuarantine op hd] at hd'
    cases hd'
    have hkept : (Locked.beginQuarantine c.clk id authority reason triggeredBy
        ⟨s, d⟩).state.d.inRecovery = d.inRecovery := congrArg Prod.fst progress_beginQuarantine
    exact hkept.symm.trans hconfined.inRecovery
  | @failed v d op hfailed hd hin =>
    exfalso
    obtain ⟨op', clk⟩ := c
    cases op
    change (s.revalidate clk id v).state.devices.find? id = some d' at hd'
    rw [revalidate, find?_onDevice_self hd (advances_revalidate ..).continues] at hd'
    cases hd'
    have hweighed := weighed_revalidate clk v (l := ⟨s, d⟩) hin
    rcases hweighed.held with ⟨hin', -⟩ | ⟨hone, -⟩
    · rw [hconfined.inRecovery] at hin'
      cases hin'
    · simp [hfailed] at hone
  | counted counts reassessed left =>
    exfalso
    rw [left] at hd'
    cases hd'
    rw [quarantined_of_counts counts reassessed] at hactive
    cases hactive

/-- Quarantine sticks for exactly the devices that `beginQuarantine` finds outside
recovery. -/
theorem quarantine_sticks_iff (henters : s.EntersQuarantine c id)
    (hlater : Machine.Along step (KeepsRecord id) (s.step c) later) :
    s.Sticks c id later ↔ ∃ authority reason triggeredBy d,
      c.op = .beginQuarantine id authority reason triggeredBy ∧
        s.devices.find? id = some d ∧ d.inRecovery = false := by
  constructor
  · exact fun h => begun_of_sealed henters h.now
  · rintro ⟨authority, reason, triggeredBy, d, hop, hd, hout⟩
    have hsealed : (s.step c).Sealed id := by
      cases henters with
      | begun op returned =>
        rw [hop] at op
        cases op
        exact sealed_beginQuarantine hop returned hd hout
      | failed op =>
        rw [hop] at op
        cases op
      | @counted l l' _ counts reassessed left =>
        exfalso
        rw [find?_step_beginQuarantine hop hd] at left
        have hactive : l'.d.quarantined = true :=
          (Option.some.inj left) ▸ quarantined_beginQuarantine
        rw [quarantined_of_counts counts reassessed] at hactive
        cases hactive
    refine ⟨hsealed, run_confines (fun d' hd' => ?_) hlater⟩
    obtain ⟨d₁, hd₁, hconfined, -⟩ := hsealed.device
    rw [hd'] at hd₁
    cases hd₁
    exact hconfined

/-- Device 7 is registered. -/
def registered : List Call := [(Op.registerDevice ⟨7⟩ ⟨1⟩).at 1]

/-- An operator quarantines device 7. -/
def quarantineCall : Call := (Op.beginQuarantine ⟨7⟩ .operator [] []).at 1

theorem keepsRecord_of_other (hload : c.op.loads = false)
    (hreg : ∀ uuid node, c.op ≠ .registerDevice uuid node) : s.KeepsRecord id c where
  registered uuid node hop _ := absurd hop (hreg uuid node)
  image data hop := by rcases hop with hop | hop <;> simp [hop, Op.loads] at hload

/-- Neither clearing the record, nor passed validations, nor an assessment releases the
device. -/
theorem quarantine_sticks_on_operator :
    (after {} 0 registered).Sticks quarantineCall ⟨7⟩
      [(Op.clearQuarantine ⟨7⟩).at 1, validation 1 true, Op.reassessAll.at 1] := by
  have htracked : ((after {} 0 registered).devices.find? ⟨7⟩).map Device.inRecovery =
      some false := by decide +kernel
  obtain ⟨d, hd, hout⟩ := Option.map_eq_some_iff.mp htracked
  refine (quarantine_sticks_iff (.begun rfl (by rfl)) ?_).mpr ⟨.operator, [], [], d, rfl, hd, hout⟩
  exact ⟨keepsRecord_of_other rfl (by simp [Op.at]),
    keepsRecord_of_other rfl (by simp [validation, Op.at]),
    keepsRecord_of_other rfl (by simp [Op.at]), trivial⟩

/-- A validation that fails in recovery leaves the device in recovery, and RECOVERING. -/
theorem quarantine_undone_by_recovery :
    (after {} 0 recovered).EntersQuarantine (validation 1 false) ⟨7⟩ ∧
      ¬(after {} 0 recovered).Sticks (validation 1 false) ⟨7⟩ [] := by
  have htracked : ((after {} 0 recovered).devices.find? ⟨7⟩).map Device.inRecovery =
      some true := by decide +kernel
  have hleft : (((after {} 0 recovered).step (validation 1 false)).devices.find? ⟨7⟩).map
      (fun d => (d.state, d.inRecovery)) = some (.recovering, true) := by decide +kernel
  obtain ⟨d, hd, hin⟩ := Option.map_eq_some_iff.mp htracked
  refine ⟨.failed rfl rfl hd hin, fun h => ?_⟩
  obtain ⟨d', hd', hconfined, -⟩ := h.now.device
  rw [hd', Option.map_some, hconfined.state] at hleft
  cases hleft

end HealthStore
end AcceleratorHealth
