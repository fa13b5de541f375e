import AcceleratorHealth.Standing
import AcceleratorHealth.Quarantine

/-! When a reassessment puts a device into service. The target rules, the transition table
and the readiness rules are traced back to what is on record before it: two ways lead to an
execution-ready device, one for HEALTHY and one for DEGRADED. -/
namespace AcceleratorHealth
open Locked

/-- Nothing on record that the assessment ranks above the count towards DEGRADED. -/
structure AssessmentInput.Clear (i : AssessmentInput) : Prop where
  inRecovery : i.inRecovery = false
  quarantined : i.quarantined = false
  fatal : i.faultStats.hasOpenFatal = false
  dimensions : ∀ dim ∈ i.dimensions.values, dim.state ≠ .failed
  quarantine : i.faultStats.hasOpenCritical = true →
    i.consecutive < i.policy.quarantineAfterFailures.toInt32
  unhealthy : i.consecutive < i.policy.unhealthyAfterFailures.toInt32

/-- The depth and the flags that HEALTHY devices have to meet to be ready. -/
structure Device.Trusted (policy : HealthPolicy) (d : Device) : Prop where
  depth : policy.requiredValidationDepth ≤ d.highestValidation
  deviceGeneration : d.deviceGenerationChangedFlag = false
  policyGeneration : d.policyGenerationChangedFlag = false
  restart : d.requiresRevalidation = false

namespace AssessmentInput
variable {i : AssessmentInput}

/-- What is left of the rules when nothing ranks above the count. -/
theorem target_of_clear (h : i.Clear) :
    i.target = if i.policy.degradeAfterFailures.toInt32 ≤ i.consecutive then .degraded
      else if i.freshness.isOld then
        if i.currentState = .healthy then .degraded else i.currentState
      else .healthy := by
  obtain ⟨hfailed, hfatal⟩ := scan_of_no_failed h.dimensions
  have hquarantine : ¬(i.faultStats.hasOpenCritical = true ∧
      i.policy.quarantineAfterFailures.toInt32 ≤ i.consecutive) := by
    intro hcount
    exact Int32.not_le.mpr (h.quarantine hcount.1) hcount.2
  unfold target
  rw [if_neg (by simp [h.inRecovery]), if_neg (by simp [h.quarantined]),
    if_neg (by simp [h.fatal, hfatal]), if_neg (by simp [hfailed]), if_neg hquarantine,
    if_neg (Int32.not_le.mpr h.unhealthy)]

theorem clear_of_target (h : i.target = .healthy ∨ i.target = .degraded) : i.Clear := by
  have hleft : ∀ s : HealthState, s ≠ .healthy → s ≠ .degraded → i.target ≠ s := by
    rintro s h₁ h₂ rfl
    exact h.elim h₁ h₂
  by_cases hrecovery : i.inRecovery = true
  · exfalso
    unfold target recoveryTarget at h
    rw [if_pos hrecovery] at h
    cases hcurrent : i.currentState <;> simp [hcurrent] at h
  by_cases hquarantined : i.quarantined = true
  · exfalso
    apply hleft .quarantined (by decide) (by decide)
    unfold target
    rw [if_neg hrecovery, if_pos hquarantined]
  by_cases hfatal : (i.faultStats.hasOpenFatal || i.scan.anyFatalDim) = true
  · exfalso
    apply hleft .failed (by decide) (by decide)
    unfold target
    rw [if_neg hrecovery, if_neg hquarantined, if_pos hfatal]
  by_cases hfailed : i.scan.anyFailed = true
  · exfalso
    apply hleft .unhealthy (by decide) (by decide)
    unfold target
    rw [if_neg hrecovery, if_neg hquarantined, if_neg hfatal, if_pos hfailed]
  by_cases hcritical : i.faultStats.hasOpenCritical = true ∧
      i.policy.quarantineAfterFailures.toInt32 ≤ i.consecutive
  · exfalso
    apply hleft .quarantined (by decide) (by decide)
    unfold target
    rw [if_neg hrecovery, if_neg hquarantined, if_neg hfatal, if_neg hfailed, if_pos hcritical]
  by_cases hunhealthy : i.policy.unhealthyAfterFailures.toInt32 ≤ i.consecutive
  · exfalso
    apply hleft .unhealthy (by decide) (by decide)
    unfold target
    rw [if_neg hrecovery, if_neg hquarantined, if_neg hfatal, if_neg hfailed, if_neg hcritical,
      if_pos hunhealthy]
  simp only [Bool.or_eq_true, not_or, Bool.not_eq_true] at hrecovery hquarantined hfatal
  rw [anyFailed_scan, Bool.not_eq_true, List.any_eq_false] at hfailed
  exact
    { inRecovery := hrecovery
      quarantined := hquarantined
      fatal := hfatal.1
      dimensions := fun dim hdim => by simpa using hfailed dim hdim
      quarantine := fun hopen => Int32.not_le.mp fun hcount => hcritical ⟨hopen, hcount⟩
      unhealthy := Int32.not_le.mp hunhealthy }

theorem target_eq_healthy : i.target = .healthy ↔ i.Clear ∧ i.freshness.isOld = false ∧
    i.consecutive < i.policy.degradeAfterFailures.toInt32 := by
  constructor
  · intro h
    have hclear := clear_of_target (Or.inl h)
    rw [target_of_clear hclear] at h
    split_ifs at h with hcount hold hcurrent
    · exact absurd h hcurrent
    · exact ⟨hclear, by simpa using hold, Int32.not_le.mp hcount⟩
  · rintro ⟨hclear, hfresh, hcount⟩
    rw [target_of_clear hclear, if_neg (Int32.not_le.mpr hcount), if_neg (by simp [hfresh])]

theorem target_eq_degraded (hfresh : i.freshness.isOld = false) : i.target = .degraded ↔
    i.Clear ∧ i.policy.degradeAfterFailures.toInt32 ≤ i.consecutive := by
  constructor
  · intro h
    have hclear := clear_of_target (Or.inr h)
    rw [target_of_clear hclear, if_neg (by simp [hfresh] : ¬i.freshness.isOld = true)] at h
    split_ifs at h with hcount
    exact ⟨hclear, hcount⟩
  · rintro ⟨hclear, hcount⟩
    rw [target_of_clear hclear, if_pos hcount]

end AssessmentInput

/-- The readiness rules, read backwards. -/
theorem evaluate_admits_iff {i : ReadinessInput}
    (hruntime : i.runtimeCompatibilityChanged = false) :
    i.evaluate.state.admits ↔ i.quarantined = false ∧ i.freshness.isOld = false ∧
      (i.health = .degraded ∧ i.allowDegradedReadiness = true ∨
        i.health = .healthy ∧ i.requiredValidationDepth ≤ i.validationDepth ∧
          i.deviceGenerationChanged = false ∧ i.policyGenerationChanged = false ∧
          i.requiresRevalidation = false) := by
  constructor
  · intro h
    obtain ⟨hq, hold, hstate⟩ := evaluate_admits h
    refine ⟨hq, hold, ?_⟩
    rcases hstate with hstate | hstate
    · rcases evaluate_requires h with ⟨hdegraded, -⟩ | hrest
      · rw [hstate] at hdegraded
        cases hdegraded
      · exact Or.inr ⟨hstate, hrest⟩
    · left
      unfold ReadinessInput.evaluate at h
      rw [if_neg (by simp [hq]), if_neg (by simp [hold]), hstate] at h
      simp only at h
      split_ifs at h with hallowed
      · exact ⟨hstate, hallowed⟩
      · cases h
  · rintro ⟨hq, hold, ⟨hstate, hallowed⟩ | ⟨hstate, hdepth, hdevice, hpolicy, hrestart⟩⟩
    · unfold ReadinessInput.evaluate
      rw [if_neg (by simp [hq]), if_neg (by simp [hold]), hstate]
      simp only
      rw [if_pos hallowed]
      rfl
    · unfold ReadinessInput.evaluate
      rw [if_neg (by simp [hq]), if_neg (by simp [hold]), hstate]
      simp only
      rw [if_neg (by simp [hold]), if_neg (not_lt.mpr hdepth),
        if_neg (by simp [hdevice, hpolicy, hruntime]), if_neg (by simp [hrestart])]
      split <;> rfl

namespace Locked
variable {now : Timestamp} {clk : Readings} {l m : Locked} {blocked : Bool}

/-- What the record needs for a reassessment at `now` to put the device into service: fresh
evidence, nothing ranked above the count, and one of the two ways, HEALTHY or DEGRADED,
open to it. -/
structure Serves (now : Timestamp) (m : Locked) : Prop where
  clear : (assessmentInput now m).Clear
  fresh : (m.store.policy.freshnessOf m.d.lastObservation now).isOld = false
  way :
    (assessmentInput now m).consecutive < m.store.policy.degradeAfterFailures.toInt32 ∧
        (m.d.state = .healthy ∨ canTransition m.d.state .healthy) ∧
        m.d.Trusted m.store.policy ∨
      m.store.policy.degradeAfterFailures.toInt32 ≤ (assessmentInput now m).consecutive ∧
        (m.d.state = .degraded ∨ canTransition m.d.state .degraded) ∧
        m.store.policy.allowDegradedReadiness = true

/-- The evaluator's conditions on a device in the state `target`. -/
structure Admitted (now : Timestamp) (target : HealthState) (m : Locked) : Prop where
  quarantined : m.d.quarantined = false
  fresh : (m.store.policy.freshnessOf m.d.lastObservation now).isOld = false
  way : target = .degraded ∧ m.store.policy.allowDegradedReadiness = true ∨
    target = .healthy ∧ m.d.Trusted m.store.policy

theorem trusted_congr (hbasis : l.basis = m.basis) :
    l.d.Trusted l.store.policy ↔ m.d.Trusted m.store.policy := by
  have hpolicy : l.store.policy = m.store.policy := congrArg Prod.fst hbasis
  have hdepth := of_basis_eq hbasis Device.highestValidation fun _ => rfl
  have hdevice := of_basis_eq hbasis Device.deviceGenerationChangedFlag fun _ => rfl
  have hchanged := of_basis_eq hbasis Device.policyGenerationChangedFlag fun _ => rfl
  have hrestart := of_basis_eq hbasis Device.requiresRevalidation fun _ => rfl
  constructor
  · rintro ⟨h₁, h₂, h₃, h₄⟩
    exact ⟨by rw [← hpolicy, ← hdepth]; exact h₁, hdevice ▸ h₂, hchanged ▸ h₃, hrestart ▸ h₄⟩
  · rintro ⟨h₁, h₂, h₃, h₄⟩
    exact ⟨by rw [hpolicy, hdepth]; exact h₁, hdevice ▸ h₂, hchanged ▸ h₃, hrestart ▸ h₄⟩

theorem claimsReady_published_iff (hbasis : l.basis = m.basis) {start : Locked} :
    (published now start blocked l).d.claimsReady ↔
      blocked = false ∧ Admitted now l.d.state m := by
  have hpolicy : l.store.policy = m.store.policy := congrArg Prod.fst hbasis
  have hquarantined := of_basis_eq hbasis Device.quarantined fun _ => rfl
  have hobserved := of_basis_eq hbasis Device.lastObservation fun _ => rfl
  have htrusted := trusted_congr hbasis
  rw [claimsReady_published, Bool.and_eq_true, Bool.not_eq_true', evaluate_admits_iff rfl]
  refine and_congr_right fun _ => ?_
  constructor
  · rintro ⟨hq, hold, hway⟩
    refine ⟨hquarantined ▸ hq, by rw [← hpolicy, ← hobserved]; exact hold, ?_⟩
    rcases hway with ⟨hstate, hallowed⟩ | ⟨hstate, h₁, h₂, h₃, h₄⟩
    · exact Or.inl ⟨hstate, by rw [← hpolicy]; exact hallowed⟩
    · exact Or.inr ⟨hstate, htrusted.mp ⟨h₁, h₂, h₃, h₄⟩⟩
  · rintro ⟨hq, hold, hway⟩
    refine ⟨hquarantined.trans hq, ?_, ?_⟩
    · show (l.store.policy.freshnessOf l.d.lastObservation now).isOld = false
      rw [hpolicy, hobserved]
      exact hold
    · rcases hway with ⟨hstate, hallowed⟩ | ⟨hstate, htrust⟩
      · exact Or.inl ⟨hstate, (congrArg HealthPolicy.allowDegradedReadiness hpolicy).trans hallowed⟩
      · obtain ⟨h₁, h₂, h₃, h₄⟩ := htrusted.mpr htrust
        exact Or.inr ⟨hstate, h₁, h₂, h₃, h₄⟩

theorem serves_iff : Serves now m ↔
    (target now m = m.d.state ∨ canTransition m.d.state (target now m)) ∧
      Admitted now (target now m) m := by
  have hfresh : (m.store.policy.freshnessOf m.d.lastObservation now).isOld = false →
      (assessmentInput now m).freshness.isOld = false := id
  constructor
  · rintro ⟨hclear, hold, ⟨hcount, hreached, htrusted⟩ | ⟨hcount, hreached, hallowed⟩⟩
    · have htarget : target now m = .healthy :=
        AssessmentInput.target_eq_healthy.mpr ⟨hclear, hfresh hold, hcount⟩
      rw [htarget]
      exact ⟨hreached.imp Eq.symm id, hclear.quarantined, hold, Or.inr ⟨rfl, htrusted⟩⟩
    · have htarget : target now m = .degraded :=
        (AssessmentInput.target_eq_degraded (hfresh hold)).mpr ⟨hclear, hcount⟩
      rw [htarget]
      exact ⟨hreached.imp Eq.symm id, hclear.quarantined, hold, Or.inl ⟨rfl, hallowed⟩⟩
  · rintro ⟨hreached, -, hold, ⟨htarget, hallowed⟩ | ⟨htarget, htrusted⟩⟩
    · obtain ⟨hclear, hcount⟩ := (AssessmentInput.target_eq_degraded (hfresh hold)).mp htarget
      rw [htarget] at hreached
      exact ⟨hclear, hold, Or.inr ⟨hcount, hreached.imp Eq.symm id, hallowed⟩⟩
    · obtain ⟨hclear, -, hcount⟩ := AssessmentInput.target_eq_healthy.mp htarget
      rw [htarget] at hreached
      exact ⟨hclear, hold, Or.inl ⟨hcount, hreached.imp Eq.symm id, htrusted⟩⟩

/-- A completed reassessment puts the device into service exactly when the record serves. -/
theorem reassessLocked_serves : (reassessLocked clk m).Sat
    (fun _ l' => l'.d.claimsReady ↔ Serves (clk 0) m)
      fun _ l' => l'.d.claimsReady = m.d.claimsReady := by
  apply reassessLocked_sat
  · intro hsame
    rw [claimsReady_published_iff rfl, serves_iff, hsame]
    exact ⟨fun h => ⟨Or.inl rfl, h.2⟩, fun h => ⟨rfl, h.2⟩⟩
  · intro g hlegal _
    rw [claimsReady_published_iff (m := m) basis_moved, serves_iff]
    exact ⟨fun h => ⟨Or.inr hlegal, h.2⟩, fun h => ⟨rfl, h.2⟩⟩
  · intro hdiffers hillegal
    rw [claimsReady_published_iff rfl, serves_iff]
    constructor
    · rintro ⟨h, -⟩
      cases h
    · rintro ⟨hsame | hlegal, -⟩
      · exact absurd hsame hdiffers
      · rw [hillegal] at hlegal
        cases hlegal
  · exact fun _ _ => rfl

theorem claimsReady_reassessLocked_iff (hwhole : ¬Tears (clk 0) m) :
    (reassessLocked clk m).state.d.claimsReady ↔ Serves (clk 0) m :=
  (Exit.sat_iff.mp reassessLocked_serves).1 () (reassessLocked_returns_iff.mpr hwhole)

/-- Where the table lets a device go the reassessment takes it if it is asked to. -/
theorem reassessLocked_reaches_iff {toState : HealthState}
    (hlegal : canTransition m.d.state toState) :
    (reassessLocked clk m).state.d.state = toState ↔ target (clk 0) m = toState := by
  apply reassessLocked_state (P := fun l' => l'.d.state = toState ↔ target (clk 0) m = toState)
  · intro hsame
    show m.d.state = toState ↔ _
    rw [hsame]
  · exact fun _ _ _ => Iff.rfl
  · intro hdiffers hillegal
    constructor
    · intro hstate
      exact absurd hstate (canTransition_ne hlegal)
    · intro htarget
      rw [htarget, hlegal] at hillegal
      cases hillegal
  · exact fun _ _ => Iff.rfl

theorem claimsReady_of_tears (htears : Tears (clk 0) m) :
    (reassessLocked clk m).state.d.claimsReady = m.d.claimsReady := by
  rw [reassessLocked_eq_torn htears.1 htears.2]
  rfl

end Locked

/-! ### The reassessments of a call -/

namespace HealthStore
open Persistence

/-- A reassessment that the call makes of the device `k`, unless it is cut short before: the
readings it takes and the record it starts from. -/
inductive Reassesses (s : HealthStore) (c : Call) (k : AcceleratorId) : Readings → Locked → Prop
  | entered {d : Device} {l m : Locked} {clk : Readings} (tracked : s.devices.find? k = some d)
      (device : l.d = d) (policy : l.store.policy = c.op.policyIn s)
      (enters : Enters s c k l clk m) : Reassesses s c k clk m
  | observed {obs : AcceleratorObservation} {env : AuthorityEnvelope} {d : Device}
      (op : c.op = .acceptObservation obs env) (target : obs.accelerator = k)
      (tracked : s.devices.find? k = some d) (passed : fence env ⟨s, d⟩ = none) :
      Reassesses s c k c.clk (takeObservation obs env ⟨s, d⟩)
  | stripped {worker : WorkerId} {boot : WorkerBootId} {i : Nat} {d : Device} {l : Locked}
      (op : c.op = .invalidateWorker worker boot) (turn : (k, i) ∈ s.devices.keys.zipIdx)
      (tracked : s.devices.find? k = some d) (device : l.d = d)
      (policy : l.store.policy = s.policy)
      (last : d.lastWorker = worker ∧ d.lastWorkerBootId = boot) :
      Reassesses s c k (c.clk.drop (2 * i)) (strip l)
  | restored {data : Bytes} {i : Nat} {d : Device} {l : Locked}
      (op : c.op = .loadFromFile (some data))
      (accepted : (decodeStateInternal data s).result = .ok ())
      (turn : (k, i) ∈ (distrust (decodeStateInternal data s).state).devices.keys.zipIdx)
      (tracked : (distrust (decodeStateInternal data s).state).devices.find? k = some d)
      (device : l.d = d) (policy : l.store.policy = (decodeStateInternal data s).state.policy) :
      Reassesses s c k (c.clk.drop (2 * i)) l

theorem idle_of_registers {s : HealthStore} {c : Call}
    (h : (∃ uuid node, c.op = .registerDevice uuid node) ∨
      ∃ worker boot, c.op = .registerWorker worker boot) :
    ∀ k clk m, ¬Reassesses s c k clk m := by
  have hop : ∀ op, c.op = op → (∃ uuid node, op = .registerDevice uuid node) ∨
      ∃ worker boot, op = .registerWorker worker boot := fun op heq => heq ▸ h
  intro k clk m hr
  cases hr with
  | entered _ _ _ enters => cases enters with
    | fault op | validation op | quarantine op | clear op | recovery op | revalidation op
    | reassess op | reassessAll op | policy op => simpa using hop _ op
  | observed op | stripped op | restored op => simpa using hop _ op

section Single
variable {s : HealthStore} {c : Call} {k : AcceleratorId} {clk : Readings} {m : Locked}

/-- The one record that a report comes to reassess. -/
theorem Reassesses.of_observation {obs : AcceleratorObservation} {env : AuthorityEnvelope}
    (h : Reassesses s c k clk m) (hop : c.op = .acceptObservation obs env) :
    ∃ d, s.devices.find? k = some d ∧ clk = c.clk ∧ m = takeObservation obs env ⟨s, d⟩ := by
  cases h with
  | entered _ _ _ enters => cases enters with
    | fault op | validation op | quarantine op | clear op | recovery op | revalidation op
    | reassess op | reassessAll op | policy op => cases hop.symm.trans op
  | observed op _ tracked =>
    cases hop.symm.trans op
    exact ⟨_, tracked, rfl, rfl⟩
  | stripped op | restored op => cases hop.symm.trans op

theorem Reassesses.of_validation {v : ValidationRecord} (h : Reassesses s c k clk m)
    (hop : c.op = .recordValidation v) : ∃ l, s.devices.find? k = some l.d ∧ clk = c.clk ∧
      l.store.policy = s.policy ∧ m = addValidation v l := by
  cases h with
  | entered tracked device policy enters => cases enters with
    | validation op =>
      cases hop.symm.trans op
      rw [hop] at policy
      exact ⟨_, device ▸ tracked, rfl, policy, rfl⟩
    | fault op | quarantine op | clear op | recovery op | revalidation op
    | reassess op | reassessAll op | policy op => cases hop.symm.trans op
  | observed op | stripped op | restored op => cases hop.symm.trans op

theorem Reassesses.of_fault {fault : Fault} (h : Reassesses s c k clk m)
    (hop : c.op = .recordFault fault) : ∃ l faults, s.devices.find? k = some l.d ∧ clk = c.clk ∧
      l.store.policy = s.policy ∧ l.d.faults.record fault = .ok faults ∧
        m = takeFault fault faults l := by
  cases h with
  | entered tracked device policy enters => cases enters with
    | fault op _ recorded =>
      cases hop.symm.trans op
      rw [hop] at policy
      exact ⟨_, _, device ▸ tracked, rfl, policy, recorded, rfl⟩
    | validation op | quarantine op | clear op | recovery op | revalidation op
    | reassess op | reassessAll op | policy op => cases hop.symm.trans op
  | observed op | stripped op | restored op => cases hop.symm.trans op

end Single

theorem claimsReady_of_standing {d d' : Device} (h : d'.standing = d.standing) :
    d'.claimsReady = d.claimsReady := by
  have hready : d'.readiness = d.readiness := congrArg Standing.readiness h
  have hassessed : d'.latestAssessment = d.latestAssessment :=
    congrArg Standing.latestAssessment h
  unfold Device.claimsReady
  rw [hready, hassessed]

theorem claimsReady_takeObservation {obs : AcceleratorObservation} {env : AuthorityEnvelope}
    {l : Locked} : (takeObservation obs env l).d.claimsReady = l.d.claimsReady := by
  unfold takeObservation
  simp only
  split_ifs <;> rfl

section Step
variable {s : HealthStore} {c : Call} {k : AcceleratorId} {d d' : Device}

/-- What a call other than a load makes of a device comes from a reassessment that starts
from the old verdict, or has the old verdict. -/
theorem Outcome.reassessed (h : Outcome s c k d d') (hd : s.devices.find? k = some d) :
    d'.claimsReady = d.claimsReady ∨ ∃ clk m, Reassesses s c k clk m ∧
      m.d.claimsReady = d.claimsReady ∧ d' = (reassessLocked clk m).state.d := by
  cases h with
  | kept hstanding => exact Or.inl (claimsReady_of_standing hstanding)
  | @judged l m clk device policy enters _ eq =>
    have hclaims : m.d.claimsReady = d.claimsReady := by
      rw [claimsReady_of_standing enters.standing, device]
    exact Or.inr ⟨clk, m, .entered hd device policy enters, hclaims, eq⟩
  | observed op target passed eq =>
    exact Or.inr ⟨_, _, .observed op target hd passed, claimsReady_takeObservation, eq⟩
  | @stripped l worker boot i op _ turn device policy last eq =>
    have hclaims : (strip l).d.claimsReady = d.claimsReady := by
      rw [← device]
      rfl
    exact Or.inr ⟨_, _, .stripped op turn hd device policy last, hclaims, eq⟩

end Step
end HealthStore
end AcceleratorHealth
