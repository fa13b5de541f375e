import AcceleratorHealth.Reasons

/-! Counts against thresholds. Both are unsigned 32-bit numbers that the engine converts to
`int` before it compares them, which agrees with the unsigned comparison as long as both lie
on the same side of 2^31. -/
namespace AcceleratorHealth

/-- Both below 2^31, or neither. -/
def SameHalf (n m : UInt32) : Prop := n.toNat < 2 ^ 31 ↔ m.toNat < 2 ^ 31

instance (n m : UInt32) : Decidable (SameHalf n m) := inferInstanceAs (Decidable (_ ↔ _))

theorem toInt_toInt32_eq (n : UInt32) :
    n.toInt32.toInt = if n.toNat < 2 ^ 31 then (n.toNat : Int) else n.toNat - 2 ^ 32 := by
  have hlt := n.toNat_lt
  change n.toBitVec.toInt = _
  rw [BitVec.toInt_eq_toNat_cond]
  change (if 2 * n.toNat < 2 ^ 32 then (n.toNat : Int) else n.toNat - (2 ^ 32 : Nat)) = _
  split_ifs <;> omega

theorem toInt32_le_iff {n m : UInt32} (h : SameHalf n m) : n.toInt32 ≤ m.toInt32 ↔ n ≤ m := by
  unfold SameHalf at h
  rw [Int32.le_iff_toInt_le, UInt32.le_iff_toNat_le, toInt_toInt32_eq, toInt_toInt32_eq]
  split_ifs <;> omega

/-- On different sides the comparison comes out the wrong way. -/
theorem toInt32_le_iff_not {n m : UInt32} (h : ¬SameHalf n m) :
    n.toInt32 ≤ m.toInt32 ↔ ¬n ≤ m := by
  have hn := n.toNat_lt
  have hm := m.toNat_lt
  unfold SameHalf at h
  rw [Int32.le_iff_toInt_le, UInt32.le_iff_toNat_le, toInt_toInt32_eq, toInt_toInt32_eq]
  split_ifs <;> omega

theorem sameHalf_iff {n m : UInt32} : SameHalf n m ↔ (n.toInt32 ≤ m.toInt32 ↔ n ≤ m) := by
  refine ⟨toInt32_le_iff, fun h => ?_⟩
  by_contra hnot
  have hother := toInt32_le_iff_not hnot
  tauto

namespace AssessmentInput
variable {i : AssessmentInput}

/-- The rules of the engine with counts compared as the unsigned numbers they are. -/
def unsignedTarget (i : AssessmentInput) : HealthState :=
  if i.inRecovery then recoveryTarget i.currentState
  else if i.quarantined then .quarantined
  else if i.faultStats.hasOpenFatal || i.scan.anyFatalDim then .failed
  else if i.scan.anyFailed then .unhealthy
  else if i.faultStats.hasOpenCritical
      ∧ i.policy.quarantineAfterFailures ≤ i.faultStats.consecutiveLatest then .quarantined
  else if i.policy.unhealthyAfterFailures ≤ i.faultStats.consecutiveLatest then .unhealthy
  else if i.policy.degradeAfterFailures ≤ i.faultStats.consecutiveLatest then .degraded
  else if i.freshness.isOld then
    if i.currentState = .healthy then .degraded else i.currentState
  else .healthy

theorem target_eq_unsignedTarget
    (hquarantine : i.faultStats.hasOpenFatal = false → i.faultStats.hasOpenCritical = true →
      SameHalf i.policy.quarantineAfterFailures i.faultStats.consecutiveLatest)
    (hunhealthy : i.faultStats.hasOpenFatal = false →
      ¬(i.faultStats.hasOpenCritical = true ∧
        i.policy.quarantineAfterFailures ≤ i.faultStats.consecutiveLatest) →
      SameHalf i.policy.unhealthyAfterFailures i.faultStats.consecutiveLatest)
    (hdegrade : SameHalf i.policy.degradeAfterFailures i.faultStats.consecutiveLatest) :
    i.target = i.unsignedTarget := by
  unfold target unsignedTarget
  cases hfatal : i.faultStats.hasOpenFatal with
  | true => simp
  | false =>
    have hreached : (i.faultStats.hasOpenCritical = true ∧
        i.policy.quarantineAfterFailures.toInt32 ≤ i.consecutive) ↔
        (i.faultStats.hasOpenCritical = true ∧
          i.policy.quarantineAfterFailures ≤ i.faultStats.consecutiveLatest) :=
      and_congr_right fun hcritical => toInt32_le_iff (hquarantine hfatal hcritical)
    unfold consecutive at hreached ⊢
    simp only [hreached, toInt32_le_iff hdegrade]
    by_cases hcount : i.faultStats.hasOpenCritical = true ∧
        i.policy.quarantineAfterFailures ≤ i.faultStats.consecutiveLatest
    · simp only [hcount, and_self, if_true]
    · simp only [toInt32_le_iff (hunhealthy hfatal hcount)]

theorem assess_state (i : AssessmentInput) : i.assess.state = i.target := rfl

theorem assess_reasons (i : AssessmentInput) : i.assess.reasons = i.reasons := rfl

end AssessmentInput

/-- The counts of a history are compared with the thresholds of a policy as unsigned numbers:
whatever the rest of the input, the target follows the unsigned rules, and repeated failures
are reported when the unsigned count reaches the threshold for degrading. -/
structure HealthPolicy.CountsUnsigned (policy : HealthPolicy) (stats : DeviceFaultStats) :
    Prop where
  target : ∀ i : AssessmentInput, i.policy = policy → i.faultStats = stats →
    i.assess.state = i.unsignedTarget
  reason : ∀ i : AssessmentInput, i.policy = policy → i.faultStats = stats →
    ((∃ r ∈ i.assess.reasons, str "repeated failures: " <+: r) ↔
      policy.degradeAfterFailures ≤ stats.consecutiveLatest)

namespace HealthPolicy

/-- A HEALTHY device with nothing recorded but the faults. -/
def probe (policy : HealthPolicy) (stats : DeviceFaultStats) : AssessmentInput where
  currentState := .healthy
  faultStats := stats
  policy := policy

theorem scan_probe (policy : HealthPolicy) (stats : DeviceFaultStats) :
    (policy.probe stats).scan = {} := rfl

theorem target_probe (policy : HealthPolicy) (stats : DeviceFaultStats) :
    (policy.probe stats).target =
      if stats.hasOpenFatal then .failed
      else if stats.hasOpenCritical
          ∧ policy.quarantineAfterFailures.toInt32 ≤ stats.consecutiveLatest.toInt32 then
        .quarantined
      else if policy.unhealthyAfterFailures.toInt32 ≤ stats.consecutiveLatest.toInt32 then
        .unhealthy
      else .degraded := by
  have hold : (policy.probe stats).freshness.isOld = true := rfl
  unfold AssessmentInput.target AssessmentInput.consecutive
  rw [scan_probe, hold]
  simp only [probe, Bool.false_eq_true, if_false, Bool.or_false, if_true, ite_self]

theorem unsignedTarget_probe (policy : HealthPolicy) (stats : DeviceFaultStats) :
    (policy.probe stats).unsignedTarget =
      if stats.hasOpenFatal then .failed
      else if stats.hasOpenCritical
          ∧ policy.quarantineAfterFailures ≤ stats.consecutiveLatest then .quarantined
      else if policy.unhealthyAfterFailures ≤ stats.consecutiveLatest then .unhealthy
      else .degraded := by
  have hold : (policy.probe stats).freshness.isOld = true := rfl
  unfold AssessmentInput.unsignedTarget
  rw [scan_probe, hold]
  simp only [probe, Bool.false_eq_true, if_false, Bool.or_false, if_true, ite_self]

/-- Two prioritised decisions agree rule by rule, as far as a rule comes to its turn. -/
private theorem decided_iff {a a' b b' : Prop} [Decidable a] [Decidable a'] [Decidable b]
    [Decidable b'] : (if a then HealthState.quarantined else if b then .unhealthy else .degraded) =
      (if a' then .quarantined else if b' then .unhealthy else .degraded) ↔
    (a ↔ a') ∧ (a' ∨ (b ↔ b')) := by
  by_cases ha : a <;> by_cases ha' : a' <;> by_cases hb : b <;> by_cases hb' : b' <;>
    simp [ha, ha', hb, hb']

/-- Counts are compared as unsigned numbers exactly when each threshold that decides is on the
count's side of 2^31: the one for degrading always, and without an open fatal fault the one
for quarantine if a critical fault is open, and the one for UNHEALTHY unless that for
quarantine is reached. -/
theorem countsUnsigned_iff (policy : HealthPolicy) (stats : DeviceFaultStats) :
    policy.CountsUnsigned stats ↔
      SameHalf policy.degradeAfterFailures stats.consecutiveLatest ∧
      (stats.hasOpenFatal = true ∨
        (stats.hasOpenCritical = true →
          SameHalf policy.quarantineAfterFailures stats.consecutiveLatest) ∧
        (stats.hasOpenCritical = true ∧
            policy.quarantineAfterFailures ≤ stats.consecutiveLatest ∨
          SameHalf policy.unhealthyAfterFailures stats.consecutiveLatest)) := by
  constructor
  · intro h
    have hreason := h.reason (policy.probe stats) rfl rfl
    rw [AssessmentInput.assess_reasons, AssessmentInput.repeated_mem_reasons_iff] at hreason
    have hdegrade : SameHalf policy.degradeAfterFailures stats.consecutiveLatest :=
      sameHalf_iff.mpr hreason
    have htarget : (policy.probe stats).target = (policy.probe stats).unsignedTarget :=
      h.target (policy.probe stats) rfl rfl
    rw [target_probe, unsignedTarget_probe] at htarget
    refine ⟨hdegrade, or_iff_not_imp_left.mpr fun hfatal => ?_⟩
    rw [if_neg hfatal, if_neg hfatal] at htarget
    obtain ⟨hquarantine, hunhealthy⟩ := decided_iff.mp htarget
    rw [sameHalf_iff, sameHalf_iff]
    exact ⟨and_congr_right_iff.mp hquarantine, hunhealthy⟩
  · rintro ⟨hdegrade, hrest⟩
    constructor
    · rintro i rfl rfl
      rw [AssessmentInput.assess_state]
      refine i.target_eq_unsignedTarget (fun hfatal hcritical => ?_) (fun hfatal hcount => ?_)
        hdegrade
      · exact (hrest.resolve_left (by simp [hfatal])).1 hcritical
      · exact (hrest.resolve_left (by simp [hfatal])).2.resolve_left hcount
    · rintro i rfl rfl
      rw [AssessmentInput.assess_reasons]
      exact AssessmentInput.repeated_mem_reasons_iff.trans (toInt32_le_iff hdegrade)

/-- With all bits set, the threshold that is never to be reached is reached without any
fault. -/
theorem never_threshold_fires : ¬∀ (policy : HealthPolicy) (stats : DeviceFaultStats),
    policy.CountsUnsigned stats := by
  intro h
  have htarget := (h { degradeAfterFailures := 0xFFFFFFFF } {}).target
    { currentState := .healthy, now := ⟨1⟩, lastObservation := ⟨1⟩,
      policy := { degradeAfterFailures := 0xFFFFFFFF } } rfl rfl
  exact absurd htarget (by decide)

end HealthPolicy
end AcceleratorHealth
