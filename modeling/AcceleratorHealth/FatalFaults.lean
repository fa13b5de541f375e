import AcceleratorHealth.Service

/-! Faults of a type that is inherently fatal. The assessment goes by the severity and the
flag that the reporter has set and never by the type, and no rule of it reads
`fatalFaultTriggersQuarantine`. -/
namespace AcceleratorHealth
open Locked

def FaultType.isInherentlyFatal : FaultType → Bool
  | .deviceLost | .memoryIntegrityFailure | .identityChange | .fatalRuntimeError
  | .numericalMismatch => true
  | _ => false

/-- `d'` is not execution-ready, and quarantined where the policy says so and the table lets
`d` be. -/
structure Device.OutOfService (policy : HealthPolicy) (d d' : Device) : Prop where
  claims : d'.claimsReady = false
  quarantine : policy.fatalFaultTriggersQuarantine = true →
    canTransition d.state .quarantined → d'.state = .quarantined

instance (policy : HealthPolicy) (d d' : Device) : Decidable (d.OutOfService policy d') :=
  decidable_of_iff (d'.claimsReady = false ∧ (policy.fatalFaultTriggersQuarantine = true →
      canTransition d.state .quarantined → d'.state = .quarantined))
    ⟨fun ⟨h₁, h₂⟩ => ⟨h₁, h₂⟩, fun ⟨h₁, h₂⟩ => ⟨h₁, h₂⟩⟩

/-- Elsewhere than in QUARANTINED only a record or the count of failures asks for it. -/
theorem AssessmentInput.target_eq_quarantined {i : AssessmentInput}
    (helsewhere : i.currentState ≠ .quarantined) : i.target = .quarantined ↔
      i.inRecovery = false ∧ (i.quarantined = true ∨ i.CountsToQuarantine) := by
  constructor
  · intro h
    unfold target at h
    by_cases hrecovery : i.inRecovery = true
    · rw [if_pos hrecovery] at h
      unfold recoveryTarget at h
      cases hcurrent : i.currentState <;> simp [hcurrent] at h
    rw [if_neg hrecovery] at h
    refine ⟨by simpa using hrecovery, ?_⟩
    by_cases hquarantined : i.quarantined = true
    · exact Or.inl hquarantined
    rw [if_neg hquarantined] at h
    by_cases hfatal : (i.faultStats.hasOpenFatal || i.scan.anyFatalDim) = true
    · rw [if_pos hfatal] at h
      cases h
    rw [if_neg hfatal] at h
    by_cases hfailed : i.scan.anyFailed = true
    · rw [if_pos hfailed] at h
      cases h
    rw [if_neg hfailed] at h
    by_cases hcritical : i.faultStats.hasOpenCritical = true ∧
        i.policy.quarantineAfterFailures.toInt32 ≤ i.consecutive
    · simp only [Bool.not_eq_true] at hrecovery hquarantined hfatal hfailed
      exact Or.inr ⟨hrecovery, hquarantined, hfatal, hfailed, hcritical.1, hcritical.2⟩
    rw [if_neg hcritical] at h
    split_ifs at h
    all_goals first | cases h | exact absurd h helsewhere
  · rintro ⟨hrecovery, hquarantined | hcount⟩
    · unfold target
      rw [if_neg (by simp [hrecovery]), if_pos hquarantined]
    · exact hcount.target_eq

namespace Locked
variable {clk : Readings} {m : Locked}

/-- The record `m`, with the fault on it, takes the device out of service. -/
structure TakesOut (now : Timestamp) (m : Locked) : Prop where
  torn : Tears now m → m.d.claimsReady = false
  whole : ¬Tears now m → ¬Serves now m
  quarantine : m.store.policy.fatalFaultTriggersQuarantine = true →
    canTransition m.d.state .quarantined →
      m.d.inRecovery = false ∧
        (m.d.quarantined = true ∨ (assessmentInput now m).CountsToQuarantine)

theorem outOfService_iff : m.d.OutOfService m.store.policy (reassessLocked clk m).state.d ↔
    TakesOut (clk 0) m := by
  have hquarantine : canTransition m.d.state .quarantined →
      ((reassessLocked clk m).state.d.state = .quarantined ↔ m.d.inRecovery = false ∧
        (m.d.quarantined = true ∨ (assessmentInput (clk 0) m).CountsToQuarantine)) := by
    intro hlegal
    rw [reassessLocked_reaches_iff hlegal]
    exact AssessmentInput.target_eq_quarantined (i := assessmentInput (clk 0) m)
      (canTransition_ne hlegal)
  constructor
  · rintro ⟨hclaims, hstate⟩
    constructor
    · intro htears
      rw [← claimsReady_of_tears htears]
      exact hclaims
    · intro hwhole hserves
      rw [(claimsReady_reassessLocked_iff hwhole).mpr hserves] at hclaims
      cases hclaims
    · exact fun hpolicy hlegal => (hquarantine hlegal).mp (hstate hpolicy hlegal)
  · rintro ⟨htorn, hwhole, hcounts⟩
    constructor
    · by_cases htears : Tears (clk 0) m
      · rw [claimsReady_of_tears htears]
        exact htorn htears
      · rw [Bool.eq_false_iff]
        intro hclaims
        exact hwhole htears ((claimsReady_reassessLocked_iff htears).mp hclaims)
    · exact fun hpolicy hlegal => (hquarantine hlegal).mpr (hcounts hpolicy hlegal)

end Locked

namespace HealthStore
variable {s : HealthStore} {c : Call} {fault : Fault} {faults : FaultHistory} {d : Device}

theorem find?_step_recordFault (hop : c.op = .recordFault fault)
    (hd : s.devices.find? fault.accelerator = some d)
    (hrecorded : d.faults.record fault = .ok faults) :
    (s.step c).devices.find? fault.accelerator =
      some (reassessLocked c.clk (takeFault fault faults ⟨s, d⟩)).state.d := by
  have hstep : s.step c = (s.recordFault c.clk fault).state := by
    unfold step exec
    rw [hop]
    rfl
  have hbody : Locked.recordFault c.clk fault ⟨s, d⟩ =
      reassessLocked c.clk (takeFault fault faults ⟨s, d⟩) := by
    unfold Locked.recordFault
    rw [hrecorded]
  rw [hstep]
  unfold recordFault
  rw [find?_onDevice_self hd (advances_recordFault ..).continues, hbody]

/-- A recorded fault, of an inherently fatal type like of any other, takes the device out of
service exactly when the record with the fault on it does so whatever the type. -/
theorem inherently_fatal_out_of_service_iff (hop : c.op = .recordFault fault)
    (hd : s.devices.find? fault.accelerator = some d)
    (hrecorded : d.faults.record fault = .ok faults) :
    (∃ d', (s.step c).devices.find? fault.accelerator = some d' ∧ d.OutOfService s.policy d') ↔
      TakesOut (c.clk 0) (takeFault fault faults ⟨s, d⟩) := by
  rw [← outOfService_iff]
  constructor
  · rintro ⟨d', hd', hout⟩
    obtain rfl := Option.some.inj (hd'.symm.trans (find?_step_recordFault hop hd hrecorded))
    exact ⟨hout.claims, hout.quarantine⟩
  · intro hout
    exact ⟨_, find?_step_recordFault hop hd hrecorded, hout.claims, hout.quarantine⟩

/-- A numerical mismatch that the reporter calls a warning. -/
def mildMismatch : Fault :=
  { id := ⟨1⟩, accelerator := ⟨7⟩, type := .numericalMismatch, severity := .warning }

theorem mild_mismatch_out_of_service_iff : ∃ d faults,
    (after {} 0 bringUp).devices.find? mildMismatch.accelerator = some d ∧
    d.faults.record mildMismatch = .ok faults ∧
    ((∃ d', ((after {} 0 bringUp).step ((Op.recordFault mildMismatch).at 2)).devices.find?
        mildMismatch.accelerator = some d' ∧ d.OutOfService (after {} 0 bringUp).policy d') ↔
      TakesOut ⟨2⟩ (takeFault mildMismatch faults ⟨after {} 0 bringUp, d⟩)) := by
  have hsome : ((after {} 0 bringUp).devices.find? mildMismatch.accelerator).any
      (fun d => (d.faults.record mildMismatch).isOk) = true := by decide +kernel
  obtain ⟨d, hd, hok⟩ := (Option.any_eq_true _ _).mp hsome
  cases hrecorded : d.faults.record mildMismatch with
  | error e =>
    rw [hrecorded] at hok
    cases hok
  | ok faults =>
    exact ⟨d, faults, hd, hrecorded,
      inherently_fatal_out_of_service_iff (c := (Op.recordFault mildMismatch).at 2) rfl hd
        hrecorded⟩

/-- A device that is READY stays so when a numerical mismatch is recorded. -/
theorem mild_mismatch_leaves_ready : (after {} 0 bringUp).Reachable ∧
    mildMismatch.resolution = .open ∧ mildMismatch.type.isInherentlyFatal = true ∧
    ((after {} 0 bringUp).exec ((Op.recordFault mildMismatch).at 2)).result.isOk = true ∧
    ¬∃ d d', (after {} 0 bringUp).devices.find? mildMismatch.accelerator = some d ∧
      ((after {} 0 bringUp).step ((Op.recordFault mildMismatch).at 2)).devices.find?
        mildMismatch.accelerator = some d' ∧ d.OutOfService (after {} 0 bringUp).policy d' := by
  refine ⟨⟨_, _, _, rfl⟩, rfl, rfl, by decide +kernel, ?_⟩
  rintro ⟨d, d', -, hd', hout⟩
  have hready : (((after {} 0 bringUp).step ((Op.recordFault mildMismatch).at 2)).devices.find?
      mildMismatch.accelerator).map Device.claimsReady = some true := by decide +kernel
  rw [hd', Option.map_some, hout.claims] at hready
  cases hready

end HealthStore
end AcceleratorHealth
