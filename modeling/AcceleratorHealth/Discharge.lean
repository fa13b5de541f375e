import AcceleratorHealth.Evidence
import AcceleratorHealth.Agreement

/-! What it takes to leave REVALIDATION_REQUIRED: a device that is revalidated and then
reported nominal becomes READY only when nothing but depth, a restart or old evidence
held it back. -/
namespace AcceleratorHealth
open Locked

/-- A device whose only complaint is that it has to be revalidated. -/
structure Device.AwaitsRevalidation (d : Device) : Prop where
  state : d.state = .healthy ∨ d.state = .degraded
  readiness : d.readiness = .revalidationRequired
  quarantined : d.quarantined = false
  faults : d.faults.faults = []
  dimensions : ∀ dim ∈ d.dimensions.values, dim.state ≠ .failed ∧ dim.state ≠ .degraded

/-- Without a recorded fault the thresholds are all that counts. -/
theorem FaultHistory.tolerated_of_no_faults {policy : HealthPolicy} {h : FaultHistory}
    (hnone : h.faults = []) : h.Tolerated policy ↔
      0 < policy.degradeAfterFailures.toInt32 ∧ 0 < policy.unhealthyAfterFailures.toInt32 := by
  have hempty : h = .empty := FaultHistory.ext hnone
  have hstats : h.stats = {} := by
    rw [hempty]
    rfl
  rw [FaultHistory.tolerated_iff, hstats]
  constructor
  · rintro ⟨-, -, hunhealthy, hdegrade⟩
    exact ⟨hdegrade, hunhealthy⟩
  · rintro ⟨hdegrade, hunhealthy⟩
    exact ⟨rfl, fun h => (Bool.false_ne_true h).elim, hunhealthy, hdegrade⟩

namespace Locked
variable {clk : Readings} {l : Locked} {v : ValidationRecord} {obs : AcceleratorObservation}
  {env : AuthorityEnvelope}

/-- Outside recovery a validation is recorded and the device reassessed. -/
theorem revalidate_outside (hin : l.d.inRecovery = false) :
    (revalidate clk v l).state = (reassessLocked (clk.drop 3) (addValidation v l)).state := by
  have hin' : (addValidation v l).d.inRecovery = false := hin
  rw [revalidate_state, recoveryStep, if_neg (by simp [hin']), Exit.ok_andThen]

/-- A recovery flag on a HEALTHY or DEGRADED device blocks it: the way on is RECOVERING,
which the table does not allow from there. -/
theorem reassessLocked_stuck (hin : l.d.inRecovery = true)
    (hs : l.d.state = .healthy ∨ l.d.state = .degraded) :
    reassessLocked clk l = .ok () (published (clk 0) l true l) := by
  have htarget : target (clk 0) l = .recovering := by
    rcases hs with hs | hs <;> rw [target_of_inRecovery hin, hs] <;> rfl
  apply reassessLocked_eq_blocked
  · rw [htarget]
    rcases hs with hs | hs <;> rw [hs] <;> decide
  · rw [htarget]
    rcases hs with hs | hs <;> rw [hs] <;> rfl

/-- The bodies that run when an observation is accepted. -/
theorem acceptObservation_accepted (h : (acceptObservation clk obs env l).result = .ok "accepted") :
    fence env l = none ∧
      (acceptObservation clk obs env l).state =
        (reassessLocked clk (takeObservation obs env l)).state := by
  unfold acceptObservation at h ⊢
  cases hf : fence env l with
  | some rejection =>
    simp only [hf, Exit.ok_result, Except.ok.injEq] at h
    subst h
    exact absurd hf (by
      unfold fence
      repeat' split
      all_goals simp)
  | none =>
    simp only [hf] at h ⊢
    refine ⟨trivial, ?_⟩
    unfold Exit.andThen Exit.bind
    cases (reassessLocked clk (takeObservation obs env l)).result <;> rfl

/-- A report of nominal dimensions adds no failed one. -/
theorem no_failed_takeObservation (hdims : ∀ dim ∈ l.d.dimensions.values, dim.state ≠ .failed)
    (hnominal : ∀ dim ∈ obs.dimensions, dim.state = .nominal) :
    ∀ dim ∈ (takeObservation obs env l).d.dimensions.values, dim.state ≠ .failed := by
  have heq : (takeObservation obs env l).d.dimensions =
      l.d.dimensions.insertAll (obs.dimensions.map fun dim => (dim.kind, dim)) := by
    simp only [takeObservation]
    split_ifs <;> rfl
  intro dim hdim
  rw [heq, OrdMap.mem_values_iff] at hdim
  obtain ⟨kind, hfind⟩ := hdim
  rcases OrdMap.find?_insertAll_cases hfind with hmem | hfind
  · obtain ⟨dim', hdim', heq⟩ := List.mem_map.mp hmem
    cases heq
    simp [hnominal _ hdim']
  · exact hdims dim (OrdMap.mem_values_iff.mpr ⟨kind, hfind⟩)

/-- The other fields after a report: the generation flag rises with the generation. -/
theorem takeObservation_fields (obs : AcceleratorObservation)
    (hgen : l.d.generation ≤ env.deviceGeneration) :
    (takeObservation obs env l).d.state = l.d.state ∧
    (takeObservation obs env l).d.quarantined = l.d.quarantined ∧
    (takeObservation obs env l).d.inRecovery = l.d.inRecovery ∧
    (takeObservation obs env l).d.faults = l.d.faults ∧
    (takeObservation obs env l).d.highestValidation = l.d.highestValidation ∧
    (takeObservation obs env l).d.lastObservation = obs.timestamp ∧
    (takeObservation obs env l).d.policyGenerationChangedFlag = l.d.policyGenerationChangedFlag ∧
    (takeObservation obs env l).d.requiresRevalidation = false ∧
    ((takeObservation obs env l).d.deviceGenerationChangedFlag = false ↔
      l.d.deviceGenerationChangedFlag = false ∧ env.deviceGeneration = l.d.generation) := by
  simp only [takeObservation]
  split_ifs with hlt
  · refine ⟨rfl, rfl, rfl, rfl, rfl, trivial, rfl, trivial, ?_⟩
    simp only [false_iff, not_and]
    rintro - heq
    rw [heq] at hlt
    exact Nat.lt_irrefl _ hlt
  · refine ⟨rfl, rfl, rfl, rfl, rfl, trivial, rfl, trivial, ?_⟩
    have heq : env.deviceGeneration = l.d.generation :=
      Generation.ext (UInt64.toNat_inj.mp (Nat.le_antisymm (Nat.le_of_not_lt hlt) hgen))
    simp [heq]

/-- On current evidence of the required depth, the flags decide the readiness of a HEALTHY
device. -/
theorem published_ready_iff {now : Timestamp} {l₀ : Locked} (hs : l.d.state = .healthy)
    (hq : l.d.quarantined = false)
    (hfresh : l.store.policy.freshnessOf l.d.lastObservation now = .current)
    (hdepth : l.store.policy.requiredValidationDepth ≤ l.d.highestValidation)
    (hrestart : l.d.requiresRevalidation = false) :
    (published now l₀ false l).d.readiness = .ready ↔
      l.d.deviceGenerationChangedFlag = false ∧ l.d.policyGenerationChangedFlag = false := by
  change (readinessInput now l).evaluate.state = .ready ↔ _
  have hdepth' : ¬l.d.highestValidation < l.store.policy.requiredValidationDepth :=
    not_lt.mpr hdepth
  cases hdev : l.d.deviceGenerationChangedFlag <;> cases hpol : l.d.policyGenerationChangedFlag <;>
    simp [ReadinessInput.evaluate, readinessInput, hs, hq, hfresh, hrestart, hdepth', hdev, hpol,
      FreshnessStatus.isOld]
  · rfl
  all_goals
    intro h
    cases h

/-- A passed validation leaves at least its depth behind. -/
theorem le_highestValidation (hv : v.passed = true) :
    v.depth ≤ (addValidation v l).d.highestValidation := by
  simp only [addValidation, hv, true_and]
  split_ifs with hlt
  · exact le_refl _
  · exact not_lt.mp hlt

/-- When the faults are tolerated a HEALTHY device stays so and a DEGRADED one is blocked. -/
theorem reassessLocked_stays (clk : Readings) (hrec : l.d.inRecovery = false)
    (hq : l.d.quarantined = false)
    (hdims : ∀ dim ∈ l.d.dimensions.values, dim.state ≠ .failed)
    (hfresh : l.store.policy.freshnessOf l.d.lastObservation (clk 0) = .current)
    (htolerated : l.d.faults.Tolerated l.store.policy) :
    (l.d.state = .healthy → reassessLocked clk l = .ok () (published (clk 0) l false l)) ∧
      (l.d.state = .degraded → reassessLocked clk l = .ok () (published (clk 0) l true l)) := by
  have htarget : target (clk 0) l = .healthy :=
    (target_healthy_iff hrec hq hdims hfresh).mpr htolerated
  constructor
  · intro hs
    exact reassessLocked_eq_same (htarget.trans hs.symm)
  · intro hs
    apply reassessLocked_eq_blocked
    · rw [htarget, hs]
      decide
    · rw [htarget, hs]
      rfl

/-- Faults that are not tolerated take a device away from HEALTHY, or keep it away. -/
theorem reassessLocked_leaves (hrec : l.d.inRecovery = false) (hq : l.d.quarantined = false)
    (hdims : ∀ dim ∈ l.d.dimensions.values, dim.state ≠ .failed)
    (hfresh : l.store.policy.freshnessOf l.d.lastObservation (clk 0) = .current)
    (hfaults : ¬l.d.faults.Tolerated l.store.policy) :
    (reassessLocked clk l).state.d.state ≠ .healthy := by
  have htarget : target (clk 0) l ≠ .healthy :=
    (target_healthy_iff hrec hq hdims hfresh).not.mpr hfaults
  by_cases hs : l.d.state = .healthy
  · have hmoved : (reassessLocked clk l).Sat (fun _ l' => l'.d.state ≠ .healthy)
        fun _ l' => l'.d.state ≠ .healthy :=
      (reassessLocked_healthy hs hrec).mono (fun _ _ h => h.not.mpr htarget) fun _ _ h => h.1
    exact hmoved.state
  · exact reassessLocked_not_healthy hs htarget

/-- In recovery a validation leaves a HEALTHY or DEGRADED device where it is. -/
theorem revalidate_stuck (clk : Readings) (v : ValidationRecord) (hin : l.d.inRecovery = true)
    (hs : l.d.state = .healthy ∨ l.d.state = .degraded) :
    (revalidate clk v l).state.d.inRecovery = true ∧
      (revalidate clk v l).state.d.state = l.d.state := by
  have hstuck : ∀ l₂ : Locked, l₂.d.inRecovery = true → l₂.d.state = l.d.state →
      (reassessLocked (clk.drop 3) l₂).state.d.inRecovery = true ∧
        (reassessLocked (clk.drop 3) l₂).state.d.state = l.d.state := fun l₂ hin₂ hs₂ => by
    rw [reassessLocked_stuck hin₂ (hs₂ ▸ hs)]
    exact ⟨hin₂, hs₂⟩
  have h₁ : (addValidation v l).d.state ≠ .recovering := by
    change l.d.state ≠ .recovering
    rcases hs with hs | hs <;> simp [hs]
  have h₂ : (addValidation v l).d.state ≠ .revalidating := by
    change l.d.state ≠ .revalidating
    rcases hs with hs | hs <;> simp [hs]
  rw [revalidate_state]
  rcases recoveryStep_elsewhere clk v h₁ h₂ with heq | heq <;> rw [heq, Exit.ok_andThen]
  · exact hstuck _ hin rfl
  · exact hstuck _ hin rfl

/-- What a nominal report finds after a passed validation outside recovery. -/
structure Reported (now : Timestamp) (env : AuthorityEnvelope) (l l' : Locked) : Prop where
  policy : l'.store.policy = l.store.policy
  inRecovery : l'.d.inRecovery = false
  quarantined : l'.d.quarantined = false
  faults : l'.d.faults = l.d.faults
  dimensions : ∀ dim ∈ l'.d.dimensions.values, dim.state ≠ .failed
  fresh : l'.store.policy.freshnessOf l'.d.lastObservation now = .current
  depth : l'.store.policy.requiredValidationDepth ≤ l'.d.highestValidation
  restart : l'.d.requiresRevalidation = false
  flags : l'.d.deviceGenerationChangedFlag = false ∧ l'.d.policyGenerationChangedFlag = false ↔
    (l.d.deviceGenerationChangedFlag = false ∧ env.deviceGeneration = l.d.generation) ∧
      l.d.policyGenerationChangedFlag = false

theorem reported_takeObservation {l₁ : Locked} {now : Timestamp} (h : l.d.AwaitsRevalidation)
    (hin : l.d.inRecovery = false) (hv : v.passed = true)
    (hdepth : l.store.policy.requiredValidationDepth ≤ v.depth)
    (hl₁ : l₁.d = (reassessLocked clk (addValidation v l)).state.d)
    (hpolicy : l₁.store.policy = l.store.policy) (hgen : l₁.d.generation ≤ env.deviceGeneration)
    (hnominal : ∀ dim ∈ obs.dimensions, dim.state = .nominal)
    (hreport : l.store.policy.freshnessOf obs.timestamp now = .current) :
    Reported now env l (takeObservation obs env l₁) := by
  obtain ⟨-, htq, htr, htf, htd, hto, htp, htrr, htg⟩ := takeObservation_fields obs hgen
  have htpolicy : (takeObservation obs env l₁).store.policy = l.store.policy := hpolicy
  have hkeep : ∀ {β : Type} (f : Device → β), (∀ d : Device, f d.evidence = f d) →
      f l₁.d = f (addValidation v l).d := fun f hf => by
    rw [hl₁]
    exact of_basis_eq (basis_reassessLocked clk (addValidation v l)) f hf
  constructor
  · exact htpolicy
  · rw [htr, hkeep Device.inRecovery fun _ => rfl]
    exact hin
  · rw [htq, hkeep Device.quarantined fun _ => rfl]
    exact h.quarantined
  · exact htf.trans (hkeep Device.faults fun _ => rfl)
  · refine no_failed_takeObservation ?_ hnominal
    rw [hkeep Device.dimensions fun _ => rfl]
    exact fun dim hdim => (h.dimensions dim hdim).1
  · rw [htpolicy, hto]
    exact hreport
  · rw [htpolicy, htd, hkeep Device.highestValidation fun _ => rfl]
    exact hdepth.trans (le_highestValidation hv)
  · exact htrr
  · rw [htg, htp, hkeep Device.generation fun _ => rfl,
      hkeep Device.deviceGenerationChangedFlag fun _ => rfl,
      hkeep Device.policyGenerationChangedFlag fun _ => rfl]
    rfl

namespace Reported
variable {l' : Locked}

theorem tolerated_iff (h : Reported (clk 0) env l l') :
    l'.d.faults.Tolerated l'.store.policy ↔ l.d.faults.Tolerated l.store.policy := by
  rw [h.faults, h.policy]

theorem ready_iff (h : Reported (clk 0) env l l') (hs : l'.d.state = .healthy)
    (htolerated : l.d.faults.Tolerated l.store.policy) :
    (reassessLocked clk l').state.d.state = .healthy ∧
        (reassessLocked clk l').state.d.readiness = .ready ↔
      (l.d.deviceGenerationChangedFlag = false ∧ env.deviceGeneration = l.d.generation) ∧
        l.d.policyGenerationChangedFlag = false := by
  have hstays := reassessLocked_stays clk h.inRecovery h.quarantined h.dimensions h.fresh
    (h.tolerated_iff.mpr htolerated)
  rw [hstays.1 hs, Exit.ok_state,
    published_ready_iff hs h.quarantined h.fresh h.depth h.restart, h.flags]
  exact and_iff_right hs

theorem not_ready_of_degraded (h : Reported (clk 0) env l l') (hs : l'.d.state = .degraded)
    (htolerated : l.d.faults.Tolerated l.store.policy) :
    (reassessLocked clk l').state.d.readiness ≠ .ready := by
  have hstays := reassessLocked_stays clk h.inRecovery h.quarantined h.dimensions h.fresh
    (h.tolerated_iff.mpr htolerated)
  rw [hstays.2 hs]
  intro hready
  cases hready

theorem not_healthy (h : Reported (clk 0) env l l')
    (hfaults : ¬l.d.faults.Tolerated l.store.policy) :
    (reassessLocked clk l').state.d.state ≠ .healthy :=
  reassessLocked_leaves h.inRecovery h.quarantined h.dimensions h.fresh
    (h.tolerated_iff.not.mpr hfaults)

end Reported

/-- A validation and an accepted nominal report, one after the other, on one device. -/
theorem discharge_iff {l₁ : Locked} {clk' : Readings} (h : l.d.AwaitsRevalidation)
    (hv : v.passed = true) (hdepth : l.store.policy.requiredValidationDepth ≤ v.depth)
    (hfresh : l.store.policy.freshnessOf l.d.lastObservation (clk 3) = .current)
    (hl₁ : l₁.d = (revalidate clk v l).state.d) (hpolicy : l₁.store.policy = l.store.policy)
    (hgen : l₁.d.generation ≤ env.deviceGeneration)
    (hnominal : ∀ dim ∈ obs.dimensions, dim.state = .nominal)
    (hreport : l.store.policy.freshnessOf obs.timestamp (clk' 0) = .current) :
    ((reassessLocked clk' (takeObservation obs env l₁)).state.d.state = .healthy ∧
      (reassessLocked clk' (takeObservation obs env l₁)).state.d.readiness = .ready) ↔
    l.d.state = .healthy ∧ l.d.inRecovery = false ∧ l.d.deviceGenerationChangedFlag = false ∧
      l.d.policyGenerationChangedFlag = false ∧ env.deviceGeneration = l.d.generation ∧
      0 < l.store.policy.degradeAfterFailures.toInt32 ∧
      0 < l.store.policy.unhealthyAfterFailures.toInt32 := by
  obtain ⟨hts, -, htr, -⟩ := takeObservation_fields obs hgen
  by_cases hin : l.d.inRecovery = true
  · -- a recovery flag keeps the device where it is, at REVALIDATION_REQUIRED
    obtain ⟨hin₁, hs₁⟩ := revalidate_stuck clk v hin h.state
    rw [← hl₁] at hin₁ hs₁
    rw [reassessLocked_stuck (htr.trans hin₁) (by rw [hts, hs₁]; exact h.state)]
    exact iff_of_false (fun hc => by cases hc.2) fun hc => by simp [hin] at hc
  have hin' : l.d.inRecovery = false := by simpa using hin
  rw [revalidate_outside hin'] at hl₁
  have hreported : Reported (clk' 0) env l (takeObservation obs env l₁) :=
    reported_takeObservation h hin' hv hdepth hl₁ hpolicy hgen hnominal hreport
  rw [← FaultHistory.tolerated_of_no_faults h.faults]
  by_cases htolerated : l.d.faults.Tolerated l.store.policy
  · -- the validation leaves the state as it is
    have hfirst := reassessLocked_stays (clk.drop 3) (l := addValidation v l) hin' h.quarantined
      (fun dim hdim => (h.dimensions dim hdim).1) hfresh htolerated
    rcases h.state with hs | hs
    · have hs₁ : (takeObservation obs env l₁).d.state = .healthy := by
        rw [hts, hl₁, hfirst.1 hs]
        exact hs
      rw [hreported.ready_iff hs₁ htolerated]
      constructor
      · rintro ⟨⟨hdev, hgeneration⟩, hpol⟩
        exact ⟨hs, hin', hdev, hpol, hgeneration, htolerated⟩
      · rintro ⟨-, -, hdev, hpol, hgeneration, -⟩
        exact ⟨⟨hdev, hgeneration⟩, hpol⟩
    · have hs₁ : (takeObservation obs env l₁).d.state = .degraded := by
        rw [hts, hl₁, hfirst.2 hs]
        exact hs
      exact iff_of_false (fun hc => hreported.not_ready_of_degraded hs₁ htolerated hc.2)
        fun hc => by simp [hs] at hc
  · exact iff_of_false (fun hc => hreported.not_healthy htolerated hc.1)
      fun hc => htolerated hc.2.2.2.2.2

end Locked

namespace HealthStore

section Steps
variable {s : HealthStore} {clk : Readings} {d : Device}

theorem step_revalidate {id : AcceleratorId} {v : ValidationRecord}
    (hd : s.devices.find? id = some d) :
    s.step ⟨.revalidate id v, clk⟩ = (Locked.revalidate clk v ⟨s, d⟩).state.commit id := by
  simp only [step, exec, revalidate, onDevice_some hd, Exit.mapResult_state, Exit.mapState_state]

theorem step_acceptObservation {obs : AcceleratorObservation} {env : AuthorityEnvelope}
    (hd : s.devices.find? obs.accelerator = some d) :
    s.step ⟨.acceptObservation obs env, clk⟩ =
      (Locked.acceptObservation clk obs env ⟨s, d⟩).state.commit obs.accelerator := by
  simp only [step, exec, acceptObservation, onDevice_some hd, Exit.mapResult_state,
    Exit.mapState_state]

end Steps

/-- When a validation and a further nominal report take a device out of
REVALIDATION_REQUIRED: it is HEALTHY and not in recovery, no generation change has ever been
flagged, the report brings none, and the policy does not ask for less than no fault. -/
theorem revalidation_discharges_iff (s : HealthStore) (id : AcceleratorId) (d : Device)
    (hd : s.devices.find? id = some d) (h : d.AwaitsRevalidation) (clk clk' : Readings)
    (v : ValidationRecord) (hv : v.passed = true)
    (hdepth : s.policy.requiredValidationDepth ≤ v.depth)
    (hfresh : ∀ i, s.policy.freshnessOf d.lastObservation (clk i) = .current)
    (obs : AcceleratorObservation) (env : AuthorityEnvelope) (hobs : obs.accelerator = id)
    (hnominal : ∀ dim ∈ obs.dimensions, dim.state = .nominal)
    (hreport : ∀ i, s.policy.freshnessOf obs.timestamp (clk' i) = .current)
    (haccepted : ((s.step ⟨.revalidate id v, clk⟩).acceptObservation clk' obs env).result =
      .ok "accepted") :
    (∃ d', ((s.step ⟨.revalidate id v, clk⟩).step ⟨.acceptObservation obs env, clk'⟩).devices.find?
        id = some d' ∧ d'.state = .healthy ∧ d'.readiness = .ready) ↔
      d.state = .healthy ∧ d.inRecovery = false ∧ d.deviceGenerationChangedFlag = false ∧
        d.policyGenerationChangedFlag = false ∧ env.deviceGeneration = d.generation ∧
        0 < s.policy.degradeAfterFailures.toInt32 ∧
          0 < s.policy.unhealthyAfterFailures.toInt32 := by
  subst hobs
  have hd₁ : (s.step ⟨.revalidate obs.accelerator v, clk⟩).devices.find? obs.accelerator =
      some (Locked.revalidate clk v ⟨s, d⟩).state.d := by
    rw [step_revalidate hd]
    exact OrdMap.find?_insert_self _ _ _
  rw [acceptObservation, onDevice_some hd₁, Exit.mapState_result] at haccepted
  obtain ⟨hfence, hstate⟩ := acceptObservation_accepted haccepted
  have hpolicy : (s.step ⟨.revalidate obs.accelerator v, clk⟩).policy = s.policy := by
    rw [step_revalidate hd]
    exact (advances_revalidate clk v ⟨s, d⟩).continues.policy
  rw [step_acceptObservation hd₁, Locked.commit, OrdMap.find?_insert_self, hstate]
  simp only [Option.some.injEq, exists_eq_left']
  exact discharge_iff (l := ⟨s, d⟩) h hv hdepth (hfresh 3) rfl hpolicy (fence_eq_none hfence).2.2.2
    hnominal (hreport 0)

/-- A full validation of device 7, and the call that submits it. -/
def fullRecord : ValidationRecord := { accelerator := ⟨7⟩, depth := .full, passed := true }

def nominalReport : AcceleratorObservation :=
  { accelerator := ⟨7⟩, worker := ⟨1⟩, workerBootId := ⟨1⟩, timestamp := ⟨1⟩ }

def nextEnvelope : AuthorityEnvelope :=
  { workerId := ⟨1⟩, workerBootId := ⟨1⟩, observationGeneration := ⟨2⟩, deviceGeneration := ⟨1⟩ }

/-- A device held back for want of a validation becomes READY. -/
theorem revalidation_discharges_want_of_depth :
    ∃ d', (((after {} 0 unvalidated).step ((Op.revalidate ⟨7⟩ fullRecord).at 1)).step
        ((Op.acceptObservation nominalReport nextEnvelope).at 1)).devices.find? ⟨7⟩ = some d' ∧
      d'.state = .healthy ∧ d'.readiness = .ready := by
  have hview : ((after {} 0 unvalidated).devices.find? ⟨7⟩).any (fun d =>
      decide (d.state = .healthy ∧ d.readiness = .revalidationRequired ∧ d.quarantined = false ∧
        d.faults.faults = []) &&
      decide (d.dimensions = .empty ∧ d.inRecovery = false ∧ d.deviceGenerationChangedFlag = false ∧
        d.policyGenerationChangedFlag = false) &&
      decide (d.generation = ⟨1⟩ ∧ d.lastObservation = ⟨1⟩)) = true := by decide +kernel
  obtain ⟨d, hd, heq⟩ := (Option.any_eq_true _ _).mp hview
  simp only [Bool.and_eq_true, decide_eq_true_eq] at heq
  obtain ⟨⟨⟨hs, hready, hq, hfaults⟩, hdims, hin, hdev, hpol⟩, hgen, hlast⟩ := heq
  have hpolicy : (after {} 0 unvalidated).policy = {} := by decide +kernel
  have hcurrent : HealthPolicy.freshnessOf {} ⟨1⟩ ⟨1⟩ = .current := by decide
  refine (revalidation_discharges_iff _ ⟨7⟩ d hd ⟨Or.inl hs, hready, hq, hfaults, ?_⟩ _ _ fullRecord
    rfl ?_ ?_ nominalReport nextEnvelope rfl ?_ ?_ ?_).mpr ⟨hs, hin, hdev, hpol, ?_, ?_, ?_⟩
  · simp [hdims, OrdMap.values, OrdMap.empty]
  · rw [hpolicy]
    decide
  · rw [hpolicy, hlast]
    exact fun _ => hcurrent
  · simp [nominalReport]
  · rw [hpolicy]
    exact fun _ => hcurrent
  · decide +kernel
  · rw [hgen]
    rfl
  · rw [hpolicy]
    decide
  · rw [hpolicy]
    decide

/-- A policy change flags the device for good: no validation or report clears the flag. -/
theorem revalidation_never_discharges_policy_change :
    (after {} 0 (bringUp ++ [(Op.setPolicy {}).at 1])).Reachable ∧
      (∃ d, (after {} 0 (bringUp ++ [(Op.setPolicy {}).at 1])).devices.find? ⟨7⟩ = some d ∧
        d.AwaitsRevalidation ∧ (after {} 0 (bringUp ++ [(Op.setPolicy {}).at 1])).policy.freshnessOf
          d.lastObservation ⟨1⟩ = .current) ∧
      (((after {} 0 (bringUp ++ [(Op.setPolicy {}).at 1])).step
        ((Op.revalidate ⟨7⟩ fullRecord).at 1)).acceptObservation (fun _ => ⟨1⟩) nominalReport
          nextEnvelope).result = .ok "accepted" ∧
      ¬∃ d', (((after {} 0 (bringUp ++ [(Op.setPolicy {}).at 1])).step
          ((Op.revalidate ⟨7⟩ fullRecord).at 1)).step
            ((Op.acceptObservation nominalReport nextEnvelope).at 1)).devices.find? ⟨7⟩ = some d' ∧
        d'.state = .healthy ∧ d'.readiness = .ready := by
  refine ⟨⟨_, _, _, rfl⟩, ?_, by decide +kernel, ?_⟩
  · have hview : ((after {} 0 (bringUp ++ [(Op.setPolicy {}).at 1])).devices.find?
        ⟨7⟩).any (fun d =>
        decide (d.state = .healthy ∧ d.readiness = .revalidationRequired ∧ d.quarantined = false ∧
          d.faults.faults = []) &&
        decide (d.dimensions = .empty ∧
          (after {} 0 (bringUp ++ [(Op.setPolicy {}).at 1])).policy.freshnessOf
            d.lastObservation ⟨1⟩ =
            .current)) = true := by decide +kernel
    obtain ⟨d, hd, heq⟩ := (Option.any_eq_true _ _).mp hview
    simp only [Bool.and_eq_true, decide_eq_true_eq] at heq
    obtain ⟨⟨hs, hready, hq, hfaults⟩, hdims, hcurrent⟩ := heq
    refine ⟨d, hd, ⟨Or.inl hs, hready, hq, hfaults, ?_⟩, hcurrent⟩
    simp [hdims, OrdMap.values, OrdMap.empty]
  · rintro ⟨d', hd', -, hready⟩
    have hview : ((((after {} 0 (bringUp ++ [(Op.setPolicy {}).at 1])).step
        ((Op.revalidate ⟨7⟩ fullRecord).at 1)).step
          ((Op.acceptObservation nominalReport nextEnvelope).at 1)).devices.find? ⟨7⟩).map
            Device.readiness = some .revalidationRequired := by decide +kernel
    rw [hd', Option.map_some, hready] at hview
    cases hview

end HealthStore
end AcceleratorHealth
