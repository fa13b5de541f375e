import AcceleratorHealth.Records

/-! Freshness of evidence and execution readiness. Readiness is separate from
health: a HEALTHY device may still not be ready. -/
namespace AcceleratorHealth

/-- `FreshnessEvaluator::evaluate`: evidence from the future counts as current. -/
def FreshnessThresholds.evaluate (thresholds : FreshnessThresholds) (observed now : Timestamp) :
    FreshnessStatus :=
  if now < observed then .current
  else
    let age := now.nanos - observed.nanos
    if age ≤ thresholds.current then .current
    else if age ≤ thresholds.stale then .aging
    else if age ≤ thresholds.expire then .stale
    else .expired

/-- A zero timestamp means that there is no evidence, which is as good as expired. -/
def HealthPolicy.freshnessOf (policy : HealthPolicy) (lastObservation now : Timestamp) :
    FreshnessStatus :=
  if lastObservation.nanos ≠ 0 then policy.freshness.evaluate lastObservation now else .expired

def FreshnessStatus.isOld (f : FreshnessStatus) : Bool := f = .stale || f = .expired

structure ReadinessInput where
  health : HealthState := .unknown
  freshness : FreshnessStatus := .expired
  validationDepth : ValidationDepth := .none
  requiredValidationDepth : ValidationDepth := .full
  quarantined : Bool := false
  inRecovery : Bool := false
  deviceGenerationChanged : Bool := false
  policyGenerationChanged : Bool := false
  requiresRevalidation : Bool := false
  allowDegradedReadiness : Bool := true
  runtimeCompatibilityChanged : Bool := false

structure ReadinessResult where
  state : ReadinessState := .unknown
  executionReady : Bool := false
  reasons : List Str := []

private def verdict (state : ReadinessState) (executionReady : Bool) (reason : String) :
    ReadinessResult := { state, executionReady, reasons := [str reason] }

/-- `ReadinessEvaluator::evaluate`. -/
def ReadinessInput.evaluate (i : ReadinessInput) : ReadinessResult :=
  if i.quarantined then verdict .quarantined false "quarantine active"
  else if (i.health = .healthy ∨ i.health = .degraded) ∧ i.freshness.isOld then
    verdict .revalidationRequired false "evidence stale/expired; revalidation required"
  else match i.health with
  | .failed => verdict .drainRequired false "device failed; drain required"
  | .unhealthy => verdict .drainRequired false "device unhealthy; drain required"
  | .degraded =>
    if i.allowDegradedReadiness then
      verdict .readyDegraded true "degraded but policy permits degraded readiness"
    else verdict .notReady false "degraded and policy forbids degraded readiness"
  | .healthy =>
    if i.freshness.isOld then
      verdict .revalidationRequired false "healthy but evidence is stale/expired"
    else if i.validationDepth < i.requiredValidationDepth then
      verdict .revalidationRequired false "validation depth below required"
    else if i.deviceGenerationChanged || i.policyGenerationChanged
        || i.runtimeCompatibilityChanged then
      verdict .revalidationRequired false "generation or compatibility changed"
    else if i.requiresRevalidation then
      verdict .revalidationRequired false "revalidation required after recovery"
    else if i.freshness = .aging then
      verdict .readyDegraded true "evidence aging; degraded readiness"
    else verdict .ready true "healthy and evidence current"
  | .unknown | .initializing => verdict .unknown false "health unknown/initializing"
  | .draining | .drained | .recovering | .revalidating =>
    verdict .revalidationRequired false "device in recovery/revalidation"
  | .quarantined => verdict .quarantined false "quarantine active"
  | .offline | .lost => verdict .notReady false "device offline/lost"

/-- The two readiness states that admit work. -/
def ReadinessState.admits (r : ReadinessState) : Bool := r = .ready || r = .readyDegraded

/-- The result's flag always says the same as its state. -/
theorem evaluate_executionReady (i : ReadinessInput) :
    i.evaluate.executionReady = i.evaluate.state.admits := by
  unfold ReadinessInput.evaluate verdict
  cases i.health <;> simp only <;> split_ifs <;> rfl

/-- Only a HEALTHY or DEGRADED device that is not quarantined can be ready, on
evidence that is not old. -/
theorem evaluate_admits {i : ReadinessInput} (h : i.evaluate.state.admits) :
    i.quarantined = false ∧ i.freshness.isOld = false ∧
      (i.health = .healthy ∨ i.health = .degraded) := by
  unfold ReadinessInput.evaluate verdict at h
  by_cases hq : i.quarantined = true
  · simp [hq, ReadinessState.admits] at h
  · by_cases ho : i.freshness.isOld = true
    · cases hh : i.health <;> simp [hq, ho, hh, ReadinessState.admits] at h
    · cases hh : i.health <;> simp [hq, ho, hh, ReadinessState.admits] at h ⊢

/-- Outside the DEGRADED branch a positive verdict rests on every requirement. -/
theorem evaluate_requires {i : ReadinessInput} (h : i.evaluate.state.admits) :
    i.health = .degraded ∧ i.allowDegradedReadiness = true ∨
      i.requiredValidationDepth ≤ i.validationDepth ∧ i.deviceGenerationChanged = false ∧
        i.policyGenerationChanged = false ∧ i.requiresRevalidation = false := by
  obtain ⟨hq, hold, hs⟩ := evaluate_admits h
  unfold ReadinessInput.evaluate verdict at h
  rw [if_neg (by simp [hq]), if_neg (by simp [hold])] at h
  rcases hs with hs | hs
  · simp only [hs, hold, Bool.false_eq_true, if_false] at h
    split_ifs at h with hdepth hchanged hrestart
    · cases h
    · cases h
    · cases h
    all_goals
      simp only [Bool.or_eq_true, not_or, Bool.not_eq_true] at hchanged
      exact Or.inr ⟨not_lt.mp hdepth, hchanged.1.1, hchanged.1.2, by simpa using hrestart⟩
  · simp only [hs] at h
    split_ifs at h with hallowed
    · exact Or.inl ⟨hs, hallowed⟩
    · cases h

end AcceleratorHealth
