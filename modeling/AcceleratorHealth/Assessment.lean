import AcceleratorHealth.History
import AcceleratorHealth.Readiness
import AcceleratorHealth.Lib.OrdMap

/-! The assessment engine: a target state, reasons, a confidence, an action and a
digest from one device's recorded evidence. -/
namespace AcceleratorHealth
open Codec Wire

/-- All inputs the engine needs for one device. -/
structure AssessmentInput where
  accelerator : AcceleratorId := {}
  uuid : DeviceUuid := {}
  deviceGeneration : DeviceGeneration := {}
  currentState : HealthState := .unknown
  quarantined : Bool := false
  inRecovery : Bool := false
  now : Timestamp := {}
  dimensions : OrdMap DimensionKind HealthDimension := .empty
  faultStats : DeviceFaultStats := {}
  highestValidationDepth : ValidationDepth := .none
  lastObservation : Timestamp := {}
  policy : HealthPolicy := {}
  deviceGenerationChanged : Bool := false
  policyGenerationChanged : Bool := false

/-- What one pass over the dimensions gathers. -/
structure DimensionScan where
  anyFailed : Bool := false
  anyDegraded : Bool := false
  anyFatalDim : Bool := false
  worstReason : Str := []
  worstSeverity : Severity := .info

namespace DimensionScan

def noteWorst (c : DimensionScan) (dim : HealthDimension) : DimensionScan :=
  if c.worstSeverity < dim.severity then
    { c with worstSeverity := dim.severity, worstReason := dim.reason }
  else c

def visit (c : DimensionScan) (dim : HealthDimension) : DimensionScan :=
  match dim.state with
  | .failed =>
    { c.noteWorst dim with
      anyFailed := true
      anyFatalDim := c.anyFatalDim || dim.severity = .fatal }
  | .degraded => { c.noteWorst dim with anyDegraded := true }
  | _ => c

def describeWorst (c : DimensionScan) : Str :=
  if c.worstReason.isEmpty then str "unknown" else c.worstReason

@[simp] theorem anyFailed_noteWorst (c : DimensionScan) (dim : HealthDimension) :
    (c.noteWorst dim).anyFailed = c.anyFailed := by
  unfold noteWorst
  split_ifs <;> rfl

theorem anyFailed_visit (c : DimensionScan) (dim : HealthDimension) :
    (c.visit dim).anyFailed = (c.anyFailed || dim.state = .failed) := by
  unfold visit
  cases dim.state <;> simp

end DimensionScan

namespace AssessmentInput

def freshness (i : AssessmentInput) : FreshnessStatus :=
  i.policy.freshnessOf i.lastObservation i.now

def scan (i : AssessmentInput) : DimensionScan := i.dimensions.values.foldl .visit {}

/-- `static_cast<int>`: a count from 2^31 on turns negative. -/
def consecutive (i : AssessmentInput) : Int32 := i.faultStats.consecutiveLatest.toInt32

def shallow (i : AssessmentInput) : Bool :=
  i.highestValidationDepth < i.policy.requiredValidationDepth

def recoveryTarget (currentState : HealthState) : HealthState :=
  match currentState with
  | .recovering | .revalidating | .draining | .drained => currentState
  | _ => .recovering

/-- The state that the evidence asks for; the transition table may still refuse it. -/
def target (i : AssessmentInput) : HealthState :=
  if i.inRecovery then recoveryTarget i.currentState
  else if i.quarantined then .quarantined
  else if i.faultStats.hasOpenFatal || i.scan.anyFatalDim then .failed
  else if i.scan.anyFailed then .unhealthy
  else if i.faultStats.hasOpenCritical
      ∧ i.policy.quarantineAfterFailures.toInt32 ≤ i.consecutive then .quarantined
  else if i.policy.unhealthyAfterFailures.toInt32 ≤ i.consecutive then .unhealthy
  else if i.policy.degradeAfterFailures.toInt32 ≤ i.consecutive then .degraded
  else if i.freshness.isOld then
    if i.currentState = .healthy then .degraded else i.currentState
  else .healthy

private def reasonIf (b : Bool) (text : Str) : List Str := if b then [text] else []

def reasons (i : AssessmentInput) : List Str :=
  let found :=
    reasonIf i.inRecovery (str "device in recovery/revalidation")
    ++ reasonIf i.quarantined (str "quarantine active")
    ++ reasonIf i.faultStats.hasOpenFatal (str "open fatal fault present")
    ++ (if i.scan.anyFailed then [str "dimension failure: " ++ i.scan.describeWorst]
        else reasonIf i.scan.anyDegraded (str "dimension degraded: " ++ i.scan.describeWorst))
    ++ reasonIf (i.policy.degradeAfterFailures.toInt32 ≤ i.consecutive)
        (str "repeated failures: " ++ str (toString i.consecutive.toInt))
    ++ reasonIf (i.freshness = .stale) (str "evidence stale")
    ++ reasonIf (i.freshness = .expired) (str "evidence expired")
    ++ reasonIf i.shallow (str "validation depth below required")
    ++ reasonIf i.deviceGenerationChanged (str "device generation changed")
    ++ reasonIf i.policyGenerationChanged (str "policy generation changed")
  if !found.isEmpty then found
  else if i.target = .healthy then [str "all evidence nominal and fresh"]
  else [str "no adverse evidence"]

private def scaleIf (b : Bool) (bits : UInt32) (conf : Binary32) : Binary32 :=
  if b then conf.mul ⟨bits⟩ else conf

/-- The discount for the target state: 0.8, 0.5, 0.2 or 0.1. -/
private def targetDiscount : HealthState → Option UInt32
  | .degraded => some 0x3F4CCCCD
  | .unhealthy => some 0x3F000000
  | .failed => some 0x3E4CCCCD
  | .quarantined => some 0x3DCCCCCD
  | .recovering | .revalidating => some 0x3F000000
  | _ => none

def confidence (i : AssessmentInput) : Binary32 :=
  let conf := Binary32.one
  let conf := scaleIf i.inRecovery 0x3ECCCCCD conf
  let conf := scaleIf i.quarantined 0x3DCCCCCD conf
  let conf := scaleIf (i.freshness = .aging) 0x3F666666 conf
  let conf := scaleIf (i.freshness = .stale) 0x3F19999A conf
  let conf := scaleIf (i.freshness = .expired) 0x3E99999A conf
  let conf :=
    match targetDiscount i.target with
    | some bits => conf.mul ⟨bits⟩
    | none => conf
  let conf := scaleIf i.shallow 0x3F4CCCCD conf
  let conf := scaleIf i.faultStats.hasOpenCritical 0x3F000000 conf
  conf.clamp .zero .one

def action (i : AssessmentInput) : ActionRequired :=
  if i.quarantined then .recover
  else if i.target = .failed then .drain
  else if i.target = .unhealthy then .drain
  else if i.target = .quarantined then .quarantine
  else if i.inRecovery || i.shallow then .revalidate
  else if i.target = .degraded then .monitor
  else .none

/-- Readiness as if the target were reached. -/
def readinessInput (i : AssessmentInput) : ReadinessInput where
  health := i.target
  freshness := i.freshness
  validationDepth := i.highestValidationDepth
  requiredValidationDepth := i.policy.requiredValidationDepth
  quarantined := i.quarantined
  inRecovery := i.inRecovery
  deviceGenerationChanged := i.deviceGenerationChanged
  policyGenerationChanged := i.policyGenerationChanged
  allowDegradedReadiness := i.policy.allowDegradedReadiness

/-- The bytes behind the digest: the semantic state without absolute timestamps. -/
def digestBytes (i : AssessmentInput) : Writer :=
  emitAll [i.accelerator.write, i.uuid.write, i.deviceGeneration.write, enum i.target,
    enum i.readinessInput.evaluate.state, enum i.freshness, enum i.highestValidationDepth,
    enum i.policy.requiredValidationDepth, u32 i.faultStats.total,
    u32 i.faultStats.criticalFatalOpen, u32 i.faultStats.consecutiveLatest,
    flag i.faultStats.hasOpenFatal, flag i.faultStats.hasOpenCritical,
    u32 i.policy.degradeAfterFailures, u32 i.policy.unhealthyAfterFailures,
    u32 i.policy.quarantineAfterFailures]

def digest (i : AssessmentInput) : Str :=
  match i.digestBytes with
  | .ok bytes => str "ah-" ++ Util.toHex bytes
  | .error _ => []

/-- `AssessmentEngine::assess`. -/
def assess (i : AssessmentInput) : HealthAssessment where
  accelerator := i.accelerator
  uuid := i.uuid
  state := i.target
  readiness := i.readinessInput.evaluate.state
  validationDepth := i.highestValidationDepth
  confidence := i.confidence
  action := i.action
  executionReady := i.readinessInput.evaluate.executionReady
  quarantined := i.quarantined
  inRecovery := i.inRecovery
  timestamp := i.now
  reasons := i.reasons
  digest := i.digest

theorem anyFailed_scan (i : AssessmentInput) :
    i.scan.anyFailed = i.dimensions.values.any fun dim => dim.state = .failed := by
  suffices h : ∀ (l : List HealthDimension) (c : DimensionScan),
      (l.foldl .visit c).anyFailed = (c.anyFailed || l.any fun dim => dim.state = .failed) by
    simpa [scan] using h i.dimensions.values {}
  intro l
  induction l with
  | nil => simp
  | cons dim rest ih => simp [ih, DimensionScan.anyFailed_visit, Bool.or_assoc]

/-- Outside recovery the target is the current state or one of the evidence states. -/
theorem target_cases {i : AssessmentInput} (h : i.inRecovery = false) :
    i.target = i.currentState ∨ i.target = .healthy ∨ i.target = .degraded ∨
      i.target = .unhealthy ∨ i.target = .failed ∨ i.target = .quarantined := by
  unfold target
  rw [if_neg (by simp [h])]
  repeat' split
  all_goals simp

end AssessmentInput
end AcceleratorHealth
