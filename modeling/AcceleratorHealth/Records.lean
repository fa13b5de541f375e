import AcceleratorHealth.StrongIdentity

/-! The records that reports carry and a device keeps, each with its field order on
the wire. Every reader ends by checking the failure flag of the cursor. -/
namespace AcceleratorHealth
open Codec Wire

/-- Age bounds for evidence: up to `current`, up to `stale`, up to `expire`. -/
structure FreshnessThresholds where
  current : DurationNanos := 5000000000
  stale : DurationNanos := 30000000000
  expire : DurationNanos := 300000000000
  deriving DecidableEq

structure HealthPolicy where
  id : PolicyId := {}
  requiredValidationDepth : ValidationDepth := .full
  freshness : FreshnessThresholds := {}
  degradeAfterFailures : UInt32 := 2
  unhealthyAfterFailures : UInt32 := 3
  quarantineAfterFailures : UInt32 := 4
  recoveryValidationsRequired : UInt32 := 1
  revalidationProfile : ValidationProfile := .full
  allowDegradedReadiness : Bool := true
  fatalFaultTriggersQuarantine : Bool := true
  requireEnumeratedForHealth : Bool := true
  deriving DecidableEq

namespace HealthPolicy

def write (p : HealthPolicy) : Writer :=
  emitAll [p.id.write, enum p.requiredValidationDepth, i64 p.freshness.current,
    i64 p.freshness.stale, i64 p.freshness.expire, u32 p.degradeAfterFailures,
    u32 p.unhealthyAfterFailures, u32 p.quarantineAfterFailures,
    u32 p.recoveryValidationsRequired, enum p.revalidationProfile,
    flag p.allowDegradedReadiness, flag p.fatalFaultTriggersQuarantine,
    flag p.requireEnumeratedForHealth]

def read : Parse HealthPolicy := do
  let id ← StrongId.read
  let requiredValidationDepth ← readEnum ValidationDepth
  let current ← prim Reader.i64
  let stale ← prim Reader.i64
  let expire ← prim Reader.i64
  let degradeAfterFailures ← prim Reader.u32
  let unhealthyAfterFailures ← prim Reader.u32
  let quarantineAfterFailures ← prim Reader.u32
  let recoveryValidationsRequired ← prim Reader.u32
  let revalidationProfile ← readEnum ValidationProfile
  let allowDegradedReadiness ← readFlag
  let fatalFaultTriggersQuarantine ← readFlag
  let requireEnumeratedForHealth ← readFlag
  guardOk
  pure { id, requiredValidationDepth, freshness := { current, stale, expire },
         degradeAfterFailures, unhealthyAfterFailures, quarantineAfterFailures,
         recoveryValidationsRequired, revalidationProfile, allowDegradedReadiness,
         fatalFaultTriggersQuarantine, requireEnumeratedForHealth }

end HealthPolicy

/-- The state of one aspect of a device, with its provenance and measurement. -/
structure HealthDimension where
  kind : DimensionKind := .unknown
  state : DimensionState := .unknown
  evidence : EvidenceClass := .unknown
  timestamp : Timestamp := {}
  observationGeneration : ObservationGeneration := {}
  deviceGeneration : DeviceGeneration := {}
  confidence : Binary32 := ⟨0⟩
  severity : Severity := .info
  reason : Str := []
  value : Binary64 := ⟨0⟩
  units : Str := []
  deriving DecidableEq

namespace HealthDimension

def write (d : HealthDimension) : Writer :=
  emitAll [enum d.kind, enum d.state, enum d.evidence, d.timestamp.write,
    d.observationGeneration.write, d.deviceGeneration.write, f32 d.confidence, enum d.severity,
    string d.reason, f64 d.value, string d.units]

def read : Parse HealthDimension := do
  let kind ← readEnum DimensionKind
  let state ← readEnum DimensionState
  let evidence ← readEnum EvidenceClass
  let timestamp ← Timestamp.read
  let observationGeneration ← Generation.read
  let deviceGeneration ← Generation.read
  let confidence ← prim Reader.f32
  let severity ← readEnum Severity
  let reason ← prim Reader.string
  let value ← prim Reader.f64
  let units ← prim Reader.string
  guardOk
  pure { kind, state, evidence, timestamp, observationGeneration, deviceGeneration, confidence,
         severity, reason, value, units }

end HealthDimension

/-- One observation of one dimension. -/
structure Evidence where
  id : ObservationId := {}
  accelerator : AcceleratorId := {}
  dimension : DimensionKind := .unknown
  state : DimensionState := .unknown
  evidenceClass : EvidenceClass := .unknown
  timestamp : Timestamp := {}
  observationGeneration : ObservationGeneration := {}
  workerId : WorkerId := {}
  workerBootId : WorkerBootId := {}
  deviceGeneration : DeviceGeneration := {}
  confidence : Binary32 := ⟨0⟩
  severity : Severity := .info
  reason : Str := []
  value : Binary64 := ⟨0⟩
  units : Str := []
  deriving DecidableEq

namespace Evidence

def write (e : Evidence) : Writer :=
  emitAll [e.id.write, e.accelerator.write, enum e.dimension, enum e.state, enum e.evidenceClass,
    e.timestamp.write, e.observationGeneration.write, e.workerId.write, e.workerBootId.write,
    e.deviceGeneration.write, f32 e.confidence, enum e.severity, string e.reason, f64 e.value,
    string e.units]

def read : Parse Evidence := do
  let id ← StrongId.read
  let accelerator ← StrongId.read
  let dimension ← readEnum DimensionKind
  let state ← readEnum DimensionState
  let evidenceClass ← readEnum EvidenceClass
  let timestamp ← Timestamp.read
  let observationGeneration ← Generation.read
  let workerId ← StrongId.read
  let workerBootId ← StrongId.read
  let deviceGeneration ← Generation.read
  let confidence ← prim Reader.f32
  let severity ← readEnum Severity
  let reason ← prim Reader.string
  let value ← prim Reader.f64
  let units ← prim Reader.string
  guardOk
  pure { id, accelerator, dimension, state, evidenceClass, timestamp, observationGeneration,
         workerId, workerBootId, deviceGeneration, confidence, severity, reason, value, units }

end Evidence

/-- The dimensions of one accelerator as a worker saw them. -/
structure AcceleratorObservation where
  accelerator : AcceleratorId := {}
  node : NodeId := {}
  worker : WorkerId := {}
  workerBootId : WorkerBootId := {}
  observationGeneration : ObservationGeneration := {}
  deviceGeneration : DeviceGeneration := {}
  timestamp : Timestamp := {}
  dimensions : List HealthDimension := []
  deriving DecidableEq

namespace AcceleratorObservation

def write (o : AcceleratorObservation) : Writer :=
  emitAll ([o.accelerator.write, o.node.write, o.worker.write, o.workerBootId.write,
    o.observationGeneration.write, o.deviceGeneration.write, o.timestamp.write]
    ++ counted HealthDimension.write o.dimensions)

def read : Parse AcceleratorObservation := do
  let accelerator ← StrongId.read
  let node ← StrongId.read
  let worker ← StrongId.read
  let workerBootId ← StrongId.read
  let observationGeneration ← Generation.read
  let deviceGeneration ← Generation.read
  let timestamp ← Timestamp.read
  let n ← readCount
  let dimensions ← many HealthDimension.read n.toNat
  guardOk
  pure { accelerator, node, worker, workerBootId, observationGeneration, deviceGeneration,
         timestamp, dimensions }

end AcceleratorObservation

/-- A typed fault with its provenance and resolution. -/
structure Fault where
  id : FaultId := {}
  accelerator : AcceleratorId := {}
  type : FaultType := .unknownFault
  faultClass : FaultClass := .unknown
  severity : Severity := .info
  timestamp : Timestamp := {}
  observationGeneration : ObservationGeneration := {}
  worker : WorkerId := {}
  workerBootId : WorkerBootId := {}
  evidence : Str := []
  transient : Bool := false
  recoverable : Bool := false
  fatal : Bool := false
  causalMetadata : Str := []
  resolution : ResolutionState := .open
  resolvedAt : Timestamp := {}
  deriving DecidableEq

namespace Fault

def write (f : Fault) : Writer :=
  emitAll [f.id.write, f.accelerator.write, enum f.type, enum f.faultClass, enum f.severity,
    f.timestamp.write, f.observationGeneration.write, f.worker.write, f.workerBootId.write,
    string f.evidence, flag f.transient, flag f.recoverable, flag f.fatal,
    string f.causalMetadata, enum f.resolution, f.resolvedAt.write]

def read : Parse Fault := do
  let id ← StrongId.read
  let accelerator ← StrongId.read
  let type ← readEnum FaultType
  let faultClass ← readEnum FaultClass
  let severity ← readEnum Severity
  let timestamp ← Timestamp.read
  let observationGeneration ← Generation.read
  let worker ← StrongId.read
  let workerBootId ← StrongId.read
  let evidence ← prim Reader.string
  let transient ← readFlag
  let recoverable ← readFlag
  let fatal ← readFlag
  let causalMetadata ← prim Reader.string
  let resolution ← readEnum ResolutionState
  let resolvedAt ← Timestamp.read
  guardOk
  pure { id, accelerator, type, faultClass, severity, timestamp, observationGeneration, worker,
         workerBootId, evidence, transient, recoverable, fatal, causalMetadata, resolution,
         resolvedAt }

end Fault

/-- One entry of a device's append-only change log. -/
structure HealthChange where
  timestamp : Timestamp := {}
  accelerator : AcceleratorId := {}
  fromState : HealthState := .unknown
  toState : HealthState := .unknown
  readinessFrom : ReadinessState := .unknown
  readinessTo : ReadinessState := .unknown
  label : Str := []
  detail : Str := []
  healthGeneration : HealthGeneration := {}
  policyGeneration : PolicyGeneration := {}
  deriving DecidableEq

namespace HealthChange

def write (c : HealthChange) : Writer :=
  emitAll [c.timestamp.write, c.accelerator.write, enum c.fromState, enum c.toState,
    enum c.readinessFrom, enum c.readinessTo, string c.label, string c.detail,
    c.healthGeneration.write, c.policyGeneration.write]

def read : Parse HealthChange := do
  let timestamp ← Timestamp.read
  let accelerator ← StrongId.read
  let fromState ← readEnum HealthState
  let toState ← readEnum HealthState
  let readinessFrom ← readEnum ReadinessState
  let readinessTo ← readEnum ReadinessState
  let label ← prim Reader.string
  let detail ← prim Reader.string
  let healthGeneration ← Generation.read
  let policyGeneration ← Generation.read
  guardOk
  pure { timestamp, accelerator, fromState, toState, readinessFrom, readinessTo, label, detail,
         healthGeneration, policyGeneration }

end HealthChange

structure QuarantineRecord where
  id : QuarantineId := {}
  timestamp : Timestamp := {}
  authority : QuarantineAuthority := .unknown
  reason : Str := []
  triggeredBy : Str := []
  policyGeneration : PolicyGeneration := {}
  deviceGeneration : DeviceGeneration := {}
  healthGeneration : HealthGeneration := {}
  active : Bool := true
  deriving DecidableEq

namespace QuarantineRecord

def write (q : QuarantineRecord) : Writer :=
  emitAll [q.id.write, q.timestamp.write, enum q.authority, string q.reason,
    string q.triggeredBy, q.policyGeneration.write, q.deviceGeneration.write,
    q.healthGeneration.write, flag q.active]

def read : Parse QuarantineRecord := do
  let id ← StrongId.read
  let timestamp ← Timestamp.read
  let authority ← readEnum QuarantineAuthority
  let reason ← prim Reader.string
  let triggeredBy ← prim Reader.string
  let policyGeneration ← Generation.read
  let deviceGeneration ← Generation.read
  let healthGeneration ← Generation.read
  let active ← readFlag
  guardOk
  pure { id, timestamp, authority, reason, triggeredBy, policyGeneration, deviceGeneration,
         healthGeneration, active }

end QuarantineRecord

structure RecoveryRecord where
  id : RecoveryId := {}
  generation : RecoveryGeneration := {}
  «begin» : Timestamp := {}
  profile : Str := []
  successfulValidations : UInt32 := 0
  completed : Bool := false
  «end» : Timestamp := {}
  deriving DecidableEq

namespace RecoveryRecord

def write (r : RecoveryRecord) : Writer :=
  emitAll [r.id.write, r.generation.write, r.begin.write, string r.profile,
    u32 r.successfulValidations, flag r.completed, r.end.write]

def read : Parse RecoveryRecord := do
  let id ← StrongId.read
  let generation ← Generation.read
  let «begin» ← Timestamp.read
  let profile ← prim Reader.string
  let successfulValidations ← prim Reader.u32
  let completed ← readFlag
  let «end» ← Timestamp.read
  guardOk
  pure { id, generation, «begin», profile, successfulValidations, completed, «end» }

end RecoveryRecord

structure ValidationRecord where
  id : ValidationRunId := {}
  accelerator : AcceleratorId := {}
  timestamp : Timestamp := {}
  profile : ValidationProfile := .full
  depth : ValidationDepth := .none
  passed : Bool := false
  maxError : Binary32 := ⟨0⟩
  detail : Str := []
  worker : WorkerId := {}
  workerBootId : WorkerBootId := {}
  validationGeneration : ValidationGeneration := {}
  deviceGeneration : DeviceGeneration := {}
  deriving DecidableEq

namespace ValidationRecord

def write (v : ValidationRecord) : Writer :=
  emitAll [v.id.write, v.accelerator.write, v.timestamp.write, enum v.profile, enum v.depth,
    flag v.passed, f32 v.maxError, string v.detail, v.worker.write, v.workerBootId.write,
    v.validationGeneration.write, v.deviceGeneration.write]

def read : Parse ValidationRecord := do
  let id ← StrongId.read
  let accelerator ← StrongId.read
  let timestamp ← Timestamp.read
  let profile ← readEnum ValidationProfile
  let depth ← readEnum ValidationDepth
  let passed ← readFlag
  let maxError ← prim Reader.f32
  let detail ← prim Reader.string
  let worker ← StrongId.read
  let workerBootId ← StrongId.read
  let validationGeneration ← Generation.read
  let deviceGeneration ← Generation.read
  guardOk
  pure { id, accelerator, timestamp, profile, depth, passed, maxError, detail, worker,
         workerBootId, validationGeneration, deviceGeneration }

end ValidationRecord

/-- A deterministic assessment: every field follows from rules and recorded evidence. -/
structure HealthAssessment where
  id : HealthAssessmentId := {}
  accelerator : AcceleratorId := {}
  uuid : DeviceUuid := {}
  state : HealthState := .unknown
  readiness : ReadinessState := .unknown
  validationDepth : ValidationDepth := .none
  confidence : Binary32 := ⟨0⟩
  action : ActionRequired := .unknown
  executionReady : Bool := false
  quarantined : Bool := false
  quarantineId : QuarantineId := {}
  inRecovery : Bool := false
  timestamp : Timestamp := {}
  healthGeneration : HealthGeneration := {}
  policyGeneration : PolicyGeneration := {}
  deviceGeneration : DeviceGeneration := {}
  reasons : List Str := []
  digest : Str := []
  deriving DecidableEq

namespace HealthAssessment

def write (a : HealthAssessment) : Writer :=
  emitAll ([a.id.write, a.accelerator.write, a.uuid.write, enum a.state, enum a.readiness,
    enum a.validationDepth, f32 a.confidence, enum a.action, flag a.executionReady,
    flag a.quarantined, a.quarantineId.write, flag a.inRecovery, a.timestamp.write,
    a.healthGeneration.write, a.policyGeneration.write, a.deviceGeneration.write]
    ++ counted string a.reasons ++ [string a.digest])

def read : Parse HealthAssessment := do
  let id ← StrongId.read
  let accelerator ← StrongId.read
  let uuid ← StrongId.read
  let state ← readEnum HealthState
  let readiness ← readEnum ReadinessState
  let validationDepth ← readEnum ValidationDepth
  let confidence ← prim Reader.f32
  let action ← readEnum ActionRequired
  let executionReady ← readFlag
  let quarantined ← readFlag
  let quarantineId ← StrongId.read
  let inRecovery ← readFlag
  let timestamp ← Timestamp.read
  let healthGeneration ← Generation.read
  let policyGeneration ← Generation.read
  let deviceGeneration ← Generation.read
  let n ← readCount
  let reasons ← many (prim Reader.string) n.toNat
  let digest ← prim Reader.string
  guardOk
  pure { id, accelerator, uuid, state, readiness, validationDepth, confidence, action,
         executionReady, quarantined, quarantineId, inRecovery, timestamp, healthGeneration,
         policyGeneration, deviceGeneration, reasons, digest }

end HealthAssessment
end AcceleratorHealth
