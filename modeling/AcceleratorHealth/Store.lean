import AcceleratorHealth.Assessment
import AcceleratorHealth.StateMachine
import AcceleratorHealth.Lib.Exit

/-! The health store: tracked devices, fencing registries, indexes and id counters,
and every public operation on them. An operation that throws keeps the effects it
had before the throw. Each call is given its own clock readings, one for each place
that reads the clock. -/
namespace AcceleratorHealth

/-- The successive results of `clock_->now()` within one call. -/
abbrev Readings := Nat → Timestamp

def Readings.drop (clk : Readings) (n : Nat) : Readings := fun j => clk (n + j)

structure Device where
  id : AcceleratorId := {}
  uuid : DeviceUuid := {}
  node : NodeId := {}
  lastWorker : WorkerId := {}
  lastWorkerBootId : WorkerBootId := {}
  generation : DeviceGeneration := {}
  state : HealthState := .unknown
  readiness : ReadinessState := .unknown
  healthGeneration : HealthGeneration := {}
  transitionCount : UInt64 := 0
  dimensions : OrdMap DimensionKind HealthDimension := .empty
  faults : FaultHistory := .empty
  recentEvidence : List Evidence := []
  validations : List ValidationRecord := []
  changes : List HealthChange := []
  latestAssessment : HealthAssessment := {}
  highestValidation : ValidationDepth := .none
  quarantine : Option QuarantineRecord := none
  recovery : Option RecoveryRecord := none
  lastObservation : Timestamp := {}
  firstSeen : Timestamp := {}
  deviceGenerationChangedFlag : Bool := false
  policyGenerationChangedFlag : Bool := false
  requiresRevalidation : Bool := false
  inRecovery : Bool := false
  present : Bool := true
  deriving DecidableEq

/-- `quarantine && quarantine->active` -/
def Device.quarantined (d : Device) : Bool := d.quarantine.any QuarantineRecord.active

/-- The device sets of an index, one for each key in use. -/
abbrev Index (κ : Type) [LinearOrder κ] := OrdMap κ (OrdMap.Keys AcceleratorId)

namespace Index
variable {κ : Type} [LinearOrder κ]

def add (index : Index κ) (k : κ) (id : AcceleratorId) : Index κ :=
  index.insert k (((index.find? k).getD .empty).insert id ())

/-- Take the id out of the first set that has it. -/
def remove (index : Index κ) (id : AcceleratorId) : Index κ :=
  match index.entries.find? fun e => e.2.contains id with
  | some (k, ids) => index.insert k (ids.erase id)
  | none => index

end Index

@[ext] structure HealthStore where
  policy : HealthPolicy := {}
  policyGeneration : PolicyGeneration := ⟨1⟩
  coordinatorEpoch : UInt64 := 0
  nextDeviceRaw : UInt64 := 1
  nextFaultRaw : UInt64 := 1
  nextObservationRaw : UInt64 := 1
  nextValidationRaw : UInt64 := 1
  nextQuarantineRaw : UInt64 := 1
  nextRecoveryRaw : UInt64 := 1
  nextAssessmentRaw : UInt64 := 1
  nextIncidentRaw : UInt64 := 1
  workerBootRegistry : OrdMap WorkerId WorkerBootId := .empty
  lastObservedGeneration : OrdMap (WorkerId ×ₗ WorkerBootId) ObservationGeneration := .empty
  devices : OrdMap AcceleratorId Device := .empty
  uuidIndex : OrdMap DeviceUuid AcceleratorId := .empty
  stateIndex : Index HealthState := .empty
  readinessIndex : Index ReadinessState := .empty
  faultIndex : Index FaultType := .empty
  quarantineIndex : OrdMap.Keys AcceleratorId := .empty
  staleIndex : OrdMap.Keys AcceleratorId := .empty
  globalFaults : List Fault := []
  globalChanges : List HealthChange := []
  deriving DecidableEq

/-- A new store: the constructor's policy and epoch, nothing tracked. -/
def HealthStore.init (policy : HealthPolicy) (coordinatorEpoch : UInt64) : HealthStore :=
  { policy, coordinatorEpoch }

/-- The store and the reference `d` into it that an operation works on. -/
structure Locked where
  store : HealthStore
  d : Device

namespace Locked

/-- What the store holds once the reference's writes are seen through the map. -/
def commit (id : AcceleratorId) (l : Locked) : HealthStore :=
  { l.store with devices := l.store.devices.insert id l.d }

def recordChangeLocked (now : Timestamp) (fromState toState : HealthState) (label detail : Str)
    (l : Locked) : Locked :=
  let hc : HealthChange :=
    { timestamp := now, accelerator := l.d.id, fromState, toState
      readinessFrom := l.d.readiness, readinessTo := l.d.readiness, label, detail
      healthGeneration := l.d.healthGeneration, policyGeneration := l.store.policyGeneration }
  { store := { l.store with globalChanges := l.store.globalChanges ++ [hc] }
    d := { l.d with changes := l.d.changes ++ [hc] } }

/-- The state and the counter are written before the generation bump, which may throw. -/
def applyTransitionLocked (now : Timestamp) (toState : HealthState) (label detail : Str)
    (l : Locked) : Exit Exn Locked Unit :=
  if l.d.state = toState then .ok () l
  else if !canTransition l.d.state toState then
    .throw (.invalidTransition l.d.state toState) l
  else
    let moved := { l.d with state := toState, transitionCount := l.d.transitionCount + 1 }
    match l.d.healthGeneration.next with
    | .error e => .throw e { l with d := moved }
    | .ok g =>
      .ok () (recordChangeLocked now l.d.state toState label detail
        { l with d := { moved with healthGeneration := g } })

def updateIndexesLocked (l : Locked) : Locked :=
  { l with store :=
    { l.store with
      stateIndex := (l.store.stateIndex.remove l.d.id).add l.d.state l.d.id
      readinessIndex := (l.store.readinessIndex.remove l.d.id).add l.d.readiness l.d.id } }

def assessmentInput (now : Timestamp) (l : Locked) : AssessmentInput where
  accelerator := l.d.id
  uuid := l.d.uuid
  deviceGeneration := l.d.generation
  currentState := l.d.state
  quarantined := l.d.quarantined
  inRecovery := l.d.inRecovery
  now := now
  dimensions := l.d.dimensions
  faultStats := l.d.faults.stats
  highestValidationDepth := l.d.highestValidation
  lastObservation := l.d.lastObservation
  policy := l.store.policy
  deviceGenerationChanged := l.d.deviceGenerationChangedFlag
  policyGenerationChanged := l.d.policyGenerationChangedFlag

def readinessInput (now : Timestamp) (l : Locked) : ReadinessInput where
  health := l.d.state
  freshness := l.store.policy.freshnessOf l.d.lastObservation now
  validationDepth := l.d.highestValidation
  requiredValidationDepth := l.store.policy.requiredValidationDepth
  quarantined := l.d.quarantined
  inRecovery := l.d.inRecovery
  deviceGenerationChanged := l.d.deviceGenerationChangedFlag
  policyGenerationChanged := l.d.policyGenerationChangedFlag
  requiresRevalidation := l.d.requiresRevalidation
  allowDegradedReadiness := l.store.policy.allowDegradedReadiness

/-- Readiness of the state actually held; a blocked transition asks for revalidation. -/
def verdict (now : Timestamp) (transitionBlocked : Bool) (l : Locked) : ReadinessState × Bool :=
  let rr := (readinessInput now l).evaluate
  if transitionBlocked then (.revalidationRequired, false) else (rr.state, rr.executionReady)

/-- Write the readiness and the assessment, and bring the indexes up to date. -/
def publish (now : Timestamp) (desired : HealthAssessment) (transitionBlocked : Bool)
    (l : Locked) : Locked :=
  let (readiness, executionReady) := verdict now transitionBlocked l
  let d :=
    { l.d with
      readiness
      latestAssessment :=
        { desired with
          state := l.d.state
          readiness
          executionReady
          validationDepth := l.d.highestValidation
          healthGeneration := l.d.healthGeneration
          policyGeneration := l.store.policyGeneration
          deviceGeneration := l.d.generation
          quarantined := l.d.quarantined
          inRecovery := l.d.inRecovery } }
  let staleIndex :=
    if (l.store.policy.freshnessOf l.d.lastObservation now).isOld then
      l.store.staleIndex.insert d.id ()
    else l.store.staleIndex.erase d.id
  updateIndexesLocked { store := { l.store with staleIndex }, d }

/-- Assess, take the transition when the table allows it, then publish. -/
def reassessLocked (clk : Readings) (l : Locked) : Exit Exn Locked Unit :=
  let now := clk 0
  let desired := (assessmentInput now l).assess
  let target := desired.state
  if target = l.d.state then .ok () (publish now desired false l)
  else if canTransition l.d.state target then
    (applyTransitionLocked (clk 1) target (str "health") (str (enumToString target)) l).andThen
      fun l => .ok () (publish now desired false l)
  else .ok () (publish now desired true l)

/-! ### The bodies that hold the lock on one device -/

/-- The fence: the text of the first check that the report fails. -/
def fence (env : AuthorityEnvelope) (l : Locked) : Option String :=
  if env.coordinatorEpoch ≠ l.store.coordinatorEpoch then
    some "rejected: stale coordinator epoch"
  else match l.store.workerBootRegistry.find? env.workerId with
  | none => some "rejected: unregistered worker"
  | some boot =>
    if boot ≠ env.workerBootId then some "rejected: stale worker boot id"
    else if ∃ og ∈ l.store.lastObservedGeneration.find? (toLex (env.workerId, env.workerBootId)),
        env.observationGeneration ≤ og then
      some "rejected: stale observation generation"
    else if env.deviceGeneration < l.d.generation then some "rejected: stale device generation"
    else none

/-- The effects of a report that passed the fence, up to the reassessment. -/
def takeObservation (obs : AcceleratorObservation) (env : AuthorityEnvelope) (l : Locked) :
    Locked :=
  let d :=
    if l.d.generation < env.deviceGeneration then
      { l.d with generation := env.deviceGeneration, deviceGenerationChangedFlag := true }
    else l.d
  { store :=
      { l.store with
        lastObservedGeneration := l.store.lastObservedGeneration.insert
          (toLex (env.workerId, env.workerBootId)) env.observationGeneration }
    d :=
      { d with
        lastWorker := obs.worker
        lastWorkerBootId := obs.workerBootId
        requiresRevalidation := false
        dimensions := d.dimensions.insertAll (obs.dimensions.map fun dim => (dim.kind, dim))
        lastObservation := obs.timestamp } }

def acceptObservation (clk : Readings) (obs : AcceleratorObservation) (env : AuthorityEnvelope)
    (l : Locked) : Exit Exn Locked String :=
  match fence env l with
  | some rejection => .ok rejection l
  | none => (reassessLocked clk (takeObservation obs env l)).andThen fun l => .ok "accepted" l

def takeFault (fault : Fault) (faults : FaultHistory) (l : Locked) : Locked :=
  { store :=
      { l.store with
        faultIndex := l.store.faultIndex.add fault.type fault.accelerator
        globalFaults := l.store.globalFaults ++ [fault] }
    d := { l.d with faults } }

def recordFault (clk : Readings) (fault : Fault) (l : Locked) : Exit Exn Locked Unit :=
  match l.d.faults.record fault with
  | .error e => .throw e l
  | .ok faults => reassessLocked clk (takeFault fault faults l)

/-- Append a validation; a passed one may raise the highest depth. -/
def addValidation (v : ValidationRecord) (l : Locked) : Locked :=
  { l with d :=
    { l.d with
      validations := l.d.validations ++ [v]
      highestValidation :=
        if v.passed ∧ l.d.highestValidation < v.depth then v.depth else l.d.highestValidation } }

def recordValidation (clk : Readings) (v : ValidationRecord) (l : Locked) :
    Exit Exn Locked Unit :=
  reassessLocked clk (addValidation v l)

def openQuarantine (now : Timestamp) (id : AcceleratorId) (authority : QuarantineAuthority)
    (reason triggeredBy : Str) (l : Locked) : Locked :=
  let q : QuarantineRecord :=
    { id := ⟨l.store.nextQuarantineRaw⟩, timestamp := now, authority, reason, triggeredBy
      policyGeneration := l.store.policyGeneration, deviceGeneration := l.d.generation
      healthGeneration := l.d.healthGeneration, active := true }
  { store :=
      { l.store with
        nextQuarantineRaw := l.store.nextQuarantineRaw + 1
        quarantineIndex := l.store.quarantineIndex.insert id () }
    d := { l.d with quarantine := some q } }

def beginQuarantine (clk : Readings) (id : AcceleratorId) (authority : QuarantineAuthority)
    (reason triggeredBy : Str) (l : Locked) : Exit Exn Locked Unit :=
  if l.d.quarantined then .throw (.logicError "quarantine already active") l
  else
    (applyTransitionLocked (clk 1) .quarantined (str "quarantine") reason
      (openQuarantine (clk 0) id authority reason triggeredBy l)).andThen
      (reassessLocked (clk.drop 2))

def closeQuarantine (id : AcceleratorId) (l : Locked) : Locked :=
  match l.d.quarantine with
  | none => l
  | some q =>
    { store := { l.store with quarantineIndex := l.store.quarantineIndex.erase id }
      d := { l.d with quarantine := some { q with active := false } } }

def clearQuarantine (clk : Readings) (id : AcceleratorId) (l : Locked) : Exit Exn Locked Unit :=
  reassessLocked clk (closeQuarantine id l)

def nextRecoveryGeneration (d : Device) : Except Exn RecoveryGeneration :=
  match d.recovery with
  | some rec => rec.generation.next
  | none => .ok ⟨1⟩

/-- The flag and the id counter are written before the recovery generation's bump, which
may throw. -/
def openRecovery (now : Timestamp) (l : Locked) : Exit Exn Locked Unit :=
  let entered : Locked :=
    { store := { l.store with nextRecoveryRaw := l.store.nextRecoveryRaw + 1 }
      d := { l.d with inRecovery := true } }
  match nextRecoveryGeneration l.d with
  | .error e => .throw e entered
  | .ok generation =>
    let rec' : RecoveryRecord :=
      { id := ⟨l.store.nextRecoveryRaw⟩, generation, «begin» := now
        profile := str (enumToString l.store.policy.revalidationProfile) }
    .ok () { entered with d := { entered.d with recovery := some rec' } }

def beginRecovery (clk : Readings) (l : Locked) : Exit Exn Locked Unit :=
  if l.d.inRecovery then .ok () l
  else if !canTransition l.d.state .recovering then
    .throw (.invalidTransition l.d.state .recovering) l
  else
    ((applyTransitionLocked (clk 0) .recovering (str "recovery") (str "begin recovery") l).andThen
      (openRecovery (clk 1))).andThen (reassessLocked (clk.drop 2))

def countSuccess (l : Locked) : Locked :=
  { l with d := { l.d with recovery := l.d.recovery.map fun rec =>
    { rec with successfulValidations := rec.successfulValidations + 1 } } }

/-- The device is revalidating and has the successes that the policy asks for. -/
def revalidated (l : Locked) : Bool :=
  l.d.state = .revalidating &&
    l.d.recovery.any fun rec =>
      l.store.policy.recoveryValidationsRequired ≤ rec.successfulValidations

def closeRecovery (now : Timestamp) (l : Locked) : Locked :=
  { l with d :=
    { l.d with
      inRecovery := false
      recovery := l.d.recovery.map fun rec => { rec with completed := true, «end» := now } } }

/-- The recovery part of `revalidate` for a passing record. -/
def recoveryPassed (clk : Readings) (l : Locked) : Exit Exn Locked Unit :=
  (if l.d.state = .recovering ∧ canTransition l.d.state .revalidating then
      applyTransitionLocked (clk 0) .revalidating (str "revalidate") (str "enter revalidation") l
    else .ok () l).andThen fun l =>
  let l := countSuccess l
  if revalidated l then
    (applyTransitionLocked (clk 1) .healthy (str "recovery") (str "revalidated") l).andThen
      fun l => .ok () (closeRecovery (clk 2) l)
  else .ok () l

/-- A validation that fails during recovery is answered by quarantine. -/
def recoveryFailed (now : Timestamp) (l : Locked) : Exit Exn Locked Unit :=
  if l.d.state = .recovering ∨ l.d.state = .revalidating then
    applyTransitionLocked now .quarantined (str "revalidate-failed")
      (str "validation failed during recovery") l
  else .ok () l

def recoveryStep (clk : Readings) (v : ValidationRecord) (l : Locked) : Exit Exn Locked Unit :=
  if l.d.inRecovery then
    if v.passed then recoveryPassed clk l else recoveryFailed (clk 0) l
  else .ok () l

def markLost (now : Timestamp) (reason : Str) (l : Locked) : Exit Exn Locked Unit :=
  let l : Locked := { l with d := { l.d with present := false } }
  if l.d.state = .lost then .ok () l
  else if canTransition l.d.state .lost then
    applyTransitionLocked now .lost (str "lost") reason l
  else
    let l : Locked := { l with d := { l.d with state := .lost } }
    .ok () (recordChangeLocked now l.d.state l.d.state (str "lost") reason l)

end Locked

/-- A copy of what the store knows about one device. -/
structure DeviceSnapshot where
  accelerator : AcceleratorId := {}
  uuid : DeviceUuid := {}
  node : NodeId := {}
  lastWorker : WorkerId := {}
  lastWorkerBootId : WorkerBootId := {}
  generation : DeviceGeneration := {}
  state : HealthState := .unknown
  readiness : ReadinessState := .unknown
  highestValidation : ValidationDepth := .none
  dimensions : OrdMap DimensionKind HealthDimension := .empty
  lastObservation : Timestamp := {}
  openFaults : List Fault := []
  faultCount : UInt32 := 0
  validations : List ValidationRecord := []
  changes : List HealthChange := []
  latestAssessment : HealthAssessment := {}
  quarantine : Option QuarantineRecord := none
  recovery : Option RecoveryRecord := none
  deviceGenerationChanged : Bool := false

def Device.makeSnapshotLocked (d : Device) : DeviceSnapshot where
  accelerator := d.id
  uuid := d.uuid
  node := d.node
  lastWorker := d.lastWorker
  lastWorkerBootId := d.lastWorkerBootId
  generation := d.generation
  state := d.state
  readiness := d.readiness
  highestValidation := d.highestValidation
  dimensions := d.dimensions
  lastObservation := d.lastObservation
  openFaults := d.faults.openFaults
  faultCount := UInt32.ofNat d.faults.faults.length
  validations := d.validations
  changes := d.changes
  latestAssessment := d.latestAssessment
  quarantine := d.quarantine
  recovery := d.recovery
  deviceGenerationChanged := d.deviceGenerationChangedFlag

namespace Locked

def revalidate (clk : Readings) (v : ValidationRecord) (l : Locked) :
    Exit Exn Locked DeviceSnapshot :=
  (recoveryStep clk v (addValidation v l)).andThen fun l =>
  (reassessLocked (clk.drop 3) l).andThen fun l => .ok l.d.makeSnapshotLocked l

end Locked

namespace HealthStore

/-- Find a device and run a body on it in place; `missing` is the other branch. -/
def onDevice {α : Type} (id : AcceleratorId) (missing : Except Exn α)
    (body : Locked → Exit Exn Locked α) (s : HealthStore) : Exit Exn HealthStore α :=
  match s.devices.find? id with
  | none => ⟨s, missing⟩
  | some d => (body ⟨s, d⟩).mapState (Locked.commit id)

/-- `for (auto& [id, d] : devices_)`: the loop bodies change records, never keys. -/
def forDevices (body : Nat → Locked → Exit Exn Locked Unit) (s : HealthStore) :
    Exit Exn HealthStore Unit :=
  Exit.each (fun e => onDevice e.1 (.ok ()) (body e.2)) s.devices.keys.zipIdx s

def reassess (clk : Readings) (id : AcceleratorId) (s : HealthStore) : Exit Exn HealthStore Unit :=
  onDevice id (.ok ()) (Locked.reassessLocked clk) s

/-- The `i`-th device of a loop takes its readings from `2 * i` on. -/
def reassessAll (clk : Readings) (s : HealthStore) : Exit Exn HealthStore Unit :=
  forDevices (fun i => Locked.reassessLocked (clk.drop (2 * i))) s

/-- The writes of `setPolicy` under its first lock. -/
def adoptPolicy (policy : HealthPolicy) (g : PolicyGeneration) (s : HealthStore) : HealthStore :=
  { s with
    policy
    policyGeneration := g
    devices := s.devices.mapValues fun _ d => { d with policyGenerationChangedFlag := true } }

/-- The policy is written before its generation is bumped, which may throw. -/
def setPolicy (clk : Readings) (policy : HealthPolicy) (s : HealthStore) :
    Exit Exn HealthStore Unit :=
  match s.policyGeneration.next with
  | .error e => .throw e { s with policy }
  | .ok g => reassessAll clk (adoptPolicy policy g s)

def rollCoordinatorEpoch (s : HealthStore) : HealthStore :=
  { s with coordinatorEpoch := s.coordinatorEpoch + 1 }

def setCoordinatorEpoch (e : UInt64) (s : HealthStore) : HealthStore :=
  { s with coordinatorEpoch := e }

def registerWorker (worker : WorkerId) (boot : WorkerBootId) (s : HealthStore) : HealthStore :=
  { s with workerBootRegistry := s.workerBootRegistry.insert worker boot }

def isWorkerCurrent (worker : WorkerId) (boot : WorkerBootId) (s : HealthStore) : Bool :=
  s.workerBootRegistry.find? worker = some boot

/-- Strip the freshness of a device that the lost worker observed last. -/
def orphan (clk : Readings) (worker : WorkerId) (boot : WorkerBootId) (l : Locked) :
    Exit Exn Locked Unit :=
  if l.d.lastWorker = worker ∧ l.d.lastWorkerBootId = boot then
    Locked.reassessLocked clk
      { l with d := { l.d with lastObservation := {}, deviceGenerationChangedFlag := false } }
  else .ok () l

def invalidateWorker (clk : Readings) (worker : WorkerId) (boot : WorkerBootId)
    (s : HealthStore) : Exit Exn HealthStore Unit :=
  if s.isWorkerCurrent worker boot then
    (forDevices (fun i => orphan (clk.drop (2 * i)) worker boot) s).andThen fun s =>
      .ok () { s with workerBootRegistry := s.workerBootRegistry.erase worker }
  else .ok () s

/-- A device never seen before, not yet assessed. -/
def newDevice (now : Timestamp) (id : AcceleratorId) (uuid : DeviceUuid) (node : NodeId) :
    Device :=
  { id, uuid, node, generation := ⟨1⟩, state := .initializing, firstSeen := now
    healthGeneration := ⟨1⟩ }

/-- A non-zero uuid determines a stable device id. -/
def deviceIdFor (uuid : DeviceUuid) (s : HealthStore) : AcceleratorId :=
  if uuid.get ≠ 0 then ⟨uuid.get⟩ else ⟨s.nextDeviceRaw⟩

def trackDevice (d : Device) (s : HealthStore) : HealthStore :=
  (Locked.updateIndexesLocked
    { store :=
        { s with
          nextDeviceRaw := if d.uuid.get ≠ 0 then s.nextDeviceRaw else s.nextDeviceRaw + 1
          uuidIndex := s.uuidIndex.insert d.uuid d.id }
      d }).commit d.id

/-- A known uuid keeps its id. -/
def registerDevice (now : Timestamp) (uuid : DeviceUuid) (node : NodeId) (s : HealthStore) :
    AcceleratorId × HealthStore :=
  match s.uuidIndex.find? uuid with
  | some id => (id, s)
  | none =>
    let id := deviceIdFor uuid s
    (id, trackDevice (newDevice now id uuid node) s)

def isTracked (id : AcceleratorId) (s : HealthStore) : Bool := s.devices.contains id

def markLost (clk : Readings) (id : AcceleratorId) (reason : Str) (s : HealthStore) :
    Exit Exn HealthStore Unit :=
  onDevice id (.ok ()) (Locked.markLost (clk 0) reason) s

def acceptObservation (clk : Readings) (obs : AcceleratorObservation) (env : AuthorityEnvelope)
    (s : HealthStore) : Exit Exn HealthStore String :=
  onDevice obs.accelerator (.ok "rejected: unknown device") (Locked.acceptObservation clk obs env) s

def recordFault (clk : Readings) (fault : Fault) (s : HealthStore) : Exit Exn HealthStore Unit :=
  onDevice fault.accelerator (.ok ()) (Locked.recordFault clk fault) s

def recordValidation (clk : Readings) (v : ValidationRecord) (s : HealthStore) :
    Exit Exn HealthStore Unit :=
  onDevice v.accelerator (.ok ()) (Locked.recordValidation clk v) s

def beginQuarantine (clk : Readings) (id : AcceleratorId) (authority : QuarantineAuthority)
    (reason triggeredBy : Str) (s : HealthStore) : Exit Exn HealthStore Unit :=
  onDevice id (.error (.invalidArgument "quarantine: unknown device"))
    (Locked.beginQuarantine clk id authority reason triggeredBy) s

def clearQuarantine (clk : Readings) (id : AcceleratorId) (s : HealthStore) :
    Exit Exn HealthStore Unit :=
  onDevice id (.ok ()) (Locked.clearQuarantine clk id) s

def beginRecovery (clk : Readings) (id : AcceleratorId) (s : HealthStore) :
    Exit Exn HealthStore Unit :=
  onDevice id (.error (.invalidArgument "recovery: unknown device")) (Locked.beginRecovery clk) s

def revalidate (clk : Readings) (id : AcceleratorId) (v : ValidationRecord) (s : HealthStore) :
    Exit Exn HealthStore DeviceSnapshot :=
  onDevice id (.error (.invalidArgument "revalidate: unknown device")) (Locked.revalidate clk v) s

/-- A default snapshot when the device is not tracked. -/
def snapshot (id : AcceleratorId) (s : HealthStore) : DeviceSnapshot :=
  match s.devices.find? id with
  | some d => d.makeSnapshotLocked
  | none => {}

end HealthStore
end AcceleratorHealth
