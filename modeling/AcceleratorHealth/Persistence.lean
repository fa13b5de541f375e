import AcceleratorHealth.Store

/-! The state image: a magic number, a schema version, the body's length, the body
and a checksum over all of these. The decoder writes into its target while it reads. -/
namespace AcceleratorHealth
open Codec Wire

namespace Persistence

def kPersistenceSchemaVersion : UInt32 := 1

/-- "AHPS" -/
def kMagicP : Bytes := [0x41, 0x48, 0x50, 0x53]

/-! ### Encoding -/

/-- A presence byte and the record, when there is one. -/
def optional {α : Type} (write : α → Writer) (x : Option α) : List Writer :=
  [flag x.isSome, emitAll (x.toList.map write)]

def writeDevice (d : Device) : Writer :=
  emitAll ([d.id.write, d.uuid.write, d.node.write, d.lastWorker.write, d.lastWorkerBootId.write,
      d.generation.write, enum d.state, enum d.readiness, d.healthGeneration.write,
      u64 d.transitionCount]
    ++ counted HealthDimension.write d.dimensions.values
    ++ counted Evidence.write d.recentEvidence
    ++ counted Fault.write d.faults.faults
    ++ counted ValidationRecord.write d.validations
    ++ counted HealthChange.write d.changes
    ++ [d.latestAssessment.write, enum d.highestValidation, d.lastObservation.write,
      d.firstSeen.write]
    ++ optional QuarantineRecord.write d.quarantine
    ++ optional RecoveryRecord.write d.recovery
    ++ [flag d.deviceGenerationChangedFlag, flag d.policyGenerationChangedFlag,
      flag d.inRecovery, flag d.present])

def encodeBody (s : HealthStore) : Writer :=
  emitAll ([s.policy.write, s.policyGeneration.write, u64 s.coordinatorEpoch]
    ++ counted writeDevice s.devices.values)

/-- Everything the checksum covers. -/
def frameImage (body : Bytes) : Bytes :=
  kMagicP ++ Util.storeLe 4 kPersistenceSchemaVersion.toNat ++ Util.storeLe 4 body.length ++ body

def sealImage (body : Bytes) : Bytes :=
  frameImage body ++ Util.storeLe 4 (Util.crc32 (frameImage body)).toNat

def encodeStateInternal (s : HealthStore) : Except Exn Bytes :=
  match encodeBody s with
  | .error e => .error e
  | .ok body => .ok (sealImage body)

/-! ### Decoding -/

/-- The checks on the frame; the result is the body. -/
def openImage (data : Bytes) : Except String Bytes :=
  let word (at_ : Nat) : Nat := Util.loadLe ((data.drop at_).take 4)
  let bodyLen := 12 + word 8
  if data.length < 16 then .error "file too short"
  else if data.take 4 ≠ kMagicP then .error "bad magic"
  else if word 4 ≠ kPersistenceSchemaVersion.toNat then .error "unsupported schema version"
  else if data.length ≠ bodyLen + 4 then .error "truncated or trailing garbage"
  else if word bodyLen ≠ (Util.crc32 (data.take bodyLen)).toNat then .error "crc mismatch"
  else .ok ((data.drop 12).take (word 8))

abbrev Decode (α : Type) := Parser Reader String α

/-- A check on the cursor's failure flag and on what was read. -/
def checkOk (ok : Bool) (error : String) : Decode Unit := fun r =>
  if r.fail ∨ !ok then .error error else .ok ((), r)

def check (ok : Bool) (error : String) : Decode Unit := fun r =>
  if ok then .ok ((), r) else .error error

structure Header where
  policy : HealthPolicy
  policyGeneration : PolicyGeneration
  epoch : UInt64

def readHeader : Decode Header := do
  let policy ← orError "invalid policy" HealthPolicy.read
  let policyGeneration ← Generation.read
  let epoch ← prim Reader.u64
  checkOk (!policyGeneration.isNull) "invalid policy generation"
  pure { policy, policyGeneration, epoch }

/-- A counted list whose elements have an id; `seen` holds the ids read so far. -/
def readUnique {α κ : Type} [DecidableEq κ] (read : Parse α) (id : α → κ)
    (invalid duplicate : String) : Nat → List κ → Decode (List α)
  | 0, _ => pure []
  | n + 1, seen => do
    let x ← orError invalid read
    check (id x ∉ seen) duplicate
    let xs ← readUnique read id invalid duplicate n (id x :: seen)
    pure (x :: xs)

/-- Record the faults in order; they were read with distinct ids. -/
def recordAll (faults : List Fault) : Decode FaultHistory := fun r =>
  match faults.foldlM FaultHistory.record .empty with
  | .ok h => .ok (h, r)
  | .error _ => .error "duplicate fault id"

def readOptional {α : Type} (read : Parse α) (invalid : String) : Decode (Option α) := do
  let has ← prim Reader.u8
  if has ≠ 0 then
    let x ← orError invalid read
    pure (some x)
  else pure none

/-- One device record, with the checks made before it may enter the store. -/
def readDevice : Decode Device := do
  let id ← StrongId.read
  let uuid ← StrongId.read
  let node ← StrongId.read
  let lastWorker ← StrongId.read
  let lastWorkerBootId ← StrongId.read
  let generation ← Generation.read
  let state ← orError "invalid health state" (readEnum HealthState)
  let readiness ← orError "invalid readiness" (readEnum ReadinessState)
  let healthGeneration ← Generation.read
  let transitionCount ← prim Reader.u64
  check (!healthGeneration.isNull) "invalid health generation"
  let dimCount ← orError "invalid dimension count" readCount
  let dims ← many (orError "invalid dimension" HealthDimension.read) dimCount.toNat
  let evCount ← orError "invalid evidence count" readCount
  let recentEvidence ← many (orError "invalid evidence" Evidence.read) evCount.toNat
  let faultCount ← orError "invalid fault count" readCount
  let faultList ← readUnique Fault.read Fault.id "invalid fault" "duplicate fault id"
    faultCount.toNat []
  let faults ← recordAll faultList
  let valCount ← orError "invalid validation count" readCount
  let validations ← readUnique ValidationRecord.read ValidationRecord.id "invalid validation"
    "duplicate validation id" valCount.toNat []
  let chCount ← orError "invalid change count" readCount
  let changes ← many (orError "invalid change" HealthChange.read) chCount.toNat
  let latestAssessment ← orError "invalid assessment" HealthAssessment.read
  let highestValidation ← orError "invalid validation depth" (readEnum ValidationDepth)
  let lastObservation ← Timestamp.read
  let firstSeen ← Timestamp.read
  let quarantine ← readOptional QuarantineRecord.read "invalid quarantine"
  let recovery ← readOptional RecoveryRecord.read "invalid recovery"
  let deviceGenerationChangedFlag ← readFlag
  let policyGenerationChangedFlag ← readFlag
  let inRecovery ← readFlag
  let present ← readFlag
  checkOk true "malformed device record"
  let d : Device :=
    { id, uuid, node, lastWorker, lastWorkerBootId, generation, state, readiness,
      healthGeneration, transitionCount
      dimensions := OrdMap.empty.insertAll (dims.map fun dim => (dim.kind, dim))
      recentEvidence, faults, validations, changes, latestAssessment, highestValidation,
      lastObservation, firstSeen, quarantine, recovery, deviceGenerationChangedFlag,
      policyGenerationChangedFlag, inRecovery, present }
  check (!(d.quarantined && d.state = .healthy))
    "impossible state: active quarantine with HEALTHY"
  pure d

/-- The device loop's variables: the target store, the cursor and two accumulators. -/
structure Loading where
  out : HealthStore
  reader : Reader
  seenUuid : OrdMap DeviceUuid AcceleratorId := .empty
  maxDeviceRaw : UInt64 := 0

/-- A record enters the store, the cursor moves on. -/
def Loading.taken (l : Loading) (d : Device) (reader : Reader) : Loading where
  out :=
    { l.out with
      devices := l.out.devices.insert d.id d
      uuidIndex := l.out.uuidIndex.insert d.uuid d.id }
  reader := reader
  seenUuid := l.seenUuid.insert d.uuid d.id
  maxDeviceRaw := if l.maxDeviceRaw < d.id.get then d.id.get else l.maxDeviceRaw

def loadDevice (l : Loading) : Exit String Loading Unit :=
  match readDevice.run l.reader with
  | .error e => .throw e l
  | .ok (d, reader) =>
    if l.seenUuid.contains d.uuid then .throw "duplicate device uuid" l
    else .ok () (l.taken d reader)

def indexDevice (s : HealthStore) (d : Device) : HealthStore :=
  { s with
    stateIndex := s.stateIndex.add d.state d.id
    readinessIndex := s.readinessIndex.add d.readiness d.id
    faultIndex := d.faults.openFaults.foldl (fun index f => index.add f.type d.id) s.faultIndex
    quarantineIndex :=
      if d.quarantined then s.quarantineIndex.insert d.id () else s.quarantineIndex }

/-- `recomputeIndexes` rebuilds all but the stale index, which it leaves empty. -/
def recomputeIndexes (s : HealthStore) : HealthStore :=
  s.devices.values.foldl indexDevice
    { s with
      stateIndex := .empty, readinessIndex := .empty, faultIndex := .empty
      quarantineIndex := .empty, staleIndex := .empty }

/-- The first writes to the target: the header's values, and everything else emptied. -/
def adoptHeader (h : Header) (out : HealthStore) : HealthStore :=
  { out with
    policy := h.policy
    policyGeneration := h.policyGeneration
    coordinatorEpoch := h.epoch
    devices := .empty
    uuidIndex := .empty
    stateIndex := .empty
    readinessIndex := .empty
    faultIndex := .empty
    quarantineIndex := .empty
    staleIndex := .empty
    globalFaults := []
    globalChanges := [] }

/-- The last writes: id counters past the largest device id, and the indexes. -/
def finishLoad (l : Loading) : HealthStore :=
  let next := l.maxDeviceRaw + 1
  recomputeIndexes
    { l.out with
      nextDeviceRaw := next, nextFaultRaw := next, nextObservationRaw := next
      nextValidationRaw := next, nextQuarantineRaw := next, nextRecoveryRaw := next
      nextAssessmentRaw := next, nextIncidentRaw := next }

/-- The device loop. -/
def loadDevices (count : Nat) (l : Loading) : Exit String Loading Unit :=
  Exit.each (fun _ l => loadDevice l) (List.range count) l

/-- `false` with an error text is a throw here; the target keeps what was written. -/
def decodeStateInternal (data : Bytes) (out : HealthStore) : Exit String HealthStore Unit :=
  match openImage data with
  | .error e => .throw e out
  | .ok body =>
    match readHeader.run { data := body } with
    | .error e => .throw e out
    | .ok (h, r) =>
      let out := adoptHeader h out
      match (orError "invalid device count" readCount : Decode UInt32).run r with
      | .error e => .throw e out
      | .ok (deviceCount, r) =>
        let loaded := loadDevices deviceCount.toNat { out, reader := r }
        match loaded.result with
        | .error e => .throw e loaded.state.out
        | .ok () =>
          if loaded.state.reader.remaining ≠ 0 then
            .throw "trailing bytes in payload" loaded.state.out
          else .ok () (finishLoad loaded.state)

/-- A restart is a trust boundary: nothing persisted is current until refreshed. -/
def distrust (s : HealthStore) : HealthStore :=
  { s with devices := s.devices.mapValues fun _ d => { d with requiresRevalidation := true } }

/-- `contents` is the file, or `none` when it cannot be opened. The inner result is the
returned Boolean with its error text. -/
def loadInternal (clk : Readings) (contents : Option Bytes) (out : HealthStore) :
    Exit Exn HealthStore (Except String Unit) :=
  match contents with
  | none => .ok (.error "cannot open for read") out
  | some bytes =>
    let decoded := decodeStateInternal bytes out
    match decoded.result with
    | .error e => .ok (.error e) decoded.state
    | .ok () =>
      ((distrust decoded.state).reassessAll clk).andThen fun out => .ok (.ok ()) out

end Persistence
end AcceleratorHealth
