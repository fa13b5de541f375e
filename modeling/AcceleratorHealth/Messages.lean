import AcceleratorHealth.Records

/-! The bodies of protocol frames. A report is an authority envelope followed by its
record; an acknowledgement names the frame type it answers. -/
namespace AcceleratorHealth
open Codec Wire

def kProtocolVersion : UInt8 := 1

/-- 1 MiB -/
def kMaxFramePayload : Nat := 1048576

/-- A frame whose header and checksum have been verified. -/
structure Frame where
  type : MessageType := .hello
  payload : Bytes := []
  deriving DecidableEq

/-- `encodeFrame` refuses an oversized payload. -/
def sendFrame (type : MessageType) (body : Writer) : Except Exn Frame :=
  match body with
  | .error e => .error e
  | .ok payload =>
    if kMaxFramePayload < payload.length then
      .error (.runtimeError "protocol frame payload too large")
    else .ok { type, payload }

structure HelloBody where
  version : UInt8 := kProtocolVersion
  node : NodeId := {}
  worker : WorkerId := {}
  boot : WorkerBootId := {}
  generation : WorkerGeneration := {}

namespace HelloBody

def write (h : HelloBody) : Writer :=
  emitAll [u8 h.version, h.node.write, h.worker.write, h.boot.write, h.generation.write]

def read : Parse HelloBody := do
  let version ← prim Reader.u8
  let node ← StrongId.read
  let worker ← StrongId.read
  let boot ← StrongId.read
  let generation ← Generation.read
  guardOk
  pure { version, node, worker, boot, generation }

end HelloBody

structure DeviceIdentity where
  id : AcceleratorId := {}
  uuid : DeviceUuid := {}
  name : Str := []
  computeCapabilityMajor : UInt8 := 0
  computeCapabilityMinor : UInt8 := 0
  totalMemory : UInt64 := 0
  freeMemory : UInt64 := 0
  supported : Bool := true

namespace DeviceIdentity

def write (d : DeviceIdentity) : Writer :=
  emitAll [d.id.write, d.uuid.write, string d.name, u8 d.computeCapabilityMajor,
    u8 d.computeCapabilityMinor, u64 d.totalMemory, u64 d.freeMemory, flag d.supported]

/-- The register handler reads its devices without looking at the failure flag. -/
def read : Parse DeviceIdentity := do
  let id ← StrongId.read
  let uuid ← StrongId.read
  let name ← prim Reader.string
  let computeCapabilityMajor ← prim Reader.u8
  let computeCapabilityMinor ← prim Reader.u8
  let totalMemory ← prim Reader.u64
  let freeMemory ← prim Reader.u64
  let supported ← readFlag
  pure { id, uuid, name, computeCapabilityMajor, computeCapabilityMinor, totalMemory, freeMemory,
         supported }

end DeviceIdentity

def regBody (hello : HelloBody) (devices : List DeviceIdentity) : Writer :=
  emitAll (hello.write :: counted DeviceIdentity.write devices)

/-- The hello, then as many identities as announced, whatever is left to read. -/
def readRegBody : Parse (HelloBody × Option (List DeviceIdentity)) := do
  let hello ← HelloBody.read
  let count ← prim Reader.u32
  fun r =>
    if r.fail ∨ Util.kMaxCount < count then .ok ((hello, none), r)
    else
      match (many DeviceIdentity.read count.toNat).run r with
      | .error e => .error e
      | .ok (devices, r) => .ok ((hello, some devices), r)

def obsBody (env : AuthorityEnvelope) (obs : AcceleratorObservation) : Writer :=
  emitAll [env.write, obs.write]

def readObsBody : Parse (AuthorityEnvelope × AcceleratorObservation) := do
  let env ← AuthorityEnvelope.read
  let obs ← AcceleratorObservation.read
  pure (env, obs)

def valBody (env : AuthorityEnvelope) (v : ValidationRecord) : Writer :=
  emitAll [env.write, v.write]

def readValBody : Parse (AuthorityEnvelope × ValidationRecord) := do
  let env ← AuthorityEnvelope.read
  let v ← ValidationRecord.read
  pure (env, v)

def faultBody (env : AuthorityEnvelope) (f : Fault) : Writer :=
  emitAll [env.write, f.write]

def readFaultBody : Parse (AuthorityEnvelope × Fault) := do
  let env ← AuthorityEnvelope.read
  let f ← Fault.read
  pure (env, f)

def ackBody (type : MessageType) (accepted : Bool) (msg : Str) : Writer :=
  emitAll [enum type, flag accepted, string msg]

def readAckBody : Parse (MessageType × Bool × Str) := do
  let type ← readEnum MessageType
  let accepted ← readFlag
  let msg ← prim Reader.string
  guardOk
  pure (type, accepted, msg)

end AcceleratorHealth
