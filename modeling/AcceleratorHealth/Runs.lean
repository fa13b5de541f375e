import AcceleratorHealth.Persistence
import AcceleratorHealth.Lib.Machine

/-! Runs of the store: the public operations that can change it, one call after
another, each with arbitrary clock readings. A call that throws is a step like any
other; the run goes on from the state it left. -/
namespace AcceleratorHealth

inductive Op where
  | setPolicy (policy : HealthPolicy)
  | rollCoordinatorEpoch
  | setCoordinatorEpoch (e : UInt64)
  | registerWorker (worker : WorkerId) (boot : WorkerBootId)
  | invalidateWorker (worker : WorkerId) (boot : WorkerBootId)
  | registerDevice (uuid : DeviceUuid) (node : NodeId)
  | markLost (id : AcceleratorId) (reason : Str)
  | acceptObservation (obs : AcceleratorObservation) (env : AuthorityEnvelope)
  | recordFault (fault : Fault)
  | recordValidation (v : ValidationRecord)
  | beginQuarantine (id : AcceleratorId) (authority : QuarantineAuthority)
      (reason triggeredBy : Str)
  | clearQuarantine (id : AcceleratorId)
  | beginRecovery (id : AcceleratorId)
  | revalidate (id : AcceleratorId) (v : ValidationRecord)
  | reassess (id : AcceleratorId)
  | reassessAll
  | decode (data : Bytes)
  | loadFromFile (contents : Option Bytes)

structure Call where
  op : Op
  clk : Readings

/-- A call during which the clock stands still. -/
def Op.at (t : Int64) (op : Op) : Call := ⟨op, fun _ => ⟨t⟩⟩

/-- What a call returns when it does not throw. -/
inductive Reply where
  | done
  | text (s : String)
  | device (id : AcceleratorId)
  | snapshot (s : DeviceSnapshot)
  | loaded (r : Except String Unit)

namespace HealthStore

def exec (c : Call) (s : HealthStore) : Exit Exn HealthStore Reply :=
  let done (x : Exit Exn HealthStore Unit) : Exit Exn HealthStore Reply :=
    x.mapResult fun _ => .done
  match c.op with
  | .setPolicy policy => done (s.setPolicy c.clk policy)
  | .rollCoordinatorEpoch => .ok .done s.rollCoordinatorEpoch
  | .setCoordinatorEpoch e => .ok .done (s.setCoordinatorEpoch e)
  | .registerWorker worker boot => .ok .done (s.registerWorker worker boot)
  | .invalidateWorker worker boot => done (s.invalidateWorker c.clk worker boot)
  | .registerDevice uuid node =>
    let (id, s) := s.registerDevice (c.clk 0) uuid node
    .ok (.device id) s
  | .markLost id reason => done (s.markLost c.clk id reason)
  | .acceptObservation obs env => (s.acceptObservation c.clk obs env).mapResult .text
  | .recordFault fault => done (s.recordFault c.clk fault)
  | .recordValidation v => done (s.recordValidation c.clk v)
  | .beginQuarantine id authority reason triggeredBy =>
    done (s.beginQuarantine c.clk id authority reason triggeredBy)
  | .clearQuarantine id => done (s.clearQuarantine c.clk id)
  | .beginRecovery id => done (s.beginRecovery c.clk id)
  | .revalidate id v => (s.revalidate c.clk id v).mapResult .snapshot
  | .reassess id => done (s.reassess c.clk id)
  | .reassessAll => done (s.reassessAll c.clk)
  | .decode data =>
    let decoded := Persistence.decodeStateInternal data s
    .ok (.loaded decoded.result) decoded.state
  | .loadFromFile contents => (Persistence.loadInternal c.clk contents s).mapResult .loaded

def step (s : HealthStore) (c : Call) : HealthStore := (s.exec c).state

/-- The store after a run from an empty store. -/
def after (policy : HealthPolicy) (epoch : UInt64) (calls : List Call) : HealthStore :=
  Machine.run step (init policy epoch) calls

/-- Some finite run from an empty store leads here. -/
def Reachable (s : HealthStore) : Prop := ∃ policy epoch calls, s = after policy epoch calls

end HealthStore

/-- Calls of `decode` and `loadFromFile`. -/
def Op.loads : Op → Bool
  | .decode _ | .loadFromFile _ => true
  | _ => false

/-- Calls of `registerDevice` with the null uuid, which takes an id from a counter. -/
def Op.registersNull : Op → Bool
  | .registerDevice uuid _ => uuid.get = 0
  | _ => false

/-- Calls that neither load nor register the null uuid. -/
def Op.plain (op : Op) : Prop := op.loads = false ∧ op.registersNull = false

instance (op : Op) : Decidable op.plain := inferInstanceAs (Decidable (_ ∧ _))

/-- Calls that work on tracked devices and change nothing else. -/
def Op.onDevices : Op → Bool
  | .markLost _ _ | .acceptObservation _ _ | .recordFault _ | .recordValidation _
  | .beginQuarantine _ _ _ _ | .clearQuarantine _ | .beginRecovery _ | .revalidate _ _
  | .reassess _ | .reassessAll => true
  | _ => false

/-- The devices that a call may work on when it finds them. -/
def Op.actsOn (k : AcceleratorId) : Op → Bool
  | .setPolicy _ | .invalidateWorker _ _ | .reassessAll => true
  | .markLost id _ | .beginQuarantine id _ _ _ | .clearQuarantine id | .beginRecovery id
  | .revalidate id _ | .reassess id => id = k
  | .acceptObservation obs _ => obs.accelerator = k
  | .recordFault fault => fault.accelerator = k
  | .recordValidation v => v.accelerator = k
  | _ => false

end AcceleratorHealth
