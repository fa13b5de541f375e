import AcceleratorHealth.WireLaws
import AcceleratorHealth.Fencing

/-! The coordinator: one store shared by all connections, and for each connection the
worker that introduced itself on it. A frame is handled as a whole; an exception ends
its connection, and the end of a connection withdraws its worker. -/
namespace AcceleratorHealth
open Codec Wire

/-- What a connection's thread remembers of its peer. -/
structure Connection where
  worker : WorkerId := {}
  boot : WorkerBootId := {}
  haveWorker : Bool := false

/-- The shared store and the connection at work on it. -/
structure Session where
  store : HealthStore
  connection : Connection

namespace Session

/-- A store operation within a handler. -/
def onStore {α : Type} (operation : HealthStore → Exit Exn HealthStore α) (s : Session) :
    Exit Exn Session α :=
  (operation s.store).mapState fun store => { s with store }

/-- Send one frame as the handler's last act. -/
def reply (type : MessageType) (body : Writer) (s : Session) : Exit Exn Session (List Frame) :=
  match sendFrame type body with
  | .error e => .throw e s
  | .ok frame => .ok [frame] s

def acknowledge (type : MessageType) (accepted : Bool) (msg : String) (s : Session) :
    Exit Exn Session (List Frame) :=
  s.reply .ack (ackBody type accepted (str msg))

/-- Register the announced devices one after another. -/
def registerDevices (clk : Readings) (node : NodeId) (devices : List DeviceIdentity)
    (store : HealthStore) : HealthStore :=
  devices.zipIdx.foldl (fun store d => (store.registerDevice (clk d.2) d.1.uuid node).2) store

/-- The worker is registered before its device list is checked. -/
def handleRegister (clk : Readings) (payload : Bytes) (s : Session) :
    Exit Exn Session (List Frame) :=
  match readRegBody.run { data := payload } with
  | .error _ => .ok [] s
  | .ok ((hello, devices), _) =>
    let s : Session :=
      { store := s.store.registerWorker hello.worker hello.boot
        connection := { worker := hello.worker, boot := hello.boot, haveWorker := true } }
    match devices with
    | none => .ok [] s
    | some devices =>
      let s := { s with store := registerDevices clk hello.node devices s.store }
      (s.onStore (HealthStore.reassessAll (clk.drop devices.length))).andThen
        (acknowledge .register true "registered")

def handleObservation (clk : Readings) (payload : Bytes) (s : Session) :
    Exit Exn Session (List Frame) :=
  match readObsBody.run { data := payload } with
  | .error _ => .ok [] s
  | .ok ((env, obs), _) =>
    (s.onStore (HealthStore.acceptObservation clk obs env)).bind fun res s =>
      s.acknowledge .observation (res = "accepted") res

/-- The envelope is read and not looked at. -/
def handleValidationResult (clk : Readings) (payload : Bytes) (s : Session) :
    Exit Exn Session (List Frame) :=
  match readValBody.run { data := payload } with
  | .error _ => .ok [] s
  | .ok ((_, v), _) =>
    (s.onStore (HealthStore.recordValidation clk v)).andThen
      (acknowledge .validationResult true "recorded")

/-- The envelope is read and not looked at. -/
def handleFaultReport (clk : Readings) (payload : Bytes) (s : Session) :
    Exit Exn Session (List Frame) :=
  match readFaultBody.run { data := payload } with
  | .error _ => .ok [] s
  | .ok ((_, f), _) =>
    (s.onStore (HealthStore.recordFault clk f)).andThen
      (acknowledge .faultReport true "recorded")

/-- The state image goes out; a file the coordinator also writes it to is no part of it. -/
def handleSnapshotRequest (s : Session) : Exit Exn Session (List Frame) :=
  s.reply .snapshotResponse (Persistence.encodeStateInternal s.store)

/-- The switch over the frame types; the result is what has been sent. -/
def handleFrame (clk : Readings) (frame : Frame) (s : Session) : Exit Exn Session (List Frame) :=
  match frame.type with
  | .register => s.handleRegister clk frame.payload
  | .observation => s.handleObservation clk frame.payload
  | .validationResult => s.handleValidationResult clk frame.payload
  | .faultReport => s.handleFaultReport clk frame.payload
  | .snapshotRequest => s.handleSnapshotRequest
  | _ => .ok [] s

/-- The end of a connection, whatever ended it. -/
def hangUp (clk : Readings) (s : Session) : Exit Exn HealthStore Unit :=
  if s.connection.haveWorker then
    s.store.invalidateWorker clk s.connection.worker s.connection.boot
  else .ok () s.store

end Session

structure Coordinator where
  store : HealthStore
  connections : OrdMap Nat Connection := .empty

inductive Event where
  | accept (fd : Nat)
  | receive (fd : Nat) (frame : Frame)
  | hangUp (fd : Nat)

namespace Coordinator

/-- A new store under policy 1; `file` is what `--load` finds. -/
def start (clk : Readings) (epoch : UInt64) (file : Option (Option Bytes)) : Coordinator :=
  let store := HealthStore.init { id := ⟨1⟩ } epoch
  match file with
  | none => { store }
  | some contents => { store := (Persistence.loadInternal clk contents store).state }

/-- An exception while a worker is withdrawn ends the process and with it every connection. -/
def hangUp (clk : Readings) (fd : Nat) (session : Session) (c : Coordinator) : Coordinator :=
  let left := session.hangUp clk
  match left.result with
  | .ok () => { store := left.state, connections := c.connections.erase fd }
  | .error _ => { store := left.state }

/-- The second clock is read when an exception in a handler ends the connection. -/
def step (c : Coordinator) (e : Event × Readings × Readings) : Coordinator :=
  let (event, clk, clk') := e
  match event with
  | .accept fd => { c with connections := c.connections.insert fd {} }
  | .receive fd frame =>
    match c.connections.find? fd with
    | none => c
    | some connection =>
      let handled := Session.handleFrame clk frame { store := c.store, connection }
      match handled.result with
      | .ok _ =>
        { store := handled.state.store
          connections := c.connections.insert fd handled.state.connection }
      | .error _ => c.hangUp clk' fd handled.state
  | .hangUp fd =>
    match c.connections.find? fd with
    | none => c
    | some connection => c.hangUp clk fd { store := c.store, connection }

/-- The coordinator after some events on some connections. -/
def Reachable (c : Coordinator) : Prop :=
  ∃ clk epoch file events, c = Machine.run step (start clk epoch file) events

end Coordinator

/-! ### Stale reports -/

/-- What the observation fence holds against a report on a device: a past epoch, an
unregistered worker, another boot of it, or a past device generation. -/
def AuthorityEnvelope.Stale (env : AuthorityEnvelope) (id : AcceleratorId) (s : HealthStore) :
    Prop :=
  env.coordinatorEpoch ≠ s.coordinatorEpoch ∨ s.workerBootRegistry.find? env.workerId = none ∨
    (∃ boot, s.workerBootRegistry.find? env.workerId = some boot ∧ boot ≠ env.workerBootId) ∨
    ∃ d, s.devices.find? id = some d ∧ env.deviceGeneration < d.generation

/-- A well-formed VALIDATION_RESULT or FAULT_REPORT frame with its envelope and device. -/
inductive Reports (env : AuthorityEnvelope) (id : AcceleratorId) (frame : Frame) : Prop
  | validation {v : ValidationRecord} {r : Reader} (type : frame.type = .validationResult)
      (read : readValBody.run { data := frame.payload } = .ok ((env, v), r))
      (device : v.accelerator = id)
  | fault {f : Fault} {r : Reader} (type : frame.type = .faultReport)
      (read : readFaultBody.run { data := frame.payload } = .ok ((env, f), r))
      (device : f.accelerator = id)

namespace Session

/-- An acknowledgement frame and its verdict. -/
def Acknowledges (accepted : Bool) (f : Frame) : Prop :=
  f.type = .ack ∧
    ∃ type msg r, readAckBody.run { data := f.payload } = .ok ((type, accepted, msg), r)

/-- The frame is turned away: the store is as before, and the ACK says so. -/
def TurnsAway (clk : Readings) (frame : Frame) (s : Session) : Prop :=
  (s.handleFrame clk frame).state.store = s.store ∧
    ∃ sent, (s.handleFrame clk frame).result = .ok sent ∧ ∃ f ∈ sent, Acknowledges false f

/-- What a handler acknowledges is what its frame says. -/
theorem acknowledge_eq (type : MessageType) (accepted : Bool) (msg : String) (s : Session)
    (hmsg : (str msg).length ≤ 1000) :
    ∃ payload, s.acknowledge type accepted msg = .ok [{ type := .ack, payload }] s ∧
      ∃ r, readAckBody.run { data := payload } = .ok ((type, accepted, str msg), r) := by
  have hstring : string (str msg) = .ok (Util.storeLe 4 (str msg).length ++ str msg) :=
    if_neg (by unfold Util.kMaxString; omega)
  obtain ⟨payload, hbody, hlen⟩ : ∃ payload, ackBody type accepted (str msg) = .ok payload ∧
      payload.length = 6 + (str msg).length := by
    refine ⟨[CodedEnum.code type] ++ ([if accepted then 1 else 0] ++
      (Util.storeLe 4 (str msg).length ++ str msg ++ [])), ?_, ?_⟩
    · simp only [ackBody, emitAll, hstring, enum, flag, u8]
    simp only [List.length_append, List.length_singleton, Util.storeLe_length, List.length_nil]
    omega
  refine ⟨payload, ?_, ?_⟩
  · unfold acknowledge reply sendFrame
    rw [hbody]
    simp only
    rw [if_neg (by rw [hlen]; unfold kMaxFramePayload; omega)]
  · obtain ⟨r, hrun, -⟩ := run_of_reads (reads_ackBody type accepted (str msg)) [] hbody
      (by omega) (r := { data := payload }) rfl (by rw [List.append_nil]; rfl)
    exact ⟨r, hrun⟩

/-- A handler whose one frame is a positive acknowledgement does not turn anything away. -/
theorem not_acknowledges_false {x : Exit Exn Session Unit} {type : MessageType}
    {sent : List Frame}
    (h : (x.andThen (acknowledge type true "recorded")).result = .ok sent) :
    ∀ f ∈ sent, ¬Acknowledges false f := by
  unfold Exit.andThen Exit.bind at h
  cases hx : x.result with
  | error e =>
    simp only [hx] at h
    cases h
  | ok u =>
    simp only [hx] at h
    obtain ⟨payload, hack, r, hread⟩ :=
      acknowledge_eq type true "recorded" x.state (by decide +kernel)
    rw [hack] at h
    cases h
    rintro f hf ⟨-, type', msg, r', hread'⟩
    rw [List.mem_singleton.mp hf, hread] at hread'
    cases hread'

section Handlers
attribute [local irreducible] readValBody readFaultBody
variable {clk : Readings} {env : AuthorityEnvelope} {payload : Bytes} {r : Reader}

theorem handleValidationResult_eq {v : ValidationRecord} (s : Session)
    (h : readValBody.run { data := payload } = .ok ((env, v), r)) :
    s.handleValidationResult clk payload = (s.onStore (HealthStore.recordValidation clk v)).andThen
      (acknowledge .validationResult true "recorded") := by
  unfold handleValidationResult
  rw [h]

theorem handleFaultReport_eq {f : Fault} (s : Session)
    (h : readFaultBody.run { data := payload } = .ok ((env, f), r)) :
    s.handleFaultReport clk payload = (s.onStore (HealthStore.recordFault clk f)).andThen
      (acknowledge .faultReport true "recorded") := by
  unfold handleFaultReport
  rw [h]

end Handlers

theorem not_turnsAway_of_reports {clk : Readings} {env : AuthorityEnvelope} {id : AcceleratorId}
    {frame : Frame} {s : Session} (h : Reports env id frame) : ¬s.TurnsAway clk frame := by
  rintro ⟨-, sent, hsent, f, hf, hack⟩
  unfold handleFrame at hsent
  cases h with
  | validation type read =>
    rw [type] at hsent
    simp only [handleValidationResult_eq s read] at hsent
    exact not_acknowledges_false hsent f hf hack
  | fault type read =>
    rw [type] at hsent
    simp only [handleFaultReport_eq s read] at hsent
    exact not_acknowledges_false hsent f hf hack

/-- No stale validation or fault report is ever turned away, in whatever store. -/
theorem stale_report_not_turned_away (clk : Readings) (env : AuthorityEnvelope)
    (id : AcceleratorId) (frame : Frame) (s : Session) (hreport : Reports env id frame) :
    env.Stale id s.store → ¬s.TurnsAway clk frame :=
  fun _ => not_turnsAway_of_reports hreport

end Session

namespace Coordinator

/-- A frame with this body. -/
def frameOf (type : MessageType) (body : Writer) : Frame :=
  { type, payload := body.toOption.getD [] }

/-- What has been written into a frame is what its reader finds. -/
theorem run_frameOf {α : Type} {type : MessageType} {body : Writer} {p : Parse α} {x : α}
    (h : Reads body p x) (hok : body.isOk = true)
    (hlen : (body.toOption.getD []).length < 2 ^ 32) :
    ∃ r, p.run { data := (frameOf type body).payload } = .ok (x, r) := by
  cases hbody : body with
  | error e => simp [hbody, Except.isOk, Except.toBool] at hok
  | ok payload =>
    rw [hbody] at h hlen
    obtain ⟨r, hrun, -⟩ := run_of_reads h [] rfl hlen (r := { data := payload }) rfl
      (by rw [List.append_nil]; rfl)
    exact ⟨r, hrun⟩

/-- Worker 1 introduces itself under boot id 1, restarts as boot id 2, and reports device 7
nominal. The connection of boot id 1 is still open. -/
def restarted : Coordinator :=
  let events : List Event := [
    .accept 3,
    .receive 3 (frameOf .register (regBody { worker := ⟨1⟩, boot := ⟨1⟩ } [{ uuid := ⟨7⟩ }])),
    .accept 4,
    .receive 4 (frameOf .register (regBody { worker := ⟨1⟩, boot := ⟨2⟩ } [{ uuid := ⟨7⟩ }])),
    .receive 4 (frameOf .observation (obsBody
      { coordinatorEpoch := 1, workerId := ⟨1⟩, workerBootId := ⟨2⟩, observationGeneration := ⟨1⟩
        deviceGeneration := ⟨1⟩ }
      { accelerator := ⟨7⟩, worker := ⟨1⟩, workerBootId := ⟨2⟩, timestamp := ⟨1⟩ }))]
  Machine.run step (start (fun _ => ⟨1⟩) 1 none)
    (events.map fun e => (e, fun _ => ⟨1⟩, fun _ => ⟨1⟩))

/-- The session in which a frame of boot id 1 would be handled. -/
def stale : Session :=
  { store := restarted.store, connection := (restarted.connections.find? 3).getD {} }

def staleEnvelope : AuthorityEnvelope :=
  { coordinatorEpoch := 1, workerId := ⟨1⟩, workerBootId := ⟨1⟩, deviceGeneration := ⟨1⟩ }

def staleValidation : ValidationRecord :=
  { id := ⟨1⟩, accelerator := ⟨7⟩, depth := .full, passed := true }

def staleFrame : Frame := frameOf .validationResult (valBody staleEnvelope staleValidation)

theorem reports_staleFrame : Reports staleEnvelope ⟨7⟩ staleFrame := by
  obtain ⟨r, hread⟩ := run_frameOf
    (reads_valBody staleEnvelope staleValidation) (by decide +kernel) (by decide +kernel)
  exact .validation rfl hread rfl

theorem stale_staleEnvelope : staleEnvelope.Stale ⟨7⟩ stale.store := by
  refine Or.inr (Or.inr (Or.inl ⟨⟨2⟩, ?_, by decide⟩))
  decide +kernel

theorem stale_report_not_turned_away_after_restart : ¬stale.TurnsAway (fun _ => ⟨1⟩) staleFrame :=
  Session.stale_report_not_turned_away _ staleEnvelope ⟨7⟩ staleFrame stale reports_staleFrame
    stale_staleEnvelope

/-- A validation of the old incarnation makes the device READY. -/
theorem stale_report_makes_ready :
    restarted.Reachable ∧ Reports staleEnvelope ⟨7⟩ staleFrame ∧
      staleEnvelope.Stale ⟨7⟩ stale.store ∧ ¬stale.TurnsAway (fun _ => ⟨1⟩) staleFrame := by
  refine ⟨⟨_, _, _, _, rfl⟩, reports_staleFrame, stale_staleEnvelope, ?_⟩
  rintro ⟨hsame, -⟩
  have hbefore : (stale.store.devices.find? ⟨7⟩).map Device.readiness =
      some .revalidationRequired := by decide +kernel
  have hafter : ((stale.handleFrame (fun _ => ⟨1⟩) staleFrame).state.store.devices.find? ⟨7⟩).map
      Device.readiness = some .ready := by decide +kernel
  rw [hsame, hbefore] at hafter
  cases hafter

end Coordinator
end AcceleratorHealth
