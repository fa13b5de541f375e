import AcceleratorHealth.Serving
import AcceleratorHealth.Streams

/-! What a frame asks of the coordinator: its store calls in their order, each under the
lock for itself, and the answer that goes out once they have returned. The image that a
snapshot request is answered with is encoded without the lock. -/
namespace AcceleratorHealth
open Codec Wire

/-- The answer of a handler; an observation is answered with the text of its call, a
snapshot request with what the encoding of the store comes to. -/
inductive Answer where
  | silent
  | ack (type : MessageType) (msg : String)
  | verdict
  | image

structure Request where
  ops : List Op := []
  answer : Answer := .silent

/-- The switch over the frame types; a body that is not read to its end is dropped. -/
def Frame.request (frame : Frame) : Request :=
  match frame.type with
  | .register =>
    match readRegBody.run { data := frame.payload } with
    | .error _ => {}
    | .ok ((hello, none), _) => { ops := [.registerWorker hello.worker hello.boot] }
    | .ok ((hello, some devices), _) =>
      { ops := .registerWorker hello.worker hello.boot ::
          (devices.map (fun d => .registerDevice d.uuid hello.node) ++ [.reassessAll])
        answer := .ack .register "registered" }
  | .observation =>
    match readObsBody.run { data := frame.payload } with
    | .error _ => {}
    | .ok ((env, obs), _) => { ops := [.acceptObservation obs env], answer := .verdict }
  | .validationResult =>
    match readValBody.run { data := frame.payload } with
    | .error _ => {}
    | .ok ((_, v), _) =>
      { ops := [.recordValidation v], answer := .ack .validationResult "recorded" }
  | .faultReport =>
    match readFaultBody.run { data := frame.payload } with
    | .error _ => {}
    | .ok ((_, f), _) => { ops := [.recordFault f], answer := .ack .faultReport "recorded" }
  | .snapshotRequest => { answer := .image }
  | _ => {}

/-- The frame that goes out, if any. -/
def Answer.reply (text : String) (image : Except Exn Bytes) : Answer → Except Exn (List Frame)
  | .silent => .ok []
  | .ack type msg => (sendFrame .ack (ackBody type true (str msg))).map ([·])
  | .verdict => (sendFrame .ack (ackBody .observation (text = "accepted") (str text))).map ([·])
  | .image => (sendFrame .snapshotResponse image).map ([·])

/-- What a handler keeps of a call's result: the last text. -/
def Reply.noted (before : String) : Reply → String
  | .text s => s
  | _ => before

namespace Session

/-- Calls in a row, up to the first that throws. -/
def perform : List Call → String → Session → Exit Exn Session String
  | [], text, s => .ok text s
  | c :: rest, text, s =>
    (s.onStore (HealthStore.exec c)).bind fun r s => perform rest (r.noted text) s

def answer (a : Answer) (text : String) (s : Session) : Exit Exn Session (List Frame) :=
  match a.reply text (Persistence.encodeStateInternal s.store) with
  | .error e => .throw e s
  | .ok frames => .ok frames s

/-- The calls of a frame and its answer, with no other thread in between. -/
def serve (calls : List Call) (frame : Frame) (s : Session) : Exit Exn Session (List Frame) :=
  (perform calls "" { s with connection := s.connection.after frame.introduces }).bind
    (answer frame.request.answer)

theorem answer_ack (type : MessageType) (msg : String) :
    answer (.ack type msg) = fun _ => acknowledge type true msg := by
  funext text s
  simp only [answer, Answer.reply, acknowledge, reply]
  cases sendFrame .ack (ackBody type true (str msg)) <;> rfl

theorem answer_verdict :
    answer .verdict = fun text => acknowledge .observation (text = "accepted") text := by
  funext text s
  simp only [answer, Answer.reply, acknowledge, reply]
  cases sendFrame .ack (ackBody .observation (text = "accepted") (str text)) <;> rfl

theorem answer_image : answer .image = fun _ => handleSnapshotRequest := by
  funext text s
  simp only [answer, Answer.reply, handleSnapshotRequest, reply]
  cases sendFrame .snapshotResponse (Persistence.encodeStateInternal s.store) <;> rfl

/-- One call that returns nothing. -/
theorem perform_unit (operation : HealthStore → Exit Exn HealthStore Unit) {c : Call}
    (h : ∀ s, HealthStore.exec c s = (operation s).mapResult fun _ => .done) (text : String)
    (s : Session) (f : Session → Exit Exn Session (List Frame)) :
    ((perform [c] text s).bind fun _ => f) = (s.onStore operation).andThen f := by
  simp only [perform, onStore, h]
  unfold Exit.andThen Exit.bind Exit.mapState Exit.mapResult
  cases (operation s.store).result <;> rfl

/-- The device registrations of a frame, one call each. -/
theorem perform_registerDevices (clk : Readings) (node : NodeId)
    (devices : List (DeviceIdentity × Nat))
    (rest : List Call) (text : String) (s : Session) :
    perform
        (devices.map (fun d => ⟨.registerDevice d.1.uuid node, fun _ => clk d.2⟩) ++ rest) text s =
      perform rest text ⟨devices.foldl
        (fun store d => (store.registerDevice (clk d.2) d.1.uuid node).2) s.store,
        s.connection⟩ := by
  induction devices generalizing s with
  | nil => rfl
  | cons d devices ih =>
    rw [List.map_cons, List.cons_append, perform]
    exact ih { s with store := (s.store.registerDevice (clk d.2) d.1.uuid node).2 }

section Handlers
attribute [local irreducible] readRegBody readObsBody readValBody readFaultBody
variable {payload : Bytes} {env : AuthorityEnvelope} {r : Reader}

theorem request_observation {obs : AcceleratorObservation}
    (h : readObsBody.run { data := payload } = .ok ((env, obs), r)) :
    Frame.request { type := .observation, payload } =
      { ops := [.acceptObservation obs env], answer := .verdict } := by
  unfold Frame.request
  simp only [h]

theorem request_validationResult {v : ValidationRecord}
    (h : readValBody.run { data := payload } = .ok ((env, v), r)) :
    Frame.request { type := .validationResult, payload } =
      { ops := [.recordValidation v], answer := .ack .validationResult "recorded" } := by
  unfold Frame.request
  simp only [h]

theorem request_faultReport {f : Fault}
    (h : readFaultBody.run { data := payload } = .ok ((env, f), r)) :
    Frame.request { type := .faultReport, payload } =
      { ops := [.recordFault f], answer := .ack .faultReport "recorded" } := by
  unfold Frame.request
  simp only [h]

theorem request_register {hello : HelloBody} {devices : List DeviceIdentity}
    (h : readRegBody.run { data := payload } = .ok ((hello, some devices), r)) :
    Frame.request { type := .register, payload } =
      { ops := .registerWorker hello.worker hello.boot ::
          (devices.map (fun d => .registerDevice d.uuid hello.node) ++ [.reassessAll])
        answer := .ack .register "registered" } := by
  unfold Frame.request
  simp only [h]

theorem serve_observation (clk : Readings) (s : Session) {obs : AcceleratorObservation}
    (h : readObsBody.run { data := payload } = .ok ((env, obs), r)) :
    s.handleObservation clk payload = s.serve [⟨.acceptObservation obs env, clk⟩]
      { type := .observation, payload } := by
  unfold handleObservation serve
  rw [request_observation h, h, answer_verdict]
  simp only [perform, onStore, HealthStore.exec, Frame.introduces, Connection.after]
  unfold Exit.bind Exit.mapState Exit.mapResult
  cases (s.store.acceptObservation clk obs env).result <;> rfl

theorem serve_validationResult (clk : Readings) (s : Session) {v : ValidationRecord}
    (h : readValBody.run { data := payload } = .ok ((env, v), r)) :
    s.handleValidationResult clk payload = s.serve [⟨.recordValidation v, clk⟩]
      { type := .validationResult, payload } := by
  unfold serve
  rw [handleValidationResult_eq s h, request_validationResult h, answer_ack]
  exact (perform_unit (HealthStore.recordValidation clk v) (fun _ => rfl) "" s _).symm

theorem serve_faultReport (clk : Readings) (s : Session) {f : Fault}
    (h : readFaultBody.run { data := payload } = .ok ((env, f), r)) :
    s.handleFaultReport clk payload = s.serve [⟨.recordFault f, clk⟩]
      { type := .faultReport, payload } := by
  unfold serve
  rw [handleFaultReport_eq s h, request_faultReport h, answer_ack]
  exact (perform_unit (HealthStore.recordFault clk f) (fun _ => rfl) "" s _).symm

theorem serve_register (clk : Readings) (s : Session) {hello : HelloBody}
    {devices : List DeviceIdentity}
    (h : readRegBody.run { data := payload } = .ok ((hello, some devices), r)) :
    s.handleRegister clk payload = s.serve
      (⟨.registerWorker hello.worker hello.boot, clk⟩ ::
        (devices.zipIdx.map (fun d => ⟨.registerDevice d.1.uuid hello.node, fun _ => clk d.2⟩) ++
          [⟨.reassessAll, clk.drop devices.length⟩])) { type := .register, payload } := by
  have hintroduces : Frame.introduces { type := .register, payload } =
      some (hello.worker, hello.boot) := by
    unfold Frame.introduces
    simp only [h]
  unfold handleRegister serve
  rw [request_register h, hintroduces, h, answer_ack, perform]
  change _ = (perform _ _ ⟨s.store.registerWorker hello.worker hello.boot,
    ⟨hello.worker, hello.boot, true⟩⟩).bind _
  rw [perform_registerDevices]
  exact (perform_unit (HealthStore.reassessAll (clk.drop devices.length))
    (fun _ => rfl) "" _ _).symm

/-- A frame that asks for nothing. -/
theorem serve_nothing {frame : Frame} (hrequest : frame.request = {})
    (hnone : frame.introduces = none) (s : Session) : s.serve [] frame = .ok [] s := by
  unfold serve
  rw [hrequest, hnone]
  rfl

/-- The handler of a frame is the calls that the frame asks for, made in a row. -/
theorem handleFrame_eq_serve (clk : Readings) (frame : Frame) (s : Session) :
    ∃ calls, calls.map Call.op = frame.request.ops ∧
      s.handleFrame clk frame = s.serve calls frame := by
  obtain ⟨type, payload⟩ := frame
  cases type with
  | register =>
    cases hread : readRegBody.run { data := payload } with
    | error e =>
      refine ⟨[], ?_, ?_⟩
      · simp only [Frame.request, hread, List.map_nil]
      · simp only [handleFrame, handleRegister, serve, Frame.introduces, Frame.request, hread]
        rfl
    | ok x =>
      obtain ⟨⟨hello, devices⟩, r⟩ := x
      cases devices with
      | none =>
        refine ⟨[⟨.registerWorker hello.worker hello.boot, clk⟩], ?_, ?_⟩
        · simp only [Frame.request, hread, List.map_cons, List.map_nil]
        · simp only [handleFrame, handleRegister, serve, Frame.introduces, Frame.request, hread]
          rfl
      | some devices =>
        refine ⟨_, ?_, serve_register clk s hread⟩
        rw [request_register hread]
        simp only [List.map_cons, List.map_append, List.map_map]
        congr 2
        rw [← List.zipIdx_map_fst 0 devices, List.map_map, List.zipIdx_map_fst]
        rfl
  | observation =>
    cases hread : readObsBody.run { data := payload } with
    | error e =>
      have hrequest : Frame.request { type := .observation, payload } = {} := by
        unfold Frame.request
        simp only [hread]
      refine ⟨[], by rw [hrequest]; rfl, ?_⟩
      rw [serve_nothing hrequest rfl]
      unfold handleFrame handleObservation
      simp only [hread]
    | ok x =>
      obtain ⟨⟨env, obs⟩, r⟩ := x
      refine ⟨_, ?_, serve_observation clk s hread⟩
      rw [request_observation hread]
      rfl
  | validationResult =>
    cases hread : readValBody.run { data := payload } with
    | error e =>
      have hrequest : Frame.request { type := .validationResult, payload } = {} := by
        unfold Frame.request
        simp only [hread]
      refine ⟨[], by rw [hrequest]; rfl, ?_⟩
      rw [serve_nothing hrequest rfl]
      unfold handleFrame handleValidationResult
      simp only [hread]
    | ok x =>
      obtain ⟨⟨env, v⟩, r⟩ := x
      refine ⟨_, ?_, serve_validationResult clk s hread⟩
      rw [request_validationResult hread]
      rfl
  | faultReport =>
    cases hread : readFaultBody.run { data := payload } with
    | error e =>
      have hrequest : Frame.request { type := .faultReport, payload } = {} := by
        unfold Frame.request
        simp only [hread]
      refine ⟨[], by rw [hrequest]; rfl, ?_⟩
      rw [serve_nothing hrequest rfl]
      unfold handleFrame handleFaultReport
      simp only [hread]
    | ok x =>
      obtain ⟨⟨env, f⟩, r⟩ := x
      refine ⟨_, ?_, serve_faultReport clk s hread⟩
      rw [request_faultReport hread]
      rfl
  | snapshotRequest =>
    refine ⟨[], rfl, ?_⟩
    unfold serve
    change s.handleSnapshotRequest = (Exit.ok "" s).bind (answer .image)
    rw [answer_image]
    rfl
  | _ => exact ⟨[], rfl, rfl⟩

end Handlers
end Session
end AcceleratorHealth
