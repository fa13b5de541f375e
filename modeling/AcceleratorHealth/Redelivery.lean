import AcceleratorHealth.Serving
import AcceleratorHealth.Loops

/-! Redelivered fault reports. The history refuses the second copy by an exception, and an
exception ends the connection that delivered it. -/
namespace AcceleratorHealth
open Codec Wire

namespace HealthStore
open Locked

/-- The fault is in the history of its device. -/
def Knows (f : Fault) (s : HealthStore) : Prop :=
  ∃ d, s.devices.find? f.accelerator = some d ∧ f.id ∈ d.faults.ids

theorem faults_reassessLocked (clk : Readings) (l : Locked) :
    (reassessLocked clk l).state.d.faults = l.d.faults :=
  reassessLocked_state (P := fun l' => l'.d.faults = l.d.faults) (fun _ => rfl) (fun _ _ _ => rfl)
    (fun _ _ => rfl) fun _ _ => rfl

theorem faults_orphan (clk : Readings) (worker : WorkerId) (boot : WorkerBootId) (l : Locked) :
    (orphan clk worker boot l).state.d.faults = l.d.faults := by
  unfold orphan
  split_ifs
  · exact faults_reassessLocked ..
  · rfl

/-- The loss of a worker leaves the histories alone. -/
theorem knows_invalidateWorker {f : Fault} {clk : Readings} {worker : WorkerId}
    {boot : WorkerBootId} {s : HealthStore} (h : s.Knows f) :
    (s.invalidateWorker clk worker boot).state.Knows f := by
  obtain ⟨d, hd, hf⟩ := h
  have hloop := looped_forDevices
    (fun i l => (advances_orphan (clk.drop (2 * i)) worker boot l).continues) s
  have hknows : (forDevices (fun i => orphan (clk.drop (2 * i)) worker boot) s).state.Knows f := by
    obtain ⟨i, hturn⟩ := exists_turn hd
    rcases hloop.inside _ i d hturn hd with hkept | ⟨s₁, -, horphan⟩
    · exact ⟨d, hkept, hf⟩
    · refine ⟨_, horphan, ?_⟩
      rw [faults_orphan]
      exact hf
  unfold invalidateWorker
  split_ifs
  · exact Exit.state_andThen (P := fun t : HealthStore => t.Knows f) hknows fun _ h => h
  · exact ⟨d, hd, hf⟩

theorem faults_recordFault {f : Fault} (clk : Readings) {l : Locked}
    (hnew : f.id ∉ l.d.faults.ids) :
    (Locked.recordFault clk f l).state.d.faults.faults = l.d.faults.faults ++ [f] := by
  unfold Locked.recordFault FaultHistory.record
  rw [dif_neg hnew]
  simp only [faults_reassessLocked, takeFault]

theorem find?_recordFault {f : Fault} (clk : Readings) {s : HealthStore} {d : Device}
    (hd : s.devices.find? f.accelerator = some d) :
    (s.recordFault clk f).state.devices.find? f.accelerator =
      some (Locked.recordFault clk f ⟨s, d⟩).state.d :=
  find?_onDevice_self hd (advances_recordFault ..).continues

/-- A report of a tracked device's fault puts it in the history, if it is not there, also
when the reassessment throws. -/
theorem knows_recordFault {f : Fault} {clk : Readings} {s : HealthStore} {d : Device}
    (hd : s.devices.find? f.accelerator = some d) : (s.recordFault clk f).state.Knows f := by
  refine ⟨_, find?_recordFault clk hd, ?_⟩
  by_cases hnew : f.id ∈ d.faults.ids
  · unfold Locked.recordFault FaultHistory.record
    rw [dif_pos hnew]
    exact hnew
  · rw [FaultHistory.ids, faults_recordFault clk hnew]
    simp

/-- The history refuses what it knows. -/
theorem recordFault_of_knows {f : Fault} {clk : Readings} {s : HealthStore} (h : s.Knows f) :
    s.recordFault clk f = .throw (.invalidArgument "duplicate fault id") s := by
  obtain ⟨d, hd, hf⟩ := h
  have hrefused : Locked.recordFault clk f ⟨s, d⟩ =
      .throw (.invalidArgument "duplicate fault id") ⟨s, d⟩ := by
    unfold Locked.recordFault FaultHistory.record
    rw [dif_pos hf]
  unfold HealthStore.recordFault
  rw [onDevice_some hd, hrefused]
  exact congrArg (Exit.throw _) (commit_self hd)

end HealthStore

namespace Session

section Handlers
variable {clk : Readings} {env : AuthorityEnvelope} {f : Fault} {frame : Frame} {r : Reader}

theorem handleFrame_faultReport (htype : frame.type = .faultReport)
    (hread : readFaultBody.run { data := frame.payload } = .ok ((env, f), r)) (s : Session) :
    s.handleFrame clk frame = (s.onStore (HealthStore.recordFault clk f)).andThen
      (acknowledge .faultReport true "recorded") := by
  unfold handleFrame
  rw [htype]
  exact handleFaultReport_eq s hread

/-- The acknowledgement changes nothing, so a report leaves what the store makes of it. -/
theorem state_handleFrame (clk : Readings) (htype : frame.type = .faultReport)
    (hread : readFaultBody.run { data := frame.payload } = .ok ((env, f), r)) (s : Session) :
    (s.handleFrame clk frame).state = { s with store := (s.store.recordFault clk f).state } := by
  rw [handleFrame_faultReport htype hread, state_andThen_acknowledge]
  rfl

/-- The second copy throws. -/
theorem handleFrame_of_knows (htype : frame.type = .faultReport)
    (hread : readFaultBody.run { data := frame.payload } = .ok ((env, f), r)) {s : Session}
    (h : s.store.Knows f) :
    s.handleFrame clk frame = .throw (.invalidArgument "duplicate fault id") s := by
  rw [handleFrame_faultReport htype hread]
  unfold onStore
  rw [HealthStore.recordFault_of_knows h]
  rfl

end Handlers
end Session

namespace Coordinator

/-- The store is as before, and the connection is still served. -/
def Harmless (fd : Nat) (frame : Frame) (clk clk' : Readings) (c : Coordinator) : Prop :=
  (c.step (.receive fd frame, clk, clk')).store = c.store ∧
    ((c.step (.receive fd frame, clk, clk')).connections.find? fd).isSome

theorem knows_hangUp {f : Fault} {clk : Readings} {session : Session}
    (h : session.store.Knows f) : (session.hangUp clk).state.Knows f := by
  unfold Session.hangUp
  split_ifs
  · exact HealthStore.knows_invalidateWorker h
  · exact h

section Report
variable {env : AuthorityEnvelope} {f : Fault} {frame : Frame} {r : Reader}

theorem knows_receive (htype : frame.type = .faultReport)
    (hread : readFaultBody.run { data := frame.payload } = .ok ((env, f), r)) {c : Coordinator}
    {fd : Nat} {connection : Connection} {d : Device} {clk clk' : Readings}
    (hfd : c.connections.find? fd = some connection)
    (hd : c.store.devices.find? f.accelerator = some d) :
    (c.step (.receive fd frame, clk, clk')).store.Knows f := by
  have hknows : (Session.handleFrame clk frame
      { store := c.store, connection }).state.store.Knows f := by
    rw [Session.state_handleFrame clk htype hread]
    exact HealthStore.knows_recordFault hd
  unfold step
  simp only [hfd]
  split
  · exact hknows
  · rw [store_hangUp]
    exact knows_hangUp hknows

/-- Where the fault is known, its report ends the connection. -/
theorem receive_of_knows (htype : frame.type = .faultReport)
    (hread : readFaultBody.run { data := frame.payload } = .ok ((env, f), r)) {c : Coordinator}
    {fd : Nat} {connection : Connection} {clk clk' : Readings}
    (hfd : c.connections.find? fd = some connection) (hknows : c.store.Knows f) :
    c.step (.receive fd frame, clk, clk') = c.hangUp clk' fd { store := c.store, connection } := by
  unfold step
  simp only [hfd, Session.handleFrame_of_knows htype hread (s := { store := c.store, connection })
    hknows]
  rfl

/-- Whichever connection redelivers a report of a tracked device's fault is not served any
longer. -/
theorem redelivery_never_harmless {c : Coordinator} {fd fd' : Nat}
    {connection connection' : Connection} {d : Device} {clk₁ clk₂ clk₃ clk₄ : Readings}
    (htype : frame.type = .faultReport)
    (hread : readFaultBody.run { data := frame.payload } = .ok ((env, f), r))
    (hfd : c.connections.find? fd = some connection)
    (hd : c.store.devices.find? f.accelerator = some d)
    (hfd' : (c.step (.receive fd frame, clk₁, clk₂)).connections.find? fd' = some connection') :
    ¬(c.step (.receive fd frame, clk₁, clk₂)).Harmless fd' frame clk₃ clk₄ := by
  rintro ⟨-, hserved⟩
  rw [receive_of_knows htype hread hfd' (knows_receive htype hread hfd hd), find?_hangUp]
    at hserved
  cases hserved

end Report

/-- Worker 1 has introduced itself with device 7. -/
def introduced : Coordinator :=
  let events : List Event := [
    .accept 3,
    .receive 3 (frameOf .register (regBody { worker := ⟨1⟩, boot := ⟨1⟩ } [{ uuid := ⟨7⟩ }]))]
  Machine.run step (start (fun _ => ⟨1⟩) 1 none)
    (events.map fun e => (e, fun _ => ⟨1⟩, fun _ => ⟨1⟩))

def reportedFault : Fault := { id := ⟨1⟩, accelerator := ⟨7⟩ }

def faultFrame : Frame := frameOf .faultReport (faultBody {} reportedFault)

theorem read_faultFrame : ∃ r,
    readFaultBody.run { data := faultFrame.payload } = .ok (({}, reportedFault), r) :=
  run_frameOf (reads_faultBody {} reportedFault) (by decide +kernel) (by decide +kernel)

theorem redelivery_not_harmless_after_introduction :
    ¬(introduced.step (.receive 3 faultFrame, fun _ => ⟨1⟩, fun _ => ⟨1⟩)).Harmless 3 faultFrame
      (fun _ => ⟨1⟩) fun _ => ⟨1⟩ := by
  obtain ⟨r, hread⟩ := read_faultFrame
  have htracked : introduced.store.devices.contains ⟨7⟩ = true := by decide +kernel
  obtain ⟨d, hd⟩ := Option.isSome_iff_exists.mp htracked
  have hconnected : (introduced.connections.find? 3).isSome = true := by decide +kernel
  obtain ⟨connection, hfd⟩ := Option.isSome_iff_exists.mp hconnected
  have hopen : ((introduced.step (.receive 3 faultFrame, fun _ => ⟨1⟩,
      fun _ => ⟨1⟩)).connections.find? 3).isSome = true := by decide +kernel
  obtain ⟨connection', hfd'⟩ := Option.isSome_iff_exists.mp hopen
  exact redelivery_never_harmless rfl hread hfd hd hfd'

/-- The second copy ends the connection and withdraws the worker behind it. -/
theorem redelivery_withdraws_worker : introduced.Reachable ∧
    (introduced.step (.receive 3 faultFrame, fun _ => ⟨1⟩, fun _ => ⟨1⟩)).store.isWorkerCurrent
      ⟨1⟩ ⟨1⟩ ∧
    ¬(introduced.step (.receive 3 faultFrame, fun _ => ⟨1⟩, fun _ => ⟨1⟩)).Harmless 3 faultFrame
      (fun _ => ⟨1⟩) fun _ => ⟨1⟩ := by
  have hcurrent : (introduced.step (.receive 3 faultFrame, fun _ => ⟨1⟩,
      fun _ => ⟨1⟩)).store.isWorkerCurrent ⟨1⟩ ⟨1⟩ = true := by decide +kernel
  refine ⟨⟨_, _, _, _, rfl⟩, hcurrent, ?_⟩
  rintro ⟨hstore, -⟩
  rw [← hstore] at hcurrent
  revert hcurrent
  decide +kernel

end Coordinator
end AcceleratorHealth
