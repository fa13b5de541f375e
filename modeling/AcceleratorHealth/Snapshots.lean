import AcceleratorHealth.Redelivery
import AcceleratorHealth.Malformed
import AcceleratorHealth.RoundTrip
import AcceleratorHealth.Sizes

/-! Snapshot requests. The answer is the whole state in one frame; a state that has outgrown
the frame bound throws, and the connection that asked is ended. -/
namespace AcceleratorHealth
open Codec Wire

namespace Persistence

theorem length_sealImage (body : Bytes) : (sealImage body).length = body.length + 16 := by
  rw [sealImage, List.length_append, Util.storeLe_length, frameImage_length]
  omega

/-- The image is encoded when all texts fit, and its length is known beforehand. -/
theorem encodeStateInternal_cases (s : HealthStore) :
    ((∀ d ∈ s.devices.values, d.TextsFit) ∧
      ∃ data, encodeStateInternal s = .ok data ∧ data.length = s.imageSize + 16) ∨
    (¬(∀ d ∈ s.devices.values, d.TextsFit) ∧ ∃ e, encodeStateInternal s = .error e) := by
  have hsized := sized_encodeBody s
  unfold encodeStateInternal
  cases hbody : encodeBody s with
  | error e =>
    refine Or.inr ⟨fun htexts => ?_, e, rfl⟩
    obtain ⟨body, hok⟩ := hsized.ok_iff.mpr htexts
    rw [hbody] at hok
    cases hok
  | ok body =>
    refine Or.inl ⟨hsized.ok_iff.mp ⟨body, hbody⟩, sealImage body, rfl, ?_⟩
    rw [length_sealImage, hsized.length_eq hbody]

end Persistence

/-- The image fits in one frame: a bound on the texts, and one on all of the state. -/
def HealthStore.FitsFrame (s : HealthStore) : Prop :=
  (∀ d ∈ s.devices.values, d.TextsFit) ∧ s.imageSize + 16 ≤ kMaxFramePayload

namespace Session
open Persistence

theorem handleSnapshotRequest_of_fits {s : Session} (h : s.store.FitsFrame) :
    ∃ data, encodeStateInternal s.store = .ok data ∧
      s.handleSnapshotRequest = .ok [{ type := .snapshotResponse, payload := data }] s := by
  rcases encodeStateInternal_cases s.store with ⟨-, data, hdata, hlength⟩ | ⟨hnot, -⟩
  · refine ⟨data, hdata, ?_⟩
    unfold handleSnapshotRequest reply sendFrame
    rw [hdata]
    simp only
    rw [if_neg (by rw [hlength]; exact Nat.not_lt.mpr h.2)]
  · exact absurd h.1 hnot

theorem handleSnapshotRequest_throws {s : Session} (h : ¬s.store.FitsFrame) :
    ∃ e, s.handleSnapshotRequest = .throw e s := by
  unfold handleSnapshotRequest reply sendFrame
  rcases encodeStateInternal_cases s.store with ⟨htexts, data, hdata, hlength⟩ | ⟨-, e, he⟩
  · rw [hdata]
    simp only
    rw [if_pos (by rw [hlength]; exact Nat.lt_of_not_le fun hle => h ⟨htexts, hle⟩)]
    exact ⟨_, rfl⟩
  · rw [he]
    exact ⟨e, rfl⟩

end Session

namespace Coordinator
open Persistence

/-- One frame goes out, and it holds the image; the coordinator is as before, with the
connection that asked still open. -/
def Answered (fd : Nat) (frame : Frame) (clk clk' : Readings) (c : Coordinator) : Prop :=
  ∃ connection data, c.connections.find? fd = some connection ∧
    encodeStateInternal c.store = .ok data ∧
    (Session.handleFrame clk frame { store := c.store, connection }).result =
      .ok [{ type := .snapshotResponse, payload := data }] ∧
    c.step (.receive fd frame, clk, clk') = c

section Request
variable {c : Coordinator} {fd : Nat} {connection : Connection} {frame : Frame}
  {clk clk' : Readings}

theorem handleFrame_snapshotRequest (htype : frame.type = .snapshotRequest) (s : Session) :
    s.handleFrame clk frame = s.handleSnapshotRequest := by
  unfold Session.handleFrame
  rw [htype]

theorem step_snapshotRequest_of_fits (htype : frame.type = .snapshotRequest)
    (hfd : c.connections.find? fd = some connection) (h : c.store.FitsFrame) :
    c.step (.receive fd frame, clk, clk') = c := by
  obtain ⟨data, -, hhandled⟩ :=
    Session.handleSnapshotRequest_of_fits (s := { store := c.store, connection }) h
  unfold step
  simp only [hfd, handleFrame_snapshotRequest htype, hhandled]
  change ({ store := c.store, connections := c.connections.insert fd connection } :
    Coordinator) = c
  rw [OrdMap.insert_eq_self hfd]

/-- A state that does not fit costs the connection. -/
theorem step_snapshotRequest_throws (htype : frame.type = .snapshotRequest)
    (hfd : c.connections.find? fd = some connection) (h : ¬c.store.FitsFrame) :
    c.step (.receive fd frame, clk, clk') = c.hangUp clk' fd { store := c.store, connection } := by
  obtain ⟨e, hhandled⟩ :=
    Session.handleSnapshotRequest_throws (s := { store := c.store, connection }) h
  unfold step
  simp only [hfd, handleFrame_snapshotRequest htype, hhandled]
  rfl

theorem answered_of_fits (htype : frame.type = .snapshotRequest)
    (hfd : c.connections.find? fd = some connection) (h : c.store.FitsFrame) :
    c.Answered fd frame clk clk' := by
  obtain ⟨data, hdata, hhandled⟩ :=
    Session.handleSnapshotRequest_of_fits (s := { store := c.store, connection }) h
  refine ⟨connection, data, hfd, hdata, ?_, step_snapshotRequest_of_fits htype hfd h⟩
  rw [handleFrame_snapshotRequest htype, hhandled]
  rfl

theorem not_answered (htype : frame.type = .snapshotRequest)
    (hfd : c.connections.find? fd = some connection) (h : ¬c.store.FitsFrame) :
    ¬c.Answered fd frame clk clk' := by
  rintro ⟨-, -, -, -, -, hstep⟩
  have hclosed := find?_hangUp clk' fd { store := c.store, connection } c
  have hthrows : c.step (.receive fd frame, clk, clk') =
      c.hangUp clk' fd { store := c.store, connection } :=
    step_snapshotRequest_throws htype hfd h
  rw [← hthrows, hstep, hfd] at hclosed
  cases hclosed

/-- A snapshot request on an open connection is answered exactly when the state fits in
one frame. -/
theorem snapshot_answered_iff (htype : frame.type = .snapshotRequest)
    (hfd : c.connections.find? fd = some connection) :
    c.Answered fd frame clk clk' ↔ c.store.FitsFrame := by
  constructor
  · intro hanswered
    by_contra h
    exact not_answered htype hfd h hanswered
  · exact answered_of_fits htype hfd

end Request

/-- The coordinator with one connection and a device that has been observed, validated and
reported faulty. -/
def connectedWithHistory : Coordinator :=
  { connected with
    store := HealthStore.after {} 0 (HealthStore.bringUp ++ [HealthStore.recoverableFault ⟨1⟩]) }

theorem snapshot_answered_with_history : connectedWithHistory.Answered 3
    { type := .snapshotRequest } (fun _ => ⟨1⟩) fun _ => ⟨1⟩ := by
  have hfits : connectedWithHistory.store.FitsFrame := ⟨by decide +kernel, by decide +kernel⟩
  have hfd : connectedWithHistory.connections.find? 3 = some {} := rfl
  exact (snapshot_answered_iff rfl hfd).mpr hfits

/-! ### A history that has outgrown the frame -/

/-- What a report of a new fault leaves on a connection without a worker: the fault is in
the history, and the other connections are as they were. -/
theorem receive_newFault {c : Coordinator} {fd : Nat} {connection : Connection}
    {frame : Frame} {env : AuthorityEnvelope} {f : Fault} {r : Reader} {d : Device}
    (clk clk' : Readings) (htype : frame.type = .faultReport)
    (hread : readFaultBody.run { data := frame.payload } = .ok ((env, f), r))
    (hfd : c.connections.find? fd = some connection) (hworker : connection.haveWorker = false)
    (hd : c.store.devices.find? f.accelerator = some d) (hnew : f.id ∉ d.faults.ids) :
    (∃ d', (c.step (.receive fd frame, clk, clk')).store.devices.find? f.accelerator = some d' ∧
      d'.faults.faults = d.faults.faults ++ [f]) ∧
    ∀ fd', fd' ≠ fd → (c.step (.receive fd frame, clk, clk')).connections.find? fd' =
      c.connections.find? fd' := by
  have hstate := Session.state_handleFrame clk htype hread { store := c.store, connection }
  have hfind := HealthStore.find?_recordFault clk hd
  have hfaults := HealthStore.faults_recordFault clk (l := ⟨c.store, d⟩) hnew
  unfold step
  simp only [hfd]
  split
  · refine ⟨⟨_, ?_, hfaults⟩, fun fd' hne => ?_⟩
    · rw [hstate]
      exact hfind
    · exact OrdMap.find?_insert_of_ne _ _ hne
  · have hleft :
        (Session.handleFrame clk frame { store := c.store, connection }).state.hangUp clk' =
        .ok () (c.store.recordFault clk f).state := by
      rw [hstate, Session.hangUp]
      simp [hworker]
    have hgone : c.hangUp clk' fd
        (Session.handleFrame clk frame { store := c.store, connection }).state =
          { store := (c.store.recordFault clk f).state
            connections := c.connections.erase fd } := by
      unfold hangUp
      simp only [hleft]
      rfl
    rw [hgone]
    refine ⟨⟨_, hfind, hfaults⟩, fun fd' hne => ?_⟩
    rw [OrdMap.find?_erase, if_neg hne]

/-- A text of 600000 bytes. -/
@[irreducible] def longText : Str := List.replicate 600000 0

theorem length_longText : longText.length = 600000 := by
  unfold longText
  exact List.length_replicate ..

/-- A fault of device 7 with this text for its evidence. -/
def longFault (id : FaultId) : Fault := { id, accelerator := ⟨7⟩, evidence := longText }

def longReport (id : FaultId) : Frame := frameOf .faultReport (faultBody {} (longFault id))

theorem sized_envelope (env : AuthorityEnvelope) : Sized env.write True 56 :=
  Sized.congr (.next (sized_u64 _) <| .next (sized_u64 _) <| .next (sized_u64 _) <|
    .next (sized_u64 _) <| .next (sized_u64 _) <| .next (sized_u64 _) <|
    .next (sized_u64 _) .nil) .rfl rfl

theorem sized_faultBody (env : AuthorityEnvelope) (f : Fault) :
    Sized (faultBody env f) f.TextsFit (56 + f.imageSize) :=
  Sized.congr (.next (sized_envelope env) <| .cons (sized_fault f) .nil) (by rw [and_true]) rfl

theorem imageSize_longFault (id : FaultId) : (longFault id).imageSize = 600071 := by
  simp only [Fault.imageSize, longFault, length_longText, List.length_nil]

theorem read_longReport (id : FaultId) : (longReport id).payload.length ≤ kMaxFramePayload ∧
    ∃ r, readFaultBody.run { data := (longReport id).payload } = .ok (({}, longFault id), r) := by
  have hsized := sized_faultBody {} (longFault id)
  have htexts : (longFault id).TextsFit := by
    unfold Fault.TextsFit TextFits Util.kMaxString longFault
    simp only [length_longText, List.length_nil]
    omega
  obtain ⟨body, hbody⟩ := hsized.ok_iff.mpr htexts
  have hlength : body.length = 600127 := by
    rw [hsized.length_eq hbody, imageSize_longFault]
  have hpayload : (longReport id).payload.length = 600127 := by
    change ((faultBody {} (longFault id)).toOption.getD []).length = _
    rw [hbody]
    exact hlength
  refine ⟨?_, run_frameOf (reads_faultBody {} (longFault id)) ?_ ?_⟩
  · rw [hpayload]
    unfold kMaxFramePayload
    omega
  · rw [hbody]
    rfl
  · rw [hbody]
    change body.length < 2 ^ 32
    omega

/-- Two reports of long faults, on connections without a worker, and the state does not fit
in one frame any more. -/
theorem longFaults_outgrow {c c₁ c₂ : Coordinator} {k₄ k₅ k₆ : Connection} {d : Device}
    {frame₁ frame₂ : Frame} {r₁ r₂ : Reader} {clk : Readings}
    (h₄ : c.connections.find? 4 = some k₄) (hworker₄ : k₄.haveWorker = false)
    (h₅ : c.connections.find? 5 = some k₅) (hworker₅ : k₅.haveWorker = false)
    (h₆ : c.connections.find? 6 = some k₆)
    (hd : c.store.devices.find? ⟨7⟩ = some d) (hnone : d.faults.faults = [])
    (htype₁ : frame₁.type = .faultReport)
    (hread₁ : readFaultBody.run { data := frame₁.payload } = .ok (({}, longFault ⟨1⟩), r₁))
    (htype₂ : frame₂.type = .faultReport)
    (hread₂ : readFaultBody.run { data := frame₂.payload } = .ok (({}, longFault ⟨2⟩), r₂))
    (hc₁ : c.step (.receive 4 frame₁, clk, clk) = c₁)
    (hc₂ : c₁.step (.receive 5 frame₂, clk, clk) = c₂) :
    c₂.connections.find? 6 = some k₆ ∧ ¬c₂.store.FitsFrame := by
  obtain ⟨⟨d₁, hd₁, hfaults₁⟩, hothers₁⟩ := receive_newFault clk clk
    htype₁ hread₁ h₄ hworker₄ hd (by simp [FaultHistory.ids, hnone])
  rw [hc₁] at hd₁ hothers₁
  obtain ⟨⟨d₂, hd₂, hfaults₂⟩, hothers₂⟩ := receive_newFault clk clk
    htype₂ hread₂ ((hothers₁ 5 (by decide)).trans h₅) hworker₅ hd₁
    (by simp [FaultHistory.ids, hfaults₁, hnone, longFault])
  rw [hc₂] at hd₂ hothers₂
  refine ⟨((hothers₂ 6 (by decide)).trans (hothers₁ 6 (by decide))).trans h₆, ?_⟩
  rintro ⟨-, hbound⟩
  have hdevice : d₂.imageSize ≤ (c₂.store.devices.values.map Device.imageSize).sum :=
    List.le_sum_of_mem (List.mem_map_of_mem (OrdMap.mem_values_iff.mpr ⟨_, hd₂⟩))
  have hsize : 1200000 ≤ d₂.imageSize := by
    simp only [Device.imageSize, hfaults₂, hfaults₁, hnone, List.nil_append, List.cons_append,
      List.map_cons, List.map_nil, List.sum_cons, List.sum_nil, imageSize_longFault]
    omega
  unfold HealthStore.imageSize kMaxFramePayload at hbound
  omega

/-- Three open connections, and device 7 without faults. -/
def listening : List (Event × Readings × Readings) :=
  [.accept 3,
    .receive 3 (frameOf .register (regBody { worker := ⟨1⟩, boot := ⟨1⟩ } [{ uuid := ⟨7⟩ }])),
    .accept 4, .accept 5, .accept 6].map fun e => (e, fun _ => ⟨1⟩, fun _ => ⟨1⟩)

/-- Two reports, each within the frame bound, and a request that is not answered. -/
theorem snapshot_unanswered_after_long_reports : ∃ frame₁ frame₂ : Frame,
    frame₁.payload.length ≤ kMaxFramePayload ∧ frame₂.payload.length ≤ kMaxFramePayload ∧
      ∃ c : Coordinator, c = Machine.run step (start (fun _ => ⟨1⟩) 1 none) (listening ++
        [(.receive 4 frame₁, fun _ => ⟨1⟩, fun _ => ⟨1⟩),
          (.receive 5 frame₂, fun _ => ⟨1⟩, fun _ => ⟨1⟩)]) ∧
        (∃ connection, c.connections.find? 6 = some connection) ∧
          ¬c.Answered 6 { type := .snapshotRequest } (fun _ => ⟨1⟩) fun _ => ⟨1⟩ := by
  obtain ⟨hlength₁, r₁, hread₁⟩ := read_longReport ⟨1⟩
  obtain ⟨hlength₂, r₂, hread₂⟩ := read_longReport ⟨2⟩
  have htype : ∀ id, (longReport id).type = .faultReport := fun _ => rfl
  refine ⟨longReport ⟨1⟩, longReport ⟨2⟩, hlength₁, hlength₂, ?_⟩
  have htype₁ := htype ⟨1⟩
  have htype₂ := htype ⟨2⟩
  generalize longReport ⟨1⟩ = frame₁ at hread₁ htype₁ ⊢
  generalize longReport ⟨2⟩ = frame₂ at hread₂ htype₂ ⊢
  refine ⟨_, rfl, ?_⟩
  rw [Machine.run_append, Machine.run_cons, Machine.run_cons, Machine.run_nil]
  generalize hlistening : Machine.run step (start (fun _ => ⟨1⟩) 1 none) listening = c
  have htracked : (c.store.devices.find? ⟨7⟩).map (fun d => d.faults.faults) = some [] := by
    rw [← hlistening]
    decide +kernel
  have hopen : [4, 5, 6].map (fun fd => (c.connections.find? fd).map Connection.haveWorker) =
      [some false, some false, some false] := by
    rw [← hlistening]
    decide +kernel
  simp only [List.map_cons, List.map_nil, List.cons.injEq, Option.map_eq_some_iff] at hopen
  obtain ⟨⟨k₄, h₄, hworker₄⟩, ⟨k₅, h₅, hworker₅⟩, ⟨k₆, h₆, -⟩, -⟩ := hopen
  obtain ⟨d, hd, hnone⟩ := Option.map_eq_some_iff.mp htracked
  obtain ⟨h₆', hlong⟩ := longFaults_outgrow h₄ hworker₄ h₅ hworker₅ h₆ hd hnone htype₁ hread₁
    htype₂ hread₂ rfl rfl
  exact ⟨⟨k₆, h₆'⟩, not_answered rfl h₆' hlong⟩

end Coordinator
end AcceleratorHealth
