import AcceleratorHealth.Coordinator
import AcceleratorHealth.Loops

/-! Malformed introductions. The register handler acts on what it has read so far and
reads on without looking at the failure flag: only a frame that is too short for its hello,
or repeats one and stops there, has no effect. -/
namespace AcceleratorHealth
open Codec Wire

/-! ### What can be read of a REGISTER body -/

theorem read_deviceIdentity_total (r : Reader) :
    ∃ d r', DeviceIdentity.read r = .ok (d, r') := ⟨_, _, rfl⟩

theorem many_total {α : Type} {p : Parse α} (h : ∀ r, ∃ x r', p r = .ok (x, r')) (n : Nat)
    (r : Reader) : ∃ xs r', (many p n).run r = .ok (xs, r') := by
  induction n generalizing r with
  | zero => exact ⟨[], r, rfl⟩
  | succ n ih =>
    obtain ⟨x, r₁, hx⟩ := h r
    obtain ⟨xs, r₂, hxs⟩ := ih r₁
    refine ⟨x :: xs, r₂, ?_⟩
    have hxs' : many p n r₁ = .ok (xs, r₂) := hxs
    simp only [many, StateT.run, bind, StateT.bind, Except.bind, hx, hxs']
    rfl

theorem fail_take {n : Nat} {r : Reader} :
    (r.take n).2.fail = false ↔ r.fail = false ∧ n ≤ r.remaining := by
  unfold Reader.take Reader.setFail
  split_ifs with h
  · simp only [false_iff, not_and, not_le]
    exact fun _ => h
  · simp only [iff_self_and]
    exact fun _ => Nat.le_of_not_lt h

theorem remaining_take {n : Nat} {r : Reader} (h : n ≤ r.remaining) :
    (r.take n).2.remaining = r.remaining - n := by
  unfold Reader.take
  rw [if_neg (Nat.not_lt.mpr h)]
  unfold Reader.remaining
  exact Nat.sub_add_eq ..

/-- The reader after the five fields of a hello. -/
def pastHello (r : Reader) : Reader :=
  (((((r.take 1).2.take 8).2.take 8).2.take 8).2.take 8).2

theorem fail_pastHello {r : Reader} :
    (pastHello r).fail = false ↔ r.fail = false ∧ 33 ≤ r.remaining := by
  unfold pastHello
  constructor
  · intro h
    obtain ⟨h₄, hgeneration⟩ := fail_take.mp h
    obtain ⟨h₃, hboot⟩ := fail_take.mp h₄
    obtain ⟨h₂, hworker⟩ := fail_take.mp h₃
    obtain ⟨h₁, hnode⟩ := fail_take.mp h₂
    obtain ⟨h₀, hversion⟩ := fail_take.mp h₁
    rw [remaining_take hboot, remaining_take hworker, remaining_take hnode,
      remaining_take hversion] at hgeneration
    exact ⟨h₀, by omega⟩
  · rintro ⟨h₀, hlen⟩
    have hversion : 1 ≤ r.remaining := by omega
    have h₁ := remaining_take hversion
    have hnode : 8 ≤ (r.take 1).2.remaining := by omega
    have h₂ := remaining_take hnode
    have hworker : 8 ≤ ((r.take 1).2.take 8).2.remaining := by omega
    have h₃ := remaining_take hworker
    have hboot : 8 ≤ (((r.take 1).2.take 8).2.take 8).2.remaining := by omega
    have h₄ := remaining_take hboot
    simp only [fail_take]
    exact ⟨⟨⟨⟨⟨h₀, hversion⟩, hnode⟩, hworker⟩, hboot⟩, by omega⟩

section Bodies
attribute [local irreducible] Reader.take DeviceIdentity.read many

theorem read_hello_eq (r : Reader) : ∃ h : HelloBody, HelloBody.read r =
    Except.bind (guardOk (pastHello r)) fun x => .ok (h, x.2) := ⟨_, rfl⟩

/-- The hello takes 33 bytes, and nothing else can end the read of a body. -/
theorem readRegBody_error_iff (payload : Bytes) :
    (∃ e, readRegBody.run { data := payload } = .error e) ↔ payload.length < 33 := by
  have hfail := fail_pastHello (r := { data := payload })
  obtain ⟨h, hread⟩ := read_hello_eq { data := payload }
  have hbody : readRegBody.run { data := payload } =
      Except.bind (HelloBody.read { data := payload }) fun x =>
        let c := x.2.u32
        if c.2.fail ∨ Util.kMaxCount < c.1 then .ok ((x.1, none), c.2)
        else ((many DeviceIdentity.read c.1.toNat).run c.2).map fun y =>
          ((x.1, some y.1), y.2) := by
    refine congrArg (Except.bind (HelloBody.read { data := payload })) (funext fun x => ?_)
    refine congrArg (ite _ _) ?_
    split <;> rename_i hmany
    all_goals exact (congrArg (Except.map fun y => ((x.1, some y.1), y.2)) hmany).symm
  rw [hbody, hread]
  unfold guardOk
  split_ifs with hf
  · have hlen : payload.length < 33 := by
      by_contra hn
      rw [hfail.mpr ⟨rfl, Nat.le_of_not_lt hn⟩] at hf
      cases hf
    exact iff_of_true ⟨(), rfl⟩ hlen
  · obtain ⟨-, hlen⟩ := hfail.mp (by simpa using hf)
    refine iff_of_false ?_ (Nat.not_lt.mpr hlen)
    rintro ⟨e, he⟩
    simp only [Except.bind] at he
    split_ifs at he
    obtain ⟨devices, r', hmany⟩ := many_total read_deviceIdentity_total
      (pastHello { data := payload }).u32.1.toNat (pastHello { data := payload }).u32.2
    rw [hmany] at he
    cases he

end Bodies

/-- All of the hello, an admissible count and as many identities are there. -/
def CompleteBody (payload : Bytes) : Prop :=
  ∃ hello devices r,
    readRegBody.run { data := payload } = .ok ((hello, some devices), r) ∧ r.fail = false

/-! ### What the handler makes of it -/

namespace Session
open HealthStore Locked

/-- The frame changes nothing in the store and gets no positive acknowledgement. -/
def Disregards (clk : Readings) (frame : Frame) (s : Session) : Prop :=
  (s.handleFrame clk frame).state.store = s.store ∧
    ∀ sent, (s.handleFrame clk frame).result = .ok sent → ∀ f ∈ sent, ¬Acknowledges true f

/-- Registered devices are the tracked ones and new ones. -/
theorem registerDevices_device {clk : Readings} {node : NodeId} {devices : List DeviceIdentity}
    {store : HealthStore} {k : AcceleratorId} {d : Device}
    (h : (registerDevices clk node devices store).devices.find? k = some d) :
    store.devices.find? k = some d ∨ d.healthGeneration = ⟨1⟩ := by
  unfold registerDevices at h
  generalize devices.zipIdx = turns at h
  induction turns generalizing store with
  | nil => exact Or.inl h
  | cons turn rest ih =>
    rcases ih h with hd | hnew
    · rcases registerDevice_device hd with hd | ⟨-, -, rfl⟩
      · exact Or.inl hd
      · exact Or.inr rfl
    · exact Or.inr hnew

/-- A reassessment of all devices that throws has counted a transition of a device that it
found there. -/
theorem reassessAll_throws {clk : Readings} {store : HealthStore} {e : Exn}
    (h : (store.reassessAll clk).result = .error e) :
    ∃ k d d', store.devices.find? k = some d ∧ d.healthGeneration = .last ∧
      (store.reassessAll clk).state.devices.find? k = some d' ∧
        d'.transitionCount ≠ d.transitionCount := by
  have hloop := looped_forDevices
    (fun i l => (advances_reassessLocked (clk.drop (2 * i)) l).continues) store
  obtain ⟨k, i, d, s₁, -, hd, -, herr, hfind⟩ := hloop.stopped e h
  obtain ⟨hlast, hcount⟩ := ne_of_reassessLocked_throws herr
  refine ⟨k, d, _, hd, hlast, hfind, ?_⟩
  rw [hcount]
  exact fun heq => absurd heq (by simp)

/-- A list of devices, however much of it is there, is acted on. -/
theorem not_disregards_of_devices {clk : Readings} {payload : Bytes} {s : Session}
    {hello : HelloBody} {devices : List DeviceIdentity} {r : Reader}
    (hread : readRegBody.run { data := payload } = .ok ((hello, some devices), r)) :
    ¬s.Disregards clk { type := .register, payload } := by
  rintro ⟨hstore, hsent⟩
  have hframe : s.handleFrame clk { type := .register, payload } =
      s.handleRegister clk payload := rfl
  rw [hframe] at hstore hsent
  unfold handleRegister at hstore hsent
  rw [hread] at hstore hsent
  simp only at hstore hsent
  generalize hregistered : registerDevices clk hello.node devices
    (s.store.registerWorker hello.worker hello.boot) = store at hstore hsent
  unfold onStore Exit.andThen Exit.bind at hstore hsent
  simp only [Exit.mapState_result, Exit.mapState_state] at hstore hsent
  cases hres : (store.reassessAll (clk.drop devices.length)).result with
  | error e =>
    simp only [hres] at hstore
    obtain ⟨k, d, d', hd, hlast, hd', hcount⟩ := reassessAll_throws hres
    rw [← hregistered] at hd
    rcases registerDevices_device hd with hfound | hnew
    · rw [hstore] at hd'
      have hfound' : s.store.devices.find? k = some d := hfound
      cases hd'.symm.trans hfound'
      exact hcount rfl
    · rw [hnew] at hlast
      revert hlast
      decide
  | ok u =>
    simp only [hres] at hsent
    obtain ⟨ack, hack, r', hackread⟩ := acknowledge_eq .register true "registered"
      ⟨(store.reassessAll (clk.drop devices.length)).state,
        { worker := hello.worker, boot := hello.boot, haveWorker := true }⟩ (by decide +kernel)
    rw [hack] at hsent
    exact hsent _ rfl _ (List.mem_singleton_self _) ⟨rfl, _, _, r', hackread⟩

/-- A hello without a list introduces its worker all the same. -/
theorem disregards_of_hello_iff {clk : Readings} {payload : Bytes} {s : Session}
    {hello : HelloBody} {r : Reader}
    (hread : readRegBody.run { data := payload } = .ok ((hello, none), r)) :
    s.Disregards clk { type := .register, payload } ↔
      s.store.isWorkerCurrent hello.worker hello.boot := by
  have hframe : s.handleFrame clk { type := .register, payload } =
      .ok [] { store := s.store.registerWorker hello.worker hello.boot
               connection :=
                 { worker := hello.worker, boot := hello.boot, haveWorker := true } } := by
    change s.handleRegister clk payload = _
    unfold handleRegister
    rw [hread]
  unfold Disregards
  rw [hframe]
  unfold isWorkerCurrent registerWorker
  constructor
  · rintro ⟨hstore, -⟩
    have hregistry := congrArg HealthStore.workerBootRegistry hstore
    rw [decide_eq_true_iff, ← hregistry]
    exact OrdMap.find?_insert_self ..
  · intro hcurrent
    refine ⟨?_, ?_⟩
    · simp only [Exit.ok_state, OrdMap.insert_eq_self (of_decide_eq_true hcurrent)]
    · rintro sent hsent f hf
      cases hsent
      cases hf

/-- A REGISTER frame is without effect exactly when it is too short for its hello, or ends
with the hello, or announces too many devices, and its worker is current already. -/
theorem register_disregarded_iff (clk : Readings) (payload : Bytes) (s : Session) :
    s.Disregards clk { type := .register, payload } ↔
      payload.length < 33 ∨ ∃ hello r,
        readRegBody.run { data := payload } = .ok ((hello, none), r) ∧
          s.store.isWorkerCurrent hello.worker hello.boot := by
  rw [← readRegBody_error_iff]
  cases hread : readRegBody.run { data := payload } with
  | error e =>
    refine iff_of_true ?_ (Or.inl ⟨e, rfl⟩)
    have hframe : s.handleFrame clk { type := .register, payload } = .ok [] s := by
      change s.handleRegister clk payload = _
      unfold handleRegister
      rw [hread]
    unfold Disregards
    rw [hframe]
    refine ⟨rfl, ?_⟩
    rintro sent hsent f hf
    cases hsent
    cases hf
  | ok x =>
    obtain ⟨⟨hello, devices⟩, r⟩ := x
    cases devices with
    | none =>
      rw [disregards_of_hello_iff hread]
      simp
    | some devices =>
      exact iff_of_false (not_disregards_of_devices hread) (by simp)

end Session

/-- The introduction of worker 1 with one device, cut before the device. -/
def truncatedRegister : Bytes :=
  ((regBody { worker := ⟨1⟩, boot := ⟨1⟩ } [{ uuid := ⟨7⟩ }]).toOption.getD []).take 37

/-- The coordinator with one connection on which nothing has been said. -/
def Coordinator.connected : Coordinator :=
  Machine.run step (start (fun _ => ⟨1⟩) 1 none) [(.accept 3, fun _ => ⟨1⟩, fun _ => ⟨1⟩)]

/-- The uuids that the handler takes from a body, and whether its reader has failed by then. -/
def uuidsRead (payload : Bytes) : Option (List DeviceUuid × Bool) :=
  match readRegBody.run { data := payload } with
  | .ok ((_, some devices), r) => some (devices.map DeviceIdentity.uuid, r.fail)
  | _ => none

theorem uuidsRead_cases {payload : Bytes} {uuids : List DeviceUuid} {failed : Bool}
    (h : uuidsRead payload = some (uuids, failed)) :
    ∃ hello devices r, readRegBody.run { data := payload } = .ok ((hello, some devices), r) ∧
      r.fail = failed := by
  unfold uuidsRead at h
  split at h
  · next hread =>
    cases h
    exact ⟨_, _, _, hread, rfl⟩
  · cases h

/-- The device that is missing is registered, under the null uuid. -/
theorem truncated_register_takes_effect :
    ¬CompleteBody truncatedRegister ∧ Coordinator.connected.Reachable ∧
      Coordinator.connected.connections.find? 3 = some {} ∧
      ¬Session.Disregards (fun _ => ⟨1⟩) { type := .register, payload := truncatedRegister }
        { store := Coordinator.connected.store, connection := {} } := by
  have hcut : uuidsRead truncatedRegister = some ([⟨0⟩], true) := by decide +kernel
  obtain ⟨hello, devices, r, hread, hfail⟩ := uuidsRead_cases hcut
  refine ⟨?_, ⟨_, _, _, _, rfl⟩, rfl, Session.not_disregards_of_devices hread⟩
  rintro ⟨hello', devices', r', hread', hcomplete⟩
  cases hread.symm.trans hread'
  rw [hfail] at hcomplete
  cases hcomplete

end AcceleratorHealth
