import AcceleratorHealth.BodyLaws
import AcceleratorHealth.Conversations

/-! Requests on the wire. A frame that can be sent at all is understood: the coordinator makes
the calls that its sender has written into it. -/
namespace AcceleratorHealth
open Codec Wire Util

section Bodies
theorem reads_deviceIdentity (d : DeviceIdentity) : Reads d.write DeviceIdentity.read d :=
  .next (reads_id _) <| .next (reads_id _) <| .next (reads_string _) <| .next (reads_u8 _) <|
  .next (reads_u8 _) <| .next (reads_u64 _) <| .next (reads_u64 _) <| .next (reads_flag _) (.pure _)

theorem sized_deviceIdentity (d : DeviceIdentity) :
    Sized d.write (TextFits d.name) (39 + d.name.length) := by
  refine Sized.congr (.next (sized_u64 _) <| .next (sized_u64 _) <| .cons (sized_string d.name) <|
    .next (sized_u8 _) <| .next (sized_u8 _) <| .next (sized_u64 _) <| .next (sized_u64 _) <|
    .next (sized_flag _) .nil) (by rw [and_true]) ?_
  omega

/-- A registration is read back with all of its devices. -/
theorem reads_regBody (hello : HelloBody) {devices : List DeviceIdentity}
    (hcount : devices.length ≤ kMaxCount.toNat) :
    Reads (regBody hello devices) readRegBody (hello, some devices) := by
  have hvalue : (UInt32.ofNat devices.length).toNat = devices.length := by
    apply UInt32.toNat_ofNat_of_lt'
    exact Nat.lt_of_le_of_lt hcount (by decide)
  have hwithin : ¬kMaxCount < UInt32.ofNat devices.length := by
    rw [UInt32.lt_iff_toNat_lt, hvalue]
    omega
  refine .next (reads_hello hello) <| .next (reads_u32 _) ?_
  intro bs hbs hlimit r rest hgood hrest
  refine ⟨fun _ => ?_, fun hc => absurd trivial hc⟩
  obtain ⟨identities, b', hidentities, hb', rfl⟩ := emitAll_cons_ok.mp hbs
  cases hb'
  rw [List.append_nil] at hlimit hrest
  obtain ⟨r', hrun, hgood', hrest'⟩ := ((Law.many fun d _ => reads_deviceIdentity d) identities
    hidentities hlimit r rest hgood hrest).1 trivial
  refine ⟨r', ?_, hgood', hrest'⟩
  have hpass : ¬(r.fail = true ∨ kMaxCount < UInt32.ofNat devices.length) := by
    rw [show r.fail = false from hgood]
    simpa using hwithin
  change (if r.fail = true ∨ kMaxCount < UInt32.ofNat devices.length then _ else _) = _
  rw [if_neg hpass, hvalue, hrun]

/-- A registration that fits a frame has no more devices than the reader counts. -/
theorem count_of_regBody {hello : HelloBody} {devices : List DeviceIdentity} {payload : Bytes}
    (hbody : regBody hello devices = .ok payload) (hfits : payload.length ≤ kMaxFramePayload) :
    devices.length ≤ kMaxCount.toNat := by
  obtain ⟨h, rest, -, hrest, rfl⟩ := emitAll_cons_ok.mp hbody
  obtain ⟨n, rest', -, hrest', rfl⟩ := emitAll_cons_ok.mp hrest
  obtain ⟨identities, more, hidentities, -, rfl⟩ := emitAll_cons_ok.mp hrest'
  have hlength : devices.length ≤ identities.length :=
    length_le_of_emitAll (fun d _ bs hbs =>
      (sized_deviceIdentity d).length_pos (by omega) hbs) hidentities
  have hcount : kMaxCount.toNat = kMaxFramePayload := rfl
  simp only [List.length_append] at hfits
  omega

/-- Nor has an observation more dimensions. -/
theorem count_of_obsBody {env : AuthorityEnvelope} {obs : AcceleratorObservation} {payload : Bytes}
    (hbody : obsBody env obs = .ok payload) (hfits : payload.length ≤ kMaxFramePayload) :
    obs.dimensions.length ≤ kMaxCount.toNat := by
  have hlength := (sized_obsBody env obs).length_eq hbody
  have hdims : obs.dimensions.length ≤ (obs.dimensions.map HealthDimension.imageSize).sum := by
    rw [← List.length_map (f := HealthDimension.imageSize)]
    refine List.length_le_sum_of_one_le _ fun n hn => ?_
    obtain ⟨d, -, rfl⟩ := List.mem_map.mp hn
    unfold HealthDimension.imageSize
    omega
  have hcount : kMaxCount.toNat = kMaxFramePayload := rfl
  unfold AcceleratorObservation.imageSize at hlength
  omega

end Bodies

/-- A frame that is sent carries its body. -/
theorem sendFrame_eq_ok {type : MessageType} {body : Writer} {f : Frame}
    (h : sendFrame type body = .ok f) :
    f.type = type ∧ body = .ok f.payload ∧ f.payload.length ≤ kMaxFramePayload := by
  unfold sendFrame at h
  cases body with
  | error e => cases h
  | ok payload =>
    simp only at h
    split_ifs at h with hsize
    cases h
    exact ⟨rfl, rfl, Nat.le_of_not_lt hsize⟩

section Requests
attribute [local irreducible] readRegBody readObsBody readValBody readFaultBody
variable {f : Frame}

/-- What has been written into the body of a frame is read out of it. -/
theorem read_of_sendFrame {α : Type} {type : MessageType} {body : Writer} {read : Parse α} {x : α}
    (hreads : Reads body read x) (h : sendFrame type body = .ok f) :
    f.type = type ∧ ∃ r, read.run { data := f.payload } = .ok (x, r) := by
  obtain ⟨htype, hbody, hfits⟩ := sendFrame_eq_ok h
  obtain ⟨r, hrun, -⟩ := run_of_reads hreads [] hbody (by unfold kMaxFramePayload at hfits; omega)
    (r := { data := f.payload }) rfl (by rw [List.append_nil]; rfl)
  exact ⟨htype, r, hrun⟩

theorem request_of_regBody {hello : HelloBody} {devices : List DeviceIdentity}
    (h : sendFrame .register (regBody hello devices) = .ok f) : f.request =
      { ops := .registerWorker hello.worker hello.boot ::
          (devices.map (fun d => .registerDevice d.uuid hello.node) ++ [.reassessAll])
        answer := .ack .register "registered" } := by
  obtain ⟨-, hbody, hfits⟩ := sendFrame_eq_ok h
  obtain ⟨htype, r, hrun⟩ := read_of_sendFrame
      (reads_regBody hello (count_of_regBody hbody hfits)) h
  obtain ⟨type, payload⟩ := f
  cases htype
  exact Session.request_register hrun

theorem request_of_obsBody {env : AuthorityEnvelope} {obs : AcceleratorObservation}
    (h : sendFrame .observation (obsBody env obs) = .ok f) :
    f.request = { ops := [.acceptObservation obs env], answer := .verdict } := by
  obtain ⟨-, hbody, hfits⟩ := sendFrame_eq_ok h
  obtain ⟨htype, r, hrun⟩ := read_of_sendFrame (reads_obsBody env (count_of_obsBody hbody hfits)) h
  obtain ⟨type, payload⟩ := f
  cases htype
  exact Session.request_observation hrun

theorem request_of_valBody {env : AuthorityEnvelope} {v : ValidationRecord}
    (h : sendFrame .validationResult (valBody env v) = .ok f) : f.request =
      { ops := [.recordValidation v], answer := .ack .validationResult "recorded" } := by
  obtain ⟨htype, r, hrun⟩ := read_of_sendFrame (reads_valBody env v) h
  obtain ⟨type, payload⟩ := f
  cases htype
  exact Session.request_validationResult hrun

theorem request_of_faultBody {env : AuthorityEnvelope} {fault : Fault}
    (h : sendFrame .faultReport (faultBody env fault) = .ok f) : f.request =
      { ops := [.recordFault fault], answer := .ack .faultReport "recorded" } := by
  obtain ⟨htype, r, hrun⟩ := read_of_sendFrame (reads_faultBody env fault) h
  obtain ⟨type, payload⟩ := f
  cases htype
  exact Session.request_faultReport hrun

end Requests

/-- The frame is one that a client makes of these values, and asks for the calls on them. -/
inductive Frame.Says : Frame → List Op → Prop
  | register {f : Frame} (hello : HelloBody) (devices : List DeviceIdentity)
      (sent : sendFrame .register (regBody hello devices) = .ok f) :
      f.Says (.registerWorker hello.worker hello.boot ::
        (devices.map (fun d => .registerDevice d.uuid hello.node) ++ [.reassessAll]))
  | observation {f : Frame} (env : AuthorityEnvelope) (obs : AcceleratorObservation)
      (sent : sendFrame .observation (obsBody env obs) = .ok f) :
      f.Says [.acceptObservation obs env]
  | validationResult {f : Frame} (env : AuthorityEnvelope) (v : ValidationRecord)
      (sent : sendFrame .validationResult (valBody env v) = .ok f) : f.Says [.recordValidation v]
  | faultReport {f : Frame} (env : AuthorityEnvelope) (fault : Fault)
      (sent : sendFrame .faultReport (faultBody env fault) = .ok f) : f.Says [.recordFault fault]

theorem Frame.Says.request {f : Frame} {ops : List Op} (h : f.Says ops) :
    f.request.ops = ops ∧ f.request.answer ≠ .silent := by
  cases h with
  | register hello devices sent => rw [request_of_regBody sent]; exact ⟨rfl, by simp⟩
  | observation env obs sent => rw [request_of_obsBody sent]; exact ⟨rfl, by simp⟩
  | validationResult env v sent => rw [request_of_valBody sent]; exact ⟨rfl, by simp⟩
  | faultReport env fault sent => rw [request_of_faultBody sent]; exact ⟨rfl, by simp⟩

/-! ### Calls over a connection -/

/-- The bytes of frames ask for what the frames say. -/
theorem askedIn_of_said {frames : List Frame} {opss : List (List Op)} {bytes : Bytes}
    (hsaid : List.Forall₂ Frame.Says frames opss) (hbytes : encodeFrames frames = .ok bytes) :
    askedIn bytes = opss.flatten := by
  unfold askedIn
  rw [assembleFrames_encodeFrames hbytes]
  clear hbytes
  induction hsaid with
  | nil => rfl
  | cons hfirst _ ih => rw [List.flatMap_cons, hfirst.request.1, ih, List.flatten_cons]

theorem askedIn_of_front {front bytes : Bytes} (h : front <+: bytes) :
    askedIn front <+: askedIn bytes := by
  obtain ⟨rest, hrest⟩ := Assembly.Format.messages_of_front (F := frameFormat) h
  unfold askedIn
  exact ⟨rest.flatMap fun frame => frame.request.ops, by rw [← List.flatMap_append, hrest]⟩

namespace Socket
variable {start : HealthStore} {log : List (Nat × Entry)} {i : Nat} {c : Socket}

/-- A thread that has not left its loop has not been torn down. -/
theorem Served.teardown (h : c.Served start log i) (hloop : c.thread.looping) :
    c.thread.teardown = [] := by
  unfold Thread.looping at hloop
  cases hphase : c.thread.phase with
  | reading held => exact (h.reading hphase).2.2
  | working todo text answer => exact (h.working hphase).2.1
  | sending left => exact (h.sending hphase).2.2
  | closing => exact (h.closing hphase).2
  | gone =>
    rw [hphase] at hloop
    exact hloop.elim

end Socket

/-- A connection carries calls: of frames that its peer sends, a front of what they say has
been called, in their order and each once; and once they have come, and the thread is waiting
for more, all of it has. -/
structure Socket.Carries (log : List (Nat × Entry)) (i : Nat) (c : Socket) (bytes : Bytes)
    (opss : List (List Op)) : Prop where
  front : c.inbound.sent <+: bytes → c.thread.teardown = [] →
    (entriesOf i log).map (fun e => e.call.op) <+: opss.flatten
  whole : c.inbound.received = bytes → c.thread.looping → c.thread.todo = [] →
    (entriesOf i log).map (fun e => e.call.op) = opss.flatten

def Network.Remote (n : Network) : Prop :=
  ∀ (i : Nat) (c : Socket), n.sockets[i]? = some c → ∀ frames opss bytes,
    List.Forall₂ Frame.Says frames opss → encodeFrames frames = .ok bytes →
      c.Carries n.log i bytes opss

/-- Calls over the network are the calls that the peer has written down. -/
theorem calls_carried (start : HealthStore) (events : List NetEvent) :
    (Network.after start events).Remote := by
  intro i c hc frames opss bytes hsaid hbytes
  have hserved := (Network.traced_after start events).sockets i c hc
  have hcalls (hnone : c.thread.teardown = []) :
      (entriesOf i (Network.after start events).log).map (fun e => e.call.op) =
        c.thread.served := by
    rw [hserved.entries, Thread.entries_eq, hnone, List.map_nil, List.append_nil]
  constructor
  · intro hsent hnone
    rw [hcalls hnone, ← askedIn_of_said hsaid hbytes]
    exact hserved.served_prefix.trans (askedIn_of_front (c.inbound.received_prefix.trans hsent))
  · intro hreceived hloop hnone
    have hall := hserved.served_todo hloop
    rw [hnone, List.append_nil, hreceived, askedIn_of_said hsaid hbytes] at hall
    rw [hcalls (hserved.teardown hloop), hall]

end AcceleratorHealth
