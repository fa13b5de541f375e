import AcceleratorHealth.Reports
import AcceleratorHealth.Requests

/-! The worker, a client that registers its device and then plays one of several parts. Some
of the parts are stale reports, made to be turned away; they are, whatever else happens. -/
namespace AcceleratorHealth
open Codec Wire Util

/-- A dimension without a finding. -/
def HealthDimension.nominal (kind : DimensionKind) (ev : EvidenceClass) (t : Timestamp)
    (sev : Severity) (reason : Str) : HealthDimension :=
  { kind, state := .nominal, evidence := ev, timestamp := t, severity := sev, reason,
    confidence := .one }

inductive Worker.Mode where
  | register
  | query
  | staleObsgen
  | validate
  | revalidate
  | combine
  | live
  | staleEpoch
  | staleBoot
  | staleDevgen
  | other

/-- The arguments of a worker, and the time at which it measures. -/
structure Worker where
  workerRaw : UInt64 := 1
  bootRaw : UInt64 := 1
  nodeRaw : UInt64 := 1
  uuidRaw : UInt64 := 1
  epoch : UInt64 := 1
  obsgen : UInt64 := 1
  devicegen : UInt64 := 1
  mode : Worker.Mode := .register
  now : Timestamp := {}

/-- The frame of a body that can be written. -/
def frameFor (type : MessageType) (body : Writer) : Frame :=
  { type, payload := body.toOption.getD [] }

namespace Worker

def hello (w : Worker) : HelloBody :=
  { node := ⟨w.nodeRaw⟩, worker := ⟨w.workerRaw⟩, boot := ⟨w.bootRaw⟩, generation := ⟨1⟩ }

def dev (w : Worker) : DeviceIdentity :=
  { id := ⟨w.uuidRaw⟩, uuid := ⟨w.uuidRaw⟩, name := str "synthetic-accelerator"
    computeCapabilityMajor := 12, computeCapabilityMinor := 0
    totalMemory := 1 <<< (30 : UInt64), freeMemory := 1 <<< (30 : UInt64), supported := true }

def env (w : Worker) : AuthorityEnvelope :=
  { coordinatorEpoch := match w.mode with
      | .staleEpoch => w.epoch - 1
      | _ => w.epoch
    workerId := ⟨w.workerRaw⟩
    workerBootId := match w.mode with
      | .staleBoot => ⟨w.bootRaw + 1000⟩
      | _ => ⟨w.bootRaw⟩
    observationGeneration := ⟨w.obsgen⟩
    deviceGeneration := match w.mode with
      | .staleDevgen => ⟨0⟩
      | _ => ⟨w.devicegen⟩ }

def makeObs (w : Worker) : AcceleratorObservation :=
  { accelerator := ⟨w.uuidRaw⟩, node := ⟨w.nodeRaw⟩, worker := ⟨w.workerRaw⟩
    workerBootId := ⟨w.bootRaw⟩, observationGeneration := ⟨w.obsgen⟩
    deviceGeneration := ⟨w.devicegen⟩, timestamp := w.now
    dimensions := [.enumeration, .runtimeInit, .transfer, .execution, .memoryIntegrity].map
      fun kind => .nominal kind .measured w.now .info [] }

def validation (w : Worker) : ValidationRecord :=
  { id := ⟨w.bootRaw⟩, accelerator := ⟨w.uuidRaw⟩, timestamp := w.now, profile := .full
    depth := .full, passed := true, maxError := ⟨0⟩, worker := ⟨w.workerRaw⟩
    workerBootId := ⟨w.bootRaw⟩, validationGeneration := ⟨1⟩ }

def registration (w : Worker) : Frame := frameFor .register (regBody w.hello [w.dev])

def report (w : Worker) : Frame := frameFor .observation (obsBody w.env w.makeObs)

def validated (w : Worker) : Frame := frameFor .validationResult (valBody w.env w.validation)

/-- The frames that a worker sends, in its mode. -/
def requests (w : Worker) : List Frame :=
  w.registration :: match w.mode with
    | .register => []
    | .query => [{ type := .snapshotRequest }]
    | .staleObsgen => [w.report, w.report]
    | .validate | .revalidate | .combine | .live => [w.report, w.validated]
    | .staleEpoch | .staleBoot | .staleDevgen | .other => [w.report]

end Worker

/-! ### The program of a worker -/

theorem sendFrame_frameFor {type : MessageType} {body : Writer} {fit : Prop} {n : Nat}
    (hsized : Sized body fit n) (hfit : fit) (hn : n ≤ kMaxFramePayload) :
    sendFrame type body = .ok (frameFor type body) := by
  obtain ⟨payload, hpayload⟩ := hsized.ok_iff.mpr hfit
  have hlength := hsized.length_eq hpayload
  unfold sendFrame frameFor
  rw [hpayload]
  simp only
  rw [if_neg (by omega)]
  rfl

namespace Worker
variable (w : Worker)

theorem registration_sent : sendFrame .register (regBody w.hello [w.dev]) = .ok w.registration := by
  have hname : TextFits w.dev.name := by
    show TextFits (str "synthetic-accelerator")
    decide +kernel
  refine sendFrame_frameFor (.next (sized_hello _) <| .next (sized_u32 _) <|
    .cons (.map sized_deviceIdentity _) .nil) ⟨?_, trivial⟩ ?_
  · simpa using hname
  · show 33 + (4 + (([w.dev].map fun d => 39 + d.name.length).sum + 0)) ≤ kMaxFramePayload
    have hlength : w.dev.name.length = 21 := by
      show (str "synthetic-accelerator").length = 21
      decide +kernel
    simp [hlength, kMaxFramePayload]

theorem report_sent : sendFrame .observation (obsBody w.env w.makeObs) = .ok w.report := by
  refine sendFrame_frameFor (sized_obsBody _ _) ?_ ?_
  · intro d hd
    obtain ⟨kind, -, rfl⟩ := List.mem_map.mp hd
    exact ⟨Nat.zero_le _, Nat.zero_le _⟩
  · simp [AcceleratorObservation.imageSize, makeObs, HealthDimension.nominal,
      HealthDimension.imageSize, kMaxFramePayload]

theorem validated_sent : sendFrame .validationResult (valBody w.env w.validation) =
    .ok w.validated := by
  refine sendFrame_frameFor (sized_valBody _ _) (Nat.zero_le _) ?_
  simp [ValidationRecord.imageSize, validation, kMaxFramePayload]

theorem mem_requests {f : Frame} (hf : f ∈ w.requests) :
    f = w.registration ∨ f = { type := .snapshotRequest } ∨ f = w.report ∨ f = w.validated := by
  unfold requests at hf
  rw [List.mem_cons] at hf
  refine hf.imp_right fun hf => ?_
  cases hmode : w.mode <;> simp only [hmode, List.mem_cons, List.not_mem_nil,
    or_false] at hf <;> tauto

/-- All that a worker sends fits and asks for an answer. -/
theorem requests_sound (f : Frame) (hf : f ∈ w.requests) :
    f.payload.length ≤ kMaxFramePayload ∧ f.request.answer ≠ .silent := by
  rcases w.mem_requests hf with rfl | rfl | rfl | rfl
  · exact ⟨(sendFrame_eq_ok w.registration_sent).2.2,
      (Frame.Says.register _ _ w.registration_sent).request.2⟩
  · exact ⟨Nat.zero_le _, by simp [Frame.request]⟩
  · exact ⟨(sendFrame_eq_ok w.report_sent).2.2,
      (Frame.Says.observation _ _ w.report_sent).request.2⟩
  · exact ⟨(sendFrame_eq_ok w.validated_sent).2.2,
      (Frame.Says.validationResult _ _ w.validated_sent).request.2⟩

/-- The worker as a client. -/
def program : Program where
  requests := w.requests
  fits f hf := (w.requests_sound f hf).1
  answering f hf := (w.requests_sound f hf).2

/-- The report is read as it was written. -/
theorem report_read : w.report.type = .observation ∧
    ∃ r, readObsBody.run { data := w.report.payload } = .ok ((w.env, w.makeObs), r) :=
  read_of_sendFrame (reads_obsBody w.env (by simp only [makeObs, List.length_map]; decide))
    w.report_sent

end Worker

/-- The `i`-th client is this worker. -/
def System.Runs (s : System) (i : Nat) (w : Worker) (c : Client) : Prop :=
  s.clients[i]? = some (some c) ∧ c.program = w.program

/-- What a worker in its mode learns from the `k`-th exchange about its report. -/
theorem System.Runs.told {s : System} {i k : Nat} {w : Worker} {c : Client} {answer : Frame}
    (h : s.Runs i w c) (hrequest : w.requests[k]? = some w.report)
    (hanswer : c.results[k]? = some (some answer)) :
    s.Told i k w.env w.makeObs answer.accepted := by
  obtain ⟨hclient, hprogram⟩ := h
  obtain ⟨htype, r, hread⟩ := w.report_read
  exact ⟨c, w.report, answer, r, hclient, by rw [hprogram]; exact hrequest, htype, hread,
    hanswer, rfl⟩

/-- The stale reports of workers are turned away: of an epoch before the coordinator's, under
a boot id that nobody has introduced, of device generation 0, or a second time. -/
structure System.TurnsAway (start : HealthStore) (s : System) : Prop where
  epoch : ∀ i w c answer, s.Runs i w c → w.mode = .staleEpoch → w.epoch = start.coordinatorEpoch →
    c.results[1]? = some (some answer) → answer.accepted = false
  boot : ∀ i w c answer, s.Runs i w c → w.mode = .staleBoot →
    start.workerBootRegistry.find? ⟨w.workerRaw⟩ ≠ some ⟨w.bootRaw + 1000⟩ →
    ¬s.Introduced ⟨w.workerRaw⟩ ⟨w.bootRaw + 1000⟩ →
    c.results[1]? = some (some answer) → answer.accepted = false
  devgen : ∀ i w c answer, s.Runs i w c → w.mode = .staleDevgen → start.Numbered →
    c.results[1]? = some (some answer) → answer.accepted = false
  obsgen : ∀ i w c first second, s.Runs i w c → w.mode = .staleObsgen →
    c.results[1]? = some (some first) → c.results[2]? = some (some second) →
      first.accepted = false ∨ second.accepted = false

/-- Whatever else is connected, no worker's stale report is taken. -/
theorem stale_workers_turned_away (start : HealthStore) (events : List SystemEvent) :
    (System.after start events).TurnsAway start := by
  have hlinked := System.linked_after start events
  generalize System.after start events = s at hlinked
  have hsecond {w : Worker}
      (hmode : w.mode = .staleEpoch ∨ w.mode = .staleBoot ∨ w.mode = .staleDevgen) :
      w.requests[1]? = some w.report := by
    rcases hmode with h | h | h <;> simp [Worker.requests, h]
  have hcurrent {i : Nat} {w : Worker} {c : Client} {answer : Frame} (hruns : s.Runs i w c)
      (hmode : w.mode = .staleEpoch ∨ w.mode = .staleBoot ∨ w.mode = .staleDevgen)
      (hanswer : c.results[1]? = some (some answer)) (haccepted : answer.accepted = true) :
      s.Current start w.env := by
    have htold := hruns.told (hsecond hmode) hanswer
    rw [haccepted] at htold
    exact hlinked.current htold
  constructor
  · intro i w c answer hruns hmode hepoch hanswer
    by_contra haccepted
    have hsame := (hcurrent hruns (Or.inl hmode) hanswer (by simpa using haccepted)).epoch
    simp only [Worker.env, hmode, ← hepoch] at hsame
    exact absurd hsame (by simp)
  · intro i w c answer hruns hmode hunknown hnobody hanswer
    by_contra haccepted
    have hintroduced :=
      (hcurrent hruns (Or.inr (Or.inl hmode)) hanswer (by simpa using haccepted)).introduced
    simp only [Worker.env, hmode] at hintroduced
    exact hintroduced.elim hunknown hnobody
  · intro i w c answer hruns hmode hnumbered hanswer
    by_contra haccepted
    have hgeneration := (hcurrent hruns (Or.inr (Or.inr hmode)) hanswer
      (by simpa using haccepted)).numbered hnumbered
    simp only [Worker.env, hmode] at hgeneration
    exact absurd hgeneration (by decide)
  · intro i w c first second hruns hmode hfirst hsecond'
    by_contra hboth
    simp only [not_or, Bool.not_eq_false] at hboth
    have htold := hruns.told (k := 1) (by simp [Worker.requests, hmode]) hfirst
    have htold' := hruns.told (k := 2) (by simp [Worker.requests, hmode]) hsecond'
    rw [hboth.1] at htold
    rw [hboth.2] at htold'
    exact Nat.lt_irrefl _ (hlinked.ascending htold htold' (by omega) rfl rfl)

end AcceleratorHealth
