import AcceleratorHealth.Worker
import AcceleratorHealth.Reloading
import AcceleratorHealth.Identity

/-! What a worker prints when it is asked for the state of its device. The answer to its
snapshot request is an image, which it decodes into a store of its own; what it reads there
is what the coordinator's store had at one moment after the worker's registration. -/
namespace AcceleratorHealth
open Codec Wire Persistence

/-! ### The program -/

/-- A line of a query. -/
structure Worker.Line where
  state : HealthState
  readiness : ReadinessState
  digest : Str
  tracked : Nat

def HealthStore.allSnapshots (s : HealthStore) : List DeviceSnapshot :=
  s.devices.values.map Device.makeSnapshotLocked

namespace Worker

/-- One line for each device of the worker's uuid. -/
def lines (w : Worker) (s : HealthStore) : List Line :=
  (s.allSnapshots.filter fun snap => snap.uuid = ⟨w.uuidRaw⟩).map fun snap =>
    { state := snap.state, readiness := snap.readiness, digest := snap.latestAssessment.digest
      tracked := s.deviceIds.length }

/-- What is done with the answer to a query, of whatever type; an answer that cannot be
decoded is an error. -/
def query (w : Worker) (answer : Frame) : Option (List Line) :=
  let left := decodeStateInternal answer.payload (HealthStore.init {} 1)
  match left.result with
  | .error _ => none
  | .ok () => some (w.lines left.state)

end Worker

namespace Worker
variable {w : Worker} {s s' : HealthStore} {answer : Frame}

/-- No line shows the restart flag. -/
theorem lines_of_devices
    (h : s'.devices = s.devices.mapValues fun _ d => { d with requiresRevalidation := false }) :
    w.lines s' = w.lines s := by
  have hsnapshots : s'.allSnapshots = s.allSnapshots := by
    simp only [HealthStore.allSnapshots, h, OrdMap.values, OrdMap.mapValues, List.map_map]
    rfl
  have hids : s'.deviceIds = s.deviceIds := by
    simp only [HealthStore.deviceIds, h, OrdMap.keys_mapValues]
  unfold lines
  rw [hsnapshots, hids]

theorem query_of_loadable (hs : s.Sound) (hload : s.Loadable)
    (hdata : encodeStateInternal s = .ok answer.payload) : w.query answer = some (w.lines s) := by
  obtain ⟨hresult, hrestored⟩ := hs.decode_image hload hdata (HealthStore.init {} 1)
  simp only [query, hresult, lines_of_devices hrestored.devices]

theorem query_of_not_loadable (hs : s.Sound) (hload : ¬s.Loadable)
    (hdata : encodeStateInternal s = .ok answer.payload) : w.query answer = none := by
  have hresult := hs.decode_refused hload hdata (HealthStore.init {} 1)
  unfold query
  simp only
  split
  · rfl
  next hok => exact absurd hok hresult

end Worker

/-! ### Tracked from the registration on -/

namespace HealthStore
variable {s : HealthStore} {calls : List Call} {k : AcceleratorId} {uuid : DeviceUuid}

/-- Ids that are uuids, each uuid known being that of a device. -/
structure Distinct (s : HealthStore) : Prop where
  named : s.Named
  oneToOne : s.OneToOne

/-- An id that is a uuid is free for it. -/
theorem Distinct.free (hs : s.Distinct) (hnull : uuid.get ≠ 0) : s.Free uuid :=
  free_iff.mpr fun hnone => find?_deviceIdFor hs.named hnone hnull

theorem Distinct.step {c : Call} (hs : s.Distinct) (hc : c.op.plain) : (s.step c).Distinct := by
  refine ⟨step_named hs.named hc, step_oneToOne hs.oneToOne ?_⟩
  obtain ⟨hload, -⟩ := id hc
  unfold KeepsIdentities
  split
  next uuid node hop => exact hs.free (registersNull_eq_false hc.2 hop)
  next data hop => simp [hop, Op.loads] at hload
  next data hop => simp [hop, Op.loads] at hload
  · trivial

theorem Distinct.run (hs : s.Distinct) (hplain : ∀ c ∈ calls, c.op.plain) :
    (Machine.run HealthStore.step s calls).Distinct :=
  Machine.run_invariant (C := fun _ c => c.op.plain) (fun _ _ => Distinct.step) hs
    (Machine.along_of_forall fun c hc _ => hplain c hc)

/-- A registration has its device tracked. -/
theorem Distinct.tracks {c : Call} {node : NodeId} (hs : s.Distinct) (hc : c.op.plain)
    (hop : c.op = .registerDevice uuid node) : ∃ k, (s.step c).Tracks k uuid := by
  have hfree := hs.free (registersNull_eq_false hc.2 hop)
  have hundisturbed : s.Undisturbed (c.clk 0) uuid node :=
    (registerDevice_undisturbed_iff hs.oneToOne).mpr hfree
  obtain ⟨d, hd, huuid⟩ := hundisturbed.returned
  refine ⟨(s.registerDevice (c.clk 0) uuid node).1, d, ?_, huuid⟩
  simp only [HealthStore.step, exec, hop]
  exact hd

theorem Tracks.run (h : s.Tracks k uuid) (hs : s.Distinct) (hplain : ∀ c ∈ calls, c.op.plain) :
    (Machine.run HealthStore.step s calls).Tracks k uuid := by
  induction calls generalizing s with
  | nil => exact h
  | cons c rest ih =>
    rw [List.forall_mem_cons] at hplain
    obtain ⟨d, hd, rfl⟩ := h
    refine ih ?_ (hs.step hplain.1) hplain.2
    obtain ⟨d', hd', rfl | ⟨l, l', rfl, htouch, rfl⟩⟩ := step_old hs.named hplain.1 hd
    · exact ⟨d', hd', rfl⟩
    · exact ⟨l'.d, hd', htouch.continues.uuid⟩

/-- What is asked for by name is found once. -/
theorem filter_eq_singleton {α β : Type} [DecidableEq β] {f : α → β} {l : List α} {a : α}
    (hdistinct : (l.map f).Nodup) (ha : a ∈ l) : (l.filter fun x => f x = f a) = [a] := by
  induction l with
  | nil => cases ha
  | cons x rest ih =>
    rw [List.map_cons, List.nodup_cons] at hdistinct
    obtain ⟨hnew, hrest⟩ := hdistinct
    rcases List.mem_cons.mp ha with rfl | htail
    · have hnone : (rest.filter fun x => f x = f a) = [] := by
        rw [List.filter_eq_nil_iff]
        intro y hy heq
        exact hnew (List.mem_map.mpr ⟨y, hy, by simpa using heq⟩)
      simp [hnone]
    · have hne : f x ≠ f a := fun heq => hnew (heq ▸ List.mem_map_of_mem htail)
      rw [List.filter_cons_of_neg (by simpa using hne)]
      exact ih hrest htail

end HealthStore

theorem Worker.lines_of_tracks {w : Worker} {s : HealthStore} {k : AcceleratorId}
    (hs : s.Sound) (h : s.Tracks k ⟨w.uuidRaw⟩) : ∃ d, s.devices.find? k = some d ∧
      w.lines s = [⟨d.state, d.readiness, d.latestAssessment.digest, s.deviceIds.length⟩] := by
  obtain ⟨d, hd, huuid⟩ := h
  have hone := HealthStore.filter_eq_singleton hs.uuids (OrdMap.mem_values_iff.mpr ⟨k, hd⟩)
  rw [huuid] at hone
  refine ⟨d, hd, ?_⟩
  unfold Worker.lines HealthStore.allSnapshots
  rw [List.filter_map]
  have hsame : ((fun snap : DeviceSnapshot => decide (snap.uuid = ⟨w.uuidRaw⟩)) ∘
      Device.makeSnapshotLocked) = fun d : Device => decide (d.uuid = ⟨w.uuidRaw⟩) := rfl
  rw [hsame, hone]
  rfl

/-! ### Answers to queries -/

/-- The answer to a query of the `i`-th client shows the store as the first `n` calls have left
it: the worker's registration is among them, what it prints is read off that store, and that is
one line, on its own device, where uuids have been taken for ids throughout. -/
structure Worker.Shown (start : HealthStore) (log : List (Nat × Entry)) (i : Nat) (w : Worker)
    (answer : Frame) (n : Nat) : Prop where
  within : n ≤ log.length
  registered : ∃ e, (i, e) ∈ log.take n ∧ e.call.op = .registerDevice ⟨w.uuidRaw⟩ ⟨w.nodeRaw⟩
  image : encodeStateInternal (storeAfter start (log.take n)) = .ok answer.payload
  printed : start.Reachable → (storeAfter start (log.take n)).Loadable →
    w.query answer = some (w.lines (storeAfter start (log.take n)))
  refused : start.Reachable → ¬(storeAfter start (log.take n)).Loadable → w.query answer = none
  own : start.Reachable → start.Distinct → (∀ p ∈ log, p.2.call.op.registersNull = false) →
    ∃ k d, (storeAfter start (log.take n)).devices.find? k = some d ∧ d.uuid = ⟨w.uuidRaw⟩ ∧
      w.lines (storeAfter start (log.take n)) = [⟨d.state, d.readiness, d.latestAssessment.digest,
        (storeAfter start (log.take n)).deviceIds.length⟩]

/-- A query has its answer from the second exchange of its connection. It shows the store as
it then was if no other thread was in a call while it was encoded. -/
def System.Queried (start : HealthStore) (s : System) : Prop :=
  ∀ i w c answer, s.Runs i w c → w.mode = .query → c.results[1]? = some (some answer) →
    ∃ (socket : Socket) (x : Exchange), s.net.sockets[i]? = some socket ∧
      socket.thread.exchanges[1]? = some x ∧ x.reply = [answer] ∧
      (x.torn = none → w.Shown start s.net.log i answer x.seen)

theorem HealthStore.Reachable.storeAfter {start : HealthStore} (h : start.Reachable)
    (log : List (Nat × Entry)) : (AcceleratorHealth.storeAfter start log).Reachable := by
  obtain ⟨policy, epoch, calls, rfl⟩ := h
  exact ⟨policy, epoch, calls ++ log.map fun p => p.2.call, (Machine.run_append ..).symm⟩

/-- A device registered by one of the calls is tracked after all of them. -/
theorem tracks_of_registered {start : HealthStore} {log : List (Nat × Entry)} {i : Nat} {e : Entry}
    {uuid : DeviceUuid} {node : NodeId} (hdistinct : start.Distinct)
    (hplain : ∀ p ∈ log, p.2.call.op.plain) (hmem : (i, e) ∈ log)
    (hop : e.call.op = .registerDevice uuid node) : ∃ k, (storeAfter start log).Tracks k uuid := by
  obtain ⟨before, after, rfl⟩ := List.append_of_mem hmem
  rw [List.forall_mem_append, List.forall_mem_cons] at hplain
  obtain ⟨hbefore, hcall, hafter⟩ := hplain
  have hdistinct' : (storeAfter start before).Distinct :=
    hdistinct.run (List.forall_mem_map.mpr hbefore)
  obtain ⟨k, hk⟩ := hdistinct'.tracks hcall hop
  refine ⟨k, ?_⟩
  rw [storeAfter_append]
  exact hk.run (hdistinct'.step hcall) (List.forall_mem_map.mpr hafter)

/-- The calls of a worker's registration begin with that of its device. -/
theorem Exchange.Faithful.registers {start : HealthStore} {log : List (Nat × Entry)} {i : Nat}
    {before : List Exchange} {y : Exchange} {w : Worker} (h : y.Faithful start log i before)
    (hframe : y.frame = w.registration) :
    ∃ e ∈ y.entries, e.call.op = .registerDevice ⟨w.uuidRaw⟩ ⟨w.nodeRaw⟩ := by
  have hcalls := h.calls
  rw [hframe, (Frame.Says.register _ _ w.registration_sent).request.1] at hcalls
  have hmem : Op.registerDevice ⟨w.uuidRaw⟩ ⟨w.nodeRaw⟩ ∈ y.entries.map fun e => e.call.op := by
    rw [hcalls]
    simp [Worker.dev, Worker.hello]
  exact List.mem_map.mp hmem

theorem image_of_reply {text : String} {image : Except Exn Bytes} {f : Frame}
    (h : Answer.image.reply text image = .ok [f]) : image = .ok f.payload := by
  unfold Answer.reply at h
  cases hsent : sendFrame .snapshotResponse image with
  | error e =>
    rw [hsent] at h
    cases h
  | ok f' =>
    rw [hsent] at h
    cases h
    exact (sendFrame_eq_ok hsent).2.1

end AcceleratorHealth
