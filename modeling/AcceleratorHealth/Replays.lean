import AcceleratorHealth.Atomicity
import AcceleratorHealth.Reloading

/-! What a restart forgets. An image has the devices and the epoch, but neither the workers nor
how far their reports have come. Once a worker has introduced itself again, the fence asks
nothing of the generation of an observation: what was taken before is taken a second time. -/
namespace AcceleratorHealth
open Locked Persistence

namespace HealthStore
variable {s out : HealthStore} {data : Bytes} {clk : Readings} {id : AcceleratorId} {d : Device}

/-- Another worker registry and another fence. -/
def withFence (registry : OrdMap WorkerId WorkerBootId)
    (fence : OrdMap (WorkerId ×ₗ WorkerBootId) ObservationGeneration) (s : HealthStore) :
    HealthStore :=
  { s with workerBootRegistry := registry, lastObservedGeneration := fence }

section Fence
variable {registry : OrdMap WorkerId WorkerBootId}
  {fence : OrdMap (WorkerId ×ₗ WorkerBootId) ObservationGeneration}

/-- A reassessment reads neither the registry nor the fence. -/
theorem reassessLocked_withFence (clk : Readings) (l : Locked) :
    reassessLocked clk { l with store := l.store.withFence registry fence } =
      (reassessLocked clk l).mapState fun l =>
        { l with store := l.store.withFence registry fence } := by
  have htarget : ((assessmentInput (clk 0)
      { l with store := l.store.withFence registry fence }).assess)
      = (assessmentInput (clk 0) l).assess := rfl
  unfold reassessLocked applyTransitionLocked
  simp only [htarget]
  split_ifs
  · rfl
  · rfl
  · rfl
  · cases l.d.healthGeneration.next <;> rfl
  · rfl

theorem forDevices_withFence {body : Nat → Locked → Exit Exn Locked Unit}
    (h : ∀ i l, body i { l with store := l.store.withFence registry fence } =
      (body i l).mapState fun l => { l with store := l.store.withFence registry fence }) :
    forDevices body (s.withFence registry fence) =
      (forDevices body s).mapState (withFence registry fence) := by
  unfold forDevices
  have hkeys : (s.withFence registry fence).devices.keys = s.devices.keys := rfl
  rw [hkeys]
  clear hkeys
  generalize s.devices.keys.zipIdx = keys
  induction keys generalizing s with
  | nil => rfl
  | cons key rest ih =>
    have hturn : onDevice key.1 (.ok ()) (body key.2) (s.withFence registry fence) =
        (onDevice key.1 (.ok ()) (body key.2) s).mapState (withFence registry fence) := by
      have hfind : (s.withFence registry fence).devices.find? key.1 = s.devices.find? key.1 := rfl
      cases hd : s.devices.find? key.1 with
      | none =>
        rw [onDevice_none (hfind.trans hd), onDevice_none hd]
        rfl
      | some d =>
        rw [onDevice_some (hfind.trans hd), onDevice_some hd, h key.2 ⟨s, d⟩]
        rfl
    unfold Exit.each Exit.andThen Exit.bind
    rw [hturn]
    simp only [Exit.mapState_state, Exit.mapState_result]
    cases (onDevice key.1 (.ok ()) (body key.2) s).result with
    | error e => rfl
    | ok u => exact ih

end Fence

/-- A reassessment leaves the device's generation. -/
theorem generation_reassessLocked (clk : Readings) (l : Locked) :
    (reassessLocked clk l).state.d.generation = l.d.generation :=
  reassessLocked_state (P := fun l' => l'.d.generation = l.d.generation) (fun _ => rfl)
    (fun _ _ _ => rfl) (fun _ _ => rfl) fun _ _ => rfl

/-- A loop of reassessments leaves the fence. -/
theorem fence_reassessAll (clk : Readings) (s : HealthStore) :
    (s.reassessAll clk).state.lastObservedGeneration = s.lastObservedGeneration := by
  have hsame : s.reassessAll clk = (s.reassessAll clk).mapState
      (withFence s.workerBootRegistry s.lastObservedGeneration) :=
    forDevices_withFence (s := s) fun i l => reassessLocked_withFence _ l
  exact congrArg (fun x : Exit Exn HealthStore Unit => x.state.lastObservedGeneration) hsame

/-- What a start from the image of a store has of it: the epoch, and each device at its
generation. How far reports have come is as in the target. -/
structure ResumedIn (s out resumed : HealthStore) : Prop where
  epoch : resumed.coordinatorEpoch = s.coordinatorEpoch
  fence : resumed.lastObservedGeneration = out.lastObservedGeneration
  devices : ∀ id d, s.devices.find? id = some d →
    ∃ d', resumed.devices.find? id = some d' ∧ d'.generation = d.generation

theorem Sound.load_image (hs : s.Sound) (hload : s.Loadable)
    (hdata : encodeStateInternal s = .ok data) (clk : Readings) (out : HealthStore) :
    s.ResumedIn out (loadInternal clk (some data) out).state := by
  obtain ⟨hresult, hrestored⟩ := hs.decode_image hload hdata out
  refine loadInternal_leaves (P := s.ResumedIn out) (fun h => absurd hresult h) fun _ => ?_
  obtain ⟨-, h, r, -, hstate⟩ := decode_of_ok hresult
  have hevolves := reassessAll_evolves clk (distrust (decodeStateInternal data out).state)
  refine ⟨hevolves.coordinatorEpoch.trans hrestored.coordinatorEpoch, ?_, fun id d hd => ?_⟩
  · calc
      ((distrust (decodeStateInternal data out).state).reassessAll clk).state.lastObservedGeneration
      _ = (decodeStateInternal data out).state.lastObservedGeneration := fence_reassessAll ..
      _ = out.lastObservedGeneration := by rw [hstate, loaded_eq h (records data) out out]
  · have hdecoded : (distrust (decodeStateInternal data out).state).devices.find? id =
        some { d with requiresRevalidation := true } := by
      simp only [distrust, hrestored.devices, OrdMap.find?_mapValues, hd, Option.map_some]
    have htracked : id ∈ ((distrust (decodeStateInternal data out).state).reassessAll
        clk).state.devices.keys := by
      rw [hevolves.keys]
      exact OrdMap.mem_keys_iff.mpr ⟨_, hdecoded⟩
    obtain ⟨d', hd'⟩ := OrdMap.mem_keys_iff.mp htracked
    refine ⟨d', hd', ?_⟩
    obtain ⟨d₀, hd₀, hleft⟩ := reassessAll_device hd'
    rw [hdecoded] at hd₀
    cases hd₀
    rcases hleft with rfl | ⟨clk', l, hl, rfl⟩
    · rfl
    · rw [generation_reassessLocked, hl]

/-- A coordinator started from an image, with a worker that has introduced itself. -/
def reintroduced (policy : HealthPolicy) (epoch : UInt64) (clk : Readings) (data : Bytes)
    (worker : WorkerId) (boot : WorkerBootId) : HealthStore :=
  (loadInternal clk (some data) (init policy epoch)).state.registerWorker worker boot

/-- What passes the fence where no report of the worker has been taken. -/
theorem fence_unseen {env : AuthorityEnvelope} {l : Locked}
    (hworker : l.store.workerBootRegistry.find? env.workerId = some env.workerBootId)
    (hunseen :
      l.store.lastObservedGeneration.find? (toLex (env.workerId, env.workerBootId)) = none) :
    fence env l = none ↔ env.coordinatorEpoch = l.store.coordinatorEpoch ∧
      l.d.generation ≤ env.deviceGeneration := by
  constructor
  · intro h
    obtain ⟨hepoch, -, -, hgeneration⟩ := fence_eq_none h
    exact ⟨hepoch, hgeneration⟩
  · rintro ⟨hepoch, hgeneration⟩
    have hnew : ¬env.deviceGeneration < l.d.generation := Nat.not_lt_of_le hgeneration
    simp [fence, hepoch, hworker, hunseen, hnew]

/-- After a restart the fence asks only for the epoch and the device's generation, whatever
observations the worker has handed in before. -/
theorem restart_forgets_generations (policy : HealthPolicy) (epoch : UInt64) (clk : Readings)
    (env : AuthorityEnvelope) (hreachable : s.Reachable) (hload : s.Loadable)
    (hdata : encodeStateInternal s = .ok data) (hd : s.devices.find? id = some d) :
    ∃ d', (reintroduced policy epoch clk data env.workerId env.workerBootId).devices.find? id =
        some d' ∧
      (fence env ⟨reintroduced policy epoch clk data env.workerId env.workerBootId, d'⟩ = none ↔
        env.coordinatorEpoch = s.coordinatorEpoch ∧ d.generation ≤ env.deviceGeneration) := by
  have hresumed := (reachable_sound hreachable).load_image hload hdata clk (init policy epoch)
  obtain ⟨d', hd', hgeneration⟩ := hresumed.devices id d hd
  refine ⟨d', hd', ?_⟩
  rw [fence_unseen]
  · rw [← hresumed.epoch, ← hgeneration]
    exact Iff.rfl
  · exact OrdMap.find?_insert_self _ _ _
  · show (loadInternal clk (some data) (init policy epoch)).state.lastObservedGeneration.find? _ =
      none
    rw [hresumed.fence]
    rfl

theorem restart_forgets_generations_after_bringUp :
    ∃ data d d', encodeStateInternal (after {} 0 bringUp) = .ok data ∧
      (after {} 0 bringUp).devices.find? ⟨7⟩ = some d ∧
      (reintroduced {} 0 (fun _ => ⟨2⟩) data ⟨1⟩ ⟨1⟩).devices.find? ⟨7⟩ = some d' ∧
      (fence { workerId := ⟨1⟩, workerBootId := ⟨1⟩, observationGeneration := ⟨1⟩
               deviceGeneration := ⟨1⟩ }
          ⟨reintroduced {} 0 (fun _ => ⟨2⟩) data ⟨1⟩ ⟨1⟩, d'⟩ = none ↔
        0 = (after {} 0 bringUp).coordinatorEpoch ∧ d.generation ≤ ⟨1⟩) := by
  have hreachable : (after {} 0 bringUp).Reachable := ⟨{}, 0, bringUp, rfl⟩
  have hload : (after {} 0 bringUp).Loadable :=
    ⟨by decide +kernel, by decide +kernel, by decide +kernel, by decide +kernel⟩
  obtain ⟨data, hdata, -⟩ := (reachable_sound hreachable).reloads hload (init {} 0)
  have htracked : ((after {} 0 bringUp).devices.find? ⟨7⟩).isSome = true := by decide +kernel
  obtain ⟨d, hd⟩ := Option.isSome_iff_exists.mp htracked
  obtain ⟨d', hd', hfence⟩ := restart_forgets_generations {} 0 (fun _ => ⟨2⟩)
    { workerId := ⟨1⟩, workerBootId := ⟨1⟩, observationGeneration := ⟨1⟩, deviceGeneration := ⟨1⟩ }
    hreachable hload hdata hd
  exact ⟨data, d, d', hdata, hd, hd', hfence⟩

end HealthStore
end AcceleratorHealth
