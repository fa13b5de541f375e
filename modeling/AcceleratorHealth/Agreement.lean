import AcceleratorHealth.Registration
import AcceleratorHealth.Verdicts

/-! Execution readiness against health, over whole runs: a device that claims to be
ready is HEALTHY or DEGRADED and not quarantined. -/
namespace AcceleratorHealth
open Persistence

/-- The health that a claim of readiness speaks of. -/
def Device.agreeing (d : Device) : Prop :=
  (d.state = .healthy ∨ d.state = .degraded) ∧ d.quarantined = false

namespace Locked

theorem sustained_agreeing : Sustained Device.agreeing where
  same _ _ _ h := (fits_of_claimsReady h).symm
  move _ _ _ _ _ _ h := (fits_of_claimsReady h).symm
  state d h := h.1.elim Or.inl fun hs => Or.inr (Or.inl hs)
  refused d q h hs := by simp [Device.agreeing, hs] at h
  flagged _ h := h

end Locked

namespace HealthStore
open Locked

/-- A device that claims to be ready has generations left when a call works on it. -/
def Roomy (s : HealthStore) (c : Call) : Prop :=
  ∀ k d, s.devices.find? k = some d → c.op.actsOn k → d.claimsReady → d.roomy

instance (s : HealthStore) (c : Call) : Decidable (s.Roomy c) :=
  decidable_of_iff (∀ e ∈ s.devices.entries, c.op.actsOn e.1 → e.2.claimsReady → e.2.roomy)
    ⟨fun h k _ hk => h (k, _) (OrdMap.find?_eq_some_iff.mp hk),
      fun h e he => h e.1 e.2 (OrdMap.find?_eq_some_iff.mpr he)⟩

section Step
variable {Good : Device → Prop} (hG : Sustained Good) {s : HealthStore} {c : Call}
include hG

/-- Every call but a load keeps a sustained condition while there is room. -/
theorem step_holds (hs : s.AllDevices (Holds Good)) (hroom : s.Roomy c)
    (hload : c.op.loads = false)
    (hlost : ∀ l : Locked, ∀ id reason, c.op = .markLost id reason →
      s.devices.find? id = some l.d →
        Holds Good (Locked.markLost (c.clk 0) reason l).state.d) :
    (s.step c).AllDevices (Holds Good) := by
  intro k d' hk
  rcases step_device hload hk with ⟨d, hd, rfl | ⟨l, l', rfl, -, htouch, rfl⟩⟩ |
    ⟨uuid, node, -, -, -, rfl⟩
  · exact hs k d' hd
  · exact htouch.holds hG (hs k l.d hd) (hroom k l.d hd htouch.actsOn)
      fun reason hop => hlost l k reason hop hd
  · exact fun hc => by simp [newDevice, Device.claimsReady, ReadinessState.admits] at hc

/-- A loop of reassessments keeps the condition on the devices with room. -/
theorem reassessAll_holds {clk : Readings} (hs : s.AllDevices (Holds Good))
    (hroom : s.AllDevices fun d => d.claimsReady → d.healthGeneration ≠ .last) :
    (s.reassessAll clk).state.AllDevices (Holds Good) := by
  intro k d' hk
  obtain ⟨d, hd, rfl | ⟨clk', l, rfl, rfl⟩⟩ := reassessAll_device hk
  · exact hs k d' hd
  · exact reassessLocked_holds hG fun hc _ => hroom k l.d hd hc

/-- With room on every device the loop visits all of them and establishes the condition. -/
theorem reassessAll_establishes {clk : Readings}
    (hroom : s.AllDevices fun d => d.healthGeneration ≠ .last) :
    (s.reassessAll clk).state.AllDevices (Holds Good) := by
  refine ((forDevices_sat (s := s)
    fun i l => (advances_reassessLocked (clk.drop (2 * i)) l).continues).mono
      (S := fun _ t => t.AllDevices (Holds Good)) (T := fun _ t => t.AllDevices (Holds Good))
      (fun _ t h k d' hk => ?_) fun e t h => ?_).state
  · obtain ⟨d, hd, i, s₁, -, -, rfl⟩ := h.2 k d' hk
    exact reassessLocked_holds hG fun _ _ => hroom k d hd
  · obtain ⟨k, d, -, hd, -, i, s₁, -, herr, -⟩ := h.2.1
    have hsat : (reassessLocked (clk.drop (2 * i)) ⟨s₁, d⟩).Sat (fun _ _ => True)
        fun _ _ => False := reassessLocked_sat (fun _ => trivial) (fun _ _ _ => trivial)
      (fun _ _ => trivial) fun _ hlast => hroom k d hd hlast
    exact ((Exit.sat_iff.mp hsat).2 e herr).elim

end Step

/-! ### Agreement -/

/-- Loading this file cannot bring in a device that contradicts itself: either every
record listed is in agreement and has room when it claims to be ready, or the image is
accepted and every record has room, so that all of them are reassessed. -/
def LoadsAgreed (s : HealthStore) (data : Bytes) : Prop :=
  (∀ d ∈ records data, Holds Device.agreeing d ∧ (d.claimsReady → d.healthGeneration ≠ .last)) ∨
    (decodeStateInternal data s).result = .ok () ∧ ∀ d ∈ records data, d.healthGeneration ≠ .last

/-- The steps that keep readiness in agreement with health: room for every ready device,
no ready device marked lost, no image of contradictory records. -/
structure KeepsAgreement (s : HealthStore) (c : Call) : Prop where
  room : s.Roomy c
  lost : ∀ id reason d, c.op = .markLost id reason → s.devices.find? id = some d →
    d.claimsReady = false
  image : ∀ data, c.op = .decode data → ∀ d ∈ records data, Holds Device.agreeing d
  file : ∀ data, c.op = .loadFromFile (some data) → LoadsAgreed s data

theorem claimsReady_markLost {now : Timestamp} {reason : Str} {l : Locked} :
    (Locked.markLost now reason l).state.d.claimsReady = l.d.claimsReady := by
  unfold Locked.markLost
  simp only
  split_ifs with hlost hlegal
  · rfl
  · exact claimsReady_applyTransitionLocked ..
  · exact absurd (canTransition_lost hlost) hlegal

/-- What the target's devices meet under its policy, and the records of the image under the
policy that comes with it, the devices meet after the decode. -/
theorem allDevices_decode {P : HealthPolicy → Device → Prop} {data : Bytes} {s : HealthStore}
    (hs : s.AllDevices (P s.policy))
    (himage : ∀ h r, header data = some (h, r) → ∀ d ∈ records data, P h.policy d) :
    (decodeStateInternal data s).state.AllDevices
      (P (decodeStateInternal data s).state.policy) := by
  generalize hx : decodeStateInternal data s = x
  have hcases := hx ▸ decode_cases data s
  cases hcases with
  | refusedEarly => exact hs
  | @refusedLate e h r hh =>
    intro k d hk
    obtain ⟨d', hd', heq⟩ := List.mem_map.mp (OrdMap.mem_of_find?_insertAll hk)
    cases heq
    exact himage h r hh d hd'
  | @accepted h r l hh hl =>
    obtain ⟨hdevices, -, hpolicy, -, -⟩ := finishLoad_fields l
    intro k d hk
    rw [Exit.ok_state, hdevices, hl] at hk
    obtain ⟨d', hd', heq⟩ := List.mem_map.mp (OrdMap.mem_of_find?_insertAll hk)
    cases heq
    rw [Exit.ok_state, hpolicy, hl]
    exact himage h r hh d hd'

theorem load_agreed {s : HealthStore} {clk : Readings} {data : Bytes}
    (hs : s.AllDevices (Holds Device.agreeing)) (h : LoadsAgreed s data) :
    (loadInternal clk (some data) s).state.AllDevices (Holds Device.agreeing) := by
  have hdevice : ∀ k d, (decodeStateInternal data s).state.devices.find? k = some d →
      s.devices.find? k = some d ∨ d ∈ records data := fun k d => decode_device
  refine loadInternal_leaves (P := fun t => t.AllDevices (Holds Device.agreeing))
    (fun hrefused k d hk => ?_) fun hres => ?_
  · rcases hdevice k d hk with hd | hd
    · exact hs k d hd
    · rcases h with h | ⟨hok, -⟩
      · exact (h d hd).1
      · exact absurd hok hrefused
  · have hfind : ∀ k d, (distrust (decodeStateInternal data s).state).devices.find? k = some d →
        ∃ d₀ ∈ records data, d = { d₀ with requiresRevalidation := true } := by
      intro k d hk
      obtain ⟨d₀, hd₀, rfl⟩ := find?_distrust hk
      exact ⟨d₀, decode_device_of_ok hres hd₀, rfl⟩
    rcases h with h | ⟨-, h⟩
    · refine reassessAll_holds sustained_agreeing (fun k d hk => ?_) fun k d hk => ?_
      · obtain ⟨d₀, hd₀, rfl⟩ := hfind k d hk
        exact (h d₀ hd₀).1
      · obtain ⟨d₀, hd₀, rfl⟩ := hfind k d hk
        exact (h d₀ hd₀).2
    · refine reassessAll_establishes sustained_agreeing fun k d hk => ?_
      obtain ⟨d₀, hd₀, rfl⟩ := hfind k d hk
      exact h d₀ hd₀

theorem step_agreed {s : HealthStore} {c : Call} (hs : s.AllDevices (Holds Device.agreeing))
    (h : KeepsAgreement s c) : (s.step c).AllDevices (Holds Device.agreeing) := by
  by_cases hload : c.op.loads = false
  · refine step_holds sustained_agreeing hs h.room hload fun l id reason hop hd hc => ?_
    rw [claimsReady_markLost, h.lost id reason l.d hop hd] at hc
    cases hc
  · rcases step_loads (s := s) (Bool.of_not_eq_false hload) with
      ⟨data, hop, hstep⟩ | ⟨-, hstep⟩ | ⟨data, hop, hstep⟩ <;> rw [hstep]
    · intro k d hk
      rcases decode_device hk with hd | hd
      · exact hs k d hd
      · exact h.image data hop d hd
    · exact hs
    · exact load_agreed hs (h.file data hop)

/-- A device that is READY or READY_DEGRADED, or whose latest assessment says so, is
HEALTHY or DEGRADED and has no active quarantine record. -/
def ReadinessAgrees (s : HealthStore) : Prop :=
  ∀ k d, s.devices.find? k = some d →
    (d.readiness = .ready ∨ d.readiness = .readyDegraded ∨
      d.latestAssessment.executionReady = true) →
    (d.state = .healthy ∨ d.state = .degraded) ∧ ¬∃ q, d.quarantine = some q ∧ q.active

/-- Readiness agrees with health in every run whose steps keep agreement. -/
theorem readiness_agrees_with_health (policy : HealthPolicy) (epoch : UInt64)
    (calls : List Call) (hrun : Machine.Along step KeepsAgreement (init policy epoch) calls) :
    (after policy epoch calls).ReadinessAgrees := by
  have hinv : (after policy epoch calls).AllDevices (Holds Device.agreeing) :=
    Machine.run_invariant (fun s c hs hc => step_agreed hs hc)
      (allDevices_init (Holds Device.agreeing) policy epoch) hrun
  intro k d htracked hready
  have hclaims : d.claimsReady := by
    rcases hready with h | h | h <;> simp [Device.claimsReady, ReadinessState.admits, h]
  obtain ⟨hstate, hquarantine⟩ := hinv k d htracked hclaims
  refine ⟨hstate, ?_⟩
  rintro ⟨q, hq, hactive⟩
  simp [Device.quarantined, hq, hactive] at hquarantine

/-- One worker registers device 7, validates it in full and reports it nominal. -/
def bringUp : List Call := [
  (Op.registerDevice ⟨7⟩ ⟨1⟩).at 1,
  (Op.registerWorker ⟨1⟩ ⟨1⟩).at 1,
  (Op.recordValidation { id := ⟨1⟩, accelerator := ⟨7⟩, depth := .full, passed := true }).at 1,
  (Op.acceptObservation
    { accelerator := ⟨7⟩, worker := ⟨1⟩, workerBootId := ⟨1⟩, timestamp := ⟨1⟩ }
    { workerId := ⟨1⟩, workerBootId := ⟨1⟩, observationGeneration := ⟨1⟩
      deviceGeneration := ⟨1⟩ }).at 1]

/-- A fault of device 7 that is neither fatal nor critical, and the call that reports it. -/
def recoverable (id : FaultId) : Fault :=
  { id, accelerator := ⟨7⟩, type := .transferFailure, severity := .warning }

def recoverableFault (id : FaultId) : Call := (Op.recordFault (recoverable id)).at 1

/-- Device 7 observed but never validated. -/
def unvalidated : List Call := [
  (Op.registerDevice ⟨7⟩ ⟨1⟩).at 1,
  (Op.registerWorker ⟨1⟩ ⟨1⟩).at 1,
  (Op.acceptObservation
    { accelerator := ⟨7⟩, worker := ⟨1⟩, workerBootId := ⟨1⟩, timestamp := ⟨1⟩ }
    { workerId := ⟨1⟩, workerBootId := ⟨1⟩, observationGeneration := ⟨1⟩
      deviceGeneration := ⟨1⟩ }).at 1]

theorem keepsAgreement_of_roomy {s : HealthStore} {c : Call} (h : s.Roomy c)
    (hload : c.op.loads = false) (hlost : ∀ id reason, c.op ≠ .markLost id reason) :
    KeepsAgreement s c where
  room := h
  lost id reason _ hop := absurd hop (hlost id reason)
  image data hop := by simp [hop, Op.loads] at hload
  file data hop := by simp [hop, Op.loads] at hload

theorem readiness_agrees_after_bringUp :
    Machine.Along step KeepsAgreement (init {} 0) bringUp ∧
      (after {} 0 bringUp).ReadinessAgrees := by
  have hrun : Machine.Along step KeepsAgreement (init {} 0) bringUp :=
    ⟨keepsAgreement_of_roomy (by decide +kernel) rfl (by simp [Op.at]),
      keepsAgreement_of_roomy (by decide +kernel) rfl (by simp [Op.at]),
      keepsAgreement_of_roomy (by decide +kernel) rfl (by simp [Op.at]),
      keepsAgreement_of_roomy (by decide +kernel) rfl (by simp [Op.at]), trivial⟩
  exact ⟨hrun, readiness_agrees_with_health {} 0 bringUp hrun⟩

/-- A READY device that is marked lost stays READY: `markLost` does not reassess. -/
theorem readiness_disagrees_after_markLost :
    (after {} 0 (bringUp ++ [(Op.markLost ⟨7⟩ []).at 1])).Reachable ∧
      ¬(after {} 0 (bringUp ++ [(Op.markLost ⟨7⟩ []).at 1])).ReadinessAgrees := by
  refine ⟨⟨_, _, _, rfl⟩, fun h => ?_⟩
  have hview : ((after {} 0 (bringUp ++ [(Op.markLost ⟨7⟩ []).at 1])).devices.find? ⟨7⟩).map
      (fun d => (d.state, d.readiness)) = some (.lost, .ready) := by decide +kernel
  obtain ⟨d, hd, heq⟩ := Option.map_eq_some_iff.mp hview
  obtain ⟨hstate, hready⟩ := Prod.mk.inj heq
  have := (h _ d hd (Or.inl hready)).1
  simp [hstate] at this

end HealthStore
end AcceleratorHealth
