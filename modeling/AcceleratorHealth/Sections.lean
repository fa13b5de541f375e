import AcceleratorHealth.Agreement
import AcceleratorHealth.Standing

/-! Calls as the parts that others can come between. `setPolicy` adopts the policy under one
lock and reassesses under another; `loadFromFile` reads the image under none, as `decode` does,
which is one part only where no other thread is in the store, and reassesses under a lock.
Every other operation is a single part. -/
namespace AcceleratorHealth
open Locked Persistence

/-- Readiness was granted under this generation of the policy. -/
def Device.GrantedUnder (g : PolicyGeneration) (d : Device) : Prop :=
  d.readiness.admits → d.latestAssessment.policyGeneration = g

/-! ### One device -/

namespace Locked
variable {c : Call} {k : AcceleratorId} {clk : Readings} {l l' : Locked}

def Current (l : Locked) : Prop := l.d.GrantedUnder l.store.policyGeneration

/-- What neither grants readiness nor changes the policy keeps it current. -/
theorem Current.keep (h : l.Current) (hcontinues : Continues l l')
    (hreadiness : l'.d.readiness = l.d.readiness)
    (hassessment : l'.d.latestAssessment = l.d.latestAssessment) : l'.Current := by
  intro hadmits
  rw [hreadiness] at hadmits
  rw [hassessment, hcontinues.policyGeneration]
  exact h hadmits

theorem Current.keep_standing (h : l.Current) (hcontinues : Continues l l')
    (hstanding : l'.d.standing = l.d.standing) : l'.Current :=
  h.keep hcontinues (congrArg Standing.readiness hstanding)
    (congrArg Standing.latestAssessment hstanding)

theorem current_reassessLocked (h : l.Current) : (reassessLocked clk l).state.Current := by
  apply reassessLocked_state
  · exact fun _ _ => rfl
  · exact fun _ _ _ _ => rfl
  · exact fun _ _ _ => rfl
  · exact fun _ _ => h

theorem current_andThen {x : Exit Exn Locked Unit} (h : x.state.Current) :
    (x.andThen (reassessLocked clk)).state.Current :=
  Exit.state_andThen (P := Current) h fun _ h => current_reassessLocked h

/-- No body leaves a device ready under another policy than that in force. -/
theorem Touch.current (htouch : Touch c k l l') (h : l.Current) : l'.Current := by
  have hcontinues := htouch.continues
  cases htouch with
  | @observation obs env =>
    unfold acceptObservation
    split
    next rejection hfence => exact h
    next hfence =>
      have htaken : (takeObservation obs env l).Current := by
        apply h.keep (proceeds_takeObservation hfence).continues
        all_goals
          simp only [takeObservation]
          split_ifs <;> rfl
      exact Exit.state_andThen (P := Current) (current_reassessLocked htaken) fun _ h => h
  | fault =>
    unfold recordFault
    split
    · exact h
    · exact current_reassessLocked h
  | validation => exact current_reassessLocked h
  | @quarantine authority reason triggeredBy =>
    unfold beginQuarantine
    split_ifs
    · exact h
    · apply current_andThen
      have hopened : (openQuarantine (c.clk 0) k authority reason triggeredBy l).Current := h
      exact hopened.keep_standing (advances_applyTransitionLocked ..).continues
        (standing_applyTransitionLocked ..)
  | clear =>
    have hclosed := h.keep_standing (proceeds_closeQuarantine k l).continues
      standing_closeQuarantine
    exact current_reassessLocked hclosed
  | recovery =>
    unfold beginRecovery
    split_ifs
    · exact h
    · exact h
    · apply current_andThen
      apply h.keep_standing
      · exact ((advances_applyTransitionLocked ..).andThen (advances_openRecovery _)).continues
      · apply Exit.state_andThen (P := fun l' : Locked => l'.d.standing = l.d.standing)
        · apply standing_applyTransitionLocked
        · exact fun _ h => standing_openRecovery.trans h
  | @revalidation v =>
    rw [revalidate_state]
    have hadded : (addValidation v l).Current := h
    exact current_andThen
      (hadded.keep_standing (advances_recoveryStep ..).continues standing_recoveryStep)
  | lost => exact h.keep_standing hcontinues standing_markLost
  | reassess => exact current_reassessLocked h
  | orphan =>
    unfold HealthStore.orphan
    split_ifs
    · exact current_reassessLocked h
    · exact h
  | policy => exact current_reassessLocked h
  | policySkipped => exact h

end Locked

/-! ### The store -/

namespace HealthStore
variable {c : Call} {s : HealthStore} {α : Type} {id : AcceleratorId} {missing : Except Exn α}

/-- Whoever is ready was found so under the policy in force. -/
def Current (s : HealthStore) : Prop :=
  ∀ k d, s.devices.find? k = some d → d.GrantedUnder s.policyGeneration

theorem current_onDevice {body : Locked → Exit Exn Locked α}
    (hbody : ∀ l, Touch c id l (body l).state) (hs : s.Current) :
    (onDevice id missing body s).state.Current := by
  intro k d' hk
  have hev : Evolves s (onDevice id missing body s).state :=
    onDevice_evolves fun l => (hbody l).continues
  obtain ⟨d, hd, rfl | ⟨-, rfl⟩⟩ := onDevice_device (fun l => (hbody l).continues) hk
  · rw [hev.policyGeneration]
    exact hs k d' hd
  · have hcurrent := (hbody ⟨s, d⟩).current (hs k d hd)
    unfold Locked.Current at hcurrent
    rwa [(hbody ⟨s, d⟩).continues.policyGeneration, ← hev.policyGeneration] at hcurrent

theorem current_forDevices {body : Nat → Locked → Exit Exn Locked Unit}
    (hbody : ∀ i l k, Touch c k l (body i l).state) (hs : s.Current) :
    (forDevices body s).state.Current := by
  intro k d' hk
  have hcontinues : ∀ i l, Continues l (body i l).state := fun i l => (hbody i l default).continues
  have hev := forDevices_evolves (s := s) hcontinues
  obtain ⟨d, hd, rfl | ⟨i, s₁, hs₁, -, rfl⟩⟩ := forDevices_device hcontinues hk
  · rw [hev.policyGeneration]
    exact hs k d' hd
  · have hstart : Locked.Current ⟨s₁, d⟩ := by
      unfold Locked.Current
      rw [hs₁.policyGeneration]
      exact hs k d hd
    have hcurrent := (hbody i ⟨s₁, d⟩ k).current hstart
    unfold Locked.Current at hcurrent
    rwa [(hcontinues i ⟨s₁, d⟩).policyGeneration, show s₁.policyGeneration = s.policyGeneration
      from hs₁.policyGeneration, ← hev.policyGeneration] at hcurrent

theorem current_of_eq {s' : HealthStore} (hdevices : s'.devices = s.devices)
    (hgeneration : s'.policyGeneration = s.policyGeneration) (hs : s.Current) : s'.Current := by
  intro k d hk
  rw [hgeneration]
  exact hs k d (hdevices ▸ hk)

end HealthStore

/-- Operations that take effect under one lock. -/
def Op.single : Op → Bool
  | .setPolicy _ | .loadFromFile _ => false
  | _ => true

namespace HealthStore
variable {s : HealthStore} {c : Call}

theorem current_registerDevice {now : Timestamp} {uuid : DeviceUuid} {node : NodeId}
    (hs : s.Current) : (s.registerDevice now uuid node).2.Current := by
  have hgeneration : (s.registerDevice now uuid node).2.policyGeneration = s.policyGeneration := by
    unfold registerDevice
    split <;> rfl
  intro k d hk
  rw [hgeneration]
  rcases registerDevice_device hk with hk | ⟨-, -, rfl⟩
  · exact hs k d hk
  · intro hadmits
    cases hadmits

/-- An operation in one part that puts no image in place of the records. -/
theorem current_step (hsingle : c.op.single) (hload : c.op.loads = false) (hs : s.Current) :
    (s.step c).Current := by
  unfold step exec
  cases hop : c.op with
  | setPolicy policy => simp [hop, Op.single] at hsingle
  | rollCoordinatorEpoch => exact current_of_eq rfl rfl hs
  | setCoordinatorEpoch e => exact current_of_eq rfl rfl hs
  | registerWorker worker boot => exact current_of_eq rfl rfl hs
  | invalidateWorker worker boot =>
    simp only [Exit.mapResult_state, invalidateWorker]
    split_ifs
    · apply Exit.state_andThen (P := Current)
      · exact current_forDevices (fun i l k => .orphan _ hop) hs
      · exact fun _ h => current_of_eq rfl rfl h
    · exact hs
  | registerDevice uuid node => exact current_registerDevice hs
  | markLost id reason => exact current_onDevice (fun l => .lost hop) hs
  | acceptObservation obs env => exact current_onDevice (fun l => .observation hop rfl) hs
  | recordFault fault => exact current_onDevice (fun l => .fault hop rfl) hs
  | recordValidation v => exact current_onDevice (fun l => .validation hop rfl) hs
  | beginQuarantine id authority reason triggeredBy =>
    exact current_onDevice (fun l => .quarantine hop) hs
  | clearQuarantine id => exact current_onDevice (fun l => .clear hop) hs
  | beginRecovery id => exact current_onDevice (fun l => .recovery hop) hs
  | revalidate id v => exact current_onDevice (fun l => .revalidation hop) hs
  | reassess id => exact current_onDevice (fun l => .reassess _ (Or.inl hop)) hs
  | reassessAll => exact current_forDevices (fun i l k => .reassess _ (Or.inr hop)) hs
  | decode data => simp [hop, Op.loads] at hload
  | loadFromFile contents => simp [hop, Op.loads] at hload

/-! ### The parts of a call -/

/-- What `setPolicy` does under its first lock. -/
def updatePolicy (policy : HealthPolicy) (s : HealthStore) : Exit Exn HealthStore Unit :=
  match s.policyGeneration.next with
  | .error e => .throw e { s with policy }
  | .ok g => .ok () (adoptPolicy policy g s)

/-- What a load does before it reassesses. -/
def readImage (contents : Option Bytes) (s : HealthStore) : Exit String HealthStore Unit :=
  match contents with
  | none => .throw "cannot open for read" s
  | some bytes => (decodeStateInternal bytes s).andThen fun s => .ok () (distrust s)

end HealthStore

/-- The store, and how many calls are between their two parts. -/
structure Shared where
  store : HealthStore
  waiting : Nat := 0

/-- The parts that take effect at once: all of a call, or one of the two of `setPolicy` and
`loadFromFile`. An image is read while nobody else is in the store. -/
inductive Section where
  | whole (c : Call) (single : c.op.single)
  | update (policy : HealthPolicy)
  | read (contents : Option Bytes)
  | finish (clk : Readings)

namespace Shared

/-- A first part that throws is not followed by a second. -/
def after {ε : Type} (t : Shared) (x : Exit ε HealthStore Unit) : Shared :=
  match x.result with
  | .ok () => ⟨x.state, t.waiting + 1⟩
  | .error _ => ⟨x.state, t.waiting⟩

def step (t : Shared) : Section → Shared
  | .whole c _ => { t with store := t.store.step c }
  | .update policy => t.after (t.store.updatePolicy policy)
  | .read contents => t.after (t.store.readImage contents)
  | .finish clk =>
    match t.waiting with
    | 0 => t
    | n + 1 => ⟨(t.store.reassessAll clk).state, n⟩

@[simp] theorem after_store {ε : Type} (t : Shared) (x : Exit ε HealthStore Unit) :
    (t.after x).store = x.state := by
  unfold after
  split <;> rfl

/-- When nothing comes between its parts, `setPolicy` is the operation on the store. -/
theorem run_setPolicy (clk : Readings) (policy : HealthPolicy) (s : HealthStore) :
    Machine.run step ⟨s, 0⟩ [.update policy, .finish clk] =
      ⟨s.step ⟨.setPolicy policy, clk⟩, 0⟩ := by
  show (Shared.after ⟨s, 0⟩ (s.updatePolicy policy)).step (.finish clk) =
    ⟨(s.setPolicy clk policy).state, 0⟩
  unfold HealthStore.updatePolicy
  cases hg : s.policyGeneration.next with
  | error e =>
    rw [HealthStore.setPolicy_of_error hg]
    rfl
  | ok g =>
    rw [HealthStore.setPolicy_of_ok hg]
    rfl

/-- And so is a load. -/
theorem run_loadFromFile (clk : Readings) (contents : Option Bytes) (s : HealthStore) :
    Machine.run step ⟨s, 0⟩ [.read contents, .finish clk] =
      ⟨s.step ⟨.loadFromFile contents, clk⟩, 0⟩ := by
  show (Shared.after ⟨s, 0⟩ (s.readImage contents)).step (.finish clk) =
    ⟨(loadInternal clk contents s).state, 0⟩
  cases contents with
  | none => rfl
  | some bytes =>
    unfold HealthStore.readImage loadInternal
    simp only
    generalize decodeStateInternal bytes s = decoded
    obtain ⟨s', result⟩ := decoded
    cases result with
    | error e => rfl
    | ok u =>
      show (⟨((distrust s').reassessAll clk).state, 0⟩ : Shared) =
        ⟨(((distrust s').reassessAll clk).bind fun _ out => Exit.ok (Except.ok ()) out).state, 0⟩
      generalize (distrust s').reassessAll clk = looped
      obtain ⟨s'', result⟩ := looped
      cases result <;> rfl

end Shared

/-! ### Images -/

namespace Persistence

/-- The records of an image under their ids; the last one counts where an id repeats. -/
def filed (data : Bytes) : OrdMap AcceleratorId Device :=
  OrdMap.empty.insertAll ((records data).map fun d => (d.id, d))

/-- The image grants readiness only under its own generation of the policy. -/
def ImageCurrent (data : Bytes) : Prop :=
  ∀ h r, header data = some (h, r) → ∀ k d, (filed data).find? k = some d →
    d.GrantedUnder h.policyGeneration

end Persistence

namespace HealthStore
variable {s : HealthStore} {data : Bytes} {policy : HealthPolicy}

theorem current_decode_iff (hs : s.Current) :
    (decodeStateInternal data s).state.Current ↔ ImageCurrent data := by
  have hadopted : ∀ {h : Header} {r : Wire.Reader} {s' : HealthStore}, header data = some (h, r) →
      s'.devices = filed data → s'.policyGeneration = h.policyGeneration →
        (s'.Current ↔ ImageCurrent data) := by
    intro h r s' hh hdevices hgeneration
    unfold Current
    rw [hdevices, hgeneration]
    constructor
    · intro hcurrent h' r' hh'
      cases hh.symm.trans hh'
      exact hcurrent
    · intro himage
      exact himage h r hh
  generalize hx : decodeStateInternal data s = x
  have hcases := hx ▸ decode_cases data s
  cases hcases with
  | refusedEarly hnone =>
    constructor
    · intro _ h r hh
      rw [hnone] at hh
      cases hh
    · exact fun _ => hs
  | refusedLate hh => exact hadopted hh rfl rfl
  | @accepted h r loading hh hl =>
    obtain ⟨hdevices, -, -, hgeneration, -⟩ := finishLoad_fields loading
    rw [Exit.ok_state]
    apply hadopted hh
    · rw [hdevices, hl]
      rfl
    · rw [hgeneration, hl]
      rfl

theorem current_distrust_iff : (distrust s).Current ↔ s.Current := by
  constructor
  · intro h k d hk
    exact h k { d with requiresRevalidation := true }
      (OrdMap.find?_mapValues_eq_some_iff.mpr ⟨d, hk, rfl⟩)
  · intro h k d hk
    obtain ⟨d₀, hd₀, rfl⟩ := find?_distrust hk
    exact h k d₀ hd₀

theorem current_readImage_iff {contents : Option Bytes} (hs : s.Current) :
    (s.readImage contents).state.Current ↔ ∀ data, contents = some data → ImageCurrent data := by
  cases contents with
  | none =>
    constructor
    · intro _ data h
      cases h
    · exact fun _ => hs
  | some bytes =>
    have hstate : (s.readImage (some bytes)).state.Current ↔
        (decodeStateInternal bytes s).state.Current := by
      unfold readImage
      simp only
      generalize decodeStateInternal bytes s = decoded
      obtain ⟨s', result⟩ := decoded
      cases result with
      | error e => exact Iff.rfl
      | ok u => exact current_distrust_iff
    rw [hstate, current_decode_iff hs]
    constructor
    · rintro h data ⟨⟩
      exact h
    · exact fun h => h bytes rfl

/-- A new policy leaves every assessment behind, so nobody may be ready. -/
theorem current_updatePolicy_iff (hs : s.Current) :
    (s.updatePolicy policy).state.Current ↔ s.policyGeneration = .last ∨
      ∀ k d, s.devices.find? k = some d → d.readiness.admits = false := by
  unfold updatePolicy
  by_cases hlast : s.policyGeneration = .last
  · have hnext : s.policyGeneration.next = .error (.overflowError "generation overflow") :=
      if_pos hlast
    rw [hnext]
    exact ⟨fun _ => Or.inl hlast, fun _ => current_of_eq rfl rfl hs⟩
  · have hnext : s.policyGeneration.next = .ok ⟨s.policyGeneration.value + 1⟩ := if_neg hlast
    have hnew : s.policyGeneration ≠ ⟨s.policyGeneration.value + 1⟩ := by
      intro h
      have hvalue := congrArg Generation.value h
      simp at hvalue
    rw [hnext, or_iff_right hlast]
    constructor
    · intro hcurrent k d hk
      rw [Bool.eq_false_iff]
      intro hadmits
      have hgranted := hcurrent k { d with policyGenerationChangedFlag := true }
        (OrdMap.find?_mapValues_eq_some_iff.mpr ⟨d, hk, rfl⟩) hadmits
      exact hnew ((hs k d hk hadmits).symm.trans hgranted)
    · intro hnobody k d hk hadmits
      obtain ⟨d₀, hd₀, rfl⟩ := find?_adoptPolicy hk
      have hnot := hnobody k d₀ hd₀
      rw [show d₀.readiness.admits = true from hadmits] at hnot
      cases hnot

end HealthStore

/-! ### Interleavings -/

namespace Shared
open HealthStore

/-- A policy is adopted only while no device is ready, and images speak for themselves. -/
def KeepsCurrent (t : Shared) : Section → Prop
  | .whole c _ => ∀ data, c.op = .decode data → ImageCurrent data
  | .update _ => t.store.policyGeneration = .last ∨
      ∀ k d, t.store.devices.find? k = some d → d.readiness.admits = false
  | .read contents => ∀ data, contents = some data → ImageCurrent data
  | .finish _ => True

theorem step_current_iff {t : Shared} (ht : t.store.Current) (part : Section) :
    (t.step part).store.Current ↔ KeepsCurrent t part := by
  cases part with
  | whole c single =>
    by_cases hdecode : ∃ data, c.op = .decode data
    · obtain ⟨data, hop⟩ := hdecode
      have hstep : (t.step (.whole c single)).store = (decodeStateInternal data t.store).state := by
        show (t.store.exec c).state = _
        unfold exec
        rw [hop]
        rfl
      rw [hstep, current_decode_iff ht]
      constructor
      · intro h data' hop'
        cases hop.symm.trans hop'
        exact h
      · exact fun h => h data hop
    · have hload : c.op.loads = false := by
        cases hop : c.op with
        | decode data => exact absurd ⟨data, hop⟩ hdecode
        | loadFromFile contents => simp [hop, Op.single] at single
        | _ => rfl
      constructor
      · exact fun _ data hop => absurd ⟨data, hop⟩ hdecode
      · exact fun _ => current_step single hload ht
  | update policy =>
    show (t.after (t.store.updatePolicy policy)).store.Current ↔ _
    rw [after_store]
    exact current_updatePolicy_iff ht
  | read contents =>
    show (t.after (t.store.readImage contents)).store.Current ↔ _
    rw [after_store]
    exact current_readImage_iff ht
  | finish clk =>
    constructor
    · exact fun _ => trivial
    · intro _
      unfold step
      cases t.waiting with
      | zero => exact ht
      | succ n =>
        exact current_step (c := ⟨.reassessAll, clk⟩) rfl rfl ht

/-- In every interleaving, a device is ready only under the policy in force, in every state
in between, exactly when each policy is adopted while no device is ready. -/
theorem readiness_current_iff (policy : HealthPolicy) (epoch : UInt64) (parts : List Section) :
    (∀ before, before <+: parts →
      (Machine.run step ⟨init policy epoch, 0⟩ before).store.Current) ↔
      Machine.Along step KeepsCurrent ⟨init policy epoch, 0⟩ parts := by
  apply Machine.throughout_iff (P := fun t : Shared => t.store.Current)
  · exact fun t part ht => step_current_iff ht part
  · intro k d hk
    cases hk

/-- Device 7 is READY when a policy is adopted: until the second part reaches it, whoever
looks finds it READY by an assessment under the generation before. -/
theorem ready_under_old_policy :
    ¬∀ parts before, before <+: parts →
      (Machine.run step ⟨init {} 0, 0⟩ before).store.Current := by
  intro h
  have hcurrent := h (bringUp.pmap Section.whole (by decide) ++ [.update {}]) _ List.prefix_rfl
  have hview : ((Machine.run step ⟨init {} 0, 0⟩
      (bringUp.pmap Section.whole (by decide) ++ [.update {}])).store.devices.find? ⟨7⟩).map
        (fun d => (d.readiness, d.latestAssessment.policyGeneration)) = some (.ready, ⟨1⟩) := by
    decide +kernel
  have hgeneration : (Machine.run step ⟨init {} 0, 0⟩
      (bringUp.pmap Section.whole (by decide) ++ [.update {}])).store.policyGeneration = ⟨2⟩ := by
    decide +kernel
  obtain ⟨d, hd, hpair⟩ := Option.map_eq_some_iff.mp hview
  obtain ⟨hready, hassessed⟩ := Prod.mk.inj hpair
  have hgranted := hcurrent ⟨7⟩ d hd (by rw [hready]; rfl)
  rw [hassessed, hgeneration] at hgranted
  cases hgranted

end Shared
end AcceleratorHealth
