import AcceleratorHealth.Agreement
import AcceleratorHealth.Loops

/-! The standing of a device: what it was last observed to be, by whom and when, and the
verdict in force. Between two verdicts nothing but a report and the loss of its worker
changes it. -/
namespace AcceleratorHealth

/-- The fields of a device that only reports, withdrawals and verdicts write. -/
structure Standing where
  lastWorker : WorkerId
  lastWorkerBootId : WorkerBootId
  lastObservation : Timestamp
  requiresRevalidation : Bool
  readiness : ReadinessState
  latestAssessment : HealthAssessment

def Device.standing (d : Device) : Standing :=
  ⟨d.lastWorker, d.lastWorkerBootId, d.lastObservation, d.requiresRevalidation, d.readiness,
    d.latestAssessment⟩

/-- Nothing that a policy may require of the device is lost: its depth, and the absence of
each mark that asks for a revalidation. -/
structure Device.Retained (d d' : Device) : Prop where
  depth : d.highestValidation ≤ d'.highestValidation
  deviceGeneration : d.deviceGenerationChangedFlag = false →
    d'.deviceGenerationChangedFlag = false
  policyGeneration : d.policyGenerationChangedFlag = false →
    d'.policyGenerationChangedFlag = false
  restart : d.requiresRevalidation = false → d'.requiresRevalidation = false

theorem Device.Retained.refl (d : Device) : d.Retained d :=
  ⟨le_refl _, fun h => h, fun h => h, fun h => h⟩

theorem Device.Retained.trans {d d' d'' : Device} (h : d.Retained d') (h' : d'.Retained d'') :
    d.Retained d'' where
  depth := h.depth.trans h'.depth
  deviceGeneration hd := h'.deviceGeneration (h.deviceGeneration hd)
  policyGeneration hp := h'.policyGeneration (h.policyGeneration hp)
  restart hr := h'.restart (h.restart hr)

/-- An edit of other fields. -/
theorem Device.Retained.of_eq {d d' : Device}
    (h : (d'.highestValidation, d'.deviceGenerationChangedFlag, d'.policyGenerationChangedFlag,
        d'.requiresRevalidation) =
      (d.highestValidation, d.deviceGenerationChangedFlag, d.policyGenerationChangedFlag,
        d.requiresRevalidation)) : d.Retained d' := by
  simp only [Prod.mk.injEq] at h
  obtain ⟨h₁, h₂, h₃, h₄⟩ := h
  exact ⟨h₁.ge, fun h => h₂.trans h, fun h => h₃.trans h, fun h => h₄.trans h⟩

namespace Locked
variable {now : Timestamp} {clk : Readings} {l l' m : Locked}

/-- Without the evidence that the lost worker gave. -/
def strip (l : Locked) : Locked :=
  { l with d := { l.d with lastObservation := {}, deviceGenerationChangedFlag := false } }

theorem standing_applyTransitionLocked (toState : HealthState) (label detail : Str) :
    (applyTransitionLocked now toState label detail l).state.d.standing = l.d.standing :=
  applyTransitionLocked_state (P := fun l' => l'.d.standing = l.d.standing) rfl (fun _ _ => rfl)
    fun _ _ _ => rfl

theorem standing_openRecovery : (openRecovery now l).state.d.standing = l.d.standing := by
  unfold openRecovery
  simp only
  split <;> rfl

theorem standing_recoveryPassed : (recoveryPassed clk l).state.d.standing = l.d.standing := by
  unfold recoveryPassed
  apply Exit.state_andThen (P := fun l' : Locked => l'.d.standing = l.d.standing)
  · split_ifs
    · apply standing_applyTransitionLocked
    · rfl
  · intro l' h
    simp only
    split_ifs
    · apply Exit.state_andThen (P := fun l' : Locked => l'.d.standing = l.d.standing)
      · exact (standing_applyTransitionLocked ..).trans h
      · exact fun _ h => h
    · exact h

theorem standing_recoveryStep {v : ValidationRecord} :
    (recoveryStep clk v l).state.d.standing = l.d.standing := by
  unfold recoveryStep recoveryFailed
  split_ifs
  · exact standing_recoveryPassed
  · apply standing_applyTransitionLocked
  · rfl
  · rfl

theorem standing_closeQuarantine {id : AcceleratorId} :
    (closeQuarantine id l).d.standing = l.d.standing := by
  unfold closeQuarantine
  split <;> rfl

theorem standing_markLost {reason : Str} :
    (markLost now reason l).state.d.standing = l.d.standing := by
  unfold markLost
  simp only
  split_ifs
  · rfl
  · exact (standing_applyTransitionLocked ..).trans rfl
  · rfl

theorem retained_applyTransitionLocked (toState : HealthState) (label detail : Str) :
    l.d.Retained (applyTransitionLocked now toState label detail l).state.d :=
  applyTransitionLocked_state (P := fun l' => l.d.Retained l'.d) (.refl _) (fun _ _ => .of_eq rfl)
    fun _ _ _ => .of_eq rfl

theorem retained_reassessLocked (clk : Readings) (l : Locked) :
    l.d.Retained (reassessLocked clk l).state.d :=
  reassessLocked_state (P := fun l' => l.d.Retained l'.d) (fun _ => .of_eq rfl)
    (fun _ _ _ => .of_eq rfl) (fun _ _ => .of_eq rfl) fun _ _ => .of_eq rfl

theorem retained_addValidation {v : ValidationRecord} : l.d.Retained (addValidation v l).d where
  depth := by
    unfold addValidation
    simp only
    split_ifs with h
    · exact h.2.le
    · exact le_refl _
  deviceGeneration := id
  policyGeneration := id
  restart := id

theorem retained_recoveryPassed : l.d.Retained (recoveryPassed clk l).state.d := by
  unfold recoveryPassed
  refine Exit.state_andThen (P := fun l' : Locked => l.d.Retained l'.d) ?_ fun l' h => ?_
  · split_ifs
    · exact retained_applyTransitionLocked ..
    · exact .refl _
  · have hcount : l.d.Retained (countSuccess l').d := h.trans (.of_eq rfl)
    simp only
    split_ifs
    · exact Exit.state_andThen (P := fun l' : Locked => l.d.Retained l'.d)
        (hcount.trans (retained_applyTransitionLocked ..)) fun _ h => h.trans (.of_eq rfl)
    · exact hcount

theorem retained_recoveryStep {v : ValidationRecord} :
    l.d.Retained (recoveryStep clk v l).state.d := by
  unfold recoveryStep recoveryFailed
  split_ifs
  · exact retained_recoveryPassed
  · exact retained_applyTransitionLocked ..
  · exact .refl _
  · exact .refl _

theorem retained_openRecovery : l.d.Retained (openRecovery now l).state.d := by
  unfold openRecovery
  simp only
  split
  · exact .of_eq rfl
  · exact .of_eq rfl

theorem retained_closeQuarantine {id : AcceleratorId} :
    l.d.Retained (closeQuarantine id l).d := by
  unfold closeQuarantine
  split
  · exact .refl _
  · exact .of_eq rfl

theorem retained_markLost {reason : Str} : l.d.Retained (markLost now reason l).state.d := by
  have hpresent : l.d.Retained { l.d with present := false } := .of_eq rfl
  unfold markLost
  simp only
  split_ifs
  · exact hpresent
  · exact hpresent.trans (retained_applyTransitionLocked (l := ⟨l.store, _⟩) ..)
  · exact .of_eq rfl

/-- The way into a recovery. -/
theorem retained_enterRecovery {now' : Timestamp} {label detail : Str} :
    l.d.Retained ((applyTransitionLocked now .recovering label detail l).andThen
      (openRecovery now')).state.d :=
  Exit.state_andThen (P := fun l' : Locked => l.d.Retained l'.d)
    (retained_applyTransitionLocked ..) fun _ h => h.trans retained_openRecovery

/-- A torn reassessment leaves the standing alone. -/
theorem standing_of_torn {e : Exn} (h : (reassessLocked clk l).result = .error e) :
    (reassessLocked clk l).state.d.standing = l.d.standing := by
  have htears : Tears (clk 0) l := by
    by_contra hnot
    rw [reassessLocked_returns_iff.mpr hnot] at h
    cases h
  rw [reassessLocked_eq_torn htears.1 htears.2]
  rfl

/-! ### The next verdict -/

/-- The evidence asks for DEGRADED, the table lets the device be there, and the policy
has degraded devices ready: the branch of the readiness rules that asks for nothing else. -/
structure DegradedReady (now : Timestamp) (l : Locked) : Prop where
  target : target now l = .degraded
  reached : l.d.state = .degraded ∨ canTransition l.d.state .degraded
  fresh : (l.store.policy.freshnessOf l.d.lastObservation now).isOld = false
  allowed : l.store.policy.allowDegradedReadiness = true

instance (now : Timestamp) (l : Locked) : Decidable (DegradedReady now l) :=
  decidable_of_iff (Locked.target now l = .degraded ∧
      (l.d.state = .degraded ∨ canTransition l.d.state .degraded) ∧
      (l.store.policy.freshnessOf l.d.lastObservation now).isOld = false ∧
      l.store.policy.allowDegradedReadiness = true)
    ⟨fun ⟨h₁, h₂, h₃, h₄⟩ => ⟨h₁, h₂, h₃, h₄⟩, fun ⟨h₁, h₂, h₃, h₄⟩ => ⟨h₁, h₂, h₃, h₄⟩⟩

theorem degradedReady_congr (hd : l'.d = l.d) (hpolicy : l'.store.policy = l.store.policy) :
    DegradedReady now l' ↔ DegradedReady now l := by
  have htarget : Locked.target now l' = Locked.target now l := by
    unfold Locked.target assessmentInput
    rw [hd, hpolicy]
  constructor
  · rintro ⟨h₁, h₂, h₃, h₄⟩
    exact ⟨htarget ▸ h₁, hd ▸ h₂, hd ▸ hpolicy ▸ h₃, hpolicy ▸ h₄⟩
  · rintro ⟨h₁, h₂, h₃, h₄⟩
    exact ⟨htarget ▸ h₁, hd ▸ h₂, hd ▸ hpolicy ▸ h₃, hpolicy ▸ h₄⟩

/-- What a completed reassessment at `now` has made of `m`. -/
structure Verdict (now : Timestamp) (m : Locked) (d : Device) : Prop where
  lastWorker : d.lastWorker = m.d.lastWorker
  lastWorkerBootId : d.lastWorkerBootId = m.d.lastWorkerBootId
  lastObservation : d.lastObservation = m.d.lastObservation
  requiresRevalidation : d.requiresRevalidation = m.d.requiresRevalidation
  timestamp : d.latestAssessment.timestamp = now
  fresh : d.claimsReady → (m.store.policy.freshnessOf m.d.lastObservation now).isOld = false
  trusted : d.claimsReady → m.d.requiresRevalidation = true → DegradedReady now m

/-- The verdict on the state held or moved to. -/
theorem verdict_published {blocked : Bool} {start : Locked}
    (hpolicy : l.store.policy = m.store.policy)
    (hstanding : l.d.standing = m.d.standing)
    (hreached : l.d.state = .degraded → blocked = false →
      target now m = .degraded ∧ (m.d.state = .degraded ∨ canTransition m.d.state .degraded)) :
    Verdict now m (published now start blocked l).d := by
  simp only [Device.standing, Standing.mk.injEq] at hstanding
  obtain ⟨h₁, h₂, h₃, h₄, -, -⟩ := hstanding
  have hadmits : (published now start blocked l).d.claimsReady →
      blocked = false ∧ (readinessInput now l).evaluate.state.admits := by
    intro h
    rw [claimsReady_published, Bool.and_eq_true, Bool.not_eq_true'] at h
    exact h
  have hfresh : (published now start blocked l).d.claimsReady →
      (m.store.policy.freshnessOf m.d.lastObservation now).isOld = false := by
    intro h
    obtain ⟨-, hold, -⟩ := evaluate_admits (hadmits h).2
    rw [← hpolicy, ← h₃]
    exact hold
  refine ⟨h₁, h₂, h₃, h₄, rfl, hfresh, fun h hrequires => ?_⟩
  obtain ⟨hblocked, hready⟩ := hadmits h
  rcases evaluate_requires hready with ⟨hstate, hallowed⟩ | ⟨-, -, -, hrestart⟩
  · obtain ⟨htarget, hreach⟩ := hreached hstate hblocked
    exact ⟨htarget, hreach, hfresh h, by rw [← hpolicy]; exact hallowed⟩
  · rw [← h₄, show l.d.requiresRevalidation = false from hrestart] at hrequires
    cases hrequires

theorem reassessLocked_verdict (clk : Readings) (m : Locked) :
    (reassessLocked clk m).Sat (fun _ l' => Verdict (clk 0) m l'.d)
      fun _ l' => l'.d.standing = m.d.standing := by
  apply reassessLocked_sat
  · intro htarget
    exact verdict_published rfl rfl fun hstate _ => ⟨htarget.trans hstate, Or.inl hstate⟩
  · intro g hlegal _
    refine verdict_published rfl rfl fun hstate _ => ?_
    have htarget : target (clk 0) m = .degraded := hstate
    exact ⟨htarget, Or.inr (htarget ▸ hlegal)⟩
  · intro _ _
    exact verdict_published rfl rfl fun _ h => by cases h
  · exact fun _ _ => rfl

/-- No reassessment changes whom a device was last observed by. -/
theorem lastWorker_reassessLocked (clk : Readings) (m : Locked) :
    (reassessLocked clk m).state.d.lastWorker = m.d.lastWorker ∧
      (reassessLocked clk m).state.d.lastWorkerBootId = m.d.lastWorkerBootId :=
  ((reassessLocked_verdict clk m).mono
    (S := fun _ l' => l'.d.lastWorker = m.d.lastWorker ∧
      l'.d.lastWorkerBootId = m.d.lastWorkerBootId)
    (T := fun _ l' => l'.d.lastWorker = m.d.lastWorker ∧
      l'.d.lastWorkerBootId = m.d.lastWorkerBootId)
    (fun _ _ h => ⟨h.lastWorker, h.lastWorkerBootId⟩) fun _ _ h =>
      ⟨congrArg Standing.lastWorker h, congrArg Standing.lastWorkerBootId h⟩).state

/-- Nor when. -/
theorem lastObservation_reassessLocked (clk : Readings) (m : Locked) :
    (reassessLocked clk m).state.d.lastObservation = m.d.lastObservation :=
  ((reassessLocked_verdict clk m).mono
    (S := fun _ l' => l'.d.lastObservation = m.d.lastObservation)
    (T := fun _ l' => l'.d.lastObservation = m.d.lastObservation)
    (fun _ _ h => h.lastObservation) fun _ _ h => congrArg Standing.lastObservation h).state

theorem target_ne_degraded (hr : l.d.inRecovery) : target now l ≠ .degraded := by
  unfold target AssessmentInput.target
  rw [if_pos (show (assessmentInput now l).inRecovery = true from hr)]
  cases (assessmentInput now l).currentState <;> simp [AssessmentInput.recoveryTarget]

/-- The branch leads to readiness, whatever else is amiss. -/
theorem claimsReady_of_degradedReady (h : DegradedReady (clk 0) m)
    (hreturns : (reassessLocked clk m).result = .ok ()) :
    (reassessLocked clk m).state.d.claimsReady := by
  have hrecovery : m.d.inRecovery = false := by
    rw [Bool.eq_false_iff]
    exact fun hr => target_ne_degraded hr h.target
  have hquarantined : m.d.quarantined = false := by
    rw [Bool.eq_false_iff]
    intro hq
    have htarget := h.target
    rw [target_quarantined hrecovery hq] at htarget
    cases htarget
  have hadmits : ∀ l : Locked, l.d.state = .degraded → l.d.quarantined = false →
      l.d.lastObservation = m.d.lastObservation → l.store.policy = m.store.policy →
        (readinessInput (clk 0) l).evaluate.state.admits := by
    intro l hstate hq hobs hpolicy
    have hold : (readinessInput (clk 0) l).freshness.isOld = false := by
      change (l.store.policy.freshnessOf l.d.lastObservation (clk 0)).isOld = false
      rw [hobs, hpolicy]
      exact h.fresh
    unfold ReadinessInput.evaluate
    rw [if_neg (by rw [show (readinessInput (clk 0) l).quarantined = false from hq]; simp),
      if_neg (by simp [hold])]
    simp only [show (readinessInput (clk 0) l).health = .degraded from hstate]
    rw [if_pos (by
      change l.store.policy.allowDegradedReadiness = true
      rw [hpolicy]
      exact h.allowed)]
    rfl
  have hsat : (reassessLocked clk m).Sat (fun _ l' => l'.d.claimsReady) fun _ _ => True := by
    apply reassessLocked_sat
    · intro hsame
      rw [claimsReady_published, hadmits m (hsame.symm.trans h.target) hquarantined rfl rfl]
      rfl
    · intro g _ _
      rw [claimsReady_published, hadmits (moved (clk 1) (target (clk 0) m) (str "health")
        (str (enumToString (target (clk 0) m))) g m) h.target hquarantined rfl rfl]
      rfl
    · intro hdiffers hblocked
      rw [h.target] at hdiffers hblocked
      rcases h.reached with hs | hs
      · exact absurd hs.symm hdiffers
      · rw [hs] at hblocked
        cases hblocked
    · exact fun _ _ => trivial
  exact (Exit.sat_iff.mp hsat).1 () hreturns

end Locked

namespace HealthStore

/-- Only `setPolicy` and the loads change the policy in force. -/
theorem step_policy {s : HealthStore} {c : Call} (hpolicy : ∀ policy, c.op ≠ .setPolicy policy)
    (hload : c.op.loads = false) : (s.step c).policy = s.policy := by
  by_cases hdev : c.op.onDevices = true
  · exact (step_evolves hdev).policy
  · unfold step exec
    cases hop : c.op with
    | setPolicy policy => exact absurd hop (hpolicy policy)
    | invalidateWorker worker boot =>
      simp only [Exit.mapResult_state, invalidateWorker]
      split_ifs
      · exact Exit.state_andThen (P := fun t : HealthStore => t.policy = s.policy)
          (forDevices_evolves fun i l => (Locked.advances_orphan _ worker boot l).continues).policy
          fun _ h => h
      · rfl
    | registerDevice uuid node =>
      simp only [registerDevice]
      split <;> rfl
    | rollCoordinatorEpoch | setCoordinatorEpoch e | registerWorker worker boot => rfl
    | decode data => simp [hop, Op.loads] at hload
    | loadFromFile contents => simp [hop, Op.loads] at hload
    | _ => simp [hop, Op.onDevices] at hdev

end HealthStore

/-- The policy by which a call judges. -/
def Op.policyIn (s : HealthStore) : Op → HealthPolicy
  | .setPolicy policy => policy
  | _ => s.policy

namespace HealthStore
open Locked

/-- The reassessment that a call makes of the device `k` it finds as `l`: the readings it
takes and the record it starts from. -/
inductive Enters (s : HealthStore) (c : Call) (k : AcceleratorId) (l : Locked) :
    Readings → Locked → Prop
  | fault {fault : Fault} {faults : FaultHistory} (op : c.op = .recordFault fault)
      (target : fault.accelerator = k) (recorded : l.d.faults.record fault = .ok faults) :
      Enters s c k l c.clk (takeFault fault faults l)
  | validation {v : ValidationRecord} (op : c.op = .recordValidation v)
      (target : v.accelerator = k) : Enters s c k l c.clk (addValidation v l)
  | quarantine {authority : QuarantineAuthority} {reason triggeredBy : Str} {m : Locked}
      (op : c.op = .beginQuarantine k authority reason triggeredBy)
      (moved : applyTransitionLocked (c.clk 1) .quarantined (str "quarantine") reason
        (openQuarantine (c.clk 0) k authority reason triggeredBy l) = .ok () m) :
      Enters s c k l (c.clk.drop 2) m
  | clear (op : c.op = .clearQuarantine k) : Enters s c k l c.clk (closeQuarantine k l)
  | recovery {m : Locked} (op : c.op = .beginRecovery k)
      (moved : (applyTransitionLocked (c.clk 0) .recovering (str "recovery")
        (str "begin recovery") l).andThen (openRecovery (c.clk 1)) = .ok () m) :
      Enters s c k l (c.clk.drop 2) m
  | revalidation {v : ValidationRecord} {m : Locked} (op : c.op = .revalidate k v)
      (moved : recoveryStep c.clk v (addValidation v l) = .ok () m) :
      Enters s c k l (c.clk.drop 3) m
  | reassess (op : c.op = .reassess k) : Enters s c k l c.clk l
  | reassessAll {i : Nat} (op : c.op = .reassessAll) (turn : (k, i) ∈ s.devices.keys.zipIdx) :
      Enters s c k l (c.clk.drop (2 * i)) l
  | policy {policy : HealthPolicy} {i : Nat} (op : c.op = .setPolicy policy)
      (turn : (k, i) ∈ s.devices.keys.zipIdx) :
      Enters s c k l (c.clk.drop (2 * i)) (flagPolicy l)

/-- A reassessment starts from the standing that the call has found. -/
theorem Enters.standing {s : HealthStore} {c : Call} {k : AcceleratorId} {l m : Locked}
    {clk : Readings} (h : Enters s c k l clk m) : m.d.standing = l.d.standing := by
  cases h with
  | fault | validation | reassess | reassessAll | policy => rfl
  | quarantine op moved =>
    have h := congrArg (fun x : Exit Exn Locked Unit => x.state.d.standing) moved
    exact h.symm.trans (standing_applyTransitionLocked ..)
  | clear => exact standing_closeQuarantine
  | recovery op moved =>
    have h := congrArg (fun x : Exit Exn Locked Unit => x.state.d.standing) moved
    apply h.symm.trans
    apply Exit.state_andThen (P := fun l' : Locked => l'.d.standing = l.d.standing)
    · apply standing_applyTransitionLocked
    · exact fun _ h => standing_openRecovery.trans h
  | revalidation op moved =>
    have h := congrArg (fun x : Exit Exn Locked Unit => x.state.d.standing) moved
    exact h.symm.trans standing_recoveryStep

theorem Enters.policy_eq {s : HealthStore} {c : Call} {k : AcceleratorId} {l m : Locked}
    {clk : Readings} (h : Enters s c k l clk m) : m.store.policy = l.store.policy := by
  cases h with
  | fault | validation | reassess | reassessAll | policy => rfl
  | quarantine op moved =>
    have h := congrArg (fun x : Exit Exn Locked Unit => x.state.store.policy) moved
    exact h.symm.trans (advances_applyTransitionLocked ..).continues.policy
  | clear => exact (proceeds_closeQuarantine k l).policy
  | recovery op moved =>
    have h := congrArg (fun x : Exit Exn Locked Unit => x.state.store.policy) moved
    have hadvances := (advances_applyTransitionLocked (c.clk 0) .recovering (str "recovery")
      (str "begin recovery") l).andThen (advances_openRecovery (c.clk 1))
    exact h.symm.trans hadvances.continues.policy
  | @revalidation v m op moved =>
    have h := congrArg (fun x : Exit Exn Locked Unit => x.state.store.policy) moved
    exact h.symm.trans (advances_recoveryStep ..).continues.policy

theorem Enters.retained {s : HealthStore} {c : Call} {k : AcceleratorId} {l m : Locked}
    {clk : Readings} (h : Enters s c k l clk m) (hpolicy : ∀ policy, c.op ≠ .setPolicy policy) :
    l.d.Retained m.d := by
  cases h with
  | fault => exact .of_eq rfl
  | reassess | reassessAll => exact .refl _
  | validation => exact retained_addValidation
  | @quarantine authority reason triggeredBy m op moved =>
    have hopen : l.d.Retained (openQuarantine (c.clk 0) k authority reason triggeredBy l).d :=
      .of_eq rfl
    have hmoved : (applyTransitionLocked (c.clk 1) .quarantined (str "quarantine") reason
        (openQuarantine (c.clk 0) k authority reason triggeredBy l)).state.d = m.d :=
      congrArg (fun x : Exit Exn Locked Unit => x.state.d) moved
    rw [← hmoved]
    exact hopen.trans (retained_applyTransitionLocked ..)
  | clear => exact retained_closeQuarantine
  | @recovery m op moved =>
    have hmoved : ((applyTransitionLocked (c.clk 0) .recovering (str "recovery")
        (str "begin recovery") l).andThen (openRecovery (c.clk 1))).state.d = m.d :=
      congrArg (fun x : Exit Exn Locked Unit => x.state.d) moved
    rw [← hmoved]
    exact retained_enterRecovery
  | @revalidation v m op moved =>
    have hmoved : (recoveryStep c.clk v (addValidation v l)).state.d = m.d :=
      congrArg (fun x : Exit Exn Locked Unit => x.state.d) moved
    rw [← hmoved]
    exact retained_addValidation.trans retained_recoveryStep
  | policy op => exact absurd op (hpolicy _)

/-- What has become of a device that a call found as `d`. -/
inductive Outcome (s : HealthStore) (c : Call) (k : AcceleratorId) (d d' : Device) : Prop
  | kept (standing : d'.standing = d.standing)
      (retained : (∀ policy, c.op ≠ .setPolicy policy) → d.Retained d')
  | judged {l m : Locked} {clk : Readings} (device : l.d = d)
      (policy : l.store.policy = c.op.policyIn s) (enters : Enters s c k l clk m)
      (returns : (reassessLocked clk m).result = .ok ())
      (eq : d' = (reassessLocked clk m).state.d)
  | observed {obs : AcceleratorObservation} {env : AuthorityEnvelope}
      (op : c.op = .acceptObservation obs env) (target : obs.accelerator = k)
      (passed : fence env ⟨s, d⟩ = none)
      (eq : d' = (reassessLocked c.clk (takeObservation obs env ⟨s, d⟩)).state.d)
  | stripped {l : Locked} {worker : WorkerId} {boot : WorkerBootId} {i : Nat}
      (op : c.op = .invalidateWorker worker boot) (current : s.isWorkerCurrent worker boot)
      (turn : (k, i) ∈ s.devices.keys.zipIdx) (device : l.d = d)
      (policy : l.store.policy = s.policy)
      (last : d.lastWorker = worker ∧ d.lastWorkerBootId = boot)
      (eq : d' = (reassessLocked (c.clk.drop (2 * i)) (strip l)).state.d)

section Outcome
variable {s : HealthStore} {c : Call} {k : AcceleratorId} {l : Locked}

/-- A call that leaves the device alone. -/
theorem Outcome.refl (d : Device) : Outcome s c k d d := .kept rfl fun _ => .refl d

/-- Edits that leave the standing alone, then a reassessment. -/
theorem outcome_andThen {clk : Readings} {x : Exit Exn Locked Unit}
    (hpolicy : l.store.policy = c.op.policyIn s) (hx : x.state.d.standing = l.d.standing)
    (hretained : (∀ policy, c.op ≠ .setPolicy policy) → l.d.Retained x.state.d)
    (henters : ∀ m, x = .ok () m → Enters s c k l clk m) :
    Outcome s c k l.d (x.andThen (reassessLocked clk)).state.d := by
  obtain ⟨m, res⟩ := x
  cases res with
  | error e => exact .kept hx hretained
  | ok u =>
    cases hres : (reassessLocked clk m).result with
    | error e =>
      exact .kept ((standing_of_torn hres).trans hx) fun hop =>
        (hretained hop).trans (retained_reassessLocked clk m)
    | ok u => exact .judged rfl hpolicy (henters m rfl) hres rfl

theorem outcome_edit {clk : Readings} {m : Locked} (hpolicy : l.store.policy = c.op.policyIn s)
    (henters : Enters s c k l clk m) : Outcome s c k l.d (reassessLocked clk m).state.d :=
  outcome_andThen (x := .ok () m) hpolicy henters.standing henters.retained fun _ h => by
    cases h
    exact henters

theorem outcome_beginQuarantine {authority : QuarantineAuthority} {reason triggeredBy : Str}
    (hop : c.op = .beginQuarantine k authority reason triggeredBy)
    (hpolicy : l.store.policy = c.op.policyIn s) :
    Outcome s c k l.d (Locked.beginQuarantine c.clk k authority reason triggeredBy l).state.d := by
  unfold Locked.beginQuarantine
  split_ifs
  · exact .refl _
  · have hopen : l.d.Retained (openQuarantine (c.clk 0) k authority reason triggeredBy l).d :=
      .of_eq rfl
    exact outcome_andThen hpolicy (standing_applyTransitionLocked ..)
      (fun _ => hopen.trans (retained_applyTransitionLocked ..)) fun m h => .quarantine hop h

theorem outcome_beginRecovery (hop : c.op = .beginRecovery k)
    (hpolicy : l.store.policy = c.op.policyIn s) :
    Outcome s c k l.d (Locked.beginRecovery c.clk l).state.d := by
  unfold Locked.beginRecovery
  split_ifs
  · exact .refl _
  · exact .refl _
  · apply outcome_andThen hpolicy
    · apply Exit.state_andThen (P := fun l' : Locked => l'.d.standing = l.d.standing)
      · apply standing_applyTransitionLocked
      · exact fun _ h => standing_openRecovery.trans h
    · exact fun _ => retained_enterRecovery
    · exact fun m h => .recovery hop h

theorem outcome_onDevice {α : Type} {id : AcceleratorId} {missing : Except Exn α}
    {body : Locked → Exit Exn Locked α} {d' : Device}
    (hbody : ∀ l, Continues l (body l).state)
    (hk : (onDevice id missing body s).state.devices.find? k = some d')
    (houtcome : ∀ d, k = id → s.devices.find? k = some d →
      Outcome s c k d (body ⟨s, d⟩).state.d) :
    ∃ d, s.devices.find? k = some d ∧ Outcome s c k d d' := by
  obtain ⟨d, hd, rfl | ⟨hid, rfl⟩⟩ := onDevice_device hbody hk
  · exact ⟨d', hd, .refl d'⟩
  · exact ⟨d, hd, houtcome d hid hd⟩

theorem outcome_reassessAll {d' : Device} (hop : c.op = .reassessAll)
    (hk : (s.reassessAll c.clk).state.devices.find? k = some d') :
    ∃ d, s.devices.find? k = some d ∧ Outcome s c k d d' := by
  obtain ⟨d, i, hd, hturn, hcase⟩ :=
    forDevices_turn (fun i l => (advances_reassessLocked (c.clk.drop (2 * i)) l).continues) hk
  refine ⟨d, hd, ?_⟩
  rcases hcase with rfl | ⟨s₁, hs₁, rfl⟩
  · exact .refl _
  · have hpolicy : (⟨s₁, d⟩ : Locked).store.policy = c.op.policyIn s := by
      rw [hop]
      exact hs₁.policy
    exact outcome_edit hpolicy (.reassessAll hop hturn)

theorem outcome_setPolicy {policy : HealthPolicy} {d' : Device} (hop : c.op = .setPolicy policy)
    (hk : (s.setPolicy c.clk policy).state.devices.find? k = some d') :
    ∃ d, s.devices.find? k = some d ∧ Outcome s c k d d' := by
  cases hg : s.policyGeneration.next with
  | error e =>
    rw [setPolicy_of_error hg] at hk
    exact ⟨d', hk, .refl d'⟩
  | ok g =>
    rw [setPolicy_of_ok hg] at hk
    have hkeys : (adoptPolicy policy g s).devices.keys = s.devices.keys := OrdMap.keys_mapValues ..
    obtain ⟨d₁, i, hd₁, hturn, hcase⟩ :=
      forDevices_turn (fun i l => (advances_reassessLocked (c.clk.drop (2 * i)) l).continues) hk
    obtain ⟨d, hd, rfl⟩ := find?_adoptPolicy hd₁
    refine ⟨d, hd, ?_⟩
    rcases hcase with rfl | ⟨s₁, hs₁, rfl⟩
    · exact .kept rfl fun hpolicy => absurd hop (hpolicy policy)
    · have hpolicy : (⟨s₁, d⟩ : Locked).store.policy = c.op.policyIn s := by
        rw [hop]
        exact hs₁.policy
      exact outcome_edit (l := ⟨s₁, d⟩) hpolicy (.policy hop (hkeys ▸ hturn))

theorem outcome_invalidateWorker {worker : WorkerId} {boot : WorkerBootId} {d' : Device}
    (hop : c.op = .invalidateWorker worker boot)
    (hk : (s.invalidateWorker c.clk worker boot).state.devices.find? k = some d') :
    ∃ d, s.devices.find? k = some d ∧ Outcome s c k d d' := by
  unfold invalidateWorker at hk
  split_ifs at hk with hcurrent
  · have hloop : (forDevices (fun i => orphan (c.clk.drop (2 * i)) worker boot)
        s).state.devices.find? k = some d' := by
      unfold Exit.andThen Exit.bind at hk
      split at hk <;> exact hk
    obtain ⟨d, i, hd, hturn, hcase⟩ :=
      forDevices_turn (fun i l => (advances_orphan _ worker boot l).continues) hloop
    refine ⟨d, hd, ?_⟩
    rcases hcase with rfl | ⟨s₁, hs₁, rfl⟩
    · exact .refl _
    · unfold orphan
      split_ifs with hlast
      · exact .stripped (l := ⟨s₁, d⟩) hop hcurrent hturn rfl hs₁.policy hlast rfl
      · exact .refl _
  · exact ⟨d', hk, .refl d'⟩

theorem outcome_acceptObservation {obs : AcceleratorObservation} {env : AuthorityEnvelope}
    {d : Device} (hop : c.op = .acceptObservation obs env) (hk : k = obs.accelerator) :
    Outcome s c k d (Locked.acceptObservation c.clk obs env ⟨s, d⟩).state.d := by
  unfold Locked.acceptObservation
  cases hf : fence env ⟨s, d⟩ with
  | some rejection => exact .refl _
  | none =>
    refine .observed hop hk.symm hf ?_
    simp only
    unfold Exit.andThen Exit.bind
    split <;> rfl

theorem outcome_recordFault {fault : Fault} {d : Device} (hop : c.op = .recordFault fault)
    (hk : k = fault.accelerator) :
    Outcome s c k d (Locked.recordFault c.clk fault ⟨s, d⟩).state.d := by
  unfold Locked.recordFault
  split
  · exact .refl _
  next faults hrec =>
    exact outcome_edit (l := ⟨s, d⟩) (by rw [hop]; rfl) (.fault hop hk.symm hrec)

/-- What a call that does not load makes of a device: it has an outcome, or it is new. -/
theorem step_outcome {d' : Device} (hload : c.op.loads = false)
    (hk : (s.step c).devices.find? k = some d') :
    (∃ d, s.devices.find? k = some d ∧ Outcome s c k d d') ∨
      ∃ uuid node, c.op = .registerDevice uuid node ∧ d' = newDevice (c.clk 0) k uuid node := by
  unfold step exec at hk
  cases hop : c.op with
  | registerDevice uuid node =>
    simp only [hop] at hk
    rcases registerDevice_device hk with hd | ⟨-, -, rfl⟩
    · exact Or.inl ⟨d', hd, .refl d'⟩
    · exact Or.inr ⟨uuid, node, rfl, rfl⟩
  | setPolicy policy =>
    simp only [hop] at hk
    exact Or.inl (outcome_setPolicy hop hk)
  | invalidateWorker worker boot =>
    simp only [hop] at hk
    exact Or.inl (outcome_invalidateWorker hop hk)
  | reassessAll =>
    simp only [hop] at hk
    exact Or.inl (outcome_reassessAll hop hk)
  | rollCoordinatorEpoch | setCoordinatorEpoch e | registerWorker worker boot =>
    simp only [hop] at hk
    exact Or.inl ⟨d', hk, .refl d'⟩
  | decode data => simp [hop, Op.loads] at hload
  | loadFromFile contents => simp [hop, Op.loads] at hload
  | markLost id reason =>
    simp only [hop] at hk
    exact Or.inl (outcome_onDevice (fun l => (advances_markLost ..).continues) hk
      fun d _ _ => .kept standing_markLost fun _ => retained_markLost (l := ⟨s, d⟩))
  | acceptObservation obs env =>
    simp only [hop] at hk
    exact Or.inl (outcome_onDevice (fun l => (advances_acceptObservation ..).continues) hk
      fun d hid _ => outcome_acceptObservation hop hid)
  | recordFault fault =>
    simp only [hop] at hk
    exact Or.inl (outcome_onDevice (fun l => (advances_recordFault ..).continues) hk
      fun d hid _ => outcome_recordFault hop hid)
  | recordValidation v =>
    simp only [hop] at hk
    exact Or.inl (outcome_onDevice (fun l => (advances_recordValidation ..).continues) hk
      fun d hid _ => outcome_edit (l := ⟨s, d⟩) (by rw [hop]; rfl) (.validation hop hid.symm))
  | beginQuarantine id authority reason triggeredBy =>
    simp only [hop] at hk
    refine Or.inl (outcome_onDevice (fun l => (advances_beginQuarantine ..).continues) hk
      fun d hid _ => ?_)
    subst hid
    exact outcome_beginQuarantine (l := ⟨s, d⟩) hop (by rw [hop]; rfl)
  | clearQuarantine id =>
    simp only [hop] at hk
    refine Or.inl (outcome_onDevice (fun l => (advances_clearQuarantine ..).continues) hk
      fun d hid _ => ?_)
    subst hid
    exact outcome_edit (l := ⟨s, d⟩) (by rw [hop]; rfl) (.clear hop)
  | beginRecovery id =>
    simp only [hop] at hk
    refine Or.inl (outcome_onDevice (fun l => (advances_beginRecovery ..).continues) hk
      fun d hid _ => ?_)
    subst hid
    exact outcome_beginRecovery (l := ⟨s, d⟩) hop (by rw [hop]; rfl)
  | revalidate id v =>
    simp only [hop] at hk
    refine Or.inl (outcome_onDevice (fun l => (advances_revalidate ..).continues) hk
      fun d hid _ => ?_)
    subst hid
    rw [revalidate_state]
    exact outcome_andThen (l := ⟨s, d⟩) (by rw [hop]; rfl) standing_recoveryStep
      (fun _ => retained_addValidation.trans retained_recoveryStep) fun m h => .revalidation hop h
  | reassess id =>
    simp only [hop] at hk
    refine Or.inl (outcome_onDevice (fun l => (advances_reassessLocked ..).continues) hk
      fun d hid _ => ?_)
    subst hid
    exact outcome_edit (l := ⟨s, d⟩) (by rw [hop]; rfl) (.reassess hop)

end Outcome
end HealthStore
end AcceleratorHealth
