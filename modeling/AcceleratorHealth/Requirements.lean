import AcceleratorHealth.FailedValidations

/-! Execution readiness against the policy's requirements, over whole runs. The HEALTHY
branch of the readiness rules checks depth, generation changes and the restart flag; the
DEGRADED branch checks none of them. -/
namespace AcceleratorHealth
open Persistence Locked

/-- A device assessed as execution ready meets the requirements. -/
def Device.Compliant (policy : HealthPolicy) (d : Device) : Prop :=
  d.latestAssessment.executionReady → d.Trusted policy

theorem Device.Retained.trusted {policy : HealthPolicy} {d d' : Device} (h : d.Retained d')
    (hd : d.Trusted policy) : d'.Trusted policy where
  depth := hd.depth.trans h.depth
  deviceGeneration := h.deviceGeneration hd.deviceGeneration
  policyGeneration := h.policyGeneration hd.policyGeneration
  restart := h.restart hd.restart

/-- The same verdict as before, with nothing required of it lost. -/
theorem Device.Retained.compliant {policy : HealthPolicy} {d d' : Device} (h : d.Retained d')
    (hassessed : d'.latestAssessment = d.latestAssessment) (hd : d.Compliant policy) :
    d'.Compliant policy := by
  intro hready
  rw [hassessed] at hready
  exact h.trusted (hd hready)

namespace Locked
variable {clk : Readings} {m : Locked}

/-- The record at the start of a reassessment keeps the DEGRADED branch within the
requirements: it does not lead there, or it meets them. -/
def Guarded (now : Timestamp) (m : Locked) : Prop :=
  DegradedReady now m → m.d.Trusted m.store.policy

instance (policy : HealthPolicy) (d : Device) : Decidable (d.Trusted policy) :=
  decidable_of_iff (policy.requiredValidationDepth ≤ d.highestValidation ∧
      d.deviceGenerationChangedFlag = false ∧ d.policyGenerationChangedFlag = false ∧
      d.requiresRevalidation = false)
    ⟨fun ⟨h₁, h₂, h₃, h₄⟩ => ⟨h₁, h₂, h₃, h₄⟩, fun ⟨h₁, h₂, h₃, h₄⟩ => ⟨h₁, h₂, h₃, h₄⟩⟩

instance (now : Timestamp) (m : Locked) : Decidable (Guarded now m) :=
  inferInstanceAs (Decidable (DegradedReady now m → m.d.Trusted m.store.policy))

theorem guarded_congr {now : Timestamp} {m m' : Locked} (hd : m'.d = m.d)
    (hpolicy : m'.store.policy = m.store.policy) : Guarded now m' ↔ Guarded now m := by
  unfold Guarded
  rw [degradedReady_congr hd hpolicy, hd, hpolicy]

/-- Of a record that serves, either the way over HEALTHY has checked the requirements, or the
DEGRADED branch is open to it. -/
theorem Serves.trusted {now : Timestamp} (h : Serves now m) (hguarded : Guarded now m) :
    m.d.Trusted m.store.policy := by
  obtain ⟨hclear, hfresh, ⟨-, -, htrusted⟩ | ⟨hcount, hreached, hallowed⟩⟩ := h
  · exact htrusted
  · have htarget : target now m = .degraded :=
      (AssessmentInput.target_eq_degraded (i := assessmentInput now m) hfresh).mpr
        ⟨hclear, hcount⟩
    exact hguarded ⟨htarget, hreached, hfresh, hallowed⟩

theorem compliant_reassessLocked (hwhole : ¬Tears (clk 0) m) (hguarded : Guarded (clk 0) m) :
    (reassessLocked clk m).state.d.Compliant m.store.policy := by
  intro hready
  have hclaims : (reassessLocked clk m).state.d.claimsReady := by
    unfold Device.claimsReady
    rw [hready, Bool.or_true]
  have hserves := (claimsReady_reassessLocked_iff hwhole).mp hclaims
  exact (retained_reassessLocked clk m).trusted (hserves.trusted hguarded)

theorem latestAssessment_of_tears (htears : Tears (clk 0) m) :
    (reassessLocked clk m).state.d.latestAssessment = m.d.latestAssessment := by
  rw [reassessLocked_eq_torn htears.1 htears.2]
  rfl

end Locked

namespace HealthStore

/-- Every record of this image complies with the policy that comes with it. -/
def ImageComplies (data : Bytes) : Prop :=
  ∀ h r, header data = some (h, r) → ∀ d ∈ records data, d.Compliant h.policy

/-- The steps that keep readiness within the requirements. The first condition is about the
DEGRADED branch, on the record that each reassessment of the call starts from; the others
see to it that a call that sets a requirement back is not cut short by an overflow, and that
an image is in order. -/
structure KeepsRequirements (s : HealthStore) (c : Call) : Prop where
  guarded : ∀ k clk m, Reassesses s c k clk m → ¬Tears (clk 0) m → Guarded (clk 0) m
  report : ∀ obs env d, c.op = .acceptObservation obs env →
    s.devices.find? obs.accelerator = some d → d.latestAssessment.executionReady →
      d.generation < env.deviceGeneration → d.healthGeneration ≠ .last
  policy : ∀ policy, c.op = .setPolicy policy → s.policyGeneration ≠ .last →
    s.AllDevices fun d => d.healthGeneration ≠ .last
  spent : ∀ policy, c.op = .setPolicy policy → s.policyGeneration = .last →
    s.AllDevices fun d => d.latestAssessment.executionReady →
      policy.requiredValidationDepth ≤ d.highestValidation
  image : ∀ data, c.op = .decode data → ImageComplies data
  file : ∀ data, c.op = .loadFromFile (some data) →
    ImageComplies data ∧ (decodeStateInternal data s).result ≠ .ok () ∨
      (decodeStateInternal data s).result = .ok () ∧ ∀ d ∈ records data, d.healthGeneration ≠ .last

section Step
variable {s : HealthStore} {c : Call} {k : AcceleratorId} {d d' : Device}

/-- A report takes nothing away unless it brings in a new device generation. -/
theorem retained_takeObservation {obs : AcceleratorObservation} {env : AuthorityEnvelope}
    {l : Locked} (hgen : ¬l.d.generation < env.deviceGeneration) :
    l.d.Retained (takeObservation obs env l).d := by
  unfold takeObservation
  rw [if_neg hgen]
  exact ⟨le_refl _, id, id, fun _ => rfl⟩

theorem latestAssessment_takeObservation {obs : AcceleratorObservation} {env : AuthorityEnvelope}
    {l : Locked} : (takeObservation obs env l).d.latestAssessment = l.d.latestAssessment := by
  unfold takeObservation
  simp only
  split_ifs <;> rfl

theorem generation_takeObservation {obs : AcceleratorObservation} {env : AuthorityEnvelope}
    {l : Locked} : (takeObservation obs env l).d.healthGeneration = l.d.healthGeneration := by
  unfold takeObservation
  simp only
  split_ifs <;> rfl

/-- What a call other than a change of policy or a load makes of a device. -/
theorem Outcome.compliant (h : Outcome s c k d d') (hd : s.devices.find? k = some d)
    (hkeeps : s.KeepsRequirements c) (hpolicy : ∀ policy, c.op ≠ .setPolicy policy)
    (hs : d.Compliant s.policy) : d'.Compliant s.policy := by
  have hjudges : c.op.policyIn s = s.policy := by
    cases hop : c.op with
    | setPolicy policy => exact absurd hop (hpolicy policy)
    | _ => rfl
  cases h with
  | kept hstanding hretained =>
    exact (hretained hpolicy).compliant (congrArg Standing.latestAssessment hstanding) hs
  | @judged l m clk device policy enters returns eq =>
    have hwhole := reassessLocked_returns_iff.mp returns
    have hcompliant := compliant_reassessLocked hwhole
      (hkeeps.guarded k clk m (.entered hd device policy enters) hwhole)
    rw [eq]
    rwa [enters.policy_eq, policy, hjudges] at hcompliant
  | @observed obs env op target passed eq =>
    have hreassesses : Reassesses s c k c.clk (takeObservation obs env ⟨s, d⟩) :=
      .observed op target hd passed
    rw [eq]
    by_cases htears : Tears (c.clk 0) (takeObservation obs env ⟨s, d⟩)
    · -- The report is in, the verdict is the old one.
      have hassessed := (latestAssessment_of_tears htears).trans latestAssessment_takeObservation
      by_cases hgen : d.generation < env.deviceGeneration
      · intro hready
        rw [hassessed] at hready
        have hlast := hkeeps.report obs env d op (target ▸ hd) hready hgen
        exact absurd (generation_takeObservation.symm.trans htears.2) hlast
      · exact ((retained_takeObservation (l := ⟨s, d⟩) hgen).trans
          (retained_reassessLocked ..)).compliant hassessed hs
    · exact compliant_reassessLocked htears (hkeeps.guarded k _ _ hreassesses htears)
  | @stripped l worker boot i op _ turn device policy last eq =>
    have hreassesses : Reassesses s c k (c.clk.drop (2 * i)) (strip l) :=
      .stripped op turn hd device policy last
    rw [eq]
    by_cases htears : Tears ((c.clk.drop (2 * i)) 0) (strip l)
    · have hstripped : d.Retained (strip l).d := by
        rw [← device]
        exact ⟨le_refl _, fun _ => rfl, id, id⟩
      have hassessed : (strip l).d.latestAssessment = d.latestAssessment := by
        rw [← device]
        rfl
      exact (hstripped.trans (retained_reassessLocked ..)).compliant
        ((latestAssessment_of_tears htears).trans hassessed) hs
    · have hcompliant := compliant_reassessLocked htears
        (hkeeps.guarded k _ _ hreassesses htears)
      rwa [show (strip l).store.policy = s.policy from policy] at hcompliant

theorem compliant_setPolicy {policy : HealthPolicy} (hop : c.op = .setPolicy policy)
    (hkeeps : s.KeepsRequirements c) (hs : s.AllDevices (Device.Compliant s.policy)) :
    (s.setPolicy c.clk policy).state.AllDevices (Device.Compliant policy) := by
  cases hg : s.policyGeneration.next with
  | error e =>
    rw [setPolicy_of_error hg]
    intro k d hk hready
    have hspent := hkeeps.spent policy hop (Generation.next_eq_error hg).1
    exact { hs k d hk hready with depth := hspent k d hk hready }
  | ok g =>
    rw [setPolicy_of_ok hg]
    have hlast : s.policyGeneration ≠ .last := by
      intro hlast
      rw [Generation.next, if_pos hlast] at hg
      cases hg
    have hroom := hkeeps.policy policy hop hlast
    have hkeys : (adoptPolicy policy g s).devices.keys = s.devices.keys := OrdMap.keys_mapValues ..
    -- With room on every device the loop visits all of them.
    have hreturns : ((adoptPolicy policy g s).reassessAll c.clk).result = .ok () := by
      refine reassessAll_returns_iff.mpr fun k i d _ hd htears => ?_
      obtain ⟨d₀, hd₀, rfl⟩ := find?_adoptPolicy hd
      exact hroom k d₀ hd₀ htears.2
    intro k d' hk
    obtain ⟨d₁, hd₁, -⟩ := reassessAll_device hk
    obtain ⟨d, hd, rfl⟩ := find?_adoptPolicy hd₁
    obtain ⟨i, hturn⟩ := exists_turn hd₁
    obtain ⟨s₁, hs₁, hres, hfind⟩ := (looped_forDevices (fun i l =>
      (advances_reassessLocked (c.clk.drop (2 * i)) l).continues) _).completed hreturns k i _
        hturn hd₁
    cases hk.symm.trans hfind
    have hwhole := reassessLocked_returns_iff.mp hres
    have hjudges : s₁.policy = c.op.policyIn s := by
      rw [hop]
      exact hs₁.policy
    have hreassesses : Reassesses s c k (c.clk.drop (2 * i)) (flagPolicy ⟨s₁, d⟩) :=
      .entered (l := ⟨s₁, d⟩) hd rfl hjudges (.policy hop (hkeys ▸ hturn))
    have hcompliant := compliant_reassessLocked hwhole (hkeeps.guarded k _ _ hreassesses hwhole)
    rwa [show (⟨s₁, _⟩ : Locked).store.policy = policy from hs₁.policy] at hcompliant

theorem compliant_load {data : Bytes} (hop : c.op = .loadFromFile (some data))
    (hkeeps : s.KeepsRequirements c) (hs : s.AllDevices (Device.Compliant s.policy)) :
    (loadInternal c.clk (some data) s).state.AllDevices
      (Device.Compliant (loadInternal c.clk (some data) s).state.policy) := by
  refine loadInternal_leaves (P := fun t => t.AllDevices (Device.Compliant t.policy))
    (fun hrefused => ?_) fun hres => ?_
  · have himage := (hkeeps.file data hop).resolve_right fun h => hrefused h.1
    exact allDevices_decode hs himage.1
  · obtain ⟨-, hroom⟩ := (hkeeps.file data hop).resolve_left fun h => h.2 hres
    have haccepted : (loadInternal c.clk (some data) s).result = .ok (.ok ()) :=
      load_of_room hres hroom
    rw [← load_state haccepted]
    have hpolicy : (loadInternal c.clk (some data) s).state.policy =
        (decodeStateInternal data s).state.policy := by
      rw [load_state haccepted]
      exact (reassessAll_evolves ..).policy
    intro k d' hk
    obtain ⟨d, hd, -⟩ := reassessAll_device (load_state haccepted ▸ hk)
    obtain ⟨i, s₁, hturn, hs₁, hret, hfind⟩ := load_turn haccepted hd
    cases hk.symm.trans hfind
    have hwhole := reassessLocked_returns_iff.mp hret
    have hreassesses : Reassesses s c k (c.clk.drop (2 * i)) ⟨s₁, d⟩ :=
      .restored hop hres hturn hd rfl hs₁.policy
    have hcompliant := compliant_reassessLocked hwhole (hkeeps.guarded k _ _ hreassesses hwhole)
    rw [hpolicy]
    rwa [show (⟨s₁, d⟩ : Locked).store.policy = _ from hs₁.policy] at hcompliant

theorem step_compliant (hs : s.AllDevices (Device.Compliant s.policy))
    (h : s.KeepsRequirements c) :
    (s.step c).AllDevices (Device.Compliant (s.step c).policy) := by
  by_cases hpolicy : ∃ policy, c.op = .setPolicy policy
  · obtain ⟨policy, hop⟩ := hpolicy
    have hstep : s.step c = (s.setPolicy c.clk policy).state := by
      unfold step exec
      rw [hop]
      rfl
    have hset : (s.setPolicy c.clk policy).state.policy = policy := by
      cases hg : s.policyGeneration.next with
      | error e =>
        rw [setPolicy_of_error hg]
        rfl
      | ok g =>
        rw [setPolicy_of_ok hg]
        exact (reassessAll_evolves ..).policy
    rw [hstep, hset]
    exact compliant_setPolicy hop h hs
  have hpolicy' : ∀ policy, c.op ≠ .setPolicy policy := fun policy hop => hpolicy ⟨policy, hop⟩
  by_cases hload : c.op.loads = false
  · rw [step_policy hpolicy' hload]
    intro k d' hk
    rcases step_outcome hload hk with ⟨d, hd, houtcome⟩ | ⟨uuid, node, -, rfl⟩
    · exact houtcome.compliant hd h hpolicy' (hs k d hd)
    · exact fun hready => by simp [newDevice] at hready
  · rcases step_loads (s := s) (Bool.of_not_eq_false hload) with
      ⟨data, hop, hstep⟩ | ⟨-, hstep⟩ | ⟨data, hop, hstep⟩ <;> rw [hstep]
    · exact allDevices_decode hs (h.image data hop)
    · exact hs
    · exact compliant_load hop h hs

end Step

/-- A device assessed as execution ready is validated as deep as the policy in force
requires, has no generation change pending and is not marked after a restart. -/
def ReadyMeetsRequirements (s : HealthStore) : Prop :=
  ∀ k d, s.devices.find? k = some d → d.latestAssessment.executionReady = true →
    s.policy.requiredValidationDepth ≤ d.highestValidation ∧
      d.deviceGenerationChangedFlag = false ∧ d.policyGenerationChangedFlag = false ∧
      d.requiresRevalidation = false

/-- Readiness implies the requirements in every run whose steps keep them. -/
theorem ready_meets_requirements (policy : HealthPolicy) (epoch : UInt64) (calls : List Call)
    (hrun : Machine.Along step KeepsRequirements (init policy epoch) calls) :
    (after policy epoch calls).ReadyMeetsRequirements := by
  have hinv : (after policy epoch calls).AllDevices
      (Device.Compliant (after policy epoch calls).policy) :=
    Machine.run_invariant (P := fun s => s.AllDevices (Device.Compliant s.policy))
      (fun s c hs hc => step_compliant hs hc)
      (allDevices_init (Device.Compliant policy) policy epoch) hrun
  intro k d hk hready
  obtain ⟨h₁, h₂, h₃, h₄⟩ := hinv k d hk hready
  exact ⟨h₁, h₂, h₃, h₄⟩

theorem keepsRequirements_of_guarded {s : HealthStore} {c : Call} (hload : c.op.loads = false)
    (hpolicy : ∀ policy, c.op ≠ .setPolicy policy)
    (hroom : s.AllDevices fun d => d.healthGeneration ≠ .last)
    (hguarded : ∀ k clk m, Reassesses s c k clk m → Guarded (clk 0) m) :
    KeepsRequirements s c where
  guarded k clk m h _ := hguarded k clk m h
  report _ _ d _ hd _ _ := hroom _ d hd
  policy policy hop := absurd hop (hpolicy policy)
  spent policy hop := absurd hop (hpolicy policy)
  image data hop := by simp [hop, Op.loads] at hload
  file data hop := by simp [hop, Op.loads] at hload

theorem guarded_of_fault {s : HealthStore} {id : FaultId}
    (h : s.AllDevices fun d => (d.faults.record (recoverable id)).toOption.all (fun faults =>
      decide (Guarded ⟨1⟩ (takeFault (recoverable id) faults ⟨s, d⟩))) = true) :
    ∀ k clk m, Reassesses s (recoverableFault id) k clk m → Guarded (clk 0) m := by
  intro k clk m hr
  obtain ⟨l, faults, hd, rfl, hpolicy, hrecord, rfl⟩ := hr.of_fault rfl
  have hall := h k l.d hd
  simp only [hrecord, Except.toOption, Option.all_some] at hall
  refine (guarded_congr ?_ ?_).mpr (of_decide_eq_true hall)
  · rfl
  · exact hpolicy

/-- A device validated in full may be ready while DEGRADED. -/
theorem ready_meets_requirements_after_faults :
    (after {} 0 (bringUp ++
      [recoverableFault ⟨1⟩, recoverableFault ⟨2⟩])).ReadyMeetsRequirements := by
  have hvalidated : (after {} 0 (bringUp.take 2)).AllDevices fun d => Guarded ⟨1⟩
      (addValidation { id := ⟨1⟩, accelerator := ⟨7⟩, depth := .full, passed := true }
        ⟨after {} 0 (bringUp.take 2), d⟩) := by decide +kernel
  have hobserved : (after {} 0 (bringUp.take 3)).AllDevices fun d => Guarded ⟨1⟩
      (takeObservation { accelerator := ⟨7⟩, worker := ⟨1⟩, workerBootId := ⟨1⟩, timestamp := ⟨1⟩ }
        { workerId := ⟨1⟩, workerBootId := ⟨1⟩, observationGeneration := ⟨1⟩
          deviceGeneration := ⟨1⟩ } ⟨after {} 0 (bringUp.take 3), d⟩) := by decide +kernel
  apply ready_meets_requirements
  refine ⟨?_, ?_, ?_, ?_, ?_, ?_, trivial⟩
  · refine keepsRequirements_of_guarded rfl (by simp [Op.at]) (by decide +kernel) ?_
    exact fun k clk m h => absurd h (idle_of_registers (Or.inl ⟨_, _, rfl⟩) k clk m)
  · refine keepsRequirements_of_guarded rfl (by simp [Op.at]) (by decide +kernel) ?_
    exact fun k clk m h => absurd h (idle_of_registers (Or.inr ⟨_, _, rfl⟩) k clk m)
  · refine keepsRequirements_of_guarded rfl (by simp [Op.at]) (by decide +kernel) ?_
    intro k clk m h
    obtain ⟨l, hd, rfl, hpolicy, rfl⟩ := h.of_validation rfl
    refine (guarded_congr ?_ ?_).mpr (hvalidated k l.d hd)
    · rfl
    · exact hpolicy
  · refine keepsRequirements_of_guarded rfl (by simp [Op.at]) (by decide +kernel) ?_
    intro k clk m h
    obtain ⟨d, hd, rfl, rfl⟩ := h.of_observation rfl
    exact hobserved k d hd
  · exact keepsRequirements_of_guarded rfl (by simp [recoverableFault, Op.at])
      (by decide +kernel) (guarded_of_fault (by decide +kernel))
  · exact keepsRequirements_of_guarded rfl (by simp [recoverableFault, Op.at])
      (by decide +kernel) (guarded_of_fault (by decide +kernel))

/-- Not ready as HEALTHY for want of a validation, the device is made ready by the faults
that degrade it. -/
theorem unvalidated_device_ready_by_degrading :
    ((after {} 0 unvalidated).AllDevices fun d =>
      d.state = .healthy ∧ d.latestAssessment.executionReady = false) ∧
      ¬(after {} 0 (unvalidated ++
        [recoverableFault ⟨1⟩, recoverableFault ⟨2⟩])).ReadyMeetsRequirements := by
  refine ⟨by decide +kernel, fun h => ?_⟩
  have hview : ((after {} 0 (unvalidated ++
      [recoverableFault ⟨1⟩, recoverableFault ⟨2⟩])).devices.find?
      ⟨7⟩).map (fun d => (d.latestAssessment.executionReady, d.highestValidation)) =
        some (true, .none) := by decide +kernel
  obtain ⟨d, hd, heq⟩ := Option.map_eq_some_iff.mp hview
  obtain ⟨hready, hdepth⟩ := Prod.mk.inj heq
  have hrequired := (h _ d hd hready).1
  rw [hdepth] at hrequired
  revert hrequired
  decide +kernel

end HealthStore
end AcceleratorHealth
