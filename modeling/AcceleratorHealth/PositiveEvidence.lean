import AcceleratorHealth.Service

/-! What HEALTHY rests on. The scan of the dimensions looks for failures alone: nominal
dimensions are not counted, a degraded one is named in the reasons and nothing more, and no
rule asks for the enumeration. A record that nothing is held against is enough. -/
namespace AcceleratorHealth
open Locked

/-- The dimensions speak for the device: one at least is NOMINAL, the enumeration is where
the policy asks for it, and none is DEGRADED. -/
structure Device.Evidenced (policy : HealthPolicy) (d : Device) : Prop where
  nominal : ∃ dim ∈ d.dimensions.values, dim.state = .nominal
  enumeration : policy.requireEnumeratedForHealth = true →
    ∃ dim, d.dimensions.find? .enumeration = some dim ∧ dim.state = .nominal
  degraded : ∀ dim ∈ d.dimensions.values, dim.state ≠ .degraded

/-- Positive evidence: besides, none is FAILED. -/
structure Device.Positive (policy : HealthPolicy) (d : Device) : Prop
    extends d.Evidenced policy where
  failed : ∀ dim ∈ d.dimensions.values, dim.state ≠ .failed

theorem evaluate_ready_iff {i : ReadinessInput} (hruntime : i.runtimeCompatibilityChanged = false) :
    i.evaluate.state = .ready ↔ i.quarantined = false ∧ i.freshness = .current ∧
      i.health = .healthy ∧ i.requiredValidationDepth ≤ i.validationDepth ∧
      i.deviceGenerationChanged = false ∧ i.policyGenerationChanged = false ∧
      i.requiresRevalidation = false := by
  constructor
  · intro h
    have hadmits : i.evaluate.state.admits := by
      rw [h]
      rfl
    obtain ⟨hq, hold, hway⟩ := (evaluate_admits_iff hruntime).mp hadmits
    unfold ReadinessInput.evaluate at h
    rw [if_neg (by simp [hq]), if_neg (by simp [hold])] at h
    rcases hway with ⟨hstate, hallowed⟩ | ⟨hstate, hdepth, hdevice, hpolicy, hrestart⟩
    · simp only [hstate, if_pos hallowed] at h
      cases h
    · simp only [hstate] at h
      rw [if_neg (by simp [hold]), if_neg (not_lt.mpr hdepth),
        if_neg (by simp [hdevice, hpolicy, hruntime]), if_neg (by simp [hrestart])] at h
      have hcurrent : i.freshness = .current := by
        cases hfresh : i.freshness with
        | current => rfl
        | aging =>
          rw [if_pos hfresh] at h
          cases h
        | stale | expired =>
          rw [hfresh] at hold
          cases hold
      exact ⟨hq, hcurrent, hstate, hdepth, hdevice, hpolicy, hrestart⟩
  · rintro ⟨hq, hcurrent, hstate, hdepth, hdevice, hpolicy, hrestart⟩
    have hold : i.freshness.isOld = false := by
      rw [hcurrent]
      rfl
    unfold ReadinessInput.evaluate
    rw [if_neg (by simp [hq]), if_neg (by simp [hold])]
    simp only [hstate]
    rw [if_neg (by simp [hold]), if_neg (not_lt.mpr hdepth),
      if_neg (by simp [hdevice, hpolicy, hruntime]), if_neg (by simp [hrestart]),
      if_neg (by simp [hcurrent])]
    rfl

namespace Locked
variable {now : Timestamp} {clk : Readings} {l m : Locked}

/-- The record `m` qualifies its device for HEALTHY at `now`: nothing is held against it, its
evidence is fresh, and it is INITIALIZING or about to be READY. -/
structure Qualifies (now : Timestamp) (m : Locked) : Prop where
  clear : (assessmentInput now m).Clear
  fresh : (m.store.policy.freshnessOf m.d.lastObservation now).isOld = false
  count : (assessmentInput now m).consecutive < m.store.policy.degradeAfterFailures.toInt32
  use : m.d.state = .initializing ∨ ¬Tears now m ∧
    (m.d.state = .healthy ∨ canTransition m.d.state .healthy) ∧
    m.store.policy.freshnessOf m.d.lastObservation now = .current ∧ m.d.Trusted m.store.policy

/-- The reassessment moves the device from INITIALIZING to HEALTHY, or publishes READY. -/
def Vouches (clk : Readings) (m : Locked) : Prop :=
  m.d.state = .initializing ∧ (reassessLocked clk m).state.d.state = .healthy ∨
    (reassessLocked clk m).result = .ok () ∧ (reassessLocked clk m).state.d.readiness = .ready

theorem ready_published_iff (hbasis : l.basis = m.basis) {start : Locked} {blocked : Bool} :
    (published now start blocked l).d.readiness = .ready ↔
      blocked = false ∧ l.d.state = .healthy ∧ m.d.quarantined = false ∧
        m.store.policy.freshnessOf m.d.lastObservation now = .current ∧
        m.d.Trusted m.store.policy := by
  have hpolicy : l.store.policy = m.store.policy := congrArg Prod.fst hbasis
  have hquarantined := of_basis_eq hbasis Device.quarantined fun _ => rfl
  have hfresh : l.store.policy.freshnessOf l.d.lastObservation now =
      m.store.policy.freshnessOf m.d.lastObservation now := by
    rw [hpolicy, of_basis_eq hbasis Device.lastObservation fun _ => rfl]
  cases blocked with
  | true =>
    constructor
    · intro h
      cases h
    · rintro ⟨h, -⟩
      cases h
  | false =>
    show (readinessInput now l).evaluate.state = .ready ↔ _
    rw [evaluate_ready_iff rfl]
    constructor
    · rintro ⟨hq, hcurrent, hstate, h₁, h₂, h₃, h₄⟩
      exact ⟨rfl, hstate, hquarantined.symm.trans hq, hfresh.symm.trans hcurrent,
        (trusted_congr hbasis).mp ⟨h₁, h₂, h₃, h₄⟩⟩
    · rintro ⟨-, hstate, hq, hcurrent, htrusted⟩
      obtain ⟨h₁, h₂, h₃, h₄⟩ := (trusted_congr hbasis).mpr htrusted
      exact ⟨hquarantined.trans hq, hfresh.trans hcurrent, hstate, h₁, h₂, h₃, h₄⟩

theorem ready_reassessLocked_iff (hwhole : ¬Tears (clk 0) m) :
    (reassessLocked clk m).state.d.readiness = .ready ↔ target (clk 0) m = .healthy ∧
      (m.d.state = .healthy ∨ canTransition m.d.state .healthy) ∧
      m.store.policy.freshnessOf m.d.lastObservation (clk 0) = .current ∧
      m.d.Trusted m.store.policy := by
  have hquarantined : target (clk 0) m = .healthy → m.d.quarantined = false := fun h =>
    (AssessmentInput.target_eq_healthy.mp h).1.quarantined
  have hsat : (reassessLocked clk m).Sat (fun _ l' => l'.d.readiness = .ready ↔
      target (clk 0) m = .healthy ∧ (m.d.state = .healthy ∨ canTransition m.d.state .healthy) ∧
        m.store.policy.freshnessOf m.d.lastObservation (clk 0) = .current ∧
        m.d.Trusted m.store.policy) fun _ _ => True := by
    apply reassessLocked_sat
    · intro hsame
      rw [ready_published_iff rfl, hsame]
      constructor
      · rintro ⟨-, hstate, -, hrest⟩
        exact ⟨hstate, Or.inl hstate, hrest⟩
      · rintro ⟨hstate, -, hrest⟩
        exact ⟨rfl, hstate, hquarantined (hsame.trans hstate), hrest⟩
    · intro g hlegal _
      rw [ready_published_iff (m := m) basis_moved]
      constructor
      · rintro ⟨-, hstate, -, hrest⟩
        have htarget : target (clk 0) m = .healthy := hstate
        exact ⟨htarget, Or.inr (htarget ▸ hlegal), hrest⟩
      · rintro ⟨htarget, -, hrest⟩
        exact ⟨rfl, htarget, hquarantined htarget, hrest⟩
    · intro hdiffers hillegal
      rw [ready_published_iff rfl]
      constructor
      · rintro ⟨h, -⟩
        cases h
      · rintro ⟨htarget, hstate | hlegal, -⟩
        · exact absurd (htarget.trans hstate.symm) hdiffers
        · rw [htarget, hlegal] at hillegal
          cases hillegal
    · exact fun _ _ => trivial
  exact (Exit.sat_iff.mp hsat).1 () (reassessLocked_returns_iff.mpr hwhole)

theorem vouches_iff : Vouches clk m ↔ Qualifies (clk 0) m := by
  constructor
  · rintro (⟨hinit, hhealthy⟩ | ⟨hreturns, hready⟩)
    · have hlegal : canTransition m.d.state .healthy := by
        rw [hinit]
        decide
      have htarget := (reassessLocked_reaches_iff hlegal).mp hhealthy
      obtain ⟨hclear, hfresh, hcount⟩ := AssessmentInput.target_eq_healthy.mp htarget
      exact ⟨hclear, hfresh, hcount, Or.inl hinit⟩
    · have hwhole := reassessLocked_returns_iff.mp hreturns
      obtain ⟨htarget, hrest⟩ := (ready_reassessLocked_iff hwhole).mp hready
      obtain ⟨hclear, hfresh, hcount⟩ := AssessmentInput.target_eq_healthy.mp htarget
      exact ⟨hclear, hfresh, hcount, Or.inr ⟨hwhole, hrest⟩⟩
  · rintro ⟨hclear, hfresh, hcount, hinit | ⟨hwhole, hrest⟩⟩
    · have hlegal : canTransition m.d.state .healthy := by
        rw [hinit]
        decide
      have htarget : target (clk 0) m = .healthy :=
        AssessmentInput.target_eq_healthy.mpr ⟨hclear, hfresh, hcount⟩
      exact Or.inl ⟨hinit, (reassessLocked_reaches_iff hlegal).mpr htarget⟩
    · have htarget : target (clk 0) m = .healthy :=
        AssessmentInput.target_eq_healthy.mpr ⟨hclear, hfresh, hcount⟩
      exact Or.inr ⟨reassessLocked_returns_iff.mpr hwhole,
        (ready_reassessLocked_iff hwhole).mpr ⟨htarget, hrest⟩⟩

/-- A reassessment rests on positive evidence exactly when the dimensions of a record that
qualifies speak for the device. -/
theorem vouches_positive_iff :
    (Vouches clk m → (reassessLocked clk m).state.d.Positive m.store.policy) ↔
      (Qualifies (clk 0) m → m.d.Evidenced m.store.policy) := by
  have hdimensions : (reassessLocked clk m).state.d.dimensions = m.d.dimensions :=
    of_basis_eq (basis_reassessLocked clk m) Device.dimensions fun _ => rfl
  rw [vouches_iff]
  constructor
  · intro h hqualifies
    obtain ⟨hnominal, henumeration, hdegraded⟩ := (h hqualifies).toEvidenced
    rw [hdimensions] at hnominal henumeration hdegraded
    exact ⟨hnominal, henumeration, hdegraded⟩
  · intro h hqualifies
    obtain ⟨hnominal, henumeration, hdegraded⟩ := h hqualifies
    have hfailed : ∀ dim ∈ m.d.dimensions.values, dim.state ≠ .failed := hqualifies.clear.dimensions
    rw [← hdimensions] at hnominal henumeration hdegraded hfailed
    exact ⟨⟨hnominal, henumeration, hdegraded⟩, hfailed⟩

end Locked

namespace HealthStore

/-- Every reassessment that the call makes and that vouches for a device finds positive
evidence on record. -/
def RestsOnEvidence (s : HealthStore) (c : Call) : Prop :=
  ∀ k clk m, Reassesses s c k clk m → Vouches clk m →
    (reassessLocked clk m).state.d.Positive m.store.policy

/-- Every record that a reassessment of the call finds to qualify is backed by its
dimensions. -/
def EvidencesQualified (s : HealthStore) (c : Call) : Prop :=
  ∀ k clk m, Reassesses s c k clk m → Qualifies (clk 0) m → m.d.Evidenced m.store.policy

/-- A run makes devices HEALTHY or READY on positive evidence alone exactly when each record
that qualifies, by what is not held against it, is backed by its dimensions. -/
theorem healthy_on_evidence_iff (policy : HealthPolicy) (epoch : UInt64) (calls : List Call) :
    (∀ before c, before ++ [c] <+: calls → (after policy epoch before).RestsOnEvidence c) ↔
      Machine.Along step EvidencesQualified (init policy epoch) calls := by
  rw [Machine.along_iff_forall_prefix]
  refine forall₃_congr fun before c _ => forall₃_congr fun k clk m => ?_
  exact imp_congr_right fun _ => vouches_positive_iff

/-- The report that brings device 7 up: it has no dimension at all. -/
def emptyReport : AcceleratorObservation :=
  { accelerator := ⟨7⟩, worker := ⟨1⟩, workerBootId := ⟨1⟩, timestamp := ⟨1⟩ }

def emptyReportEnvelope : AuthorityEnvelope :=
  { workerId := ⟨1⟩, workerBootId := ⟨1⟩, observationGeneration := ⟨1⟩, deviceGeneration := ⟨1⟩ }

/-- Device 7 is moved from INITIALIZING to HEALTHY by a report without a dimension. -/
theorem healthy_without_dimensions : ¬∀ (policy : HealthPolicy) (epoch : UInt64)
    (calls before : List Call) (c : Call), before ++ [c] <+: calls →
      (after policy epoch before).RestsOnEvidence c := by
  intro h
  have hrests := h {} 0 bringUp (bringUp.take 3)
    ((Op.acceptObservation emptyReport emptyReportEnvelope).at 1) List.prefix_rfl
  have hview : ((after {} 0 (bringUp.take 3)).devices.find? ⟨7⟩).any (fun d =>
      let m := takeObservation emptyReport emptyReportEnvelope ⟨after {} 0 (bringUp.take 3), d⟩
      let d' := (reassessLocked (fun _ => ⟨1⟩) m).state.d
      decide (fence emptyReportEnvelope ⟨after {} 0 (bringUp.take 3), d⟩ = none ∧
        m.d.state = .initializing ∧ d'.state = .healthy ∧ d'.dimensions.values.length = 0)) =
      true := by decide +kernel
  obtain ⟨d, hd, hview⟩ := (Option.any_eq_true _ _).mp hview
  obtain ⟨hfence, hinit, hhealthy, hempty⟩ := of_decide_eq_true hview
  have hpositive := hrests ⟨7⟩ _ _ (.observed rfl rfl hd hfence) (Or.inl ⟨hinit, hhealthy⟩)
  obtain ⟨dim, hdim, -⟩ := hpositive.nominal
  exact List.ne_nil_of_mem hdim (List.length_eq_zero_iff.mp hempty)

end HealthStore
end AcceleratorHealth
