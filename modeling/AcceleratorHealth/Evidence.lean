import AcceleratorHealth.Verdicts

/-! The evidence in a device's record: what the assessment reads, and what neither a
transition nor a reassessment writes. -/
namespace AcceleratorHealth

/-- A device record without its health state and verdict. -/
def Device.evidence (d : Device) : Device :=
  { d with
    state := .unknown
    readiness := .unknown
    healthGeneration := {}
    transitionCount := 0
    changes := []
    latestAssessment := {} }

/-- A fault history on which the policy still lets a device be HEALTHY: no open fatal
fault, and a last run of one type below every threshold that applies. -/
structure FaultHistory.Tolerated (policy : HealthPolicy) (h : FaultHistory) : Prop where
  fatal : h.stats.hasOpenFatal = false
  quarantine : h.stats.hasOpenCritical →
    h.stats.consecutiveLatest.toInt32 < policy.quarantineAfterFailures.toInt32
  unhealthy : h.stats.consecutiveLatest.toInt32 < policy.unhealthyAfterFailures.toInt32
  degrade : h.stats.consecutiveLatest.toInt32 < policy.degradeAfterFailures.toInt32

theorem FaultHistory.tolerated_iff {policy : HealthPolicy} {h : FaultHistory} :
    h.Tolerated policy ↔ h.stats.hasOpenFatal = false ∧
      (h.stats.hasOpenCritical →
        h.stats.consecutiveLatest.toInt32 < policy.quarantineAfterFailures.toInt32) ∧
      h.stats.consecutiveLatest.toInt32 < policy.unhealthyAfterFailures.toInt32 ∧
      h.stats.consecutiveLatest.toInt32 < policy.degradeAfterFailures.toInt32 :=
  ⟨fun ⟨h₁, h₂, h₃, h₄⟩ => ⟨h₁, h₂, h₃, h₄⟩, fun ⟨h₁, h₂, h₃, h₄⟩ => ⟨h₁, h₂, h₃, h₄⟩⟩

instance (policy : HealthPolicy) (h : FaultHistory) : Decidable (h.Tolerated policy) :=
  decidable_of_iff _ FaultHistory.tolerated_iff.symm

namespace AssessmentInput
variable {i : AssessmentInput}

/-- Without a failed dimension a scan finds nothing fatal either. -/
theorem scan_of_no_failed (h : ∀ dim ∈ i.dimensions.values, dim.state ≠ .failed) :
    i.scan.anyFailed = false ∧ i.scan.anyFatalDim = false := by
  constructor
  · rw [anyFailed_scan, List.any_eq_false]
    intro dim hdim
    simpa using h dim hdim
  · suffices hfold : ∀ (l : List HealthDimension) (c : DimensionScan),
        (∀ dim ∈ l, dim.state ≠ .failed) →
          (l.foldl .visit c).anyFatalDim = c.anyFatalDim by
      exact hfold _ {} h
    intro l
    induction l with
    | nil => exact fun _ _ => rfl
    | cons dim rest ih =>
      intro c hl
      rw [List.foldl_cons, ih _ fun dim' hdim' => hl dim' (List.mem_cons_of_mem _ hdim')]
      have hdim := hl dim List.mem_cons_self
      unfold DimensionScan.visit DimensionScan.noteWorst
      cases hs : dim.state with
      | failed => exact absurd hs hdim
      | degraded =>
        simp only
        split_ifs <;> rfl
      | _ => rfl

/-- Fresh evidence, no failed dimension, no quarantine: the faults decide. -/
theorem target_eq_healthy_iff (hrec : i.inRecovery = false) (hq : i.quarantined = false)
    (hdims : ∀ dim ∈ i.dimensions.values, dim.state ≠ .failed) (hold : i.freshness.isOld = false)
    {h : FaultHistory} (hstats : i.faultStats = h.stats) :
    i.target = .healthy ↔ h.Tolerated i.policy := by
  obtain ⟨hfailed, hfatal⟩ := scan_of_no_failed hdims
  have hcount : i.consecutive = h.stats.consecutiveLatest.toInt32 := by rw [← hstats]; rfl
  rw [FaultHistory.tolerated_iff]
  unfold target
  rw [if_neg (by simp [hrec]), if_neg (by simp [hq]), hfatal, Bool.or_false, hfailed, hcount,
    hstats, if_neg (by simp : ¬false = true)]
  simp only [← Int32.not_le, hold]
  split_ifs <;> simp_all

end AssessmentInput

namespace Locked
variable {now : Timestamp} {clk : Readings} {l l' : Locked}

/-- All that an assessment reads besides the clock and the current state. -/
def basis (l : Locked) : HealthPolicy × Device := (l.store.policy, l.d.evidence)

theorem basis_published {blocked : Bool} : (published now l blocked l').basis = l'.basis := rfl

theorem basis_moved {toState : HealthState} {label detail : Str} {g : HealthGeneration} :
    (moved now toState label detail g l).basis = l.basis := rfl

theorem basis_torn {toState : HealthState} : (torn toState l).basis = l.basis := rfl

theorem basis_applyTransitionLocked (toState : HealthState) (label detail : Str) :
    (applyTransitionLocked now toState label detail l).state.basis = l.basis :=
  applyTransitionLocked_state (P := fun l' => l'.basis = l.basis) rfl (fun _ _ => basis_torn)
    fun _ _ _ => basis_moved

theorem basis_reassessLocked (clk : Readings) (l : Locked) :
    (reassessLocked clk l).state.basis = l.basis :=
  reassessLocked_state (P := fun l' => l'.basis = l.basis) (fun _ => basis_published)
    (fun _ _ _ => basis_published.trans basis_moved) (fun _ _ => basis_published)
    fun _ _ => basis_torn

/-- A field of the evidence, read off the basis. -/
theorem of_basis_eq {β : Type} (h : l'.basis = l.basis) (f : Device → β)
    (hf : ∀ d : Device, f d.evidence = f d) : f l'.d = f l.d := by
  rw [← hf, ← hf l.d]
  exact congrArg (fun b => f b.2) h

/-- However it ends, `beginQuarantine` leaves an active record. -/
theorem quarantined_beginQuarantine {id : AcceleratorId} {authority : QuarantineAuthority}
    {reason triggeredBy : Str} :
    (beginQuarantine clk id authority reason triggeredBy l).state.d.quarantined = true := by
  unfold beginQuarantine
  split_ifs with hactive
  · exact hactive
  · refine Exit.state_andThen (P := fun l' : Locked => l'.d.quarantined = true) ?_ fun l' h => ?_
    · rw [of_basis_eq (basis_applyTransitionLocked ..) Device.quarantined fun _ => rfl]
      rfl
    · rwa [of_basis_eq (basis_reassessLocked _ l') Device.quarantined fun _ => rfl]

/-- On fresh evidence without a failed dimension the faults decide what is asked for. -/
theorem target_healthy_iff (hrec : l.d.inRecovery = false) (hq : l.d.quarantined = false)
    (hdims : ∀ dim ∈ l.d.dimensions.values, dim.state ≠ .failed)
    (hfresh : l.store.policy.freshnessOf l.d.lastObservation now = .current) :
    target now l = .healthy ↔ l.d.faults.Tolerated l.store.policy := by
  have hold : (assessmentInput now l).freshness.isOld = false := by
    change (l.store.policy.freshnessOf l.d.lastObservation now).isOld = false
    rw [hfresh]
    rfl
  exact AssessmentInput.target_eq_healthy_iff (i := assessmentInput now l) hrec hq hdims hold rfl

/-- A HEALTHY device outside recovery stays so exactly when the evidence asks for it. -/
theorem reassessLocked_healthy (hs : l.d.state = .healthy) (hrec : l.d.inRecovery = false) :
    (reassessLocked clk l).Sat (fun _ l' => l'.d.state = .healthy ↔ target (clk 0) l = .healthy)
      fun _ l' => l'.d.state ≠ .healthy ∧ target (clk 0) l ≠ .healthy := by
  refine reassessLocked_sat (fun hsame => ?_) (fun _ _ _ => Iff.rfl) (fun hne hillegal => ?_)
    fun hlegal _ => ?_
  · exact iff_of_true hs (hsame.trans hs)
  · rw [hs] at hne hillegal
    rcases AssessmentInput.target_cases (i := assessmentInput (clk 0) l) hrec
      with h | h | h | h | h | h
    · exact absurd (h.trans hs) hne
    · exact absurd h hne
    all_goals
      change target (clk 0) l = _ at h
      rw [h] at hillegal
      cases hillegal
  · have hne : target (clk 0) l ≠ .healthy := fun heq => canTransition_ne hlegal (by rw [heq, hs])
    exact ⟨hne, hne⟩

/-- A device that is not HEALTHY does not become so when the evidence asks otherwise. -/
theorem reassessLocked_not_healthy (hs : l.d.state ≠ .healthy) (ht : target (clk 0) l ≠ .healthy) :
    (reassessLocked clk l).state.d.state ≠ .healthy :=
  reassessLocked_state (P := fun l' => l'.d.state ≠ .healthy) (fun _ => hs) (fun _ _ _ => ht)
    (fun _ _ => hs) fun _ _ => ht

end Locked
end AcceleratorHealth
