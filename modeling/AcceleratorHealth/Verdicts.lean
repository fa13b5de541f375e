import AcceleratorHealth.Effects

/-! Cached verdicts. A completed reassessment writes a verdict that fits the device it
leaves; a call that ends before that leaves the old verdict in place. What follows is
the argument, shared by several properties, that the old verdict then still fits. -/
namespace AcceleratorHealth

/-- READY or READY_DEGRADED, or an assessment that says so. -/
def Device.claimsReady (d : Device) : Bool :=
  d.readiness.admits || d.latestAssessment.executionReady

/-- Health generations are left for the transitions that one call can make. -/
def Device.roomy (d : Device) : Prop :=
  d.healthGeneration ≠ .last ∧ (d.inRecovery → d.healthGeneration.next ≠ .ok .last)

instance (d : Device) : Decidable d.roomy :=
  inferInstanceAs (Decidable (_ ∧ (_ → _)))

/-- Open fatal faults, failed dimensions and recovery. -/
def Device.hazardous (d : Device) : Prop :=
  (∃ f ∈ d.faults.faults, f.resolution = .open ∧ (f.fatal ∨ f.severity = .fatal)) ∨
    (∃ dim ∈ d.dimensions.values, dim.state = .failed) ∨ d.inRecovery

namespace Locked
variable {now : Timestamp} {clk : Readings} {l l' : Locked} {blocked : Bool}

theorem claimsReady_published :
    (published now l blocked l').d.claimsReady =
      (!blocked && (readinessInput now l').evaluate.state.admits) := by
  cases blocked
  · change (_ || (readinessInput now l').evaluate.executionReady) = _
    rw [evaluate_executionReady]
    exact Bool.or_self _
  · rfl

/-- A published claim is about a device that may well be ready. -/
theorem fits_of_claimsReady (h : (published now l blocked l').d.claimsReady) :
    l'.d.quarantined = false ∧ (l'.d.state = .healthy ∨ l'.d.state = .degraded) := by
  rw [claimsReady_published, Bool.and_eq_true] at h
  obtain ⟨hq, -, hs⟩ := evaluate_admits h.2
  exact ⟨hq, hs⟩

theorem target_quarantined (hr : l.d.inRecovery = false) (hq : l.d.quarantined) :
    target now l = .quarantined := by
  simp [target, AssessmentInput.target, assessmentInput, hr, hq]

/-- A hazard never lets the evidence ask for HEALTHY or DEGRADED. -/
theorem target_of_hazardous (now : Timestamp) (h : l.d.hazardous) :
    target now l ≠ .healthy ∧ target now l ≠ .degraded := by
  unfold target AssessmentInput.target
  have hinput : (assessmentInput now l).inRecovery = l.d.inRecovery := rfl
  by_cases hr : l.d.inRecovery = true
  · rw [if_pos (hinput.trans hr)]
    cases (assessmentInput now l).currentState <;> simp [AssessmentInput.recoveryTarget]
  rw [if_neg (by simpa [hinput] using hr)]
  split
  · simp
  split
  · simp
  next hfatal =>
    simp only [Bool.or_eq_true, not_or] at hfatal
    have hfailed : (assessmentInput now l).scan.anyFailed := by
      rcases h with hopen | ⟨dim, hdim, hstate⟩ | hrec
      · exact absurd (FaultHistory.hasOpenFatal_iff.mpr hopen) hfatal.1
      · rw [AssessmentInput.anyFailed_scan, List.any_eq_true]
        exact ⟨dim, hdim, by simp [hstate]⟩
      · exact absurd hrec hr
    rw [if_pos hfailed]
    simp

/-! ### Claims survive until the next verdict -/

theorem claimsReady_applyTransitionLocked (toState : HealthState) (label detail : Str) :
    (applyTransitionLocked now toState label detail l).state.d.claimsReady = l.d.claimsReady :=
  applyTransitionLocked_state (P := fun l' => l'.d.claimsReady = l.d.claimsReady) rfl
    (fun _ _ => rfl) fun _ _ _ => rfl

theorem claimsReady_openRecovery : (openRecovery now l).state.d.claimsReady = l.d.claimsReady := by
  unfold openRecovery
  simp only
  split <;> rfl

theorem claimsReady_recoveryPassed :
    (recoveryPassed clk l).state.d.claimsReady = l.d.claimsReady := by
  unfold recoveryPassed
  refine Exit.state_andThen (P := fun l' : Locked => l'.d.claimsReady = l.d.claimsReady) ?_
    fun l' h => ?_
  · split_ifs
    · exact claimsReady_applyTransitionLocked ..
    · rfl
  · simp only
    split_ifs
    · exact Exit.state_andThen (P := fun l' : Locked => l'.d.claimsReady = l.d.claimsReady)
        ((claimsReady_applyTransitionLocked ..).trans h) fun _ h => h
    · exact h

theorem claimsReady_recoveryStep {v : ValidationRecord} :
    (recoveryStep clk v l).state.d.claimsReady = l.d.claimsReady := by
  unfold recoveryStep recoveryFailed
  split_ifs
  · exact claimsReady_recoveryPassed
  · exact claimsReady_applyTransitionLocked ..
  · rfl
  · rfl

/-- Away from RECOVERING and REVALIDATING a validation only counts its success. -/
theorem recoveryStep_elsewhere (clk : Readings) (v : ValidationRecord)
    (h₁ : l.d.state ≠ .recovering) (h₂ : l.d.state ≠ .revalidating) :
    recoveryStep clk v l = .ok () l ∨ recoveryStep clk v l = .ok () (countSuccess l) := by
  have hr : revalidated (countSuccess l) = false := by
    unfold revalidated
    rw [Bool.and_eq_false_imp]
    exact fun h => absurd (of_decide_eq_true h) h₂
  unfold recoveryStep recoveryPassed recoveryFailed
  split_ifs with hin hpass hfail hor
  · exact absurd hfail.1 h₁
  · exact Or.inr (by simp [hr])
  · exact absurd hor (by simp [h₁, h₂])
  · exact Or.inl rfl
  · exact Or.inl rfl

/-! ### Conditions on devices that claim to be ready -/

/-- A device that claims to be ready is good. -/
def Holds (Good : Device → Prop) (d : Device) : Prop := d.claimsReady → Good d

/-- What makes `Good` hold of every claim: new verdicts establish it, and the few edits
that can precede an early exit do not spoil it. -/
structure Sustained (Good : Device → Prop) : Prop where
  same : ∀ (now : Timestamp) (l : Locked), target now l = l.d.state →
    Holds Good (published now l false l).d
  move : ∀ (clk : Readings) (l : Locked) (g : HealthGeneration) (label detail : Str),
    canTransition l.d.state (target (clk 0) l) →
    Holds Good (published (clk 0) l false (moved (clk 1) (target (clk 0) l) label detail g l)).d
  state : ∀ d, Good d → d.state = .healthy ∨ d.state = .degraded ∨ d.state = .lost
  refused : ∀ d q, Good d → d.state = .lost → Good { d with quarantine := q }
  flagged : ∀ d, Good d → Good { d with policyGenerationChangedFlag := true }

section Sustained
variable {Good : Device → Prop} (hG : Sustained Good)
include hG

theorem reassessLocked_holds
    (hroom : l.d.claimsReady → canTransition l.d.state (target (clk 0) l) →
      l.d.healthGeneration ≠ .last) : Holds Good (reassessLocked clk l).state.d :=
  reassessLocked_state (P := fun l' => Holds Good l'.d) (hG.same (clk 0) l)
    (fun g hlegal _ => hG.move clk l g _ _ hlegal)
    (fun _ _ hc => by rw [claimsReady_published] at hc; exact absurd hc (by simp))
    fun hlegal hlast hc => absurd hlast (hroom hc hlegal)

/-- An edit that keeps the verdict and the generation, followed by a reassessment. -/
theorem edit_holds {l₁ : Locked} (hc : l₁.d.claimsReady = l.d.claimsReady)
    (hg : l₁.d.healthGeneration = l.d.healthGeneration) (hroom : l.d.claimsReady → l.d.roomy) :
    Holds Good (reassessLocked clk l₁).state.d :=
  reassessLocked_holds hG fun h _ => by
    rw [hg]
    exact (hroom (hc ▸ h)).1

/-- Without a claim there is nothing to spoil. -/
theorem unclaimed_holds {x : Exit Exn Locked Unit} (h : x.state.d.claimsReady = false) :
    Holds Good (x.andThen (reassessLocked clk)).state.d := by
  have hx : x.Sat (fun _ l' => l'.d.claimsReady = false) (fun _ l' => Holds Good l'.d) :=
    (Exit.sat_of_state (P := fun l' : Locked => l'.d.claimsReady = false) h).mono
      (fun _ _ h => h) fun _ _ h hc => by simp [h] at hc
  exact (hx.andThen fun l' hl' => Exit.sat_of_state (P := fun l' : Locked => Holds Good l'.d)
    (reassessLocked_holds hG fun hc => by simp [hl'] at hc)).state

theorem acceptObservation_holds {obs : AcceleratorObservation} {env : AuthorityEnvelope}
    (hl : Holds Good l.d) (hroom : l.d.claimsReady → l.d.roomy) :
    Holds Good (acceptObservation clk obs env l).state.d := by
  unfold acceptObservation
  split
  · exact hl
  · refine Exit.state_andThen (P := fun l' : Locked => Holds Good l'.d) ?_ fun _ h => h
    refine edit_holds hG ?_ ?_ hroom <;> unfold takeObservation <;> simp only <;> split_ifs <;> rfl

theorem recordFault_holds {fault : Fault} (hl : Holds Good l.d)
    (hroom : l.d.claimsReady → l.d.roomy) : Holds Good (recordFault clk fault l).state.d := by
  unfold recordFault
  split
  · exact hl
  · exact edit_holds hG rfl rfl hroom

theorem beginQuarantine_holds {id : AcceleratorId} {authority : QuarantineAuthority}
    {reason triggeredBy : Str} (hl : Holds Good l.d) (hroom : l.d.claimsReady → l.d.roomy) :
    Holds Good (beginQuarantine clk id authority reason triggeredBy l).state.d := by
  unfold beginQuarantine
  split_ifs with hactive
  · exact hl
  refine (Exit.Sat.andThen (P := fun l' => l'.d.claimsReady →
    ¬canTransition l'.d.state (target ((clk.drop 2) 0) l') ∨ l'.d.healthGeneration ≠ .last)
    (R := fun _ l' => Holds Good l'.d) (applyTransitionLocked_sat ?_ ?_ ?_ ?_)
    fun l' hl' => Exit.sat_of_state (P := fun l' : Locked => Holds Good l'.d)
      (reassessLocked_holds hG fun hc hlegal => (hl' hc).resolve_left (· hlegal))).state
  · intro hstate hc
    have := hG.state _ (hl hc)
    simp [openQuarantine] at hstate
    simp [hstate] at this
  · intro _ hillegal hc
    have hgood := hl hc
    refine hG.refused _ _ hgood ?_
    rcases hG.state _ hgood with h | h | h
    · simp [openQuarantine, h, canTransition, legalTransitions] at hillegal
    · simp [openQuarantine, h, canTransition, legalTransitions] at hillegal
    · exact h
  · exact fun _ hlast hc => absurd hlast (hroom hc).1
  · intro g _ hnext hc
    by_cases hr : l.d.inRecovery = true
    · refine Or.inr fun hlast => (hroom hc).2 hr ?_
      rw [← hlast]
      exact hnext
    · refine Or.inl ?_
      have hr' : l.d.inRecovery = false := by simpa using hr
      rw [target_quarantined (l := moved (clk 1) .quarantined (str "quarantine") reason g
        (openQuarantine (clk 0) id authority reason triggeredBy l)) hr' rfl]
      change ¬canTransition .quarantined .quarantined
      decide

theorem beginRecovery_holds (hl : Holds Good l.d) : Holds Good (beginRecovery clk l).state.d := by
  unfold beginRecovery
  split_ifs with hin hillegal
  · exact hl
  · exact hl
  · have hlegal : canTransition l.d.state .recovering := by simpa using hillegal
    have hc : l.d.claimsReady = false := by
      rw [Bool.eq_false_iff]
      intro h
      rcases canTransition_recovering hlegal with hs | hs | hs <;>
        simpa [hs] using hG.state _ (hl h)
    refine unclaimed_holds hG (Exit.state_andThen
      (P := fun l' : Locked => l'.d.claimsReady = false) ?_ fun l' h => ?_)
    · rw [claimsReady_applyTransitionLocked, hc]
    · rw [claimsReady_openRecovery, h]

theorem revalidate_holds {v : ValidationRecord} (hl : Holds Good l.d)
    (hroom : l.d.claimsReady → l.d.roomy) : Holds Good (revalidate clk v l).state.d := by
  rw [revalidate_state]
  by_cases hc : l.d.claimsReady = true
  · have hs := hG.state _ (hl hc)
    have h₁ : l.d.state ≠ .recovering := fun h => by simp [h] at hs
    have h₂ : l.d.state ≠ .revalidating := fun h => by simp [h] at hs
    rcases recoveryStep_elsewhere clk v (l := addValidation v l) h₁ h₂ with h | h
    · rw [h]
      exact edit_holds hG rfl rfl hroom
    · rw [h]
      exact edit_holds hG rfl rfl hroom
  · refine unclaimed_holds hG ?_
    have hc' : l.d.claimsReady = false := by simpa using hc
    exact claimsReady_recoveryStep.trans hc'

/-- Every body but `markLost` keeps the condition on a device with room. -/
theorem Touch.holds {c : Call} {k : AcceleratorId} (h : Touch c k l l') (hl : Holds Good l.d)
    (hroom : l.d.claimsReady → l.d.roomy)
    (hlost : ∀ reason, c.op = .markLost k reason →
      Holds Good (markLost (c.clk 0) reason l).state.d) : Holds Good l'.d := by
  cases h with
  | observation => exact acceptObservation_holds hG hl hroom
  | fault => exact recordFault_holds hG hl hroom
  | validation => exact edit_holds hG rfl rfl hroom
  | quarantine => exact beginQuarantine_holds hG hl hroom
  | clear =>
    unfold clearQuarantine
    refine edit_holds hG ?_ ?_ hroom <;> unfold closeQuarantine <;> split <;> rfl
  | recovery => exact beginRecovery_holds hG hl
  | revalidation => exact revalidate_holds hG hl hroom
  | lost op => exact hlost _ op
  | reassess clk => exact edit_holds hG rfl rfl hroom
  | orphan clk =>
    unfold HealthStore.orphan
    split_ifs
    · exact edit_holds hG rfl rfl hroom
    · exact hl
  | policy clk => exact edit_holds hG rfl rfl hroom
  | policySkipped => exact fun hc => hG.flagged _ (hl hc)

end Sustained
end Locked
end AcceleratorHealth
