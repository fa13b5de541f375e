import AcceleratorHealth.ChangeLog

/-! Hazards against execution readiness, over whole runs: an open fatal fault, a FAILED
dimension or a recovery in progress keeps a device from being ready. -/
namespace AcceleratorHealth

/-- No hazard, and a state that a ready device can be in. -/
def Device.safe (d : Device) : Prop :=
  ¬d.hazardous ∧ (d.state = .healthy ∨ d.state = .degraded ∨ d.state = .lost)

namespace Locked

theorem sustained_safe : Sustained Device.safe where
  same now l htarget h := by
    have hs := (fits_of_claimsReady h).2
    refine ⟨fun hz => ?_, hs.elim Or.inl fun hs => Or.inr (Or.inl hs)⟩
    have ht := target_of_hazardous (l := l) now hz
    rw [htarget] at ht
    exact hs.elim ht.1 ht.2
  move clk l g label detail _ h := by
    have hs := (fits_of_claimsReady h).2
    refine ⟨fun hz => ?_, hs.elim Or.inl fun hs => Or.inr (Or.inl hs)⟩
    have ht := target_of_hazardous (l := l) (clk 0) hz
    exact hs.elim ht.1 ht.2
  state _ h := h.2
  refused _ _ h _ := h
  flagged _ h := h

end Locked

namespace HealthStore
open Locked

theorem safe_markLost {now : Timestamp} {reason : Str} {l : Locked}
    (hl : Holds Device.safe l.d) : Holds Device.safe (Locked.markLost now reason l).state.d := by
  intro hc
  rw [claimsReady_markLost] at hc
  obtain ⟨hz, hs⟩ := hl hc
  have hstep : (Locked.markLost now reason l).state.d.faults = l.d.faults ∧
      (Locked.markLost now reason l).state.d.dimensions = l.d.dimensions ∧
      (Locked.markLost now reason l).state.d.inRecovery = l.d.inRecovery ∧
      (Locked.markLost now reason l).state.d.state = .lost := by
    unfold Locked.markLost
    simp only
    split_ifs with hlost hlegal
    · exact ⟨rfl, rfl, rfl, hlost⟩
    · refine (applyTransitionLocked_sat
        (Q := fun l' => l'.d.faults = l.d.faults ∧ l'.d.dimensions = l.d.dimensions ∧
          l'.d.inRecovery = l.d.inRecovery ∧ l'.d.state = .lost)
        (R := fun _ l' => l'.d.faults = l.d.faults ∧ l'.d.dimensions = l.d.dimensions ∧
          l'.d.inRecovery = l.d.inRecovery ∧ l'.d.state = .lost)
        ?_ ?_ ?_ ?_).state
      · exact fun h => absurd h hlost
      · exact fun _ h => absurd hlegal (by simpa using h)
      · exact fun _ _ => ⟨rfl, rfl, rfl, rfl⟩
      · exact fun _ _ _ => ⟨rfl, rfl, rfl, rfl⟩
    · exact ⟨rfl, rfl, rfl, rfl⟩
  obtain ⟨hf, hdim, hr, hstate⟩ := hstep
  refine ⟨?_, Or.inr (Or.inr hstate)⟩
  unfold Device.hazardous
  rw [hf, hdim, hr]
  exact hz

/-- A device with an open fatal fault, a FAILED dimension or a recovery in progress is
not execution-ready. -/
def HazardsDominate (s : HealthStore) : Prop :=
  ∀ k d, s.devices.find? k = some d →
    (∃ f ∈ d.faults.faults, f.resolution = .open ∧ (f.fatal ∨ f.severity = .fatal)) ∨
      (∃ dim ∈ d.dimensions.values, dim.state = .failed) ∨ d.inRecovery →
    d.readiness ≠ .ready ∧ d.readiness ≠ .readyDegraded ∧
      d.latestAssessment.executionReady = false

theorem roomy_of_spare {s : HealthStore} (h : s.Spare) (c : Call) : s.Roomy c := by
  intro k d hk _ _
  exact ⟨h.ne_last hk, fun _ => h.next_ne_last hk⟩

theorem step_safe {s : HealthStore} {c : Call} (hs : s.AllDevices (Holds Device.safe))
    (hload : c.op.loads = false) (hspare : s.Spare) :
    (s.step c).AllDevices (Holds Device.safe) :=
  step_holds sustained_safe hs (roomy_of_spare hspare c) hload fun l id _ _ hd =>
    safe_markLost (hs id l.d hd)

/-- Hazards dominate readiness after every run without loads whose change logs fit. -/
theorem hazards_dominate_readiness (policy : HealthPolicy) (epoch : UInt64) (calls : List Call)
    (hload : ∀ c ∈ calls, c.op.loads = false)
    (hfits : Machine.Along step (fun s c => (s.step c).LogsFit) (init policy epoch) calls) :
    (after policy epoch calls).HazardsDominate := by
  have hplain : Machine.Along step (fun _ c => c.op.loads = false) (init policy epoch) calls :=
    Machine.along_of_forall fun c hc _ => hload c hc
  have hinv : (after policy epoch calls).AllDevices (Holds Device.safe) :=
    Machine.run_invariant (fun s c hs hc => step_safe hs hc.1 hc.2)
      (allDevices_init (Holds Device.safe) policy epoch) (hplain.and (spare_of_logsFit hload hfits))
  intro k d htracked hhazard
  have hclaims : d.claimsReady = false := by
    rw [Bool.eq_false_iff]
    exact fun h => (hinv k d htracked h).1 hhazard
  simp only [Device.claimsReady, ReadinessState.admits, Bool.or_eq_false_iff] at hclaims
  exact ⟨by simpa using hclaims.1.1, by simpa using hclaims.1.2, hclaims.2⟩

/-- A fatal fault of device 7, and the call that reports it. -/
def fatalReport : Fault := { id := ⟨1⟩, accelerator := ⟨7⟩, fatal := true }

def fatalFault : Call := (Op.recordFault fatalReport).at 1

theorem hazards_dominate_after_fatalFault :
    (∀ c ∈ bringUp ++ [fatalFault], c.op.loads = false) ∧
      (after {} 0 (bringUp ++ [fatalFault])).HazardsDominate := by
  have hload : ∀ c ∈ bringUp ++ [fatalFault], c.op.loads = false := by
    simp [bringUp, fatalFault, Op.at, Op.loads]
  exact ⟨hload, hazards_dominate_readiness {} 0 _ hload (by decide +kernel)⟩

end HealthStore
end AcceleratorHealth
