import Mathlib
import AcceleratorHealth.Lib.Machine
/-! Runs that come to rest: where every state that is not at rest has an input that is
allowed there, keeps the invariant and lowers a measure, some run leads to rest. -/

namespace Machine
variable {σ ι α : Type}

theorem exists_run_to_rest [WellFoundedRelation α] (step : σ → ι → σ) (measure : σ → α)
    (P Rest : σ → Prop) (Allowed : σ → ι → Prop)
    (hstep : ∀ s, P s → Rest s ∨ ∃ i, Allowed s i ∧ P (step s i) ∧
      WellFoundedRelation.rel (measure (step s i)) (measure s))
    (s : σ) (hs : P s) :
    ∃ l, Along step Allowed s l ∧ P (run step s l) ∧ Rest (run step s l) := by
  rcases hstep s hs with hrest | ⟨i, hi, hnext, hlower⟩
  · exact ⟨[], trivial, hs, hrest⟩
  · obtain ⟨l, hl, hP, hR⟩ := exists_run_to_rest step measure P Rest Allowed hstep (step s i) hnext
    exact ⟨i :: l, ⟨hi, hl⟩, hP, hR⟩
termination_by measure s

end Machine
