/-! Runs of a deterministic machine: a state, an input for each step, and the
conditions that a whole run inherits from its single steps. -/

namespace Machine
variable {σ ι : Type} (step : σ → ι → σ)

def run (s : σ) (inputs : List ι) : σ := inputs.foldl step s

/-- Every step of the run meets `C` in the state it starts from. -/
def Along (C : σ → ι → Prop) : σ → List ι → Prop
  | _, [] => True
  | s, i :: rest => C s i ∧ Along C (step s i) rest

variable {step}

@[simp] theorem run_nil (s : σ) : run step s [] = s := rfl

@[simp] theorem run_cons (s : σ) (i : ι) (rest : List ι) :
    run step s (i :: rest) = run step (step s i) rest := rfl

@[simp] theorem run_append (s : σ) (l l' : List ι) :
    run step s (l ++ l') = run step (run step s l) l' := List.foldl_append

instance decidableAlong {C : σ → ι → Prop} [∀ s i, Decidable (C s i)] :
    ∀ (l : List ι) (s : σ), Decidable (Along step C s l)
  | [], _ => .isTrue trivial
  | i :: rest, s =>
    have : Decidable (Along step C (step s i) rest) := decidableAlong rest (step s i)
    inferInstanceAs (Decidable (C s i ∧ Along step C (step s i) rest))

theorem along_append {C : σ → ι → Prop} {s : σ} {l l' : List ι} :
    Along step C s (l ++ l') ↔ Along step C s l ∧ Along step C (run step s l) l' := by
  induction l generalizing s with
  | nil => simp [Along]
  | cons i rest ih => simp only [List.cons_append, Along, run_cons, ih, and_assoc]

/-- A condition met along a run is met by each step of it in the state that it starts from. -/
theorem along_iff_forall_prefix {C : σ → ι → Prop} {s : σ} {l : List ι} :
    Along step C s l ↔ ∀ before i, before ++ [i] <+: l → C (run step s before) i := by
  constructor
  · rintro h before i ⟨rest, rfl⟩
    rw [along_append, along_append] at h
    exact h.1.2.1
  · intro h
    induction l generalizing s with
    | nil => trivial
    | cons j rest ih =>
      constructor
      · exact h [] j (List.prefix_append [j] rest)
      · exact ih fun before i hbefore =>
          h (j :: before) i (List.cons_prefix_cons.mpr ⟨rfl, hbefore⟩)

theorem Along.mono {C D : σ → ι → Prop} (h : ∀ s i, C s i → D s i) {s : σ} {l : List ι}
    (ha : Along step C s l) : Along step D s l := by
  induction l generalizing s with
  | nil => trivial
  | cons i rest ih => exact ⟨h s i ha.1, ih ha.2⟩

theorem Along.and {C D : σ → ι → Prop} {s : σ} {l : List ι} (h : Along step C s l)
    (h' : Along step D s l) : Along step (fun s i => C s i ∧ D s i) s l := by
  induction l generalizing s with
  | nil => trivial
  | cons i rest ih => exact ⟨⟨h.1, h'.1⟩, ih h.2 h'.2⟩

/-- A condition on the inputs alone is met in whatever state each step starts. -/
theorem along_of_forall {C : σ → ι → Prop} {s : σ} {l : List ι}
    (h : ∀ i ∈ l, ∀ s, C s i) : Along step C s l := by
  induction l generalizing s with
  | nil => trivial
  | cons i rest ih =>
    exact ⟨h i List.mem_cons_self s, ih fun j hj => h j (List.mem_cons_of_mem i hj)⟩

/-- What each admitted step preserves holds after every admitted run. -/
theorem run_invariant {C : σ → ι → Prop} {P : σ → Prop}
    (hstep : ∀ s i, P s → C s i → P (step s i)) {s : σ} {l : List ι}
    (hs : P s) (ha : Along step C s l) : P (run step s l) := by
  induction l generalizing s with
  | nil => exact hs
  | cons i rest ih => exact ih (hstep s i hs ha.1) ha.2

/-- What each admitted step preserves holds before every step of an admitted run. -/
theorem along_invariant {C : σ → ι → Prop} {P : σ → Prop}
    (hstep : ∀ s i, P s → C s i → P (step s i)) {s : σ} {l : List ι}
    (hs : P s) (ha : Along step C s l) : Along step (fun s _ => P s) s l := by
  induction l generalizing s with
  | nil => trivial
  | cons i rest ih => exact ⟨hs, ih (hstep s i hs ha.1) ha.2⟩

/-- Conditions that agree wherever an invariant holds are met by the same runs. -/
theorem along_iff_of_invariant {C D : σ → ι → Prop} {P : σ → Prop}
    (hstep : ∀ s i, P s → P (step s i)) (h : ∀ s i, P s → (C s i ↔ D s i)) {s : σ} (hs : P s)
    (l : List ι) : Along step C s l ↔ Along step D s l := by
  induction l generalizing s with
  | nil => exact Iff.rfl
  | cons i rest ih => exact and_congr (h s i hs) (ih (hstep s i hs))

/-- A property that a step preserves exactly under `C` holds throughout exactly the runs
that meet `C` along the way. -/
theorem throughout_iff {C : σ → ι → Prop} {P : σ → Prop}
    (hstep : ∀ s i, P s → (P (step s i) ↔ C s i)) {s : σ} (hs : P s) {l : List ι} :
    (∀ before, before <+: l → P (run step s before)) ↔ Along step C s l := by
  induction l generalizing s with
  | nil =>
    constructor
    · exact fun _ => trivial
    · intro _ before hbefore
      rw [List.prefix_nil.mp hbefore]
      exact hs
  | cons i rest ih =>
    constructor
    · intro hall
      have hnext : P (step s i) := hall [i] (List.prefix_append [i] rest)
      exact ⟨(hstep s i hs).mp hnext, (ih hnext).mp fun before hbefore =>
        hall (i :: before) (List.cons_prefix_cons.mpr ⟨rfl, hbefore⟩)⟩
    · rintro ⟨hc, halong⟩ before hbefore
      cases before with
      | nil => exact hs
      | cons j before =>
        obtain ⟨rfl, hrest⟩ := List.cons_prefix_cons.mp hbefore
        exact (ih ((hstep s j hs).mpr hc)).mpr halong before hrest

/-- An invariant that also speaks of the inputs consumed so far. -/
theorem run_history {C : σ → ι → Prop} {P : List ι → σ → Prop} {s : σ} (hs : P [] s)
    (hstep : ∀ past i t, P past t → C t i → P (past ++ [i]) (step t i)) {l : List ι}
    (ha : Along step C s l) : P l (run step s l) := by
  suffices h : ∀ past t, P past t → Along step C t l → P (past ++ l) (run step t l) by
    simpa using h [] s hs ha
  clear ha hs
  induction l with
  | nil => intro past t h _; simpa using h
  | cons i rest ih =>
    intro past t h ha
    simpa using ih (past ++ [i]) (step t i) (hstep past i t h ha.1) ha.2

end Machine
