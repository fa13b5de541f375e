import Mathlib

/-! Registers that keep whatever is written to them last, against the register that
would keep the newest value. Values carry a time of their own; the order in which they
are written need not follow it. -/

namespace Register
variable {α τ : Type} [LinearOrder τ] {time : α → τ} {xs ys : List α} {x y : α}

/-- One of the values, and none of them is newer. -/
structure Newest (time : α → τ) (xs : List α) (x : α) : Prop where
  mem : x ∈ xs
  le : ∀ y ∈ xs, time y ≤ time x

/-- The content that the register of the newest value may have: nothing when nothing has
been written. -/
def HoldsNewest (time : α → τ) (xs : List α) (content : Option α) : Prop :=
  (content = none → xs = []) ∧ ∀ x, content = some x → Newest time xs x

/-- The value written last is not older than one written before it. -/
def Settled (time : α → τ) (xs : List α) : Prop :=
  ∀ x, xs.getLast? = some x → ∀ y ∈ xs, time y ≤ time x

/-- The register of the last value is right exactly when that is not an old one. -/
theorem holdsNewest_getLast?_iff : HoldsNewest time xs xs.getLast? ↔ Settled time xs := by
  constructor
  · intro h x hx
    exact (h.2 x hx).le
  · intro h
    constructor
    · intro hnone
      exact List.getLast?_eq_none_iff.mp hnone
    · intro x hx
      exact ⟨List.mem_of_getLast? hx, h x hx⟩

theorem newest_getLast_iff (hne : xs ≠ []) :
    Newest time xs (xs.getLast hne) ↔ Settled time xs := by
  have hlast : xs.getLast? = some (xs.getLast hne) := List.getLast?_eq_some_getLast hne
  constructor
  · intro h x hx
    obtain rfl : xs.getLast hne = x := Option.some.inj (hlast.symm.trans hx)
    exact h.le
  · intro h
    exact ⟨List.getLast_mem hne, h _ hlast⟩

theorem settled_nil : Settled time ([] : List α) := by
  intro x hx
  cases hx

end Register
