import Mathlib

/-! Ids drawn from a 64-bit counter that wraps around, and that may be set anew. They stay
distinct and non-zero as long as nothing is drawn from a counter that has wrapped and the
counter is only set past every id drawn before. -/

namespace Counter
variable {next m : UInt64} {ids : List UInt64}

theorem lt_succ_of_le {i : UInt64} (h : i ≤ m) (hwrap : m + 1 ≠ 0) : i < m + 1 := by
  have hvalue : (m + 1).toNat = (m.toNat + 1) % 2 ^ 64 := by
    simp [UInt64.toNat_add]
  have hne : (m + 1).toNat ≠ 0 := by
    intro hzero
    exact hwrap (UInt64.toNat_inj.mp hzero)
  have hm := m.toNat_lt
  rw [UInt64.le_iff_toNat_le] at h
  rw [UInt64.lt_iff_toNat_lt]
  omega

/-- The ids drawn so far, none of which the counter will give again before it wraps. -/
structure Unspent (next : UInt64) (ids : List UInt64) : Prop where
  nodup : ids.Nodup
  nonzero : 0 ∉ ids
  below : next ≠ 0 → ∀ i ∈ ids, i < next

theorem unspent_nil (next : UInt64) : Unspent next [] := by
  constructor <;> simp

namespace Unspent

/-- Setting the counter past every id drawn. -/
theorem restart (h : Unspent next ids) (hle : ∀ i ∈ ids, i ≤ m) : Unspent (m + 1) ids where
  nodup := h.nodup
  nonzero := h.nonzero
  below hwrap i hi := lt_succ_of_le (hle i hi) hwrap

/-- Passing over a value. -/
theorem skip (h : Unspent next ids) (hnext : next ≠ 0) : Unspent (next + 1) ids := by
  apply h.restart
  intro i hi
  exact UInt64.le_of_lt (h.below hnext i hi)

theorem draw (h : Unspent next ids) (hnext : next ≠ 0) : Unspent (next + 1) (ids ++ [next]) where
  nodup := by
    rw [List.nodup_append]
    refine ⟨h.nodup, List.nodup_singleton next, ?_⟩
    intro i hi j hj
    rw [List.mem_singleton.mp hj]
    exact UInt64.ne_of_lt (h.below hnext i hi)
  nonzero := by
    rw [List.mem_append, List.mem_singleton, not_or]
    exact ⟨h.nonzero, hnext.symm⟩
  below hwrap i hi := by
    apply lt_succ_of_le _ hwrap
    rcases List.mem_append.mp hi with hi | hi
    · exact UInt64.le_of_lt (h.below hnext i hi)
    · rw [List.mem_singleton.mp hi]
      exact UInt64.le_refl next

end Unspent

/-- What a step does with the counter: nothing, pass over a value, or give it out. -/
inductive Draws (begins : Prop) (next : UInt64) : UInt64 → Option UInt64 → Prop
  | idle : Draws begins next next none
  | skipped (hbegins : begins) : Draws begins next (next + 1) none
  | drawn (hbegins : begins) : Draws begins next (next + 1) (some next)

theorem Unspent.step {begins : Prop} {next' : UInt64} {id : Option UInt64} (h : Unspent next ids)
    (hdraws : Draws begins next next' id) (hbegins : begins → next ≠ 0) :
    Unspent next' (ids ++ id.toList) := by
  cases hdraws with
  | idle => simpa using h
  | skipped hb => simpa using h.skip (hbegins hb)
  | drawn hb => exact h.draw (hbegins hb)

end Counter
