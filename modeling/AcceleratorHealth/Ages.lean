import AcceleratorHealth.Readiness

/-! The age of evidence as a number. The evaluator subtracts two signed 64-bit readings, so
that an age of 2^63 or more wraps around and makes the oldest evidence CURRENT; below that
the status follows the age, whatever the thresholds. -/
namespace AcceleratorHealth

instance : LinearOrder FreshnessStatus := codeOrder FreshnessStatus

/-- The age fits into 64 bits. -/
def AgeFits (observed now : Timestamp) : Prop :=
  now.nanos.toInt - observed.nanos.toInt < 2 ^ 63

instance (observed now : Timestamp) : Decidable (AgeFits observed now) :=
  inferInstanceAs (Decidable (_ < _))

theorem Timestamp.not_lt_iff {a b : Timestamp} : ¬a < b ↔ b.nanos.toInt ≤ a.nanos.toInt := by
  change ¬a.nanos < b.nanos ↔ _
  rw [Int64.lt_iff_toInt_lt, not_lt]

/-- The subtraction of a reading that is not in the future is exact as long as it fits. -/
theorem toInt_age {observed now : Timestamp} (h : ¬now < observed) (hfits : AgeFits observed now) :
    (now.nanos - observed.nanos).toInt = now.nanos.toInt - observed.nanos.toInt := by
  have hle := Timestamp.not_lt_iff.mp h
  unfold AgeFits at hfits
  rw [Int64.toInt_sub, Int.bmod_eq_of_le] <;> omega

/-- What does not fit wraps around. -/
theorem toInt_age_wraps {observed now : Timestamp} (hfits : ¬AgeFits observed now) :
    (now.nanos - observed.nanos).toInt =
      now.nanos.toInt - observed.nanos.toInt - 2 ^ 64 := by
  have hnow := now.nanos.toInt_lt
  have hobserved := observed.nanos.le_toInt
  unfold AgeFits at hfits
  rw [Int64.toInt_sub, ← Int.sub_bmod_right, Int.bmod_eq_of_le] <;> omega

namespace FreshnessThresholds
variable {thresholds : FreshnessThresholds} {observed now : Timestamp}

/-- The status at an age. -/
def statusOfAge (thresholds : FreshnessThresholds) (age : Int) : FreshnessStatus :=
  if age ≤ thresholds.current.toInt then .current
  else if age ≤ thresholds.stale.toInt then .aging
  else if age ≤ thresholds.expire.toInt then .stale
  else .expired

/-- In whatever order the thresholds are, the status does not get fresher with age. -/
theorem statusOfAge_mono {a b : Int} (h : a ≤ b) :
    thresholds.statusOfAge a ≤ thresholds.statusOfAge b := by
  unfold statusOfAge
  split_ifs <;> first | decide | omega

theorem evaluate_of_future (h : now < observed) : thresholds.evaluate observed now = .current :=
  if_pos h

theorem evaluate_eq_statusOfAge (h : ¬now < observed) : thresholds.evaluate observed now =
    thresholds.statusOfAge (now.nanos - observed.nanos).toInt := by
  unfold evaluate statusOfAge
  rw [if_neg h]
  simp only [Int64.le_iff_toInt_le]

theorem evaluate_of_fits (h : ¬now < observed) (hfits : AgeFits observed now) :
    thresholds.evaluate observed now =
      thresholds.statusOfAge (now.nanos.toInt - observed.nanos.toInt) := by
  rw [evaluate_eq_statusOfAge h, toInt_age h hfits]

theorem current_le (f : FreshnessStatus) : FreshnessStatus.current ≤ f := by
  cases f <;> decide

/-- What looks at the evidence later, or at older evidence, does not find it fresher. -/
theorem evaluate_mono {observed' now' : Timestamp} (hobserved : observed'.nanos.toInt ≤
      observed.nanos.toInt) (hnow : now.nanos.toInt ≤ now'.nanos.toInt)
    (hfits : AgeFits observed' now') :
    thresholds.evaluate observed now ≤ thresholds.evaluate observed' now' := by
  by_cases hfuture : now < observed
  · rw [evaluate_of_future hfuture]
    exact current_le _
  · have hle := Timestamp.not_lt_iff.mp hfuture
    have hfuture' : ¬now' < observed' := Timestamp.not_lt_iff.mpr (by omega)
    have hfits₀ : AgeFits observed now := by
      unfold AgeFits at hfits ⊢
      omega
    rw [evaluate_of_fits hfuture hfits₀, evaluate_of_fits hfuture' hfits]
    exact statusOfAge_mono (by omega)

/-- Safe arithmetic on one observation at one reading: the age is the difference of the two
numbers, no earlier reading finds the observation older, and no newer observation is found
older than this one. -/
structure Safe (thresholds : FreshnessThresholds) (observed now : Timestamp) : Prop where
  age : ¬now < observed →
    (now.nanos - observed.nanos).toInt = now.nanos.toInt - observed.nanos.toInt
  clock : ∀ earlier : Timestamp, earlier.nanos.toInt ≤ now.nanos.toInt →
    thresholds.evaluate observed earlier ≤ thresholds.evaluate observed now
  replaced : ∀ newer : Timestamp, observed.nanos.toInt ≤ newer.nanos.toInt →
    thresholds.evaluate newer now ≤ thresholds.evaluate observed now

theorem safe_iff (thresholds : FreshnessThresholds) (observed now : Timestamp) :
    thresholds.Safe observed now ↔ now.nanos.toInt - observed.nanos.toInt < 2 ^ 63 := by
  constructor
  · intro h
    by_cases hfuture : now < observed
    · have hlt : now.nanos.toInt < observed.nanos.toInt := Int64.lt_iff_toInt_lt.mp hfuture
      omega
    · rw [← h.age hfuture]
      exact Int64.toInt_lt _
  · intro hfits
    refine ⟨fun hfuture => ?_, fun earlier hearlier => ?_, fun newer hnewer => ?_⟩
    · exact toInt_age hfuture hfits
    · exact evaluate_mono le_rfl hearlier hfits
    · exact evaluate_mono hnewer le_rfl hfits

/-- At reading 0 the oldest timestamp there is counts as CURRENT, one of six minutes ago as
EXPIRED. -/
theorem oldest_is_current : ¬∀ (thresholds : FreshnessThresholds) (observed now : Timestamp),
    0 ≤ now.nanos.toInt → thresholds.Safe observed now := by
  intro h
  have hreplaced := (h {} ⟨Int64.minValue⟩ ⟨0⟩ (by decide)).replaced ⟨-360000000000⟩ (by decide)
  exact absurd hreplaced (by decide)

end FreshnessThresholds

end AcceleratorHealth
