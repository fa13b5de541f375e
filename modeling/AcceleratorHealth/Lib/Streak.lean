import Mathlib.Data.List.Basic
import Mathlib.Data.List.TakeWhile
import Mathlib.Order.Bounds.Basic

/-! The streak at the end of a list: its last elements, as far as they share one key. -/

namespace Streak
variable {α β : Type} [DecidableEq β] (key : α → β)

/-- The length of the streak. -/
def last (l : List α) : Nat :=
  match l.getLast? with
  | some a => (l.reverse.takeWhile fun b => key b = key a).length
  | none => 0

variable {key}

theorem last_append_singleton (l : List α) (a : α) :
    last key (l ++ [a]) = (l.reverse.takeWhile fun b => key b = key a).length + 1 := by
  unfold last
  rw [List.getLast?_append_of_ne_nil _ (List.cons_ne_nil a []), List.reverse_append]
  simp

/-- An element with the key of the last one makes the streak longer. -/
theorem last_append_same {l : List α} {a b : α} (hlast : l.getLast? = some b)
    (hkey : key b = key a) : last key (l ++ [a]) = last key l + 1 := by
  rw [last_append_singleton]
  unfold last
  rw [hlast]
  simp only [hkey]

/-- One with another key starts a new streak. -/
theorem last_append_other {l : List α} {a b : α} (hlast : l.getLast? = some b)
    (hkey : key b ≠ key a) : last key (l ++ [a]) = 1 := by
  rw [last_append_singleton]
  obtain ⟨front, rfl⟩ := List.getLast?_eq_some_iff.mp hlast
  rw [List.reverse_append]
  simp [hkey]

/-- All elements share one key. -/
def Uniform (key : α → β) (l : List α) : Prop := ∀ a ∈ l, ∀ b ∈ l, key a = key b

theorem exists_uniform_suffix (l : List α) :
    ∃ s, s <:+ l ∧ Uniform key s ∧ s.length = last key l := by
  unfold last
  cases hlast : l.getLast? with
  | none => exact ⟨[], List.nil_suffix, fun a ha => absurd ha List.not_mem_nil, rfl⟩
  | some a =>
    refine ⟨(l.reverse.takeWhile fun b => key b = key a).reverse, ?_, ?_, List.length_reverse⟩
    · rw [← List.reverse_prefix, List.reverse_reverse]
      exact List.takeWhile_prefix _
    · have hkey : ∀ b ∈ (l.reverse.takeWhile fun b => key b = key a).reverse, key b = key a := by
        intro b hb
        simpa using List.mem_takeWhile_imp (List.mem_reverse.mp hb)
      intro b hb c hc
      rw [hkey b hb, hkey c hc]

theorem length_le_last {l s : List α} (hsuffix : s <:+ l) (huniform : Uniform key s) :
    s.length ≤ last key l := by
  rcases s.eq_nil_or_concat with rfl | ⟨front, a, rfl⟩
  · exact Nat.zero_le _
  · obtain ⟨rest, rfl⟩ := hsuffix
    rw [List.concat_eq_append] at huniform ⊢
    have hfront : ∀ b ∈ front.reverse, decide (key b = key a) = true := by
      intro b hb
      have hb' : b ∈ front ++ [a] := by simpa using Or.inl hb
      simpa using huniform b hb' a (by simp)
    rw [← List.append_assoc, last_append_singleton, List.reverse_append,
      List.takeWhile_append_of_pos hfront]
    simp

/-- The streak is the longest suffix with one key. -/
theorem isGreatest_last (l : List α) :
    IsGreatest {n | ∃ s, s <:+ l ∧ Uniform key s ∧ s.length = n} (last key l) :=
  ⟨exists_uniform_suffix l, fun _ ⟨_, hsuffix, huniform, hlength⟩ =>
    hlength ▸ length_le_last hsuffix huniform⟩

end Streak
