import Mathlib.Data.List.Forall2

/-! Lists that only grow: each element stays in its place, though it may change as a
relation allows, and new elements come at the end. -/

namespace AppendOnly
variable {α κ : Type} {R : α → α → Prop}

/-- The elements of `l` come first in `l'`, in order, each as `R` lets it become. -/
def Grows (R : α → α → Prop) (l l' : List α) : Prop :=
  ∃ front tail, List.Forall₂ R l front ∧ l' = front ++ tail

theorem Grows.of_forall₂ {l l' : List α} (h : List.Forall₂ R l l') : Grows R l l' :=
  ⟨l', [], h, (List.append_nil l').symm⟩

theorem Grows.refl (hR : ∀ a, R a a) (l : List α) : Grows R l l :=
  .of_forall₂ (List.forall₂_same.mpr fun a _ => hR a)

theorem Grows.append (hR : ∀ a, R a a) (l tail : List α) : Grows R l (l ++ tail) :=
  ⟨l, tail, List.forall₂_same.mpr fun a _ => hR a, rfl⟩

theorem forall₂_trans (hR : ∀ a b c, R a b → R b c → R a c) {l l' l'' : List α}
    (h : List.Forall₂ R l l') (h' : List.Forall₂ R l' l'') : List.Forall₂ R l l'' := by
  induction h generalizing l'' with
  | nil => exact h'
  | cons hab _ ih =>
    cases h' with
    | cons hbc h' => exact .cons (hR _ _ _ hab hbc) (ih h')

theorem Grows.trans (hR : ∀ a b c, R a b → R b c → R a c) {l l' l'' : List α}
    (h : Grows R l l') (h' : Grows R l' l'') : Grows R l l'' := by
  obtain ⟨front, tail, hfront, rfl⟩ := h
  obtain ⟨front', tail', hfront', rfl⟩ := h'
  have hfirst := List.forall₂_take front.length hfront'
  rw [List.take_left' rfl] at hfirst
  refine ⟨front'.take front.length, front'.drop front.length ++ tail',
    forall₂_trans hR hfront hfirst, ?_⟩
  rw [← List.append_assoc, List.take_append_drop]

/-- What stood at a place is still there, as `R` let it become. -/
theorem Grows.getElem? {l l' : List α} (h : Grows R l l') {i : Nat} {a : α}
    (ha : l[i]? = some a) : ∃ b, l'[i]? = some b ∧ R a b := by
  obtain ⟨front, tail, hfront, rfl⟩ := h
  obtain ⟨hi, rfl⟩ := List.getElem?_eq_some_iff.mp ha
  have hi' : i < front.length := hfront.length_eq ▸ hi
  refine ⟨front[i], ?_, List.Forall₂.get hfront hi hi'⟩
  rw [List.getElem?_append_left hi', List.getElem?_eq_getElem hi']

end AppendOnly
