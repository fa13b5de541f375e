import Mathlib

/-! Finite maps iterated in increasing key order. The strict ordering of the
entry list is part of the type, so two maps with the same lookups are equal. -/

@[ext] structure OrdMap (κ : Type*) [LinearOrder κ] (β : Type*) where
  entries : List (κ × β)
  sorted : entries.Pairwise fun a b => a.1 < b.1
  deriving DecidableEq

namespace OrdMap
variable {κ β γ : Type*} [LinearOrder κ]

def empty : OrdMap κ β := ⟨[], .nil⟩

instance : Inhabited (OrdMap κ β) := ⟨empty⟩

def find? (m : OrdMap κ β) (k : κ) : Option β :=
  (m.entries.find? fun e => e.1 = k).map Prod.snd

def contains (m : OrdMap κ β) (k : κ) : Bool := (m.find? k).isSome

def keys (m : OrdMap κ β) : List κ := m.entries.map Prod.fst

def values (m : OrdMap κ β) : List β := m.entries.map Prod.snd

/-- One pass over the entries; an entry with the same key is replaced in place. -/
def insertEntry (k : κ) (v : β) : List (κ × β) → List (κ × β)
  | [] => [(k, v)]
  | e :: rest =>
    if k < e.1 then (k, v) :: e :: rest
    else if k = e.1 then (k, v) :: rest
    else e :: insertEntry k v rest

theorem mem_insertEntry {k : κ} {v : β} {l : List (κ × β)} {e : κ × β}
    (h : e ∈ insertEntry k v l) : e = (k, v) ∨ e ∈ l := by
  induction l with
  | nil => simpa [insertEntry] using h
  | cons x rest ih =>
    unfold insertEntry at h
    split_ifs at h with hlt heq <;> simp only [List.mem_cons] at h ⊢
    · tauto
    · tauto
    · rcases h with h | h
      · exact Or.inr (Or.inl h)
      · rcases ih h with h | h
        · exact Or.inl h
        · exact Or.inr (Or.inr h)

theorem insertEntry_sorted (k : κ) (v : β) {l : List (κ × β)}
    (h : l.Pairwise fun a b => a.1 < b.1) :
    (insertEntry k v l).Pairwise fun a b => a.1 < b.1 := by
  induction l with
  | nil => simp [insertEntry]
  | cons x rest ih =>
    have hx := List.pairwise_cons.mp h
    unfold insertEntry
    split_ifs with hlt heq
    · refine List.Pairwise.cons (fun e he => ?_) h
      rcases List.mem_cons.mp he with rfl | he
      · exact hlt
      · exact hlt.trans (hx.1 e he)
    · exact List.Pairwise.cons (fun e he => heq ▸ hx.1 e he) hx.2
    · refine List.Pairwise.cons (fun e he => ?_) (ih hx.2)
      rcases mem_insertEntry he with rfl | he
      · exact lt_of_le_of_ne (not_lt.mp hlt) (Ne.symm heq)
      · exact hx.1 e he

def insert (m : OrdMap κ β) (k : κ) (v : β) : OrdMap κ β :=
  ⟨insertEntry k v m.entries, insertEntry_sorted k v m.sorted⟩

def erase (m : OrdMap κ β) (k : κ) : OrdMap κ β :=
  ⟨m.entries.filter fun e => e.1 ≠ k, m.sorted.filter _⟩

/-- Update every value in place, keys unchanged. -/
def mapValues (f : κ → β → γ) (m : OrdMap κ β) : OrdMap κ γ :=
  ⟨m.entries.map fun e => (e.1, f e.1 e.2), by
    simpa [List.pairwise_map] using m.sorted⟩

/-- Insert a list of entries from left to right. -/
def insertAll (m : OrdMap κ β) (l : List (κ × β)) : OrdMap κ β :=
  l.foldl (fun m e => m.insert e.1 e.2) m

/-- A set is a map without values. -/
abbrev Keys (κ : Type*) [LinearOrder κ] := OrdMap κ Unit

theorem keys_nodup (m : OrdMap κ β) : m.keys.Nodup := by
  unfold keys List.Nodup
  rw [List.pairwise_map]
  exact m.sorted.imp fun h => ne_of_lt h

theorem eq_of_mem_of_key_eq (m : OrdMap κ β) {a b : κ × β} (ha : a ∈ m.entries)
    (hb : b ∈ m.entries) (h : a.1 = b.1) : a = b :=
  List.inj_on_of_nodup_map m.keys_nodup ha hb h

theorem find?_eq_some_iff {m : OrdMap κ β} {k : κ} {v : β} :
    m.find? k = some v ↔ (k, v) ∈ m.entries := by
  unfold find?
  rw [Option.map_eq_some_iff]
  constructor
  · rintro ⟨e, he, rfl⟩
    have hk : e.1 = k := by simpa using List.find?_some he
    exact hk ▸ List.mem_of_find?_eq_some he
  · intro hm
    have hs : (m.entries.find? fun e => e.1 = k).isSome := by
      rw [List.find?_isSome]
      exact ⟨(k, v), hm, by simp⟩
    obtain ⟨e, he⟩ := Option.isSome_iff_exists.mp hs
    have hk : e.1 = k := by simpa using List.find?_some he
    have hev := m.eq_of_mem_of_key_eq (List.mem_of_find?_eq_some he) hm hk
    exact ⟨e, he, congrArg Prod.snd hev⟩

theorem find?_eq_none_iff {m : OrdMap κ β} {k : κ} : m.find? k = none ↔ k ∉ m.keys := by
  rw [Option.eq_none_iff_forall_ne_some]
  simp [find?_eq_some_iff, keys]

theorem mem_keys_iff {m : OrdMap κ β} {k : κ} : k ∈ m.keys ↔ ∃ v, m.find? k = some v := by
  simp [find?_eq_some_iff, keys]

theorem mem_values_iff {m : OrdMap κ β} {v : β} : v ∈ m.values ↔ ∃ k, m.find? k = some v := by
  simp [find?_eq_some_iff, values]

/-- Two maps with the same lookups list the same entries in the same order. -/
theorem ext_find? {m m' : OrdMap κ β} (h : ∀ k, m.find? k = m'.find? k) : m = m' := by
  have hp : m.entries.Perm m'.entries := by
    rw [List.perm_ext_iff_of_nodup (List.Nodup.of_map _ m.keys_nodup)
      (List.Nodup.of_map _ m'.keys_nodup)]
    rintro ⟨k, v⟩
    rw [← find?_eq_some_iff, ← find?_eq_some_iff, h]
  exact OrdMap.ext (hp.eq_of_pairwise
    (fun a b _ _ hab hba => absurd hab (not_lt.mpr hba.le)) m.sorted m'.sorted)

@[simp] theorem find?_empty (k : κ) : (empty : OrdMap κ β).find? k = none := rfl

@[simp] theorem find?_insert_self (m : OrdMap κ β) (k : κ) (v : β) :
    (m.insert k v).find? k = some v := by
  rw [find?_eq_some_iff]
  change (k, v) ∈ insertEntry k v m.entries
  induction m.entries with
  | nil => simp [insertEntry]
  | cons e rest ih =>
    unfold insertEntry
    split_ifs
    · simp
    · simp
    · exact List.mem_cons_of_mem _ ih

theorem mem_insert_of_ne {m : OrdMap κ β} {k k' : κ} {v w : β} (h : k' ≠ k) :
    (k', w) ∈ (m.insert k v).entries ↔ (k', w) ∈ m.entries := by
  change (k', w) ∈ insertEntry k v m.entries ↔ _
  induction m.entries with
  | nil => simp [insertEntry, h]
  | cons e rest ih =>
    unfold insertEntry
    split_ifs with hlt heq
    · simp [h]
    · simp only [List.mem_cons, Prod.mk.injEq, h, false_and, false_or]
      constructor
      · exact Or.inr
      · rintro (he | hr)
        · exact absurd (congrArg Prod.fst he) (by simpa [← heq] using h)
        · exact hr
    · simp only [List.mem_cons, ih]

theorem find?_insert_of_ne (m : OrdMap κ β) {k k' : κ} (v : β) (h : k' ≠ k) :
    (m.insert k v).find? k' = m.find? k' := by
  apply Option.ext
  intro w
  rw [find?_eq_some_iff, find?_eq_some_iff, mem_insert_of_ne h]

theorem find?_insert (m : OrdMap κ β) (k k' : κ) (v : β) :
    (m.insert k v).find? k' = if k' = k then some v else m.find? k' := by
  split_ifs with h
  · rw [h, find?_insert_self]
  · exact find?_insert_of_ne m v h

theorem find?_erase (m : OrdMap κ β) (k k' : κ) :
    (m.erase k).find? k' = if k' = k then none else m.find? k' := by
  apply Option.ext
  intro w
  rw [find?_eq_some_iff]
  split_ifs with h
  · simp [erase, h]
  · simp [erase, h, find?_eq_some_iff]

theorem find?_mapValues (f : κ → β → γ) (m : OrdMap κ β) (k : κ) :
    (m.mapValues f).find? k = (m.find? k).map (f k) := by
  apply Option.ext
  intro w
  rw [find?_eq_some_iff, Option.map_eq_some_iff]
  simp only [mapValues, List.mem_map, Prod.mk.injEq, find?_eq_some_iff]
  constructor
  · rintro ⟨⟨k', v⟩, hm, rfl, rfl⟩
    exact ⟨v, hm, rfl⟩
  · rintro ⟨v, hm, rfl⟩
    exact ⟨(k, v), hm, rfl, rfl⟩

theorem find?_mapValues_eq_some_iff {f : κ → β → γ} {m : OrdMap κ β} {k : κ} {w : γ} :
    (m.mapValues f).find? k = some w ↔ ∃ v, m.find? k = some v ∧ w = f k v := by
  rw [find?_mapValues, Option.map_eq_some_iff]
  simp only [eq_comm]

@[simp] theorem keys_mapValues (f : κ → β → γ) (m : OrdMap κ β) :
    (m.mapValues f).keys = m.keys := by
  simp [keys, mapValues, Function.comp_def]

theorem insert_eq_self {m : OrdMap κ β} {k : κ} {v : β} (h : m.find? k = some v) :
    m.insert k v = m := by
  apply ext_find?
  intro k'
  rw [find?_insert]
  split_ifs with hk
  · rw [hk, h]
  · rfl

theorem mem_keys_insert {m : OrdMap κ β} {k k' : κ} {v : β} :
    k' ∈ (m.insert k v).keys ↔ k' = k ∨ k' ∈ m.keys := by
  simp only [mem_keys_iff, find?_insert]
  by_cases h : k' = k <;> simp [h]

/-- Replacing a value leaves the key list as it is. -/
theorem keys_insert_of_mem {m : OrdMap κ β} {k : κ} {v w : β} (h : m.find? k = some v) :
    (m.insert k w).keys = m.keys := by
  refine @List.Perm.eq_of_pairwise κ (· < ·) _ _
    (fun a b _ _ hab hba => absurd hab (not_lt.mpr hba.le)) ?_ ?_
    ((List.perm_ext_iff_of_nodup (keys_nodup _) (keys_nodup _)).mpr fun k' => ?_)
  · exact List.pairwise_map.mpr (m.insert k w).sorted
  · exact List.pairwise_map.mpr m.sorted
  · rw [mem_keys_insert, or_iff_right_of_imp]
    rintro rfl
    exact mem_keys_iff.mpr ⟨v, h⟩

theorem find?_insertAll_of_not_mem (l : List (κ × β)) (m : OrdMap κ β) {k : κ}
    (h : k ∉ l.map Prod.fst) : (m.insertAll l).find? k = m.find? k := by
  induction l generalizing m with
  | nil => rfl
  | cons e rest ih =>
    simp only [List.map_cons, List.mem_cons, not_or] at h
    change ((m.insert e.1 e.2).insertAll rest).find? k = _
    rw [ih _ h.2, find?_insert_of_ne _ _ h.1]

theorem find?_insertAll_of_mem {l : List (κ × β)} (hl : (l.map Prod.fst).Nodup)
    (m : OrdMap κ β) {k : κ} {v : β} (h : (k, v) ∈ l) :
    (m.insertAll l).find? k = some v := by
  induction l generalizing m with
  | nil => simp at h
  | cons e rest ih =>
    rw [List.map_cons, List.nodup_cons] at hl
    change ((m.insert e.1 e.2).insertAll rest).find? k = _
    rcases List.mem_cons.mp h with rfl | hr
    · rw [find?_insertAll_of_not_mem _ _ hl.1, find?_insert_self]
    · exact ih hl.2 _ hr

/-- Under each key the last value inserted stays, or what was there before. -/
theorem find?_insertAll (l : List (κ × β)) (m : OrdMap κ β) (k : κ) :
    (m.insertAll l).find? k =
      ((l.filter fun e => e.1 = k).getLast?.map Prod.snd).or (m.find? k) := by
  induction l generalizing m with
  | nil => rfl
  | cons e rest ih =>
    change ((m.insert e.1 e.2).insertAll rest).find? k = _
    rw [ih, find?_insert]
    by_cases hk : k = e.1
    · rw [if_pos hk, List.filter_cons_of_pos (by simp [hk]), List.getLast?_cons]
      cases (rest.filter fun e => e.1 = k).getLast? <;> rfl
    · rw [if_neg hk, List.filter_cons_of_neg (by simpa using Ne.symm hk)]

/-- Inserting a map's own entries one by one rebuilds the map. -/
theorem insertAll_entries (m : OrdMap κ β) : empty.insertAll m.entries = m := by
  apply ext_find?
  intro k
  cases h : m.find? k with
  | some v => exact find?_insertAll_of_mem m.keys_nodup _ (find?_eq_some_iff.mp h)
  | none =>
    rw [find?_insertAll_of_not_mem _ _ (find?_eq_none_iff.mp h)]
    rfl

theorem find?_insertAll_cases {l : List (κ × β)} {m : OrdMap κ β} {k : κ} {v : β}
    (h : (m.insertAll l).find? k = some v) : (k, v) ∈ l ∨ m.find? k = some v := by
  induction l generalizing m with
  | nil => exact Or.inr h
  | cons e rest ih =>
    rcases ih (m := m.insert e.1 e.2) h with h | h
    · exact Or.inl (List.mem_cons_of_mem _ h)
    · rw [find?_insert] at h
      split_ifs at h with hk
      · cases h
        exact Or.inl (by rw [hk]; exact List.mem_cons_self)
      · exact Or.inr h

theorem mem_of_find?_insertAll {l : List (κ × β)} {k : κ} {v : β}
    (h : (empty.insertAll l).find? k = some v) : (k, v) ∈ l :=
  (find?_insertAll_cases h).resolve_right (by simp)

theorem mem_keys_insertAll {l : List (κ × β)} {m : OrdMap κ β} {k : κ} :
    k ∈ (m.insertAll l).keys ↔ k ∈ m.keys ∨ k ∈ l.map Prod.fst := by
  induction l generalizing m with
  | nil => simp [insertAll]
  | cons e rest ih =>
    change k ∈ ((m.insert e.1 e.2).insertAll rest).keys ↔ _
    rw [ih, mem_keys_insert, List.map_cons, List.mem_cons]
    tauto

/-- Nothing was replaced exactly when there are as many entries as were inserted. -/
theorem length_keys_insertAll_iff {l : List (κ × β)} :
    ((empty : OrdMap κ β).insertAll l).keys.length = l.length ↔ (l.map Prod.fst).Nodup := by
  have hperm : ((empty : OrdMap κ β).insertAll l).keys.Perm (l.map Prod.fst).dedup := by
    rw [List.perm_ext_iff_of_nodup (keys_nodup _) (List.nodup_dedup _)]
    intro k
    rw [mem_keys_insertAll, List.mem_dedup]
    simp [keys, empty]
  rw [hperm.length_eq, ← List.length_map (f := Prod.fst)]
  constructor
  · intro h
    exact List.dedup_eq_self.mp ((List.dedup_sublist _).eq_of_length h)
  · intro h
    rw [List.dedup_eq_self.mpr h]

end OrdMap
