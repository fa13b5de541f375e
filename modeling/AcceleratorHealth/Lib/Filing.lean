import AcceleratorHealth.Lib.OrdMap

/-! Lists filed under keys that their elements carry. Of each key the last element stays,
and the map lists what stays in ascending order of keys. -/

namespace OrdMap
variable {κ α : Type*} [LinearOrder κ]

/-- `ys` lists the last of each key of `xs`, in ascending order of keys. -/
structure Settles (key : α → κ) (xs ys : List α) : Prop where
  ascending : ys.Pairwise fun a b => key a < key b
  last : ∀ y, y ∈ ys ↔ (xs.filter fun x => key x = key y).getLast? = some y

/-- The map that files each element under its own key. -/
def filing (key : α → κ) (xs : List α) : OrdMap κ α :=
  empty.insertAll (xs.map fun x => (key x, x))

/-- Every element stands under its own key. -/
def Keyed (key : α → κ) (m : OrdMap κ α) : Prop := ∀ e ∈ m.entries, e.1 = key e.2

variable {key : α → κ} {xs : List α} {m : OrdMap κ α}

theorem find?_filing (k : κ) :
    (filing key xs).find? k = (xs.filter fun x => key x = k).getLast? := by
  rw [filing, find?_insertAll, List.filter_map, List.getLast?_map, Option.map_map]
  simp [Function.comp_def]

theorem keyed_filing : (filing key xs).Keyed key := by
  rintro ⟨k, v⟩ he
  have hfind := find?_eq_some_iff.mpr he
  rw [find?_filing] at hfind
  have hmem := List.mem_of_getLast? hfind
  have hkey : key v = k := by simpa using (List.mem_filter.mp hmem).2
  exact hkey.symm

theorem Keyed.pairwise_values (h : m.Keyed key) :
    m.values.Pairwise fun a b => key a < key b := by
  rw [values, List.pairwise_map]
  refine m.sorted.imp_of_mem fun ha hb hlt => ?_
  rwa [← h _ ha, ← h _ hb]

theorem Keyed.filing_values (h : m.Keyed key) : filing key m.values = m := by
  have hentries : m.values.map (fun x => (key x, x)) = m.entries := by
    rw [values, List.map_map]
    calc m.entries.map _ = m.entries.map id := by
          refine List.map_congr_left fun e he => ?_
          exact Prod.ext (h e he).symm rfl
      _ = m.entries := List.map_id _
  rw [filing, hentries, insertAll_entries]

theorem mem_values_filing {y : α} :
    y ∈ (filing key xs).values ↔ (xs.filter fun x => key x = key y).getLast? = some y := by
  rw [mem_values_iff]
  constructor
  · rintro ⟨k, hk⟩
    have hkey : k = key y := keyed_filing _ (find?_eq_some_iff.mp hk)
    rwa [hkey, find?_filing] at hk
  · intro hlast
    exact ⟨key y, by rw [find?_filing, hlast]⟩

theorem settles_filing (key : α → κ) (xs : List α) : Settles key xs (filing key xs).values :=
  ⟨keyed_filing.pairwise_values, fun _ => mem_values_filing⟩

/-- An ascending list is what its map lists. -/
theorem values_filing_of_pairwise (h : xs.Pairwise fun a b => key a < key b) :
    (filing key xs).values = xs := by
  have hm : (⟨xs.map fun x => (key x, x), List.pairwise_map.mpr h⟩ : OrdMap κ α).entries =
      xs.map fun x => (key x, x) := rfl
  rw [filing, ← hm, insertAll_entries, values, List.map_map]
  exact List.map_id xs

theorem mem_of_mem_filing {y : α} (h : y ∈ (filing key xs).values) : y ∈ xs :=
  List.mem_of_mem_filter (List.mem_of_getLast? (mem_values_filing.mp h))

/-- With no key used twice nothing is lost. -/
theorem perm_values_filing (h : (xs.map key).Nodup) : xs.Perm (filing key xs).values := by
  have hxs : xs.Nodup := h.of_map _
  have hvalues : (filing key xs).values.Nodup :=
    keyed_filing.pairwise_values.imp fun hlt heq => absurd (heq ▸ hlt) (lt_irrefl _)
  rw [List.perm_ext_iff_of_nodup hxs hvalues]
  refine fun y => ⟨fun hy => ?_, mem_of_mem_filing⟩
  have hfind : (filing key xs).find? (key y) = some y := by
    apply find?_insertAll_of_mem
    · rw [List.map_map]
      exact h
    · exact List.mem_map.mpr ⟨y, hy, rfl⟩
  exact mem_values_iff.mpr ⟨key y, hfind⟩

end OrdMap
