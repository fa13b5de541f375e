import Mathlib
/-! Files that are replaced by renaming. Names lead to numbered contents, and a handle keeps
referring to its contents whatever becomes of the name it was opened under. -/

/-- Files by name. Every name has contents of its own. -/
structure Files (ν β : Type) where
  inode : ν → Option Nat := fun _ => none
  contents : Nat → List β := fun _ => []
  fresh : Nat := 0
  allotted : ∀ {name i}, inode name = some i → i < fresh := by simp
  distinct : ∀ {name name' i}, inode name = some i → inode name' = some i → name = name' := by simp

namespace Files
variable {ν β : Type}

def read (name : ν) (f : Files ν β) : Option (List β) := (f.inode name).map f.contents

/-- Some items over whatever stands at the offset; a gap before it is filled. -/
def overwrite (fill : β) (offset : Nat) (items l : List β) : List β :=
  l.take offset ++ List.replicate (offset - l.length) fill ++ items ++
    l.drop (offset + items.length)

def write (fill : β) (i offset : Nat) (items : List β) (f : Files ν β) : Files ν β :=
  { f with contents := Function.update f.contents i (overwrite fill offset items (f.contents i)) }

section
variable {f : Files ν β} {name other : ν} {i offset : Nat} {items : List β}

@[simp] theorem write_inode (fill : β) (name : ν) :
    (f.write fill i offset items).inode name = f.inode name :=
  rfl

/-- Writing on where the contents end. -/
theorem write_contents (fill : β) (h : offset = (f.contents i).length) :
    (f.write fill i offset items).contents i = f.contents i ++ items := by
  simp [write, overwrite, h]

theorem write_read (fill : β) (hname : f.inode name = some i) (h : other ≠ name) :
    (f.write fill i offset items).read other = f.read other := by
  unfold read
  rw [write_inode]
  cases hother : f.inode other with
  | none => rfl
  | some j =>
    have hne : j ≠ i := by
      rintro rfl
      exact h (f.distinct hother hname)
    simp [write, hne]

end

variable [DecidableEq ν]

/-- Open for writing from the start: the contents of an existing file go. -/
def openTrunc (name : ν) (f : Files ν β) : Nat × Files ν β :=
  match h : f.inode name with
  | some i => (i, { f with contents := Function.update f.contents i [] })
  | none =>
    (f.fresh,
      { inode := Function.update f.inode name (some f.fresh)
        contents := Function.update f.contents f.fresh []
        fresh := f.fresh + 1
        allotted := by
          intro name' i hi
          rw [Function.update_apply] at hi
          split_ifs at hi
          · cases hi
            omega
          · have := f.allotted hi
            omega
        distinct := by
          intro name' name'' i hi hi'
          rw [Function.update_apply] at hi hi'
          split_ifs at hi hi' with hname hname'
          · rw [hname, hname']
          · cases hi
            exact absurd (f.allotted hi') (by omega)
          · cases hi'
            exact absurd (f.allotted hi) (by omega)
          · exact f.distinct hi hi' })

/-- The new name leads to the contents of the old, and no longer to its own. -/
def rename (old new : ν) (f : Files ν β) : Option (Files ν β) :=
  match h : f.inode old with
  | none => none
  | some i =>
    some
      { f with
        inode := fun name =>
          if name = new then some i else if name = old then none else f.inode name
        allotted := by
          intro name j hj
          split_ifs at hj
          · cases hj
            exact f.allotted h
          · exact f.allotted hj
        distinct := by
          intro name name' j hj hj'
          split_ifs at hj hj' with hname hname' hold hold'
          · rw [hname, hname']
          · cases hj
            exact absurd (f.distinct hj' h) hold
          · cases hj'
            exact absurd (f.distinct hj h) ‹_›
          · exact f.distinct hj hj' }

def remove (name : ν) (f : Files ν β) : Files ν β :=
  { f with
    inode := fun name' => if name' = name then none else f.inode name'
    allotted := by
      intro name' i hi
      split_ifs at hi
      exact f.allotted hi
    distinct := by
      intro name' name'' i hi hi'
      split_ifs at hi hi'
      exact f.distinct hi hi' }

variable {f : Files ν β} {name other : ν} {i : Nat}

/-! ### What an operation changes -/

theorem openTrunc_inode (name : ν) (f : Files ν β) :
    (f.openTrunc name).2.inode name = some (f.openTrunc name).1 := by
  unfold openTrunc
  split
  next i h => exact h
  next h => exact Function.update_self ..

theorem openTrunc_contents (name : ν) (f : Files ν β) :
    (f.openTrunc name).2.contents (f.openTrunc name).1 = [] := by
  unfold openTrunc
  split <;> exact Function.update_self ..

/-- Another file is as it was. -/
theorem openTrunc_read (f : Files ν β) (h : other ≠ name) :
    (f.openTrunc name).2.read other = f.read other := by
  unfold openTrunc read
  split
  next i hi =>
    cases hother : f.inode other with
    | none => rfl
    | some j =>
      have hne : j ≠ i := by
        rintro rfl
        exact h (f.distinct hother hi)
      simp [hne]
  next hnone =>
    simp only [Function.update_of_ne h]
    cases hother : f.inode other with
    | none => rfl
    | some j =>
      have hlt := f.allotted hother
      have hne : j ≠ f.fresh := by omega
      simp [hne]

theorem rename_of_inode {old : ν} (new : ν) (h : f.inode old = some i) :
    ∃ g, f.rename old new = some g ∧ g.read new = some (f.contents i) ∧
      (new ≠ old → g.read old = none) ∧
      ∀ name, name ≠ old → name ≠ new → g.read name = f.read name := by
  unfold rename
  split
  next hnone =>
    rw [h] at hnone
    cases hnone
  next j hj =>
    rw [h] at hj
    cases hj
    refine ⟨_, rfl, by simp [read], fun hne => by simp [read, Ne.symm hne],
      fun name hold hnew => ?_⟩
    simp [read, hold, hnew]

theorem remove_read (f : Files ν β) (h : other ≠ name) :
    (f.remove name).read other = f.read other := by
  simp [remove, read, h]

end Files
