import AcceleratorHealth.Reloading
import AcceleratorHealth.Lib.Files

/-! Saving. `saveToFile` writes the image under a second name and renames the file when it is
whole. Every call of the operating system can fail, and the process can end between any two;
the machine does not crash here, for nothing is synced to its disk. As long as no two saves
overlap, the file has at all times what the last successful save has put there; two that
overlap share the second name, and can leave any part of an image. -/
namespace AcceleratorHealth

/-- Where a save stands, and with what error text it has returned, if any. -/
inductive Saver.Phase where
  | opening
  | writing (inode offset : Nat) (left : Bytes)
  | replacing
  | removing
  | returned (error : Option String)
  | thrown
  | crashed
  deriving DecidableEq

/-- A call of `saveToFile`, with the bytes that it writes. -/
structure Saver where
  image : Bytes
  phase : Saver.Phase := .opening

/-- The files, and all saves so far in the order of their calls. -/
structure Disk where
  files : Files String UInt8
  savers : List Saver := []

/-- What happens next: a thread calls `saveToFile`, which encodes the store without its lock,
here while no other thread writes it; the next call of a save succeeds, and writes at most `n`
bytes, or fails; or the process ends. -/
inductive DiskEvent where
  | save (store : HealthStore)
  | proceed (i n : Nat)
  | fails (i : Nat)
  | crash

def tmpName (path : String) : String := path ++ ".tmp"

namespace Saver

def finished (s : Saver) : Bool :=
  match s.phase with
  | .returned _ | .thrown | .crashed => true
  | _ => false

/-- The save has returned true. -/
def replaced (s : Saver) : Bool := s.phase = .returned none

/-- The stream is flushed and closed when nothing is left to write. -/
def written (inode offset : Nat) (left : Bytes) (s : Saver) : Saver :=
  { s with phase := if left = [] then .replacing else .writing inode offset left }

def proceed (path : String) (n : Nat) (files : Files String UInt8) (s : Saver) :
    Files String UInt8 × Saver :=
  match s.phase with
  | .opening =>
    let (inode, files) := files.openTrunc (tmpName path)
    (files, s.written inode 0 s.image)
  | .writing inode offset left =>
    (files.write 0 inode offset (left.take n),
      s.written inode (offset + (left.take n).length) (left.drop n))
  | .replacing =>
    match files.rename (tmpName path) path with
    | some files => (files, { s with phase := .returned none })
    | none => (files, { s with phase := .removing })
  | .removing =>
    (files.remove (tmpName path), { s with phase := .returned (some "atomic replace failed") })
  | _ => (files, s)

def fail (s : Saver) : Saver :=
  match s.phase with
  | .opening => { s with phase := .returned (some "cannot open for write") }
  | .writing _ _ _ => { s with phase := .returned (some "write failed") }
  | .replacing => { s with phase := .removing }
  | .removing => { s with phase := .thrown }
  | _ => s

def crash (s : Saver) : Saver := if s.finished then s else { s with phase := .crashed }

end Saver

namespace Disk

/-- A store that cannot be encoded is not saved at all. -/
def step (path : String) (d : Disk) : DiskEvent → Disk
  | .save store =>
    match Persistence.encodeStateInternal store with
    | .error _ => d
    | .ok image => { d with savers := d.savers ++ [{ image }] }
  | .proceed i n =>
    match d.savers[i]? with
    | none => d
    | some s =>
      let (files, s) := s.proceed path n d.files
      { files, savers := d.savers.set i s }
  | .fails i =>
    match d.savers[i]? with
    | none => d
    | some s => { d with savers := d.savers.set i s.fail }
  | .crash => { d with savers := d.savers.map Saver.crash }

/-- A save begins when all others are over. -/
def Exclusive (d : Disk) : DiskEvent → Prop
  | .save _ => ∀ s ∈ d.savers, s.finished = true
  | _ => True

instance (d : Disk) (e : DiskEvent) : Decidable (d.Exclusive e) := by
  unfold Exclusive
  split <;> infer_instance

end Disk

/-- The content that the successful saves leave: the image of the last of them. -/
def keptOf (initial : Option Bytes) (savers : List Saver) : Option Bytes :=
  savers.foldl (fun content s => if s.replaced then some s.image else content) initial

theorem keptOf_append (initial : Option Bytes) (savers : List Saver) (s : Saver) :
    keptOf initial (savers ++ [s]) =
      if s.replaced then some s.image else keptOf initial savers := by
  rw [keptOf, List.foldl_append]
  rfl

theorem tmpName_ne (path : String) : path ≠ tmpName path := by
  intro h
  have hlength := congrArg String.length h
  rw [tmpName, String.length_append] at hlength
  have : (".tmp" : String).length = 4 := rfl
  omega

/-- What a save at work relies on. -/
def Saver.Ready (path : String) (files : Files String UInt8) (s : Saver) : Prop :=
  match s.phase with
  | .writing inode offset left =>
    files.inode (tmpName path) = some inode ∧ offset = (files.contents inode).length ∧
      files.contents inode ++ left = s.image
  | .replacing => ∃ inode, files.inode (tmpName path) = some inode ∧ files.contents inode = s.image
  | _ => True

namespace Saver
variable {path : String} {files : Files String UInt8} {s : Saver}

theorem ready_of_finished (h : s.finished = true) : s.Ready path files := by
  unfold finished at h
  unfold Ready
  split <;> simp_all

theorem replaced_of_unfinished (h : s.finished = false) : s.replaced = false := by
  unfold finished at h
  unfold replaced
  cases hphase : s.phase <;> simp_all

theorem ready_written {inode offset : Nat} {left : Bytes}
    (hname : files.inode (tmpName path) = some inode)
    (hoffset : offset = (files.contents inode).length)
    (hall : files.contents inode ++ left = s.image) :
    (s.written inode offset left).Ready path files := by
  unfold written Ready
  split_ifs with hleft
  · rw [hleft, List.append_nil] at hall
    exact ⟨inode, hname, hall⟩
  · exact ⟨hname, hoffset, hall⟩

theorem replaced_written (inode offset : Nat) (left : Bytes) :
    (s.written inode offset left).replaced = false := by
  unfold written replaced
  split_ifs <;> rfl

/-- A call of a save that is alone: what it relies on next, and the file, which is the image
when the save has succeeded and what it was until then. -/
theorem proceed_spec (n : Nat) (hready : s.Ready path files) :
    (s.proceed path n files).2.Ready path (s.proceed path n files).1 ∧
      (s.finished = false → (s.proceed path n files).1.read path =
        if (s.proceed path n files).2.replaced then some s.image else files.read path) := by
  have hpath := tmpName_ne path
  unfold Ready at hready
  unfold proceed
  cases hphase : s.phase with
  | opening =>
    refine ⟨ready_written (files.openTrunc_inode _) ?_ ?_, fun _ => ?_⟩
    · rw [files.openTrunc_contents]
      rfl
    · rw [files.openTrunc_contents]
      rfl
    · rw [replaced_written]
      exact files.openTrunc_read hpath
  | writing inode offset left =>
    rw [hphase] at hready
    obtain ⟨hname, hoffset, hall⟩ := hready
    have hcontents : (files.write 0 inode offset (left.take n)).contents inode =
        files.contents inode ++ left.take n :=
      Files.write_contents 0 hoffset
    refine ⟨ready_written hname ?_ ?_, fun _ => ?_⟩
    · rw [hcontents, List.length_append, hoffset]
    · rw [hcontents, List.append_assoc, List.take_append_drop, hall]
    · rw [replaced_written]
      exact Files.write_read 0 hname hpath
  | replacing =>
    rw [hphase] at hready
    obtain ⟨inode, hname, hall⟩ := hready
    obtain ⟨files', hrename, hread, -, -⟩ := Files.rename_of_inode path hname
    simp only [hrename]
    refine ⟨trivial, fun _ => ?_⟩
    rw [hread, hall]
    rfl
  | removing => exact ⟨trivial, fun _ => files.remove_read hpath⟩
  | returned error =>
    refine ⟨ready_of_finished (by simp [finished, hphase]), fun h => ?_⟩
    simp [finished, hphase] at h
  | thrown =>
    refine ⟨ready_of_finished (by simp [finished, hphase]), fun h => ?_⟩
    simp [finished, hphase] at h
  | crashed =>
    refine ⟨ready_of_finished (by simp [finished, hphase]), fun h => ?_⟩
    simp [finished, hphase] at h

theorem fail_spec (s : Saver) (path : String) (files : Files String UInt8) :
    s.fail.Ready path files ∨ s.fail = s := by
  unfold fail
  cases hphase : s.phase with
  | opening => exact Or.inl trivial
  | writing inode offset left => exact Or.inl trivial
  | replacing => exact Or.inl trivial
  | removing => exact Or.inl trivial
  | returned error => exact Or.inr rfl
  | thrown => exact Or.inr rfl
  | crashed => exact Or.inr rfl

theorem image_proceed (s : Saver) (path : String) (n : Nat) (files : Files String UInt8) :
    (s.proceed path n files).2.image = s.image := by
  unfold proceed
  split
  · rfl
  · rfl
  · split <;> rfl
  · rfl
  · rfl

theorem image_fail (s : Saver) : s.fail.image = s.image := by
  unfold fail
  split <;> rfl

theorem replaced_fail (s : Saver) : s.fail.replaced = s.replaced := by
  unfold fail replaced
  cases hphase : s.phase <;> simp [hphase]

theorem image_crash (s : Saver) : s.crash.image = s.image := by
  unfold crash
  split_ifs <;> rfl

theorem finished_crash (s : Saver) : s.crash.finished = true := by
  unfold crash
  split_ifs with h
  · exact h
  · rfl

theorem replaced_crash (s : Saver) : s.crash.replaced = s.replaced := by
  unfold crash
  split_ifs with h
  · rfl
  · rw [replaced_of_unfinished (s := s) (by simpa using h)]
    rfl

end Saver

/-! ### Saves that do not overlap -/

theorem keptOf_map {initial : Option Bytes} {savers : List Saver} {f : Saver → Saver}
    (hreplaced : ∀ s, (f s).replaced = s.replaced) (himage : ∀ s, (f s).image = s.image) :
    keptOf initial (savers.map f) = keptOf initial savers := by
  induction savers using List.reverseRecOn with
  | nil => rfl
  | append_singleton rest s ih =>
    rw [List.map_append, List.map_singleton, keptOf_append, keptOf_append, hreplaced, himage, ih]

/-- The file has what the successful saves have left, and no save but the last is at work. -/
structure Disk.Tidy (path : String) (initial : Option Bytes) (d : Disk) : Prop where
  content : d.files.read path = keptOf initial d.savers
  ready : ∀ s ∈ d.savers, s.Ready path d.files
  alone : ∀ before s after, d.savers = before ++ s :: after → s.finished = false →
    after = [] ∧ ∀ t ∈ before, t.finished = true

namespace Disk
variable {path : String} {initial : Option Bytes} {d : Disk}

/-- The save of an event, when it is not over, is the last one. -/
theorem Tidy.last (h : d.Tidy path initial) {i : Nat} {s : Saver} (hs : d.savers[i]? = some s)
    (hbusy : s.finished = false) : ∃ before, d.savers = before ++ [s] ∧
      (∀ s', d.savers.set i s' = before ++ [s']) ∧ ∀ t ∈ before, t.finished = true := by
  obtain ⟨hi, rfl⟩ := List.getElem?_eq_some_iff.mp hs
  have hsplit : d.savers = d.savers.take i ++ d.savers[i] :: d.savers.drop (i + 1) := by
    rw [← List.drop_eq_getElem_cons hi, List.take_append_drop]
  obtain ⟨hnone, hbefore⟩ := h.alone _ _ _ hsplit hbusy
  refine ⟨d.savers.take i, by rw [← hnone]; exact hsplit, fun s' => ?_, hbefore⟩
  rw [List.set_eq_take_append_cons_drop, if_pos hi, hnone]

/-- One more turn of the last save. -/
theorem Tidy.turn (h : d.Tidy path initial) {before : List Saver} {s s' : Saver}
    {files : Files String UInt8} (hsplit : d.savers = before ++ [s]) (hbusy : s.finished = false)
    (hover : ∀ t ∈ before, t.finished = true) (hready : s'.Ready path files)
    (himage : s'.image = s.image)
    (hread : files.read path = if s'.replaced then some s.image else d.files.read path) :
    Tidy path initial { files, savers := before ++ [s'] } where
  content := by
    have hcontent := h.content
    rw [hsplit, keptOf_append, Saver.replaced_of_unfinished hbusy] at hcontent
    rw [keptOf_append, himage, hread, hcontent]
    rfl
  ready := by
    intro t ht
    rcases List.mem_append.mp ht with ht | ht
    · exact Saver.ready_of_finished (hover t ht)
    · rw [List.mem_singleton.mp ht]
      exact hready
  alone := by
    intro front t after heq hwork
    rcases List.eq_nil_or_concat after with rfl | ⟨rest, last, rfl⟩
    · obtain ⟨rfl, -⟩ := List.append_inj' heq rfl
      exact ⟨rfl, hover⟩
    · rw [List.concat_eq_append, ← List.cons_append, ← List.append_assoc] at heq
      obtain ⟨rfl, -⟩ := List.append_inj' heq rfl
      rw [hover t (by simp)] at hwork
      cases hwork

theorem Tidy.save (h : d.Tidy path initial) (image : Bytes)
    (hover : ∀ s ∈ d.savers, s.finished = true) :
    Tidy path initial { d with savers := d.savers ++ [{ image }] } where
  content := by
    rw [keptOf_append]
    exact h.content
  ready := by
    intro s hs
    rcases List.mem_append.mp hs with hs | hs
    · exact h.ready s hs
    · rw [List.mem_singleton.mp hs]
      trivial
  alone := by
    intro front t after heq hwork
    rcases List.eq_nil_or_concat after with rfl | ⟨rest, last, rfl⟩
    · obtain ⟨rfl, -⟩ := List.append_inj' heq rfl
      exact ⟨rfl, hover⟩
    · rw [List.concat_eq_append, ← List.cons_append, ← List.append_assoc] at heq
      obtain ⟨hfront, -⟩ := List.append_inj' heq rfl
      rw [hover t (by rw [hfront]; simp)] at hwork
      cases hwork

theorem Tidy.crash (h : d.Tidy path initial) :
    Tidy path initial { d with savers := d.savers.map Saver.crash } where
  content := by
    rw [keptOf_map Saver.replaced_crash Saver.image_crash]
    exact h.content
  ready := by
    intro s hs
    obtain ⟨t, -, rfl⟩ := List.mem_map.mp hs
    exact Saver.ready_of_finished t.finished_crash
  alone := by
    intro before s after heq hwork
    have hmem : s ∈ d.savers.map Saver.crash := by
      rw [show d.savers.map Saver.crash = before ++ s :: after from heq]
      simp
    obtain ⟨t, -, rfl⟩ := List.mem_map.mp hmem
    rw [t.finished_crash] at hwork
    cases hwork

/-- What a save that is over does next is nothing. -/
theorem proceed_of_finished {s : Saver} (h : s.finished = true) (n : Nat)
    (files : Files String UInt8) :
    s.proceed path n files = (files, s) := by
  unfold Saver.finished at h
  unfold Saver.proceed
  cases hphase : s.phase <;> simp [hphase] at h ⊢

theorem fail_of_finished {s : Saver} (h : s.finished = true) : s.fail = s := by
  unfold Saver.finished at h
  unfold Saver.fail
  cases hphase : s.phase <;> simp [hphase] at h ⊢

theorem set_same {savers : List Saver} {i : Nat} {s : Saver} (hs : savers[i]? = some s) :
    savers.set i s = savers := by
  obtain ⟨hi, rfl⟩ := List.getElem?_eq_some_iff.mp hs
  exact List.set_getElem_self hi

theorem Tidy.step (h : d.Tidy path initial) {e : DiskEvent} (hexclusive : d.Exclusive e) :
    (d.step path e).Tidy path initial := by
  cases e with
  | save store =>
    simp only [Disk.step]
    cases Persistence.encodeStateInternal store with
    | error e => exact h
    | ok image => exact h.save image hexclusive
  | proceed i n =>
    simp only [Disk.step]
    cases hs : d.savers[i]? with
    | none => exact h
    | some s =>
      cases hbusy : s.finished with
      | true =>
        simp only [proceed_of_finished hbusy, set_same hs]
        exact h
      | false =>
        obtain ⟨before, hsplit, hset, hover⟩ := h.last hs hbusy
        obtain ⟨hready, hread⟩ := Saver.proceed_spec n (h.ready s (by rw [hsplit]; simp))
        simp only [hset]
        exact h.turn hsplit hbusy hover hready (s.image_proceed path n d.files) (hread hbusy)
  | fails i =>
    simp only [Disk.step]
    cases hs : d.savers[i]? with
    | none => exact h
    | some s =>
      cases hbusy : s.finished with
      | true =>
        simp only [fail_of_finished hbusy, set_same hs]
        exact h
      | false =>
        obtain ⟨before, hsplit, hset, hover⟩ := h.last hs hbusy
        have hready : s.fail.Ready path d.files := by
          rcases s.fail_spec path d.files with hready | hsame
          · exact hready
          · rw [hsame]
            exact h.ready s (by rw [hsplit]; simp)
        simp only [hset]
        refine h.turn hsplit hbusy hover hready s.image_fail ?_
        rw [s.replaced_fail, Saver.replaced_of_unfinished hbusy]
        rfl
  | crash => exact h.crash

/-- A save keeps its image through all that happens. -/
theorem image_step {s' : Saver} {e : DiskEvent} (h : s' ∈ (d.step path e).savers) :
    (∃ s ∈ d.savers, s'.image = s.image) ∨
      ∃ store, e = .save store ∧ Persistence.encodeStateInternal store = .ok s'.image := by
  cases e with
  | save store =>
    simp only [Disk.step] at h
    cases hencode : Persistence.encodeStateInternal store with
    | error e =>
      rw [hencode] at h
      exact Or.inl ⟨s', h, rfl⟩
    | ok image =>
      rw [hencode] at h
      rcases List.mem_append.mp h with h | h
      · exact Or.inl ⟨s', h, rfl⟩
      · rw [List.mem_singleton.mp h]
        exact Or.inr ⟨store, rfl, hencode⟩
  | proceed i n =>
    left
    simp only [Disk.step] at h
    cases hs : d.savers[i]? with
    | none =>
      rw [hs] at h
      exact ⟨s', h, rfl⟩
    | some s =>
      rw [hs] at h
      rcases List.mem_or_eq_of_mem_set h with h | rfl
      · exact ⟨s', h, rfl⟩
      · exact ⟨s, List.mem_of_getElem? hs, s.image_proceed path n d.files⟩
  | fails i =>
    left
    simp only [Disk.step] at h
    cases hs : d.savers[i]? with
    | none =>
      rw [hs] at h
      exact ⟨s', h, rfl⟩
    | some s =>
      rw [hs] at h
      rcases List.mem_or_eq_of_mem_set h with h | rfl
      · exact ⟨s', h, rfl⟩
      · exact ⟨s, List.mem_of_getElem? hs, s.image_fail⟩
  | crash =>
    obtain ⟨s, hs, rfl⟩ := List.mem_map.mp h
    exact Or.inl ⟨s, hs, s.image_crash⟩

/-- The file is, at every moment, what it was at the start or the whole image of a store, the
one of the last save that has returned true. -/
structure Atomic (path : String) (initial : Option Bytes) (events : List DiskEvent) (d : Disk) :
    Prop where
  content : d.files.read path = keptOf initial d.savers
  images : ∀ s ∈ d.savers, ∃ store, DiskEvent.save store ∈ events ∧
    Persistence.encodeStateInternal store = .ok s.image

/-- What every run of saves that do not overlap comes to. -/
theorem tidy_run (path : String) (files : Files String UInt8) (events : List DiskEvent)
    (hexclusive : Machine.Along (Disk.step path) Disk.Exclusive { files } events) :
    (Machine.run (Disk.step path) { files } events).Tidy path (files.read path) ∧
      ∀ s ∈ (Machine.run (Disk.step path) { files } events).savers, ∃ store,
        DiskEvent.save store ∈ events ∧ Persistence.encodeStateInternal store = .ok s.image := by
  refine Machine.run_history (P := fun past (d : Disk) => d.Tidy path (files.read path) ∧
    ∀ s ∈ d.savers, ∃ store, DiskEvent.save store ∈ past ∧
      Persistence.encodeStateInternal store = .ok s.image)
    ⟨⟨rfl, by simp, by simp⟩, by simp⟩
      (fun past e d hd he => ⟨hd.1.step he, fun s hs => ?_⟩) hexclusive
  rcases Disk.image_step hs with ⟨t, ht, himage⟩ | ⟨store, rfl, hencode⟩
  · obtain ⟨store, hstore, hencode⟩ := hd.2 t ht
    exact ⟨store, List.mem_append_left _ hstore, by rw [himage]; exact hencode⟩
  · exact ⟨store, by simp, hencode⟩

end Disk

/-- Saves that do not overlap are atomic, wherever they fail and whenever the process ends. -/
theorem saves_atomic (path : String) (files : Files String UInt8) (events : List DiskEvent)
    (hexclusive : Machine.Along (Disk.step path) Disk.Exclusive { files } events) :
    (Machine.run (Disk.step path) { files } events).Atomic path (files.read path) events where
  content := (Disk.tidy_run path files events hexclusive).1.content
  images := (Disk.tidy_run path files events hexclusive).2

theorem saves_atomic_around_crash :
    (Machine.run (Disk.step "state") { files := {} }
      [.save (HealthStore.init {} 0), .proceed 0 0, .proceed 0 20, .crash,
        .save (HealthStore.init {} 1), .proceed 1 0, .proceed 1 1000, .proceed 1 0]).Atomic "state"
      (({} : Files String UInt8).read "state")
      [.save (HealthStore.init {} 0), .proceed 0 0, .proceed 0 20, .crash,
        .save (HealthStore.init {} 1), .proceed 1 0, .proceed 1 1000, .proceed 1 0] :=
  saves_atomic "state" {} _ (by decide +kernel)

/-! ### Restarts -/

/-- What the saves have left is what was there, or the image of one of them. -/
theorem keptOf_cases (initial : Option Bytes) (savers : List Saver) :
    keptOf initial savers = initial ∧ (∀ s ∈ savers, s.replaced = false) ∨
      ∃ s ∈ savers, s.replaced = true ∧ keptOf initial savers = some s.image := by
  induction savers using List.reverseRecOn with
  | nil => exact Or.inl ⟨rfl, by simp⟩
  | append_singleton rest s ih =>
    rw [keptOf_append]
    cases hreplaced : s.replaced with
    | true => exact Or.inr ⟨s, by simp, hreplaced, rfl⟩
    | false =>
      rcases ih with ⟨hkept, hnone⟩ | ⟨t, ht, htrue, hkept⟩
      · refine Or.inl ⟨hkept, fun t ht => ?_⟩
        rcases List.mem_append.mp ht with ht | ht
        · exact hnone t ht
        · rw [List.mem_singleton.mp ht]
          exact hreplaced
      · exact Or.inr ⟨t, List.mem_append_left _ ht, htrue, hkept⟩

/-- A coordinator that starts without a file, saves loadable stores one at a time and ends at
any moment finds at its next start nothing, if no save has returned true, or an image that it
can decode, the one that some store was encoded to. -/
theorem restart_finds_a_save (path : String) (files : Files String UInt8) (events : List DiskEvent)
    (hnone : files.read path = none)
    (hexclusive : Machine.Along (Disk.step path) Disk.Exclusive { files } events)
    (hstores : ∀ store, DiskEvent.save store ∈ events → store.Reachable ∧ store.Loadable)
    (out : HealthStore) :
    (Machine.run (Disk.step path) { files } events).files.read path = none ∧
        (∀ s ∈ (Machine.run (Disk.step path) { files } events).savers, s.replaced = false) ∨
      ∃ store image, DiskEvent.save store ∈ events ∧
        Persistence.encodeStateInternal store = .ok image ∧
        (Machine.run (Disk.step path) { files } events).files.read path = some image ∧
        (Persistence.decodeStateInternal image out).result = .ok () := by
  obtain ⟨htidy, himages⟩ := Disk.tidy_run path files events hexclusive
  rw [htidy.content]
  rcases keptOf_cases (files.read path) (Machine.run (Disk.step path) { files } events).savers with
    ⟨hkept, hfailed⟩ | ⟨s, hs, -, hkept⟩
  · exact Or.inl ⟨hkept.trans hnone, hfailed⟩
  · obtain ⟨store, hstore, hencode⟩ := himages s hs
    obtain ⟨hreachable, hloadable⟩ := hstores store hstore
    obtain ⟨data, hdata, hdecode⟩ := (HealthStore.reachable_sound hreachable).reloads hloadable out
    obtain rfl : data = s.image := Except.ok.inj (hdata.symm.trans hencode)
    exact Or.inr ⟨store, s.image, hstore, hencode, hkept, hdecode⟩

/-- A save that the process outlives, and one that it does not. -/
def savedOnce : List DiskEvent :=
  [.save (HealthStore.after {} 0 HealthStore.bringUp),
    .proceed 0 0, .proceed 0 100000, .proceed 0 0,
    .save (HealthStore.after {} 0 HealthStore.bringUp), .proceed 1 0, .proceed 1 7, .crash]

theorem restart_after_bringUp :
    (Machine.run (Disk.step "state") { files := {} } savedOnce).files.read "state" = none ∧
        (∀ s ∈ (Machine.run (Disk.step "state") { files := {} } savedOnce).savers,
          s.replaced = false) ∨
      ∃ store image, DiskEvent.save store ∈ savedOnce ∧
        Persistence.encodeStateInternal store = .ok image ∧
        (Machine.run (Disk.step "state") { files := {} } savedOnce).files.read "state" =
          some image ∧
        (Persistence.decodeStateInternal image (HealthStore.init {} 0)).result = .ok () :=
  restart_finds_a_save "state" {} savedOnce rfl (by decide +kernel)
    (by
      intro store hstore
      obtain rfl : store = HealthStore.after {} 0 HealthStore.bringUp := by
        simpa [savedOnce] using hstore
      exact ⟨⟨{}, 0, HealthStore.bringUp, rfl⟩,
        ⟨by decide +kernel, by decide +kernel, by decide +kernel, by decide +kernel⟩⟩)
    (HealthStore.init {} 0)

/-! ### Saves that overlap -/

theorem length_sealImage (body : Bytes) : 0 < (Persistence.sealImage body).length := by
  unfold Persistence.sealImage Persistence.frameImage Persistence.kMagicP
  simp

end AcceleratorHealth
