import AcceleratorHealth.Gravity
import AcceleratorHealth.RoundTrip
import AcceleratorHealth.Lib.AppendOnly
import AcceleratorHealth.Lib.Machine

/-! The fault history as a log: faults are recorded and resolved in any order, and nothing
that was recorded is ever removed, moved or resolved twice. -/
namespace AcceleratorHealth
open Codec Wire Util AppendOnly

namespace FaultHistory

/-! ### Resolving, writing and reading -/

/-- The loop of `resolve`: the first fault with the id decides. -/
def resolveIn (id : FaultId) (at_ : Timestamp) : List Fault → Bool × List Fault
  | [] => (false, [])
  | f :: rest =>
    if f.id = id then
      -- no double resolution
      if f.resolution ≠ .open then (false, f :: rest)
      else (true, { f with resolution := .resolved, resolvedAt := at_ } :: rest)
    else
      let r := resolveIn id at_ rest
      (r.1, f :: r.2)

theorem ids_resolveIn (id : FaultId) (at_ : Timestamp) (faults : List Fault) :
    (resolveIn id at_ faults).2.map Fault.id = faults.map Fault.id := by
  induction faults with
  | nil => rfl
  | cons f rest ih =>
    unfold resolveIn
    split_ifs <;> simp [ih]

/-- `FaultHistory::resolve`. -/
def resolve (h : FaultHistory) (id : FaultId) (at_ : Timestamp) : Bool × FaultHistory :=
  ((resolveIn id at_ h.faults).1,
    ⟨(resolveIn id at_ h.faults).2, (ids_resolveIn id at_ h.faults).symm ▸ h.ids_nodup⟩)

def isFaultOpen (h : FaultHistory) (id : FaultId) : Bool :=
  match h.faults.find? fun f => f.id = id with
  | some f => f.resolution = .open
  | none => false

/-- `FaultHistory::write`. -/
def write (h : FaultHistory) : Writer := emitAll (counted Fault.write h.faults)

/-- The loop of `read`: each fault is looked up among those before it, then appended. -/
def readFaults : Nat → FaultHistory → Parse FaultHistory
  | 0, h => pure h
  | n + 1, h => do
    let f ← Fault.read
    if h.isFaultOpen f.id then refuse
    else
      match h.record f with
      | .ok h' => readFaults n h'
      | .error _ => refuse

/-- `FaultHistory::read`. -/
def read : Parse FaultHistory := do
  let n ← readCount
  let h ← readFaults n.toNat .empty
  guardOk
  pure h

end FaultHistory

/-! ### Resolving -/

/-- The fault with its resolution. -/
def Fault.resolvedAs (f : Fault) (at_ : Timestamp) : Fault :=
  { f with resolution := .resolved, resolvedAt := at_ }

/-- What may become of a recorded fault: an OPEN one is resolved, once. -/
def Fault.Settles (f f' : Fault) : Prop :=
  f' = f ∨ f.resolution = .open ∧ ∃ at_, f' = f.resolvedAs at_

theorem Fault.Settles.refl (f : Fault) : f.Settles f := Or.inl rfl

theorem Fault.Settles.trans (f g k : Fault) (h : f.Settles g) (h' : g.Settles k) : f.Settles k := by
  rcases h with rfl | ⟨hopen, at_, rfl⟩
  · exact h'
  · rcases h' with rfl | ⟨hopen', -⟩
    · exact Or.inr ⟨hopen, at_, rfl⟩
    · cases hopen'

namespace FaultHistory
variable {h : FaultHistory} {id : FaultId} {at_ : Timestamp}

theorem resolveIn_of_not_mem {faults : List Fault} (hid : id ∉ faults.map Fault.id) :
    resolveIn id at_ faults = (false, faults) := by
  induction faults with
  | nil => rfl
  | cons f rest ih =>
    rw [List.map_cons, List.mem_cons, not_or] at hid
    unfold resolveIn
    rw [if_neg (Ne.symm hid.1), ih hid.2]

/-- The one fault with the id decides, and it alone is changed. -/
theorem resolveIn_append {before after : List Fault} {f : Fault}
    (hbefore : f.id ∉ before.map Fault.id) : resolveIn f.id at_ (before ++ f :: after) =
      if f.resolution = .open then (true, before ++ f.resolvedAs at_ :: after)
      else (false, before ++ f :: after) := by
  induction before with
  | nil =>
    change resolveIn f.id at_ (f :: after) = _
    unfold resolveIn
    rw [if_pos rfl]
    by_cases hopen : f.resolution = .open <;> simp [hopen, Fault.resolvedAs]
  | cons g rest ih =>
    rw [List.map_cons, List.mem_cons, not_or] at hbefore
    rw [List.cons_append]
    unfold resolveIn
    rw [if_neg (Ne.symm hbefore.1), ih hbefore.2]
    split_ifs <;> rfl

/-- A history around one of its faults. -/
theorem exists_append_of_mem (hid : id ∈ h.ids) : ∃ before f after,
    h.faults = before ++ f :: after ∧ f.id = id ∧ id ∉ before.map Fault.id ∧
      id ∉ after.map Fault.id := by
  obtain ⟨f, hf, rfl⟩ := List.mem_map.mp hid
  obtain ⟨before, after, hfaults⟩ := List.append_of_mem hf
  have hnodup := h.ids_nodup
  rw [hfaults, List.map_append, List.map_cons, List.nodup_middle, List.nodup_cons,
    List.mem_append, not_or] at hnodup
  exact ⟨before, f, after, hfaults, rfl, hnodup.1.1, hnodup.1.2⟩

theorem resolve_of_not_mem (hid : id ∉ h.ids) : h.resolve id at_ = (false, h) := by
  unfold resolve
  simp only [resolveIn_of_not_mem hid]

theorem resolve_true_iff : (h.resolve id at_).1 = true ↔
    ∃ f ∈ h.faults, f.id = id ∧ f.resolution = .open := by
  by_cases hid : id ∈ h.ids
  · obtain ⟨before, f, after, hfaults, rfl, hbefore, hafter⟩ := exists_append_of_mem hid
    have hvalue : (h.resolve f.id at_).1 = (f.resolution = .open : Bool) := by
      change (resolveIn f.id at_ h.faults).1 = _
      rw [hfaults, resolveIn_append hbefore]
      by_cases hopen : f.resolution = .open <;> simp [hopen]
    rw [hvalue, decide_eq_true_eq]
    constructor
    · exact fun hopen => ⟨f, by simp [hfaults], rfl, hopen⟩
    · rintro ⟨g, hg, hgid, hopen⟩
      have hgf : g = f := by
        rw [hfaults, List.mem_append, List.mem_cons] at hg
        rcases hg with hg | rfl | hg
        · exact absurd (hgid ▸ List.mem_map_of_mem hg) hbefore
        · rfl
        · exact absurd (hgid ▸ List.mem_map_of_mem hg) hafter
      exact hgf ▸ hopen
  · rw [resolve_of_not_mem hid]
    constructor
    · intro hfalse
      cases hfalse
    · rintro ⟨f, hf, rfl, -⟩
      exact absurd (List.mem_map_of_mem hf) hid

/-- A resolution changes the fault with the id and nothing else. -/
theorem faults_resolve (hres : (h.resolve id at_).1 = true) : (h.resolve id at_).2.faults =
    h.faults.map fun f => if f.id = id then f.resolvedAs at_ else f := by
  obtain ⟨f₀, hf₀, hid₀, -⟩ := resolve_true_iff.mp hres
  obtain ⟨before, f, after, hfaults, rfl, hbefore, hafter⟩ :=
    exists_append_of_mem (hid₀ ▸ List.mem_map_of_mem hf₀ : id ∈ h.ids)
  have hother : ∀ l : List Fault, f.id ∉ l.map Fault.id →
      l.map (fun g => if g.id = f.id then g.resolvedAs at_ else g) = l := by
    intro l hl
    conv_rhs => rw [← List.map_id l]
    refine List.map_congr_left fun g hg => if_neg fun hgid : g.id = f.id => hl ?_
    exact hgid ▸ List.mem_map_of_mem hg
  have hopen : f.resolution = .open := by
    change (resolveIn f.id at_ h.faults).1 = true at hres
    rw [hfaults, resolveIn_append hbefore] at hres
    split_ifs at hres with hopen
    exact hopen
  change (resolveIn f.id at_ h.faults).2 = _
  rw [hfaults, resolveIn_append hbefore, if_pos hopen, List.map_append, List.map_cons,
    hother before hbefore, hother after hafter, if_pos rfl]

theorem resolve_false (hres : (h.resolve id at_).1 = false) : (h.resolve id at_).2 = h := by
  by_cases hid : id ∈ h.ids
  · obtain ⟨before, f, after, hfaults, rfl, hbefore, -⟩ := exists_append_of_mem hid
    change (resolveIn f.id at_ h.faults).1 = false at hres
    apply FaultHistory.ext
    change (resolveIn f.id at_ h.faults).2 = _
    rw [hfaults, resolveIn_append hbefore] at hres ⊢
    split_ifs at hres with hopen
    rw [if_neg hopen]
  · rw [resolve_of_not_mem hid]

end FaultHistory

/-! ### Runs -/

inductive HistoryOp where
  | record (f : Fault)
  | resolve (id : FaultId) (at_ : Timestamp)

namespace HistoryOp

/-- The id that the call offers for recording. -/
def offered : HistoryOp → Option FaultId
  | .record f => some f.id
  | .resolve _ _ => none

end HistoryOp

namespace FaultHistory
variable {h : FaultHistory} {f : Fault} {id : FaultId} {at_ : Timestamp}

/-- The history after a call; one that throws leaves it as it is. -/
def apply (h : FaultHistory) : HistoryOp → FaultHistory
  | .record f =>
    match h.record f with
    | .ok h' => h'
    | .error _ => h
  | .resolve id at_ => (h.resolve id at_).2

/-- The history after a sequence of calls on an empty one. -/
def after (ops : List HistoryOp) : FaultHistory := Machine.run apply .empty ops

theorem after_append (ops more : List HistoryOp) :
    after (ops ++ more) = Machine.run apply (after ops) more :=
  Machine.run_append _ _ _

theorem record_throws_iff : (∃ e, h.record f = .error e) ↔ f.id ∈ h.ids := by
  unfold record
  split_ifs with hf <;> simp [hf]

theorem apply_record_of_mem (hf : f.id ∈ h.ids) : h.apply (.record f) = h := by
  obtain ⟨e, he⟩ := record_throws_iff.mpr hf
  simp only [apply, he]

theorem faults_apply_record (hf : f.id ∉ h.ids) :
    (h.apply (.record f)).faults = h.faults ++ [f] := by
  cases hrec : h.record f with
  | error e => exact absurd (record_throws_iff.mp ⟨e, hrec⟩) hf
  | ok h' =>
    simp only [apply, hrec]
    exact (record_eq_ok hrec).2

/-- A call keeps every fault in its place. -/
theorem grows_apply (h : FaultHistory) (op : HistoryOp) :
    Grows Fault.Settles h.faults (h.apply op).faults := by
  cases op with
  | record f =>
    by_cases hf : f.id ∈ h.ids
    · rw [apply_record_of_mem hf]
      exact .refl Fault.Settles.refl _
    · rw [faults_apply_record hf]
      exact .append Fault.Settles.refl _ _
  | resolve id at_ =>
    change Grows Fault.Settles h.faults (h.resolve id at_).2.faults
    cases hres : (h.resolve id at_).1 with
    | false =>
      rw [resolve_false hres]
      exact .refl Fault.Settles.refl _
    | true =>
      obtain ⟨g, hg, hgid, hopen⟩ := resolve_true_iff.mp hres
      rw [faults_resolve hres]
      refine .of_forall₂ (List.forall₂_map_right_iff.mpr (List.forall₂_same.mpr fun f hf => ?_))
      split_ifs with hid
      · have hfg : f = g := List.inj_on_of_nodup_map h.ids_nodup hf hg (hid.trans hgid.symm)
        exact Or.inr ⟨hfg ▸ hopen, at_, rfl⟩
      · exact .refl f

theorem grows_run (h : FaultHistory) (ops : List HistoryOp) :
    Grows Fault.Settles h.faults (Machine.run apply h ops).faults := by
  induction ops generalizing h with
  | nil => exact .refl Fault.Settles.refl _
  | cons op rest ih => exact (grows_apply h op).trans Fault.Settles.trans (ih (h.apply op))

/-- Once resolved, a fault is never resolved again. -/
theorem resolve_run_of_resolved (hres : (h.resolve id at_).1 = true) (more : List HistoryOp)
    (later : Timestamp) :
    ((Machine.run apply (h.resolve id at_).2 more).resolve id later).1 = false := by
  obtain ⟨g, hg, rfl, -⟩ := resolve_true_iff.mp hres
  have hmem : g.resolvedAs at_ ∈ (h.resolve g.id at_).2.faults := by
    rw [faults_resolve hres]
    exact List.mem_map.mpr ⟨g, hg, if_pos rfl⟩
  obtain ⟨i, hi⟩ := List.mem_iff_getElem?.mp hmem
  obtain ⟨g', hg', hsettles⟩ := (grows_run _ more).getElem? hi
  have hsame : g' = g.resolvedAs at_ := by
    rcases hsettles with rfl | ⟨hopen, -⟩
    · rfl
    · cases hopen
  rw [Bool.eq_false_iff]
  intro hagain
  obtain ⟨k, hk, hkid, hopen⟩ := resolve_true_iff.mp hagain
  have hkg : k = g' := List.inj_on_of_nodup_map (Machine.run apply _ more).ids_nodup hk
    (List.mem_iff_getElem?.mpr ⟨i, hg'⟩) (by rw [hkid, hsame]; rfl)
  rw [hkg, hsame] at hopen
  cases hopen

theorem ids_apply_record (h : FaultHistory) (f : Fault) :
    (h.apply (.record f)).ids = if f.id ∈ h.ids then h.ids else h.ids ++ [f.id] := by
  split_ifs with hf
  · rw [apply_record_of_mem hf]
  · unfold ids
    rw [faults_apply_record hf, List.map_append]
    rfl

theorem ids_apply_resolve (h : FaultHistory) (id : FaultId) (at_ : Timestamp) :
    (h.apply (.resolve id at_)).ids = h.ids :=
  ids_resolveIn id at_ h.faults

private theorem eraseDups_concat (l : List FaultId) (a : FaultId) :
    (l ++ [a]).eraseDups = if a ∈ l then l.eraseDups else l.eraseDups ++ [a] := by
  rw [List.eraseDups_append]
  by_cases ha : a ∈ l <;> simp [List.removeAll, ha, List.eraseDups_cons]

/-- The ids are those offered, in the order in which they were first offered. -/
theorem ids_after (ops : List HistoryOp) :
    (after ops).ids = (ops.filterMap HistoryOp.offered).eraseDups := by
  induction ops using List.reverseRecOn with
  | nil => rfl
  | append_singleton ops op ih =>
    rw [after_append, List.filterMap_append]
    change ((after ops).apply op).ids = _
    cases op with
    | record f =>
      change _ = (ops.filterMap HistoryOp.offered ++ [f.id]).eraseDups
      rw [ids_apply_record, eraseDups_concat, ih]
      simp only [List.mem_eraseDups]
    | resolve id at_ =>
      change _ = (ops.filterMap HistoryOp.offered ++ []).eraseDups
      rw [ids_apply_resolve, List.append_nil, ih]

/-! ### Reading back -/

theorem isFaultOpen_of_not_mem (hid : id ∉ h.ids) : h.isFaultOpen id = false := by
  have hnone : h.faults.find? (fun f => f.id = id) = none := by
    refine List.find?_eq_none.mpr fun f hf hfid => hid ?_
    exact of_decide_eq_true hfid ▸ List.mem_map_of_mem hf
  unfold isFaultOpen
  rw [hnone]

/-- One fault of the loop, after the history read so far. -/
theorem run_readFaults_succ {h' : FaultHistory} {n : Nat} {r r' : Reader}
    (hread : Fault.read.run r = .ok (f, r')) (hrec : h.record f = .ok h') :
    (readFaults (n + 1) h).run r = (readFaults n h').run r' := by
  simp only [readFaults, StateT.run_bind, hread]
  change (if h.isFaultOpen f.id then refuse else _ : Parse FaultHistory).run r' = _
  rw [if_neg (by simp [isFaultOpen_of_not_mem (record_eq_ok hrec).1]), hrec]

theorem length_lt_of_write (hfit : f.TextsFit) {bs : Bytes} (hw : f.write = .ok bs) :
    bs.length < 2 ^ 32 := by
  have hsize := (sized_fault f).length_eq hw
  obtain ⟨hevidence, hmetadata⟩ := hfit
  unfold TextFits kMaxString at hevidence hmetadata
  unfold Fault.imageSize at hsize
  omega

/-- The faults written one after the other are read one after the other, however long they
are together. -/
theorem run_readFaults {faults : List Fault} (hfit : ∀ f ∈ faults, f.TextsFit) {bs : Bytes}
    (hw : emitAll (faults.map Fault.write) = .ok bs) (h : FaultHistory)
    (hids : ((h.faults ++ faults).map Fault.id).Nodup) {r : Reader} {rest : Bytes}
    (hg : r.fail = false) (hr : r.data.drop r.pos = bs ++ rest) :
    ∃ r', (readFaults faults.length h).run r = .ok (⟨h.faults ++ faults, hids⟩, r') ∧
      r'.fail = false ∧ r'.data.drop r'.pos = rest := by
  induction faults generalizing h bs r with
  | nil =>
    cases hw
    refine ⟨r, ?_, hg, hr⟩
    exact congrArg (fun h' => Except.ok (h', r)) (FaultHistory.ext (List.append_nil _).symm)
  | cons f faults ih =>
    obtain ⟨b, b', hb, hb', rfl⟩ := emitAll_cons_ok.mp hw
    have hf := hfit f List.mem_cons_self
    obtain ⟨r₁, hread, hg₁, hr₁⟩ := run_of_reads (reads_fault f) (b' ++ rest) hb
      (length_lt_of_write hf hb) hg (by rw [hr, List.append_assoc])
    have hnew : f.id ∉ h.ids := by
      rw [List.map_append, List.nodup_append] at hids
      exact fun hmem => hids.2.2 f.id hmem f.id (by simp) rfl
    obtain ⟨h', hrec⟩ : ∃ h', h.record f = .ok h' := ⟨_, dif_neg hnew⟩
    have hfaults : h'.faults ++ faults = h.faults ++ f :: faults := by
      rw [(record_eq_ok hrec).2, List.append_assoc]
      rfl
    obtain ⟨r₂, hrest, hg₂, hr₂⟩ := ih (fun g hg => hfit g (List.mem_cons_of_mem f hg)) hb' h'
      (hfaults ▸ hids) hg₁ hr₁
    refine ⟨r₂, ?_, hg₂, hr₂⟩
    rw [List.length_cons, run_readFaults_succ hread hrec, hrest]
    exact congrArg (fun h' => Except.ok (h', r₂)) (FaultHistory.ext hfaults)

/-- What was written of at most 2^20 faults is read back. -/
theorem read_write (hcount : h.faults.length ≤ kMaxCount.toNat) (hfit : ∀ f ∈ h.faults, f.TextsFit)
    (rest : Bytes) : ∃ bs r, h.write = .ok bs ∧ read.run { data := bs ++ rest } = .ok (h, r) ∧
      r.fail = false ∧ r.data.drop r.pos = rest := by
  obtain ⟨body, hbody⟩ := (Sized.map sized_fault h.faults).ok_iff.mpr hfit
  have hn : (UInt32.ofNat h.faults.length).toNat = h.faults.length :=
    UInt32.toNat_ofNat_of_lt' (Nat.lt_of_le_of_lt hcount (by decide))
  have hw : h.write = .ok (storeLe 4 h.faults.length ++ body) := by
    unfold write counted emitAll
    simp only [u32, hn, emitAll, hbody, List.append_nil]
  obtain ⟨r₁, hrun₁, hg₁, hr₁⟩ := (law_readCount (UInt32.ofNat h.faults.length)
    (storeLe 4 h.faults.length) (by rw [u32, hn]) (by rw [storeLe_length]; decide)
    { data := storeLe 4 h.faults.length ++ body ++ rest } (body ++ rest) rfl
    (List.append_assoc _ _ _)).1 (by rw [UInt32.le_iff_toNat_le, hn]; exact hcount)
  obtain ⟨r₂, hrun₂, hg₂, hr₂⟩ := run_readFaults hfit hbody .empty h.ids_nodup hg₁ hr₁
  refine ⟨_, r₂, hw, ?_, hg₂, hr₂⟩
  unfold read
  rw [StateT.run_bind, hrun₁]
  change ((readFaults (UInt32.ofNat h.faults.length).toNat .empty >>= fun h =>
    guardOk >>= fun _ => pure h : Parse FaultHistory)).run r₁ = _
  rw [hn, StateT.run_bind, hrun₂]
  change ((guardOk >>= fun _ => pure _ : Parse FaultHistory)).run r₂ = _
  rw [StateT.run_bind]
  change ((guardOk r₂ : Except Unit (Unit × Reader)) >>= _) = _
  unfold guardOk
  rw [if_neg (by simp [hg₂])]
  rfl

/-! ### The log -/

/-- An append-only log with one key for each entry, and its counters. -/
structure IsLog (ops : List HistoryOp) (h : FaultHistory) : Prop where
  ids_distinct : h.ids.Nodup
  ids_in_order : h.ids = (ops.filterMap HistoryOp.offered).eraseDups
  record_throws : ∀ f, (∃ e, h.record f = .error e) ↔ f.id ∈ h.ids
  record_refused : ∀ f, f.id ∈ h.ids → h.apply (.record f) = h
  record_appends : ∀ f, f.id ∉ h.ids → (h.apply (.record f)).faults = h.faults ++ [f]
  resolve_true : ∀ id at_, (h.resolve id at_).1 = true ↔
    ∃ f ∈ h.faults, f.id = id ∧ f.resolution = .open
  resolve_changes : ∀ id at_, (h.resolve id at_).1 = true → (h.resolve id at_).2.faults =
    h.faults.map fun f => if f.id = id then f.resolvedAs at_ else f
  resolve_refused : ∀ id at_, (h.resolve id at_).1 = false → (h.resolve id at_).2 = h
  grows : ∀ more, Grows Fault.Settles h.faults (after (ops ++ more)).faults
  resolved_once : ∀ id at_ more later, (h.resolve id at_).1 = true →
    ((after (ops ++ .resolve id at_ :: more)).resolve id later).1 = false
  openFaults_sublist : h.openFaults.Sublist h.faults
  mem_openFaults : ∀ f, f ∈ h.openFaults ↔ f ∈ h.faults ∧ f.resolution = .open
  total : h.stats.total.toNat = h.faults.length % 2 ^ 32
  critical : h.stats.criticalFatalOpen.toNat =
    (h.faults.countP fun f => f.resolution = .open ∧ .critical ≤ f.severity) % 2 ^ 32
  consecutive : ∃ n, h.stats.consecutiveLatest.toNat = n % 2 ^ 32 ∧
    IsGreatest {m | ∃ s, s <:+ h.faults ∧ Streak.Uniform Fault.type s ∧ s.length = m} n
  read_back : h.faults.length ≤ 2 ^ 20 → (∀ f ∈ h.faults, f.TextsFit) → ∀ rest : Bytes,
    ∃ bs r, h.write = .ok bs ∧ read.run { data := bs ++ rest } = .ok (h, r) ∧ r.fail = false ∧
      r.data.drop r.pos = rest

/-- Every sequence of calls leaves a log. The counters are those of 32 bits. -/
theorem isLog_after (ops : List HistoryOp) : IsLog ops (after ops) where
  ids_distinct := (after ops).ids_nodup
  ids_in_order := ids_after ops
  record_throws _ := record_throws_iff
  record_refused _ := apply_record_of_mem
  record_appends _ := faults_apply_record
  resolve_true _ _ := resolve_true_iff
  resolve_changes _ _ := faults_resolve
  resolve_refused _ _ := resolve_false
  grows more := by
    rw [after_append]
    exact grows_run _ more
  resolved_once id at_ more later hres := by
    rw [after_append]
    exact resolve_run_of_resolved hres more later
  openFaults_sublist := List.filter_sublist
  mem_openFaults f := by simp [openFaults]
  total := UInt32.toNat_ofNat'
  critical := by
    change (UInt32.ofNat ((after ops).openFaults.countP _)).toNat = _
    rw [UInt32.toNat_ofNat', openFaults, List.countP_filter]
    simp [Bool.and_comm]
  consecutive := by
    refine ⟨(after ops).streak, ?_, Streak.isGreatest_last _⟩
    rw [consecutiveLatest_eq]
    exact UInt32.toNat_ofNat'
  read_back hcount hfit rest := read_write hcount hfit rest

/-- Faults with distinct ids are all recorded. -/
theorem faults_after_records (faults : List Fault) (hids : (faults.map Fault.id).Nodup) :
    (after (faults.map .record)).faults = faults := by
  induction faults using List.reverseRecOn with
  | nil => rfl
  | append_singleton faults f ih =>
    rw [List.map_append, List.nodup_append] at hids
    rw [List.map_append, after_append]
    change ((after (faults.map .record)).apply (.record f)).faults = _
    have hfaults := ih hids.1
    rw [faults_apply_record, hfaults]
    unfold ids
    rw [hfaults]
    exact fun hmem => hids.2.2 f.id hmem f.id (by simp) rfl

/-- A history can have any number of faults for which there are ids. -/
theorem exists_after_length {n : Nat} (hn : n ≤ 2 ^ 64) : ∃ ops, (after ops).faults.length = n := by
  have hids : (((List.range n).map fun i => ({ id := ⟨UInt64.ofNat i⟩ } : Fault)).map
      Fault.id).Nodup := by
    rw [List.map_map]
    refine List.Nodup.map_on (fun i hi j hj hij => ?_) List.nodup_range
    have hvalue : UInt64.ofNat i = UInt64.ofNat j := congrArg StrongId.value hij
    have hlt : ∀ k ∈ List.range n, (UInt64.ofNat k).toNat = k := fun k hk =>
      UInt64.toNat_ofNat_of_lt' (Nat.lt_of_lt_of_le (List.mem_range.mp hk) hn)
    rw [← hlt i hi, ← hlt j hj, hvalue]
  refine ⟨((List.range n).map fun i => ({ id := ⟨UInt64.ofNat i⟩ } : Fault)).map .record, ?_⟩
  rw [faults_after_records _ hids, List.length_map, List.length_range]

/-- After 2^32 faults the total is zero. -/
theorem total_wraps : ¬∀ ops, (after ops).stats.total.toNat = (after ops).faults.length := by
  intro h
  obtain ⟨ops, hlength⟩ := exists_after_length (n := 2 ^ 32) (by decide)
  have htotal : (after ops).stats.total.toNat = (after ops).faults.length % 2 ^ 32 :=
    UInt32.toNat_ofNat'
  rw [h ops, hlength] at htotal
  exact absurd htotal (by decide)

end FaultHistory
end AcceleratorHealth
