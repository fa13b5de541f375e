import AcceleratorHealth.Acceptance
import AcceleratorHealth.Corruption
import AcceleratorHealth.Loads
import AcceleratorHealth.Spellings
import AcceleratorHealth.Lib.Filing

/-! Which images the decoder accepts, seen from the encoder. An accepted image spells a
header and a list of device records, and the store it leaves is written back as their
normal form: flags as 0 or 1, devices and dimensions in ascending order of their keys and
each key once. -/
namespace AcceleratorHealth
open Codec Wire Util

namespace Persistence

/-- A device record as an image lists it, its dimensions in the order they have there. -/
@[ext] structure Entry where
  device : Device
  dims : List HealthDimension
  filed : device.dimensions = OrdMap.filing HealthDimension.kind dims

/-- The fields before the dimensions. -/
def deviceHead (d : Device) : Layout :=
  [d.id.write, d.uuid.write, d.node.write, d.lastWorker.write, d.lastWorkerBootId.write,
    d.generation.write, enum d.state, enum d.readiness, d.healthGeneration.write,
    u64 d.transitionCount].map .exact

def dimensionList (dims : List HealthDimension) : Layout := list (fun x => .exact x.write) dims

/-- The fields after the dimensions. -/
def deviceTail (d : Device) : Layout :=
  list (fun e => .exact (Evidence.write e)) d.recentEvidence
  ++ list (fun f => .record (Fault.layout f)) d.faults.faults
  ++ list (fun v => .record (ValidationRecord.layout v)) d.validations
  ++ list (fun c => .exact (HealthChange.write c)) d.changes
  ++ [.record d.latestAssessment.layout, .exact (enum d.highestValidation),
    .exact d.lastObservation.write, .exact d.firstSeen.write]
  ++ maybe (fun q => .record (QuarantineRecord.layout q)) d.quarantine
  ++ maybe (fun r => .record (RecoveryRecord.layout r)) d.recovery
  ++ [truth d.deviceGenerationChangedFlag, truth d.policyGenerationChangedFlag,
    truth d.inRecovery, truth d.present]

def Entry.layout (e : Entry) : Layout :=
  deviceHead e.device ++ dimensionList e.dims ++ deviceTail e.device

/-! ### The parts of a device record -/

section Parts
variable {α : Type}

theorem readsNothing_check (ok : Bool) (error : String) : ReadsNothing (check ok error) := by
  intro r x r' hrun
  change (if ok = true then .ok ((), r) else .error error) = Except.ok (x, r') at hrun
  split_ifs at hrun
  cases hrun
  rfl

theorem checkOk_eq_ok {ok : Bool} {error : String} {r r' : Reader} {x : Unit}
    (h : (checkOk ok error).run r = .ok (x, r')) : r' = r ∧ r.fail = false := by
  change (if r.fail = true ∨ (!ok) = true then .error error else .ok ((), r)) =
    Except.ok (x, r') at h
  split_ifs at h with hbad
  cases h
  exact ⟨rfl, Bool.eq_false_iff.mpr fun hfail => hbad (Or.inl hfail)⟩

theorem readsNothing_checkOk (ok : Bool) (error : String) : ReadsNothing (checkOk ok error) :=
  fun _ _ _ hrun => (checkOk_eq_ok hrun).1

theorem closes_checkOk (ok : Bool) (error : String) :
    Closes readerView (checkOk ok error) := by
  intro r x r' hrun
  obtain ⟨rfl, hgood⟩ := checkOk_eq_ok hrun
  exact hgood

theorem takes_readUnique {κ : Type} [DecidableEq κ] {read : Parse α} {id : α → κ}
    {invalid duplicate : String} {field : α → Field Exn UInt8}
    (h : Takes readerView read fun x => [field x]) (n : Nat) (seen : List κ) :
    Takes readerView (readUnique read id invalid duplicate n seen) fun xs => xs.map field := by
  induction n generalizing seen with
  | zero => exact .pure rfl
  | succ n ih =>
    refine (h.orError invalid).append (m := fun xs => xs.tail.map field) (fun x => ?_) ?_
    · refine .checked (readsNothing_check _ _) ?_
      exact Takes.map (f := fun xs => x :: xs) (l := fun xs => xs.tail.map field)
        (ih (id x :: seen))
    · intro x r xs r' hrun
      obtain ⟨-, r₁, -, hrun⟩ := run_bind_ok hrun
      obtain ⟨ys, r₂, -, hy⟩ := run_bind_ok hrun
      cases hy
      rfl

theorem ensures_readUnique {κ : Type} [DecidableEq κ] {read : Parse α} {id : α → κ}
    {invalid duplicate : String} (n : Nat) (seen : List κ) :
    Ensures (readUnique read id invalid duplicate n seen) fun xs => xs.length = n := by
  induction n generalizing seen with
  | zero => exact .pure rfl
  | succ n ih =>
    exact .skip fun x => .skip fun _ => (ih (id x :: seen)).bind fun xs hxs =>
      .pure (by rw [List.length_cons, hxs])

theorem foldlM_record_faults {fs : List Fault} {h h' : FaultHistory}
    (hall : fs.foldlM FaultHistory.record h = .ok h') : h'.faults = h.faults ++ fs := by
  induction fs generalizing h with
  | nil =>
    cases hall
    exact (List.append_nil _).symm
  | cons f fs ih =>
    rw [List.foldlM_cons] at hall
    cases hf : h.record f with
    | error e =>
      rw [hf] at hall
      cases hall
    | ok h₁ =>
      rw [hf] at hall
      rw [ih hall, (FaultHistory.record_eq_ok hf).2, List.append_assoc]
      rfl

theorem recordAll_eq_ok {fs : List Fault} {h : FaultHistory} {r r' : Reader}
    (hrun : (recordAll fs).run r = .ok (h, r')) : r' = r ∧ h.faults = fs := by
  unfold recordAll StateT.run at hrun
  cases hall : fs.foldlM FaultHistory.record .empty with
  | error e => simp [hall] at hrun
  | ok h' =>
    simp only [hall, Except.ok.injEq, Prod.mk.injEq] at hrun
    obtain ⟨rfl, rfl⟩ := hrun
    exact ⟨rfl, foldlM_record_faults hall⟩

theorem takes_readOptional {read : Parse α} {invalid : String} {field : α → Field Exn UInt8}
    (h : Takes readerView read fun x => [field x]) :
    Takes readerView (readOptional read invalid) (maybe field) := by
  intro r x r'' hrun hgood
  obtain ⟨has, r', hhas, hrun⟩ := run_bind_ok hrun
  by_cases hzero : has = 0
  · rw [if_neg (not_not.mpr hzero)] at hrun
    cases hrun
    obtain ⟨hr, bs, hrest, hbs⟩ := takes_u8 r has _ hhas hgood
    cases spells_singleton.mp hbs
    refine ⟨hr, [has], hrest, [has], [], ⟨has, rfl, by simp [hzero]⟩, ?_, rfl⟩
    exact spells_singleton.mpr rfl
  · rw [if_pos hzero] at hrun
    obtain ⟨y, r₁, hread, hy⟩ := run_bind_ok hrun
    cases hy
    obtain ⟨hgood', b', hrest', hb'⟩ := (h.orError invalid) r' y _ hread hgood
    obtain ⟨hr, bs, hrest, hbs⟩ := takes_u8 r has _ hhas hgood'
    cases spells_singleton.mp hbs
    refine ⟨hr, [has] ++ b', by rw [hrest, hrest', List.append_assoc], [has], b',
      ⟨has, rfl, by simp [hzero]⟩, ?_, rfl⟩
    exact spells_singleton.mpr hb'

end Parts

/-- What is accepted as a device record spells that record. -/
theorem completes_readDevice : Completes readerView id readDevice
    fun d fs => ∃ e : Entry, e.device = d ∧ fs = e.layout := by
  have hcount : ∀ error, Takes readerView (orError error readCount : Decode UInt32)
      fun n => [.exact (u32 n)] := fun error => takes_readCount.orError error
  unfold readDevice
  refine .next takes_id fun _ => .next takes_id fun _ => .next takes_id fun _ =>
    .next takes_id fun _ => .next takes_id fun _ => .next takes_generation fun _ =>
    .next (takes_enum.orError _) fun _ => .next (takes_enum.orError _) fun _ =>
    .next takes_generation fun _ => .next takes_u64 fun _ =>
    .skip (P := fun _ => True) (readsNothing_check _ _) (fun _ _ _ _ => trivial) fun _ _ => ?_
  refine completes_list (hcount _) (fun n => (takes_dimension.orError _).many n) ensures_many
    fun dims => ?_
  refine completes_list (hcount _) (fun n => (takes_evidence.orError _).many n) ensures_many
    fun _ => ?_
  refine completes_list (hcount _) (fun n => takes_readUnique takes_fault.record n [])
    (fun n => ensures_readUnique n []) fun faults => ?_
  refine .skip (P := fun h : FaultHistory => h.faults = faults)
    (fun _ _ _ hrun => (recordAll_eq_ok hrun).1) (fun _ _ _ hrun => (recordAll_eq_ok hrun).2)
    fun h hfaults => ?_
  subst hfaults
  refine completes_list (hcount _) (fun n => takes_readUnique takes_validation.record n [])
    (fun n => ensures_readUnique n []) fun _ => ?_
  refine completes_list (hcount _) (fun n => (takes_change.orError _).many n) ensures_many
    fun _ => ?_
  refine .next (takes_assessment.record.orError _) fun _ => .next (takes_enum.orError _) fun _ =>
    .next takes_timestamp fun _ => .next takes_timestamp fun _ =>
    .next (takes_readOptional takes_quarantine.record) fun _ =>
    .next (takes_readOptional takes_recovery.record) fun _ => .next takes_flag fun _ =>
    .next takes_flag fun _ => .next takes_flag fun _ => .next takes_flag fun _ => ?_
  refine .guarded (readsNothing_checkOk _ _) (closes_checkOk _ _)
    (fun _ => (readsNothing_check _ _).bind fun _ => .pure _) fun _ => .skip fun _ => .pure ?_
  exact ⟨⟨_, dims, rfl⟩, rfl, rfl⟩

/-! ### The image -/

/-- What an image lists inside its frame. -/
@[ext] structure Contents where
  header : Header
  entries : List Entry

def Contents.layout (c : Contents) : Layout :=
  [.record c.header.policy.layout, .exact c.header.policyGeneration.write,
    .exact (u64 c.header.epoch)]
  ++ list (fun e => .record (Entry.layout e)) c.entries

theorem completes_readHeader : Completes readerView id readHeader
    fun h fs => fs = [.record h.policy.layout, .exact h.policyGeneration.write,
      .exact (u64 h.epoch)] := by
  unfold readHeader
  refine .next (takes_healthPolicy.record.orError _) fun _ => .next takes_generation fun _ =>
    .next takes_u64 fun _ => ?_
  exact .guarded (readsNothing_checkOk _ _) (closes_checkOk _ _) (fun _ => .pure _)
    fun _ => .pure rfl

/-- An opened image is the sealed body. -/
theorem eq_sealImage_of_openImage {data body : Bytes} (h : openImage data = .ok body) :
    data = sealImage body := by
  have hlength := (openImage_eq_ok h).1
  unfold openImage at h
  simp only at h
  split_ifs at h with hshort hmagic hversion hlong hcrc
  have hbody : (data.drop 12).take (loadLe ((data.drop 8).take 4)) = body := Except.ok.inj h
  have hword : ∀ n, n + 4 ≤ data.length → storeLe 4 (loadLe ((data.drop n).take 4)) =
      (data.drop n).take 4 := by
    intro n hn
    apply storeLe_of_length
    rw [List.length_take, List.length_drop]
    omega
  have hsize : body.length = loadLe ((data.drop 8).take 4) := by
    rw [← hbody, List.length_take, List.length_drop]
    omega
  have hframe : data.take (12 + body.length) = frameImage body := by
    rw [show 12 + body.length = 4 + (4 + (4 + body.length)) by omega, List.take_add, List.take_add,
      List.take_add, List.drop_drop, List.drop_drop, not_not.mp hmagic, ← hword 4 (by omega),
      not_not.mp hversion, ← hword 8 (by omega), ← hsize, frameImage]
    simp only [List.append_assoc]
    rw [hsize, hbody]
  rw [← hsize] at hlength hcrc
  calc data = data.take (12 + body.length) ++ (data.drop (12 + body.length)).take 4 := by
        rw [← List.take_add, List.take_of_length_le (by omega)]
    _ = sealImage body := by
        rw [← hword (12 + body.length) (by omega), not_not.mp hcrc, hframe]
        rfl

/-- What the steps of an accepted decode returned. -/
theorem decode_accepted {data : Bytes} {out : HealthStore}
    (hok : (decodeStateInternal data out).result = .ok ()) :
    ∃ body h r count r', openImage data = .ok body ∧
      readHeader.run { data := body } = .ok (h, r) ∧
      (orError "invalid device count" readCount : Decode UInt32).run r = .ok (count, r') ∧
      (loadDevices count.toNat { out := adoptHeader h out, reader := r' }).result = .ok () ∧
      (loadDevices count.toNat
        { out := adoptHeader h out, reader := r' }).state.reader.remaining = 0 := by
  unfold decodeStateInternal at hok
  cases hopen : openImage data with
  | error e => simp [hopen, Exit.throw] at hok
  | ok body =>
    simp only [hopen] at hok
    cases hread : readHeader.run { data := body } with
    | error e => simp [hread, Exit.throw] at hok
    | ok hr =>
      obtain ⟨h, r⟩ := hr
      simp only [hread] at hok
      cases hcount : (orError "invalid device count" readCount : Decode UInt32).run r with
      | error e => simp [hcount, Exit.throw] at hok
      | ok cr =>
        obtain ⟨count, r'⟩ := cr
        simp only [hcount] at hok
        cases hloop : (loadDevices count.toNat { out := adoptHeader h out, reader := r' }).result
          with
        | error e => simp [hloop, Exit.throw] at hok
        | ok u =>
          simp only [hloop] at hok
          split_ifs at hok with hrest
          · cases hok
          · exact ⟨body, h, r, count, r', rfl, hread, hcount, hloop, not_not.mp hrest⟩

/-- A completed device loop has read the spellings of the records it lists. -/
theorem each_loadDevice_spells {xs : List Nat} {l : Loading}
    (h : (Exit.each (fun _ l => loadDevice l) xs l).result = .ok ())
    (hgood : readerView.good l.reader) :
    ∃ (es : List Entry) (bs : Bytes),
      es.map Entry.device = listed xs.length l.seenUuid l.reader ∧
      readerView.rest l.reader =
        bs ++ readerView.rest (Exit.each (fun _ l => loadDevice l) xs l).state.reader ∧
      Spells (es.map fun e => .record e.layout) bs := by
  induction xs generalizing l with
  | nil => exact ⟨[], [], rfl, rfl, rfl⟩
  | cons x rest ih =>
    unfold Exit.each at h ⊢
    rw [List.length_cons, listed]
    cases hrun : readDevice.run l.reader with
    | error e =>
      rw [loadDevice_of_error hrun] at h
      cases h
    | ok dr =>
      obtain ⟨d, r⟩ := dr
      rw [loadDevice_of_ok hrun] at h ⊢
      by_cases hseen : l.seenUuid.contains d.uuid = true
      · rw [if_pos hseen] at h
        cases h
      · rw [if_neg hseen, Exit.ok_andThen] at h ⊢
        obtain ⟨hgood', -, fs, b, ⟨e, rfl, rfl⟩, hrest, hb⟩ :=
          completes_readDevice l.reader d r hrun
        obtain ⟨es, bs, hlisted, hrest', hbs⟩ := ih h hgood'
        refine ⟨e :: es, b ++ bs, ?_, ?_, b, bs, hb, hbs, rfl⟩
        · simp only [if_neg hseen, List.map_cons]
          rw [hlisted]
          rfl
        · rw [hrest, List.append_assoc]
          exact congrArg (b ++ ·) hrest'

/-- An accepted image spells the records it lists. -/
theorem accepted_spells {data : Bytes} {out : HealthStore}
    (hok : (decodeStateInternal data out).result = .ok ()) :
    ∃ (c : Contents) (body : Bytes), data = sealImage body ∧ Spells c.layout body ∧
      c.entries.map Entry.device = records data ∧
      (decodeStateInternal data out).state = loaded c.header (records data) out := by
  obtain ⟨body, h, r, count, r', hopen, hheader, hcount, hloop, hend⟩ := decode_accepted hok
  obtain ⟨-, h', r'', hheader', hstate⟩ := decode_of_ok hok
  have hsame : header data = some (h, r) := by simp [header, hopen, hheader]
  obtain ⟨rfl, rfl⟩ : h = h' ∧ r = r'' := by simpa [hsame] using hheader'
  have hcount' : readCount.run r = .ok (count, r') := by
    simp only [orError, StateT.run] at hcount ⊢
    cases hread : readCount r with
    | error e => simp [hread] at hcount
    | ok cr => simpa [hread] using hcount
  have hlisted : records data = listed count.toNat .empty r' := by
    simp only [records, hsame, hcount']
  obtain ⟨hgood, -, fs, b, rfl, hrest, hb⟩ := completes_readHeader _ h r hheader
  obtain ⟨-, b₁, hrest₁, hb₁⟩ :=
    takes_readCount r count r' hcount' (closes_readCount r count r' hcount')
  obtain ⟨es, b₂, hes, hrest₂, hb₂⟩ :=
    each_loadDevice_spells hloop (closes_readCount r count r' hcount')
  have hlength : es.length = count.toNat := by
    have hloaded := (each_loadDevice_of_ok hloop).1
    rw [← List.length_map (f := Entry.device), hes, hloaded, List.length_range]
  have hnumber : UInt32.ofNat es.length = count := by rw [hlength, UInt32.ofNat_toNat]
  have hnone : readerView.rest (loadDevices count.toNat
      { out := adoptHeader h out, reader := r' }).state.reader = [] :=
    List.drop_eq_nil_iff.mpr (Nat.le_of_sub_eq_zero hend)
  have hbody : body = b ++ (b₁ ++ b₂) := by
    calc body = readerView.rest { data := body } := rfl
      _ = b ++ (b₁ ++ (b₂ ++ [])) := by
          rw [hrest, hrest₁, hrest₂, ← hnone]
          rfl
      _ = b ++ (b₁ ++ b₂) := by rw [List.append_nil]
  refine ⟨⟨h, es⟩, body, eq_sealImage_of_openImage hopen, ?_, ?_, hstate⟩
  · rw [hbody]
    refine spells_append.mpr ⟨b, b₁ ++ b₂, hb, spells_list ?_ hb₂, rfl⟩
    rw [hnumber]
    exact spells_singleton.mp hb₁
  · rw [hes, hlisted, List.length_range]

/-! ### The normal form -/

/-- The same record with its dimensions as the encoder lists them. -/
def Entry.settled (e : Entry) : Entry where
  device := e.device
  dims := e.device.dimensions.values
  filed := by
    rw [e.filed, OrdMap.keyed_filing.filing_values]

/-- The same record, of each kind of dimension the last, in ascending order of kinds. -/
def Entry.Settles (e e' : Entry) : Prop :=
  e'.device = e.device ∧ OrdMap.Settles HealthDimension.kind e.dims e'.dims

/-- The same header and records, in ascending order of device ids. -/
structure Contents.Normalises (c c' : Contents) : Prop where
  header : c'.header = c.header
  ascending : c'.entries.Pairwise fun a b => a.device.id < b.device.id
  entries : ∃ es, List.Forall₂ Entry.Settles c.entries es ∧ es.Perm c'.entries

/-- Devices and dimensions are listed in ascending order of their keys, each key once. -/
structure Contents.Ordered (c : Contents) : Prop where
  ids : c.entries.Pairwise fun a b => a.device.id < b.device.id
  kinds : ∀ e ∈ c.entries, e.dims.Pairwise fun a b => a.kind < b.kind

/-- What the encoder makes of the records. -/
def Contents.normal (c : Contents) : Contents where
  header := c.header
  entries := (OrdMap.filing (fun e : Entry => e.device.id) (c.entries.map Entry.settled)).values

theorem Entry.settles_settled (e : Entry) : e.Settles e.settled := by
  refine ⟨rfl, ?_⟩
  have h := OrdMap.settles_filing HealthDimension.kind e.dims
  rwa [← e.filed] at h

theorem Entry.settled_of_pairwise {e : Entry} (h : e.dims.Pairwise fun a b => a.kind < b.kind) :
    e.settled = e := by
  ext1
  · rfl
  · exact (congrArg OrdMap.values e.filed).trans (OrdMap.values_filing_of_pairwise h)

section Contents
variable {c : Contents}

theorem Contents.normalises_normal (hids : (c.entries.map fun e => e.device.id).Nodup) :
    c.Normalises c.normal where
  header := rfl
  ascending := OrdMap.keyed_filing.pairwise_values
  entries := by
    refine ⟨c.entries.map Entry.settled, ?_, OrdMap.perm_values_filing ?_⟩
    · rw [List.forall₂_map_right_iff]
      exact List.forall₂_same.mpr fun e _ => e.settles_settled
    · rwa [List.map_map]

theorem Contents.Ordered.normal_eq (h : c.Ordered) : c.normal = c := by
  have hsettled : c.entries.map Entry.settled = c.entries := by
    calc c.entries.map Entry.settled = c.entries.map id :=
          List.map_congr_left fun e he => Entry.settled_of_pairwise (h.kinds e he)
      _ = c.entries := List.map_id _
  ext1
  · rfl
  · change (OrdMap.filing _ (c.entries.map Entry.settled)).values = _
    rw [hsettled]
    exact OrdMap.values_filing_of_pairwise h.ids

/-- The encoder lists the devices of the normal form. -/
theorem Contents.devices_normal (hids : (c.entries.map fun e => e.device.id).Nodup) :
    c.normal.entries.map Entry.device =
      (OrdMap.filing Device.id (c.entries.map Entry.device)).values := by
  have hperm : (c.entries.map Entry.settled).Perm c.normal.entries :=
    OrdMap.perm_values_filing (by rwa [List.map_map])
  have hsame : (c.entries.map Entry.settled).map Entry.device = c.entries.map Entry.device := by
    rw [List.map_map]
    rfl
  have hlisted := hperm.map Entry.device
  rw [hsame] at hlisted
  have hfiled : (c.entries.map Entry.device).Perm
      (OrdMap.filing Device.id (c.entries.map Entry.device)).values :=
    OrdMap.perm_values_filing (by rwa [List.map_map])
  exact (hlisted.symm.trans hfiled).eq_of_pairwise
    (fun a b _ _ hab hba => absurd hab (not_lt.mpr hba.le))
    (List.pairwise_map.mpr (normalises_normal hids).ascending)
    OrdMap.keyed_filing.pairwise_values

end Contents

/-! ### What is written back -/

theorem writeAll_settled (e : Entry) : writeAll e.settled.layout = writeDevice e.device := by
  unfold writeAll Entry.layout deviceHead dimensionList deviceTail writeDevice optional
  simp only [List.map_append, written_list, written_maybe, List.map_cons, List.map_nil,
    Field.written_exact, Field.written_record, written_truth, Fault.writeAll_layout,
    ValidationRecord.writeAll_layout, HealthAssessment.writeAll_layout,
    QuarantineRecord.writeAll_layout, RecoveryRecord.writeAll_layout, List.append_assoc,
    Entry.settled]

/-- A device is written as the settled record of it. -/
theorem encodeBody_eq_writeAll {s : HealthStore} {c : Contents} (hheader : headerOf s = c.header)
    (hdevices : c.entries.map Entry.device = s.devices.values)
    (hsettled : ∀ e ∈ c.entries, e.settled = e) : encodeBody s = writeAll c.layout := by
  have hlength : s.devices.values.length = c.entries.length := by
    rw [← hdevices, List.length_map]
  have hentries : c.entries.map (fun e => writeAll e.layout) =
      s.devices.values.map writeDevice := by
    rw [← hdevices, List.map_map]
    refine List.map_congr_left fun e he => ?_
    rw [Function.comp_apply, ← writeAll_settled e, hsettled e he]
  unfold encodeBody writeAll Contents.layout
  simp only [List.map_append, List.map_cons, List.map_nil, written_list, counted,
    Field.written_exact, Field.written_record, HealthPolicy.writeAll_layout, hentries, hlength,
    ← hheader]
  rfl

theorem writable_settled {e : Entry} (h : ∃ w, writeAll e.layout = .ok w) :
    ∃ w, writeAll e.settled.layout = .ok w := by
  rw [writeAll_ok_iff, Entry.layout, List.forall_mem_append, List.forall_mem_append] at h ⊢
  obtain ⟨⟨hhead, hdims⟩, htail⟩ := h
  refine ⟨⟨hhead, writable_list.mpr fun x hx => ?_⟩, htail⟩
  change x ∈ e.device.dimensions.values at hx
  rw [e.filed] at hx
  exact writable_list.mp hdims x (OrdMap.mem_of_mem_filing hx)

section Contents
variable {c : Contents}

theorem Contents.settled_of_mem_normal {e : Entry} (h : e ∈ c.normal.entries) :
    ∃ e₀ ∈ c.entries, e = e₀.settled := by
  obtain ⟨e₀, he₀, rfl⟩ := List.mem_map.mp (OrdMap.mem_of_mem_filing h)
  exact ⟨e₀, he₀, rfl⟩

/-- What was spelled can be written, and so can its normal form. -/
theorem Contents.writable_normal {body : Bytes} (h : Spells c.layout body) :
    ∃ w, writeAll c.normal.layout = .ok w := by
  obtain ⟨w, hw, -⟩ := h.sound
  have hwritable := writeAll_ok_iff.mp ⟨w, hw⟩
  rw [Contents.layout, List.forall_mem_append] at hwritable
  rw [writeAll_ok_iff, Contents.layout, List.forall_mem_append]
  refine ⟨hwritable.1, writable_list.mpr fun e he => ?_⟩
  obtain ⟨e₀, he₀, rfl⟩ := settled_of_mem_normal he
  exact writable_settled (writable_list.mp hwritable.2 e₀ he₀)

theorem encodeBody_loaded {data : Bytes} {out : HealthStore}
    (hrecords : c.entries.map Entry.device = records data)
    (hids : ((records data).map Device.id).Nodup) :
    encodeBody (loaded c.header (records data) out) = writeAll c.normal.layout := by
  have hnodup : (c.entries.map fun e => e.device.id).Nodup := by
    rw [← hrecords, List.map_map] at hids
    exact hids
  refine encodeBody_eq_writeAll (c := c.normal) ?_ ?_ fun e he => ?_
  · unfold loaded headerOf
    rw [recomputeIndexes_eq]
    rfl
  · rw [Contents.devices_normal hnodup, hrecords, (loaded_devices _ _ _).1]
    rfl
  · obtain ⟨e₀, -, rfl⟩ := Contents.settled_of_mem_normal he
    rfl

end Contents

theorem sealImage_inj {body body' : Bytes} : sealImage body = sealImage body' ↔ body = body' := by
  refine ⟨fun h => ?_, fun h => h ▸ rfl⟩
  have hlength := congrArg List.length h
  simp only [sealImage, List.length_append, storeLe_length, frameImage_length] at hlength
  have hframe : frameImage body = frameImage body' := by
    refine (List.append_inj h ?_).1
    rw [frameImage_length, frameImage_length]
    omega
  refine (List.append_inj hframe ?_).2
  simp only [List.length_append, storeLe_length]

theorem encodeStateInternal_eq_ok_iff {s : HealthStore} {body : Bytes} :
    encodeStateInternal s = .ok (sealImage body) ↔ encodeBody s = .ok body := by
  unfold encodeStateInternal
  cases encodeBody s with
  | error e => simp
  | ok body' => simp [sealImage_inj]

/-- An accepted image spells a header and device records, and the store that it leaves is
written back as their normal form: an image in order comes back as it was exactly when its
spelling is plain, which is to say that its flag and presence bytes are all 0 or 1. -/
theorem decode_canonical {data : Bytes} {out : HealthStore}
    (hok : (decodeStateInternal data out).result = .ok ())
    (hids : ((records data).map Device.id).Nodup) :
    ∃ (c c' : Contents) (body body' : Bytes),
      (data = sealImage body ∧ Spells c.layout body ∧ c.entries.map Entry.device = records data) ∧
      (encodeStateInternal (decodeStateInternal data out).state = .ok (sealImage body') ∧
        writeAll c'.layout = .ok body' ∧ c.Normalises c') ∧
      (c.Ordered → c' = c ∧
        (encodeStateInternal (decodeStateInternal data out).state = .ok data ↔
          writeAll c.layout = .ok body)) ∧
      (writeAll c.layout = .ok body ↔ Plainly c.layout body) := by
  obtain ⟨c, body, hdata, hspells, hrecords, hstate⟩ := accepted_spells hok
  obtain ⟨body', hbody'⟩ := c.writable_normal hspells
  have hnodup : (c.entries.map fun e => e.device.id).Nodup := by
    rw [← hrecords, List.map_map] at hids
    exact hids
  have hencode : encodeBody (decodeStateInternal data out).state = .ok body' := by
    rw [hstate, encodeBody_loaded hrecords hids, hbody']
  refine ⟨c, c.normal, body, body', ⟨hdata, hspells, hrecords⟩,
    ⟨encodeStateInternal_eq_ok_iff.mpr hencode, hbody', c.normalises_normal hnodup⟩,
    fun hordered => ⟨hordered.normal_eq, ?_⟩, hspells.plainly_iff.symm⟩
  rw [hdata, encodeStateInternal_eq_ok_iff, ← hdata, hencode, ← hbody', hordered.normal_eq]

private theorem two_accepted {data : Bytes}
    (hopen : openImage data = .ok (bodyOf [freshDevice 7 7, freshDevice 8 8])) :
    (decodeStateInternal data (.init {} 0)).result = .ok () ∧
      ((records data).map Device.id).Nodup := by
  unfold decodeStateInternal records header
  rw [hopen]
  decide +kernel

theorem decode_canonical_of_two :
    ∃ body', encodeStateInternal (decodeStateInternal
      (sealImage (bodyOf [freshDevice 7 7, freshDevice 8 8])) (.init {} 0)).state =
        .ok (sealImage body') := by
  have h := two_accepted ((openImage_sealImage (bodyOf [freshDevice 7 7, freshDevice 8 8])).1
    (by decide +kernel))
  obtain ⟨-, -, -, body', -, ⟨hencode, -⟩, -⟩ := decode_canonical h.1 h.2
  exact ⟨body', hencode⟩

/-- A policy flag spelled as 2. -/
def flagOfTwo : Bytes := (bodyOf []).set 50 2

/-- Device 8 before device 7. -/
def descending : Bytes := bodyOf [freshDevice 8 8, freshDevice 7 7]

/-- A device with one kind of dimension listed twice. -/
def listedTwice : Contents where
  header := headerOf (.init {} 0)
  entries :=
    let dims : List HealthDimension := [{ severity := .info }, { severity := .warning }]
    [⟨{ freshDevice 7 7 with dimensions := .filing HealthDimension.kind dims }, dims, rfl⟩]

def repeated : Bytes := (writeAll listedTwice.layout).toOption.getD []

/-- The image is accepted, and the store written back is another image. -/
def Altered (body : Bytes) : Prop :=
  (decodeStateInternal (sealImage body) (.init {} 0)).result = .ok () ∧
    encodeStateInternal (decodeStateInternal (sealImage body) (.init {} 0)).state ≠
      .ok (sealImage body)

private theorem not_reproduced {body : Bytes} (hbody : body ∈ [flagOfTwo, descending, repeated])
    {data : Bytes} (hopen : openImage data = .ok body) :
    (decodeStateInternal data (.init {} 0)).result = .ok () ∧
      encodeBody (decodeStateInternal data (.init {} 0)).state ≠ .ok body := by
  unfold decodeStateInternal
  rw [hopen]
  clear hopen
  revert body
  decide +kernel

private theorem altered_of_mem {body : Bytes} (hbody : body ∈ [flagOfTwo, descending, repeated]) :
    Altered body := by
  have hsize : body.length < 2 ^ 32 := by
    revert body
    decide +kernel
  have h := not_reproduced hbody ((openImage_sealImage body).1 hsize)
  exact ⟨h.1, fun heq => h.2 (encodeStateInternal_eq_ok_iff.mp heq)⟩

theorem accepted_image_not_canonical :
    Altered flagOfTwo ∧ Altered descending ∧ Altered repeated :=
  ⟨altered_of_mem (by simp), altered_of_mem (by simp), altered_of_mem (by simp)⟩

end Persistence
end AcceleratorHealth
