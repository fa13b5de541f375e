import AcceleratorHealth.Lib.Spelling
import AcceleratorHealth.FrameLayout
import AcceleratorHealth.BodyLaws

/-! What the readers of the wire take. A number, an enumeration value or a text has the
bytes that are written for it and no others; a flag is written as 0 or 1, and any other
byte is taken for true as well, as is the byte that says whether a record is there. -/
namespace AcceleratorHealth
open Codec Wire Util

abbrev Layout := List (Field Exn UInt8)

/-! ### Primitive fields -/

namespace Wire

/-- A Boolean on the wire. -/
def truth (b : Bool) : Field Exn UInt8 where
  written := flag b
  Spelling bs := ∃ v : UInt8, bs = [v] ∧ decide (v ≠ 0) = b
  Plain bs := bs = [0] ∨ bs = [1]
  sound := by
    rintro bs ⟨v, rfl, -⟩
    exact ⟨_, rfl, rfl⟩
  plain_iff := by
    rintro bs ⟨v, rfl, rfl⟩
    by_cases hv : v = 0
    · simp [flag, u8, hv]
    · simp [flag, u8, hv, eq_comm]

@[simp] theorem written_truth (b : Bool) : (truth b).written = flag b := rfl

/-- A list behind its length. -/
def list {α : Type} (field : α → Field Exn UInt8) (xs : List α) : Layout :=
  [.exact (u32 (UInt32.ofNat xs.length)), .record (xs.map field)]

/-- A presence byte and the record, when there is one. -/
def maybe {α : Type} (field : α → Field Exn UInt8) (x : Option α) : Layout :=
  [truth x.isSome, .record (x.toList.map field)]

theorem written_list {α : Type} (field : α → Field Exn UInt8) (xs : List α) :
    (list field xs).map Field.written = counted (fun x => (field x).written) xs := by
  simp only [list, counted, List.map_cons, List.map_nil, Field.written_exact,
    Field.written_record, writeAll, List.map_map, Function.comp_def]

theorem written_maybe {α : Type} (field : α → Field Exn UInt8) (x : Option α) :
    (maybe field x).map Field.written =
      [flag x.isSome, emitAll (x.toList.map fun y => (field y).written)] := by
  simp only [maybe, List.map_cons, List.map_nil, written_truth, Field.written_record, writeAll,
    List.map_map, Function.comp_def]

/-- The length is always writable; what can fail is an element. -/
theorem writable_list {α : Type} {field : α → Field Exn UInt8} {xs : List α} :
    (∀ f ∈ list field xs, ∃ w, f.written = .ok w) ↔ ∀ x ∈ xs, ∃ w, (field x).written = .ok w := by
  have hlength : ∃ w, u32 (UInt32.ofNat xs.length) = .ok w := ⟨_, rfl⟩
  simp only [list, List.forall_mem_cons, Field.written_exact, hlength, true_and,
    Field.written_record, writeAll_ok_iff, List.forall_mem_map, List.not_mem_nil, false_implies,
    implies_true, and_true]

theorem spells_list {α : Type} {field : α → Field Exn UInt8} {xs : List α} {b b' : Bytes}
    (hb : u32 (UInt32.ofNat xs.length) = .ok b) (hb' : Spells (xs.map field) b') :
    Spells (list field xs) (b ++ b') :=
  ⟨b, b', hb, spells_singleton.mpr hb', rfl⟩

end Wire

section Primitives
variable {ε α β : Type} {E : Type} [CodedEnum E]

theorem take_eq {n : Nat} {r r' : Reader} {bs : Bytes} (h : r.take n = (bs, r'))
    (hgood : r'.fail = false) :
    r.fail = false ∧ bs.length = n ∧ r.data.drop r.pos = bs ++ r'.data.drop r'.pos := by
  unfold Reader.take at h
  by_cases hshort : r.remaining < n
  · rw [if_pos hshort] at h
    cases h
    cases hgood
  · rw [if_neg hshort] at h
    cases h
    refine ⟨hgood, ?_, ?_⟩
    · rw [List.length_take, List.length_drop]
      unfold Reader.remaining at hshort
      omega
    · rw [← List.drop_drop, List.take_append_drop]

/-- A field of fixed width whose values are written back as they were read. -/
theorem takes_fixed {n : Nat} {d : Bytes → α} {w : α → Writer}
    (hw : ∀ bs : Bytes, bs.length = n → w (d bs) = .ok bs) :
    Takes readerView (prim (ε := ε) fun r => (d (r.take n).1, (r.take n).2))
      fun x => [.exact (w x)] := by
  intro r x r' hrun hgood
  cases hrun
  obtain ⟨hr, hlength, hrest⟩ := take_eq (r := r) rfl hgood
  exact ⟨hr, _, hrest, spells_singleton.mpr (hw _ hlength)⟩

theorem takes_u8 : Takes readerView (prim (ε := ε) Reader.u8) fun v => [.exact (u8 v)] := by
  refine takes_fixed (n := 1) (d := fun bs => UInt8.ofNat (loadLe bs)) fun bs hbs => ?_
  obtain ⟨b, rfl⟩ := List.length_eq_one_iff.mp hbs
  simp [u8, loadLe]

theorem takes_u32 : Takes readerView (prim (ε := ε) Reader.u32) fun v => [.exact (u32 v)] := by
  refine takes_fixed (n := 4) (d := fun bs => UInt32.ofNat (loadLe bs)) fun bs hbs => ?_
  rw [u32, storeLe_uint32 hbs]

theorem takes_u64 : Takes readerView (prim (ε := ε) Reader.u64) fun v => [.exact (u64 v)] := by
  refine takes_fixed (n := 8) (d := fun bs => UInt64.ofNat (loadLe bs)) fun bs hbs => ?_
  rw [u64, storeLe_uint64 hbs]

theorem takes_i64 : Takes readerView (prim (ε := ε) Reader.i64) fun v => [.exact (i64 v)] := by
  refine Takes.map (f := UInt64.toInt64) (l := fun v => [.exact (i64 v)])
    (takes_u64.congr fun v bs h => ?_)
  rwa [i64, UInt64.toUInt64_toInt64]

theorem takes_f32 : Takes readerView (prim (ε := ε) Reader.f32) fun v => [.exact (f32 v)] :=
  Takes.map (f := Binary32.mk) (l := fun v => [.exact (f32 v)]) takes_u32

theorem takes_f64 : Takes readerView (prim (ε := ε) Reader.f64) fun v => [.exact (f64 v)] :=
  Takes.map (f := Binary64.mk) (l := fun v => [.exact (f64 v)]) takes_u64

theorem takes_flag : Takes readerView (readFlag (ε := ε)) fun b => [truth b] := by
  refine Takes.map (f := fun b => decide (b ≠ 0)) (l := fun b => [truth b])
    (takes_u8.congr fun v bs h => ?_)
  rw [spells_singleton] at h ⊢
  cases h
  exact ⟨v, rfl, rfl⟩

theorem takes_id {Tag : Type} :
    Takes readerView (StrongId.read : Parser Reader ε (StrongId Tag))
      fun i => [.exact i.write] :=
  Takes.map (f := StrongId.mk) (l := fun i => [.exact i.write]) takes_u64

theorem takes_generation {Tag : Type} :
    Takes readerView (Generation.read : Parser Reader ε (Generation Tag))
      fun g => [.exact g.write] :=
  Takes.map (f := Generation.mk) (l := fun g => [.exact g.write]) takes_u64

theorem takes_timestamp :
    Takes readerView (Timestamp.read (ε := ε)) fun t => [.exact t.write] :=
  Takes.map (f := Timestamp.mk) (l := fun t => [.exact t.write]) takes_i64

theorem takes_enum : Takes readerView (readEnum E) fun v => [.exact (enum v)] := by
  intro r v r' hrun hgood
  obtain ⟨hcode, -, rfl⟩ := readEnum_eq_ok.mp hrun
  obtain ⟨hr, bs, hrest, hbs⟩ := takes_u8 (ε := Unit) r r.u8.1 r.u8.2 rfl hgood
  have hcanonical : enum v = u8 r.u8.1 := congrArg u8 (code_of_enumFromByte hcode)
  refine ⟨hr, bs, hrest, ?_⟩
  show Spells [.exact (enum v)] bs
  rwa [hcanonical]

/-- A count is read before the end, and is not over the cap. -/
theorem readCount_eq_ok {n : UInt32} {r r' : Reader} :
    readCount.run r = .ok (n, r') ↔
      r.u32.2.fail = false ∧ r.u32.1 ≤ kMaxCount ∧ n = r.u32.1 ∧ r' = r.u32.2 := by
  change (if r.u32.2.fail = true ∨ kMaxCount < r.u32.1 then Except.error ()
    else .ok (r.u32.1, r.u32.2)) = Except.ok (n, r') ↔ _
  constructor
  · intro hrun
    split_ifs at hrun with hbad
    cases hrun
    simp only [not_or, Bool.not_eq_true, UInt32.not_lt] at hbad
    exact ⟨hbad.1, hbad.2, rfl, rfl⟩
  · rintro ⟨hgood, hcount, rfl, rfl⟩
    exact if_neg (by simp [hgood, hcount])

theorem takes_readCount : Takes readerView readCount fun n => [.exact (u32 n)] := by
  intro r n r' hrun hgood
  obtain ⟨-, -, rfl, rfl⟩ := readCount_eq_ok.mp hrun
  exact takes_u32 (ε := Unit) r r.u32.1 r.u32.2 rfl hgood

theorem closes_readCount : Closes readerView readCount := by
  intro r n r' hrun
  obtain ⟨hgood, -, -, rfl⟩ := readCount_eq_ok.mp hrun
  exact hgood

theorem takes_string : Takes readerView (prim (ε := ε) Reader.string)
    fun s => [.exact (string s)] := by
  intro r s r' hrun hgood
  have hread : (if r.u32.2.fail = true ∨ kMaxString < r.u32.1.toNat ∨
        r.u32.2.remaining < r.u32.1.toNat then (([] : Bytes), r.u32.2.setFail)
      else ((r.u32.2.data.drop r.u32.2.pos).take r.u32.1.toNat,
        { r.u32.2 with pos := r.u32.2.pos + r.u32.1.toNat })) = (s, r') := Except.ok.inj hrun
  split_ifs at hread with hbad
  · cases hread
    cases hgood
  · simp only [not_or] at hbad
    obtain ⟨-, hlong, hremaining⟩ := hbad
    have htake : r.u32.2.take r.u32.1.toNat = (s, r') := by
      unfold Reader.take
      rw [if_neg hremaining, hread]
    obtain ⟨hgood', hlength, hrest⟩ := take_eq htake hgood
    obtain ⟨hr, bs, hrest', hbs⟩ := takes_u32 (ε := Unit) r r.u32.1 r.u32.2 rfl hgood'
    cases spells_singleton.mp hbs
    refine ⟨hr, storeLe 4 r.u32.1.toNat ++ s, ?_, spells_singleton.mpr ?_⟩
    · rw [List.append_assoc]
      exact hrest'.trans (congrArg _ hrest)
    · change string s = .ok _
      rw [string, hlength, if_neg hlong]

theorem readsNothing_guardOk : ReadsNothing guardOk :=
  fun _ _ _ hrun => (guardOk_eq_ok.mp hrun).2

/-- The end of a record: the failure flag is checked, and the fields are put together. -/
theorem completes_end {after : Layout → Layout} {L : α → Layout → Prop} {x : α}
    (h : L x (after [])) : Completes readerView after (guardOk >>= fun _ => pure x) L :=
  .guarded readsNothing_guardOk closes_guardOk (fun _ => .pure x) fun _ => .pure h

/-- A list behind its length, read by whatever returns that many elements. -/
theorem completes_list {after : Layout → Layout} {q : Parser Reader ε UInt32}
    {g : Nat → Parser Reader ε (List α)} {f : List α → Parser Reader ε β}
    {field : α → Field Exn UInt8} {L : β → Layout → Prop}
    (hq : Takes readerView q fun n => [.exact (u32 n)])
    (hg : ∀ n, Takes readerView (g n) fun xs => xs.map field)
    (hlength : ∀ n, Ensures (g n) fun xs => xs.length = n)
    (hf : ∀ xs, Completes readerView (fun fs => after (list field xs ++ fs)) (f xs) L) :
    Completes readerView after (q >>= fun n => g n.toNat >>= f) L := by
  refine .next hq fun n => .ensured (hg n.toNat).record (hlength n.toNat) fun xs hxs => ?_
  have hvalue : UInt32.ofNat xs.length = n := by rw [hxs, UInt32.ofNat_toNat]
  have h := hf xs
  rwa [list, hvalue] at h

end Primitives

/-! ### Records -/

def HealthPolicy.layout (p : HealthPolicy) : Layout :=
  [p.id.write, enum p.requiredValidationDepth, i64 p.freshness.current, i64 p.freshness.stale,
    i64 p.freshness.expire, u32 p.degradeAfterFailures, u32 p.unhealthyAfterFailures,
    u32 p.quarantineAfterFailures, u32 p.recoveryValidationsRequired,
    enum p.revalidationProfile].map .exact
  ++ [truth p.allowDegradedReadiness, truth p.fatalFaultTriggersQuarantine,
    truth p.requireEnumeratedForHealth]

def Fault.layout (f : Fault) : Layout :=
  [f.id.write, f.accelerator.write, enum f.type, enum f.faultClass, enum f.severity,
    f.timestamp.write, f.observationGeneration.write, f.worker.write, f.workerBootId.write,
    string f.evidence].map .exact
  ++ [truth f.transient, truth f.recoverable, truth f.fatal]
  ++ [string f.causalMetadata, enum f.resolution, f.resolvedAt.write].map .exact

def QuarantineRecord.layout (q : QuarantineRecord) : Layout :=
  [q.id.write, q.timestamp.write, enum q.authority, string q.reason, string q.triggeredBy,
    q.policyGeneration.write, q.deviceGeneration.write, q.healthGeneration.write].map .exact
  ++ [truth q.active]

def RecoveryRecord.layout (r : RecoveryRecord) : Layout :=
  [r.id.write, r.generation.write, r.begin.write, string r.profile,
    u32 r.successfulValidations].map .exact
  ++ [truth r.completed, .exact r.end.write]

def ValidationRecord.layout (v : ValidationRecord) : Layout :=
  [v.id.write, v.accelerator.write, v.timestamp.write, enum v.profile, enum v.depth].map .exact
  ++ [truth v.passed]
  ++ [f32 v.maxError, string v.detail, v.worker.write, v.workerBootId.write,
    v.validationGeneration.write, v.deviceGeneration.write].map .exact

def HealthAssessment.layout (a : HealthAssessment) : Layout :=
  [a.id.write, a.accelerator.write, a.uuid.write, enum a.state, enum a.readiness,
    enum a.validationDepth, f32 a.confidence, enum a.action].map .exact
  ++ [truth a.executionReady, truth a.quarantined, .exact a.quarantineId.write,
    truth a.inRecovery]
  ++ [a.timestamp.write, a.healthGeneration.write, a.policyGeneration.write,
    a.deviceGeneration.write].map .exact
  ++ list (fun s => .exact (string s)) a.reasons ++ [.exact (string a.digest)]

/-- A layout writes what the record's own writer does. -/
@[simp] theorem HealthPolicy.writeAll_layout (p : HealthPolicy) : writeAll p.layout = p.write :=
  rfl

@[simp] theorem Fault.writeAll_layout (f : Fault) : writeAll f.layout = f.write := rfl

@[simp] theorem QuarantineRecord.writeAll_layout (q : QuarantineRecord) :
    writeAll q.layout = q.write := rfl

@[simp] theorem RecoveryRecord.writeAll_layout (r : RecoveryRecord) :
    writeAll r.layout = r.write := rfl

@[simp] theorem ValidationRecord.writeAll_layout (v : ValidationRecord) :
    writeAll v.layout = v.write := rfl

@[simp] theorem HealthAssessment.writeAll_layout (a : HealthAssessment) :
    writeAll a.layout = a.write := by
  unfold writeAll layout
  simp only [List.map_append, written_list]
  rfl

section Records

theorem takes_healthPolicy : Takes readerView HealthPolicy.read HealthPolicy.layout :=
  Completes.takes <| .next takes_id fun _ => .next takes_enum fun _ => .next takes_i64 fun _ =>
  .next takes_i64 fun _ => .next takes_i64 fun _ => .next takes_u32 fun _ =>
  .next takes_u32 fun _ => .next takes_u32 fun _ => .next takes_u32 fun _ =>
  .next takes_enum fun _ => .next takes_flag fun _ => .next takes_flag fun _ =>
  .next takes_flag fun _ => completes_end rfl

theorem takes_dimension :
    Takes readerView HealthDimension.read fun d => [.exact d.write] :=
  Completes.takes_exact <| .next takes_enum fun _ => .next takes_enum fun _ =>
  .next takes_enum fun _ => .next takes_timestamp fun _ => .next takes_generation fun _ =>
  .next takes_generation fun _ => .next takes_f32 fun _ => .next takes_enum fun _ =>
  .next takes_string fun _ => .next takes_f64 fun _ => .next takes_string fun _ =>
  completes_end ⟨_, rfl, rfl⟩

theorem takes_evidence : Takes readerView Evidence.read fun e => [.exact e.write] :=
  Completes.takes_exact <| .next takes_id fun _ => .next takes_id fun _ =>
  .next takes_enum fun _ => .next takes_enum fun _ => .next takes_enum fun _ =>
  .next takes_timestamp fun _ => .next takes_generation fun _ => .next takes_id fun _ =>
  .next takes_id fun _ => .next takes_generation fun _ => .next takes_f32 fun _ =>
  .next takes_enum fun _ => .next takes_string fun _ => .next takes_f64 fun _ =>
  .next takes_string fun _ => completes_end ⟨_, rfl, rfl⟩

theorem takes_fault : Takes readerView Fault.read Fault.layout :=
  Completes.takes <| .next takes_id fun _ => .next takes_id fun _ => .next takes_enum fun _ =>
  .next takes_enum fun _ => .next takes_enum fun _ => .next takes_timestamp fun _ =>
  .next takes_generation fun _ => .next takes_id fun _ => .next takes_id fun _ =>
  .next takes_string fun _ => .next takes_flag fun _ => .next takes_flag fun _ =>
  .next takes_flag fun _ => .next takes_string fun _ => .next takes_enum fun _ =>
  .next takes_timestamp fun _ => completes_end rfl

theorem takes_change : Takes readerView HealthChange.read fun c => [.exact c.write] :=
  Completes.takes_exact <| .next takes_timestamp fun _ => .next takes_id fun _ =>
  .next takes_enum fun _ => .next takes_enum fun _ => .next takes_enum fun _ =>
  .next takes_enum fun _ => .next takes_string fun _ => .next takes_string fun _ =>
  .next takes_generation fun _ => .next takes_generation fun _ => completes_end ⟨_, rfl, rfl⟩

theorem takes_quarantine : Takes readerView QuarantineRecord.read QuarantineRecord.layout :=
  Completes.takes <| .next takes_id fun _ => .next takes_timestamp fun _ =>
  .next takes_enum fun _ => .next takes_string fun _ => .next takes_string fun _ =>
  .next takes_generation fun _ => .next takes_generation fun _ =>
  .next takes_generation fun _ => .next takes_flag fun _ => completes_end rfl

theorem takes_recovery : Takes readerView RecoveryRecord.read RecoveryRecord.layout :=
  Completes.takes <| .next takes_id fun _ => .next takes_generation fun _ =>
  .next takes_timestamp fun _ => .next takes_string fun _ => .next takes_u32 fun _ =>
  .next takes_flag fun _ => .next takes_timestamp fun _ => completes_end rfl

theorem takes_validation : Takes readerView ValidationRecord.read ValidationRecord.layout :=
  Completes.takes <| .next takes_id fun _ => .next takes_id fun _ =>
  .next takes_timestamp fun _ => .next takes_enum fun _ => .next takes_enum fun _ =>
  .next takes_flag fun _ => .next takes_f32 fun _ => .next takes_string fun _ =>
  .next takes_id fun _ => .next takes_id fun _ => .next takes_generation fun _ =>
  .next takes_generation fun _ => completes_end rfl

theorem takes_assessment : Takes readerView HealthAssessment.read HealthAssessment.layout :=
  Completes.takes <| .next takes_id fun _ => .next takes_id fun _ => .next takes_id fun _ =>
  .next takes_enum fun _ => .next takes_enum fun _ => .next takes_enum fun _ =>
  .next takes_f32 fun _ => .next takes_enum fun _ => .next takes_flag fun _ =>
  .next takes_flag fun _ => .next takes_id fun _ => .next takes_flag fun _ =>
  .next takes_timestamp fun _ => .next takes_generation fun _ =>
  .next takes_generation fun _ => .next takes_generation fun _ =>
  completes_list takes_readCount (fun n => takes_string.many n) ensures_many fun _ =>
  .next takes_string fun _ => completes_end rfl

end Records
end AcceleratorHealth
