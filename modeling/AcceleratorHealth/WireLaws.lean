import AcceleratorHealth.Messages

/-! What is written is read back: the laws of the primitive fields and of every record.
A law holds for texts of fewer than `2 ^ 32` bytes, the most that a length field says. -/
namespace AcceleratorHealth
open Codec Wire Util

/-- The bytes after the position of a cursor that has not failed. -/
def readerView : View Reader UInt8 where
  rest r := r.data.drop r.pos
  good r := r.fail = false
  limit := 2 ^ 32

abbrev Reads {ε α : Type} (w : Writer) (p : Parser Reader ε α) (x : α) : Prop :=
  Law readerView w p True x

section Primitives
variable {ε : Type}

theorem take_of_rest {r : Reader} {bs rest : Bytes} (hg : r.fail = false)
    (hr : r.data.drop r.pos = bs ++ rest) :
    ∃ r', r.take bs.length = (bs, r') ∧ r'.fail = false ∧ r'.data.drop r'.pos = rest := by
  have hlen : r.data.length - r.pos = bs.length + rest.length := by
    rw [← List.length_drop, hr, List.length_append]
  refine ⟨{ r with pos := r.pos + bs.length }, ?_, hg, ?_⟩
  · unfold Reader.take
    rw [if_neg (by unfold Reader.remaining; omega), hr, List.take_left]
  · simp only
    rw [← List.drop_drop, hr, List.drop_left]

/-- A field of fixed width, decoded by `decode`. -/
theorem reads_fixed {α : Type} {w : Writer} (bs : Bytes) (decode : Bytes → α) {x : α}
    (hw : w = .ok bs) (hx : decode bs = x) :
    Reads w (prim (ε := ε) fun r => (decode (r.take bs.length).1, (r.take bs.length).2)) x := by
  refine Law.of_reads fun bs' hbs' r rest hg hr => ?_
  obtain rfl : bs = bs' := Except.ok.inj (hw.symm.trans hbs')
  obtain ⟨r', htake, hg', hr'⟩ := take_of_rest hg hr
  refine ⟨r', ?_, hg', hr'⟩
  change Except.ok (decode (r.take bs.length).1, (r.take bs.length).2) = _
  rw [htake, hx]

theorem reads_u8 (v : UInt8) : Reads (u8 v) (prim (ε := ε) Reader.u8) v :=
  reads_fixed [v] (fun bs => UInt8.ofNat (loadLe bs)) rfl (by simp [loadLe])

theorem reads_u32 (v : UInt32) : Reads (u32 v) (prim (ε := ε) Reader.u32) v := by
  have h := reads_fixed (ε := ε) (w := u32 v) (storeLe 4 v.toNat)
    (fun bs => UInt32.ofNat (loadLe bs)) rfl
    (by rw [loadLe_storeLe _ _ v.toNat_lt, UInt32.ofNat_toNat])
  rwa [storeLe_length] at h

theorem reads_u64 (v : UInt64) : Reads (u64 v) (prim (ε := ε) Reader.u64) v := by
  have h := reads_fixed (ε := ε) (w := u64 v) (storeLe 8 v.toNat)
    (fun bs => UInt64.ofNat (loadLe bs)) rfl
    (by rw [loadLe_storeLe _ _ v.toNat_lt, UInt64.ofNat_toNat])
  rwa [storeLe_length] at h

theorem reads_prim_map {α β : Type} {w : Writer} {read : Reader → α × Reader} {x : α}
    (f : α → β) (h : Reads w (prim (ε := ε) read) x) :
    Reads w (prim (ε := ε) fun r => (f (read r).1, (read r).2)) (f x) :=
  Law.map (f := f) h

theorem reads_i64 (v : Int64) : Reads (i64 v) (prim (ε := ε) Reader.i64) v := by
  have h := reads_prim_map UInt64.toInt64 (reads_u64 (ε := ε) v.toUInt64)
  rwa [Int64.toInt64_toUInt64] at h

theorem reads_f32 (v : Binary32) : Reads (f32 v) (prim (ε := ε) Reader.f32) v :=
  reads_prim_map Binary32.mk (reads_u32 v.bits)

theorem reads_f64 (v : Binary64) : Reads (f64 v) (prim (ε := ε) Reader.f64) v :=
  reads_prim_map Binary64.mk (reads_u64 v.bits)

theorem reads_flag (b : Bool) : Reads (flag b) (readFlag (ε := ε)) b := by
  have h := (reads_u8 (ε := ε) (if b then 1 else 0)).map (f := fun b => decide (b ≠ 0))
  cases b <;> exact h

theorem reads_id {Tag : Type} (i : StrongId Tag) : Reads i.write (StrongId.read (ε := ε)) i :=
  (reads_u64 i.value).map (f := StrongId.mk)

theorem reads_generation {Tag : Type} (g : Generation Tag) :
    Reads g.write (Generation.read (ε := ε)) g :=
  (reads_u64 g.value).map (f := Generation.mk)

theorem reads_timestamp (t : Timestamp) : Reads t.write (Timestamp.read (ε := ε)) t :=
  (reads_i64 t.nanos).map (f := Timestamp.mk)

theorem run_of_reads {α : Type} {w : Writer} {p : Parser Reader ε α} {x : α} (h : Reads w p x)
    {bs : Bytes} (rest : Bytes) (hw : w = .ok bs) (hlimit : bs.length < 2 ^ 32) {r : Reader}
    (hg : r.fail = false) (hr : r.data.drop r.pos = bs ++ rest) :
    ∃ r', p.run r = .ok (x, r') ∧ r'.fail = false ∧ r'.data.drop r'.pos = rest :=
  (h bs hw hlimit r rest hg hr).1 trivial

/-- An enumeration value is a byte that is a code, read before the end. -/
theorem readEnum_eq_ok {E : Type} [CodedEnum E] {v : E} {r r' : Reader} :
    (readEnum E).run r = .ok (v, r') ↔
      enumFromByte r.u8.1 = some v ∧ r.u8.2.fail = false ∧ r' = r.u8.2 := by
  unfold readEnum StateT.run
  cases hcode : (enumFromByte r.u8.1 : Option E) with
  | none => simp [hcode]
  | some v' =>
    cases hfail : r.u8.2.fail with
    | true => simp [hcode, hfail]
    | false => simp [hcode, hfail, eq_comm]

theorem reads_enum {E : Type} [CodedEnum E] (v : E) : Reads (enum v) (readEnum E) v := by
  refine Law.of_reads fun bs hw r rest hg hr => ?_
  cases hw
  obtain ⟨r', hrun, hg', hr'⟩ := run_of_reads (reads_u8 (ε := Unit) (CodedEnum.code v)) rest rfl
    (by simp) hg hr
  have hread : r.u8 = (CodedEnum.code v, r') := Except.ok.inj hrun
  refine ⟨r', readEnum_eq_ok.mpr ?_, hg', hr'⟩
  rw [hread]
  exact ⟨enumFromByte_code v, hg', rfl⟩

theorem reads_string (s : Str) : Reads (string s) (prim (ε := ε) Reader.string) s := by
  refine Law.of_reads fun bs hw r rest hg hr => ?_
  unfold string at hw
  split_ifs at hw with hlong
  cases hw
  have hlen : s.length < 2 ^ 32 := by
    have : kMaxString < 2 ^ 32 := by decide
    omega
  have hvalue : (UInt32.ofNat s.length).toNat = s.length := UInt32.toNat_ofNat_of_lt' hlen
  rw [List.append_assoc] at hr
  obtain ⟨r₁, hrun₁, hg₁, hr₁⟩ := run_of_reads (reads_u32 (ε := ε) (UInt32.ofNat s.length))
    (s ++ rest) rfl (by simp) hg (by rw [hvalue]; exact hr)
  have hread : r.u32 = (UInt32.ofNat s.length, r₁) := Except.ok.inj hrun₁
  obtain ⟨r₂, htake, hg₂, hr₂⟩ := take_of_rest hg₁ hr₁
  have hremaining : s.length ≤ r₁.remaining := by
    have := congrArg List.length hr₁
    rw [List.length_drop, List.length_append] at this
    unfold Reader.remaining
    omega
  have htake' := htake
  unfold Reader.take at htake'
  rw [if_neg (by omega)] at htake'
  refine ⟨r₂, ?_, hg₂, hr₂⟩
  change Except.ok (r.string) = _
  unfold Reader.string
  simp only [hread, hvalue]
  rw [if_neg (by simp [hg₁, hlong, hremaining]), htake']

/-- The check of the failure flag at the end of a record. -/
theorem law_guard {α : Type} {w : Writer} {f : Unit → Parse α} {c : Prop} {x : α}
    (h : Law readerView w (f ()) c x) : Law readerView w (guardOk >>= f) c x :=
  (Law.check (c := True) (fun r hg => ⟨fun _ => by
    change guardOk r = _
    unfold guardOk
    rw [if_neg (by rw [show r.fail = false from hg]; decide)], fun h => absurd trivial h⟩)
      fun _ => h).congr
    (iff_of_eq (true_and c))

theorem law_readCount (n : UInt32) : Law readerView (u32 n) readCount (n ≤ kMaxCount) n := by
  intro bs hw hlimit r rest hg hr
  obtain ⟨r', hrun, hg', hr'⟩ := run_of_reads (reads_u32 (ε := Unit) n) rest hw hlimit hg hr
  have hread : r.u32 = (n, r') := Except.ok.inj hrun
  have hcount : readCount.run r = if r'.fail ∨ kMaxCount < n then .error () else .ok (n, r') := by
    change readCount r = _
    unfold readCount
    rw [hread]
  rw [hcount]
  constructor
  · intro hn
    exact ⟨r', if_neg (by simpa [hg'] using hn), hg', hr'⟩
  · intro hn
    exact ⟨(), if_pos (Or.inr (by simpa using hn))⟩

/-- A counted list, read by whatever reads that many elements. -/
theorem law_counted {α β γ : Type} {write : α → Writer} {xs : List α} {ws : List Writer}
    {q : Parser Reader ε UInt32} {g : Nat → Parser Reader ε β} {f : β → Parser Reader ε γ}
    {c c' : Prop} {x : β} {y : γ} (hpos : ∀ x ∈ xs, ∀ bs, write x = .ok bs → 0 < bs.length)
    (hq : ∀ n : UInt32, Law readerView (u32 n) q (n ≤ kMaxCount) n)
    (hg : Law readerView (emitAll (xs.map write)) (g xs.length) c x)
    (hf : c → Law readerView (emitAll ws) (f x) c' y) :
    Law readerView (emitAll (u32 (UInt32.ofNat xs.length) :: emitAll (xs.map write) :: ws))
      (q >>= fun n => g n.toNat >>= f) (xs.length ≤ kMaxCount.toNat ∧ c ∧ c') y := by
  intro bs hw hlimit
  obtain ⟨b₁, b', -, hb', hbs⟩ := emitAll_cons_ok.mp hw
  obtain ⟨b₂, b₃, hb₂, -, hb'⟩ := emitAll_cons_ok.mp hb'
  have hlen : xs.length < 2 ^ 32 := by
    have hle := length_le_of_emitAll hpos hb₂
    have : bs.length < 2 ^ 32 := hlimit
    simp only [hbs, hb', List.length_append] at this
    omega
  have hvalue : (UInt32.ofNat xs.length).toNat = xs.length := UInt32.toNat_ofNat_of_lt' hlen
  have hlist : Law readerView (emitAll (emitAll (xs.map write) :: ws))
      (g (UInt32.ofNat xs.length).toNat >>= f) (c ∧ c') y := by
    rw [hvalue]
    exact hg.bind hf
  refine ((hq (UInt32.ofNat xs.length)).bind (f := fun n => g n.toNat >>= f)
    fun _ => hlist).congr ?_ bs hw hlimit
  rw [UInt32.le_iff_toNat_le, hvalue]

/-- The end of a record: every field read, no failure. -/
theorem reads_end {α : Type} (x : α) : Reads (emitAll []) (guardOk >>= fun _ => pure x) x :=
  law_guard (.pure x)

end Primitives

/-! ### Records -/

section Records

theorem reads_healthPolicy (p : HealthPolicy) : Reads p.write HealthPolicy.read p :=
  .next (reads_id _) <| .next (reads_enum _) <| .next (reads_i64 _) <| .next (reads_i64 _) <|
  .next (reads_i64 _) <| .next (reads_u32 _) <| .next (reads_u32 _) <| .next (reads_u32 _) <|
  .next (reads_u32 _) <| .next (reads_enum _) <| .next (reads_flag _) <| .next (reads_flag _) <|
  .next (reads_flag _) <| reads_end _

theorem reads_dimension (d : HealthDimension) : Reads d.write HealthDimension.read d :=
  .next (reads_enum _) <| .next (reads_enum _) <| .next (reads_enum _) <|
  .next (reads_timestamp _) <| .next (reads_generation _) <| .next (reads_generation _) <|
  .next (reads_f32 _) <| .next (reads_enum _) <| .next (reads_string _) <| .next (reads_f64 _) <|
  .next (reads_string _) <| reads_end _

theorem reads_evidence (e : Evidence) : Reads e.write Evidence.read e :=
  .next (reads_id _) <| .next (reads_id _) <| .next (reads_enum _) <| .next (reads_enum _) <|
  .next (reads_enum _) <| .next (reads_timestamp _) <| .next (reads_generation _) <|
  .next (reads_id _) <| .next (reads_id _) <| .next (reads_generation _) <|
  .next (reads_f32 _) <| .next (reads_enum _) <| .next (reads_string _) <| .next (reads_f64 _) <|
  .next (reads_string _) <| reads_end _

theorem reads_fault (f : Fault) : Reads f.write Fault.read f :=
  .next (reads_id _) <| .next (reads_id _) <| .next (reads_enum _) <| .next (reads_enum _) <|
  .next (reads_enum _) <| .next (reads_timestamp _) <| .next (reads_generation _) <|
  .next (reads_id _) <| .next (reads_id _) <| .next (reads_string _) <| .next (reads_flag _) <|
  .next (reads_flag _) <| .next (reads_flag _) <| .next (reads_string _) <|
  .next (reads_enum _) <| .next (reads_timestamp _) <| reads_end _

theorem reads_change (c : HealthChange) : Reads c.write HealthChange.read c :=
  .next (reads_timestamp _) <| .next (reads_id _) <| .next (reads_enum _) <|
  .next (reads_enum _) <| .next (reads_enum _) <| .next (reads_enum _) <|
  .next (reads_string _) <| .next (reads_string _) <| .next (reads_generation _) <|
  .next (reads_generation _) <| reads_end _

theorem reads_quarantine (q : QuarantineRecord) : Reads q.write QuarantineRecord.read q :=
  .next (reads_id _) <| .next (reads_timestamp _) <| .next (reads_enum _) <|
  .next (reads_string _) <| .next (reads_string _) <| .next (reads_generation _) <|
  .next (reads_generation _) <| .next (reads_generation _) <| .next (reads_flag _) <| reads_end _

theorem reads_recovery (r : RecoveryRecord) : Reads r.write RecoveryRecord.read r :=
  .next (reads_id _) <| .next (reads_generation _) <| .next (reads_timestamp _) <|
  .next (reads_string _) <| .next (reads_u32 _) <| .next (reads_flag _) <|
  .next (reads_timestamp _) <| reads_end _

theorem reads_validation (v : ValidationRecord) : Reads v.write ValidationRecord.read v :=
  .next (reads_id _) <| .next (reads_id _) <| .next (reads_timestamp _) <|
  .next (reads_enum _) <| .next (reads_enum _) <| .next (reads_flag _) <| .next (reads_f32 _) <|
  .next (reads_string _) <| .next (reads_id _) <| .next (reads_id _) <|
  .next (reads_generation _) <| .next (reads_generation _) <| reads_end _

theorem reads_envelope {ε : Type} (e : AuthorityEnvelope) :
    Reads e.write (AuthorityEnvelope.read (ε := ε)) e :=
  .next (reads_u64 _) <| .next (reads_id _) <| .next (reads_id _) <|
  .next (reads_generation _) <| .next (reads_generation _) <| .next (reads_generation _) <|
  .next (reads_generation _) (.pure _)

theorem length_pos_string {s : Str} {bs : Bytes} (h : string s = .ok bs) : 0 < bs.length := by
  unfold string at h
  split_ifs at h
  cases h
  rw [List.length_append, storeLe_length]
  omega

/-- The reasons are the only part of an assessment that its reader may refuse. -/
theorem law_assessment (a : HealthAssessment) :
    Law readerView a.write HealthAssessment.read (a.reasons.length ≤ kMaxCount.toNat) a := by
  have hreasons : Law readerView (emitAll (a.reasons.map string))
      (many (prim (ε := Unit) Reader.string) a.reasons.length) True a.reasons :=
    .many fun s _ => reads_string s
  refine Law.congr (c := a.reasons.length ≤ kMaxCount.toNat ∧ True ∧ True) ?_ (by simp)
  exact .next (reads_id _) <| .next (reads_id _) <| .next (reads_id _) <| .next (reads_enum _) <|
    .next (reads_enum _) <| .next (reads_enum _) <| .next (reads_f32 _) <| .next (reads_enum _) <|
    .next (reads_flag _) <| .next (reads_flag _) <| .next (reads_id _) <| .next (reads_flag _) <|
    .next (reads_timestamp _) <| .next (reads_generation _) <| .next (reads_generation _) <|
    .next (reads_generation _) <|
    law_counted (fun _ _ _ => length_pos_string) law_readCount hreasons fun _ =>
      .next (reads_string _) (reads_end _)

theorem length_pos_dimension {d : HealthDimension} {bs : Bytes} (h : d.write = .ok bs) :
    0 < bs.length := by
  obtain ⟨b, b', hb, -, rfl⟩ := emitAll_cons_ok.mp h
  cases hb
  simp

/-- The dimensions are the only part of an observation that its reader may refuse. -/
theorem law_observation (o : AcceleratorObservation) :
    Law readerView o.write AcceleratorObservation.read
      (o.dimensions.length ≤ kMaxCount.toNat) o := by
  have hdims : Law readerView (emitAll (o.dimensions.map HealthDimension.write))
      (many HealthDimension.read o.dimensions.length) True o.dimensions :=
    .many fun d _ => reads_dimension d
  refine Law.congr (c := o.dimensions.length ≤ kMaxCount.toNat ∧ True ∧ True) ?_ (by simp)
  exact .next (reads_id _) <| .next (reads_id _) <| .next (reads_id _) <| .next (reads_id _) <|
    .next (reads_generation _) <| .next (reads_generation _) <| .next (reads_timestamp _) <|
    law_counted (fun _ _ _ => length_pos_dimension) law_readCount hdims fun _ => reads_end _

theorem reads_obsBody (env : AuthorityEnvelope) {obs : AcceleratorObservation}
    (hcount : obs.dimensions.length ≤ kMaxCount.toNat) :
    Reads (obsBody env obs) readObsBody (env, obs) :=
  .next (reads_envelope _) <| .next ((law_observation obs).congr (iff_true_intro hcount)) (.pure _)

theorem reads_valBody (env : AuthorityEnvelope) (v : ValidationRecord) :
    Reads (valBody env v) readValBody (env, v) :=
  .next (reads_envelope _) <| .next (reads_validation _) (.pure _)

theorem reads_faultBody (env : AuthorityEnvelope) (f : Fault) :
    Reads (faultBody env f) readFaultBody (env, f) :=
  .next (reads_envelope _) <| .next (reads_fault _) (.pure _)

theorem reads_ackBody (type : MessageType) (accepted : Bool) (msg : Str) :
    Reads (ackBody type accepted msg) readAckBody (type, accepted, msg) :=
  .next (reads_enum _) <| .next (reads_flag _) <| .next (reads_string _) (reads_end _)

end Records
end AcceleratorHealth
