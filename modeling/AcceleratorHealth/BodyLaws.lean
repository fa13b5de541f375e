import AcceleratorHealth.Lib.Truncation
import AcceleratorHealth.Snapshots

/-! Message bodies. What is written is read back whatever follows it, and a body that is
cut short is refused: the reads after the end return zeros, which are codes of their
enumerations, but the failure flag stays set and the last check finds it. -/
namespace AcceleratorHealth
open Codec Wire Util

/-! ### Reading on -/

section Primitives
variable {ε α β : Type} {E : Type} [CodedEnum E]

/-- What has been taken is also taken from a longer input. -/
theorem take_extends {n : Nat} {r : Reader} (hgood : (r.take n).2.fail = false) :
    r.fail = false ∧ ∀ (more : Bytes) (long : Reader), long.fail = false →
      long.data.drop long.pos = r.data.drop r.pos ++ more →
      ∃ long', long.take n = ((r.take n).1, long') ∧ long'.fail = false ∧
        long'.data.drop long'.pos = (r.take n).2.data.drop (r.take n).2.pos ++ more := by
  unfold Reader.take at hgood ⊢
  by_cases hshort : r.remaining < n
  · rw [if_pos hshort] at hgood
    cases hgood
  · rw [if_neg hshort] at hgood ⊢
    refine ⟨hgood, fun more long hlong hrest => ?_⟩
    have hn : n ≤ (r.data.drop r.pos).length := by
      rw [List.length_drop]
      unfold Reader.remaining at hshort
      omega
    have hlength := congrArg List.length hrest
    rw [List.length_append, List.length_drop] at hlength
    rw [if_neg (by unfold Reader.remaining; omega), hrest, List.take_append_of_le_length hn]
    refine ⟨_, rfl, hlong, ?_⟩
    show long.data.drop (long.pos + n) = r.data.drop (r.pos + n) ++ more
    rw [← List.drop_drop, ← List.drop_drop, hrest, List.drop_append_of_le_length hn]

theorem extends_fixed (n : Nat) (decode : Bytes → α) :
    Extends readerView (prim (ε := ε) fun r => (decode (r.take n).1, (r.take n).2)) := by
  intro r x r' hrun hgood
  cases hrun
  obtain ⟨hr, hlonger⟩ := take_extends hgood
  refine ⟨hr, fun more long hlong hrest => ?_⟩
  obtain ⟨long', htake, hlong'⟩ := hlonger more long hlong hrest
  refine ⟨long', ?_, hlong'⟩
  show Except.ok (decode (long.take n).1, (long.take n).2) = _
  rw [htake]

theorem extends_u8 : Extends readerView (prim (ε := ε) Reader.u8) :=
  extends_fixed 1 fun bs => UInt8.ofNat (loadLe bs)

theorem extends_u32 : Extends readerView (prim (ε := ε) Reader.u32) :=
  extends_fixed 4 fun bs => UInt32.ofNat (loadLe bs)

theorem extends_u64 : Extends readerView (prim (ε := ε) Reader.u64) :=
  extends_fixed 8 fun bs => UInt64.ofNat (loadLe bs)

theorem extends_i64 : Extends readerView (prim (ε := ε) Reader.i64) := extends_u64.map

theorem extends_f32 : Extends readerView (prim (ε := ε) Reader.f32) := extends_u32.map

theorem extends_f64 : Extends readerView (prim (ε := ε) Reader.f64) := extends_u64.map

theorem extends_flag : Extends readerView (readFlag (ε := ε)) := extends_u8.map

theorem extends_id {Tag : Type} :
    Extends readerView (StrongId.read : Parser Reader ε (StrongId Tag)) :=
  extends_u64.map

theorem extends_generation {Tag : Type} :
    Extends readerView (Generation.read : Parser Reader ε (Generation Tag)) :=
  extends_u64.map

theorem extends_timestamp : Extends readerView (Timestamp.read (ε := ε)) := extends_i64.map

/-- A check of the failure flag and of something already read. -/
theorem extends_gate (bad : Prop) [Decidable bad] (x : α) :
    Extends readerView (fun r => if r.fail ∨ bad then .error () else .ok (x, r) : Parse α) := by
  intro r y r' hrun hgood
  have hpass : (if r.fail = true ∨ bad then Except.error () else Except.ok (x, r)) =
      Except.ok (y, r') := hrun
  split_ifs at hpass with hbad
  cases hpass
  refine ⟨hgood, fun more long hlong hrest => ⟨long, ?_, hlong, hrest⟩⟩
  show (if long.fail = true ∨ bad then Except.error () else Except.ok (x, long)) = _
  rw [if_neg]
  rintro (hfail | hb)
  · rw [show long.fail = false from hlong] at hfail
    cases hfail
  · exact hbad (Or.inr hb)

theorem guardOk_eq_ok {x : Unit} {r r' : Reader} :
    guardOk.run r = .ok (x, r') ↔ r.fail = false ∧ r' = r := by
  change (if r.fail = true then Except.error () else .ok ((), r)) = Except.ok (x, r') ↔ _
  constructor
  · intro hrun
    split_ifs at hrun with hfail
    cases hrun
    exact ⟨Bool.eq_false_iff.mpr hfail, rfl⟩
  · rintro ⟨hfail, rfl⟩
    rw [hfail]
    rfl

theorem extends_guardOk : Extends readerView guardOk := by
  intro r x r' hrun hgood
  obtain ⟨-, rfl⟩ := guardOk_eq_ok.mp hrun
  exact ⟨hgood, fun more long hlong hrest =>
    ⟨long, guardOk_eq_ok.mpr ⟨hlong, rfl⟩, hlong, hrest⟩⟩

theorem closes_guardOk : Closes readerView guardOk := by
  intro r x r' hrun
  obtain ⟨hgood, rfl⟩ := guardOk_eq_ok.mp hrun
  exact hgood

theorem extends_enum : Extends readerView (readEnum E) := by
  intro r v r' hrun hgood
  obtain ⟨hcode, -, rfl⟩ := readEnum_eq_ok.mp hrun
  obtain ⟨hr, hlonger⟩ := extends_u8 (ε := Unit) r r.u8.1 r.u8.2 rfl hgood
  refine ⟨hr, fun more long hlong hrest => ?_⟩
  obtain ⟨long', hread, hlong', hrest'⟩ := hlonger more long hlong hrest
  have hbyte : long.u8 = (r.u8.1, long') := Except.ok.inj hread
  refine ⟨long', readEnum_eq_ok.mpr ?_, hlong', hrest'⟩
  rw [hbyte]
  exact ⟨hcode, hlong', rfl⟩

theorem extends_readCount : Extends readerView readCount :=
  (extends_u32 (ε := Unit)).bind fun n => extends_gate (kMaxCount < n) n

theorem extends_string : Extends readerView (prim (ε := ε) Reader.string) := by
  have hbytes : ∀ len : UInt32, Extends readerView (prim (ε := ε) fun r =>
      if r.fail ∨ kMaxString < len.toNat ∨ r.remaining < len.toNat then ([], r.setFail)
      else ((r.data.drop r.pos).take len.toNat, { r with pos := r.pos + len.toNat })) := by
    intro len r x r' hrun hgood
    have hread : (if r.fail = true ∨ kMaxString < len.toNat ∨ r.remaining < len.toNat
        then (([] : Bytes), r.setFail)
        else ((r.data.drop r.pos).take len.toNat, { r with pos := r.pos + len.toNat })) =
          (x, r') := Except.ok.inj hrun
    split_ifs at hread with hbad
    · cases hread
      cases hgood
    · simp only [not_or] at hbad
      obtain ⟨-, hlen, hremaining⟩ := hbad
      have htake : r.take len.toNat = (x, r') := by
        unfold Reader.take
        rw [if_neg hremaining, hread]
      obtain ⟨hr, hlonger⟩ := take_extends (n := len.toNat) (r := r) (by rw [htake]; exact hgood)
      refine ⟨hr, fun more long hlong hrest => ?_⟩
      obtain ⟨long', htake', hgood', hrest'⟩ := hlonger more long hlong hrest
      rw [htake] at htake' hrest'
      refine ⟨long', ?_, hgood', hrest'⟩
      have henough : ¬long.remaining < len.toNat := by
        intro hshort
        unfold Reader.take at htake'
        rw [if_pos hshort] at htake'
        cases htake'
        cases hgood'
      unfold Reader.take at htake'
      rw [if_neg henough] at htake'
      show Except.ok (if long.fail = true ∨ kMaxString < len.toNat ∨ long.remaining < len.toNat
        then (([] : Bytes), long.setFail)
        else ((long.data.drop long.pos).take len.toNat,
          { long with pos := long.pos + len.toNat })) = _
      rw [if_neg, htake']
      simp only [not_or]
      exact ⟨by rw [show long.fail = false from hlong]; decide, hlen, henough⟩
  exact (extends_u32 (ε := ε)).bind hbytes

end Primitives

/-! ### Records -/

section Records

theorem extends_envelope {ε : Type} :
    Extends readerView (AuthorityEnvelope.read (ε := ε)) :=
  .bind extends_u64 fun _ => .bind extends_id fun _ => .bind extends_id fun _ =>
  .bind extends_generation fun _ => .bind extends_generation fun _ =>
  .bind extends_generation fun _ => .bind extends_generation fun _ => .pure _

theorem extends_hello : Extends readerView HelloBody.read :=
  .bind extends_u8 fun _ => .bind extends_id fun _ => .bind extends_id fun _ =>
  .bind extends_id fun _ => .bind extends_generation fun _ => extends_guardOk.map

theorem extends_dimension : Extends readerView HealthDimension.read :=
  .bind extends_enum fun _ => .bind extends_enum fun _ => .bind extends_enum fun _ =>
  .bind extends_timestamp fun _ => .bind extends_generation fun _ =>
  .bind extends_generation fun _ => .bind extends_f32 fun _ => .bind extends_enum fun _ =>
  .bind extends_string fun _ => .bind extends_f64 fun _ => .bind extends_string fun _ =>
  extends_guardOk.map

theorem extends_observation : Extends readerView AcceleratorObservation.read :=
  .bind extends_id fun _ => .bind extends_id fun _ => .bind extends_id fun _ =>
  .bind extends_id fun _ => .bind extends_generation fun _ =>
  .bind extends_generation fun _ => .bind extends_timestamp fun _ =>
  .bind extends_readCount fun n => .bind (extends_dimension.many n.toNat) fun _ =>
  extends_guardOk.map

theorem extends_fault : Extends readerView Fault.read :=
  .bind extends_id fun _ => .bind extends_id fun _ => .bind extends_enum fun _ =>
  .bind extends_enum fun _ => .bind extends_enum fun _ => .bind extends_timestamp fun _ =>
  .bind extends_generation fun _ => .bind extends_id fun _ => .bind extends_id fun _ =>
  .bind extends_string fun _ => .bind extends_flag fun _ => .bind extends_flag fun _ =>
  .bind extends_flag fun _ => .bind extends_string fun _ => .bind extends_enum fun _ =>
  .bind extends_timestamp fun _ => extends_guardOk.map

theorem extends_validation : Extends readerView ValidationRecord.read :=
  .bind extends_id fun _ => .bind extends_id fun _ => .bind extends_timestamp fun _ =>
  .bind extends_enum fun _ => .bind extends_enum fun _ => .bind extends_flag fun _ =>
  .bind extends_f32 fun _ => .bind extends_string fun _ => .bind extends_id fun _ =>
  .bind extends_id fun _ => .bind extends_generation fun _ =>
  .bind extends_generation fun _ => extends_guardOk.map

theorem extends_healthPolicy : Extends readerView HealthPolicy.read :=
  .bind extends_id fun _ => .bind extends_enum fun _ => .bind extends_i64 fun _ =>
  .bind extends_i64 fun _ => .bind extends_i64 fun _ => .bind extends_u32 fun _ =>
  .bind extends_u32 fun _ => .bind extends_u32 fun _ => .bind extends_u32 fun _ =>
  .bind extends_enum fun _ => .bind extends_flag fun _ => .bind extends_flag fun _ =>
  .bind extends_flag fun _ => extends_guardOk.map

theorem extends_ackBody : Extends readerView readAckBody :=
  .bind extends_enum fun _ => .bind extends_flag fun _ => .bind extends_string fun _ =>
  extends_guardOk.map

theorem closes_hello : Closes readerView HelloBody.read :=
  .bind fun _ => .bind fun _ => .bind fun _ => .bind fun _ => .bind fun _ => closes_guardOk.map

theorem closes_observation : Closes readerView AcceleratorObservation.read :=
  .bind fun _ => .bind fun _ => .bind fun _ => .bind fun _ => .bind fun _ => .bind fun _ =>
  .bind fun _ => .bind fun _ => .bind fun _ => closes_guardOk.map

theorem closes_fault : Closes readerView Fault.read :=
  .bind fun _ => .bind fun _ => .bind fun _ => .bind fun _ => .bind fun _ => .bind fun _ =>
  .bind fun _ => .bind fun _ => .bind fun _ => .bind fun _ => .bind fun _ => .bind fun _ =>
  .bind fun _ => .bind fun _ => .bind fun _ => .bind fun _ => closes_guardOk.map

theorem closes_validation : Closes readerView ValidationRecord.read :=
  .bind fun _ => .bind fun _ => .bind fun _ => .bind fun _ => .bind fun _ => .bind fun _ =>
  .bind fun _ => .bind fun _ => .bind fun _ => .bind fun _ => .bind fun _ => .bind fun _ =>
  closes_guardOk.map

theorem closes_healthPolicy : Closes readerView HealthPolicy.read :=
  .bind fun _ => .bind fun _ => .bind fun _ => .bind fun _ => .bind fun _ => .bind fun _ =>
  .bind fun _ => .bind fun _ => .bind fun _ => .bind fun _ => .bind fun _ => .bind fun _ =>
  .bind fun _ => closes_guardOk.map

theorem closes_ackBody : Closes readerView readAckBody :=
  .bind fun _ => .bind fun _ => .bind fun _ => closes_guardOk.map

end Records

/-! ### Round trips -/

/-- What is written is read back and no more is taken than was written; every strict
prefix of it is refused. -/
def RoundTrips {α : Type} (w : Writer) (p : Parse α) (x : α) : Prop :=
  ∃ bs, w = .ok bs ∧
    (∀ suffix, ∃ r, p.run { data := bs ++ suffix } = .ok (x, r) ∧ r.fail = false ∧
      r.data.drop r.pos = suffix) ∧
    ∀ cut, cut <+: bs → cut ≠ bs → ∃ e, p.run { data := cut } = .error e

theorem roundTrips_of_law {α : Type} {w : Writer} {p : Parse α} {x : α} {n : Nat}
    (hsized : Sized w True n) (hlaw : Law (readerView.upTo (n + 1)) w p True x)
    (hextends : Extends readerView p) (hcloses : Closes readerView p) : RoundTrips w p x := by
  obtain ⟨bs, hbs, hlength⟩ := hsized.1 trivial
  have hlimit : bs.length < (readerView.upTo (n + 1)).limit := by
    show bs.length < n + 1
    omega
  refine ⟨bs, hbs, fun suffix => ?_, ?_⟩
  · exact (hlaw bs hbs hlimit { data := bs ++ suffix } suffix rfl rfl).1 trivial
  · rintro cut ⟨missing, rfl⟩ hcut
    have hmissing : missing ≠ [] := by
      rintro rfl
      exact hcut (List.append_nil cut).symm
    have hwhole : (readerView.upTo (n + 1)).good { data := cut ++ missing } := rfl
    exact Law.refuses_cut (r := { data := cut }) hlaw hextends hcloses hbs hlimit hmissing rfl
      hwhole rfl

/-- A record below the bound of its reader. -/
theorem roundTrips_of_reads {α : Type} {w : Writer} {p : Parse α} {x : α} {c : Prop} {n : Nat}
    (hsized : Sized w c n) (hc : c) (hn : n < 2 ^ 32) (hreads : Reads w p x)
    (hextends : Extends readerView p) (hcloses : Closes readerView p) : RoundTrips w p x := by
  apply roundTrips_of_law (hsized.congr (iff_true_intro hc) rfl) _ hextends hcloses
  apply hreads.upTo
  intro bs hbs
  rw [hsized.length_eq hbs]
  exact hn

section Bodies

theorem reads_hello (h : HelloBody) : Reads h.write HelloBody.read h :=
  .next (reads_u8 _) <| .next (reads_id _) <| .next (reads_id _) <| .next (reads_id _) <|
  .next (reads_generation _) <| reads_end _

theorem sized_hello (h : HelloBody) : Sized h.write True 33 :=
  Sized.congr (.next (sized_u8 _) <| .next (sized_u64 _) <| .next (sized_u64 _) <|
    .next (sized_u64 _) <| .next (sized_u64 _) .nil) .rfl rfl

theorem sized_valBody (env : AuthorityEnvelope) (v : ValidationRecord) :
    Sized (valBody env v) v.TextsFit (56 + v.imageSize) :=
  Sized.congr (.next (Coordinator.sized_envelope env) <| .cons (sized_validation v) .nil)
    (by rw [and_true])
    rfl

theorem sized_ackBody (type : MessageType) (accepted : Bool) (msg : Str) :
    Sized (ackBody type accepted msg) (TextFits msg) (6 + msg.length) := by
  refine Sized.congr (.next (sized_enum _) <| .next (sized_flag _) <| .cons (sized_string msg) .nil)
    (by rw [and_true]) ?_
  omega

/-- No bound of `2 ^ 32` bytes on this: there is room for as many dimensions as the reader
counts, each with texts as long as it takes. -/
def AcceleratorObservation.imageSize (o : AcceleratorObservation) : Nat :=
  60 + (o.dimensions.map HealthDimension.imageSize).sum

theorem sized_observation (o : AcceleratorObservation) :
    Sized o.write (∀ d ∈ o.dimensions, d.TextsFit) o.imageSize := by
  refine Sized.congr (c := (∀ d ∈ o.dimensions, d.TextsFit) ∧ True) (.next (sized_u64 _) <|
    .next (sized_u64 _) <| .next (sized_u64 _) <| .next (sized_u64 _) <| .next (sized_u64 _) <|
    .next (sized_u64 _) <| .next (sized_u64 _) <| .next (sized_u32 _) <|
    .cons (.map sized_dimension _) .nil) (by rw [and_true]) ?_
  simp only [AcceleratorObservation.imageSize]
  omega

theorem sized_obsBody (env : AuthorityEnvelope) (o : AcceleratorObservation) :
    Sized (obsBody env o) (∀ d ∈ o.dimensions, d.TextsFit) (56 + o.imageSize) :=
  Sized.congr (.next (Coordinator.sized_envelope env) <| .cons (sized_observation o) .nil)
    (by rw [and_true]) rfl

/-- A single dimension is always within the bound, whatever its texts: an over-long one is
not written. -/
theorem dimension_limit {d : HealthDimension} {bs : Bytes} (h : d.write = .ok bs) :
    bs.length < 2 ^ 32 := by
  have hfit := (sized_dimension d).ok_iff.mp ⟨bs, h⟩
  rw [(sized_dimension d).length_eq h]
  unfold HealthDimension.TextsFit TextFits kMaxString at hfit
  unfold HealthDimension.imageSize
  omega

/-- Each field of an observation is within the bound, so the law of the whole needs none. -/
theorem law_obsBody (n : Nat) (env : AuthorityEnvelope) {obs : AcceleratorObservation}
    (hcount : obs.dimensions.length ≤ kMaxCount.toNat) :
    Law (readerView.upTo n) (obsBody env obs) readObsBody True (env, obs) := by
  have hsmall {w : Writer} {m : Nat} (hw : Sized w True m) (hm : m < 2 ^ 32) :
      ∀ bs, w = .ok bs → bs.length < readerView.limit := by
    intro bs hbs
    rw [hw.length_eq hbs]
    exact hm
  have hid {Tag : Type} (i : StrongId Tag) :
      Law (readerView.upTo n) i.write (StrongId.read (ε := Unit)) True i :=
    (reads_id i).upTo (hsmall (sized_u64 _) (by decide)) n
  have hgeneration {Tag : Type} (g : Generation Tag) :
      Law (readerView.upTo n) g.write (Generation.read (ε := Unit)) True g :=
    (reads_generation g).upTo (hsmall (sized_u64 _) (by decide)) n
  have htime : Law (readerView.upTo n) obs.timestamp.write (Timestamp.read (ε := Unit)) True
      obs.timestamp :=
    (reads_timestamp _).upTo (hsmall (sized_u64 _) (by decide)) n
  have henv : Law (readerView.upTo n) env.write (AuthorityEnvelope.read (ε := Unit)) True env :=
    (reads_envelope env).upTo (hsmall (Coordinator.sized_envelope env) (by decide)) n
  have hvalue : (UInt32.ofNat obs.dimensions.length).toNat = obs.dimensions.length := by
    apply UInt32.toNat_ofNat_of_lt'
    exact Nat.lt_of_le_of_lt hcount (by decide)
  have hn : Law (readerView.upTo n) (u32 (UInt32.ofNat obs.dimensions.length)) readCount True
      (UInt32.ofNat obs.dimensions.length) := by
    apply ((law_readCount _).upTo (hsmall (sized_u32 _) (by decide)) n).congr
    rw [UInt32.le_iff_toNat_le, hvalue]
    exact iff_true_intro hcount
  have hdims : Law (readerView.upTo n) (emitAll (obs.dimensions.map HealthDimension.write))
      (many HealthDimension.read (UInt32.ofNat obs.dimensions.length).toNat) True
        obs.dimensions := by
    rw [hvalue]
    exact .many fun d _ => (reads_dimension d).upTo (fun _ => dimension_limit) n
  have hend : Law (readerView.upTo n) (emitAll [] : Writer) (guardOk >>= fun _ => pure obs) True
      obs :=
    (reads_end obs).upTo (hsmall .nil (by decide)) n
  have hobs : Law (readerView.upTo n) obs.write AcceleratorObservation.read True obs :=
    .next (hid _) <| .next (hid _) <| .next (hid _) <| .next (hid _) <|
    .next (hgeneration _) <| .next (hgeneration _) <| .next htime <| .next hn <|
    .next hdims hend
  exact .next henv <| .next hobs (.pure _)

end Bodies

/-- Every message body and every policy round trips, as long as its texts and its
dimensions are within the bounds that the wire format sets. -/
theorem message_bodies_round_trip :
    (∀ hello : HelloBody, RoundTrips hello.write HelloBody.read hello) ∧
    (∀ (env : AuthorityEnvelope) (obs : AcceleratorObservation),
      obs.dimensions.length ≤ kMaxCount.toNat → (∀ d ∈ obs.dimensions, d.TextsFit) →
        RoundTrips (obsBody env obs) readObsBody (env, obs)) ∧
    (∀ (env : AuthorityEnvelope) (v : ValidationRecord), v.TextsFit →
      RoundTrips (valBody env v) readValBody (env, v)) ∧
    (∀ (env : AuthorityEnvelope) (f : Fault), f.TextsFit →
      RoundTrips (faultBody env f) readFaultBody (env, f)) ∧
    (∀ (type : MessageType) (accepted : Bool) (msg : Str), TextFits msg →
      RoundTrips (ackBody type accepted msg) readAckBody (type, accepted, msg)) ∧
    ∀ policy : HealthPolicy, RoundTrips policy.write HealthPolicy.read policy := by
  have hbound : kMaxString = 1048576 := rfl
  refine ⟨fun hello => ?_, fun env obs hcount htexts => ?_, fun env v htexts => ?_,
    fun env f htexts => ?_, fun type accepted msg htext => ?_, fun policy => ?_⟩
  · exact roundTrips_of_reads (sized_hello hello) trivial (by decide) (reads_hello hello)
      extends_hello closes_hello
  · exact roundTrips_of_law ((sized_obsBody env obs).congr (iff_true_intro htexts) rfl)
      (law_obsBody _ env hcount) (extends_envelope.bind fun _ => extends_observation.map)
      (.bind fun _ => closes_observation.map)
  · have hsize : 56 + v.imageSize < 2 ^ 32 := by
      unfold ValidationRecord.TextsFit TextFits at htexts
      unfold ValidationRecord.imageSize
      omega
    exact roundTrips_of_reads (sized_valBody env v) htexts hsize (reads_valBody env v)
      (extends_envelope.bind fun _ => extends_validation.map)
      (.bind fun _ => closes_validation.map)
  · have hsize : 56 + f.imageSize < 2 ^ 32 := by
      unfold Fault.TextsFit TextFits at htexts
      unfold Fault.imageSize
      omega
    exact roundTrips_of_reads (Coordinator.sized_faultBody env f) htexts hsize
      (reads_faultBody env f)
      (extends_envelope.bind fun _ => extends_fault.map) (.bind fun _ => closes_fault.map)
  · have hsize : 6 + msg.length < 2 ^ 32 := by
      unfold TextFits at htext
      omega
    exact roundTrips_of_reads (sized_ackBody type accepted msg) htext hsize
      (reads_ackBody type accepted msg) extends_ackBody closes_ackBody
  · exact roundTrips_of_reads (sized_healthPolicy policy) trivial (by decide)
      (reads_healthPolicy policy) extends_healthPolicy closes_healthPolicy

theorem observation_with_reason_round_trips :
    RoundTrips (obsBody { coordinatorEpoch := 3 } { dimensions := [{ reason := str "ecc" }] })
      readObsBody ({ coordinatorEpoch := 3 }, { dimensions := [{ reason := str "ecc" }] }) ∧
    RoundTrips (valBody {} { detail := str "ok" }) readValBody ({}, { detail := str "ok" }) ∧
    RoundTrips (faultBody {} { evidence := str "xid" }) readFaultBody
      ({}, { evidence := str "xid" }) ∧
    RoundTrips (ackBody .hello true (str "ok")) readAckBody (.hello, true, str "ok") :=
  ⟨message_bodies_round_trip.2.1 _ _ (by decide) (by decide +kernel),
    message_bodies_round_trip.2.2.1 _ _ (by decide +kernel),
    message_bodies_round_trip.2.2.2.1 _ _ (by decide +kernel),
    message_bodies_round_trip.2.2.2.2.1 _ _ _ (by decide +kernel)⟩

end AcceleratorHealth
