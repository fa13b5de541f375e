import AcceleratorHealth.WireLaws
import AcceleratorHealth.Registration
import AcceleratorHealth.Sizes

/-! The state image read back: the law of one device record, with exactly the checks
that its reader makes, and what decoding an encoded store leaves. -/
namespace AcceleratorHealth
open Codec Wire Util

/-! ### Parts of a device record -/

section Parts
variable {ε : Type}

/-- A list whose ids must be distinct, from each other and from those seen before. -/
theorem law_readUnique {α κ : Type} [DecidableEq κ] {write : α → Writer} {read : Parse α}
    {id : α → κ} {invalid duplicate : String} {xs : List α} (seen : List κ)
    (h : ∀ x, Reads (write x) read x) :
    Law readerView (emitAll (xs.map write))
      (Persistence.readUnique read id invalid duplicate xs.length seen)
      ((xs.map id).Nodup ∧ ∀ x ∈ xs, id x ∉ seen) xs := by
  induction xs generalizing seen with
  | nil => exact (Law.pure []).congr (by simp)
  | cons x xs ih =>
    have hcheck : Law readerView (emitAll (xs.map write))
        (do
          Persistence.check (id x ∉ seen) duplicate
          let xs ← Persistence.readUnique read id invalid duplicate xs.length (id x :: seen)
          pure (x :: xs))
        (id x ∉ seen ∧ ((xs.map id).Nodup ∧ ∀ y ∈ xs, id y ∉ id x :: seen)) (x :: xs) := by
      refine Law.check (fun r _ => ⟨fun hc => ?_, fun hc => ⟨duplicate, ?_⟩⟩) fun _ =>
        (ih (id x :: seen)).map (f := fun xs => x :: xs)
      · exact if_pos (by simpa using hc)
      · exact if_neg (by simpa using hc)
    refine (((h x).orError invalid).next hcheck).congr ?_
    simp only [List.map_cons, List.nodup_cons, List.mem_map, List.mem_cons, not_or,
      forall_eq_or_imp]
    constructor
    · rintro ⟨hx, hnodup, hxs⟩
      exact ⟨⟨fun ⟨y, hy, heq⟩ => (hxs y hy).1 heq, hnodup⟩, hx, fun y hy => (hxs y hy).2⟩
    · rintro ⟨⟨hx, hnodup⟩, hx', hxs⟩
      exact ⟨hx', hnodup, fun y hy => ⟨fun heq => hx ⟨y, hy, heq⟩, hxs y hy⟩⟩

theorem foldlM_record (h : FaultHistory) (rest : List Fault)
    (hids : ((h.faults ++ rest).map Fault.id).Nodup) :
    rest.foldlM FaultHistory.record h = .ok ⟨h.faults ++ rest, hids⟩ := by
  induction rest generalizing h with
  | nil =>
    change Except.ok h = _
    exact congrArg Except.ok (FaultHistory.ext (List.append_nil _).symm)
  | cons f rest ih =>
    have hnew : f.id ∉ h.ids := by
      rw [List.map_append, List.nodup_append] at hids
      exact fun hf => hids.2.2 f.id hf f.id (by simp) rfl
    obtain ⟨h', hrec⟩ : ∃ h', h.record f = .ok h' := ⟨_, dif_neg hnew⟩
    have hfaults := (FaultHistory.record_eq_ok hrec).2
    have heq : h'.faults ++ rest = h.faults ++ f :: rest := by
      rw [hfaults, List.append_assoc]
      rfl
    rw [List.foldlM_cons, hrec]
    change rest.foldlM FaultHistory.record h' = _
    rw [ih h' (heq ▸ hids)]
    exact congrArg Except.ok (FaultHistory.ext heq)

/-- Recording the faults of a history one by one gives it back. -/
theorem recordAll_faults (h : FaultHistory) : Persistence.recordAll h.faults = pure h := by
  funext r
  have hall := foldlM_record .empty h.faults h.ids_nodup
  unfold Persistence.recordAll
  rw [hall]
  exact congrArg (fun h => Except.ok (h, r)) (FaultHistory.ext rfl)

/-- An optional record. -/
theorem law_optional {α γ : Type} {write : α → Writer} {read : Parse α} {invalid : String}
    {x : Option α} {ws : List Writer} {f : Option α → Persistence.Decode γ} {c : Prop} {y : γ}
    (h : ∀ x, Reads (write x) read x) (hf : Law readerView (emitAll ws) (f x) c y) :
    Law readerView (emitAll (flag x.isSome :: emitAll (x.toList.map write) :: ws))
      (Persistence.readOptional read invalid >>= f) c y := by
  have hassoc : Persistence.readOptional read invalid >>= f =
      (prim Reader.u8 : Persistence.Decode UInt8) >>= fun has =>
        (if has ≠ 0 then (orError invalid read >>= fun x => pure (some x))
          else pure none) >>= f := by
    unfold Persistence.readOptional
    rw [bind_assoc]
  rw [hassoc]
  cases x with
  | none => exact .next (reads_u8 0) (.next (w := emitAll []) (.pure none) hf)
  | some x =>
    have hread : Reads (emitAll [write x])
        (orError invalid read >>= fun x => (pure (some x) : Persistence.Decode (Option α)))
        (some x) := .next ((h x).orError invalid) (.pure (some x))
    exact .next (reads_u8 1) (.next hread hf)

end Parts

/-! ### A device record -/

/-- What is read back of a device: the restart flag is not part of the image. -/
def Device.restored (d : Device) : Device :=
  { d with
    dimensions := OrdMap.empty.insertAll (d.dimensions.values.map fun dim => (dim.kind, dim))
    requiresRevalidation := false }

/-- What the reader of a device record insists on, null generations aside. -/
structure Device.Readable (d : Device) : Prop where
  dimensions : d.dimensions.values.length ≤ kMaxCount.toNat
  evidence : d.recentEvidence.length ≤ kMaxCount.toNat
  faults : d.faults.faults.length ≤ kMaxCount.toNat
  validations : d.validations.length ≤ kMaxCount.toNat
  validationIds : (d.validations.map ValidationRecord.id).Nodup
  changes : d.changes.length ≤ kMaxCount.toNat
  reasons : d.latestAssessment.reasons.length ≤ kMaxCount.toNat
  consistent : ¬(d.quarantined = true ∧ d.state = .healthy)

instance (d : Device) : Decidable d.Readable :=
  decidable_of_iff (d.dimensions.values.length ≤ kMaxCount.toNat ∧
      d.recentEvidence.length ≤ kMaxCount.toNat ∧ d.faults.faults.length ≤ kMaxCount.toNat ∧
      d.validations.length ≤ kMaxCount.toNat ∧ (d.validations.map ValidationRecord.id).Nodup ∧
      d.changes.length ≤ kMaxCount.toNat ∧
      d.latestAssessment.reasons.length ≤ kMaxCount.toNat ∧
      ¬(d.quarantined = true ∧ d.state = .healthy))
    ⟨fun ⟨h₁, h₂, h₃, h₄, h₅, h₆, h₇, h₈⟩ => ⟨h₁, h₂, h₃, h₄, h₅, h₆, h₇, h₈⟩,
      fun ⟨h₁, h₂, h₃, h₄, h₅, h₆, h₇, h₈⟩ => ⟨h₁, h₂, h₃, h₄, h₅, h₆, h₇, h₈⟩⟩

/-- What the reader of a device record insists on. -/
structure Device.Admissible (d : Device) : Prop extends d.Readable where
  generation : d.healthGeneration.isNull = false

namespace Persistence

theorem law_check {α : Type} {w : Writer} {ok : Bool} {error : String} {f : Unit → Decode α}
    {c : Prop} {x : α} (h : ok = true → Law readerView w (f ()) c x) :
    Law readerView w (check ok error >>= f) (ok = true ∧ c) x :=
  Law.check (fun _ _ => ⟨fun hc => if_pos hc, fun hc => ⟨error, if_neg hc⟩⟩) h

theorem law_checkOk {α : Type} {w : Writer} {ok : Bool} {error : String} {f : Unit → Decode α}
    {c : Prop} {x : α} (h : ok = true → Law readerView w (f ()) c x) :
    Law readerView w (checkOk ok error >>= f) (ok = true ∧ c) x := by
  refine Law.check (fun r hg => ?_) h
  change (ok = true → checkOk ok error r = _) ∧ (¬ok = true → ∃ e, checkOk ok error r = _)
  have hfail : r.fail = false := hg
  unfold checkOk
  cases ok <;> simp [hfail]

theorem law_many {α : Type} {write : α → Writer} {read : Parse α} {invalid : String} {xs : List α}
    (h : ∀ x, Reads (write x) read x) :
    Law readerView (emitAll (xs.map write)) (many (orError invalid read) xs.length) True xs :=
  .many fun x _ => (h x).orError invalid

theorem law_device (d : Device) :
    Law readerView (writeDevice d) readDevice d.Admissible d.restored := by
  have hcount : ∀ {error : String} (n : UInt32),
      Law readerView (u32 n) (orError error readCount) (n ≤ kMaxCount) n :=
    fun n => (law_readCount n).orError _
  refine Law.congr (c := (!d.healthGeneration.isNull) = true ∧
    d.dimensions.values.length ≤ kMaxCount.toNat ∧ True ∧
    d.recentEvidence.length ≤ kMaxCount.toNat ∧ True ∧
    d.faults.faults.length ≤ kMaxCount.toNat ∧
      ((d.faults.faults.map Fault.id).Nodup ∧ ∀ f ∈ d.faults.faults, f.id ∉ ([] : List FaultId)) ∧
    d.validations.length ≤ kMaxCount.toNat ∧
      ((d.validations.map ValidationRecord.id).Nodup ∧
        ∀ v ∈ d.validations, v.id ∉ ([] : List ValidationRunId)) ∧
    d.changes.length ≤ kMaxCount.toNat ∧ True ∧
    d.latestAssessment.reasons.length ≤ kMaxCount.toNat ∧
    true = true ∧ (!(d.quarantined && d.state = .healthy)) = true ∧ True) ?_ ?_
  · unfold writeDevice readDevice
    refine .next (reads_id _) <| .next (reads_id _) <| .next (reads_id _) <| .next (reads_id _) <|
      .next (reads_id _) <| .next (reads_generation _) <| .next ((reads_enum _).orError _) <|
      .next ((reads_enum _).orError _) <| .next (reads_generation _) <| .next (reads_u64 _) <|
      law_check fun _ => ?_
    refine law_counted (fun x _ _ => (sized_dimension x).length_pos
      (by unfold HealthDimension.imageSize; omega)) hcount (law_many reads_dimension) fun _ => ?_
    refine law_counted (fun x _ _ => (sized_evidence x).length_pos
      (by unfold Evidence.imageSize; omega)) hcount (law_many reads_evidence) fun _ => ?_
    refine law_counted (g := fun n => readUnique Fault.read Fault.id "invalid fault"
      "duplicate fault id" n []) (fun x _ _ => (sized_fault x).length_pos
        (by unfold Fault.imageSize; omega))
      hcount (law_readUnique [] reads_fault) fun _ => ?_
    rw [recordAll_faults, pure_bind]
    refine law_counted (g := fun n => readUnique ValidationRecord.read ValidationRecord.id
      "invalid validation" "duplicate validation id" n []) (fun x _ _ =>
        (sized_validation x).length_pos (by unfold ValidationRecord.imageSize; omega))
      hcount (law_readUnique [] reads_validation)
      fun _ => ?_
    refine law_counted (fun x _ _ => (sized_change x).length_pos
      (by unfold HealthChange.imageSize; omega)) hcount (law_many reads_change) fun _ => ?_
    refine ((law_assessment _).orError _).bind fun _ => ?_
    refine .next ((reads_enum _).orError _) <| .next (reads_timestamp _) <|
      .next (reads_timestamp _) <| law_optional reads_quarantine <|
      law_optional reads_recovery <| .next (reads_flag _) <| .next (reads_flag _) <|
      .next (reads_flag _) <| .next (reads_flag _) <| law_checkOk fun _ => law_check fun _ =>
        .pure _
  · have hconsistent : (!(d.quarantined && d.state = .healthy)) = true ↔
        ¬(d.quarantined = true ∧ d.state = .healthy) := by
      simp only [Bool.not_eq_true', Bool.and_eq_false_iff, decide_eq_false_iff_not, not_and_or,
        Bool.not_eq_true]
    constructor
    · rintro ⟨h₁, h₂, -, h₃, -, h₄, -, h₅, ⟨h₆, -⟩, h₇, -, h₈, -, h₉, -⟩
      exact ⟨⟨h₂, h₃, h₄, h₅, h₆, h₇, h₈, hconsistent.mp h₉⟩, by simpa using h₁⟩
    · rintro ⟨⟨h₂, h₃, h₄, h₅, h₆, h₇, h₈, h₉⟩, h₁⟩
      exact ⟨by simpa using h₁, h₂, trivial, h₃, trivial, h₄, ⟨d.faults.ids_nodup, by simp⟩, h₅,
        ⟨h₆, by simp⟩, h₇, trivial, h₈, rfl, hconsistent.mpr h₉, trivial⟩

/-! ### The image of a store -/

theorem law_header (s : HealthStore) :
    Law readerView (emitAll [s.policy.write, s.policyGeneration.write, u64 s.coordinatorEpoch])
      readHeader (s.policyGeneration.isNull = false)
      ⟨s.policy, s.policyGeneration, s.coordinatorEpoch⟩ := by
  refine Law.congr (c := (!s.policyGeneration.isNull) = true ∧ True) ?_ (by simp)
  unfold readHeader
  exact .next ((reads_healthPolicy _).orError _) <| .next (reads_generation _) <|
    .next (reads_u64 _) <| law_checkOk fun _ => .pure _

/-- The device loop over devices as they were written. -/
theorem each_loadDevice_written {ds : List Device} {bs rest : Bytes}
    (hw : emitAll (ds.map writeDevice) = .ok bs) (hlimit : bs.length < 2 ^ 32)
    (huuid : (ds.map Device.uuid).Nodup) {xs : List Nat} (hlen : xs.length = ds.length)
    {l : Loading} (hg : l.reader.fail = false)
    (hr : l.reader.data.drop l.reader.pos = bs ++ rest)
    (hnew : ∀ d ∈ ds, l.seenUuid.contains d.uuid = false) :
    ((∀ d ∈ ds, d.Admissible) → ∃ l', Exit.each (fun _ l => loadDevice l) xs l = .ok () l' ∧
      l'.out = enter (ds.map Device.restored) l.out ∧
      l'.reader.data.drop l'.reader.pos = rest) ∧
    (¬(∀ d ∈ ds, d.Admissible) →
      ∃ e, (Exit.each (fun _ l => loadDevice l) xs l).result = .error e) := by
  induction ds generalizing xs l bs with
  | nil =>
    obtain rfl : xs = [] := List.length_eq_zero_iff.mp hlen
    cases hw
    exact ⟨fun _ => ⟨l, rfl, rfl, hr⟩, fun h => absurd (by simp) h⟩
  | cons d ds ih =>
    obtain ⟨x, xs, rfl⟩ : ∃ x xs', xs = x :: xs' := List.exists_cons_of_length_eq_add_one hlen
    obtain ⟨b, b', hb, hb', rfl⟩ := emitAll_cons_ok.mp hw
    rw [List.length_append] at hlimit
    rw [List.map_cons, List.nodup_cons] at huuid
    obtain ⟨hok, herr⟩ := law_device d b hb (show b.length < 2 ^ 32 by omega) l.reader
      (b' ++ rest) hg (by rw [← List.append_assoc]; exact hr)
    unfold Exit.each
    by_cases hd : d.Admissible
    · obtain ⟨r, hrun, hg', hr'⟩ := hok hd
      have hseen : l.seenUuid.contains d.restored.uuid = false := hnew d List.mem_cons_self
      have hload : loadDevice l = .ok () (l.taken d.restored r) := by
        rw [loadDevice_of_ok hrun, if_neg (by simp [hseen])]
      rw [hload, Exit.ok_andThen]
      have htail := ih hb' (by omega) huuid.2 (Nat.succ.inj hlen) (l := l.taken d.restored r) hg'
        hr' fun d' hd' => ?_
      · refine ⟨fun h => ?_, fun h => ?_⟩
        · obtain ⟨l', hrun', hout, hrest⟩ := htail.1 fun d' hd' => h d' (List.mem_cons_of_mem _ hd')
          exact ⟨l', hrun', hout, hrest⟩
        · exact htail.2 fun hall => h (List.forall_mem_cons.mpr ⟨hd, hall⟩)
      · have hne : d'.uuid ≠ d.uuid := fun heq =>
          huuid.1 (heq ▸ List.mem_map.mpr ⟨d', hd', rfl⟩)
        change (l.seenUuid.insert d.uuid d.id).contains d'.uuid = false
        rw [OrdMap.contains, OrdMap.find?_insert_of_ne _ _ hne]
        exact hnew d' (List.mem_cons_of_mem _ hd')
    · obtain ⟨e, hrun⟩ := herr hd
      rw [loadDevice_of_error hrun]
      exact ⟨fun h => absurd (h d List.mem_cons_self) hd, fun _ => ⟨e, rfl⟩⟩

theorem frameImage_length (body : Bytes) : (frameImage body).length = 12 + body.length := by
  simp only [frameImage, List.length_append, storeLe_length]
  rfl

/-- The part of an image that follows `pre`. -/
private theorem word_eq {image : Bytes} {n : Nat} (pre word post : Bytes)
    (h : image = pre ++ (word ++ post)) (hword : word.length = n) :
    (image.drop pre.length).take n = word := by
  rw [h, List.drop_left, List.take_left' hword]

/-- The length field has 32 bits; it cannot match a longer body. -/
theorem openImage_sealImage (body : Bytes) :
    (body.length < 2 ^ 32 → openImage (sealImage body) = .ok body) ∧
      (¬body.length < 2 ^ 32 → ∃ e, openImage (sealImage body) = .error e) := by
  have hlength : (sealImage body).length = 16 + body.length := by
    rw [sealImage, List.length_append, storeLe_length, frameImage_length]
    omega
  have hseal : sealImage body = kMagicP ++ (storeLe 4 kPersistenceSchemaVersion.toNat ++
      (storeLe 4 body.length ++ (body ++ storeLe 4 (crc32 (frameImage body)).toNat))) := by
    rw [sealImage, frameImage]
    simp only [List.append_assoc]
  have hmagic : (sealImage body).take 4 = kMagicP := by
    rw [hseal]
    exact List.take_left' rfl
  have hversion : loadLe (((sealImage body).drop 4).take 4) = kPersistenceSchemaVersion.toNat :=
    congrArg loadLe (word_eq kMagicP _ _ hseal rfl)
  have hword : ((sealImage body).drop 8).take 4 = storeLe 4 body.length :=
    word_eq (kMagicP ++ storeLe 4 kPersistenceSchemaVersion.toNat) _ _
      (by rw [hseal, List.append_assoc]) (storeLe_length ..)
  unfold openImage
  simp only
  rw [if_neg (by omega), if_neg (by simp [hmagic]), if_neg (by simp [hversion]), hword, hlength]
  constructor
  · intro hbody
    have hvalue : loadLe (storeLe 4 body.length) = body.length := loadLe_storeLe _ _ hbody
    have hframe : (sealImage body).take (12 + body.length) = frameImage body :=
      List.take_left' (frameImage_length body)
    have hcrc : ((sealImage body).drop (12 + body.length)).take 4 =
        storeLe 4 (crc32 (frameImage body)).toNat := by
      rw [← frameImage_length]
      exact word_eq (frameImage body) _ [] (by rw [List.append_nil]; rfl) (storeLe_length ..)
    have hdata : ((sealImage body).drop 12).take body.length = body :=
      word_eq (kMagicP ++ (storeLe 4 kPersistenceSchemaVersion.toNat ++ storeLe 4 body.length)) _
        (storeLe 4 (crc32 (frameImage body)).toNat)
        (by rw [hseal]; simp only [List.append_assoc]) rfl
    rw [hvalue, if_neg (by omega), hcrc, hframe,
      loadLe_storeLe _ _ (UInt32.toNat_lt _), if_neg (by simp), hdata]
  · intro hbody
    have hvalue := loadLe_lt (storeLe 4 body.length)
    rw [storeLe_length] at hvalue
    rw [if_pos (by omega)]
    exact ⟨_, rfl⟩

end Persistence

/-- What the reader of an image insists on. -/
structure HealthStore.Admissible (s : HealthStore) : Prop where
  policyGeneration : s.policyGeneration.isNull = false
  devices : ∀ d ∈ s.devices.values, d.Admissible
  count : s.devices.values.length ≤ kMaxCount.toNat
  size : s.imageSize < 2 ^ 32

namespace Persistence

/-- The values that an image starts with. -/
def headerOf (s : HealthStore) : Header := ⟨s.policy, s.policyGeneration, s.coordinatorEpoch⟩

/-- The header of a store's own image, and what is left to read after it. -/
theorem readHeader_encoded {s : HealthStore} {body : Bytes} (hw : encodeBody s = .ok body)
    (hlimit : body.length < 2 ^ 32) :
    ∃ b, emitAll (counted writeDevice s.devices.values) = .ok b ∧ b.length ≤ body.length ∧
      (s.policyGeneration.isNull = false → ∃ r,
        readHeader.run { data := body } = .ok (headerOf s, r) ∧ r.fail = false ∧
          r.data.drop r.pos = b) ∧
      (¬s.policyGeneration.isNull = false → ∃ e, readHeader.run { data := body } = .error e) := by
  obtain ⟨b₁, b, hb₁, hb, hbody⟩ := emitAll_append_ok.mp hw
  have hlength := congrArg List.length hbody
  rw [List.length_append] at hlength
  have hlaw := law_header s b₁ hb₁ (show b₁.length < 2 ^ 32 by omega) { data := body } b rfl hbody
  exact ⟨b, hb, by omega, hlaw⟩

/-- Whatever header is found in a store's own image is that store's. -/
theorem headerOf_of_encoded {s : HealthStore} {data : Bytes} {h : Header} {r : Reader}
    (hdata : encodeStateInternal s = .ok data) (hh : header data = some (h, r)) :
    h = headerOf s := by
  unfold encodeStateInternal at hdata
  cases hw : encodeBody s with
  | error e => simp [hw] at hdata
  | ok body =>
    simp only [hw] at hdata
    cases hdata
    unfold header at hh
    by_cases hlimit : body.length < 2 ^ 32
    · rw [(openImage_sealImage body).1 hlimit] at hh
      obtain ⟨b, -, -, hok, herr⟩ := readHeader_encoded hw hlimit
      by_cases hgen : s.policyGeneration.isNull = false
      · obtain ⟨r', hrun, -⟩ := hok hgen
        simp only [hrun, Option.some.injEq, Prod.mk.injEq] at hh
        exact hh.1.symm
      · obtain ⟨e, hrun⟩ := herr hgen
        simp [hrun] at hh
    · obtain ⟨e, hopen⟩ := (openImage_sealImage body).2 hlimit
      simp [hopen] at hh

/-- A store's own image is accepted exactly when the store is admissible, and then
brings back the header's values and every device. -/
theorem decode_encoded {s : HealthStore} (huuid : (s.devices.values.map Device.uuid).Nodup)
    {body : Bytes} (hw : encodeBody s = .ok body) (out : HealthStore) :
    (s.Admissible → ∃ l, decodeStateInternal (sealImage body) out = .ok () (finishLoad l) ∧
      l.out = enter (s.devices.values.map Device.restored) (adoptHeader (headerOf s) out)) ∧
    (¬s.Admissible → ∃ e, (decodeStateInternal (sealImage body) out).result = .error e) := by
  have hsize := (sized_encodeBody s).length_eq hw
  unfold decodeStateInternal
  by_cases hlimit : body.length < 2 ^ 32
  swap
  · obtain ⟨e, hopen⟩ := (openImage_sealImage body).2 hlimit
    rw [hopen]
    exact ⟨fun h => absurd (hsize ▸ h.size) hlimit, fun _ => ⟨e, rfl⟩⟩
  rw [(openImage_sealImage body).1 hlimit]
  obtain ⟨b, hb, hlength, hok, herr⟩ := readHeader_encoded hw hlimit
  obtain ⟨b₂, b', hb₂, hb', rfl⟩ := emitAll_cons_ok.mp hb
  obtain ⟨b₃, b₄, hb₃, hb₄, rfl⟩ := emitAll_cons_ok.mp hb'
  cases hb₄
  simp only [List.length_append] at hlength
  by_cases hgen : s.policyGeneration.isNull = false
  swap
  · obtain ⟨e, hrun⟩ := herr hgen
    simp only [hrun]
    exact ⟨fun h => absurd h.policyGeneration hgen, fun _ => ⟨e, rfl⟩⟩
  obtain ⟨r, hrun, hg, hr⟩ := hok hgen
  simp only [hrun]
  obtain ⟨hok, herr⟩ := ((law_readCount _).orError "invalid device count") b₂ hb₂
    (show b₂.length < 2 ^ 32 by omega) r (b₃ ++ []) hg hr
  have hfew : s.devices.values.length < 2 ^ 32 := by
    have hle := length_le_of_emitAll (fun d _ bs => (sized_device d).length_pos
      (by unfold Device.imageSize; omega)) hb₃
    omega
  have hvalue : (UInt32.ofNat s.devices.values.length).toNat = s.devices.values.length :=
    UInt32.toNat_ofNat_of_lt' hfew
  rw [UInt32.le_iff_toNat_le, hvalue] at hok herr
  by_cases hcount : s.devices.values.length ≤ kMaxCount.toNat
  swap
  · obtain ⟨e, hrun⟩ := herr hcount
    simp only [hrun]
    exact ⟨fun h => absurd h.count hcount, fun _ => ⟨e, rfl⟩⟩
  obtain ⟨r, hrun, hg, hr⟩ := hok hcount
  simp only [hrun, loadDevices, hvalue]
  obtain ⟨hok, herr⟩ := each_loadDevice_written hb₃ (by omega) huuid
    (List.length_range (n := s.devices.values.length))
    (l := { out := adoptHeader (headerOf s) out, reader := r }) hg hr fun _ _ => rfl
  by_cases hdevices : ∀ d ∈ s.devices.values, d.Admissible
  · obtain ⟨l, hrun, hout, hrest⟩ := hok hdevices
    have hend : l.reader.remaining = 0 := by
      have := congrArg List.length hrest
      simpa [Reader.remaining] using this
    refine ⟨fun _ => ⟨l, ?_, hout⟩, fun h => absurd ⟨hgen, hdevices, hcount, hsize ▸ hlimit⟩ h⟩
    simp only [hrun, Exit.ok_result, Exit.ok_state, hend]
    rfl
  · obtain ⟨e, hrun⟩ := herr hdevices
    refine ⟨fun h => absurd h.devices hdevices, fun _ => ⟨e, ?_⟩⟩
    simp only [hrun]
    rfl

end Persistence

end AcceleratorHealth
