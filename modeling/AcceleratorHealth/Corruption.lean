import AcceleratorHealth.Frames
import AcceleratorHealth.RoundTrip
import AcceleratorHealth.Lib.Crc

/-! What the checksum is for: an image or a frame that was cut, extended or changed
within four consecutive bytes is never taken for a good one. -/
namespace AcceleratorHealth
open Codec Wire Util

namespace Util

/-- The generator of the CRC-32, reflected. -/
def crcPoly : BitVec 32 := 0xEDB88320

theorem crcTable_toBitVec (i : UInt32) :
    (crcTable i).toBitVec = Crc.shifts crcPoly 8 i.toBitVec := by
  have hstep : ∀ c : UInt32,
      (if c &&& 1 ≠ 0 then (0xEDB88320 : UInt32) ^^^ (c >>> 1) else c >>> 1).toBitVec =
        Crc.shift crcPoly c.toBitVec := by
    intro c
    have hlow : (c &&& 1 ≠ 0) ↔ c.toBitVec.getLsbD 0 = true := by
      rw [ne_eq, ← UInt32.toBitVec_inj, UInt32.toBitVec_and]
      change ¬c.toBitVec &&& 1#32 = 0#32 ↔ _
      rw [BitVec.and_one_eq_setWidth_ofBool_getLsbD]
      cases c.toBitVec.getLsbD 0 <;> decide
    unfold Crc.shift
    by_cases h : c &&& 1 ≠ 0
    · rw [if_pos h, if_pos (hlow.mp h)]
      rfl
    · rw [if_neg h, if_neg (fun hc => h (hlow.mpr hc))]
      rfl
  have hfold : ∀ (l : List Nat) (c : UInt32),
      (l.foldl (fun (c : UInt32) _ => if c &&& 1 ≠ 0 then (0xEDB88320 : UInt32) ^^^ (c >>> 1)
        else c >>> 1) c).toBitVec = Crc.shifts crcPoly l.length c.toBitVec := by
    intro l
    induction l with
    | nil => exact fun _ => rfl
    | cons x rest ih =>
      intro c
      rw [List.foldl_cons, ih, hstep]
      rfl
  exact hfold (List.range 8) i

/-- The table-driven step is eight shifts of the register. -/
theorem crcStep_toBitVec (crc : UInt32) (b : UInt8) :
    (crcStep crc b).toBitVec = Crc.update crcPoly crc.toBitVec b := by
  have hlow : ∀ i, (0xFF#32).getLsbD i = decide (i < 8 ∧ i < 32) := by
    intro i
    by_cases hi : i < 32
    · interval_cases i <;> rfl
    · simp [BitVec.getLsbD_of_ge _ i (Nat.le_of_not_lt hi), hi]
  have hbyte : b.toBitVec.setWidth 32 >>> 8 = 0#32 := by
    apply BitVec.eq_of_getLsbD_eq
    intro i hi
    rw [BitVec.getLsbD_ushiftRight, BitVec.getLsbD_setWidth,
      BitVec.getLsbD_of_ge b.toBitVec (8 + i) (by omega)]
    simp
  rw [Crc.update, Crc.shifts_eq_table hlow, BitVec.ushiftRight_xor_distrib, hbyte, BitVec.xor_zero,
    crcStep, UInt32.toBitVec_xor, crcTable_toBitVec]
  rfl

theorem foldl_crcStep_toBitVec (data : Bytes) (crc : UInt32) :
    (data.foldl crcStep crc).toBitVec = Crc.run crcPoly crc.toBitVec data := by
  induction data generalizing crc with
  | nil => rfl
  | cons b rest ih => rw [List.foldl_cons, ih, crcStep_toBitVec, Crc.run_cons]

theorem crc32_toBitVec (data : Bytes) :
    (crc32 data).toBitVec = Crc.run crcPoly (BitVec.allOnes 32) data ^^^ BitVec.allOnes 32 := by
  rw [crc32, UInt32.toBitVec_xor, foldl_crcStep_toBitVec]
  rfl

/-- Bytes as a register and as a number. -/
theorem word_eq_loadLe (bs : Bytes) : (Crc.word bs : BitVec 32) = BitVec.ofNat 32 (loadLe bs) := by
  apply BitVec.eq_of_getLsbD_eq
  intro i hi
  rw [BitVec.getLsbD_ofNat, decide_eq_true hi, Bool.true_and]
  induction bs generalizing i with
  | nil => simp [Crc.word, loadLe]
  | cons b rest ih =>
    have hb : b.toNat < 2 ^ 8 := b.toNat_lt
    rw [loadLe, Nat.add_comm, show (256 : Nat) = 2 ^ 8 from rfl, Nat.testBit_two_pow_mul_add _ hb,
      Crc.word, BitVec.getLsbD_xor, BitVec.getLsbD_setWidth, BitVec.getLsbD_shiftLeft]
    by_cases hlow : i < 8
    · simp [hlow, hi, BitVec.getLsbD]
    · simp [hlow, hi, BitVec.getLsbD_of_ge b.toBitVec i (by omega), ih (i - 8) (by omega)]

/-- The four bytes after the first `n` are the checksum of these. -/
def Sealed (n : Nat) (data : Bytes) : Prop :=
  loadLe ((data.drop n).take 4) = (crc32 (data.take n)).toNat

/-- A sealed message and its checksum leave the register in one fixed state. -/
theorem run_of_sealed {n : Nat} {data : Bytes} (hlength : data.length = n + 4)
    (h : Sealed n data) :
    Crc.run crcPoly (BitVec.allOnes 32) data = Crc.shifts crcPoly 32 (BitVec.allOnes 32) := by
  have htail : (data.drop n).length = 4 := by rw [List.length_drop]; omega
  have hword : (Crc.word (data.drop n) : BitVec 32) =
      Crc.run crcPoly (BitVec.allOnes 32) (data.take n) ^^^ BitVec.allOnes 32 := by
    rw [Sealed, List.take_of_length_le (by omega)] at h
    rw [word_eq_loadLe, h, ← crc32_toBitVec]
    exact BitVec.ofNat_toNat ..
  calc Crc.run crcPoly (BitVec.allOnes 32) data
      = Crc.run crcPoly (Crc.run crcPoly (BitVec.allOnes 32) (data.take n)) (data.drop n) := by
        rw [← Crc.run_append, List.take_append_drop]
    _ = Crc.shifts crcPoly 32 (BitVec.allOnes 32) := by
        rw [Crc.run_residue (by omega) hword, htail]

end Util

/-! ### Changes within a window -/

/-- Two strings of the same length that differ, and only within `n` consecutive bytes. -/
structure DiffersWithin (n at_ : Nat) (b data : Bytes) : Prop where
  length : data.length = b.length
  ne : data ≠ b
  before : data.take at_ = b.take at_
  after : data.drop (at_ + n) = b.drop (at_ + n)

/-- A change within four bytes breaks the seal, wherever it lies. -/
theorem not_sealed_of_differsWithin {n at_ : Nat} {b data : Bytes} (hlength : b.length = n + 4)
    (hb : Sealed n b) (h : DiffersWithin 4 at_ b data) : ¬Sealed n data := by
  intro hdata
  have hsplit : ∀ x : Bytes, x = x.take at_ ++ (x.drop at_).take 4 ++ x.drop (at_ + 4) := by
    intro x
    rw [List.append_assoc, ← List.drop_drop, List.take_append_drop, List.take_append_drop]
  have hmid : ((b.drop at_).take 4).length = ((data.drop at_).take 4).length := by
    simp only [List.length_take, List.length_drop, h.length]
  have hrun : Crc.run crcPoly (BitVec.allOnes 32) b = Crc.run crcPoly (BitVec.allOnes 32) data := by
    rw [run_of_sealed hlength hb, run_of_sealed (h.length.trans hlength) hdata]
  rw [hsplit b, hsplit data, h.before, h.after] at hrun
  have hsame := Crc.run_window rfl hmid (by simp only [List.length_take]; omega) hrun
  apply h.ne
  rw [hsplit b, hsplit data, h.before, h.after, hsame]

namespace Persistence

/-- What an image has passed: its length field fits its length, and it is sealed. -/
theorem openImage_eq_ok {data body : Bytes} (h : openImage data = .ok body) :
    data.length = 12 + loadLe ((data.drop 8).take 4) + 4 ∧
      Sealed (12 + loadLe ((data.drop 8).take 4)) data := by
  unfold openImage at h
  simp only at h
  split_ifs at h with _ _ _ hlength hcrc
  exact ⟨by simpa using hlength, by simpa [Sealed] using hcrc⟩

theorem sealImage_sealed {body : Bytes} (h : body.length < 2 ^ 32) :
    (sealImage body).length = 12 + body.length + 4 ∧
      Sealed (12 + body.length) (sealImage body) := by
  obtain ⟨hlength, hsealed⟩ := openImage_eq_ok ((openImage_sealImage body).1 h)
  have hbytes : (sealImage body).length = 12 + body.length + 4 := by
    rw [sealImage, List.length_append, storeLe_length, frameImage_length]
  rw [show loadLe (((sealImage body).drop 8).take 4) = body.length by omega] at hsealed
  exact ⟨hbytes, hsealed⟩

/-- Cut short, extended, or changed within four consecutive bytes. -/
inductive Corrupts (b data : Bytes) : Prop
  | truncated (isPrefix : data <+: b) (proper : data ≠ b)
  | extended (isPrefix : b <+: data) (proper : data ≠ b)
  | changed {at_ : Nat} (within : DiffersWithin 4 at_ b data)

/-- Images with the same first twelve bytes have the same length. -/
theorem length_eq_of_openImage {b data body body' : Bytes} (hb : openImage b = .ok body)
    (hdata : openImage data = .ok body') (h : b.take 12 = data.take 12) :
    b.length = data.length := by
  have hfield : ∀ x : Bytes, (x.drop 8).take 4 = (x.take 12).drop 8 := by
    intro x
    rw [List.drop_take]
  rw [(openImage_eq_ok hb).1, (openImage_eq_ok hdata).1, hfield, hfield, h]

theorem openImage_of_corrupts {body data : Bytes} (hsize : body.length < 2 ^ 32)
    (h : Corrupts (sealImage body) data) : ∃ e, openImage data = .error e := by
  cases hopen : openImage data with
  | error e => exact ⟨e, rfl⟩
  | ok body' =>
    exfalso
    have hb := (openImage_sealImage body).1 hsize
    obtain ⟨hlength, hsealed⟩ := openImage_eq_ok hopen
    obtain ⟨hlength', hsealed'⟩ := sealImage_sealed hsize
    cases h with
    | truncated hstart hne =>
      have hhead : (sealImage body).take 12 = data.take 12 := by
        obtain ⟨rest, hrest⟩ := hstart
        rw [← hrest, List.take_append_of_le_length (by omega)]
      exact hne (hstart.eq_of_length (length_eq_of_openImage hb hopen hhead).symm)
    | extended hstart hne =>
      have hhead : (sealImage body).take 12 = data.take 12 := by
        obtain ⟨rest, rfl⟩ := hstart
        rw [List.take_append_of_le_length (by omega)]
      exact hne (hstart.eq_of_length (length_eq_of_openImage hb hopen hhead)).symm
    | changed hwithin =>
      have hsame : 12 + loadLe ((data.drop 8).take 4) = 12 + body.length := by
        have := hwithin.length
        omega
      rw [hsame] at hsealed
      exact not_sealed_of_differsWithin hlength' hsealed' hwithin hsealed

end Persistence

/-! ### Frames -/

/-- A window of four bytes away from the length field, bytes 6 to 9. -/
def SparesLength (at_ : Nat) : Prop := at_ + 4 ≤ 6 ∨ 10 ≤ at_

theorem lengthField_eq {at_ : Nat} {f data : Bytes} (h : DiffersWithin 4 at_ f data)
    (hspares : SparesLength at_) : (data.drop 6).take 4 = (f.drop 6).take 4 := by
  rcases hspares with hbefore | hafter
  · have hfield : ∀ x : Bytes, x.drop 6 = (x.drop (at_ + 4)).drop (6 - (at_ + 4)) := by
      intro x
      rw [List.drop_drop, Nat.add_sub_of_le hbefore]
    rw [hfield, hfield f, h.after]
  · have hfield : ∀ x : Bytes, (x.drop 6).take 4 = ((x.take at_).take 10).drop 6 := by
      intro x
      rw [List.take_take, Nat.min_eq_left hafter, List.drop_take]
    rw [hfield, hfield f, h.before]

theorem encodeFrame_sealed {type : MessageType} {payload f : Bytes}
    (h : encodeFrame type payload = .ok f) :
    f.length = kHeaderSize + loadLe ((f.drop 6).take 4) + 4 ∧
      Sealed (kHeaderSize + loadLe ((f.drop 6).take 4)) f := by
  have hdecode := decodeFrame_encodeFrame h []
  rw [List.append_nil] at hdecode
  obtain ⟨hconsumed, -, hsealed⟩ := decodeFrame_eq_ok hdecode
  rw [hconsumed] at hsealed
  exact ⟨hconsumed, hsealed⟩

theorem decodeFrame_of_differsWithin {type : MessageType} {payload f data : Bytes} {at_ : Nat}
    (hf : encodeFrame type payload = .ok f) (hspares : SparesLength at_)
    (h : DiffersWithin 4 at_ f data) (version : UInt8) (frame : Frame) (consumed : Nat) :
    decodeFrame data ≠ .ok version frame consumed := by
  intro hdecode
  obtain ⟨hlength, hsealed⟩ := encodeFrame_sealed hf
  obtain ⟨hconsumed, -, hdata⟩ := decodeFrame_eq_ok hdecode
  rw [hconsumed, lengthField_eq h hspares] at hdata
  exact not_sealed_of_differsWithin hlength hsealed h hdata

/-! ### Both formats -/

/-- Corruption is caught. An image whose body fits the length field is refused by the
decoder when it is cut short, extended, or changed within four consecutive bytes; a frame
is not accepted when it is changed within four consecutive bytes outside its length. -/
theorem corruption_caught :
    (∀ (s : HealthStore) (body : Bytes), Persistence.encodeBody s = .ok body →
      body.length < 2 ^ 32 → ∃ b, Persistence.encodeStateInternal s = .ok b ∧
        ∀ data, Persistence.Corrupts b data → ∀ out,
          ∃ e, (Persistence.decodeStateInternal data out).result = .error e) ∧
    (∀ (type : MessageType) (payload f : Bytes), encodeFrame type payload = .ok f →
      ∀ (at_ : Nat) (data : Bytes), SparesLength at_ → DiffersWithin 4 at_ f data →
        ∀ version frame consumed, decodeFrame data ≠ .ok version frame consumed) := by
  constructor
  · intro s body hbody hsize
    refine ⟨Persistence.sealImage body, by simp only [Persistence.encodeStateInternal, hbody], ?_⟩
    intro data hdata out
    obtain ⟨e, he⟩ := Persistence.openImage_of_corrupts hsize hdata
    refine ⟨e, ?_⟩
    unfold Persistence.decodeStateInternal
    rw [he]
    rfl
  · intro type payload f hf at_ data hspares h
    exact decodeFrame_of_differsWithin hf hspares h

/-- An empty store's image without its last byte, and an ACK frame with its last byte
inverted. -/
theorem corruption_caught_at_the_end :
    (∃ b, Persistence.encodeStateInternal (HealthStore.init {} 0) = .ok b ∧
      ∃ e, (Persistence.decodeStateInternal b.dropLast (HealthStore.init {} 0)).result =
        .error e) ∧
    ∃ f, encodeFrame .ack [9] = .ok f ∧
      ∀ version frame consumed,
        decodeFrame (f.set 18 (f.getD 18 0 ^^^ 0xFF)) ≠ .ok version frame consumed := by
  obtain ⟨himages, hframes⟩ := corruption_caught
  constructor
  · obtain ⟨body, hbody⟩ := (Persistence.sized_encodeBody (HealthStore.init {} 0)).ok_iff.mpr
      (by decide)
    have hsize : body.length < 2 ^ 32 := by
      rw [(Persistence.sized_encodeBody _).length_eq hbody]
      decide
    obtain ⟨b, hb, hcaught⟩ := himages _ body hbody hsize
    refine ⟨b, hb, hcaught _ (.truncated (List.dropLast_prefix b) fun h => ?_) _⟩
    have hlength := congrArg List.length h
    unfold Persistence.encodeStateInternal at hb
    rw [hbody] at hb
    cases hb
    rw [List.length_dropLast, (Persistence.sealImage_sealed hsize).1] at hlength
    omega
  · have hsent : ∃ f, encodeFrame .ack [9] = .ok f ∧ f.length = 19 ∧
        f.set 18 (f.getD 18 0 ^^^ 0xFF) ≠ f := by
      refine ⟨_, rfl, ?_, ?_⟩ <;> decide +kernel
    obtain ⟨f, hf, hlength, hne⟩ := hsent
    refine ⟨f, hf, hframes _ _ f hf 15 _ (Or.inr (by decide)) ⟨?_, hne, ?_, ?_⟩⟩
    · rw [List.length_set]
    · rw [List.take_set_of_le (by decide)]
    · rw [List.drop_eq_nil_of_le, List.drop_eq_nil_of_le] <;> simp [hlength]

end AcceleratorHealth
