import AcceleratorHealth.Frames

/-! What an accepted frame looks like on the wire. The decoder pins every byte of the
header but the four reserved ones, which the encoder zeroes and nothing reads. -/
namespace AcceleratorHealth
open Codec Wire Util

/-- The header bytes without a meaning of their own. -/
def reservedBytes (buffer : Bytes) : Bytes := (buffer.drop 10).take 4

/-- Each field of an accepted frame, as the decoder compared or read it. -/
structure Framed (buffer : Bytes) (frame : Frame) (consumed : Nat) : Prop where
  magic : buffer.take 4 = kMagic
  version : buffer.getD 4 0 = kProtocolVersion
  type : buffer.getD 5 0 = CodedEnum.code frame.type
  length : loadLe ((buffer.drop 6).take 4) = frame.payload.length
  size : frame.payload.length ≤ kMaxFramePayload
  consumed_eq : consumed = kHeaderSize + frame.payload.length + kCrcSize
  fits : consumed ≤ buffer.length
  payload : (buffer.drop kHeaderSize).take frame.payload.length = frame.payload
  checksum : loadLe ((buffer.drop (kHeaderSize + frame.payload.length)).take 4) =
    (crc32 (buffer.take (kHeaderSize + frame.payload.length))).toNat

theorem framed_of_decodeFrame {buffer : Bytes} {version : UInt8} {frame : Frame} {consumed : Nat}
    (h : decodeFrame buffer = .ok version frame consumed) :
    version = kProtocolVersion ∧ Framed buffer frame consumed := by
  unfold decodeFrame at h
  cases htype : enumFromByte (E := MessageType) (buffer.getD 5 0) with
  | none =>
    simp only [htype] at h
    split_ifs at h
  | some type =>
    simp only [htype] at h
    split_ifs at h with _ hmagic hversion hbig hshort hcrc
    cases h
    have hlength : ((buffer.drop kHeaderSize).take (loadLe ((buffer.drop 6).take 4))).length =
        loadLe ((buffer.drop 6).take 4) := by
      rw [List.length_take, List.length_drop]
      omega
    refine ⟨not_not.mp hversion, not_not.mp hmagic, not_not.mp hversion,
      (code_of_enumFromByte htype).symm, hlength.symm, ?_, ?_, Nat.le_of_not_lt hshort, ?_, ?_⟩
    · rw [hlength]
      exact Nat.le_of_not_lt hbig
    · rw [hlength]
    · rw [hlength]
    · rw [hlength]
      simpa using hcrc

theorem storeLe_of_length {n : Nat} {bs : Bytes} (h : bs.length = n) :
    storeLe n (loadLe bs) = bs :=
  h ▸ storeLe_loadLe bs

/-- Bytes that fill a number of their width are what is stored for it. -/
theorem storeLe_loadLe_mod {n m : Nat} (hm : m = 256 ^ n) {bs : Bytes} (h : bs.length = n) :
    storeLe n (loadLe bs % m) = bs := by
  have hlt := loadLe_lt bs
  rw [h, ← hm] at hlt
  rw [Nat.mod_eq_of_lt hlt, storeLe_of_length h]

theorem storeLe_uint16 {bs : Bytes} (h : bs.length = 2) :
    storeLe 2 (UInt16.ofNat (loadLe bs)).toNat = bs := by
  rw [UInt16.toNat_ofNat', storeLe_loadLe_mod (by decide) h]

theorem storeLe_uint32 {bs : Bytes} (h : bs.length = 4) :
    storeLe 4 (UInt32.ofNat (loadLe bs)).toNat = bs := by
  rw [UInt32.toNat_ofNat', storeLe_loadLe_mod (by decide) h]

theorem storeLe_uint64 {bs : Bytes} (h : bs.length = 8) :
    storeLe 8 (UInt64.ofNat (loadLe bs)).toNat = bs := by
  rw [UInt64.toNat_ofNat', storeLe_loadLe_mod (by decide) h]

/-- One byte of a list that reaches it. -/
private theorem take_one_drop {bs : Bytes} {n : Nat} (h : n < bs.length) :
    (bs.drop n).take 1 = [bs.getD n 0] := by
  rw [List.drop_eq_getElem_cons h, List.getD_eq_getElem _ _ h]
  rfl

section Framed
variable {buffer : Bytes} {frame : Frame} {consumed : Nat}

theorem Framed.reservedBytes_length (h : Framed buffer frame consumed) :
    (reservedBytes buffer).length = 4 := by
  have hfits := h.fits
  rw [h.consumed_eq] at hfits
  rw [reservedBytes, List.length_take, List.length_drop]
  simp only [kHeaderSize] at hfits
  omega

/-- The header and the payload, field after field. -/
theorem Framed.take_content (h : Framed buffer frame consumed) :
    buffer.take (kHeaderSize + frame.payload.length) =
      contentWith frame.type (reservedBytes buffer) frame.payload := by
  have hlong : kHeaderSize ≤ buffer.length := by
    have hfits := h.fits
    rw [h.consumed_eq] at hfits
    omega
  simp only [kHeaderSize] at hlong
  have hbytes : buffer.take 6 = kMagic ++ [kProtocolVersion, CodedEnum.code frame.type] := by
    rw [show (6 : Nat) = 4 + (1 + 1) from rfl, List.take_add, List.take_add, List.drop_drop,
      take_one_drop (by omega), take_one_drop (by omega), h.magic, h.version, h.type]
    rfl
  have hlength : (buffer.drop 6).take 4 = storeLe 4 frame.payload.length := by
    have hfour : ((buffer.drop 6).take 4).length = 4 := by
      rw [List.length_take, List.length_drop]
      omega
    rw [← h.length, storeLe_of_length hfour]
  have hheader : buffer.take kHeaderSize = kMagic ++ [kProtocolVersion, CodedEnum.code frame.type]
      ++ storeLe 4 frame.payload.length ++ reservedBytes buffer := by
    rw [show kHeaderSize = 6 + 4 + 4 from rfl, List.take_add, List.take_add, hbytes, hlength]
    rfl
  rw [List.take_add, hheader, h.payload]
  rfl

theorem Framed.take_consumed (h : Framed buffer frame consumed) :
    buffer.take consumed = wireFrame frame.type (reservedBytes buffer) frame.payload := by
  have hcrc : ((buffer.drop (kHeaderSize + frame.payload.length)).take kCrcSize).length =
      kCrcSize := by
    have hfits := h.fits
    rw [h.consumed_eq] at hfits
    rw [List.length_take, List.length_drop]
    omega
  have hword : storeLe 4 (crc32 (buffer.take (kHeaderSize + frame.payload.length))).toNat =
      (buffer.drop (kHeaderSize + frame.payload.length)).take kCrcSize := by
    rw [← h.checksum]
    exact storeLe_of_length hcrc
  rw [h.consumed_eq, List.take_add, ← hword, h.take_content]
  rfl

end Framed

/-- The buffers a frame is read from, and the frame. -/
theorem decodeFrame_eq_ok_iff {buffer : Bytes} {version : UInt8} {frame : Frame} {consumed : Nat} :
    decodeFrame buffer = .ok version frame consumed ↔
      version = kProtocolVersion ∧ frame.payload.length ≤ kMaxFramePayload ∧
      ∃ reserved rest, reserved.length = 4 ∧
        buffer = wireFrame frame.type reserved frame.payload ++ rest ∧
        consumed = (wireFrame frame.type reserved frame.payload).length := by
  constructor
  · intro h
    obtain ⟨hversion, hframed⟩ := framed_of_decodeFrame h
    refine ⟨hversion, hframed.size, reservedBytes buffer, buffer.drop consumed,
      hframed.reservedBytes_length, ?_, ?_⟩
    · rw [← hframed.take_consumed, List.take_append_drop]
    · rw [← hframed.take_consumed, List.length_take]
      exact (Nat.min_eq_left hframed.fits).symm
  · rintro ⟨rfl, hsize, reserved, rest, hreserved, rfl, rfl⟩
    exact decodeFrame_wireFrame hreserved hsize rest

theorem wireFrame_inj {type : MessageType} {reserved reserved' payload : Bytes}
    (hreserved : reserved.length = 4) (hreserved' : reserved'.length = 4) :
    wireFrame type reserved payload = wireFrame type reserved' payload ↔ reserved = reserved' := by
  refine ⟨fun h => ?_, fun h => h ▸ rfl⟩
  simp only [wireFrame, contentWith, List.append_assoc] at h
  have htail := List.append_cancel_left (List.append_cancel_left (List.append_cancel_left h))
  exact (List.append_inj htail (hreserved.trans hreserved'.symm)).1

/-- An accepted frame is what the encoder writes for it, up to the reserved bytes. -/
theorem decodeFrame_canonical {buffer : Bytes} {version : UInt8} {frame : Frame} {consumed : Nat}
    (h : decodeFrame buffer = .ok version frame consumed) :
    version = kProtocolVersion ∧ (reservedBytes buffer).length = 4 ∧
      buffer.take consumed = wireFrame frame.type (reservedBytes buffer) frame.payload ∧
      encodeFrame frame.type frame.payload =
        .ok (wireFrame frame.type [0, 0, 0, 0] frame.payload) ∧
      (encodeFrame frame.type frame.payload = .ok (buffer.take consumed) ↔
        reservedBytes buffer = [0, 0, 0, 0]) := by
  obtain ⟨hversion, hframed⟩ := framed_of_decodeFrame h
  have hencode : encodeFrame frame.type frame.payload =
      .ok (wireFrame frame.type [0, 0, 0, 0] frame.payload) := encodeFrame_eq_wireFrame hframed.size
  refine ⟨hversion, hframed.reservedBytes_length, hframed.take_consumed, hencode, ?_⟩
  rw [hencode, hframed.take_consumed, Except.ok.injEq,
    wireFrame_inj rfl hframed.reservedBytes_length]
  exact eq_comm

/-- A greeting with a bit set in its reserved bytes. -/
def markedHello : Bytes := wireFrame .hello [1, 0, 0, 0] []

theorem decodeFrame_canonical_hello :
    decodeFrame markedHello = .ok kProtocolVersion { type := .hello, payload := [] } 18 ∧
      markedHello.take 18 = wireFrame .hello (reservedBytes markedHello) [] :=
  have h : decodeFrame markedHello = .ok kProtocolVersion { type := .hello, payload := [] } 18 :=
    decodeFrame_eq_ok_iff.mpr
      ⟨rfl, Nat.zero_le _, [1, 0, 0, 0], [], rfl, (List.append_nil _).symm, rfl⟩
  ⟨h, (decodeFrame_canonical h).2.2.1⟩

theorem decodeFrame_not_canonical :
    ¬ ∀ buffer version frame consumed, decodeFrame buffer = .ok version frame consumed →
      encodeFrame frame.type frame.payload = .ok (buffer.take consumed) := by
  intro h
  have hmarked : decodeFrame markedHello =
      .ok kProtocolVersion { type := .hello, payload := [] } markedHello.length :=
    decodeFrame_eq_ok_iff.mpr
      ⟨rfl, Nat.zero_le _, [1, 0, 0, 0], [], rfl, (List.append_nil _).symm, rfl⟩
  have hencode : encodeFrame .hello [] = .ok (markedHello.take markedHello.length) :=
    h _ _ _ _ hmarked
  rw [encodeFrame_eq_wireFrame (Nat.zero_le _), List.take_length, Except.ok.injEq, markedHello,
    wireFrame_inj rfl rfl] at hencode
  exact absurd hencode (by decide)

end AcceleratorHealth
