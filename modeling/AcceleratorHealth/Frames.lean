import AcceleratorHealth.Messages

/-! Protocol frames as bytes: a fixed header with the payload's length, the payload and
a checksum over both. A buffer may hold less than a frame, or more. -/
namespace AcceleratorHealth
open Codec Wire Util

/-- "AHF1" -/
def kMagic : Bytes := [0x41, 0x48, 0x46, 0x31]

/-- Magic, version, type, length, and four reserved bytes. -/
def kHeaderSize : Nat := 14

def kCrcSize : Nat := 4

/-- Everything the checksum covers. -/
def frameContent (type : MessageType) (payload : Bytes) : Bytes :=
  kMagic ++ [kProtocolVersion, CodedEnum.code type] ++ storeLe 4 payload.length ++ [0, 0, 0, 0]
    ++ payload

def encodeFrame (type : MessageType) (payload : Bytes) : Except Exn Bytes :=
  if kMaxFramePayload < payload.length then
    .error (.runtimeError "protocol frame payload too large")
  else
    .ok (frameContent type payload ++ storeLe 4 (crc32 (frameContent type payload)).toNat)

inductive DecodeResult where
  | ok (version : UInt8) (frame : Frame) (consumed : Nat)
  | needMore
  | malformed (err : String)
  deriving DecidableEq

/-- One frame off the front of a buffer; nothing is consumed otherwise. -/
def decodeFrame (buffer : Bytes) : DecodeResult :=
  if buffer.length < kHeaderSize then .needMore
  else if buffer.take 4 ≠ kMagic then .malformed "bad magic"
  else
    let version := buffer.getD 4 0
    if version ≠ kProtocolVersion then .malformed "unsupported protocol version"
    else match enumFromByte (buffer.getD 5 0) with
    | none => .malformed "invalid message type"
    | some type =>
      let len := loadLe ((buffer.drop 6).take 4)
      if kMaxFramePayload < len then .malformed "oversized frame"
      else
        let total := kHeaderSize + len + kCrcSize
        if buffer.length < total then .needMore
        else if loadLe ((buffer.drop (total - kCrcSize)).take 4) ≠
            (crc32 (buffer.take (total - kCrcSize))).toNat then .malformed "crc mismatch"
        else .ok version { type, payload := (buffer.drop kHeaderSize).take len } total

theorem frameContent_length (type : MessageType) (payload : Bytes) :
    (frameContent type payload).length = kHeaderSize + payload.length := by
  simp only [frameContent, List.length_append, storeLe_length]
  rfl

theorem encodeFrame_eq_ok {type : MessageType} {payload f : Bytes}
    (h : encodeFrame type payload = .ok f) :
    payload.length ≤ kMaxFramePayload ∧
      f = frameContent type payload ++ storeLe 4 (crc32 (frameContent type payload)).toNat := by
  unfold encodeFrame at h
  split_ifs at h with hbig
  cases h
  exact ⟨Nat.le_of_not_lt hbig, rfl⟩

/-- What a decoded frame has passed: the buffer holds it whole, with its own checksum. -/
theorem decodeFrame_eq_ok {buffer : Bytes} {version : UInt8} {frame : Frame} {consumed : Nat}
    (h : decodeFrame buffer = .ok version frame consumed) :
    consumed = kHeaderSize + loadLe ((buffer.drop 6).take 4) + kCrcSize ∧
      consumed ≤ buffer.length ∧
      loadLe ((buffer.drop (consumed - kCrcSize)).take 4) =
        (crc32 (buffer.take (consumed - kCrcSize))).toNat := by
  unfold decodeFrame at h
  cases htype : enumFromByte (E := MessageType) (buffer.getD 5 0) with
  | none =>
    simp only [htype] at h
    split_ifs at h
  | some type =>
    simp only [htype] at h
    split_ifs at h with _ _ _ _ hshort hcrc
    cases h
    exact ⟨rfl, Nat.le_of_not_lt hshort, by simpa using hcrc⟩

/-- The checks of the decoder, passed one by one. -/
theorem decodeFrame_of_fields {buffer payload : Bytes} {type : MessageType}
    (hmagic : buffer.take 4 = kMagic) (hversion : buffer.getD 4 0 = kProtocolVersion)
    (htype : buffer.getD 5 0 = CodedEnum.code type)
    (hlen : loadLe ((buffer.drop 6).take 4) = payload.length)
    (hsize : payload.length ≤ kMaxFramePayload)
    (hfits : kHeaderSize + payload.length + kCrcSize ≤ buffer.length)
    (hcrc : loadLe ((buffer.drop (kHeaderSize + payload.length)).take 4) =
      (crc32 (buffer.take (kHeaderSize + payload.length))).toNat)
    (hpayload : (buffer.drop kHeaderSize).take payload.length = payload) :
    decodeFrame buffer =
      .ok kProtocolVersion { type, payload } (kHeaderSize + payload.length + kCrcSize) := by
  unfold decodeFrame
  rw [if_neg (by omega), if_neg (by rw [hmagic]; simp)]
  simp only [hversion, htype, enumFromByte_code, hlen, Nat.add_sub_cancel, hcrc, hpayload]
  rw [if_neg (by simp), if_neg (Nat.not_lt.mpr hsize), if_neg (Nat.not_lt.mpr hfits),
    if_neg (by simp)]

/-- The checksummed part of a frame, with anything in the reserved bytes. -/
def contentWith (type : MessageType) (reserved payload : Bytes) : Bytes :=
  kMagic ++ [kProtocolVersion, CodedEnum.code type] ++ storeLe 4 payload.length ++ reserved
    ++ payload

/-- A frame as it lies on the wire, with anything in the reserved bytes. -/
def wireFrame (type : MessageType) (reserved payload : Bytes) : Bytes :=
  contentWith type reserved payload ++ storeLe 4 (crc32 (contentWith type reserved payload)).toNat

section wireFrame
variable {type : MessageType} {reserved payload : Bytes}

theorem contentWith_length (hreserved : reserved.length = 4) :
    (contentWith type reserved payload).length = kHeaderSize + payload.length := by
  simp only [contentWith, List.length_append, storeLe_length, hreserved]
  rfl

theorem wireFrame_length (hreserved : reserved.length = 4) :
    (wireFrame type reserved payload).length = kHeaderSize + payload.length + kCrcSize := by
  rw [wireFrame, List.length_append, contentWith_length hreserved, storeLe_length]
  rfl

/-- The encoder zeroes the reserved bytes. -/
theorem encodeFrame_eq_wireFrame (hsize : payload.length ≤ kMaxFramePayload) :
    encodeFrame type payload = .ok (wireFrame type [0, 0, 0, 0] payload) :=
  if_neg (Nat.not_lt.mpr hsize)

/-- The decoder does not look at the reserved bytes. -/
theorem decodeFrame_wireFrame (hreserved : reserved.length = 4)
    (hsize : payload.length ≤ kMaxFramePayload) (rest : Bytes) :
    decodeFrame (wireFrame type reserved payload ++ rest) =
      .ok kProtocolVersion { type, payload } (wireFrame type reserved payload).length := by
  have hcontent : (contentWith type reserved payload).length = kHeaderSize + payload.length :=
    contentWith_length hreserved
  have hlength : (wireFrame type reserved payload).length =
      kHeaderSize + payload.length + kCrcSize := wireFrame_length hreserved
  -- the fields in order, each after what precedes it
  have hbytes : wireFrame type reserved payload ++ rest =
      kMagic ++ ([kProtocolVersion, CodedEnum.code type] ++ (storeLe 4 payload.length ++
        (reserved ++ (payload ++
          (storeLe 4 (crc32 (contentWith type reserved payload)).toNat ++ rest))))) := by
    simp only [wireFrame, contentWith, List.append_assoc]
  rw [hlength]
  refine decodeFrame_of_fields ?_ ?_ ?_ ?_ hsize ?_ ?_ ?_
  · rw [hbytes]
    exact List.take_left' rfl
  · rw [hbytes]
    rfl
  · rw [hbytes]
    rfl
  · rw [hbytes, ← List.append_assoc, List.drop_left' (by rfl), List.take_left' (storeLe_length ..)]
    exact loadLe_storeLe _ _ (Nat.lt_of_le_of_lt hsize (by decide))
  · rw [List.length_append, hlength]
    exact Nat.le_add_right _ _
  · rw [wireFrame, List.append_assoc, List.drop_left' hcontent, List.take_left' hcontent,
      List.take_left' (storeLe_length ..)]
    exact loadLe_storeLe _ _ (UInt32.toNat_lt _)
  · rw [hbytes, ← List.append_assoc, ← List.append_assoc, ← List.append_assoc,
      List.drop_left' (by simp only [List.length_append, storeLe_length, hreserved]; rfl),
      List.take_left' rfl]

end wireFrame

/-- A frame comes back from the front of any buffer that starts with it. -/
theorem decodeFrame_encodeFrame {type : MessageType} {payload f : Bytes}
    (h : encodeFrame type payload = .ok f) (rest : Bytes) :
    decodeFrame (f ++ rest) = .ok kProtocolVersion { type, payload } f.length := by
  obtain ⟨hsize, rfl⟩ := encodeFrame_eq_ok h
  have hzero : ([0, 0, 0, 0] : Bytes).length = 4 := rfl
  exact decodeFrame_wireFrame hzero hsize rest

end AcceleratorHealth
