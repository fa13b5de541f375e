import AcceleratorHealth.Frames
import AcceleratorHealth.Lib.Chunks

/-! Frames off a socket. The receive loop takes a header's worth of bytes, then as many
as the header announces, and hands the whole to the decoder; how the network cut the
stream makes no difference to what it delivers. -/
namespace AcceleratorHealth
open Codec Wire Util Chunks

/-- The bytes by which the cursor moves on. -/
def DecodeResult.consumed : DecodeResult → Nat
  | .ok _ _ consumed => consumed
  | .needMore | .malformed _ => 0

/-- What `recvFrame` reports: a frame, or why there is none. The error text is `none`
where the caller's string is left alone. -/
inductive Delivery where
  | frame (version : UInt8) (frame : Frame)
  | peerClosed (err : Option String)
  | refused (err : Option String)

/-- A failed call counts as a closed peer. -/
def Delivery.ofStop : Stop → Delivery
  | .closed => .peerClosed none
  | .failed => .peerClosed (some "recv failed")

def recvFrame (source : Source UInt8) : Delivery × Source UInt8 :=
  match gather kHeaderSize source with
  | (.error stop, source) => (.ofStop stop, source)
  | (.ok header, source) =>
    let len := loadLe ((header.drop 6).take 4)
    if kMaxFramePayload < len then (.refused (some "oversized frame"), source)
    else
      match gather (len + kCrcSize) source with
      | (.error stop, source) => (.ofStop stop, source)
      | (.ok body, source) =>
        match decodeFrame (header ++ body) with
        | .ok version frame _ => (.frame version frame, source)
        | .needMore => (.refused none, source)
        | .malformed err => (.refused (some err), source)

/-- That many calls in a row. -/
def recvFrames : Nat → Source UInt8 → List Delivery
  | 0, _ => []
  | n + 1, source =>
    let (delivery, source) := recvFrame source
    delivery :: recvFrames n source

/-- The bytes of several frames, one after another. -/
def encodeFrames (messages : List Frame) : Except Exn Bytes :=
  emitAll (messages.map fun m => encodeFrame m.type m.payload)

/-! ### The decoder on prefixes and extensions -/

theorem decodeFrame_of_short {buffer : Bytes} (h : buffer.length < kHeaderSize) :
    decodeFrame buffer = .needMore :=
  if_pos h

/-- Once a header is there, more bytes do not change what it says. -/
theorem header_append {buffer : Bytes} (h : kHeaderSize ≤ buffer.length) (more : Bytes) :
    (buffer ++ more).take 4 = buffer.take 4 ∧ (buffer ++ more).getD 4 0 = buffer.getD 4 0 ∧
      (buffer ++ more).getD 5 0 = buffer.getD 5 0 ∧
      ((buffer ++ more).drop 6).take 4 = (buffer.drop 6).take 4 := by
  unfold kHeaderSize at h
  refine ⟨List.take_append_of_le_length (by omega), ?_, ?_, ?_⟩
  · rw [List.getD_append _ _ _ _ (by omega)]
  · rw [List.getD_append _ _ _ _ (by omega)]
  · rw [List.drop_append_of_le_length (by omega), List.take_append_of_le_length]
    rw [List.length_drop]
    omega

/-- A verdict is final. -/
theorem decodeFrame_append {buffer : Bytes} (h : decodeFrame buffer ≠ .needMore)
    (more : Bytes) : decodeFrame (buffer ++ more) = decodeFrame buffer := by
  have hheader : kHeaderSize ≤ buffer.length :=
    Nat.le_of_not_lt fun hshort => h (decodeFrame_of_short hshort)
  obtain ⟨hmagic, hversion, htype, hlen⟩ := header_append hheader more
  have hlength : ¬(buffer ++ more).length < kHeaderSize := by
    rw [List.length_append]
    omega
  unfold decodeFrame at h ⊢
  rw [if_neg (Nat.not_lt.mpr hheader)] at h ⊢
  rw [if_neg hlength]
  simp only [hmagic, hversion, htype, hlen] at h ⊢
  by_cases hm : buffer.take 4 ≠ kMagic
  · simp only [if_pos hm]
  by_cases hv : buffer.getD 4 0 ≠ kProtocolVersion
  · simp only [if_neg hm, if_pos hv]
  simp only [if_neg hm, if_neg hv] at h ⊢
  cases henum : enumFromByte (E := MessageType) (buffer.getD 5 0) with
  | none => rfl
  | some type =>
    simp only [henum] at h ⊢
    generalize loadLe ((buffer.drop 6).take 4) = len at h ⊢
    by_cases hbig : kMaxFramePayload < len
    · simp only [if_pos hbig]
    simp only [if_neg hbig] at h ⊢
    by_cases hshort : buffer.length < kHeaderSize + len + kCrcSize
    · exact absurd (if_pos hshort) h
    -- the whole frame is in the buffer, payload and checksum included
    unfold kHeaderSize kCrcSize at hshort ⊢
    have hpayload : ((buffer ++ more).drop 14).take len = (buffer.drop 14).take len := by
      rw [List.drop_append_of_le_length (by omega), List.take_append_of_le_length]
      rw [List.length_drop]
      omega
    have hcrc : ((buffer ++ more).drop (14 + len)).take 4 = (buffer.drop (14 + len)).take 4 := by
      rw [List.drop_append_of_le_length (by omega), List.take_append_of_le_length]
      rw [List.length_drop]
      omega
    have hcontent : (buffer ++ more).take (14 + len) = buffer.take (14 + len) :=
      List.take_append_of_le_length (by omega)
    rw [if_neg hshort, if_neg (by rw [List.length_append]; omega), Nat.add_sub_cancel, hcrc,
      hcontent, hpayload]

/-- The front of a frame announces what is missing. -/
theorem decodeFrame_strict_prefix {type : MessageType} {payload f : Bytes} {n : Nat}
    (h : encodeFrame type payload = .ok f) (hn : n < f.length) :
    decodeFrame (f.take n) = .needMore := by
  by_contra hverdict
  have hwhole := decodeFrame_append hverdict (f.drop n)
  rw [List.take_append_drop, ← List.append_nil f, decodeFrame_encodeFrame h] at hwhole
  obtain ⟨-, hfits, -⟩ := decodeFrame_eq_ok hwhole.symm
  rw [List.append_nil, List.length_take] at hfits
  omega

/-! ### The receive loop -/

theorem encodeFrame_length {type : MessageType} {payload f : Bytes}
    (h : encodeFrame type payload = .ok f) :
    f.length = kHeaderSize + payload.length + kCrcSize := by
  obtain ⟨-, rfl⟩ := encodeFrame_eq_ok h
  rw [List.length_append, frameContent_length, storeLe_length]
  rfl

/-- One call takes one frame off the front of the stream and leaves the rest. -/
theorem recvFrame_cut {m : Frame} {f rest : Bytes} (h : encodeFrame m.type m.payload = .ok f)
    (cut : Cut (f ++ rest)) :
    ∃ left : Cut rest, recvFrame cut.source = (.frame kProtocolVersion m, left.source) := by
  have hlength := encodeFrame_length h
  have hdecode := decodeFrame_encodeFrame h []
  rw [List.append_nil] at hdecode
  obtain ⟨hlen, -, -⟩ := decodeFrame_eq_ok hdecode
  have hsize : m.payload.length ≤ kMaxFramePayload := (encodeFrame_eq_ok h).1
  obtain ⟨afterHeader, hheader⟩ := gather_cut kHeaderSize cut (by
    rw [List.length_append]
    omega)
  have hfield : loadLe ((((f ++ rest).take kHeaderSize).drop 6).take 4) = m.payload.length := by
    have hwithin : (((f ++ rest).take kHeaderSize).drop 6).take 4 = (f.drop 6).take 4 := by
      rw [List.take_append_of_le_length (by omega), List.drop_take, List.take_take]
      rfl
    rw [hwithin]
    omega
  have hbody := gather_cut (m.payload.length + kCrcSize) afterHeader (by
    rw [List.length_drop, List.length_append]
    omega)
  obtain ⟨left, hleft⟩ := hbody
  have htotal : kHeaderSize + (m.payload.length + kCrcSize) = f.length := by omega
  have hframe : (f ++ rest).take kHeaderSize ++
      ((f ++ rest).drop kHeaderSize).take (m.payload.length + kCrcSize) = f := by
    rw [← List.take_add, htotal, List.take_left]
  refine ⟨left.copy (by rw [List.drop_drop, htotal, List.drop_left]), ?_⟩
  unfold recvFrame
  simp only [hheader, hfield, if_neg (Nat.not_lt.mpr hsize), hleft, hframe, hdecode]
  rfl

/-- At the end of the stream every call reports the peer closed. -/
theorem recvFrames_end (cut : Cut ([] : Bytes)) (n : Nat) :
    recvFrames n cut.source = List.replicate n (.peerClosed none) := by
  have hclosed : recvFrame cut.source = (.peerClosed none, cut.source) := by
    unfold recvFrame
    rw [gather_end cut (by decide)]
    rfl
  induction n with
  | zero => rfl
  | succ n ih => simp only [recvFrames, hclosed, ih, List.replicate_succ]

theorem recvFrames_cut {messages : List Frame} {sent : Bytes}
    (h : encodeFrames messages = .ok sent) (cut : Cut sent) (later : Nat) :
    recvFrames (messages.length + later) cut.source =
      messages.map (.frame kProtocolVersion) ++ List.replicate later (.peerClosed none) := by
  induction messages generalizing sent with
  | nil =>
    cases h
    rw [List.length_nil, Nat.zero_add, recvFrames_end cut]
    rfl
  | cons m rest ih =>
    obtain ⟨f, sent', hf, hrest, rfl⟩ := emitAll_cons_ok.mp h
    obtain ⟨left, hm⟩ := recvFrame_cut hf cut
    rw [List.length_cons, Nat.add_right_comm, recvFrames, hm]
    simp only [ih hrest left, List.map_cons, List.cons_append]

theorem encodeFrames_of_fits {messages : List Frame}
    (h : ∀ m ∈ messages, m.payload.length ≤ kMaxFramePayload) :
    ∃ sent, encodeFrames messages = .ok sent := by
  induction messages with
  | nil => exact ⟨[], rfl⟩
  | cons m rest ih =>
    rw [List.forall_mem_cons] at h
    obtain ⟨sent, hsent⟩ := ih h.2
    have hm : encodeFrame m.type m.payload = .ok (frameContent m.type m.payload ++
        storeLe 4 (crc32 (frameContent m.type m.payload)).toNat) := if_neg (Nat.not_lt.mpr h.1)
    exact ⟨_, emitAll_cons_ok.mpr ⟨_, sent, hm, hsent, rfl⟩⟩

/-! ### The framing law -/

/-- What framing promises to parties that exchange `messages`: any cut of the bytes sent
arrives as these frames and then as a closed peer, and a buffer's verdict is found as
soon as the buffer determines it. -/
structure Framing (messages : List Frame) : Prop where
  delivers : ∃ sent, encodeFrames messages = .ok sent ∧ ∀ (cut : Cut sent) (later : Nat),
    recvFrames (messages.length + later) cut.source =
      messages.map (.frame kProtocolVersion) ++ List.replicate later (.peerClosed none)
  roundTrip : ∀ type payload f rest, encodeFrame type payload = .ok f →
    decodeFrame (f ++ rest) = .ok kProtocolVersion { type, payload } f.length
  incomplete : ∀ type payload f before, encodeFrame type payload = .ok f → before <+: f →
    before ≠ f → decodeFrame before = .needMore ∧ (decodeFrame before).consumed = 0
  final : ∀ buffer more, decodeFrame buffer ≠ .needMore →
    decodeFrame (buffer ++ more) = decodeFrame buffer

/-- Framing delivers exactly what was sent. -/
theorem framing_delivers (messages : List Frame)
    (hsize : ∀ m ∈ messages, m.payload.length ≤ kMaxFramePayload) : Framing messages where
  delivers := by
    obtain ⟨sent, hsent⟩ := encodeFrames_of_fits hsize
    exact ⟨sent, hsent, recvFrames_cut hsent⟩
  roundTrip _ _ _ rest h := decodeFrame_encodeFrame h rest
  incomplete type payload f before h hstart hne := by
    have hneed : decodeFrame before = .needMore := by
      obtain ⟨rest, rfl⟩ := hstart
      have hrest : rest ≠ [] := fun hnil => hne (by rw [hnil, List.append_nil])
      have hshort := decodeFrame_strict_prefix (n := before.length) h (by
        rw [List.length_append]
        have := List.length_pos_of_ne_nil hrest
        omega)
      rwa [List.take_left] at hshort
    exact ⟨hneed, by rw [hneed]; rfl⟩
  final _ more h := decodeFrame_append h more

theorem framing_delivers_two :
    Framing [{ type := .hello }, { type := .ack, payload := [1, 2, 3] }] :=
  framing_delivers _ (by decide)

end AcceleratorHealth
