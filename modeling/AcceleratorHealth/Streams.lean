import AcceleratorHealth.Receiving
import AcceleratorHealth.FrameLayout
import AcceleratorHealth.Lib.Assembly

/-! Any stream of bytes, well formed or not, as the receive loop reads it: which frames
come out of it and what ends the reading depend on the bytes alone. -/
namespace AcceleratorHealth
open Codec Wire Util Chunks Assembly

/-- The decoder's word on a frame that is there whole. -/
def DecodeResult.verdict : DecodeResult → Verdict Frame (Option String)
  | .ok _ frame _ => .message frame
  | .needMore => .refused none
  | .malformed err => .refused (some err)

/-- What the receive loop makes of the bytes it has of one frame. -/
def judgeFrame (got : Bytes) : Verdict Frame (Option String) :=
  if got.length < kHeaderSize then .more (kHeaderSize - got.length)
  else
    let len := loadLe ((got.drop 6).take 4)
    if kMaxFramePayload < len then .refused (some "oversized frame")
    else
      let rest := kHeaderSize + len + kCrcSize
      if got.length < rest then .more (rest - got.length) else (decodeFrame got).verdict

theorem judgeFrame_of_short {got : Bytes} (h : got.length < kHeaderSize) :
    judgeFrame got = .more (kHeaderSize - got.length) :=
  if_pos h

/-- With the header in, the length field says how much is missing. -/
theorem judgeFrame_of_header {got : Bytes} {len : Nat} (hheader : kHeaderSize ≤ got.length)
    (hlen : loadLe ((got.drop 6).take 4) = len) (hsize : len ≤ kMaxFramePayload)
    (hshort : got.length < kHeaderSize + len + kCrcSize) :
    judgeFrame got = .more (kHeaderSize + len + kCrcSize - got.length) := by
  unfold judgeFrame
  simp only [hlen]
  rw [if_neg (by omega), if_neg (by omega), if_pos hshort]

/-- The two ways to be unfinished. -/
theorem judgeFrame_eq_more {got : Bytes} {n : Nat} (h : judgeFrame got = .more n) :
    got.length < kHeaderSize ∧ n = kHeaderSize - got.length ∨
      kHeaderSize ≤ got.length ∧ loadLe ((got.drop 6).take 4) ≤ kMaxFramePayload ∧
        got.length < kHeaderSize + loadLe ((got.drop 6).take 4) + kCrcSize ∧
        n = kHeaderSize + loadLe ((got.drop 6).take 4) + kCrcSize - got.length := by
  unfold judgeFrame at h
  by_cases hshort : got.length < kHeaderSize
  · rw [if_pos hshort] at h
    cases h
    exact Or.inl ⟨hshort, rfl⟩
  · simp only [if_neg hshort] at h
    split_ifs at h with hbig hmissing
    · cases h
      exact Or.inr ⟨by omega, by omega, hmissing, rfl⟩
    · cases hdecode : decodeFrame got <;> simp [hdecode, DecodeResult.verdict] at h

/-- The receive loop as a reader that asks for a header and then for what it announces. -/
def frameFormat : Format UInt8 Frame (Option String) where
  judge := judgeFrame
  start := ⟨kHeaderSize, judgeFrame_of_short (by decide)⟩
  pos := by
    intro held n h
    rcases judgeFrame_eq_more h with ⟨hshort, rfl⟩ | ⟨-, -, hshort, rfl⟩
    · omega
    · omega
  short := by
    intro held n piece h hpiece
    rcases judgeFrame_eq_more h with ⟨hshort, rfl⟩ | ⟨hheader, hsize, hshort, rfl⟩
    · have hlength : (held ++ piece).length < kHeaderSize := by
        rw [List.length_append]
        omega
      refine ⟨_, judgeFrame_of_short hlength, ?_⟩
      rw [List.length_append] at hlength ⊢
      omega
    · have hfield := congrArg loadLe (header_append hheader piece).2.2.2
      refine ⟨_, judgeFrame_of_header (by rw [List.length_append]; omega) hfield hsize ?_, ?_⟩
      · rw [List.length_append]
        omega
      · rw [List.length_append]
        omega

/-- What reading a stream comes to: its frames, the bytes of the unfinished one, and the
error text that has ended the reading. -/
abbrev assembleFrames (bytes : Bytes) : Progress UInt8 Frame (Option String) :=
  frameFormat.assemble bytes

/-- An encoded frame is complete with its last byte. -/
theorem encodes_encodeFrame {m : Frame} {f : Bytes} (h : encodeFrame m.type m.payload = .ok f) :
    frameFormat.Encodes f m := by
  have hlength := encodeFrame_length h
  have hdecode := decodeFrame_encodeFrame h []
  rw [List.append_nil] at hdecode
  have hfield := (framed_of_decodeFrame hdecode).2.length
  have hsize : m.payload.length ≤ kMaxFramePayload := (encodeFrame_eq_ok h).1
  constructor
  · change judgeFrame f = .message m
    unfold judgeFrame
    simp only [hfield, hdecode]
    rw [if_neg (by omega), if_neg (by omega), if_neg (by omega)]
    rfl
  · intro n hn
    change ∃ k, judgeFrame (f.take n) = .more k
    have htake : (f.take n).length = n := List.length_take_of_le hn.le
    by_cases hheader : n < kHeaderSize
    · exact ⟨_, judgeFrame_of_short (htake.trans_lt hheader)⟩
    · have hlen : loadLe (((f.take n).drop 6).take 4) = m.payload.length := by
        have hwithin := (header_append
          (by omega : kHeaderSize ≤ (f.take n).length) (f.drop n)).2.2.2
        rw [List.take_append_drop] at hwithin
        rw [← hwithin]
        exact hfield
      exact ⟨_, judgeFrame_of_header (by omega) hlen hsize (by omega)⟩

/-- Encoded frames are read back in their order. -/
theorem encodes_encodeFrames {messages : List Frame} {bytes : Bytes}
    (h : encodeFrames messages = .ok bytes) :
    ∃ parts, bytes = parts.flatten ∧ List.Forall₂ frameFormat.Encodes parts messages := by
  induction messages generalizing bytes with
  | nil =>
    cases h
    exact ⟨[], rfl, .nil⟩
  | cons m rest ih =>
    obtain ⟨f, bytes', hf, hrest, rfl⟩ := emitAll_cons_ok.mp h
    obtain ⟨parts, rfl, hparts⟩ := ih hrest
    exact ⟨f :: parts, rfl, .cons (encodes_encodeFrame hf) hparts⟩

/-- A party that receives a front of encoded frames reads a front of the frames. -/
theorem assembleFrames_of_front {messages : List Frame} {bytes received : Bytes}
    (h : encodeFrames messages = .ok bytes) (hfront : received <+: bytes) :
    (assembleFrames received).messages <+: messages ∧ (assembleFrames received).refusal = none := by
  obtain ⟨parts, rfl, hparts⟩ := encodes_encodeFrames h
  exact Format.assemble_of_front hparts hfront

theorem assembleFrames_encodeFrames {messages : List Frame} {bytes : Bytes}
    (h : encodeFrames messages = .ok bytes) : assembleFrames bytes = { messages } := by
  obtain ⟨parts, rfl, hparts⟩ := encodes_encodeFrames h
  exact Format.assemble_encodings hparts

/-! ### The receive loop -/

/-- The delivery after the last frame: what was refused, or how the stream stopped. -/
def Delivery.ofEnd (stop : Stop) : Option (Option String) → Delivery
  | none => .ofStop stop
  | some err => .refused err

theorem asks_start : frameFormat.Asks {} kHeaderSize :=
  ⟨rfl, judgeFrame_of_short (show ([] : Bytes).length < kHeaderSize by decide)⟩

/-- A first piece of at most a header is judged as it is. -/
theorem assembleFrames_piece {piece : Bytes} (h : piece.length ≤ kHeaderSize) :
    assembleFrames piece = frameFormat.settle [] piece := by
  rcases eq_or_ne piece [] with rfl | hne
  · rfl
  · exact Format.feed_piece asks_start hne h

/-- A front that is refused is all that the reading of a stream comes to. -/
theorem assembleFrames_of_refused {front bytes : Bytes} {err : Option String}
    (hfront : front <+: bytes) (hwhole : assembleFrames front = frameFormat.settle [] front)
    (hjudge : judgeFrame front = .refused err) :
    assembleFrames bytes = { held := front, refusal := some err } := by
  have hrefused : assembleFrames front = { held := front, refusal := some err } := by
    rw [hwhole, Format.settle_of_refused hjudge]
  have hall : assembleFrames bytes = assembleFrames front :=
    Format.refusal_of_front hfront (by rw [← assembleFrames, hrefused])
  rw [hall, hrefused]

section Body
variable {header body : Bytes} {len : Nat}

theorem judgeFrame_header (hheader : header.length = kHeaderSize)
    (hlen : loadLe ((header.drop 6).take 4) = len) (hsize : len ≤ kMaxFramePayload) :
    judgeFrame header = .more (len + kCrcSize) := by
  rw [judgeFrame_of_header (by omega) hlen hsize (by unfold kCrcSize; omega), hheader,
    Nat.add_assoc, Nat.add_sub_cancel_left]

/-- The second piece brings the frame, or as much of it as there is. -/
theorem assembleFrames_body (hheader : header.length = kHeaderSize)
    (hlen : loadLe ((header.drop 6).take 4) = len) (hsize : len ≤ kMaxFramePayload)
    (hbody : body.length ≤ len + kCrcSize) :
    assembleFrames (header ++ body) = frameFormat.settle [] (header ++ body) := by
  have hmore := judgeFrame_header hheader hlen hsize
  rcases eq_or_ne body [] with rfl | hne
  · rw [List.append_nil]
    exact assembleFrames_piece hheader.le
  · have hfirst : assembleFrames header = { held := header } :=
      (assembleFrames_piece hheader.le).trans (Format.settle_of_more hmore)
    have hasks : frameFormat.Asks { held := header } (len + kCrcSize) := ⟨rfl, hmore⟩
    rw [assembleFrames, Format.assemble_append, ← assembleFrames, hfirst,
      Format.feed_piece hasks hne hbody]

end Body

section Calls
variable {source after left : Source UInt8} {header body : Bytes} {len : Nat} {stop : Stop}

/-- The header of a frame does not come. -/
theorem recvFrame_of_end (hheader : (gather kHeaderSize source).1 = .error stop) :
    (recvFrame source).1 = .ofStop stop := by
  unfold recvFrame
  split
  next heq =>
    rw [heq] at hheader
    cases hheader
    rfl
  next heq =>
    rw [heq] at hheader
    cases hheader

/-- The header announces too much, and nothing more is looked at. -/
theorem recvFrame_of_oversized (hheader : gather kHeaderSize source = (.ok header, after))
    (hlen : loadLe ((header.drop 6).take 4) = len) (hsize : kMaxFramePayload < len) :
    recvFrame source = (.refused (some "oversized frame"), after) := by
  unfold recvFrame
  simp only [hheader, hlen, if_pos hsize]

/-- The body of a frame does not come. -/
theorem recvFrame_of_stop (hheader : gather kHeaderSize source = (.ok header, after))
    (hlen : loadLe ((header.drop 6).take 4) = len) (hsize : len ≤ kMaxFramePayload)
    (hbody : gather (len + kCrcSize) after = (.error stop, left)) :
    recvFrame source = (.ofStop stop, left) := by
  unfold recvFrame
  simp only [hheader, hlen, if_neg (Nat.not_lt.mpr hsize), hbody]

/-- The frame is there whole, and the decoder's word on it is delivered. -/
theorem recvFrame_of_body (hheader : gather kHeaderSize source = (.ok header, after))
    (hlen : loadLe ((header.drop 6).take 4) = len) (hsize : len ≤ kMaxFramePayload)
    (hbody : gather (len + kCrcSize) after = (.ok body, left)) :
    (∃ m, (decodeFrame (header ++ body)).verdict = .message m ∧
      recvFrame source = (.frame kProtocolVersion m, left)) ∨
    ∃ err, (decodeFrame (header ++ body)).verdict = .refused err ∧
      recvFrame source = (.refused err, left) := by
  unfold recvFrame
  simp only [hheader, hlen, if_neg (Nat.not_lt.mpr hsize), hbody]
  cases hdecode : decodeFrame (header ++ body) with
  | ok version m consumed =>
    obtain ⟨rfl, -⟩ := framed_of_decodeFrame hdecode
    exact Or.inl ⟨m, rfl, rfl⟩
  | needMore => exact Or.inr ⟨none, rfl, rfl⟩
  | malformed err => exact Or.inr ⟨some err, rfl, rfl⟩

end Calls

/-- The verdict on a frame that is there whole is the decoder's. -/
theorem judgeFrame_of_whole {got : Bytes} {len : Nat} (hlen : loadLe ((got.drop 6).take 4) = len)
    (hsize : len ≤ kMaxFramePayload) (hwhole : kHeaderSize + len + kCrcSize ≤ got.length) :
    judgeFrame got = (decodeFrame got).verdict := by
  unfold judgeFrame
  simp only [hlen]
  rw [if_neg (by omega), if_neg (by omega), if_neg (by omega)]

/-- What one call delivers: the first frame of the stream, or what its end is. -/
theorem recvFrame_cases (stop : Stop) (later : Source UInt8) {bytes : Bytes} (cut : Cut bytes) :
    (∃ m k, 0 < k ∧ k ≤ bytes.length ∧ assembleFrames (bytes.take k) = { messages := [m] } ∧
      ∃ left : Cut (bytes.drop k), recvFrame (cut.source ++ stop.tail later) =
        (.frame kProtocolVersion m, left.source ++ stop.tail later)) ∨
    (assembleFrames bytes).messages = [] ∧
      (recvFrame (cut.source ++ stop.tail later)).1 =
        .ofEnd stop (assembleFrames bytes).refusal := by
  by_cases hshort : bytes.length < kHeaderSize
  · -- the stream ends within the header
    right
    rw [assembleFrames_piece hshort.le, Format.settle_of_more (judgeFrame_of_short hshort)]
    exact ⟨rfl, recvFrame_of_end (Chunks.gather_short cut stop later hshort)⟩
  obtain ⟨header, rest, rfl, hheader⟩ : ∃ header rest, bytes = header ++ rest ∧
      header.length = kHeaderSize :=
    ⟨_, _, (List.take_append_drop _ _).symm, List.length_take_of_le (Nat.le_of_not_lt hshort)⟩
  obtain ⟨afterHeader, hgather⟩ := gather_front kHeaderSize cut (stop.tail later)
    (Nat.le_of_not_lt hshort)
  rw [List.take_left' hheader] at hgather
  generalize hlen : loadLe ((header.drop 6).take 4) = len
  by_cases hsize : kMaxFramePayload < len
  · -- the header announces too much
    right
    have hjudge : judgeFrame header = .refused (some "oversized frame") := by
      unfold judgeFrame
      simp only [hlen]
      rw [if_neg (by omega), if_pos hsize]
    rw [assembleFrames_of_refused (List.prefix_append _ _) (assembleFrames_piece hheader.le) hjudge,
      recvFrame_of_oversized hgather hlen hsize]
    exact ⟨rfl, rfl⟩
  have hfits : len ≤ kMaxFramePayload := Nat.le_of_not_lt hsize
  have hfield : loadLe (((header ++ rest).drop 6).take 4) = len := by
    rw [(header_append hheader.ge rest).2.2.2, hlen]
  by_cases hmissing : rest.length < len + kCrcSize
  · -- the stream ends within the body
    right
    have hclosed := Chunks.gather_short afterHeader stop later (by rwa [List.drop_left' hheader])
    have hheaderIn : kHeaderSize ≤ (header ++ rest).length := by
      rw [List.length_append]
      omega
    have hmore := judgeFrame_of_header hheaderIn hfield hfits (by rw [List.length_append]; omega)
    rw [assembleFrames_body hheader hlen hfits hmissing.le, Format.settle_of_more hmore,
      recvFrame_of_stop hgather hlen hfits (Prod.ext hclosed rfl)]
    exact ⟨rfl, rfl⟩
  · obtain ⟨afterBody, hbody⟩ := gather_front (len + kCrcSize) afterHeader (stop.tail later) (by
      rw [List.drop_left' hheader]
      omega)
    generalize hpiece : ((header ++ rest).drop kHeaderSize).take (len + kCrcSize) = body at hbody
    rw [List.drop_left' hheader] at hpiece
    have hbodyLength : body.length = len + kCrcSize := by
      rw [← hpiece]
      exact List.length_take_of_le (by omega)
    have hsplit : (header ++ rest).take (kHeaderSize + (len + kCrcSize)) = header ++ body := by
      rw [← hheader, List.take_length_add_append, hpiece]
    have hsettle := assembleFrames_body hheader hlen hfits hbodyLength.le
    have hfield' : loadLe (((header ++ body).drop 6).take 4) = len := by
      rw [(header_append hheader.ge body).2.2.2, hlen]
    have hjudge := judgeFrame_of_whole hfield' hfits (by rw [List.length_append]; omega)
    rcases recvFrame_of_body hgather hlen hfits hbody
      with ⟨m, hverdict, hrecv⟩ | ⟨err, hverdict, hrecv⟩
    · left
      refine ⟨m, kHeaderSize + (len + kCrcSize), by unfold kHeaderSize; omega,
        by rw [List.length_append]; omega, ?_, afterBody.copy (by rw [List.drop_drop]), hrecv⟩
      rw [hsplit, hsettle]
      exact Format.settle_of_message (hjudge.trans hverdict)
    · right
      rw [assembleFrames_of_refused (hsplit ▸ List.take_prefix _ _) hsettle
        (hjudge.trans hverdict), hrecv]
      exact ⟨rfl, rfl⟩

/-- However a stream is cut, whatever it holds and wherever it ends or fails, the loop
delivers its frames in order and then the end of the reading. -/
theorem recvFrames_assemble (stop : Stop) (later : Source UInt8) {bytes : Bytes}
    (cut : Cut bytes) :
    recvFrames ((assembleFrames bytes).messages.length + 1) (cut.source ++ stop.tail later) =
      (assembleFrames bytes).messages.map (.frame kProtocolVersion) ++
        [.ofEnd stop (assembleFrames bytes).refusal] := by
  generalize hn : bytes.length = n
  induction n using Nat.strong_induction_on generalizing bytes with
  | _ n ih =>
  rcases recvFrame_cases stop later cut with ⟨m, k, hpos, hk, hfirst, left, hrecv⟩ | ⟨hnone, hrecv⟩
  · have hrest := ih (bytes.drop k).length (by rw [List.length_drop]; omega) left rfl
    have hall : assembleFrames bytes =
        { assembleFrames (bytes.drop k) with
          messages := m :: (assembleFrames (bytes.drop k)).messages } := by
      rw [← List.take_append_drop k bytes, assembleFrames, Format.assemble_append, ← assembleFrames,
        hfirst, List.take_append_drop]
      exact Format.feed_after [m] {} (bytes.drop k)
    rw [hall, List.length_cons, recvFrames, hrecv]
    simp only [hrest, List.map_cons, List.cons_append]
  · rw [hnone, List.length_nil, recvFrames]
    simp only [hrecv, recvFrames, List.map_nil, List.nil_append]

end AcceleratorHealth
