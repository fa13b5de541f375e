import Mathlib

/-! Reflected cyclic redundancy checks over bytes, for any register width and any
polynomial whose top bit is set. Shifting the register is linear and loses nothing, so
the check separates any two messages that differ only within one register's worth of
consecutive bytes. -/

namespace Crc
variable {w : Nat}

/-- One bit of the division. -/
def shift (poly c : BitVec w) : BitVec w :=
  if c.getLsbD 0 then poly ^^^ (c >>> 1) else c >>> 1

def shifts (poly : BitVec w) : Nat → BitVec w → BitVec w
  | 0, c => c
  | n + 1, c => shifts poly n (shift poly c)

/-- The register after one more byte. -/
def update (poly c : BitVec w) (b : UInt8) : BitVec w :=
  shifts poly 8 (c ^^^ b.toBitVec.setWidth w)

def run (poly c : BitVec w) (bs : List UInt8) : BitVec w := bs.foldl (update poly) c

/-- Bytes as one register, least significant first. -/
def word : List UInt8 → BitVec w
  | [] => 0
  | b :: bs => b.toBitVec.setWidth w ^^^ (word bs <<< 8)

variable {poly : BitVec w}

@[simp] theorem run_append (c : BitVec w) (bs bs' : List UInt8) :
    run poly c (bs ++ bs') = run poly (run poly c bs) bs' := List.foldl_append

@[simp] theorem run_cons (c : BitVec w) (b : UInt8) (bs : List UInt8) :
    run poly c (b :: bs) = run poly (update poly c b) bs := rfl

/-! ### Shifts are linear -/

theorem shift_xor (a b : BitVec w) : shift poly (a ^^^ b) = shift poly a ^^^ shift poly b := by
  unfold shift
  rw [BitVec.getLsbD_xor, BitVec.ushiftRight_xor_distrib]
  cases a.getLsbD 0 <;> cases b.getLsbD 0
  · rfl
  · simp only [Bool.false_bne, Bool.false_eq_true, if_true, if_false]
    ac_rfl
  · simp only [Bool.true_bne, Bool.not_false, Bool.false_eq_true, if_true, if_false]
    ac_rfl
  · have hcancel : poly ^^^ a >>> 1 ^^^ (poly ^^^ b >>> 1) =
        (poly ^^^ poly) ^^^ (a >>> 1 ^^^ b >>> 1) := by ac_rfl
    simp [hcancel]

theorem shifts_xor (n : Nat) (a b : BitVec w) :
    shifts poly n (a ^^^ b) = shifts poly n a ^^^ shifts poly n b := by
  induction n generalizing a b with
  | zero => rfl
  | succ n ih => rw [shifts, shifts, shifts, shift_xor, ih]

theorem shifts_add (m n : Nat) (c : BitVec w) :
    shifts poly (m + n) c = shifts poly n (shifts poly m c) := by
  induction m generalizing c with
  | zero => rw [Nat.zero_add, shifts]
  | succ m ih => rw [Nat.add_right_comm, shifts, shifts, ih]

/-- While the bits shifted out are clear, the register only moves down. -/
theorem shifts_of_low {n : Nat} {c : BitVec w} (h : ∀ i < n, c.getLsbD i = false) :
    shifts poly n c = c >>> n := by
  induction n generalizing c with
  | zero => rw [shifts, BitVec.ushiftRight_zero]
  | succ n ih =>
    have hlow : shift poly c = c >>> 1 := by
      rw [shift, h 0 n.succ_pos]
      rfl
    rw [shifts, hlow, ih, ← BitVec.shiftRight_add, Nat.add_comm]
    intro i hi
    rw [BitVec.getLsbD_ushiftRight]
    exact h (1 + i) (by omega)

/-- The low bits decide what is added, and the rest only moves down: what a table of
the low bits is for. -/
theorem shifts_eq_table {n : Nat} {low : BitVec w}
    (hlow : ∀ i, low.getLsbD i = decide (i < n ∧ i < w))
    (c : BitVec w) : shifts poly n c = shifts poly n (c &&& low) ^^^ (c >>> n) := by
  have hsplit : c = (c &&& low) ^^^ (c &&& ~~~low) := by
    ext i hi
    simp only [BitVec.getElem_xor, BitVec.getElem_and, BitVec.getElem_not]
    cases low[i] <;> simp
  have hhigh : ∀ i < n, (c &&& ~~~low).getLsbD i = false := by
    intro i hi
    rw [BitVec.getLsbD_and, BitVec.getLsbD_not, hlow]
    by_cases hw : i < w <;> simp [hi, hw]
  have hshift : (c &&& ~~~low) >>> n = c >>> n := by
    apply BitVec.eq_of_getLsbD_eq
    intro i _
    rw [BitVec.getLsbD_ushiftRight, BitVec.getLsbD_ushiftRight, BitVec.getLsbD_and,
      BitVec.getLsbD_not, hlow]
    by_cases hw : n + i < w
    · simp [hw]
    · simp [BitVec.getLsbD_of_ge c (n + i) (by omega)]
  calc shifts poly n c = shifts poly n ((c &&& low) ^^^ (c &&& ~~~low)) := by rw [← hsplit]
    _ = shifts poly n (c &&& low) ^^^ (c >>> n) := by rw [shifts_xor, shifts_of_low hhigh, hshift]

/-! ### Shifts lose nothing -/

theorem shift_eq_zero (htop : poly.getLsbD (w - 1) = true) {c : BitVec w}
    (h : shift poly c = 0) : c = 0 := by
  unfold shift at h
  split_ifs at h with hlow
  · have htopbit := congrArg (fun x => x.getLsbD (w - 1)) h
    have hout : c.getLsbD (1 + (w - 1)) = false := BitVec.getLsbD_of_ge c _ (by omega)
    simp [BitVec.getLsbD_xor, BitVec.getLsbD_ushiftRight, htop, hout] at htopbit
  · apply BitVec.eq_of_getLsbD_eq
    intro i _
    change c.getLsbD i = (0#w).getLsbD i
    rw [BitVec.getLsbD_zero]
    cases i with
    | zero => simpa using hlow
    | succ i =>
      have hbit := congrArg (fun x => x.getLsbD i) h
      simpa [BitVec.getLsbD_ushiftRight, Nat.add_comm] using hbit

theorem shifts_eq_zero (htop : poly.getLsbD (w - 1) = true) {n : Nat} {c : BitVec w}
    (h : shifts poly n c = 0) : c = 0 := by
  induction n generalizing c with
  | zero => exact h
  | succ n ih => exact shift_eq_zero htop (ih h)

theorem shifts_injective (htop : poly.getLsbD (w - 1) = true) (n : Nat) :
    Function.Injective (shifts poly n) := by
  intro a b h
  have hzero : shifts poly n (a ^^^ b) = 0 := by
    rw [shifts_xor, h, BitVec.xor_self]
    rfl
  exact BitVec.xor_eq_zero_iff.mp (shifts_eq_zero htop hzero)

/-- The same bytes never bring two registers together. -/
theorem run_injective (htop : poly.getLsbD (w - 1) = true) (bs : List UInt8) :
    Function.Injective fun c => run poly c bs := by
  induction bs with
  | nil => exact fun _ _ h => h
  | cons b bs ih =>
    intro c c' h
    have hupdate : update poly c b = update poly c' b := ih h
    exact (BitVec.xor_left_inj _).mp (shifts_injective htop 8 hupdate)

/-! ### One register's worth of bytes -/

theorem getLsbD_word (bs : List UInt8) {i : Nat} (h : 8 * bs.length ≤ i) :
    (word bs : BitVec w).getLsbD i = false := by
  induction bs generalizing i with
  | nil => exact BitVec.getLsbD_zero
  | cons b bs ih =>
    rw [List.length_cons] at h
    have hrest : (word bs : BitVec w).getLsbD (i - 8) = false := ih (by omega)
    simp only [word, BitVec.getLsbD_xor, BitVec.getLsbD_setWidth, BitVec.getLsbD_shiftLeft, hrest,
      BitVec.getLsbD_of_ge b.toBitVec i (by omega)]
    simp

theorem word_shiftRight {bs : List UInt8} (h : 8 * (bs.length + 1) ≤ w) :
    (word bs <<< 8 : BitVec w) >>> 8 = word bs := by
  apply BitVec.eq_of_getLsbD_eq
  intro i hi
  rw [BitVec.getLsbD_ushiftRight, BitVec.getLsbD_shiftLeft]
  by_cases hbig : 8 * bs.length ≤ i
  · simp [getLsbD_word bs hbig]
  · simp [show 8 + i < w by omega]

/-- Bytes that fit into the register act on it as one word. -/
theorem run_eq_shifts {bs : List UInt8} (h : 8 * bs.length ≤ w) (c : BitVec w) :
    run poly c bs = shifts poly (8 * bs.length) (c ^^^ word bs) := by
  induction bs generalizing c with
  | nil => exact (BitVec.xor_zero (x := c)).symm
  | cons b bs ih =>
    rw [List.length_cons] at h
    have hlow : ∀ i < 8, (word bs <<< 8 : BitVec w).getLsbD i = false := by
      intro i hi
      rw [BitVec.getLsbD_shiftLeft]
      simp [hi]
    calc run poly c (b :: bs)
        = shifts poly (8 * bs.length) (update poly c b ^^^ word bs) := ih (by omega) _
      _ = shifts poly (8 * bs.length)
            (shifts poly 8 (c ^^^ b.toBitVec.setWidth w) ^^^ shifts poly 8 (word bs <<< 8)) := by
          rw [shifts_of_low hlow, word_shiftRight h, update]
      _ = shifts poly (8 * (b :: bs).length) (c ^^^ word (b :: bs)) := by
          rw [← shifts_xor, ← shifts_add, List.length_cons, Nat.mul_succ, Nat.add_comm 8,
            BitVec.xor_assoc, word]

theorem word_injective {bs bs' : List UInt8} (hlength : bs.length = bs'.length)
    (hfit : 8 * bs.length ≤ w) (h : (word bs : BitVec w) = word bs') : bs = bs' := by
  induction bs generalizing bs' with
  | nil => exact (List.length_eq_zero_iff.mp hlength.symm).symm
  | cons b bs ih =>
    obtain ⟨b', bs', rfl⟩ : ∃ b' rest, bs' = b' :: rest :=
      List.exists_cons_of_length_eq_add_one hlength.symm
    rw [List.length_cons] at hfit
    have hlength' : bs.length = bs'.length := Nat.succ.inj hlength
    have hbit := fun i => congrArg (fun x : BitVec w => x.getLsbD i) h
    simp only [word, BitVec.getLsbD_xor, BitVec.getLsbD_setWidth, BitVec.getLsbD_shiftLeft] at hbit
    have hbyte : b = b' := by
      apply UInt8.toBitVec_inj.mp
      apply BitVec.eq_of_getLsbD_eq
      intro i hi
      simpa [hi, show i < w by omega] using hbit i
    have hrest : (word bs : BitVec w) = word bs' := by
      apply BitVec.eq_of_getLsbD_eq
      intro i hi
      by_cases hbig : 8 * bs.length ≤ i
      · rw [getLsbD_word bs hbig, getLsbD_word bs' (hlength' ▸ hbig)]
      · simpa [hbyte, show 8 + i < w by omega] using hbit (8 + i)
    rw [hbyte, ih hlength' (by omega) hrest]

/-- What a register becomes when its own value, masked, is appended to the message:
the same for every message. -/
theorem run_residue {bs : List UInt8} (hfit : 8 * bs.length ≤ w) {c mask : BitVec w}
    (h : word bs = c ^^^ mask) : run poly c bs = shifts poly (8 * bs.length) mask := by
  rw [run_eq_shifts hfit, h, ← BitVec.xor_assoc, BitVec.xor_self, BitVec.zero_xor]

/-- Two messages that differ only within one register's worth of consecutive bytes have
different checks. -/
theorem run_window (htop : poly.getLsbD (w - 1) = true) {c : BitVec w}
    {before mid mid' after : List UInt8} (hlength : mid.length = mid'.length)
    (hfit : 8 * mid.length ≤ w)
    (h : run poly c (before ++ mid ++ after) = run poly c (before ++ mid' ++ after)) :
    mid = mid' := by
  simp only [run_append] at h
  have hfit' : 8 * mid'.length ≤ w := by omega
  have hmid : run poly (run poly c before) mid = run poly (run poly c before) mid' :=
    run_injective htop after h
  rw [run_eq_shifts hfit (run poly c before), run_eq_shifts hfit' (run poly c before),
    hlength] at hmid
  exact word_injective hlength hfit
    ((BitVec.xor_right_inj _).mp (shifts_injective htop _ hmid))

/-! ### One bit at a time -/

/-- One bit of the message, added to the lowest bit of the register before the division. -/
def feed (poly c : BitVec w) (bit : Bool) : BitVec w :=
  if (c.getLsbD 0 != bit) = true then poly ^^^ (c >>> 1) else c >>> 1

def serial (poly c : BitVec w) (bits : List Bool) : BitVec w := bits.foldl (feed poly) c

/-- The bits of a message in their order, least significant first in each byte. -/
def bitsOf (bs : List UInt8) : List Bool :=
  bs.flatMap fun b => (List.range 8).map b.toBitVec.getLsbD

/-- Bits as a register, least significant first. -/
def ofBits : List Bool → BitVec w
  | [] => 0
  | bit :: bits => (BitVec.ofBool bit).setWidth w ^^^ (ofBits bits <<< 1)

theorem getLsbD_ofBits (bits : List Bool) {i : Nat} (hi : i < w) :
    (ofBits bits : BitVec w).getLsbD i = bits.getD i false := by
  induction bits generalizing i with
  | nil => exact BitVec.getLsbD_zero
  | cons bit bits ih =>
    rw [ofBits, BitVec.getLsbD_xor, BitVec.getLsbD_setWidth, BitVec.getLsbD_shiftLeft]
    cases i with
    | zero => simp [hi]
    | succ i => simp [hi, ih (Nat.lt_of_succ_lt hi)]

theorem feed_eq_shift (hw : 0 < w) (c : BitVec w) (bit : Bool) :
    feed poly c bit = shift poly (c ^^^ (BitVec.ofBool bit).setWidth w) := by
  have hlow : (c ^^^ (BitVec.ofBool bit).setWidth w).getLsbD 0 = (c.getLsbD 0 != bit) := by
    simp [hw]
  have hrest : (c ^^^ (BitVec.ofBool bit).setWidth w) >>> 1 = c >>> 1 := by
    apply BitVec.eq_of_getLsbD_eq
    intro i _
    simp [BitVec.getLsbD_ushiftRight, BitVec.getLsbD_xor]
  rw [feed, shift, hlow, hrest]

/-- Bits that fit into the register act on it as one word. -/
theorem serial_eq_shifts {bits : List Bool} (h : bits.length ≤ w) (c : BitVec w) :
    serial poly c bits = shifts poly bits.length (c ^^^ ofBits bits) := by
  induction bits generalizing c with
  | nil => exact (BitVec.xor_zero (x := c)).symm
  | cons bit bits ih =>
    rw [List.length_cons] at h
    have hshift : ofBits bits = shift poly (ofBits bits <<< 1 : BitVec w) := by
      have hlow : (ofBits bits <<< 1 : BitVec w).getLsbD 0 = false := by simp
      rw [shift, hlow, if_neg Bool.false_ne_true]
      apply BitVec.eq_of_getLsbD_eq
      intro i hi
      rw [BitVec.getLsbD_ushiftRight, BitVec.getLsbD_shiftLeft, getLsbD_ofBits bits hi]
      by_cases hfits : 1 + i < w
      · simp [hfits, getLsbD_ofBits bits hi]
      · simp [hfits, show bits.length ≤ i by omega]
    calc serial poly c (bit :: bits)
        = shifts poly bits.length (feed poly c bit ^^^ ofBits bits) := ih (by omega) _
      _ = shifts poly bits.length
            (shift poly (c ^^^ (BitVec.ofBool bit).setWidth w ^^^ (ofBits bits <<< 1))) := by
          rw [feed_eq_shift (by omega), shift_xor _ (ofBits bits <<< 1), ← hshift]
      _ = shifts poly (bit :: bits).length (c ^^^ ofBits (bit :: bits)) := by
          rw [BitVec.xor_assoc, List.length_cons, shifts, ofBits]

/-- Whole bytes are what their eight bits are, one after the other. -/
theorem serial_bitsOf (hw : 8 ≤ w) (c : BitVec w) (bs : List UInt8) :
    serial poly c (bitsOf bs) = run poly c bs := by
  induction bs generalizing c with
  | nil => rfl
  | cons b bs ih =>
    have hbyte : ofBits ((List.range 8).map b.toBitVec.getLsbD) = b.toBitVec.setWidth w := by
      apply BitVec.eq_of_getLsbD_eq
      intro i hi
      rw [getLsbD_ofBits _ hi, BitVec.getLsbD_setWidth, decide_eq_true hi, Bool.true_and]
      by_cases hlow : i < 8
      · simp [hlow]
      · simp [hlow, BitVec.getLsbD_of_ge b.toBitVec i (by omega)]
    have hfirst : serial poly c ((List.range 8).map b.toBitVec.getLsbD) = update poly c b := by
      rw [serial_eq_shifts (by simpa using hw), hbyte]
      rfl
    rw [run_cons, ← ih, ← hfirst]
    exact List.foldl_append

end Crc
