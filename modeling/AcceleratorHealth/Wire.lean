import AcceleratorHealth.Enums
import AcceleratorHealth.Lib.Binary32
import AcceleratorHealth.Lib.Codec

/-! Bounded little-endian serialization. A `Reader` keeps its position and a failure
flag that no later call clears; a writer refuses over-long strings by an exception. -/
namespace AcceleratorHealth
open Codec

abbrev Bytes := List UInt8

/-- The content of a `std::string`: bytes, not necessarily text. -/
abbrev Str := List UInt8

/-- The bytes of a text literal. -/
def str (s : String) : Str := s.toUTF8.toList

namespace Util

def kMaxCount : UInt32 := 1048576
def kMaxString : Nat := 1048576

/-- One table entry of the reflected CRC-32: eight shifts of the index. -/
def crcTable (i : UInt32) : UInt32 :=
  (List.range 8).foldl
    (fun c _ => if c &&& 1 ≠ 0 then (0xEDB88320 : UInt32) ^^^ (c >>> 1) else c >>> 1) i

def crcStep (crc : UInt32) (b : UInt8) : UInt32 :=
  crcTable ((crc ^^^ b.toUInt32) &&& 0xFF) ^^^ (crc >>> 8)

def crc32 (data : Bytes) : UInt32 := data.foldl crcStep 0xFFFFFFFF ^^^ 0xFFFFFFFF

/-- The low `n` bytes of a value, least significant first. -/
def storeLe : Nat → Nat → Bytes
  | 0, _ => []
  | n + 1, v => UInt8.ofNat v :: storeLe n (v / 256)

def loadLe : Bytes → Nat
  | [] => 0
  | b :: rest => b.toNat + 256 * loadLe rest

@[simp] theorem storeLe_length (n v : Nat) : (storeLe n v).length = n := by
  induction n generalizing v with
  | zero => rfl
  | succ n ih => simp [storeLe, ih]

theorem loadLe_storeLe (n v : Nat) (h : v < 256 ^ n) : loadLe (storeLe n v) = v := by
  induction n generalizing v with
  | zero => simp [storeLe, loadLe] at h ⊢; omega
  | succ n ih =>
    have hdiv : v / 256 < 256 ^ n := by
      rw [Nat.div_lt_iff_lt_mul (by decide)]
      simpa [Nat.pow_succ] using h
    simp only [storeLe, loadLe, ih _ hdiv, UInt8.toNat_ofNat']
    omega

/-- Bytes are the only ones that load as their value. -/
theorem storeLe_loadLe (bs : Bytes) : storeLe bs.length (loadLe bs) = bs := by
  induction bs with
  | nil => rfl
  | cons b rest ih =>
    have hb := b.toNat_lt
    have hlow : UInt8.ofNat (b.toNat + 256 * loadLe rest) = b := by
      apply UInt8.toNat_inj.mp
      rw [UInt8.toNat_ofNat']
      omega
    have hhigh : (b.toNat + 256 * loadLe rest) / 256 = loadLe rest := by omega
    rw [List.length_cons, loadLe, storeLe, hlow, hhigh, ih]

theorem loadLe_lt (bs : Bytes) : loadLe bs < 256 ^ bs.length := by
  induction bs with
  | nil => exact Nat.one_pos
  | cons b rest ih =>
    have hb := b.toNat_lt
    rw [loadLe, List.length_cons, Nat.pow_succ]
    omega

def hexDigit (b : Nat) : UInt8 := (str "0123456789abcdef").getD (b % 16) 0

def toHex (data : Bytes) : Str :=
  data.flatMap fun b => [hexDigit (b.toNat / 16), hexDigit b.toNat]

end Util

namespace Wire
open Util

/-! ### Writing -/

abbrev Writer := Except Exn Bytes

def u8 (v : UInt8) : Writer := .ok [v]
def u32 (v : UInt32) : Writer := .ok (storeLe 4 v.toNat)
def u64 (v : UInt64) : Writer := .ok (storeLe 8 v.toNat)
def i64 (v : Int64) : Writer := u64 v.toUInt64
def f32 (v : Binary32) : Writer := u32 v.bits
def f64 (v : Binary64) : Writer := u64 v.bits
def flag (b : Bool) : Writer := u8 (if b then 1 else 0)
def enum {E : Type} [CodedEnum E] (v : E) : Writer := u8 (CodedEnum.code v)

def string (s : Str) : Writer :=
  if kMaxString < s.length then .error (.runtimeError "wire: string too long")
  else .ok (storeLe 4 s.length ++ s)

/-- An element count followed by the elements. -/
def counted {α : Type} (write : α → Writer) (xs : List α) : List Writer :=
  [u32 (UInt32.ofNat xs.length), emitAll (xs.map write)]

/-! ### Reading -/

structure Reader where
  data : Bytes
  pos : Nat := 0
  fail : Bool := false

namespace Reader

def remaining (r : Reader) : Nat := r.data.length - r.pos

def setFail (r : Reader) : Reader := { r with fail := true }

/-- `n` raw bytes, or the failure flag and nothing when fewer remain. -/
def take (n : Nat) (r : Reader) : Bytes × Reader :=
  if r.remaining < n then ([], r.setFail)
  else ((r.data.drop r.pos).take n, { r with pos := r.pos + n })

def u8 (r : Reader) : UInt8 × Reader :=
  let (bs, r) := r.take 1
  (UInt8.ofNat (loadLe bs), r)

def u32 (r : Reader) : UInt32 × Reader :=
  let (bs, r) := r.take 4
  (UInt32.ofNat (loadLe bs), r)

def u64 (r : Reader) : UInt64 × Reader :=
  let (bs, r) := r.take 8
  (UInt64.ofNat (loadLe bs), r)

def i64 (r : Reader) : Int64 × Reader :=
  let (v, r) := r.u64
  (v.toInt64, r)

def f32 (r : Reader) : Binary32 × Reader :=
  let (v, r) := r.u32
  (⟨v⟩, r)

def f64 (r : Reader) : Binary64 × Reader :=
  let (v, r) := r.u64
  (⟨v⟩, r)

/-- A length and that many bytes; a length over the bound or the data fails. -/
def string (r : Reader) : Str × Reader :=
  let (len, r) := r.u32
  if r.fail ∨ kMaxString < len.toNat ∨ r.remaining < len.toNat then ([], r.setFail)
  else ((r.data.drop r.pos).take len.toNat, { r with pos := r.pos + len.toNat })

end Reader

/-- A record reader: `none`-like errors are the `false` that ends the caller's read. -/
abbrev Parse (α : Type) := Parser Reader Unit α

/-- A primitive read: it always returns, and failure only shows in the flag. -/
def prim {ε α : Type} (read : Reader → α × Reader) : Parser Reader ε α := fun r => .ok (read r)

def refuse {α : Type} : Parse α := fun _ => .error ()

/-- `return r.ok()` at the end of a record. -/
def guardOk : Parse Unit := fun r => if r.fail then .error () else .ok ((), r)

def readFlag {ε : Type} : Parser Reader ε Bool := do
  let b ← prim Reader.u8
  pure (b ≠ 0)

def readEnum (E : Type) [CodedEnum E] : Parse E := fun r =>
  let (b, r) := r.u8
  match enumFromByte b with
  | some v => if r.fail then .error () else .ok (v, r)
  | none => .error ()

/-- An element count, refused when the reader has failed or the count is over the cap. -/
def readCount : Parse UInt32 := fun r =>
  let (n, r) := r.u32
  if r.fail ∨ kMaxCount < n then .error () else .ok (n, r)

end Wire
end AcceleratorHealth
