import Mathlib
/-! IEEE-754 values as bit patterns, and the single-precision product of positive
normal numbers, rounded to nearest with ties to even. -/

structure Binary32 where
  bits : UInt32
  deriving DecidableEq

structure Binary64 where
  bits : UInt64
  deriving DecidableEq

namespace Binary32

def exponent (x : Binary32) : Nat := (x.bits >>> 23).toNat % 256

/-- The 24-bit significand of a normal number, its leading one included. -/
def significand (x : Binary32) : Nat := x.bits.toNat % 2 ^ 23 + 2 ^ 23

def pack (exponent significand : Nat) : Binary32 :=
  ⟨UInt32.ofNat (exponent * 2 ^ 23 + significand % 2 ^ 23)⟩

/-- Divide by `2 ^ k`, rounding to nearest and ties to the even quotient. -/
def roundShift (n k : Nat) : Nat :=
  let q := n / 2 ^ k
  let r := n % 2 ^ k
  if 2 ^ k < 2 * r ∨ (2 ^ k = 2 * r ∧ q % 2 = 1) then q + 1 else q

/-- The product of two positive normal numbers whose product is normal. -/
def mul (x y : Binary32) : Binary32 :=
  let p := x.significand * y.significand
  let e := x.exponent + y.exponent - 127
  let (e, q) := if 2 ^ 47 ≤ p then (e + 1, roundShift p 24) else (e, roundShift p 23)
  if q = 2 ^ 24 then pack (e + 1) (2 ^ 23) else pack e q

/-- The order of non-negative numbers is that of their bit patterns. -/
def ltNonneg (x y : Binary32) : Bool := x.bits < y.bits

def zero : Binary32 := ⟨0⟩
def one : Binary32 := ⟨0x3F800000⟩

def clamp (x lo hi : Binary32) : Binary32 :=
  if x.ltNonneg lo then lo else if hi.ltNonneg x then hi else x

end Binary32
