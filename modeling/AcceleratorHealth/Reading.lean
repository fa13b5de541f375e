import AcceleratorHealth.FrameLayout
import AcceleratorHealth.Lib.Machine

/-! The whole interface of the wire reader, called in any order and with any caps on any
input. No call moves the cursor back or past the data, and what a call hands out lies
between the old and the new position. -/
namespace AcceleratorHealth
open Wire Util

namespace Wire

namespace Reader

def u16 (r : Reader) : UInt16 × Reader :=
  let (bs, r) := r.take 2
  (UInt16.ofNat (loadLe bs), r)

def i32 (r : Reader) : Int32 × Reader :=
  let (v, r) := r.u32
  (v.toInt32, r)

/-- A length and that many bytes; nothing when the reader has failed or the length is over
the cap or the data. The length itself stays consumed. -/
def prefixed (cap : Nat) (r : Reader) : Option Bytes × Reader :=
  let (len, r) := r.u32
  if r.fail ∨ cap < len.toNat ∨ r.remaining < len.toNat then (none, r.setFail)
  else (some ((r.data.drop r.pos).take len.toNat), { r with pos := r.pos + len.toNat })

/-- What a call of `bytes` returns, copies to its buffer and stores in `actual`. -/
structure Copied where
  ok : Bool := false
  out : Bytes := []
  actual : Option Nat := none

/-- Both pointers may be null; on failure neither target is written. -/
def copied (hasOut hasActual : Bool) : Option Bytes → Copied
  | none => {}
  | some bs =>
    { ok := true
      out := if hasOut then bs else []
      actual := if hasActual then some bs.length else none }

def bytes (hasOut hasActual : Bool) (cap : UInt64) (r : Reader) : Copied × Reader :=
  let (bs, r) := r.prefixed cap.toNat
  (copied hasOut hasActual bs, r)

def bytesVec (cap : UInt32) (r : Reader) : Bytes × Reader :=
  let (bs, r) := r.prefixed cap.toNat
  (bs.getD [], r)

def stringCapped (cap : UInt32) (r : Reader) : Str × Reader :=
  let (bs, r) := r.prefixed cap.toNat
  (bs.getD [], r)

def skip (n : UInt64) (r : Reader) : Bool × Reader :=
  if r.remaining < n.toNat then (false, r.setFail)
  else (true, { r with pos := r.pos + n.toNat })

/-! ### Calls -/

inductive Call where
  | u8 | u16 | u32 | u64 | i32 | i64 | f32 | f64
  | bytes (hasOut hasActual : Bool) (cap : UInt64)
  | bytesVec (cap : UInt32)
  | string (cap : UInt32)
  | skip (n : UInt64)
  | setFail

inductive Value where
  | u8 (v : UInt8)
  | u16 (v : UInt16)
  | u32 (v : UInt32)
  | u64 (v : UInt64)
  | i32 (v : Int32)
  | i64 (v : Int64)
  | f32 (v : Binary32)
  | f64 (v : Binary64)
  | copied (c : Copied)
  | vec (v : Bytes)
  | string (v : Str)
  | skipped (ok : Bool)
  | unit

def Call.run (r : Reader) : Call → Value × Reader
  | .u8 => (.u8 r.u8.1, r.u8.2)
  | .u16 => (.u16 r.u16.1, r.u16.2)
  | .u32 => (.u32 r.u32.1, r.u32.2)
  | .u64 => (.u64 r.u64.1, r.u64.2)
  | .i32 => (.i32 r.i32.1, r.i32.2)
  | .i64 => (.i64 r.i64.1, r.i64.2)
  | .f32 => (.f32 r.f32.1, r.f32.2)
  | .f64 => (.f64 r.f64.1, r.f64.2)
  | .bytes hasOut hasActual cap =>
    (.copied (r.bytes hasOut hasActual cap).1, (r.bytes hasOut hasActual cap).2)
  | .bytesVec cap => (.vec (r.bytesVec cap).1, (r.bytesVec cap).2)
  | .string cap => (.string (r.stringCapped cap).1, (r.stringCapped cap).2)
  | .skip n => (.skipped (r.skip n).1, (r.skip n).2)
  | .setFail => (.unit, r.setFail)

/-- The bytes of the data that a value is made of. -/
def Value.bytes : Value → Bytes
  | .u8 v => [v]
  | .u16 v => storeLe 2 v.toNat
  | .u32 v => storeLe 4 v.toNat
  | .u64 v => storeLe 8 v.toNat
  | .i32 v => storeLe 4 v.toUInt32.toNat
  | .i64 v => storeLe 8 v.toUInt64.toNat
  | .f32 v => storeLe 4 v.bits.toNat
  | .f64 v => storeLe 8 v.bits.toNat
  | .copied c => c.out
  | .vec v => v
  | .string v => v
  | .skipped _ => []
  | .unit => []

/-- Zero or nothing, of the call's own type. -/
def Call.failure : Call → Value
  | .u8 => .u8 0
  | .u16 => .u16 0
  | .u32 => .u32 0
  | .u64 => .u64 0
  | .i32 => .i32 0
  | .i64 => .i64 0
  | .f32 => .f32 ⟨0⟩
  | .f64 => .f64 ⟨0⟩
  | .bytes .. => .copied {}
  | .bytesVec _ => .vec []
  | .string _ => .string []
  | .skip _ => .skipped false
  | .setFail => .unit

/-- The bytes of the length that the call reads first. -/
def Call.prefixLength : Call → Nat
  | .bytes .. | .bytesVec _ | .string _ => 4
  | _ => 0

def Call.cap : Call → Option Nat
  | .bytes _ _ cap => some cap.toNat
  | .bytesVec cap | .string cap => some cap.toNat
  | _ => none

/-- The call delivered: what it handed out lies behind the length prefix and before the new
position, and is no longer than the cap. -/
structure Served (c : Call) (r : Reader) (v : Value) (r' : Reader) : Prop where
  slice : v.bytes = (r.data.drop (r.pos + c.prefixLength)).take v.bytes.length
  within : r.pos + c.prefixLength + v.bytes.length ≤ r'.pos
  capped : ∀ n ∈ c.cap, r'.pos ≤ r.pos + c.prefixLength + n
  fail : r'.fail = r.fail

/-- The call failed: it handed out zero or nothing, and took the length prefix at most. -/
structure Refused (c : Call) (r : Reader) (v : Value) (r' : Reader) : Prop where
  value : v = c.failure
  flagged : r'.fail = true
  held : r'.pos ≤ r.pos + c.prefixLength

/-- What one call does to the cursor. -/
structure Bounded (c : Call) (r : Reader) (v : Value) (r' : Reader) : Prop where
  data : r'.data = r.data
  forward : r.pos ≤ r'.pos
  inside : r'.pos ≤ r.data.length
  sticky : r.fail = true → r'.fail = true
  ended : Served c r v r' ∨ Refused c r v r'

/-! ### One call -/

section Step
variable {c : Call} {r : Reader}

/-- A read of fixed width, whatever its value is decoded to. -/
theorem bounded_fixed {n : Nat} {v : Bytes → Value} (h : r.pos ≤ r.data.length)
    (hlead : c.prefixLength = 0) (hcap : c.cap = none)
    (hbytes : ∀ bs : Bytes, bs.length = n → (v bs).bytes = bs) (hfailure : v [] = c.failure) :
    Bounded c r (v (r.take n).1) (r.take n).2 := by
  unfold Reader.take
  by_cases hshort : r.remaining < n
  · rw [if_pos hshort]
    refine ⟨rfl, le_rfl, h, fun _ => rfl, Or.inr ⟨hfailure, rfl, Nat.le_add_right _ _⟩⟩
  · rw [if_neg hshort]
    unfold remaining at hshort
    have hlength : ((r.data.drop r.pos).take n).length = n := by
      rw [List.length_take, List.length_drop]
      omega
    refine ⟨rfl, Nat.le_add_right _ _, by simp only; omega, id, Or.inl ⟨?_, ?_, ?_, rfl⟩⟩
    · rw [hbytes _ hlength, hlead, hlength]
      rfl
    · rw [hbytes _ hlength, hlead, hlength]
      rfl
    · rw [hcap]
      exact fun n hn => absurd hn (by simp)

/-- A length-prefixed read: the two ways it ends. -/
inductive Prefixed (cap : Nat) (r : Reader) : Option Bytes × Reader → Prop
  | served {bs : Bytes} (slice : bs = (r.data.drop (r.pos + 4)).take bs.length)
      (capped : bs.length ≤ cap) (fits : r.pos + 4 + bs.length ≤ r.data.length) :
      Prefixed cap r (some bs, { r with pos := r.pos + 4 + bs.length })
  | refused {p : Nat} (forward : r.pos ≤ p) (held : p ≤ r.pos + 4)
      (fits : p ≤ r.data.length) : Prefixed cap r (none, { r with pos := p, fail := true })

theorem prefixed_cases (cap : Nat) (h : r.pos ≤ r.data.length) :
    Prefixed cap r (r.prefixed cap) := by
  unfold prefixed u32 Reader.take
  by_cases hshort : r.remaining < 4
  · simp only [if_pos hshort]
    rw [if_pos (Or.inl (show r.setFail.fail = true from rfl))]
    exact .refused le_rfl (Nat.le_add_right _ _) h
  · simp only [if_neg hshort]
    unfold remaining at hshort ⊢
    generalize (UInt32.ofNat (loadLe ((r.data.drop r.pos).take 4))).toNat = len
    split_ifs with hbad
    · exact .refused (p := r.pos + 4) (Nat.le_add_right _ _) le_rfl (by omega)
    · simp only [not_or] at hbad
      have hlength : ((r.data.drop (r.pos + 4)).take len).length = len := by
        rw [List.length_take, List.length_drop]
        omega
      have hserved : Prefixed cap r (some ((r.data.drop (r.pos + 4)).take len), _) :=
        .served (by rw [hlength]) (by omega) (by omega)
      rwa [hlength] at hserved

/-- A length-prefixed call, whatever is made of the bytes. -/
theorem bounded_prefixed {n : Nat} {v : Option Bytes → Value} (h : r.pos ≤ r.data.length)
    (hlead : c.prefixLength = 4) (hcap : c.cap = some n) (hfailure : v none = c.failure)
    (hbytes : ∀ bs, (v (some bs)).bytes = bs ∨ (v (some bs)).bytes = []) :
    Bounded c r (v (r.prefixed n).1) (r.prefixed n).2 := by
  generalize hx : r.prefixed n = x
  have hcases := hx ▸ prefixed_cases n h
  cases hcases with
  | refused forward held fits =>
    exact ⟨rfl, forward, fits, fun _ => rfl, Or.inr ⟨hfailure, rfl, hlead ▸ held⟩⟩
  | @served bs slice capped fits =>
    refine ⟨rfl, by simp only; omega, fits, id, Or.inl ⟨?_, ?_, ?_, rfl⟩⟩
    · rcases hbytes bs with hout | hout
      · rw [hout, hlead]
        exact slice
      · rw [hout]
        rfl
    · rcases hbytes bs with hout | hout
      · rw [hout, hlead]
      · rw [hout, hlead]
        exact Nat.le_add_right _ _
    · intro m hm
      rw [hcap, Option.mem_some] at hm
      subst hm
      simp only [hlead]
      omega

theorem bounded_skip (n : UInt64) (h : r.pos ≤ r.data.length) :
    Bounded (.skip n) r (.skipped (r.skip n).1) (r.skip n).2 := by
  unfold skip
  by_cases hshort : r.remaining < n.toNat
  · rw [if_pos hshort]
    exact ⟨rfl, le_rfl, h, fun _ => rfl, Or.inr ⟨rfl, rfl, Nat.le_add_right _ _⟩⟩
  · rw [if_neg hshort]
    unfold remaining at hshort
    exact ⟨rfl, Nat.le_add_right _ _, by simp only; omega, id,
      Or.inl ⟨rfl, Nat.le_add_right _ _, fun m hm => absurd hm (by simp [Call.cap]), rfl⟩⟩

/-- No call leaves the data. -/
theorem bounded_run (c : Call) (h : r.pos ≤ r.data.length) :
    Bounded c r (c.run r).1 (c.run r).2 := by
  cases c with
  | u8 =>
    refine bounded_fixed (v := fun bs => .u8 (UInt8.ofNat (loadLe bs))) h rfl rfl
      (fun bs hbs => ?_) rfl
    obtain ⟨b, rfl⟩ := List.length_eq_one_iff.mp hbs
    simp [Value.bytes, loadLe]
  | u16 =>
    exact bounded_fixed (v := fun bs => .u16 (UInt16.ofNat (loadLe bs))) h rfl rfl
      (fun _ => storeLe_uint16) rfl
  | u32 =>
    exact bounded_fixed (v := fun bs => .u32 (UInt32.ofNat (loadLe bs))) h rfl rfl
      (fun _ => storeLe_uint32) rfl
  | u64 =>
    exact bounded_fixed (v := fun bs => .u64 (UInt64.ofNat (loadLe bs))) h rfl rfl
      (fun _ => storeLe_uint64) rfl
  | i32 =>
    refine bounded_fixed (v := fun bs => .i32 (UInt32.ofNat (loadLe bs)).toInt32) h rfl rfl
      (fun bs hbs => ?_) rfl
    rw [Value.bytes, UInt32.toUInt32_toInt32, storeLe_uint32 hbs]
  | i64 =>
    refine bounded_fixed (v := fun bs => .i64 (UInt64.ofNat (loadLe bs)).toInt64) h rfl rfl
      (fun bs hbs => ?_) rfl
    rw [Value.bytes, UInt64.toUInt64_toInt64, storeLe_uint64 hbs]
  | f32 =>
    exact bounded_fixed (v := fun bs => .f32 ⟨UInt32.ofNat (loadLe bs)⟩) h rfl rfl
      (fun _ => storeLe_uint32) rfl
  | f64 =>
    exact bounded_fixed (v := fun bs => .f64 ⟨UInt64.ofNat (loadLe bs)⟩) h rfl rfl
      (fun _ => storeLe_uint64) rfl
  | bytes hasOut hasActual cap =>
    refine bounded_prefixed (v := fun bs => .copied (copied hasOut hasActual bs)) h rfl rfl rfl
      fun bs => ?_
    cases hasOut
    · exact Or.inr rfl
    · exact Or.inl rfl
  | bytesVec cap =>
    exact bounded_prefixed (v := fun bs => .vec (bs.getD [])) h rfl rfl rfl fun _ => Or.inl rfl
  | string cap =>
    exact bounded_prefixed (v := fun bs => .string (bs.getD [])) h rfl rfl rfl fun _ => Or.inl rfl
  | skip n => exact bounded_skip n h
  | setFail => exact ⟨rfl, le_rfl, h, fun _ => rfl, Or.inr ⟨rfl, rfl, Nat.le_add_right _ _⟩⟩

end Step

/-! ### Any calls in any order -/

/-- The reader after these calls on fresh data. -/
def after (data : Bytes) (calls : List Call) : Reader :=
  Machine.run (fun r (c : Call) => (c.run r).2) { data } calls

theorem run_bounded {r : Reader} (h : r.pos ≤ r.data.length) (calls : List Call) :
    let r' := Machine.run (fun r (c : Call) => (c.run r).2) r calls
    r'.data = r.data ∧ r.pos ≤ r'.pos ∧ r'.pos ≤ r.data.length ∧
      (r.fail = true → r'.fail = true) := by
  induction calls generalizing r with
  | nil => exact ⟨rfl, le_rfl, h, id⟩
  | cons c calls ih =>
    have hstep := bounded_run c h
    obtain ⟨hdata, hforward, hinside, hsticky⟩ :=
      ih (r := (c.run r).2) (hstep.data ▸ hstep.inside)
    exact ⟨hdata.trans hstep.data, hstep.forward.trans hforward, hstep.data ▸ hinside,
      fun hfail => hsticky (hstep.sticky hfail)⟩

/-- After any calls the cursor is inside the data, further calls neither move it back nor
clear its failure flag, and the next call is served from the bytes in front of it or
refused. -/
theorem calls_in_bounds (data : Bytes) (calls more : List Call) (c : Call) :
    (after data calls).data = data ∧ (after data calls).pos ≤ data.length ∧
      (after data calls).pos ≤ (after data (calls ++ more)).pos ∧
      ((after data calls).fail = true → (after data (calls ++ more)).fail = true) ∧
      Bounded c (after data calls) (c.run (after data calls)).1 (c.run (after data calls)).2 := by
  obtain ⟨hdata, -, hinside, -⟩ := run_bounded (r := { data }) (Nat.zero_le _) calls
  have hnow : (after data calls).pos ≤ (after data calls).data.length := by
    rw [show (after data calls).data = data from hdata]
    exact hinside
  obtain ⟨-, hforward, -, hsticky⟩ := run_bounded hnow more
  rw [show after data (calls ++ more) = Machine.run _ (after data calls) more from
    Machine.run_append ..]
  exact ⟨hdata, hinside, hforward, hsticky, bounded_run c hnow⟩

end Reader
end Wire
end AcceleratorHealth
