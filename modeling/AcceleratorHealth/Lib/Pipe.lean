import Mathlib
/-! A reliable one-way stream between two parties: what has been written, how much of it
has been fetched, and how the writer's end stands. -/

/-- A stream that keeps all it was given, with the reader's position in it. -/
structure Pipe (β : Type) where
  sent : List β := []
  taken : Nat := 0
  within : taken ≤ sent.length := by simp
  shut : Bool := false
  broken : Bool := false

namespace Pipe
variable {β : Type}

def received (p : Pipe β) : List β := p.sent.take p.taken

/-- Written and not yet fetched. -/
def flight (p : Pipe β) : List β := p.sent.drop p.taken

/-- A shut or broken end takes nothing more. -/
def write (items : List β) (p : Pipe β) : Pipe β :=
  if p.shut ∨ p.broken then p
  else
    { p with
      sent := p.sent ++ items
      within := by
        rw [List.length_append]
        exact p.within.trans (by omega) }

def close (p : Pipe β) : Pipe β := { p with shut := true }

def fail (p : Pipe β) : Pipe β := { p with broken := true }

/-- At most `n` items of those under way. -/
def fetch (n : Nat) (p : Pipe β) : Pipe β :=
  { p with
    taken := p.taken + (p.flight.take n).length
    within := by
      have := p.within
      rw [List.length_take, flight, List.length_drop]
      omega }

variable (p : Pipe β) (items : List β) (n : Nat)

theorem received_prefix : p.received <+: p.sent := List.take_prefix ..

theorem received_append_flight : p.received ++ p.flight = p.sent := List.take_append_drop ..

@[simp] theorem fetch_sent : (p.fetch n).sent = p.sent := rfl
@[simp] theorem fetch_shut : (p.fetch n).shut = p.shut := rfl
@[simp] theorem fetch_broken : (p.fetch n).broken = p.broken := rfl
@[simp] theorem close_sent : p.close.sent = p.sent := rfl
@[simp] theorem close_broken : p.close.broken = p.broken := rfl
@[simp] theorem close_received : p.close.received = p.received := rfl
@[simp] theorem close_flight : p.close.flight = p.flight := rfl
@[simp] theorem fail_sent : p.fail.sent = p.sent := rfl
@[simp] theorem fail_broken : p.fail.broken = true := rfl
@[simp] theorem fail_received : p.fail.received = p.received := rfl
@[simp] theorem fail_flight : p.fail.flight = p.flight := rfl

@[simp] theorem fetch_received : (p.fetch n).received = p.received ++ p.flight.take n := by
  simp only [received, fetch, flight]
  rw [List.take_add, List.length_take, List.length_drop]
  congr 1
  rcases Nat.le_total n (p.sent.length - p.taken) with h | h
  · rw [Nat.min_eq_left h]
  · rw [Nat.min_eq_right h, List.take_of_length_le (by simp),
      List.take_of_length_le (by simpa using h)]

@[simp] theorem fetch_flight : (p.fetch n).flight = p.flight.drop n := by
  have h := (p.fetch n).received_append_flight
  rw [fetch_received, fetch_sent, ← p.received_append_flight, List.append_assoc] at h
  have hrest := List.append_cancel_left h
  nth_rewrite 2 [← List.take_append_drop n p.flight] at hrest
  exact List.append_cancel_left hrest

/-- The reader has what it had. -/
@[simp] theorem write_received : (p.write items).received = p.received := by
  unfold write
  split_ifs
  · rfl
  · exact List.take_append_of_le_length p.within

@[simp] theorem write_shut : (p.write items).shut = p.shut := by
  unfold write
  split_ifs <;> rfl

@[simp] theorem write_broken : (p.write items).broken = p.broken := by
  unfold write
  split_ifs <;> rfl

end Pipe
