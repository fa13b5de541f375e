import Mathlib
/-! Streams that arrive in pieces: one receive call hands over at most what was asked
for and never more than one piece, and a loop of such calls gathers a fixed number of
items. What the loop gathers does not depend on where the stream was cut. -/

namespace Chunks
variable {β : Type}

/-- A piece of a stream; an empty piece is never handed over. -/
structure Chunk (β : Type) where
  items : List β
  nonempty : items ≠ []

inductive Arrival (β : Type) where
  | chunk (c : Chunk β)
  | failure

abbrev Source (β : Type) := List (Arrival β)

/-- What one receive call comes back with. -/
inductive Received (β : Type) where
  | items (bs : List β)
  | closed
  | failed

inductive Stop where
  | closed
  | failed
  deriving DecidableEq

/-- What a stream comes to behind its pieces: its end, or a call that fails, whatever would
follow it. -/
def Stop.tail : Stop → Source β → Source β
  | .closed, _ => []
  | .failed, later => .failure :: later

/-- At most `n` items of the first piece; what is left of it stays. -/
def receive (n : Nat) : Source β → Received β × Source β
  | [] => (.closed, [])
  | .failure :: rest => (.failed, rest)
  | .chunk c :: rest =>
    if h : n < c.items.length then
      (.items (c.items.take n),
        .chunk ⟨c.items.drop n, by simpa [List.drop_eq_nil_iff] using h⟩ :: rest)
    else (.items c.items, rest)

theorem receive_pos {n : Nat} (hn : 0 < n) {s rest : Source β} {bs : List β}
    (h : receive n s = (.items bs, rest)) : 0 < bs.length := by
  unfold receive at h
  split at h
  · cases h
  · cases h
  next c _ =>
    have hc : 0 < c.items.length := List.length_pos_of_ne_nil c.nonempty
    split_ifs at h with hlt
    · cases h
      rw [List.length_take]
      omega
    · cases h
      exact hc

/-- The loop `while (got < n)`. -/
def gather (n : Nat) (s : Source β) : Except Stop (List β) × Source β :=
  if hn : n = 0 then (.ok [], s)
  else
    match h : receive n s with
    | (.closed, rest) => (.error .closed, rest)
    | (.failed, rest) => (.error .failed, rest)
    | (.items bs, rest) =>
      have : n - bs.length < n :=
        Nat.sub_lt (Nat.pos_of_ne_zero hn) (receive_pos (Nat.pos_of_ne_zero hn) h)
      let (more, rest) := gather (n - bs.length) rest
      (more.map (bs ++ ·), rest)
termination_by n

/-- Everything the pieces hold. -/
def contents : Source β → List β
  | [] => []
  | .failure :: rest => contents rest
  | .chunk c :: rest => c.items ++ contents rest

/-- A stream cut into pieces, with no failure on the way. -/
structure Cut (bs : List β) where
  source : Source β
  sound : ∀ a ∈ source, ∃ c, a = .chunk c
  whole : contents source = bs

namespace Cut

/-- The same pieces under another name for the stream. -/
def copy {bs bs' : List β} (cut : Cut bs) (h : bs = bs') : Cut bs' :=
  { cut with whole := cut.whole.trans h }

end Cut

theorem gather_zero (s : Source β) : gather 0 s = (.ok [], s) := by
  unfold gather
  exact dif_pos rfl

theorem gather_of_items {n : Nat} (hn : 0 < n) {s rest : Source β} {bs : List β}
    (h : receive n s = (.items bs, rest)) :
    gather n s =
      ((gather (n - bs.length) rest).1.map (bs ++ ·), (gather (n - bs.length) rest).2) := by
  rw [gather, dif_neg (Nat.pos_iff_ne_zero.mp hn)]
  split <;> simp_all

theorem gather_of_stop {n : Nat} (hn : 0 < n) (stop : Stop) (later : Source β) :
    (gather n (stop.tail later)).1 = .error stop := by
  rw [gather, dif_neg (Nat.pos_iff_ne_zero.mp hn)]
  cases stop <;> rfl

/-- The front of an unbroken stream, as long as asked for, and the rest of the stream,
whatever comes behind it. -/
theorem gather_front {bs : List β} (front : Nat) (cut : Cut bs) (tail : Source β)
    (h : front ≤ bs.length) : ∃ rest : Cut (bs.drop front),
      gather front (cut.source ++ tail) = (.ok (bs.take front), rest.source ++ tail) := by
  induction front using Nat.strong_induction_on generalizing bs with
  | _ n ih =>
  rcases Nat.eq_zero_or_pos n with rfl | hn
  · exact ⟨cut, gather_zero _⟩
  obtain ⟨source, hsound, hwhole⟩ := cut
  cases source with
  | nil =>
    subst hwhole
    exact absurd h (by simp [contents]; omega)
  | cons a rest =>
    obtain ⟨c, rfl⟩ := hsound a List.mem_cons_self
    have hrest : ∀ a ∈ rest, ∃ c, a = .chunk c := fun a ha => hsound a (List.mem_cons_of_mem _ ha)
    subst hwhole
    have hc : 0 < c.items.length := List.length_pos_of_ne_nil c.nonempty
    simp only [contents, List.length_append] at h ⊢
    by_cases hlt : n < c.items.length
    · -- the piece holds more than is asked for
      refine ⟨⟨.chunk ⟨c.items.drop n, by simpa [List.drop_eq_nil_iff] using hlt⟩ :: rest,
        ?_, ?_⟩, ?_⟩
      · simpa using hrest
      · rw [contents, List.drop_append_of_le_length hlt.le]
      · have hreceive : receive n (.chunk c :: (rest ++ tail)) = (.items (c.items.take n),
            .chunk ⟨c.items.drop n, by simpa [List.drop_eq_nil_iff] using hlt⟩ :: (rest ++ tail)) :=
          dif_pos hlt
        rw [List.cons_append, gather_of_items hn hreceive, List.length_take,
          Nat.min_eq_left hlt.le, Nat.sub_self, gather_zero, List.take_append_of_le_length hlt.le]
        simp [Except.map]
    · obtain ⟨left, hleft⟩ := ih (n - c.items.length) (by omega) ⟨rest, hrest, rfl⟩ (by omega)
      have hreceive : receive n (.chunk c :: (rest ++ tail)) = (.items c.items, rest ++ tail) :=
        dif_neg hlt
      refine ⟨⟨left.source, left.sound, ?_⟩, ?_⟩
      · rw [left.whole, List.drop_append, List.drop_eq_nil_of_le (Nat.le_of_not_lt hlt)]
        rfl
      · rw [List.cons_append, gather_of_items hn hreceive, hleft, List.take_append,
          List.take_of_length_le (Nat.le_of_not_lt hlt)]
        rfl

theorem gather_cut {bs : List β} (front : Nat) (cut : Cut bs) (h : front ≤ bs.length) :
    ∃ rest : Cut (bs.drop front), gather front cut.source = (.ok (bs.take front), rest.source) := by
  simpa using gather_front front cut [] h

/-- Where the pieces hold less than asked for the loop ends as the stream does. -/
theorem gather_short {bs : List β} {n : Nat} (cut : Cut bs) (stop : Stop) (later : Source β)
    (h : bs.length < n) : (gather n (cut.source ++ stop.tail later)).1 = .error stop := by
  induction n using Nat.strong_induction_on generalizing bs with
  | _ n ih =>
  obtain ⟨source, hsound, hwhole⟩ := cut
  cases source with
  | nil => exact gather_of_stop (by omega) stop later
  | cons a rest =>
    obtain ⟨c, rfl⟩ := hsound a List.mem_cons_self
    have hrest : ∀ a ∈ rest, ∃ c, a = .chunk c := fun a ha => hsound a (List.mem_cons_of_mem _ ha)
    have hc : 0 < c.items.length := List.length_pos_of_ne_nil c.nonempty
    subst hwhole
    simp only [contents, List.length_append] at h
    have hreceive : receive n (.chunk c :: (rest ++ stop.tail later)) =
        (.items c.items, rest ++ stop.tail later) := dif_neg (by omega)
    have htail : (gather (n - c.items.length) (rest ++ stop.tail later)).1 = .error stop :=
      ih (n - c.items.length) (by omega) ⟨rest, hrest, rfl⟩ (by omega)
    rw [List.cons_append, gather_of_items (by omega) hreceive, htail]
    rfl

/-- A stream at its end is closed to every further call. -/
theorem gather_end (cut : Cut ([] : List β)) {n : Nat} (hn : 0 < n) :
    gather n cut.source = (.error .closed, cut.source) := by
  obtain ⟨source, hsound, hwhole⟩ := cut
  cases source with
  | nil =>
    rw [gather, dif_neg (Nat.pos_iff_ne_zero.mp hn)]
    rfl
  | cons a rest =>
    obtain ⟨c, rfl⟩ := hsound a List.mem_cons_self
    simp only [contents, List.append_eq_nil_iff] at hwhole
    exact absurd hwhole.1 c.nonempty

end Chunks
