import Mathlib
/-! Messages off a stream, read piece by piece. A reader asks for some number of items at
a time and is given at most that many; the messages it ends up with are those of the
stream, however the pieces were cut. -/

namespace Assembly
variable {β μ ε : Type}

/-- What the items read for one message amount to. -/
inductive Verdict (μ ε : Type) where
  | more (n : Nat)
  | message (m : μ)
  | refused (e : ε)

/-- A reader that asks on for what a short piece leaves missing. -/
structure Format (β μ ε : Type) where
  judge : List β → Verdict μ ε
  start : ∃ n, judge [] = .more n
  pos : ∀ {held n}, judge held = .more n → 0 < n
  short : ∀ {held n} piece, judge held = .more n → piece.length < n →
    ∃ k, judge (held ++ piece) = .more k ∧ k + piece.length = n

/-- The messages read, the items of the unfinished one, and why reading ended. -/
@[ext] structure Progress (β μ ε : Type) where
  messages : List μ := []
  held : List β := []
  refusal : Option ε := none

namespace Format
variable (F : Format β μ ε)

/-- The items of one message, complete or not, with the messages before it. -/
def settle (messages : List μ) (held : List β) : Progress β μ ε :=
  match F.judge held with
  | .more _ => { messages, held }
  | .message m => { messages := messages ++ [m] }
  | .refused e => { messages, held, refusal := some e }

/-- One more item; after a refusal nothing is read. -/
def push (p : Progress β μ ε) (b : β) : Progress β μ ε :=
  match p.refusal with
  | some _ => p
  | none => F.settle p.messages (p.held ++ [b])

def feed (p : Progress β μ ε) (items : List β) : Progress β μ ε := items.foldl F.push p

def assemble (items : List β) : Progress β μ ε := F.feed {} items

/-- Reading goes on, with `n` items asked for. -/
def Asks (p : Progress β μ ε) (n : Nat) : Prop := p.refusal = none ∧ F.judge p.held = .more n

variable {F} {p : Progress β μ ε} {items more : List β} {n : Nat}

@[simp] theorem feed_nil (p : Progress β μ ε) : F.feed p [] = p := rfl

theorem feed_cons (p : Progress β μ ε) (b : β) (rest : List β) :
    F.feed p (b :: rest) = F.feed (F.push p b) rest := rfl

theorem feed_singleton (p : Progress β μ ε) (b : β) : F.feed p [b] = F.push p b := rfl

theorem feed_append (p : Progress β μ ε) (items more : List β) :
    F.feed p (items ++ more) = F.feed (F.feed p items) more := List.foldl_append

theorem assemble_append (items more : List β) :
    F.assemble (items ++ more) = F.feed (F.assemble items) more := feed_append ..

theorem settle_of_more {messages : List μ} {held : List β} (h : F.judge held = .more n) :
    F.settle messages held = { messages, held } := by
  unfold settle
  rw [h]

theorem settle_of_message {messages : List μ} {held : List β} {m : μ}
    (h : F.judge held = .message m) :
    F.settle messages held = { messages := messages ++ [m] } := by
  unfold settle
  rw [h]

theorem settle_of_refused {messages : List μ} {held : List β} {e : ε}
    (h : F.judge held = .refused e) :
    F.settle messages held = { messages, held, refusal := some e } := by
  unfold settle
  rw [h]

theorem push_of_open (h : p.refusal = none) (b : β) :
    F.push p b = F.settle p.messages (p.held ++ [b]) := by
  unfold push
  rw [h]

/-- A refusal ends the reading. -/
theorem feed_of_refused {e : ε} (h : p.refusal = some e) (items : List β) : F.feed p items = p := by
  induction items with
  | nil => rfl
  | cons b rest ih =>
    have hpush : F.push p b = p := by
      unfold push
      rw [h]
    rw [feed_cons, hpush, ih]

theorem asks_settle {messages : List μ} {held : List β}
    (h : (F.settle messages held).refusal = none) : ∃ n, F.Asks (F.settle messages held) n := by
  cases hjudge : F.judge held with
  | more n =>
    rw [settle_of_more hjudge]
    exact ⟨n, rfl, hjudge⟩
  | message m =>
    obtain ⟨n, hn⟩ := F.start
    refine ⟨n, h, ?_⟩
    simp only [settle, hjudge]
    exact hn
  | refused e =>
    simp only [settle, hjudge] at h
    cases h

/-- An open reader asks for something. -/
theorem asks_feed (hp : p.refusal = none → ∃ n, F.Asks p n) (items : List β)
    (h : (F.feed p items).refusal = none) : ∃ n, F.Asks (F.feed p items) n := by
  induction items generalizing p with
  | nil => exact hp h
  | cons b rest ih =>
    refine ih (fun hopen => ?_) h
    cases hrefusal : p.refusal with
    | some e =>
      have hpush : F.push p b = p := by
        unfold push
        rw [hrefusal]
      rw [hpush, hrefusal] at hopen
      cases hopen
    | none =>
      rw [push_of_open hrefusal] at hopen ⊢
      exact asks_settle hopen

theorem asks_assemble (h : (F.assemble items).refusal = none) : ∃ n, F.Asks (F.assemble items) n :=
  asks_feed (fun _ => F.start.imp fun _ hn => ⟨rfl, hn⟩) items h

/-- A piece of at most what is asked for is judged as a whole. -/
theorem feed_piece (hp : F.Asks p n) {piece : List β} (hne : piece ≠ []) (hlen : piece.length ≤ n) :
    F.feed p piece = F.settle p.messages (p.held ++ piece) := by
  induction piece using List.reverseRecOn with
  | nil => exact absurd rfl hne
  | append_singleton front b ih =>
    rw [List.length_append, List.length_singleton] at hlen
    rcases eq_or_ne front [] with rfl | hfront
    · exact push_of_open hp.1 b
    · -- the front falls short, so the reader holds it and asks on
      obtain ⟨k, hk, -⟩ := F.short front hp.2 (by omega)
      rw [feed_append, ih hfront (by omega), settle_of_more hk, feed_singleton, push_of_open rfl,
        List.append_assoc]

/-- Reading does not depend on what has been read before. -/
theorem settle_after (before messages : List μ) (held : List β) :
    F.settle (before ++ messages) held =
      { F.settle messages held with messages := before ++ (F.settle messages held).messages } := by
  unfold settle
  split <;> simp

theorem feed_after (before : List μ) (p : Progress β μ ε) (items : List β) :
    F.feed { p with messages := before ++ p.messages } items =
      { F.feed p items with messages := before ++ (F.feed p items).messages } := by
  induction items generalizing p with
  | nil => rfl
  | cons b rest ih =>
    have hpush : F.push { p with messages := before ++ p.messages } b =
        { F.push p b with messages := before ++ (F.push p b).messages } := by
      cases hrefusal : p.refusal with
      | some e => simp only [push, hrefusal]
      | none =>
        rw [push_of_open hrefusal]
        simp only [push, settle_after]
    rw [feed_cons, hpush, ih, feed_cons]

/-! ### What more items add -/

theorem messages_settle (messages : List μ) (held : List β) :
    messages <+: (F.settle messages held).messages := by
  unfold settle
  split
  · exact List.prefix_refl _
  · exact List.prefix_append _ _
  · exact List.prefix_refl _

theorem messages_feed (p : Progress β μ ε) (items : List β) :
    p.messages <+: (F.feed p items).messages := by
  induction items generalizing p with
  | nil => exact List.prefix_refl _
  | cons b rest ih =>
    refine List.IsPrefix.trans ?_ (ih (F.push p b))
    unfold push
    split
    · exact List.prefix_refl _
    · exact messages_settle ..

/-- What has been read stays read. -/
theorem messages_of_front (h : items <+: more) :
    (F.assemble items).messages <+: (F.assemble more).messages := by
  obtain ⟨rest, rfl⟩ := h
  rw [assemble_append]
  exact messages_feed ..

theorem refusal_of_front {e : ε} (h : items <+: more)
    (hrefused : (F.assemble items).refusal = some e) :
    F.assemble more = F.assemble items := by
  obtain ⟨rest, rfl⟩ := h
  rw [assemble_append, feed_of_refused hrefused]

/-! ### Encodings -/

/-- The items make up this message, and not before the last of them. -/
structure Encodes (F : Format β μ ε) (items : List β) (m : μ) : Prop where
  whole : F.judge items = .message m
  strict : ∀ n < items.length, ∃ k, F.judge (items.take n) = .more k

theorem Encodes.ne_nil {m : μ} (h : F.Encodes items m) : items ≠ [] := by
  rintro rfl
  obtain ⟨n, hn⟩ := F.start
  rw [h.whole] at hn
  cases hn

theorem feed_take {m : μ} (h : F.Encodes items m) (messages : List μ) (hn : n < items.length) :
    F.feed { messages } (items.take n) = { messages, held := items.take n } := by
  induction n with
  | zero => rfl
  | succ n ih =>
    obtain ⟨k, hk⟩ := h.strict (n + 1) hn
    rw [List.take_add_one, List.getElem?_eq_getElem (by omega), Option.toList_some] at hk ⊢
    rw [feed_append, ih (by omega), feed_singleton, push_of_open rfl]
    exact settle_of_more hk

/-- An encoding is read as its message. -/
theorem feed_encoding {m : μ} (h : F.Encodes items m) (messages : List μ) :
    F.feed { messages } items = { messages := messages ++ [m] } := by
  have hlen := List.length_pos_of_ne_nil h.ne_nil
  have hsplit : items.take (items.length - 1) ++ [items.getLast h.ne_nil] = items := by
    rw [← List.dropLast_eq_take]
    exact List.dropLast_append_getLast h.ne_nil
  have hfront := feed_take h messages (n := items.length - 1) (by omega)
  calc F.feed { messages } items
      = F.feed { messages } (items.take (items.length - 1) ++ [items.getLast h.ne_nil]) := by
        rw [hsplit]
    _ = F.push { messages, held := items.take (items.length - 1) } (items.getLast h.ne_nil) := by
        rw [feed_append, hfront, feed_singleton]
    _ = F.settle messages items := by
        rw [push_of_open rfl]
        simp only [hsplit]
    _ = { messages := messages ++ [m] } := settle_of_message h.whole

/-- Encodings in a row are read as their messages. -/
theorem feed_encodings {parts : List (List β)} {ms : List μ} (h : List.Forall₂ F.Encodes parts ms)
    (messages : List μ) : F.feed { messages } parts.flatten = { messages := messages ++ ms } := by
  induction h generalizing messages with
  | nil => simp
  | cons hfirst _ ih =>
    rw [List.flatten_cons, feed_append, feed_encoding hfirst, ih, List.append_assoc]
    rfl

theorem assemble_encodings {parts : List (List β)} {ms : List μ}
    (h : List.Forall₂ F.Encodes parts ms) : F.assemble parts.flatten = { messages := ms } :=
  feed_encodings h []

/-- Of encodings in a row, any front of the stream gives a front of the messages. -/
theorem assemble_of_front {parts : List (List β)} {ms : List μ}
    (h : List.Forall₂ F.Encodes parts ms) (hfront : items <+: parts.flatten) :
    (F.assemble items).messages <+: ms ∧ (F.assemble items).refusal = none := by
  constructor
  · have hmessages := messages_of_front (F := F) hfront
    rwa [assemble_encodings h] at hmessages
  · cases hrefusal : (F.assemble items).refusal with
    | none => rfl
    | some e =>
      rw [← refusal_of_front hfront hrefusal, assemble_encodings h] at hrefusal
      cases hrefusal

end Format
end Assembly
