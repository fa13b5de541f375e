import Mathlib
/-! Byte codecs: a writer that emits a field list or refuses, a reader that takes
fields off a cursor, and the law that the second undoes the first. A law carries the
condition under which the reader accepts, so that one statement says both what a
reader returns and when it fails. -/

namespace Codec
variable {ρ β ε η α γ : Type}

/-- What a cursor still has to deliver, whether it is still usable, and how much may be
written for it at once. -/
structure View (ρ β : Type) where
  rest : ρ → List β
  good : ρ → Prop
  limit : Nat

abbrev Parser (ρ ε α : Type) := StateT ρ (Except ε) α

/-- Emit the fields in order; the first refusal is the result. -/
def emitAll : List (Except ε (List β)) → Except ε (List β)
  | [] => .ok []
  | w :: ws =>
    match w with
    | .error e => .error e
    | .ok bs =>
      match emitAll ws with
      | .error e => .error e
      | .ok bs' => .ok (bs ++ bs')

theorem emitAll_cons_ok {w : Except ε (List β)} {ws : List (Except ε (List β))} {bs : List β} :
    emitAll (w :: ws) = .ok bs ↔
      ∃ b b', w = .ok b ∧ emitAll ws = .ok b' ∧ bs = b ++ b' := by
  constructor
  · intro h
    cases w with
    | error e => simp [emitAll] at h
    | ok b =>
      cases hws : emitAll ws with
      | error e => simp [emitAll, hws] at h
      | ok b' =>
        simp only [emitAll, hws, Except.ok.injEq] at h
        exact ⟨b, b', rfl, rfl, h.symm⟩
  · rintro ⟨b, b', rfl, hws, rfl⟩
    simp [emitAll, hws]

/-- The writer's bytes are accepted exactly under `c`, and then read back as `x`. -/
def Law (V : View ρ β) (w : Except η (List β)) (p : Parser ρ ε α) (c : Prop) (x : α) : Prop :=
  ∀ bs, w = .ok bs → bs.length < V.limit → ∀ r rest, V.good r → V.rest r = bs ++ rest →
    (c → ∃ r', p.run r = .ok (x, r') ∧ V.good r' ∧ V.rest r' = rest) ∧
    (¬c → ∃ e, p.run r = .error e)

section Rules
variable {V : View ρ β} {w : Except η (List β)} {ws : List (Except η (List β))}
  {p : Parser ρ ε α} {f : α → Parser ρ ε γ} {c c' : Prop} {x : α} {y : γ}

/-- A law that never refuses. -/
theorem Law.of_reads
    (h : ∀ bs, w = .ok bs → ∀ r rest, V.good r → V.rest r = bs ++ rest →
      ∃ r', p.run r = .ok (x, r') ∧ V.good r' ∧ V.rest r' = rest) : Law V w p True x :=
  fun bs hw _ r rest hg hr => ⟨fun _ => h bs hw r rest hg hr, fun hc => absurd trivial hc⟩

theorem Law.congr (h : Law V w p c x) (hc : c ↔ c') : Law V w p c' x := by
  simpa only [Law, hc] using h

theorem Law.pure (x : α) : Law V (emitAll [] : Except η (List β)) (pure x : Parser ρ ε α) True x :=
  Law.of_reads fun bs hw r rest hg hr => ⟨r, rfl, hg, by
    cases hw
    simpa using hr⟩

theorem Law.bind (hp : Law V w p c x) (hf : c → Law V (emitAll ws) (f x) c' y) :
    Law V (emitAll (w :: ws)) (p >>= f) (c ∧ c') y := by
  intro bs hw hlimit r rest hg hr
  obtain ⟨b, b', hb, hb', rfl⟩ := emitAll_cons_ok.mp hw
  rw [List.length_append] at hlimit
  obtain ⟨hok, herr⟩ := hp b hb (by omega) r (b' ++ rest) hg (by rw [hr, List.append_assoc])
  by_cases hc : c
  · obtain ⟨r', hrun, hg', hr'⟩ := hok hc
    obtain ⟨hok', herr'⟩ := hf hc b' hb' (by omega) r' rest hg' hr'
    have hbind : (p >>= f).run r = (f x).run r' := by
      rw [StateT.run_bind, hrun]
      rfl
    rw [hbind]
    exact ⟨fun h => hok' h.2, fun h => herr' fun hc' => h ⟨hc, hc'⟩⟩
  · obtain ⟨e, he⟩ := herr hc
    refine ⟨fun h => absurd h.1 hc, fun _ => ⟨e, ?_⟩⟩
    rw [StateT.run_bind, he]
    rfl

/-- Two unconditional laws in sequence. -/
theorem Law.next (hp : Law V w p True x) (hf : Law V (emitAll ws) (f x) c' y) :
    Law V (emitAll (w :: ws)) (p >>= f) c' y :=
  (hp.bind fun _ => hf).congr (iff_of_eq (true_and c'))

/-- A conversion of what was read. -/
theorem Law.map {f : α → γ} (hp : Law V w p c x) :
    Law V w (p >>= fun y => (Pure.pure (f y) : Parser ρ ε γ)) c (f x) := by
  intro bs hw hlimit r rest hg hr
  obtain ⟨hok, herr⟩ := hp bs hw hlimit r rest hg hr
  constructor
  · intro hc
    obtain ⟨r', hrun, hrest⟩ := hok hc
    refine ⟨r', ?_, hrest⟩
    rw [StateT.run_bind, hrun]
    rfl
  · intro hc
    obtain ⟨e, he⟩ := herr hc
    refine ⟨e, ?_⟩
    rw [StateT.run_bind, he]
    rfl

/-- A check that reads nothing. -/
theorem Law.check {q : Parser ρ ε Unit} {f : Unit → Parser ρ ε γ}
    (hq : ∀ r, V.good r → (c → q.run r = .ok ((), r)) ∧ (¬c → ∃ e, q.run r = .error e))
    (hf : c → Law V w (f ()) c' y) : Law V w (q >>= f) (c ∧ c') y := by
  intro bs hw hlimit r rest hg hr
  by_cases hc : c
  · have hbind : (q >>= f).run r = (f ()).run r := by
      rw [StateT.run_bind, (hq r hg).1 hc]
      rfl
    obtain ⟨hok, herr⟩ := hf hc bs hw hlimit r rest hg hr
    rw [hbind]
    exact ⟨fun h => hok h.2, fun h => herr fun hc' => h ⟨hc, hc'⟩⟩
  · obtain ⟨e, he⟩ := (hq r hg).2 hc
    refine ⟨fun h => absurd h.1 hc, fun _ => ⟨e, ?_⟩⟩
    rw [StateT.run_bind, he]
    rfl

end Rules

/-- Read a known number of records. -/
def many (p : Parser ρ ε α) : Nat → Parser ρ ε (List α)
  | 0 => pure []
  | n + 1 => do
    let x ← p
    let xs ← many p n
    pure (x :: xs)

theorem Law.many {V : View ρ β} {write : α → Except η (List β)} {p : Parser ρ ε α} {xs : List α}
    (h : ∀ x ∈ xs, Law V (write x) p True x) :
    Law V (emitAll (xs.map write)) (Codec.many p xs.length) True xs := by
  induction xs with
  | nil => exact Law.pure []
  | cons x xs ih =>
    have htail := ih fun y hy => h y (List.mem_cons_of_mem x hy)
    intro bs hw hlimit r rest hg hr
    refine ⟨fun _ => ?_, fun hc => absurd trivial hc⟩
    obtain ⟨b, b', hb, hb', rfl⟩ := emitAll_cons_ok.mp hw
    rw [List.length_append] at hlimit
    obtain ⟨r₁, hrun₁, hg₁, hr₁⟩ := (h x List.mem_cons_self b hb (by omega) r (b' ++ rest) hg
      (by rw [hr, List.append_assoc])).1 trivial
    obtain ⟨r₂, hrun₂, hg₂, hr₂⟩ := (htail b' hb' (by omega) r₁ rest hg₁ hr₁).1 trivial
    refine ⟨r₂, ?_, hg₂, hr₂⟩
    simp only [List.length_cons, Codec.many, StateT.run_bind, hrun₁]
    change ((Codec.many p xs.length).run r₁).bind _ = _
    rw [hrun₂]
    rfl

/-- Renaming the reader's error changes neither what it reads nor when it fails. -/
def orError (e : ε) (p : Parser ρ η α) : Parser ρ ε α := fun r =>
  match p.run r with
  | .ok y => .ok y
  | .error _ => .error e

theorem Law.orError {V : View ρ β} {w : Except η (List β)} {ζ : Type} {p : Parser ρ ζ α} {c : Prop}
    {x : α} (e : ε) (h : Law V w p c x) : Law V w (Codec.orError e p) c x := by
  intro bs hw hlimit r rest hg hr
  obtain ⟨hok, herr⟩ := h bs hw hlimit r rest hg hr
  constructor
  · intro hc
    obtain ⟨r', hrun, hrest⟩ := hok hc
    refine ⟨r', ?_, hrest⟩
    simp only [Codec.orError, StateT.run] at hrun ⊢
    rw [hrun]
  · intro hc
    obtain ⟨e', he'⟩ := herr hc
    refine ⟨e, ?_⟩
    simp only [Codec.orError, StateT.run] at he' ⊢
    rw [he']

/-- Records that each take up a byte at least are no more than the bytes written. -/
theorem length_le_of_emitAll {write : α → Except η (List β)} {xs : List α}
    (hpos : ∀ x ∈ xs, ∀ bs, write x = .ok bs → 0 < bs.length) {bs : List β}
    (h : emitAll (xs.map write) = .ok bs) : xs.length ≤ bs.length := by
  induction xs generalizing bs with
  | nil => exact Nat.zero_le _
  | cons x xs ih =>
    obtain ⟨b, b', hb, hb', rfl⟩ := emitAll_cons_ok.mp h
    have hx := hpos x List.mem_cons_self b hb
    have hxs := ih (fun y hy => hpos y (List.mem_cons_of_mem x hy)) hb'
    rw [List.length_cons, List.length_append]
    omega

theorem emitAll_append_ok {ws ws' : List (Except ε (List β))} {bs : List β} :
    emitAll (ws ++ ws') = .ok bs ↔
      ∃ b b', emitAll ws = .ok b ∧ emitAll ws' = .ok b' ∧ bs = b ++ b' := by
  induction ws generalizing bs with
  | nil => simp [emitAll]
  | cons w ws ih =>
    rw [List.cons_append, emitAll_cons_ok]
    simp only [ih]
    constructor
    · rintro ⟨b, _, hw, ⟨b₁, b₂, h₁, h₂, rfl⟩, rfl⟩
      exact ⟨b ++ b₁, b₂, emitAll_cons_ok.mpr ⟨b, b₁, hw, h₁, rfl⟩, h₂, by simp⟩
    · rintro ⟨b, b', h, h', rfl⟩
      obtain ⟨b₁, b₂, hw, hws, rfl⟩ := emitAll_cons_ok.mp h
      exact ⟨b₁, b₂ ++ b', hw, ⟨b₂, b', hws, h', rfl⟩, by simp⟩

/-! ### What a parser can return -/

/-- Whatever the parser returns meets the condition. -/
def Ensures (p : Parser ρ ε α) (P : α → Prop) : Prop := ∀ r x r', p.run r = .ok (x, r') → P x

section Ensures
variable {p : Parser ρ ε α} {f : α → Parser ρ ε γ} {P : α → Prop} {Q : γ → Prop}

theorem Ensures.pure {x : α} (h : P x) : Ensures (pure x : Parser ρ ε α) P := by
  intro r y r' hrun
  cases hrun
  exact h

theorem Ensures.bind (hp : Ensures p P) (hf : ∀ x, P x → Ensures (f x) Q) :
    Ensures (p >>= f) Q := by
  intro r y r'' hrun
  rw [StateT.run_bind] at hrun
  cases hx : p.run r with
  | error e =>
    rw [hx] at hrun
    cases hrun
  | ok xr =>
    rw [hx] at hrun
    exact hf xr.1 (hp r xr.1 xr.2 hx) xr.2 y r'' hrun

/-- A read whose result does not matter. -/
theorem Ensures.skip (hf : ∀ x, Ensures (f x) Q) : Ensures (p >>= f) Q :=
  Ensures.bind (P := fun _ => True) (fun _ _ _ _ => trivial) fun x _ => hf x

end Ensures

/-! ### Sizes -/

/-- The writer succeeds exactly under `c`, and then emits `n` elements. -/
def Sized (w : Except ε (List β)) (c : Prop) (n : Nat) : Prop :=
  (c → ∃ bs, w = .ok bs ∧ bs.length = n) ∧ (¬c → ∃ e, w = .error e)

section Sizes
variable {w : Except ε (List β)} {ws : List (Except ε (List β))} {c c' : Prop} {n m : Nat}

theorem Sized.of_ok {bs : List β} (h : bs.length = n) : Sized (.ok bs : Except ε _) True n :=
  ⟨fun _ => ⟨bs, rfl, h⟩, fun hc => absurd trivial hc⟩

theorem Sized.congr (h : Sized w c n) (hc : c ↔ c') (hn : n = m) : Sized w c' m := by
  subst hn
  simpa only [Sized, hc] using h

theorem Sized.length_eq (h : Sized w c n) {bs : List β} (hw : w = .ok bs) : bs.length = n := by
  by_cases hc : c
  · obtain ⟨b, hb, hn⟩ := h.1 hc
    cases hw.symm.trans hb
    exact hn
  · obtain ⟨e, he⟩ := h.2 hc
    cases hw.symm.trans he

theorem Sized.length_pos (h : Sized w c n) (hn : 0 < n) {bs : List β} (hw : w = .ok bs) :
    0 < bs.length :=
  h.length_eq hw ▸ hn

theorem Sized.ok_iff (h : Sized w c n) : (∃ bs, w = .ok bs) ↔ c := by
  refine ⟨fun ⟨bs, hbs⟩ => Classical.byContradiction fun hc => ?_, fun hc => ?_⟩
  · obtain ⟨e, he⟩ := h.2 hc
    cases hbs.symm.trans he
  · obtain ⟨bs, hbs, -⟩ := h.1 hc
    exact ⟨bs, hbs⟩

theorem Sized.nil : Sized (emitAll [] : Except ε (List β)) True 0 := .of_ok rfl

theorem Sized.cons (h : Sized w c n) (hws : Sized (emitAll ws) c' m) :
    Sized (emitAll (w :: ws)) (c ∧ c') (n + m) := by
  constructor
  · rintro ⟨hc, hc'⟩
    obtain ⟨b, hb, rfl⟩ := h.1 hc
    obtain ⟨b', hb', rfl⟩ := hws.1 hc'
    exact ⟨b ++ b', emitAll_cons_ok.mpr ⟨b, b', hb, hb', rfl⟩, List.length_append⟩
  · intro hc
    cases hall : emitAll (w :: ws) with
    | error e => exact ⟨e, rfl⟩
    | ok bs =>
      obtain ⟨b, b', hb, hb', -⟩ := emitAll_cons_ok.mp hall
      exact absurd ⟨h.ok_iff.mp ⟨b, hb⟩, hws.ok_iff.mp ⟨b', hb'⟩⟩ hc

/-- A field that is never refused. -/
theorem Sized.next (h : Sized w True n) (hws : Sized (emitAll ws) c m) :
    Sized (emitAll (w :: ws)) c (n + m) :=
  (h.cons hws).congr (iff_of_eq (true_and c)) rfl

theorem Sized.map {write : α → Except ε (List β)} {c : α → Prop} {size : α → Nat}
    (h : ∀ x, Sized (write x) (c x) (size x)) (xs : List α) :
    Sized (emitAll (xs.map write)) (∀ x ∈ xs, c x) (xs.map size).sum := by
  induction xs with
  | nil => exact Sized.nil.congr (by simp) rfl
  | cons x xs ih => exact ((h x).cons ih).congr (by simp) (by simp)

end Sizes

end Codec
