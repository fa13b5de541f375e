import AcceleratorHealth.Lib.Truncation

/-! Readers that take more than their writers emit. A field says what is written for it,
which bytes are taken for it, its spellings, and how a spelling looks that is the writer's;
a record is laid out as a list of fields. A parser takes a layout when whatever it accepts
spells the fields of its result. -/

namespace Codec
variable {ρ β ε ζ η α γ : Type}

theorem emitAll_ok_iff {ws : List (Except η (List β))} :
    (∃ bs, emitAll ws = .ok bs) ↔ ∀ w ∈ ws, ∃ bs, w = .ok bs := by
  induction ws with
  | nil => simp [emitAll]
  | cons w ws ih =>
    rw [List.forall_mem_cons, ← ih]
    constructor
    · rintro ⟨bs, h⟩
      obtain ⟨b, b', hw, hws, -⟩ := emitAll_cons_ok.mp h
      exact ⟨⟨b, hw⟩, b', hws⟩
    · rintro ⟨⟨b, hw⟩, b', hws⟩
      exact ⟨b ++ b', emitAll_cons_ok.mpr ⟨b, b', hw, hws, rfl⟩⟩

/-- What is written for a value and what is taken for it. Only what can be written has a
spelling, and all of its spellings have the same length; the plain one is what is written. -/
structure Field (η β : Type) where
  written : Except η (List β)
  Spelling : List β → Prop
  Plain : List β → Prop
  sound : ∀ {bs}, Spelling bs → ∃ w, written = .ok w ∧ w.length = bs.length
  plain_iff : ∀ {bs}, Spelling bs → (Plain bs ↔ written = .ok bs)

/-- The encoder's bytes for a layout. -/
def writeAll (fs : List (Field η β)) : Except η (List β) := emitAll (fs.map Field.written)

theorem writeAll_ok_iff {fs : List (Field η β)} :
    (∃ w, writeAll fs = .ok w) ↔ ∀ f ∈ fs, ∃ w, f.written = .ok w := by
  rw [writeAll, emitAll_ok_iff, List.forall_mem_map]

/-- A spelling of each field, in order. -/
def Spells : List (Field η β) → List β → Prop
  | [], bs => bs = []
  | f :: fs, bs => ∃ b b', f.Spelling b ∧ Spells fs b' ∧ bs = b ++ b'

theorem Spells.sound {fs : List (Field η β)} {bs : List β} (h : Spells fs bs) :
    ∃ w, writeAll fs = .ok w ∧ w.length = bs.length := by
  induction fs generalizing bs with
  | nil =>
    cases h
    exact ⟨[], rfl, rfl⟩
  | cons f fs ih =>
    obtain ⟨b, b', hb, hb', rfl⟩ := h
    obtain ⟨w, hw, hlength⟩ := f.sound hb
    obtain ⟨w', hw', hlength'⟩ := ih hb'
    refine ⟨w ++ w', emitAll_cons_ok.mpr ⟨w, w', hw, hw', rfl⟩, ?_⟩
    rw [List.length_append, List.length_append, hlength, hlength']

/-- A plain spelling of each field, in order. -/
def Plainly : List (Field η β) → List β → Prop
  | [], bs => bs = []
  | f :: fs, bs => ∃ b b', (f.Spelling b ∧ f.Plain b) ∧ Plainly fs b' ∧ bs = b ++ b'

/-- A spelling is what is written exactly when it is plain in every field. -/
theorem Spells.plainly_iff {fs : List (Field η β)} {bs : List β} (h : Spells fs bs) :
    Plainly fs bs ↔ writeAll fs = .ok bs := by
  induction fs generalizing bs with
  | nil =>
    cases h
    exact iff_of_true rfl rfl
  | cons f fs ih =>
    constructor
    · rintro ⟨b, b', ⟨hb, hplain⟩, hplainly, rfl⟩
      obtain ⟨b₁, b₁', hb₁, hb₁', heq⟩ := h
      -- all spellings of a field have the length of what is written
      obtain ⟨w, hw, hlength⟩ := f.sound hb
      obtain ⟨w₁, hw₁, hlength₁⟩ := f.sound hb₁
      cases hw.symm.trans hw₁
      obtain ⟨rfl, rfl⟩ := List.append_inj heq (hlength.symm.trans hlength₁)
      exact emitAll_cons_ok.mpr ⟨b, b', (f.plain_iff hb).mp hplain, (ih hb₁').mp hplainly, rfl⟩
    · intro hwritten
      obtain ⟨b, b', hb, hb', rfl⟩ := h
      obtain ⟨w, w', hw, hw', heq⟩ := emitAll_cons_ok.mp hwritten
      obtain ⟨w₁, hw₁, hlength⟩ := f.sound hb
      cases hw.symm.trans hw₁
      obtain ⟨rfl, rfl⟩ := List.append_inj heq hlength.symm
      exact ⟨b, b', ⟨hb, (f.plain_iff hb).mpr hw⟩, (ih hb').mpr hw', rfl⟩

theorem spells_append {fs fs' : List (Field η β)} {bs : List β} :
    Spells (fs ++ fs') bs ↔ ∃ b b', Spells fs b ∧ Spells fs' b' ∧ bs = b ++ b' := by
  induction fs generalizing bs with
  | nil => simp [Spells]
  | cons f fs ih =>
    rw [List.cons_append, Spells]
    simp only [ih]
    constructor
    · rintro ⟨b, _, hf, ⟨b₁, b₂, h₁, h₂, rfl⟩, rfl⟩
      exact ⟨b ++ b₁, b₂, ⟨b, b₁, hf, h₁, rfl⟩, h₂, by simp⟩
    · rintro ⟨_, b', ⟨b₁, b₂, hf, h₂, rfl⟩, h', rfl⟩
      exact ⟨b₁, b₂ ++ b', hf, ⟨b₂, b', h₂, h', rfl⟩, by simp⟩

namespace Field

/-- A field with one spelling, what is written. -/
def exact (w : Except η (List β)) : Field η β where
  written := w
  Spelling bs := w = .ok bs
  Plain _ := True
  sound := fun {bs} h => ⟨bs, h, rfl⟩
  plain_iff := fun h => iff_of_true trivial h

/-- A record as one field of a larger one. -/
def record (fs : List (Field η β)) : Field η β where
  written := writeAll fs
  Spelling := Spells fs
  Plain := Plainly fs
  sound := Spells.sound
  plain_iff := Spells.plainly_iff

@[simp] theorem written_exact (w : Except η (List β)) : (exact w).written = w := rfl

@[simp] theorem written_record (fs : List (Field η β)) : (record fs).written = writeAll fs := rfl

end Field

/-- What fields without a choice spell is what is written for them. -/
theorem spells_exact {ws : List (Except η (List β))} {bs : List β} :
    Spells (ws.map Field.exact) bs ↔ emitAll ws = .ok bs := by
  induction ws generalizing bs with
  | nil =>
    rw [List.map_nil, Spells, emitAll, Except.ok.injEq, eq_comm]
  | cons w ws ih =>
    rw [List.map_cons, Spells, emitAll_cons_ok]
    simp only [ih, Field.exact]

theorem spells_singleton {f : Field η β} {bs : List β} : Spells [f] bs ↔ f.Spelling bs := by
  simp [Spells]

/-! ### Parsers -/

/-- Who reads on to a usable cursor started from one and took a spelling of the layout. -/
def Takes (V : View ρ β) (p : Parser ρ ε α) (layout : α → List (Field η β)) : Prop :=
  ∀ r x r', p.run r = .ok (x, r') → V.good r' →
    V.good r ∧ ∃ bs, V.rest r = bs ++ V.rest r' ∧ Spells (layout x) bs

/-- The end of a record whose first fields are already taken; `after` puts those before
the others. The parser leaves a usable cursor, and the fields it took complete a layout of
its result. -/
def Completes (V : View ρ β) (after : List (Field η β) → List (Field η β)) (p : Parser ρ ε α)
    (Layout : α → List (Field η β) → Prop) : Prop :=
  ∀ r x r', p.run r = .ok (x, r') →
    V.good r' ∧ V.good r ∧
      ∃ fs bs, Layout x (after fs) ∧ V.rest r = bs ++ V.rest r' ∧ Spells fs bs

/-- The parser moves no cursor. -/
def ReadsNothing (p : Parser ρ ε α) : Prop := ∀ r x r', p.run r = .ok (x, r') → r' = r

section Rules
variable {V : View ρ β} {p : Parser ρ ε α} {f : α → Parser ρ ε γ}
  {layout : α → List (Field η β)} {Layout : γ → List (Field η β) → Prop}
  {after : List (Field η β) → List (Field η β)}

theorem ReadsNothing.pure (x : α) : ReadsNothing (pure x : Parser ρ ε α) := by
  intro r y r' hrun
  cases hrun
  rfl

theorem ReadsNothing.bind (hp : ReadsNothing p) (hf : ∀ x, ReadsNothing (f x)) :
    ReadsNothing (p >>= f) := by
  intro r y r'' hrun
  obtain ⟨x, r', hx, hy⟩ := run_bind_ok hrun
  rw [hf x r' y r'' hy, hp r x r' hx]

theorem Takes.pure {x : α} (h : layout x = []) : Takes V (pure x : Parser ρ ε α) layout := by
  intro r y r' hrun hgood
  cases hrun
  refine ⟨hgood, [], rfl, ?_⟩
  rw [h]
  rfl

theorem Takes.congr {layout' : α → List (Field η β)} (h : Takes V p layout)
    (hl : ∀ x bs, Spells (layout x) bs → Spells (layout' x) bs) : Takes V p layout' := by
  intro r x r' hrun hgood
  obtain ⟨hr, bs, hrest, hbs⟩ := h r x r' hrun hgood
  exact ⟨hr, bs, hrest, hl x bs hbs⟩

/-- A conversion of what was read. -/
theorem Takes.map {f : α → γ} {l : γ → List (Field η β)} (hp : Takes V p fun x => l (f x)) :
    Takes V (p >>= fun x => (Pure.pure (f x) : Parser ρ ε γ)) l := by
  intro r y r'' hrun hgood
  obtain ⟨x, r', hx, hy⟩ := run_bind_ok hrun
  cases hy
  exact hp r x r'' hx hgood

/-- A check of what was read. -/
theorem Takes.checked {p : Parser ρ ε α} {q : Parser ρ ε γ} {layout : γ → List (Field η β)}
    (hp : ReadsNothing p) (hq : Takes V q layout) : Takes V (p >>= fun _ => q) layout := by
  intro r y r'' hrun hgood
  obtain ⟨x, r', hx, hy⟩ := run_bind_ok hrun
  rw [hp r x r' hx] at hy
  exact hq r y r'' hy hgood

theorem Takes.orError {p : Parser ρ ζ α} (e : ε) (h : Takes V p layout) :
    Takes V (Codec.orError e p) layout := by
  intro r x r' hrun hgood
  apply h r x r' _ hgood
  simp only [Codec.orError, StateT.run] at hrun ⊢
  cases hp : p r with
  | error e' => simp [hp] at hrun
  | ok y => simpa [hp] using hrun

/-- Two parts in sequence, when the second knows what the first returned. -/
theorem Takes.append {m whole : γ → List (Field η β)} (hp : Takes V p layout)
    (hf : ∀ x, Takes V (f x) m)
    (hwhole : ∀ x r y r', (f x).run r = .ok (y, r') → whole y = layout x ++ m y) :
    Takes V (p >>= f) whole := by
  intro r y r'' hrun hgood
  obtain ⟨x, r', hx, hy⟩ := run_bind_ok hrun
  obtain ⟨hgood', b', hrest', hb'⟩ := hf x r' y r'' hy hgood
  obtain ⟨hgood₀, b, hrest, hb⟩ := hp r x r' hx hgood'
  refine ⟨hgood₀, b ++ b', by rw [hrest, hrest', List.append_assoc], ?_⟩
  rw [hwhole x r' y r'' hy]
  exact spells_append.mpr ⟨b, b', hb, hb', rfl⟩

theorem ensures_many {p : Parser ρ ε α} (n : Nat) :
    Ensures (Codec.many p n) fun xs => xs.length = n := by
  induction n with
  | zero => exact .pure rfl
  | succ n ih => exact .skip fun _ => ih.bind fun xs hxs => .pure (by rw [List.length_cons, hxs])

theorem Takes.many {field : α → Field η β} (hp : Takes V p fun x => [field x]) (n : Nat) :
    Takes V (Codec.many p n) fun xs => xs.map field := by
  induction n with
  | zero => exact .pure rfl
  | succ n ih =>
    intro r ys r'' hrun hgood
    obtain ⟨x, r₁, hx, hrun⟩ := run_bind_ok hrun
    obtain ⟨xs, r₂, hxs, hy⟩ := run_bind_ok hrun
    cases hy
    obtain ⟨hgood₁, b', hrest', hb'⟩ := ih r₁ xs r'' hxs hgood
    obtain ⟨hgood₀, b, hrest, hb⟩ := hp r x r₁ hx hgood₁
    exact ⟨hgood₀, b ++ b', by rw [hrest, hrest', List.append_assoc], b, b',
      spells_singleton.mp hb, hb', rfl⟩

/-- Fields in a row as one field. -/
theorem Takes.record (h : Takes V p layout) : Takes V p fun x => [.record (layout x)] :=
  h.congr fun x _ hbs => (spells_singleton (f := .record (layout x))).mpr hbs

/-- The next fields of a record; `P` is what their reader makes sure of. -/
theorem Completes.ensured {P : α → Prop} (hp : Takes V p layout) (hP : Ensures p P)
    (hf : ∀ x, P x → Completes V (fun fs => after (layout x ++ fs)) (f x) Layout) :
    Completes V after (p >>= f) Layout := by
  intro r y r'' hrun
  obtain ⟨x, r', hx, hy⟩ := run_bind_ok hrun
  obtain ⟨hgood, hgood', fs, b', hlayout, hrest', hb'⟩ := hf x (hP r x r' hx) r' y r'' hy
  obtain ⟨hgood₀, b, hrest, hb⟩ := hp r x r' hx hgood'
  refine ⟨hgood, hgood₀, layout x ++ fs, b ++ b', hlayout, ?_, ?_⟩
  · rw [hrest, hrest', List.append_assoc]
  · exact spells_append.mpr ⟨b, b', hb, hb', rfl⟩

theorem Completes.next (hp : Takes V p layout)
    (hf : ∀ x, Completes V (fun fs => after (layout x ++ fs)) (f x) Layout) :
    Completes V after (p >>= f) Layout :=
  .ensured (P := fun _ => True) hp (fun _ _ _ _ => trivial) fun x _ => hf x

/-- A step that reads nothing. -/
theorem Completes.skip {P : α → Prop} (hp : ReadsNothing p) (hP : Ensures p P)
    (hf : ∀ x, P x → Completes V after (f x) Layout) : Completes V after (p >>= f) Layout := by
  intro r y r'' hrun
  obtain ⟨x, r', hx, hy⟩ := run_bind_ok hrun
  rw [hp r x r' hx] at hy
  exact hf x (hP r x r' hx) r y r'' hy

/-- The last fields: the cursor is checked, and nothing is read after that. -/
theorem Completes.guarded (hp : ReadsNothing p) (hgood : Closes V p)
    (hf : ∀ x, ReadsNothing (f x)) (hlayout : ∀ x, Ensures (f x) fun y => Layout y (after [])) :
    Completes V after (p >>= f) Layout := by
  intro r y r'' hrun
  obtain ⟨x, r', hx, hy⟩ := run_bind_ok hrun
  have hr'' := hf x r' y r'' hy
  have hr' := hp r x r' hx
  subst hr'' hr'
  exact ⟨hgood _ x _ hx, hgood _ x _ hx, [], [], hlayout x _ y _ hy, rfl, rfl⟩

theorem Completes.closes {Layout : α → List (Field η β) → Prop}
    (h : Completes V after p Layout) : Closes V p :=
  fun r x r' hrun => (h r x r' hrun).1

theorem Completes.takes (h : Completes V id p fun x fs => fs = layout x) : Takes V p layout := by
  intro r x r' hrun _
  obtain ⟨-, hgood, fs, bs, hlayout, hrest, hbs⟩ := h r x r' hrun
  exact ⟨hgood, bs, hrest, hlayout ▸ hbs⟩

/-- A record without a choice of spelling. -/
theorem Completes.takes_exact {write : α → Except η (List β)}
    (h : Completes V id p fun x fs => ∃ ws, write x = emitAll ws ∧ fs = ws.map Field.exact) :
    Takes V p fun x => [.exact (write x)] := by
  intro r x r' hrun _
  obtain ⟨-, hgood, fs, bs, ⟨ws, hws, hfs⟩, hrest, hbs⟩ := h r x r' hrun
  refine ⟨hgood, bs, hrest, spells_singleton.mpr ?_⟩
  rw [show fs = ws.map Field.exact from hfs, spells_exact] at hbs
  exact hws.trans hbs

end Rules
end Codec
