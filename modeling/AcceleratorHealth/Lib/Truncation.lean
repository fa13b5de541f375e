import AcceleratorHealth.Lib.Codec

/-! Truncated input. A parser that never looks past what it takes reads the same value
when more input follows; one that also checks its cursor before it returns refuses every
strict prefix of what its writer wrote. -/

namespace Codec
variable {ρ β ε η α γ : Type}

namespace View

/-- The same view of a cursor, for writers of fewer than `n` elements. -/
def upTo (V : View ρ β) (n : Nat) : View ρ β := { V with limit := n }

end View

/-- A law for writers that never reach the limit holds under every limit. -/
theorem Law.upTo {V : View ρ β} {w : Except η (List β)} {p : Parser ρ ε α} {c : Prop} {x : α}
    (h : Law V w p c x) (hlimit : ∀ bs, w = .ok bs → bs.length < V.limit) (n : Nat) :
    Law (V.upTo n) w p c x :=
  fun bs hw _ => h bs hw (hlimit bs hw)

/-- Who reads on to a usable cursor started from one, and reads the same when more input
follows. -/
def Extends (V : View ρ β) (p : Parser ρ ε α) : Prop :=
  ∀ r x r', p.run r = .ok (x, r') → V.good r' →
    V.good r ∧ ∀ more long, V.good long → V.rest long = V.rest r ++ more →
      ∃ long', p.run long = .ok (x, long') ∧ V.good long' ∧ V.rest long' = V.rest r' ++ more

/-- The parser only returns with a usable cursor. -/
def Closes (V : View ρ β) (p : Parser ρ ε α) : Prop :=
  ∀ r x r', p.run r = .ok (x, r') → V.good r'

section Rules
variable {V : View ρ β} {p : Parser ρ ε α} {f : α → Parser ρ ε γ}

/-- A sequence returns only where both of its parts do. -/
theorem run_bind_ok {r r'' : ρ} {y : γ} (h : (p >>= f).run r = .ok (y, r'')) :
    ∃ x r', p.run r = .ok (x, r') ∧ (f x).run r' = .ok (y, r'') := by
  rw [StateT.run_bind] at h
  cases hp : p.run r with
  | error e =>
    rw [hp] at h
    cases h
  | ok xr =>
    rw [hp] at h
    exact ⟨xr.1, xr.2, rfl, h⟩

theorem run_bind_of_ok {r r' : ρ} {x : α} (h : p.run r = .ok (x, r')) :
    (p >>= f).run r = (f x).run r' := by
  rw [StateT.run_bind, h]
  rfl

theorem Extends.pure (x : α) : Extends V (pure x : Parser ρ ε α) := by
  intro r y r' hrun hgood
  cases hrun
  exact ⟨hgood, fun more long hlong hrest => ⟨long, rfl, hlong, hrest⟩⟩

theorem Extends.bind (hp : Extends V p) (hf : ∀ x, Extends V (f x)) : Extends V (p >>= f) := by
  intro r y r'' hrun hgood
  obtain ⟨x, r', hx, hy⟩ := run_bind_ok hrun
  obtain ⟨hgood', hlonger'⟩ := hf x r' y r'' hy hgood
  obtain ⟨hgood₀, hlonger⟩ := hp r x r' hx hgood'
  refine ⟨hgood₀, fun more long hlong hrest => ?_⟩
  obtain ⟨mid, hmid, hmidGood, hmidRest⟩ := hlonger more long hlong hrest
  rw [run_bind_of_ok hmid]
  exact hlonger' more mid hmidGood hmidRest

theorem Extends.map {f : α → γ} (hp : Extends V p) :
    Extends V (p >>= fun x => (Pure.pure (f x) : Parser ρ ε γ)) :=
  hp.bind fun x => .pure (f x)

theorem Extends.many (hp : Extends V p) (n : Nat) : Extends V (many p n) := by
  induction n with
  | zero => exact .pure []
  | succ n ih => exact hp.bind fun _ => ih.map

theorem Closes.bind (hf : ∀ x, Closes V (f x)) : Closes V (p >>= f) := by
  intro r y r'' hrun
  obtain ⟨x, r', -, hy⟩ := run_bind_ok hrun
  exact hf x r' y r'' hy

theorem Closes.map {f : α → γ} (hp : Closes V p) :
    Closes V (p >>= fun x => (Pure.pure (f x) : Parser ρ ε γ)) := by
  intro r y r'' hrun
  obtain ⟨x, r', hx, hy⟩ := run_bind_ok hrun
  cases hy
  exact hp r x r'' hx

end Rules

/-- What is missing from the input was not left over, so the parser cannot have read a
value off the cut. -/
theorem Law.refuses_cut {V : View ρ β} {w : Except η (List β)} {p : Parser ρ ε α} {x : α}
    (hlaw : Law V w p True x) (hext : Extends V p) (hcloses : Closes V p)
    {cut missing : List β} (hw : w = .ok (cut ++ missing))
    (hlimit : (cut ++ missing).length < V.limit) (hmissing : missing ≠ []) {r whole : ρ}
    (hr : V.rest r = cut) (hwhole : V.good whole) (hrest : V.rest whole = cut ++ missing) :
    ∃ e, p.run r = .error e := by
  cases hrun : p.run r with
  | error e => exact ⟨e, rfl⟩
  | ok xr =>
    have hgood : V.good xr.2 := hcloses r xr.1 xr.2 hrun
    obtain ⟨whole', hread, -, hleft⟩ :=
      (hext r xr.1 xr.2 hrun hgood).2 missing whole hwhole (by rw [hrest, hr])
    obtain ⟨whole'', hread', -, hempty⟩ :=
      (hlaw _ hw hlimit whole [] hwhole (by rw [hrest, List.append_nil])).1 trivial
    have hsame : whole' = whole'' := by
      have hpair := Except.ok.inj (hread.symm.trans hread')
      exact congrArg Prod.snd hpair
    rw [hsame, hempty] at hleft
    exact absurd (List.append_eq_nil_iff.mp hleft.symm).2 hmissing

end Codec
