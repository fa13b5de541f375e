/-! Computations over a state that may end in a throw and keep every effect made
before it, with the rules for conditions on their two kinds of exit. -/

structure Exit (ε σ α : Type) where
  state : σ
  result : Except ε α

namespace Exit
variable {ε σ τ α β : Type}

def ok (a : α) (s : σ) : Exit ε σ α := ⟨s, .ok a⟩

def throw (e : ε) (s : σ) : Exit ε σ α := ⟨s, .error e⟩

/-- Continue after a normal return; a throw skips the rest. -/
def bind (x : Exit ε σ α) (f : α → σ → Exit ε σ β) : Exit ε σ β :=
  match x.result with
  | .ok a => f a x.state
  | .error e => ⟨x.state, .error e⟩

def andThen (x : Exit ε σ Unit) (f : σ → Exit ε σ β) : Exit ε σ β := x.bind fun _ => f

def mapState (f : σ → τ) (x : Exit ε σ α) : Exit ε τ α := ⟨f x.state, x.result⟩

def mapResult (f : α → β) (x : Exit ε σ α) : Exit ε σ β := ⟨x.state, x.result.map f⟩

/-- Run a body for each element in turn; the first throw leaves the loop. -/
def each (f : α → σ → Exit ε σ Unit) : List α → σ → Exit ε σ Unit
  | [], s => ok () s
  | a :: rest, s => (f a s).andThen (each f rest)

@[simp] theorem ok_state (a : α) (s : σ) : (ok a s : Exit ε σ α).state = s := rfl
@[simp] theorem ok_result (a : α) (s : σ) : (ok a s : Exit ε σ α).result = .ok a := rfl
@[simp] theorem throw_state (e : ε) (s : σ) : (throw e s : Exit ε σ α).state = s := rfl
@[simp] theorem throw_result (e : ε) (s : σ) : (throw e s : Exit ε σ α).result = .error e := rfl
@[simp] theorem ok_andThen (s : σ) (f : σ → Exit ε σ β) : (ok () s).andThen f = f s := rfl
@[simp] theorem throw_andThen (e : ε) (s : σ) (f : σ → Exit ε σ β) :
    (throw e s).andThen f = throw e s := rfl
@[simp] theorem mapState_state (f : σ → τ) (x : Exit ε σ α) :
    (x.mapState f).state = f x.state := rfl
@[simp] theorem mapState_result (f : σ → τ) (x : Exit ε σ α) : (x.mapState f).result = x.result :=
  rfl
@[simp] theorem mapResult_state (f : α → β) (x : Exit ε σ α) : (x.mapResult f).state = x.state :=
  rfl

/-- A normal return meets `Q` and a throw meets `R`. -/
def Sat (x : Exit ε σ α) (Q : α → σ → Prop) (R : ε → σ → Prop) : Prop :=
  match x.result with
  | .ok a => Q a x.state
  | .error e => R e x.state

@[simp] theorem sat_ok {a : α} {s : σ} {Q : α → σ → Prop} {R : ε → σ → Prop} :
    (ok a s).Sat Q R ↔ Q a s := Iff.rfl

@[simp] theorem sat_throw {e : ε} {s : σ} {Q : α → σ → Prop} {R : ε → σ → Prop} :
    (throw e s : Exit ε σ α).Sat Q R ↔ R e s := Iff.rfl

theorem sat_iff {x : Exit ε σ α} {Q : α → σ → Prop} {R : ε → σ → Prop} :
    x.Sat Q R ↔ (∀ a, x.result = .ok a → Q a x.state) ∧
      ∀ e, x.result = .error e → R e x.state := by
  unfold Sat
  cases x.result <;> simp

theorem Sat.mono {x : Exit ε σ α} {Q S : α → σ → Prop} {R T : ε → σ → Prop}
    (h : x.Sat Q R) (hq : ∀ a s, Q a s → S a s) (hr : ∀ e s, R e s → T e s) : x.Sat S T := by
  rw [sat_iff] at h ⊢
  exact ⟨fun a ha => hq _ _ (h.1 a ha), fun e he => hr _ _ (h.2 e he)⟩

theorem Sat.and {x : Exit ε σ α} {Q Q' : α → σ → Prop} {R R' : ε → σ → Prop}
    (h : x.Sat Q R) (h' : x.Sat Q' R') :
    x.Sat (fun a s => Q a s ∧ Q' a s) (fun e s => R e s ∧ R' e s) := by
  rw [sat_iff] at h h' ⊢
  exact ⟨fun a ha => ⟨h.1 a ha, h'.1 a ha⟩, fun e he => ⟨h.2 e he, h'.2 e he⟩⟩

/-- A condition that both kinds of exit meet holds of the state left behind. -/
theorem Sat.state {x : Exit ε σ α} {P : σ → Prop} (h : x.Sat (fun _ => P) (fun _ => P)) :
    P x.state := by
  unfold Sat at h
  split at h <;> exact h

theorem sat_of_state {x : Exit ε σ α} {P : σ → Prop} (h : P x.state) :
    x.Sat (fun _ => P) (fun _ => P) := by
  unfold Sat
  split <;> exact h

theorem Sat.bind {x : Exit ε σ α} {f : α → σ → Exit ε σ β} {P : α → σ → Prop}
    {Q : β → σ → Prop} {R : ε → σ → Prop} (h : x.Sat P R)
    (hf : ∀ a s, P a s → (f a s).Sat Q R) : (x.bind f).Sat Q R := by
  unfold Exit.bind
  rw [sat_iff] at h
  split
  next a ha => exact hf _ _ (h.1 a ha)
  next e he => exact h.2 e he

theorem Sat.andThen {x : Exit ε σ Unit} {f : σ → Exit ε σ β} {P : σ → Prop}
    {Q : β → σ → Prop} {R : ε → σ → Prop} (h : x.Sat (fun _ => P) R)
    (hf : ∀ s, P s → (f s).Sat Q R) : (x.andThen f).Sat Q R :=
  h.bind fun _ s hs => hf s hs

/-- A condition kept by both parts holds after the sequence, however it ends. -/
theorem state_andThen {x : Exit ε σ Unit} {f : σ → Exit ε σ β} {P : σ → Prop}
    (h : P x.state) (hf : ∀ s, P s → P (f s).state) : P (x.andThen f).state :=
  ((sat_of_state h).andThen fun s hs => sat_of_state (hf s hs)).state

theorem Sat.mapState {x : Exit ε σ α} {f : σ → τ} {Q : α → τ → Prop} {R : ε → τ → Prop}
    (h : x.Sat (fun a s => Q a (f s)) (fun e s => R e (f s))) : (x.mapState f).Sat Q R := by
  rw [sat_iff] at h ⊢
  exact h

/-- A computation that does not throw leaves what its normal return meets. -/
theorem Sat.state_of_returns {x : Exit ε σ α} {P : σ → Prop}
    (h : x.Sat (fun _ => P) fun _ _ => False) : P x.state :=
  (h.mono (T := fun _ => P) (fun _ _ h => h) fun _ _ h => h.elim).state

/-- What follows a part that does not throw. -/
theorem Sat.andThen_state {x : Exit ε σ Unit} {f : σ → Exit ε σ β} {P Q : σ → Prop}
    (h : x.Sat (fun _ => P) fun _ _ => False) (hf : ∀ s, P s → Q (f s).state) :
    Q (x.andThen f).state :=
  ((h.mono (T := fun _ => Q) (fun _ _ h => h) fun _ _ h => h.elim).andThen
    fun s hs => sat_of_state (hf s hs)).state

theorem mapResult_mapResult (x : Exit ε σ α) (f : α → β) (g : β → τ) :
    (x.mapResult f).mapResult g = x.mapResult (g ∘ f) := by
  unfold mapResult
  cases x.result <;> rfl

theorem mapResult_unit (x : Exit ε σ Unit) (f : Unit → Unit) : x.mapResult f = x := by
  obtain ⟨state, result⟩ := x
  cases result <;> rfl

/-- Loop rule: the invariant speaks of the elements still to be visited. -/
theorem each_sat {f : α → σ → Exit ε σ Unit} {I : List α → σ → Prop} {R : ε → σ → Prop}
    (hstep : ∀ a rest s, I (a :: rest) s → (f a s).Sat (fun _ => I rest) R) :
    ∀ l s, I l s → (each f l s).Sat (fun _ => I []) R := by
  intro l
  induction l with
  | nil => exact fun s h => h
  | cons a rest ih => exact fun s h => (hstep a rest s h).andThen ih

/-- Loop rule for a condition that every turn keeps on both of its exits. -/
theorem each_state {f : α → σ → Exit ε σ Unit} {P : σ → Prop} {l : List α}
    (hstep : ∀ a ∈ l, ∀ s, P s → P (f a s).state) {s : σ} (h : P s) : P (each f l s).state := by
  induction l generalizing s with
  | nil => exact h
  | cons a rest ih =>
    exact state_andThen (hstep a List.mem_cons_self s h) fun t ht =>
      ih (fun b hb => hstep b (List.mem_cons_of_mem a hb)) ht

/-- Turns that each leave the state as it is, in a row. -/
theorem each_of_fixed {f : α → σ → Exit ε σ Unit} {l : List α} {s : σ}
    (h : ∀ a ∈ l, f a s = ok () s) : each f l s = ok () s := by
  induction l with
  | nil => rfl
  | cons a rest ih =>
    unfold each
    rw [h a List.mem_cons_self]
    exact ih fun b hb => h b (List.mem_cons_of_mem a hb)

end Exit
