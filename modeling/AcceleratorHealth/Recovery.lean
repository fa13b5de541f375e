import AcceleratorHealth.ChangeLog

/-! Recovery cannot be bypassed: outside recovery a device only moves forward in the
order of the states, and it is HEALTHY again only after a passing revalidation. -/
namespace AcceleratorHealth

/-- The states that a device can be in, those outside recovery in their order. -/
def HealthState.rank : HealthState → Nat
  | .initializing => 0
  | .healthy => 1
  | .degraded => 2
  | .unhealthy => 3
  | .failed => 4
  | .quarantined => 5
  | .lost => 6
  | _ => 0

def HealthState.ordered : List HealthState :=
  [.initializing, .healthy, .degraded, .unhealthy, .failed, .quarantined, .lost]

/-- The recovery flag fits the state, and only a device without a log is INITIALIZING. -/
structure Device.Regular (d : Device) : Prop where
  known : d.inRecovery = false → d.state ∈ HealthState.ordered
  recovery : d.inRecovery → d.state = .recovering ∨ d.state = .revalidating ∨ d.state = .lost
  initial : d.state = .initializing → d.changes = []

/-- A log extended without a late record into HEALTHY, but one that leaves REVALIDATING
when `passing` allows it. -/
def Gated (passing : Prop) (log log' : List HealthChange) : Prop :=
  log <+: log' ∧ ∀ i hc, log.length ≤ i → log'[i]? = some hc → hc.toState = .healthy →
    i = 0 ∨ (passing ∧ hc.fromState = .revalidating)

section Gated
variable {passing : Prop} {log log' log'' : List HealthChange} {hc : HealthChange}

theorem Gated.refl : Gated passing log log :=
  ⟨List.prefix_refl _, fun i hc hi hget _ => by
    rw [List.getElem?_eq_none hi] at hget
    cases hget⟩

theorem Gated.trans (h : Gated passing log log') (h' : Gated passing log' log'') :
    Gated passing log log'' := by
  refine ⟨h.1.trans h'.1, fun i hc hi hget hhealthy => ?_⟩
  by_cases hlt : i < log'.length
  · refine h.2 i hc hi ?_ hhealthy
    obtain ⟨rest, rfl⟩ := h'.1
    rwa [List.getElem?_append_left hlt] at hget
  · exact h'.2 i hc (Nat.le_of_not_lt hlt) hget hhealthy

theorem Gated.append
    (h : hc.toState = .healthy → log = [] ∨ (passing ∧ hc.fromState = .revalidating)) :
    Gated passing log (log ++ [hc]) := by
  refine ⟨List.prefix_append _ _, fun i hc' hi hget hhealthy => ?_⟩
  rw [List.getElem?_append_right hi, List.getElem?_singleton] at hget
  split_ifs at hget with hzero
  cases hget
  rcases h hhealthy with hnil | hpass
  · left
    simp only [hnil, List.length_nil] at hi hzero
    omega
  · exact Or.inr hpass

end Gated

/-- What a call may make of a regular device, whether or not it enters recovery. -/
structure Device.Follows (passing : Prop) (d d' : Device) : Prop where
  regular : d'.Regular
  gated : Gated passing d.changes d'.changes
  forward : d.inRecovery = false → d'.inRecovery = false ∧ d.state.rank ≤ d'.state.rank

namespace Device.Follows
variable {passing : Prop} {d d' d'' : Device}

theorem refl (h : d.Regular) : Follows passing d d := ⟨h, .refl, fun h => ⟨h, Nat.le_refl _⟩⟩

theorem trans (h : Follows passing d d') (h' : Follows passing d' d'') :
    Follows passing d d'' where
  regular := h'.regular
  gated := h.gated.trans h'.gated
  forward hr :=
    have ⟨hr', hle⟩ := h.forward hr
    have ⟨hr'', hle'⟩ := h'.forward hr'
    ⟨hr'', Nat.le_trans hle hle'⟩

/-- An edit of other fields. -/
theorem of_edit (h : d.Regular)
    (heq : (d'.state, d'.inRecovery, d'.changes) = (d.state, d.inRecovery, d.changes)) :
    Follows passing d d' := by
  simp only [Prod.mk.injEq] at heq
  obtain ⟨hs, hr, hc⟩ := heq
  exact ⟨⟨hr ▸ hs ▸ h.known, hr ▸ hs ▸ h.recovery, hs ▸ hc ▸ h.initial⟩, hc ▸ .refl,
    fun h => ⟨hr ▸ h, hs ▸ Nat.le_refl _⟩⟩

end Device.Follows

/-- A transition that leaves a regular device regular, its recovery flag unchanged. -/
structure Device.MayTake (d : Device) (toState : HealthState) : Prop where
  known : d.inRecovery = false →
    toState ∈ HealthState.ordered ∧ d.state.rank ≤ toState.rank
  recovery : d.inRecovery →
    toState = .recovering ∨ toState = .revalidating ∨ toState = .lost
  later : toState ≠ .initializing
  fresh : toState = .healthy → d.changes = []

namespace Locked
variable {passing : Prop} {now : Timestamp} {clk : Readings} {l l' : Locked}
  {toState : HealthState} {label detail : Str} {g : HealthGeneration} {blocked : Bool}

theorem follows_torn (h : l.d.MayTake toState) :
    Device.Follows passing l.d (torn toState l).d where
  regular := ⟨fun hr => (h.known hr).1, h.recovery, fun hs => absurd hs h.later⟩
  gated := .refl
  forward hr := ⟨hr, (h.known hr).2⟩

theorem follows_moved (h : l.d.MayTake toState) :
    Device.Follows passing l.d (moved now toState label detail g l).d where
  regular := ⟨fun hr => (h.known hr).1, h.recovery, fun hs => absurd hs h.later⟩
  gated := .append fun hs => Or.inl (h.fresh hs)
  forward hr := ⟨hr, (h.known hr).2⟩

theorem follows_published (h : l'.d.Regular) :
    Device.Follows passing l'.d (published now l blocked l').d :=
  .of_edit h rfl

/-- A transition to `toState`, taken, torn or refused. -/
theorem follows_applyTransitionLocked (now : Timestamp) (label detail : Str) (hl : l.d.Regular)
    (h : canTransition l.d.state toState → l.d.MayTake toState) :
    Device.Follows passing l.d (applyTransitionLocked now toState label detail l).state.d :=
  applyTransitionLocked_state (P := fun l' => Device.Follows passing l.d l'.d) (.refl hl)
    (fun hlegal _ => follows_torn (h hlegal)) fun _ hlegal _ => follows_moved (h hlegal)

theorem mayTake_lost (hl : l.d.Regular) : l.d.MayTake .lost where
  known hr := by
    have := hl.known hr
    cases hs : l.d.state <;> simp [hs, HealthState.ordered, HealthState.rank] at this ⊢
  recovery _ := Or.inr (Or.inr rfl)
  later := by decide
  fresh h := by cases h

theorem mayTake_quarantined (hl : l.d.Regular) (hr : l.d.inRecovery = false)
    (hlegal : canTransition l.d.state .quarantined) : l.d.MayTake .quarantined where
  known _ := by
    have := hl.known hr
    revert hlegal
    cases hs : l.d.state <;> simp [hs, HealthState.ordered, HealthState.rank] at this ⊢
    decide
  recovery h := by simp [hr] at h
  later := by decide
  fresh h := by cases h

/-- What the evidence asks for and the table allows never bypasses recovery. -/
theorem mayTake_target (hl : l.d.Regular) (hlegal : canTransition l.d.state (target now l)) :
    l.d.MayTake (target now l) := by
  by_cases hr : l.d.inRecovery = true
  · rw [target_of_inRecovery hr] at hlegal
    rcases hl.recovery hr with hs | hs | hs <;> simp only [hs] at hlegal <;>
      exact absurd hlegal (by decide)
  · have hr' : l.d.inRecovery = false := by simpa using hr
    have hordered := hl.known hr'
    rcases AssessmentInput.target_cases (i := assessmentInput now l) hr'
      with ht | ht | ht | ht | ht | ht
    · exact absurd ht.symm (canTransition_ne hlegal)
    all_goals
      change target now l = _ at ht
      rw [ht] at hlegal ⊢
      refine ⟨fun _ => ?_, fun h => absurd h hr, by decide, fun h => ?_⟩
      · revert hlegal
        cases hs : l.d.state <;> simp [hs, HealthState.ordered, HealthState.rank] at hordered ⊢ <;>
          decide
      · first
        | exact absurd h (by decide)
        | refine hl.initial ?_
          rcases canTransition_healthy hlegal with hs | hs | hs | hs <;>
            first | exact hs | simp [hs, HealthState.ordered] at hordered

theorem follows_reassessLocked (clk : Readings) (hl : l.d.Regular) :
    Device.Follows passing l.d (reassessLocked clk l).state.d :=
  reassessLocked_state (P := fun l' => Device.Follows passing l.d l'.d)
    (fun _ => follows_published hl)
    (fun _ hlegal _ =>
      have h := follows_moved (mayTake_target hl hlegal)
      h.trans (follows_published h.regular))
    (fun _ _ => follows_published hl)
    fun hlegal _ => follows_torn (mayTake_target hl hlegal)

/-- A device quarantined in recovery is taken back to RECOVERING at once. -/
theorem reassessLocked_resumes (clk : Readings) (hr : l.d.inRecovery)
    (hs : l.d.state = .quarantined) :
    (reassessLocked clk l).state.d.Regular ∧
      Gated passing l.d.changes (reassessLocked clk l).state.d.changes := by
  have htarget : target (clk 0) l = .recovering := by
    rw [target_of_inRecovery hr, hs]
    rfl
  have hregular : ∀ d : Device, d.inRecovery → d.state = .recovering → d.Regular := fun d hr hs =>
    ⟨fun h => by simp [hr] at h, fun _ => Or.inl hs, fun h => by simp [hs] at h⟩
  refine reassessLocked_state
    (P := fun l' => l'.d.Regular ∧ Gated passing l.d.changes l'.d.changes) ?_ ?_ ?_ ?_
  · intro h
    rw [htarget, hs] at h
    cases h
  · intro g _ _
    exact ⟨hregular _ hr htarget, .append fun h => by
      change target (clk 0) l = .healthy at h
      rw [htarget] at h
      cases h⟩
  · intro _ h
    rw [htarget, hs] at h
    exact absurd h (by decide)
  · intro _ _
    exact ⟨hregular _ hr htarget, .refl⟩

/-- Where a body may stop on the way to its reassessment: at a regular device, or at a
device in recovery that it has just quarantined. -/
private def Halfway (passing : Prop) (d d' : Device) : Prop :=
  Device.Follows passing d d' ∨
    d.inRecovery ∧ d'.inRecovery ∧ d'.state = .quarantined ∧ Gated passing d.changes d'.changes

private theorem Halfway.reassessed {d : Device} (h : Halfway passing d l.d) :
    Device.Follows passing d (reassessLocked clk l).state.d := by
  rcases h with h | ⟨hd, hr, hs, hgated⟩
  · exact h.trans (follows_reassessLocked clk h.regular)
  · obtain ⟨hregular, hgated'⟩ := reassessLocked_resumes clk hr hs
    exact ⟨hregular, hgated.trans hgated', fun hd' => by simp [hd] at hd'⟩

private theorem halfway_andThen {d : Device} {x : Exit Exn Locked Unit}
    (h : x.Sat (fun _ l' => Halfway passing d l'.d) fun _ l' => Device.Follows passing d l'.d) :
    Device.Follows passing d (x.andThen (reassessLocked clk)).state.d :=
  (h.andThen fun _ hl' => Exit.sat_of_state (P := fun l' : Locked =>
    Device.Follows passing d l'.d) hl'.reassessed).state

/-- Quarantine of a device in recovery, with a generation left for the transition. -/
private theorem halfway_quarantined {d : Device} (hd : l.d.Regular)
    (hd' : Device.Follows passing d l.d)
    (hsame : d.inRecovery = l.d.inRecovery)
    (hkeep : l.d.inRecovery → canTransition l.d.state .quarantined → l.d.healthGeneration ≠ .last) :
    (applyTransitionLocked now .quarantined label detail l).Sat
      (fun _ l' => Halfway passing d l'.d) fun _ l' => Device.Follows passing d l'.d := by
  by_cases hr : l.d.inRecovery = true
  · refine applyTransitionLocked_sat (fun _ => Or.inl hd') (fun _ _ => hd')
      (fun hlegal hlast => absurd hlast (hkeep hr hlegal)) fun g _ _ => ?_
    exact Or.inr ⟨hsame.trans hr, hr, rfl, hd'.gated.trans (.append fun h => by cases h)⟩
  · have hr' : l.d.inRecovery = false := by simpa using hr
    have hfollows : Device.Follows passing l.d _ :=
      follows_applyTransitionLocked now label detail hd (mayTake_quarantined hd hr')
    exact (Exit.sat_of_state (P := fun l' : Locked => Device.Follows passing d l'.d)
      (hd'.trans hfollows)).mono (fun _ _ h => Or.inl h) fun _ _ h => h

/-! ### The bodies -/

theorem follows_beginQuarantine {id : AcceleratorId} {authority : QuarantineAuthority}
    {reason triggeredBy : Str} (hl : l.d.Regular)
    (hkeep : l.d.inRecovery → l.d.quarantined = false → canTransition l.d.state .quarantined →
      l.d.healthGeneration ≠ .last) :
    Device.Follows passing l.d
      (beginQuarantine clk id authority reason triggeredBy l).state.d := by
  unfold beginQuarantine
  split_ifs with hactive
  · exact .refl hl
  · have hedit : Device.Follows passing l.d
        (openQuarantine (clk 0) id authority reason triggeredBy l).d := .of_edit hl rfl
    exact halfway_andThen (halfway_quarantined hedit.regular hedit rfl fun hr =>
      hkeep hr (by simpa using hactive))

/-- A passing validation in recovery, with generations left for its transitions. -/
theorem follows_recoveryPassed (clk : Readings) (hp : passing) (hl : l.d.Regular)
    (hr : l.d.inRecovery)
    (hrecovering : l.d.state = .recovering → l.d.healthGeneration.next ≠ .ok .last)
    (hrevalidating : l.d.state = .revalidating → l.d.healthGeneration ≠ .last) :
    Device.Follows passing l.d (recoveryPassed clk l).state.d := by
  have hvacuous : ∀ d' : Device, d'.Regular → Gated passing l.d.changes d'.changes →
      Device.Follows passing l.d d' := fun d' h h' => ⟨h, h', fun hr' => by simp [hr] at hr'⟩
  have hmay : l.d.MayTake .revalidating :=
    ⟨fun h => by simp [hr] at h, fun _ => Or.inr (Or.inl rfl), by decide, fun h => by cases h⟩
  unfold recoveryPassed
  refine (Exit.Sat.andThen (P := fun l' : Locked => Device.Follows passing l.d l'.d ∧
    l'.d.inRecovery ∧
      (l'.d.state = .revalidating → l'.d.healthGeneration ≠ .last))
    (R := fun _ (l' : Locked) => Device.Follows passing l.d l'.d) ?_ fun l' hl' =>
      Exit.sat_of_state (P := fun l' : Locked => Device.Follows passing l.d l'.d) ?_).state
  · split_ifs with hcond
    · refine applyTransitionLocked_sat (fun h => ?_) (fun _ _ => .refl hl)
        (fun _ _ => follows_torn hmay) fun g _ hnext => ⟨follows_moved hmay, hr, fun _ hlast => ?_⟩
      · rw [hcond.1] at h
        cases h
      · change g = .last at hlast
        exact hrecovering hcond.1 (hlast ▸ hnext)
    · exact ⟨.refl hl, hr, hrevalidating⟩
  · obtain ⟨hfollows, hr', hgen⟩ := hl'
    have hcount : Device.Follows passing l.d (countSuccess l').d :=
      hfollows.trans (.of_edit hfollows.regular rfl)
    simp only
    split_ifs with hdone
    · have hs : (countSuccess l').d.state = .revalidating := by
        unfold revalidated at hdone
        rw [Bool.and_eq_true] at hdone
        exact of_decide_eq_true hdone.1
      refine (Exit.Sat.andThen (P := fun l'' : Locked => l''.d.state = .healthy ∧
          Gated passing l.d.changes l''.d.changes)
        (R := fun _ (l'' : Locked) => Device.Follows passing l.d l''.d)
        (applyTransitionLocked_sat (fun h => ?_) (fun _ h => ?_) (fun _ hlast => ?_)
          fun g _ _ => ⟨rfl, ?_⟩) fun l'' h => ?_).state (P := fun l'' : Locked =>
            Device.Follows passing l.d l''.d)
      · rw [hs] at h
        cases h
      · rw [hs] at h
        exact absurd h (by decide)
      · exact absurd hlast (hgen hs)
      · exact hcount.gated.trans (.append fun _ => Or.inr ⟨hp, hs⟩)
      · refine hvacuous _ ⟨fun _ => ?_, fun h' => ?_, fun h' => ?_⟩ h.2
        · change l''.d.state ∈ HealthState.ordered
          rw [h.1]
          decide
        · cases h'
        · change l''.d.state = .initializing at h'
          rw [h.1] at h'
          cases h'
    · exact hcount

theorem follows_revalidate (clk : Readings) {v : ValidationRecord} (hl : l.d.Regular)
    (hfail : l.d.inRecovery → v.passed = false → canTransition l.d.state .quarantined →
      l.d.healthGeneration ≠ .last)
    (hpass : l.d.inRecovery → v.passed →
      (l.d.state = .recovering → l.d.healthGeneration.next ≠ .ok .last) ∧
        (l.d.state = .revalidating → l.d.healthGeneration ≠ .last)) :
    Device.Follows (v.passed = true) l.d (revalidate clk v l).state.d := by
  have hedit : Device.Follows (v.passed = true) l.d (addValidation v l).d := .of_edit hl rfl
  rw [revalidate_state]
  apply halfway_andThen
  unfold recoveryStep recoveryFailed
  split_ifs with hr hp hstate
  · obtain ⟨h₁, h₂⟩ := hpass hr hp
    have h := hedit.trans (follows_recoveryPassed clk hp hedit.regular hr h₁ h₂)
    exact (Exit.sat_of_state (P := fun l' : Locked => Device.Follows (v.passed = true) l.d l'.d)
      h).mono (fun _ _ h => Or.inl h) fun _ _ h => h
  · exact halfway_quarantined hedit.regular hedit rfl fun hr hlegal =>
      hfail hr (by simpa using hp) hlegal
  · exact Or.inl hedit
  · exact Or.inl hedit

/-- Entering recovery, with a generation left for the transition. -/
theorem regular_beginRecovery (hl : l.d.Regular)
    (hkeep : canTransition l.d.state .recovering → l.d.healthGeneration ≠ .last) :
    (beginRecovery clk l).state.d.Regular ∧
      Gated passing l.d.changes (beginRecovery clk l).state.d.changes := by
  unfold beginRecovery
  split_ifs with hr hillegal
  · exact ⟨hl, .refl⟩
  · exact ⟨hl, .refl⟩
  · have hlegal : canTransition l.d.state .recovering := by simpa using hillegal
    have hopen : ∀ l' : Locked, l'.d.state = .recovering → Gated passing l.d.changes l'.d.changes →
        (openRecovery (clk 1) l').state.d.Regular ∧
          Gated passing l.d.changes (openRecovery (clk 1) l').state.d.changes := by
      intro l' hs hgated
      have hd : (openRecovery (clk 1) l').state.d.inRecovery = true ∧
          (openRecovery (clk 1) l').state.d.state = l'.d.state ∧
          (openRecovery (clk 1) l').state.d.changes = l'.d.changes := by
        unfold openRecovery
        simp only
        split <;> exact ⟨rfl, rfl, rfl⟩
      obtain ⟨hr', hs', hc'⟩ := hd
      rw [hs] at hs'
      exact ⟨⟨fun h => by simp [hr'] at h, fun _ => Or.inl hs', fun h => by simp [hs'] at h⟩,
        hc' ▸ hgated⟩
    refine Exit.state_andThen (P := fun l' : Locked =>
      l'.d.Regular ∧ Gated passing l.d.changes l'.d.changes) ?_ fun l' h => ?_
    · refine (Exit.Sat.andThen (P := fun l' : Locked => l'.d.state = .recovering ∧
          Gated passing l.d.changes l'.d.changes)
        (R := fun _ (l' : Locked) => l'.d.Regular ∧ Gated passing l.d.changes l'.d.changes)
        (applyTransitionLocked_sat (fun h => ?_) (fun _ _ => ⟨hl, .refl⟩) (fun _ hlast => ?_)
          fun g _ _ => ⟨rfl, .append fun h => by cases h⟩) fun l' h =>
            Exit.sat_of_state (P := fun l' : Locked => l'.d.Regular ∧
              Gated passing l.d.changes l'.d.changes) (hopen l' h.1 h.2)).state
      · exact absurd h (canTransition_ne hlegal)
      · exact absurd hlast (hkeep hlegal)
    · have hfollows : Device.Follows passing _ _ := follows_reassessLocked (clk.drop 2) h.1
      exact ⟨hfollows.regular, h.2.trans hfollows.gated⟩

end Locked

/-- A call that enters, interrupts or ends the recovery of a device finds health
generations left for its transitions. -/
structure Op.Affordable (op : Op) (k : AcceleratorId) (d : Device) : Prop where
  enter : op = .beginRecovery k → canTransition d.state .recovering → d.healthGeneration ≠ .last
  interrupt : ∀ authority reason triggeredBy,
    op = .beginQuarantine k authority reason triggeredBy → d.inRecovery → d.quarantined = false →
      canTransition d.state .quarantined → d.healthGeneration ≠ .last
  fail : ∀ v, op = .revalidate k v → d.inRecovery → v.passed = false →
    canTransition d.state .quarantined → d.healthGeneration ≠ .last
  pass : ∀ v, op = .revalidate k v → d.inRecovery → v.passed →
    (d.state = .recovering → d.healthGeneration.next ≠ .ok .last) ∧
      (d.state = .revalidating → d.healthGeneration ≠ .last)

/-- The call is a passing revalidation of this device. -/
def Op.Revalidates (op : Op) (k : AcceleratorId) : Prop := ∃ v, op = .revalidate k v ∧ v.passed

namespace Locked

/-- Every body leaves a regular device regular, and no body but that of `beginRecovery`
takes it back. -/
theorem Touch.regular {c : Call} {k : AcceleratorId} {l l' : Locked} (h : Touch c k l l')
    (hl : l.d.Regular) (hafford : c.op.Affordable k l.d) :
    l'.d.Regular ∧ Gated (c.op.Revalidates k) l.d.changes l'.d.changes ∧
      (c.op ≠ .beginRecovery k → l.d.inRecovery = false → l.d.state.rank ≤ l'.d.state.rank) := by
  suffices hfollows : Device.Follows (c.op.Revalidates k) l.d l'.d ∨ c.op = .beginRecovery k ∧
      l'.d.Regular ∧ Gated (c.op.Revalidates k) l.d.changes l'.d.changes by
    rcases hfollows with hfollows | ⟨hop, hregular, hgated⟩
    · exact ⟨hfollows.regular, hfollows.gated, fun _ hr => (hfollows.forward hr).2⟩
    · exact ⟨hregular, hgated, fun hop' => absurd hop hop'⟩
  have hedit : ∀ {l₁ : Locked} {clk : Readings},
      (l₁.d.state, l₁.d.inRecovery, l₁.d.changes) = (l.d.state, l.d.inRecovery, l.d.changes) →
        Device.Follows (c.op.Revalidates k) l.d (reassessLocked clk l₁).state.d := fun heq =>
    have h₁ := Device.Follows.of_edit hl heq
    h₁.trans (follows_reassessLocked _ h₁.regular)
  cases h with
  | observation =>
    left
    unfold acceptObservation
    split
    · exact .refl hl
    · refine Exit.state_andThen (P := fun l' : Locked =>
        Device.Follows (c.op.Revalidates k) l.d l'.d) (hedit ?_) fun _ h => h
      unfold takeObservation
      simp only
      split_ifs <;> rfl
  | fault =>
    left
    unfold recordFault
    split
    · exact .refl hl
    · exact hedit rfl
  | validation => exact Or.inl (hedit rfl)
  | quarantine op => exact Or.inl (follows_beginQuarantine hl (hafford.interrupt _ _ _ op))
  | clear =>
    left
    refine hedit ?_
    unfold closeQuarantine
    split <;> rfl
  | recovery op => exact Or.inr ⟨op, regular_beginRecovery hl (hafford.enter op)⟩
  | @revalidation v op =>
    left
    have hfollows := follows_revalidate c.clk hl (hafford.fail v op) (hafford.pass v op)
    refine ⟨hfollows.regular, ⟨hfollows.gated.1, fun i hc hi hget hhealthy => ?_⟩,
      hfollows.forward⟩
    rcases hfollows.gated.2 i hc hi hget hhealthy with hzero | ⟨hp, hfrom⟩
    · exact Or.inl hzero
    · exact Or.inr ⟨⟨v, op, hp⟩, hfrom⟩
  | lost =>
    left
    unfold markLost
    simp only
    have h₁ : Device.Follows (c.op.Revalidates k) l.d { l.d with present := false } :=
      .of_edit hl rfl
    split_ifs with hs hlegal
    · exact h₁
    · exact h₁.trans (follows_applyTransitionLocked _ _ _
        (l := ⟨l.store, { l.d with present := false }⟩)
        h₁.regular fun _ => mayTake_lost h₁.regular)
    · exact absurd (canTransition_lost hs) hlegal
  | reassess clk => exact Or.inl (hedit rfl)
  | orphan clk =>
    left
    unfold HealthStore.orphan
    split_ifs
    · exact hedit rfl
    · exact .refl hl
  | policy clk => exact Or.inl (hedit rfl)
  | policySkipped => exact Or.inl (.of_edit hl rfl)

end Locked

namespace HealthStore
open Locked

/-- Every call on a tracked device finds the health generations it needs. -/
def Affords (s : HealthStore) (c : Call) : Prop :=
  ∀ k d, s.devices.find? k = some d → c.op.Affordable k d

/-- Every state is one of nine, and RECOVERING and REVALIDATING go with recovery. -/
def StatesFit (s : HealthStore) : Prop :=
  ∀ k d, s.devices.find? k = some d →
    d.state ∈ [.initializing, .healthy, .degraded, .unhealthy, .failed, .quarantined,
      .recovering, .revalidating, .lost] ∧
    (d.state = .recovering ∨ d.state = .revalidating → d.inRecovery) ∧
    (d.inRecovery → d.state = .recovering ∨ d.state = .revalidating ∨ d.state = .lost)

/-- What one call may do: no step back outside recovery but by `beginRecovery`, and no
late record into HEALTHY but by a passing revalidation that leaves REVALIDATING. -/
structure NoBypass (s : HealthStore) (c : Call) : Prop where
  forward : ∀ k d d', s.devices.find? k = some d → (s.step c).devices.find? k = some d' →
    d.inRecovery = false → c.op ≠ .beginRecovery k → d.state.rank ≤ d'.state.rank
  gated : ∀ k d', (s.step c).devices.find? k = some d' → ∀ i hc,
    ((s.devices.find? k).elim 0 fun d => d.changes.length) ≤ i → d'.changes[i]? = some hc →
      hc.toState = .healthy → i ≠ 0 →
        ∃ v, c.op = .revalidate k v ∧ v.passed ∧ hc.fromState = .revalidating

theorem statesFit_of_regular {s : HealthStore} (hs : s.AllDevices Device.Regular) :
    s.StatesFit := by
  intro k d hk
  have h := hs k d hk
  refine ⟨?_, fun hstate => ?_, h.recovery⟩
  · cases hr : d.inRecovery with
    | false =>
      have := h.known hr
      simp only [HealthState.ordered, List.mem_cons, List.not_mem_nil, or_false] at this ⊢
      tauto
    | true =>
      have := h.recovery hr
      simp only [List.mem_cons, List.not_mem_nil, or_false]
      tauto
  · by_contra hr
    have := h.known (by simpa using hr)
    rcases hstate with hs | hs <;> simp [hs, HealthState.ordered] at this

theorem step_regular {s : HealthStore} {c : Call} (hs : s.AllDevices Device.Regular)
    (hc : c.op.plain) (hafford : s.Affords c) : (s.step c).AllDevices Device.Regular := by
  intro k d' hk
  rcases step_device hc.1 hk with ⟨d, hd, rfl | ⟨l, l', rfl, -, htouch, rfl⟩⟩ |
    ⟨uuid, node, -, -, -, rfl⟩
  · exact hs k d' hd
  · exact (htouch.regular (hs k l.d hd) (hafford k l.d hd)).1
  · exact ⟨fun _ => by simp [newDevice, HealthState.ordered], nofun, fun _ => rfl⟩

theorem step_noBypass {s : HealthStore} {c : Call} (hnamed : s.Named)
    (hs : s.AllDevices Device.Regular) (hc : c.op.plain) (hafford : s.Affords c) :
    s.NoBypass c := by
  constructor
  · intro k d d' hk hk' hr hop
    obtain ⟨d₁, hd₁, hcase⟩ := step_old hnamed hc hk
    obtain rfl : d₁ = d' := Option.some.inj (hd₁.symm.trans hk')
    rcases hcase with rfl | ⟨l, l', rfl, htouch, rfl⟩
    · exact Nat.le_refl _
    · exact (htouch.regular (hs k l.d hk) (hafford k l.d hk)).2.2 hop hr
  · intro k d' hk' i hc' hi hget hhealthy hne
    cases hk : s.devices.find? k with
    | none =>
      rcases step_device hc.1 hk' with ⟨d, hd, -⟩ | ⟨uuid, node, -, -, -, rfl⟩
      · rw [hk] at hd
        cases hd
      · cases hget
    | some d =>
      obtain ⟨d₁, hd₁, hcase⟩ := step_old hnamed hc hk
      obtain rfl : d₁ = d' := Option.some.inj (hd₁.symm.trans hk')
      rw [hk, Option.elim_some] at hi
      rcases hcase with rfl | ⟨l, l', rfl, htouch, rfl⟩
      · rw [List.getElem?_eq_none hi] at hget
        cases hget
      · obtain ⟨-, hgated, -⟩ := htouch.regular (hs k l.d hk) (hafford k l.d hk)
        rcases hgated.2 i hc' hi hget hhealthy with hzero | ⟨⟨v, hop, hp⟩, hfrom⟩
        · exact absurd hzero hne
        · exact ⟨v, hop, hp, hfrom⟩

theorem after_regular {policy : HealthPolicy} {epoch : UInt64} {calls : List Call}
    (hplain : ∀ c ∈ calls, c.op.plain)
    (hafford : Machine.Along step Affords (init policy epoch) calls) :
    (after policy epoch calls).AllDevices Device.Regular :=
  Machine.run_invariant (P := fun s => s.AllDevices Device.Regular)
    (fun _ _ hs hc => step_regular hs hc.1 hc.2) (allDevices_init _ policy epoch)
    ((Machine.along_of_forall fun c hc _ => hplain c hc).and hafford)

theorem affords_of_spare {s : HealthStore} (h : s.Spare) (c : Call) : s.Affords c := by
  intro k d hk
  have hlast := h.ne_last hk
  have hnext := h.next_ne_last hk
  exact ⟨fun _ _ => hlast, fun _ _ _ _ _ _ _ => hlast, fun _ _ _ _ _ => hlast,
    fun _ _ _ _ => ⟨fun _ => hnext, fun _ => hlast⟩⟩

/-- Recovery is never bypassed in a plain run whose change logs fit. -/
theorem no_bypass_of_recovery (policy : HealthPolicy) (epoch : UInt64) (calls : List Call)
    (hplain : ∀ c ∈ calls, c.op.plain)
    (hfits : Machine.Along step (fun s c => (s.step c).LogsFit) (init policy epoch) calls) :
    (after policy epoch calls).StatesFit ∧
      ∀ past c, past ++ [c] <+: calls → (after policy epoch past).NoBypass c := by
  have hafford : Machine.Along step Affords (init policy epoch) calls :=
    (spare_of_logsFit (fun c hc => (hplain c hc).1) hfits).mono fun _ c h => affords_of_spare h c
  refine ⟨statesFit_of_regular (after_regular hplain hafford), fun past c ⟨rest, hcalls⟩ => ?_⟩
  subst hcalls
  simp only [List.forall_mem_append, List.forall_mem_singleton] at hplain
  simp only [Machine.along_append] at hafford
  exact step_noBypass (after_named hplain.1.1) (after_regular hplain.1.1 hafford.1.1) hplain.1.2
    hafford.1.2.1

/-- A late reassessment finds the evidence expired and degrades the device. -/
def lapse : Call := (Op.reassess ⟨7⟩).at 1000000000000

/-- Quarantine, clear, recover, revalidate. -/
def round : List Call := [
  (Op.beginQuarantine ⟨7⟩ .operator [] []).at 1,
  (Op.clearQuarantine ⟨7⟩).at 1,
  (Op.beginRecovery ⟨7⟩).at 1,
  (Op.revalidate ⟨7⟩ { accelerator := ⟨7⟩, depth := .full, passed := true }).at 1]

theorem no_bypass_after_round :
    (after {} 0 (bringUp ++ [lapse] ++ round)).StatesFit ∧
      ∀ past c, past ++ [c] <+: bringUp ++ [lapse] ++ round → (after {} 0 past).NoBypass c :=
  no_bypass_of_recovery {} 0 (bringUp ++ [lapse] ++ round) (by decide) (by decide +kernel)

end HealthStore
end AcceleratorHealth
