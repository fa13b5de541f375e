import AcceleratorHealth.Evidence
import AcceleratorHealth.Hazards

/-! The documented way back from FAILED and QUARANTINED: one recovery, then passing
validations. The last of them ends in a reassessment, which applies every rule to the
faults that are still on record. -/
namespace AcceleratorHealth
open Locked

/-- What the way back never touches and its last assessment reads. -/
structure Grounds where
  faults : FaultHistory
  dimensions : OrdMap DimensionKind HealthDimension
  lastObservation : Timestamp
  quarantine : Option QuarantineRecord

def Device.grounds (d : Device) : Grounds :=
  ⟨d.faults, d.dimensions, d.lastObservation, d.quarantine⟩

/-- The same recovery with one more success. -/
def RecoveryRecord.counted (rec : RecoveryRecord) : RecoveryRecord :=
  { rec with successfulValidations := rec.successfulValidations + 1 }

/-- A device on its way back, at the `n`-th health generation. -/
structure Device.Underway (st : HealthState) (rec : RecoveryRecord) (n : Nat) (gr : Grounds)
    (d : Device) : Prop where
  inRecovery : d.inRecovery = true
  state : d.state = st
  recovery : d.recovery = some rec
  generation : d.healthGeneration.value.toNat = n
  grounds : d.grounds = gr

namespace Locked
variable {clk : Readings} {l : Locked} {v : ValidationRecord} {rec : RecoveryRecord}
  {n : Nat} {gr : Grounds} {g : HealthGeneration}

theorem reassessLocked_underway (hin : l.d.inRecovery = true)
    (hs : l.d.state = .recovering ∨ l.d.state = .revalidating) :
    reassessLocked clk l = .ok () (published (clk 0) l false l) := by
  apply reassessLocked_eq_same
  rw [target_of_inRecovery hin]
  rcases hs with hs | hs <;> rw [hs] <;> rfl

/-! ### One passing validation -/

/-- The move that the first passing validation makes. -/
def entered (now : Timestamp) (g : HealthGeneration) (l : Locked) : Locked :=
  moved now .revalidating (str "revalidate") (str "enter revalidation") g l

/-- The effects of the passing validation that completes the recovery. -/
def finished (clk : Readings) (g : HealthGeneration) (l : Locked) : Locked :=
  closeRecovery (clk 2)
    (moved (clk 1) .healthy (str "recovery") (str "revalidated") g (countSuccess l))

theorem revalidate_passed (hin : l.d.inRecovery = true) (hv : v.passed = true) :
    revalidate clk v l = (recoveryPassed clk (addValidation v l)).andThen fun l =>
      (reassessLocked (clk.drop 3) l).andThen fun l => .ok l.d.makeSnapshotLocked l := by
  have hin' : (addValidation v l).d.inRecovery = true := hin
  rw [revalidate, recoveryStep, if_pos hin', if_pos hv]

theorem underway_addValidation {st : HealthState} (h : l.d.Underway st rec n gr) :
    (addValidation v l).d.Underway st rec n gr :=
  ⟨h.inRecovery, h.state, h.recovery, h.generation, h.grounds⟩

theorem underway_countSuccess {st : HealthState} (h : l.d.Underway st rec n gr) :
    (countSuccess l).d.Underway st rec.counted n gr := by
  refine ⟨h.inRecovery, h.state, ?_, h.generation, h.grounds⟩
  change l.d.recovery.map RecoveryRecord.counted = _
  rw [h.recovery]
  rfl

theorem underway_entered (h : l.d.Underway .recovering rec n gr)
    (hg : g.value.toNat = l.d.healthGeneration.value.toNat + 1) {now : Timestamp} :
    (entered now g l).d.Underway .revalidating rec (n + 1) gr :=
  ⟨h.inRecovery, rfl, h.recovery, by rw [← h.generation, ← hg]; rfl, h.grounds⟩

/-- From REVALIDATING on, a passing validation counts and may complete the recovery. -/
theorem recoveryPassed_revalidating (h : l.d.Underway .revalidating rec n gr) :
    recoveryPassed clk l =
      if l.store.policy.recoveryValidationsRequired ≤ rec.counted.successfulValidations then
        (applyTransitionLocked (clk 1) .healthy (str "recovery") (str "revalidated")
          (countSuccess l)).andThen fun l => .ok () (closeRecovery (clk 2) l)
      else .ok () (countSuccess l) := by
  have hcount := underway_countSuccess h
  have hdone : revalidated (countSuccess l) = decide
      (l.store.policy.recoveryValidationsRequired ≤ rec.counted.successfulValidations) := by
    rw [revalidated, hcount.state, hcount.recovery]
    rfl
  unfold recoveryPassed
  rw [if_neg (by simp [h.state]), Exit.ok_andThen]
  simp only [hdone, decide_eq_true_eq]

theorem recoveryPassed_finishes (h : l.d.Underway .revalidating rec n gr)
    (hlast : l.store.policy.recoveryValidationsRequired ≤ rec.counted.successfulValidations)
    (hnext : l.d.healthGeneration.next = .ok g) :
    recoveryPassed clk l = .ok () (finished clk g l) := by
  have hlegal : canTransition (countSuccess l).d.state .healthy := by
    rw [(underway_countSuccess h).state]
    rfl
  have hnext' : (countSuccess l).d.healthGeneration.next = .ok g := hnext
  rw [recoveryPassed_revalidating h, if_pos hlast, applyTransitionLocked_eq_moved hlegal hnext']
  rfl

/-- Completing the recovery takes a health generation. -/
theorem recoveryPassed_torn (clk : Readings) (h : l.d.Underway .revalidating rec n gr)
    (hlast : l.store.policy.recoveryValidationsRequired ≤ rec.counted.successfulValidations)
    (hspent : l.d.healthGeneration = .last) : ∃ e, (recoveryPassed clk l).result = .error e := by
  have hlegal : canTransition (countSuccess l).d.state .healthy := by
    rw [(underway_countSuccess h).state]
    rfl
  have hspent' : (countSuccess l).d.healthGeneration = .last := hspent
  rw [recoveryPassed_revalidating h, if_pos hlast, applyTransitionLocked_eq_torn hlegal hspent']
  exact ⟨_, rfl⟩

theorem recoveryPassed_enters (h : l.d.Underway .recovering rec n gr)
    (hnext : l.d.healthGeneration.next = .ok g) :
    recoveryPassed clk l = recoveryPassed clk (entered (clk 0) g l) := by
  have hlegal : canTransition l.d.state .revalidating := by
    rw [h.state]
    rfl
  have hs : (entered (clk 0) g l).d.state ≠ .recovering := by
    change HealthState.revalidating ≠ .recovering
    decide
  rw [recoveryPassed, recoveryPassed, if_pos ⟨h.state, hlegal⟩,
    applyTransitionLocked_eq_moved hlegal hnext, if_neg fun h => hs h.1]
  rfl

theorem recoveryPassed_enters_torn (clk : Readings) (h : l.d.Underway .recovering rec n gr)
    (hspent : l.d.healthGeneration = .last) : ∃ e, (recoveryPassed clk l).result = .error e := by
  have hlegal : canTransition l.d.state .revalidating := by
    rw [h.state]
    rfl
  rw [recoveryPassed, if_pos ⟨h.state, hlegal⟩, applyTransitionLocked_eq_torn hlegal hspent]
  exact ⟨_, rfl⟩

/-- After the last validation the evidence decides. -/
theorem reassessLocked_finished (h : l.d.Underway .revalidating rec n gr)
    (hquarantine : gr.quarantine.any QuarantineRecord.active = false)
    (hdims : ∀ dim ∈ gr.dimensions.values, dim.state ≠ .failed)
    (hfresh : l.store.policy.freshnessOf gr.lastObservation (clk 3) = .current) :
    (reassessLocked (clk.drop 3) (finished clk g l)).Sat
      (fun _ l' => (l'.d.state = .healthy ↔ gr.faults.Tolerated l.store.policy) ∧
        ∃ rec', l'.d.recovery = some rec' ∧ rec'.completed = true)
      fun _ _ => ¬gr.faults.Tolerated l.store.policy := by
  obtain ⟨-, -, hrec, -, rfl⟩ := underway_countSuccess h
  have htarget : target (clk 3) (finished clk g l) = .healthy ↔
      l.d.faults.Tolerated l.store.policy :=
    target_healthy_iff (l := finished clk g l) rfl hquarantine hdims hfresh
  have hbasis : (reassessLocked (clk.drop 3) (finished clk g l)).Sat
      (fun _ l' => l'.basis = (finished clk g l).basis)
      fun _ l' => l'.basis = (finished clk g l).basis :=
    Exit.sat_of_state (P := fun l' : Locked => l'.basis = _) (basis_reassessLocked _ _)
  refine (Exit.Sat.and (reassessLocked_healthy rfl rfl) hbasis).mono (fun _ l' hl' => ?_)
    fun _ _ hl' => htarget.not.mp hl'.1.2
  refine ⟨hl'.1.trans htarget, ?_⟩
  rw [of_basis_eq hl'.2 Device.recovery fun _ => rfl]
  refine ⟨{ rec.counted with completed := true, «end» := clk 2 }, ?_, rfl⟩
  change (countSuccess l).d.recovery.map _ = _
  rw [hrec]
  rfl

/-! ### One call -/

/-- A validation that is not the last one is counted. -/
theorem revalidate_counts (clk : Readings) (h : l.d.Underway .revalidating rec n gr)
    (hv : v.passed = true)
    (hmore : ¬l.store.policy.recoveryValidationsRequired ≤ rec.counted.successfulValidations) :
    ∃ snapshot l', revalidate clk v l = .ok snapshot l' ∧ l'.store.policy = l.store.policy ∧
      l'.d.Underway .revalidating rec.counted n gr := by
  have hadded : (addValidation v l).d.Underway .revalidating rec n gr := underway_addValidation h
  have hcount := underway_countSuccess hadded
  have hmore' : ¬(addValidation v l).store.policy.recoveryValidationsRequired ≤
      rec.counted.successfulValidations := hmore
  rw [revalidate_passed h.inRecovery hv, recoveryPassed_revalidating hadded, if_neg hmore',
    Exit.ok_andThen, reassessLocked_underway hcount.inRecovery (Or.inr hcount.state),
    Exit.ok_andThen]
  exact ⟨_, _, rfl, rfl, hcount.inRecovery, hcount.state, hcount.recovery, hcount.generation,
    hcount.grounds⟩

/-- The last validation completes the recovery, given a health generation; then the
evidence decides. -/
theorem revalidate_last (h : l.d.Underway .revalidating rec n gr) (hv : v.passed = true)
    (hlast : l.store.policy.recoveryValidationsRequired ≤ rec.counted.successfulValidations)
    (hquarantine : gr.quarantine.any QuarantineRecord.active = false)
    (hdims : ∀ dim ∈ gr.dimensions.values, dim.state ≠ .failed)
    (hfresh : l.store.policy.freshnessOf gr.lastObservation (clk 3) = .current) :
    (revalidate clk v l).Sat
      (fun _ l' => n + 1 < 2 ^ 64 ∧
        (l'.d.state = .healthy ↔ gr.faults.Tolerated l.store.policy) ∧
        ∃ rec', l'.d.recovery = some rec' ∧ rec'.completed = true)
      fun _ _ => ¬(n + 1 < 2 ^ 64 ∧ gr.faults.Tolerated l.store.policy) := by
  have hadded : (addValidation v l).d.Underway .revalidating rec n gr := underway_addValidation h
  rw [revalidate_passed h.inRecovery hv]
  cases hnext : (addValidation v l).d.healthGeneration.next with
  | error e =>
    have hspent := (Generation.next_eq_error hnext).1
    obtain ⟨e', he'⟩ := recoveryPassed_torn clk hadded hlast hspent
    have hn : ¬n + 1 < 2 ^ 64 := by
      rw [← hadded.generation, hspent]
      decide
    refine Exit.Sat.andThen (P := fun _ => False) ?_ fun _ h => h.elim
    exact Exit.sat_iff.mpr ⟨fun a ha => by simp [he'] at ha, fun _ _ h => hn h.1⟩
  | ok g =>
    have hn : n + 1 < 2 ^ 64 := by
      rw [← hadded.generation, ← Generation.next_toNat hnext]
      exact g.value.toNat_lt
    rw [recoveryPassed_finishes hadded hlast hnext, Exit.ok_andThen]
    refine Exit.Sat.andThen (P := fun l' => (l'.d.state = .healthy ↔
      gr.faults.Tolerated l.store.policy) ∧ ∃ rec', l'.d.recovery = some rec' ∧
        rec'.completed = true) ?_ fun _ hl' => ⟨hn, hl'⟩
    exact (reassessLocked_finished hadded hquarantine hdims hfresh).mono (fun _ _ h => h)
      fun _ _ h hc => h hc.2

/-- The first validation is one in REVALIDATING, after a move that takes a generation. -/
theorem revalidate_first (clk : Readings) (h : l.d.Underway .recovering rec n gr)
    (hv : v.passed = true) :
    (n + 1 < 2 ^ 64 ∧ ∃ l₁, revalidate clk v l = revalidate clk v l₁ ∧
      l₁.store.policy = l.store.policy ∧ l₁.d.Underway .revalidating rec (n + 1) gr) ∨
    ¬n + 1 < 2 ^ 64 ∧ ∃ e, (revalidate clk v l).result = .error e := by
  have hadded : (addValidation v l).d.Underway .recovering rec n gr := underway_addValidation h
  rw [revalidate_passed h.inRecovery hv]
  cases hnext : (addValidation v l).d.healthGeneration.next with
  | error e =>
    have hspent := (Generation.next_eq_error hnext).1
    obtain ⟨e', he'⟩ := recoveryPassed_enters_torn clk hadded hspent
    right
    constructor
    · rw [← hadded.generation, hspent]
      decide
    · exact ⟨e', by simp only [Exit.andThen, Exit.bind, he']⟩
  | ok g =>
    left
    constructor
    · rw [← hadded.generation, ← Generation.next_toNat hnext]
      exact g.value.toNat_lt
    · have hentered : (entered (clk 0) g l).d.Underway .revalidating rec (n + 1) gr :=
        underway_entered h (Generation.next_toNat hnext)
      refine ⟨entered (clk 0) g l, ?_, rfl, hentered⟩
      rw [recoveryPassed_enters hadded hnext, revalidate_passed hentered.inRecovery hv]
      rfl

theorem nextRecoveryGeneration_iff {d : Device} :
    (∃ g, nextRecoveryGeneration d = .ok g) ↔
      ∀ rec, d.recovery = some rec → rec.generation ≠ .last := by
  unfold nextRecoveryGeneration
  cases d.recovery with
  | none => simp
  | some rec =>
    simp only [Option.some.injEq, forall_eq']
    unfold Generation.next
    split_ifs with h <;> simp [h]

theorem openRecovery_spec (now : Timestamp) (l : Locked) :
    (openRecovery now l).Sat
      (fun _ l' => (∀ rec, l.d.recovery = some rec → rec.generation ≠ .last) ∧
        l'.store.policy = l.store.policy ∧ ∃ rec, rec.successfulValidations = 0 ∧
          l'.d = { l.d with inRecovery := true, recovery := some rec })
      fun _ _ => ¬∀ rec, l.d.recovery = some rec → rec.generation ≠ .last := by
  rw [← nextRecoveryGeneration_iff]
  unfold openRecovery
  cases nextRecoveryGeneration l.d with
  | error e => simp
  | ok generation => exact ⟨⟨_, rfl⟩, rfl, _, rfl, rfl⟩

/-- A recovery that begins takes a health generation and a recovery generation. -/
theorem beginRecovery_spec (clk : Readings) (hs : l.d.state = .failed ∨ l.d.state = .quarantined)
    (hin : l.d.inRecovery = false) :
    (beginRecovery clk l).Sat
      (fun _ l' => l.d.healthGeneration.value.toNat + 1 < 2 ^ 64 ∧
        (∀ rec, l.d.recovery = some rec → rec.generation ≠ .last) ∧
        l'.store.policy = l.store.policy ∧ ∃ rec, rec.successfulValidations = 0 ∧
          l'.d.Underway .recovering rec (l.d.healthGeneration.value.toNat + 1) l.d.grounds)
      fun _ _ => ¬(l.d.healthGeneration.value.toNat + 1 < 2 ^ 64 ∧
        ∀ rec, l.d.recovery = some rec → rec.generation ≠ .last) := by
  have hlegal : canTransition l.d.state .recovering := by
    rcases hs with hs | hs <;> rw [hs] <;> rfl
  unfold beginRecovery
  rw [if_neg (by simp [hin]), if_neg (by simp [hlegal])]
  cases hnext : l.d.healthGeneration.next with
  | error e =>
    have hspent := (Generation.next_eq_error hnext).1
    rw [applyTransitionLocked_eq_torn hlegal hspent]
    intro h
    rw [hspent] at h
    exact absurd h.1 (by decide)
  | ok g =>
    have hg := Generation.next_toNat hnext
    have hroom : l.d.healthGeneration.value.toNat + 1 < 2 ^ 64 := hg ▸ g.value.toNat_lt
    rw [applyTransitionLocked_eq_moved hlegal hnext, Exit.ok_andThen]
    refine Exit.Sat.andThen ((openRecovery_spec (clk 1) _).mono (fun _ _ h => h)
      fun _ _ h hc => h hc.2) fun l₂ h₂ => ?_
    obtain ⟨hgen, hpolicy, rec, hzero, hd⟩ := h₂
    have hin₂ : l₂.d.inRecovery = true := by rw [hd]
    have hstate₂ : l₂.d.state = .recovering := by rw [hd]; rfl
    rw [reassessLocked_underway hin₂ (Or.inl hstate₂)]
    refine ⟨hroom, hgen, hpolicy, rec, hzero, hin₂, hstate₂, ?_, ?_, ?_⟩
    · change l₂.d.recovery = _
      rw [hd]
    · change l₂.d.healthGeneration.value.toNat = _
      rw [hd, ← hg]
      rfl
    · change l₂.d.grounds = _
      rw [hd]
      rfl

end Locked

namespace HealthStore

/-- A client's calls, one after another; the first that throws ends them. -/
def performs (calls : List Call) (s : HealthStore) : Exit Exn HealthStore Unit :=
  Exit.each (fun c s => (s.exec c).mapResult fun _ => ()) calls s

/-- Every call has returned, and the device is HEALTHY with its recovery completed. -/
def Recovered (id : AcceleratorId) (x : Exit Exn HealthStore Unit) : Prop :=
  x.result = .ok () ∧ ∃ d rec, x.state.devices.find? id = some d ∧ d.state = .healthy ∧
    d.recovery = some rec ∧ rec.completed = true

/-- The validations of the way back, each with its clock readings. -/
def validations (id : AcceleratorId) (vs : List (Readings × ValidationRecord)) : List Call :=
  vs.map fun v => ⟨.revalidate id v.2, v.1⟩

section Path
variable {s : HealthStore} {id : AcceleratorId} {d : Device} {c : Call} {calls : List Call}
  {v : Readings × ValidationRecord} {rest : List (Readings × ValidationRecord)}
  {l : Locked} {rec : RecoveryRecord} {n : Nat} {gr : Grounds} {p : HealthPolicy}

theorem not_recovered_of_throw {x : Exit Exn HealthStore Unit} {e : Exn}
    {f : HealthStore → Exit Exn HealthStore Unit} (h : x.result = .error e) :
    ¬Recovered id (x.andThen f) := by
  intro hrec
  rw [Recovered, Exit.andThen, Exit.bind, h] at hrec
  cases hrec.1

/-- A passing validation on a device that is held. -/
def submitted (id : AcceleratorId) (v : Readings × ValidationRecord) (l : Locked) :
    Exit Exn HealthStore Unit :=
  ((Locked.revalidate v.1 v.2 l).mapState (Locked.commit id)).mapResult fun _ => ()

theorem performs_validations_cons (hd : s.devices.find? id = some d) :
    s.performs (validations id (v :: rest)) =
      (submitted id v ⟨s, d⟩).andThen (performs (validations id rest)) := by
  have hexec : ((s.exec ⟨.revalidate id v.2, v.1⟩).mapResult fun _ => ()) =
      submitted id v ⟨s, d⟩ := by
    simp only [exec, revalidate, onDevice_some hd, submitted, Exit.mapResult_mapResult]
  exact congrArg (fun x => Exit.andThen x (performs (validations id rest))) hexec

/-- The counter does not overflow before it reaches what the policy asks for. -/
theorem counted_toNat {m : Nat} (hcount : rec.successfulValidations.toNat + (m + 1) =
    max 1 p.recoveryValidationsRequired.toNat) :
    rec.counted.successfulValidations.toNat = rec.successfulValidations.toNat + 1 := by
  have := p.recoveryValidationsRequired.toNat_lt
  change (rec.successfulValidations + 1).toNat = _
  rw [UInt32.toNat_add, UInt32.toNat_one, Nat.mod_eq_of_lt (by omega)]

/-- The last validation recovers the device exactly when one more health generation is
left and the faults are tolerated. -/
theorem submitted_last_recovers_iff (h : l.d.Underway .revalidating rec n gr)
    (hlast : l.store.policy.recoveryValidationsRequired ≤ rec.counted.successfulValidations)
    (hpassed : v.2.passed = true) (hquarantine : gr.quarantine.any QuarantineRecord.active = false)
    (hdims : ∀ dim ∈ gr.dimensions.values, dim.state ≠ .failed)
    (hfresh : l.store.policy.freshnessOf gr.lastObservation (v.1 3) = .current) :
    Recovered id ((submitted id v l).andThen (performs (validations id []))) ↔
      n + 1 < 2 ^ 64 ∧ gr.faults.Tolerated l.store.policy := by
  have hspec := Exit.sat_iff.mp (revalidate_last h hpassed hlast hquarantine hdims hfresh)
  cases hres : (Locked.revalidate v.1 v.2 l).result with
  | error e =>
    have hthrow : (submitted id v l).result = .error e := by
      simp only [submitted, Exit.mapResult, Exit.mapState_result, hres, Except.map]
    exact iff_of_false (not_recovered_of_throw hthrow) (hspec.2 e hres)
  | ok snapshot =>
    obtain ⟨hroom, hhealthy, rec', hrec', hcompleted⟩ := hspec.1 snapshot hres
    have hreturn : (submitted id v l).result = .ok () := by
      simp only [submitted, Exit.mapResult, Exit.mapState_result, hres, Except.map]
    have hfind : (submitted id v l).state.devices.find? id =
        some (Locked.revalidate v.1 v.2 l).state.d := OrdMap.find?_insert_self _ _ _
    rw [← hhealthy]
    unfold Exit.andThen Exit.bind Recovered
    simp only [hreturn]
    constructor
    · rintro ⟨-, d, rec, hd, hs, -⟩
      rw [← Option.some.inj (hfind.symm.trans hd)] at hs
      exact ⟨hroom, hs⟩
    · rintro ⟨-, hs⟩
      exact ⟨rfl, _, rec', hfind, hs, hrec', hcompleted⟩

/-- From REVALIDATING, the validations still missing complete the recovery exactly when
one more health generation is left and the faults are tolerated. -/
theorem submitted_recovers_iff (hpolicy : l.store.policy = p)
    (h : l.d.Underway .revalidating rec n gr)
    (hcount : rec.successfulValidations.toNat + (v :: rest).length =
      max 1 p.recoveryValidationsRequired.toNat)
    (hpassed : ∀ w ∈ v :: rest, w.2.passed = true)
    (hquarantine : gr.quarantine.any QuarantineRecord.active = false)
    (hdims : ∀ dim ∈ gr.dimensions.values, dim.state ≠ .failed)
    (hfresh : ∀ w ∈ v :: rest, p.freshnessOf gr.lastObservation (w.1 3) = .current) :
    Recovered id ((submitted id v l).andThen (performs (validations id rest))) ↔
      n + 1 < 2 ^ 64 ∧ gr.faults.Tolerated p := by
  induction rest generalizing l v rec with
  | nil =>
    subst hpolicy
    refine submitted_last_recovers_iff h ?_ (hpassed v List.mem_cons_self) hquarantine hdims
      (hfresh v List.mem_cons_self)
    rw [UInt32.le_iff_toNat_le, counted_toNat hcount]
    simp only [List.length_cons, List.length_nil] at hcount
    omega
  | cons w rest ih =>
    have hcounted := counted_toNat hcount
    have hmore : ¬l.store.policy.recoveryValidationsRequired ≤
        rec.counted.successfulValidations := by
      rw [UInt32.le_iff_toNat_le, hcounted, hpolicy]
      simp only [List.length_cons] at hcount
      omega
    obtain ⟨snapshot, l', hres, hpolicy', hl'⟩ :=
      revalidate_counts v.1 h (hpassed v List.mem_cons_self) hmore
    have hreturn : submitted id v l = .ok () (l'.commit id) := by
      rw [submitted, hres]
      rfl
    have hfind : (l'.commit id).devices.find? id = some l'.d := OrdMap.find?_insert_self _ _ _
    rw [hreturn, Exit.ok_andThen, performs_validations_cons hfind]
    apply ih (l := ⟨l'.commit id, l'.d⟩) (hpolicy'.trans hpolicy) hl'
    · rw [hcounted, ← hcount]
      simp only [List.length_cons]
      omega
    · exact fun w hw => hpassed w (List.mem_cons_of_mem _ hw)
    · exact fun w hw => hfresh w (List.mem_cons_of_mem _ hw)

/-- The same from RECOVERING, where the first validation takes one generation more. -/
theorem validations_recover_iff (hd : s.devices.find? id = some d)
    (h : d.Underway .recovering rec n gr) (hzero : rec.successfulValidations = 0)
    {vs : List (Readings × ValidationRecord)}
    (hcount : vs.length = max 1 s.policy.recoveryValidationsRequired.toNat)
    (hpassed : ∀ v ∈ vs, v.2.passed = true)
    (hquarantine : gr.quarantine.any QuarantineRecord.active = false)
    (hdims : ∀ dim ∈ gr.dimensions.values, dim.state ≠ .failed)
    (hfresh : ∀ v ∈ vs, s.policy.freshnessOf gr.lastObservation (v.1 3) = .current) :
    Recovered id (s.performs (validations id vs)) ↔
      n + 2 < 2 ^ 64 ∧ gr.faults.Tolerated s.policy := by
  cases vs with
  | nil =>
    simp only [List.length_nil] at hcount
    omega
  | cons v rest =>
    rw [performs_validations_cons hd]
    rcases revalidate_first v.1 (l := ⟨s, d⟩) h (hpassed v List.mem_cons_self) with
      ⟨hroom, l₁, hsame, hpolicy, h₁⟩ | ⟨hspent, e, hthrow⟩
    · have hsubmitted : submitted id v ⟨s, d⟩ = submitted id v l₁ := by
        rw [submitted, hsame]
        rfl
      rw [hsubmitted]
      apply submitted_recovers_iff hpolicy h₁ _ hpassed hquarantine hdims hfresh
      rw [hzero, ← hcount]
      exact Nat.zero_add _
    · have hthrow' : (submitted id v ⟨s, d⟩).result = .error e := by
        simp only [submitted, Exit.mapResult, Exit.mapState_result, hthrow, Except.map]
      exact iff_of_false (not_recovered_of_throw hthrow') fun hc => hspent (by omega)

end Path

/-- When the way back leads to HEALTHY: three health generations and a recovery
generation are left, and the policy tolerates the faults still on record. -/
theorem recovery_path_works_iff (s : HealthStore) (id : AcceleratorId) (d : Device)
    (hd : s.devices.find? id = some d) (hstate : d.state = .failed ∨ d.state = .quarantined)
    (hquarantine : d.quarantined = false) (hin : d.inRecovery = false)
    (hdims : ∀ dim ∈ d.dimensions.values, dim.state ≠ .failed)
    (clk : Readings) (vs : List (Readings × ValidationRecord))
    (hcount : vs.length = max 1 s.policy.recoveryValidationsRequired.toNat)
    (hpassed : ∀ v ∈ vs, v.2.passed = true ∧ s.policy.requiredValidationDepth ≤ v.2.depth)
    (hfresh : ∀ v ∈ vs, ∀ i, s.policy.freshnessOf d.lastObservation (v.1 i) = .current) :
    Recovered id (s.performs (⟨.beginRecovery id, clk⟩ :: validations id vs)) ↔
      d.healthGeneration.value.toNat + 3 < 2 ^ 64 ∧
        (∀ rec, d.recovery = some rec → rec.generation ≠ .last) ∧
        d.faults.Tolerated s.policy := by
  have hexec : ((s.exec ⟨.beginRecovery id, clk⟩).mapResult fun _ => ()) =
      (Locked.beginRecovery clk ⟨s, d⟩).mapState (Locked.commit id) := by
    simp only [exec, beginRecovery, onDevice_some hd, Exit.mapResult_mapResult]
    exact Exit.mapResult_unit _ _
  have hperforms : s.performs (⟨.beginRecovery id, clk⟩ :: validations id vs) =
      ((Locked.beginRecovery clk ⟨s, d⟩).mapState (Locked.commit id)).andThen
        (performs (validations id vs)) :=
    congrArg (fun x => Exit.andThen x (performs (validations id vs))) hexec
  have hspec := Exit.sat_iff.mp (beginRecovery_spec clk (l := ⟨s, d⟩) hstate hin)
  rw [hperforms]
  cases hres : (Locked.beginRecovery clk ⟨s, d⟩).result with
  | error e =>
    refine iff_of_false (not_recovered_of_throw (e := e) hres) fun hc => hspec.2 e hres ⟨?_, hc.2.1⟩
    exact Nat.lt_of_le_of_lt (Nat.add_le_add_left (by decide) _) hc.1
  | ok u =>
    obtain ⟨-, hgen, hpolicy, rec, hzero, hunderway⟩ := hspec.1 u hres
    have hfind : ((Locked.beginRecovery clk ⟨s, d⟩).state.commit id).devices.find? id =
        some (Locked.beginRecovery clk ⟨s, d⟩).state.d := OrdMap.find?_insert_self _ _ _
    have hpolicy' : ((Locked.beginRecovery clk ⟨s, d⟩).state.commit id).policy = s.policy := hpolicy
    have hrest := validations_recover_iff hfind hunderway hzero (hpolicy'.symm ▸ hcount)
      (fun v hv => (hpassed v hv).1) hquarantine hdims
      (by rw [hpolicy']; exact fun v hv => hfresh v hv 3)
    unfold Exit.andThen Exit.bind
    simp only [Exit.mapState_result, hres, Exit.mapState_state]
    rw [hrest, hpolicy']
    constructor
    · rintro ⟨hroom, htolerated⟩
      exact ⟨hroom, hgen, htolerated⟩
    · rintro ⟨hroom, -, htolerated⟩
      exact ⟨hroom, htolerated⟩

/-- Device 7, brought up, quarantined after a fault and released: QUARANTINED without a record,
and with an open fault that is tolerated. -/
def released : List Call := bringUp ++ [recoverableFault ⟨1⟩,
  (Op.beginQuarantine ⟨7⟩ .operator [] []).at 1, (Op.clearQuarantine ⟨7⟩).at 1]

/-- One full validation of device 7. -/
def fullPass : List (Readings × ValidationRecord) :=
  [(fun _ => ⟨1⟩, { accelerator := ⟨7⟩, depth := .full, passed := true })]

theorem recovery_path_works_after_release :
    Recovered ⟨7⟩ ((after {} 0 released).performs
      (⟨.beginRecovery ⟨7⟩, fun _ => ⟨1⟩⟩ :: validations ⟨7⟩ fullPass)) := by
  have hview : ((after {} 0 released).devices.find? ⟨7⟩).any (fun d =>
      decide (d.state = .quarantined ∧ d.quarantined = false ∧ d.inRecovery = false ∧
        d.healthGeneration = ⟨3⟩) &&
      decide (d.dimensions = .empty ∧ d.lastObservation = ⟨1⟩ ∧ d.recovery = none ∧
        d.faults.faults = [recoverable ⟨1⟩] ∧ d.faults.Tolerated {})) = true := by decide +kernel
  obtain ⟨d, hd, heq⟩ := (Option.any_eq_true _ _).mp hview
  simp only [Bool.and_eq_true, decide_eq_true_eq] at heq
  obtain ⟨⟨hstate, hquarantine, hin, hgen⟩, hdims, hlast, hrecovery, -, htolerated⟩ := heq
  have hpolicy : (after {} 0 released).policy = {} := by decide +kernel
  refine (recovery_path_works_iff _ ⟨7⟩ d hd (Or.inr hstate) hquarantine hin ?_ _ fullPass ?_ ?_
    ?_).mpr ⟨?_, ?_, ?_⟩
  · simp [hdims, OrdMap.values, OrdMap.empty]
  · rw [hpolicy]
    rfl
  · rw [hpolicy]
    decide
  · rw [hpolicy, hlast]
    intro v hv i
    rw [List.mem_singleton.mp hv]
    exact (by decide : HealthPolicy.freshnessOf {} ⟨1⟩ ⟨1⟩ = .current)
  · rw [hgen]
    decide
  · simp [hrecovery]
  · rw [hpolicy]
    exact htolerated

/-- Device 7 FAILED on an open fatal fault: the last validation completes the recovery, and
the reassessment in the same call takes the device back to FAILED. -/
theorem recovery_path_leads_back_to_failed :
    (after {} 0 (bringUp ++ [fatalFault])).Reachable ∧
      ((after {} 0 (bringUp ++ [fatalFault])).devices.find? ⟨7⟩).map (fun d =>
        (d.state, d.quarantined, d.inRecovery, d.dimensions,
          (after {} 0 (bringUp ++ [fatalFault])).policy.freshnessOf d.lastObservation ⟨1⟩)) =
        some (.failed, false, false, .empty, .current) ∧
      fullPass.length =
        max 1 (after {} 0 (bringUp ++ [fatalFault])).policy.recoveryValidationsRequired.toNat ∧
      ¬Recovered ⟨7⟩ ((after {} 0 (bringUp ++ [fatalFault])).performs
        (⟨.beginRecovery ⟨7⟩, fun _ => ⟨1⟩⟩ :: validations ⟨7⟩ fullPass)) := by
  refine ⟨⟨_, _, _, rfl⟩, by decide +kernel, by decide +kernel, ?_⟩
  rintro ⟨-, d, rec, hd, hhealthy, -⟩
  have hfailed : ((((after {} 0 (bringUp ++ [fatalFault])).performs
      (⟨.beginRecovery ⟨7⟩, fun _ => ⟨1⟩⟩ :: validations ⟨7⟩ fullPass)).state.devices.find?
        ⟨7⟩).map Device.state) = some .failed := by decide +kernel
  rw [hd, Option.map_some, hhealthy] at hfailed
  cases hfailed

end HealthStore
end AcceleratorHealth
