import AcceleratorHealth.RecoveryGate
import AcceleratorHealth.Agreement

/-! The depth at the end of a recovery. The readiness rules compare the policy's depth with
the deepest validation that a device has ever passed, so a run is followed together with a
tally: the validations of the recovery, and the depth that the device owes to anything else. -/
namespace AcceleratorHealth
open Codec Locked Persistence

/-- The depth that the call lends the device `k`. -/
def Op.lends (op : Op) (k : AcceleratorId) : ValidationDepth :=
  match op with
  | .recordValidation v => if v.accelerator = k ∧ v.passed then v.depth else .none
  | .revalidate id v => if id = k ∧ v.passed then v.depth else .none
  | _ => .none

/-! ### One device -/

namespace Locked
variable {now : Timestamp} {clk : Readings} {l l' m : Locked} {v : ValidationRecord}

theorem depth_reassessLocked (clk : Readings) (l : Locked) :
    (reassessLocked clk l).state.d.highestValidation = l.d.highestValidation :=
  of_basis_eq (basis_reassessLocked clk l) Device.highestValidation fun _ => rfl

theorem depth_applyTransitionLocked {toState : HealthState} {label detail : Str} :
    (applyTransitionLocked now toState label detail l).state.d.highestValidation =
      l.d.highestValidation :=
  of_basis_eq (basis_applyTransitionLocked toState label detail) Device.highestValidation
    fun _ => rfl

theorem depth_addValidation : (addValidation v l).d.highestValidation =
    max l.d.highestValidation (if v.passed then v.depth else .none) := by
  have hleast : ∀ depth : ValidationDepth, ValidationDepth.none ≤ depth := by
    intro depth
    cases depth <;> decide
  unfold addValidation
  by_cases hv : v.passed = true
  · rw [if_pos hv]
    simp only [hv, true_and]
    split_ifs with hlt
    · exact (max_eq_right hlt.le).symm
    · exact (max_eq_left (not_lt.mp hlt)).symm
  · rw [if_neg hv, max_eq_left (hleast _)]
    exact if_neg fun h => hv h.1

theorem depth_recoveryPassed :
    (recoveryPassed clk l).state.d.highestValidation = l.d.highestValidation := by
  unfold recoveryPassed
  apply Exit.state_andThen
    (P := fun l' : Locked => l'.d.highestValidation = l.d.highestValidation)
  · split_ifs
    · exact depth_applyTransitionLocked
    · rfl
  · intro l' h
    simp only
    split_ifs
    · apply Exit.state_andThen
        (P := fun l' : Locked => l'.d.highestValidation = l.d.highestValidation)
      · exact depth_applyTransitionLocked.trans h
      · exact fun _ h => h
    · exact h

theorem depth_recoveryStep :
    (recoveryStep clk v l).state.d.highestValidation = l.d.highestValidation := by
  unfold recoveryStep recoveryFailed
  split_ifs
  · exact depth_recoveryPassed
  · exact depth_applyTransitionLocked
  · rfl
  · rfl

theorem depth_beginRecovery :
    (beginRecovery clk l).state.d.highestValidation = l.d.highestValidation := by
  unfold beginRecovery
  split_ifs
  · rfl
  · rfl
  · apply Exit.state_andThen
      (P := fun l' : Locked => l'.d.highestValidation = l.d.highestValidation)
    · apply Exit.state_andThen
        (P := fun l' : Locked => l'.d.highestValidation = l.d.highestValidation)
      · exact depth_applyTransitionLocked
      · intro l' h
        unfold openRecovery
        simp only
        split <;> exact h
    · exact fun l' h => (depth_reassessLocked _ l').trans h

/-- No call but a validation that passes changes the depth of a device. -/
theorem Touch.depth {c : Call} {k : AcceleratorId} (h : Touch c k l l') :
    l'.d.highestValidation = max l.d.highestValidation (c.op.lends k) := by
  have hkept : c.op.lends k = .none → l'.d.highestValidation = l.d.highestValidation →
      l'.d.highestValidation = max l.d.highestValidation (c.op.lends k) := by
    intro hlends heq
    rw [hlends, heq]
    cases l.d.highestValidation <;> decide
  cases h with
  | @validation v op target =>
    unfold recordValidation
    rw [depth_reassessLocked, depth_addValidation, op]
    simp [Op.lends, target]
  | @revalidation v op =>
    rw [revalidate_state]
    have hstep : (recoveryStep c.clk v (addValidation v l)).state.d.highestValidation =
        max l.d.highestValidation (c.op.lends k) := by
      rw [depth_recoveryStep, depth_addValidation, op]
      simp [Op.lends]
    exact Exit.state_andThen (P := fun l' : Locked => l'.d.highestValidation = _) hstep
      fun l' h => (depth_reassessLocked _ l').trans h
  | @observation obs env op =>
    apply hkept (by rw [op]; rfl)
    unfold acceptObservation
    split
    · rfl
    · apply Exit.state_andThen
        (P := fun l' : Locked => l'.d.highestValidation = l.d.highestValidation)
      · rw [depth_reassessLocked]
        unfold takeObservation
        simp only
        split_ifs <;> rfl
      · exact fun _ h => h
  | fault op =>
    apply hkept (by rw [op]; rfl)
    unfold recordFault
    split
    · rfl
    · exact depth_reassessLocked ..
  | quarantine op =>
    apply hkept (by rw [op]; rfl)
    unfold beginQuarantine
    split_ifs
    · rfl
    · apply Exit.state_andThen
        (P := fun l' : Locked => l'.d.highestValidation = l.d.highestValidation)
      · exact depth_applyTransitionLocked
      · exact fun l' h => (depth_reassessLocked _ l').trans h
  | clear op =>
    apply hkept (by rw [op]; rfl)
    unfold clearQuarantine
    rw [depth_reassessLocked]
    unfold closeQuarantine
    split <;> rfl
  | recovery op => exact hkept (by rw [op]; rfl) depth_beginRecovery
  | lost op =>
    apply hkept (by rw [op]; rfl)
    unfold markLost
    simp only
    split_ifs
    · rfl
    · exact depth_applyTransitionLocked
    · rfl
  | reassess clk op =>
    apply hkept
    · rcases op with op | op <;> rw [op] <;> rfl
    · exact depth_reassessLocked ..
  | orphan clk op =>
    apply hkept (by rw [op]; rfl)
    unfold HealthStore.orphan
    split_ifs
    · exact depth_reassessLocked ..
    · rfl
  | policy clk op => exact hkept (by rw [op]; rfl) (depth_reassessLocked ..)
  | policySkipped op => exact hkept (by rw [op]; rfl) rfl

/-! ### The end of a recovery -/

/-- A validation ends a recovery in HEALTHY, or not at all. -/
theorem recoveryStep_ends (hin : l.d.inRecovery = true) : (recoveryStep clk v l).Sat
    (fun _ m => m.d.inRecovery = true ∨ m.d.state = .healthy)
    fun _ m => m.d.inRecovery = true := by
  have hkept : ∀ {now : Timestamp} {toState : HealthState} {label detail : Str} {m : Locked},
      m.d.inRecovery = true →
        (applyTransitionLocked now toState label detail m).state.d.inRecovery = true :=
    fun h => (of_basis_eq (basis_applyTransitionLocked ..) Device.inRecovery fun _ => rfl).trans h
  unfold recoveryStep
  rw [if_pos hin]
  split_ifs
  · unfold recoveryPassed
    apply Exit.Sat.andThen (P := fun m => m.d.inRecovery = true)
    · split_ifs
      · exact Exit.sat_of_state (hkept hin)
      · exact hin
    · intro m hm
      simp only
      split_ifs
      · apply Exit.Sat.andThen (P := fun m => m.d.state = .healthy)
        · apply applyTransitionLocked_sat
          · exact fun h => h
          · exact fun _ _ => hm
          · exact fun _ _ => hm
          · exact fun _ _ _ => rfl
        · exact fun _ h => Or.inr h
      · exact Or.inl hm
  · unfold recoveryFailed
    split_ifs
    · exact (Exit.sat_of_state (P := fun m : Locked => m.d.inRecovery = true) (hkept hin)).mono
        (fun _ _ h => Or.inl h) fun _ _ h => h
    · exact Or.inl hin

/-- A device that is out of recovery, HEALTHY and READY has the depth that the policy asks
for. -/
def Deep (l : Locked) : Prop := l.d.inRecovery = false → l.d.state = .healthy →
  l.d.readiness = .ready → l.store.policy.requiredValidationDepth ≤ l.d.highestValidation

theorem deep_published {start : Locked} {blocked : Bool} :
    Deep (published now start blocked l) := by
  intro _ hhealthy hready
  have hclaims : (published now start blocked l).d.claimsReady = true := by
    unfold Device.claimsReady
    rw [hready]
    rfl
  rw [claimsReady_published, Bool.and_eq_true] at hclaims
  rcases evaluate_requires hclaims.2 with ⟨hdegraded, -⟩ | ⟨hdepth, -⟩
  · rw [show (readinessInput now l).health = .healthy from hhealthy] at hdegraded
    cases hdegraded
  · exact hdepth

theorem deep_of_inRecovery (h : l.d.inRecovery = true) : Deep l := by
  intro hnot
  rw [h] at hnot
  cases hnot

theorem deep_reassessLocked (hm : m.d.inRecovery = true ∨ m.d.state = .healthy) :
    Deep (reassessLocked clk m).state := by
  apply reassessLocked_state
  · exact fun _ => deep_published
  · exact fun _ _ _ => deep_published
  · exact fun _ _ => deep_published
  · intro hlegal _ hnot hstate _
    rcases hm with hm | hm
    · rw [show m.d.inRecovery = false from hnot] at hm
      cases hm
    · exact absurd (hm.trans hstate.symm) (canTransition_ne hlegal)

theorem deep_revalidate (hin : l.d.inRecovery = true) :
    Deep (Locked.revalidate clk v l).state := by
  have hends : (recoveryStep clk v (addValidation v l)).Sat
      (fun _ m => m.d.inRecovery = true ∨ m.d.state = .healthy) fun _ m => m.d.inRecovery = true :=
    recoveryStep_ends hin
  have hbefore := hends.mono (T := fun _ => Deep) (fun _ _ h => h) fun _ _ h => deep_of_inRecovery h
  have hsat : ((recoveryStep clk v (addValidation v l)).andThen (reassessLocked (clk.drop 3))).Sat
      (fun _ => Deep) fun _ => Deep :=
    hbefore.andThen fun _ hm => Exit.sat_of_state (deep_reassessLocked hm)
  rw [revalidate_state]
  exact hsat.state

end Locked

/-! ### Runs -/

/-- What the depth of a device in recovery rests on: the validations submitted to
`revalidate` since the recovery began, and the depth that the device has from elsewhere. -/
structure Tally where
  own : List ValidationRecord := []
  elsewhere : ValidationDepth := .none

/-- The depth is one of a validation of the recovery, or it is from elsewhere. -/
def Tally.Covers (t : Tally) (d : Device) : Prop :=
  d.highestValidation ≤ t.elsewhere ∨
    ∃ u ∈ t.own, u.passed = true ∧ d.highestValidation ≤ u.depth

/-- Some validation submitted to `revalidate` in this recovery has passed at the depth that
the policy asks for. -/
def Tally.Earned (t : Tally) (v : ValidationRecord) (depth : ValidationDepth) : Prop :=
  ∃ u ∈ t.own ++ [v], u.passed = true ∧ depth ≤ u.depth

theorem Tally.Covers.of_eq {t : Tally} {d d' : Device} (h : t.Covers d)
    (hdepth : d'.highestValidation = d.highestValidation) : t.Covers d' := by
  unfold Tally.Covers
  rw [hdepth]
  exact h

namespace HealthStore
variable {s : HealthStore} {c : Call} {id : AcceleratorId} {t : Tally}

/-- The highest depth on record for a device. -/
def depthOf (id : AcceleratorId) (s : HealthStore) : ValidationDepth :=
  (s.devices.find? id).elim .none Device.highestValidation

/-- The tally after one more call: it starts anew with a call that begins the device's
recovery, and with one that replaces the devices by those of an image. -/
def tallied (id : AcceleratorId) (s : HealthStore) (c : Call) (t : Tally) : Tally :=
  match c.op with
  | .revalidate k v => if k = id then { t with own := t.own ++ [v] } else t
  | .recordValidation v =>
    if v.accelerator = id ∧ v.passed then { t with elsewhere := max t.elsewhere v.depth } else t
  | .beginRecovery k =>
    if k = id ∧ s.recovering id = false ∧ (s.step c).recovering id = true then
      { own := [], elsewhere := s.depthOf id }
    else t
  | .decode data | .loadFromFile (some data) =>
    if (header data).isSome then { own := [], elsewhere := (s.step c).depthOf id } else t
  | _ => t

/-- A store and the tally of the device `id`, one call on. -/
def tallyStep (id : AcceleratorId) (x : HealthStore × Tally) (c : Call) : HealthStore × Tally :=
  (x.1.step c, tallied id x.1 c x.2)

/-- While the device is in recovery the tally covers its depth. -/
def Tallied (id : AcceleratorId) (x : HealthStore × Tally) : Prop :=
  ∀ d, x.1.devices.find? id = some d → d.inRecovery = true → x.2.Covers d

theorem depthOf_eq {d : Device} (hd : s.devices.find? id = some d) :
    s.depthOf id = d.highestValidation := by
  simp [depthOf, hd]

/-- A record whose depth is the tally's own depth from elsewhere. -/
theorem tallied_anew (own : List ValidationRecord) : Tallied id (s, ⟨own, s.depthOf id⟩) := by
  intro d hd _
  exact Or.inl (depthOf_eq hd).ge

/-- Whatever depth a call lends the device is taken down in its tally. -/
theorem tallied_covers {d d' : Device} (h : t.Covers d)
    (hdepth : d'.highestValidation ≤ max d.highestValidation (c.op.lends id))
    (hbegin : c.op ≠ .beginRecovery id) (hload : c.op.loads = false) :
    (tallied id s c t).Covers d' := by
  have hleast : c.op.lends id = .none → d'.highestValidation ≤ d.highestValidation := by
    intro hlends
    rw [hlends] at hdepth
    rcases le_max_iff.mp hdepth with hle | hle
    · exact hle
    · cases hd' : d'.highestValidation <;> rw [hd'] at hle <;> first
        | exact absurd hle (by decide)
        | cases d.highestValidation <;> decide
  have hcovers : d'.highestValidation ≤ d.highestValidation → t.Covers d' := by
    intro hle
    rcases h with hfrom | ⟨u, hu, hpassed, hfrom⟩
    · exact Or.inl (hle.trans hfrom)
    · exact Or.inr ⟨u, hu, hpassed, hle.trans hfrom⟩
  unfold tallied
  cases hop : c.op with
  | revalidate k v =>
    simp only
    split_ifs with hk
    · by_cases hle : d'.highestValidation ≤ d.highestValidation
      · rcases hcovers hle with hfrom | ⟨u, hu, hrest⟩
        · exact Or.inl hfrom
        · exact Or.inr ⟨u, List.mem_append_left [v] hu, hrest⟩
      · have hlent := (le_max_iff.mp hdepth).resolve_left hle
        rw [hop] at hlent hleast
        simp only [Op.lends] at hlent hleast
        by_cases hv : k = id ∧ v.passed = true
        · rw [if_pos hv] at hlent
          exact Or.inr ⟨v, List.mem_append_right t.own List.mem_cons_self, hv.2, hlent⟩
        · exact absurd (hleast (if_neg hv)) hle
    · rw [hop] at hleast
      exact hcovers (hleast (if_neg fun hv => hk hv.1))
  | recordValidation v =>
    simp only
    split_ifs with hv
    · rcases le_max_iff.mp hdepth with hle | hlent
      · rcases hcovers hle with hfrom | hown
        · exact Or.inl (hfrom.trans (le_max_left ..))
        · exact Or.inr hown
      · rw [hop] at hlent
        simp only [Op.lends, if_pos hv] at hlent
        exact Or.inl (hlent.trans (le_max_right ..))
    · rw [hop] at hleast
      exact hcovers (hleast (if_neg hv))
  | beginRecovery k =>
    have hk : k ≠ id := by
      rintro rfl
      exact hbegin hop
    simp only [hk, false_and, if_false]
    rw [hop] at hleast
    exact hcovers (hleast rfl)
  | decode data | loadFromFile contents => simp [hop, Op.loads] at hload
  | _ =>
    rw [hop] at hleast
    exact hcovers (hleast rfl)

/-- A device comes into recovery by `beginRecovery` alone. -/
theorem inRecovery_of_touch {k : AcceleratorId} {l l' : Locked} (h : Touch c k l l')
    (hbegin : c.op ≠ .beginRecovery k) (hin : l'.d.inRecovery = true) : l.d.inRecovery = true := by
  by_cases hrevalidate : ∃ v, c.op = .revalidate k v
  · obtain ⟨v, hop⟩ := hrevalidate
    by_contra hnot
    rw [h.of_revalidate hop] at hin
    have hkept := progress_revalidate_outside c.clk v (l := l) (by simpa using hnot)
    exact hnot ((congrArg Prod.fst hkept).symm.trans hin)
  · have hkept := h.progress_kept hbegin fun v hop => hrevalidate ⟨v, hop⟩
    exact (congrArg Prod.fst hkept).symm.trans hin

theorem tallied_beginRecovery {clk : Readings} (h : Tallied id (s, t)) :
    Tallied id (tallyStep id (s, t) ⟨.beginRecovery id, clk⟩) := by
  intro d' hd' hin'
  replace hd' : (s.step ⟨.beginRecovery id, clk⟩).devices.find? id = some d' := hd'
  obtain ⟨d, hd, hcase⟩ := step_touched s (by rfl) (fun _ _ h => by cases h) id d' hd'
  have hdepth : d'.highestValidation = d.highestValidation := by
    rcases hcase with rfl | ⟨l, l', rfl, -, htouch, rfl⟩
    · rfl
    · rw [htouch.of_beginRecovery rfl]
      exact depth_beginRecovery
  by_cases hin : d.inRecovery = true
  · have hsame : tallied id s ⟨.beginRecovery id, clk⟩ t = t := by
      simp [tallied, recovering_eq hd, hin]
    show (tallied id s ⟨.beginRecovery id, clk⟩ t).Covers d'
    have hcovers : t.Covers d := h d hd hin
    rw [hsame]
    exact hcovers.of_eq hdepth
  · have hanew : tallied id s ⟨.beginRecovery id, clk⟩ t = ⟨[], s.depthOf id⟩ := by
      have hafter : (s.step ⟨.beginRecovery id, clk⟩).recovering id = true := by
        rw [recovering_eq hd']
        exact hin'
      simp [tallied, recovering_eq hd, hin, hafter]
    show (tallied id s ⟨.beginRecovery id, clk⟩ t).Covers d'
    rw [hanew, depthOf_eq hd]
    exact Or.inl hdepth.le

/-- An image without a header leaves everything as it was; any other one is a new start. -/
theorem tallied_load (h : Tallied id (s, t)) (hload : c.op.loads = true) :
    Tallied id (tallyStep id (s, t) c) := by
  have hrefused : ∀ data, header data = none → (decodeStateInternal data s).state = s ∧
      (loadInternal c.clk (some data) s).state = s := by
    intro data hh
    obtain ⟨e, he⟩ := decode_of_header_none hh s
    have hres : (decodeStateInternal data s).result = .error e := by rw [he]; rfl
    rw [loadInternal_of_error hres, he]
    exact ⟨rfl, rfl⟩
  have himage : ∀ data, (s.step c = (decodeStateInternal data s).state ∨
      s.step c = (loadInternal c.clk (some data) s).state) →
      tallied id s c t =
        (if (header data).isSome then { own := [], elsewhere := (s.step c).depthOf id } else t) →
      Tallied id (tallyStep id (s, t) c) := by
    intro data hstep htally
    unfold tallyStep
    simp only
    rw [htally]
    split_ifs with hh
    · exact tallied_anew []
    · obtain ⟨hdecode, hloaded⟩ := hrefused data (by simpa using hh)
      rcases hstep with hstep | hstep
      · rw [hstep, hdecode]
        exact h
      · rw [hstep, hloaded]
        exact h
  obtain ⟨op, clk⟩ := c
  cases op with
  | decode data => exact himage data (Or.inl rfl) rfl
  | loadFromFile contents =>
    cases contents with
    | none => exact h
    | some data => exact himage data (Or.inr (Exit.mapResult_state ..)) rfl
  | _ => exact absurd hload (by simp [Op.loads])

theorem step_tallied (h : Tallied id (s, t)) : Tallied id (tallyStep id (s, t) c) := by
  by_cases hload : c.op.loads = true
  · exact tallied_load h hload
  have hload : c.op.loads = false := by simpa using hload
  by_cases hbegin : c.op = .beginRecovery id
  · obtain ⟨op, clk⟩ := c
    cases hbegin
    exact tallied_beginRecovery h
  intro d' hd' hin'
  show (tallied id s c t).Covers d'
  rcases step_device hload hd' with ⟨d, hd, rfl | ⟨l, l', rfl, -, htouch, rfl⟩⟩ |
    ⟨_, _, _, _, _, rfl⟩
  · exact tallied_covers (h d' hd hin') (le_max_left ..) hbegin hload
  · have hin := inRecovery_of_touch htouch hbegin hin'
    exact tallied_covers (h l.d hd hin) htouch.depth.le hbegin hload
  · cases hin'

/-- The call ends the recovery of the device `id` and leaves it HEALTHY and READY. -/
def Restores (id : AcceleratorId) (s : HealthStore) (c : Call) (v : ValidationRecord) : Prop :=
  c.op = .revalidate id v ∧ ∃ d d', s.devices.find? id = some d ∧ d.inRecovery = true ∧
    (s.step c).devices.find? id = some d' ∧ d'.inRecovery = false ∧ d'.state = .healthy ∧
    d'.readiness = .ready

/-- A validation that completes the count of a recovery whose validations are all too
shallow finds the device without the depth from elsewhere. -/
def EarnsDepth (id : AcceleratorId) (x : HealthStore × Tally) (c : Call) : Prop :=
  ∀ v d, c.op = .revalidate id v → x.1.devices.find? id = some d → d.inRecovery = true →
    v.passed = true → x.1.policy.recoveryValidationsRequired.toNat ≤ d.successes + 1 →
      (∀ u ∈ x.2.own ++ [v], u.passed = true → u.depth < x.1.policy.requiredValidationDepth) →
        x.2.elsewhere < x.1.policy.requiredValidationDepth

theorem earned_of_restores {v : ValidationRecord} (h : Tallied id (s, t))
    (hearns : EarnsDepth id (s, t) c) (hrestores : s.Restores id c v) :
    t.Earned v s.policy.requiredValidationDepth := by
  obtain ⟨hop, d, d', hd, hin, hd', hout, hhealthy, hready⟩ := hrestores
  obtain ⟨op, clk⟩ := c
  cases hop
  obtain ⟨d₀, hd₀, hcase⟩ := step_touched s (by rfl) (fun _ _ h => by cases h) id d' hd'
  cases hd.symm.trans hd₀
  rcases hcase with rfl | ⟨l, l', rfl, hpolicy, htouch, rfl⟩
  · rw [hout] at hin
    cases hin
  have hpolicy' : l.store.policy = s.policy := hpolicy.trans (step_evolves rfl).policy
  have hdepth : l'.d.highestValidation =
      max l.d.highestValidation (if id = id ∧ v.passed then v.depth else .none) := htouch.depth
  rw [htouch.of_revalidate rfl] at hout hhealthy hready hdepth
  obtain ⟨hpassed, hcount⟩ : v.passed = true ∧
      l.store.policy.recoveryValidationsRequired.toNat ≤ l.d.successes + 1 := by
    rcases (weighed_revalidate clk v hin).held with ⟨hstill, -⟩ | ⟨hone, hcount⟩
    · rw [hout] at hstill
      cases hstill
    · refine ⟨?_, hcount⟩
      by_contra hv
      simp [hv] at hone
  by_contra hnone
  unfold Tally.Earned at hnone
  push Not at hnone
  have helsewhere := hearns v l.d rfl hd hin hpassed (hpolicy' ▸ hcount) hnone
  have hdeep : Deep (Locked.revalidate clk v l).state := deep_revalidate hin
  have hreached := hdeep hout hhealthy hready
  have hkept : (Locked.revalidate clk v l).state.store.policy = l.store.policy :=
    (advances_revalidate clk v l).continues.policy
  rw [hkept, hpolicy', hdepth, if_pos ⟨rfl, hpassed⟩] at hreached
  rcases le_max_iff.mp hreached with hreached | hreached
  · rcases h l.d hd hin with hfrom | ⟨u, hu, hupassed, hfrom⟩
    · exact absurd helsewhere (not_lt.mpr (hreached.trans hfrom))
    · have hshallow := hnone u (List.mem_append_left [v] hu) hupassed
      exact absurd hshallow (not_lt.mpr (hreached.trans hfrom))
  · have hshallow := hnone v (List.mem_append_right t.own List.mem_cons_self) hpassed
    exact absurd hshallow (not_lt.mpr hreached)

theorem run_tallyStep (x : HealthStore × Tally) (calls : List Call) :
    (Machine.run (tallyStep id) x calls).1 = Machine.run step x.1 calls := by
  induction calls generalizing x with
  | nil => rfl
  | cons c rest ih => exact ih (tallyStep id x c)

/-- The tally of a device after a run from an empty store. -/
def tallyAfter (id : AcceleratorId) (policy : HealthPolicy) (epoch : UInt64) (calls : List Call) :
    Tally :=
  (Machine.run (tallyStep id) (init policy epoch, {}) calls).2

/-- Whenever a recovery ends with the device READY, one of its own validations was deep
enough: this in every run in which no recovery of shallow validations alone is completed on
a device that has the depth from elsewhere. -/
theorem recovery_earns_depth (policy : HealthPolicy) (epoch : UInt64) (calls : List Call)
    (id : AcceleratorId)
    (hearns : Machine.Along (tallyStep id) (EarnsDepth id) (init policy epoch, {}) calls) :
    ∀ before c v, before ++ [c] <+: calls → (after policy epoch before).Restores id c v →
      (tallyAfter id policy epoch before).Earned v
        (after policy epoch before).policy.requiredValidationDepth := by
  intro before c v hprefix hrestores
  have hlast := Machine.along_iff_forall_prefix.mp hearns before c hprefix
  obtain ⟨rest, rfl⟩ := hprefix
  have hbefore := (Machine.along_append.mp (Machine.along_append.mp hearns).1).1
  have htallied := Machine.run_invariant (P := Tallied id)
    (fun (s, t) c hx _ => step_tallied hx) (s := (init policy epoch, {}))
    (fun d hd => by simp [init] at hd) hbefore
  have hstore : (Machine.run (tallyStep id) (init policy epoch, {}) before).1 =
      after policy epoch before := run_tallyStep ..
  rw [← hstore] at hrestores ⊢
  exact earned_of_restores htallied hlast hrestores

theorem earnsDepth_of_other {x : HealthStore × Tally} (h : ∀ v, c.op ≠ .revalidate id v) :
    EarnsDepth id x c :=
  fun v _ hop => absurd hop (h v)

theorem restores_of_view {v : ValidationRecord} (hop : c.op = .revalidate id v)
    (h : ((s.devices.find? id).bind fun d => ((s.step c).devices.find? id).map fun d' =>
      decide (d.inRecovery = true ∧ d'.inRecovery = false ∧ d'.state = .healthy ∧
        d'.readiness = .ready)) = some true) : s.Restores id c v := by
  obtain ⟨d, hd, h⟩ := Option.bind_eq_some_iff.mp h
  obtain ⟨d', hd', h⟩ := Option.map_eq_some_iff.mp h
  obtain ⟨hin, hrest⟩ := of_decide_eq_true h
  exact ⟨hop, d, d', hd, hin, hd', hrest⟩

/-- Device 7 is brought up, quarantined, released, and begins to recover. -/
def resumed : List Call := bringUp ++ [
  (Op.beginQuarantine ⟨7⟩ .operator [] []).at 1,
  (Op.clearQuarantine ⟨7⟩).at 1,
  (Op.beginRecovery ⟨7⟩).at 1]

/-- A validation of device 7 that passes at `depth`. -/
def passed (depth : ValidationDepth) : ValidationRecord :=
  { id := ⟨2⟩, accelerator := ⟨7⟩, depth, passed := true }

theorem recovery_earns_full_depth :
    (after {} 0 resumed).Restores ⟨7⟩ ((Op.revalidate ⟨7⟩ (passed .full)).at 1) (passed .full) ∧
      (tallyAfter ⟨7⟩ {} 0 resumed).Earned (passed .full)
        (after {} 0 resumed).policy.requiredValidationDepth := by
  have hrestores : (after {} 0 resumed).Restores ⟨7⟩ ((Op.revalidate ⟨7⟩ (passed .full)).at 1)
      (passed .full) := restores_of_view rfl (by decide +kernel)
  refine ⟨hrestores, recovery_earns_depth {} 0
    (resumed ++ [(Op.revalidate ⟨7⟩ (passed .full)).at 1]) ⟨7⟩ ?_ resumed _ _ List.prefix_rfl
    hrestores⟩
  rw [Machine.along_append]
  constructor
  · apply Machine.along_of_forall
    intro c hc x
    apply earnsDepth_of_other
    intro v hop
    simp only [resumed, bringUp, List.cons_append, List.nil_append, List.mem_cons,
      List.not_mem_nil, or_false] at hc
    rcases hc with rfl | rfl | rfl | rfl | rfl | rfl | rfl <;> cases hop
  · constructor
    · intro v d hop _ _ _ _ hshallow
      cases hop
      have hpolicy : (Machine.run (tallyStep ⟨7⟩) (init {} 0, {})
          resumed).1.policy.requiredValidationDepth = .full := by
        rw [run_tallyStep]
        decide +kernel
      have hlt := hshallow (passed .full) (List.mem_append_right _ List.mem_cons_self) rfl
      rw [hpolicy] at hlt
      exact absurd hlt (lt_irrefl _)
    · trivial

/-- One validation of no depth restores device 7 to service on the depth from before. -/
theorem shallow_revalidation_restores : ¬∀ (policy : HealthPolicy) (epoch : UInt64)
    (calls : List Call) (id : AcceleratorId) (before : List Call) (c : Call)
    (v : ValidationRecord), before ++ [c] <+: calls →
      (after policy epoch before).Restores id c v →
        (tallyAfter id policy epoch before).Earned v
          (after policy epoch before).policy.requiredValidationDepth := by
  intro h
  have hearned := h {} 0 (resumed ++ [(Op.revalidate ⟨7⟩ (passed .enumerationOnly)).at 1]) ⟨7⟩
    resumed _ (passed .enumerationOnly) List.prefix_rfl (restores_of_view rfl (by decide +kernel))
  have hnot : ((tallyAfter ⟨7⟩ {} 0 resumed).own ++ [passed .enumerationOnly]).all (fun u =>
      decide (u.depth < (after {} 0 resumed).policy.requiredValidationDepth)) = true := by
    decide +kernel
  obtain ⟨u, hu, -, hdeep⟩ := hearned
  have hshallow := of_decide_eq_true (List.all_eq_true.mp hnot u hu)
  exact absurd hdeep (not_le.mpr hshallow)

end HealthStore
end AcceleratorHealth
