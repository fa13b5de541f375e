import AcceleratorHealth.Evidence
import AcceleratorHealth.Registration

/-! The gate at the end of a recovery. The successes that `revalidate` counts are set
against the validations that were submitted: the counter never gets ahead of the passed
validations at the end of the list, as long as no failed one finds a success counted. -/
namespace AcceleratorHealth
open Codec Locked Persistence

/-! ### Runs of passed validations -/

/-- How many validations at the end of the list passed, without a failed one between. -/
def lastPassed (past : List Bool) : Nat := (past.reverse.takeWhile fun passed => passed).length

theorem lastPassed_append_true (past : List Bool) :
    lastPassed (past ++ [true]) = lastPassed past + 1 := by
  simp [lastPassed]

theorem lastPassed_le_length (past : List Bool) : lastPassed past ≤ past.length := by
  unfold lastPassed
  have hlength : past.reverse.length = past.length := List.length_reverse
  rw [← hlength]
  exact (List.takeWhile_prefix _).length_le

/-- That many validations, counted from the end, passed. -/
theorem passed_of_le_lastPassed {past : List Bool} {n : Nat} (h : n ≤ lastPassed past) :
    ∀ passed ∈ past.reverse.take n, passed = true := by
  intro passed hmem
  have hstart : past.reverse.take n <+: past.reverse.takeWhile fun passed => passed :=
    List.prefix_of_prefix_length_le (List.take_prefix _ _) (List.takeWhile_prefix _)
      (by rw [List.length_take]; exact (Nat.min_le_left _ _).trans h)
  exact List.mem_takeWhile_imp (hstart.subset hmem)

/-! ### One device -/

namespace Device

/-- The successes counted in the recovery record. -/
def successes (d : Device) : Nat :=
  d.recovery.elim 0 fun rec => rec.successfulValidations.toNat

/-- Where a device stands in its recovery. -/
def progress (d : Device) : Bool × Nat := (d.inRecovery, d.successes)

/-- The second record has become HEALTHY: its state has, or a transition to HEALTHY has
been added to its log. -/
def BecomesHealthy (d d' : Device) : Prop :=
  (d.state ≠ .healthy ∧ d'.state = .healthy) ∨
    ∃ hc ∈ d'.changes.drop d.changes.length, hc.toState = .healthy

instance (d d' : Device) : Decidable (d.BecomesHealthy d') := inferInstanceAs (Decidable (_ ∨ _))

/-- Nothing between the two records leads to HEALTHY. -/
structure Withheld (d d' : Device) : Prop where
  log : ∃ more, d'.changes = d.changes ++ more ∧ ∀ hc ∈ more, hc.toState ≠ .healthy
  state : d'.state = .healthy → d.state = .healthy

namespace Withheld
variable {d d' d'' : Device}

theorem of_eq (hlog : d'.changes = d.changes) (hstate : d'.state = d.state) : d.Withheld d' :=
  ⟨⟨[], by simp [hlog], by simp⟩, fun h => hstate ▸ h⟩

theorem trans (h : d.Withheld d') (h' : d'.Withheld d'') : d.Withheld d'' := by
  obtain ⟨more, hmore, hne⟩ := h.log
  obtain ⟨more', hmore', hne'⟩ := h'.log
  refine ⟨⟨more ++ more', by rw [hmore', hmore, List.append_assoc], fun hc hmem => ?_⟩,
    fun hs => h.state (h'.state hs)⟩
  rcases List.mem_append.mp hmem with hmem | hmem
  · exact hne hc hmem
  · exact hne' hc hmem

theorem not_becomesHealthy (h : d.Withheld d') : ¬d.BecomesHealthy d' := by
  obtain ⟨more, hmore, hne⟩ := h.log
  rintro (⟨hs, hs'⟩ | ⟨hc, hmem, hto⟩)
  · exact hs (h.state hs')
  · rw [hmore, List.drop_left] at hmem
    exact hne hc hmem hto

end Withheld
end Device

namespace Locked
variable {now : Timestamp} {clk : Readings} {l l' : Locked} {toState : HealthState}
  {label detail : Str} {n : Nat} {v : ValidationRecord}

theorem withheld_applyTransitionLocked (hto : toState ≠ .healthy) :
    l.d.Withheld (applyTransitionLocked now toState label detail l).state.d := by
  apply applyTransitionLocked_state (P := fun l' => l.d.Withheld l'.d)
  · exact .of_eq rfl rfl
  · exact fun _ _ => ⟨⟨[], by simp [torn], by simp⟩, fun h => absurd h hto⟩
  · intro g _ _
    refine ⟨⟨[_], rfl, fun hc hmem => ?_⟩, fun h => absurd h hto⟩
    rw [List.mem_singleton.mp hmem]
    exact hto

/-- In recovery a reassessment never asks for HEALTHY. -/
theorem withheld_reassessLocked (hin : l.d.inRecovery = true) :
    l.d.Withheld (reassessLocked clk l).state.d := by
  have hto : target (clk 0) l ≠ .healthy := by
    rw [target_of_inRecovery hin]
    cases l.d.state <;> decide
  apply reassessLocked_state (P := fun l' => l.d.Withheld l'.d)
  · exact fun _ => .of_eq rfl rfl
  · intro g _ _
    refine ⟨⟨[_], rfl, fun hc hmem => ?_⟩, fun h => absurd h hto⟩
    rw [List.mem_singleton.mp hmem]
    exact hto
  · exact fun _ _ => .of_eq rfl rfl
  · exact fun _ _ => ⟨⟨[], by simp [torn], by simp⟩, fun h => absurd h hto⟩

/-- What a validation with `n` successes, none or one, makes of a device in recovery:
HEALTHY is out of reach unless it completes the count that the policy asks for. -/
structure Weighed (n : Nat) (l l' : Locked) : Prop where
  policy : l'.store.policy = l.store.policy
  counted : l'.d.successes ≤ l.d.successes + n
  held : (l'.d.inRecovery = true ∧ l.d.Withheld l'.d) ∨
    (n = 1 ∧ l.store.policy.recoveryValidationsRequired.toNat ≤ l.d.successes + 1)

theorem Weighed.reassessed (h : Weighed n l l') : Weighed n l (reassessLocked clk l').state := by
  have hbasis := basis_reassessLocked clk l'
  have hin : (reassessLocked clk l').state.d.inRecovery = l'.d.inRecovery :=
    of_basis_eq hbasis Device.inRecovery fun _ => rfl
  constructor
  · exact (congrArg Prod.fst hbasis).trans h.policy
  · exact (of_basis_eq hbasis Device.successes fun _ => rfl).trans_le h.counted
  · rcases h.held with ⟨hl', hwithheld⟩ | hdone
    · exact Or.inl ⟨hin.trans hl', hwithheld.trans (withheld_reassessLocked hl')⟩
    · exact Or.inr hdone

theorem successes_countSuccess : (countSuccess l).d.successes ≤ l.d.successes + 1 := by
  unfold countSuccess Device.successes
  cases l.d.recovery with
  | none => simp
  | some rec =>
    simp only [Option.map_some, Option.elim_some, UInt32.toNat_add, UInt32.toNat_one]
    exact Nat.mod_le _ _

theorem successes_closeRecovery : (closeRecovery now l).d.successes = l.d.successes := by
  unfold closeRecovery Device.successes
  cases l.d.recovery <;> rfl

/-- The gate opens only on a full count. -/
theorem required_le_of_revalidated (h : revalidated l = true) :
    l.store.policy.recoveryValidationsRequired.toNat ≤ l.d.successes := by
  unfold revalidated at h
  rw [Bool.and_eq_true] at h
  unfold Device.successes
  cases hrec : l.d.recovery with
  | none => simp [hrec] at h
  | some rec =>
    simp only [hrec, Option.any_some, decide_eq_true_eq] at h
    exact UInt32.le_iff_toNat_le.mp h.2

theorem weighed_recoveryPassed (hin : l.d.inRecovery = true) :
    Weighed 1 l (recoveryPassed clk l).state := by
  have hkept : ∀ l₁ : Locked, l₁.basis = l.basis → l.d.Withheld l₁.d → Weighed 1 l l₁ := by
    intro l₁ hbasis hwithheld
    refine ⟨congrArg Prod.fst hbasis, ?_, Or.inl ⟨?_, hwithheld⟩⟩
    · exact ((of_basis_eq hbasis Device.successes fun _ => rfl).trans_le (Nat.le_succ _))
    · exact (of_basis_eq hbasis Device.inRecovery fun _ => rfl).trans hin
  unfold recoveryPassed
  refine (Exit.Sat.andThen (P := fun l₁ => l₁.basis = l.basis ∧ l.d.Withheld l₁.d)
    (R := fun _ => Weighed 1 l) ?_ fun l₁ h₁ => Exit.sat_of_state (P := Weighed 1 l) ?_).state
  · split_ifs
    · have hbasis : (applyTransitionLocked (clk 0) .revalidating (str "revalidate")
          (str "enter revalidation") l).state.basis = l.basis := basis_applyTransitionLocked ..
      have hwithheld : l.d.Withheld (applyTransitionLocked (clk 0) .revalidating (str "revalidate")
          (str "enter revalidation") l).state.d := withheld_applyTransitionLocked (by decide)
      exact (Exit.sat_of_state (P := fun l₁ => l₁.basis = l.basis ∧ l.d.Withheld l₁.d)
        ⟨hbasis, hwithheld⟩).mono (fun _ _ h => h) fun _ l₁ h => hkept l₁ h.1 h.2
    · exact ⟨rfl, .of_eq rfl rfl⟩
  · obtain ⟨hbasis, hwithheld⟩ := h₁
    have hsuccesses : l₁.d.successes = l.d.successes :=
      of_basis_eq hbasis Device.successes fun _ => rfl
    have hpolicy : l₁.store.policy = l.store.policy := congrArg Prod.fst hbasis
    have hcounted : (countSuccess l₁).d.successes ≤ l.d.successes + 1 :=
      hsuccesses ▸ successes_countSuccess
    simp only
    split_ifs with hdone
    · have hrequired : l.store.policy.recoveryValidationsRequired.toNat ≤ l.d.successes + 1 := by
        have hle := required_le_of_revalidated hdone
        change l₁.store.policy.recoveryValidationsRequired.toNat ≤ _ at hle
        rw [hpolicy] at hle
        exact hle.trans hcounted
      have hopen : Weighed 1 l (applyTransitionLocked (clk 1) .healthy (str "recovery")
          (str "revalidated") (countSuccess l₁)).state := by
        have hb : (applyTransitionLocked (clk 1) .healthy (str "recovery") (str "revalidated")
          (countSuccess l₁)).state.basis = (countSuccess l₁).basis := basis_applyTransitionLocked ..
        refine ⟨(congrArg Prod.fst hb).trans hpolicy, ?_, Or.inr ⟨rfl, hrequired⟩⟩
        exact (of_basis_eq hb Device.successes fun _ => rfl).trans_le hcounted
      refine Exit.state_andThen hopen fun l₂ h₂ => ?_
      refine ⟨h₂.policy, ?_, Or.inr ⟨rfl, hrequired⟩⟩
      rw [Exit.ok_state, successes_closeRecovery]
      exact h₂.counted
    · exact ⟨hpolicy, hcounted, Or.inl
        ⟨(of_basis_eq hbasis Device.inRecovery fun _ => rfl).trans hin,
        hwithheld.log, hwithheld.state⟩⟩

theorem weighed_recoveryFailed (hin : l.d.inRecovery = true) :
    Weighed 0 l (recoveryFailed now l).state := by
  unfold recoveryFailed
  split_ifs
  · have hbasis : (applyTransitionLocked now .quarantined (str "revalidate-failed")
        (str "validation failed during recovery") l).state.basis = l.basis :=
      basis_applyTransitionLocked ..
    refine ⟨congrArg Prod.fst hbasis, (of_basis_eq hbasis Device.successes fun _ => rfl).le,
      Or.inl ⟨(of_basis_eq hbasis Device.inRecovery fun _ => rfl).trans hin, ?_⟩⟩
    exact withheld_applyTransitionLocked (by decide)
  · exact ⟨rfl, Nat.le_refl _, Or.inl ⟨hin, .of_eq rfl rfl⟩⟩

theorem weighed_revalidate (clk : Readings) (v : ValidationRecord) (hin : l.d.inRecovery = true) :
    Weighed (if v.passed then 1 else 0) l (Locked.revalidate clk v l).state := by
  have hadded : ∀ {n l'}, Weighed n (addValidation v l) l' → Weighed n l l' := fun h =>
    ⟨h.policy, h.counted, h.held.imp (fun ⟨hr, hw⟩ => ⟨hr, ⟨hw.log, hw.state⟩⟩) fun h => h⟩
  rw [revalidate_state]
  refine Exit.state_andThen ?_ fun l' h' => h'.reassessed
  apply hadded
  have hin' : (addValidation v l).d.inRecovery = true := hin
  unfold recoveryStep
  rw [if_pos hin']
  by_cases hv : v.passed = true
  · rw [if_pos hv, if_pos hv]
    exact weighed_recoveryPassed hin'
  · rw [if_neg hv, if_neg hv]
    exact weighed_recoveryFailed hin'

/-- A recovery starts without a success, unless its generation cannot be numbered: then
the old record stays. -/
theorem successes_beginRecovery (hout : l.d.inRecovery = false)
    (hlast : canTransition l.d.state .recovering → ∀ rec, l.d.recovery = some rec →
      rec.generation = .last → l.d.successes = 0) :
    (beginRecovery clk l).state.d.inRecovery = true →
      (beginRecovery clk l).state.d.successes = 0 := by
  have hbefore : ∀ l₁ : Locked, l₁.basis = l.basis →
      l₁.d.inRecovery = true → l₁.d.successes = 0 := by
    intro l₁ hbasis hin
    rw [of_basis_eq hbasis Device.inRecovery fun _ => rfl, hout] at hin
    cases hin
  unfold beginRecovery
  rw [if_neg (by simp [hout])]
  split_ifs with hillegal
  · exact hbefore l rfl
  have hlast := hlast (by simpa using hillegal)
  refine Exit.state_andThen (P := fun l' : Locked => l'.d.inRecovery = true → l'.d.successes = 0)
    ?_ fun l' h' => ?_
  · refine (Exit.Sat.andThen (P := fun l₁ : Locked => l₁.basis = l.basis)
      (R := fun _ (l' : Locked) => l'.d.inRecovery = true → l'.d.successes = 0) ?_
      fun l₁ h₁ => ?_).state
    · exact (Exit.sat_of_state (P := fun l₁ : Locked => l₁.basis = l.basis)
        (basis_applyTransitionLocked ..)).mono (fun _ _ h => h) fun _ => hbefore
    · have hrecovery : l₁.d.recovery = l.d.recovery := of_basis_eq h₁ Device.recovery fun _ => rfl
      unfold openRecovery nextRecoveryGeneration
      rw [hrecovery]
      cases hrec : l.d.recovery with
      | none => exact fun _ => rfl
      | some rec =>
        simp only
        cases hnext : rec.generation.next with
        | error e =>
          intro _
          change l₁.d.successes = 0
          rw [of_basis_eq h₁ Device.successes fun _ => rfl]
          exact hlast rec hrec (Generation.next_eq_error hnext).1
        | ok g => exact fun _ => rfl
  · have hbasis := basis_reassessLocked (clk.drop 2) l'
    rw [of_basis_eq hbasis Device.inRecovery fun _ => rfl,
      of_basis_eq hbasis Device.successes fun _ => rfl]
    exact h'

theorem progress_reassessLocked (clk : Readings) (l : Locked) :
    (reassessLocked clk l).state.d.progress = l.d.progress :=
  of_basis_eq (basis_reassessLocked clk l) Device.progress fun _ => rfl

theorem progress_applyTransitionLocked :
    (applyTransitionLocked now toState label detail l).state.d.progress = l.d.progress :=
  of_basis_eq (basis_applyTransitionLocked toState label detail) Device.progress fun _ => rfl

theorem progress_acceptObservation {obs : AcceleratorObservation} {env : AuthorityEnvelope} :
    (acceptObservation clk obs env l).state.d.progress = l.d.progress := by
  unfold acceptObservation
  split
  · rfl
  · refine Exit.state_andThen (P := fun l' : Locked => l'.d.progress = l.d.progress) ?_ fun _ h => h
    rw [progress_reassessLocked]
    unfold takeObservation
    simp only
    split_ifs <;> rfl

theorem progress_recordFault {fault : Fault} :
    (recordFault clk fault l).state.d.progress = l.d.progress := by
  unfold recordFault
  split
  · rfl
  · exact progress_reassessLocked ..

theorem progress_beginQuarantine {id : AcceleratorId} {authority : QuarantineAuthority}
    {reason triggeredBy : Str} :
    (beginQuarantine clk id authority reason triggeredBy l).state.d.progress = l.d.progress := by
  unfold beginQuarantine
  split_ifs
  · rfl
  · refine Exit.state_andThen (P := fun l' : Locked => l'.d.progress = l.d.progress) ?_
      fun l' h => ?_
    · exact progress_applyTransitionLocked
    · exact (progress_reassessLocked _ l').trans h

theorem progress_clearQuarantine {id : AcceleratorId} :
    (clearQuarantine clk id l).state.d.progress = l.d.progress := by
  unfold clearQuarantine
  rw [progress_reassessLocked]
  unfold closeQuarantine
  split <;> rfl

theorem progress_markLost {reason : Str} :
    (markLost now reason l).state.d.progress = l.d.progress := by
  unfold markLost
  simp only
  split_ifs
  · rfl
  · exact progress_applyTransitionLocked
  · rfl

theorem progress_orphan {worker : WorkerId} {boot : WorkerBootId} :
    (HealthStore.orphan clk worker boot l).state.d.progress = l.d.progress := by
  unfold HealthStore.orphan
  split_ifs
  · exact progress_reassessLocked ..
  · rfl

theorem progress_revalidate_outside (clk : Readings) (v : ValidationRecord)
    (hout : l.d.inRecovery = false) :
    (Locked.revalidate clk v l).state.d.progress = l.d.progress := by
  rw [revalidate_state]
  have hstep : recoveryStep clk v (addValidation v l) = .ok () (addValidation v l) := by
    have hout' : (addValidation v l).d.inRecovery = false := hout
    unfold recoveryStep
    rw [if_neg (by simp [hout'])]
  rw [hstep, Exit.ok_andThen, progress_reassessLocked]
  rfl

/-- No other body enters, leaves or counts a recovery. -/
theorem Touch.progress_kept {c : Call} {k : AcceleratorId} (h : Touch c k l l')
    (hbegin : c.op ≠ .beginRecovery k) (hrevalidate : ∀ v, c.op ≠ .revalidate k v) :
    l'.d.progress = l.d.progress := by
  cases h with
  | observation => exact progress_acceptObservation
  | fault => exact progress_recordFault
  | validation => exact progress_reassessLocked ..
  | quarantine => exact progress_beginQuarantine
  | clear => exact progress_clearQuarantine
  | recovery op => exact absurd op hbegin
  | revalidation op => exact absurd op (hrevalidate _)
  | lost => exact progress_markLost
  | reassess clk => exact progress_reassessLocked clk l
  | orphan clk => exact progress_orphan
  | policy clk => exact progress_reassessLocked clk _
  | policySkipped => rfl

theorem Touch.of_revalidate {c : Call} {k : AcceleratorId} (h : Touch c k l l')
    (hop : c.op = .revalidate k v) : l' = (Locked.revalidate c.clk v l).state := by
  cases h with
  | revalidation op =>
    rw [hop] at op
    cases op
    rfl
  | reassess _ op => rcases op with op | op <;> exact absurd (hop.symm.trans op) (by simp)
  | observation op | fault op | validation op | quarantine op | clear op | recovery op | lost op
  | orphan _ op | policy _ op | policySkipped op => exact absurd (hop.symm.trans op) (by simp)

theorem Touch.of_beginRecovery {c : Call} {k : AcceleratorId} (h : Touch c k l l')
    (hop : c.op = .beginRecovery k) : l' = (Locked.beginRecovery c.clk l).state := by
  cases h with
  | recovery op => rfl
  | reassess _ op => rcases op with op | op <;> exact absurd (hop.symm.trans op) (by simp)
  | observation op | fault op | validation op | quarantine op | clear op | revalidation op | lost op
  | orphan _ op | policy _ op | policySkipped op => exact absurd (hop.symm.trans op) (by simp)

end Locked

/-! ### Runs -/

namespace HealthStore
variable {s : HealthStore} {c : Call} {id : AcceleratorId} {past : List Bool}

def recovering (id : AcceleratorId) (s : HealthStore) : Bool :=
  (s.devices.find? id).any Device.inRecovery

/-- The validations that a device has been submitted to, after one more call: the list
starts anew with a call that begins its recovery, and with one that replaces the devices
by those of an image. -/
def noted (id : AcceleratorId) (s : HealthStore) (c : Call) (past : List Bool) : List Bool :=
  match c.op with
  | .revalidate k v => if k = id then past ++ [v.passed] else past
  | .beginRecovery k =>
    if k = id ∧ s.recovering id = false ∧ (s.step c).recovering id = true then [] else past
  | .decode data | .loadFromFile (some data) => if (header data).isSome then [] else past
  | _ => past

/-- The validations submitted to `revalidate` for a device since its current recovery
began, after the calls. -/
def submissions (id : AcceleratorId) : List Call → HealthStore → List Bool → List Bool
  | [], _, past => past
  | c :: rest, s, past => submissions id rest (s.step c) (noted id s c past)

theorem submissions_append {calls : List Call} :
    submissions id (calls ++ [c]) s past =
      noted id (Machine.run step s calls) c (submissions id calls s past) := by
  induction calls generalizing s past with
  | nil => rfl
  | cons c' rest ih => exact ih

/-- While a device is in recovery its counter is backed by the validations at the end of
the list. -/
def CountBacked (id : AcceleratorId) (past : List Bool) (s : HealthStore) : Prop :=
  ∀ d, s.devices.find? id = some d → d.inRecovery = true → d.successes ≤ lastPassed past

/-- The steps that keep the count honest: a failed validation finds no success counted, a
recovery that cannot be numbered finds none in the old record, and neither does a record
of an image that is in recovery. -/
structure KeepsCount (s : HealthStore) (c : Call) : Prop where
  failed : ∀ id v d, c.op = .revalidate id v → v.passed = false →
    s.devices.find? id = some d → d.inRecovery = true → d.successes = 0
  begun : ∀ id d, c.op = .beginRecovery id → s.devices.find? id = some d →
    d.inRecovery = false → canTransition d.state .recovering →
      ∀ rec, d.recovery = some rec → rec.generation = .last → d.successes = 0
  image : ∀ data, c.op = .decode data ∨ c.op = .loadFromFile (some data) →
    ∀ d ∈ records data, d.inRecovery = true → d.successes = 0

theorem noted_other (hload : c.op.loads = false) (hbegin : c.op ≠ .beginRecovery id)
    (hrevalidate : ∀ v, c.op ≠ .revalidate id v) : noted id s c past = past := by
  unfold noted
  cases hop : c.op with
  | revalidate k v => exact if_neg fun h => hrevalidate v (by rw [hop, h])
  | beginRecovery k => exact if_neg fun h => hbegin (by rw [hop, h.1])
  | decode data | loadFromFile contents => simp [hop, Op.loads] at hload
  | _ => rfl

/-- A validation may count a success only when it adds one to the list. -/
theorem countBacked_revalidate {v : ValidationRecord} {d d' : Device}
    (hs : d.successes ≤ lastPassed past) (hfailed : v.passed = false → d.successes = 0)
    (hd' : d'.successes ≤ d.successes + if v.passed then 1 else 0) :
    d'.successes ≤ lastPassed (past ++ [v.passed]) := by
  cases hv : v.passed with
  | true =>
    rw [hv, if_pos rfl] at hd'
    rw [lastPassed_append_true]
    omega
  | false =>
    rw [hv, if_neg (by simp), hfailed hv] at hd'
    omega

theorem recovering_eq {d : Device} (hd : s.devices.find? id = some d) :
    s.recovering id = d.inRecovery := by
  simp [recovering, hd]

theorem countBacked_step_revalidate {v : ValidationRecord} {clk : Readings}
    (hs : s.CountBacked id past)
    (hfailed : ∀ d, v.passed = false → s.devices.find? id = some d → d.inRecovery = true →
      d.successes = 0) :
    (s.step ⟨.revalidate id v, clk⟩).CountBacked id (past ++ [v.passed]) := by
  intro d' hd' hin'
  obtain ⟨d, hd, rfl | ⟨l, l', rfl, -, htouch, rfl⟩⟩ :=
    step_touched s (by rfl) (fun _ _ h => by cases h) id d' hd'
  · exact countBacked_revalidate (hs d' hd hin') (fun hv => hfailed d' hv hd hin')
      (Nat.le_add_right _ _)
  · rw [htouch.of_revalidate rfl] at hin' ⊢
    by_cases hin : l.d.inRecovery = true
    · exact countBacked_revalidate (hs l.d hd hin) (fun hv => hfailed l.d hv hd hin)
        (weighed_revalidate clk v hin).counted
    · have hout := progress_revalidate_outside clk v (l := l) (by simpa using hin)
      exact absurd ((congrArg Prod.fst hout).symm.trans hin') hin

theorem countBacked_step_beginRecovery {clk : Readings} (hs : s.CountBacked id past)
    (h : s.KeepsCount ⟨.beginRecovery id, clk⟩) :
    (s.step ⟨.beginRecovery id, clk⟩).CountBacked id
      (noted id s ⟨.beginRecovery id, clk⟩ past) := by
  intro d' hd' hin'
  obtain ⟨d, hd, hcase⟩ := step_touched s (by rfl) (fun _ _ h => by cases h) id d' hd'
  by_cases hin : d.inRecovery = true
  · have hnoted : noted id s ⟨.beginRecovery id, clk⟩ past = past := by
      simp [noted, recovering_eq hd, hin]
    rw [hnoted]
    rcases hcase with rfl | ⟨l, l', rfl, -, htouch, rfl⟩
    · exact hs d' hd hin'
    · have hstay : Locked.beginRecovery clk l = .ok () l := if_pos hin
      rw [htouch.of_beginRecovery rfl, hstay]
      exact hs l.d hd hin
  · have hnoted : noted id s ⟨.beginRecovery id, clk⟩ past = [] := by
      simp [noted, recovering_eq hd, recovering_eq hd', hin, hin']
    rw [hnoted]
    rcases hcase with rfl | ⟨l, l', rfl, -, htouch, rfl⟩
    · exact absurd hin' hin
    · have hout : l.d.inRecovery = false := by simpa using hin
      rw [htouch.of_beginRecovery rfl] at hin' ⊢
      rw [successes_beginRecovery hout (h.begun id l.d rfl hd hout) hin']
      exact Nat.zero_le _

theorem step_countBacked_of_not_load (hs : s.CountBacked id past) (h : s.KeepsCount c)
    (hload : c.op.loads = false) : (s.step c).CountBacked id (noted id s c past) := by
  by_cases hrevalidate : ∃ v, c.op = .revalidate id v
  · obtain ⟨v, hop⟩ := hrevalidate
    obtain ⟨op, clk⟩ := c
    cases hop
    have hnoted : noted id s ⟨.revalidate id v, clk⟩ past = past ++ [v.passed] := by simp [noted]
    rw [hnoted]
    exact countBacked_step_revalidate hs fun d hv hd hin => h.failed id v d rfl hv hd hin
  by_cases hbegin : c.op = .beginRecovery id
  · obtain ⟨op, clk⟩ := c
    cases hbegin
    exact countBacked_step_beginRecovery hs h
  intro d' hd' hin'
  rw [noted_other hload hbegin fun v hop => hrevalidate ⟨v, hop⟩]
  rcases step_device hload hd' with ⟨d, hd, rfl | ⟨l, l', rfl, -, htouch, rfl⟩⟩ |
    ⟨_, _, _, _, _, rfl⟩
  · exact hs d' hd hin'
  · have hkept := htouch.progress_kept hbegin fun v hop => hrevalidate ⟨v, hop⟩
    obtain ⟨hin, hsuccesses⟩ := Prod.mk.inj hkept
    rw [hsuccesses]
    exact hs l.d hd (hin ▸ hin')
  · simp [newDevice] at hin'

theorem countBacked_decode {data : Bytes} (hs : s.CountBacked id past)
    (himage : ∀ d ∈ records data, d.inRecovery = true → d.successes = 0) :
    (decodeStateInternal data s).state.CountBacked id
      (if (header data).isSome then [] else past) := by
  by_cases hh : (header data).isSome = true
  · intro d hd hin
    rw [himage d (decode_device_of_header hh hd).1 hin]
    exact Nat.zero_le _
  · rw [if_neg hh]
    obtain ⟨e, he⟩ := decode_of_header_none (by simpa using hh) s
    rw [he]
    exact hs

theorem step_countBacked (hs : s.CountBacked id past) (h : s.KeepsCount c) :
    (s.step c).CountBacked id (noted id s c past) := by
  by_cases hload : c.op.loads = false
  · exact step_countBacked_of_not_load hs h hload
  obtain ⟨op, clk⟩ := c
  cases op with
  | decode data => exact countBacked_decode hs (h.image data (Or.inl rfl))
  | loadFromFile contents =>
    cases contents with
    | none => exact hs
    | some data =>
      refine loadInternal_device (P := fun d => d.inRecovery = true → d.successes ≤ lastPassed _)
        (countBacked_decode hs (h.image data (Or.inr rfl))) (fun _ h => h) fun clk l hl hin => ?_
      obtain ⟨hin', hsuccesses⟩ := Prod.mk.inj (progress_reassessLocked clk l)
      rw [hsuccesses]
      exact hl (hin' ▸ hin)
  | _ => exact absurd rfl hload

/-- A run whose steps keep the count. -/
theorem run_countBacked {calls : List Call} (hs : s.CountBacked id past)
    (hrun : Machine.Along step KeepsCount s calls) :
    (Machine.run step s calls).CountBacked id (submissions id calls s past) := by
  induction calls generalizing s past with
  | nil => exact hs
  | cons c rest ih => exact ih (step_countBacked hs hrun.1) hrun.2

/-- Whenever `revalidate` makes a device in recovery HEALTHY, the last validations
submitted in this recovery, as many as the policy asks for and at least one, all passed. -/
def GateHolds (policy : HealthPolicy) (epoch : UInt64) (calls : List Call) : Prop :=
  ∀ (id : AcceleratorId) (v : ValidationRecord) (clk : Readings) (d d' : Device),
    (after policy epoch calls).devices.find? id = some d → d.inRecovery = true →
    ((after policy epoch calls).step ⟨.revalidate id v, clk⟩).devices.find? id = some d' →
    d.BecomesHealthy d' →
    let required := max 1 (after policy epoch calls).policy.recoveryValidationsRequired.toNat
    let submitted := submissions id (calls ++ [⟨.revalidate id v, clk⟩]) (init policy epoch) []
    required ≤ submitted.length ∧ ∀ passed ∈ submitted.reverse.take required, passed = true

theorem recovery_gate_unbroken (policy : HealthPolicy) (epoch : UInt64) (calls : List Call)
    (hrun : Machine.Along step KeepsCount (init policy epoch) calls) :
    GateHolds policy epoch calls := by
  intro id v clk d d' hd hin hd' hbecomes required submitted
  have hbacked : (after policy epoch calls).CountBacked id
      (submissions id calls (init policy epoch) []) :=
    run_countBacked (fun d hd => by simp [init] at hd) hrun
  have hsubmitted : submitted = submissions id calls (init policy epoch) [] ++ [v.passed] := by
    rw [show submitted = noted id _ _ _ from submissions_append]
    simp [noted]
  suffices hrequired : required ≤ lastPassed submitted from
    ⟨hrequired.trans (lastPassed_le_length _), passed_of_le_lastPassed hrequired⟩
  obtain ⟨d₀, hd₀, hcase⟩ := step_touched _ (by rfl) (fun _ _ h => by cases h) id d' hd'
  rw [hd] at hd₀
  cases hd₀
  rcases hcase with rfl | ⟨l, l', rfl, hpolicy, htouch, rfl⟩
  · exact absurd hbecomes (Device.Withheld.of_eq rfl rfl).not_becomesHealthy
  rw [htouch.of_revalidate rfl] at hbecomes
  rcases (weighed_revalidate clk v hin).held with ⟨-, hwithheld⟩ | ⟨hone, hcount⟩
  · exact absurd hbecomes hwithheld.not_becomesHealthy
  have hv : v.passed = true := by
    by_contra hv
    simp [hv] at hone
  have hpolicy' : l.store.policy = (after policy epoch calls).policy :=
    hpolicy.trans (step_evolves rfl).policy
  rw [hpolicy'] at hcount
  rw [hsubmitted, hv, lastPassed_append_true]
  have hle := hbacked l.d hd hin
  apply max_le
  · exact Nat.le_add_left _ _
  · exact hcount.trans (Nat.succ_le_succ hle)

/-- The call takes a device in recovery to HEALTHY. -/
theorem becomesHealthy_of_view {s : HealthStore} {c : Call} {id : AcceleratorId}
    (h : ((s.devices.find? id).bind fun d => ((s.step c).devices.find? id).map fun d' =>
      decide (d.inRecovery = true ∧ d.BecomesHealthy d')) = some true) :
    ∃ d d', s.devices.find? id = some d ∧ d.inRecovery = true ∧
      (s.step c).devices.find? id = some d' ∧ d.BecomesHealthy d' := by
  obtain ⟨d, hd, h⟩ := Option.bind_eq_some_iff.mp h
  obtain ⟨d', hd', h⟩ := Option.map_eq_some_iff.mp h
  obtain ⟨hin, hbecomes⟩ := of_decide_eq_true h
  exact ⟨d, d', hd, hin, hd', hbecomes⟩

/-- Without a success in any record there is nothing to restart. -/
theorem keepsCount_of_no_success (h : s.AllDevices fun d => d.successes = 0)
    (hload : c.op.loads = false) : s.KeepsCount c where
  failed id _ d _ _ hd _ := h id d hd
  begun id d _ hd _ _ _ _ _ := h id d hd
  image data hop := by rcases hop with hop | hop <;> simp [hop, Op.loads] at hload

/-- Two validations are asked for. -/
def twice : HealthPolicy := { recoveryValidationsRequired := 2 }

/-- A validation of device 7. -/
def validation (id : UInt64) (passed : Bool) : Call :=
  (Op.revalidate ⟨7⟩ { id := ⟨id⟩, accelerator := ⟨7⟩, passed }).at 1

/-- Device 7 is quarantined, released, and begins to recover. -/
def recovered : List Call := [
  (Op.registerDevice ⟨7⟩ ⟨1⟩).at 1,
  (Op.beginQuarantine ⟨7⟩ .operator [] []).at 1,
  (Op.clearQuarantine ⟨7⟩).at 1,
  (Op.beginRecovery ⟨7⟩).at 1]

/-- Two passing validations, the second of which makes the device HEALTHY. -/
theorem recovery_gate_after_two :
    GateHolds twice 0 (recovered ++ [validation 1 true]) ∧
      submissions ⟨7⟩ (recovered ++ [validation 1 true, validation 2 true]) (init twice 0) [] =
        [true, true] ∧
      ∃ d d', (after twice 0 (recovered ++ [validation 1 true])).devices.find? ⟨7⟩ = some d ∧
        d.inRecovery = true ∧
        ((after twice 0 (recovered ++ [validation 1 true])).step (validation 2 true)).devices.find?
          ⟨7⟩ = some d' ∧ d.BecomesHealthy d' := by
  refine ⟨recovery_gate_unbroken _ _ _ ?_, by decide +kernel,
    becomesHealthy_of_view (by decide +kernel)⟩
  exact ⟨keepsCount_of_no_success (by decide +kernel) rfl,
    keepsCount_of_no_success (by decide +kernel) rfl,
    keepsCount_of_no_success (by decide +kernel) rfl,
    keepsCount_of_no_success (by decide +kernel) rfl,
    keepsCount_of_no_success (by decide +kernel) rfl, trivial⟩

/-- A success, a failed validation and one more success: two in all, and the device is
HEALTHY. The failed validation neither restarts the count nor ends the recovery. -/
theorem recovery_gate_broken_by_failure :
    ¬GateHolds twice 0 (recovered ++ [validation 1 true, validation 2 false]) := by
  intro h
  have hview : ((after twice 0 (recovered ++ [validation 1 true, validation 2 false])).devices.find?
      ⟨7⟩).bind (fun d => (((after twice 0 (recovered ++ [validation 1 true,
        validation 2 false])).step (validation 3 true)).devices.find? ⟨7⟩).map fun d' =>
          decide (d.inRecovery = true ∧ d.BecomesHealthy d')) = some true := by decide +kernel
  have hsubmitted : submissions ⟨7⟩ (recovered ++ [validation 1 true, validation 2 false] ++
      [validation 3 true]) (init twice 0) [] = [true, false, true] := by decide +kernel
  have hrequired : (after twice 0 (recovered ++ [validation 1 true,
      validation 2 false])).policy.recoveryValidationsRequired.toNat = 2 := by decide +kernel
  obtain ⟨d, d', hd, hin, hd', hbecomes⟩ := becomesHealthy_of_view hview
  obtain ⟨-, hpassed⟩ := h ⟨7⟩ _ _ d d' hd hin hd' hbecomes
  change ∀ passed ∈ (submissions ⟨7⟩ (_ ++ [validation 3 true]) _ []).reverse.take _, _ at hpassed
  rw [hsubmitted, hrequired] at hpassed
  exact absurd (hpassed false (by decide)) (by simp)

end HealthStore
end AcceleratorHealth
