import AcceleratorHealth.Restart
import AcceleratorHealth.Bookkeeping

/-! Readiness as time passes. A verdict is given on evidence that is not old, and is then
handed out as it stands until the next one; the accounting looks at the clock. -/
namespace AcceleratorHealth
open Locked Persistence

/-- Claims of readiness go with evidence that was not old at the latest assessment. -/
def Device.Backed (policy : HealthPolicy) (d : Device) : Prop :=
  d.claimsReady →
    (policy.freshnessOf d.lastObservation d.latestAssessment.timestamp).isOld = false

theorem Device.Backed.of_standing {policy : HealthPolicy} {d d' : Device} (h : d.Backed policy)
    (hstanding : d'.standing = d.standing) : d'.Backed policy := by
  have hobs : d'.lastObservation = d.lastObservation := congrArg Standing.lastObservation hstanding
  have hready : d'.readiness = d.readiness := congrArg Standing.readiness hstanding
  have hassessed : d'.latestAssessment = d.latestAssessment :=
    congrArg Standing.latestAssessment hstanding
  unfold Device.Backed Device.claimsReady
  rw [hobs, hready, hassessed]
  exact h

namespace Locked

theorem Verdict.backed {now : Timestamp} {m : Locked} {d : Device} (h : Verdict now m d) :
    d.Backed m.store.policy := by
  intro hclaims
  rw [h.lastObservation, h.timestamp]
  exact h.fresh hclaims

/-- A verdict is backed; without one, what was backed stays so. -/
theorem backed_reassessLocked {clk : Readings} {m : Locked} {policy : HealthPolicy}
    (hpolicy : m.store.policy = policy) (htorn : Tears (clk 0) m → m.d.Backed policy) :
    (reassessLocked clk m).state.d.Backed policy := by
  have hverdict := Exit.sat_iff.mp (reassessLocked_verdict clk m)
  cases hres : (reassessLocked clk m).result with
  | ok u => exact hpolicy ▸ (hverdict.1 u hres).backed
  | error e =>
    have htears : Tears (clk 0) m := by
      by_contra hnot
      rw [reassessLocked_returns_iff.mpr hnot] at hres
      cases hres
    exact (htorn htears).of_standing (hverdict.2 e hres)

end Locked

namespace HealthStore

/-- Every record of the image is backed under the policy that comes with it. -/
def ImageBacked (data : Bytes) : Prop :=
  ∀ h r, header data = some (h, r) → ∀ d ∈ records data, d.Backed h.policy

/-- The steps that keep claims of readiness backed. A device that claims to be ready is not
left with its old verdict by an overflow: neither with a report that was old by then, nor
stripped of its evidence, nor under a policy that finds its evidence old. Images claim
nothing else. -/
structure KeepsBacking (s : HealthStore) (c : Call) : Prop where
  report : ∀ obs env d, c.op = .acceptObservation obs env →
    s.devices.find? obs.accelerator = some d → fence env ⟨s, d⟩ = none → d.claimsReady →
      Tears (c.clk 0) (takeObservation obs env ⟨s, d⟩) →
        (s.policy.freshnessOf obs.timestamp d.latestAssessment.timestamp).isOld = false
  withdrawal : ∀ worker boot k i d, c.op = .invalidateWorker worker boot →
    s.isWorkerCurrent worker boot → (k, i) ∈ s.devices.keys.zipIdx →
      s.devices.find? k = some d → d.lastWorker = worker → d.lastWorkerBootId = boot →
        d.claimsReady → ¬Tears ((c.clk.drop (2 * i)) 0) (strip ⟨s, d⟩)
  policy : ∀ policy, c.op = .setPolicy policy → s.AllDevices (Device.Backed policy) ∨
    ∃ g, s.policyGeneration.next = .ok g ∧ (adoptPolicy policy g s).ReassessesWhole c.clk
  image : ∀ data, c.op = .decode data → ImageBacked data
  file : ∀ data, c.op = .loadFromFile (some data) → ImageBacked data ∨
    (decodeStateInternal data s).result = .ok () ∧
      (distrust (decodeStateInternal data s).state).ReassessesWhole c.clk

theorem reassessAll_backed {clk : Readings} {s : HealthStore}
    (h : s.AllDevices (Device.Backed s.policy) ∨ s.ReassessesWhole clk) :
    (s.reassessAll clk).state.AllDevices (Device.Backed s.policy) := by
  have hbody : ∀ i l, Continues l (reassessLocked (clk.drop (2 * i)) l).state :=
    fun i l => (advances_reassessLocked _ l).continues
  intro k d' hk
  obtain ⟨d, i, hd, hturn, hcase⟩ := forDevices_turn hbody hk
  rcases h with hs | hwhole
  · rcases hcase with rfl | ⟨s₁, hs₁, rfl⟩
    · exact hs k d' hd
    · exact backed_reassessLocked hs₁.policy fun _ => hs k d hd
  · obtain ⟨s₁, hs₁, hres, hfind⟩ := (looped_forDevices hbody s).completed
      (reassessAll_returns_iff.mpr hwhole) k i d hturn hd
    cases hk.symm.trans hfind
    exact backed_reassessLocked hs₁.policy fun htears =>
      absurd htears (reassessLocked_returns_iff.mp hres)

theorem setPolicy_backed {clk : Readings} {policy : HealthPolicy} {s : HealthStore}
    (h : s.AllDevices (Device.Backed policy) ∨
      ∃ g, s.policyGeneration.next = .ok g ∧ (adoptPolicy policy g s).ReassessesWhole clk) :
    (s.setPolicy clk policy).state.AllDevices
      (Device.Backed (s.setPolicy clk policy).state.policy) := by
  cases hg : s.policyGeneration.next with
  | error e =>
    rw [setPolicy_of_error hg]
    rcases h with hs | ⟨g, hok, -⟩
    · exact hs
    · rw [hg] at hok
      cases hok
  | ok g =>
    rw [setPolicy_of_ok hg, (reassessAll_evolves clk (adoptPolicy policy g s)).policy]
    apply reassessAll_backed
    rcases h with hs | ⟨g', hok, hwhole⟩
    · left
      intro k d hk
      obtain ⟨d₀, hd₀, rfl⟩ := find?_adoptPolicy hk
      exact hs k d₀ hd₀
    · right
      cases hg.symm.trans hok
      exact hwhole

theorem load_backed {clk : Readings} {data : Bytes} {s : HealthStore}
    (hs : s.AllDevices (Device.Backed s.policy))
    (h : ImageBacked data ∨ (decodeStateInternal data s).result = .ok () ∧
      (distrust (decodeStateInternal data s).state).ReassessesWhole clk) :
    (loadInternal clk (some data) s).state.AllDevices
      (Device.Backed (loadInternal clk (some data) s).state.policy) := by
  refine loadInternal_leaves (P := fun t => t.AllDevices (Device.Backed t.policy))
    (fun hrefused => ?_) fun _ => ?_
  · exact allDevices_decode hs (h.resolve_right fun h => hrefused h.1)
  · rw [(reassessAll_evolves ..).policy]
    apply reassessAll_backed
    rcases h with himage | ⟨-, hwhole⟩
    · left
      intro k d hk
      obtain ⟨d₀, hd₀, rfl⟩ := find?_distrust hk
      exact allDevices_decode hs himage k d₀ hd₀
    · exact Or.inr hwhole

theorem Outcome.backed {s : HealthStore} {c : Call} {k : AcceleratorId} {d d' : Device}
    (h : Outcome s c k d d') (hd : s.devices.find? k = some d) (hs : d.Backed s.policy)
    (hkeeps : KeepsBacking s c) (hpolicy : c.op.policyIn s = s.policy) : d'.Backed s.policy := by
  cases h with
  | kept hstanding => exact hs.of_standing hstanding
  | judged device policy enters returns eq =>
    rw [eq]
    refine backed_reassessLocked (enters.policy_eq.trans (policy.trans hpolicy)) fun htears => ?_
    exact absurd htears (reassessLocked_returns_iff.mp returns)
  | observed op target passed eq =>
    subst target
    rw [eq]
    refine backed_reassessLocked rfl fun htears hclaims => ?_
    unfold takeObservation at hclaims ⊢
    have hd' : d.claimsReady := by
      simp only [Device.claimsReady] at hclaims ⊢
      split_ifs at hclaims <;> exact hclaims
    have hfresh := hkeeps.report _ _ d op hd passed hd' htears
    simp only
    split_ifs <;> exact hfresh
  | @stripped l worker boot i op current turn device policy last eq =>
    rw [eq]
    refine backed_reassessLocked policy fun htears hclaims => ?_
    have hcongr : Tears ((c.clk.drop (2 * i)) 0) (strip l) ↔
        Tears ((c.clk.drop (2 * i)) 0) (strip ⟨s, d⟩) :=
      tears_congr (by simp only [strip, device]) policy
    have hd' : d.claimsReady := device ▸ hclaims
    exact absurd (hcongr.mp htears)
      (hkeeps.withdrawal worker boot k i d op current turn hd last.1 last.2 hd')

theorem step_backed {s : HealthStore} {c : Call} (hkeeps : KeepsBacking s c)
    (hs : s.AllDevices (Device.Backed s.policy)) :
    (s.step c).AllDevices (Device.Backed (s.step c).policy) := by
  by_cases hset : ∃ policy, c.op = .setPolicy policy
  · obtain ⟨policy, hop⟩ := hset
    simp only [step, exec, hop, Exit.mapResult_state]
    exact setPolicy_backed (hkeeps.policy policy hop)
  by_cases hload : c.op.loads = false
  · have hpolicy : ∀ policy, c.op ≠ .setPolicy policy := fun policy hop => hset ⟨policy, hop⟩
    have hpolicyIn : c.op.policyIn s = s.policy := by
      unfold Op.policyIn
      split
      next policy hop => exact absurd hop (hpolicy policy)
      next => rfl
    rw [step_policy hpolicy hload]
    intro k d' hk
    rcases step_outcome hload hk with ⟨d, hd, houtcome⟩ | ⟨uuid, node, -, rfl⟩
    · exact houtcome.backed hd (hs k d hd) hkeeps hpolicyIn
    · intro hclaims
      cases hclaims
  · rcases step_loads (s := s) (Bool.of_not_eq_false hload) with
      ⟨data, hop, hstep⟩ | ⟨-, hstep⟩ | ⟨data, hop, hstep⟩ <;> rw [hstep]
    · exact allDevices_decode hs (hkeeps.image data hop)
    · exact hs
    · exact load_backed hs (hkeeps.file data hop)

/-! ### What a caller is told -/

/-- The evidence on the device is CURRENT or AGING at `t`. -/
def EvidenceCurrent (t : Timestamp) (k : AcceleratorId) (s : HealthStore) : Prop :=
  ∃ d, s.devices.find? k = some d ∧ (s.policy.freshnessOf d.lastObservation t = .current ∨
    s.policy.freshnessOf d.lastObservation t = .aging)

/-- What queries say of readiness at the reading `t` goes with evidence that is then not
old, and none of the devices counted as stale is among those said to be ready. -/
structure ReadyIsCurrent (t : Timestamp) (s : HealthStore) : Prop where
  snapshot : ∀ k, (s.snapshot k).readiness.admits → s.EvidenceCurrent t k
  assessment : ∀ k, (s.snapshot k).latestAssessment.executionReady ∨
    (s.assessmentOf k).executionReady → s.EvidenceCurrent t k
  accounting : (s.accounting fun _ => t).stale = UInt64.ofNat (s.devices.values.countP fun d =>
    (s.policy.freshnessOf d.lastObservation t).isOld && !d.claimsReady)

/-- No device is said to be ready on evidence that has grown old since its latest
assessment. -/
def NoneLapses (t : Timestamp) (s : HealthStore) : Prop :=
  s.AllDevices fun d => d.claimsReady →
    (s.policy.freshnessOf d.lastObservation d.latestAssessment.timestamp).isOld = false →
      (s.policy.freshnessOf d.lastObservation t).isOld = false

theorem stale_accounting (t : Timestamp) (s : HealthStore) :
    (s.accounting fun _ => t).stale = UInt64.ofNat (s.devices.values.countP fun d =>
      (s.policy.freshnessOf d.lastObservation t).isOld) := by
  have hfold : ∀ (ds : List Device) (i : Nat) (a : Accounting),
      ((ds.zipIdx i).foldl (.visitStale s.policy fun _ => t) a).stale =
        a.stale + UInt64.ofNat (ds.countP fun d =>
          (s.policy.freshnessOf d.lastObservation t).isOld) := by
    intro ds
    induction ds with
    | nil => simp
    | cons d rest ih =>
      intro i a
      rw [List.zipIdx_cons, List.foldl_cons, ih, List.countP_cons]
      change Accounting.countIf _ a.stale + _ = _
      unfold Accounting.countIf
      split_ifs
      · rw [UInt64.ofNat_add, UInt64.add_assoc, UInt64.add_comm 1 (UInt64.ofNat _)]
        rfl
      · rfl
  have hvisit := foldl_visit Accounting.stale (p := fun _ => false) (fun _ _ => rfl)
    s.devices.values {}
  rw [accounting, recomputeAccounting, hfold, hvisit, List.countP_false]
  simp

theorem isOld_eq_false_iff {f : FreshnessStatus} :
    f.isOld = false ↔ f = .current ∨ f = .aging := by
  cases f <;> decide

/-- Ready devices whose evidence is not old are all that the queries ask for. -/
theorem readyIsCurrent_iff {t : Timestamp} {s : HealthStore} :
    s.ReadyIsCurrent t ↔ s.AllDevices fun d => d.claimsReady →
      (s.policy.freshnessOf d.lastObservation t).isOld = false := by
  constructor
  · intro h k d hk hclaims
    have hcurrent : s.EvidenceCurrent t k := by
      rcases Bool.or_eq_true_iff.mp hclaims with hready | hassessed
      · apply h.snapshot
        unfold HealthStore.snapshot
        rw [hk]
        exact hready
      · apply h.assessment
        unfold assessmentOf
        rw [hk]
        exact Or.inr hassessed
    obtain ⟨d', hd', hfresh⟩ := hcurrent
    cases hk.symm.trans hd'
    exact isOld_eq_false_iff.mpr hfresh
  · intro h
    have hcurrent : ∀ k d, s.devices.find? k = some d → d.claimsReady → s.EvidenceCurrent t k :=
      fun k d hk hclaims => ⟨d, hk, isOld_eq_false_iff.mp (h k d hk hclaims)⟩
    constructor
    · intro k hready
      unfold HealthStore.snapshot at hready
      cases hk : s.devices.find? k with
      | none =>
        rw [hk] at hready
        cases hready
      | some d =>
        rw [hk] at hready
        exact hcurrent k d hk (Bool.or_eq_true_iff.mpr (Or.inl hready))
    · intro k hready
      unfold HealthStore.snapshot assessmentOf at hready
      cases hk : s.devices.find? k with
      | none =>
        rw [hk] at hready
        rcases hready with h | h <;> cases h
      | some d =>
        rw [hk] at hready
        exact hcurrent k d hk (Bool.or_eq_true_iff.mpr (Or.inr (hready.elim id id)))
    · rw [stale_accounting]
      congr 1
      apply List.countP_congr
      intro d hd
      obtain ⟨k, hk⟩ := OrdMap.mem_values_iff.mp hd
      cases hclaims : d.claimsReady with
      | false => simp
      | true => simp [h k d hk hclaims]

/-- What is said of readiness is current at a reading exactly when no evidence has lapsed
by then: this after every run whose steps keep claims of readiness backed. -/
theorem ready_is_current_iff (policy : HealthPolicy) (epoch : UInt64) (calls : List Call)
    (t : Timestamp) (hkeeps : Machine.Along step KeepsBacking (init policy epoch) calls) :
    (after policy epoch calls).ReadyIsCurrent t ↔ (after policy epoch calls).NoneLapses t := by
  have hbacked : (after policy epoch calls).AllDevices
      (Device.Backed (after policy epoch calls).policy) :=
    Machine.run_invariant (P := fun s => s.AllDevices (Device.Backed s.policy))
      (fun s c hs hc => step_backed hc hs) (allDevices_init _ policy epoch) hkeeps
  rw [readyIsCurrent_iff]
  constructor
  · intro h k d hk hclaims _
    exact h k d hk hclaims
  · intro h k d hk hclaims
    exact h k d hk hclaims (hbacked k d hk hclaims)

theorem keepsBacking_of_room {s : HealthStore} {c : Call} (hload : c.op.loads = false)
    (hpolicy : ∀ policy, c.op ≠ .setPolicy policy)
    (hroom : s.AllDevices fun d => d.healthGeneration ≠ .last) : KeepsBacking s c where
  report obs env d _ hd _ _ htears :=
    absurd (healthGeneration_takeObservation.symm.trans htears.2) (hroom _ d hd)
  withdrawal _ _ k _ d _ _ _ hd _ _ _ htears := hroom k d hd htears.2
  policy policy hop := absurd hop (hpolicy policy)
  image data hop := by simp [hop, Op.loads] at hload
  file data hop := by simp [hop, Op.loads] at hload

theorem keepsBacking_bringUp : Machine.Along step KeepsBacking (init {} 0) bringUp :=
  ⟨keepsBacking_of_room rfl (by simp [Op.at]) (by decide +kernel),
    keepsBacking_of_room rfl (by simp [Op.at]) (by decide +kernel),
    keepsBacking_of_room rfl (by simp [Op.at]) (by decide +kernel),
    keepsBacking_of_room rfl (by simp [Op.at]) (by decide +kernel), trivial⟩

theorem ready_is_current_after_bringUp : (after {} 0 bringUp).ReadyIsCurrent ⟨2⟩ := by
  have hnone : (after {} 0 bringUp).NoneLapses ⟨2⟩ := by
    unfold NoneLapses
    decide +kernel
  exact (ready_is_current_iff {} 0 bringUp ⟨2⟩ keepsBacking_bringUp).mpr hnone

/-- Ten minutes later device 7 is said to be ready on expired evidence. -/
theorem ready_on_expired_evidence : (after {} 0 bringUp).Reachable ∧
    ¬(after {} 0 bringUp).ReadyIsCurrent ⟨600000000000⟩ := by
  refine ⟨⟨{}, 0, bringUp, rfl⟩, fun h => ?_⟩
  have hold : ¬(after {} 0 bringUp).AllDevices fun d => d.claimsReady →
      ((after {} 0 bringUp).policy.freshnessOf d.lastObservation ⟨600000000000⟩).isOld =
        false := by decide +kernel
  exact hold (readyIsCurrent_iff.mp h)

end HealthStore
end AcceleratorHealth
