import AcceleratorHealth.Ages
import AcceleratorHealth.FailedValidations
import AcceleratorHealth.Idempotence
import AcceleratorHealth.Withdrawal

/-! Evidence that grows old. A report is dated by its worker, and its date is what the
coordinator's clock is held against: one from the future, or from so long ago that the
subtraction wraps around, is CURRENT, and stays so for as long as the date says. -/
namespace AcceleratorHealth
open Locked Persistence

/-- Each threshold is at least the one before it. -/
structure FreshnessThresholds.Ordered (thresholds : FreshnessThresholds) : Prop where
  current : 0 ≤ thresholds.current
  stale : thresholds.current ≤ thresholds.stale
  expire : thresholds.stale ≤ thresholds.expire

/-- No date, or one further back than `stale` and less than 2^63. -/
def HealthPolicy.OutOfDate (policy : HealthPolicy) (observed now : Timestamp) : Prop :=
  observed.nanos = 0 ∨
    policy.freshness.stale.toInt < now.nanos.toInt - observed.nanos.toInt ∧ AgeFits observed now

theorem FreshnessThresholds.isOld_statusOfAge {thresholds : FreshnessThresholds}
    (h : thresholds.Ordered) (age : Int) :
    (thresholds.statusOfAge age).isOld = true ↔ thresholds.stale.toInt < age := by
  have hstale := Int64.le_iff_toInt_le.mp h.stale
  unfold statusOfAge
  split_ifs <;> simp [FreshnessStatus.isOld] <;> omega

theorem HealthPolicy.isOld_freshnessOf_iff {policy : HealthPolicy} (h : policy.freshness.Ordered)
    (observed now : Timestamp) :
    (policy.freshnessOf observed now).isOld = true ↔ policy.OutOfDate observed now := by
  unfold freshnessOf OutOfDate
  by_cases hnone : observed.nanos = 0
  · simp [hnone, FreshnessStatus.isOld]
  · rw [if_pos hnone]
    simp only [hnone, false_or]
    have hstale : 0 ≤ policy.freshness.stale.toInt :=
      Int64.le_iff_toInt_le.mp (Int64.le_trans h.current h.stale)
    by_cases hfuture : now < observed
    · have hlt : now.nanos.toInt < observed.nanos.toInt := Int64.lt_iff_toInt_lt.mp hfuture
      rw [FreshnessThresholds.evaluate_of_future hfuture]
      constructor
      · exact fun hold => absurd hold (by decide)
      · rintro ⟨hlate, -⟩
        omega
    · by_cases hfits : AgeFits observed now
      · rw [FreshnessThresholds.evaluate_of_fits hfuture hfits,
          FreshnessThresholds.isOld_statusOfAge h]
        exact ⟨fun hlt => ⟨hlt, hfits⟩, fun hlt => hlt.1⟩
      · rw [FreshnessThresholds.evaluate_eq_statusOfAge hfuture, toInt_age_wraps hfits,
          FreshnessThresholds.isOld_statusOfAge h]
        have hnow := now.nanos.toInt_lt
        have hobserved := observed.nanos.le_toInt
        exact ⟨fun hlt => absurd hlt (by omega), fun hlt => absurd hlt.2 hfits⟩

namespace HealthStore

/-- The device `k` is not execution-ready, and listed with stale evidence. -/
def Retired (k : AcceleratorId) (s : HealthStore) : Prop := s.NotReady k ∧ k ∈ s.staleEvidence

theorem notReady_iff {s : HealthStore} {k : AcceleratorId} {d : Device}
    (hd : s.devices.find? k = some d) : s.NotReady k ↔ d.claimsReady = false := by
  constructor
  · intro h
    obtain ⟨h₁, h₂, h₃⟩ := h d hd
    simp [Device.claimsReady, ReadinessState.admits, h₁, h₂, h₃]
  · intro h
    refine notReady_of_claims fun d' hd' => ?_
    rwa [Option.some.inj (hd'.symm.trans hd)]

theorem mem_staleEvidence_iff {s : HealthStore} {k : AcceleratorId} :
    k ∈ s.staleEvidence ↔ s.staleIndex.contains k = true := by
  unfold staleEvidence OrdMap.contains
  rw [OrdMap.mem_keys_iff, Option.isSome_iff_exists]

section Reassess
variable {s : HealthStore} {k : AcceleratorId} {d : Device} {clk : Readings}

theorem step_reassess (hd : s.devices.find? k = some d) :
    s.step ⟨.reassess k, clk⟩ = (reassessLocked clk ⟨s, d⟩).state.commit k := by
  simp only [step, exec, Exit.mapResult_state, HealthStore.reassess]
  rw [onDevice_some hd, Exit.mapState_state]

/-- A reassessment that is not cut short judges by the date alone whether the evidence
still stands. -/
theorem retired_reassess_of_whole (hd : s.devices.find? k = some d) (hid : d.id = k)
    (hwhole : ¬Tears (clk 0) ⟨s, d⟩) :
    (s.step ⟨.reassess k, clk⟩).Retired k ↔
      (s.policy.freshnessOf d.lastObservation (clk 0)).isOld = true := by
  have hverdict := (Exit.sat_iff.mp (reassessLocked_verdict clk ⟨s, d⟩)).1 ()
    (reassessLocked_returns_iff.mpr hwhole)
  have hid' := (advances_reassessLocked clk ⟨s, d⟩).continues.id.trans hid
  have hobs := lastObservation_reassessLocked clk ⟨s, d⟩
  have hlisted : k ∈ (s.step ⟨.reassess k, clk⟩).staleEvidence ↔
      (s.policy.freshnessOf d.lastObservation (clk 0)).isOld = true := by
    have hshelf := congrArg (fun x => x.2.2.2) (shelf_reassessLocked clk hwhole)
    rw [mem_staleEvidence_iff, step_reassess hd]
    change (reassessLocked clk ⟨s, d⟩).state.store.staleIndex.contains k = true ↔ _
    rw [show (reassessLocked clk ⟨s, d⟩).state.store.staleIndex = _ from hshelf]
    change OrdMap.contains (if (s.policy.freshnessOf
        (reassessLocked clk ⟨s, d⟩).state.d.lastObservation
      (clk 0)).isOld then _ else _) k = true ↔ _
    rw [hobs, hid']
    split_ifs with hold
    · simp [hold, Index.contains_insert]
    · simp [hold, Index.contains_erase]
  have hfind : (s.step ⟨.reassess k, clk⟩).devices.find? k =
      some (reassessLocked clk ⟨s, d⟩).state.d := by
    rw [step_reassess hd]
    exact OrdMap.find?_insert_self ..
  rw [Retired, hlisted, notReady_iff hfind]
  refine ⟨fun h => h.2, fun hold => ⟨?_, hold⟩⟩
  rw [Bool.eq_false_iff]
  intro hclaims
  rw [hverdict.fresh hclaims] at hold
  cases hold

/-- One that is cut short changes nothing about it. -/
theorem retired_reassess_of_torn (hd : s.devices.find? k = some d)
    (htears : Tears (clk 0) ⟨s, d⟩) :
    (s.step ⟨.reassess k, clk⟩).Retired k ↔ s.Retired k := by
  have hstep : s.step ⟨.reassess k, clk⟩ = (torn (target (clk 0) ⟨s, d⟩) ⟨s, d⟩).commit k := by
    rw [step_reassess hd, reassessLocked_eq_torn htears.1 htears.2]
    rfl
  have hfind : (s.step ⟨.reassess k, clk⟩).devices.find? k =
      some (torn (target (clk 0) ⟨s, d⟩) ⟨s, d⟩).d := by
    rw [hstep]
    exact OrdMap.find?_insert_self ..
  have hlisted : (s.step ⟨.reassess k, clk⟩).staleEvidence = s.staleEvidence := by
    rw [hstep]
    rfl
  unfold Retired
  rw [notReady_iff hfind, notReady_iff hd, hlisted]
  rfl

end Reassess

/-! ### The date on record -/

/-- The device's evidence bears the date `x`, or has been stripped of its date. -/
def Dated (x : Timestamp) (d : Device) : Prop :=
  d.lastObservation = x ∨ d.lastObservation.nanos = 0

/-- The device `k` is there, with evidence of the date `x` or none. -/
def Dates (k : AcceleratorId) (x : Timestamp) (s : HealthStore) : Prop :=
  ∃ d, s.devices.find? k = some d ∧ Dated x d

/-- The call brings no other evidence of the device `k` behind the coordinator's back: no
report of it is cut short after its date is written, and an image holds it under the date. -/
structure KeepsDate (k : AcceleratorId) (x : Timestamp) (s : HealthStore) (c : Call) : Prop where
  taken : s.TakesWhole k c
  images : ∀ data, c.op = .decode data ∨ c.op = .loadFromFile (some data) →
    (header data).isSome → ∃ d, (filed data).find? k = some d ∧ Dated x d

section Step
variable {s : HealthStore} {c : Call} {k : AcceleratorId} {x : Timestamp} {d d' : Device}

theorem Outcome.dated (h : Outcome s c k d d') (hd : s.devices.find? k = some d) (hx : Dated x d)
    (hnone : ¬s.PassesFor k c) : Dated x d' := by
  unfold Dated at hx ⊢
  cases h with
  | kept hstanding =>
    rwa [show d'.lastObservation = d.lastObservation from
      congrArg Standing.lastObservation hstanding]
  | @judged l m clk device _ enters _ eq =>
    have hobs : m.d.lastObservation = d.lastObservation := by
      rw [← device]
      exact congrArg Standing.lastObservation enters.standing
    rwa [eq, lastObservation_reassessLocked, hobs]
  | observed op target passed => exact absurd ⟨_, _, d, op, target, hd, passed⟩ hnone
  | stripped _ _ _ _ _ _ eq =>
    rw [eq, lastObservation_reassessLocked]
    exact Or.inr rfl

/-- No call but a load forgets a device. -/
theorem exists_device_step (hload : c.op.loads = false) (hd : s.devices.find? k = some d) :
    ∃ d', (s.step c).devices.find? k = some d' := by
  by_cases hreg : ∃ uuid node, c.op = .registerDevice uuid node
  · obtain ⟨uuid, node, hop⟩ := hreg
    simp only [step, exec, hop]
    change ∃ d', (s.registerDevice (c.clk 0) uuid node).2.devices.find? k = some d'
    unfold registerDevice
    split
    · exact ⟨d, hd⟩
    · simp only [find?_trackDevice]
      split_ifs
      · exact ⟨_, rfl⟩
      · exact ⟨d, hd⟩
  · have hframe : Frame s (s.step c) := step_frame hload fun uuid node hop => hreg ⟨uuid, node, hop⟩
    rw [← OrdMap.mem_keys_iff, hframe.keys]
    exact OrdMap.mem_keys_iff.mpr ⟨d, hd⟩

theorem dates_decode {data : Bytes} (h : s.Dates k x)
    (himage : (header data).isSome → ∃ d, (filed data).find? k = some d ∧ Dated x d) :
    (decodeStateInternal data s).state.Dates k x := by
  rcases find?_decode data s with heq | ⟨hheader, heq⟩
  · rwa [heq]
  · unfold Dates
    rw [heq]
    exact himage hheader

theorem dates_reassessAll {clk : Readings} (h : s.Dates k x) :
    (s.reassessAll clk).state.Dates k x := by
  obtain ⟨d, hd, hx⟩ := h
  obtain ⟨i, hturn⟩ := exists_turn hd
  have hloop := looped_forDevices
    (fun i l => (advances_reassessLocked (clk.drop (2 * i)) l).continues) s
  rcases hloop.inside k i d hturn hd with hkept | ⟨s₁, -, hjudged⟩
  · exact ⟨d, hkept, hx⟩
  · refine ⟨_, hjudged, ?_⟩
    unfold Dated at hx ⊢
    rwa [lastObservation_reassessLocked]

theorem dates_load {clk : Readings} {data : Bytes} (h : s.Dates k x)
    (himage : (header data).isSome → ∃ d, (filed data).find? k = some d ∧ Dated x d) :
    (loadInternal clk (some data) s).state.Dates k x := by
  have hdecoded := dates_decode h himage
  refine loadInternal_leaves (P := fun t => t.Dates k x) (fun _ => hdecoded) fun _ => ?_
  obtain ⟨d, hd, hx⟩ := hdecoded
  exact dates_reassessAll ⟨_, OrdMap.find?_mapValues_eq_some_iff.mpr ⟨d, hd, rfl⟩, hx⟩

/-- One call that brings no other evidence of the device leaves its date, or takes it. -/
theorem step_dates (h : s.Dates k x) (hnone : ¬s.AcceptsFor k c) (hkeeps : KeepsDate k x s c) :
    (s.step c).Dates k x := by
  cases hload : c.op.loads with
  | false =>
    obtain ⟨d, hd, hx⟩ := h
    obtain ⟨d', hd'⟩ := exists_device_step hload hd
    refine ⟨d', hd', ?_⟩
    rcases step_outcome hload hd' with ⟨d₀, hd₀, houtcome⟩ | ⟨uuid, node, -, rfl⟩
    · cases hd.symm.trans hd₀
      exact houtcome.dated hd hx fun hpass => hnone (hkeeps.taken.acceptsFor hpass)
    · exact Or.inr rfl
  | true =>
    rcases step_loads (s := s) hload with ⟨data, hop, hstep⟩ | ⟨-, hstep⟩ | ⟨data, hop, hstep⟩ <;>
      rw [hstep]
    · exact dates_decode h (hkeeps.images data (Or.inl hop))
    · exact h
    · exact dates_load h (hkeeps.images data (Or.inr hop))

/-- An accepted report leaves its date. -/
theorem dates_of_accepts {obs : AcceleratorObservation} {env : AuthorityEnvelope}
    (h : s.Accepts c obs env) : (s.step c).Dates obs.accelerator obs.timestamp := by
  obtain ⟨d, hd, -, hstep⟩ := accepts_cases h
  rw [hstep]
  refine ⟨_, OrdMap.find?_insert_self .., Or.inl ?_⟩
  rw [lastObservation_reassessLocked]
  rfl

end Step

section Run
variable {policy : HealthPolicy} {epoch : UInt64} {past mid : List Call} {report : Call}
  {obs : AcceleratorObservation} {env : AuthorityEnvelope}

/-- Evidence expires by its date. After the last accepted report of a device, in every run
that brings no other evidence of it, a reassessment retires the device exactly when the date
on record is out of date, or, if it is cut short, when the device has been retired before. -/
theorem retired_iff_outOfDate (haccepts : (after policy epoch past).Accepts report obs env)
    (hlatest : Machine.Along step (fun s c => ¬s.AcceptsFor obs.accelerator c)
      (after policy epoch (past ++ [report])) mid)
    (hkeeps : Machine.Along step (KeepsDate obs.accelerator obs.timestamp)
      (after policy epoch (past ++ [report])) mid)
    (hordered : (after policy epoch (past ++ [report] ++ mid)).policy.freshness.Ordered) :
    ∃ d, (after policy epoch (past ++ [report] ++ mid)).devices.find? obs.accelerator = some d ∧
      Dated obs.timestamp d ∧ ∀ clk,
        (after policy epoch (past ++ [report] ++ mid ++
            [⟨.reassess obs.accelerator, clk⟩])).Retired obs.accelerator ↔
          if Tears (clk 0) ⟨after policy epoch (past ++ [report] ++ mid), d⟩ then
            (after policy epoch (past ++ [report] ++ mid)).Retired obs.accelerator
          else (after policy epoch (past ++ [report] ++ mid)).policy.OutOfDate
            d.lastObservation (clk 0) := by
  have hreport : (after policy epoch (past ++ [report])).Dates obs.accelerator obs.timestamp := by
    rw [after, Machine.run_append]
    exact dates_of_accepts haccepts
  have hdates : (after policy epoch (past ++ [report] ++ mid)).Dates obs.accelerator
      obs.timestamp := by
    rw [after, Machine.run_append]
    exact Machine.run_invariant (P := fun s => s.Dates obs.accelerator obs.timestamp)
      (fun s c hs hc => step_dates hs hc.1 hc.2) hreport (hlatest.and hkeeps)
  obtain ⟨d, hd, hx⟩ := hdates
  refine ⟨d, hd, hx, fun clk => ?_⟩
  have hid := (reachable_filed ⟨policy, epoch, _, rfl⟩ _ d hd).1
  rw [after, Machine.run_append]
  change ((after policy epoch (past ++ [report] ++ mid)).step _).Retired _ ↔ _
  split_ifs with htears
  · exact retired_reassess_of_torn hd htears
  · rw [retired_reassess_of_whole hd hid htears]
    exact HealthPolicy.isOld_freshnessOf_iff hordered ..

end Run

/-- A report of device 7, dated `t`. -/
def reportAt (t : Timestamp) : AcceleratorObservation :=
  { accelerator := ⟨7⟩, worker := ⟨1⟩, workerBootId := ⟨1⟩, timestamp := t }

def receivesAt (t : Timestamp) : Call := (Op.acceptObservation (reportAt t) firstEnvelope).at 1

theorem accepts_reportAt (t : Timestamp) :
    (after {} 0 (bringUp.take 3)).Accepts (receivesAt t) (reportAt t) firstEnvelope := by
  have hfits : ((after {} 0 (bringUp.take 3)).devices.find? ⟨7⟩).any (fun d => decide
      (fence firstEnvelope ⟨after {} 0 (bringUp.take 3), d⟩ = none ∧
        d.healthGeneration ≠ .last)) = true := by decide +kernel
  obtain ⟨d, hd, h⟩ := (Option.any_eq_true _ _).mp hfits
  obtain ⟨hfence, hroom⟩ := of_decide_eq_true h
  exact accepts_of_whole rfl hd hfence fun htears =>
    hroom (healthGeneration_takeObservation.symm.trans htears.2)

/-- Ten minutes later, with another worker registered in between. -/
theorem honest_report_expires :
    (after {} 0 (bringUp.take 3 ++ [receivesAt ⟨1⟩] ++ [(Op.registerWorker ⟨2⟩ ⟨2⟩).at 2] ++
      [⟨.reassess ⟨7⟩, fun _ => ⟨600000000000⟩⟩])).Retired ⟨7⟩ := by
  have hquiet : Machine.Along step (fun s c => ¬s.AcceptsFor (reportAt ⟨1⟩).accelerator c)
      (after {} 0 (bringUp.take 3 ++ [receivesAt ⟨1⟩])) [(Op.registerWorker ⟨2⟩ ⟨2⟩).at 2] := by
    refine ⟨?_, trivial⟩
    rintro ⟨obs, env, -, hop, -⟩
    cases hop
  have hkeeps : Machine.Along step (KeepsDate (reportAt ⟨1⟩).accelerator (reportAt ⟨1⟩).timestamp)
      (after {} 0 (bringUp.take 3 ++ [receivesAt ⟨1⟩])) [(Op.registerWorker ⟨2⟩ ⟨2⟩).at 2] := by
    refine ⟨⟨?_, fun data hop => ?_⟩, trivial⟩
    · intro obs env d hop
      cases hop
    · rcases hop with hop | hop <;> cases hop
  have hordered : (after {} 0 (bringUp.take 3 ++ [receivesAt ⟨1⟩] ++
      [(Op.registerWorker ⟨2⟩ ⟨2⟩).at 2])).policy.freshness.Ordered :=
    ⟨by decide +kernel, by decide +kernel, by decide +kernel⟩
  have hroom : (after {} 0 (bringUp.take 3 ++ [receivesAt ⟨1⟩] ++
      [(Op.registerWorker ⟨2⟩ ⟨2⟩).at 2])).AllDevices fun d =>
        d.healthGeneration ≠ .last ∧ d.lastObservation = ⟨1⟩ := by decide +kernel
  have hthreshold : (after {} 0 (bringUp.take 3 ++ [receivesAt ⟨1⟩] ++
      [(Op.registerWorker ⟨2⟩ ⟨2⟩).at 2])).policy.OutOfDate ⟨1⟩ ⟨600000000000⟩ :=
    Or.inr ⟨by decide +kernel, by decide⟩
  obtain ⟨d, hd, -, hiff⟩ :=
    retired_iff_outOfDate (accepts_reportAt ⟨1⟩) hquiet hkeeps hordered
  obtain ⟨hgeneration, hdate⟩ := hroom _ d hd
  refine (hiff fun _ => ⟨600000000000⟩).mpr ?_
  rw [if_neg fun htears => hgeneration htears.2, hdate]
  exact hthreshold

/-- Dated a quarter of an hour ahead, it does not: ten minutes later device 7 is still
ready. -/
theorem future_report_stands :
    ¬∀ (policy : HealthPolicy) (epoch : UInt64) (past mid : List Call) (report : Call)
      (obs : AcceleratorObservation) (env : AuthorityEnvelope) (t : Timestamp),
      (after policy epoch past).Accepts report obs env →
      Machine.Along step (fun s c => ¬s.AcceptsFor obs.accelerator c)
        (after policy epoch (past ++ [report])) mid →
      (after policy epoch (past ++ [report] ++ mid)).policy.freshness.Ordered →
      (after policy epoch (past ++ [report] ++ mid)).policy.freshness.expire.toInt <
        t.nanos.toInt - (report.clk 0).nanos.toInt →
      (after policy epoch (past ++ [report] ++ mid ++
        [⟨.reassess obs.accelerator, fun _ => t⟩])).Retired obs.accelerator := by
  intro h
  have hordered : (after {} 0 (bringUp.take 3 ++ [receivesAt ⟨900000000000⟩] ++
      [])).policy.freshness.Ordered := ⟨by decide +kernel, by decide +kernel, by decide +kernel⟩
  have hretired := h {} 0 (bringUp.take 3) [] (receivesAt ⟨900000000000⟩)
    (reportAt ⟨900000000000⟩) firstEnvelope ⟨600000000000⟩ (accepts_reportAt _) trivial hordered
    (by decide +kernel)
  have hready : ((after {} 0 (bringUp.take 3 ++ [receivesAt ⟨900000000000⟩] ++ [] ++
      [⟨.reassess ⟨7⟩, fun _ => ⟨600000000000⟩⟩])).devices.find? ⟨7⟩).map Device.readiness =
        some .ready := by decide +kernel
  obtain ⟨d, hd, heq⟩ := Option.map_eq_some_iff.mp hready
  exact (hretired.1 d hd).1 heq

end HealthStore
end AcceleratorHealth
