import AcceleratorHealth.Evidence
import AcceleratorHealth.Standing
import AcceleratorHealth.Fencing
import AcceleratorHealth.Lib.Register

/-! The evidence that accepted reports leave in a device. The fence orders the reports
of one worker boot by their generations; it compares no timestamps, so between workers
the last report to arrive is the one that stays, however old it is. -/
namespace AcceleratorHealth
open Locked Register

/-- What only reports and withdrawals write. -/
def Device.reported (d : Device) : OrdMap DimensionKind HealthDimension × Timestamp :=
  (d.dimensions, d.lastObservation)

/-- Calls that write evidence as an accepted report or not at all: every call but the
registration of a device, the withdrawal of a worker and the loads. -/
def Op.reportsOnly : Op → Bool
  | .registerDevice _ _ | .invalidateWorker _ _ | .decode _ | .loadFromFile _ => false
  | _ => true

namespace Locked
variable {now : Timestamp} {clk : Readings} {l l' : Locked}

theorem reported_reassessLocked (clk : Readings) (l : Locked) :
    (reassessLocked clk l).state.d.reported = l.d.reported :=
  of_basis_eq (basis_reassessLocked clk l) Device.reported fun _ => rfl

theorem reported_applyTransitionLocked (toState : HealthState) (label detail : Str) :
    (applyTransitionLocked now toState label detail l).state.d.reported = l.d.reported :=
  of_basis_eq (basis_applyTransitionLocked ..) Device.reported fun _ => rfl

theorem reported_openRecovery : (openRecovery now l).state.d.reported = l.d.reported := by
  unfold openRecovery
  simp only
  split <;> rfl

theorem reported_recoveryPassed : (recoveryPassed clk l).state.d.reported = l.d.reported := by
  unfold recoveryPassed
  apply Exit.state_andThen (P := fun l' : Locked => l'.d.reported = l.d.reported)
  · split_ifs
    · apply reported_applyTransitionLocked
    · rfl
  · intro l' h
    simp only
    split_ifs
    · apply Exit.state_andThen (P := fun l' : Locked => l'.d.reported = l.d.reported)
      · exact (reported_applyTransitionLocked ..).trans h
      · exact fun _ h => h
    · exact h

theorem reported_recoveryStep {v : ValidationRecord} :
    (recoveryStep clk v l).state.d.reported = l.d.reported := by
  unfold recoveryStep recoveryFailed
  split_ifs
  · exact reported_recoveryPassed
  · apply reported_applyTransitionLocked
  · rfl
  · rfl

theorem reported_closeQuarantine {id : AcceleratorId} :
    (closeQuarantine id l).d.reported = l.d.reported := by
  unfold closeQuarantine
  split <;> rfl

theorem reported_beginRecovery : (beginRecovery clk l).state.d.reported = l.d.reported := by
  unfold beginRecovery
  split_ifs
  · rfl
  · rfl
  · apply Exit.state_andThen (P := fun l' : Locked => l'.d.reported = l.d.reported)
    · apply Exit.state_andThen (P := fun l' : Locked => l'.d.reported = l.d.reported)
      · apply reported_applyTransitionLocked
      · exact fun _ h => reported_openRecovery.trans h
    · exact fun l' h => (reported_reassessLocked _ l').trans h

theorem reported_beginQuarantine {id : AcceleratorId} {authority : QuarantineAuthority}
    {reason triggeredBy : Str} :
    (beginQuarantine clk id authority reason triggeredBy l).state.d.reported = l.d.reported := by
  unfold beginQuarantine
  split_ifs
  · rfl
  · apply Exit.state_andThen (P := fun l' : Locked => l'.d.reported = l.d.reported)
    · exact (reported_applyTransitionLocked ..).trans rfl
    · exact fun l' h => (reported_reassessLocked _ l').trans h

theorem reported_markLost {reason : Str} :
    (markLost now reason l).state.d.reported = l.d.reported := by
  unfold markLost
  simp only
  split_ifs
  · rfl
  · exact (reported_applyTransitionLocked ..).trans rfl
  · rfl

theorem reported_recordFault {fault : Fault} :
    (recordFault clk fault l).state.d.reported = l.d.reported := by
  unfold recordFault
  split
  · rfl
  next faults _ => exact reported_reassessLocked clk (takeFault fault faults l)

/-- No body but that of a report or a withdrawal writes evidence. -/
theorem Touch.reported_eq {c : Call} {k : AcceleratorId} (h : Touch c k l l')
    (honly : c.op.reportsOnly) (hobs : ∀ obs env, c.op ≠ .acceptObservation obs env) :
    l'.d.reported = l.d.reported := by
  cases h with
  | observation op _ => exact absurd op (hobs _ _)
  | fault => exact reported_recordFault
  | validation => exact reported_reassessLocked _ _
  | quarantine => exact reported_beginQuarantine
  | clear => exact (reported_reassessLocked _ _).trans reported_closeQuarantine
  | recovery => exact reported_beginRecovery
  | revalidation =>
    rw [revalidate_state]
    apply Exit.state_andThen (P := fun l' : Locked => l'.d.reported = l.d.reported)
    · exact reported_recoveryStep
    · exact fun l' h => (reported_reassessLocked _ l').trans h
  | lost => exact reported_markLost
  | reassess => exact reported_reassessLocked _ l
  | orphan _ op => simp [op, Op.reportsOnly] at honly
  | policy clk => exact reported_reassessLocked clk (flagPolicy l)
  | policySkipped => rfl

end Locked

namespace HealthStore

/-- The report on device `k` that the call hands in, if it passes the fence. -/
def accepted (k : AcceleratorId) (s : HealthStore) (c : Call) : Option AcceleratorObservation :=
  match c.op with
  | .acceptObservation obs env =>
    if obs.accelerator = k ∧ ∃ d ∈ s.devices.find? k, fence env ⟨s, d⟩ = none then some obs
    else none
  | _ => none

/-- The accepted reports on device `k` in the order of their arrival. -/
def arrivals (k : AcceleratorId) : HealthStore → List Call → List AcceleratorObservation
  | _, [] => []
  | s, c :: rest => (s.accepted k c).toList ++ arrivals k (s.step c) rest

variable {s : HealthStore} {c : Call} {k : AcceleratorId} {d : Device}

end HealthStore

/-- What a device holds once these reports have been taken, in this order. -/
def Device.receives (d : Device) (reports : List AcceleratorObservation) :
    OrdMap DimensionKind HealthDimension × Timestamp :=
  (d.dimensions.insertAll ((reports.flatMap (·.dimensions)).map fun dim => (dim.kind, dim)),
    (reports.getLast?.map (·.timestamp)).getD d.lastObservation)

namespace HealthStore
variable {s : HealthStore} {c : Call} {k : AcceleratorId} {d : Device}

theorem reported_acceptObservation {clk : Readings} {obs : AcceleratorObservation}
    {env : AuthorityEnvelope} {l : Locked} (h : fence env l = none) :
    (Locked.acceptObservation clk obs env l).state.d.reported = l.d.receives [obs] := by
  unfold Locked.acceptObservation
  simp only [h]
  apply Exit.state_andThen (P := fun l' : Locked => l'.d.reported = l.d.receives [obs])
  · rw [reported_reassessLocked]
    unfold takeObservation Device.reported Device.receives
    simp only [List.flatMap_singleton]
    split <;> rfl
  · exact fun _ h => h

/-- One call: an accepted report is taken, everything else leaves the evidence alone. -/
theorem step_reported (hd : s.devices.find? k = some d) (honly : c.op.reportsOnly) :
    ∃ d', (s.step c).devices.find? k = some d' ∧
      d'.reported = d.receives (s.accepted k c).toList := by
  have hload : c.op.loads = false := by
    cases hop : c.op <;> simp [hop, Op.loads, Op.reportsOnly] at honly ⊢
  have hreg : ∀ uuid node, c.op ≠ .registerDevice uuid node := by
    intro uuid node hop
    simp [hop, Op.reportsOnly] at honly
  have hkey : k ∈ (s.step c).devices.keys := by
    rw [(step_frame hload hreg).keys]
    exact OrdMap.mem_keys_iff.mpr ⟨d, hd⟩
  obtain ⟨d', hd'⟩ := OrdMap.mem_keys_iff.mp hkey
  refine ⟨d', hd', ?_⟩
  by_cases hobs : ∃ obs env, c.op = .acceptObservation obs env
  · obtain ⟨obs, env, hop⟩ := hobs
    have hbody : ∀ l, Continues l (Locked.acceptObservation c.clk obs env l).state :=
      fun l => (advances_acceptObservation ..).continues
    simp only [step, exec, hop, Exit.mapResult_state, acceptObservation] at hd'
    by_cases htarget : obs.accelerator = k
    · subst htarget
      rw [find?_onDevice_self hd (hbody _)] at hd'
      obtain rfl := Option.some.inj hd'
      cases hf : fence env ⟨s, d⟩ with
      | none =>
        have haccepted : s.accepted obs.accelerator c = some obs := by
          simp only [accepted, hop]
          exact if_pos ⟨trivial, d, hd, hf⟩
        rw [haccepted]
        exact reported_acceptObservation hf
      | some text =>
        have haccepted : s.accepted obs.accelerator c = none := by
          simp only [accepted, hop]
          refine if_neg ?_
          rintro ⟨-, d₁, hd₁, hfence⟩
          obtain rfl : d = d₁ := Option.some.inj (hd.symm.trans hd₁)
          rw [hf] at hfence
          cases hfence
        rw [haccepted]
        unfold Locked.acceptObservation
        simp only [hf]
        rfl
    · have hsame : s.devices.find? k = some d' := by
        cases hid : s.devices.find? obs.accelerator with
        | none => rwa [onDevice_none hid] at hd'
        | some d₁ =>
          rwa [onDevice_some hid, Exit.mapState_state, find?_commit (hbody _),
            if_neg (Ne.symm htarget)] at hd'
      obtain rfl : d = d' := Option.some.inj (hd.symm.trans hsame)
      have haccepted : s.accepted k c = none := by
        simp only [accepted, hop]
        exact if_neg fun h => htarget h.1
      rw [haccepted]
      rfl
  · have hnone : s.accepted k c = none := by
      unfold accepted
      split
      next obs env hop => exact absurd ⟨obs, env, hop⟩ hobs
      next => rfl
    obtain ⟨d₁, hd₁, hcase⟩ := step_touched s hload hreg k d' hd'
    obtain rfl : d = d₁ := Option.some.inj (hd.symm.trans hd₁)
    rw [hnone]
    rcases hcase with rfl | ⟨l, l', rfl, -, htouch, rfl⟩
    · rfl
    · exact htouch.reported_eq honly fun obs env hop => hobs ⟨obs, env, hop⟩

/-- A whole run leaves what its accepted reports leave, taken as they arrived. -/
theorem run_reported {calls : List Call} (hd : s.devices.find? k = some d)
    (honly : ∀ c ∈ calls, c.op.reportsOnly) :
    ∃ d', (Machine.run step s calls).devices.find? k = some d' ∧
      d'.reported = d.receives (arrivals k s calls) := by
  induction calls generalizing s d with
  | nil => exact ⟨d, hd, rfl⟩
  | cons c rest ih =>
    rw [List.forall_mem_cons] at honly
    obtain ⟨d₁, hd₁, hstep⟩ := step_reported hd honly.1
    obtain ⟨d₂, hd₂, hrun⟩ := ih hd₁ honly.2
    refine ⟨d₂, hd₂, hrun.trans ?_⟩
    obtain ⟨hdims, htime⟩ := Prod.mk.inj hstep
    simp only [Device.receives, arrivals, List.flatMap_append, List.map_append,
      List.getLast?_append, hdims, htime, Prod.mk.injEq]
    constructor
    · exact (List.foldl_append ..).symm
    · cases (arrivals k (s.step c) rest).getLast? <;> rfl

end HealthStore

/-! ### The latest evidence -/

def Timestamp.time (t : Timestamp) : Int := t.nanos.toInt

def HealthDimension.time (dim : HealthDimension) : Int := dim.timestamp.time

namespace Device

/-- The dimensions of one kind that a device has been told of: the one it held at first,
then those of the reports. -/
def toldOf (d : Device) (reports : List AcceleratorObservation) (kind : DimensionKind) :
    List HealthDimension :=
  (d.dimensions.find? kind).toList ++
    (reports.flatMap (·.dimensions)).filter fun dim => dim.kind = kind

/-- The times at which it has been observed; a zero time stands for no observation. -/
def observedAt (d : Device) (reports : List AcceleratorObservation) : List Timestamp :=
  (if d.lastObservation.nanos ≠ 0 then [d.lastObservation] else []) ++ reports.map (·.timestamp)

/-- Latest evidence wins: `d` holds for each kind the newest dimension that `d₀` held or
the reports carried, and the time of the newest observation. -/
structure HoldsLatest (d₀ : Device) (reports : List AcceleratorObservation) (d : Device) :
    Prop where
  dimensions : ∀ kind,
    HoldsNewest HealthDimension.time (d₀.toldOf reports kind) (d.dimensions.find? kind)
  lastObservation : d₀.observedAt reports ≠ [] →
    Newest Timestamp.time (d₀.observedAt reports) d.lastObservation

/-- No report comes late: for each kind the dimension told last is not older than another,
and neither is the last observation. -/
structure NothingOvertaken (d₀ : Device) (reports : List AcceleratorObservation) : Prop where
  dimensions : ∀ kind, Settled HealthDimension.time (d₀.toldOf reports kind)
  lastObservation : Settled Timestamp.time (d₀.observedAt reports)

variable {d₀ d d' : Device} {reports reports' : List AcceleratorObservation}

/-- Under each kind stays what was told last. -/
theorem find?_receives (h : d.reported = d₀.receives reports) (kind : DimensionKind) :
    d.dimensions.find? kind = (d₀.toldOf reports kind).getLast? := by
  have hdims : d.dimensions = (d₀.receives reports).1 := congrArg Prod.fst h
  have htold : (((reports.flatMap (·.dimensions)).map fun dim => (dim.kind, dim)).filter
      fun e => e.1 = kind).getLast?.map Prod.snd =
        ((reports.flatMap (·.dimensions)).filter fun dim => dim.kind = kind).getLast? := by
    rw [List.filter_map, List.getLast?_map, Option.map_map]
    exact congrFun Option.map_id _
  rw [hdims, receives, OrdMap.find?_insertAll, htold, toldOf, List.getLast?_append]
  cases d₀.dimensions.find? kind <;> rfl

/-- The observation time is that of the last one. -/
theorem lastObservation_receives (h : d.reported = d₀.receives reports)
    (hne : d₀.observedAt reports ≠ []) :
    d.lastObservation = (d₀.observedAt reports).getLast hne := by
  have htime : d.lastObservation = (d₀.receives reports).2 := congrArg Prod.snd h
  apply Option.some.inj
  rw [← List.getLast?_eq_some_getLast hne, htime, receives, observedAt, List.getLast?_append,
    List.getLast?_map]
  cases hlast : reports.getLast? with
  | some obs => rfl
  | none =>
    obtain rfl := List.getLast?_eq_none_iff.mp hlast
    by_cases hzero : d₀.lastObservation.nanos ≠ 0
    · rw [if_pos hzero]
      rfl
    · exact absurd (by simp [observedAt, hzero]) hne

theorem holdsLatest_iff (h : d.reported = d₀.receives reports) :
    d₀.HoldsLatest reports d ↔ d₀.NothingOvertaken reports := by
  constructor
  · intro hlatest
    constructor
    · intro kind
      have hheld := hlatest.dimensions kind
      rwa [find?_receives h, holdsNewest_getLast?_iff] at hheld
    · by_cases hne : d₀.observedAt reports = []
      · rw [hne]
        exact settled_nil
      · have hheld := hlatest.lastObservation hne
        rwa [lastObservation_receives h hne, newest_getLast_iff] at hheld
  · intro hsettled
    constructor
    · intro kind
      rw [find?_receives h, holdsNewest_getLast?_iff]
      exact hsettled.dimensions kind
    · intro hne
      rw [lastObservation_receives h hne, newest_getLast_iff]
      exact hsettled.lastObservation

end Device

namespace HealthStore
variable {s : HealthStore} {k : AcceleratorId} {d₀ : Device} {calls : List Call}

/-- The latest evidence wins in a run exactly when no accepted report is overtaken: for
each kind the dimension that arrives last is the newest, and so is the last observation. -/
theorem latest_evidence_wins_iff (hd : s.devices.find? k = some d₀)
    (honly : ∀ c ∈ calls, c.op.reportsOnly) :
    (∃ d, (Machine.run step s calls).devices.find? k = some d ∧
      d₀.HoldsLatest (arrivals k s calls) d) ↔ d₀.NothingOvertaken (arrivals k s calls) := by
  obtain ⟨d, hrun, hreported⟩ := run_reported hd honly
  rw [← Device.holdsLatest_iff hreported]
  constructor
  · rintro ⟨d', hrun', hlatest⟩
    obtain rfl : d = d' := Option.some.inj (hrun.symm.trans hrun')
    exact hlatest
  · intro hlatest
    exact ⟨d, hrun, hlatest⟩

/-- Device 7 and the incarnations of two workers. -/
def twoWorkers : List Call := [
  (Op.registerDevice ⟨7⟩ ⟨1⟩).at 1,
  (Op.registerWorker ⟨1⟩ ⟨1⟩).at 1,
  (Op.registerWorker ⟨2⟩ ⟨2⟩).at 1]

/-- A worker with its boot reports the execution of device 7 in this state at this time. -/
def executionReport (worker : WorkerId) (boot : WorkerBootId) (state : DimensionState)
    (t : Int64) : Call :=
  (Op.acceptObservation
    { accelerator := ⟨7⟩, worker, workerBootId := boot, timestamp := ⟨t⟩
      dimensions := [{ kind := .execution, state, timestamp := ⟨t⟩ }] }
    { workerId := worker, workerBootId := boot, observationGeneration := ⟨1⟩
      deviceGeneration := ⟨1⟩ }).at 30

theorem latest_evidence_wins_in_order :
    ∃ d₀, (after {} 0 twoWorkers).devices.find? ⟨7⟩ = some d₀ ∧
      ((∃ d, (Machine.run step (after {} 0 twoWorkers)
          [executionReport ⟨1⟩ ⟨1⟩ .nominal 10, executionReport ⟨2⟩ ⟨2⟩ .failed 20]).devices.find?
            ⟨7⟩ = some d ∧
        d₀.HoldsLatest (arrivals ⟨7⟩ (after {} 0 twoWorkers)
          [executionReport ⟨1⟩ ⟨1⟩ .nominal 10, executionReport ⟨2⟩ ⟨2⟩ .failed 20]) d) ↔
        d₀.NothingOvertaken (arrivals ⟨7⟩ (after {} 0 twoWorkers)
          [executionReport ⟨1⟩ ⟨1⟩ .nominal 10, executionReport ⟨2⟩ ⟨2⟩ .failed 20])) := by
  have hsome : ((after {} 0 twoWorkers).devices.find? ⟨7⟩).isSome := by decide +kernel
  obtain ⟨d₀, hd₀⟩ := Option.isSome_iff_exists.mp hsome
  exact ⟨d₀, hd₀, latest_evidence_wins_iff hd₀ (by decide)⟩

/-- A failure reported by one worker is overwritten by an older nominal report of another:
the device ends with the execution dimension of time 10, having been told that of 20. -/
theorem newer_failure_overwritten :
    (after {} 0 twoWorkers).Reachable ∧
      ¬∃ d₀ d, (after {} 0 twoWorkers).devices.find? ⟨7⟩ = some d₀ ∧
        (Machine.run step (after {} 0 twoWorkers)
          [executionReport ⟨2⟩ ⟨2⟩ .failed 20, executionReport ⟨1⟩ ⟨1⟩ .nominal 10]).devices.find?
            ⟨7⟩ = some d ∧
        d₀.HoldsLatest (arrivals ⟨7⟩ (after {} 0 twoWorkers)
          [executionReport ⟨2⟩ ⟨2⟩ .failed 20, executionReport ⟨1⟩ ⟨1⟩ .nominal 10]) d := by
  refine ⟨⟨_, _, _, rfl⟩, ?_⟩
  rintro ⟨d₀, d, hd₀, hd, hlatest⟩
  have hheld : ((Machine.run step (after {} 0 twoWorkers)
      [executionReport ⟨2⟩ ⟨2⟩ .failed 20, executionReport ⟨1⟩ ⟨1⟩ .nominal 10]).devices.find?
        ⟨7⟩).map (fun d => d.dimensions.find? .execution) =
      some (some { kind := .execution, state := .nominal, timestamp := ⟨10⟩ }) := by
    decide +kernel
  have hreports : (arrivals ⟨7⟩ (after {} 0 twoWorkers)
      [executionReport ⟨2⟩ ⟨2⟩ .failed 20, executionReport ⟨1⟩ ⟨1⟩ .nominal 10]).flatMap
        (·.dimensions) =
      [{ kind := .execution, state := .failed, timestamp := ⟨20⟩ },
        { kind := .execution, state := .nominal, timestamp := ⟨10⟩ }] := by
    decide +kernel
  rw [hd] at hheld
  have hnewest := (hlatest.dimensions .execution).2 _ (Option.some.inj hheld)
  have hle := hnewest.le { kind := .execution, state := .failed, timestamp := ⟨20⟩ } (by
    unfold Device.toldOf
    rw [hreports]
    simp)
  exact absurd hle (by decide)

end HealthStore
end AcceleratorHealth
