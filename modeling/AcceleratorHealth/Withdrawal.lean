import AcceleratorHealth.Restart

/-! Losing a worker. Its withdrawal strips the evidence of every device that it is on
record as having observed last, and a device without evidence is not ready until the next
observation. The record names the worker of the report's body, the fence that of its
envelope. -/
namespace AcceleratorHealth
namespace HealthStore
open Locked Persistence

section Outcome
variable {s : HealthStore} {c : Call} {k : AcceleratorId} {d d' : Device}

/-- The worker of a device, or no trust in what it reported. -/
def Held (worker : WorkerId) (boot : WorkerBootId) (d : Device) : Prop :=
  d.lastWorker = worker ∧ d.lastWorkerBootId = boot ∨ d.Distrusted

theorem Outcome.held {worker : WorkerId} {boot : WorkerBootId} (h : Outcome s c k d d')
    (hd : s.devices.find? k = some d) (hw : Held worker boot d) (hnone : ¬s.PassesFor k c)
    (hspares : s.Spares k c) : Held worker boot d' := by
  rcases hw with hlast | hw
  swap
  · exact Or.inr (h.distrusted hd hw hnone hspares)
  left
  cases h with
  | kept hstanding =>
    exact ⟨(congrArg Standing.lastWorker hstanding).trans hlast.1,
      (congrArg Standing.lastWorkerBootId hstanding).trans hlast.2⟩
  | @judged l m clk device _ enters returns eq =>
    have hworker : m.d.lastWorker = l.d.lastWorker := congrArg Standing.lastWorker enters.standing
    have hboot : m.d.lastWorkerBootId = l.d.lastWorkerBootId :=
      congrArg Standing.lastWorkerBootId enters.standing
    obtain ⟨h₁, h₂⟩ := lastWorker_reassessLocked clk m
    rw [eq, h₁, h₂, hworker, hboot, device]
    exact hlast
  | observed op target passed => exact absurd ⟨_, _, d, op, target, hd, passed⟩ hnone
  | @stripped l _ _ i _ _ _ device _ _ eq =>
    obtain ⟨h₁, h₂⟩ := lastWorker_reassessLocked (c.clk.drop (2 * i)) (strip l)
    rw [eq, h₁, h₂]
    rw [← device] at hlast
    exact hlast

end Outcome

/-! ### The withdrawal -/

/-- The pair's withdrawal meets no device that is due a transition at its last health
generation. -/
def WithdrawsWhole (clk : Readings) (worker : WorkerId) (boot : WorkerBootId) (s : HealthStore) :
    Prop :=
  ∀ k i d, (k, i) ∈ s.devices.keys.zipIdx → s.devices.find? k = some d →
    d.lastWorker = worker → d.lastWorkerBootId = boot →
      ¬Tears ((clk.drop (2 * i)) 0) (strip ⟨s, d⟩)

theorem orphan_returns_iff {clk : Readings} {worker : WorkerId} {boot : WorkerBootId}
    {l : Locked} : (orphan clk worker boot l).result = .ok () ↔
      (l.d.lastWorker = worker → l.d.lastWorkerBootId = boot → ¬Tears (clk 0) (strip l)) := by
  unfold orphan
  split_ifs with hlast
  · change (reassessLocked clk (strip l)).result = .ok () ↔ _
    rw [reassessLocked_returns_iff]
    exact ⟨fun h _ _ => h, fun h => h hlast.1 hlast.2⟩
  · exact ⟨fun _ h₁ h₂ => absurd ⟨h₁, h₂⟩ hlast, fun _ => rfl⟩

theorem orphans_return_iff {clk : Readings} {worker : WorkerId} {boot : WorkerBootId}
    {s : HealthStore} :
    (forDevices (fun i => orphan (clk.drop (2 * i)) worker boot) s).result = .ok () ↔
      s.WithdrawsWhole clk worker boot := by
  rw [forDevices_returns_iff fun i l => (advances_orphan _ worker boot l).continues]
  · unfold WithdrawsWhole
    simp only [orphan_returns_iff]
  · intro i d s₁ hs₁
    have htears : Tears ((clk.drop (2 * i)) 0) (strip ⟨s₁, d⟩) ↔
        Tears ((clk.drop (2 * i)) 0) (strip ⟨s, d⟩) := tears_congr rfl hs₁.policy
    simp only [orphan_returns_iff, htears]

/-- A turn that returns leaves a device of the pair without trust. -/
theorem distrusted_orphan {clk : Readings} {worker : WorkerId} {boot : WorkerBootId} {l : Locked}
    (hworker : l.d.lastWorker = worker) (hboot : l.d.lastWorkerBootId = boot)
    (hres : (orphan clk worker boot l).result = .ok ()) :
    (orphan clk worker boot l).state.d.Distrusted := by
  have hstrip : orphan clk worker boot l = reassessLocked clk (strip l) :=
    if_pos ⟨hworker, hboot⟩
  rw [hstrip] at hres ⊢
  refine (Exit.sat_iff.mp (distrusted_reassessLocked clk (Or.inr rfl) fun _ h => ?_)).1 () hres
  exact not_degradedReady_strip h

section Withdraw
variable {clk : Readings} {worker : WorkerId} {boot : WorkerBootId} {s : HealthStore}

/-- A whole withdrawal takes the pair off the registry and gives every device its turn. -/
theorem invalidateWorker_whole (hcurrent : s.isWorkerCurrent worker boot)
    (hwhole : s.WithdrawsWhole clk worker boot) :
    (s.invalidateWorker clk worker boot).state.workerBootRegistry =
        s.workerBootRegistry.erase worker ∧
      ∀ k d', (s.invalidateWorker clk worker boot).state.devices.find? k = some d' →
        ∃ d i s₁, s.devices.find? k = some d ∧
          (orphan (clk.drop (2 * i)) worker boot ⟨s₁, d⟩).result = .ok () ∧
          d' = (orphan (clk.drop (2 * i)) worker boot ⟨s₁, d⟩).state.d := by
  have hbody : ∀ i l, Continues l (orphan (clk.drop (2 * i)) worker boot l).state :=
    fun i l => (advances_orphan _ worker boot l).continues
  have hok := orphans_return_iff.mpr hwhole
  have hloop := looped_forDevices hbody s
  unfold invalidateWorker
  rw [if_pos hcurrent]
  unfold Exit.andThen Exit.bind
  rw [hok]
  refine ⟨congrArg (OrdMap.erase · worker) hloop.evolves.registry, fun k d' hk => ?_⟩
  obtain ⟨d, i, hd, hturn, -⟩ := forDevices_turn hbody hk
  obtain ⟨s₁, -, hres, hfind⟩ := hloop.completed hok k i d hturn hd
  exact ⟨d, i, s₁, hd, hres, Option.some.inj (hk.symm.trans hfind)⟩

/-- One that is cut short leaves the registry alone. -/
theorem registry_of_torn (htorn : ¬s.WithdrawsWhole clk worker boot) :
    (s.invalidateWorker clk worker boot).state.workerBootRegistry = s.workerBootRegistry := by
  have hbody : ∀ i l, Continues l (orphan (clk.drop (2 * i)) worker boot l).state :=
    fun i l => (advances_orphan _ worker boot l).continues
  have hregistry := (looped_forDevices hbody s).evolves.registry
  unfold invalidateWorker
  split_ifs
  · unfold Exit.andThen Exit.bind
    split
    next hok => exact absurd (orphans_return_iff.mp hok) htorn
    next => exact hregistry
  · rfl

end Withdraw

/-! ### Runs -/

theorem step_held {s : HealthStore} {c : Call} {k : AcceleratorId} {worker : WorkerId}
    {boot : WorkerBootId} (h : KeepsDistrust k s c) (hnone : ¬s.AcceptsFor k c)
    (hs : ∀ d, s.devices.find? k = some d → Held worker boot d) :
    ∀ d', (s.step c).devices.find? k = some d' → Held worker boot d' := by
  intro d' hk
  by_cases hload : c.op.loads = true
  · rcases h.loaded hload with heq | hd
    · exact hs d' (heq ▸ hk)
    · exact Or.inr (hd d' hk)
  · rcases step_outcome (by simpa using hload) hk with ⟨d, hd, houtcome⟩ | ⟨uuid, node, -, rfl⟩
    · exact houtcome.held hd (hs d hd) (fun hpass => hnone (h.taken.acceptsFor hpass)) h.branch
    · exact Or.inr (distrusted_newDevice ..)

/-- An accepted report leaves the worker of its body on the device. -/
theorem accepts_lastWorker {s : HealthStore} {c : Call} {obs : AcceleratorObservation}
    {env : AuthorityEnvelope} (h : s.Accepts c obs env) :
    ∀ d, (s.step c).devices.find? obs.accelerator = some d →
      d.lastWorker = obs.worker ∧ d.lastWorkerBootId = obs.workerBootId := by
  intro d' hk
  obtain ⟨d, hd, -, hstep⟩ := accepts_cases h
  have hself : (s.step c).devices.find? obs.accelerator =
      some (reassessLocked c.clk (takeObservation obs env ⟨s, d⟩)).state.d := by
    rw [hstep]
    exact OrdMap.find?_insert_self ..
  cases hk.symm.trans hself
  exact lastWorker_reassessLocked c.clk (takeObservation obs env ⟨s, d⟩)

/-- A whole withdrawal leaves the devices of the lost worker distrusted. -/
theorem withdrawal_distrusts {s : HealthStore} {c : Call} {k : AcceleratorId} {worker : WorkerId}
    {boot : WorkerBootId} (hop : c.op = .invalidateWorker worker boot)
    (hcurrent : s.isWorkerCurrent worker boot) (hwhole : s.WithdrawsWhole c.clk worker boot)
    (hs : ∀ d, s.devices.find? k = some d → Held worker boot d) :
    ∀ d', (s.step c).devices.find? k = some d' → d'.Distrusted := by
  intro d' hk
  have hstep : s.step c = (s.invalidateWorker c.clk worker boot).state := by
    simp only [step, exec, hop, Exit.mapResult_state]
  rw [hstep] at hk
  obtain ⟨d, i, s₁, hd, hres, heq⟩ := (invalidateWorker_whole hcurrent hwhole).2 k d' hk
  rcases hs d hd with ⟨hworker, hboot⟩ | hw
  · rw [heq]
    exact distrusted_orphan hworker hboot hres
  · obtain ⟨d₀, hd₀, houtcome⟩ := outcome_invalidateWorker hop hk
    cases hd.symm.trans hd₀
    apply houtcome.distrusted hd hw
    · rintro ⟨obs, env, d, hop', -⟩
      rw [hop] at hop'
      cases hop'
    · rintro d l clk m - - - - henters
      cases henters with
      | fault op | validation op | quarantine op | clear op | recovery op | revalidation op
      | reassess op | reassessAll op | policy op =>
        rw [hop] at op
        cases op

section Run
variable {policy : HealthPolicy} {epoch : UInt64} {past mid later : List Call}
  {report withdrawal : Call} {obs : AcceleratorObservation} {env : AuthorityEnvelope}

/-- After the worker of a device's last accepted report is lost, the device is not ready
until another report is accepted: this in every run in which the report's body names the
worker of its envelope, the withdrawal is whole, and the steps after the report keep it. -/
theorem lost_worker_withdrawn (haccepts : (after policy epoch past).Accepts report obs env)
    (hlatest : Machine.Along step (fun s c => ¬s.AcceptsFor obs.accelerator c)
      (after policy epoch (past ++ [report])) mid)
    (hcurrent : (after policy epoch (past ++ [report] ++ mid)).isWorkerCurrent env.workerId
      env.workerBootId)
    (hop : withdrawal.op = .invalidateWorker env.workerId env.workerBootId)
    (hquiet : Machine.Along step (fun s c => ¬s.AcceptsFor obs.accelerator c)
      (after policy epoch (past ++ [report] ++ mid ++ [withdrawal])) later)
    (hbody : obs.worker = env.workerId ∧ obs.workerBootId = env.workerBootId)
    (hwhole : (after policy epoch (past ++ [report] ++ mid)).WithdrawsWhole withdrawal.clk
      env.workerId env.workerBootId)
    (hmid : Machine.Along step (KeepsDistrust obs.accelerator)
      (after policy epoch (past ++ [report])) mid)
    (hlater : Machine.Along step (KeepsDistrust obs.accelerator)
      (after policy epoch (past ++ [report] ++ mid ++ [withdrawal])) later) :
    (after policy epoch (past ++ [report] ++ mid ++ [withdrawal] ++ later)).NotReady
      obs.accelerator := by
  have hreport : ∀ d, (after policy epoch (past ++ [report])).devices.find? obs.accelerator =
      some d → Held env.workerId env.workerBootId d := by
    intro d hk
    rw [after, Machine.run_append] at hk
    obtain ⟨hworker, hboot⟩ := accepts_lastWorker haccepts d hk
    exact Or.inl ⟨hworker.trans hbody.1, hboot.trans hbody.2⟩
  have hheld : ∀ d, (after policy epoch (past ++ [report] ++ mid)).devices.find?
      obs.accelerator = some d → Held env.workerId env.workerBootId d := by
    rw [after, Machine.run_append]
    exact Machine.run_invariant (P := fun s => ∀ d, s.devices.find? obs.accelerator = some d →
      Held env.workerId env.workerBootId d) (fun s c hs hc => step_held hc.2 hc.1 hs) hreport
      (hlatest.and hmid)
  have hwithdrawn : ∀ d, (after policy epoch
      (past ++ [report] ++ mid ++ [withdrawal])).devices.find? obs.accelerator = some d →
        d.Distrusted := by
    rw [after, Machine.run_append]
    exact withdrawal_distrusts hop hcurrent hwhole hheld
  apply notReady_of_claims
  intro d hk
  rw [after, Machine.run_append] at hk
  have hfinal := Machine.run_invariant (P := fun s => ∀ d,
    s.devices.find? obs.accelerator = some d → d.Distrusted)
    (fun s c hs hc => step_distrusted hc.2 hc.1 hs) hwithdrawn (hquiet.and hlater)
  exact (hfinal d hk).claims

end Run

/-- A report of device 7 by the worker 1. -/
def reportBy (worker : WorkerId) : AcceleratorObservation :=
  { accelerator := ⟨7⟩, worker, workerBootId := ⟨1⟩, timestamp := ⟨1⟩ }

def firstEnvelope : AuthorityEnvelope :=
  { workerId := ⟨1⟩, workerBootId := ⟨1⟩, observationGeneration := ⟨1⟩, deviceGeneration := ⟨1⟩ }

theorem accepts_reportBy {worker : WorkerId}
    (h : ((after {} 0 (bringUp.take 3)).devices.find? ⟨7⟩).any (fun d => decide
      (fence firstEnvelope ⟨after {} 0 (bringUp.take 3), d⟩ = none ∧
        d.healthGeneration ≠ .last)) = true) :
    (after {} 0 (bringUp.take 3)).Accepts ((Op.acceptObservation (reportBy worker)
      firstEnvelope).at 1) (reportBy worker) firstEnvelope := by
  obtain ⟨d, hd, hfits⟩ := (Option.any_eq_true _ _).mp h
  obtain ⟨hfence, hroom⟩ := of_decide_eq_true hfits
  exact accepts_of_whole rfl hd hfence fun htears =>
    hroom (healthGeneration_takeObservation.symm.trans htears.2)

/-- The worker of device 7 is lost, and another is registered. -/
theorem lost_worker_withdrawn_after_bringUp :
    (after {} 0 (bringUp.take 3 ++ [(Op.acceptObservation (reportBy ⟨1⟩) firstEnvelope).at 1] ++
      [] ++ [(Op.invalidateWorker ⟨1⟩ ⟨1⟩).at 1] ++
        [(Op.registerWorker ⟨2⟩ ⟨2⟩).at 2])).NotReady ⟨7⟩ := by
  apply lost_worker_withdrawn (accepts_reportBy (by decide +kernel))
  · trivial
  · decide +kernel
  · rfl
  · refine ⟨?_, trivial⟩
    rintro ⟨obs, env, -, hop, -⟩
    cases hop
  · exact ⟨rfl, rfl⟩
  · have hroom : (after {} 0 (bringUp.take 3 ++
        [(Op.acceptObservation (reportBy ⟨1⟩) firstEnvelope).at 1] ++ [])).AllDevices
          fun d => d.healthGeneration ≠ .last := by decide +kernel
    rintro k i d - hd - - ⟨-, hlast⟩
    exact hroom k d hd hlast
  · trivial
  · exact ⟨keepsDistrust_registerWorker, trivial⟩

/-- Under the envelope of worker 1 the body names worker 9: with worker 1 lost, device 7
stays ready. -/
theorem lost_worker_leaves_device_ready :
    (after {} 0 (bringUp.take 3)).Accepts ((Op.acceptObservation (reportBy ⟨9⟩)
        firstEnvelope).at 1) (reportBy ⟨9⟩) firstEnvelope ∧
      (after {} 0 (bringUp.take 3 ++ [(Op.acceptObservation (reportBy ⟨9⟩)
        firstEnvelope).at 1])).isWorkerCurrent ⟨1⟩ ⟨1⟩ ∧
      ¬(after {} 0 (bringUp.take 3 ++ [(Op.acceptObservation (reportBy ⟨9⟩)
        firstEnvelope).at 1] ++ [(Op.invalidateWorker ⟨1⟩ ⟨1⟩).at 1])).NotReady ⟨7⟩ := by
  refine ⟨accepts_reportBy (by decide +kernel), by decide +kernel, fun h => ?_⟩
  have hready : ((after {} 0 (bringUp.take 3 ++ [(Op.acceptObservation (reportBy ⟨9⟩)
      firstEnvelope).at 1] ++ [(Op.invalidateWorker ⟨1⟩ ⟨1⟩).at 1])).devices.find? ⟨7⟩).map
        Device.readiness = some .ready := by decide +kernel
  obtain ⟨d, hd, heq⟩ := Option.map_eq_some_iff.mp hready
  exact (h d hd).1 heq

end HealthStore
end AcceleratorHealth
