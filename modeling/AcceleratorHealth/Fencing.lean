import AcceleratorHealth.Agreement

/-! The observation fence over whole runs: a rejected report changes nothing, and an
accepted one is current, later than every report accepted before it from the same
worker boot, and not older than the device generation accepted before it. -/
namespace AcceleratorHealth
open Locked

namespace HealthStore

/-! ### One call -/

/-- No text of the fence is the acceptance, and each fits an acknowledgement. -/
theorem fence_text {env : AuthorityEnvelope} {l : Locked} {text : String}
    (h : fence env l = some text) : text ≠ "accepted" ∧ (str text).length ≤ 1000 := by
  unfold fence at h
  by_cases hepoch : env.coordinatorEpoch = l.store.coordinatorEpoch
  · rw [if_neg (not_not.mpr hepoch)] at h
    cases hboot : l.store.workerBootRegistry.find? env.workerId with
    | none =>
      simp only [hboot, Option.some.injEq] at h
      rw [← h]
      decide +kernel
    | some boot =>
      simp only [hboot] at h
      split_ifs at h <;> cases h <;> decide +kernel
  · rw [if_pos hepoch] at h
    cases h
    decide +kernel

/-- Nothing was written through the reference. -/
theorem commit_self {s : HealthStore} {id : AcceleratorId} {d : Device}
    (h : s.devices.find? id = some d) : Locked.commit id ⟨s, d⟩ = s := by
  unfold Locked.commit
  simp only [OrdMap.insert_eq_self h]

/-- A report is turned away without an effect, or it passes the fence and is taken. -/
theorem acceptObservation_cases (clk : Readings) (obs : AcceleratorObservation)
    (env : AuthorityEnvelope) (s : HealthStore) :
    (∃ text, text ≠ "accepted" ∧ s.acceptObservation clk obs env = .ok text s) ∨
      ∃ d, s.devices.find? obs.accelerator = some d ∧ fence env ⟨s, d⟩ = none ∧
        s.acceptObservation clk obs env =
          ((reassessLocked clk (takeObservation obs env ⟨s, d⟩)).andThen fun l =>
            .ok "accepted" l).mapState (Locked.commit obs.accelerator) := by
  unfold acceptObservation
  cases hd : s.devices.find? obs.accelerator with
  | none =>
    rw [onDevice_none hd]
    exact Or.inl ⟨_, by decide, rfl⟩
  | some d =>
    rw [onDevice_some hd]
    unfold Locked.acceptObservation
    cases hf : fence env ⟨s, d⟩ with
    | some text =>
      refine Or.inl ⟨text, (fence_text hf).1, ?_⟩
      change (⟨Locked.commit obs.accelerator ⟨s, d⟩, _⟩ : Exit Exn HealthStore String) = _
      rw [commit_self hd]
      rfl
    | none => exact Or.inr ⟨d, rfl, hf, rfl⟩

/-- The call hands in this report and it is accepted. -/
def Accepts (s : HealthStore) (c : Call) (obs : AcceleratorObservation)
    (env : AuthorityEnvelope) : Prop :=
  c.op = .acceptObservation obs env ∧ (s.exec c).result = .ok (.text "accepted")

theorem step_of_rejected {s : HealthStore} {c : Call} {obs : AcceleratorObservation}
    {env : AuthorityEnvelope} {text : String} (hop : c.op = .acceptObservation obs env)
    (hresult : (s.exec c).result = .ok (.text text)) (hne : text ≠ "accepted") :
    s.step c = s := by
  have hexec : s.exec c = (s.acceptObservation c.clk obs env).mapResult .text := by
    simp only [exec, hop]
  rw [step, hexec]
  rw [hexec] at hresult
  rcases acceptObservation_cases c.clk obs env s with ⟨text', -, heq⟩ | ⟨d, -, -, heq⟩
  · rw [heq]
    rfl
  · rw [heq] at hresult
    unfold Exit.andThen Exit.bind at hresult
    cases hr : (reassessLocked c.clk (takeObservation obs env ⟨s, d⟩)).result with
    | error e =>
      simp only [hr, Exit.mapResult, Exit.mapState] at hresult
      cases hresult
    | ok u =>
      simp only [hr, Exit.mapResult, Exit.mapState] at hresult
      cases hresult
      exact absurd rfl hne

/-- What an accepted report leaves: its generation in the fence and in the device. -/
theorem accepts_cases {s : HealthStore} {c : Call} {obs : AcceleratorObservation}
    {env : AuthorityEnvelope} (h : s.Accepts c obs env) :
    ∃ d, s.devices.find? obs.accelerator = some d ∧ fence env ⟨s, d⟩ = none ∧
      s.step c = Locked.commit obs.accelerator
        (reassessLocked c.clk (takeObservation obs env ⟨s, d⟩)).state := by
  obtain ⟨hop, hresult⟩ := h
  have hexec : s.exec c = (s.acceptObservation c.clk obs env).mapResult .text := by
    simp only [exec, hop]
  rw [hexec] at hresult
  rw [step, hexec]
  rcases acceptObservation_cases c.clk obs env s with ⟨text, hne, heq⟩ | ⟨d, hd, hf, heq⟩
  · rw [heq] at hresult
    cases hresult
    exact absurd rfl hne
  · refine ⟨d, hd, hf, ?_⟩
    rw [heq]
    unfold Exit.andThen Exit.bind
    cases (reassessLocked c.clk (takeObservation obs env ⟨s, d⟩)).result <;> rfl

theorem accepts_fence {s : HealthStore} {c : Call} {obs : AcceleratorObservation}
    {env : AuthorityEnvelope} (h : s.Accepts c obs env) :
    ∃ g, (s.step c).lastObservedGeneration.find? (toLex (env.workerId, env.workerBootId)) =
      some g ∧ env.observationGeneration ≤ g := by
  obtain ⟨d, -, -, hstep⟩ := accepts_cases h
  rw [hstep]
  refine (advances_reassessLocked c.clk (takeObservation obs env ⟨s, d⟩)).continues.fence _ _ ?_
  exact OrdMap.find?_insert_self _ _ _

theorem accepts_generation {s : HealthStore} {c : Call} {obs : AcceleratorObservation}
    {env : AuthorityEnvelope} (h : s.Accepts c obs env) :
    ∃ d, (s.step c).devices.find? obs.accelerator = some d ∧
      env.deviceGeneration ≤ d.generation := by
  obtain ⟨d, hd, hf, hstep⟩ := accepts_cases h
  have hreassess := (advances_reassessLocked c.clk (takeObservation obs env ⟨s, d⟩)).continues
  rw [hstep]
  refine ⟨_, OrdMap.find?_insert_self _ _ _, Nat.le_trans ?_ hreassess.generation⟩
  simp only [takeObservation]
  split_ifs with hlt
  · exact Nat.le_refl _
  · exact Nat.le_of_not_lt hlt

/-! ### The history of a run -/

theorem step_fence {s : HealthStore} {c : Call} (hload : c.op.loads = false)
    (key : WorkerId ×ₗ WorkerBootId) (g : ObservationGeneration)
    (hg : s.lastObservedGeneration.find? key = some g) :
    ∃ g', (s.step c).lastObservedGeneration.find? key = some g' ∧ g ≤ g' := by
  by_cases hreg : ∃ uuid node, c.op = .registerDevice uuid node
  · obtain ⟨uuid, node, hop⟩ := hreg
    refine ⟨g, ?_, Nat.le_refl _⟩
    simp only [step, exec, hop, registerDevice]
    split <;> exact hg
  · exact (step_frame hload fun uuid node h => hreg ⟨uuid, node, h⟩).fence key g hg

/-- The coordinator epoch that a run leaves in force. -/
def epochAfter (epoch : UInt64) (calls : List Call) : UInt64 :=
  calls.foldl (fun e c => match c.op with
    | .rollCoordinatorEpoch => e + 1
    | .setCoordinatorEpoch e' => e'
    | _ => e) epoch

theorem step_coordinatorEpoch {s : HealthStore} {c : Call} (hload : c.op.loads = false) :
    (s.step c).coordinatorEpoch = match c.op with
      | .rollCoordinatorEpoch => s.coordinatorEpoch + 1
      | .setCoordinatorEpoch e => e
      | _ => s.coordinatorEpoch := by
  by_cases h : c.op.onDevices = true
  · rw [(step_evolves h).coordinatorEpoch]
    cases hop : c.op <;> simp [hop, Op.onDevices] at h ⊢
  · unfold step exec
    cases hop : c.op with
    | setPolicy policy => exact (setPolicy_frame ..).2.1
    | invalidateWorker worker boot =>
      exact coordinatorEpoch_invalidateWorker c.clk worker boot s
    | registerDevice uuid node =>
      simp only [registerDevice]
      split <;> rfl
    | decode data => simp [hop, Op.loads] at hload
    | loadFromFile contents => simp [hop, Op.loads] at hload
    | _ => first | rfl | simp [hop, Op.onDevices] at h

theorem coordinatorEpoch_after {policy : HealthPolicy} {epoch : UInt64} {calls : List Call}
    (hload : ∀ c ∈ calls, c.op.loads = false) :
    (after policy epoch calls).coordinatorEpoch = epochAfter epoch calls :=
  Machine.run_history
    (P := fun past (s : HealthStore) => s.coordinatorEpoch = epochAfter epoch past)
    (C := fun _ c => c.op.loads = false) rfl
    (fun past c t h hc => by
      rw [step_coordinatorEpoch hc, h, epochAfter, epochAfter, List.foldl_append]
      rfl)
    (Machine.along_of_forall fun c hc _ => hload c hc)

/-- The boot id was registered for the worker and is neither replaced since nor withdrawn
by a completed `invalidateWorker`. -/
def RegisteredIn (policy : HealthPolicy) (epoch : UInt64) (past : List Call) (worker : WorkerId)
    (boot : WorkerBootId) : Prop :=
  ∃ earlier reg later, past = earlier ++ reg :: later ∧ reg.op = .registerWorker worker boot ∧
    ∀ mid c rest, later = mid ++ c :: rest →
      (∀ boot', c.op ≠ .registerWorker worker boot') ∧
        (c.op = .invalidateWorker worker boot →
          ((after policy epoch (earlier ++ reg :: mid)).exec c).result ≠ .ok .done)

/-- A registered boot id has just been registered, or this call leaves it in place. -/
theorem step_registry {s : HealthStore} {c : Call} {worker : WorkerId} {boot : WorkerBootId}
    (hload : c.op.loads = false)
    (hk : (s.step c).workerBootRegistry.find? worker = some boot) :
    c.op = .registerWorker worker boot ∨
      s.workerBootRegistry.find? worker = some boot ∧
        (∀ boot', c.op ≠ .registerWorker worker boot') ∧
        (c.op = .invalidateWorker worker boot → (s.exec c).result ≠ .ok .done) := by
  by_cases h : c.op.onDevices = true
  · rw [(step_evolves h).registry] at hk
    refine Or.inr ⟨hk, fun boot' hop => ?_, fun hop => ?_⟩ <;> simp [hop, Op.onDevices] at h
  · cases hop : c.op with
    | registerWorker w b =>
      simp only [step, exec, hop, Exit.ok_state, registerWorker, OrdMap.find?_insert] at hk
      split_ifs at hk with hw
      · cases hk
        exact Or.inl (by rw [hw])
      · exact Or.inr ⟨hk, fun boot' heq => hw (by cases heq; rfl), by simp⟩
    | invalidateWorker w b =>
      right
      have hexec : s.exec c = (s.invalidateWorker c.clk w b).mapResult fun _ => .done := by
        simp only [exec, hop]
      rw [step, hexec, Exit.mapResult_state] at hk
      rw [hexec]
      obtain ⟨hok, herr⟩ := Exit.sat_iff.mp (invalidateWorker_sat c.clk w b s)
      cases hresult : (s.invalidateWorker c.clk w b).result with
      | ok u =>
        rcases (hok u hresult).2.2 with ⟨hcurrent, hsame⟩ | herased
        · rw [hsame] at hk
          refine ⟨hk, by simp, fun heq => ?_⟩
          cases heq
          simp [isWorkerCurrent, hk] at hcurrent
        · rw [herased, OrdMap.find?_erase] at hk
          split_ifs at hk with hw
          refine ⟨hk, by simp, fun heq => absurd ?_ hw⟩
          cases heq
          rfl
      | error e =>
        rw [(herr e hresult).registry] at hk
        refine ⟨hk, by simp, fun _ heq => ?_⟩
        simp [Exit.mapResult, hresult, Except.map] at heq
    | setPolicy policy =>
      have hsame : (s.step c).workerBootRegistry = s.workerBootRegistry := by
        simp only [step, exec, hop]
        exact (setPolicy_frame ..).2.2
      exact Or.inr ⟨hsame ▸ hk, by simp, by simp⟩
    | registerDevice uuid node =>
      have hsame : (s.step c).workerBootRegistry = s.workerBootRegistry := by
        simp only [step, exec, hop, registerDevice]
        split <;> rfl
      exact Or.inr ⟨hsame ▸ hk, by simp, by simp⟩
    | rollCoordinatorEpoch =>
      simp only [step, exec, hop] at hk
      exact Or.inr ⟨hk, by simp, by simp⟩
    | setCoordinatorEpoch e =>
      simp only [step, exec, hop] at hk
      exact Or.inr ⟨hk, by simp, by simp⟩
    | decode data => simp [hop, Op.loads] at hload
    | loadFromFile contents => simp [hop, Op.loads] at hload
    | _ => simp [hop, Op.onDevices] at h

theorem registeredIn_after {policy : HealthPolicy} {epoch : UInt64} {calls : List Call}
    (hload : ∀ c ∈ calls, c.op.loads = false) {worker : WorkerId} {boot : WorkerBootId}
    (hk : (after policy epoch calls).workerBootRegistry.find? worker = some boot) :
    RegisteredIn policy epoch calls worker boot := by
  induction calls using List.reverseRecOn with
  | nil => simp [after, init] at hk
  | append_singleton past c ih =>
    rw [List.forall_mem_append, List.forall_mem_singleton] at hload
    rw [after, Machine.run_append, Machine.run_cons, Machine.run_nil] at hk
    rcases step_registry hload.2 hk with hop | ⟨hbefore, hreplace, hwithdraw⟩
    · exact ⟨past, c, [], rfl, hop, fun mid c' rest h => by simp at h⟩
    · obtain ⟨earlier, reg, later, rfl, hreg, hlater⟩ := ih hload.1 hbefore
      refine ⟨earlier, reg, later ++ [c], by simp, hreg, fun mid c' rest h => ?_⟩
      rcases List.eq_nil_or_concat rest with rfl | ⟨rest', last, rfl⟩
      · obtain ⟨rfl, rfl⟩ : later = mid ∧ c = c' := by simpa using h
        exact ⟨hreplace, hwithdraw⟩
      · rw [List.concat_eq_append, ← List.cons_append, ← List.append_assoc] at h
        exact hlater mid c' rest' (List.append_inj' h rfl).1

/-- Generations of accepted reports and of devices only grow in plain runs. -/
theorem run_frame {s : HealthStore} {calls : List Call} (hs : s.Named)
    (hplain : ∀ c ∈ calls, c.op.plain) :
    (∀ key g, s.lastObservedGeneration.find? key = some g →
      ∃ g', (Machine.run step s calls).lastObservedGeneration.find? key = some g' ∧ g ≤ g') ∧
    ∀ k d, s.devices.find? k = some d →
      ∃ d', (Machine.run step s calls).devices.find? k = some d' ∧
        d.generation ≤ d'.generation := by
  induction calls generalizing s with
  | nil => exact ⟨fun _ g h => ⟨g, h, Nat.le_refl _⟩, fun _ d h => ⟨d, h, Nat.le_refl _⟩⟩
  | cons c rest ih =>
    rw [List.forall_mem_cons] at hplain
    obtain ⟨hfence, hdevice⟩ := ih (step_named hs hplain.1) hplain.2
    constructor
    · intro key g hg
      obtain ⟨g₁, hg₁, hle₁⟩ := step_fence hplain.1.1 key g hg
      obtain ⟨g₂, hg₂, hle₂⟩ := hfence key g₁ hg₁
      exact ⟨g₂, hg₂, Nat.le_trans hle₁ hle₂⟩
    · intro k d hk
      obtain ⟨d₁, hd₁, hcase⟩ := step_old hs hplain.1 hk
      have hle₁ : d.generation ≤ d₁.generation := by
        rcases hcase with rfl | ⟨l, l', rfl, htouch, rfl⟩
        · exact Nat.le_refl _
        · exact htouch.continues.generation
      obtain ⟨d₂, hd₂, hle₂⟩ := hdevice k d₁ hd₁
      exact ⟨d₂, hd₂, Nat.le_trans hle₁ hle₂⟩

theorem split_run {policy : HealthPolicy} {epoch : UInt64} {calls past mid : List Call}
    {c c' : Call} (hplain : ∀ c ∈ calls, c.op.plain)
    (hpast : past ++ [c] ++ mid ++ [c'] <+: calls) :
    ((after policy epoch past).step c).Named ∧ (∀ c ∈ mid, c.op.plain) ∧
      after policy epoch (past ++ [c] ++ mid) =
        Machine.run step ((after policy epoch past).step c) mid := by
  have hall : ∀ c₁ ∈ past ++ [c] ++ mid ++ [c'], c₁.op.plain :=
    fun c₁ h => hplain c₁ (hpast.subset h)
  simp only [List.forall_mem_append, List.forall_mem_singleton] at hall
  obtain ⟨⟨⟨hp, hc⟩, hmid⟩, -⟩ := hall
  exact ⟨step_named (after_named hp) hc, hmid, by simp only [after, Machine.run_append]; rfl⟩

/-! ### The fence -/

/-- The four guarantees of the fence in one run: rejections without effect, accepted
reports from the registered incarnation in the current epoch, strictly increasing
observation generations for each worker boot, and device generations that never fall. -/
structure Fenced (policy : HealthPolicy) (epoch : UInt64) (calls : List Call) : Prop where
  rejected : ∀ past c obs env text, past ++ [c] <+: calls → c.op = .acceptObservation obs env →
    ((after policy epoch past).exec c).result = .ok (.text text) → text ≠ "accepted" →
      after policy epoch (past ++ [c]) = after policy epoch past
  current : ∀ past c obs env, past ++ [c] <+: calls → (after policy epoch past).Accepts c obs env →
    env.coordinatorEpoch = epochAfter epoch past ∧
      RegisteredIn policy epoch past env.workerId env.workerBootId
  increasing : ∀ past c mid c' obs env obs' env', past ++ [c] ++ mid ++ [c'] <+: calls →
    (after policy epoch past).Accepts c obs env →
    (after policy epoch (past ++ [c] ++ mid)).Accepts c' obs' env' →
    env'.workerId = env.workerId → env'.workerBootId = env.workerBootId →
      env.observationGeneration < env'.observationGeneration
  monotone : ∀ past c mid c' obs env obs' env', past ++ [c] ++ mid ++ [c'] <+: calls →
    (after policy epoch past).Accepts c obs env →
    (after policy epoch (past ++ [c] ++ mid)).Accepts c' obs' env' →
    obs'.accelerator = obs.accelerator → env.deviceGeneration ≤ env'.deviceGeneration

/-- Every plain run is fenced. -/
theorem observations_fenced (policy : HealthPolicy) (epoch : UInt64) (calls : List Call)
    (hplain : ∀ c ∈ calls, c.op.plain) : Fenced policy epoch calls where
  rejected past c obs env text _ hop hresult hne := by
    rw [after, Machine.run_append]
    exact step_of_rejected hop hresult hne
  current past c obs env hpast haccepts := by
    have hload : ∀ c' ∈ past, c'.op.loads = false := fun c' hc' =>
      (hplain c' (hpast.subset (List.mem_append_left _ hc'))).1
    obtain ⟨d, -, hfence, -⟩ := accepts_cases haccepts
    obtain ⟨hepoch, hboot, -, -⟩ := fence_eq_none hfence
    exact ⟨hepoch.trans (coordinatorEpoch_after hload), registeredIn_after hload hboot⟩
  increasing past c mid c' obs env obs' env' hpast haccepts haccepts' hworker hboot := by
    obtain ⟨hnamed, hmid, heq⟩ := split_run hplain hpast
    rw [heq] at haccepts'
    obtain ⟨d', -, hfence', -⟩ := accepts_cases haccepts'
    obtain ⟨g, hg, hle⟩ := accepts_fence haccepts
    obtain ⟨g', hg', hle'⟩ := (run_frame hnamed hmid).1 _ g hg
    have hlt := (fence_eq_none hfence').2.2.1 g' (by rw [hworker, hboot]; exact hg')
    exact Nat.lt_of_le_of_lt (Nat.le_trans hle hle') hlt
  monotone past c mid c' obs env obs' env' hpast haccepts haccepts' hsame := by
    obtain ⟨hnamed, hmid, heq⟩ := split_run hplain hpast
    rw [heq] at haccepts'
    obtain ⟨d', hd', hfence', -⟩ := accepts_cases haccepts'
    obtain ⟨d, hd, hle⟩ := accepts_generation haccepts
    obtain ⟨d₁, hd₁, hle₁⟩ := (run_frame hnamed hmid).2 _ d hd
    obtain rfl : d₁ = d' := Option.some.inj (hd₁.symm.trans (hsame ▸ hd'))
    exact Nat.le_trans (Nat.le_trans hle hle₁) (fence_eq_none hfence').2.2.2

theorem observations_fenced_after_bringUp : Fenced {} 0 bringUp :=
  observations_fenced {} 0 bringUp (by decide)

end HealthStore
end AcceleratorHealth
