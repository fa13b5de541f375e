import AcceleratorHealth.Serving

/-! Incarnations of a worker. The store knows one incarnation of a worker, the one registered
last, and fences out all others; nothing orders them, so that a late REGISTER of an old one
brings it back. -/
namespace AcceleratorHealth
open Codec Wire

namespace HealthStore
open Locked

/-- Every OBSERVATION under the incarnation is turned away, on whatever connection. -/
def Refuses (p : Incarnation) (s : HealthStore) : Prop :=
  ∀ clk connection frame env obs r, frame.type = .observation →
    readObsBody.run { data := frame.payload } = .ok ((env, obs), r) →
    env.workerId = p.1 → env.workerBootId = p.2 →
      Session.TurnsAway clk frame { store := s, connection }

theorem acceptObservation_of_fenced {s : HealthStore} {env : AuthorityEnvelope}
    (h : ∀ d, fence env ⟨s, d⟩ ≠ none) (clk : Readings) (obs : AcceleratorObservation) :
    ∃ text, text ≠ "accepted" ∧ (str text).length ≤ 1000 ∧
      s.acceptObservation clk obs env = .ok text s := by
  unfold acceptObservation
  cases hd : s.devices.find? obs.accelerator with
  | none =>
    rw [onDevice_none hd]
    exact ⟨_, by decide, by decide +kernel, rfl⟩
  | some d =>
    rw [onDevice_some hd]
    unfold Locked.acceptObservation
    obtain ⟨text, hfence⟩ := Option.ne_none_iff_exists'.mp (h d)
    obtain ⟨hne, hlen⟩ := fence_text hfence
    refine ⟨text, hne, hlen, ?_⟩
    rw [hfence]
    change (⟨Locked.commit obs.accelerator ⟨s, d⟩, _⟩ : Exit Exn HealthStore String) = _
    rw [commit_self hd]
    rfl

section Handlers
attribute [local irreducible] readObsBody

/-- A report that the fence holds back is turned away. -/
theorem turnsAway_of_fenced {s : HealthStore} {env : AuthorityEnvelope}
    (h : ∀ d, fence env ⟨s, d⟩ ≠ none) {clk : Readings} {connection : Connection}
    {frame : AcceleratorHealth.Frame} {obs : AcceleratorObservation} {r : Reader}
    (htype : frame.type = .observation)
    (hread : readObsBody.run { data := frame.payload } = .ok ((env, obs), r)) :
    Session.TurnsAway clk frame { store := s, connection } := by
  obtain ⟨text, hne, hlen, haccept⟩ := acceptObservation_of_fenced h clk obs
  obtain ⟨payload, hack, hpayload⟩ := Session.acknowledge_eq .observation
    (decide (text = "accepted")) text { store := s, connection } hlen
  have hhandled : Session.handleFrame clk frame { store := s, connection } =
      .ok [{ type := .ack, payload }] { store := s, connection } := by
    unfold Session.handleFrame
    rw [htype]
    simp only
    unfold Session.handleObservation Session.onStore
    rw [hread]
    simp only
    rw [haccept]
    exact hack
  unfold Session.TurnsAway
  rw [hhandled]
  refine ⟨rfl, _, rfl, _, List.mem_singleton_self _, rfl, .observation, str text, ?_⟩
  rw [decide_eq_false hne] at hpayload
  exact hpayload

end Handlers

theorem refuses_of_not_current {p : Incarnation} {s : HealthStore}
    (h : ¬s.isWorkerCurrent p.1 p.2) : s.Refuses p := by
  intro clk connection frame env obs r htype hread hworker hboot
  apply turnsAway_of_fenced _ htype hread
  intro d hfence
  apply h
  rw [← hworker, ← hboot]
  simpa [isWorkerCurrent] using (fence_eq_none hfence).2.1

end HealthStore

/-! ### What a run leaves registered -/

/-- The last of its worker in the list. -/
def Latest (l : List Incarnation) (p : Incarnation) : Prop :=
  ∃ l₁ l₂, l = l₁ ++ p :: l₂ ∧ ∀ q ∈ l₂, q.1 ≠ p.1

theorem Latest.append {l l' : List Incarnation} {p : Incarnation} (h : Latest l' p) :
    Latest (l ++ l') p := by
  obtain ⟨l₁, l₂, rfl, hlast⟩ := h
  exact ⟨l ++ l₁, l₂, by simp, hlast⟩

/-- What comes before an incarnation that is the last comes between two of it. -/
theorem sandwiched {l : List Incarnation} {p q : Incarnation} (hbefore : [p, q].Sublist l)
    (hlatest : Latest l p) (hworker : q.1 = p.1) (hne : q ≠ p) : [p, q, p].Sublist l := by
  obtain ⟨l₁, l₂, rfl, hlast⟩ := hlatest
  have hnot : q ∉ p :: l₂ := by
    rw [List.mem_cons, not_or]
    exact ⟨hne, fun hmem => hlast q hmem hworker⟩
  obtain ⟨front, back, heq, hfront, hback⟩ := List.sublist_append_iff.mp hbefore
  have hnil : back = [] := by
    rcases List.eq_nil_or_concat back with hnil | ⟨init, last, hlasteq⟩
    · exact hnil
    · rw [List.concat_eq_append] at hlasteq
      rw [hlasteq, ← List.append_assoc] at heq
      have hsplit : [p] ++ [q] = front ++ init ++ [last] := heq
      obtain ⟨-, hq⟩ := List.append_inj' hsplit rfl
      cases hq
      exact absurd (hback.subset (by simp [hlasteq])) hnot
  rw [hnil, List.append_nil] at heq
  rw [← heq] at hfront
  exact hfront.append (List.singleton_sublist.mpr List.mem_cons_self)

namespace Coordinator

/-- A registered incarnation is the last of its worker that the run has registered. -/
theorem latest_of_registered {c : Coordinator} {events : List Timed} {p : Incarnation}
    (h : (Machine.run step c events).store.workerBootRegistry.find? p.1 = some p.2) :
    Latest (c.introductions events) p ∨
      c.store.workerBootRegistry.find? p.1 = some p.2 ∧
        ∀ q ∈ c.introductions events, q.1 ≠ p.1 := by
  induction events generalizing c with
  | nil => exact Or.inr ⟨h, by simp [introductions]⟩
  | cons e rest ih =>
    unfold introductions
    rcases ih h with hlatest | ⟨hstep, hrest⟩
    · exact Or.inl hlatest.append
    · rcases registered_of_step hstep with hintro | ⟨hbefore, hother⟩
      · left
        rw [hintro]
        exact ⟨[], _, rfl, hrest⟩
      · refine Or.inr ⟨hbefore, ?_⟩
        rw [List.forall_mem_append]
        exact ⟨fun q hq => hother q (Option.mem_toList.mp hq), hrest⟩

/-- An incarnation stays registered while no other of its worker is registered and no
connection that remembers it is torn down. -/
theorem registered_run {c : Coordinator} {events : List Timed} {p : Incarnation}
    (hp : c.store.workerBootRegistry.find? p.1 = some p.2)
    (hsame : ∀ q ∈ c.introductions events, q.1 = p.1 → q = p)
    (hspares : Machine.Along step (Spares p) c events) :
    (Machine.run step c events).store.workerBootRegistry.find? p.1 = some p.2 := by
  induction events generalizing c with
  | nil => exact hp
  | cons e rest ih =>
    unfold introductions at hsame
    rw [List.forall_mem_append] at hsame
    refine ih ?_ hsame.2 hspares.2
    exact registered_step (Or.inr hp)
      (fun q hq => hsame.1 q (Option.mem_toList.mpr hq)) hspares.1

/-! ### Superseded incarnations -/

/-- No incarnation is registered again after another of its worker. -/
def NoneReturns (l : List Incarnation) : Prop :=
  ∀ p q, [p, q, p].Sublist l → q.1 = p.1 → q = p

/-- An incarnation that another of its worker has superseded is turned away for good, and
one that has been registered stays, whatever is heard of those before it, until a connection
that remembers it is torn down. -/
structure FencedOut (c : Coordinator) (events : List Timed) : Prop where
  superseded : ∀ past, past <+: events → ∀ p q, [p, q].Sublist (c.introductions past) →
    q.1 = p.1 → q ≠ p → (Machine.run step c past).store.Refuses p
  newcomer : ∀ past e later, past ++ e :: later <+: events → ∀ p,
    (Machine.run step c past).introduction e = some p →
    (∀ q ∈ ((Machine.run step c past).step e).introductions later, q.1 = p.1 →
      q = p ∨ q ∈ c.introductions past) →
    Machine.Along step (Spares p) (Machine.run step c past) (e :: later) →
      (Machine.run step c (past ++ e :: later)).store.isWorkerCurrent p.1 p.2

theorem fencedOut_of_noneReturns {c : Coordinator} {events : List Timed}
    (h : NoneReturns (c.introductions events)) : FencedOut c events where
  superseded past hpast p q hbefore hworker hne := by
    apply HealthStore.refuses_of_not_current
    intro hcurrent
    obtain ⟨later, rfl⟩ := hpast
    rw [introductions_append] at h
    have hregistered : (Machine.run step c past).store.workerBootRegistry.find? p.1 = some p.2 := by
      simpa [HealthStore.isWorkerCurrent] using hcurrent
    rcases latest_of_registered hregistered with hlatest | ⟨-, hnone⟩
    · have hreturn := sandwiched hbefore hlatest hworker hne
      exact hne (h p q (hreturn.trans (List.sublist_append_left ..)) hworker)
    · exact hnone q (hbefore.subset (by simp)) hworker
  newcomer past e later hpast p hintro hlater hspares := by
    obtain ⟨rest, rfl⟩ := hpast
    have hfirst : ((Machine.run step c past).step e).store.workerBootRegistry.find? p.1 =
        some p.2 := by
      refine registered_step (Or.inl hintro) (fun q hq _ => ?_) hspares.1
      exact Option.some.inj (hq.symm.trans hintro)
    have hsame : ∀ q ∈ ((Machine.run step c past).step e).introductions later,
        q.1 = p.1 → q = p := by
      intro q hq hworker
      rcases hlater q hq hworker with heq | hold
      · exact heq
      · have hreturn : [q, p, q].Sublist (c.introductions (past ++ e :: later ++ rest)) := by
          rw [introductions_append, introductions_append, introductions, hintro]
          apply List.Sublist.trans _ (List.sublist_append_left ..)
          apply (List.singleton_sublist.mpr hold).append
          exact (List.singleton_sublist.mpr hq).cons_cons p
        exact (h q p hreturn hworker.symm).symm
    rw [Machine.run_append, Machine.run_cons]
    simpa [HealthStore.isWorkerCurrent] using registered_run hfirst hsame hspares.2

/-- Worker 1 introduces itself with device 7 under boot id 1, restarts as boot id 2, and the
first connection still delivers a REGISTER of boot id 1. -/
def delayed : List Timed :=
  let register (boot : WorkerBootId) : Frame :=
    frameOf .register (regBody { worker := ⟨1⟩, boot } [{ uuid := ⟨7⟩ }])
  let events : List Event :=
    [.accept 3, .receive 3 (register ⟨1⟩), .accept 4, .receive 4 (register ⟨2⟩),
      .receive 3 (register ⟨1⟩)]
  events.map fun e => (e, fun _ => ⟨1⟩, fun _ => ⟨1⟩)

theorem fencedOut_without_delayed :
    FencedOut (start (fun _ => ⟨1⟩) 1 none) (delayed.take 4) := by
  apply fencedOut_of_noneReturns
  intro p q hreturn
  have hlen : ((start (fun _ => ⟨1⟩) 1 none).introductions (delayed.take 4)).length = 2 := by
    decide +kernel
  have hle := hreturn.length_le
  rw [hlen] at hle
  simp at hle

def oldEnvelope : AuthorityEnvelope :=
  { coordinatorEpoch := 1, workerId := ⟨1⟩, workerBootId := ⟨1⟩, observationGeneration := ⟨1⟩
    deviceGeneration := ⟨1⟩ }

def oldObservation : AcceleratorObservation :=
  { accelerator := ⟨7⟩, worker := ⟨1⟩, workerBootId := ⟨1⟩, timestamp := ⟨1⟩ }

def oldReport : Frame := frameOf .observation (obsBody oldEnvelope oldObservation)

theorem read_oldReport : ∃ r,
    readObsBody.run { data := oldReport.payload } = .ok ((oldEnvelope, oldObservation), r) :=
  run_frameOf (reads_obsBody oldEnvelope (by decide)) (by decide +kernel) (by decide +kernel)

/-- The delayed REGISTER brings boot id 1 back, and its reports count again. -/
theorem delayed_register_readmits : ¬FencedOut (start (fun _ => ⟨1⟩) 1 none) delayed := by
  intro h
  have hsuperseded : [((⟨1⟩, ⟨1⟩) : Incarnation), (⟨1⟩, ⟨2⟩)].Sublist
      ((start (fun _ => ⟨1⟩) 1 none).introductions delayed) := by decide +kernel
  have hrefuses := h.superseded delayed List.prefix_rfl _ _ hsuperseded rfl (by decide)
  obtain ⟨r, hread⟩ := read_oldReport
  have haway := hrefuses (fun _ => ⟨1⟩) {} oldReport oldEnvelope oldObservation r rfl hread rfl rfl
  generalize hrun : (Machine.run step (start (fun _ => ⟨1⟩) 1 none) delayed).store = s at haway
  have hbefore : ((Machine.run step (start (fun _ => ⟨1⟩) 1 none)
      delayed).store.lastObservedGeneration.find? (toLex (⟨1⟩, ⟨1⟩))).isSome = false := by
    decide +kernel
  have hafter : ((Session.handleFrame (fun _ => ⟨1⟩) oldReport
      { store := (Machine.run step (start (fun _ => ⟨1⟩) 1 none) delayed).store
        connection := {} }).state.store.lastObservedGeneration.find?
          (toLex (⟨1⟩, ⟨1⟩))).isSome = true := by decide +kernel
  rw [hrun] at hbefore hafter
  rw [haway.1, hbefore] at hafter
  cases hafter

end Coordinator
end AcceleratorHealth
