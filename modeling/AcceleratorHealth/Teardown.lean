import AcceleratorHealth.Incarnations
import AcceleratorHealth.Withdrawal

/-! The end of a connection. A connection remembers one incarnation, the last one introduced
on it, and its teardown withdraws that one and no other. -/
namespace AcceleratorHealth
open Codec Wire

namespace HealthStore
open Locked

/-! ### The withdrawal of an incarnation -/

/-- No device is on record with evidence of the incarnation. -/
def Stripped (p : Incarnation) (s : HealthStore) : Prop :=
  ∀ k d, s.devices.find? k = some d → d.lastWorker = p.1 → d.lastWorkerBootId = p.2 →
    d.lastObservation = {}

/-- The incarnation is not registered, its observations are turned away, and its devices
are without evidence. -/
structure Withdrawn (p : Incarnation) (s : HealthStore) : Prop where
  current : s.isWorkerCurrent p.1 p.2 = false
  refuses : s.Refuses p
  stripped : s.Stripped p

theorem withdrawn_iff {p : Incarnation} {s : HealthStore} :
    s.Withdrawn p ↔ s.isWorkerCurrent p.1 p.2 = false ∧ s.Stripped p := by
  constructor
  · exact fun h => ⟨h.current, h.stripped⟩
  · rintro ⟨hcurrent, hstripped⟩
    exact ⟨hcurrent, refuses_of_not_current (by simp [hcurrent]), hstripped⟩

section Orphans
variable {clk : Readings} {worker : WorkerId} {boot : WorkerBootId}

/-- A turn of the withdrawal keeps the device's worker, and the evidence of another worker. -/
theorem orphan_record (clk : Readings) (worker : WorkerId) (boot : WorkerBootId) (l : Locked) :
    (orphan clk worker boot l).state.d.lastWorker = l.d.lastWorker ∧
      (orphan clk worker boot l).state.d.lastWorkerBootId = l.d.lastWorkerBootId ∧
      (orphan clk worker boot l).state.d.lastObservation =
        if l.d.lastWorker = worker ∧ l.d.lastWorkerBootId = boot then {}
        else l.d.lastObservation := by
  unfold orphan
  split_ifs
  · obtain ⟨hworker, hboot⟩ := lastWorker_reassessLocked clk (strip l)
    exact ⟨hworker, hboot, lastObservation_reassessLocked clk (strip l)⟩
  · exact ⟨rfl, rfl, rfl⟩

/-- Whether the evidence of another incarnation has been stripped does not change. -/
theorem stripped_orphans_iff (clk : Readings) {s : HealthStore} {p : Incarnation}
    (hne : p ≠ (worker, boot)) :
    (forDevices (fun i => orphan (clk.drop (2 * i)) worker boot) s).state.Stripped p ↔
      s.Stripped p := by
  have hbody : ∀ i l, Continues l (orphan (clk.drop (2 * i)) worker boot l).state :=
    fun i l => (advances_orphan _ worker boot l).continues
  have hkeeps : ∀ (i : Nat) (l : Locked), l.d.lastWorker = p.1 → l.d.lastWorkerBootId = p.2 →
      (orphan (clk.drop (2 * i)) worker boot l).state.d.lastObservation = l.d.lastObservation := by
    intro i l hworker hboot
    rw [(orphan_record _ worker boot l).2.2, if_neg]
    rintro ⟨hworker', hboot'⟩
    exact hne (Prod.ext (hworker.symm.trans hworker') (hboot.symm.trans hboot'))
  constructor
  · intro h k d hd hworker hboot
    obtain ⟨i, hturn⟩ := exists_turn hd
    rcases (looped_forDevices hbody s).inside k i d hturn hd with hkept | ⟨s₁, -, horphan⟩
    · exact h k d hkept hworker hboot
    · rw [← hkeeps i ⟨s₁, d⟩ hworker hboot]
      obtain ⟨hworker', hboot', -⟩ := orphan_record (clk.drop (2 * i)) worker boot
        ⟨s₁, d⟩
      exact h k _ horphan (hworker'.trans hworker) (hboot'.trans hboot)
  · intro h k d' hd' hworker hboot
    obtain ⟨d, i, hd, -, rfl | ⟨s₁, -, rfl⟩⟩ := forDevices_turn hbody hd'
    · exact h k d' hd hworker hboot
    · obtain ⟨hworker', hboot', -⟩ := orphan_record (clk.drop (2 * i)) worker boot
        ⟨s₁, d⟩
      rw [hworker'] at hworker
      rw [hboot'] at hboot
      rw [hkeeps i ⟨s₁, d⟩ hworker hboot]
      exact h k d hd hworker hboot

theorem stripped_invalidateWorker_iff {s : HealthStore} {p : Incarnation}
    (hne : p ≠ (worker, boot)) :
    (s.invalidateWorker clk worker boot).state.Stripped p ↔ s.Stripped p := by
  unfold invalidateWorker
  split_ifs
  · refine Iff.trans ?_ (stripped_orphans_iff clk hne)
    unfold Exit.andThen Exit.bind
    split <;> exact Iff.rfl
  · exact Iff.rfl

/-- The withdrawal of a registered incarnation succeeds exactly when it is whole. -/
theorem withdrawn_invalidateWorker_iff {s : HealthStore}
    (hcurrent : s.isWorkerCurrent worker boot) :
    (s.invalidateWorker clk worker boot).state.Withdrawn (worker, boot) ↔
      s.WithdrawsWhole clk worker boot := by
  rw [withdrawn_iff]
  constructor
  · rintro ⟨hgone, -⟩
    by_contra htorn
    rw [isWorkerCurrent, registry_of_torn htorn, ← isWorkerCurrent, hcurrent] at hgone
    cases hgone
  · intro hwhole
    obtain ⟨hregistry, hdevices⟩ := invalidateWorker_whole hcurrent hwhole
    constructor
    · rw [isWorkerCurrent, hregistry, OrdMap.find?_erase, if_pos rfl]
      rfl
    · intro k d' hd' hworker hboot
      obtain ⟨d, i, s₁, -, -, rfl⟩ := hdevices k d' hd'
      obtain ⟨hworker', hboot', hobs⟩ := orphan_record (clk.drop (2 * i)) worker boot
        ⟨s₁, d⟩
      rw [hobs, if_pos]
      exact ⟨hworker'.symm.trans hworker, hboot'.symm.trans hboot⟩

end Orphans
end HealthStore

/-- The teardown withdraws the incarnation that its connection remembers, where that is
registered and the withdrawal is whole; for any other it does nothing. -/
theorem Session.withdrawn_hangUp_iff {session : Session} {clk : Readings} {p : Incarnation} :
    (session.hangUp clk).state.Withdrawn p ↔
      session.connection = { worker := p.1, boot := p.2, haveWorker := true } ∧
          session.store.isWorkerCurrent p.1 p.2 ∧ session.store.WithdrawsWhole clk p.1 p.2 ∨
        session.store.isWorkerCurrent p.1 p.2 = false ∧ session.store.Stripped p := by
  by_cases hself : session.connection = { worker := p.1, boot := p.2, haveWorker := true }
  · have hhangUp : session.hangUp clk = session.store.invalidateWorker clk p.1 p.2 := by
      unfold Session.hangUp
      rw [hself]
      rfl
    rw [hhangUp]
    cases hcurrent : session.store.isWorkerCurrent p.1 p.2 with
    | true => simpa [hself] using HealthStore.withdrawn_invalidateWorker_iff hcurrent
    | false =>
      have hsame : session.store.invalidateWorker clk p.1 p.2 = .ok () session.store := by
        unfold HealthStore.invalidateWorker
        rw [hcurrent]
        rfl
      rw [hsame, Exit.ok_state, HealthStore.withdrawn_iff, hcurrent]
      simp
  · have hcurrent : (session.hangUp clk).state.isWorkerCurrent p.1 p.2 =
        session.store.isWorkerCurrent p.1 p.2 := by
      rw [Bool.eq_iff_iff]
      simp only [HealthStore.isWorkerCurrent, decide_eq_true_eq]
      exact ⟨Coordinator.registered_of_hangUp, fun h => Coordinator.registered_hangUp h hself⟩
    have hstripped : (session.hangUp clk).state.Stripped p ↔ session.store.Stripped p := by
      unfold Session.hangUp
      split_ifs with hworker
      · apply HealthStore.stripped_invalidateWorker_iff
        rintro rfl
        exact hself (by rw [← hworker])
      · exact Iff.rfl
    rw [HealthStore.withdrawn_iff, hcurrent, hstripped]
    simp [hself]

/-! ### What connections have registered -/

/-- What a connection that has registered these incarnations remembers of them. -/
def remembered (l : List Incarnation) : Connection :=
  match l.getLast? with
  | some p => { worker := p.1, boot := p.2, haveWorker := true }
  | none => {}

theorem remembered_append (l : List Incarnation) (o : Option Incarnation) :
    remembered (l ++ o.toList) = (remembered l).after o := by
  cases o with
  | none =>
    rw [Option.toList_none, List.append_nil]
    rfl
  | some p => simp [remembered, Connection.after]

theorem remembered_eq_iff {l : List Incarnation} {p : Incarnation} :
    remembered l = { worker := p.1, boot := p.2, haveWorker := true } ↔ l.getLast? = some p := by
  unfold remembered
  cases l.getLast? with
  | none => simp
  | some q => simp [Prod.ext_iff]

/-- The coordinator, and what each connection has registered since it was accepted. -/
structure Ledger where
  coordinator : Coordinator
  recorded : Nat → List Incarnation

namespace Ledger
open Coordinator

def start (clk : Readings) (epoch : UInt64) (file : Option (Option Bytes)) : Ledger where
  coordinator := Coordinator.start clk epoch file
  recorded _ := []

/-- The record of the event's connection, the event included. -/
def record (l : Ledger) (e : Timed) : List Incarnation :=
  match e.1 with
  | .accept _ => []
  | _ => l.recorded e.1.fd ++ (l.coordinator.introduction e).toList

def step (l : Ledger) (e : Timed) : Ledger where
  coordinator := l.coordinator.step e
  recorded := Function.update l.recorded e.1.fd (l.record e)

/-- Registered through the event's connection, and through no other that is open. -/
def Owes (l : Ledger) (e : Timed) (p : Incarnation) : Prop :=
  p ∈ l.record e ∧ ∀ fd, fd ≠ e.1.fd → (l.coordinator.connections.find? fd).isSome →
    p ∉ l.recorded fd

/-- A step that ends a connection withdraws all that only this connection has registered. -/
def Withdraws (l : Ledger) (e : Timed) : Prop :=
  (l.coordinator.ending e).isSome → ∀ p, l.Owes e p → (l.step e).coordinator.store.Withdrawn p

/-- All that only the ending connection has registered is the last that it has registered, is
still registered, and is withdrawn without a throw; or there is nothing of it left. -/
def Covered (l : Ledger) (e : Timed) : Prop :=
  ∀ fd session clk, l.coordinator.ending e = some (fd, session, clk) → ∀ p, l.Owes e p →
    (l.record e).getLast? = some p ∧ session.store.isWorkerCurrent p.1 p.2 ∧
        session.store.WithdrawsWhole clk p.1 p.2 ∨
      session.store.isWorkerCurrent p.1 p.2 = false ∧ session.store.Stripped p

/-- Every open connection remembers the last incarnation on its record. -/
def Remembers (l : Ledger) : Prop :=
  ∀ fd connection, l.coordinator.connections.find? fd = some connection →
    connection = remembered (l.recorded fd)

section Step
variable {l : Ledger} {e : Timed}

theorem record_of_ne (h : ∀ fd, e.1 ≠ .accept fd) :
    l.record e = l.recorded e.1.fd ++ (l.coordinator.introduction e).toList := by
  unfold record
  split
  next fd heq => exact absurd heq (h fd)
  next => rfl

theorem recorded_step_self : (l.step e).recorded e.1.fd = l.record e :=
  Function.update_self ..

theorem recorded_step_of_ne {fd : Nat} (h : fd ≠ e.1.fd) :
    (l.step e).recorded fd = l.recorded fd := Function.update_of_ne h ..

theorem connection_of_ending (hl : l.Remembers) {fd : Nat} {session : Session} {clk : Readings}
    (h : l.coordinator.ending e = some (fd, session, clk)) :
    session.connection = remembered (l.record e) := by
  obtain ⟨rfl, haccept, connection, hfd, hhandles⟩ := handles_of_ending h
  rw [record_of_ne haccept, remembered_append, hhandles.connection, hl _ _ hfd]

theorem remembers_step (hl : l.Remembers) : (l.step e).Remembers := by
  intro fd connection hfd
  change (l.coordinator.step e).connections.find? fd = some connection at hfd
  have hother : fd ≠ e.1.fd → l.coordinator.connections.find? fd = some connection →
      connection = remembered ((l.step e).recorded fd) := by
    intro hne hold
    rw [recorded_step_of_ne hne]
    exact hl fd connection hold
  have hinsert : ∀ connection', connection' = remembered (l.record e) →
      (l.coordinator.connections.insert e.1.fd connection').find? fd = some connection →
        connection = remembered ((l.step e).recorded fd) := by
    intro connection' hnew hfind
    rw [OrdMap.find?_insert] at hfind
    split_ifs at hfind with heq
    · cases hfind
      rw [heq, recorded_step_self]
      exact hnew
    · exact hother heq hfind
  cases hending : l.coordinator.ending e with
  | some ended =>
    obtain ⟨fd', session, clk⟩ := ended
    obtain ⟨rfl, -⟩ := handles_of_ending hending
    rw [step_of_ending hending] at hfd
    obtain ⟨hne, hold⟩ := find?_of_hangUp hfd
    exact hother hne hold
  | none =>
    rcases step_of_serving hending with ⟨fd', he, -, hstep⟩ | ⟨fd', frame, connection', session,
      he, hfd', hhandles, hstep⟩ | ⟨haccept, hnone, hstep⟩
    · -- the event opens a connection, and its record starts anew
      rw [hstep] at hfd
      have hrecord : l.record e = [] := by
        unfold record
        rw [he]
      refine hinsert {} (by rw [hrecord]; rfl) ?_
      rw [he]
      exact hfd
    · rw [hstep] at hfd
      have hself : e.1.fd = fd' := by
        rw [he]
        rfl
      refine hinsert session.connection ?_ (hself ▸ hfd)
      rw [record_of_ne (by simp [he]), remembered_append, hhandles.connection, hself,
        hl fd' connection' hfd']
    · rw [hstep] at hfd
      by_cases heq : fd = e.1.fd
      · rw [heq, recorded_step_self, record_of_ne haccept, hnone, remembered_append, ← heq]
        exact hl fd connection hfd
      · exact hother heq hfd

end Step

/-- Teardowns withdraw all that they owe in exactly the runs whose teardowns are covered. -/
theorem withdraws_iff_covered (clk : Readings) (epoch : UInt64) (file : Option (Option Bytes))
    (events : List Timed) :
    Machine.Along step Withdraws (start clk epoch file) events ↔
      Machine.Along step Covered (start clk epoch file) events := by
  apply Machine.along_iff_of_invariant (fun l e => remembers_step (l := l) (e := e))
  · intro l e hl
    unfold Withdraws Covered
    cases hending : l.coordinator.ending e with
    | none => simp
    | some ended =>
      obtain ⟨fd, session, clk⟩ := ended
      have hiff : ∀ p, (l.step e).coordinator.store.Withdrawn p ↔
          (l.record e).getLast? = some p ∧ session.store.isWorkerCurrent p.1 p.2 ∧
              session.store.WithdrawsWhole clk p.1 p.2 ∨
            session.store.isWorkerCurrent p.1 p.2 = false ∧ session.store.Stripped p := by
        intro p
        change (l.coordinator.step e).store.Withdrawn p ↔ _
        rw [step_of_ending hending, store_hangUp, Session.withdrawn_hangUp_iff,
          connection_of_ending hl hending, remembered_eq_iff]
      simp only [Option.isSome_some, forall_const, hiff, Option.some.injEq, Prod.mk.injEq]
      constructor
      · rintro h _ _ _ ⟨rfl, rfl, rfl⟩
        exact h
      · exact fun h => h fd session clk ⟨rfl, rfl, rfl⟩
  · intro fd connection hfd
    have hnone : (Coordinator.start clk epoch file).connections = .empty := by
      unfold Coordinator.start
      cases file <;> rfl
    change (Coordinator.start clk epoch file).connections.find? fd = some connection at hfd
    rw [hnone] at hfd
    cases hfd

/-- Two workers introduce themselves on one connection. -/
def shared : List Timed :=
  let register (worker : WorkerId) (boot : WorkerBootId) : Frame :=
    frameOf .register (regBody { worker, boot } [])
  let events : List Event :=
    [.accept 3, .receive 3 (register ⟨1⟩ ⟨1⟩), .receive 3 (register ⟨2⟩ ⟨2⟩)]
  events.map fun e => (e, fun _ => ⟨1⟩, fun _ => ⟨1⟩)

/-- Its end leaves the first of them registered. -/
theorem shared_connection_leaves_worker :
    ¬Machine.Along step Withdraws (start (fun _ => ⟨1⟩) 1 none)
      (shared ++ [(.hangUp 3, fun _ => ⟨1⟩, fun _ => ⟨1⟩)]) := by
  intro h
  obtain ⟨-, hwithdraws, -⟩ := Machine.along_append.mp h
  have hends : ((Machine.run step (start (fun _ => ⟨1⟩) 1 none) shared).coordinator.ending
      (.hangUp 3, fun _ => ⟨1⟩, fun _ => ⟨1⟩)).isSome := by decide +kernel
  have hrecorded : ((⟨1⟩, ⟨1⟩) : Incarnation) ∈ (Machine.run step (start (fun _ => ⟨1⟩) 1 none)
      shared).record (.hangUp 3, fun _ => ⟨1⟩, fun _ => ⟨1⟩) := by decide +kernel
  have honly : (Machine.run step (start (fun _ => ⟨1⟩) 1 none)
      shared).coordinator.connections.keys = [3] := by decide +kernel
  have hcurrent : ((Machine.run step (start (fun _ => ⟨1⟩) 1 none) shared).step
      (.hangUp 3, fun _ => ⟨1⟩, fun _ => ⟨1⟩)).coordinator.store.isWorkerCurrent ⟨1⟩ ⟨1⟩ =
        true := by decide +kernel
  have hwithdrawn := hwithdraws hends (⟨1⟩, ⟨1⟩) ⟨hrecorded, fun fd hne hopen => by
    have hmem := OrdMap.mem_keys_iff.mpr (Option.isSome_iff_exists.mp hopen)
    rw [honly, List.mem_singleton] at hmem
    exact absurd hmem hne⟩
  rw [hwithdrawn.current] at hcurrent
  cases hcurrent

end Ledger
end AcceleratorHealth
