import AcceleratorHealth.Incarnations
import AcceleratorHealth.Reloading

/-! Restarts of the coordinator. Each lifetime is given its epoch on the command line, and
an image that it loads replaces this epoch by the one it was saved under. -/
namespace AcceleratorHealth
open Codec Wire

namespace Persistence

/-- The epoch in the header of the image that is loaded, if there is one. -/
def imageEpoch (file : Option (Option Bytes)) : Option UInt64 :=
  file.join.bind fun data => (header data).map fun h => h.1.epoch

theorem coordinatorEpoch_decode (data : Bytes) (out : HealthStore) :
    (decodeStateInternal data out).state.coordinatorEpoch =
      (imageEpoch (some (some data))).getD out.coordinatorEpoch := by
  change _ = ((header data).map fun h => h.1.epoch).getD out.coordinatorEpoch
  generalize hx : decodeStateInternal data out = x
  have hcases := hx ▸ decode_cases data out
  cases hcases with
  | refusedEarly hh =>
    rw [hh]
    rfl
  | refusedLate hh =>
    rw [hh]
    rfl
  | accepted hh hl =>
    rw [Exit.ok_state, (finishLoad_fields _).2.2.2.2, hl, hh]
    rfl

theorem coordinatorEpoch_load (clk : Readings) (contents : Option Bytes) (out : HealthStore) :
    (loadInternal clk contents out).state.coordinatorEpoch =
      (imageEpoch (some contents)).getD out.coordinatorEpoch := by
  cases contents with
  | none => rfl
  | some data =>
    refine loadInternal_leaves (P := fun s => s.coordinatorEpoch =
      (imageEpoch (some (some data))).getD out.coordinatorEpoch)
      (fun _ => coordinatorEpoch_decode data out) fun _ => ?_
    rw [(HealthStore.reassessAll_evolves clk _).coordinatorEpoch]
    exact coordinatorEpoch_decode data out

end Persistence

namespace Coordinator
open Persistence

/-- The epoch in force after the start is the image's, where there is one. -/
theorem coordinatorEpoch_start (clk : Readings) (epoch : UInt64) (file : Option (Option Bytes)) :
    (start clk epoch file).store.coordinatorEpoch = (imageEpoch file).getD epoch := by
  unfold start
  cases file with
  | none => rfl
  | some contents => exact coordinatorEpoch_load clk contents _

theorem coordinatorEpoch_run (c : Coordinator) (events : List Timed) :
    (Machine.run step c events).store.coordinatorEpoch = c.store.coordinatorEpoch := by
  induction events generalizing c with
  | nil => rfl
  | cons e rest ih =>
    rw [Machine.run_cons, ih]
    exact coordinatorEpoch_step c e

end Coordinator

namespace HealthStore
open Locked

/-- Where the epoch of its envelope is in force, a report is not rejected for its epoch. -/
theorem acceptObservation_of_epoch {s : HealthStore} {env : AuthorityEnvelope}
    (h : env.coordinatorEpoch = s.coordinatorEpoch) (clk : Readings)
    (obs : AcceleratorObservation) :
    (s.acceptObservation clk obs env).result ≠ .ok "rejected: stale coordinator epoch" := by
  unfold acceptObservation
  cases hd : s.devices.find? obs.accelerator with
  | none =>
    rw [onDevice_none hd]
    intro heq
    exact absurd (Except.ok.inj heq) (by decide)
  | some d =>
    rw [onDevice_some hd, Exit.mapState_result]
    unfold Locked.acceptObservation
    cases hfence : fence env ⟨s, d⟩ with
    | some text =>
      intro heq
      have htext : text = "rejected: stale coordinator epoch" := Except.ok.inj heq
      unfold fence at hfence
      rw [if_neg (not_not.mpr h)] at hfence
      revert htext
      split at hfence
      · cases hfence
        decide
      · split_ifs at hfence <;> cases hfence <;> decide
    | none =>
      unfold Exit.andThen Exit.bind
      simp only
      split
      · intro heq
        exact absurd (Except.ok.inj heq) (by decide)
      · intro heq
        cases heq

end HealthStore

/-! ### Lifetimes -/

/-- One coordinator process: its command line, what `--load` finds, and what happens to it. -/
structure Lifetime where
  clk : Readings
  epoch : UInt64
  file : Option (Option Bytes) := none
  events : List Coordinator.Timed := []

namespace Lifetime
open Persistence Coordinator

/-- The coordinator after some of the lifetime's events. -/
def after (l : Lifetime) (past : List Timed) : Coordinator :=
  Machine.run step (start l.clk l.epoch l.file) past

/-- On a snapshot request the lifetime has written the image to the state file. -/
def Saves (l : Lifetime) (data : Bytes) : Prop :=
  ∃ past fd frame clk clk', past ++ [(.receive fd frame, clk, clk')] <+: l.events ∧
    frame.type = .snapshotRequest ∧ ((l.after past).connections.find? fd).isSome ∧
    encodeStateInternal (l.after past).store = .ok data

/-- Lifetimes one after another: the epochs never decrease, and each image that is loaded
was saved by an earlier one. -/
structure Lawful (lives : List Lifetime) : Prop where
  epochs : lives.Pairwise fun l l' => l.epoch ≤ l'.epoch
  images : ∀ earlier l later, lives = earlier ++ l :: later → ∀ data,
    l.file = some (some data) → ∃ l' ∈ earlier, l'.Saves data

/-- The epoch in force is not below any that was given so far; an observation from below one
of these is turned away, and one from the epoch last given is not rejected for its epoch. -/
structure Fences (earlier : List Lifetime) (l : Lifetime) (past : List Timed) : Prop where
  inForce : ∀ l' ∈ earlier ++ [l], l'.epoch ≤ (l.after past).store.coordinatorEpoch
  stale : ∀ l' ∈ earlier ++ [l], ∀ clk connection frame env obs r, frame.type = .observation →
    readObsBody.run { data := frame.payload } = .ok ((env, obs), r) →
    env.coordinatorEpoch < l'.epoch →
      Session.TurnsAway clk frame { store := (l.after past).store, connection }
  current : ∀ clk obs env, env.coordinatorEpoch = l.epoch →
    ((l.after past).store.acceptObservation clk obs env).result ≠
      .ok "rejected: stale coordinator epoch"

/-- Every lifetime fences at every point. -/
def EpochFenced (lives : List Lifetime) : Prop :=
  ∀ earlier l later, lives = earlier ++ l :: later → ∀ past, past <+: l.events →
    l.Fences earlier past

/-- The image that is loaded, if any, was not saved under an epoch below the given one. -/
def LoadsCurrent (l : Lifetime) : Prop := ∀ epoch, imageEpoch l.file = some epoch → l.epoch ≤ epoch

section Chain
variable {lives earlier later : List Lifetime} {l : Lifetime}

theorem coordinatorEpoch_after (l : Lifetime) (past : List Timed) :
    (l.after past).store.coordinatorEpoch = (imageEpoch l.file).getD l.epoch := by
  unfold after
  rw [coordinatorEpoch_run, coordinatorEpoch_start]

/-- A saved image has the epoch that was in force. -/
theorem Saves.imageEpoch_eq {data : Bytes} (h : l.Saves data) {epoch : UInt64}
    (himage : imageEpoch (some (some data)) = some epoch) :
    (imageEpoch l.file).getD l.epoch = epoch := by
  obtain ⟨past, -, -, -, -, -, -, -, hdata⟩ := h
  obtain ⟨⟨header, r⟩, hh, rfl⟩ := Option.map_eq_some_iff.mp himage
  rw [headerOf_of_encoded hdata hh]
  exact (coordinatorEpoch_after l past).symm

theorem Lawful.epoch_le (h : Lawful lives) (hsplit : lives = earlier ++ l :: later) :
    ∀ l' ∈ earlier ++ [l], l'.epoch ≤ l.epoch := by
  have hpairs := h.epochs
  rw [hsplit, List.pairwise_append] at hpairs
  rw [List.forall_mem_append, List.forall_mem_singleton]
  exact ⟨fun l' hl' => hpairs.2.2 l' hl' l List.mem_cons_self, UInt64.le_refl _⟩

/-- Along lifetimes that load nothing from below their epochs, each has its own in force. -/
theorem Lawful.inForce (h : Lawful lives) (hloads : ∀ l ∈ lives, l.LoadsCurrent)
    (hsplit : lives = earlier ++ l :: later) : (imageEpoch l.file).getD l.epoch = l.epoch := by
  induction hlen : earlier.length using Nat.strong_induction_on generalizing earlier l later with
  | _ n ih =>
    cases himage : imageEpoch l.file with
    | none => rfl
    | some epoch =>
      obtain ⟨data, hfile⟩ : ∃ data, l.file = some (some data) := by
        unfold imageEpoch at himage
        obtain ⟨data, hjoin, -⟩ := Option.bind_eq_some_iff.mp himage
        exact ⟨data, Option.join_eq_some_iff.mp hjoin⟩
      obtain ⟨l', hl', hsaves⟩ := h.images earlier l later hsplit data hfile
      have hsaved := hsaves.imageEpoch_eq (hfile ▸ himage)
      obtain ⟨before, between, rfl⟩ := List.append_of_mem hl'
      have hown : (imageEpoch l'.file).getD l'.epoch = l'.epoch := by
        have hshorter : before.length < n := by
          rw [← hlen, List.length_append, List.length_cons]
          omega
        have hbefore : lives = before ++ l' :: (between ++ l :: later) := by
          rw [hsplit, List.append_assoc, List.cons_append]
        exact ih before.length hshorter hbefore rfl
      have hle : epoch ≤ l.epoch := by
        rw [← hsaved, hown]
        exact h.epoch_le hsplit l' (by simp)
      have hge : l.epoch ≤ epoch := hloads l (by simp [hsplit]) epoch himage
      exact UInt64.le_antisymm hle hge

/-- The epoch fence survives exactly those restarts that load no image from below the epoch
of the command line. -/
theorem epochFenced_iff (h : Lawful lives) :
    EpochFenced lives ↔ ∀ l ∈ lives, l.LoadsCurrent := by
  constructor
  · intro hfenced l hl epoch himage
    obtain ⟨earlier, later, hsplit⟩ := List.append_of_mem hl
    have hstart := (hfenced earlier l later hsplit [] List.nil_prefix).inForce l (by simp)
    rw [coordinatorEpoch_after, himage] at hstart
    exact hstart
  · intro hloads earlier l later hsplit past _
    have hown : (l.after past).store.coordinatorEpoch = l.epoch := by
      rw [coordinatorEpoch_after]
      exact h.inForce hloads hsplit
    constructor
    · rw [hown]
      exact h.epoch_le hsplit
    · intro l' hl' clk connection frame env obs r htype hread hbelow
      apply HealthStore.turnsAway_of_fenced _ htype hread
      intro d hfence
      have hepoch := (Locked.fence_eq_none hfence).1
      change env.coordinatorEpoch = (l.after past).store.coordinatorEpoch at hepoch
      rw [hepoch, hown] at hbelow
      exact absurd (h.epoch_le hsplit l' hl') (UInt64.not_le.mpr hbelow)
    · intro clk obs env hepoch
      exact HealthStore.acceptObservation_of_epoch (hepoch.trans hown.symm) clk obs

end Chain

/-- A first lifetime at epoch 1 that is asked for a snapshot. -/
def first : Lifetime where
  clk := fun _ => ⟨1⟩
  epoch := 1
  events :=
    [(.accept 3, fun _ => ⟨1⟩, fun _ => ⟨1⟩),
      (.receive 3 { type := .snapshotRequest }, fun _ => ⟨1⟩, fun _ => ⟨1⟩)]

/-- The next lifetime loads what the first has saved. -/
def resumed (epoch : UInt64) (data : Bytes) : List Lifetime :=
  [first, { clk := fun _ => ⟨2⟩, epoch, file := some (some data) }]

theorem exists_image : ∃ data, first.Saves data ∧ imageEpoch (some (some data)) = some 1 := by
  have hsound : (HealthStore.init { id := ⟨1⟩ } 1).Sound :=
    HealthStore.reachable_sound ⟨_, 1, [], rfl⟩
  obtain ⟨data, hdata, hok⟩ := hsound.reloads
    ⟨by decide +kernel, by decide +kernel, by decide +kernel, by decide +kernel⟩
    (HealthStore.init {} 0)
  refine ⟨data, ⟨[(.accept 3, fun _ => ⟨1⟩, fun _ => ⟨1⟩)], 3, { type := .snapshotRequest }, _, _,
    List.prefix_rfl, rfl, rfl, hdata⟩, ?_⟩
  obtain ⟨⟨h, r⟩, hh⟩ := Option.isSome_iff_exists.mp (header_of_ok hok)
  change (header data).map (fun h => h.1.epoch) = some 1
  rw [hh, headerOf_of_encoded hdata hh]
  rfl

theorem lawful_resumed {epoch : UInt64} {data : Bytes} (hle : 1 ≤ epoch)
    (hsaves : first.Saves data) : Lawful (resumed epoch data) := by
  constructor
  · have hfirst : first.epoch ≤ epoch := hle
    simpa [resumed] using hfirst
  · intro earlier l later hsplit data' hfile
    rcases earlier with _ | ⟨l', _ | ⟨l'', rest⟩⟩
    · cases hsplit
      cases hfile
    · cases hsplit
      cases hfile
      exact ⟨first, List.mem_singleton_self _, hsaves⟩
    · simp [resumed] at hsplit

theorem epochFenced_resumed : ∃ data, first.Saves data ∧ EpochFenced (resumed 1 data) := by
  obtain ⟨data, hsaves, himage⟩ := exists_image
  refine ⟨data, hsaves, (epochFenced_iff (lawful_resumed (UInt64.le_refl 1) hsaves)).mpr ?_⟩
  intro l hl epoch hepoch
  simp only [resumed, List.mem_cons, List.not_mem_nil, or_false] at hl
  rcases hl with rfl | rfl
  · cases hepoch
  · rw [himage] at hepoch
    cases hepoch
    exact UInt64.le_refl 1

/-- Restarted at epoch 2 with the image of epoch 1, the coordinator is back at epoch 1. -/
theorem loaded_image_lowers_epoch : ∃ data, Lawful (resumed 2 data) ∧
    ¬EpochFenced (resumed 2 data) := by
  obtain ⟨data, hsaves, himage⟩ := exists_image
  refine ⟨data, lawful_resumed (by decide) hsaves, fun h => ?_⟩
  have hstart := (h [first] _ [] rfl [] List.nil_prefix).inForce _
    (List.mem_append_right _ (List.mem_singleton_self _))
  rw [coordinatorEpoch_after, himage] at hstart
  have hle : (2 : UInt64) ≤ 1 := hstart
  exact absurd hle (by decide)

end Lifetime
end AcceleratorHealth
