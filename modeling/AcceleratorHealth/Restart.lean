import AcceleratorHealth.Evidence
import AcceleratorHealth.Standing
import AcceleratorHealth.Fencing
import AcceleratorHealth.Views

/-! Restarts. What an image says of a device is not to be trusted until the device is
observed again. The marker that says so is read by one branch of the readiness rules and
not by the other: a device whose evidence asks for DEGRADED is ready without it. -/
namespace AcceleratorHealth

/-- Not ready, with evidence that is from before a restart, or with none. -/
structure Device.Distrusted (d : Device) : Prop where
  claims : d.claimsReady = false
  evidence : d.requiresRevalidation = true ∨ d.lastObservation.nanos = 0

theorem Device.Distrusted.of_standing {d d' : Device} (h : d.Distrusted)
    (hstanding : d'.standing = d.standing) : d'.Distrusted := by
  have hobs : d'.lastObservation = d.lastObservation := congrArg Standing.lastObservation hstanding
  have hrequires : d'.requiresRevalidation = d.requiresRevalidation :=
    congrArg Standing.requiresRevalidation hstanding
  have hready : d'.readiness = d.readiness := congrArg Standing.readiness hstanding
  have hassessed : d'.latestAssessment = d.latestAssessment :=
    congrArg Standing.latestAssessment hstanding
  constructor
  · unfold Device.claimsReady
    rw [hready, hassessed]
    exact h.claims
  · rw [hobs, hrequires]
    exact h.evidence

namespace Locked

/-- Without evidence no branch leads to readiness. -/
theorem isOld_of_none {policy : HealthPolicy} {t now : Timestamp} (h : t.nanos = 0) :
    (policy.freshnessOf t now).isOld = true := by
  unfold HealthPolicy.freshnessOf
  rw [if_neg (not_not.mpr h)]
  rfl

theorem not_degradedReady_strip {now : Timestamp} {l : Locked} :
    ¬DegradedReady now (strip l) := by
  intro h
  have hold : ((strip l).store.policy.freshnessOf {} now).isOld = false := h.fresh
  rw [isOld_of_none rfl] at hold
  cases hold

/-- A reassessment that does not take the DEGRADED branch leaves a device distrusted. -/
theorem distrusted_reassessLocked (clk : Readings) {m : Locked}
    (hevidence : m.d.requiresRevalidation = true ∨ m.d.lastObservation.nanos = 0)
    (hbranch : m.d.requiresRevalidation = true → ¬DegradedReady (clk 0) m) :
    (reassessLocked clk m).Sat (fun _ l' => l'.d.Distrusted)
      fun _ l' => l'.d.standing = m.d.standing := by
  refine (reassessLocked_verdict clk m).mono (fun _ l' h => ?_) fun _ _ h => h
  constructor
  · rw [Bool.eq_false_iff]
    intro hclaims
    rcases hevidence with hrequires | hnone
    · exact hbranch hrequires (h.trusted hclaims hrequires)
    · have hfresh := h.fresh hclaims
      rw [isOld_of_none hnone] at hfresh
      cases hfresh
  · rw [h.requiresRevalidation, h.lastObservation]
    exact hevidence

end Locked

namespace HealthStore
open Locked Persistence

/-- An observation of the device `k` is accepted. -/
def AcceptsFor (k : AcceleratorId) (s : HealthStore) (c : Call) : Prop :=
  ∃ obs env, obs.accelerator = k ∧ s.Accepts c obs env

/-- An observation of the device `k` passes the fence. -/
def PassesFor (k : AcceleratorId) (s : HealthStore) (c : Call) : Prop :=
  ∃ obs env d, c.op = .acceptObservation obs env ∧ obs.accelerator = k ∧
    s.devices.find? k = some d ∧ fence env ⟨s, d⟩ = none

/-- An observation of the device `k` that passes the fence does not find it due a transition
at its last health generation. -/
def TakesWhole (k : AcceleratorId) (s : HealthStore) (c : Call) : Prop :=
  ∀ obs env d, c.op = .acceptObservation obs env → obs.accelerator = k →
    s.devices.find? k = some d → fence env ⟨s, d⟩ = none →
      ¬Tears (c.clk 0) (takeObservation obs env ⟨s, d⟩)

theorem healthGeneration_takeObservation {obs : AcceleratorObservation} {env : AuthorityEnvelope}
    {l : Locked} : (takeObservation obs env l).d.healthGeneration = l.d.healthGeneration := by
  unfold takeObservation
  simp only
  split_ifs <;> rfl

theorem accepts_of_whole {s : HealthStore} {c : Call} {obs : AcceleratorObservation}
    {env : AuthorityEnvelope} {d : Device} (hop : c.op = .acceptObservation obs env)
    (hd : s.devices.find? obs.accelerator = some d) (hfence : fence env ⟨s, d⟩ = none)
    (hwhole : ¬Tears (c.clk 0) (takeObservation obs env ⟨s, d⟩)) : s.Accepts c obs env := by
  refine ⟨hop, ?_⟩
  have hreturns := reassessLocked_returns_iff.mpr hwhole
  unfold exec
  simp only [hop]
  unfold HealthStore.acceptObservation
  rw [onDevice_some hd]
  unfold Locked.acceptObservation
  rw [hfence]
  simp only
  unfold Exit.andThen Exit.bind
  rw [hreturns]
  rfl

theorem TakesWhole.acceptsFor {k : AcceleratorId} {s : HealthStore} {c : Call}
    (h : s.TakesWhole k c) (hpasses : s.PassesFor k c) : s.AcceptsFor k c := by
  obtain ⟨obs, env, d, hop, rfl, hd, hfence⟩ := hpasses
  exact ⟨obs, env, rfl, accepts_of_whole hop hd hfence (h obs env d hop rfl hd hfence)⟩

/-- No reassessment that the call makes of the device `k` has it ready by the DEGRADED
branch while the marker of a restart is on it. -/
def Spares (k : AcceleratorId) (s : HealthStore) (c : Call) : Prop :=
  ∀ d l clk m, s.devices.find? k = some d → d.requiresRevalidation = true → l.d = d →
    l.store.policy = c.op.policyIn s → Enters s c k l clk m → ¬DegradedReady (clk 0) m

theorem Outcome.distrusted {s : HealthStore} {c : Call} {k : AcceleratorId} {d d' : Device}
    (h : Outcome s c k d d') (hd : s.devices.find? k = some d) (hw : d.Distrusted)
    (hnone : ¬s.PassesFor k c) (hspares : s.Spares k c) : d'.Distrusted := by
  cases h with
  | kept hstanding => exact hw.of_standing hstanding
  | @judged l m clk device policy enters returns eq =>
    have hobs : m.d.lastObservation = d.lastObservation := by
      rw [← device]
      exact congrArg Standing.lastObservation enters.standing
    have hrequires : m.d.requiresRevalidation = d.requiresRevalidation := by
      rw [← device]
      exact congrArg Standing.requiresRevalidation enters.standing
    rw [eq]
    refine (Exit.sat_iff.mp (distrusted_reassessLocked clk ?_ fun hm => ?_)).1 () returns
    · rw [hobs, hrequires]
      exact hw.evidence
    · exact hspares d l clk m hd (hrequires ▸ hm) device policy enters
  | observed op target passed => exact absurd ⟨_, _, d, op, target, hd, passed⟩ hnone
  | @stripped l _ _ i _ _ _ device _ _ eq =>
    rw [eq]
    have hstrip : (strip l).d.Distrusted := ⟨by
      rw [← device] at hw
      exact hw.claims, Or.inr rfl⟩
    have hverdict := distrusted_reassessLocked (c.clk.drop (2 * i)) (m := strip l)
      (Or.inr rfl) fun _ => not_degradedReady_strip
    exact (hverdict.mono (S := fun _ l' => l'.d.Distrusted) (T := fun _ l' => l'.d.Distrusted)
      (fun _ _ h => h) fun _ l' h => hstrip.of_standing h).state

theorem distrusted_newDevice (now : Timestamp) (id : AcceleratorId) (uuid : DeviceUuid)
    (node : NodeId) : (newDevice now id uuid node).Distrusted := ⟨rfl, Or.inr rfl⟩

/-! ### The load -/

/-- The reassessments after a load meet no device due a transition at its last health
generation. -/
def ReassessesWhole (clk : Readings) (s : HealthStore) : Prop :=
  ∀ k i d, (k, i) ∈ s.devices.keys.zipIdx → s.devices.find? k = some d →
    ¬Tears ((clk.drop (2 * i)) 0) ⟨s, d⟩

theorem reassessAll_returns_iff {clk : Readings} {s : HealthStore} :
    (s.reassessAll clk).result = .ok () ↔ s.ReassessesWhole clk := by
  unfold reassessAll
  rw [forDevices_returns_iff fun i l => (advances_reassessLocked (clk.drop (2 * i)) l).continues]
  · unfold ReassessesWhole
    simp only [reassessLocked_returns_iff]
  · intro i d s₁ hs₁
    rw [reassessLocked_returns_iff, reassessLocked_returns_iff]
    exact not_congr (tears_congr rfl hs₁.policy)

/-- The reassessment after a load does not have the device `k` ready by the DEGRADED
branch. -/
def SparesRestored (k : AcceleratorId) (clk : Readings) (s : HealthStore) : Prop :=
  ∀ i d, (k, i) ∈ s.devices.keys.zipIdx → s.devices.find? k = some d →
    ¬DegradedReady ((clk.drop (2 * i)) 0) ⟨s, d⟩

/-- An accepted file: its image is decoded, and the reassessments return. -/
theorem load_accepted_iff {clk : Readings} {data : Bytes} {out : HealthStore} :
    (loadInternal clk (some data) out).result = .ok (.ok ()) ↔
      (decodeStateInternal data out).result = .ok () ∧
        (distrust (decodeStateInternal data out).state).ReassessesWhole clk := by
  rw [← reassessAll_returns_iff]
  cases hdecoded : (decodeStateInternal data out).result with
  | error e =>
    rw [loadInternal_of_error hdecoded]
    simp [Exit.ok]
  | ok u =>
    rw [loadInternal_of_ok hdecoded]
    unfold Exit.andThen Exit.bind
    cases hres : ((distrust (decodeStateInternal data out).state).reassessAll clk).result with
    | error e => simp
    | ok u => simp

/-- An accepted file with room for a transition on every device reassesses them all. -/
theorem load_of_room {clk : Readings} {data : Bytes} {s : HealthStore}
    (hok : (decodeStateInternal data s).result = .ok ())
    (hroom : ∀ r ∈ records data, r.healthGeneration ≠ .last) :
    (loadInternal clk (some data) s).result = .ok (.ok ()) := by
  refine load_accepted_iff.mpr ⟨hok, fun k i d _ hd htears => ?_⟩
  obtain ⟨d₀, hd₀, rfl⟩ := find?_distrust hd
  exact hroom d₀ (decode_device_of_ok hok hd₀) htears.2

theorem load_state {clk : Readings} {data : Bytes} {out : HealthStore}
    (haccepted : (loadInternal clk (some data) out).result = .ok (.ok ())) :
    (loadInternal clk (some data) out).state =
      ((distrust (decodeStateInternal data out).state).reassessAll clk).state := by
  have hok := (load_accepted_iff.mp haccepted).1
  exact loadInternal_leaves (P := fun t =>
    t = ((distrust (decodeStateInternal data out).state).reassessAll clk).state)
    (fun hrefused => absurd hok hrefused) fun _ => rfl

/-- After an accepted file each device is as its own reassessment has left it. -/
theorem load_at_turn {clk : Readings} {data : Bytes} {out : HealthStore} {k : AcceleratorId}
    {d : Device} {i : Nat} (haccepted : (loadInternal clk (some data) out).result = .ok (.ok ()))
    (hturn : (k, i) ∈ (distrust (decodeStateInternal data out).state).devices.keys.zipIdx)
    (hd : (distrust (decodeStateInternal data out).state).devices.find? k = some d) :
    ∃ s₁, (distrust (decodeStateInternal data out).state).Evolves s₁ ∧
      (reassessLocked (clk.drop (2 * i)) ⟨s₁, d⟩).result = .ok () ∧
      (loadInternal clk (some data) out).state.devices.find? k =
        some (reassessLocked (clk.drop (2 * i)) ⟨s₁, d⟩).state.d := by
  have hreturns := reassessAll_returns_iff.mpr (load_accepted_iff.mp haccepted).2
  rw [load_state haccepted]
  exact (looped_forDevices (fun i l =>
    (advances_reassessLocked (clk.drop (2 * i)) l).continues) _).completed hreturns k i d hturn hd

theorem load_turn {clk : Readings} {data : Bytes} {out : HealthStore} {k : AcceleratorId}
    {d : Device} (haccepted : (loadInternal clk (some data) out).result = .ok (.ok ()))
    (hd : (distrust (decodeStateInternal data out).state).devices.find? k = some d) :
    ∃ i s₁, (k, i) ∈ (distrust (decodeStateInternal data out).state).devices.keys.zipIdx ∧
      (distrust (decodeStateInternal data out).state).Evolves s₁ ∧
      (reassessLocked (clk.drop (2 * i)) ⟨s₁, d⟩).result = .ok () ∧
      (loadInternal clk (some data) out).state.devices.find? k =
        some (reassessLocked (clk.drop (2 * i)) ⟨s₁, d⟩).state.d := by
  obtain ⟨i, hturn⟩ := exists_turn hd
  obtain ⟨s₁, hs₁, hres, hfind⟩ := load_at_turn haccepted hturn hd
  exact ⟨i, s₁, hturn, hs₁, hres, hfind⟩

/-- No device that the DEGRADED branch spares is ready after an accepted file. -/
theorem load_distrusted {clk : Readings} {data : Bytes} {out : HealthStore} {k : AcceleratorId}
    (haccepted : (loadInternal clk (some data) out).result = .ok (.ok ()))
    (hspares : (distrust (decodeStateInternal data out).state).SparesRestored k clk) :
    ∀ d', (loadInternal clk (some data) out).state.devices.find? k = some d' →
      d'.Distrusted := by
  intro d' hk
  obtain ⟨d, hd, -⟩ := reassessAll_device (load_state haccepted ▸ hk)
  obtain ⟨i, s₁, hturn, hs₁, hres, hfind⟩ := load_turn haccepted hd
  cases hk.symm.trans hfind
  have hrequires : d.requiresRevalidation = true := by
    obtain ⟨d₀, -, heq⟩ := find?_distrust hd
    rw [heq]
  have hbranch : ¬DegradedReady ((clk.drop (2 * i)) 0) ⟨s₁, d⟩ := by
    have hcongr : DegradedReady ((clk.drop (2 * i)) 0) ⟨s₁, d⟩ ↔
        DegradedReady ((clk.drop (2 * i)) 0) ⟨distrust (decodeStateInternal data out).state, d⟩ :=
      degradedReady_congr rfl hs₁.policy
    rw [hcongr]
    exact hspares i d hturn hd
  exact (Exit.sat_iff.mp
    (distrusted_reassessLocked _ (Or.inl hrequires) fun _ => hbranch)).1 () hres

/-- The others are. -/
theorem load_of_degradedReady {clk : Readings} {data : Bytes} {out : HealthStore}
    {k : AcceleratorId} {d : Device}
    (haccepted : (loadInternal clk (some data) out).result = .ok (.ok ()))
    (hd : (distrust (decodeStateInternal data out).state).devices.find? k = some d)
    (hbranch : ∀ i, (k, i) ∈ (distrust (decodeStateInternal data out).state).devices.keys.zipIdx →
      DegradedReady ((clk.drop (2 * i)) 0) ⟨distrust (decodeStateInternal data out).state, d⟩) :
    ∃ d', (loadInternal clk (some data) out).state.devices.find? k = some d' ∧
      d'.claimsReady := by
  obtain ⟨i, s₁, hturn, hs₁, hres, hfind⟩ := load_turn haccepted hd
  have hcongr : DegradedReady ((clk.drop (2 * i)) 0) ⟨s₁, d⟩ ↔
      DegradedReady ((clk.drop (2 * i)) 0) ⟨distrust (decodeStateInternal data out).state, d⟩ :=
    degradedReady_congr rfl hs₁.policy
  exact ⟨_, hfind, claimsReady_of_degradedReady (hcongr.mpr (hbranch i hturn)) hres⟩

/-! ### Runs -/

/-- The steps that keep the device `k` distrusted: an observation that passes the fence is
taken whole, no reassessment has the device ready by the DEGRADED branch, and a load reads
nothing or accepts an image and reassesses its devices with no other result. -/
structure KeepsDistrust (k : AcceleratorId) (s : HealthStore) (c : Call) : Prop where
  taken : s.TakesWhole k c
  branch : s.Spares k c
  load : c.op.loads = true → c.op = .loadFromFile none ∨ ∃ data, c.op = .loadFromFile (some data) ∧
    (decodeStateInternal data s).result = .ok () ∧
    (distrust (decodeStateInternal data s).state).ReassessesWhole c.clk ∧
    (distrust (decodeStateInternal data s).state).SparesRestored k c.clk

theorem keepsDistrust_registerWorker {k : AcceleratorId} {s : HealthStore} {worker : WorkerId}
    {boot : WorkerBootId} {clk : Readings} :
    KeepsDistrust k s ⟨.registerWorker worker boot, clk⟩ := by
  constructor
  · intro obs env d hop
    cases hop
  · intro d l clk m _ _ _ _ henters
    cases henters with
    | fault op | validation op | quarantine op | clear op | recovery op | revalidation op
    | reassess op | reassessAll op | policy op => cases op
  · intro hload
    cases hload

theorem keepsDistrust_reassess {k : AcceleratorId} {s : HealthStore} {clk : Readings}
    (h : ∀ d, s.devices.find? k = some d → ¬DegradedReady (clk 0) ⟨s, d⟩) :
    KeepsDistrust k s ⟨.reassess k, clk⟩ := by
  constructor
  · intro obs env d hop
    cases hop
  · intro d l clk' m hd _ hl hpolicy henters
    cases henters with
    | reassess op =>
      rw [degradedReady_congr (l := ⟨s, d⟩) hl hpolicy]
      exact h d hd
    | fault op | validation op | quarantine op | clear op | recovery op | revalidation op
    | reassessAll op | policy op => cases op
  · intro hload
    cases hload

/-- Fresh evidence asks for DEGRADED only after a run of failures. -/
theorem not_degradedReady_of_few {now : Timestamp} {l : Locked}
    (h : (assessmentInput now l).consecutive < l.store.policy.degradeAfterFailures.toInt32) :
    ¬DegradedReady now l := by
  intro hbranch
  have htarget := hbranch.target
  have hfew : ¬(assessmentInput now l).policy.degradeAfterFailures.toInt32 ≤
      (assessmentInput now l).consecutive := Int32.not_le.mpr h
  have hfresh : ¬(assessmentInput now l).freshness.isOld = true :=
    Bool.eq_false_iff.mp hbranch.fresh
  unfold target AssessmentInput.target at htarget
  rw [if_neg hfew, if_neg hfresh] at htarget
  split_ifs at htarget with hin
  exact target_ne_degraded hin hbranch.target

/-- What an accepted load leaves, whatever was there before. -/
theorem KeepsDistrust.loaded {k : AcceleratorId} {s : HealthStore} {c : Call}
    (h : KeepsDistrust k s c) (hload : c.op.loads = true) :
    s.step c = s ∨ ∀ d', (s.step c).devices.find? k = some d' → d'.Distrusted := by
  rcases h.load hload with hop | ⟨data, hop, hok, hwhole, hspares⟩
  · left
    simp only [step, exec, hop]
    rfl
  · right
    simp only [step, exec, hop, Exit.mapResult_state]
    exact load_distrusted (load_accepted_iff.mpr ⟨hok, hwhole⟩) hspares

theorem step_distrusted {s : HealthStore} {c : Call} {k : AcceleratorId}
    (h : KeepsDistrust k s c) (hnone : ¬s.AcceptsFor k c)
    (hs : ∀ d, s.devices.find? k = some d → d.Distrusted) :
    ∀ d', (s.step c).devices.find? k = some d' → d'.Distrusted := by
  intro d' hk
  by_cases hload : c.op.loads = true
  · rcases h.loaded hload with heq | hd
    · rw [heq] at hk
      exact hs d' hk
    · exact hd d' hk
  · rcases step_outcome (by simpa using hload) hk with ⟨d, hd, houtcome⟩ | ⟨uuid, node, -, rfl⟩
    · exact houtcome.distrusted hd (hs d hd) (fun hpass => hnone (h.taken.acceptsFor hpass))
        h.branch
    · exact distrusted_newDevice ..

/-- The device is not execution-ready. -/
def NotReady (k : AcceleratorId) (s : HealthStore) : Prop :=
  ∀ d, s.devices.find? k = some d → d.readiness ≠ .ready ∧ d.readiness ≠ .readyDegraded ∧
    d.latestAssessment.executionReady = false

theorem notReady_of_claims {s : HealthStore} {k : AcceleratorId}
    (h : ∀ d, s.devices.find? k = some d → d.claimsReady = false) : s.NotReady k := by
  intro d hk
  have hclaims := h d hk
  simp only [Device.claimsReady, ReadinessState.admits, Bool.or_eq_false_iff] at hclaims
  exact ⟨by simpa using hclaims.1.1, by simpa using hclaims.1.2, hclaims.2⟩

/-- A device of an accepted image is not ready until it is observed again: this in every
run in which no reassessment has it ready by the DEGRADED branch. -/
theorem restored_not_ready {clk : Readings} {data : Bytes} {out : HealthStore}
    {k : AcceleratorId} {calls : List Call}
    (haccepted : (loadInternal clk (some data) out).result = .ok (.ok ()))
    (hquiet : Machine.Along step (fun s c => ¬s.AcceptsFor k c)
      (loadInternal clk (some data) out).state calls)
    (hspares : (distrust (decodeStateInternal data out).state).SparesRestored k clk)
    (hkeeps : Machine.Along step (KeepsDistrust k) (loadInternal clk (some data) out).state calls) :
    (Machine.run step (loadInternal clk (some data) out).state calls).NotReady k := by
  apply notReady_of_claims
  intro d hk
  have hfinal := Machine.run_invariant (P := fun s => ∀ d, s.devices.find? k = some d →
    d.Distrusted) (fun s c hs hc => step_distrusted hc.2 hc.1 hs)
    (load_distrusted haccepted hspares) (hquiet.and hkeeps)
  exact (hfinal d hk).claims

/-! ### A store's own image -/

/-- The store that the load of another's image reassesses. -/
structure DistrustedFrom (s t : HealthStore) : Prop where
  policy : t.policy = s.policy
  device : ∀ k d, t.devices.find? k = some d ↔
    ∃ d₀, s.devices.find? k = some d₀ ∧ d = { d₀ with requiresRevalidation := true }

theorem Sound.distrustedFrom {s out : HealthStore} {data : Bytes} (hs : s.Sound)
    (hdata : encodeStateInternal s = .ok data)
    (hok : (decodeStateInternal data out).result = .ok ()) :
    s.DistrustedFrom (distrust (decodeStateInternal data out).state) := by
  obtain ⟨t, ht, hstate⟩ := hs.rebuilt hdata hok
  rw [hstate]
  constructor
  · change (recomputeIndexes t).policy = _
    rw [(recomputeIndexes_fields t).2.2.1, ht.policy]
  · intro k d
    change ((recomputeIndexes t).devices.mapValues _).find? k = some d ↔ _
    rw [(recomputeIndexes_fields t).1, ht.devices, OrdMap.find?_mapValues_eq_some_iff]
    simp only [OrdMap.find?_mapValues_eq_some_iff]
    constructor
    · rintro ⟨_, ⟨d₀, hd₀, rfl⟩, rfl⟩
      exact ⟨d₀, hd₀, rfl⟩
    · rintro ⟨d₀, hd₀, rfl⟩
      exact ⟨_, ⟨d₀, hd₀, rfl⟩, rfl⟩

section DistrustedFrom
variable {s t : HealthStore}

/-- The marker is no part of the branch. -/
theorem DistrustedFrom.degradedReady_iff (h : s.DistrustedFrom t) {now : Timestamp} {d : Device} :
    DegradedReady now ⟨t, { d with requiresRevalidation := true }⟩ ↔
      DegradedReady now ⟨s, d⟩ := by
  have hcongr : DegradedReady now ⟨t, { d with requiresRevalidation := true }⟩ ↔
      DegradedReady now ⟨s, { d with requiresRevalidation := true }⟩ :=
    degradedReady_congr rfl h.policy
  rw [hcongr]
  constructor
  · rintro ⟨h₁, h₂, h₃, h₄⟩
    exact ⟨h₁, h₂, h₃, h₄⟩
  · rintro ⟨h₁, h₂, h₃, h₄⟩
    exact ⟨h₁, h₂, h₃, h₄⟩

theorem DistrustedFrom.reassessesWhole (h : s.DistrustedFrom t) (clk : Readings)
    (hroom : s.AllDevices fun d => d.healthGeneration ≠ .last) : t.ReassessesWhole clk := by
  rintro k i d - hd ⟨-, hlast⟩
  obtain ⟨d₀, hd₀, rfl⟩ := (h.device k d).mp hd
  exact hroom k d₀ hd₀ hlast

end DistrustedFrom

/-- Device 7 brought up, saved and loaded, another worker registered, and the device reassessed
on evidence that is still fresh. -/
theorem restored_not_ready_after_reassessment : ∃ data,
    encodeStateInternal (after {} 0 bringUp) = .ok data ∧
      (Machine.run step (loadInternal (fun _ => ⟨2⟩) (some data) (init {} 0)).state
        [(Op.registerWorker ⟨2⟩ ⟨2⟩).at 2, (Op.reassess ⟨7⟩).at 2]).NotReady ⟨7⟩ := by
  have hs : (after {} 0 bringUp).Sound := reachable_sound ⟨{}, 0, bringUp, rfl⟩
  obtain ⟨data, hdata, hok⟩ := hs.reloads
    ⟨by decide +kernel, by decide +kernel, by decide +kernel, by decide +kernel⟩ (init {} 0)
  have hfrom := hs.distrustedFrom hdata hok
  have haccepted := load_accepted_iff.mpr
    ⟨hok, hfrom.reassessesWhole (fun _ => ⟨2⟩) (by decide +kernel)⟩
  have hpolicy : (loadInternal (fun _ => ⟨2⟩) (some data) (init {} 0)).state.policy = {} := by
    rw [load_state haccepted, (reassessAll_evolves ..).policy, hfrom.policy]
    decide +kernel
  have hfaultless : ∀ d,
      (loadInternal (fun _ => ⟨2⟩) (some data) (init {} 0)).state.devices.find? ⟨7⟩ = some d →
        d.faults = .empty := by
    have hbefore : (after {} 0 bringUp).AllDevices fun d => d.faults = .empty := by decide +kernel
    refine loadInternal_device (P := fun d => d.faults = .empty) (fun d hd => ?_) (fun _ h => h)
      fun clk l h => (of_basis_eq (basis_reassessLocked clk l) Device.faults fun _ => rfl).trans h
    obtain ⟨d₀, hd₀, heq⟩ := (hfrom.device ⟨7⟩ { d with requiresRevalidation := true }).mp (by
      simp only [distrust, OrdMap.find?_mapValues, hd, Option.map_some])
    have hsame : d.faults = d₀.faults := by
      injection heq
    rw [hsame]
    exact hbefore _ d₀ hd₀
  refine ⟨data, hdata, restored_not_ready haccepted ?_ ?_ ?_⟩
  · refine ⟨?_, ?_, trivial⟩ <;>
      · rintro ⟨obs, env, -, hop, -⟩
        cases hop
  · intro i d _ hd
    obtain ⟨d₀, hd₀, rfl⟩ := (hfrom.device _ d).mp hd
    have hnot : (after {} 0 bringUp).AllDevices
        fun d => ¬DegradedReady ⟨2⟩ ⟨after {} 0 bringUp, d⟩ := by decide +kernel
    rw [hfrom.degradedReady_iff]
    exact hnot _ d₀ hd₀
  · refine ⟨keepsDistrust_registerWorker, keepsDistrust_reassess fun d hd => ?_, trivial⟩
    apply not_degradedReady_of_few
    change d.faults.stats.consecutiveLatest.toInt32 <
      (loadInternal (fun _ => ⟨2⟩) (some data)
        (init {} 0)).state.policy.degradeAfterFailures.toInt32
    rw [hfaultless d hd, hpolicy]
    decide

/-- Device 7 brought up and degraded by two faults of one type. -/
def degradedDevice : List Call := bringUp ++ [recoverableFault ⟨1⟩, recoverableFault ⟨2⟩]

/-- The restored device is ready without an observation. -/
theorem restored_device_ready_by_degrading : ∃ data,
    encodeStateInternal (after {} 0 degradedDevice) = .ok data ∧
      (loadInternal (fun _ => ⟨1⟩) (some data) (init {} 0)).result = .ok (.ok ()) ∧
      ¬(loadInternal (fun _ => ⟨1⟩) (some data) (init {} 0)).state.NotReady ⟨7⟩ := by
  have hs : (after {} 0 degradedDevice).Sound := reachable_sound ⟨{}, 0, degradedDevice, rfl⟩
  obtain ⟨data, hdata, hok⟩ := hs.reloads
    ⟨by decide +kernel, by decide +kernel, by decide +kernel, by decide +kernel⟩ (init {} 0)
  have hfrom := hs.distrustedFrom hdata hok
  have hwhole := hfrom.reassessesWhole (fun _ => ⟨1⟩) (by decide +kernel)
  have haccepted := load_accepted_iff.mpr ⟨hok, hwhole⟩
  have hbranch : ((after {} 0 degradedDevice).devices.find? ⟨7⟩).any
      (fun d => decide (DegradedReady ⟨1⟩ ⟨after {} 0 degradedDevice, d⟩)) = true := by
    decide +kernel
  obtain ⟨d₀, hd₀, hready⟩ := (Option.any_eq_true _ _).mp hbranch
  have hd := (hfrom.device _ _).mpr ⟨d₀, hd₀, rfl⟩
  obtain ⟨d', hd', hclaims⟩ := load_of_degradedReady haccepted hd fun _ _ =>
    hfrom.degradedReady_iff.mpr (of_decide_eq_true hready)
  refine ⟨data, hdata, haccepted, fun h => ?_⟩
  obtain ⟨h₁, h₂, h₃⟩ := h d' hd'
  simp only [Device.claimsReady, ReadinessState.admits, h₃, Bool.or_false] at hclaims
  simp [h₁, h₂] at hclaims

end HealthStore
end AcceleratorHealth
