import AcceleratorHealth.FailedValidations
import AcceleratorHealth.Reasons

/-! What a published assessment says of itself. Its digest, its reasons and its action are
those of the state that the evidence asks for, its state and its readiness those that the
store has come to. The two differ where the transition table blocks the way, and where the
marker of a restart holds back a device that the engine would have ready. -/
namespace AcceleratorHealth

namespace Util

theorem hexDigit_inj {a b : Nat} (h : hexDigit a = hexDigit b) : a % 16 = b % 16 := by
  have hall : ∀ x y : Fin 16, hexDigit x = hexDigit y → x = y := by decide +kernel
  have hmod : ∀ n, hexDigit (n % 16) = hexDigit n := fun n => by simp [hexDigit]
  have heq := hall ⟨a % 16, by omega⟩ ⟨b % 16, by omega⟩ (by rw [hmod, hmod, h])
  exact congrArg Fin.val heq

theorem toHex_injective : Function.Injective toHex := by
  intro x
  induction x with
  | nil =>
    intro y h
    cases y with
    | nil => rfl
    | cons c y => cases h
  | cons b x ih =>
    intro y h
    cases y with
    | nil => cases h
    | cons c y =>
      simp only [toHex, List.flatMap_cons, List.cons_append, List.nil_append,
        List.cons.injEq] at h
      obtain ⟨hhigh, hlow, hrest⟩ := h
      have hb := b.toNat_lt
      have hc := c.toNat_lt
      have hhigh := hexDigit_inj hhigh
      have hlow := hexDigit_inj hlow
      rw [UInt8.toNat_inj.mp (by omega : b.toNat = c.toNat), ih hrest]

end Util

open Util Wire Codec

/-- What the digest of an assessment begins with: whose it is, and what it says. -/
@[ext] structure Summary where
  accelerator : AcceleratorId
  uuid : DeviceUuid
  deviceGeneration : DeviceGeneration
  state : HealthState
  readiness : ReadinessState
  freshness : FreshnessStatus
  validationDepth : ValidationDepth
  requiredValidationDepth : ValidationDepth

namespace Summary

def bytes (x : Summary) : Bytes :=
  storeLe 8 x.accelerator.value.toNat ++ (storeLe 8 x.uuid.value.toNat ++
    (storeLe 8 x.deviceGeneration.value.toNat ++
      [CodedEnum.code x.state, CodedEnum.code x.readiness, CodedEnum.code x.freshness,
        CodedEnum.code x.validationDepth, CodedEnum.code x.requiredValidationDepth]))

theorem storeLe_append_inj {v w : UInt64} {rest rest' : Bytes}
    (h : storeLe 8 v.toNat ++ rest = storeLe 8 w.toNat ++ rest') : v = w ∧ rest = rest' := by
  obtain ⟨hbytes, hrest⟩ := List.append_inj h (by simp)
  have hvalue := congrArg loadLe hbytes
  rw [loadLe_storeLe _ _ v.toNat_lt, loadLe_storeLe _ _ w.toNat_lt] at hvalue
  exact ⟨UInt64.toNat_inj.mp hvalue, hrest⟩

theorem bytes_append_inj {x y : Summary} {rest rest' : Bytes}
    (h : x.bytes ++ rest = y.bytes ++ rest') : x = y := by
  simp only [bytes, List.append_assoc, List.cons_append, List.nil_append] at h
  obtain ⟨haccelerator, h⟩ := storeLe_append_inj h
  obtain ⟨huuid, h⟩ := storeLe_append_inj h
  obtain ⟨hgeneration, h⟩ := storeLe_append_inj h
  simp only [List.cons.injEq] at h
  obtain ⟨hstate, hreadiness, hfreshness, hdepth, hrequired, -⟩ := h
  exact Summary.ext (StrongId.ext haccelerator) (StrongId.ext huuid) (Generation.ext hgeneration)
    (code_injective hstate) (code_injective hreadiness) (code_injective hfreshness)
    (code_injective hdepth) (code_injective hrequired)

/-- The digests that begin with `x`. -/
def Digests (x : Summary) (digest : Str) : Prop :=
  ∃ rest, digest = str "ah-" ++ toHex (x.bytes ++ rest)

theorem Digests.unique {x y : Summary} {digest : Str} (hx : x.Digests digest)
    (hy : y.Digests digest) : x = y := by
  obtain ⟨rest, rfl⟩ := hx
  obtain ⟨rest', h⟩ := hy
  exact bytes_append_inj (toHex_injective (List.append_cancel_left h))

end Summary

/-- The engine's action rules for a state. -/
def actionFor (quarantined inRecovery shallow : Bool) (state : HealthState) : ActionRequired :=
  if quarantined then .recover
  else if state = .failed then .drain
  else if state = .unhealthy then .drain
  else if state = .quarantined then .quarantine
  else if inRecovery || shallow then .revalidate
  else if state = .degraded then .monitor
  else .none

namespace AssessmentInput

def summary (i : AssessmentInput) : Summary where
  accelerator := i.accelerator
  uuid := i.uuid
  deviceGeneration := i.deviceGeneration
  state := i.target
  readiness := i.readinessInput.evaluate.state
  freshness := i.freshness
  validationDepth := i.highestValidationDepth
  requiredValidationDepth := i.policy.requiredValidationDepth

theorem digests_digest (i : AssessmentInput) : i.summary.Digests i.digest := by
  obtain ⟨rest, hrest⟩ : ∃ rest, i.digestBytes = .ok (i.summary.bytes ++ rest) := by
    unfold digestBytes Summary.bytes
    simp only [StrongId.write, Generation.write, u64, u32, u8, enum, flag, emitAll,
      List.append_assoc, List.cons_append, List.nil_append]
    exact ⟨_, rfl⟩
  refine ⟨rest, ?_⟩
  unfold digest
  rw [hrest]

theorem action_eq (i : AssessmentInput) :
    i.action = actionFor i.quarantined i.inRecovery i.shallow i.target := rfl

end AssessmentInput

namespace HealthAssessment

def summary (a : HealthAssessment) (freshness : FreshnessStatus) (required : ValidationDepth) :
    Summary where
  accelerator := a.accelerator
  uuid := a.uuid
  deviceGeneration := a.deviceGeneration
  state := a.state
  readiness := a.readiness
  freshness
  validationDepth := a.validationDepth
  requiredValidationDepth := required

/-- The assessment agrees with itself: it is its state and its readiness that the digest is
made from, its state that the action is for, and a good word in the reasons only if that is
HEALTHY. -/
def Coherent (a : HealthAssessment) : Prop :=
  ∃ freshness required, (a.summary freshness required).Digests a.digest ∧
    a.action = actionFor a.quarantined a.inRecovery (a.validationDepth < required) a.state ∧
    (str "all evidence nominal and fresh" ∈ a.reasons → a.state = .healthy)

/-- Coherent assessments with one digest say the same. -/
theorem Coherent.agree {a b : HealthAssessment} (ha : a.Coherent) (hb : b.Coherent)
    (h : a.digest = b.digest) : a.accelerator = b.accelerator ∧ a.uuid = b.uuid ∧
      a.deviceGeneration = b.deviceGeneration ∧ a.state = b.state ∧ a.readiness = b.readiness ∧
        a.validationDepth = b.validationDepth := by
  obtain ⟨f, r, hdigest, -⟩ := ha
  obtain ⟨f', r', hdigest', -⟩ := hb
  have hsame := hdigest.unique (h ▸ hdigest')
  exact ⟨congrArg Summary.accelerator hsame, congrArg Summary.uuid hsame,
    congrArg Summary.deviceGeneration hsame, congrArg Summary.state hsame,
    congrArg Summary.readiness hsame, congrArg Summary.validationDepth hsame⟩

/-- The assessment is the engine's, but for the state and the readiness. -/
structure Restates (i : AssessmentInput) (a : HealthAssessment) : Prop where
  accelerator : a.accelerator = i.accelerator
  uuid : a.uuid = i.uuid
  deviceGeneration : a.deviceGeneration = i.deviceGeneration
  validationDepth : a.validationDepth = i.highestValidationDepth
  quarantined : a.quarantined = i.quarantined
  inRecovery : a.inRecovery = i.inRecovery
  action : a.action = i.action
  reasons : a.reasons = i.reasons
  digest : a.digest = i.digest

theorem Restates.coherent_iff {i : AssessmentInput} {a : HealthAssessment} (h : Restates i a) :
    a.Coherent ↔ a.state = i.target ∧ a.readiness = i.readinessInput.evaluate.state := by
  have hengine := i.digests_digest
  rw [← h.digest] at hengine
  constructor
  · rintro ⟨f, r, hdigest, -⟩
    have hsame := hdigest.unique hengine
    exact ⟨congrArg Summary.state hsame, congrArg Summary.readiness hsame⟩
  · rintro ⟨hstate, hreadiness⟩
    have hsummary : a.summary i.freshness i.policy.requiredValidationDepth = i.summary := by
      unfold summary AssessmentInput.summary
      rw [h.accelerator, h.uuid, h.deviceGeneration, h.validationDepth, hstate, hreadiness]
    refine ⟨i.freshness, i.policy.requiredValidationDepth, hsummary ▸ hengine, ?_, ?_⟩
    · rw [h.action, i.action_eq, h.quarantined, h.inRecovery, h.validationDepth, hstate]
      rfl
    · rw [h.reasons, hstate]
      exact AssessmentInput.target_of_nominal

end HealthAssessment

/-! ### One reassessment -/

/-- The marker of a restart matters to a HEALTHY device that would be ready without it. -/
theorem evaluate_marked_iff {i : ReadinessInput} (hmarker : i.requiresRevalidation = false) :
    ({ i with requiresRevalidation := true } : ReadinessInput).evaluate.state = i.evaluate.state ↔
      ¬(i.health = .healthy ∧ i.evaluate.state.admits) := by
  by_cases hhealth : i.health = .healthy
  · simp only [hhealth, true_and]
    unfold ReadinessInput.evaluate
    simp only [hhealth, hmarker]
    split_ifs <;> decide
  · have hother : ({ i with requiresRevalidation := true } : ReadinessInput).evaluate =
        i.evaluate := by
      unfold ReadinessInput.evaluate
      cases hi : i.health <;> first | exact absurd hi hhealth | rfl
    rw [hother]
    simp [hhealth]

namespace Locked
variable {now : Timestamp} {clk : Readings} {l m : Locked}

/-- The table lets the device be where the evidence asks for, and no marker holds it back
there. -/
structure Reflects (now : Timestamp) (m : Locked) : Prop where
  reached : target now m = m.d.state ∨ canTransition m.d.state (target now m) = true
  unmarked : m.d.requiresRevalidation = true → target now m = .healthy →
    ¬(m.store.policy.requiredValidationDepth ≤ m.d.highestValidation ∧
      m.d.deviceGenerationChangedFlag = false ∧ m.d.policyGenerationChangedFlag = false)

instance (now : Timestamp) (m : Locked) : Decidable (Reflects now m) :=
  decidable_of_iff ((target now m = m.d.state ∨ canTransition m.d.state (target now m) = true) ∧
      (m.d.requiresRevalidation = true → target now m = .healthy →
        ¬(m.store.policy.requiredValidationDepth ≤ m.d.highestValidation ∧
          m.d.deviceGenerationChangedFlag = false ∧ m.d.policyGenerationChangedFlag = false)))
    ⟨fun ⟨h₁, h₂⟩ => ⟨h₁, h₂⟩, fun ⟨h₁, h₂⟩ => ⟨h₁, h₂⟩⟩

/-- Where the state asked for is reached, only the marker can come between the readiness that
the engine sees and the one that is published. -/
theorem coherent_published_iff
    (hrestates : HealthAssessment.Restates (assessmentInput now m)
      (published now m false l).d.latestAssessment)
    (hstate : l.d.state = target now m)
    (hinput : readinessInput now l = { (assessmentInput now m).readinessInput with
      requiresRevalidation := m.d.requiresRevalidation }) :
    (published now m false l).d.latestAssessment.Coherent ↔
      (m.d.requiresRevalidation = true → target now m = .healthy →
        ¬(m.store.policy.requiredValidationDepth ≤ m.d.highestValidation ∧
          m.d.deviceGenerationChangedFlag = false ∧ m.d.policyGenerationChangedFlag = false)) := by
  rw [hrestates.coherent_iff]
  have hreadiness : (published now m false l).d.latestAssessment.readiness =
      (readinessInput now l).evaluate.state := rfl
  have hleft : (published now m false l).d.latestAssessment.state =
      (assessmentInput now m).target := hstate
  rw [hreadiness, hinput]
  simp only [hleft, true_and]
  cases hmarker : m.d.requiresRevalidation with
  | false =>
    simp only [Bool.false_eq_true, false_implies, iff_true]
    rfl
  | true =>
    rw [evaluate_marked_iff rfl, not_and]
    simp only [true_implies]
    refine forall_congr' fun hhealthy => not_congr ?_
    obtain ⟨hclear, hfresh, -⟩ := AssessmentInput.target_eq_healthy.mp hhealthy
    rw [evaluate_admits_iff rfl]
    constructor
    · rintro ⟨-, -, ⟨hdegraded, -⟩ | ⟨-, hdepth, hdevice, hpolicy, -⟩⟩
      · cases hhealthy.symm.trans hdegraded
      · exact ⟨hdepth, hdevice, hpolicy⟩
    · rintro ⟨hdepth, hdevice, hpolicy⟩
      exact ⟨hclear.quarantined, hfresh, Or.inr ⟨hhealthy, hdepth, hdevice, hpolicy, rfl⟩⟩

/-- A reassessment that is not cut short publishes a coherent assessment exactly when the
record reflects what the evidence asks for. -/
theorem coherent_reassessLocked_iff (hwhole : ¬Tears (clk 0) m) :
    (reassessLocked clk m).state.d.latestAssessment.Coherent ↔ Reflects (clk 0) m := by
  have hrestates : ∀ blocked l, l.d.generation = m.d.generation →
      l.d.highestValidation = m.d.highestValidation → l.d.quarantined = m.d.quarantined →
        l.d.inRecovery = m.d.inRecovery → HealthAssessment.Restates (assessmentInput (clk 0) m)
          (published (clk 0) m blocked l).d.latestAssessment :=
    fun _ _ h₁ h₂ h₃ h₄ => ⟨rfl, rfl, h₁, h₂, h₃, h₄, rfl, rfl, rfl⟩
  have hsat : (reassessLocked clk m).Sat (fun _ l' => l'.d.latestAssessment.Coherent ↔
      Reflects (clk 0) m) fun _ _ => True := by
    apply reassessLocked_sat
    · intro hsame
      have hinput : readinessInput (clk 0) m = { (assessmentInput (clk 0) m).readinessInput with
          requiresRevalidation := m.d.requiresRevalidation } := by
        unfold readinessInput AssessmentInput.readinessInput
        rw [← hsame]
        rfl
      rw [coherent_published_iff (hrestates false m rfl rfl rfl rfl) hsame.symm hinput]
      exact ⟨fun h => ⟨Or.inl hsame, h⟩, fun h => h.unmarked⟩
    · intro g hlegal _
      have hmoved := hrestates false (moved (clk 1) (target (clk 0) m) (str "health")
        (str (enumToString (target (clk 0) m))) g m) rfl rfl rfl rfl
      rw [coherent_published_iff hmoved rfl rfl]
      exact ⟨fun h => ⟨Or.inr hlegal, h⟩, fun h => h.unmarked⟩
    · intro hdiffers hblocked
      rw [(hrestates true m rfl rfl rfl rfl).coherent_iff]
      constructor
      · rintro ⟨hstate, -⟩
        exact absurd hstate.symm hdiffers
      · intro h
        rcases h.reached with hsame | hlegal
        · exact absurd hsame hdiffers
        · rw [hblocked] at hlegal
          cases hlegal
    · exact fun _ _ => trivial
  exact (Exit.sat_iff.mp hsat).1 () (reassessLocked_returns_iff.mpr hwhole)

end Locked

/-! ### Runs -/

/-- If the device has been assessed, its assessment is coherent. -/
def Device.Coheres (d : Device) : Prop :=
  d.latestAssessment.digest ≠ [] → d.latestAssessment.Coherent

theorem Device.Coheres.congr {d d' : Device} (h : d.Coheres)
    (heq : d'.latestAssessment = d.latestAssessment) : d'.Coheres := by
  unfold Coheres
  rwa [heq]

theorem Locked.coheres_reassessLocked {clk : Readings} {m : Locked} (h : m.d.Coheres)
    (hreflects : ¬Tears (clk 0) m → Reflects (clk 0) m) :
    (reassessLocked clk m).state.d.Coheres := by
  by_cases htears : Tears (clk 0) m
  · rw [reassessLocked_eq_torn htears.1 htears.2]
    exact h
  · exact fun _ => (coherent_reassessLocked_iff htears).mpr (hreflects htears)

namespace HealthStore
open Locked Persistence

/-- Every device that has been assessed publishes a coherent assessment, and two devices
with one digest publish the same. -/
structure Coherent (s : HealthStore) : Prop where
  each : s.AllDevices Device.Coheres
  agree : ∀ k k' d d', s.devices.find? k = some d → s.devices.find? k' = some d' →
    d.latestAssessment.digest ≠ [] → d.latestAssessment.digest = d'.latestAssessment.digest →
      d.latestAssessment.accelerator = d'.latestAssessment.accelerator ∧
        d.latestAssessment.uuid = d'.latestAssessment.uuid ∧
        d.latestAssessment.deviceGeneration = d'.latestAssessment.deviceGeneration ∧
        d.latestAssessment.state = d'.latestAssessment.state ∧
        d.latestAssessment.readiness = d'.latestAssessment.readiness ∧
        d.latestAssessment.validationDepth = d'.latestAssessment.validationDepth

theorem coherent_iff {s : HealthStore} : s.Coherent ↔ s.AllDevices Device.Coheres := by
  refine ⟨Coherent.each, fun h => ⟨h, fun k k' d d' hd hd' hassessed hsame => ?_⟩⟩
  exact (h k d hd hassessed).agree (h k' d' hd' (hsame ▸ hassessed)) hsame

/-- Each reassessment that the call completes finds a record that reflects what the evidence
asks for, and an image holds coherent assessments, unless all its devices are reassessed. -/
structure Reflective (s : HealthStore) (c : Call) : Prop where
  reassessed : ∀ k clk m, Reassesses s c k clk m → ¬Tears (clk 0) m → Reflects (clk 0) m
  images : ∀ data, c.op = .decode data ∨ c.op = .loadFromFile (some data) →
    (header data).isSome → (∀ k d, (filed data).find? k = some d → d.Coheres) ∨
      c.op = .loadFromFile (some data) ∧ (decodeStateInternal data s).result = .ok () ∧
        (distrust (decodeStateInternal data s).state).ReassessesWhole c.clk

section Step
variable {s : HealthStore} {c : Call} {k : AcceleratorId} {d d' : Device}

theorem Outcome.coheres (h : Outcome s c k d d') (hd : s.devices.find? k = some d)
    (hreflective : s.Reflective c) (hcoheres : d.Coheres) : d'.Coheres := by
  cases h with
  | kept hstanding => exact hcoheres.congr (congrArg Standing.latestAssessment hstanding)
  | @judged l m clk device policy enters _ eq =>
    have hassessed : m.d.latestAssessment = d.latestAssessment := by
      rw [← device]
      exact congrArg Standing.latestAssessment enters.standing
    rw [eq]
    exact coheres_reassessLocked (hcoheres.congr hassessed)
      (hreflective.reassessed k clk m (.entered hd device policy enters))
  | @observed obs env op target passed eq =>
    have hassessed : (takeObservation obs env ⟨s, d⟩).d.latestAssessment = d.latestAssessment := by
      unfold takeObservation
      simp only
      split_ifs <;> rfl
    rw [eq]
    exact coheres_reassessLocked (hcoheres.congr hassessed)
      (hreflective.reassessed k _ _ (.observed op target hd passed))
  | @stripped l worker boot i op _ turn device policy last eq =>
    have hassessed : (strip l).d.latestAssessment = d.latestAssessment := by
      rw [← device]
      rfl
    rw [eq]
    exact coheres_reassessLocked (hcoheres.congr hassessed)
      (hreflective.reassessed k _ _ (.stripped op turn hd device policy last))

theorem Reflective.decoded {data : Bytes} (h : s.AllDevices Device.Coheres)
    (himage : (header data).isSome → ∀ k d, (filed data).find? k = some d → d.Coheres) :
    (decodeStateInternal data s).state.AllDevices Device.Coheres := by
  rcases find?_decode data s with heq | ⟨hheader, heq⟩
  · rwa [heq]
  · intro k d hd
    exact himage hheader k d (heq ▸ hd)

/-- A load reassesses what it has decoded, all of it or up to a device that throws. -/
theorem Reflective.load {data : Bytes} (hreflective : s.Reflective c)
    (hop : c.op = .loadFromFile (some data)) (h : s.AllDevices Device.Coheres) :
    (loadInternal c.clk (some data) s).state.AllDevices Device.Coheres := by
  intro k
  refine reassessed_load hop (fun hcut => ?_) (fun _ h => h) (fun clk m hreassesses hwhole _ => ?_)
    fun clk m hreassesses hm => ?_
  · refine Reflective.decoded h (fun hheader => ?_) k
    rcases hreflective.images data (Or.inr hop) hheader with himage | ⟨-, hwhole⟩
    · exact himage
    · exact absurd (load_accepted_iff.mpr hwhole) hcut
  · exact (coherent_reassessLocked_iff hwhole).mpr
      (hreflective.reassessed k clk m hreassesses hwhole)
  · exact coheres_reassessLocked hm (hreflective.reassessed k clk m hreassesses)

theorem step_coheres (hreflective : s.Reflective c) (h : s.AllDevices Device.Coheres) :
    (s.step c).AllDevices Device.Coheres := by
  intro k d' hk
  cases hload : c.op.loads with
  | false =>
    rcases step_outcome hload hk with ⟨d, hd, houtcome⟩ | ⟨uuid, node, -, rfl⟩
    · exact houtcome.coheres hd hreflective (h k d hd)
    · exact fun hassessed => absurd rfl hassessed
  | true =>
    rcases step_loads (s := s) hload with ⟨data, hop, hstep⟩ | ⟨-, hstep⟩ | ⟨data, hop, hstep⟩ <;>
      rw [hstep] at hk
    · refine Reflective.decoded h (fun hheader => ?_) k d' hk
      rcases hreflective.images data (Or.inl hop) hheader with himage | ⟨hop', -⟩
      · exact himage
      · cases hop.symm.trans hop'
    · exact h k d' hk
    · exact hreflective.load hop h k d' hk

end Step

/-- In every run whose reassessments find records that reflect what the evidence asks for,
every published assessment is coherent. -/
theorem coherent_after {policy : HealthPolicy} {epoch : UInt64} {calls : List Call}
    (h : Machine.Along step Reflective (init policy epoch) calls) :
    (after policy epoch calls).Coherent := by
  rw [coherent_iff]
  refine Machine.run_invariant (P := fun s => s.AllDevices Device.Coheres)
    (fun s c hs hc => step_coheres hc hs) ?_ h
  intro k d hd
  cases hd

/-- A call that finds no reassessment to make, and loads nothing. -/
theorem reflective_of_idle {s : HealthStore} {c : Call} (hload : c.op.loads = false)
    (hidle : ∀ k clk m, ¬Reassesses s c k clk m) : s.Reflective c where
  reassessed k clk m h := absurd h (hidle k clk m)
  images data hop := by rcases hop with hop | hop <;> simp [hop, Op.loads] at hload

theorem reflects_congr {now : Timestamp} {m m' : Locked} (hd : m'.d = m.d)
    (hpolicy : m'.store.policy = m.store.policy) : Reflects now m' ↔ Reflects now m := by
  have htarget : target now m' = target now m := by
    unfold target assessmentInput
    rw [hd, hpolicy]
  constructor
  · rintro ⟨h₁, h₂⟩
    exact ⟨htarget ▸ hd ▸ h₁, htarget ▸ hd ▸ hpolicy ▸ h₂⟩
  · rintro ⟨h₁, h₂⟩
    exact ⟨htarget ▸ hd ▸ h₁, htarget ▸ hd ▸ hpolicy ▸ h₂⟩

/-- Device 7 on its way into service. -/
theorem coherent_after_bringUp : (after {} 0 bringUp).Coherent := by
  apply coherent_after
  have hvalidated : (after {} 0 (bringUp.take 2)).AllDevices fun d => Reflects ⟨1⟩
      (addValidation { id := ⟨1⟩, accelerator := ⟨7⟩, depth := .full, passed := true }
        ⟨after {} 0 (bringUp.take 2), d⟩) := by decide +kernel
  have hobserved : (after {} 0 (bringUp.take 3)).AllDevices fun d => Reflects ⟨1⟩
      (takeObservation { accelerator := ⟨7⟩, worker := ⟨1⟩, workerBootId := ⟨1⟩, timestamp := ⟨1⟩ }
        { workerId := ⟨1⟩, workerBootId := ⟨1⟩, observationGeneration := ⟨1⟩
          deviceGeneration := ⟨1⟩ } ⟨after {} 0 (bringUp.take 3), d⟩) := by decide +kernel
  refine ⟨reflective_of_idle rfl (idle_of_registers (Or.inl ⟨_, _, rfl⟩)),
    reflective_of_idle rfl (idle_of_registers (Or.inr ⟨_, _, rfl⟩)), ⟨?_, ?_⟩, ⟨?_, ?_⟩, trivial⟩
  · intro k clk m h _
    obtain ⟨l, hd, rfl, hpolicy, rfl⟩ := h.of_validation rfl
    refine (reflects_congr ?_ ?_).mpr (hvalidated k l.d hd)
    · rfl
    · exact hpolicy
  · intro data hop
    rcases hop with hop | hop <;> cases hop
  · intro k clk m h _
    obtain ⟨d, hd, rfl, rfl⟩ := h.of_observation rfl
    exact hobserved k d hd
  · intro data hop
    rcases hop with hop | hop <;> cases hop

/-- Device 7 brought up, found on expired evidence after ten minutes, and observed anew. -/
def degradedThenObserved : List Call := bringUp ++ [
  ⟨.reassess ⟨7⟩, fun _ => ⟨600000000000⟩⟩,
  (Op.acceptObservation
    { accelerator := ⟨7⟩, worker := ⟨1⟩, workerBootId := ⟨1⟩, timestamp := ⟨600000000000⟩ }
    { workerId := ⟨1⟩, workerBootId := ⟨1⟩, observationGeneration := ⟨2⟩
      deviceGeneration := ⟨1⟩ }).at 600000000000]

/-- It is held in DEGRADED, on evidence that is said to be nominal. -/
theorem degraded_and_nominal : ¬∀ (policy : HealthPolicy) (epoch : UInt64) (calls : List Call),
    (after policy epoch calls).Coherent := by
  intro h
  have hview : ((after {} 0 degradedThenObserved).devices.find? ⟨7⟩).any (fun d => decide
      (d.latestAssessment.digest ≠ [] ∧ d.latestAssessment.state = .degraded ∧
        str "all evidence nominal and fresh" ∈ d.latestAssessment.reasons)) = true := by
    decide +kernel
  obtain ⟨d, hd, hview⟩ := (Option.any_eq_true _ _).mp hview
  obtain ⟨hassessed, hstate, hnominal⟩ := of_decide_eq_true hview
  obtain ⟨-, -, -, -, hhealthy⟩ := (h {} 0 degradedThenObserved).each _ d hd hassessed
  rw [hstate] at hhealthy
  exact absurd (hhealthy hnominal) (by decide)

end HealthStore
end AcceleratorHealth
