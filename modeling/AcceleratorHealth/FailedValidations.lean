import AcceleratorHealth.Service
import AcceleratorHealth.Sections
import AcceleratorHealth.Restart

/-! Validations that fail. Outside a recovery one is put on record and nothing more: no rule
of the assessment or of the readiness reads the validations, only the highest depth that
ever passed. What keeps a device out of service after it is whatever else is on record. -/
namespace AcceleratorHealth
open Locked

/-- A validation of the device `k` with the result `passed` is submitted. -/
def Op.Validates (op : Op) (k : AcceleratorId) (passed : Bool) : Prop :=
  ∃ v : ValidationRecord, v.passed = passed ∧
    (op = .recordValidation v ∧ v.accelerator = k ∨ op = .revalidate k v)

namespace Locked
variable {clk : Readings} {m : Locked}

/-- A reassessment at `now` that completes does not put the device into service. -/
def Withheld (now : Timestamp) (m : Locked) : Prop := ¬Tears now m → ¬Serves now m

theorem Withheld.claimsReady_of_whole (h : Withheld (clk 0) m) (hwhole : ¬Tears (clk 0) m) :
    (reassessLocked clk m).state.d.claimsReady = false := by
  rw [Bool.eq_false_iff]
  intro hclaims
  exact h hwhole ((claimsReady_reassessLocked_iff hwhole).mp hclaims)

theorem Withheld.claimsReady (h : Withheld (clk 0) m) (hnot : m.d.claimsReady = false) :
    (reassessLocked clk m).state.d.claimsReady = false := by
  by_cases htears : Tears (clk 0) m
  · rw [claimsReady_of_tears htears]
    exact hnot
  · exact h.claimsReady_of_whole htears

end Locked

namespace HealthStore
open Persistence

/-- The call does not put the device `k` into service: no reassessment of it does, and an
image does not have it ready, unless its record is reassessed for certain. -/
structure Withholds (k : AcceleratorId) (s : HealthStore) (c : Call) : Prop where
  reassessed : ∀ clk m, Reassesses s c k clk m → Withheld (clk 0) m
  decoded : ∀ data, c.op = .decode data → (header data).isSome →
    ∀ d, (filed data).find? k = some d → d.claimsReady = false
  loaded : ∀ data, c.op = .loadFromFile (some data) → (header data).isSome →
    ∀ d, (filed data).find? k = some d → d.claimsReady = false ∨
      (decodeStateInternal data s).result = .ok () ∧
        (distrust (decodeStateInternal data s).state).ReassessesWhole c.clk

section Step
variable {s : HealthStore} {c : Call} {k : AcceleratorId} {d d' : Device}

/-- The devices after a decode are the ones from before, or the records of the image. -/
theorem find?_decode (data : Bytes) (s : HealthStore) :
    (decodeStateInternal data s).state = s ∨
      (header data).isSome = true ∧ (decodeStateInternal data s).state.devices = filed data := by
  by_cases hheader : (header data).isSome = true
  · rcases decode_devices data s with heq | ⟨heq, -⟩
    · exact Or.inl heq
    · exact Or.inr ⟨hheader, heq⟩
  · obtain ⟨e, he⟩ := decode_of_header_none (by simpa using hheader) s
    rw [he]
    exact Or.inl rfl

/-- What a load makes of the device `k`. What each of its reassessments gives where it
returns, and keeps where it is cut short, holds after the load; for a file that is not
accepted it is to hold of the decoded record. -/
theorem reassessed_load {P : Device → Prop} {data : Bytes}
    (hop : c.op = .loadFromFile (some data))
    (hdecoded : (loadInternal c.clk (some data) s).result ≠ .ok (.ok ()) →
      ∀ d, (decodeStateInternal data s).state.devices.find? k = some d → P d)
    (hdistrust : ∀ d, P d → P { d with requiresRevalidation := true })
    (hwhole : ∀ clk m, Reassesses s c k clk m → ¬Tears (clk 0) m → P (reassessLocked clk m).state.d)
    (hkeeps : ∀ clk m, Reassesses s c k clk m → P m.d → P (reassessLocked clk m).state.d) :
    ∀ d', (loadInternal c.clk (some data) s).state.devices.find? k = some d' → P d' := by
  by_cases haccepted : (loadInternal c.clk (some data) s).result = .ok (.ok ())
  · intro d' hk
    have hok := (load_accepted_iff.mp haccepted).1
    obtain ⟨d, hd, -⟩ := reassessAll_device (load_state haccepted ▸ hk)
    obtain ⟨i, s₁, hturn, hs₁, hres, hfind⟩ := load_turn haccepted hd
    cases hk.symm.trans hfind
    exact hwhole _ _ (.restored (l := ⟨s₁, d⟩) hop hok hturn hd rfl hs₁.policy)
      (reassessLocked_returns_iff.mp hres)
  · have hdistrusted := fun d hd => hdistrust d (hdecoded haccepted d hd)
    refine loadInternal_leaves (P := fun t => ∀ d', t.devices.find? k = some d' → P d')
      (fun _ => hdecoded haccepted) fun hok d' hk => ?_
    -- The loop is cut short: a record behind the break is as it was decoded.
    obtain ⟨d, i, hd, hturn, hcase⟩ :=
      forDevices_turn (fun i l => (advances_reassessLocked (c.clk.drop (2 * i)) l).continues) hk
    obtain ⟨d₀, hd₀, rfl⟩ := find?_distrust hd
    rcases hcase with rfl | ⟨s₁, hs₁, rfl⟩
    · exact hdistrusted d₀ hd₀
    · exact hkeeps _ _ (.restored (l := ⟨s₁, _⟩) hop hok hturn hd rfl hs₁.policy)
        (hdistrusted d₀ hd₀)

theorem Withholds.unready_load {data : Bytes} (h : s.Withholds k c)
    (hop : c.op = .loadFromFile (some data))
    (hs : ∀ d, s.devices.find? k = some d → d.claimsReady = false) :
    ∀ d, (loadInternal c.clk (some data) s).state.devices.find? k = some d →
      d.claimsReady = false := by
  refine reassessed_load hop (fun hcut d hd => ?_) (fun _ h => h)
    (fun clk m hreassesses => (h.reassessed clk m hreassesses).claimsReady_of_whole)
    fun clk m hreassesses => (h.reassessed clk m hreassesses).claimsReady
  rcases find?_decode data s with heq | ⟨hheader, heq⟩
  · exact hs d (heq ▸ hd)
  · rcases h.loaded data hop hheader d (heq ▸ hd) with hnot | hwhole
    · exact hnot
    · exact absurd (load_accepted_iff.mpr hwhole) hcut

theorem Outcome.unready (h : Outcome s c k d d') (hd : s.devices.find? k = some d)
    (hwithholds : s.Withholds k c) (hnot : d.claimsReady = false) : d'.claimsReady = false := by
  rcases h.reassessed hd with hkept | ⟨clk, m, hreassesses, hclaims, rfl⟩
  · exact hkept.trans hnot
  · exact (hwithholds.reassessed clk m hreassesses).claimsReady (hclaims.trans hnot)

theorem step_unready (hwithholds : s.Withholds k c)
    (hs : ∀ d, s.devices.find? k = some d → d.claimsReady = false) :
    ∀ d', (s.step c).devices.find? k = some d' → d'.claimsReady = false := by
  intro d' hk
  by_cases hload : c.op.loads = true
  · rcases step_loads (s := s) hload with ⟨data, hop, hstep⟩ | ⟨-, hstep⟩ | ⟨data, hop, hstep⟩ <;>
      rw [hstep] at hk
    · rcases find?_decode data s with heq | ⟨hheader, heq⟩
      · exact hs d' (heq ▸ hk)
      · exact hwithholds.decoded data hop hheader d' (heq ▸ hk)
    · exact hs d' hk
    · exact hwithholds.unready_load hop hs d' hk
  · rcases step_outcome (by simpa using hload) hk with ⟨d, hd, houtcome⟩ | ⟨uuid, node, -, rfl⟩
    · exact houtcome.unready hd hwithholds (hs d hd)
    · rfl

/-! ### Where a failed validation takes a ready device out of service -/

/-- If the device `k` is ready the call comes to reassess it and completes that. -/
def Concludes (k : AcceleratorId) (s : HealthStore) (c : Call) : Prop :=
  ∀ d, s.devices.find? k = some d → d.claimsReady →
    ∃ clk m, Enters s c k ⟨s, d⟩ clk m ∧ ¬Tears (clk 0) m

/-- What is left of the device `k` by a validation that comes to reassess it. -/
theorem find?_step_validation {passed : Bool} (hop : c.op.Validates k passed)
    (hd : s.devices.find? k = some d) {clk : Readings} {m : Locked}
    (henters : Enters s c k ⟨s, d⟩ clk m) :
    (s.step c).devices.find? k = some (reassessLocked clk m).state.d := by
  obtain ⟨v, -, ⟨hop, rfl⟩ | hop⟩ := hop
  · have hstep : s.step c = (s.recordValidation c.clk v).state := by
      unfold step exec
      rw [hop]
      rfl
    rw [hstep]
    unfold recordValidation
    rw [find?_onDevice_self hd (advances_recordValidation ..).continues]
    cases henters with
    | validation hop' =>
      cases hop.symm.trans hop'
      rfl
    | fault hop' | quarantine hop' | clear hop' | recovery hop' | revalidation hop' | reassess hop'
    | reassessAll hop' | policy hop' => cases hop.symm.trans hop'
  · have hstep : s.step c = (s.revalidate c.clk k v).state := by
      unfold step exec
      rw [hop]
      rfl
    rw [hstep]
    unfold revalidate
    rw [find?_onDevice_self hd (advances_revalidate ..).continues, revalidate_state]
    cases henters with
    | revalidation hop' moved =>
      cases hop.symm.trans hop'
      rw [moved, Exit.ok_andThen]
    | fault hop' | validation hop' | quarantine hop' | clear hop' | recovery hop' | reassess hop'
    | reassessAll hop' | policy hop' => cases hop.symm.trans hop'

theorem step_failed_validation (hop : c.op.Validates k false) (hconcludes : s.Concludes k c)
    (hwithholds : s.Withholds k c) :
    ∀ d', (s.step c).devices.find? k = some d' → d'.claimsReady = false := by
  intro d' hk
  have hload : c.op.loads = false := by
    obtain ⟨v, -, ⟨hop, -⟩ | hop⟩ := hop
    · rw [hop]
      rfl
    · rw [hop]
      rfl
  rcases step_outcome hload hk with ⟨d, hd, houtcome⟩ | ⟨uuid, node, hregister, -⟩
  · by_cases hready : d.claimsReady = true
    · obtain ⟨clk, m, henters, hwhole⟩ := hconcludes d hd hready
      cases hk.symm.trans (find?_step_validation hop hd henters)
      have hpolicy : s.policy = c.op.policyIn s := by
        obtain ⟨v, -, ⟨hop, -⟩ | hop⟩ := hop
        · rw [hop]
          rfl
        · rw [hop]
          rfl
      exact (hwithholds.reassessed clk m (.entered hd rfl hpolicy henters)).claimsReady_of_whole
        hwhole
    · exact houtcome.unready hd hwithholds (by simpa using hready)
  · obtain ⟨v, -, ⟨hop, -⟩ | hop⟩ := hop
    · cases hop.symm.trans hregister
    · cases hop.symm.trans hregister

/-- A device is out of service after a failed validation, and stays so until one of it passes,
in every run no other call of which puts it into service for what else is on record. -/
theorem not_ready_after_failed_validation {calls before : List Call}
    (hop : c.op.Validates k false) (hconcludes : s.Concludes k c) (hwithholds : s.Withholds k c)
    (halong : Machine.Along step (fun s c => c.op.Validates k true ∨ s.Withholds k c)
      (s.step c) calls)
    (hbefore : before <+: calls) (hnone : ∀ c' ∈ before, ¬c'.op.Validates k true) :
    (Machine.run step s (c :: before)).NotReady k := by
  have hprefix : Machine.Along step (Withholds k) (s.step c) before := by
    obtain ⟨rest, rfl⟩ := hbefore
    have hfails : Machine.Along step (fun _ c => ¬c.op.Validates k true) (s.step c) before :=
      Machine.along_of_forall fun c' hc' _ => hnone c' hc'
    exact (hfails.and (Machine.along_append.mp halong).1).mono fun _ _ h => h.2.resolve_left h.1
  apply notReady_of_claims
  rw [Machine.run_cons]
  exact Machine.run_invariant
    (P := fun s => ∀ d, s.devices.find? k = some d → d.claimsReady = false)
    (fun s c hs hc => step_unready hc hs)
    (step_failed_validation hop hconcludes hwithholds) hprefix

/-- A device whose evidence is old is out of service whatever is recorded of it. -/
theorem withholds_of_old (hop : c.op = .reassess k ∨ ∃ v, c.op = .recordValidation v)
    (hold : ∀ d, s.devices.find? k = some d →
      (s.policy.freshnessOf d.lastObservation (c.clk 0)).isOld = true) : s.Withholds k c := by
  constructor
  · intro clk m hreassesses _ hserves
    have hfresh := hserves.fresh
    cases hreassesses with
    | @entered d l m clk tracked device policy henters =>
      have hpolicy : l.store.policy = s.policy := by
        rcases hop with hop | ⟨v, hop⟩ <;> rw [policy, hop] <;> rfl
      have hnow := hold d tracked
      rw [← device, ← hpolicy] at hnow
      cases henters with
      | validation | reassess => cases hnow.symm.trans hfresh
      | fault op | quarantine op | clear op | recovery op | revalidation op | reassessAll op
      | policy op => simp [op] at hop
    | observed op | stripped op | restored op => simp [op] at hop
  · intro data op
    simp [op] at hop
  · intro data op
    simp [op] at hop

/-- A failed validation of device 7. -/
def failedValidation : Op := .recordValidation { id := ⟨2⟩, accelerator := ⟨7⟩, depth := .full }

theorem validates_failedValidation : failedValidation.Validates ⟨7⟩ false :=
  ⟨_, rfl, Or.inl ⟨rfl, rfl⟩⟩

/-- Forty seconds later, when the evidence of a device brought up at 1 is old. -/
def muchLater : Timestamp := ⟨40000000000⟩

/-- The device is READY when its validation fails; its evidence has got old by then. -/
theorem not_ready_after_failure_on_old_evidence :
    ((after {} 0 bringUp).devices.find? ⟨7⟩).map Device.readiness = some .ready ∧
      (Machine.run step (after {} 0 bringUp) [⟨failedValidation, fun _ => muchLater⟩,
        ⟨.reassess ⟨7⟩, fun _ => muchLater⟩]).NotReady ⟨7⟩ := by
  have hold : (after {} 0 bringUp).AllDevices fun d =>
      ((after {} 0 bringUp).policy.freshnessOf d.lastObservation muchLater).isOld = true := by
    decide +kernel
  have hstays : ((after {} 0 bringUp).step ⟨failedValidation, fun _ => muchLater⟩).AllDevices
      fun d => (((after {} 0 bringUp).step
        ⟨failedValidation, fun _ => muchLater⟩).policy.freshnessOf
        d.lastObservation muchLater).isOld = true := by decide +kernel
  have hroom : (after {} 0 bringUp).AllDevices fun d => d.healthGeneration ≠ .last := by
    decide +kernel
  have hnone : ∀ c' ∈ [(⟨.reassess ⟨7⟩, fun _ => muchLater⟩ : Call)],
      ¬c'.op.Validates ⟨7⟩ true := by
    rw [List.forall_mem_singleton]
    rintro ⟨v, -, ⟨h, -⟩ | h⟩ <;> cases h
  refine ⟨by decide +kernel, not_ready_after_failed_validation validates_failedValidation ?_ ?_ ?_
    List.prefix_rfl hnone⟩
  · intro d hd _
    exact ⟨_, _, .validation rfl rfl, fun htears => hroom _ d hd htears.2⟩
  · exact withholds_of_old (Or.inr ⟨_, rfl⟩) (hold _)
  · exact ⟨Or.inr (withholds_of_old (Or.inl rfl) (hstays _)), trivial⟩

/-- A device that is READY stays so when a validation of it fails. -/
theorem failed_validation_leaves_ready : ¬∀ (s : HealthStore) (c : Call) (k : AcceleratorId)
    (calls : List Call), s.Reachable → (s.devices.find? k).isSome → c.op.Validates k false →
      (∀ c' ∈ calls, ¬c'.op.Validates k true) → (Machine.run step s (c :: calls)).NotReady k := by
  intro h
  have hnot := h (after {} 0 bringUp) (failedValidation.at 2) ⟨7⟩ [] ⟨_, _, _, rfl⟩
    (by decide +kernel) validates_failedValidation (by simp)
  have hready : ((Machine.run step (after {} 0 bringUp) [failedValidation.at 2]).devices.find?
      ⟨7⟩).map Device.readiness = some .ready := by decide +kernel
  obtain ⟨d, hd, heq⟩ := Option.map_eq_some_iff.mp hready
  exact (hnot d hd).1 heq

end Step
end HealthStore
end AcceleratorHealth
