import AcceleratorHealth.Quarantine
import AcceleratorHealth.Restart
import AcceleratorHealth.Sections

/-! A lost device. The transition table lists two ways out of LOST, to OFFLINE and, for a
device that is enumerated again, to INITIALIZING; no operation ever takes either of them,
and registering a known uuid returns its id and changes nothing. What is left is an image
that has the device in another state. -/
namespace AcceleratorHealth
open Codec Wire Locked Persistence

theorem canTransition_from_lost (toState : HealthState) :
    canTransition .lost toState = true ↔ toState = .offline ∨ toState = .initializing := by
  cases toState <;> decide

/-! ### One device -/

namespace Locked
variable {now : Timestamp} {clk : Readings} {l l' : Locked} {c : Call} {k : AcceleratorId}
  {v : ValidationRecord}

/-- No evidence, and no recovery either, asks a lost device for one of these two states. -/
theorem target_illegal_of_lost (h : l.d.state = .lost) :
    canTransition l.d.state (target now l) = false := by
  rw [h, Bool.eq_false_iff, Ne, canTransition_from_lost, not_or]
  cases hr : l.d.inRecovery with
  | true =>
    rw [target_of_inRecovery hr, h]
    exact ⟨by decide, by decide⟩
  | false =>
    have hcurrent : (assessmentInput now l).currentState = .lost := h
    rcases AssessmentInput.target_cases (i := assessmentInput now l) hr with
      ht | ht | ht | ht | ht | ht
    · rw [target, ht, hcurrent]
      exact ⟨by decide, by decide⟩
    all_goals
      rw [target, ht]
      exact ⟨by decide, by decide⟩

theorem lost_reassessLocked (h : l.d.state = .lost) :
    (reassessLocked clk l).state.d.state = .lost := by
  apply reassessLocked_state (P := fun l' => l'.d.state = .lost)
  · exact fun _ => h
  · intro g hlegal _
    rw [target_illegal_of_lost h] at hlegal
    cases hlegal
  · exact fun _ _ => h
  · intro hlegal _
    rw [target_illegal_of_lost h] at hlegal
    cases hlegal

/-- The state in which a reassessment at `now` leaves a device, whether it completes or is
torn. -/
def stateAfter (now : Timestamp) (l : Locked) : HealthState :=
  if canTransition l.d.state (target now l) then target now l else l.d.state

theorem state_reassessLocked : (reassessLocked clk l).state.d.state = stateAfter (clk 0) l := by
  unfold stateAfter
  apply reassessLocked_state (P := fun l' => l'.d.state =
    if canTransition l.d.state (target (clk 0) l) then target (clk 0) l else l.d.state)
  · intro hsame
    rw [hsame, ite_self]
    rfl
  · intro g hlegal _
    rw [if_pos hlegal]
    rfl
  · intro _ hillegal
    rw [if_neg (by simp [hillegal])]
    rfl
  · intro hlegal _
    rw [if_pos hlegal]
    rfl

/-- The restart marker has no part in it. -/
theorem stateAfter_marked {s : HealthStore} {d : Device} (hpolicy : l.store.policy = s.policy)
    (hd : l.d = { d with requiresRevalidation := true }) :
    stateAfter now l = stateAfter now ⟨s, d⟩ := by
  obtain ⟨t, d'⟩ := l
  subst hd
  have htarget : target now ⟨t, { d with requiresRevalidation := true }⟩ = target now ⟨s, d⟩ := by
    unfold target assessmentInput
    simp only [show t.policy = s.policy from hpolicy]
    rfl
  unfold stateAfter
  rw [htarget]

/-- A transition to another state than these two is refused. -/
theorem lost_applyTransitionLocked {toState : HealthState} {label detail : Str}
    (h : l.d.state = .lost) (hto : toState ≠ .offline ∧ toState ≠ .initializing) :
    (applyTransitionLocked now toState label detail l).state.d.state = .lost := by
  have hillegal : canTransition l.d.state toState = false := by
    rw [h, Bool.eq_false_iff, Ne, canTransition_from_lost, not_or]
    exact hto
  apply applyTransitionLocked_state (P := fun l' => l'.d.state = .lost) h
  · intro hlegal _
    rw [hillegal] at hlegal
    cases hlegal
  · intro g hlegal _
    rw [hillegal] at hlegal
    cases hlegal

/-- A validation counts in a recovery that is still open, but moves nothing. -/
theorem lost_recoveryStep (h : l.d.state = .lost) :
    (recoveryStep clk v l).state.d.state = .lost := by
  unfold recoveryStep recoveryPassed recoveryFailed
  split_ifs with hin hpassed hstate hmoves
  · rw [h] at hstate
    cases hstate.1
  · simp only [Exit.ok_andThen]
    have hopen : revalidated (countSuccess l) = false := by
      unfold revalidated
      rw [show (countSuccess l).d.state = .lost from h]
      rfl
    rw [if_neg (by simp [hopen])]
    exact h
  · rw [h] at hmoves
    rcases hmoves with hmoves | hmoves <;> cases hmoves
  · exact h
  · exact h

theorem lost_closeQuarantine {id : AcceleratorId} (h : l.d.state = .lost) :
    (closeQuarantine id l).d.state = .lost := by
  unfold closeQuarantine
  split <;> exact h

/-- No body brings a lost device into another state. -/
theorem Touch.lost_state (htouch : Touch c k l l') (h : l.d.state = .lost) :
    l'.d.state = .lost := by
  cases htouch with
  | @observation obs env op _ =>
    unfold acceptObservation
    split
    · exact h
    · have htaken : (takeObservation obs env l).d.state = .lost := by
        unfold takeObservation
        simp only
        split_ifs <;> exact h
      exact Exit.state_andThen (P := fun l' : Locked => l'.d.state = .lost)
        (lost_reassessLocked htaken) fun _ h => h
  | fault =>
    unfold recordFault
    split
    · exact h
    · exact lost_reassessLocked h
  | validation => exact lost_reassessLocked h
  | quarantine =>
    unfold beginQuarantine
    split_ifs
    · exact h
    · apply Exit.state_andThen (P := fun l' : Locked => l'.d.state = .lost)
      · exact lost_applyTransitionLocked h ⟨by decide, by decide⟩
      · exact fun _ h => lost_reassessLocked h
  | clear => exact lost_reassessLocked (lost_closeQuarantine h)
  | recovery =>
    unfold beginRecovery
    split_ifs with hin hlegal
    · exact h
    · exact h
    · rw [h] at hlegal
      exact absurd rfl hlegal
  | revalidation =>
    rw [revalidate_state]
    apply Exit.state_andThen (P := fun l' : Locked => l'.d.state = .lost)
    · exact lost_recoveryStep h
    · exact fun _ h => lost_reassessLocked h
  | lost =>
    unfold markLost
    simp only
    rw [if_pos h]
    exact h
  | reassess => exact lost_reassessLocked h
  | orphan =>
    unfold HealthStore.orphan
    split_ifs
    · exact lost_reassessLocked h
    · exact h
  | policy => exact lost_reassessLocked h
  | policySkipped => exact h

end Locked

/-! ### Runs -/

/-- The call puts no other record of the device in place of the store's own: an image that
is decoded or loaded lists it as LOST. -/
def Call.LeavesLost (k : AcceleratorId) (u : DeviceUuid) (c : Call) : Prop :=
  ∀ data, c.op = .decode data ∨ c.op = .loadFromFile (some data) → (header data).isSome →
    ∃ r ∈ records data, r.id = k ∧ r.uuid = u ∧ r.state = .lost

namespace HealthStore
variable {s : HealthStore} {c : Call} {k : AcceleratorId} {u : DeviceUuid} {data : Bytes}

/-- The uuid is known, and the device with this id and uuid is lost. -/
structure LostAt (k : AcceleratorId) (u : DeviceUuid) (s : HealthStore) : Prop where
  known : u ∈ s.uuidIndex.keys
  lost : ∀ d, s.devices.find? k = some d → d.uuid = u → d.state = .lost

theorem lostAt_decode (hs : s.LostAt k u) (himage : (header data).isSome →
    ∃ r ∈ records data, r.id = k ∧ r.uuid = u ∧ r.state = .lost) :
    (decodeStateInternal data s).state.LostAt k u := by
  cases hh : (header data).isSome with
  | false =>
    obtain ⟨e, he⟩ := decode_of_header_none (by simpa using hh) s
    rw [he]
    exact hs
  | true =>
    obtain ⟨r, hr, hid, huuid, hlost⟩ := himage hh
    constructor
    · rcases decode_devices data s with heq | ⟨-, heq⟩
      · rw [heq]
        exact hs.known
      · rw [heq, OrdMap.mem_keys_insertAll, List.map_map]
        exact Or.inr (List.mem_map.mpr ⟨r, hr, huuid⟩)
    · intro d hd hdu
      obtain ⟨hmem, -⟩ := decode_device_of_header hh hd
      have hsame : d = r :=
        List.inj_on_of_nodup_map (records_uuids data) hmem hr (hdu.trans huuid.symm)
      rw [hsame]
      exact hlost

theorem uuidIndex_loadInternal (clk : Readings) :
    (loadInternal clk (some data) s).state.uuidIndex =
      (decodeStateInternal data s).state.uuidIndex :=
  loadInternal_leaves (P := fun t => t.uuidIndex = (decodeStateInternal data s).state.uuidIndex)
    (fun _ => rfl) fun _ => (reassessAll_evolves clk _).uuidIndex

theorem lostAt_load {clk : Readings} (hs : s.LostAt k u) (himage : (header data).isSome →
    ∃ r ∈ records data, r.id = k ∧ r.uuid = u ∧ r.state = .lost) :
    (loadInternal clk (some data) s).state.LostAt k u := by
  have hdecoded := lostAt_decode hs himage
  constructor
  · rw [uuidIndex_loadInternal]
    exact hdecoded.known
  · apply loadInternal_device (P := fun d => d.uuid = u → d.state = .lost) hdecoded.lost
    · exact fun _ h => h
    · intro clk' l h huuid
      have hkeeps := (advances_reassessLocked clk' l).continues
      exact lost_reassessLocked (h (hkeeps.uuid ▸ huuid))

/-- One call. A registration that draws the id files another uuid under it. -/
theorem step_lostAt (hs : s.LostAt k u) (hc : c.LeavesLost k u) : (s.step c).LostAt k u := by
  by_cases hload : c.op.loads = false
  · constructor
    · by_cases hreg : ∃ uuid node, c.op = .registerDevice uuid node
      · obtain ⟨uuid, node, hop⟩ := hreg
        simp only [step, exec, hop, registerDevice]
        split
        · exact hs.known
        · exact OrdMap.mem_keys_insert.mpr (Or.inr hs.known)
      · rw [(step_frame hload fun uuid node h => hreg ⟨uuid, node, h⟩).uuidIndex]
        exact hs.known
    · intro d' hd' huuid
      rcases step_device hload hd' with ⟨d, hd, rfl | ⟨l, l', rfl, -, htouch, rfl⟩⟩ |
        ⟨uuid, node, -, hnone, -, rfl⟩
      · exact hs.lost d' hd huuid
      · exact htouch.lost_state (hs.lost l.d hd (htouch.continues.uuid ▸ huuid))
      · obtain ⟨id, hid⟩ := OrdMap.mem_keys_iff.mp hs.known
        have hnew : uuid = u := huuid
        rw [hnew, hid] at hnone
        cases hnone
  · rcases step_loads (s := s) (Bool.of_not_eq_false hload) with
      ⟨data, hop, hstep⟩ | ⟨-, hstep⟩ | ⟨data, hop, hstep⟩ <;> rw [hstep]
    · exact lostAt_decode hs (hc data (Or.inl hop))
    · exact hs
    · exact lostAt_load hs (hc data (Or.inr hop))

theorem run_lostAt {calls : List Call} (hs : s.LostAt k u)
    (hcalls : ∀ c ∈ calls, c.LeavesLost k u) : (Machine.run step s calls).LostAt k u := by
  induction calls generalizing s with
  | nil => exact hs
  | cons c rest ih =>
    rw [List.forall_mem_cons] at hcalls
    exact ih (step_lostAt hs hcalls.1) hcalls.2

theorem lostAt_of_lost (hs : s.Reachable) {d : Device} (hd : s.devices.find? k = some d)
    (hlost : d.state = .lost) : s.LostAt k d.uuid := by
  constructor
  · exact OrdMap.mem_keys_iff.mpr ⟨k, (reachable_filed hs k d hd).2⟩
  · intro d₁ hd₁ _
    obtain rfl : d = d₁ := Option.some.inj (hd.symm.trans hd₁)
    exact hlost

/-! ### Which calls bring it back -/

/-- An image with a header has its records in place of all that the target had. -/
theorem decode_files_records {h : Header} {r : Reader} (hh : header data = some (h, r)) :
    (decodeStateInternal data s).state.devices = filed data := by
  generalize hx : decodeStateInternal data s = x
  have hcases := hx ▸ decode_cases data s
  cases hcases with
  | refusedEarly noHeader =>
    rw [noHeader] at hh
    cases hh
  | refusedLate => rfl
  | accepted _ hl =>
    rw [Exit.ok_state, (finishLoad_fields _).1, hl]
    rfl

theorem header_of_filed {r : Device} (hr : (filed data).find? k = some r) :
    ∃ h rest, header data = some (h, rest) := by
  cases hh : header data with
  | none =>
    have hnone : records data = [] := by simp [records, hh]
    rw [filed, hnone] at hr
    cases hr
  | some hr' => exact ⟨_, _, rfl⟩

theorem decode_files {r : Device} (hr : (filed data).find? k = some r) :
    (decodeStateInternal data s).state.devices = filed data := by
  obtain ⟨h, rest, hh⟩ := header_of_filed hr
  exact decode_files_records hh

/-- An accepted image brings its policy with it. -/
theorem decode_policy {h : Header} {r : Reader} (hh : header data = some (h, r))
    (hok : (decodeStateInternal data s).result = .ok ()) :
    (decodeStateInternal data s).state.policy = h.policy := by
  generalize hx : decodeStateInternal data s = x at hok
  have hcases := hx ▸ decode_cases data s
  cases hcases with
  | refusedEarly | refusedLate => cases hok
  | accepted hh' hl =>
    rw [hh] at hh'
    cases hh'
    rw [Exit.ok_state, (finishLoad_fields _).2.2.1, hl]
    rfl

/-- A device that a decode has not left lost is a record of the image. -/
theorem filed_of_decode (hs : s.LostAt k u) {d : Device}
    (hd : (decodeStateInternal data s).state.devices.find? k = some d) (hu : d.uuid = u)
    (hback : d.state ≠ .lost) : (filed data).find? k = some d := by
  rcases decode_devices data s with heq | ⟨heq, -⟩
  · rw [heq] at hd
    exact absurd (hs.lost d hd hu) hback
  · rw [heq] at hd
    exact hd

theorem target_ne_lost {now : Timestamp} {l : Locked} (h : l.d.state ≠ .lost) :
    target now l ≠ .lost := by
  cases hr : l.d.inRecovery with
  | true =>
    rw [target_of_inRecovery hr]
    cases hstate : l.d.state <;> simp_all [AssessmentInput.recoveryTarget]
  | false =>
    rcases AssessmentInput.target_cases (i := assessmentInput now l) hr with
      ht | ht | ht | ht | ht | ht
    · rw [target, ht]
      exact h
    all_goals
      rw [target, ht]
      decide

theorem back_reassessLocked {clk : Readings} {l : Locked} (h : l.d.state ≠ .lost) :
    (reassessLocked clk l).state.d.state ≠ .lost := by
  apply reassessLocked_state (P := fun l' => l'.d.state ≠ .lost)
  · exact fun _ => h
  · exact fun _ _ _ => target_ne_lost h
  · exact fun _ _ => h
  · exact fun _ _ => target_ne_lost h

/-- The call puts a record of the device in another state in place of the store's own. -/
def BringsBack (k : AcceleratorId) (u : DeviceUuid) (c : Call) : Prop :=
  ∃ data r, (c.op = .decode data ∨ c.op = .loadFromFile (some data)) ∧
    (filed data).find? k = some r ∧ r.uuid = u ∧ r.state ≠ .lost

theorem load_restores {clk : Readings} {r : Device} (hr : (filed data).find? k = some r)
    (hu : r.uuid = u) (hback : r.state ≠ .lost) :
    ∃ d', (loadInternal clk (some data) s).state.devices.find? k = some d' ∧ d'.uuid = u ∧
      d'.state ≠ .lost := by
  have hdecoded : (decodeStateInternal data s).state.devices.find? k = some r := by
    rw [decode_files hr]
    exact hr
  have hkeys : k ∈ (loadInternal clk (some data) s).state.devices.keys := by
    refine loadInternal_leaves (P := fun t => k ∈ t.devices.keys)
      (fun _ => OrdMap.mem_keys_iff.mpr ⟨r, hdecoded⟩) fun _ => ?_
    rw [(reassessAll_evolves clk _).keys]
    exact OrdMap.mem_keys_iff.mpr ⟨{ r with requiresRevalidation := true }, by
      simp only [distrust, OrdMap.find?_mapValues, hdecoded, Option.map_some]⟩
  obtain ⟨d', hd'⟩ := OrdMap.mem_keys_iff.mp hkeys
  have hkeeps : d'.uuid = u ∧ d'.state ≠ .lost := by
    refine loadInternal_device (P := fun d => d.uuid = u ∧ d.state ≠ .lost) ?_ (fun _ h => h) ?_
      d' hd'
    · intro d hd
      cases hdecoded.symm.trans hd
      exact ⟨hu, hback⟩
    · intro clk' l h
      have hcontinues := (advances_reassessLocked clk' l).continues
      exact ⟨hcontinues.uuid.trans h.1, back_reassessLocked h.2⟩
  exact ⟨d', hd', hkeeps⟩

theorem step_decode (hop : c.op = .decode data) :
    s.step c = (decodeStateInternal data s).state := by
  unfold step exec
  rw [hop]
  rfl

/-- One call takes the device out of LOST exactly when it loads an image that files it in
another state. -/
theorem step_returns_iff (hs : s.LostAt k u) :
    (∃ d', (s.step c).devices.find? k = some d' ∧ d'.uuid = u ∧ d'.state ≠ .lost) ↔
      BringsBack k u c := by
  constructor
  · rintro ⟨d', hd', hu, hback⟩
    by_cases hload : c.op.loads = false
    · have hleaves : c.LeavesLost k u := by
        intro data hop
        rcases hop with hop | hop <;> simp [hop, Op.loads] at hload
      exact absurd ((step_lostAt hs hleaves).lost d' hd' hu) hback
    · rcases step_loads (s := s) (Bool.of_not_eq_false hload) with
        ⟨data, hop, hstep⟩ | ⟨-, hstep⟩ | ⟨data, hop, hstep⟩ <;> rw [hstep] at hd'
      · exact ⟨data, d', Or.inl hop, filed_of_decode hs hd' hu hback, hu, hback⟩
      · exact absurd (hs.lost d' hd' hu) hback
      · by_contra hnot
        have hdecoded : ∀ d, (decodeStateInternal data s).state.devices.find? k = some d →
            d.uuid = u → d.state = .lost := by
          intro d hd hdu
          by_contra hstate
          exact hnot ⟨data, d, Or.inr hop, filed_of_decode hs hd hdu hstate, hdu, hstate⟩
        refine hback (loadInternal_device (P := fun d => d.uuid = u → d.state = .lost) hdecoded
          (fun _ h => h) (fun clk' l h huuid => ?_) d' hd' hu)
        have hkeeps := (advances_reassessLocked clk' l).continues
        exact lost_reassessLocked (h (hkeeps.uuid ▸ huuid))
  · rintro ⟨data, r, hop | hop, hr, hu, hback⟩
    · exact ⟨r, by rw [step_decode hop, decode_files hr, hr], hu, hback⟩
    · simp only [step, exec, hop]
      exact load_restores hr hu hback

/-- A decode leaves the device HEALTHY exactly when the image files it so. -/
theorem decode_returns_iff (hs : s.LostAt k u) (hop : c.op = .decode data) :
    (∃ d', (s.step c).devices.find? k = some d' ∧ d'.uuid = u ∧ d'.state = .healthy) ↔
      ∃ r, (filed data).find? k = some r ∧ r.uuid = u ∧ r.state = .healthy := by
  rw [step_decode hop]
  constructor
  · rintro ⟨d', hd', hu, hhealthy⟩
    have hback : d'.state ≠ .lost := by
      rw [hhealthy]
      decide
    exact ⟨d', filed_of_decode hs hd' hu hback, hu, hhealthy⟩
  · rintro ⟨r, hr, hu, hhealthy⟩
    exact ⟨r, by rw [decode_files hr, hr], hu, hhealthy⟩

/-- The file has the device HEALTHY, when it is refused, as it lists it; when it is accepted,
as its reassessment leaves it, under the policy of the file and at the reading of its turn. -/
def LoadsHealthy (clk : Readings) (k : AcceleratorId) (u : DeviceUuid) (data : Bytes)
    (s : HealthStore) : Prop :=
  ∃ r, (filed data).find? k = some r ∧ r.uuid = u ∧
    ((decodeStateInternal data s).result ≠ .ok () ∧ r.state = .healthy ∨
      (decodeStateInternal data s).result = .ok () ∧
        ∃ h rest i, header data = some (h, rest) ∧ (k, i) ∈ (filed data).keys.zipIdx ∧
          stateAfter (clk (2 * i)) ⟨init h.policy 0, r⟩ = .healthy)

/-- A file that is refused leaves the devices as a decode does. -/
theorem load_refused {clk : Readings} (h : (decodeStateInternal data s).result ≠ .ok ()) :
    (loadInternal clk (some data) s).state = (decodeStateInternal data s).state :=
  loadInternal_leaves (P := fun t => t = (decodeStateInternal data s).state)
    (fun _ => rfl) fun hok => absurd hok h

/-- What the turn of a record in an accepted file comes to. -/
theorem load_settles {clk : Readings} {h : Header} {rest : Reader} {r : Device} {i : Nat}
    (haccepted : (loadInternal clk (some data) s).result = .ok (.ok ()))
    (hh : header data = some (h, rest)) (hr : (filed data).find? k = some r)
    (hturn : (k, i) ∈ (filed data).keys.zipIdx) :
    ∃ d', (loadInternal clk (some data) s).state.devices.find? k = some d' ∧ d'.uuid = r.uuid ∧
      d'.state = stateAfter (clk (2 * i)) ⟨init h.policy 0, r⟩ := by
  have hok := (load_accepted_iff.mp haccepted).1
  have hkeys : (distrust (decodeStateInternal data s).state).devices.keys = (filed data).keys := by
    rw [distrust, OrdMap.keys_mapValues, decode_files_records hh]
  have hd : (distrust (decodeStateInternal data s).state).devices.find? k =
      some { r with requiresRevalidation := true } := by
    rw [distrust, OrdMap.find?_mapValues, decode_files_records hh, hr]
    rfl
  obtain ⟨s₁, hs₁, -, hfind⟩ := load_at_turn haccepted (hkeys ▸ hturn) hd
  have hpolicy : s₁.policy = h.policy := hs₁.policy.trans (decode_policy hh hok)
  exact ⟨_, hfind, (advances_reassessLocked ..).continues.uuid,
    state_reassessLocked.trans (stateAfter_marked hpolicy rfl)⟩

/-- A file leaves the device HEALTHY exactly when it has it so. -/
theorem load_returns_iff (hs : s.LostAt k u) (hop : c.op = .loadFromFile (some data))
    (hroom : ∀ r ∈ records data, r.healthGeneration ≠ .last) :
    (∃ d', (s.step c).devices.find? k = some d' ∧ d'.uuid = u ∧ d'.state = .healthy) ↔
      LoadsHealthy c.clk k u data s := by
  have hstep : s.step c = (loadInternal c.clk (some data) s).state := by
    simp only [step, exec, hop]
    rfl
  have hhealthy : HealthState.healthy ≠ .lost := by decide
  rw [hstep]
  by_cases hok : (decodeStateInternal data s).result = .ok ()
  · have haccepted : (loadInternal c.clk (some data) s).result = .ok (.ok ()) :=
      load_of_room hok hroom
    obtain ⟨⟨h, rest⟩, hh⟩ := Option.isSome_iff_exists.mp (header_of_ok hok)
    constructor
    · rintro ⟨d', hd', hu, hstate⟩
      obtain ⟨d, hd, -⟩ := reassessAll_device (load_state haccepted ▸ hd')
      obtain ⟨r, hr, rfl⟩ := find?_distrust hd
      rw [decode_files_records hh] at hr
      obtain ⟨i, hturn⟩ : ∃ i, (k, i) ∈ (filed data).keys.zipIdx := by
        rw [← decode_files_records (s := s) hh] at hr ⊢
        exact exists_turn hr
      obtain ⟨d₁, hd₁, huuid, hsettled⟩ := load_settles haccepted hh hr hturn
      cases hd'.symm.trans hd₁
      exact ⟨r, hr, huuid.symm.trans hu, Or.inr ⟨hok, h, rest, i, hh, hturn,
        hsettled.symm.trans hstate⟩⟩
    · rintro ⟨r, hr, hu, ⟨hrefused, -⟩ | ⟨-, h', rest', i, hh', hturn, hstate⟩⟩
      · exact absurd hok hrefused
      · obtain ⟨d', hd', huuid, hsettled⟩ := load_settles haccepted hh' hr hturn
        exact ⟨d', hd', huuid.trans hu, hsettled.trans hstate⟩
  · rw [load_refused hok]
    constructor
    · rintro ⟨d', hd', hu, hstate⟩
      exact ⟨d', filed_of_decode hs hd' hu (hstate ▸ hhealthy), hu, Or.inl ⟨hok, hstate⟩⟩
    · rintro ⟨r, hr, hu, ⟨-, hstate⟩ | ⟨hok', -⟩⟩
      · exact ⟨r, by rw [decode_files hr, hr], hu, hstate⟩
      · exact absurd hok' hok

/-- Device 7 is registered and then marked lost. -/
def lostSeven : List Call := [(Op.registerDevice ⟨7⟩ ⟨1⟩).at 1, (Op.markLost ⟨7⟩ []).at 2]

end HealthStore
end AcceleratorHealth
