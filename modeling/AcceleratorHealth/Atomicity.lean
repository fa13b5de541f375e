import AcceleratorHealth.Loads
import AcceleratorHealth.Agreement
import AcceleratorHealth.Evidence

/-! Calls that throw. A check made before the first write refuses the call and leaves
everything as it was; every later throw leaves its mark on the device that was worked on. -/
namespace AcceleratorHealth
open Locked

namespace Track
variable {t t₁ t' : Track}

/-- Another entry in the change log, or another state. -/
inductive Altered (t t' : Track) : Prop
  | logged (longer : t.changes.length < t'.changes.length)
  | torn (log : t'.changes = t.changes) (state : t'.state ≠ t.state)

theorem Altered.ne (h : Altered t t') : t' ≠ t := by
  rintro rfl
  cases h with
  | logged longer => exact Nat.lt_irrefl _ longer
  | torn _ state => exact state rfl

theorem Moves.eq_or_longer (h : Moves t t') : t' = t ∨ t.changes.length < t'.changes.length := by
  induction h with
  | refl => exact Or.inl rfl
  | tail _ hmove ih =>
    right
    cases hmove with
    | mk legal next fromState_eq toState_eq generation_eq =>
      simp only [List.length_append, List.length_singleton]
      rcases ih with rfl | ih <;> omega

theorem Moves.altered (h : Moves t t₁) (h' : Altered t₁ t') : Altered t t' := by
  rcases h.eq_or_longer with rfl | hlonger
  · exact h'
  · cases h' with
    | logged longer => exact .logged (hlonger.trans longer)
    | torn log _ => exact .logged (by rw [log]; exact hlonger)

theorem Tear.altered (h : Tear t t') : Altered t t' := by
  cases h with
  | mk legal spent => exact .torn rfl (canTransition_ne legal).symm

/-- Once the log has grown, nothing that follows takes that back. -/
theorem Ends.longer (h : Ends t₁ t') (hlonger : t.changes.length < t₁.changes.length) :
    Altered t t' := by
  obtain ⟨t₂, hmoves, hend⟩ := h
  have hlog : t'.changes = t₂.changes := by
    rcases hend with rfl | ⟨_, _⟩ <;> rfl
  refine .logged (hlonger.trans_le ?_)
  rw [hlog]
  rcases hmoves.eq_or_longer with rfl | h
  · exact Nat.le_refl _
  · exact Nat.le_of_lt h

end Track

namespace Locked
variable {clk : Readings} {now : Timestamp} {l l' : Locked} {α β : Type}

/-- A body whose every throw leaves its mark on the device. -/
def Marks (l : Locked) (x : Exit Exn Locked α) : Prop :=
  x.Sat (fun _ l' => Track.Moves l.d.track l'.d.track)
    fun _ l' => Track.Altered l.d.track l'.d.track

theorem Marks.ok {a : α} (h : l'.d.track = l.d.track) : Marks l (.ok a l') := by
  change Track.Moves l.d.track l'.d.track
  rw [h]

/-- An edit of other fields beforehand makes no difference. -/
theorem Marks.after {x : Exit Exn Locked α} {t : Locked} (h : t.d.track = l.d.track)
    (hx : Marks t x) : Marks l x := by
  unfold Marks at hx ⊢
  rwa [← h]

theorem Marks.andThen {x : Exit Exn Locked Unit} {f : Locked → Exit Exn Locked β}
    (h : Marks l x) (hf : ∀ l', Marks l' (f l')) : Marks l (x.andThen f) :=
  Exit.Sat.andThen h fun l' hl' =>
    (hf l').mono (fun _ _ h => hl'.trans h) fun _ _ h => hl'.altered h

theorem marks_applyTransitionLocked {toState : HealthState} (label detail : Str)
    (h : l.d.state ≠ toState → canTransition l.d.state toState) :
    Marks l (applyTransitionLocked now toState label detail l) :=
  applyTransitionLocked_sat (fun _ => .refl)
    (fun hne hillegal => absurd (h hne) (by simp [hillegal]))
    (fun legal spent => (Track.Tear.mk legal spent).altered)
    fun _ legal next => .single (.mk legal next rfl rfl rfl)

theorem marks_reassessLocked (clk : Readings) (l : Locked) : Marks l (reassessLocked clk l) :=
  reassessLocked_sat (fun _ => .refl)
    (fun _ legal next => .single (.mk legal next rfl rfl rfl)) (fun _ _ => .refl)
    fun legal spent => (Track.Tear.mk legal spent).altered

theorem marks_acceptObservation (clk : Readings) (obs : AcceleratorObservation)
    (env : AuthorityEnvelope) (l : Locked) : Marks l (acceptObservation clk obs env l) := by
  unfold acceptObservation
  split
  · exact .ok rfl
  · refine .andThen (.after ?_ (marks_reassessLocked clk _)) fun _ => .ok rfl
    unfold takeObservation
    simp only
    split_ifs <;> rfl

theorem marks_recoveryStep (clk : Readings) (v : ValidationRecord) (l : Locked) :
    Marks l (recoveryStep clk v l) := by
  unfold recoveryStep
  split_ifs
  · unfold recoveryPassed
    refine .andThen ?_ fun l' => ?_
    · split_ifs with henter
      · exact marks_applyTransitionLocked _ _ fun _ => henter.2
      · exact .ok rfl
    · simp only
      split_ifs with hdone
      · have hstate : (countSuccess l').d.state = .revalidating := by
          simp only [revalidated, Bool.and_eq_true, decide_eq_true_eq] at hdone
          exact hdone.1
        refine .after (t := countSuccess l') rfl (.andThen ?_ fun _ => .ok rfl)
        exact marks_applyTransitionLocked _ _ fun _ => by rw [hstate]; rfl
      · exact .ok rfl
  · unfold recoveryFailed
    split_ifs with hstate
    · refine marks_applyTransitionLocked _ _ fun _ => ?_
      rcases hstate with h | h <;> rw [h] <;> rfl
    · exact .ok rfl
  · exact .ok rfl

theorem marks_revalidate (clk : Readings) (v : ValidationRecord) (l : Locked) :
    Marks l (revalidate clk v l) := by
  unfold revalidate
  exact .after (t := addValidation v l) rfl (.andThen (marks_recoveryStep clk v _) fun l' =>
    .andThen (marks_reassessLocked _ l') fun _ => .ok rfl)

theorem marks_markLost (now : Timestamp) (reason : Str) (l : Locked) :
    Marks l (markLost now reason l) := by
  unfold markLost
  simp only
  split_ifs with hlost hlegal
  · exact .ok rfl
  · exact .after (t := { l with d := { l.d with present := false } }) rfl
      (marks_applyTransitionLocked _ _ fun _ => hlegal)
  · exact absurd (canTransition_lost hlost) hlegal

theorem marks_orphan (clk : Readings) (worker : WorkerId) (boot : WorkerBootId) (l : Locked) :
    Marks l (HealthStore.orphan clk worker boot l) := by
  unfold HealthStore.orphan
  split_ifs
  · exact .after (t := { l with d :=
      { l.d with lastObservation := {}, deviceGenerationChangedFlag := false } }) rfl
      (marks_reassessLocked clk _)
  · exact .ok rfl

theorem marks_clearQuarantine (clk : Readings) (id : AcceleratorId) (l : Locked) :
    Marks l (clearQuarantine clk id l) := by
  refine .after ?_ (marks_reassessLocked clk (closeQuarantine id l))
  unfold closeQuarantine
  split <;> rfl

/-! ### The two bodies with a check of their own -/

/-- A recovery that has begun has changed the log before anything can go wrong, unless
the first transition is torn. -/
theorem beginRecovery_sat (hin : l.d.inRecovery = false)
    (hlegal : canTransition l.d.state .recovering) :
    (beginRecovery clk l).Sat (fun _ _ => True)
      fun _ l' => Track.Altered l.d.track l'.d.track := by
  unfold beginRecovery
  rw [if_neg (by simp [hin]), if_neg (by simp [hlegal])]
  refine Exit.Sat.andThen (P := fun l' => l.d.track.changes.length < l'.d.track.changes.length) ?_
    fun l' hl' => ?_
  · refine Exit.Sat.andThen (P := fun l' => l.d.track.changes.length < l'.d.track.changes.length) ?_
      fun l' hl' => ?_
    · refine applyTransitionLocked_sat (fun h => absurd h (canTransition_ne hlegal))
        (fun _ h => absurd hlegal (by simp [h]))
        (fun legal spent => (Track.Tear.mk legal spent).altered)
        fun g _ _ => ?_
      change _ < (l.d.changes ++ [_]).length
      rw [List.length_append]
      exact Nat.lt_succ_self _
    · unfold openRecovery
      simp only
      split
      · exact Track.Altered.logged hl'
      · exact hl'
  · refine (Exit.sat_of_state (P := fun l'' : Locked => Track.Ends l'.d.track l''.d.track)
      (advances_reassessLocked _ l').continues.track).mono (fun _ _ _ => trivial)
      fun _ _ h => h.longer hl'

/-- The check that `beginRecovery` makes before its first write. -/
theorem beginRecovery_eq_refused (hin : l.d.inRecovery = false)
    (hlegal : canTransition l.d.state .recovering = false) :
    beginRecovery clk l = .throw (.invalidTransition l.d.state .recovering) l := by
  unfold beginRecovery
  rw [if_neg (by simp [hin]), if_pos (by simp [hlegal])]

/-- `beginQuarantine` finds out that the transition is illegal when the record is open. -/
theorem beginQuarantine_eq_refused {id : AcceleratorId} {authority : QuarantineAuthority}
    {reason triggeredBy : Str} (hq : l.d.quarantined = false) (hne : l.d.state ≠ .quarantined)
    (hlegal : canTransition l.d.state .quarantined = false) :
    beginQuarantine clk id authority reason triggeredBy l =
      .throw (.invalidTransition l.d.state .quarantined)
        (openQuarantine (clk 0) id authority reason triggeredBy l) := by
  unfold beginQuarantine
  rw [if_neg (by simp [hq]),
    applyTransitionLocked_eq_refused (l := openQuarantine (clk 0) id authority reason triggeredBy l)
      hne hlegal]
  rfl

end Locked

namespace HealthStore

/-- The same device records, indexes, global lists and id counters. -/
structure Untouched (s s' : HealthStore) : Prop where
  devices : s'.devices = s.devices
  uuidIndex : s'.uuidIndex = s.uuidIndex
  stateIndex : s'.stateIndex = s.stateIndex
  readinessIndex : s'.readinessIndex = s.readinessIndex
  faultIndex : s'.faultIndex = s.faultIndex
  quarantineIndex : s'.quarantineIndex = s.quarantineIndex
  staleIndex : s'.staleIndex = s.staleIndex
  globalFaults : s'.globalFaults = s.globalFaults
  globalChanges : s'.globalChanges = s.globalChanges
  nextDeviceRaw : s'.nextDeviceRaw = s.nextDeviceRaw
  nextFaultRaw : s'.nextFaultRaw = s.nextFaultRaw
  nextObservationRaw : s'.nextObservationRaw = s.nextObservationRaw
  nextValidationRaw : s'.nextValidationRaw = s.nextValidationRaw
  nextQuarantineRaw : s'.nextQuarantineRaw = s.nextQuarantineRaw
  nextRecoveryRaw : s'.nextRecoveryRaw = s.nextRecoveryRaw
  nextAssessmentRaw : s'.nextAssessmentRaw = s.nextAssessmentRaw
  nextIncidentRaw : s'.nextIncidentRaw = s.nextIncidentRaw

theorem Untouched.refl (s : HealthStore) : Untouched s s :=
  ⟨rfl, rfl, rfl, rfl, rfl, rfl, rfl, rfl, rfl, rfl, rfl, rfl, rfl, rfl, rfl, rfl, rfl⟩

variable {s : HealthStore}

section OnDevice
variable {α : Type} {id : AcceleratorId} {missing : Except Exn α} {d : Device}
  {body : Locked → Exit Exn Locked α}

/-- A body that throws at once leaves the store as it was. -/
theorem untouched_onDevice (hd : s.devices.find? id = some d) (h : (body ⟨s, d⟩).state = ⟨s, d⟩) :
    Untouched s (onDevice id missing body s).state := by
  rw [onDevice_some hd, Exit.mapState_state, h]
  have hsame : Locked.commit id ⟨s, d⟩ = s := by
    change { s with devices := s.devices.insert id d } = s
    rw [OrdMap.insert_eq_self hd]
  rw [hsame]
  exact .refl s

/-- A body that changes the record changes the store. -/
theorem not_untouched_onDevice (hd : s.devices.find? id = some d)
    (h : (body ⟨s, d⟩).state.d ≠ d) : ¬Untouched s (onDevice id missing body s).state := by
  intro hsame
  have hfind := congrArg (fun m => m.find? id) hsame.devices
  rw [onDevice_some hd] at hfind
  apply h
  change (OrdMap.insert _ id _).find? id = _ at hfind
  rw [OrdMap.find?_insert_self, hd] at hfind
  exact Option.some.inj hfind

/-- A body whose throws leave marks, when it throws. -/
theorem not_untouched_of_marks {e : Exn} (hd : s.devices.find? id = some d)
    (hmarks : Marks ⟨s, d⟩ (body ⟨s, d⟩)) (h : (onDevice id missing body s).result = .error e) :
    ¬Untouched s (onDevice id missing body s).state := by
  have hthrow : (body ⟨s, d⟩).result = .error e := by rwa [onDevice_some hd] at h
  apply not_untouched_onDevice hd
  intro hsame
  exact ((Exit.sat_iff.mp hmarks).2 e hthrow).ne (congrArg Device.track hsame)

/-- An operation that ignores unknown devices and throws has left a mark. -/
theorem not_untouched_of_throw {e : Exn} {a : α} (hmarks : ∀ l, Marks l (body l))
    (h : (onDevice id (.ok a) body s).result = .error e) :
    ¬Untouched s (onDevice id (.ok a) body s).state := by
  cases hd : s.devices.find? id with
  | none =>
    rw [onDevice_none hd] at h
    cases h
  | some d => exact not_untouched_of_marks hd (hmarks _) h

end OnDevice

theorem not_untouched_of_altered {s' : HealthStore} {k : AcceleratorId} {d d' : Device}
    (hd : s.devices.find? k = some d) (hd' : s'.devices.find? k = some d')
    (h : Track.Altered d.track d'.track) : ¬Untouched s s' := by
  intro hsame
  rw [hsame.devices, hd] at hd'
  cases hd'
  exact h.ne rfl

/-- What follows a loop that throws is skipped. -/
theorem forDevices_throws {α : Type} {body : Nat → Locked → Exit Exn Locked Unit} {e : Exn}
    {f : HealthStore → HealthStore} {a : α}
    (h : ((forDevices body s).andThen fun s => .ok a (f s)).result = .error e) :
    (forDevices body s).result = .error e ∧
      ((forDevices body s).andThen fun s => .ok a (f s)).state = (forDevices body s).state := by
  unfold Exit.andThen Exit.bind at h ⊢
  cases hres : (forDevices body s).result with
  | error e' =>
    simp only [hres] at h
    cases h
    exact ⟨rfl, rfl⟩
  | ok u =>
    simp only [hres] at h
    cases h

/-- A loop that throws leaves a mark on some device. -/
theorem forDevices_altered {body : Nat → Locked → Exit Exn Locked Unit} {e : Exn}
    (hbody : ∀ i l, Continues l (body i l).state) (hmarks : ∀ i l, Marks l (body i l))
    (h : (forDevices body s).result = .error e) :
    ∃ k d d', s.devices.find? k = some d ∧ (forDevices body s).state.devices.find? k = some d' ∧
      Track.Altered d.track d'.track := by
  have hloop := Exit.each_sat
    (I := fun _ s' => ∀ k d', s'.devices.find? k = some d' →
      ∃ d, s.devices.find? k = some d ∧ Track.Moves d.track d'.track)
    (R := fun _ s' => ∃ k d d', s.devices.find? k = some d ∧ s'.devices.find? k = some d' ∧
      Track.Altered d.track d'.track)
    (f := fun e : AcceleratorId × Nat => onDevice e.1 (.ok ()) (body e.2)) ?_
    s.devices.keys.zipIdx s fun k d hk => ⟨d, hk, .refl⟩
  · exact (Exit.sat_iff.mp hloop).2 e h
  · intro key rest s' hs'
    cases hd : s'.devices.find? key.1 with
    | none =>
      rw [onDevice_none hd]
      exact hs'
    | some d₀ =>
      obtain ⟨d, hsd, hmoves⟩ := hs' key.1 d₀ hd
      rw [onDevice_some hd]
      apply Exit.Sat.mapState
      refine (Exit.Sat.and (hmarks key.2 ⟨s', d₀⟩) (Exit.sat_of_state
        (hbody key.2 ⟨s', d₀⟩))).mono (fun _ l' hl' => ?_) fun _ l' hl' => ?_
      · intro k d' hk
        rw [find?_commit hl'.2] at hk
        split_ifs at hk with heq
        · cases hk
          exact ⟨d, heq ▸ hsd, hmoves.trans hl'.1⟩
        · exact hs' k d' hk
      · exact ⟨key.1, d, l'.d, hsd, by rw [find?_commit hl'.2, if_pos rfl], hmoves.altered hl'.1⟩

/-! ### Loads -/

/-- A load that throws leaves a device at the last health generation: the loop over the
devices stops at a transition that no generation is left for. -/
theorem load_torn {clk : Readings} {contents : Option Bytes} {e : Exn}
    (h : (Persistence.loadInternal clk contents s).result = .error e) :
    ∃ k d, (Persistence.loadInternal clk contents s).state.devices.find? k = some d ∧
      d.healthGeneration = .last := by
  unfold Persistence.loadInternal at h ⊢
  cases contents with
  | none => cases h
  | some data =>
    simp only at h ⊢
    cases hdecode : (Persistence.decodeStateInternal data s).result with
    | error e =>
      simp only [hdecode] at h
      cases h
    | ok u =>
      simp only [hdecode, reassessAll] at h ⊢
      obtain ⟨hthrow, hstate⟩ := forDevices_throws h
      rw [hstate]
      have hloop := forDevices_sat
        (s := Persistence.distrust (Persistence.decodeStateInternal data s).state)
        fun i l => (advances_reassessLocked (clk.drop (2 * i)) l).continues
      obtain ⟨-, ⟨k, d, d', -, hk, i, s₁, -, herr, rfl⟩, -⟩ := (Exit.sat_iff.mp hloop).2 e hthrow
      have htorn : (reassessLocked (clk.drop (2 * i)) ⟨s₁, d⟩).Sat (fun _ _ => True)
          fun _ l' => l'.d.healthGeneration = .last :=
        reassessLocked_sat (fun _ => trivial) (fun _ _ _ => trivial) (fun _ _ => trivial)
          fun _ hlast => hlast
      exact ⟨k, _, hk, (Exit.sat_iff.mp htorn).2 e herr⟩

theorem not_untouched_load {clk : Readings} {contents : Option Bytes} {e : Exn}
    (hroom : s.AllDevices fun d => d.healthGeneration ≠ .last)
    (h : (Persistence.loadInternal clk contents s).result = .error e) :
    ¬Untouched s (Persistence.loadInternal clk contents s).state := by
  intro hsame
  obtain ⟨k, d, hk, hlast⟩ := load_torn h
  rw [hsame.devices] at hk
  exact hroom k d hk hlast

/-! ### When a throw changes nothing -/

section Throws
variable {clk : Readings} {e : Exn}

theorem setPolicy_untouched_iff {policy : HealthPolicy}
    (h : (s.setPolicy clk policy).result = .error e) :
    Untouched s (s.setPolicy clk policy).state ↔ s.policyGeneration = .last := by
  cases hg : s.policyGeneration.next with
  | error e' =>
    rw [setPolicy_of_error hg]
    exact ⟨fun _ => (Generation.next_eq_error hg).1,
      fun _ => ⟨rfl, rfl, rfl, rfl, rfl, rfl, rfl, rfl, rfl, rfl, rfl, rfl, rfl, rfl,
        rfl, rfl, rfl⟩⟩
  | ok g =>
    rw [setPolicy_of_ok hg] at h ⊢
    obtain ⟨k, d, d', hd, hd', haltered⟩ := forDevices_altered
      (fun i l => (advances_reassessLocked _ l).continues) (fun i l => marks_reassessLocked _ l) h
    obtain ⟨d₀, hd₀, rfl⟩ := find?_adoptPolicy hd
    refine iff_of_false (not_untouched_of_altered hd₀ hd' haltered) fun hlast => ?_
    rw [hlast] at hg
    cases hg

theorem not_untouched_invalidateWorker {worker : WorkerId} {boot : WorkerBootId}
    (h : (s.invalidateWorker clk worker boot).result = .error e) :
    ¬Untouched s (s.invalidateWorker clk worker boot).state := by
  unfold invalidateWorker at h ⊢
  split_ifs at h ⊢
  · obtain ⟨hthrow, hstate⟩ := forDevices_throws h
    obtain ⟨k, d, d', hd, hd', haltered⟩ := forDevices_altered
      (fun i l => (advances_orphan _ worker boot l).continues)
      (fun i l => marks_orphan _ worker boot l) hthrow
    rw [hstate]
    exact not_untouched_of_altered hd hd' haltered
  · cases h

theorem recordFault_untouched_iff {fault : Fault}
    (h : (s.recordFault clk fault).result = .error e) :
    Untouched s (s.recordFault clk fault).state ↔
      ∃ d, s.devices.find? fault.accelerator = some d ∧ fault.id ∈ d.faults.ids := by
  unfold recordFault at h ⊢
  cases hd : s.devices.find? fault.accelerator with
  | none =>
    rw [onDevice_none hd] at h
    cases h
  | some d =>
    simp only [Option.some.injEq, exists_eq_left']
    cases hrecord : d.faults.record fault with
    | error e' =>
      refine iff_of_true (untouched_onDevice hd ?_) (FaultHistory.record_eq_error hrecord).1
      simp only [Locked.recordFault, hrecord, Exit.throw_state]
    | ok faults =>
      refine iff_of_false (not_untouched_of_marks hd ?_ h) (FaultHistory.record_eq_ok hrecord).1
      simp only [Locked.recordFault, hrecord]
      exact .after (t := takeFault fault faults ⟨s, d⟩) rfl (marks_reassessLocked _ _)

theorem beginQuarantine_untouched_iff {id : AcceleratorId} {authority : QuarantineAuthority}
    {reason triggeredBy : Str} :
    Untouched s (s.beginQuarantine clk id authority reason triggeredBy).state ↔
      ∀ d, s.devices.find? id = some d → d.quarantined = true := by
  unfold beginQuarantine
  cases hd : s.devices.find? id with
  | none =>
    rw [onDevice_none hd]
    exact iff_of_true (.refl s) (by simp)
  | some d =>
    simp only [Option.some.injEq, forall_eq']
    by_cases hq : d.quarantined = true
    · refine iff_of_true (untouched_onDevice hd ?_) hq
      simp only [Locked.beginQuarantine, if_pos hq, Exit.throw_state]
    · refine iff_of_false (not_untouched_onDevice hd fun hsame => hq ?_) hq
      rw [← hsame]
      exact quarantined_beginQuarantine

theorem beginRecovery_untouched_iff {id : AcceleratorId}
    (h : (s.beginRecovery clk id).result = .error e) :
    Untouched s (s.beginRecovery clk id).state ↔ ∀ d, s.devices.find? id = some d →
      d.inRecovery = false ∧ canTransition d.state .recovering = false := by
  unfold beginRecovery at h ⊢
  cases hd : s.devices.find? id with
  | none =>
    rw [onDevice_none hd]
    exact iff_of_true (.refl s) (by simp)
  | some d =>
    simp only [Option.some.injEq, forall_eq']
    rw [onDevice_some hd, Exit.mapState_result] at h
    by_cases hin : d.inRecovery = true
    · rw [Locked.beginRecovery, if_pos hin] at h
      cases h
    by_cases hlegal : canTransition d.state .recovering = true
    · refine iff_of_false (not_untouched_onDevice hd fun hsame => ?_) (by simp [hlegal])
      have haltered : Track.Altered d.track (Locked.beginRecovery clk ⟨s, d⟩).state.d.track :=
        (Exit.sat_iff.mp (beginRecovery_sat (by simpa using hin) hlegal)).2 e h
      exact haltered.ne (congrArg Device.track hsame)
    · refine iff_of_true (untouched_onDevice hd ?_) ⟨by simpa using hin, by simpa using hlegal⟩
      rw [beginRecovery_eq_refused (by simpa using hin) (by simpa using hlegal), Exit.throw_state]

theorem revalidate_untouched_iff {id : AcceleratorId} {v : ValidationRecord}
    (h : (s.revalidate clk id v).result = .error e) :
    Untouched s (s.revalidate clk id v).state ↔ s.devices.find? id = none := by
  unfold revalidate at h ⊢
  cases hd : s.devices.find? id with
  | none =>
    rw [onDevice_none hd]
    exact iff_of_true (.refl s) rfl
  | some d => exact iff_of_false (not_untouched_of_marks hd (marks_revalidate ..) h) (by simp)

end Throws

/-- The throws that come before the first write. -/
def ThrowsHarmlessly (s : HealthStore) (c : Call) : Prop :=
  match c.op with
  | .beginQuarantine id _ _ _ => ∀ d, s.devices.find? id = some d → d.quarantined = true
  | .beginRecovery id => ∀ d, s.devices.find? id = some d →
      d.inRecovery = false ∧ canTransition d.state .recovering = false
  | .revalidate id _ => s.devices.find? id = none
  | .recordFault fault => ∃ d, s.devices.find? fault.accelerator = some d ∧ fault.id ∈ d.faults.ids
  | .setPolicy _ => s.policyGeneration = .last
  | _ => False

/-- When a call that throws changes nothing: exactly when it throws at a check that it
makes before its first write. A load makes none; a device at the last health generation is
what an earlier load of the same file may have left. -/
theorem throw_changes_nothing_iff (s : HealthStore) (c : Call) (e : Exn)
    (h : (s.exec c).result = .error e)
    (hload : c.op.loads = true → s.AllDevices fun d => d.healthGeneration ≠ .last) :
    Untouched s (s.step c) ↔ s.ThrowsHarmlessly c := by
  have hmap : ∀ {α β : Type} {x : Exit Exn HealthStore α} {f : α → β},
      (x.mapResult f).result = .error e → x.result = .error e := by
    intro α β x f hx
    unfold Exit.mapResult at hx
    cases hres : x.result with
    | ok a => simp [hres, Except.map] at hx
    | error e' => simpa [hres, Except.map] using hx
  unfold step ThrowsHarmlessly
  unfold exec at h ⊢
  cases hop : c.op with
  | setPolicy policy =>
    simp only [hop] at h ⊢
    exact setPolicy_untouched_iff (hmap h)
  | invalidateWorker worker boot =>
    simp only [hop] at h ⊢
    exact iff_of_false (not_untouched_invalidateWorker (hmap h)) not_false
  | markLost id reason =>
    simp only [hop] at h ⊢
    exact iff_of_false (not_untouched_of_throw (fun l => marks_markLost _ _ l) (hmap h)) not_false
  | acceptObservation obs env =>
    simp only [hop] at h ⊢
    exact iff_of_false (not_untouched_of_throw (fun l => marks_acceptObservation _ _ _ l) (hmap h))
      not_false
  | recordFault fault =>
    simp only [hop] at h ⊢
    exact recordFault_untouched_iff (hmap h)
  | recordValidation v =>
    simp only [hop] at h ⊢
    refine iff_of_false (not_untouched_of_throw (fun l => ?_) (hmap h)) not_false
    exact .after (t := addValidation v l) rfl (marks_reassessLocked _ _)
  | beginQuarantine id authority reason triggeredBy =>
    simp only
    exact beginQuarantine_untouched_iff
  | clearQuarantine id =>
    simp only [hop] at h ⊢
    exact iff_of_false (not_untouched_of_throw (fun l => marks_clearQuarantine _ _ l) (hmap h))
      not_false
  | beginRecovery id =>
    simp only [hop] at h ⊢
    exact beginRecovery_untouched_iff (hmap h)
  | revalidate id v =>
    simp only [hop] at h ⊢
    exact revalidate_untouched_iff (hmap h)
  | reassess id =>
    simp only [hop] at h ⊢
    exact iff_of_false
      (not_untouched_of_throw (fun l => marks_reassessLocked _ l) (hmap h)) not_false
  | reassessAll =>
    simp only [hop] at h ⊢
    obtain ⟨k, d, d', hd, hd', haltered⟩ := forDevices_altered
      (fun i l => (advances_reassessLocked _ l).continues) (fun i l => marks_reassessLocked _ l)
      (hmap h)
    exact iff_of_false (not_untouched_of_altered hd hd' haltered) not_false
  | loadFromFile contents =>
    simp only [hop] at h ⊢
    exact iff_of_false (not_untouched_load (hload (by rw [hop]; rfl)) (hmap h)) not_false
  | rollCoordinatorEpoch | setCoordinatorEpoch _ | registerWorker _ _
  | registerDevice _ _ | decode _ =>
    simp only [hop] at h
    cases h

/-- A recovery that the transition table refuses leaves a READY device alone. -/
theorem throw_changes_nothing_after_bringUp :
    ((after {} 0 bringUp).exec ((Op.beginRecovery ⟨7⟩).at 1)).result =
        .error (.invalidTransition .healthy .recovering) ∧
      Untouched (after {} 0 bringUp) ((after {} 0 bringUp).step ((Op.beginRecovery ⟨7⟩).at 1)) := by
  have hview : ((after {} 0 bringUp).devices.find? ⟨7⟩).map (fun d => (d.inRecovery, d.state)) =
      some (false, .healthy) := by decide +kernel
  obtain ⟨d, hd, heq⟩ := Option.map_eq_some_iff.mp hview
  obtain ⟨hin, hstate⟩ := Prod.mk.inj heq
  have hlegal : canTransition d.state .recovering = false := by rw [hstate]; rfl
  have hthrow : ((after {} 0 bringUp).exec ((Op.beginRecovery ⟨7⟩).at 1)).result =
      .error (.invalidTransition .healthy .recovering) := by
    have hbody : Locked.beginRecovery (fun _ => ⟨1⟩) ⟨after {} 0 bringUp, d⟩ =
        .throw (.invalidTransition d.state .recovering) ⟨after {} 0 bringUp, d⟩ :=
      beginRecovery_eq_refused hin hlegal
    simp only [exec, Op.at, beginRecovery, onDevice_some hd, hbody, hstate]
    rfl
  refine ⟨hthrow, (throw_changes_nothing_iff _ _ _ hthrow (by simp [Op.at, Op.loads])).mpr
    fun d' hd' => ?_⟩
  rw [hd] at hd'
  cases hd'
  exact ⟨hin, hlegal⟩

/-- Device 7, brought up and then lost. -/
def lost : List Call := bringUp ++ [(Op.markLost ⟨7⟩ []).at 1]

/-- Quarantining a lost device: the record, its index and its id are written before the
transition is refused. -/
theorem beginQuarantine_throws_after_writing :
    (after {} 0 lost).Reachable ∧
      ((after {} 0 lost).exec ((Op.beginQuarantine ⟨7⟩ .operator [] []).at 1)).result =
        .error (.invalidTransition .lost .quarantined) ∧
      ¬Untouched (after {} 0 lost)
        ((after {} 0 lost).step ((Op.beginQuarantine ⟨7⟩ .operator [] []).at 1)) := by
  have hview : ((after {} 0 lost).devices.find? ⟨7⟩).map (fun d => (d.quarantined, d.state)) =
      some (false, .lost) := by decide +kernel
  obtain ⟨d, hd, heq⟩ := Option.map_eq_some_iff.mp hview
  obtain ⟨hq, hstate⟩ := Prod.mk.inj heq
  refine ⟨⟨_, _, _, rfl⟩, ?_, fun hsame => ?_⟩
  · have hlegal : canTransition d.state .quarantined = false := by rw [hstate]; rfl
    have hbody : Locked.beginQuarantine (fun _ => ⟨1⟩) ⟨7⟩ .operator [] [] ⟨after {} 0 lost, d⟩ =
        .throw (.invalidTransition d.state .quarantined)
          (openQuarantine ⟨1⟩ ⟨7⟩ .operator [] [] ⟨after {} 0 lost, d⟩) :=
      beginQuarantine_eq_refused hq (by simp [hstate]) hlegal
    simp only [exec, Op.at, beginQuarantine, onDevice_some hd, hbody, hstate]
    rfl
  · have hindex : ((after {} 0 lost).step
        ((Op.beginQuarantine ⟨7⟩ .operator [] []).at 1)).quarantineIndex.keys = [⟨7⟩] ∧
        (after {} 0 lost).quarantineIndex.keys = [] := by decide +kernel
    rw [hsame.quarantineIndex, hindex.2] at hindex
    simp at hindex

end HealthStore
end AcceleratorHealth
