import AcceleratorHealth.Evidence
import AcceleratorHealth.Restart
import AcceleratorHealth.Quarantine
import AcceleratorHealth.Lib.Counter

/-! The ids of quarantines and recoveries. They are drawn from two counters that no image
keeps: a load sets both past the largest device id that the image lists, whatever has been
issued before. -/
namespace AcceleratorHealth
open Locked Persistence Counter

/-- The counters that ids of quarantines and recoveries are drawn from. -/
def HealthStore.counters (s : HealthStore) : UInt64 × UInt64 :=
  (s.nextQuarantineRaw, s.nextRecoveryRaw)

def Op.beginsQuarantine : Op → Bool
  | .beginQuarantine _ _ _ _ => true
  | _ => false

def Op.beginsRecovery : Op → Bool
  | .beginRecovery _ => true
  | _ => false

/-! ### One device -/

namespace Locked
variable {now : Timestamp} {clk : Readings} {c : Call} {k : AcceleratorId} {l l' : Locked}

theorem counters_applyTransitionLocked (now : Timestamp) (toState : HealthState)
    (label detail : Str) (l : Locked) :
    (applyTransitionLocked now toState label detail l).state.store.counters = l.store.counters :=
  applyTransitionLocked_state (P := fun l' => l'.store.counters = l.store.counters) rfl
    (fun _ _ => rfl) fun _ _ _ => rfl

theorem counters_published {start : Locked} {blocked : Bool} :
    (published now start blocked l).store.counters = l.store.counters := by
  unfold published publish updateIndexesLocked HealthStore.counters
  simp only

theorem counters_reassessLocked :
    (reassessLocked clk l).state.store.counters = l.store.counters :=
  reassessLocked_state (P := fun l' => l'.store.counters = l.store.counters)
    (fun _ => counters_published) (fun _ _ _ => counters_published.trans rfl)
    (fun _ _ => counters_published) fun _ _ => rfl

theorem counters_recoveryStep {v : ValidationRecord} :
    (recoveryStep clk v l).state.store.counters = l.store.counters := by
  unfold recoveryStep recoveryPassed recoveryFailed
  split_ifs
  · apply Exit.state_andThen (P := fun l' : Locked => l'.store.counters = l.store.counters)
    · apply counters_applyTransitionLocked
    · intro l' h
      simp only
      split_ifs
      · apply Exit.state_andThen (P := fun l' : Locked => l'.store.counters = l.store.counters)
        · exact (counters_applyTransitionLocked ..).trans h
        · exact fun _ h => h
      · exact h
  · rw [Exit.ok_andThen]
    simp only
    split_ifs
    · apply Exit.state_andThen (P := fun l' : Locked => l'.store.counters = l.store.counters)
      · exact counters_applyTransitionLocked ..
      · exact fun _ h => h
    · rfl
  · apply counters_applyTransitionLocked
  · rfl
  · rfl

/-- No other body touches the counters. -/
theorem Touch.counters (htouch : Touch c k l l') (hquarantine : c.op.beginsQuarantine = false)
    (hrecovery : c.op.beginsRecovery = false) : l'.store.counters = l.store.counters := by
  cases htouch with
  | @observation obs env =>
    unfold acceptObservation
    split
    · rfl
    · apply Exit.state_andThen (P := fun l' : Locked => l'.store.counters = l.store.counters)
      · exact counters_reassessLocked
      · exact fun _ h => h
  | fault =>
    unfold recordFault
    split
    · rfl
    · exact counters_reassessLocked
  | validation => exact counters_reassessLocked
  | quarantine op => simp [op, Op.beginsQuarantine] at hquarantine
  | clear =>
    refine counters_reassessLocked.trans ?_
    unfold closeQuarantine
    split <;> rfl
  | recovery op => simp [op, Op.beginsRecovery] at hrecovery
  | revalidation =>
    rw [revalidate_state]
    apply Exit.state_andThen (P := fun l' : Locked => l'.store.counters = l.store.counters)
    · exact counters_recoveryStep
    · exact fun _ h => counters_reassessLocked.trans h
  | lost =>
    unfold markLost
    simp only
    split_ifs
    · rfl
    · exact (counters_applyTransitionLocked ..).trans rfl
    · rfl
  | reassess => exact counters_reassessLocked
  | orphan =>
    unfold HealthStore.orphan
    split_ifs
    · exact counters_reassessLocked
    · rfl
  | policy => exact counters_reassessLocked
  | policySkipped => rfl

/-- A quarantine takes its id from the counter and keeps it. -/
theorem beginQuarantine_opens (clk : Readings) (k : AcceleratorId) (authority : QuarantineAuthority)
    (reason triggeredBy : Str) (hfree : l.d.quarantined = false) :
    (beginQuarantine clk k authority reason triggeredBy l).state.store.counters =
        (l.store.nextQuarantineRaw + 1, l.store.nextRecoveryRaw) ∧
      (beginQuarantine clk k authority reason triggeredBy l).state.d.quarantine =
        (openQuarantine (clk 0) k authority reason triggeredBy l).d.quarantine := by
  unfold beginQuarantine
  rw [if_neg (by simp [hfree])]
  apply Exit.state_andThen (P := fun l' : Locked =>
    l'.store.counters = (l.store.nextQuarantineRaw + 1, l.store.nextRecoveryRaw) ∧
      l'.d.quarantine = (openQuarantine (clk 0) k authority reason triggeredBy l).d.quarantine)
  · exact ⟨counters_applyTransitionLocked .., of_basis_eq (basis_applyTransitionLocked ..)
      Device.quarantine fun _ => rfl⟩
  · rintro l' ⟨hcounters, hrecord⟩
    exact ⟨counters_reassessLocked.trans hcounters,
      (of_basis_eq (basis_reassessLocked ..) Device.quarantine fun _ => rfl).trans hrecord⟩

/-- What beginning a recovery makes of the counter and the record. -/
inductive Opens (l l' : Locked) : Prop
  | idle (counters : l'.store.counters = l.store.counters) (recovery : l'.d.recovery = l.d.recovery)
  | skipped
      (counters : l'.store.counters = (l.store.nextQuarantineRaw, l.store.nextRecoveryRaw + 1))
      (recovery : l'.d.recovery = l.d.recovery)
  | opened {rec' : RecoveryRecord}
      (counters : l'.store.counters = (l.store.nextQuarantineRaw, l.store.nextRecoveryRaw + 1))
      (recovery : l'.d.recovery = some rec') (id : rec'.id = ⟨l.store.nextRecoveryRaw⟩)
      (other : l.d.recovery ≠ some rec')

theorem Opens.congr {m m' : Locked} (h : Opens l l') (hm : m.store.counters = l.store.counters)
    (hrecovery : m.d.recovery = l.d.recovery) (hm' : m'.store.counters = l'.store.counters)
    (hrecovery' : m'.d.recovery = l'.d.recovery) : Opens m m' := by
  obtain ⟨hq, hr⟩ := Prod.mk.inj hm
  cases h with
  | idle hcounters hrec =>
    exact .idle (hm'.trans (hcounters.trans hm.symm)) (hrecovery'.trans (hrec.trans hrecovery.symm))
  | skipped hcounters hrec =>
    exact .skipped (by rw [hm', hcounters, hq, hr]) (hrecovery'.trans (hrec.trans hrecovery.symm))
  | opened hcounters hrec hid hother =>
    exact .opened (by rw [hm', hcounters, hq, hr]) (hrecovery'.trans hrec) (by rw [hid, hr])
      (by rw [hrecovery]; exact hother)

theorem opens_openRecovery : Opens l (openRecovery now l).state := by
  unfold openRecovery
  simp only
  split
  next e hnext => exact .skipped rfl rfl
  next g hnext =>
    apply Opens.opened rfl rfl rfl
    intro hsame
    unfold nextRecoveryGeneration at hnext
    rw [hsame] at hnext
    have hg : Generation.next g = .ok g := hnext
    unfold Generation.next at hg
    split_ifs at hg
    have hvalue := congrArg Generation.value (Except.ok.inj hg)
    simp at hvalue

theorem opens_beginRecovery (clk : Readings) (l : Locked) :
    Opens l (beginRecovery clk l).state := by
  unfold beginRecovery
  split_ifs
  · exact .idle rfl rfl
  · exact .idle rfl rfl
  · have hmoved : (applyTransitionLocked (clk 0) .recovering (str "recovery")
        (str "begin recovery") l).Sat (fun _ l' => l'.store.counters = l.store.counters ∧
          l'.d.recovery = l.d.recovery) fun _ l' => Opens l l' := by
      have hkept := Exit.sat_of_state (P := fun l' : Locked =>
        l'.store.counters = l.store.counters ∧ l'.d.recovery = l.d.recovery)
        ⟨counters_applyTransitionLocked (clk 0) .recovering (str "recovery")
          (str "begin recovery") l, of_basis_eq (basis_applyTransitionLocked ..) Device.recovery
            fun _ => rfl⟩
      exact hkept.mono (fun _ _ h => h) fun _ _ h => .idle h.1 h.2
    have hopened := hmoved.andThen (f := openRecovery (clk 1)) (Q := fun _ l' => Opens l l')
      fun m hm => Exit.sat_of_state
        (opens_openRecovery.congr hm.1.symm hm.2.symm rfl rfl)
    apply Exit.state_andThen hopened.state
    exact fun m hm => hm.congr rfl rfl counters_reassessLocked
      (of_basis_eq (basis_reassessLocked ..) Device.recovery fun _ => rfl)

end Locked

/-! ### Calls -/

namespace HealthStore
variable {s : HealthStore} {c : Call} {α : Type} {id : AcceleratorId} {missing : Except Exn α}

/-- The id of the quarantine that the call begins: it has put another record on the device. -/
def newQuarantine (s : HealthStore) (c : Call) : Option QuarantineId :=
  match c.op with
  | .beginQuarantine id _ _ _ =>
    match s.devices.find? id, (s.step c).devices.find? id with
    | some d, some d' => if d'.quarantine = d.quarantine then none else d'.quarantine.map (·.id)
    | _, _ => none
  | _ => none

/-- The id of the recovery that the call begins. -/
def newRecovery (s : HealthStore) (c : Call) : Option RecoveryId :=
  match c.op with
  | .beginRecovery id =>
    match s.devices.find? id, (s.step c).devices.find? id with
    | some d, some d' => if d'.recovery = d.recovery then none else d'.recovery.map (·.id)
    | _, _ => none
  | _ => none

theorem newQuarantine_eq_none (h : c.op.beginsQuarantine = false) : s.newQuarantine c = none := by
  unfold newQuarantine
  cases hop : c.op <;> simp_all [Op.beginsQuarantine]

theorem newRecovery_eq_none (h : c.op.beginsRecovery = false) : s.newRecovery c = none := by
  unfold newRecovery
  cases hop : c.op <;> simp_all [Op.beginsRecovery]

theorem counters_onDevice {body : Locked → Exit Exn Locked α}
    (hbody : ∀ l, (body l).state.store.counters = l.store.counters) :
    (onDevice id missing body s).state.counters = s.counters := by
  cases hd : s.devices.find? id with
  | none => rw [onDevice_none hd]
  | some d =>
    rw [onDevice_some hd]
    exact hbody ⟨s, d⟩

theorem counters_forDevices {body : Nat → Locked → Exit Exn Locked Unit}
    (hbody : ∀ i l, (body i l).state.store.counters = l.store.counters) :
    (forDevices body s).state.counters = s.counters := by
  unfold forDevices
  apply Exit.each_state (P := fun t : HealthStore => t.counters = s.counters)
  · intro e _ t ht
    exact (counters_onDevice (hbody e.2)).trans ht
  · rfl

theorem counters_reassessAll {clk : Readings} : (s.reassessAll clk).state.counters = s.counters :=
  counters_forDevices fun _ _ => counters_reassessLocked

/-- A call that neither begins anything nor loads leaves the counters alone. -/
theorem counters_step (hload : c.op.loads = false) (hquarantine : c.op.beginsQuarantine = false)
    (hrecovery : c.op.beginsRecovery = false) : (s.step c).counters = s.counters := by
  have htouch : ∀ {k l l'}, Touch c k l l' → l'.store.counters = l.store.counters :=
    fun h => h.counters hquarantine hrecovery
  unfold step exec
  cases hop : c.op with
  | setPolicy policy =>
    simp only [Exit.mapResult_state, setPolicy]
    split
    · rfl
    · exact counters_reassessAll
  | rollCoordinatorEpoch => rfl
  | setCoordinatorEpoch e => rfl
  | registerWorker worker boot => rfl
  | invalidateWorker worker boot =>
    simp only [Exit.mapResult_state, invalidateWorker]
    split_ifs
    · apply Exit.state_andThen (P := fun t : HealthStore => t.counters = s.counters)
      · exact counters_forDevices fun i l => htouch (.orphan (k := default) _ hop)
      · exact fun _ h => h
    · rfl
  | registerDevice uuid node =>
    simp only [registerDevice]
    split <;> rfl
  | markLost id reason => exact counters_onDevice fun l => htouch (.lost hop)
  | acceptObservation obs env => exact counters_onDevice fun l => htouch (.observation hop rfl)
  | recordFault fault => exact counters_onDevice fun l => htouch (.fault hop rfl)
  | recordValidation v => exact counters_onDevice fun l => htouch (.validation hop rfl)
  | beginQuarantine id authority reason triggeredBy =>
    simp [hop, Op.beginsQuarantine] at hquarantine
  | clearQuarantine id => exact counters_onDevice fun l => htouch (.clear hop)
  | beginRecovery id => simp [hop, Op.beginsRecovery] at hrecovery
  | revalidate id v => exact counters_onDevice fun l => htouch (.revalidation hop)
  | reassess id => exact counters_onDevice fun l => counters_reassessLocked
  | reassessAll => exact counters_reassessAll
  | decode data => simp [hop, Op.loads] at hload
  | loadFromFile contents => simp [hop, Op.loads] at hload

/-- The two counters over a call that does not load. -/
structure Issues (s : HealthStore) (c : Call) : Prop where
  quarantine : Draws (c.op.beginsQuarantine = true) s.nextQuarantineRaw
    (s.step c).nextQuarantineRaw ((s.newQuarantine c).map StrongId.value)
  recovery : Draws (c.op.beginsRecovery = true) s.nextRecoveryRaw
    (s.step c).nextRecoveryRaw ((s.newRecovery c).map StrongId.value)

/-- A call on one device that it does not find. -/
theorem issues_of_missing (hnone : s.devices.find? id = none) (hstep : s.step c = s)
    (hop : (∃ authority reason triggeredBy,
      c.op = .beginQuarantine id authority reason triggeredBy) ∨ c.op = .beginRecovery id) :
      s.Issues c := by
  have hquarantine : s.newQuarantine c = none := by
    unfold newQuarantine
    rcases hop with ⟨_, _, _, hop⟩ | hop <;> simp [hop, hnone]
  have hrecovery : s.newRecovery c = none := by
    unfold newRecovery
    rcases hop with ⟨_, _, _, hop⟩ | hop <;> simp [hop, hnone]
  constructor
  · rw [hstep, hquarantine]
    exact .idle
  · rw [hstep, hrecovery]
    exact .idle

section BeginQuarantine
variable {authority : QuarantineAuthority} {reason triggeredBy : Str}

theorem step_beginQuarantine (hop : c.op = .beginQuarantine id authority reason triggeredBy) :
    s.step c = (onDevice id (.error (.invalidArgument "quarantine: unknown device"))
      (Locked.beginQuarantine c.clk id authority reason triggeredBy) s).state := by
  unfold step exec
  rw [hop]
  rfl

/-- A device without an active quarantine gets the id that the counter shows. -/
theorem newQuarantine_of_free (hop : c.op = .beginQuarantine id authority reason triggeredBy)
    {d : Device} (hd : s.devices.find? id = some d) (hfree : d.quarantined = false) :
    s.newQuarantine c = some ⟨s.nextQuarantineRaw⟩ := by
  have hrecord :=
    (beginQuarantine_opens (l := ⟨s, d⟩) c.clk id authority reason triggeredBy hfree).2
  unfold newQuarantine
  simp only [hop, hd, find?_step_beginQuarantine hop hd, hrecord]
  rw [if_neg]
  · rfl
  · intro hsame
    unfold Device.quarantined at hfree
    rw [← hsame] at hfree
    cases hfree

theorem issues_beginQuarantine (hop : c.op = .beginQuarantine id authority reason triggeredBy) :
    s.Issues c := by
  cases hd : s.devices.find? id with
  | none =>
    apply issues_of_missing hd _ (Or.inl ⟨_, _, _, hop⟩)
    rw [step_beginQuarantine hop, onDevice_none hd]
  | some d =>
    have hfind := find?_step_beginQuarantine hop hd
    have hcounters : (s.step c).counters = (Locked.beginQuarantine c.clk id authority reason
        triggeredBy ⟨s, d⟩).state.store.counters := by
      rw [step_beginQuarantine hop, onDevice_some hd]
      rfl
    have hnew : s.newRecovery c = none := newRecovery_eq_none (by rw [hop]; rfl)
    by_cases hfree : d.quarantined = false
    · have hdrawn :=
        (beginQuarantine_opens (l := ⟨s, d⟩) c.clk id authority reason triggeredBy hfree).1
      obtain ⟨hq, hr⟩ := Prod.mk.inj (hcounters.trans hdrawn)
      constructor
      · rw [newQuarantine_of_free hop hd hfree, hq]
        exact .drawn (by rw [hop]; rfl)
      · rw [hnew, hr]
        exact .idle
    · have hrefused : Locked.beginQuarantine c.clk id authority reason triggeredBy ⟨s, d⟩ =
          .throw (.logicError "quarantine already active") ⟨s, d⟩ :=
        if_pos (by simpa using hfree)
      rw [hrefused] at hfind hcounters
      obtain ⟨hq, hr⟩ := Prod.mk.inj hcounters
      have hid : s.newQuarantine c = none := by
        unfold newQuarantine
        simp only [hop, hd, hfind]
        exact if_pos rfl
      constructor
      · rw [hid, hq]
        exact .idle
      · rw [hnew, hr]
        exact .idle

end BeginQuarantine

theorem issues_beginRecovery (hop : c.op = .beginRecovery id) : s.Issues c := by
  have hstep : s.step c = (onDevice id (.error (.invalidArgument "recovery: unknown device"))
      (Locked.beginRecovery c.clk) s).state := by
    unfold step exec
    rw [hop]
    rfl
  cases hd : s.devices.find? id with
  | none =>
    apply issues_of_missing hd _ (Or.inr hop)
    rw [hstep, onDevice_none hd]
  | some d =>
    have hfind : (s.step c).devices.find? id =
        some (Locked.beginRecovery c.clk ⟨s, d⟩).state.d := by
      rw [hstep, find?_onDevice_self hd (advances_beginRecovery ..).continues]
    have hcounters : (s.step c).counters =
        (Locked.beginRecovery c.clk ⟨s, d⟩).state.store.counters := by
      rw [hstep, onDevice_some hd]
      rfl
    have hnew : s.newQuarantine c = none := newQuarantine_eq_none (by rw [hop]; rfl)
    have hid : s.newRecovery c =
        if (Locked.beginRecovery c.clk ⟨s, d⟩).state.d.recovery = d.recovery then none
        else (Locked.beginRecovery c.clk ⟨s, d⟩).state.d.recovery.map (·.id) := by
      unfold newRecovery
      simp only [hop, hd, hfind]
    have hbegins : c.op.beginsRecovery = true := by
      rw [hop]
      rfl
    cases opens_beginRecovery c.clk ⟨s, d⟩ with
    | idle hkept hsame =>
      obtain ⟨hq, hr⟩ := Prod.mk.inj (hcounters.trans hkept)
      rw [if_pos hsame] at hid
      constructor
      · rw [hnew, hq]
        exact .idle
      · rw [hid, hr]
        exact .idle
    | skipped hdrawn hsame =>
      obtain ⟨hq, hr⟩ := Prod.mk.inj (hcounters.trans hdrawn)
      rw [if_pos hsame] at hid
      constructor
      · rw [hnew, hq]
        exact .idle
      · rw [hid, hr]
        exact .skipped hbegins
    | opened hdrawn hrecord hrecordId hother =>
      obtain ⟨hq, hr⟩ := Prod.mk.inj (hcounters.trans hdrawn)
      rw [hrecord, if_neg (fun h => hother h.symm), Option.map_some, hrecordId] at hid
      constructor
      · rw [hnew, hq]
        exact .idle
      · rw [hid, hr]
        exact .drawn hbegins

theorem issues_step (hload : c.op.loads = false) : s.Issues c := by
  by_cases hquarantine : c.op.beginsQuarantine = true
  · cases hop : c.op with
    | beginQuarantine id authority reason triggeredBy => exact issues_beginQuarantine hop
    | _ => simp [hop, Op.beginsQuarantine] at hquarantine
  by_cases hrecovery : c.op.beginsRecovery = true
  · cases hop : c.op with
    | beginRecovery id => exact issues_beginRecovery hop
    | _ => simp [hop, Op.beginsRecovery] at hrecovery
  rw [Bool.not_eq_true] at hquarantine hrecovery
  obtain ⟨hq, hr⟩ := Prod.mk.inj (counters_step hload hquarantine hrecovery)
  constructor
  · rw [newQuarantine_eq_none hquarantine, hq]
    exact .idle
  · rw [newRecovery_eq_none hrecovery, hr]
    exact .idle

/-! ### Loads -/

/-- Only an accepted image sets the counters. -/
theorem counters_decode (data : Bytes) : (decodeStateInternal data s).state.counters =
    if (decodeStateInternal data s).result = .ok () then
      (maxRaw 0 (records data) + 1, maxRaw 0 (records data) + 1)
    else s.counters := by
  by_cases hok : (decodeStateInternal data s).result = .ok ()
  · obtain ⟨-, h, r, -, hstate⟩ := decode_of_ok hok
    rw [if_pos hok, hstate]
    unfold loaded
    rw [recomputeIndexes_eq]
    rfl
  · rw [if_neg hok]
    generalize hx : decodeStateInternal data s = x at hok
    have hcases := hx ▸ decode_cases data s
    cases hcases with
    | refusedEarly => rfl
    | refusedLate => rfl
    | accepted => exact absurd rfl hok

theorem counters_load {clk : Readings} (data : Bytes) :
    (loadInternal clk (some data) s).state.counters =
      (decodeStateInternal data s).state.counters :=
  loadInternal_leaves (P := fun t => t.counters = (decodeStateInternal data s).state.counters)
    (fun _ => rfl) fun _ => counters_reassessAll

/-- A load either leaves the counters alone or sets both past the ids of its devices. -/
theorem counters_of_loads (hload : c.op.loads = true) :
    (s.step c).counters = s.counters ∨
      ∃ data, (c.op = .decode data ∨ c.op = .loadFromFile (some data)) ∧
        (decodeStateInternal data s).result = .ok () ∧
        (s.step c).counters = (maxRaw 0 (records data) + 1, maxRaw 0 (records data) + 1) := by
  have hdecoded : ∀ data, (s.step c).counters = (decodeStateInternal data s).state.counters →
      (c.op = .decode data ∨ c.op = .loadFromFile (some data)) →
      (s.step c).counters = s.counters ∨
        ∃ data, (c.op = .decode data ∨ c.op = .loadFromFile (some data)) ∧
          (decodeStateInternal data s).result = .ok () ∧
          (s.step c).counters = (maxRaw 0 (records data) + 1, maxRaw 0 (records data) + 1) := by
    intro data hcounters hop
    rw [counters_decode] at hcounters
    split_ifs at hcounters with hok
    · exact Or.inr ⟨data, hop, hok, hcounters⟩
    · exact Or.inl hcounters
  rcases step_loads (s := s) hload with ⟨data, hop, hstep⟩ | ⟨-, hstep⟩ | ⟨data, hop, hstep⟩
  · exact hdecoded data (congrArg counters hstep) (Or.inl hop)
  · exact Or.inl (congrArg counters hstep)
  · exact hdecoded data ((congrArg counters hstep).trans (counters_load data)) (Or.inr hop)

end HealthStore

/-! ### A store's own image -/

namespace Persistence

theorem le_maxRaw (ds : List Device) (m : UInt64) : m ≤ maxRaw m ds ∧
    ∀ d ∈ ds, d.id.get ≤ maxRaw m ds := by
  induction ds generalizing m with
  | nil => exact ⟨UInt64.le_refl m, by simp⟩
  | cons d rest ih =>
    obtain ⟨hstart, hrest⟩ := ih (if m < d.id.get then d.id.get else m)
    have hboth : m ≤ (if m < d.id.get then d.id.get else m) ∧
        d.id.get ≤ (if m < d.id.get then d.id.get else m) := by
      split_ifs with hlt
      · exact ⟨UInt64.le_of_lt hlt, UInt64.le_refl _⟩
      · exact ⟨UInt64.le_refl m, UInt64.not_lt.mp hlt⟩
    rw [List.forall_mem_cons]
    exact ⟨UInt64.le_trans hboth.1 hstart, UInt64.le_trans hboth.2 hstart, hrest⟩

theorem maxRaw_le {ds : List Device} {m b : UInt64} (hm : m ≤ b) (h : ∀ d ∈ ds, d.id.get ≤ b) :
    maxRaw m ds ≤ b := by
  induction ds generalizing m with
  | nil => exact hm
  | cons d rest ih =>
    rw [List.forall_mem_cons] at h
    apply ih _ h.2
    show (if m < d.id.get then d.id.get else m) ≤ b
    split_ifs
    · exact h.1
    · exact hm

end Persistence

namespace HealthStore
variable {s out : HealthStore} {data : Bytes}

/-- The image of a store lists its devices. -/
theorem Sound.listed_iff (hs : s.Sound) (hdata : encodeStateInternal s = .ok data)
    (hok : (decodeStateInternal data out).result = .ok ()) {k : AcceleratorId} :
    (∃ d ∈ records data, d.id = k) ↔ k ∈ s.devices.keys := by
  obtain ⟨t, ht, hstate⟩ := hs.rebuilt hdata hok
  obtain ⟨-, h, r, -, hloaded⟩ := decode_of_ok hok
  have hdevices : OrdMap.empty.insertAll ((records data).map fun d => (d.id, d)) =
      s.devices.mapValues fun _ d => { d with requiresRevalidation := false } := by
    rw [← (loaded_devices h (records data) out).1, ← hloaded, hstate,
      (recomputeIndexes_fields t).1, ht.devices]
  have hkeys := congrArg OrdMap.keys hdevices
  rw [OrdMap.keys_mapValues] at hkeys
  rw [← hkeys, OrdMap.mem_keys_insertAll, List.map_map]
  constructor
  · rintro ⟨d, hd, rfl⟩
    exact Or.inr (List.mem_map.mpr ⟨d, hd, rfl⟩)
  · rintro (hempty | hlisted)
    · cases hempty
    · obtain ⟨d, hd, hid⟩ := List.mem_map.mp hlisted
      exact ⟨d, hd, hid⟩

/-- So its counters start past the largest of their ids. -/
theorem Sound.maxRaw_eq (hs : s.Sound) (hdata : encodeStateInternal s = .ok data)
    (hok : (decodeStateInternal data out).result = .ok ()) {m : UInt64}
    (hmem : ⟨m⟩ ∈ s.devices.keys) (hmax : ∀ k ∈ s.devices.keys, k.get ≤ m) :
    maxRaw 0 (records data) = m := by
  apply UInt64.le_antisymm
  · apply maxRaw_le
    · exact UInt64.zero_le
    · intro d hd
      exact hmax d.id ((hs.listed_iff hdata hok).mp ⟨d, hd, rfl⟩)
  · obtain ⟨d, hd, hid⟩ := (hs.listed_iff hdata hok).mpr hmem
    have hle := (le_maxRaw (records data) 0).2 d hd
    rwa [hid] at hle

/-- After a store's own image is loaded, the first quarantine gets the id past the largest
device id, whatever has been issued before. -/
theorem Sound.newQuarantine_reloaded (hs : s.Sound) (hdata : encodeStateInternal s = .ok data)
    (hok : (decodeStateInternal data out).result = .ok ()) {m : UInt64}
    (hmem : ⟨m⟩ ∈ s.devices.keys) (hmax : ∀ k ∈ s.devices.keys, k.get ≤ m) {k : AcceleratorId}
    {d : Device} (hd : s.devices.find? k = some d) (hfree : d.quarantined = false) {c : Call}
    {authority : QuarantineAuthority} {reason triggeredBy : Str}
    (hop : c.op = .beginQuarantine k authority reason triggeredBy) :
    (decodeStateInternal data out).state.newQuarantine c = some ⟨m + 1⟩ := by
  obtain ⟨t, ht, hstate⟩ := hs.rebuilt hdata hok
  have hcounters := counters_decode (s := out) data
  rw [if_pos hok, hs.maxRaw_eq hdata hok hmem hmax] at hcounters
  have hfind : (decodeStateInternal data out).state.devices.find? k =
      some { d with requiresRevalidation := false } := by
    rw [hstate, (recomputeIndexes_fields t).1, ht.devices]
    exact OrdMap.find?_mapValues_eq_some_iff.mpr ⟨d, hd, rfl⟩
  rw [newQuarantine_of_free hop hfind hfree]
  rw [show (decodeStateInternal data out).state.nextQuarantineRaw = m + 1 from
    (Prod.mk.inj hcounters).1]

end HealthStore

/-! ### Runs -/

/-- A store together with the ids that quarantines and recoveries begun so far were given. -/
structure Issuance where
  store : HealthStore
  quarantines : List QuarantineId := []
  recoveries : List RecoveryId := []

namespace Issuance
open HealthStore
variable {t : Issuance} {c : Call}

def step (t : Issuance) (c : Call) : Issuance where
  store := t.store.step c
  quarantines := t.quarantines ++ (t.store.newQuarantine c).toList
  recoveries := t.recoveries ++ (t.store.newRecovery c).toList

/-- No two quarantines and no two recoveries have the same id, and no id is null. -/
structure Unique (t : Issuance) : Prop where
  quarantines : t.quarantines.Nodup
  recoveries : t.recoveries.Nodup
  quarantine_ne_null : ∀ q ∈ t.quarantines, q.get ≠ 0
  recovery_ne_null : ∀ r ∈ t.recoveries, r.get ≠ 0

/-- The raw ids issued so far, of either kind. -/
def issued (t : Issuance) : List UInt64 :=
  t.quarantines.map StrongId.value ++ t.recoveries.map StrongId.value

/-- Nothing is drawn from a counter that has wrapped, and an accepted image lists a device
whose id is no smaller than any id issued. -/
structure KeepsFresh (t : Issuance) (c : Call) : Prop where
  quarantine : c.op.beginsQuarantine = true → t.store.nextQuarantineRaw ≠ 0
  recovery : c.op.beginsRecovery = true → t.store.nextRecoveryRaw ≠ 0
  image : ∀ data, c.op = .decode data ∨ c.op = .loadFromFile (some data) →
    (decodeStateInternal data t.store).result = .ok () →
      ∀ i ∈ t.issued, i ≤ maxRaw 0 (records data)

/-- The invariant of a run: neither counter will give an id again. -/
structure Fresh (t : Issuance) : Prop where
  quarantines : Unspent t.store.nextQuarantineRaw (t.quarantines.map StrongId.value)
  recoveries : Unspent t.store.nextRecoveryRaw (t.recoveries.map StrongId.value)

theorem Fresh.unique (h : t.Fresh) : t.Unique where
  quarantines := List.Nodup.of_map StrongId.value h.quarantines.nodup
  recoveries := List.Nodup.of_map StrongId.value h.recoveries.nodup
  quarantine_ne_null q hq hzero :=
    h.quarantines.nonzero (List.mem_map.mpr ⟨q, hq, hzero⟩)
  recovery_ne_null r hr hzero :=
    h.recoveries.nonzero (List.mem_map.mpr ⟨r, hr, hzero⟩)

theorem map_append_toList {Tag : Type} (ids : List (StrongId Tag)) (id : Option (StrongId Tag)) :
    (ids ++ id.toList).map StrongId.value =
      ids.map StrongId.value ++ (id.map StrongId.value).toList := by
  cases id <;> simp

theorem step_fresh (h : t.Fresh) (hc : KeepsFresh t c) : (t.step c).Fresh := by
  by_cases hload : c.op.loads = true
  · have hquarantine : c.op.beginsQuarantine = false := by
      cases hop : c.op <;> simp_all [Op.loads, Op.beginsQuarantine]
    have hrecovery : c.op.beginsRecovery = false := by
      cases hop : c.op <;> simp_all [Op.loads, Op.beginsRecovery]
    have hq : (t.step c).quarantines = t.quarantines := by
      unfold step
      rw [newQuarantine_eq_none hquarantine]
      exact List.append_nil _
    have hr : (t.step c).recoveries = t.recoveries := by
      unfold step
      rw [newRecovery_eq_none hrecovery]
      exact List.append_nil _
    rcases counters_of_loads (s := t.store) hload with hkept | ⟨data, hop, hok, hset⟩
    · obtain ⟨hnextq, hnextr⟩ := Prod.mk.inj hkept
      constructor
      · rw [hq, show (t.step c).store.nextQuarantineRaw = t.store.nextQuarantineRaw from hnextq]
        exact h.quarantines
      · rw [hr, show (t.step c).store.nextRecoveryRaw = t.store.nextRecoveryRaw from hnextr]
        exact h.recoveries
    · obtain ⟨hnextq, hnextr⟩ := Prod.mk.inj hset
      have hlarge := hc.image data hop hok
      unfold issued at hlarge
      constructor
      · rw [hq, show (t.step c).store.nextQuarantineRaw = _ from hnextq]
        exact h.quarantines.restart fun i hi => hlarge i (List.mem_append_left _ hi)
      · rw [hr, show (t.step c).store.nextRecoveryRaw = _ from hnextr]
        exact h.recoveries.restart fun i hi => hlarge i (List.mem_append_right _ hi)
  · have hissues := issues_step (s := t.store) (c := c) (by simpa using hload)
    constructor
    · show Unspent (t.store.step c).nextQuarantineRaw
        ((t.quarantines ++ (t.store.newQuarantine c).toList).map StrongId.value)
      rw [map_append_toList]
      exact h.quarantines.step hissues.quarantine hc.quarantine
    · show Unspent (t.store.step c).nextRecoveryRaw
        ((t.recoveries ++ (t.store.newRecovery c).toList).map StrongId.value)
      rw [map_append_toList]
      exact h.recoveries.step hissues.recovery hc.recovery

/-- The ids stay unique in every run whose loads set the counters past all issued so far. -/
theorem ids_unique_over_loads (policy : HealthPolicy) (epoch : UInt64) {calls : List Call}
    (h : Machine.Along step KeepsFresh ⟨init policy epoch, [], []⟩ calls) :
    (Machine.run step ⟨init policy epoch, [], []⟩ calls).Unique := by
  have hstart : Fresh ⟨init policy epoch, [], []⟩ := ⟨unspent_nil _, unspent_nil _⟩
  exact (Machine.run_invariant (fun _ _ ht hc => step_fresh ht hc) hstart h).unique

theorem store_run (t : Issuance) (calls : List Call) :
    (Machine.run step t calls).store = Machine.run HealthStore.step t.store calls := by
  induction calls generalizing t with
  | nil => rfl
  | cons c rest ih => exact ih (t.step c)

/-- The device with this raw uuid, registered and then twice put into quarantine and
cleared. -/
def quarantinedTwice (raw : UInt64) : List Call := [
  (Op.registerDevice ⟨raw⟩ ⟨1⟩).at 1,
  (Op.beginQuarantine ⟨raw⟩ .operator (str "maintenance") []).at 2,
  (Op.clearQuarantine ⟨raw⟩).at 3,
  (Op.beginQuarantine ⟨raw⟩ .operator (str "maintenance") []).at 4,
  (Op.clearQuarantine ⟨raw⟩).at 5]

theorem keepsFresh_of_not_loads (hload : c.op.loads = false)
    (hnext : t.store.nextQuarantineRaw ≠ 0 ∧ t.store.nextRecoveryRaw ≠ 0) : KeepsFresh t c where
  quarantine _ := hnext.1
  recovery _ := hnext.2
  image data hop := by
    rcases hop with hop | hop <;> simp [hop, Op.loads] at hload

/-- Device 7 has had the quarantines 1 and 2 when the store is saved and loaded; the image
lists a device past both, so the third quarantine gets the id 8. -/
theorem ids_unique_after_reload : ∃ data,
    encodeStateInternal (after {} 0 (quarantinedTwice 7)) = .ok data ∧
      (Machine.run step ⟨init {} 0, [], []⟩ (quarantinedTwice 7 ++ [(Op.decode data).at 6,
        (Op.beginQuarantine ⟨7⟩ .operator (str "maintenance") []).at 7])).Unique := by
  have hs : (after {} 0 (quarantinedTwice 7)).Sound := reachable_sound ⟨{}, 0, _, rfl⟩
  have hstore : (Machine.run step ⟨init {} 0, [], []⟩ (quarantinedTwice 7)).store =
      after {} 0 (quarantinedTwice 7) := store_run _ _
  obtain ⟨data, hdata, hok⟩ := hs.reloads
    ⟨by decide +kernel, by decide +kernel, by decide +kernel, by decide +kernel⟩
    (after {} 0 (quarantinedTwice 7))
  have hkeys : (after {} 0 (quarantinedTwice 7)).devices.keys = [⟨7⟩] := by decide +kernel
  have hmax := hs.maxRaw_eq hdata hok (m := 7) (by rw [hkeys]; decide) (by rw [hkeys]; decide)
  have hissued : (Machine.run step ⟨init {} 0, [], []⟩ (quarantinedTwice 7)).issued = [1, 2] := by
    decide +kernel
  have hcounters := counters_decode (s := after {} 0 (quarantinedTwice 7)) data
  rw [if_pos hok, hmax] at hcounters
  obtain ⟨hnextq, hnextr⟩ := Prod.mk.inj hcounters
  refine ⟨data, hdata, ids_unique_over_loads {} 0 (Machine.along_append.mpr ⟨?_, ?_, ?_, trivial⟩)⟩
  · exact ⟨keepsFresh_of_not_loads rfl (by decide +kernel),
      keepsFresh_of_not_loads rfl (by decide +kernel),
      keepsFresh_of_not_loads rfl (by decide +kernel),
      keepsFresh_of_not_loads rfl (by decide +kernel),
      keepsFresh_of_not_loads rfl (by decide +kernel), trivial⟩
  · refine ⟨(nomatch ·), (nomatch ·), fun image hop _ i hi => ?_⟩
    have himage : image = data := by
      rcases hop with hop | hop
      · exact (Op.decode.inj hop).symm
      · exact nomatch hop
    rw [hissued] at hi
    rw [himage, hmax]
    fin_cases hi <;> decide
  · refine keepsFresh_of_not_loads rfl ?_
    show (decodeStateInternal data _).state.nextQuarantineRaw ≠ 0 ∧
      (decodeStateInternal data _).state.nextRecoveryRaw ≠ 0
    rw [hstore, hnextq, hnextr]
    decide

/-- Device 1 has had the quarantines 1 and 2 when the store is saved and loaded; the image
lists no device but 1, so the next quarantine gets the id 2 again. -/
theorem reload_repeats_quarantine_id : ∃ data,
    encodeStateInternal (after {} 0 (quarantinedTwice 1)) = .ok data ∧
      ¬(Machine.run step ⟨init {} 0, [], []⟩ (quarantinedTwice 1 ++ [(Op.decode data).at 6,
        (Op.beginQuarantine ⟨1⟩ .operator (str "maintenance") []).at 7])).Unique := by
  have hs : (after {} 0 (quarantinedTwice 1)).Sound := reachable_sound ⟨{}, 0, _, rfl⟩
  obtain ⟨data, hdata, hok⟩ := hs.reloads
    ⟨by decide +kernel, by decide +kernel, by decide +kernel, by decide +kernel⟩
    (after {} 0 (quarantinedTwice 1))
  refine ⟨data, hdata, fun hunique => ?_⟩
  have hkeys : (after {} 0 (quarantinedTwice 1)).devices.keys = [⟨1⟩] := by decide +kernel
  have hfree : ((after {} 0 (quarantinedTwice 1)).devices.find? ⟨1⟩).map Device.quarantined =
      some false := by decide +kernel
  have hissued : (Machine.run step ⟨init {} 0, [], []⟩ (quarantinedTwice 1)).quarantines =
      [⟨1⟩, ⟨2⟩] := by decide +kernel
  have hstore : (Machine.run step ⟨init {} 0, [], []⟩ (quarantinedTwice 1)).store =
      after {} 0 (quarantinedTwice 1) := store_run _ _
  obtain ⟨d, hd, hfree⟩ := Option.map_eq_some_iff.mp hfree
  have hrepeated := hs.newQuarantine_reloaded hdata hok (m := 1) (by rw [hkeys]; decide)
    (by rw [hkeys]; decide) hd hfree
    (c := (Op.beginQuarantine ⟨1⟩ .operator (str "maintenance") []).at 7) rfl
  have hlist := hunique.quarantines
  rw [Machine.run_append] at hlist
  generalize Machine.run step ⟨init {} 0, [], []⟩ (quarantinedTwice 1) = saved at *
  have hids : (Machine.run step saved [(Op.decode data).at 6,
      (Op.beginQuarantine ⟨1⟩ .operator (str "maintenance") []).at 7]).quarantines =
        [⟨1⟩, ⟨2⟩] ++ [] ++ [⟨2⟩] := by
    show saved.quarantines ++ [] ++ ((decodeStateInternal data saved.store).state.newQuarantine
      ((Op.beginQuarantine ⟨1⟩ .operator (str "maintenance") []).at 7)).toList = _
    rw [hissued, hstore, hrepeated]
    rfl
  rw [hids] at hlist
  exact absurd hlist (by decide)

end Issuance
end AcceleratorHealth
