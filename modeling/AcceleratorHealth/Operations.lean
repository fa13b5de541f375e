import AcceleratorHealth.Runs

/-! What each operation can do, said once: rules for the two internal steps, the
facts that every operation on a device leaves alone, and for each call the list of
bodies that may have run on a given device. -/
namespace AcceleratorHealth

/-! ### Transitions -/

/-- The fields of a device that only a transition writes. -/
structure Track where
  state : HealthState
  transitionCount : UInt64
  healthGeneration : HealthGeneration
  changes : List HealthChange

def Device.track (d : Device) : Track :=
  ⟨d.state, d.transitionCount, d.healthGeneration, d.changes⟩

/-- A recorded transition. -/
inductive Track.Move : Track → Track → Prop
  | mk {t : Track} {toState : HealthState} {g : HealthGeneration} {hc : HealthChange}
      (legal : canTransition t.state toState) (next : t.healthGeneration.next = .ok g)
      (fromState_eq : hc.fromState = t.state) (toState_eq : hc.toState = toState)
      (generation_eq : hc.healthGeneration = g) :
      Move t ⟨toState, t.transitionCount + 1, g, t.changes ++ [hc]⟩

/-- A transition torn by the overflow of the health generation. -/
inductive Track.Tear : Track → Track → Prop
  | mk {t : Track} {toState : HealthState} (legal : canTransition t.state toState)
      (spent : t.healthGeneration = .last) :
      Tear t ⟨toState, t.transitionCount + 1, t.healthGeneration, t.changes⟩

abbrev Track.Moves : Track → Track → Prop := Relation.ReflTransGen Track.Move

/-- Recorded transitions, then at most one that is torn: it ends the call. -/
def Track.Ends (t t' : Track) : Prop := ∃ t₁, Moves t t₁ ∧ (t' = t₁ ∨ Tear t₁ t')

theorem Track.Moves.ends {t t' : Track} (h : Moves t t') : Ends t t' := ⟨t', h, Or.inl rfl⟩

theorem Track.Moves.trans_ends {t t' t'' : Track} (h : Moves t t') (h' : Ends t' t'') :
    Ends t t'' :=
  let ⟨t₁, hm, he⟩ := h'
  ⟨t₁, h.trans hm, he⟩

namespace Locked

/-- After the first two writes of a transition. -/
def torn (toState : HealthState) (l : Locked) : Locked :=
  { l with d := { l.d with state := toState, transitionCount := l.d.transitionCount + 1 } }

/-- After a whole transition. -/
def moved (now : Timestamp) (toState : HealthState) (label detail : Str) (g : HealthGeneration)
    (l : Locked) : Locked :=
  recordChangeLocked now l.d.state toState label detail
    { l with d := { (torn toState l).d with healthGeneration := g } }

section Rules
variable {now : Timestamp} {toState : HealthState} {label detail : Str} {clk : Readings}
  {l : Locked} {Q : Locked → Prop} {R : Exn → Locked → Prop}

theorem applyTransitionLocked_sat (stay : l.d.state = toState → Q l)
    (refuse : l.d.state ≠ toState → canTransition l.d.state toState = false →
      R (.invalidTransition l.d.state toState) l)
    (tear : canTransition l.d.state toState → l.d.healthGeneration = .last →
      R (.overflowError "generation overflow") (torn toState l))
    (move : ∀ g, canTransition l.d.state toState → l.d.healthGeneration.next = .ok g →
      Q (moved now toState label detail g l)) :
    (applyTransitionLocked now toState label detail l).Sat (fun _ => Q) R := by
  unfold applyTransitionLocked
  split_ifs with hs hc
  · exact stay hs
  · exact refuse hs (by simpa using hc)
  · have hc' : canTransition l.d.state toState := by simpa using hc
    cases hg : l.d.healthGeneration.next with
    | error e =>
      obtain ⟨hlast, rfl⟩ := Generation.next_eq_error hg
      exact tear hc' hlast
    | ok g => exact move g hc' hg

theorem applyTransitionLocked_eq_moved {g : HealthGeneration}
    (legal : canTransition l.d.state toState) (next : l.d.healthGeneration.next = .ok g) :
    applyTransitionLocked now toState label detail l =
      .ok () (moved now toState label detail g l) := by
  unfold applyTransitionLocked
  rw [if_neg (canTransition_ne legal), if_neg (by simp [legal]), next]
  rfl

theorem applyTransitionLocked_eq_torn (legal : canTransition l.d.state toState)
    (spent : l.d.healthGeneration = .last) :
    applyTransitionLocked now toState label detail l =
      .throw (.overflowError "generation overflow") (torn toState l) := by
  unfold applyTransitionLocked
  rw [if_neg (canTransition_ne legal), if_neg (by simp [legal]), spent]
  rfl

/-- However a transition ends. -/
theorem applyTransitionLocked_state {P : Locked → Prop} (stay : P l)
    (tear : canTransition l.d.state toState → l.d.healthGeneration = .last → P (torn toState l))
    (move : ∀ g, canTransition l.d.state toState → l.d.healthGeneration.next = .ok g →
      P (moved now toState label detail g l)) :
    P (applyTransitionLocked now toState label detail l).state := by
  have hsat : (applyTransitionLocked now toState label detail l).Sat (fun _ => P) fun _ => P :=
    applyTransitionLocked_sat (fun _ => stay) (fun _ _ => stay) tear move
  exact hsat.state

theorem applyTransitionLocked_eq_refused (differs : l.d.state ≠ toState)
    (illegal : canTransition l.d.state toState = false) :
    applyTransitionLocked now toState label detail l =
      .throw (.invalidTransition l.d.state toState) l := by
  unfold applyTransitionLocked
  rw [if_neg differs, if_pos (by simp [illegal])]

/-- The state that a reassessment at `now` aims for. -/
def target (now : Timestamp) (l : Locked) : HealthState := (assessmentInput now l).target

theorem target_of_inRecovery (h : l.d.inRecovery = true) :
    target now l = AssessmentInput.recoveryTarget l.d.state := by
  simp [target, AssessmentInput.target, assessmentInput, h]

/-- What a completed reassessment leaves, from the device as it then stood. -/
def published (now : Timestamp) (l : Locked) (transitionBlocked : Bool) (l' : Locked) : Locked :=
  publish now (assessmentInput now l).assess transitionBlocked l'

theorem reassessLocked_sat
    (same : target (clk 0) l = l.d.state → Q (published (clk 0) l false l))
    (move : ∀ g, canTransition l.d.state (target (clk 0) l) → l.d.healthGeneration.next = .ok g →
      Q (published (clk 0) l false (moved (clk 1) (target (clk 0) l) (str "health")
        (str (enumToString (target (clk 0) l))) g l)))
    (blocked : target (clk 0) l ≠ l.d.state → canTransition l.d.state (target (clk 0) l) = false →
      Q (published (clk 0) l true l))
    (tear : canTransition l.d.state (target (clk 0) l) → l.d.healthGeneration = .last →
      R (.overflowError "generation overflow") (torn (target (clk 0) l) l)) :
    (reassessLocked clk l).Sat (fun _ => Q) R := by
  have hstate : (assessmentInput (clk 0) l).assess.state = target (clk 0) l := rfl
  unfold reassessLocked
  simp only [hstate]
  split_ifs with hs hc
  · exact same hs
  · refine Exit.Sat.andThen (P := fun l' => Q (published (clk 0) l false l'))
      (applyTransitionLocked_sat (fun h => absurd h.symm hs) (fun _ h => ?_) tear move)
      fun l' hl' => hl'
    rw [hc] at h
    cases h
  · exact blocked hs (by simpa using hc)

/-- However a reassessment ends. -/
theorem reassessLocked_state {P : Locked → Prop}
    (same : target (clk 0) l = l.d.state → P (published (clk 0) l false l))
    (move : ∀ g, canTransition l.d.state (target (clk 0) l) → l.d.healthGeneration.next = .ok g →
      P (published (clk 0) l false (moved (clk 1) (target (clk 0) l) (str "health")
        (str (enumToString (target (clk 0) l))) g l)))
    (blocked : target (clk 0) l ≠ l.d.state → canTransition l.d.state (target (clk 0) l) = false →
      P (published (clk 0) l true l))
    (tear : canTransition l.d.state (target (clk 0) l) → l.d.healthGeneration = .last →
      P (torn (target (clk 0) l) l)) :
    P (reassessLocked clk l).state := by
  have hsat : (reassessLocked clk l).Sat (fun _ => P) fun _ => P :=
    reassessLocked_sat same move blocked tear
  exact hsat.state

theorem reassessLocked_eq_same (same : target (clk 0) l = l.d.state) :
    reassessLocked clk l = .ok () (published (clk 0) l false l) :=
  if_pos same

theorem reassessLocked_eq_blocked (differs : target (clk 0) l ≠ l.d.state)
    (blocked : canTransition l.d.state (target (clk 0) l) = false) :
    reassessLocked clk l = .ok () (published (clk 0) l true l) := by
  have hstate : (assessmentInput (clk 0) l).assess.state = target (clk 0) l := rfl
  unfold reassessLocked
  simp only [hstate]
  rw [if_neg differs, if_neg (by simp [blocked])]
  rfl

theorem reassessLocked_eq_torn (legal : canTransition l.d.state (target (clk 0) l))
    (spent : l.d.healthGeneration = .last) :
    reassessLocked clk l =
      .throw (.overflowError "generation overflow") (torn (target (clk 0) l) l) := by
  have hstate : (assessmentInput (clk 0) l).assess.state = target (clk 0) l := rfl
  unfold reassessLocked
  simp only [hstate]
  rw [if_neg (canTransition_ne legal).symm, if_pos legal, applyTransitionLocked_eq_torn legal spent]
  rfl

end Rules

/-! ### What no body changes -/

/-- Each dimension is filed under its own kind. -/
def keyedByKind (d : Device) : Prop :=
  ∀ kind dim, d.dimensions.find? kind = some dim → dim.kind = kind

/-- What every body that holds the lock on a device leaves alone. -/
structure Keeps (l l' : Locked) : Prop where
  policy : l'.store.policy = l.store.policy
  policyGeneration : l'.store.policyGeneration = l.store.policyGeneration
  coordinatorEpoch : l'.store.coordinatorEpoch = l.store.coordinatorEpoch
  registry : l'.store.workerBootRegistry = l.store.workerBootRegistry
  devices : l'.store.devices = l.store.devices
  uuidIndex : l'.store.uuidIndex = l.store.uuidIndex
  fence : ∀ key g, l.store.lastObservedGeneration.find? key = some g →
    ∃ g', l'.store.lastObservedGeneration.find? key = some g' ∧ g ≤ g'
  id : l'.d.id = l.d.id
  uuid : l'.d.uuid = l.d.uuid
  generation : l.d.generation ≤ l'.d.generation
  keyed : keyedByKind l.d → keyedByKind l'.d

/-- The relation between the two ends of a body that returns. -/
structure Proceeds (l l' : Locked) : Prop extends Keeps l l' where
  track : Track.Moves l.d.track l'.d.track

/-- The relation between the two ends of any body. -/
structure Continues (l l' : Locked) : Prop extends Keeps l l' where
  track : Track.Ends l.d.track l'.d.track

/-- The rule for a body: it returns as `Proceeds` says and throws as `Continues` says. -/
def Advances {α : Type} (l : Locked) (x : Exit Exn Locked α) : Prop :=
  x.Sat (fun _ => Proceeds l) (fun _ => Continues l)

/-- Everything the relation speaks of. -/
def constants (l : Locked) :=
  (l.store.policy, l.store.policyGeneration, l.store.coordinatorEpoch,
    l.store.workerBootRegistry, l.store.devices, l.store.uuidIndex,
    l.store.lastObservedGeneration, l.d.id, l.d.uuid, l.d.generation, l.d.dimensions, l.d.track)

theorem Keeps.refl (l : Locked) : Keeps l l :=
  ⟨rfl, rfl, rfl, rfl, rfl, rfl, fun _ g h => ⟨g, h, Nat.le_refl _⟩, rfl, rfl, Nat.le_refl _,
    fun h => h⟩

theorem Keeps.trans {l l' l'' : Locked} (h : Keeps l l') (h' : Keeps l' l'') : Keeps l l'' where
  policy := h'.policy.trans h.policy
  policyGeneration := h'.policyGeneration.trans h.policyGeneration
  coordinatorEpoch := h'.coordinatorEpoch.trans h.coordinatorEpoch
  registry := h'.registry.trans h.registry
  devices := h'.devices.trans h.devices
  uuidIndex := h'.uuidIndex.trans h.uuidIndex
  fence key g hg := by
    obtain ⟨g₁, hg₁, hle₁⟩ := h.fence key g hg
    obtain ⟨g₂, hg₂, hle₂⟩ := h'.fence key g₁ hg₁
    exact ⟨g₂, hg₂, Nat.le_trans hle₁ hle₂⟩
  id := h'.id.trans h.id
  uuid := h'.uuid.trans h.uuid
  generation := Nat.le_trans h.generation h'.generation
  keyed hk := h'.keyed (h.keyed hk)

namespace Proceeds

theorem refl (l : Locked) : Proceeds l l := ⟨.refl l, .refl⟩

theorem trans {l l' l'' : Locked} (h : Proceeds l l') (h' : Proceeds l' l'') : Proceeds l l'' :=
  ⟨h.toKeeps.trans h'.toKeeps, h.track.trans h'.track⟩

theorem continues {l l' : Locked} (h : Proceeds l l') : Continues l l' :=
  ⟨h.toKeeps, h.track.ends⟩

theorem trans_continues {l l' l'' : Locked} (h : Proceeds l l') (h' : Continues l' l'') :
    Continues l l'' :=
  ⟨h.toKeeps.trans h'.toKeeps, h.track.trans_ends h'.track⟩

/-- An edit of other fields. -/
theorem of_edit {l l' : Locked} (h : l'.constants = l.constants) : Proceeds l l' := by
  simp only [constants, Prod.mk.injEq] at h
  obtain ⟨hpolicy, hpg, hepoch, hreg, hdev, huuid, hfence, hid, hu, hgen, hdim, htrack⟩ := h
  exact {
    policy := hpolicy
    policyGeneration := hpg
    coordinatorEpoch := hepoch
    registry := hreg
    devices := hdev
    uuidIndex := huuid
    fence := fun _ g hg => ⟨g, hfence ▸ hg, Nat.le_refl _⟩
    id := hid
    uuid := hu
    generation := hgen ▸ Nat.le_refl _
    keyed := fun hk kind dim hf => hk kind dim (hdim ▸ hf)
    track := htrack ▸ .refl }

end Proceeds

namespace Advances
variable {α β : Type} {l l' : Locked}

theorem continues {x : Exit Exn Locked α} (h : Advances l x) : Continues l x.state :=
  (Exit.Sat.mono h (S := fun _ => Continues l) (fun _ _ h => h.continues) fun _ _ h => h).state

theorem ok {a : α} (h : Proceeds l l') : Advances l (.ok a l') := h

theorem throw {e : Exn} (h : Proceeds l l') : Advances l (.throw e l' : Exit Exn Locked α) :=
  h.continues

/-- What happened before a body extends it. -/
theorem after {x : Exit Exn Locked α} (h : Proceeds l l') (hx : Advances l' x) : Advances l x :=
  Exit.Sat.mono hx (fun _ _ => h.trans) fun _ _ => h.trans_continues

theorem andThen {x : Exit Exn Locked Unit} {f : Locked → Exit Exn Locked β} (h : Advances l x)
    (hf : ∀ l', Advances l' (f l')) : Advances l (x.andThen f) :=
  Exit.Sat.andThen h fun l' hl' => after hl' (hf l')

end Advances

theorem continues_torn {toState : HealthState} {l : Locked}
    (legal : canTransition l.d.state toState) (spent : l.d.healthGeneration = .last) :
    Continues l (torn toState l) :=
  { Keeps.refl l with track := ⟨_, .refl, Or.inr (.mk legal spent)⟩ }

theorem proceeds_moved {now : Timestamp} {toState : HealthState} {label detail : Str}
    {g : HealthGeneration} {l : Locked} (legal : canTransition l.d.state toState)
    (next : l.d.healthGeneration.next = .ok g) :
    Proceeds l (moved now toState label detail g l) :=
  { Keeps.refl l with track := .single (.mk legal next rfl rfl rfl) }

theorem proceeds_published {now : Timestamp} {l l' : Locked} {blocked : Bool} :
    Proceeds l' (published now l blocked l') :=
  Proceeds.of_edit rfl

theorem advances_applyTransitionLocked (now : Timestamp) (toState : HealthState)
    (label detail : Str) (l : Locked) :
    Advances l (applyTransitionLocked now toState label detail l) :=
  applyTransitionLocked_sat (fun _ => .refl l) (fun _ _ => (Proceeds.refl l).continues)
    continues_torn fun _ => proceeds_moved

theorem advances_reassessLocked (clk : Readings) (l : Locked) :
    Advances l (reassessLocked clk l) :=
  reassessLocked_sat (fun _ => proceeds_published)
    (fun _ hl hg => (proceeds_moved hl hg).trans proceeds_published)
    (fun _ _ => proceeds_published) continues_torn

/-! ### Every body advances -/

theorem fence_eq_none {env : AuthorityEnvelope} {l : Locked} (h : fence env l = none) :
    env.coordinatorEpoch = l.store.coordinatorEpoch ∧
      l.store.workerBootRegistry.find? env.workerId = some env.workerBootId ∧
      (∀ og, l.store.lastObservedGeneration.find? (toLex (env.workerId, env.workerBootId)) =
        some og → og < env.observationGeneration) ∧
      l.d.generation ≤ env.deviceGeneration := by
  unfold fence at h
  by_cases hepoch : env.coordinatorEpoch = l.store.coordinatorEpoch
  · rw [if_neg (not_not.mpr hepoch)] at h
    cases hboot : l.store.workerBootRegistry.find? env.workerId with
    | none => simp [hboot] at h
    | some boot =>
      simp only [hboot] at h
      split_ifs at h with hne hog hgen
      refine ⟨hepoch, by rw [not_not.mp hne], fun og hfind => ?_, Nat.le_of_not_lt hgen⟩
      exact Nat.lt_of_not_le fun hle => hog ⟨og, hfind, hle⟩
  · rw [if_pos hepoch] at h
    cases h

theorem keyedByKind_insertAll {dims : OrdMap DimensionKind HealthDimension}
    (l : List HealthDimension) (h : ∀ kind dim, dims.find? kind = some dim → dim.kind = kind) :
    ∀ kind dim, (dims.insertAll (l.map fun dim => (dim.kind, dim))).find? kind = some dim →
      dim.kind = kind := by
  induction l generalizing dims with
  | nil => exact h
  | cons x rest ih =>
    refine @ih (dims.insert x.kind x) fun kind dim hf => ?_
    rw [OrdMap.find?_insert] at hf
    split_ifs at hf with hk
    · cases hf
      exact hk.symm
    · exact h kind dim hf

theorem proceeds_takeObservation {obs : AcceleratorObservation} {env : AuthorityEnvelope}
    {l : Locked} (h : fence env l = none) : Proceeds l (takeObservation obs env l) := by
  obtain ⟨-, -, hog, hgen⟩ := fence_eq_none h
  refine ⟨⟨rfl, rfl, rfl, rfl, rfl, rfl, fun key g hg => ?_, ?_, ?_, ?_, ?_⟩, ?_⟩
  · simp only [takeObservation, OrdMap.find?_insert]
    split_ifs with hk
    · exact ⟨_, rfl, Nat.le_of_lt (hog g (hk ▸ hg))⟩
    · exact ⟨g, hg, Nat.le_refl _⟩
  all_goals simp only [takeObservation]
  · split_ifs <;> rfl
  · split_ifs <;> rfl
  · split_ifs
    · exact hgen
    · exact Nat.le_refl _
  · intro hk
    split_ifs
    · exact keyedByKind_insertAll obs.dimensions hk
    · exact keyedByKind_insertAll obs.dimensions hk
  · split_ifs <;> exact .refl

theorem advances_acceptObservation (clk : Readings) (obs : AcceleratorObservation)
    (env : AuthorityEnvelope) (l : Locked) : Advances l (acceptObservation clk obs env l) := by
  unfold acceptObservation
  cases hf : fence env l with
  | some rejection => exact .ok (.refl l)
  | none =>
    exact .andThen (.after (proceeds_takeObservation hf) (advances_reassessLocked clk _))
      fun l' => .ok (.refl l')

theorem advances_recordFault (clk : Readings) (fault : Fault) (l : Locked) :
    Advances l (recordFault clk fault l) := by
  unfold recordFault
  cases l.d.faults.record fault with
  | error e => exact .throw (.refl l)
  | ok faults =>
    have hedit : Proceeds l (takeFault fault faults l) := .of_edit rfl
    exact .after hedit (advances_reassessLocked clk _)

theorem proceeds_addValidation (v : ValidationRecord) (l : Locked) :
    Proceeds l (addValidation v l) :=
  Proceeds.of_edit rfl

theorem advances_recordValidation (clk : Readings) (v : ValidationRecord) (l : Locked) :
    Advances l (recordValidation clk v l) :=
  .after (proceeds_addValidation v l) (advances_reassessLocked clk _)

theorem advances_beginQuarantine (clk : Readings) (id : AcceleratorId)
    (authority : QuarantineAuthority) (reason triggeredBy : Str) (l : Locked) :
    Advances l (beginQuarantine clk id authority reason triggeredBy l) := by
  unfold beginQuarantine
  split_ifs
  · exact .throw (.refl l)
  · have hopen : Proceeds l (openQuarantine (clk 0) id authority reason triggeredBy l) :=
      .of_edit rfl
    exact .andThen (.after hopen (advances_applyTransitionLocked ..)) (advances_reassessLocked _)

theorem proceeds_closeQuarantine (id : AcceleratorId) (l : Locked) :
    Proceeds l (closeQuarantine id l) := by
  unfold closeQuarantine
  cases l.d.quarantine with
  | none => exact .refl l
  | some q => exact Proceeds.of_edit rfl

theorem advances_clearQuarantine (clk : Readings) (id : AcceleratorId) (l : Locked) :
    Advances l (clearQuarantine clk id l) :=
  .after (proceeds_closeQuarantine id l) (advances_reassessLocked clk _)

theorem advances_openRecovery (now : Timestamp) (l : Locked) :
    Advances l (openRecovery now l) := by
  unfold openRecovery
  simp only
  split
  · exact .throw (.of_edit rfl)
  · exact .ok (.of_edit rfl)

theorem advances_beginRecovery (clk : Readings) (l : Locked) :
    Advances l (beginRecovery clk l) := by
  unfold beginRecovery
  split_ifs
  · exact .ok (.refl l)
  · exact .throw (.refl l)
  · exact .andThen (.andThen (advances_applyTransitionLocked ..) (advances_openRecovery _))
      (advances_reassessLocked _)

theorem advances_recoveryPassed (clk : Readings) (l : Locked) :
    Advances l (recoveryPassed clk l) := by
  unfold recoveryPassed
  refine .andThen ?_ fun l' => ?_
  · split_ifs
    · exact advances_applyTransitionLocked ..
    · exact .ok (.refl l)
  · have hcount : Proceeds l' (countSuccess l') := .of_edit rfl
    simp only
    split_ifs
    · exact .andThen (.after hcount (advances_applyTransitionLocked ..))
        fun l'' => .ok (.of_edit rfl)
    · exact .ok hcount

theorem advances_recoveryStep (clk : Readings) (v : ValidationRecord) (l : Locked) :
    Advances l (recoveryStep clk v l) := by
  unfold recoveryStep
  split_ifs
  · exact advances_recoveryPassed clk l
  · unfold recoveryFailed
    split_ifs
    · exact advances_applyTransitionLocked ..
    · exact .ok (.refl l)
  · exact .ok (.refl l)

theorem advances_revalidate (clk : Readings) (v : ValidationRecord) (l : Locked) :
    Advances l (revalidate clk v l) := by
  unfold revalidate
  exact .andThen (.after (proceeds_addValidation v l) (advances_recoveryStep ..)) fun l' =>
    .andThen (advances_reassessLocked _ l') fun l'' => .ok (.refl l'')

/-- The snapshot at the end of `revalidate` changes nothing. -/
theorem revalidate_state (clk : Readings) (v : ValidationRecord) (l : Locked) :
    (revalidate clk v l).state =
      ((recoveryStep clk v (addValidation v l)).andThen (reassessLocked (clk.drop 3))).state := by
  unfold revalidate Exit.andThen Exit.bind
  cases (recoveryStep clk v (addValidation v l)).result with
  | error e => rfl
  | ok _ =>
    simp only
    split <;> rfl

theorem advances_markLost (now : Timestamp) (reason : Str) (l : Locked) :
    Advances l (markLost now reason l) := by
  have hedit : Proceeds l { l with d := { l.d with present := false } } := .of_edit rfl
  unfold markLost
  simp only
  split_ifs with hlost hlegal
  · exact .ok hedit
  · exact .after hedit (advances_applyTransitionLocked ..)
  · exact absurd (canTransition_lost hlost) hlegal

theorem advances_orphan (clk : Readings) (worker : WorkerId) (boot : WorkerBootId)
    (l : Locked) : Advances l (HealthStore.orphan clk worker boot l) := by
  unfold HealthStore.orphan
  split_ifs
  · have hedit : Proceeds l { l with d :=
        { l.d with lastObservation := {}, deviceGenerationChangedFlag := false } } := .of_edit rfl
    exact .after hedit (advances_reassessLocked _ _)
  · exact .ok (.refl l)

end Locked
end AcceleratorHealth
