import AcceleratorHealth.Coordinator

/-! What the coordinator does to its store: every step is a run of store calls, in which
connections introduce workers; what a connection remembers is the last worker introduced
on it; and a step ends at most one connection. -/
namespace AcceleratorHealth
open Codec Wire

/-- The calls that the frame handlers make. -/
def Op.serves : Op → Bool
  | .registerWorker _ _ | .registerDevice _ _ | .reassessAll | .acceptObservation _ _
  | .recordValidation _ | .recordFault _ => true
  | _ => false

/-- A worker with its boot id. -/
abbrev Incarnation := WorkerId × WorkerBootId

/-- The incarnation that a call registers. -/
def Op.introduces : Op → Option Incarnation
  | .registerWorker worker boot => some (worker, boot)
  | _ => none

/-- The incarnation that the handling of a frame registers. -/
def Frame.introduces (frame : Frame) : Option Incarnation :=
  match frame.type with
  | .register =>
    match readRegBody.run { data := frame.payload } with
    | .ok ((hello, _), _) => some (hello.worker, hello.boot)
    | .error _ => none
  | _ => none

namespace HealthStore

/-- The second store is left by calls on the first that handlers make, and that register
these incarnations in this order. -/
def Serves (s s' : HealthStore) (incarnations : List Incarnation) : Prop :=
  ∃ calls : List Call, (∀ c ∈ calls, c.op.serves = true) ∧
    calls.filterMap (fun c => c.op.introduces) = incarnations ∧ s' = Machine.run step s calls

theorem Serves.refl (s : HealthStore) : s.Serves s [] := ⟨[], by simp, rfl, rfl⟩

theorem Serves.trans {s s' s'' : HealthStore} {l l' : List Incarnation} (h : s.Serves s' l)
    (h' : s'.Serves s'' l') : s.Serves s'' (l ++ l') := by
  obtain ⟨calls, hserves, rfl, rfl⟩ := h
  obtain ⟨calls', hserves', rfl, rfl⟩ := h'
  refine ⟨calls ++ calls', ?_, List.filterMap_append, (Machine.run_append ..).symm⟩
  simpa only [List.forall_mem_append] using ⟨hserves, hserves'⟩

theorem Serves.single {s : HealthStore} (c : Call) (h : c.op.serves = true) :
    s.Serves (s.step c) c.op.introduces.toList := by
  refine ⟨[c], by simpa using h, ?_, rfl⟩
  cases hop : c.op.introduces <;> simp [hop]

theorem loads_of_serves {op : Op} (h : op.serves = true) : op.loads = false := by
  cases op <;> simp [Op.serves, Op.loads] at h ⊢

/-- Such a call changes the registry by the incarnation that it registers. -/
theorem registry_step {s : HealthStore} {c : Call} (h : c.op.serves = true) :
    (s.step c).workerBootRegistry = match c.op.introduces with
      | some p => s.workerBootRegistry.insert p.1 p.2
      | none => s.workerBootRegistry := by
  cases hop : c.op with
  | registerWorker worker boot => simp only [step, exec, hop, Op.introduces]; rfl
  | registerDevice uuid node =>
    simp only [step, exec, hop, Op.introduces, registerDevice]
    split <;> rfl
  | acceptObservation _ _ | recordFault _ | recordValidation _ | reassessAll =>
    exact (step_evolves (by simp [hop, Op.onDevices])).registry
  | _ => simp [hop, Op.serves] at h

/-- Such calls enter into the registry what they register. -/
theorem Serves.registry {s s' : HealthStore} {l : List Incarnation} (h : s.Serves s' l) :
    s'.workerBootRegistry = s.workerBootRegistry.insertAll l := by
  obtain ⟨calls, hserves, rfl, rfl⟩ := h
  induction calls generalizing s with
  | nil => rfl
  | cons c rest ih =>
    rw [List.forall_mem_cons] at hserves
    rw [Machine.run_cons, ih hserves.2, registry_step hserves.1, List.filterMap_cons]
    cases c.op.introduces <;> rfl

theorem Serves.coordinatorEpoch {s s' : HealthStore} {l : List Incarnation} (h : s.Serves s' l) :
    s'.coordinatorEpoch = s.coordinatorEpoch := by
  obtain ⟨calls, hserves, -, rfl⟩ := h
  refine Machine.run_invariant (P := fun t : HealthStore => t.coordinatorEpoch = s.coordinatorEpoch)
    (C := fun _ c => c.op.serves = true) (fun t c ht hc => ?_) rfl
    (Machine.along_of_forall fun c hc _ => hserves c hc)
  rw [step_coordinatorEpoch (loads_of_serves hc), ← ht]
  cases hop : c.op <;> simp [hop, Op.serves] at hc ⊢

end HealthStore

/-- A connection after a frame that registers an incarnation, or none. -/
def Connection.after (connection : Connection) : Option Incarnation → Connection
  | some p => { worker := p.1, boot := p.2, haveWorker := true }
  | none => connection

/-- The handler's session before and after: the store is left by a run of its calls, and the
connection remembers the incarnation that they have introduced. -/
structure Session.Handles (s s' : Session) (introduced : Option Incarnation) : Prop where
  store : s.store.Serves s'.store introduced.toList
  connection : s'.connection = s.connection.after introduced

namespace Session
open HealthStore

theorem Handles.refl (s : Session) : s.Handles s none := ⟨.refl s.store, rfl⟩

/-- A reply changes nothing. -/
theorem state_reply (type : MessageType) (body : Writer) (s : Session) :
    (s.reply type body).state = s := by
  unfold reply
  split <;> rfl

theorem state_acknowledge (type : MessageType) (accepted : Bool) (msg : String) (s : Session) :
    (s.acknowledge type accepted msg).state = s := state_reply ..

theorem state_andThen_acknowledge (x : Exit Exn Session Unit) (type : MessageType)
    (accepted : Bool) (msg : String) :
    (x.andThen (acknowledge type accepted msg)).state = x.state := by
  unfold Exit.andThen Exit.bind
  split
  · exact state_acknowledge ..
  · rfl

/-- One call of the store. -/
theorem handles_onStore {α : Type} (operation : HealthStore → Exit Exn HealthStore α) (s : Session)
    (c : Call) (hserves : c.op.serves = true) (hnone : c.op.introduces = none)
    (hstep : (operation s.store).state = s.store.step c) :
    s.Handles (s.onStore operation).state none := by
  refine ⟨?_, rfl⟩
  have hsingle := Serves.single (s := s.store) c hserves
  rw [hnone] at hsingle
  change s.store.Serves (operation s.store).state _
  rw [hstep]
  exact hsingle

theorem serves_registerDevices (clk : Readings) (node : NodeId) (devices : List DeviceIdentity)
    (store : HealthStore) : store.Serves (registerDevices clk node devices store) [] := by
  unfold registerDevices
  generalize devices.zipIdx = turns
  induction turns generalizing store with
  | nil => exact .refl store
  | cons turn rest ih =>
    rw [List.foldl_cons]
    have hfirst := Serves.single (s := store)
      ⟨.registerDevice turn.1.uuid node, fun _ => clk turn.2⟩ rfl
    exact hfirst.trans (ih _)

section Handlers
attribute [local irreducible] readRegBody readObsBody readValBody readFaultBody
variable {clk : Readings} {payload : Bytes}

theorem handles_register (s : Session) :
    s.Handles (s.handleRegister clk payload).state
      (Frame.introduces { type := .register, payload }) := by
  unfold handleRegister Frame.introduces
  simp only
  cases readRegBody.run { data := payload } with
  | error e => exact .refl s
  | ok x =>
    obtain ⟨⟨hello, devices⟩, r⟩ := x
    have hworker := Serves.single (s := s.store)
      ⟨.registerWorker hello.worker hello.boot, clk⟩ rfl
    cases devices with
    | none => exact ⟨hworker, rfl⟩
    | some devices =>
      simp only [state_andThen_acknowledge]
      have hdevices := serves_registerDevices clk hello.node devices
        (s.store.registerWorker hello.worker hello.boot)
      have hassessed := handles_onStore (HealthStore.reassessAll (clk.drop devices.length))
        ⟨registerDevices clk hello.node devices (s.store.registerWorker hello.worker hello.boot),
          ⟨hello.worker, hello.boot, true⟩⟩ ⟨.reassessAll, clk.drop devices.length⟩ rfl rfl (by
          simp only [HealthStore.step, HealthStore.exec, Exit.mapResult_state])
      exact ⟨hworker.trans (hdevices.trans hassessed.store), rfl⟩

theorem handles_observation (s : Session) :
    s.Handles (s.handleObservation clk payload).state none := by
  unfold handleObservation
  cases readObsBody.run { data := payload } with
  | error e => exact .refl s
  | ok x =>
    obtain ⟨⟨env, obs⟩, r⟩ := x
    have haccepts := handles_onStore (HealthStore.acceptObservation clk obs env) s
      ⟨.acceptObservation obs env, clk⟩ rfl rfl (by
        simp only [HealthStore.step, HealthStore.exec, Exit.mapResult_state])
    simp only
    unfold Exit.bind
    split
    · rw [state_acknowledge]
      exact haccepts
    · exact haccepts

theorem handles_validationResult (s : Session) :
    s.Handles (s.handleValidationResult clk payload).state none := by
  unfold handleValidationResult
  cases readValBody.run { data := payload } with
  | error e => exact .refl s
  | ok x =>
    obtain ⟨⟨env, v⟩, r⟩ := x
    simp only [state_andThen_acknowledge]
    exact handles_onStore (HealthStore.recordValidation clk v) s
      ⟨.recordValidation v, clk⟩ rfl rfl (by
      simp only [HealthStore.step, HealthStore.exec, Exit.mapResult_state])

theorem handles_faultReport (s : Session) :
    s.Handles (s.handleFaultReport clk payload).state none := by
  unfold handleFaultReport
  cases readFaultBody.run { data := payload } with
  | error e => exact .refl s
  | ok x =>
    obtain ⟨⟨env, f⟩, r⟩ := x
    simp only [state_andThen_acknowledge]
    exact handles_onStore (HealthStore.recordFault clk f) s ⟨.recordFault f, clk⟩ rfl rfl (by
      simp only [HealthStore.step, HealthStore.exec, Exit.mapResult_state])

/-- Every frame is handled by a run of store calls. -/
theorem handles_frame (clk : Readings) (frame : Frame) (s : Session) :
    s.Handles (s.handleFrame clk frame).state frame.introduces := by
  obtain ⟨type, payload⟩ := frame
  unfold handleFrame
  cases type with
  | register => exact handles_register s
  | observation => exact handles_observation s
  | validationResult => exact handles_validationResult s
  | faultReport => exact handles_faultReport s
  | snapshotRequest =>
    simp only [handleSnapshotRequest, state_reply]
    exact .refl s
  | _ => exact .refl s

end Handlers
end Session

/-- The connection that an event is about. -/
def Event.fd : Event → Nat
  | .accept fd => fd
  | .receive fd _ => fd
  | .hangUp fd => fd

namespace Coordinator

/-- An event with its clocks. -/
abbrev Timed := Event × Readings × Readings

/-- The incarnation that the step registers. -/
def introduction (c : Coordinator) (e : Timed) : Option Incarnation :=
  match e.1 with
  | .receive fd frame => if (c.connections.find? fd).isSome then frame.introduces else none
  | _ => none

/-- The connection that the step ends, the session that ends, and the clock of its end. -/
def ending (c : Coordinator) (e : Timed) : Option (Nat × Session × Readings) :=
  match e.1 with
  | .accept _ => none
  | .receive fd frame =>
    match c.connections.find? fd with
    | none => none
    | some connection =>
      let handled := Session.handleFrame e.2.1 frame { store := c.store, connection }
      match handled.result with
      | .ok _ => none
      | .error _ => some (fd, handled.state, e.2.2)
  | .hangUp fd =>
    (c.connections.find? fd).map fun connection => (fd, { store := c.store, connection }, e.2.1)

/-- The incarnations that a run registers, in their order. -/
def introductions : Coordinator → List Timed → List Incarnation
  | _, [] => []
  | c, e :: rest => (c.introduction e).toList ++ (c.step e).introductions rest

theorem introductions_append (c : Coordinator) (l l' : List Timed) :
    c.introductions (l ++ l') = c.introductions l ++ (Machine.run step c l).introductions l' := by
  induction l generalizing c with
  | nil => rfl
  | cons e rest ih =>
    simp only [List.cons_append, introductions, Machine.run_cons, ih, List.append_assoc]

section Step
variable {c : Coordinator} {e : Timed} {fd : Nat} {session : Session} {clk : Readings}

/-- A step that ends a connection is the teardown of what its handler has left. -/
theorem step_of_ending (h : c.ending e = some (fd, session, clk)) :
    c.step e = c.hangUp clk fd session := by
  obtain ⟨event, clk₁, clk₂⟩ := e
  unfold ending at h
  unfold step
  cases event with
  | accept fd' => cases h
  | receive fd' frame =>
    simp only at h ⊢
    cases hfd : c.connections.find? fd' with
    | none =>
      rw [hfd] at h
      cases h
    | some connection =>
      simp only [hfd] at h ⊢
      cases hres : (Session.handleFrame clk₁ frame { store := c.store, connection }).result with
      | ok sent =>
        rw [hres] at h
        cases h
      | error e =>
        rw [hres] at h
        cases h
        rfl
  | hangUp fd' =>
    simp only at h ⊢
    cases hfd : c.connections.find? fd' with
    | none =>
      rw [hfd] at h
      cases h
    | some connection =>
      rw [hfd] at h
      cases h
      rfl

/-- Up to the teardown the step is its handler's. -/
theorem handles_of_ending (h : c.ending e = some (fd, session, clk)) :
    e.1.fd = fd ∧ (∀ fd, e.1 ≠ .accept fd) ∧ ∃ connection,
      c.connections.find? fd = some connection ∧
      Session.Handles { store := c.store, connection } session (c.introduction e) := by
  obtain ⟨event, clk₁, clk₂⟩ := e
  unfold ending at h
  unfold introduction
  cases event with
  | accept fd' => cases h
  | receive fd' frame =>
    simp only at h ⊢
    cases hfd : c.connections.find? fd' with
    | none =>
      rw [hfd] at h
      cases h
    | some connection =>
      simp only [hfd] at h
      split at h
      · cases h
      · cases h
        exact ⟨rfl, by simp, connection, hfd, Session.handles_frame clk₁ frame _⟩
  | hangUp fd' =>
    simp only at h ⊢
    cases hfd : c.connections.find? fd' with
    | none =>
      rw [hfd] at h
      cases h
    | some connection =>
      rw [hfd] at h
      cases h
      exact ⟨rfl, by simp, connection, hfd, .refl _⟩

/-- A step that ends no connection opens one, or serves one, or finds none to serve. -/
theorem step_of_serving (h : c.ending e = none) :
    (∃ fd, e.1 = .accept fd ∧ c.introduction e = none ∧
        c.step e = { c with connections := c.connections.insert fd {} }) ∨
      (∃ fd frame connection session, e.1 = .receive fd frame ∧
        c.connections.find? fd = some connection ∧
        Session.Handles { store := c.store, connection } session (c.introduction e) ∧
        c.step e =
          { store := session.store, connections := c.connections.insert fd session.connection }) ∨
      (∀ fd, e.1 ≠ .accept fd) ∧ c.introduction e = none ∧ c.step e = c := by
  obtain ⟨event, clk₁, clk₂⟩ := e
  unfold ending at h
  unfold introduction step
  cases event with
  | accept fd => exact Or.inl ⟨fd, rfl, rfl, rfl⟩
  | receive fd frame =>
    right
    simp only at h ⊢
    cases hfd : c.connections.find? fd with
    | none => exact Or.inr ⟨by simp, rfl, rfl⟩
    | some connection =>
      left
      simp only [hfd] at h ⊢
      have hhandles := Session.handles_frame clk₁ frame { store := c.store, connection }
      cases hres : (Session.handleFrame clk₁ frame { store := c.store, connection }).result with
      | ok sent => exact ⟨fd, frame, connection, _, rfl, hfd, hhandles, rfl⟩
      | error e =>
        rw [hres] at h
        cases h
  | hangUp fd =>
    right
    right
    simp only at h ⊢
    cases hfd : c.connections.find? fd with
    | none => exact ⟨by simp, trivial, rfl⟩
    | some connection =>
      rw [hfd] at h
      cases h

theorem serves_of_serving (h : c.ending e = none) :
    c.store.Serves (c.step e).store (c.introduction e).toList := by
  rcases step_of_serving h with ⟨fd, -, hnone, hstep⟩ | ⟨fd, frame, connection, session, -, -,
    hhandles, hstep⟩ | ⟨-, hnone, hstep⟩
  · rw [hnone, hstep]
    exact .refl c.store
  · rw [hstep]
    exact hhandles.store
  · rw [hnone, hstep]
    exact .refl c.store

theorem serves_of_ending (h : c.ending e = some (fd, session, clk)) :
    c.store.Serves session.store (c.introduction e).toList := by
  obtain ⟨-, -, connection, -, hhandles⟩ := handles_of_ending h
  exact hhandles.store

end Step

/-! ### The teardown -/

section HangUp
variable {clk : Readings} {fd : Nat} {session : Session} {c : Coordinator}

/-- The teardown ends its connection, if not all of them. -/
theorem find?_of_hangUp {fd' : Nat} {connection : Connection}
    (h : (c.hangUp clk fd session).connections.find? fd' = some connection) :
    fd' ≠ fd ∧ c.connections.find? fd' = some connection := by
  unfold hangUp at h
  simp only at h
  split at h
  · rw [OrdMap.find?_erase] at h
    split_ifs at h with hfd
    exact ⟨hfd, h⟩
  · cases h

theorem find?_hangUp (clk : Readings) (fd : Nat) (session : Session) (c : Coordinator) :
    (c.hangUp clk fd session).connections.find? fd = none := by
  by_contra hsome
  obtain ⟨connection, hfd⟩ := Option.ne_none_iff_exists'.mp hsome
  exact (find?_of_hangUp hfd).1 rfl

theorem store_hangUp (clk : Readings) (fd : Nat) (session : Session) (c : Coordinator) :
    (c.hangUp clk fd session).store = (session.hangUp clk).state := by
  unfold hangUp
  simp only
  split <;> rfl

/-- The teardown takes the worker that the connection remembers off the registry, or
nothing. -/
theorem registry_hangUp (clk : Readings) (session : Session) :
    (session.hangUp clk).state.workerBootRegistry = session.store.workerBootRegistry ∨
      session.connection.haveWorker = true ∧
        session.store.isWorkerCurrent session.connection.worker session.connection.boot ∧
        (session.hangUp clk).state.workerBootRegistry =
          session.store.workerBootRegistry.erase session.connection.worker := by
  unfold Session.hangUp
  split_ifs with hworker
  · obtain ⟨hok, herr⟩ := Exit.sat_iff.mp (HealthStore.invalidateWorker_sat clk
      session.connection.worker session.connection.boot session.store)
    cases hresult : (session.store.invalidateWorker clk session.connection.worker
        session.connection.boot).result with
    | error e => exact Or.inl (herr e hresult).registry
    | ok u =>
      rcases (hok u hresult).2.2 with ⟨-, hsame⟩ | herased
      · exact Or.inl hsame
      · by_cases hcurrent : session.store.isWorkerCurrent session.connection.worker
            session.connection.boot
        · exact Or.inr ⟨hworker, hcurrent, herased⟩
        · left
          unfold HealthStore.invalidateWorker
          rw [if_neg hcurrent]
          rfl
  · exact Or.inl rfl

/-- What the teardown leaves registered has been registered before. -/
theorem registered_of_hangUp {worker : WorkerId} {boot : WorkerBootId}
    (h : (session.hangUp clk).state.workerBootRegistry.find? worker = some boot) :
    session.store.workerBootRegistry.find? worker = some boot := by
  rcases registry_hangUp clk session with hsame | ⟨-, -, herased⟩
  · rw [← hsame]
    exact h
  · rw [herased, OrdMap.find?_erase] at h
    split_ifs at h
    exact h

/-- The teardown leaves any other incarnation registered. -/
theorem registered_hangUp {worker : WorkerId} {boot : WorkerBootId}
    (h : session.store.workerBootRegistry.find? worker = some boot)
    (hother : session.connection ≠ { worker, boot, haveWorker := true }) :
    (session.hangUp clk).state.workerBootRegistry.find? worker = some boot := by
  rcases registry_hangUp clk session with hsame | ⟨hworker, hcurrent, herased⟩
  · rw [hsame]
    exact h
  · rw [herased, OrdMap.find?_erase, if_neg]
    · exact h
    · intro heq
      apply hother
      have hboot : session.store.workerBootRegistry.find? session.connection.worker =
          some session.connection.boot := by simpa [HealthStore.isWorkerCurrent] using hcurrent
      obtain ⟨store, worker', boot', haveWorker⟩ := session
      simp only at heq hboot hworker
      subst heq
      rw [h] at hboot
      cases hboot
      cases hworker
      rfl

theorem coordinatorEpoch_hangUp (clk : Readings) (session : Session) :
    (session.hangUp clk).state.coordinatorEpoch = session.store.coordinatorEpoch := by
  unfold Session.hangUp
  split_ifs
  · apply HealthStore.coordinatorEpoch_invalidateWorker
  · rfl

end HangUp

/-! ### One step and the registry -/

section Registry
variable {c : Coordinator} {e : Timed} {worker : WorkerId} {boot : WorkerBootId}

/-- What a step leaves registered it has registered, or it was registered and no other of
its worker has replaced it. -/
theorem registered_of_step
    (h : (c.step e).store.workerBootRegistry.find? worker = some boot) :
    c.introduction e = some (worker, boot) ∨
      c.store.workerBootRegistry.find? worker = some boot ∧
        ∀ p, c.introduction e = some p → p.1 ≠ worker := by
  have hhandled : ∀ {s : HealthStore}, c.store.Serves s (c.introduction e).toList →
      s.workerBootRegistry.find? worker = some boot →
      c.introduction e = some (worker, boot) ∨
        c.store.workerBootRegistry.find? worker = some boot ∧
          ∀ p, c.introduction e = some p → p.1 ≠ worker := by
    intro s hserves hs
    rw [hserves.registry] at hs
    cases hintro : c.introduction e with
    | none =>
      rw [hintro] at hs
      exact Or.inr ⟨hs, by simp⟩
    | some p =>
      rw [hintro] at hs
      change (c.store.workerBootRegistry.insert p.1 p.2).find? worker = some boot at hs
      rw [OrdMap.find?_insert] at hs
      split_ifs at hs with hw
      · cases hs
        exact Or.inl (by rw [hw])
      · exact Or.inr ⟨hs, fun q hq heq => hw (by cases hq; exact heq.symm)⟩
  cases hending : c.ending e with
  | none => exact hhandled (serves_of_serving hending) h
  | some ended =>
    obtain ⟨fd, session, clk⟩ := ended
    rw [step_of_ending hending, store_hangUp] at h
    exact hhandled (serves_of_ending hending) (registered_of_hangUp h)

/-- No teardown of a connection that remembers the incarnation. -/
def Spares (p : Incarnation) (c : Coordinator) (e : Timed) : Prop :=
  ∀ fd session clk, c.ending e = some (fd, session, clk) →
    session.connection ≠ { worker := p.1, boot := p.2, haveWorker := true }

/-- A registered incarnation stays registered through a step that registers no other of its
worker and does not tear its connection down. -/
theorem registered_step {p : Incarnation}
    (hp : c.introduction e = some p ∨ c.store.workerBootRegistry.find? p.1 = some p.2)
    (hsame : ∀ q, c.introduction e = some q → q.1 = p.1 → q = p) (hspares : c.Spares p e) :
    (c.step e).store.workerBootRegistry.find? p.1 = some p.2 := by
  have hhandled : ∀ {s : HealthStore}, c.store.Serves s (c.introduction e).toList →
      s.workerBootRegistry.find? p.1 = some p.2 := by
    intro s hserves
    rw [hserves.registry]
    cases hintro : c.introduction e with
    | none =>
      rcases hp with hp | hp
      · rw [hintro] at hp
        cases hp
      · exact hp
    | some q =>
      change (c.store.workerBootRegistry.insert q.1 q.2).find? p.1 = some p.2
      rw [OrdMap.find?_insert]
      split_ifs with hw
      · rw [hsame q hintro hw.symm]
      · rcases hp with hp | hp
        · rw [hintro] at hp
          cases hp
          exact absurd rfl hw
        · exact hp
  cases hending : c.ending e with
  | none => exact hhandled (serves_of_serving hending)
  | some ended =>
    obtain ⟨fd, session, clk⟩ := ended
    rw [step_of_ending hending, store_hangUp]
    exact registered_hangUp (hhandled (serves_of_ending hending))
      (hspares fd session clk hending)

end Registry

theorem coordinatorEpoch_step (c : Coordinator) (e : Timed) :
    (c.step e).store.coordinatorEpoch = c.store.coordinatorEpoch := by
  cases hending : c.ending e with
  | none => exact (serves_of_serving hending).coordinatorEpoch
  | some ended =>
    obtain ⟨fd, session, clk⟩ := ended
    rw [step_of_ending hending, store_hangUp, coordinatorEpoch_hangUp]
    exact (serves_of_ending hending).coordinatorEpoch

end Coordinator
end AcceleratorHealth
