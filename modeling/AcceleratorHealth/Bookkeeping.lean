import AcceleratorHealth.Indexing

/-! The indexes and the accounting over whole runs: every call ends with them in agreement
with the records unless it leaves a state behind unpublished, replaces a record, or takes
records out of an image without indexing them. -/
namespace AcceleratorHealth
open Codec Locked Persistence

/-- A device that neither the quarantine nor the fault index has to list. -/
def Device.Blank (d : Device) : Prop := d.quarantined = false ∧ d.faults.faults = []

instance (d : Device) : Decidable d.Blank := inferInstanceAs (Decidable (_ ∧ _))

/-- The most transitions that a call can make on a device. -/
def Op.transitions (d : Device) : Op → Nat
  | .beginQuarantine _ _ _ _ => if d.inRecovery then 2 else 1
  | .revalidate _ v => if d.inRecovery then if v.passed then 3 else 2 else 1
  | .markLost _ _ => 0
  | _ => 1

namespace HealthStore

/-- A registration of an unknown uuid replaces no device that is quarantined or has a fault
on record. -/
def DrawsBlank (s : HealthStore) (uuid : DeviceUuid) : Prop :=
  s.uuidIndex.find? uuid = none → ∀ d, s.devices.find? (s.deviceIdFor uuid) = some d → d.Blank

/-! ### Calls on tracked devices -/

section Calls
variable {α : Type} {s : HealthStore} {id : AcceleratorId} {missing : Except Exn α}

theorem consistent_onDevice {body : Locked → Exit Exn Locked α} (hs : s.Consistent)
    (hbody : ∀ d, s.devices.find? id = some d → Settled id ⟨s, d⟩ →
      Settled id (body ⟨s, d⟩).state) :
    (onDevice id missing body s).state.Consistent := by
  cases hd : s.devices.find? id with
  | none =>
    rw [onDevice_none hd]
    exact hs
  | some d =>
    rw [onDevice_some hd, Exit.mapState_state]
    exact (hbody d hd (hs.settled hd)).consistent

/-- Loop invariant: the indexes are in order, and every device still to be visited can
number one more state. -/
private def Waiting (rest : List (AcceleratorId × Nat)) (t : HealthStore) : Prop :=
  t.Consistent ∧ (rest.map Prod.fst).Nodup ∧
    ∀ k ∈ rest.map Prod.fst, ∀ d, t.devices.find? k = some d → d.Spare 1

/-- A loop whose turns do not throw keeps every index in order. -/
theorem consistent_forDevices {body : Nat → Locked → Exit Exn Locked Unit} (hs : s.Consistent)
    (hcont : ∀ i l, Continues l (body i l).state)
    (hbody : ∀ i id l, Settled id l → l.d.Spare 1 →
      (body i l).Sat (fun _ => Settled id) fun _ _ => False)
    (hroom : s.AllDevices (Device.Spare 1)) :
    (forDevices body s).Sat (fun _ => Consistent) fun _ _ => False := by
  have hturn : ∀ (e : AcceleratorId × Nat) (rest : List (AcceleratorId × Nat)) (t : HealthStore),
      Waiting (e :: rest) t → (onDevice e.1 (.ok ()) (body e.2) t).Sat (fun _ => Waiting rest)
        fun _ _ => False := by
    rintro e rest t ⟨ht, hnodup, hspare⟩
    rw [List.map_cons, List.nodup_cons] at hnodup
    rw [List.map_cons, List.forall_mem_cons] at hspare
    cases hd : t.devices.find? e.1 with
    | none =>
      rw [onDevice_none hd]
      exact ⟨ht, hnodup.2, hspare.2⟩
    | some d =>
      rw [onDevice_some hd]
      apply Exit.Sat.mapState
      refine ((hbody e.2 e.1 ⟨t, d⟩ (ht.settled hd) (hspare.1 d hd)).and
        (Exit.sat_of_state (hcont e.2 ⟨t, d⟩))).mono (fun _ l' hl' => ?_) fun _ _ h => h.1
      refine ⟨hl'.1.consistent, hnodup.2, fun k hk d' hd' => ?_⟩
      rw [find?_commit hl'.2, if_neg] at hd'
      · exact hspare.2 k hk d' hd'
      · rintro rfl
        exact hnodup.1 hk
  have hstart : Waiting s.devices.keys.zipIdx s := by
    have hkeys : (s.devices.keys.zipIdx).map Prod.fst = s.devices.keys := List.zipIdx_map_fst 0 _
    unfold Waiting
    rw [hkeys]
    exact ⟨hs, s.devices.keys_nodup, fun k _ d hd => hroom k d hd⟩
  exact (Exit.each_sat hturn _ s hstart).mono (fun _ _ h => h.1) fun _ _ h => h

theorem reassessAll_consistent {clk : Readings} (hs : s.Consistent)
    (hroom : s.AllDevices (Device.Spare 1)) :
    (s.reassessAll clk).Sat (fun _ => Consistent) fun _ _ => False :=
  consistent_forDevices hs (fun _ _ => (advances_reassessLocked _ _).continues)
    (fun _ _ _ hl hd => reassessLocked_settles hl.toPending hd) hroom

end Calls

/-- The views depend on few fields of a record, and not on the rest of the store. -/
theorem Consistent.of_edit {s t : HealthStore} (hs : s.Consistent) {f : Device → Device}
    (hdevices : t.devices = s.devices.mapValues fun _ => f)
    (hindexes : (t.stateIndex, t.readinessIndex, t.quarantineIndex, t.faultIndex) =
      (s.stateIndex, s.readinessIndex, s.quarantineIndex, s.faultIndex))
    (hf : ∀ d, ((f d).id, (f d).state, (f d).readiness, (f d).quarantined, (f d).faults) =
      (d.id, d.state, d.readiness, d.quarantined, d.faults)) : t.Consistent := by
  simp only [Prod.mk.injEq] at hindexes hf
  obtain ⟨hstate, hreadiness, hquarantine, hfault⟩ := hindexes
  have hread : ∀ {P : Device → Prop} (k : AcceleratorId), (∀ d, P (f d) ↔ P d) →
      ((∃ d, t.devices.find? k = some d ∧ P d) ↔ ∃ d, s.devices.find? k = some d ∧ P d) := by
    intro P k hP
    rw [hdevices, OrdMap.find?_mapValues]
    cases s.devices.find? k <;> simp [hP]
  constructor
  · intro k d hk
    rw [hdevices, OrdMap.find?_mapValues, Option.map_eq_some_iff] at hk
    obtain ⟨d₀, hd₀, rfl⟩ := hk
    rw [(hf d₀).1]
    exact hs.filed k d₀ hd₀
  · intro k st
    rw [hstate, hs.state, hread k fun d => by rw [(hf d).2.1]]
  · intro k r
    rw [hreadiness, hs.readiness, hread k fun d => by rw [(hf d).2.2.1]]
  · intro k
    rw [hquarantine, hs.quarantine, hread k fun d => by rw [(hf d).2.2.2.1]]
  · intro k t
    rw [hfault, hs.faults, hread k fun d => by rw [(hf d).2.2.2.2]]

theorem consistent_init (policy : HealthPolicy) (epoch : UInt64) :
    (init policy epoch).Consistent := by
  constructor <;> simp [init, Index.ids, OrdMap.keys, OrdMap.empty, OrdMap.find?]

theorem consistent_trackDevice {s : HealthStore} {d : Device} (hs : s.Consistent) (hd : d.Blank)
    (hold : ∀ d₀, s.devices.find? d.id = some d₀ → d₀.Blank) : (trackDevice d s).Consistent := by
  unfold trackDevice
  refine Settled.consistent (Pending.updateIndexes ?_)
  have hlisted : ∀ {P : Device → Prop} (k : AcceleratorId) (l : Locked),
      l.store.devices = s.devices →
      ¬P l.d → (∀ d₀, s.devices.find? d.id = some d₀ → ¬P d₀) →
      ((∃ d₀, s.devices.find? k = some d₀ ∧ P d₀) ↔ ∃ d₀, l.record d.id k = some d₀ ∧ P d₀) := by
    intro P k l hl hnew hprev
    rw [record_iff, hl]
    by_cases hk : k = d.id
    · subst hk
      simp only [hnew, and_false, ne_eq, not_true_eq_false, false_and, or_self, iff_false]
      rintro ⟨d₀, hd₀, hP⟩
      exact hprev d₀ hd₀ hP
    · simp [hk]
  constructor
  · intro k d' hk
    by_cases heq : k = d.id
    · subst heq
      rw [record_self] at hk
      cases hk
      rfl
    · rw [record_of_ne heq] at hk
      exact hs.filed k d' hk
  · exact hs.oneState
  · exact hs.oneReadiness
  · intro k st hk
    rw [record_of_ne hk]
    exact hs.state k st
  · intro k r hk
    rw [record_of_ne hk]
    exact hs.readiness k r
  · intro k
    refine (hs.quarantine k).trans (hlisted k _ rfl ?_ fun d₀ hd₀ => ?_)
    · simp [hd.1]
    · simp [(hold d₀ hd₀).1]
  · intro k t
    refine (hs.faults k t).trans (hlisted k _ rfl ?_ fun d₀ hd₀ => ?_)
    · simp [hd.2]
    · simp [(hold d₀ hd₀).2]

theorem consistent_registerDevice {s : HealthStore} {now : Timestamp} {uuid : DeviceUuid}
    {node : NodeId} (hs : s.Consistent) (hblank : s.DrawsBlank uuid) :
    (s.registerDevice now uuid node).2.Consistent := by
  unfold registerDevice
  cases huuid : s.uuidIndex.find? uuid with
  | some id => exact hs
  | none => exact consistent_trackDevice hs ⟨rfl, rfl⟩ (hblank huuid)

/-! ### Images -/

/-- The records that an image leaves in the store: the last one listed under each id. -/
def imaged (data : Bytes) : OrdMap AcceleratorId Device :=
  OrdMap.empty.insertAll ((records data).map fun d => (d.id, d))

theorem imaged_filed {data : Bytes} {k : AcceleratorId} {d : Device}
    (h : (imaged data).find? k = some d) : d.id = k := by
  obtain ⟨d', -, heq⟩ := List.mem_map.mp (OrdMap.mem_of_find?_insertAll h)
  cases heq
  rfl

theorem decode_devices_of_ok {data : Bytes} {s : HealthStore}
    (hok : (decodeStateInternal data s).result = .ok ()) :
    (decodeStateInternal data s).state.devices = imaged data := by
  generalize hx : decodeStateInternal data s = x at hok ⊢
  have hcases := hx ▸ decode_cases data s
  cases hcases with
  | refusedEarly => cases hok
  | refusedLate => cases hok
  | accepted hh hl =>
    rw [Exit.ok_state, (finishLoad_fields _).1, hl]
    rfl

/-- Every type of fault on record is the type of an open fault. -/
def Device.AllTypesOpen (d : Device) : Prop :=
  ∀ f ∈ d.faults.faults, ∃ g ∈ d.faults.openFaults, g.type = f.type

/-- An image whose views can be rebuilt: one that is refused lists no record, and one that
is accepted leaves no record with a type of fault that is not open. -/
structure Rebuilds (s : HealthStore) (data : Bytes) : Prop where
  refused : (decodeStateInternal data s).result ≠ .ok () → records data = []
  accepted : (decodeStateInternal data s).result = .ok () →
    ∀ d ∈ (imaged data).values, Device.AllTypesOpen d

theorem consistent_recomputed {s : HealthStore}
    (hid : ∀ k d, s.devices.find? k = some d → d.id = k)
    (hopen : ∀ k d, s.devices.find? k = some d → Device.AllTypesOpen d) :
    (recomputeIndexes s).Consistent := by
  have hdevices : (recomputeIndexes s).devices = s.devices := (recomputeIndexes_fields s).1
  constructor
  · intro k d hk
    exact hid k d (hdevices ▸ hk)
  · intro k st
    rw [hdevices]
    exact mem_recomputed_state.trans (rebuilt_iff hid)
  · intro k r
    rw [hdevices]
    exact mem_recomputed_readiness.trans (rebuilt_iff hid)
  · intro k
    rw [hdevices]
    exact mem_recomputed_quarantined.trans (rebuilt_iff hid)
  · intro k t
    rw [hdevices]
    refine (mem_recomputed_faultType.trans (rebuilt_iff hid)).trans ?_
    constructor
    · rintro ⟨d, hd, f, hf, ht⟩
      exact ⟨d, hd, f, List.mem_of_mem_filter hf, ht⟩
    · rintro ⟨d, hd, f, hf, rfl⟩
      exact ⟨d, hd, hopen k d hd f hf⟩

theorem consistent_decode {s : HealthStore} {data : Bytes} (hs : s.Consistent)
    (h : s.Rebuilds data) : (decodeStateInternal data s).state.Consistent := by
  have hrefused := h.refused
  have haccepted := h.accepted
  generalize hx : decodeStateInternal data s = x at hrefused haccepted ⊢
  have hcases := hx ▸ decode_cases data s
  cases hcases with
  | refusedEarly => exact hs
  | refusedLate hh =>
    have hnone : records data = [] := hrefused (by simp)
    rw [Exit.throw_state, leftover, hnone]
    constructor <;> simp [enter, adoptHeader, OrdMap.insertAll, Index.ids, OrdMap.keys,
      OrdMap.empty, OrdMap.find?]
  | @accepted _ _ l hh hl =>
    have hdevices : l.out.devices = imaged data := by
      rw [hl]
      rfl
    rw [Exit.ok_state]
    refine consistent_recomputed (fun k d hk => ?_) fun k d hk => ?_
    · change l.out.devices.find? k = some d at hk
      exact imaged_filed (hdevices ▸ hk)
    · change l.out.devices.find? k = some d at hk
      exact haccepted rfl d (OrdMap.mem_values_iff.mpr ⟨k, hdevices ▸ hk⟩)

theorem consistent_load {s : HealthStore} {clk : Readings} {contents : Option Bytes}
    (hs : s.Consistent) (h : ∀ data, contents = some data → s.Rebuilds data ∧
      ((decodeStateInternal data s).result = .ok () →
        ∀ d ∈ (imaged data).values, d.Spare 1)) :
    (loadInternal clk contents s).state.Consistent := by
  cases contents with
  | none => exact hs
  | some data =>
    obtain ⟨hrebuilds, hroom⟩ := h data rfl
    have hdecoded := consistent_decode hs hrebuilds
    refine loadInternal_leaves (fun _ => hdecoded) fun hres => ?_
    have hdistrust : (distrust (decodeStateInternal data s).state).Consistent :=
      hdecoded.of_edit (f := fun d => { d with requiresRevalidation := true }) rfl rfl fun _ => rfl
    have hspare : (distrust (decodeStateInternal data s).state).AllDevices (Device.Spare 1) := by
      intro k d hk
      obtain ⟨d₀, hd₀, rfl⟩ := find?_distrust hk
      rw [decode_devices_of_ok hres] at hd₀
      exact hroom hres d₀ (OrdMap.mem_values_iff.mpr ⟨k, hd₀⟩)
    exact (reassessAll_consistent hdistrust hspare).state_of_returns

/-! ### Runs -/

/-- Every device that the call works on has generations left for the transitions that the
call may take. -/
def SparesFor (s : HealthStore) (c : Call) : Prop :=
  ∀ k d, s.devices.find? k = some d → c.op.actsOn k → d.Spare (c.op.transitions d)

instance (s : HealthStore) (c : Call) : Decidable (s.SparesFor c) :=
  decidable_of_iff
    (∀ e ∈ s.devices.entries, c.op.actsOn e.1 → e.2.Spare (c.op.transitions e.2))
    ⟨fun h k _ hk => h (k, _) (OrdMap.find?_eq_some_iff.mp hk),
      fun h e he => h e.1 e.2 (OrdMap.find?_eq_some_iff.mpr he)⟩

/-- The steps that keep the views in order. The device worked on has as many generations
left as the call may take; a device marked lost is LOST already; a recovery that is begun
can be numbered; a registration replaces a blank device at most; the views of an image can
be rebuilt. -/
structure KeepsViews (s : HealthStore) (c : Call) : Prop where
  room : s.SparesFor c
  lost : ∀ id reason d, c.op = .markLost id reason → s.devices.find? id = some d →
    d.state = .lost
  recovery : ∀ id d, c.op = .beginRecovery id → s.devices.find? id = some d →
    d.inRecovery = false → canTransition d.state .recovering →
      ∀ rec, d.recovery = some rec → rec.generation ≠ .last
  registration : ∀ uuid node, c.op = .registerDevice uuid node → s.DrawsBlank uuid
  image : ∀ data, c.op = .decode data → s.Rebuilds data
  file : ∀ data, c.op = .loadFromFile (some data) → s.Rebuilds data ∧
    ((decodeStateInternal data s).result = .ok () → ∀ d ∈ (imaged data).values, d.Spare 1)

theorem consistent_setPolicy {s : HealthStore} {clk : Readings} {policy : HealthPolicy}
    (hs : s.Consistent) (hroom : s.AllDevices (Device.Spare 1)) :
    (s.setPolicy clk policy).state.Consistent := by
  cases hg : s.policyGeneration.next with
  | error e =>
    rw [setPolicy_of_error hg]
    exact ⟨hs.filed, hs.state, hs.readiness, hs.quarantine, hs.faults⟩
  | ok g =>
    rw [setPolicy_of_ok hg]
    have hadopt : (adoptPolicy policy g s).Consistent :=
      hs.of_edit (f := fun d => { d with policyGenerationChangedFlag := true }) rfl rfl fun _ => rfl
    have hspare : (adoptPolicy policy g s).AllDevices (Device.Spare 1) := by
      intro k d hk
      obtain ⟨d₀, hd₀, rfl⟩ := find?_adoptPolicy hk
      exact hroom k d₀ hd₀
    exact (reassessAll_consistent hadopt hspare).state_of_returns

theorem consistent_invalidateWorker {s : HealthStore} {clk : Readings} {worker : WorkerId}
    {boot : WorkerBootId} (hs : s.Consistent) (hroom : s.AllDevices (Device.Spare 1)) :
    (s.invalidateWorker clk worker boot).state.Consistent := by
  unfold invalidateWorker
  split_ifs
  · refine Exit.state_andThen (P := Consistent) ?_ fun t ht =>
      ⟨ht.filed, ht.state, ht.readiness, ht.quarantine, ht.faults⟩
    have hloop : (forDevices (fun i => orphan (clk.drop (2 * i)) worker boot) s).Sat
        (fun _ => Consistent) fun _ _ => False :=
      consistent_forDevices hs (fun _ _ => (advances_orphan ..).continues)
        (fun _ _ _ => orphan_settles) hroom
    exact hloop.state_of_returns
  · exact hs

theorem step_consistent {s : HealthStore} {c : Call} (hs : s.Consistent) (h : s.KeepsViews c) :
    (s.step c).Consistent := by
  obtain ⟨op, clk⟩ := c
  have hall : (∀ k, op.actsOn k) → (∀ d, op.transitions d = 1) → s.AllDevices (Device.Spare 1) :=
    fun hacts hone k d hd => hone d ▸ h.room k d hd (hacts k)
  have hroom : ∀ k d, op.actsOn k → s.devices.find? k = some d → d.Spare (op.transitions d) :=
    fun k d hacts hd => h.room k d hd hacts
  cases op with
  | setPolicy policy => exact consistent_setPolicy hs (hall (fun _ => rfl) fun _ => rfl)
  | rollCoordinatorEpoch | setCoordinatorEpoch e | registerWorker worker boot =>
    exact ⟨hs.filed, hs.state, hs.readiness, hs.quarantine, hs.faults⟩
  | invalidateWorker worker boot =>
    exact consistent_invalidateWorker hs (hall (fun _ => rfl) fun _ => rfl)
  | registerDevice uuid node => exact consistent_registerDevice hs (h.registration uuid node rfl)
  | markLost id reason =>
    exact consistent_onDevice hs fun d hd hl => settled_markLost hl (h.lost id reason d rfl hd)
  | acceptObservation obs env =>
    exact consistent_onDevice hs fun d hd hl =>
      settled_acceptObservation hl (hroom _ d (by simp [Op.actsOn]) hd)
  | recordFault fault =>
    exact consistent_onDevice hs fun d hd hl =>
      settled_recordFault hl (hroom _ d (by simp [Op.actsOn]) hd) rfl
  | recordValidation v =>
    exact consistent_onDevice hs fun d hd hl =>
      settled_recordValidation hl (hroom _ d (by simp [Op.actsOn]) hd)
  | beginQuarantine id authority reason triggeredBy =>
    exact consistent_onDevice hs fun d hd hl =>
      settled_beginQuarantine hl (hroom _ d (by simp [Op.actsOn]) hd)
  | clearQuarantine id =>
    exact consistent_onDevice hs fun d hd hl =>
      settled_clearQuarantine hl (hroom _ d (by simp [Op.actsOn]) hd)
  | beginRecovery id =>
    exact consistent_onDevice hs fun d hd hl =>
      settled_beginRecovery hl (hroom _ d (by simp [Op.actsOn]) hd) (h.recovery id d rfl hd)
  | revalidate id v =>
    exact consistent_onDevice hs fun d hd hl =>
      settled_revalidate hl (hroom _ d (by simp [Op.actsOn]) hd)
  | reassess id =>
    exact consistent_onDevice hs fun d hd hl => Exit.Sat.state_of_returns
      (reassessLocked_settles hl.toPending (hroom _ d (by simp [Op.actsOn]) hd))
  | reassessAll =>
    exact (reassessAll_consistent hs (hall (fun _ => rfl) fun _ => rfl)).state_of_returns
  | decode data => exact consistent_decode hs (h.image data rfl)
  | loadFromFile contents =>
    exact consistent_load hs fun data hdata => h.file data (congrArg _ hdata)

/-! ### What a caller sees -/

theorem foldl_visit (get : Accounting → UInt64) {p : Device → Bool}
    (hvisit : ∀ a d, get (a.visit d) = Accounting.countIf (p d) (get a)) (ds : List Device)
    (a : Accounting) : get (ds.foldl .visit a) = get a + UInt64.ofNat (ds.countP p) := by
  induction ds generalizing a with
  | nil => simp
  | cons d rest ih =>
    rw [List.foldl_cons, ih, hvisit, List.countP_cons]
    unfold Accounting.countIf
    by_cases hp : p d = true
    · rw [if_pos hp, if_pos hp, UInt64.ofNat_add, UInt64.add_assoc,
        UInt64.add_comm 1 (UInt64.ofNat _)]
      rfl
    · rw [if_neg hp, if_neg hp]
      rfl

theorem foldl_visitStale {get : Accounting → UInt64} {policy : HealthPolicy} {clk : Readings}
    (hvisit : ∀ a d, get (a.visitStale policy clk d) = get a) (ds : List (Device × Nat))
    (a : Accounting) : get (ds.foldl (.visitStale policy clk) a) = get a := by
  induction ds generalizing a with
  | nil => rfl
  | cons d rest ih => rw [List.foldl_cons, ih, hvisit]

theorem length_idsWhere (p : Device → Bool) (s : HealthStore) :
    (s.idsWhere p).length = s.devices.values.countP p := by
  rw [idsWhere, List.length_map, OrdMap.values, List.countP_map, List.countP_eq_length_filter]
  rfl

/-- A counter of the first pass counts the records that meet its condition. -/
theorem accounting_eq {get : Accounting → UInt64} {p : Device → Bool} (s : HealthStore)
    (clk : Readings) (hzero : get {} = 0)
    (hvisit : ∀ a d, get (a.visit d) = Accounting.countIf (p d) (get a))
    (hstale : ∀ a d, get (a.visitStale s.policy clk d) = get a) :
    get (s.accounting clk) = UInt64.ofNat (s.idsWhere p).length := by
  rw [accounting, recomputeAccounting, foldl_visitStale hstale, foldl_visit get hvisit, hzero,
    length_idsWhere, UInt64.zero_add]

/-- Every view agrees with the device records. Counters and lengths are compared as the
64-bit numbers that they are. -/
structure ViewsAgree (s : HealthStore) : Prop extends Indexed s where
  faultType : ∀ t, s.byFaultType t = s.idsWhere fun d => d.faults.faults.any fun f => f.type = t
  oneState : ∀ id ∈ s.deviceIds, ∃! state, id ∈ s.byHealthState state
  oneReadiness : ∀ id ∈ s.deviceIds, ∃! r, id ∈ s.byReadiness r
  healthy : ∀ clk,
    (s.accounting clk).healthy = UInt64.ofNat (s.byHealthState .healthy).length
  degraded : ∀ clk,
    (s.accounting clk).degraded = UInt64.ofNat (s.byHealthState .degraded).length
  unhealthy : ∀ clk,
    (s.accounting clk).unhealthy = UInt64.ofNat (s.byHealthState .unhealthy).length
  failed : ∀ clk, (s.accounting clk).failed = UInt64.ofNat (s.byHealthState .failed).length
  quarantinedCount : ∀ clk,
    (s.accounting clk).quarantined = UInt64.ofNat (s.byHealthState .quarantined).length

theorem Consistent.indexed {s : HealthStore} (hs : s.Consistent) : s.Indexed := by
  constructor
  · intro state
    apply (eq_idsWhere_iff (Index.ids_sorted _ _)).mpr
    simpa only [decide_eq_true_eq] using fun id => hs.state id state
  · intro r
    apply (eq_idsWhere_iff (Index.ids_sorted _ _)).mpr
    simpa only [decide_eq_true_eq] using fun id => hs.readiness id r
  · exact (eq_idsWhere_iff quarantined_sorted).mpr hs.quarantine

theorem Consistent.viewsAgree {s : HealthStore} (hs : s.Consistent) : s.ViewsAgree := by
  have hstate := hs.indexed.state
  refine { hs.indexed with
    faultType := fun t => ?_
    oneState := fun id hid => ?_
    oneReadiness := fun id hid => ?_
    healthy := fun clk => ?_
    degraded := fun clk => ?_
    unhealthy := fun clk => ?_
    failed := fun clk => ?_
    quarantinedCount := fun clk => ?_ }
  · apply (eq_idsWhere_iff (Index.ids_sorted _ _)).mpr
    simpa only [List.any_eq_true, decide_eq_true_eq] using fun id => hs.faults id t
  · obtain ⟨d, hd⟩ := OrdMap.mem_keys_iff.mp hid
    exact ⟨d.state, (hs.state id _).mpr ⟨d, hd, rfl⟩, fun st hst =>
      hs.oneState _ _ id hst ((hs.state id _).mpr ⟨d, hd, rfl⟩)⟩
  · obtain ⟨d, hd⟩ := OrdMap.mem_keys_iff.mp hid
    exact ⟨d.readiness, (hs.readiness id _).mpr ⟨d, hd, rfl⟩, fun r hr =>
      hs.oneReadiness _ _ id hr ((hs.readiness id _).mpr ⟨d, hd, rfl⟩)⟩
  all_goals
    rw [hstate]
    exact accounting_eq s clk rfl (fun _ _ => rfl) fun _ _ => rfl

/-- Every view agrees with the records after a run whose steps keep the views. -/
theorem views_agree_with_records (policy : HealthPolicy) (epoch : UInt64) (calls : List Call)
    (hrun : Machine.Along step KeepsViews (init policy epoch) calls) :
    (after policy epoch calls).ViewsAgree :=
  (Machine.run_invariant (P := Consistent) (fun _ _ hs hc => step_consistent hs hc)
    (consistent_init policy epoch) hrun).viewsAgree

theorem keepsViews_of_spares {s : HealthStore} {c : Call} (h : s.SparesFor c)
    (hload : c.op.loads = false) (hlost : ∀ id reason, c.op ≠ .markLost id reason)
    (hrecovery : ∀ id, c.op ≠ .beginRecovery id)
    (hregister : ∀ uuid node, c.op ≠ .registerDevice uuid node) : s.KeepsViews c where
  room := h
  lost id reason _ hop := absurd hop (hlost id reason)
  recovery id _ hop := absurd hop (hrecovery id)
  registration uuid node hop := absurd hop (hregister uuid node)
  image data hop := by simp [hop, Op.loads] at hload
  file data hop := by simp [hop, Op.loads] at hload

/-- A device with a fault on record is put under quarantine. -/
def putAside : List Call :=
  [(Op.registerDevice ⟨7⟩ ⟨1⟩).at 1,
    (Op.recordFault { id := ⟨1⟩, accelerator := ⟨7⟩, type := .transferFailure }).at 1,
    (Op.beginQuarantine ⟨7⟩ .operator [] []).at 1]

theorem views_agree_after_putAside : (after {} 0 putAside).ViewsAgree := by
  have hregister : (init {} 0).KeepsViews ((Op.registerDevice ⟨7⟩ ⟨1⟩).at 1) :=
    { room := by decide +kernel
      lost := by simp [Op.at]
      recovery := by simp [Op.at]
      registration := fun _ _ _ _ _ hd => by simp [init] at hd
      image := by simp [Op.at]
      file := by simp [Op.at] }
  have hrun : Machine.Along step KeepsViews (init {} 0) putAside :=
    ⟨hregister,
      keepsViews_of_spares (by decide +kernel) rfl (by simp [Op.at]) (by simp [Op.at])
        (by simp [Op.at]),
      keepsViews_of_spares (by decide +kernel) rfl (by simp [Op.at]) (by simp [Op.at])
        (by simp [Op.at]), trivial⟩
  exact views_agree_with_records {} 0 putAside hrun

/-- A device that is marked lost is listed under the state it had: `markLost` does not
bring the indexes up to date. -/
theorem views_disagree_after_markLost :
    (after {} 0 (bringUp ++ [(Op.markLost ⟨7⟩ []).at 1])).Reachable ∧
      ¬(after {} 0 (bringUp ++ [(Op.markLost ⟨7⟩ []).at 1])).ViewsAgree := by
  refine ⟨⟨_, _, _, rfl⟩, fun h => ?_⟩
  have hlisted : (after {} 0 (bringUp ++ [(Op.markLost ⟨7⟩ []).at 1])).byHealthState .lost =
      [] := by
    decide +kernel
  have hlost : (after {} 0 (bringUp ++ [(Op.markLost ⟨7⟩ []).at 1])).idsWhere
      (fun d => d.state = .lost) = [⟨7⟩] := by decide +kernel
  have heq := h.state .lost
  rw [hlisted, hlost] at heq
  cases heq

end HealthStore
end AcceleratorHealth
