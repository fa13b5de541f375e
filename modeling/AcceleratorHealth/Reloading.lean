import AcceleratorHealth.RoundTrip
import AcceleratorHealth.Agreement

/-! Saving and loading: a store that meets the reader's conditions comes back as it was
saved, and a reachable store can be loaded again exactly when it meets them. -/
namespace AcceleratorHealth
open Codec Wire Util Locked

/-! ### What holds of every reachable store -/

/-- A device that numbers its health states from one and files dimensions by kind. -/
structure Device.Sound (d : Device) : Prop where
  generation : d.healthGeneration.isNull = false
  keyed : keyedByKind d

theorem isNull_next {Tag : Type} {g g' : Generation Tag} (h : g.next = .ok g') :
    g'.isNull = false := by
  have hvalue := Generation.next_toNat h
  unfold Generation.isNull
  rw [decide_eq_false_iff_not]
  intro hzero
  rw [hzero] at hvalue
  exact absurd hvalue (by simp)

theorem Track.Moves.notNull {t t' : Track} (h : Track.Moves t t')
    (ht : t.healthGeneration.isNull = false) : t'.healthGeneration.isNull = false := by
  induction h with
  | refl => exact ht
  | tail _ hmove _ =>
    cases hmove with
    | mk _ next => exact isNull_next next

theorem Track.Ends.notNull {t t' : Track} (h : Track.Ends t t')
    (ht : t.healthGeneration.isNull = false) : t'.healthGeneration.isNull = false := by
  obtain ⟨t₁, hmoves, rfl | ⟨_, _⟩⟩ := h
  · exact hmoves.notNull ht
  · exact hmoves.notNull ht

theorem Locked.Continues.sound {l l' : Locked} (h : Continues l l') (hl : l.d.Sound) :
    l'.d.Sound :=
  ⟨h.track.notNull hl.generation, h.keyed hl.keyed⟩

namespace Persistence

theorem ensures_check {α : Type} {ok : Bool} {error : String} {f : Unit → Decode α} {P : α → Prop}
    (hf : ok = true → Ensures (f ()) P) : Ensures (check ok error >>= f) P := by
  refine Ensures.bind (P := fun _ => ok = true) (fun r _ _ hrun => ?_) fun _ h => hf h
  change check ok error r = _ at hrun
  unfold check at hrun
  split_ifs at hrun with h
  exact h

theorem ensures_readDevice : Ensures readDevice Device.Sound := by
  unfold readDevice
  iterate 10 refine .skip fun _ => ?_
  refine ensures_check fun hgeneration => ?_
  iterate 23 refine .skip fun _ => ?_
  refine .pure ⟨by simpa using hgeneration, keyedByKind_insertAll _ fun _ _ h => ?_⟩
  simp at h

theorem ensures_readHeader : Ensures readHeader fun h => h.policyGeneration.isNull = false := by
  unfold readHeader
  iterate 3 refine .skip fun _ => ?_
  refine Ensures.bind (P := fun _ => _) (fun r _ _ hrun => ?_) fun _ h => .pure h
  change checkOk _ _ r = _ at hrun
  unfold checkOk at hrun
  split_ifs at hrun with h
  rw [not_or] at h
  simpa using h.2

theorem header_policyGeneration {data : Bytes} {h : Header} {r : Reader}
    (hh : header data = some (h, r)) : h.policyGeneration.isNull = false := by
  unfold header at hh
  split at hh
  · cases hh
  · split at hh
    · cases hh
    next hrun =>
      cases hh
      exact ensures_readHeader _ _ _ hrun

/-- The records of an image are sound, whatever the bytes. -/
theorem listed_sound (n : Nat) (seenUuid : OrdMap DeviceUuid AcceleratorId) (r : Reader) :
    ∀ d ∈ listed n seenUuid r, d.Sound := by
  induction n generalizing seenUuid r with
  | zero => simp [listed]
  | succ n ih =>
    unfold listed
    split
    · simp
    next d r' hrun =>
      split_ifs
      · simp
      · exact List.forall_mem_cons.mpr ⟨ensures_readDevice r d r' hrun, ih _ _⟩

theorem records_sound (data : Bytes) : ∀ d ∈ records data, d.Sound := by
  unfold records
  split
  · simp
  · split
    · simp
    · exact listed_sound _ _ _

end Persistence

namespace HealthStore
open Persistence

theorem decode_sound {data : Bytes} {out : HealthStore} (hout : out.AllDevices Device.Sound) :
    (decodeStateInternal data out).state.AllDevices Device.Sound := fun k d hk =>
  (decode_device hk).elim (hout k d) (records_sound data d)

theorem load_sound {clk : Readings} {data : Bytes} {out : HealthStore}
    (hout : out.AllDevices Device.Sound) :
    (loadInternal clk (some data) out).state.AllDevices Device.Sound := fun k =>
  loadInternal_device (decode_sound hout k) (fun _ h => ⟨h.generation, h.keyed⟩)
    fun clk l h => (advances_reassessLocked clk l).continues.sound h

theorem step_sound {s : HealthStore} (c : Call) (hs : s.AllDevices Device.Sound) :
    (s.step c).AllDevices Device.Sound := by
  by_cases hload : c.op.loads = false
  · intro k d' hk
    rcases step_device hload hk with ⟨d, hd, rfl | ⟨l, l', rfl, -, htouch, rfl⟩⟩ |
      ⟨uuid, node, -, -, rfl, rfl⟩
    · exact hs k d' hd
    · exact htouch.continues.sound (hs k l.d hd)
    · exact ⟨rfl, fun _ _ h => by simp [newDevice] at h⟩
  · rcases step_loads (s := s) (Bool.of_not_eq_false hload) with
      ⟨data, -, hstep⟩ | ⟨-, hstep⟩ | ⟨data, -, hstep⟩ <;> rw [hstep]
    · exact decode_sound hs
    · exact hs
    · exact load_sound hs

theorem decode_policyGeneration {data : Bytes} {out : HealthStore}
    (hout : out.policyGeneration.isNull = false) :
    (decodeStateInternal data out).state.policyGeneration.isNull = false := by
  generalize hx : decodeStateInternal data out = x
  have hcases := hx ▸ decode_cases data out
  cases hcases with
  | refusedEarly => exact hout
  | refusedLate hh => exact header_policyGeneration hh
  | accepted hh hl =>
    rw [Exit.ok_state, (finishLoad_fields _).2.2.2.1, hl]
    exact header_policyGeneration hh

theorem step_policyGeneration {s : HealthStore} (c : Call)
    (hs : s.policyGeneration.isNull = false) : (s.step c).policyGeneration.isNull = false := by
  by_cases hdev : c.op.onDevices = true
  · rw [(step_evolves hdev).policyGeneration]
    exact hs
  · unfold step exec
    cases hop : c.op with
    | setPolicy policy =>
      simp only [Exit.mapResult_state]
      cases hg : s.policyGeneration.next with
      | error e =>
        rw [setPolicy_of_error hg]
        exact hs
      | ok g =>
        rw [setPolicy_of_ok hg, (reassessAll_evolves ..).policyGeneration]
        exact isNull_next hg
    | invalidateWorker worker boot =>
      simp only [Exit.mapResult_state, invalidateWorker]
      split_ifs
      · refine Exit.state_andThen (P := fun t : HealthStore => t.policyGeneration.isNull = false)
          ?_ fun _ h => h
        rw [(forDevices_evolves fun i l =>
          (advances_orphan _ worker boot l).continues).policyGeneration]
        exact hs
      · exact hs
    | registerDevice uuid node =>
      simp only [registerDevice]
      split <;> exact hs
    | decode data => exact decode_policyGeneration hs
    | loadFromFile contents =>
      simp only [Exit.mapResult_state]
      cases contents with
      | none => exact hs
      | some data =>
        refine loadInternal_leaves (P := fun t => t.policyGeneration.isNull = false)
          (fun _ => decode_policyGeneration hs) fun _ => ?_
        rw [(reassessAll_evolves ..).policyGeneration]
        exact decode_policyGeneration hs
    | rollCoordinatorEpoch | setCoordinatorEpoch e | registerWorker worker boot => exact hs
    | _ => simp [hop, Op.onDevices] at hdev

/-- What every reachable store is fit for: each device sound and filed under its own id,
no uuid twice, no null generation. -/
structure Sound (s : HealthStore) : Prop where
  devices : s.AllDevices Device.Sound
  policyGeneration : s.policyGeneration.isNull = false
  filed : s.Filed

theorem reachable_sound {s : HealthStore} (h : s.Reachable) : s.Sound := by
  obtain ⟨policy, epoch, calls, rfl⟩ := h
  exact Machine.run_invariant (C := fun _ _ => True)
    (fun _ c hs _ => ⟨step_sound c hs.devices, step_policyGeneration c hs.policyGeneration,
      step_filed c hs.filed⟩)
    ⟨allDevices_init _ policy epoch, rfl, filed_init policy epoch⟩
    (Machine.along_of_forall fun _ _ _ => trivial)

theorem Sound.device {s : HealthStore} (h : s.Sound) {d : Device} (hd : d ∈ s.devices.values) :
    d.Sound :=
  let ⟨k, hk⟩ := OrdMap.mem_values_iff.mp hd
  h.devices k d hk

theorem Sound.uuids {s : HealthStore} (h : s.Sound) : (s.devices.values.map Device.uuid).Nodup := by
  rw [OrdMap.values, List.map_map]
  refine List.Nodup.map_on (fun e he e' he' heq => ?_) (List.Nodup.of_map _ s.devices.keys_nodup)
  obtain ⟨-, hk⟩ := h.filed e.1 e.2 (OrdMap.find?_eq_some_iff.mpr he)
  obtain ⟨-, hk'⟩ := h.filed e'.1 e'.2 (OrdMap.find?_eq_some_iff.mpr he')
  rw [show e.2.uuid = e'.2.uuid from heq, hk'] at hk
  exact s.devices.eq_of_mem_of_key_eq he he' (Option.some.inj hk).symm

end HealthStore
/-! ### The round trip -/

theorem restored_eq {d : Device} (h : Locked.keyedByKind d) :
    d.restored = { d with requiresRevalidation := false } := by
  have hentries : d.dimensions.values.map (fun dim => (dim.kind, dim)) = d.dimensions.entries := by
    rw [OrdMap.values, List.map_map]
    refine (List.map_congr_left fun e he => ?_).trans (List.map_id _)
    have hkind := h e.1 e.2 (OrdMap.find?_eq_some_iff.mpr he)
    exact Prod.ext hkind rfl
  unfold Device.restored
  rw [hentries, OrdMap.insertAll_entries]

/-- A store that can be saved and loaded again without loss. -/
structure HealthStore.Storable (s : HealthStore) : Prop extends s.Admissible where
  texts : ∀ d ∈ s.devices.values, d.TextsFit
  filed : ∀ k d, s.devices.find? k = some d → d.id = k
  keyed : ∀ d ∈ s.devices.values, Locked.keyedByKind d
  uuids : (s.devices.values.map Device.uuid).Nodup

/-- What an image keeps of a store: all of every device but the restart flag. -/
structure HealthStore.RestoredIn (s s' : HealthStore) : Prop where
  policy : s'.policy = s.policy
  policyGeneration : s'.policyGeneration = s.policyGeneration
  coordinatorEpoch : s'.coordinatorEpoch = s.coordinatorEpoch
  devices : s'.devices = s.devices.mapValues fun _ d => { d with requiresRevalidation := false }

namespace Persistence

theorem enter_restored {s : HealthStore} (hs : s.Storable) (h : Header) (out : HealthStore) :
    (enter (s.devices.values.map Device.restored) (adoptHeader h out)).devices =
      s.devices.mapValues fun _ d => { d with requiresRevalidation := false } := by
  have hentries : (s.devices.values.map Device.restored).map (fun d => (d.id, d)) =
      (s.devices.mapValues fun _ d => { d with requiresRevalidation := false }).entries := by
    rw [List.map_map, OrdMap.values, List.map_map, OrdMap.mapValues]
    refine List.map_congr_left fun e he => ?_
    have hfind := OrdMap.find?_eq_some_iff.mpr he
    have hkeyed := hs.keyed e.2 (OrdMap.mem_values_iff.mpr ⟨e.1, hfind⟩)
    simp only [Function.comp_apply]
    rw [restored_eq hkeyed]
    exact Prod.ext (hs.filed e.1 e.2 hfind) rfl
  simp only [enter, adoptHeader, hentries]
  exact OrdMap.insertAll_entries _

/-- Saving and loading: every storable store is encoded, its image is accepted whatever
the target held, and the target then has the policy, generation, epoch and devices saved. -/
theorem decode_encode (s : HealthStore) (hs : s.Storable) :
    ∃ data, encodeStateInternal s = .ok data ∧ ∀ out,
      (decodeStateInternal data out).result = .ok () ∧
        s.RestoredIn (decodeStateInternal data out).state := by
  obtain ⟨body, hbody⟩ := (sized_encodeBody s).ok_iff.mpr hs.texts
  refine ⟨sealImage body, by unfold encodeStateInternal; rw [hbody], fun out => ?_⟩
  obtain ⟨l, hdecode, hout⟩ := (decode_encoded hs.uuids hbody out).1 hs.toAdmissible
  obtain ⟨hdevices, -, hpolicy, hgeneration, hepoch⟩ := finishLoad_fields l
  rw [hdecode]
  refine ⟨rfl, ?_, ?_, ?_, ?_⟩
  · rw [Exit.ok_state, hpolicy, hout]
    rfl
  · rw [Exit.ok_state, hgeneration, hout]
    rfl
  · rw [Exit.ok_state, hepoch, hout]
    rfl
  · rw [Exit.ok_state, hdevices, hout, enter_restored hs]

theorem decode_encode_after_bringUp :
    ∃ data, encodeStateInternal (HealthStore.after {} 0 HealthStore.bringUp) = .ok data ∧ ∀ out,
      (decodeStateInternal data out).result = .ok () ∧
        (HealthStore.after {} 0 HealthStore.bringUp).RestoredIn
          (decodeStateInternal data out).state :=
  have hs := HealthStore.reachable_sound ⟨{}, 0, HealthStore.bringUp, rfl⟩
  have hreadable : ∀ d ∈ (HealthStore.after {} 0 HealthStore.bringUp).devices.values,
      d.Readable := by decide +kernel
  decode_encode _
    { policyGeneration := hs.policyGeneration
      devices := fun d hd => ⟨hreadable d hd, (hs.device hd).generation⟩
      count := by decide +kernel
      size := by decide +kernel
      texts := by decide +kernel
      filed := fun k d hk => (hs.filed k d hk).1
      keyed := fun d hd => (hs.device hd).keyed
      uuids := hs.uuids }

end Persistence

/-! ### Loading what was saved -/

/-- What a reachable store needs to be loaded again. -/
structure HealthStore.Loadable (s : HealthStore) : Prop where
  texts : ∀ d ∈ s.devices.values, d.TextsFit
  devices : ∀ d ∈ s.devices.values, d.Readable
  count : s.devices.values.length ≤ kMaxCount.toNat
  size : s.imageSize < 2 ^ 32

namespace HealthStore
open Persistence

/-- Encoding does not throw, and decoding the image into `out` returns true. -/
def ReloadsInto (s out : HealthStore) : Prop :=
  ∃ data, encodeStateInternal s = .ok data ∧ (decodeStateInternal data out).result = .ok ()

theorem Sound.admissible_iff {s : HealthStore} (hs : s.Sound)
    (htexts : ∀ d ∈ s.devices.values, d.TextsFit) : s.Admissible ↔ s.Loadable := by
  constructor
  · intro h
    exact ⟨htexts, fun d hd => (h.devices d hd).toReadable, h.count, h.size⟩
  · intro h
    exact ⟨hs.policyGeneration, fun d hd => ⟨h.devices d hd, (hs.device hd).generation⟩,
      h.count, h.size⟩

theorem Sound.admissible_of_reloads {s out : HealthStore} (hs : s.Sound) (h : s.ReloadsInto out) :
    (∀ d ∈ s.devices.values, d.TextsFit) ∧ s.Admissible := by
  obtain ⟨data, hdata, hdecode⟩ := h
  unfold encodeStateInternal at hdata
  cases hbody : encodeBody s with
  | error e =>
    rw [hbody] at hdata
    cases hdata
  | ok body =>
    rw [hbody] at hdata
    cases hdata
    refine ⟨(sized_encodeBody s).ok_iff.mp ⟨body, hbody⟩, ?_⟩
    by_contra hn
    obtain ⟨e, he⟩ := (decode_encoded hs.uuids hbody out).2 hn
    rw [he] at hdecode
    cases hdecode

theorem Sound.reloads {s : HealthStore} (hs : s.Sound) (hload : s.Loadable) (out : HealthStore) :
    s.ReloadsInto out := by
  obtain ⟨body, hbody⟩ := (sized_encodeBody s).ok_iff.mpr hload.texts
  obtain ⟨l, hdecode, -⟩ :=
    (decode_encoded hs.uuids hbody out).1 ((hs.admissible_iff hload.texts).mpr hload)
  refine ⟨sealImage body, by unfold encodeStateInternal; rw [hbody], ?_⟩
  rw [hdecode]
  rfl

/-- The image of a loadable store is accepted, and any target then has what was saved. -/
theorem Sound.decode_image {s : HealthStore} {data : Bytes} (hs : s.Sound) (hload : s.Loadable)
    (hdata : encodeStateInternal s = .ok data) (out : HealthStore) :
    (decodeStateInternal data out).result = .ok () ∧
      s.RestoredIn (decodeStateInternal data out).state := by
  have hadmissible := (hs.admissible_iff hload.texts).mpr hload
  have hstorable : s.Storable :=
    { hadmissible with
      texts := hload.texts
      filed := fun k d hk => (hs.filed k d hk).1
      keyed := fun d hd => (hs.device hd).keyed
      uuids := hs.uuids }
  obtain ⟨body, hbody⟩ := (sized_encodeBody s).ok_iff.mpr hload.texts
  obtain ⟨l, hdecode, hout⟩ := (decode_encoded hs.uuids hbody out).1 hadmissible
  obtain rfl : data = sealImage body := by
    unfold encodeStateInternal at hdata
    rw [hbody] at hdata
    exact (Except.ok.inj hdata).symm
  obtain ⟨hdevices, -, hpolicy, hgeneration, hepoch⟩ := finishLoad_fields l
  rw [hdecode]
  refine ⟨rfl, ?_, ?_, ?_, ?_⟩
  · rw [Exit.ok_state, hpolicy, hout]
    rfl
  · rw [Exit.ok_state, hgeneration, hout]
    rfl
  · rw [Exit.ok_state, hepoch, hout]
    rfl
  · rw [Exit.ok_state, hdevices, hout, enter_restored hstorable]

/-- The image of any other store is refused. -/
theorem Sound.decode_refused {s : HealthStore} {data : Bytes} (hs : s.Sound) (hload : ¬s.Loadable)
    (hdata : encodeStateInternal s = .ok data) (out : HealthStore) :
    (decodeStateInternal data out).result ≠ .ok () := by
  intro hdecode
  obtain ⟨htexts, hadmissible⟩ := hs.admissible_of_reloads ⟨data, hdata, hdecode⟩
  exact hload ((hs.admissible_iff htexts).mp hadmissible)

/-- A reachable store can be saved and loaded again, into any target, exactly when it is
loadable. -/
theorem reloads_iff_loadable (s out : HealthStore) (h : s.Reachable) :
    s.ReloadsInto out ↔ s.Loadable := by
  have hs := reachable_sound h
  constructor
  · intro hreloads
    obtain ⟨htexts, hadmissible⟩ := hs.admissible_of_reloads hreloads
    exact (hs.admissible_iff htexts).mp hadmissible
  · intro hload
    exact hs.reloads hload out

theorem reloads_after_bringUp : (after {} 0 bringUp).ReloadsInto (init {} 0) := by
  have hload : (after {} 0 bringUp).Loadable :=
    ⟨by decide +kernel, by decide +kernel, by decide +kernel, by decide +kernel⟩
  exact (reloads_iff_loadable _ (init {} 0) ⟨{}, 0, bringUp, rfl⟩).mpr hload

/-- One validation recorded twice. -/
def revalidated : List Call := [
  (Op.registerDevice ⟨7⟩ ⟨1⟩).at 1,
  (Op.recordValidation { id := ⟨1⟩, accelerator := ⟨7⟩ }).at 1,
  (Op.recordValidation { id := ⟨1⟩, accelerator := ⟨7⟩ }).at 1]

/-- The store takes a validation id twice; the image with both is refused. -/
theorem does_not_reload_after_repeated_validation :
    (after {} 0 revalidated).Reachable ∧
      ¬(after {} 0 revalidated).ReloadsInto (init {} 0) := by
  have hreachable : (after {} 0 revalidated).Reachable := ⟨{}, 0, revalidated, rfl⟩
  have hrepeated : ¬∀ d ∈ (after {} 0 revalidated).devices.values,
      (d.validations.map ValidationRecord.id).Nodup := by decide +kernel
  refine ⟨hreachable, fun h => hrepeated fun d hd => ?_⟩
  exact (((reachable_sound hreachable).admissible_of_reloads h).2.devices d hd).validationIds

end HealthStore
end AcceleratorHealth
