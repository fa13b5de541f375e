import AcceleratorHealth.Effects

/-! What decoding leaves in its target. The header of an image and the device records
it lists are read off the bytes alone; a decode either stops before its first write,
or leaves the header's values and exactly the records listed before the first that is
refused. -/
namespace AcceleratorHealth
open Codec Wire

namespace Persistence

attribute [local irreducible] readHeader readDevice

/-- The header and the cursor after it, when every check up to there passes. -/
def header (data : Bytes) : Option (Header × Reader) :=
  match openImage data with
  | .error _ => none
  | .ok body =>
    match readHeader.run { data := body } with
    | .error _ => none
    | .ok hr => some hr

/-- Up to `n` device records, ending at one that is malformed or repeats a uuid. -/
def listed : Nat → OrdMap DeviceUuid AcceleratorId → Reader → List Device
  | 0, _, _ => []
  | n + 1, seenUuid, r =>
    match readDevice.run r with
    | .error _ => []
    | .ok (d, r) =>
      if seenUuid.contains d.uuid then [] else d :: listed n (seenUuid.insert d.uuid d.id) r

/-- The device records that a decode of these bytes takes into the store. -/
def records (data : Bytes) : List Device :=
  match header data with
  | none => []
  | some (_, r) =>
    match readCount.run r with
    | .error _ => []
    | .ok (count, r) => listed count.toNat .empty r

theorem listed_uuids (n : Nat) (seenUuid : OrdMap DeviceUuid AcceleratorId) (r : Reader) :
    ((listed n seenUuid r).map Device.uuid).Nodup ∧
      ∀ d ∈ listed n seenUuid r, seenUuid.contains d.uuid = false := by
  induction n generalizing seenUuid r with
  | zero => simp [listed]
  | succ n ih =>
    unfold listed
    split
    · simp
    next d r' _ =>
      split_ifs with hseen
      · simp
      · obtain ⟨hnodup, hnew⟩ := ih (seenUuid.insert d.uuid d.id) r'
        have hne : ∀ d' ∈ listed n (seenUuid.insert d.uuid d.id) r', d'.uuid ≠ d.uuid := by
          intro d' hd' heq
          simpa [OrdMap.contains, heq] using hnew d' hd'
        refine ⟨?_, ?_⟩
        · rw [List.map_cons, List.nodup_cons, List.mem_map]
          exact ⟨fun ⟨d', hd', heq⟩ => hne d' hd' heq, hnodup⟩
        · intro d' hd'
          rcases List.mem_cons.mp hd' with rfl | hd'
          · simpa using hseen
          · simpa [OrdMap.contains, OrdMap.find?_insert_of_ne _ _ (hne d' hd')] using hnew d' hd'

/-- No two records of an image have the same uuid. -/
theorem records_uuids (data : Bytes) : ((records data).map Device.uuid).Nodup := by
  unfold records
  split
  · exact .nil
  · split
    · exact .nil
    · exact (listed_uuids _ _ _).1

/-- File records under their ids, and their ids under their uuids. -/
def enter (ds : List Device) (s : HealthStore) : HealthStore :=
  { s with
    devices := s.devices.insertAll (ds.map fun d => (d.id, d))
    uuidIndex := s.uuidIndex.insertAll (ds.map fun d => (d.uuid, d.id)) }

theorem loadDevice_of_error {l : Loading} {e : String} (h : readDevice.run l.reader = .error e) :
    loadDevice l = .throw e l := by
  unfold loadDevice
  rw [h]

theorem loadDevice_of_ok {l : Loading} {d : Device} {r : Reader}
    (h : readDevice.run l.reader = .ok (d, r)) :
    loadDevice l =
      if l.seenUuid.contains d.uuid then .throw "duplicate device uuid" l
      else .ok () (l.taken d r) := by
  unfold loadDevice
  rw [h]

theorem each_loadDevice (xs : List Nat) (l : Loading) :
    (Exit.each (fun _ l => loadDevice l) xs l).state.out =
      enter (listed xs.length l.seenUuid l.reader) l.out := by
  induction xs generalizing l with
  | nil => rfl
  | cons x rest ih =>
    unfold Exit.each
    rw [List.length_cons, listed]
    cases hrun : readDevice.run l.reader with
    | error e =>
      rw [loadDevice_of_error hrun]
      rfl
    | ok dr =>
      obtain ⟨d, r⟩ := dr
      rw [loadDevice_of_ok hrun]
      by_cases hseen : l.seenUuid.contains d.uuid = true
      · simp only [if_pos hseen]
        rfl
      · simp only [if_neg hseen]
        rw [Exit.ok_andThen, ih]
        rfl

/-- `recomputeIndexes` writes the five indexes only. -/
theorem recomputeIndexes_fields (s : HealthStore) :
    (recomputeIndexes s).devices = s.devices ∧ (recomputeIndexes s).uuidIndex = s.uuidIndex ∧
      (recomputeIndexes s).policy = s.policy ∧
      (recomputeIndexes s).policyGeneration = s.policyGeneration ∧
      (recomputeIndexes s).coordinatorEpoch = s.coordinatorEpoch := by
  suffices h : ∀ (l : List Device) (t : HealthStore), (l.foldl indexDevice t).devices = t.devices ∧
      (l.foldl indexDevice t).uuidIndex = t.uuidIndex ∧
      (l.foldl indexDevice t).policy = t.policy ∧
      (l.foldl indexDevice t).policyGeneration = t.policyGeneration ∧
      (l.foldl indexDevice t).coordinatorEpoch = t.coordinatorEpoch by
    exact h _ _
  intro l
  induction l with
  | nil => exact fun t => ⟨rfl, rfl, rfl, rfl, rfl⟩
  | cons d rest ih => exact fun t => ih (indexDevice t d)

theorem finishLoad_fields (l : Loading) :
    (finishLoad l).devices = l.out.devices ∧ (finishLoad l).uuidIndex = l.out.uuidIndex ∧
      (finishLoad l).policy = l.out.policy ∧
      (finishLoad l).policyGeneration = l.out.policyGeneration ∧
      (finishLoad l).coordinatorEpoch = l.out.coordinatorEpoch :=
  recomputeIndexes_fields _

/-- What a decode refused after the header leaves behind. -/
def leftover (h : Header) (data : Bytes) (out : HealthStore) : HealthStore :=
  enter (records data) (adoptHeader h out)

theorem decode_of_header_none {data : Bytes} (hh : header data = none) (out : HealthStore) :
    ∃ e, decodeStateInternal data out = .throw e out := by
  unfold header at hh
  unfold decodeStateInternal
  cases hopen : openImage data with
  | error e => exact ⟨e, rfl⟩
  | ok body =>
    simp only [hopen] at hh ⊢
    cases hread : readHeader.run { data := body } with
    | error e => exact ⟨e, rfl⟩
    | ok hr => simp [hread] at hh

/-- The three ways in which a decode ends. -/
inductive Decoded (data : Bytes) (out : HealthStore) : Exit String HealthStore Unit → Prop
  | refusedEarly {e : String} (noHeader : header data = none) : Decoded data out (.throw e out)
  | refusedLate {e : String} {h : Header} {r : Reader} (hasHeader : header data = some (h, r)) :
      Decoded data out (.throw e (leftover h data out))
  | accepted {h : Header} {r : Reader} {l : Loading} (hasHeader : header data = some (h, r))
      (loaded : l.out = leftover h data out) : Decoded data out (.ok () (finishLoad l))

theorem decode_cases (data : Bytes) (out : HealthStore) :
    Decoded data out (decodeStateInternal data out) := by
  cases hh : header data with
  | none =>
    obtain ⟨e, he⟩ := decode_of_header_none hh out
    rw [he]
    exact .refusedEarly hh
  | some hr =>
    obtain ⟨h, r⟩ := hr
    have hrecords : records data = match readCount.run r with
        | .error _ => []
        | .ok (count, r) => listed count.toNat .empty r := by
      simp only [records, hh]
    unfold decodeStateInternal
    unfold header at hh
    cases hopen : openImage data with
    | error e => simp [hopen] at hh
    | ok body =>
      simp only [hopen] at hh ⊢
      cases hread : readHeader.run { data := body } with
      | error e => simp [hread] at hh
      | ok hr =>
        simp only [hread, Option.some.injEq] at hh ⊢
        subst hh
        have hheader : header data = some (h, r) := by simp [header, hopen, hread]
        cases hcount : readCount.run r with
        | error e =>
          have hleft : leftover h data out = adoptHeader h out := by
            simp only [leftover, hrecords, hcount]
            rfl
          have herr : (orError "invalid device count" readCount : Decode UInt32).run r =
              .error "invalid device count" := by
            simp only [orError, StateT.run] at hcount ⊢
            rw [hcount]
          simp only [herr, ← hleft]
          exact .refusedLate hheader
        | ok cr =>
          obtain ⟨count, r'⟩ := cr
          have hok : (orError "invalid device count" readCount : Decode UInt32).run r =
              .ok (count, r') := by
            simp only [orError, StateT.run] at hcount ⊢
            rw [hcount]
          have hout : (loadDevices count.toNat
              { out := adoptHeader h out, reader := r' }).state.out =
              leftover h data out := by
            simp only [leftover, hrecords, hcount, loadDevices, each_loadDevice, List.length_range]
          simp only [hok]
          split
          · rw [hout]
            exact .refusedLate hheader
          · split_ifs
            · rw [hout]
              exact .refusedLate hheader
            · exact .accepted hheader hout

/-- The device tables after a decode, whether it was accepted or refused. -/
theorem decode_devices (data : Bytes) (out : HealthStore) :
    (decodeStateInternal data out).state = out ∨
      (decodeStateInternal data out).state.devices =
          OrdMap.empty.insertAll ((records data).map fun d => (d.id, d)) ∧
        (decodeStateInternal data out).state.uuidIndex =
          OrdMap.empty.insertAll ((records data).map fun d => (d.uuid, d.id)) := by
  generalize hx : decodeStateInternal data out = x
  have hcases := hx ▸ decode_cases data out
  cases hcases with
  | refusedEarly => exact Or.inl rfl
  | refusedLate => exact Or.inr ⟨rfl, rfl⟩
  | accepted hh hl =>
    right
    rw [Exit.ok_state, (finishLoad_fields _).1, (finishLoad_fields _).2.1, hl]
    exact ⟨rfl, rfl⟩

/-- A device tracked after a decode was tracked before it or is a record of the image. -/
theorem decode_device {data : Bytes} {out : HealthStore} {k : AcceleratorId} {d : Device}
    (h : (decodeStateInternal data out).state.devices.find? k = some d) :
    out.devices.find? k = some d ∨ d ∈ records data := by
  rcases decode_devices data out with heq | ⟨heq, -⟩
  · exact Or.inl (heq ▸ h)
  · rw [heq] at h
    obtain ⟨d', hd', heq'⟩ := List.mem_map.mp (OrdMap.mem_of_find?_insertAll h)
    cases heq'
    exact Or.inr hd'

/-- Once an image has a header the devices are those of the image. -/
theorem decode_device_of_header {data : Bytes} {out : HealthStore} {k : AcceleratorId} {d : Device}
    (hh : (header data).isSome = true)
    (h : (decodeStateInternal data out).state.devices.find? k = some d) :
    d ∈ records data ∧ d.id = k := by
  have hlisted : (OrdMap.empty.insertAll ((records data).map fun d => (d.id, d))).find? k = some d →
      d ∈ records data ∧ d.id = k := by
    intro hfind
    obtain ⟨d', hd', heq⟩ := List.mem_map.mp (OrdMap.mem_of_find?_insertAll hfind)
    cases heq
    exact ⟨hd', rfl⟩
  generalize hx : decodeStateInternal data out = x at h
  have hcases := hx ▸ decode_cases data out
  cases hcases with
  | refusedEarly hnone => simp [hnone] at hh
  | refusedLate => exact hlisted h
  | accepted _ hl =>
    rw [Exit.ok_state, (finishLoad_fields _).1, hl] at h
    exact hlisted h

theorem header_of_ok {data : Bytes} {out : HealthStore}
    (hok : (decodeStateInternal data out).result = .ok ()) : (header data).isSome = true := by
  by_contra hnone
  obtain ⟨e, he⟩ := decode_of_header_none (by simpa using hnone) out
  rw [he] at hok
  cases hok

/-- After an accepted decode there are no other devices. -/
theorem decode_device_of_ok {data : Bytes} {out : HealthStore} {k : AcceleratorId} {d : Device}
    (hok : (decodeStateInternal data out).result = .ok ())
    (h : (decodeStateInternal data out).state.devices.find? k = some d) : d ∈ records data :=
  (decode_device_of_header (header_of_ok hok) h).1

theorem find?_distrust {s : HealthStore} {k : AcceleratorId} {d : Device}
    (h : (distrust s).devices.find? k = some d) :
    ∃ d₀, s.devices.find? k = some d₀ ∧ d = { d₀ with requiresRevalidation := true } :=
  OrdMap.find?_mapValues_eq_some_iff.mp h

/-! ### Loads of a file -/

section Loads
variable {clk : Readings} {data : Bytes} {s : HealthStore}

theorem loadInternal_of_error {e : String} (h : (decodeStateInternal data s).result = .error e) :
    loadInternal clk (some data) s = .ok (.error e) (decodeStateInternal data s).state := by
  unfold loadInternal
  simp only [h]

theorem loadInternal_of_ok (h : (decodeStateInternal data s).result = .ok ()) :
    loadInternal clk (some data) s =
      ((distrust (decodeStateInternal data s).state).reassessAll clk).andThen
        fun out => .ok (.ok ()) out := by
  unfold loadInternal
  simp only [h]

/-- A load leaves what the decode leaves, and once that is accepted what the reassessment of
the distrusted devices leaves. -/
theorem loadInternal_leaves {P : HealthStore → Prop}
    (hrefused : (decodeStateInternal data s).result ≠ .ok () → P (decodeStateInternal data s).state)
    (haccepted : (decodeStateInternal data s).result = .ok () →
      P ((distrust (decodeStateInternal data s).state).reassessAll clk).state) :
    P (loadInternal clk (some data) s).state := by
  cases hres : (decodeStateInternal data s).result with
  | error e =>
    rw [loadInternal_of_error hres]
    exact hrefused (by simp [hres])
  | ok u =>
    rw [loadInternal_of_ok hres]
    exact Exit.state_andThen (haccepted hres) fun _ h => h

end Loads

end Persistence

namespace HealthStore
open Persistence

/-- The calls that read an image. -/
theorem step_loads {s : HealthStore} {c : Call} (h : c.op.loads = true) :
    (∃ data, c.op = .decode data ∧ s.step c = (decodeStateInternal data s).state) ∨
      (c.op = .loadFromFile none ∧ s.step c = s) ∨
        ∃ data, c.op = .loadFromFile (some data) ∧
          s.step c = (loadInternal c.clk (some data) s).state := by
  unfold step exec
  cases hop : c.op with
  | decode data => exact Or.inl ⟨data, rfl, rfl⟩
  | loadFromFile contents =>
    cases contents with
    | none => exact Or.inr (Or.inl ⟨rfl, rfl⟩)
    | some data => exact Or.inr (Or.inr ⟨data, rfl, Exit.mapResult_state ..⟩)
  | _ => simp [hop, Op.loads] at h

end HealthStore
end AcceleratorHealth
