import AcceleratorHealth.Registration

/-! Loops over the devices, turn by turn: which reading each turn takes, what it leaves
in the store, and when a loop of reassessments is cut short. -/
namespace AcceleratorHealth
open Locked

namespace HealthStore
variable {body : Nat → Locked → Exit Exn Locked Unit} {s : HealthStore}

/-- What a loop over `turns` leaves behind: devices without a turn are as they were, a
device with one is as it was or as its own turn left it, and a throw comes from a turn
whose effects are kept. -/
structure Looped (body : Nat → Locked → Exit Exn Locked Unit) (turns : List (AcceleratorId × Nat))
    (s : HealthStore) (x : Exit Exn HealthStore Unit) : Prop where
  evolves : Evolves s x.state
  outside : ∀ k, k ∉ turns.map Prod.fst → x.state.devices.find? k = s.devices.find? k
  inside : ∀ k i d, (k, i) ∈ turns → s.devices.find? k = some d →
    x.state.devices.find? k = some d ∨
      ∃ s₁, Evolves s s₁ ∧ x.state.devices.find? k = some (body i ⟨s₁, d⟩).state.d
  completed : x.result = .ok () → ∀ k i d, (k, i) ∈ turns → s.devices.find? k = some d →
    ∃ s₁, Evolves s s₁ ∧ (body i ⟨s₁, d⟩).result = .ok () ∧
      x.state.devices.find? k = some (body i ⟨s₁, d⟩).state.d
  stopped : ∀ e, x.result = .error e → ∃ k i d s₁, (k, i) ∈ turns ∧
    s.devices.find? k = some d ∧ Evolves s s₁ ∧ (body i ⟨s₁, d⟩).result = .error e ∧
      x.state.devices.find? k = some (body i ⟨s₁, d⟩).state.d

theorem looped_nil : Looped body [] s (.ok () s) where
  evolves := .refl s
  outside _ _ := rfl
  inside _ _ _ h := by simp at h
  completed _ _ _ _ h := by simp at h
  stopped e h := by cases h

/-- A turn that finds no device passes. -/
theorem looped_skip {k : AcceleratorId} {i : Nat} {rest : List (AcceleratorId × Nat)}
    {x : Exit Exn HealthStore Unit} (hd : s.devices.find? k = none)
    (h : Looped body rest s x) : Looped body ((k, i) :: rest) s x where
  evolves := h.evolves
  outside k' hk' := h.outside k' fun hmem => hk' (List.mem_cons_of_mem _ hmem)
  inside k' i' d hmem hd' := by
    rcases List.mem_cons.mp hmem with heq | hmem
    · cases heq
      rw [hd] at hd'
      cases hd'
    · exact h.inside k' i' d hmem hd'
  completed hok k' i' d hmem hd' := by
    rcases List.mem_cons.mp hmem with heq | hmem
    · cases heq
      rw [hd] at hd'
      cases hd'
    · exact h.completed hok k' i' d hmem hd'
  stopped e herr := by
    obtain ⟨k', i', d, s₁, hmem, hrest⟩ := h.stopped e herr
    exact ⟨k', i', d, s₁, List.mem_cons_of_mem _ hmem, hrest⟩

section Turn
variable {k : AcceleratorId} {i : Nat} {rest : List (AcceleratorId × Nat)} {d : Device}

/-- The turn of a device that has no later turn. -/
theorem turn_cases (hk : k ∉ rest.map Prod.fst) {k' : AcceleratorId} {i' : Nat}
    (h : (k', i') ∈ (k, i) :: rest) : k' = k ∧ i' = i ∨ k' ≠ k ∧ (k', i') ∈ rest := by
  rcases List.mem_cons.mp h with heq | hmem
  · cases heq
    exact Or.inl ⟨rfl, rfl⟩
  · refine Or.inr ⟨fun heq => hk ?_, hmem⟩
    rw [← heq]
    exact List.mem_map_of_mem hmem

/-- A turn that throws is the last. -/
theorem looped_throw (hbody : ∀ i l, Continues l (body i l).state) (hk : k ∉ rest.map Prod.fst)
    {e : Exn} (hd : s.devices.find? k = some d) (he : (body i ⟨s, d⟩).result = .error e) :
    Looped body ((k, i) :: rest) s (.throw e ((body i ⟨s, d⟩).state.commit k)) := by
  have hfind := find?_commit (hbody i ⟨s, d⟩) k
  have hself : ((body i ⟨s, d⟩).state.commit k).devices.find? k = some (body i ⟨s, d⟩).state.d := by
    rw [hfind, if_pos rfl]
  constructor
  · exact .of_continues hd (hbody i _)
  · intro k' hk'
    rw [Exit.throw_state, hfind, if_neg]
    exact fun heq => hk' (by simp [heq])
  · intro k' i' d' hmem hd'
    rcases turn_cases hk hmem with ⟨rfl, rfl⟩ | ⟨hne, -⟩
    · cases hd.symm.trans hd'
      exact Or.inr ⟨s, .refl s, hself⟩
    · left
      rw [Exit.throw_state, hfind, if_neg hne, hd']
  · intro hok
    cases hok
  · intro e' he'
    cases he'
    exact ⟨k, i, d, s, List.mem_cons_self, hd, .refl s, he, hself⟩

/-- A turn that returns, then the others. -/
theorem looped_step (hbody : ∀ i l, Continues l (body i l).state) (hk : k ∉ rest.map Prod.fst)
    (hd : s.devices.find? k = some d) (hok : (body i ⟨s, d⟩).result = .ok ())
    {x : Exit Exn HealthStore Unit}
    (h : Looped body rest ((body i ⟨s, d⟩).state.commit k) x) :
    Looped body ((k, i) :: rest) s x := by
  have hfind := find?_commit (hbody i ⟨s, d⟩) k
  have hev : Evolves s ((body i ⟨s, d⟩).state.commit k) := .of_continues hd (hbody i _)
  have hself : x.state.devices.find? k = some (body i ⟨s, d⟩).state.d := by
    rw [h.outside k hk, hfind, if_pos rfl]
  have hother : ∀ k', k' ≠ k →
      ((body i ⟨s, d⟩).state.commit k).devices.find? k' = s.devices.find? k' := by
    intro k' hne
    rw [hfind, if_neg hne]
  constructor
  · exact hev.trans h.evolves
  · intro k' hk'
    simp only [List.map_cons, List.mem_cons, not_or] at hk'
    rw [h.outside k' hk'.2, hother k' hk'.1]
  · intro k' i' d' hmem hd'
    rcases turn_cases hk hmem with ⟨rfl, rfl⟩ | ⟨hne, hmem⟩
    · cases hd.symm.trans hd'
      exact Or.inr ⟨s, .refl s, hself⟩
    · rcases h.inside k' i' d' hmem ((hother k' hne).trans hd') with heq | ⟨s₁, hs₁, heq⟩
      · exact Or.inl heq
      · exact Or.inr ⟨s₁, hev.trans hs₁, heq⟩
  · intro hx k' i' d' hmem hd'
    rcases turn_cases hk hmem with ⟨rfl, rfl⟩ | ⟨hne, hmem⟩
    · cases hd.symm.trans hd'
      exact ⟨s, .refl s, hok, hself⟩
    · obtain ⟨s₁, hs₁, hres, heq⟩ := h.completed hx k' i' d' hmem ((hother k' hne).trans hd')
      exact ⟨s₁, hev.trans hs₁, hres, heq⟩
  · intro e he
    obtain ⟨k', i', d', s₁, hmem, hd', hs₁, hres, heq⟩ := h.stopped e he
    have hne : k' ≠ k := by
      rintro rfl
      exact hk (List.mem_map_of_mem hmem)
    exact ⟨k', i', d', s₁, List.mem_cons_of_mem _ hmem, (hother k' hne).symm.trans hd',
      hev.trans hs₁, hres, heq⟩

end Turn

theorem looped_each (hbody : ∀ i l, Continues l (body i l).state)
    (turns : List (AcceleratorId × Nat)) (hnodup : (turns.map Prod.fst).Nodup) (s : HealthStore) :
    Looped body turns s (Exit.each (fun e => onDevice e.1 (.ok ()) (body e.2)) turns s) := by
  induction turns generalizing s with
  | nil => exact looped_nil
  | cons turn rest ih =>
    obtain ⟨k, i⟩ := turn
    rw [List.map_cons, List.nodup_cons] at hnodup
    unfold Exit.each
    cases hd : s.devices.find? k with
    | none =>
      rw [onDevice_none hd]
      exact looped_skip hd (ih hnodup.2 s)
    | some d =>
      rw [onDevice_some hd]
      unfold Exit.andThen Exit.bind
      simp only [Exit.mapState_result, Exit.mapState_state]
      cases hres : (body i ⟨s, d⟩).result with
      | ok u => exact looped_step hbody hnodup.1 hd hres (ih hnodup.2 _)
      | error e => exact looped_throw hbody hnodup.1 hd hres

/-- The loop over all devices: each has one turn, in the order of the ids. -/
theorem looped_forDevices (hbody : ∀ i l, Continues l (body i l).state) (s : HealthStore) :
    Looped body s.devices.keys.zipIdx s (forDevices body s) := by
  apply looped_each hbody
  rw [List.zipIdx_map_fst]
  exact s.devices.keys_nodup

theorem exists_turn {k : AcceleratorId} {d : Device} (h : s.devices.find? k = some d) :
    ∃ i, (k, i) ∈ s.devices.keys.zipIdx := by
  have hmem : k ∈ s.devices.keys.zipIdx.map Prod.fst := by
    rw [List.zipIdx_map_fst]
    exact OrdMap.mem_keys_iff.mpr ⟨d, h⟩
  obtain ⟨⟨k', i⟩, hturn, rfl⟩ := List.mem_map.mp hmem
  exact ⟨i, hturn⟩

/-- After a loop a device is as it was or as its own turn has left it. -/
theorem forDevices_turn (hbody : ∀ i l, Continues l (body i l).state) {k : AcceleratorId}
    {d' : Device} (h : (forDevices body s).state.devices.find? k = some d') :
    ∃ d i, s.devices.find? k = some d ∧ (k, i) ∈ s.devices.keys.zipIdx ∧
      (d' = d ∨ ∃ s₁, Evolves s s₁ ∧ d' = (body i ⟨s₁, d⟩).state.d) := by
  have hloop := looped_forDevices hbody s
  obtain ⟨d, hd⟩ : ∃ d, s.devices.find? k = some d := by
    have hmem : k ∈ (forDevices body s).state.devices.keys := OrdMap.mem_keys_iff.mpr ⟨d', h⟩
    rw [hloop.evolves.keys] at hmem
    exact OrdMap.mem_keys_iff.mp hmem
  obtain ⟨i, hturn⟩ := exists_turn hd
  refine ⟨d, i, hd, hturn, ?_⟩
  rcases hloop.inside k i d hturn hd with heq | ⟨s₁, hs₁, heq⟩
  · exact Or.inl (Option.some.inj (h.symm.trans heq))
  · exact Or.inr ⟨s₁, hs₁, Option.some.inj (h.symm.trans heq)⟩

/-- When the turns do not depend on each other, a loop returns exactly if all of them do. -/
theorem forDevices_returns_iff (hbody : ∀ i l, Continues l (body i l).state)
    (hcongr : ∀ i d s₁, Evolves s s₁ →
      ((body i ⟨s₁, d⟩).result = .ok () ↔ (body i ⟨s, d⟩).result = .ok ())) :
    (forDevices body s).result = .ok () ↔ ∀ k i d, (k, i) ∈ s.devices.keys.zipIdx →
      s.devices.find? k = some d → (body i ⟨s, d⟩).result = .ok () := by
  have hloop := looped_forDevices hbody s
  constructor
  · intro hok k i d hturn hd
    obtain ⟨s₁, hs₁, hres, -⟩ := hloop.completed hok k i d hturn hd
    exact (hcongr i d s₁ hs₁).mp hres
  · intro hall
    cases hres : (forDevices body s).result with
    | ok u => rfl
    | error e =>
      obtain ⟨k, i, d, s₁, hturn, hd, hs₁, herr, -⟩ := hloop.stopped e hres
      rw [(hcongr i d s₁ hs₁).mpr (hall k i d hturn hd)] at herr
      cases herr

end HealthStore

/-! ### Reassessments cut short -/

namespace Locked

/-- The reassessment is due a transition and there is no health generation left for it. -/
def Tears (now : Timestamp) (l : Locked) : Prop :=
  canTransition l.d.state (target now l) ∧ l.d.healthGeneration = .last

instance (now : Timestamp) (l : Locked) : Decidable (Tears now l) :=
  inferInstanceAs (Decidable (_ ∧ _))

theorem tears_congr {now : Timestamp} {l l' : Locked} (hd : l'.d = l.d)
    (hpolicy : l'.store.policy = l.store.policy) : Tears now l' ↔ Tears now l := by
  unfold Tears target assessmentInput
  rw [hd, hpolicy]

theorem reassessLocked_returns_iff {clk : Readings} {l : Locked} :
    (reassessLocked clk l).result = .ok () ↔ ¬Tears (clk 0) l := by
  constructor
  · rintro hok ⟨hlegal, hspent⟩
    rw [reassessLocked_eq_torn hlegal hspent] at hok
    cases hok
  · intro h
    have hsat : (reassessLocked clk l).Sat (fun _ _ => True) fun _ _ => False :=
      reassessLocked_sat (fun _ => trivial) (fun _ _ _ => trivial) (fun _ _ => trivial)
        fun hlegal hspent => h ⟨hlegal, hspent⟩
    cases hres : (reassessLocked clk l).result with
    | ok u => rfl
    | error e => exact ((Exit.sat_iff.mp hsat).2 e hres).elim

/-- A torn reassessment has counted the transition. -/
theorem ne_of_reassessLocked_throws {clk : Readings} {l : Locked} {e : Exn}
    (h : (reassessLocked clk l).result = .error e) :
    l.d.healthGeneration = .last ∧
      (reassessLocked clk l).state.d.transitionCount = l.d.transitionCount + 1 := by
  have htears : Tears (clk 0) l := by
    by_contra hnot
    rw [reassessLocked_returns_iff.mpr hnot] at h
    cases h
  rw [reassessLocked_eq_torn htears.1 htears.2]
  exact ⟨htears.2, rfl⟩

end Locked
end AcceleratorHealth
