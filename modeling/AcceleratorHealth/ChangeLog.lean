import AcceleratorHealth.Agreement

/-! The change log as a trace: in every plain run whose devices do not run out of
health generations, a device's log records exactly its transitions. -/
namespace AcceleratorHealth

/-- The log leads from INITIALIZING to the current state, one legal transition after
another, and the counters count its records. -/
structure Track.Faithful (t : Track) : Prop where
  first : ∀ hc ∈ t.changes.head?, hc.fromState = .initializing
  linked : t.changes.IsChain fun hc hc' => hc'.fromState = hc.toState
  legal : ∀ hc ∈ t.changes, canTransition hc.fromState hc.toState
  last : (t.changes.getLast?.map HealthChange.toState).getD .initializing = t.state
  count : t.changes.length = t.transitionCount.toNat
  generation : t.changes.length + 1 = t.healthGeneration.value.toNat
  numbered : ∀ i hc, t.changes[i]? = some hc → hc.healthGeneration.value.toNat = i + 2

namespace Track
variable {t t' : Track}

theorem Move.faithful (h : Move t t') (ht : t.Faithful) : t'.Faithful := by
  obtain @⟨toState, g, hc, legal, next, hfrom, hto, hgen⟩ := h
  have hnext := Generation.next_toNat next
  have hcount := ht.count
  have hgeneration := ht.generation
  have hbound := g.value.toNat_lt
  refine ⟨?_, ?_, ?_, ?_, ?_, ?_, ?_⟩
  · intro hc' hhead
    cases hch : t.changes with
    | nil =>
      have hinit := ht.last
      simp only [hch, List.nil_append, List.head?_cons, Option.mem_def, Option.some.injEq] at hhead
      rw [← hhead, hfrom, ← hinit, hch]
      rfl
    | cons x rest =>
      refine ht.first hc' ?_
      simpa [hch] using hhead
  · refine List.isChain_append.mpr ⟨ht.linked, .singleton _, ?_⟩
    intro x hx y hy
    have hlast := ht.last
    rw [Option.mem_def.mp hx] at hlast
    simp only [List.head?_cons, Option.mem_def, Option.some.injEq] at hy
    rw [← hy, hfrom, ← hlast]
    rfl
  · intro hc' hmem
    rcases List.mem_append.mp hmem with hmem | hmem
    · exact ht.legal hc' hmem
    · rw [List.mem_singleton.mp hmem, hfrom, hto]
      exact legal
  · simp [hto]
  · simp only [List.length_append, List.length_singleton, UInt64.toNat_add, UInt64.toNat_one]
    omega
  · simp only [List.length_append, List.length_singleton]
    omega
  · intro i hc' hi
    rw [List.getElem?_append] at hi
    split_ifs at hi with hlt
    · exact ht.numbered i hc' hi
    · obtain ⟨hzero, rfl⟩ : i - t.changes.length = 0 ∧ hc = hc' := by
        simpa [List.getElem?_singleton] using hi
      rw [hgen]
      omega

theorem Moves.faithful (h : Moves t t') (ht : t.Faithful) : t'.Faithful := by
  induction h with
  | refl => exact ht
  | tail _ hmove ih => exact hmove.faithful ih

/-- A torn transition counts as the last but one that a 64-bit counter can count. -/
theorem Tear.transitionCount (h : Tear t t') (ht : t.Faithful) :
    t'.transitionCount.toNat = 2 ^ 64 - 1 := by
  obtain @⟨toState, -, hspent⟩ := h
  have hcount := ht.count
  have hgeneration := ht.generation
  rw [hspent] at hgeneration
  have hlast : (Generation.last : HealthGeneration).value.toNat = 2 ^ 64 - 1 := rfl
  simp only [UInt64.toNat_add, UInt64.toNat_one]
  omega

/-- A torn transition finds as many records as there are generations after the first. -/
theorem Tear.changes_length (h : Tear t t') (ht : t.Faithful) :
    t'.changes.length = 2 ^ 64 - 2 := by
  obtain @⟨toState, -, hspent⟩ := h
  have hgeneration := ht.generation
  rw [hspent] at hgeneration
  have hlast : (Generation.last : HealthGeneration).value.toNat = 2 ^ 64 - 1 := rfl
  simp only
  omega

/-- A track that no torn transition of a faithful one leads to. -/
def Whole (t' : Track) : Prop := ∀ t : Track, t.Faithful → ¬Tear t t'

theorem Ends.faithful (h : Ends t t') (ht : t.Faithful) (hwhole : t'.Whole) : t'.Faithful := by
  obtain ⟨t₁, hmoves, rfl | htear⟩ := h
  · exact hmoves.faithful ht
  · exact absurd htear (hwhole t₁ (hmoves.faithful ht))

theorem whole_of_few (hfew : t.transitionCount.toNat < 2 ^ 64 - 1) : t.Whole :=
  fun _ ht htear => absurd (htear.transitionCount ht) (by omega)

theorem whole_of_fits (hfits : t.changes.length < 2 ^ 63) : t.Whole :=
  fun _ ht htear => absurd (htear.changes_length ht) (by omega)

theorem Moves.appends (h : Moves t t') : t.changes <+: t'.changes := by
  induction h with
  | refl => exact List.prefix_refl _
  | tail _ hmove ih =>
    cases hmove
    exact ih.trans (List.prefix_append _ _)

theorem Ends.appends (h : Ends t t') : t.changes <+: t'.changes := by
  obtain ⟨t₁, hmoves, rfl | htear⟩ := h
  · exact hmoves.appends
  · cases htear
    exact hmoves.appends

end Track

namespace HealthStore
open Locked

theorem faithful_newDevice (now : Timestamp) (id : AcceleratorId) (uuid : DeviceUuid)
    (node : NodeId) : (newDevice now id uuid node).track.Faithful where
  first _ h := by cases h
  linked := .nil
  legal _ h := by cases h
  last := rfl
  count := rfl
  generation := rfl
  numbered _ _ h := by cases h

theorem step_faithful {s : HealthStore} {c : Call} (hload : c.op.loads = false)
    (hs : s.AllDevices fun d => d.track.Faithful)
    (hwhole : (s.step c).AllDevices fun d => d.track.Whole) :
    (s.step c).AllDevices fun d => d.track.Faithful := by
  intro k d' hk
  rcases step_device hload hk with ⟨d, hd, rfl | ⟨l, l', rfl, -, htouch, rfl⟩⟩ |
    ⟨uuid, node, -, -, -, rfl⟩
  · exact hs k d' hd
  · exact htouch.continues.track.faithful (hs k l.d hd) (hwhole k l'.d hk)
  · exact faithful_newDevice ..

/-- A call leaves the log of a tracked device as a beginning of the new one. -/
theorem step_appends {s : HealthStore} {c : Call} {k : AcceleratorId} {d : Device}
    (hs : s.Named) (hc : c.op.plain) (hk : s.devices.find? k = some d) :
    ∃ d', (s.step c).devices.find? k = some d' ∧ d.changes <+: d'.changes := by
  obtain ⟨d', hd', rfl | ⟨l, l', rfl, htouch, rfl⟩⟩ := step_old hs hc hk
  · exact ⟨d', hd', List.prefix_refl _⟩
  · exact ⟨l'.d, hd', htouch.continues.track.appends⟩

/-- In every plain run in which no device makes `2 ^ 64 - 1` transitions, every change
log is a faithful trace at the end, and every call of the run only appended to it. -/
theorem change_log_faithful (policy : HealthPolicy) (epoch : UInt64) (calls : List Call)
    (hplain : ∀ c ∈ calls, c.op.plain)
    (hfew : Machine.Along step (fun s c => (s.step c).AllDevices fun d =>
      d.transitionCount.toNat < 2 ^ 64 - 1) (init policy epoch) calls) :
    (∀ k d, (after policy epoch calls).devices.find? k = some d → d.track.Faithful) ∧
      ∀ past c, past ++ [c] <+: calls → ∀ k d,
        (after policy epoch past).devices.find? k = some d →
          ∃ d', (after policy epoch (past ++ [c])).devices.find? k = some d' ∧
            d.changes <+: d'.changes := by
  constructor
  · have hrun : Machine.Along step (fun _ c => c.op.plain) (init policy epoch) calls :=
      Machine.along_of_forall fun c hc _ => hplain c hc
    exact Machine.run_invariant (P := fun s => s.AllDevices fun d => d.track.Faithful)
      (fun s c hs hc => step_faithful hc.1.1 hs fun k d hk => Track.whole_of_few (hc.2 k d hk))
      (allDevices_init _ policy epoch) (hrun.and hfew)
  · intro past c hpast k d hk
    have hmem : ∀ c' ∈ past ++ [c], c'.op.plain := fun c' hc' => hplain c' (hpast.subset hc')
    rw [List.forall_mem_append, List.forall_mem_singleton] at hmem
    rw [after, Machine.run_append]
    exact step_appends (after_named hmem.1) hmem.2 hk

theorem change_log_faithful_after_bringUp :
    (∀ k d, (after {} 0 bringUp).devices.find? k = some d → d.track.Faithful) ∧
      ∀ past c, past ++ [c] <+: bringUp → ∀ k d, (after {} 0 past).devices.find? k = some d →
        ∃ d', (after {} 0 (past ++ [c])).devices.find? k = some d' ∧ d.changes <+: d'.changes :=
  change_log_faithful {} 0 bringUp (by decide)
    ⟨by decide +kernel, by decide +kernel, by decide +kernel, by decide +kernel, trivial⟩

/-! ### Logs that fit -/

/-- Every change log fits its vector, whose length is a signed 64-bit number at most. -/
def LogsFit (s : HealthStore) : Prop := s.AllDevices fun d => d.changes.length < 2 ^ 63

instance (s : HealthStore) : Decidable s.LogsFit :=
  inferInstanceAs (Decidable (s.AllDevices _))

/-- Far from the last health generation, whatever one call may do. -/
def Spare (s : HealthStore) : Prop :=
  s.AllDevices fun d => d.healthGeneration.value.toNat + 2 < 2 ^ 64

theorem Spare.ne_last {s : HealthStore} (h : s.Spare) {k : AcceleratorId} {d : Device}
    (hk : s.devices.find? k = some d) : d.healthGeneration ≠ .last := by
  intro heq
  have hlt : d.healthGeneration.value.toNat + 2 < 2 ^ 64 := h k d hk
  rw [heq] at hlt
  exact absurd hlt (by decide)

theorem Spare.next_ne_last {s : HealthStore} (h : s.Spare) {k : AcceleratorId} {d : Device}
    (hk : s.devices.find? k = some d) : d.healthGeneration.next ≠ .ok .last := by
  intro heq
  have hlt : d.healthGeneration.value.toNat + 2 < 2 ^ 64 := h k d hk
  have hnext := Generation.next_toNat heq
  have hvalue : (Generation.last : HealthGeneration).value.toNat = 2 ^ 64 - 1 := rfl
  omega

/-- A device makes one record for each health generation, so in a run without loads whose
change logs fit no device comes near the last generation. -/
theorem spare_of_logsFit {policy : HealthPolicy} {epoch : UInt64} {calls : List Call}
    (hload : ∀ c ∈ calls, c.op.loads = false)
    (hfits : Machine.Along step (fun s c => (s.step c).LogsFit) (init policy epoch) calls) :
    Machine.Along step (fun s _ => s.Spare) (init policy epoch) calls := by
  have hrun : Machine.Along step (fun _ c => c.op.loads = false) (init policy epoch) calls :=
    Machine.along_of_forall fun c hc _ => hload c hc
  have htraces := Machine.along_invariant
    (P := fun s => (s.AllDevices fun d => d.track.Faithful) ∧ s.LogsFit)
    (fun s c hs hc => ⟨step_faithful hc.1 hs.1 fun k d hk => Track.whole_of_fits (hc.2 k d hk),
      hc.2⟩)
    ⟨allDevices_init _ policy epoch, allDevices_init _ policy epoch⟩ (hrun.and hfits)
  refine htraces.mono fun s c ⟨hfaithful, hfit⟩ k d hk => ?_
  have hgeneration := (hfaithful k d hk).generation
  have hlength := hfit k d hk
  change d.changes.length + 1 = d.healthGeneration.value.toNat at hgeneration
  omega

end HealthStore
end AcceleratorHealth
