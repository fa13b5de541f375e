import AcceleratorHealth.Assessment

/-! The reasons of an assessment: each adverse finding gives one, and only an assessment
without any says that the evidence is good. -/
namespace AcceleratorHealth
namespace AssessmentInput

/-- The findings that the engine reports, each with its text. -/
inductive Finds (i : AssessmentInput) : Str → Prop
  | recovery (h : i.inRecovery = true) : Finds i (str "device in recovery/revalidation")
  | quarantine (h : i.quarantined = true) : Finds i (str "quarantine active")
  | fatal (h : i.faultStats.hasOpenFatal = true) : Finds i (str "open fatal fault present")
  | failed (h : i.scan.anyFailed = true) :
    Finds i (str "dimension failure: " ++ i.scan.describeWorst)
  | degraded (h : i.scan.anyFailed = false) (hdegraded : i.scan.anyDegraded = true) :
    Finds i (str "dimension degraded: " ++ i.scan.describeWorst)
  | repeated (h : i.policy.degradeAfterFailures.toInt32 ≤ i.consecutive) :
    Finds i (str "repeated failures: " ++ str (toString i.consecutive.toInt))
  | stale (h : i.freshness = .stale) : Finds i (str "evidence stale")
  | expired (h : i.freshness = .expired) : Finds i (str "evidence expired")
  | shallow (h : i.shallow = true) : Finds i (str "validation depth below required")
  | device (h : i.deviceGenerationChanged = true) : Finds i (str "device generation changed")
  | policy (h : i.policyGenerationChanged = true) : Finds i (str "policy generation changed")

variable {i : AssessmentInput} {r : Str}

private theorem mem_reason_if {c : Prop} [Decidable c] {x : Str} {xs : List Str} :
    r ∈ (if c then [x] else xs) ↔ c ∧ r = x ∨ ¬c ∧ r ∈ xs := by
  split_ifs with h <;> simp [h]

/-- What is appended to the list is what is found. -/
theorem exists_findings (i : AssessmentInput) : ∃ found : List Str,
    (∀ r, r ∈ found ↔ i.Finds r) ∧ i.reasons = if !found.isEmpty then found
      else if i.target = .healthy then [str "all evidence nominal and fresh"]
      else [str "no adverse evidence"] := by
  refine ⟨_, fun r => ?_, rfl⟩
  simp only [List.mem_append]
  -- each finding in turn, as the source tests for it
  change (((((((((r ∈ (if i.inRecovery = true then [_] else []) ∨
    r ∈ (if i.quarantined = true then [_] else [])) ∨
    r ∈ (if i.faultStats.hasOpenFatal = true then [_] else [])) ∨
    r ∈ (if i.scan.anyFailed = true then [_]
      else (if i.scan.anyDegraded = true then [_] else []))) ∨
    r ∈ (if decide (i.policy.degradeAfterFailures.toInt32 ≤ i.consecutive) = true then [_]
      else [])) ∨
    r ∈ (if decide (i.freshness = .stale) = true then [_] else [])) ∨
    r ∈ (if decide (i.freshness = .expired) = true then [_] else [])) ∨
    r ∈ (if i.shallow = true then [_] else [])) ∨
    r ∈ (if i.deviceGenerationChanged = true then [_] else [])) ∨
    r ∈ (if i.policyGenerationChanged = true then [_] else [])) ↔ _
  simp only [mem_reason_if, List.not_mem_nil, and_false, or_false, decide_eq_true_eq]
  constructor
  · rintro (((((((((⟨h, rfl⟩ | ⟨h, rfl⟩) | ⟨h, rfl⟩) | (⟨h, rfl⟩ | ⟨hf, h, rfl⟩)) | ⟨h, rfl⟩) |
      ⟨h, rfl⟩) | ⟨h, rfl⟩) | ⟨h, rfl⟩) | ⟨h, rfl⟩) | ⟨h, rfl⟩)
    · exact .recovery h
    · exact .quarantine h
    · exact .fatal h
    · exact .failed h
    · exact .degraded (Bool.not_eq_true _ ▸ hf) h
    · exact .repeated h
    · exact .stale h
    · exact .expired h
    · exact .shallow h
    · exact .device h
    · exact .policy h
  · intro h
    cases h <;> simp [*]

theorem mem_reasons_iff : r ∈ i.reasons ↔ i.Finds r ∨
    (∀ r', ¬i.Finds r') ∧
      r = if i.target = .healthy then str "all evidence nominal and fresh"
        else str "no adverse evidence" := by
  obtain ⟨found, hfound, hreasons⟩ := i.exists_findings
  rw [hreasons]
  cases found with
  | nil =>
    have hnone : ∀ r', ¬i.Finds r' := fun r' h => List.not_mem_nil ((hfound r').mpr h)
    simp only [List.isEmpty_nil, Bool.not_true, Bool.false_eq_true, if_false]
    split_ifs <;> simp [hnone]
  | cons x xs =>
    have hsome : ¬∀ r', ¬i.Finds r' := fun h => h x ((hfound x).mp List.mem_cons_self)
    simp only [List.isEmpty_cons, Bool.not_false, if_true, hfound r]
    simp [hsome]

private theorem head?_str_append {s : String} {b : UInt8} (h : (str s).head? = some b) (x : Str) :
    (str s ++ x).head? = some b := by
  rw [List.head?_append, h]
  rfl

/-- A finding is told by its first letter: r is that of the repeated failures, a and n are
those of the two texts for a device without findings. -/
theorem Finds.initial (h : i.Finds r) :
    r.head? = some 0x72 ∧ i.policy.degradeAfterFailures.toInt32 ≤ i.consecutive ∨
      r.head? ∈ [some 0x64, some 0x71, some 0x6F, some 0x65, some 0x76, some 0x70] := by
  cases h with
  | repeated h => exact Or.inl ⟨head?_str_append (by decide +kernel) _, h⟩
  | failed =>
    have hhead : (str "dimension failure: " ++ i.scan.describeWorst).head? = some 0x64 :=
      head?_str_append (by decide +kernel) _
    rw [hhead]
    exact Or.inr (by decide)
  | degraded =>
    have hhead : (str "dimension degraded: " ++ i.scan.describeWorst).head? = some 0x64 :=
      head?_str_append (by decide +kernel) _
    rw [hhead]
    exact Or.inr (by decide)
  | _ => exact Or.inr (by decide +kernel)

/-- An assessment that calls all evidence nominal has HEALTHY for its target. -/
theorem target_of_nominal (h : str "all evidence nominal and fresh" ∈ i.reasons) :
    i.target = .healthy := by
  rcases mem_reasons_iff.mp h with hfinds | ⟨-, htext⟩
  · have hhead : (str "all evidence nominal and fresh").head? = some 0x61 := by decide +kernel
    rcases hfinds.initial with ⟨hr, -⟩ | hother
    · rw [hhead] at hr
      exact absurd hr (by decide)
    · rw [hhead] at hother
      exact absurd hother (by decide)
  · by_contra hnot
    rw [if_neg hnot] at htext
    exact absurd htext (by decide +kernel)

/-- Repeated failures are among the reasons exactly when the count is at the threshold as
both are read. -/
theorem repeated_mem_reasons_iff : (∃ r ∈ i.reasons, str "repeated failures: " <+: r) ↔
    i.policy.degradeAfterFailures.toInt32 ≤ i.consecutive := by
  constructor
  · rintro ⟨r, hr, t, rfl⟩
    have hhead : (str "repeated failures: " ++ t).head? = some 0x72 :=
      head?_str_append (by decide +kernel) t
    rcases mem_reasons_iff.mp hr with hfinds | ⟨-, htext⟩
    · rcases hfinds.initial with ⟨-, h⟩ | hother
      · exact h
      · rw [hhead] at hother
        exact absurd hother (by decide)
    · rw [htext] at hhead
      split_ifs at hhead <;> exact absurd hhead (by decide +kernel)
  · intro h
    exact ⟨_, mem_reasons_iff.mpr (Or.inl (.repeated h)), List.prefix_append _ _⟩

end AssessmentInput
end AcceleratorHealth
