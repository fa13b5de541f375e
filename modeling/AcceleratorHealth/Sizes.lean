import AcceleratorHealth.Persistence

/-! How many bytes each record takes up, and that the only thing a writer refuses is a
text over the bound. -/
namespace AcceleratorHealth
open Codec Wire Util

/-! ### Fields -/

section Fields

theorem sized_u8 (v : UInt8) : Sized (u8 v) True 1 := .of_ok rfl

theorem sized_u32 (v : UInt32) : Sized (u32 v) True 4 := .of_ok (storeLe_length ..)

theorem sized_u64 (v : UInt64) : Sized (u64 v) True 8 := .of_ok (storeLe_length ..)

theorem sized_flag (b : Bool) : Sized (flag b) True 1 := sized_u8 _

theorem sized_enum {E : Type} [CodedEnum E] (v : E) : Sized (enum v) True 1 := sized_u8 _

/-- A text that the wire format takes. -/
def TextFits (s : Str) : Prop := s.length ≤ kMaxString

instance (s : Str) : Decidable (TextFits s) := inferInstanceAs (Decidable (_ ≤ _))

theorem sized_string (s : Str) : Sized (string s) (TextFits s) (4 + s.length) := by
  unfold Sized string TextFits
  constructor
  · intro h
    rw [if_neg (Nat.not_lt.mpr h)]
    exact ⟨_, rfl, by simp⟩
  · intro h
    rw [if_pos (Nat.lt_of_not_le h)]
    exact ⟨_, rfl⟩

end Fields

/-! ### Records -/

def HealthDimension.TextsFit (d : HealthDimension) : Prop := TextFits d.reason ∧ TextFits d.units

instance (d : HealthDimension) : Decidable d.TextsFit := inferInstanceAs (Decidable (_ ∧ _))

def HealthDimension.imageSize (d : HealthDimension) : Nat :=
  48 + d.reason.length + d.units.length

theorem sized_dimension (d : HealthDimension) : Sized d.write d.TextsFit d.imageSize := by
  refine Sized.congr (c := TextFits d.reason ∧ TextFits d.units ∧ True) (.next (sized_enum _) <|
    .next (sized_enum _) <| .next (sized_enum _) <| .next (sized_u64 _) <|
    .next (sized_u64 _) <| .next (sized_u64 _) <| .next (sized_u32 _) <| .next (sized_enum _) <|
    .cons (sized_string _) <| .next (sized_u64 _) <| .cons (sized_string _) .nil) ?_ ?_
  · simp [HealthDimension.TextsFit]
  · simp only [HealthDimension.imageSize]
    omega

def Evidence.TextsFit (e : Evidence) : Prop := TextFits e.reason ∧ TextFits e.units

instance (e : Evidence) : Decidable e.TextsFit := inferInstanceAs (Decidable (_ ∧ _))

def Evidence.imageSize (e : Evidence) : Nat := 80 + e.reason.length + e.units.length

theorem sized_evidence (e : Evidence) : Sized e.write e.TextsFit e.imageSize := by
  refine Sized.congr (c := TextFits e.reason ∧ TextFits e.units ∧ True) (.next (sized_u64 _) <|
    .next (sized_u64 _) <| .next (sized_enum _) <| .next (sized_enum _) <|
    .next (sized_enum _) <| .next (sized_u64 _) <| .next (sized_u64 _) <| .next (sized_u64 _) <|
    .next (sized_u64 _) <| .next (sized_u64 _) <| .next (sized_u32 _) <| .next (sized_enum _) <|
    .cons (sized_string _) <| .next (sized_u64 _) <| .cons (sized_string _) .nil) ?_ ?_
  · simp [Evidence.TextsFit]
  · simp only [Evidence.imageSize]
    omega

def Fault.TextsFit (f : Fault) : Prop := TextFits f.evidence ∧ TextFits f.causalMetadata

instance (f : Fault) : Decidable f.TextsFit := inferInstanceAs (Decidable (_ ∧ _))

def Fault.imageSize (f : Fault) : Nat := 71 + f.evidence.length + f.causalMetadata.length

theorem sized_fault (f : Fault) : Sized f.write f.TextsFit f.imageSize := by
  refine Sized.congr (c := TextFits f.evidence ∧ TextFits f.causalMetadata ∧ True)
    (.next (sized_u64 _) <| .next (sized_u64 _) <| .next (sized_enum _) <|
    .next (sized_enum _) <| .next (sized_enum _) <| .next (sized_u64 _) <|
    .next (sized_u64 _) <| .next (sized_u64 _) <| .next (sized_u64 _) <|
    .cons (sized_string _) <| .next (sized_flag _) <| .next (sized_flag _) <|
    .next (sized_flag _) <| .cons (sized_string _) <| .next (sized_enum _) <|
    .next (sized_u64 _) .nil) ?_ ?_
  · simp [Fault.TextsFit]
  · simp only [Fault.imageSize]
    omega

def HealthChange.TextsFit (c : HealthChange) : Prop := TextFits c.label ∧ TextFits c.detail

instance (c : HealthChange) : Decidable c.TextsFit := inferInstanceAs (Decidable (_ ∧ _))

def HealthChange.imageSize (c : HealthChange) : Nat := 44 + c.label.length + c.detail.length

theorem sized_change (c : HealthChange) : Sized c.write c.TextsFit c.imageSize := by
  refine Sized.congr (c := TextFits c.label ∧ TextFits c.detail ∧ True) (.next (sized_u64 _) <|
    .next (sized_u64 _) <| .next (sized_enum _) <| .next (sized_enum _) <|
    .next (sized_enum _) <| .next (sized_enum _) <| .cons (sized_string _) <|
    .cons (sized_string _) <| .next (sized_u64 _) <| .next (sized_u64 _) .nil) ?_ ?_
  · simp [HealthChange.TextsFit]
  · simp only [HealthChange.imageSize]
    omega

def QuarantineRecord.TextsFit (q : QuarantineRecord) : Prop :=
  TextFits q.reason ∧ TextFits q.triggeredBy

instance (q : QuarantineRecord) : Decidable q.TextsFit := inferInstanceAs (Decidable (_ ∧ _))

def QuarantineRecord.imageSize (q : QuarantineRecord) : Nat :=
  50 + q.reason.length + q.triggeredBy.length

theorem sized_quarantine (q : QuarantineRecord) : Sized q.write q.TextsFit q.imageSize := by
  refine Sized.congr (c := TextFits q.reason ∧ TextFits q.triggeredBy ∧ True)
    (.next (sized_u64 _) <| .next (sized_u64 _) <| .next (sized_enum _) <|
    .cons (sized_string _) <| .cons (sized_string _) <| .next (sized_u64 _) <|
    .next (sized_u64 _) <| .next (sized_u64 _) <| .next (sized_flag _) .nil) ?_ ?_
  · simp [QuarantineRecord.TextsFit]
  · simp only [QuarantineRecord.imageSize]
    omega

def RecoveryRecord.TextsFit (r : RecoveryRecord) : Prop := TextFits r.profile

instance (r : RecoveryRecord) : Decidable r.TextsFit := inferInstanceAs (Decidable (TextFits _))

def RecoveryRecord.imageSize (r : RecoveryRecord) : Nat := 41 + r.profile.length

theorem sized_recovery (r : RecoveryRecord) : Sized r.write r.TextsFit r.imageSize := by
  refine Sized.congr (c := TextFits r.profile ∧ True) (.next (sized_u64 _) <|
    .next (sized_u64 _) <| .next (sized_u64 _) <| .cons (sized_string _) <|
    .next (sized_u32 _) <| .next (sized_flag _) <| .next (sized_u64 _) .nil) ?_ ?_
  · simp [RecoveryRecord.TextsFit]
  · simp only [RecoveryRecord.imageSize]
    omega

def ValidationRecord.TextsFit (v : ValidationRecord) : Prop := TextFits v.detail

instance (v : ValidationRecord) : Decidable v.TextsFit := inferInstanceAs (Decidable (TextFits _))

def ValidationRecord.imageSize (v : ValidationRecord) : Nat := 67 + v.detail.length

theorem sized_validation (v : ValidationRecord) : Sized v.write v.TextsFit v.imageSize := by
  refine Sized.congr (c := TextFits v.detail ∧ True) (.next (sized_u64 _) <|
    .next (sized_u64 _) <| .next (sized_u64 _) <| .next (sized_enum _) <|
    .next (sized_enum _) <| .next (sized_flag _) <| .next (sized_u32 _) <|
    .cons (sized_string _) <| .next (sized_u64 _) <| .next (sized_u64 _) <|
    .next (sized_u64 _) <| .next (sized_u64 _) .nil) ?_ ?_
  · simp [ValidationRecord.TextsFit]
  · simp only [ValidationRecord.imageSize]
    omega

def HealthAssessment.TextsFit (a : HealthAssessment) : Prop :=
  (∀ reason ∈ a.reasons, TextFits reason) ∧ TextFits a.digest

instance (a : HealthAssessment) : Decidable a.TextsFit := inferInstanceAs (Decidable (_ ∧ _))

def HealthAssessment.imageSize (a : HealthAssessment) : Nat :=
  83 + (a.reasons.map fun reason => 4 + reason.length).sum + a.digest.length

theorem sized_assessment (a : HealthAssessment) : Sized a.write a.TextsFit a.imageSize := by
  refine Sized.congr (c := (∀ reason ∈ a.reasons, TextFits reason) ∧ TextFits a.digest ∧ True)
    (.next (sized_u64 _) <| .next (sized_u64 _) <| .next (sized_u64 _) <|
    .next (sized_enum _) <| .next (sized_enum _) <| .next (sized_enum _) <|
    .next (sized_u32 _) <| .next (sized_enum _) <| .next (sized_flag _) <|
    .next (sized_flag _) <| .next (sized_u64 _) <| .next (sized_flag _) <|
    .next (sized_u64 _) <| .next (sized_u64 _) <| .next (sized_u64 _) <|
    .next (sized_u64 _) <| .next (sized_u32 _) <| .cons (.map sized_string _) <|
    .cons (sized_string _) .nil) ?_ ?_
  · simp [HealthAssessment.TextsFit]
  · simp only [HealthAssessment.imageSize]
    omega

theorem sized_healthPolicy (p : HealthPolicy) : Sized p.write True 53 :=
  Sized.congr (.next (sized_u64 _) <| .next (sized_enum _) <| .next (sized_u64 _) <|
    .next (sized_u64 _) <| .next (sized_u64 _) <| .next (sized_u32 _) <|
    .next (sized_u32 _) <| .next (sized_u32 _) <| .next (sized_u32 _) <|
    .next (sized_enum _) <| .next (sized_flag _) <| .next (sized_flag _) <|
    .next (sized_flag _) .nil) .rfl rfl

/-! ### A device and a store -/

/-- No text of the device is over the bound. -/
structure Device.TextsFit (d : Device) : Prop where
  dimensions : ∀ dim ∈ d.dimensions.values, dim.TextsFit
  evidence : ∀ e ∈ d.recentEvidence, e.TextsFit
  faults : ∀ f ∈ d.faults.faults, f.TextsFit
  validations : ∀ v ∈ d.validations, v.TextsFit
  changes : ∀ c ∈ d.changes, c.TextsFit
  assessment : d.latestAssessment.TextsFit
  quarantine : ∀ q ∈ d.quarantine.toList, q.TextsFit
  recovery : ∀ r ∈ d.recovery.toList, r.TextsFit

theorem Device.textsFit_iff (d : Device) : d.TextsFit ↔
    (∀ dim ∈ d.dimensions.values, dim.TextsFit) ∧ (∀ e ∈ d.recentEvidence, e.TextsFit) ∧
      (∀ f ∈ d.faults.faults, f.TextsFit) ∧ (∀ v ∈ d.validations, v.TextsFit) ∧
      (∀ c ∈ d.changes, c.TextsFit) ∧ d.latestAssessment.TextsFit ∧
      (∀ q ∈ d.quarantine.toList, q.TextsFit) ∧ (∀ r ∈ d.recovery.toList, r.TextsFit) :=
  ⟨fun ⟨h₁, h₂, h₃, h₄, h₅, h₆, h₇, h₈⟩ => ⟨h₁, h₂, h₃, h₄, h₅, h₆, h₇, h₈⟩,
    fun ⟨h₁, h₂, h₃, h₄, h₅, h₆, h₇, h₈⟩ => ⟨h₁, h₂, h₃, h₄, h₅, h₆, h₇, h₈⟩⟩

instance (d : Device) : Decidable d.TextsFit := decidable_of_iff _ d.textsFit_iff.symm

def Device.imageSize (d : Device) : Nat :=
  109 + (d.dimensions.values.map HealthDimension.imageSize).sum
    + (d.recentEvidence.map Evidence.imageSize).sum
    + (d.faults.faults.map Fault.imageSize).sum
    + (d.validations.map ValidationRecord.imageSize).sum
    + (d.changes.map HealthChange.imageSize).sum
    + d.latestAssessment.imageSize
    + (d.quarantine.toList.map QuarantineRecord.imageSize).sum
    + (d.recovery.toList.map RecoveryRecord.imageSize).sum

/-- The bytes between the length field and the checksum. -/
def HealthStore.imageSize (s : HealthStore) : Nat :=
  73 + (s.devices.values.map Device.imageSize).sum

namespace Persistence

theorem sized_device (d : Device) : Sized (writeDevice d) d.TextsFit d.imageSize := by
  refine Sized.congr (c := (∀ dim ∈ d.dimensions.values, dim.TextsFit) ∧
    (∀ e ∈ d.recentEvidence, e.TextsFit) ∧ (∀ f ∈ d.faults.faults, f.TextsFit) ∧
    (∀ v ∈ d.validations, v.TextsFit) ∧ (∀ c ∈ d.changes, c.TextsFit) ∧
    d.latestAssessment.TextsFit ∧ (∀ q ∈ d.quarantine.toList, q.TextsFit) ∧
    (∀ r ∈ d.recovery.toList, r.TextsFit) ∧ True)
    (.next (sized_u64 _) <| .next (sized_u64 _) <| .next (sized_u64 _) <|
    .next (sized_u64 _) <| .next (sized_u64 _) <| .next (sized_u64 _) <|
    .next (sized_enum _) <| .next (sized_enum _) <| .next (sized_u64 _) <|
    .next (sized_u64 _) <| .next (sized_u32 _) <| .cons (.map sized_dimension _) <|
    .next (sized_u32 _) <| .cons (.map sized_evidence _) <| .next (sized_u32 _) <|
    .cons (.map sized_fault _) <| .next (sized_u32 _) <| .cons (.map sized_validation _) <|
    .next (sized_u32 _) <| .cons (.map sized_change _) <| .cons (sized_assessment _) <|
    .next (sized_enum _) <| .next (sized_u64 _) <| .next (sized_u64 _) <|
    .next (sized_flag _) <| .cons (.map sized_quarantine _) <| .next (sized_flag _) <|
    .cons (.map sized_recovery _) <| .next (sized_flag _) <| .next (sized_flag _) <|
    .next (sized_flag _) <| .next (sized_flag _) .nil) ?_ ?_
  · rw [and_true, d.textsFit_iff]
  · simp only [Device.imageSize]
    omega

/-- Encoding throws exactly when some device has a text over the bound. -/
theorem sized_encodeBody (s : HealthStore) :
    Sized (encodeBody s) (∀ d ∈ s.devices.values, d.TextsFit) s.imageSize := by
  refine Sized.congr (c := (∀ d ∈ s.devices.values, d.TextsFit) ∧ True)
    (.next (sized_healthPolicy _) <| .next (sized_u64 _) <| .next (sized_u64 _) <|
    .next (sized_u32 _) <| .cons (.map sized_device _) .nil) (by rw [and_true]) ?_
  simp only [HealthStore.imageSize]
  omega

end Persistence
end AcceleratorHealth
