import AcceleratorHealth.Wire

/-! Separately typed identities and generations, timestamps, and the authority
envelope that every distributed report carries. -/
namespace AcceleratorHealth
open Codec Wire

/-- An identity of the kind named by its tag; zero is the null identity. -/
@[ext] structure StrongId (Tag : Type) where
  value : UInt64 := 0

/-- An authority counter of the kind named by its tag. -/
@[ext] structure Generation (Tag : Type) where
  value : UInt64 := 0

inductive AcceleratorIdTag
inductive DeviceUuidTag
inductive NodeIdTag
inductive WorkerIdTag
inductive WorkerBootIdTag
inductive ObservationIdTag
inductive HealthAssessmentIdTag
inductive ValidationRunIdTag
inductive FaultIdTag
inductive QuarantineIdTag
inductive RecoveryIdTag
inductive PolicyIdTag

abbrev AcceleratorId := StrongId AcceleratorIdTag
abbrev DeviceUuid := StrongId DeviceUuidTag
abbrev NodeId := StrongId NodeIdTag
abbrev WorkerId := StrongId WorkerIdTag
abbrev WorkerBootId := StrongId WorkerBootIdTag
abbrev ObservationId := StrongId ObservationIdTag
abbrev HealthAssessmentId := StrongId HealthAssessmentIdTag
abbrev ValidationRunId := StrongId ValidationRunIdTag
abbrev FaultId := StrongId FaultIdTag
abbrev QuarantineId := StrongId QuarantineIdTag
abbrev RecoveryId := StrongId RecoveryIdTag
abbrev PolicyId := StrongId PolicyIdTag

inductive HealthGenerationTag
inductive ObservationGenerationTag
inductive ValidationGenerationTag
inductive RecoveryGenerationTag
inductive DeviceGenerationTag
inductive PolicyGenerationTag
inductive WorkerGenerationTag

abbrev HealthGeneration := Generation HealthGenerationTag
abbrev ObservationGeneration := Generation ObservationGenerationTag
abbrev ValidationGeneration := Generation ValidationGenerationTag
abbrev RecoveryGeneration := Generation RecoveryGenerationTag
abbrev DeviceGeneration := Generation DeviceGenerationTag
abbrev PolicyGeneration := Generation PolicyGenerationTag
abbrev WorkerGeneration := Generation WorkerGenerationTag

variable {Tag : Type}

instance : DecidableEq (StrongId Tag) := fun a b =>
  decidable_of_iff (a.value = b.value) ⟨StrongId.ext, congrArg StrongId.value⟩

instance : DecidableEq (Generation Tag) := fun a b =>
  decidable_of_iff (a.value = b.value) ⟨Generation.ext, congrArg Generation.value⟩

def StrongId.get (i : StrongId Tag) : UInt64 := i.value

def StrongId.write (i : StrongId Tag) : Writer := u64 i.value

def StrongId.read {ε : Type} : Parser Reader ε (StrongId Tag) := do
  let v ← prim Reader.u64
  pure ⟨v⟩

instance : Inhabited (StrongId Tag) := ⟨{}⟩

instance : LinearOrder (StrongId Tag) where
  le a b := a.value.toNat ≤ b.value.toNat
  lt a b := a.value.toNat < b.value.toNat
  le_refl a := Nat.le_refl _
  le_trans a b c := Nat.le_trans
  lt_iff_le_not_ge a b := Nat.lt_iff_le_and_not_ge
  le_antisymm a b h h' := by
    cases a; cases b
    exact congrArg _ (UInt64.toNat_inj.mp (Nat.le_antisymm h h'))
  le_total a b := Nat.le_total _ _
  toDecidableLE a b := inferInstanceAs (Decidable (a.value.toNat ≤ b.value.toNat))
  toDecidableLT a b := inferInstanceAs (Decidable (a.value.toNat < b.value.toNat))
  toDecidableEq := inferInstance

namespace Generation

def get (g : Generation Tag) : UInt64 := g.value

def isNull (g : Generation Tag) : Bool := g.value = 0

/-- The last generation there is. -/
def last : Generation Tag := ⟨0xFFFFFFFFFFFFFFFF⟩

/-- Increment, refusing to wrap around. -/
def next (g : Generation Tag) : Except Exn (Generation Tag) :=
  if g = last then .error (.overflowError "generation overflow") else .ok ⟨g.value + 1⟩

instance : Inhabited (Generation Tag) := ⟨{}⟩

instance : LT (Generation Tag) := ⟨fun a b => a.value.toNat < b.value.toNat⟩
instance : LE (Generation Tag) := ⟨fun a b => a.value.toNat ≤ b.value.toNat⟩
instance (a b : Generation Tag) : Decidable (a < b) :=
  inferInstanceAs (Decidable (a.value.toNat < b.value.toNat))
instance (a b : Generation Tag) : Decidable (a ≤ b) :=
  inferInstanceAs (Decidable (a.value.toNat ≤ b.value.toNat))

def write (g : Generation Tag) : Writer := u64 g.value

def read {ε : Type} : Parser Reader ε (Generation Tag) := do
  let v ← prim Reader.u64
  pure ⟨v⟩

theorem next_toNat {g g' : Generation Tag} (h : g.next = .ok g') :
    g'.value.toNat = g.value.toNat + 1 := by
  unfold next at h
  split_ifs at h with hl
  have hne : g.value ≠ 0xFFFFFFFFFFFFFFFF := fun hv => hl (by cases g; simpa [last] using hv)
  cases h
  have hlt := g.value.toNat_lt
  have hn : g.value.toNat ≠ 18446744073709551615 := fun hv => hne (UInt64.toNat_inj.mp hv)
  simp only [UInt64.toNat_add, UInt64.toNat_one]
  omega

theorem next_eq_error {g : Generation Tag} {e : Exn} (h : g.next = .error e) :
    g = last ∧ e = .overflowError "generation overflow" := by
  unfold next at h
  split_ifs at h with hl
  exact ⟨hl, by cases h; rfl⟩

end Generation

/-- Nanoseconds; all time-driven behaviour goes through such readings. -/
structure Timestamp where
  nanos : Int64 := 0
  deriving DecidableEq

namespace Timestamp

instance : Inhabited Timestamp := ⟨{}⟩
instance : LT Timestamp := ⟨fun a b => a.nanos < b.nanos⟩
instance (a b : Timestamp) : Decidable (a < b) := inferInstanceAs (Decidable (a.nanos < b.nanos))

def write (t : Timestamp) : Writer := i64 t.nanos

def read {ε : Type} : Parser Reader ε Timestamp := do
  let v ← prim Reader.i64
  pure ⟨v⟩

end Timestamp

abbrev DurationNanos := Int64

structure AuthorityEnvelope where
  coordinatorEpoch : UInt64 := 0
  workerId : WorkerId := {}
  workerBootId : WorkerBootId := {}
  observationGeneration : ObservationGeneration := {}
  healthGeneration : HealthGeneration := {}
  validationGeneration : ValidationGeneration := {}
  deviceGeneration : DeviceGeneration := {}
  deriving DecidableEq

namespace AuthorityEnvelope

def write (e : AuthorityEnvelope) : Writer :=
  emitAll [u64 e.coordinatorEpoch, e.workerId.write, e.workerBootId.write,
    e.observationGeneration.write, e.healthGeneration.write, e.validationGeneration.write,
    e.deviceGeneration.write]

def read {ε : Type} : Parser Reader ε AuthorityEnvelope := do
  let coordinatorEpoch ← prim Reader.u64
  let workerId ← StrongId.read
  let workerBootId ← StrongId.read
  let observationGeneration ← Generation.read
  let healthGeneration ← Generation.read
  let validationGeneration ← Generation.read
  let deviceGeneration ← Generation.read
  pure { coordinatorEpoch, workerId, workerBootId, observationGeneration, healthGeneration,
         validationGeneration, deviceGeneration }

end AuthorityEnvelope
end AcceleratorHealth
