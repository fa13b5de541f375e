import Mathlib

/-! Enumerations with stable byte codes and printed names. The byte parser searches
the name table, so an instance carries the facts that make the search exact. -/
namespace AcceleratorHealth

/-- An enumeration, its byte codes and its table of printed names. -/
class CodedEnum (E : Type) where
  code : E → UInt8
  names : List (E × String)
  codes_nodup : (names.map fun kv => code kv.1).Nodup
  names_complete : ∀ v, v ∈ names.map Prod.fst

section CodedEnum
variable {E : Type} [CodedEnum E]
open CodedEnum

def enumToString [DecidableEq E] (v : E) : String :=
  match (names (E := E)).find? fun kv => kv.1 = v with
  | some kv => kv.2
  | none => "UNKNOWN"

def enumFromByte (b : UInt8) : Option E :=
  ((names (E := E)).find? fun kv => code kv.1 = b).map Prod.fst

theorem code_injective : Function.Injective (code : E → UInt8) := by
  intro v w h
  have hn : ((names (E := E)).map Prod.fst |>.map code).Nodup := by
    simpa [List.map_map, Function.comp_def] using codes_nodup (E := E)
  exact List.inj_on_of_nodup_map hn (names_complete v) (names_complete w) h

@[simp] theorem enumFromByte_code (v : E) : enumFromByte (code v) = some v := by
  obtain ⟨kv, hkv, hv⟩ := List.mem_map.mp (names_complete v)
  have hs : ((names (E := E)).find? fun kv => code kv.1 = code v).isSome := by
    rw [List.find?_isSome]
    exact ⟨kv, hkv, by simp [hv]⟩
  obtain ⟨e, he⟩ := Option.isSome_iff_exists.mp hs
  have hc : code e.1 = code v := by simpa using List.find?_some he
  simp [enumFromByte, he, code_injective hc]

/-- The byte parser answers with the value the byte stands for, or not at all. -/
theorem code_of_enumFromByte {b : UInt8} {v : E} (h : enumFromByte b = some v) : code v = b := by
  obtain ⟨kv, hkv, rfl⟩ := Option.map_eq_some_iff.mp h
  simpa using List.find?_some hkv

/-- Values compare by their codes. -/
abbrev codeOrder (E : Type) [CodedEnum E] [DecidableEq E] : LinearOrder E where
  le v w := (code v).toNat ≤ (code w).toNat
  lt v w := (code v).toNat < (code w).toNat
  le_refl v := Nat.le_refl _
  le_trans u v w := Nat.le_trans
  lt_iff_le_not_ge v w := Nat.lt_iff_le_and_not_ge
  le_antisymm v w h h' := code_injective (UInt8.toNat_inj.mp (Nat.le_antisymm h h'))
  le_total v w := Nat.le_total _ _
  toDecidableLE v w := inferInstanceAs (Decidable ((code v).toNat ≤ (code w).toNat))
  toDecidableLT v w := inferInstanceAs (Decidable ((code v).toNat < (code w).toNat))
  toDecidableEq := inferInstance

/-- An enumeration is searched by its table. -/
instance decidableForall {P : E → Prop} [DecidablePred P] : Decidable (∀ v, P v) :=
  decidable_of_iff (∀ v ∈ (names : List (E × String)).map Prod.fst, P v)
    ⟨fun h v => h v (names_complete v), fun h v _ => h v⟩

end CodedEnum

inductive HealthState where
  | unknown | initializing | healthy | degraded | unhealthy | failed | draining | drained
  | quarantined | recovering | revalidating | offline | lost
  deriving DecidableEq, Repr

instance : CodedEnum HealthState where
  code
    | .unknown => 0 | .initializing => 1 | .healthy => 2 | .degraded => 3 | .unhealthy => 4
    | .failed => 5 | .draining => 6 | .drained => 7 | .quarantined => 8 | .recovering => 9
    | .revalidating => 10 | .offline => 11 | .lost => 12
  names := [
    (.unknown, "UNKNOWN"), (.initializing, "INITIALIZING"), (.healthy, "HEALTHY"),
    (.degraded, "DEGRADED"), (.unhealthy, "UNHEALTHY"), (.failed, "FAILED"),
    (.draining, "DRAINING"), (.drained, "DRAINED"), (.quarantined, "QUARANTINED"),
    (.recovering, "RECOVERING"), (.revalidating, "REVALIDATING"), (.offline, "OFFLINE"),
    (.lost, "LOST")]
  codes_nodup := by decide
  names_complete v := by cases v <;> decide

instance : LinearOrder HealthState := codeOrder HealthState

inductive ReadinessState where
  | ready | readyDegraded | notReady | revalidationRequired | drainRequired | quarantined
  | unknown
  deriving DecidableEq, Repr

instance : CodedEnum ReadinessState where
  code
    | .ready => 0 | .readyDegraded => 1 | .notReady => 2 | .revalidationRequired => 3
    | .drainRequired => 4 | .quarantined => 5 | .unknown => 6
  names := [
    (.ready, "READY"), (.readyDegraded, "READY_DEGRADED"), (.notReady, "NOT_READY"),
    (.revalidationRequired, "REVALIDATION_REQUIRED"), (.drainRequired, "DRAIN_REQUIRED"),
    (.quarantined, "QUARANTINED"), (.unknown, "UNKNOWN")]
  codes_nodup := by decide
  names_complete v := by cases v <;> decide

instance : LinearOrder ReadinessState := codeOrder ReadinessState

/-- Separate from the health state. -/
inductive Severity where
  | info | warning | degraded | critical | fatal
  deriving DecidableEq, Repr

instance : CodedEnum Severity where
  code
    | .info => 0 | .warning => 1 | .degraded => 2 | .critical => 3 | .fatal => 4
  names := [
    (.info, "INFO"), (.warning, "WARNING"), (.degraded, "DEGRADED"), (.critical, "CRITICAL"),
    (.fatal, "FATAL")]
  codes_nodup := by decide
  names_complete v := by cases v <;> decide

instance : LinearOrder Severity := codeOrder Severity

inductive EvidenceClass where
  | measured | reported | derived | reconstructed | inferred | unknown
  deriving DecidableEq, Repr

instance : CodedEnum EvidenceClass where
  code
    | .measured => 0 | .reported => 1 | .derived => 2 | .reconstructed => 3 | .inferred => 4
    | .unknown => 5
  names := [
    (.measured, "MEASURED"), (.reported, "REPORTED"), (.derived, "DERIVED"),
    (.reconstructed, "RECONSTRUCTED"), (.inferred, "INFERRED"), (.unknown, "UNKNOWN")]
  codes_nodup := by decide
  names_complete v := by cases v <;> decide

inductive ValidationDepth where
  | none | enumerationOnly | initialization | allocation | transfer | execution | numerical
  | full
  deriving DecidableEq, Repr

instance : CodedEnum ValidationDepth where
  code
    | .none => 0 | .enumerationOnly => 1 | .initialization => 2 | .allocation => 3
    | .transfer => 4 | .execution => 5 | .numerical => 6 | .full => 7
  names := [
    (.none, "NONE"), (.enumerationOnly, "ENUMERATION_ONLY"), (.initialization, "INITIALIZATION"),
    (.allocation, "ALLOCATION"), (.transfer, "TRANSFER"), (.execution, "EXECUTION"),
    (.numerical, "NUMERICAL"), (.full, "FULL")]
  codes_nodup := by decide
  names_complete v := by cases v <;> decide

instance : LinearOrder ValidationDepth := codeOrder ValidationDepth

inductive ValidationProfile where
  | basic | memory | transfer | execution | numerical | full
  deriving DecidableEq, Repr

instance : CodedEnum ValidationProfile where
  code
    | .basic => 0 | .memory => 1 | .transfer => 2 | .execution => 3 | .numerical => 4
    | .full => 5
  names := [
    (.basic, "BASIC"), (.memory, "MEMORY"), (.transfer, "TRANSFER"), (.execution, "EXECUTION"),
    (.numerical, "NUMERICAL"), (.full, "FULL")]
  codes_nodup := by decide
  names_complete v := by cases v <;> decide

inductive FreshnessStatus where
  | current | aging | stale | expired
  deriving DecidableEq, Repr

instance : CodedEnum FreshnessStatus where
  code
    | .current => 0 | .aging => 1 | .stale => 2 | .expired => 3
  names := [
    (.current, "CURRENT"), (.aging, "AGING"), (.stale, "STALE"), (.expired, "EXPIRED")]
  codes_nodup := by decide
  names_complete v := by cases v <;> decide

inductive FaultType where
  | enumerationFailure | driverFailure | cudaInitFailure | allocationFailure | transferFailure
  | kernelLaunchFailure | synchronizationFailure | numericalMismatch | memoryIntegrityFailure
  | outOfMemory | deviceLost | deviceReset | fatalRuntimeError | thermalDegradation
  | powerDegradation | interconnectDegradation | staleEvidence | identityChange | unknownFault
  deriving DecidableEq, Repr

instance : CodedEnum FaultType where
  code
    | .enumerationFailure => 0 | .driverFailure => 1 | .cudaInitFailure => 2
    | .allocationFailure => 3 | .transferFailure => 4 | .kernelLaunchFailure => 5
    | .synchronizationFailure => 6 | .numericalMismatch => 7 | .memoryIntegrityFailure => 8
    | .outOfMemory => 9 | .deviceLost => 10 | .deviceReset => 11 | .fatalRuntimeError => 12
    | .thermalDegradation => 13 | .powerDegradation => 14 | .interconnectDegradation => 15
    | .staleEvidence => 16 | .identityChange => 17 | .unknownFault => 18
  names := [
    (.enumerationFailure, "ENUMERATION_FAILURE"), (.driverFailure, "DRIVER_FAILURE"),
    (.cudaInitFailure, "CUDA_INIT_FAILURE"), (.allocationFailure, "ALLOCATION_FAILURE"),
    (.transferFailure, "TRANSFER_FAILURE"), (.kernelLaunchFailure, "KERNEL_LAUNCH_FAILURE"),
    (.synchronizationFailure, "SYNCHRONIZATION_FAILURE"),
    (.numericalMismatch, "NUMERICAL_MISMATCH"),
    (.memoryIntegrityFailure, "MEMORY_INTEGRITY_FAILURE"), (.outOfMemory, "OUT_OF_MEMORY"),
    (.deviceLost, "DEVICE_LOST"), (.deviceReset, "DEVICE_RESET"),
    (.fatalRuntimeError, "FATAL_RUNTIME_ERROR"), (.thermalDegradation, "THERMAL_DEGRADATION"),
    (.powerDegradation, "POWER_DEGRADATION"),
    (.interconnectDegradation, "INTERCONNECT_DEGRADATION"), (.staleEvidence, "STALE_EVIDENCE"),
    (.identityChange, "IDENTITY_CHANGE"), (.unknownFault, "UNKNOWN_FAULT")]
  codes_nodup := by decide
  names_complete v := by cases v <;> decide

instance : LinearOrder FaultType := codeOrder FaultType

inductive FaultClass where
  | transient | recoverable | fatal | unknown
  deriving DecidableEq, Repr

instance : CodedEnum FaultClass where
  code
    | .transient => 0 | .recoverable => 1 | .fatal => 2 | .unknown => 3
  names := [
    (.transient, "TRANSIENT"), (.recoverable, "RECOVERABLE"), (.fatal, "FATAL"),
    (.unknown, "UNKNOWN")]
  codes_nodup := by decide
  names_complete v := by cases v <;> decide

inductive DimensionKind where
  | enumeration | driver | runtimeInit | allocation | transfer | execution | synchronization
  | numerical | memoryIntegrity | memoryPressure | temperature | power | interconnect
  | fatalError | restartReset | freshness | validationConfidence | unknown
  deriving DecidableEq, Repr

instance : CodedEnum DimensionKind where
  code
    | .enumeration => 0 | .driver => 1 | .runtimeInit => 2 | .allocation => 3 | .transfer => 4
    | .execution => 5 | .synchronization => 6 | .numerical => 7 | .memoryIntegrity => 8
    | .memoryPressure => 9 | .temperature => 10 | .power => 11 | .interconnect => 12
    | .fatalError => 13 | .restartReset => 14 | .freshness => 15 | .validationConfidence => 16
    | .unknown => 17
  names := [
    (.enumeration, "ENUMERATION"), (.driver, "DRIVER"), (.runtimeInit, "RUNTIME_INIT"),
    (.allocation, "ALLOCATION"), (.transfer, "TRANSFER"), (.execution, "EXECUTION"),
    (.synchronization, "SYNCHRONIZATION"), (.numerical, "NUMERICAL"),
    (.memoryIntegrity, "MEMORY_INTEGRITY"), (.memoryPressure, "MEMORY_PRESSURE"),
    (.temperature, "TEMPERATURE"), (.power, "POWER"), (.interconnect, "INTERCONNECT"),
    (.fatalError, "FATAL_ERROR"), (.restartReset, "RESTART_RESET"), (.freshness, "FRESHNESS"),
    (.validationConfidence, "VALIDATION_CONFIDENCE"), (.unknown, "UNKNOWN")]
  codes_nodup := by decide
  names_complete v := by cases v <;> decide

instance : LinearOrder DimensionKind := codeOrder DimensionKind

inductive QuarantineAuthority where
  | operator | policy | fault | recoveryFailure | unknown
  deriving DecidableEq, Repr

instance : CodedEnum QuarantineAuthority where
  code
    | .operator => 0 | .policy => 1 | .fault => 2 | .recoveryFailure => 3 | .unknown => 4
  names := [
    (.operator, "OPERATOR"), (.policy, "POLICY"), (.fault, "FAULT"),
    (.recoveryFailure, "RECOVERY_FAILURE"), (.unknown, "UNKNOWN")]
  codes_nodup := by decide
  names_complete v := by cases v <;> decide

/-- The next action a diagnosis asks for. -/
inductive ActionRequired where
  | none | monitor | revalidate | drain | quarantine | recover | unknown
  deriving DecidableEq, Repr

instance : CodedEnum ActionRequired where
  code
    | .none => 0 | .monitor => 1 | .revalidate => 2 | .drain => 3 | .quarantine => 4
    | .recover => 5 | .unknown => 6
  names := [
    (.none, "NONE"), (.monitor, "MONITOR"), (.revalidate, "REVALIDATE"), (.drain, "DRAIN"),
    (.quarantine, "QUARANTINE"), (.recover, "RECOVER"), (.unknown, "UNKNOWN")]
  codes_nodup := by decide
  names_complete v := by cases v <;> decide

/-- The state of one health dimension. -/
inductive DimensionState where
  | nominal | degraded | failed | unavailable | unknown
  deriving DecidableEq, Repr

instance : CodedEnum DimensionState where
  code
    | .nominal => 0 | .degraded => 1 | .failed => 2 | .unavailable => 3 | .unknown => 4
  names := [
    (.nominal, "NOMINAL"), (.degraded, "DEGRADED"), (.failed, "FAILED"),
    (.unavailable, "UNAVAILABLE"), (.unknown, "UNKNOWN")]
  codes_nodup := by decide
  names_complete v := by cases v <;> decide

inductive ResolutionState where
  | open | resolved | suppressed
  deriving DecidableEq, Repr

instance : CodedEnum ResolutionState where
  code
    | .open => 0 | .resolved => 1 | .suppressed => 2
  names := [
    (.open, "OPEN"), (.resolved, "RESOLVED"), (.suppressed, "SUPPRESSED")]
  codes_nodup := by decide
  names_complete v := by cases v <;> decide

/-- Frame types of the coordinator protocol. -/
inductive MessageType where
  | hello | register | observation | validationResult | faultReport | healthAssessment
  | quarantine | clearQuarantine | recoveryBegin | recoveryResult | policyUpdate
  | snapshotRequest | snapshotResponse | ack | error
  deriving DecidableEq, Repr

instance : CodedEnum MessageType where
  code
    | .hello => 0 | .register => 1 | .observation => 2 | .validationResult => 3
    | .faultReport => 4 | .healthAssessment => 5 | .quarantine => 6 | .clearQuarantine => 7
    | .recoveryBegin => 8 | .recoveryResult => 9 | .policyUpdate => 10 | .snapshotRequest => 11
    | .snapshotResponse => 12 | .ack => 13 | .error => 14
  names := [
    (.hello, "HELLO"), (.register, "REGISTER"), (.observation, "OBSERVATION"),
    (.validationResult, "VALIDATION_RESULT"), (.faultReport, "FAULT_REPORT"),
    (.healthAssessment, "HEALTH_ASSESSMENT"), (.quarantine, "QUARANTINE"),
    (.clearQuarantine, "CLEAR_QUARANTINE"), (.recoveryBegin, "RECOVERY_BEGIN"),
    (.recoveryResult, "RECOVERY_RESULT"), (.policyUpdate, "POLICY_UPDATE"),
    (.snapshotRequest, "SNAPSHOT_REQUEST"), (.snapshotResponse, "SNAPSHOT_RESPONSE"),
    (.ack, "ACK"), (.error, "ERROR")]
  codes_nodup := by decide
  names_complete v := by cases v <;> decide

/-- The exceptions that a call can leave by, with their texts. -/
inductive Exn where
  | runtimeError (what : String)
  | overflowError (what : String)
  | invalidArgument (what : String)
  | logicError (what : String)
  | invalidTransition (fromState toState : HealthState)
  deriving DecidableEq

end AcceleratorHealth
