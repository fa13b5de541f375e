import AcceleratorHealth.Records

/-! Append-only fault history of one accelerator. Fault ids are unique by
construction; the counters the assessment uses are computed, never cached. -/
namespace AcceleratorHealth

/-- Fault counters used by the assessment engine. -/
structure DeviceFaultStats where
  total : UInt32 := 0
  criticalFatalOpen : UInt32 := 0
  consecutiveLatest : UInt32 := 0
  hasOpenFatal : Bool := false
  hasOpenCritical : Bool := false
  deriving DecidableEq

@[ext] structure FaultHistory where
  faults : List Fault
  ids_nodup : (faults.map Fault.id).Nodup
  deriving DecidableEq

namespace FaultHistory

def empty : FaultHistory := ⟨[], .nil⟩

instance : Inhabited FaultHistory := ⟨empty⟩

def ids (h : FaultHistory) : List FaultId := h.faults.map Fault.id

/-- Append a fault, refusing an id that is already there. -/
def record (h : FaultHistory) (f : Fault) : Except Exn FaultHistory :=
  if hf : f.id ∈ h.ids then .error (.invalidArgument "duplicate fault id")
  else .ok ⟨h.faults ++ [f], by
    simpa [List.nodup_append, h.ids_nodup, ids] using hf⟩

def openFaults (h : FaultHistory) : List Fault := h.faults.filter fun f => f.resolution = .open

/-- Length of the run of this type at the end of the history. -/
def consecutiveOfType (h : FaultHistory) (t : FaultType) : UInt32 :=
  UInt32.ofNat (h.faults.reverse.takeWhile fun f => f.type = t).length

def stats (h : FaultHistory) : DeviceFaultStats where
  total := UInt32.ofNat h.faults.length
  criticalFatalOpen := UInt32.ofNat (h.openFaults.countP fun f => .critical ≤ f.severity)
  consecutiveLatest :=
    match h.faults.getLast? with
    | some last => h.consecutiveOfType last.type
    | none => 0
  hasOpenFatal := h.openFaults.any fun f => f.fatal || f.severity = .fatal
  hasOpenCritical := h.openFaults.any fun f => .critical ≤ f.severity

theorem record_eq_ok {h h' : FaultHistory} {f : Fault} (hr : h.record f = .ok h') :
    f.id ∉ h.ids ∧ h'.faults = h.faults ++ [f] := by
  unfold record at hr
  split_ifs at hr with hf
  cases hr
  exact ⟨hf, rfl⟩

theorem record_eq_error {h : FaultHistory} {f : Fault} {e : Exn} (hr : h.record f = .error e) :
    f.id ∈ h.ids ∧ e = .invalidArgument "duplicate fault id" := by
  unfold record at hr
  split_ifs at hr with hf
  exact ⟨hf, by cases hr; rfl⟩

theorem hasOpenFatal_iff {h : FaultHistory} :
    h.stats.hasOpenFatal ↔
      ∃ f ∈ h.faults, f.resolution = .open ∧ (f.fatal ∨ f.severity = .fatal) := by
  simp [stats, openFaults]

end FaultHistory
end AcceleratorHealth
