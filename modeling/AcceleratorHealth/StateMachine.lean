import AcceleratorHealth.Enums

/-! The named health state machine: only the listed transitions may occur. -/
namespace AcceleratorHealth

def legalTransitions : List (HealthState × HealthState) := [
  (.unknown, .initializing), (.unknown, .offline), (.unknown, .lost), (.unknown, .healthy),
  (.initializing, .healthy), (.initializing, .degraded), (.initializing, .unhealthy),
  (.initializing, .failed), (.initializing, .draining), (.initializing, .quarantined),
  (.initializing, .offline), (.initializing, .lost),
  (.healthy, .degraded), (.healthy, .unhealthy), (.healthy, .failed), (.healthy, .draining),
  (.healthy, .quarantined), (.healthy, .offline), (.healthy, .lost),
  (.degraded, .unhealthy), (.degraded, .failed), (.degraded, .draining),
  (.degraded, .quarantined), (.degraded, .revalidating), (.degraded, .offline),
  (.degraded, .lost),
  (.unhealthy, .draining), (.unhealthy, .failed), (.unhealthy, .quarantined),
  (.unhealthy, .offline), (.unhealthy, .lost),
  (.failed, .quarantined), (.failed, .draining), (.failed, .recovering), (.failed, .offline),
  (.failed, .lost),
  (.draining, .drained), (.draining, .failed), (.draining, .quarantined), (.draining, .offline),
  (.draining, .lost),
  (.drained, .recovering), (.drained, .revalidating), (.drained, .offline), (.drained, .lost),
  (.quarantined, .recovering), (.quarantined, .offline), (.quarantined, .lost),
  (.recovering, .revalidating), (.recovering, .failed), (.recovering, .quarantined),
  (.recovering, .offline), (.recovering, .lost),
  (.revalidating, .healthy), (.revalidating, .degraded), (.revalidating, .unhealthy),
  (.revalidating, .failed), (.revalidating, .quarantined), (.revalidating, .offline),
  (.revalidating, .lost),
  (.offline, .initializing), (.offline, .healthy), (.offline, .lost),
  (.lost, .offline), (.lost, .initializing)]

def canTransition (fromState toState : HealthState) : Bool :=
  legalTransitions.contains (fromState, toState)

/-- Every other state may become LOST. -/
theorem canTransition_lost {s : HealthState} (h : s ≠ .lost) : canTransition s .lost := by
  cases s <;> first | decide | exact absurd rfl h

theorem canTransition_ne {s t : HealthState} (h : canTransition s t) : s ≠ t := by
  rintro rfl
  revert h
  cases s <;> decide

/-- RECOVERING is entered from FAILED, DRAINED and QUARANTINED only. -/
theorem canTransition_recovering {s : HealthState} (h : canTransition s .recovering) :
    s = .failed ∨ s = .drained ∨ s = .quarantined := by
  revert h
  cases s <;> decide

/-- HEALTHY is entered from UNKNOWN, INITIALIZING, REVALIDATING and OFFLINE only. -/
theorem canTransition_healthy {s : HealthState} (h : canTransition s .healthy) :
    s = .unknown ∨ s = .initializing ∨ s = .revalidating ∨ s = .offline := by
  revert h
  cases s <;> decide

end AcceleratorHealth
