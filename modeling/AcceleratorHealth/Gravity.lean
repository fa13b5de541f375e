import AcceleratorHealth.Quarantine
import AcceleratorHealth.Thresholds
import AcceleratorHealth.Lib.Streak

/-! How grave an assessment is, and what becomes of it when the evidence gets worse. The
rules are tried in turn, so that a failed dimension hides the count behind it; and the count
is the streak of the latest type, so that a fault of another type starts it anew. -/
namespace AcceleratorHealth

/-- HEALTHY < DEGRADED < UNHEALTHY < FAILED and QUARANTINED. -/
def HealthState.gravity : HealthState → Nat
  | .degraded => 1
  | .unhealthy => 2
  | .failed | .quarantined => 3
  | _ => 0

/-- From NOMINAL to DEGRADED to FAILED. -/
def DimensionState.Worsens (before after : DimensionState) : Prop :=
  before = .nominal ∧ (after = .degraded ∨ after = .failed) ∨ before = .degraded ∧ after = .failed

instance (before after : DimensionState) : Decidable (before.Worsens after) :=
  inferInstanceAs (Decidable (_ ∧ (_ ∨ _) ∨ _ ∧ _))

/-- How grave the count by itself is for the policy. -/
def HealthPolicy.countGravity (policy : HealthPolicy) (critical : Bool) (n : Int) : Nat :=
  if critical = true ∧ (policy.quarantineAfterFailures.toNat : Int) ≤ n then 3
  else if (policy.unhealthyAfterFailures.toNat : Int) ≤ n then 2
  else if (policy.degradeAfterFailures.toNat : Int) ≤ n then 1
  else 0

theorem HealthPolicy.countGravity_mono {policy : HealthPolicy} {critical critical' : Bool}
    {n n' : Int} (hcritical : critical = true → critical' = true) (hn : n ≤ n') :
    policy.countGravity critical n ≤ policy.countGravity critical' n' := by
  unfold countGravity
  by_cases hquarantine : critical = true ∧ (policy.quarantineAfterFailures.toNat : Int) ≤ n
  · rw [if_pos hquarantine, if_pos ⟨hcritical hquarantine.1, hquarantine.2.trans hn⟩]
  · rw [if_neg hquarantine]
    split_ifs <;> omega

theorem HealthPolicy.two_lt_countGravity {policy : HealthPolicy} {critical : Bool} {n : Int} :
    2 < policy.countGravity critical n ↔
      critical = true ∧ (policy.quarantineAfterFailures.toNat : Int) ≤ n := by
  unfold countGravity
  split_ifs with hquarantine <;> simp [hquarantine]

theorem HealthPolicy.countGravity_le {policy : HealthPolicy} {critical : Bool} {n : Int} :
    policy.countGravity critical n ≤ 3 := by
  unfold countGravity
  split_ifs <;> omega

/-- A signed count below 2^31. -/
theorem toInt_toInt32 {n : UInt32} (h : n.toNat < 2 ^ 31) : n.toInt32.toInt = n.toNat := by
  rw [toInt_toInt32_eq, if_pos h]

namespace AssessmentInput

/-- The inputs of devices in service: HEALTHY or INITIALIZING on current evidence, under
thresholds in order that a signed count can reach. -/
structure Ordinary (i : AssessmentInput) : Prop where
  current : i.currentState = .healthy ∨ i.currentState = .initializing
  quarantined : i.quarantined = false
  inRecovery : i.inRecovery = false
  fresh : i.freshness = .current
  degrade : i.policy.degradeAfterFailures ≤ i.policy.unhealthyAfterFailures
  unhealthy : i.policy.unhealthyAfterFailures ≤ i.policy.quarantineAfterFailures
  quarantine : i.policy.quarantineAfterFailures.toNat < 2 ^ 31

variable {i : AssessmentInput}

theorem anyFatalDim_scan (i : AssessmentInput) : i.scan.anyFatalDim =
    i.dimensions.values.any fun dim => dim.state = .failed ∧ dim.severity = .fatal := by
  suffices h : ∀ (l : List HealthDimension) (c : DimensionScan), (l.foldl .visit c).anyFatalDim =
      (c.anyFatalDim || l.any fun dim => dim.state = .failed ∧ dim.severity = .fatal) by
    simpa [scan] using h i.dimensions.values {}
  have hvisit : ∀ (c : DimensionScan) (dim : HealthDimension), (c.visit dim).anyFatalDim =
      (c.anyFatalDim || decide (dim.state = .failed ∧ dim.severity = .fatal)) := by
    intro c dim
    unfold DimensionScan.visit DimensionScan.noteWorst
    cases dim.state with
    | degraded =>
      simp only
      split_ifs <;> simp
    | _ => simp
  intro l
  induction l with
  | nil => simp
  | cons dim rest ih => simp [ih, hvisit, Bool.or_assoc]

/-- The rules, as grave as what they ask for. -/
theorem Ordinary.gravity_assess (h : i.Ordinary) : i.assess.state.gravity =
    if i.faultStats.hasOpenFatal || i.scan.anyFatalDim then 3
    else if i.scan.anyFailed then 2
    else i.policy.countGravity i.faultStats.hasOpenCritical i.consecutive.toInt := by
  have hquarantine := h.quarantine
  have hunhealthy : i.policy.unhealthyAfterFailures.toNat < 2 ^ 31 :=
    (UInt32.le_iff_toNat_le.mp h.unhealthy).trans_lt hquarantine
  have hdegrade : i.policy.degradeAfterFailures.toNat < 2 ^ 31 :=
    (UInt32.le_iff_toNat_le.mp h.degrade).trans_lt hunhealthy
  show i.target.gravity = _
  unfold target HealthPolicy.countGravity
  rw [if_neg (by simp [h.inRecovery]), if_neg (by simp [h.quarantined])]
  simp only [Int32.le_iff_toInt_le, toInt_toInt32 hquarantine, toInt_toInt32 hunhealthy,
    toInt_toInt32 hdegrade, h.fresh, FreshnessStatus.isOld]
  split_ifs <;> first | rfl | simp_all

theorem Ordinary.countsToQuarantine_iff (h : i.Ordinary) : i.CountsToQuarantine ↔
    (i.faultStats.hasOpenFatal || i.scan.anyFatalDim) = false ∧ i.scan.anyFailed = false ∧
      2 < i.policy.countGravity i.faultStats.hasOpenCritical i.consecutive.toInt := by
  have hcount : i.policy.quarantineAfterFailures.toInt32 ≤ i.consecutive ↔
      (i.policy.quarantineAfterFailures.toNat : Int) ≤ i.consecutive.toInt := by
    rw [Int32.le_iff_toInt_le, toInt_toInt32 h.quarantine]
  rw [HealthPolicy.two_lt_countGravity, ← hcount]
  constructor
  · rintro ⟨-, -, hfatal, hfailed, hcritical, hreached⟩
    exact ⟨hfatal, hfailed, hcritical, hreached⟩
  · rintro ⟨hfatal, hfailed, hcritical, hreached⟩
    exact ⟨h.inRecovery, h.quarantined, hfatal, hfailed, hcritical, hreached⟩

/-! ### A dimension gets worse -/

def replaceDimension (kind : DimensionKind) (dim : HealthDimension) (i : AssessmentInput) :
    AssessmentInput :=
  { i with dimensions := i.dimensions.insert kind dim }

/-- What a dimension in place of another adds to a search that missed the old one. -/
theorem any_replaceDimension {kind : DimensionKind} {old new : HealthDimension}
    {p : HealthDimension → Bool} (hold : i.dimensions.find? kind = some old)
    (hmiss : p old = false) : (i.replaceDimension kind new).dimensions.values.any p =
      (i.dimensions.values.any p || p new) := by
  rw [Bool.eq_iff_iff, Bool.or_eq_true, List.any_eq_true, List.any_eq_true]
  simp only [OrdMap.mem_values_iff, replaceDimension, OrdMap.find?_insert]
  constructor
  · rintro ⟨dim, ⟨kind', hfind⟩, hp⟩
    split_ifs at hfind with hkind
    · cases hfind
      exact Or.inr hp
    · exact Or.inl ⟨dim, ⟨kind', hfind⟩, hp⟩
  · rintro (⟨dim, ⟨kind', hfind⟩, hp⟩ | hp)
    · refine ⟨dim, ⟨kind', ?_⟩, hp⟩
      rw [if_neg]
      · exact hfind
      · rintro rfl
        cases hold.symm.trans hfind
        rw [hmiss] at hp
        cases hp
    · exact ⟨new, ⟨kind, if_pos rfl⟩, hp⟩

/-- A worse dimension lowers the assessment exactly when it hides the quarantine that the
count asks for. -/
theorem Ordinary.replaceDimension_lt_iff (h : i.Ordinary) {kind : DimensionKind}
    {old new : HealthDimension} (hold : i.dimensions.find? kind = some old)
    (hworse : old.state.Worsens new.state) :
    (i.replaceDimension kind new).assess.state.gravity < i.assess.state.gravity ↔
      i.CountsToQuarantine ∧ new.state = .failed ∧ new.severity ≠ .fatal := by
  have h' : (i.replaceDimension kind new).Ordinary :=
    ⟨h.current, h.quarantined, h.inRecovery, h.fresh, h.degrade, h.unhealthy, h.quarantine⟩
  have hsound : old.state ≠ .failed := by
    rintro heq
    rw [heq] at hworse
    rcases hworse with ⟨hnominal, -⟩ | ⟨hdegraded, -⟩
    · cases hnominal
    · cases hdegraded
  have hfailed : (i.replaceDimension kind new).scan.anyFailed =
      (i.scan.anyFailed || new.state = .failed) := by
    rw [anyFailed_scan, anyFailed_scan, any_replaceDimension hold (by simp [hsound])]
  have hfatal : (i.replaceDimension kind new).scan.anyFatalDim =
      (i.scan.anyFatalDim || decide (new.state = .failed ∧ new.severity = .fatal)) := by
    rw [anyFatalDim_scan, anyFatalDim_scan, any_replaceDimension hold (by simp [hsound])]
  rw [h.gravity_assess, h'.gravity_assess, hfailed, hfatal, h.countsToQuarantine_iff,
    ← Bool.or_assoc]
  simp only [show (i.replaceDimension kind new).faultStats = i.faultStats from rfl,
    show (i.replaceDimension kind new).policy = i.policy from rfl,
    show (i.replaceDimension kind new).consecutive = i.consecutive from rfl]
  have hle : i.policy.countGravity i.faultStats.hasOpenCritical i.consecutive.toInt ≤ 3 :=
    HealthPolicy.countGravity_le
  cases i.faultStats.hasOpenFatal || i.scan.anyFatalDim with
  | true => simp
  | false =>
    cases i.scan.anyFailed with
    | true =>
      simp only [Bool.false_or, Bool.true_or, Bool.false_eq_true, if_false, if_true]
      split_ifs <;> simp
    | false =>
      by_cases hstate : new.state = .failed
      · by_cases hseverity : new.severity = .fatal
        · simpa [hstate, hseverity] using hle
        · simp [hstate, hseverity]
      · simp [hstate]

end AssessmentInput

/-! ### One more fault -/

namespace FaultHistory
variable {h h' : FaultHistory} {f : Fault}

/-- The streak of the latest type. -/
def streak (h : FaultHistory) : Nat := Streak.last Fault.type h.faults

theorem consecutiveLatest_eq : h.stats.consecutiveLatest = UInt32.ofNat h.streak := by
  unfold streak Streak.last
  cases hlast : h.faults.getLast? with
  | none => simp [stats, hlast]
  | some last =>
    simp only [stats, hlast]
    rfl

theorem streak_record_same (hrec : h.record f = .ok h')
    (hsame : ∀ last, h.faults.getLast? = some last → last.type = f.type) :
    h'.streak = h.streak + 1 := by
  unfold streak
  rw [(record_eq_ok hrec).2]
  cases hlast : h.faults.getLast? with
  | none =>
    rw [List.getLast?_eq_none_iff.mp hlast]
    exact Streak.last_append_singleton [] f
  | some last => exact Streak.last_append_same hlast (hsame last hlast)

theorem streak_record_other (hrec : h.record f = .ok h')
    (hother : ∃ last, h.faults.getLast? = some last ∧ last.type ≠ f.type) : h'.streak = 1 := by
  obtain ⟨last, hlast, htype⟩ := hother
  unfold streak
  rw [(record_eq_ok hrec).2]
  exact Streak.last_append_other hlast htype

theorem any_openFaults_record {p : Fault → Bool} (hrec : h.record f = .ok h')
    (hopen : f.resolution = .open) : h'.openFaults.any p = (h.openFaults.any p || p f) := by
  unfold openFaults
  rw [(record_eq_ok hrec).2, List.filter_append, List.any_append]
  simp [hopen]

theorem hasOpenFatal_record (hrec : h.record f = .ok h') (hopen : f.resolution = .open) :
    h'.stats.hasOpenFatal = (h.stats.hasOpenFatal || (f.fatal || f.severity = .fatal)) :=
  any_openFaults_record hrec hopen

theorem hasOpenCritical_record (hrec : h.record f = .ok h') (hopen : f.resolution = .open) :
    h'.stats.hasOpenCritical = (h.stats.hasOpenCritical || .critical ≤ f.severity) :=
  any_openFaults_record hrec hopen

theorem toInt_consecutiveLatest (hshort : h.streak < 2 ^ 31) :
    h.stats.consecutiveLatest.toInt32.toInt = h.streak := by
  have hvalue : (UInt32.ofNat h.streak).toNat = h.streak := by
    apply UInt32.toNat_ofNat_of_lt'
    show h.streak < 2 ^ 32
    omega
  rw [consecutiveLatest_eq, toInt_toInt32 (by omega), hvalue]

end FaultHistory

namespace AssessmentInput
variable {i : AssessmentInput} {h h' : FaultHistory} {f : Fault}

/-- The fault, put on the history `h`, starts a count anew that asked for more, and there is
nothing that ranks above the count. -/
structure RestartsCount (i : AssessmentInput) (h : FaultHistory) (f : Fault) : Prop where
  fatal : (h.stats.hasOpenFatal || i.scan.anyFatalDim) = false
  failed : i.scan.anyFailed = false
  mild : (f.fatal || f.severity = .fatal) = false
  other : ∃ last, h.faults.getLast? = some last ∧ last.type ≠ f.type
  count : i.policy.countGravity (h.stats.hasOpenCritical || .critical ≤ f.severity) 1 <
    i.policy.countGravity h.stats.hasOpenCritical h.streak

/-- One more open fault lowers the assessment exactly when it starts the count anew. -/
theorem Ordinary.record_lt_iff (hi : i.Ordinary) (hstats : i.faultStats = h.stats)
    (hopen : f.resolution = .open) (hrec : h.record f = .ok h') (hshort : h.streak + 1 < 2 ^ 31) :
    { i with faultStats := h'.stats }.assess.state.gravity < i.assess.state.gravity ↔
      i.RestartsCount h f := by
  have hi' : { i with faultStats := h'.stats }.Ordinary :=
    ⟨hi.current, hi.quarantined, hi.inRecovery, hi.fresh, hi.degrade, hi.unhealthy, hi.quarantine⟩
  have hstreak : (∃ last, h.faults.getLast? = some last ∧ last.type ≠ f.type) ∧ h'.streak = 1 ∨
      (¬∃ last, h.faults.getLast? = some last ∧ last.type ≠ f.type) ∧ h'.streak = h.streak + 1 := by
    by_cases hother : ∃ last, h.faults.getLast? = some last ∧ last.type ≠ f.type
    · exact Or.inl ⟨hother, FaultHistory.streak_record_other hrec hother⟩
    · refine Or.inr ⟨hother, FaultHistory.streak_record_same hrec fun last hlast => ?_⟩
      by_contra htype
      exact hother ⟨last, hlast, htype⟩
  have hcount : i.consecutive.toInt = (h.streak : Int) := by
    unfold consecutive
    rw [hstats]
    exact FaultHistory.toInt_consecutiveLatest (by omega)
  have hcount' : { i with faultStats := h'.stats }.consecutive.toInt = (h'.streak : Int) :=
    FaultHistory.toInt_consecutiveLatest (by omega)
  have hfatal := FaultHistory.hasOpenFatal_record hrec hopen
  have hcritical := FaultHistory.hasOpenCritical_record hrec hopen
  have hafter : { i with faultStats := h'.stats }.assess.state.gravity =
      if h.stats.hasOpenFatal || i.scan.anyFatalDim || (f.fatal || f.severity = .fatal) then 3
      else if i.scan.anyFailed then 2
      else i.policy.countGravity (h.stats.hasOpenCritical || .critical ≤ f.severity) h'.streak := by
    rw [hi'.gravity_assess, hcount', hfatal, hcritical, Bool.or_right_comm]
    rfl
  have hbefore : i.assess.state.gravity =
      if h.stats.hasOpenFatal || i.scan.anyFatalDim then 3
      else if i.scan.anyFailed then 2
      else i.policy.countGravity h.stats.hasOpenCritical h.streak := by
    rw [hi.gravity_assess, hcount, hstats]
  rw [hafter, hbefore]
  constructor
  · intro hlt
    cases hnone : h.stats.hasOpenFatal || i.scan.anyFatalDim with
    | true => simp [hnone] at hlt
    | false =>
      cases hmild : f.fatal || f.severity = .fatal with
      | true =>
        have hle : i.policy.countGravity h.stats.hasOpenCritical h.streak ≤ 3 :=
          HealthPolicy.countGravity_le
        simp only [hnone, hmild, Bool.or_true, if_true, Bool.false_eq_true, if_false] at hlt
        split_ifs at hlt <;> omega
      | false =>
        cases hsound : i.scan.anyFailed with
        | true => simp [hnone, hmild, hsound] at hlt
        | false =>
          simp only [hnone, hmild, hsound, Bool.or_false, Bool.false_eq_true, if_false] at hlt
          rcases hstreak with ⟨hother, heq⟩ | ⟨-, heq⟩
          · rw [heq] at hlt
            exact ⟨hnone, hsound, hmild, hother, hlt⟩
          · have hmono : i.policy.countGravity h.stats.hasOpenCritical h.streak ≤
                i.policy.countGravity (h.stats.hasOpenCritical || .critical ≤ f.severity)
                  h'.streak := by
              apply HealthPolicy.countGravity_mono
              · intro hcritical
                rw [hcritical, Bool.true_or]
              · omega
            omega
  · rintro ⟨hnone, hsound, hmild, hother, hlost⟩
    rcases hstreak with ⟨-, heq⟩ | ⟨hsame, -⟩
    · simp only [hnone, hmild, hsound, heq, Bool.or_false, Bool.false_eq_true, if_false]
      exact hlost
    · exact absurd hother hsame

/-- Among ordinary inputs worse evidence lowers the assessment in two cases and in no other: a
failed dimension hides the quarantine that the count asks for, and a fault of another type
than the last starts a count anew that asked for more. -/
theorem worse_evidence_lowers_iff (i : AssessmentInput) (hi : i.Ordinary) :
    (∀ (kind : DimensionKind) (old new : HealthDimension), i.dimensions.find? kind = some old →
      new.kind = old.kind → old.state.Worsens new.state → old.severity ≤ new.severity →
        ((i.replaceDimension kind new).assess.state.gravity < i.assess.state.gravity ↔
          i.CountsToQuarantine ∧ new.state = .failed ∧ new.severity ≠ .fatal)) ∧
    ∀ (h h' : FaultHistory) (f : Fault), i.faultStats = h.stats → f.resolution = .open →
      h.record f = .ok h' → h.streak + 1 < 2 ^ 31 →
        ({ i with faultStats := h'.stats }.assess.state.gravity < i.assess.state.gravity ↔
          i.RestartsCount h f) := by
  constructor
  · intro kind old new hold _ hworse _
    exact hi.replaceDimension_lt_iff hold hworse
  · intro h h' f hstats hopen hrec hshort
    exact hi.record_lt_iff hstats hopen hrec hshort

/-- Four failures in a row, one of them critical, and a nominal dimension. -/
def repeatedCritical : AssessmentInput where
  currentState := .healthy
  now := ⟨1⟩
  lastObservation := ⟨1⟩
  dimensions := OrdMap.empty.insert .temperature { kind := .temperature, state := .nominal }
  faultStats := { hasOpenCritical := true, consecutiveLatest := 4 }

def overheated : HealthDimension :=
  { kind := .temperature, state := .failed, severity := .critical }

/-- Three failed allocations. -/
def threeFailures : FaultHistory where
  faults := [
    { id := ⟨1⟩, type := .allocationFailure }, { id := ⟨2⟩, type := .allocationFailure },
    { id := ⟨3⟩, type := .allocationFailure }]
  ids_nodup := by decide

def failedTransfer : Fault := { id := ⟨4⟩, type := .transferFailure }

/-- The same and a failed transfer. -/
def fourFailures : FaultHistory where
  faults := threeFailures.faults ++ [failedTransfer]
  ids_nodup := by decide

def threeTimesFailed : AssessmentInput where
  currentState := .healthy
  now := ⟨1⟩
  lastObservation := ⟨1⟩
  faultStats := threeFailures.stats

theorem record_failedTransfer : threeFailures.record failedTransfer = .ok fourFailures :=
  dif_neg (by decide)

theorem ordinary_of_default {i : AssessmentInput} (hstate : i.currentState = .healthy)
    (hquarantined : i.quarantined = false) (hrecovery : i.inRecovery = false)
    (hfresh : i.freshness = .current) (hpolicy : i.policy = {}) : i.Ordinary := by
  constructor
  · exact Or.inl hstate
  · exact hquarantined
  · exact hrecovery
  · exact hfresh
  all_goals
    rw [hpolicy]
    decide

theorem worse_evidence_lowers_repeatedCritical :
    ((repeatedCritical.replaceDimension .temperature overheated).assess.state.gravity <
        repeatedCritical.assess.state.gravity ↔ repeatedCritical.CountsToQuarantine ∧
          overheated.state = .failed ∧ overheated.severity ≠ .fatal) ∧
      ({ threeTimesFailed with faultStats := fourFailures.stats }.assess.state.gravity <
        threeTimesFailed.assess.state.gravity ↔
          threeTimesFailed.RestartsCount threeFailures failedTransfer) := by
  constructor
  · exact (worse_evidence_lowers_iff repeatedCritical
      (ordinary_of_default rfl rfl rfl (by decide) rfl)).1 .temperature
        { kind := .temperature, state := .nominal } overheated (by decide) rfl (by decide)
        (by decide)
  · exact (worse_evidence_lowers_iff threeTimesFailed
      (ordinary_of_default rfl rfl rfl (by decide) rfl)).2 threeFailures fourFailures
        failedTransfer rfl rfl record_failedTransfer (by decide)

/-- Neither a worse dimension nor one more fault leaves every assessment as grave. -/
theorem worse_evidence_looks_better :
    (¬∀ (i : AssessmentInput) (kind : DimensionKind) (old new : HealthDimension), i.Ordinary →
      i.dimensions.find? kind = some old → new.kind = old.kind → old.state.Worsens new.state →
        old.severity ≤ new.severity →
          i.assess.state.gravity ≤ (i.replaceDimension kind new).assess.state.gravity) ∧
    ¬∀ (i : AssessmentInput) (h h' : FaultHistory) (f : Fault), i.Ordinary →
      i.faultStats = h.stats → f.resolution = .open → h.record f = .ok h' →
        i.assess.state.gravity ≤ { i with faultStats := h'.stats }.assess.state.gravity := by
  constructor
  · intro hnever
    have hle := hnever repeatedCritical .temperature { kind := .temperature, state := .nominal }
      overheated (ordinary_of_default rfl rfl rfl (by decide) rfl) (by decide) rfl (by decide)
      (by decide)
    have hbefore : repeatedCritical.target = .quarantined := by decide
    have hafter : (repeatedCritical.replaceDimension .temperature overheated).target =
        .unhealthy := by decide
    change repeatedCritical.target.gravity ≤
      (repeatedCritical.replaceDimension .temperature overheated).target.gravity at hle
    rw [hbefore, hafter] at hle
    exact absurd hle (by decide)
  · intro hnever
    have hle := hnever threeTimesFailed threeFailures fourFailures failedTransfer
      (ordinary_of_default rfl rfl rfl (by decide) rfl) rfl rfl record_failedTransfer
    have hbefore : threeTimesFailed.target = .unhealthy := by decide
    have hafter : { threeTimesFailed with faultStats := fourFailures.stats }.target = .healthy := by
      decide
    change threeTimesFailed.target.gravity ≤
      { threeTimesFailed with faultStats := fourFailures.stats }.target.gravity at hle
    rw [hbefore, hafter] at hle
    exact absurd hle (by decide)

end AssessmentInput
end AcceleratorHealth
