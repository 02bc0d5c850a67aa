/-
  What the collector derives from a finished operator record: `BuildDependencyGraph`,
  `EstimateMaintenanceWindow`, `CalculateSecurityRiskScore` and `CalculateHealthScore` of
  remediation.go.

  The health score is computed in `Int`, as in the source, and cut to `[0, 100]` at the end.
  The deductions add up to 95 at most and none is negative, so the cut never changes the
  score (`healthDeductions_le`, `calculateHealthScore_eq`).
-/
import HybridOperator.Collector.Types

namespace HybridOperator.Collector

/-- One node for each owned CRD, then the CSV, then the Subscription. -/
def buildDependencyGraph (op : OperatorInfo) : List TopologyNode :=
  let opNodeID := "sub-" ++ op.name
  let csvNodeID := "csv-" ++ op.installedCSV
  let crdNodes := op.crds.map fun crd =>
    ⟨"crd-" ++ crd.kind, "CRD", crd.kind, toString crd.activeCount ++ " Active CRs", []⟩
  crdNodes ++
    [⟨csvNodeID, "CSV", op.installedCSV, op.phase, crdNodes.map (·.id)⟩,
      ⟨opNodeID, "Subscription", op.name, op.phase, [csvNodeID]⟩]

def estimateMaintenanceWindow (op : OperatorInfo) (workerNodeCount : Nat) : String :=
  if op.canUpgrade = false then "0m (Aligned)"
  else
    let baseDurationMinutes := match op.upgradeType with
      | .major => 5
      | .minor => 3
      | _ => 2
    let crImpactMinutes := (op.activeCRs * 15 + 59) / 60
    let totalMinutes := baseDurationMinutes + crImpactMinutes + workerNodeCount
    "~" ++ toString totalMinutes ++ "m (Est. Downtime)"

def calculateSecurityRiskScore (op : OperatorInfo) : Nat :=
  (if op.upgradeType = .major then 40 else 0) + (if op.crdDiff.hasBreakingImpact then 30 else 0) +
    (if op.exposedRoutes.length > 0 then 15 else 0) + if op.phase = "Failed" then 15 else 0

/-- The deduction for the phase. -/
def phaseDeduction (phase : String) : Int :=
  if phase = "Failed" ∨ phase = "UpgradeFailed" ∨ phase = "InstallPlanFailed" then 40
  else if phase = "Unknown" ∨ phase = "Pending" then 25
  else if phase = "UpgradePending" then 10
  else if phase = "Succeeded" then 0
  else 5

def upgradeDeduction (op : OperatorInfo) : Int :=
  if op.canUpgrade then
    match op.upgradeType with
    | .major => 15
    | .minor => 5
    | _ => 0
  else 0

def exposureDeduction (routes : Nat) : Int :=
  if routes > 2 then 10 else if routes > 0 then 5 else 0

/-- All deductions from a perfect score. -/
def healthDeductions (op : OperatorInfo) : Int :=
  phaseDeduction op.phase + upgradeDeduction op + (if op.crdDiff.hasBreakingImpact then 15 else 0) +
    (if op.isIdle = true ∧ op.activeCRs = 0 then 10 else 0) +
    exposureDeduction op.exposedRoutes.length + if op.ocpBlocker then 5 else 0

def calculateHealthScore (op : OperatorInfo) : Nat :=
  let score := 100 - healthDeductions op
  let score := if score < 0 then 0 else score
  let score := if score > 100 then 100 else score
  score.toNat

/-! ## The range of the scores -/

theorem calculateSecurityRiskScore_le (op : OperatorInfo) :
    calculateSecurityRiskScore op ≤ 100 := by
  unfold calculateSecurityRiskScore
  split_ifs <;> omega

theorem phaseDeduction_bounds (phase : String) :
    0 ≤ phaseDeduction phase ∧ phaseDeduction phase ≤ 40 := by
  unfold phaseDeduction
  split_ifs <;> omega

theorem upgradeDeduction_bounds (op : OperatorInfo) :
    0 ≤ upgradeDeduction op ∧ upgradeDeduction op ≤ 15 := by
  unfold upgradeDeduction
  split
  · cases op.upgradeType <;> decide
  · decide

theorem exposureDeduction_bounds (routes : Nat) :
    0 ≤ exposureDeduction routes ∧ exposureDeduction routes ≤ 10 := by
  unfold exposureDeduction
  split_ifs <;> omega

theorem healthDeductions_le (op : OperatorInfo) :
    0 ≤ healthDeductions op ∧ healthDeductions op ≤ 95 := by
  have hphase := phaseDeduction_bounds op.phase
  have hupgrade := upgradeDeduction_bounds op
  have hroutes := exposureDeduction_bounds op.exposedRoutes.length
  unfold healthDeductions
  split_ifs <;> omega

/-- The cut to `[0, 100]` never changes the score. -/
theorem calculateHealthScore_eq (op : OperatorInfo) :
    (calculateHealthScore op : Int) = 100 - healthDeductions op := by
  have h := healthDeductions_le op
  unfold calculateHealthScore
  dsimp only
  rw [if_neg (by omega), if_neg (by omega), Int.toNat_of_nonneg (by omega)]

end HybridOperator.Collector
