/-
  The records of collector.go, collector_images.go, remediation.go and schema_diff.go.

  A nil slice and an empty one are both `[]`. `UpgradeType` is a string in the source that
  only ever holds the four values below; `UpgradeType.text` gives it back. `nameSpace` is the
  field `Namespace`, which Lean keeps for itself.
-/
import HybridOperator.Collector.Client
import Mathlib.Data.Rat.Defs

namespace HybridOperator.Collector

structure CRDInfo where
  name : String
  kind : String
  version : String
  displayName : String
  description : String
  activeCount : Nat
deriving DecidableEq

structure OperatorComponent where
  kind : String
  name : String
  nameSpace : String
  status : String
deriving DecidableEq

structure CRImpactDetail where
  crName : String
  crNamespace : String
  crdKind : String
  breakingField : String
  reason : String
deriving DecidableEq

/-- Its default is the zero value. -/
structure CRDDiffResult where
  hasBreakingImpact : Bool := false
  removedFields : List String := []
  typeMutations : List String := []
  violatingCRs : List CRImpactDetail := []
deriving DecidableEq

structure TopologyNode where
  id : String
  type : String
  name : String
  status : String
  children : List String
deriving DecidableEq

structure ImageRef where
  image : String
  digest : String
  registry : String
  nameSpace : String
  container : String
  source : String
deriving DecidableEq

structure CVEInfo where
  id : String
  severity : String
  description : String
  fixedVersion : String
  publishedDate : String
  cvss : ℚ
deriving DecidableEq

inductive UpgradeType where
  | none
  | patch
  | minor
  | major
deriving DecidableEq

def UpgradeType.text : UpgradeType → String
  | none => "NONE"
  | patch => "PATCH"
  | minor => "MINOR"
  | major => "MAJOR"

structure OperatorInfo where
  name : String
  package : String
  nameSpace : String
  channel : String
  installedCSV : String
  version : String
  phase : String
  targetVersion : String
  targetCSV : String
  canUpgrade : Bool
  upgradeType : UpgradeType
  crds : List CRDInfo
  ocpBlocker : Bool
  ocpBlockerReason : String
  ocpNextSupported : Bool
  isIdle : Bool
  activeCRs : Nat
  crdDiff : CRDDiffResult
  exposedRoutes : List String
  approvalStrategy : String
  catalogSource : String
  serviceAccounts : List String
  components : List OperatorComponent
  topologyGraph : List TopologyNode
  estDowntime : String
  riskScore : Nat
  healthScore : Nat
  cves : List CVEInfo
  cveCount : Nat
  images : List ImageRef
deriving DecidableEq

structure AnomalyInfo where
  type : String
  severity : String
  resource : String
  nameSpace : String
  description : String
  action : String
deriving DecidableEq

structure OLMHealthStatus where
  installPlanCount : Nat := 0
  installPlanPending : Nat := 0
  installPlanFailed : Nat := 0
  catalogSourceCount : Nat := 0
  catalogSourceReady : Nat := 0
  catalogSourceFailed : Nat := 0
  olmOperatorStatus : String
  catalogOperatorStatus : String
deriving DecidableEq

structure SankeyNode where
  id : String
  label : String
  category : String
deriving DecidableEq

structure SankeyLink where
  source : String
  target : String
  value : Nat
  type : String
  operators : List String
deriving DecidableEq

structure SankeyData where
  nodes : List SankeyNode
  links : List SankeyLink
deriving DecidableEq

structure ClusterGovernanceResponse where
  ocpCurrentVersion : String
  ocpNextVersion : String
  operators : List OperatorInfo
  total : Nat
  anomalies : List AnomalyInfo
  olmHealth : OLMHealthStatus
  upgradeFlow : SankeyData

end HybridOperator.Collector
