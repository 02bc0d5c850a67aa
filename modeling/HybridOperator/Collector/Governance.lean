/-
  `GetClusterGovernance` of collector.go: one sweep over the Subscriptions of a cluster.

  A `Sweep` is everything a sweep reads: the answers of the API server, with a client of its
  own wherever the same call can be made twice, and the orders of the `range` statements.
  `governSubscription` is the body of the loop. Its stages are functions on the record in the
  order of the source: `newOperator` (defaults), `withCSV`, `withPhase`, `withCRs`,
  `withWorkloads`, `withVersion`, `withFailure`, `withManifest`, `withScores`.

  A record takes its CRDs from `csvMap` as a slice, and the counts are written through it. So
  two records with the same CSV share them. The model keeps the CRDs in `csvMap`, a record
  refers to its entry (`OperatorRecord.csvKey`), each round writes the counts into the entry
  (`storeCounts`), and the finished response reads them off the map as the last round left it.

  Proved:
  * `sameCSVs_governSubscription`: a round changes nothing in `csvMap` but counts, whence
    `sameCSVs_run` for the whole sweep.
  * `operator_of_response`: an operator of the response is the record of one round, and only
    the counts of its CRDs can be newer.
-/
import HybridOperator.Collector.Anomalies
import HybridOperator.Collector.CRDImpact
import HybridOperator.Collector.Health
import HybridOperator.Collector.Images
import HybridOperator.Collector.Scores
import HybridOperator.Collector.Semver
import HybridOperator.Collector.UpgradeFlow
import HybridOperator.Lib.Reactive

namespace HybridOperator.Collector

open HybridOperator.Lib

/-- What one sweep reads. The first index is the place of the Subscription, the second that of
    the CRD. `cluster` answers the calls outside the loop, `scanning` those of a round that are
    not about one CRD, `counting` the Lists behind `ActiveCRs`, `diffing` those of
    `AnalyzeCRDBreakingChanges`. -/
structure Sweep where
  cluster : DynClient
  scanning : Nat → DynClient
  counting : Nat → Nat → DynClient
  diffing : Nat → Nat → DynClient
  routeOrder : Nat → RangeOrder String
  imageOrder : Nat → RangeOrder String
  schemaOrder : Nat → Nat → List String → RangeOrder String
  flowOrders : FlowOrders
  fetchOperatorCVEs : Nat → String → String → List CVEInfo × Nat

/-- The sweep in which one client answers every call, with no known CVEs. -/
def Sweep.ofClient (dyn : DynClient) : Sweep where
  cluster := dyn
  scanning := fun _ => dyn
  counting := fun _ _ => dyn
  diffing := fun _ _ => dyn
  routeOrder := fun _ => .asStored
  imageOrder := fun _ => .asStored
  schemaOrder := fun _ _ _ => .asStored
  flowOrders := ⟨.asStored, .asStored, fun _ => .asStored⟩
  fetchOperatorCVEs := fun _ _ _ => ([], 0)

/-! ## Versions of the platform -/

/-- The loop of `strconv.ParseUint`: nothing at a character that is no digit, and the largest
    `uint64` as soon as the digits before that go over it. -/
def parseUint (n : Nat) : List Char → Option Nat
  | [] => some n
  | c :: cs =>
      if c.isDigit then
        let n1 := 10 * n + (c.toNat - '0'.toNat)
        if n1 ≥ 2 ^ 64 then some (2 ^ 64 - 1) else parseUint n1 cs
      else none

/-- `strconv.Atoi` of any string, its error dropped. -/
def atoiSigned (s : String) : Int :=
  match s.toList with
  | '-' :: ds => -(min ((parseUint 0 ds).getD 0) (2 ^ 63) : Nat)
  | '+' :: ds => (min ((parseUint 0 ds).getD 0) (2 ^ 63 - 1) : Nat)
  | ds => (min ((parseUint 0 ds).getD 0) (2 ^ 63 - 1) : Nat)

/-- A range error comes before a syntax error that is further on. -/
example : atoiSigned "99999999999999999999999x" = 2 ^ 63 - 1 ∧ atoiSigned "9x" = 0 := by decide

def ocpCurrentVersion (dyn : DynClient) : String :=
  match dyn.get clusterVersionGVR "" "version" with
  | .error _ => "4.20.16"
  | .ok cv =>
      let desiredVer := (nestedString cv.object ["status", "desired", "version"]).getD ""
      if desiredVer ≠ "" then desiredVer
      else
        let history := (nestedSlice cv.object ["status", "history"]).getD []
        let ver := stringField ((history.head?.bind Json.asMap).getD []) "version"
        if ver ≠ "" then ver else "4.20.16"

def ocpNextVersion (current : String) : String :=
  match GoStrings.split current '.' with
  | major :: minor :: _ =>
      toString (atoiSigned major) ++ "." ++
        toString (Int.bmod (atoiSigned minor + 1) (2 ^ 64)) ++ ".0"
  | _ => "4.21.0"

/-! ## The installed CSVs -/

structure CSVData where
  version : String
  phase : String
  crds : List CRDInfo

abbrev CSVMap := GoMap String CSVData

def ownedCRD (crdMap : JMap) : CRDInfo where
  name := (nestedString crdMap ["name"]).getD ""
  kind := (nestedString crdMap ["kind"]).getD ""
  version := (nestedString crdMap ["version"]).getD ""
  displayName := (nestedString crdMap ["displayName"]).getD ""
  description := (nestedString crdMap ["description"]).getD ""
  activeCount := 0

def csvData (csv : Unstructured) : CSVData where
  version := (nestedString csv.object ["spec", "version"]).getD ""
  phase := (nestedString csv.object ["status", "phase"]).getD ""
  crds := (((ownedEntries csv.object).getD []).filterMap Json.asMap).map ownedCRD

def csvKey (ns name : String) : String := ns ++ "/" ++ name

def buildCSVMap (csvs : List Unstructured) : CSVMap :=
  csvs.foldl (fun csvMap csv =>
    csvMap.insert (csvKey csv.getNamespace csv.getName) (csvData csv)) ∅

/-! ## The stages of a record -/

/-- A string of the Subscription's spec, empty when it is missing. -/
def specString (sub : Unstructured) (k : String) : String :=
  (nestedString sub.object ["spec", k]).getD ""

def packageName (sub : Unstructured) : String :=
  if specString sub "name" ≠ "" then specString sub "name"
  else if specString sub "packageName" ≠ "" then specString sub "packageName"
  else if specString sub "package" ≠ "" then specString sub "package"
  else sub.getName

def installedCSV (sub : Unstructured) : String :=
  let installed := (nestedString sub.object ["status", "installedCSV"]).getD ""
  if installed = "" then specString sub "startingCSV" else installed

/-- The record with the source's defaults. The fields it leaves out are zero values. -/
def newOperator (sub : Unstructured) : OperatorInfo where
  name := sub.getName
  package := packageName sub
  nameSpace := sub.getNamespace
  channel := specString sub "channel"
  installedCSV := installedCSV sub
  version := ""
  phase := "Unknown"
  targetVersion := "0.0.0"
  targetCSV := installedCSV sub
  canUpgrade := false
  upgradeType := .none
  crds := []
  ocpBlocker := false
  ocpBlockerReason := "None"
  ocpNextSupported := true
  isIdle := false
  activeCRs := 0
  crdDiff := {}
  exposedRoutes := []
  approvalStrategy :=
    let approvalStrategy := specString sub "installPlanApproval"
    if approvalStrategy = "" then "Automatic" else approvalStrategy
  catalogSource :=
    let catalogSource := specString sub "source"
    if catalogSource = "" then "redhat-operators" else catalogSource
  serviceAccounts := []
  components := []
  topologyGraph := []
  estDowntime := "0m"
  riskScore := 0
  healthScore := 0
  cves := []
  cveCount := 0
  images := []

/-- The key of the Subscription's entry in `csvMap`, when it has one. -/
def csvRef (csvMap : CSVMap) (sub : Unstructured) : Option String :=
  let key := csvKey sub.getNamespace (installedCSV sub)
  if installedCSV sub ≠ "" ∧ key ∈ csvMap then some key else none

def csvEntry (csvMap : CSVMap) (sub : Unstructured) : Option CSVData :=
  (csvRef csvMap sub).bind csvMap.lookup

def withCSV (entry : Option CSVData) (op : OperatorInfo) : OperatorInfo :=
  match entry with
  | none => op
  | some csv => { op with version := csv.version, phase := csv.phase, crds := csv.crds }

def resolvePhase (phase subState : String) : String :=
  if phase = "Unknown" ∨ phase = "" then
    let phase := if subState ≠ "" then subState else phase
    if phase = "UpgradeFailed" ∨ phase = "InstallPlanFailed" ∨ phase = "Unknown" then "Failed"
    else phase
  else phase

def withPhase (sub : Unstructured) (op : OperatorInfo) : OperatorInfo :=
  { op with
      phase := resolvePhase op.phase ((nestedString sub.object ["status", "state"]).getD "") }

/-- The instances of a CRD: none when its name does not split or the List fails. -/
def listCRs (dyn : DynClient) (crd : CRDInfo) : Option (List Unstructured) :=
  (gvrOf crd).bind fun gvr => (dyn.list gvr "" "").toOption

/-- The variables of the loop over the owned CRDs. -/
structure CRTally where
  crds : List CRDInfo
  activeCRs : Nat
  crNamespaces : GoMap String Bool

def addNamespace (crNamespaces : GoMap String Bool) (cr : Unstructured) : GoMap String Bool :=
  if cr.getNamespace ≠ "" then crNamespaces.insert cr.getNamespace true else crNamespaces

/-- One round of the loop over the owned CRDs; `crd` still has the count it came with. -/
def countCRD (dyn : Nat → DynClient) (tally : CRTally) (input : CRDInfo × Nat) : CRTally :=
  match listCRs (dyn input.2) input.1 with
  | none => { tally with crds := tally.crds ++ [input.1] }
  | some crs =>
      { crds := tally.crds ++ [{ input.1 with activeCount := crs.length }]
        activeCRs := tally.activeCRs + crs.length
        crNamespaces := crs.foldl addNamespace tally.crNamespaces }

def countCRs (dyn : Nat → DynClient) (op : OperatorInfo) : CRTally :=
  op.crds.zipIdx.foldl (countCRD dyn) ⟨[], 0, AList.insert op.nameSpace true ∅⟩

def withCRs (tally : CRTally) (op : OperatorInfo) : OperatorInfo :=
  { op with
      crds := tally.crds
      activeCRs := tally.activeCRs
      isIdle := tally.crds.length > 0 ∧ tally.activeCRs = 0 }

/-- The variables of the route scan. -/
structure RouteScan where
  routeHosts : GoMap String Bool := ∅
  exposedRoutes : List String := []
  components : List OperatorComponent := []

def addRoute (scan : RouteScan) (r : Unstructured) : RouteScan :=
  let host := (nestedString r.object ["spec", "host"]).getD ""
  if host ≠ "" ∧ scan.routeHosts.get host false = false then
    { routeHosts := scan.routeHosts.insert host true
      exposedRoutes := scan.exposedRoutes ++ [host ++ " (ns: " ++ r.getNamespace ++ ")"]
      components := scan.components ++ [⟨"Route", r.getName, r.getNamespace, "Host: " ++ host⟩] }
  else scan

def scanRoutes (dyn : DynClient) (order : RangeOrder String) (crNamespaces : GoMap String Bool) :
    RouteScan :=
  (crNamespaces.range order).foldl (fun scan ns =>
    match dyn.list routeGVR ns "" with
    | .error _ => scan
    | .ok routes => routes.foldl addRoute scan) {}

def listOrEmpty (dyn : DynClient) (gvr : GroupVersionResource) (ns : String) :
    List Unstructured := ((dyn.list gvr ns "").toOption).getD []

def deploymentStatus (dep : Unstructured) : String :=
  toString ((nestedInt64 dep.object ["status", "availableReplicas"]).getD 0) ++ "/" ++
    toString ((nestedInt64 dep.object ["status", "replicas"]).getD 0) ++ " Replicas Available"

/-- Routes, service accounts, deployments and images. -/
def withWorkloads (dyn : DynClient) (routeOrder imageOrder : RangeOrder String)
    (crNamespaces : GoMap String Bool) (op : OperatorInfo) : OperatorInfo :=
  let routes := scanRoutes dyn routeOrder crNamespaces
  let sas := listOrEmpty dyn serviceAccountGVR op.nameSpace
  let deps := listOrEmpty dyn deploymentGVR op.nameSpace
  { op with
      exposedRoutes := routes.exposedRoutes
      serviceAccounts := sas.map (·.getName)
      components := routes.components ++
        sas.map (fun sa => ⟨"ServiceAccount", sa.getName, op.nameSpace, "Active"⟩) ++
        deps.map fun dep => ⟨"Deployment", dep.getName, op.nameSpace, deploymentStatus dep⟩
      images := collectImages dyn imageOrder op.nameSpace crNamespaces }

def withVersion (op : OperatorInfo) : OperatorInfo :=
  let version :=
    if op.version = "" then sprintfSemver (parseSemver op.installedCSV) else op.version
  { op with version := version, targetVersion := version }

def withFailure (op : OperatorInfo) : OperatorInfo :=
  if op.phase = "Failed" then
    { op with
        ocpBlocker := true
        ocpNextSupported := false
        ocpBlockerReason := "Operator in Failed state blocks OCP payload reconciliation" }
  else op

def findPackageManifest (dyn : DynClient) (ns packageName : String) : Option Unstructured :=
  match dyn.get packageManifestGVR ns packageName with
  | .ok pm => some pm
  | .error _ => (listOrEmpty dyn packageManifestGVR "").find? (·.getName = packageName)

/-- The first channel of the manifest with that name. -/
def channelEntry (pm : Unstructured) (channel : String) : Option JMap :=
  (nestedMaps pm.object ["status", "channels"]).find? fun chMap =>
    (nestedString chMap ["name"]).getD "" = channel

/-- The entry of the manifest that the loop over the channels stops at, if it does. -/
def manifestChannel (dyn : DynClient) (op : OperatorInfo) : Option JMap :=
  if op.package ≠ "" then
    (findPackageManifest dyn op.nameSpace op.package).bind (channelEntry · op.channel)
  else none

def majorReason (op : OperatorInfo) (targetVersion ocpNext : String) : String :=
  "Pending MAJOR operator upgrade (" ++ op.version ++ " -> " ++ targetVersion ++
    ") may introduce schema breaking changes on OCP " ++ ocpNext

/-- `currentCSVDesc.name` of a channel. -/
def targetCSVName (chMap : JMap) : String :=
  (nestedString chMap ["currentCSVDesc", "name"]).getD ""

def targetRawVer (chMap : JMap) : String :=
  let rawVer := (nestedString chMap ["currentCSVDesc", "version"]).getD ""
  if rawVer = "" then targetCSVName chMap else rawVer

/-- The upgrade that the entry of the channel offers. -/
def withChannel (dyn : Nat → DynClient) (order : Nat → List String → RangeOrder String)
    (ocpNext : String) (op : OperatorInfo) (chMap : JMap) : OperatorInfo :=
  let currVer := parseSemver op.version
  let targVer := parseSemver (targetRawVer chMap)
  let op := { op with targetCSV := targetCSVName chMap, targetVersion := sprintfSemver targVer }
  if isVersionGreater targVer currVer then
    if targVer.major > currVer.major then
      { op with
          canUpgrade := true
          upgradeType := .major
          ocpBlocker := true
          ocpBlockerReason := majorReason op op.targetVersion ocpNext
          crdDiff := analyzeCRDBreakingChanges dyn order op.nameSpace op.crds
            (nestedMap chMap ["currentCSVDesc"]) }
    else if targVer.minor > currVer.minor then
      { op with canUpgrade := true, upgradeType := .minor }
    else { op with canUpgrade := true, upgradeType := .patch }
  else op

def withManifest (sweep : Sweep) (i : Nat) (op : OperatorInfo) : OperatorInfo :=
  match manifestChannel (sweep.scanning i) op with
  | none => op
  | some chMap =>
      withChannel (sweep.diffing i) (sweep.schemaOrder i)
        (ocpNextVersion (ocpCurrentVersion sweep.cluster)) op chMap

def withScores (sweep : Sweep) (i : Nat) (op : OperatorInfo) : OperatorInfo :=
  let cves := sweep.fetchOperatorCVEs i op.package op.version
  { op with
      topologyGraph := buildDependencyGraph op
      estDowntime := estimateMaintenanceWindow op 3
      riskScore := calculateSecurityRiskScore op
      healthScore := calculateHealthScore op
      cves := cves.1
      cveCount := cves.2 }

/-! ## The sweep -/

/-- An element of `results`, with the entry of `csvMap` its CRDs are a slice of. -/
structure OperatorRecord where
  op : OperatorInfo
  csvKey : Option String

/-- The counts are written into the entry that the record's CRDs come from. -/
def storeCounts (csvMap : CSVMap) (key : Option String) (crds : List CRDInfo) : CSVMap :=
  match key with
  | none => csvMap
  | some k =>
      match csvMap.lookup k with
      | none => csvMap
      | some csv => csvMap.insert k { csv with crds := crds }

/-- The record before the instances are counted. -/
def installedOperator (csvMap : CSVMap) (sub : Unstructured) : OperatorInfo :=
  withPhase sub (withCSV (csvEntry csvMap sub) (newOperator sub))

/-- The record before the upgrade is looked at. -/
def baseOperator (sweep : Sweep) (csvMap : CSVMap) (sub : Unstructured) (i : Nat) :
    OperatorInfo :=
  let op := installedOperator csvMap sub
  let tally := countCRs (sweep.counting i) op
  withFailure <| withVersion <|
    withWorkloads (sweep.scanning i) (sweep.routeOrder i) (sweep.imageOrder i)
      tally.crNamespaces (withCRs tally op)

/-- The body of the loop over the Subscriptions. -/
def governSubscription (sweep : Sweep) (csvMap : CSVMap) (input : Unstructured × Nat) :
    CSVMap × OperatorRecord :=
  let (sub, i) := input
  let op := baseOperator sweep csvMap sub i
  let key := csvRef csvMap sub
  (storeCounts csvMap key op.crds, ⟨withScores sweep i (withManifest sweep i op), key⟩)

def OperatorInfo.setCRDs (op : OperatorInfo) (crds : List CRDInfo) : OperatorInfo :=
  { op with crds := crds }

/-- The record as the finished response shows it: its CRDs as they are in `csvMap` now. -/
def OperatorRecord.finish (csvMap : CSVMap) (record : OperatorRecord) : OperatorInfo :=
  match record.csvKey.bind csvMap.lookup with
  | none => record.op
  | some csv => record.op.setCRDs csv.crds

/-- `csvMap` as it is before the loop: empty when the CSVs could not be listed. -/
def listedCSVs (sweep : Sweep) : CSVMap :=
  buildCSVMap (((sweep.cluster.list csvGVR "" "").toOption).getD [])

/-- The loop over the Subscriptions: `csvMap` after it, and `results`. -/
def governSubscriptions (sweep : Sweep) (subs : List Unstructured) :
    CSVMap × List OperatorRecord :=
  Reactive.run (governSubscription sweep) (listedCSVs sweep) subs.zipIdx

def getClusterGovernance (sweep : Sweep) : Except String ClusterGovernanceResponse :=
  match sweep.cluster.list subscriptionGVR "" "" with
  | .error err => .error ("failed to list subscriptions: " ++ err)
  | .ok subs =>
      let csvs := (sweep.cluster.list csvGVR "" "").toOption
      let ips := (sweep.cluster.list installPlanGVR "" "").toOption
      let catsrcs := (sweep.cluster.list catalogSourceGVR "" "").toOption
      let swept := governSubscriptions sweep subs
      let operators := swept.2.map (·.finish swept.1)
      .ok
        { ocpCurrentVersion := ocpCurrentVersion sweep.cluster
          ocpNextVersion := ocpNextVersion (ocpCurrentVersion sweep.cluster)
          operators := operators
          total := operators.length
          anomalies := detectAnomalies (some subs) ips csvs catsrcs
          olmHealth := collectOLMHealthStatus sweep.cluster ips catsrcs
          upgradeFlow := buildUpgradeFlowData sweep.flowOrders operators }

/-! ## Counting the instances -/

/-- A CRD after its round: with the number of instances that its List gave, if it gave any. -/
def counted (dyn : Nat → DynClient) (input : CRDInfo × Nat) : CRDInfo :=
  match listCRs (dyn input.2) input.1 with
  | none => input.1
  | some crs => { input.1 with activeCount := crs.length }

/-- What one CRD adds to `ActiveCRs`. -/
def instances (dyn : Nat → DynClient) (input : CRDInfo × Nat) : Nat :=
  ((listCRs (dyn input.2) input.1).getD []).length

theorem foldl_countCRD (dyn : Nat → DynClient) (inputs : List (CRDInfo × Nat)) (t : CRTally) :
    (inputs.foldl (countCRD dyn) t).crds = t.crds ++ inputs.map (counted dyn) ∧
      (inputs.foldl (countCRD dyn) t).activeCRs =
        t.activeCRs + (inputs.map (instances dyn)).sum := by
  induction inputs generalizing t with
  | nil => simp
  | cons input inputs ih =>
    obtain ⟨hcrds, hactive⟩ := ih (countCRD dyn t input)
    have hone : (countCRD dyn t input).crds = t.crds ++ [counted dyn input] ∧
        (countCRD dyn t input).activeCRs = t.activeCRs + instances dyn input := by
      unfold countCRD counted instances
      cases listCRs (dyn input.2) input.1 with
      | none => exact ⟨rfl, rfl⟩
      | some crs => exact ⟨rfl, rfl⟩
    rw [List.foldl_cons, hcrds, hactive, hone.1, hone.2, List.map_cons, List.map_cons,
      List.sum_cons, List.append_assoc, Nat.add_assoc]
    exact ⟨rfl, rfl⟩

/-- The instances that the Lists of the owned CRDs give, CRD by CRD. -/
def listings (dyn : Nat → DynClient) (crds : List CRDInfo) : List (List Unstructured) :=
  crds.zipIdx.map fun input => (listCRs (dyn input.2) input.1).getD []

theorem foldl_countCRD_crNamespaces (dyn : Nat → DynClient) (inputs : List (CRDInfo × Nat))
    (t : CRTally) :
    (inputs.foldl (countCRD dyn) t).crNamespaces =
      (inputs.flatMap fun input => (listCRs (dyn input.2) input.1).getD []).foldl addNamespace
        t.crNamespaces := by
  induction inputs generalizing t with
  | nil => rfl
  | cons input inputs ih =>
    have hone : (countCRD dyn t input).crNamespaces =
        ((listCRs (dyn input.2) input.1).getD []).foldl addNamespace t.crNamespaces := by
      unfold countCRD
      cases listCRs (dyn input.2) input.1 with
      | none => rfl
      | some crs => rfl
    rw [List.foldl_cons, ih, hone, List.flatMap_cons, List.foldl_append]

theorem countCRs_crNamespaces (dyn : Nat → DynClient) (op : OperatorInfo) :
    (countCRs dyn op).crNamespaces =
      (listings dyn op.crds).flatten.foldl addNamespace (AList.insert op.nameSpace true ∅) := by
  rw [countCRs, foldl_countCRD_crNamespaces, listings, List.flatMap_def]

theorem countCRs_crds (dyn : Nat → DynClient) (op : OperatorInfo) :
    (countCRs dyn op).crds = op.crds.zipIdx.map (counted dyn) :=
  (foldl_countCRD dyn op.crds.zipIdx _).1

theorem countCRs_activeCRs (dyn : Nat → DynClient) (op : OperatorInfo) :
    (countCRs dyn op).activeCRs = (op.crds.zipIdx.map (instances dyn)).sum := by
  rw [countCRs, (foldl_countCRD dyn op.crds.zipIdx _).2, Nat.zero_add]

/-! ## What a CSV declares -/

/-- A CRD without its count: what the CSV says about it. -/
def CRDInfo.declared (crd : CRDInfo) : CRDInfo := { crd with activeCount := 0 }

def CSVData.declared (csv : CSVData) : CSVData :=
  { csv with crds := csv.crds.map CRDInfo.declared }

theorem declared_counted (dyn : Nat → DynClient) (input : CRDInfo × Nat) :
    (counted dyn input).declared = input.1.declared := by
  unfold counted
  split <;> rfl

theorem map_declared_countCRs (dyn : Nat → DynClient) (op : OperatorInfo) :
    (countCRs dyn op).crds.map CRDInfo.declared = op.crds.map CRDInfo.declared := by
  rw [countCRs_crds, List.map_map]
  have hfst : op.crds.map CRDInfo.declared =
      op.crds.zipIdx.map (CRDInfo.declared ∘ Prod.fst) := by
    rw [← List.map_map, List.zipIdx_map_fst]
  rw [hfst]
  exact List.map_congr_left fun input _ => declared_counted dyn input

/-- Lists of CRDs that declare the same have the same CRD at each place, counts aside. -/
theorem getElem?_of_map_declared {crds crds' : List CRDInfo}
    (h : crds.map CRDInfo.declared = crds'.map CRDInfo.declared) {j : Nat} {crd : CRDInfo}
    (hj : crds[j]? = some crd) : ∃ crd', crds'[j]? = some crd' ∧ crd'.declared = crd.declared := by
  have hmap := congrArg (fun l => l[j]?) h
  simp only [List.getElem?_map, hj, Option.map_some] at hmap
  exact Option.map_eq_some_iff.mp hmap.symm

theorem fields_of_declared {crd crd' : CRDInfo} (h : crd.declared = crd'.declared) :
    crd.name = crd'.name ∧ crd.kind = crd'.kind ∧ crd.version = crd'.version := by
  have hfields := congrArg (fun c : CRDInfo => (c.name, c.kind, c.version)) h
  simpa [CRDInfo.declared] using hfields

theorem gvrOf_eq_of_declared {crd crd' : CRDInfo} (h : crd.declared = crd'.declared) :
    gvrOf crd = gvrOf crd' := by
  obtain ⟨hname, -, hversion⟩ := fields_of_declared h
  rw [gvrOf, gvrOf, hname, hversion]

theorem listCRs_eq_of_declared (dyn : DynClient) {crd crd' : CRDInfo}
    (h : crd.declared = crd'.declared) : listCRs dyn crd = listCRs dyn crd' := by
  rw [listCRs, listCRs, gvrOf_eq_of_declared h]

/-- CRDs that declare the same have the same instances. -/
theorem listings_congr {crds crds' : List CRDInfo} (dyn : Nat → DynClient)
    (h : crds.map CRDInfo.declared = crds'.map CRDInfo.declared) :
    listings dyn crds = listings dyn crds' := by
  have hdeclared : ∀ crds : List CRDInfo,
      listings dyn crds = listings dyn (crds.map CRDInfo.declared) := by
    intro crds
    rw [listings, listings, List.zipIdx_map, List.map_map]
    refine List.map_congr_left fun input _ => ?_
    have hlist : listCRs (dyn input.2) input.1 = listCRs (dyn input.2) input.1.declared :=
      listCRs_eq_of_declared _ rfl
    exact congrArg (·.getD []) hlist
  rw [hdeclared crds, hdeclared crds', h]

/-! ## The stages and the fields they leave alone -/

section Frame

variable (sweep : Sweep) (i : Nat) (op : OperatorInfo)

/-- A field that the failure stage does not write. -/
theorem withFailure_keeps {α : Type} (field : OperatorInfo → α)
    (hfield : ∀ (op : OperatorInfo) blocker supported reason,
      field { op with
        ocpBlocker := blocker, ocpNextSupported := supported, ocpBlockerReason := reason } =
      field op) : field (withFailure op) = field op := by
  unfold withFailure
  split
  · exact hfield op _ _ _
  · rfl

@[simp] theorem withFailure_crds : (withFailure op).crds = op.crds :=
  withFailure_keeps op (·.crds) fun _ _ _ _ => rfl

@[simp] theorem withFailure_isIdle : (withFailure op).isIdle = op.isIdle :=
  withFailure_keeps op (·.isIdle) fun _ _ _ _ => rfl

/-- The stage either leaves the record or is the one round over the channels that matters. -/
theorem withManifest_cases :
    withManifest sweep i op = op ∨ ∃ chMap, manifestChannel (sweep.scanning i) op = some chMap ∧
      withManifest sweep i op = withChannel (sweep.diffing i) (sweep.schemaOrder i)
        (ocpNextVersion (ocpCurrentVersion sweep.cluster)) op chMap := by
  unfold withManifest
  split
  · exact Or.inl rfl
  · rename_i chMap hch
    exact Or.inr ⟨chMap, hch, rfl⟩

/-- A field that looking up the upgrade does not write. -/
theorem withManifest_keeps {α : Type} (field : OperatorInfo → α)
    (hfield : ∀ (op : OperatorInfo) csv version upgrade type blocker reason diff,
      field { op with
        targetCSV := csv, targetVersion := version, canUpgrade := upgrade, upgradeType := type,
        ocpBlocker := blocker, ocpBlockerReason := reason, crdDiff := diff } = field op) :
    field (withManifest sweep i op) = field op := by
  rcases withManifest_cases sweep i op with h | ⟨chMap, -, h⟩
  · rw [h]
  · rw [h]
    unfold withChannel
    dsimp only
    split_ifs
    · exact hfield op _ _ _ _ _ _ _
    · exact hfield op _ _ _ _ op.ocpBlocker op.ocpBlockerReason op.crdDiff
    · exact hfield op _ _ _ _ op.ocpBlocker op.ocpBlockerReason op.crdDiff
    · exact hfield op _ _ op.canUpgrade op.upgradeType op.ocpBlocker op.ocpBlockerReason op.crdDiff

/-- Looking up the upgrade changes none of the fields collected before. -/
theorem withManifest_frame :
    (withManifest sweep i op).crds = op.crds ∧ (withManifest sweep i op).isIdle = op.isIdle ∧
      (withManifest sweep i op).nameSpace = op.nameSpace ∧
      (withManifest sweep i op).package = op.package ∧
      (withManifest sweep i op).channel = op.channel := by
  have hframe := withManifest_keeps sweep i op
    (fun op => (op.crds, op.isIdle, op.nameSpace, op.package, op.channel))
    fun _ _ _ _ _ _ _ _ => rfl
  simpa only [Prod.mk.injEq] using hframe

end Frame

/-! ## The CSVs over a sweep -/

/-- The maps have the same entries, counts aside. -/
def SameCSVs (m m' : CSVMap) : Prop :=
  ∀ k, (m.lookup k).map CSVData.declared = (m'.lookup k).map CSVData.declared

theorem SameCSVs.refl (m : CSVMap) : SameCSVs m m := fun _ => rfl

theorem SameCSVs.symm {m m' : CSVMap} (h : SameCSVs m m') : SameCSVs m' m :=
  fun k => (h k).symm

theorem SameCSVs.trans {m₁ m₂ m₃ : CSVMap} (h : SameCSVs m₁ m₂) (h' : SameCSVs m₂ m₃) :
    SameCSVs m₁ m₃ := fun k => (h k).trans (h' k)

theorem sameCSVs_storeCounts {csvMap : CSVMap} {key : Option String} {crds : List CRDInfo}
    (h : ∀ k csv, key = some k → csvMap.lookup k = some csv →
      crds.map CRDInfo.declared = csv.crds.map CRDInfo.declared) :
    SameCSVs csvMap (storeCounts csvMap key crds) := by
  intro k'
  unfold storeCounts
  cases key with
  | none => rfl
  | some k =>
    cases hk : csvMap.lookup k with
    | none => simp only [hk]
    | some csv =>
      simp only [hk]
      by_cases hkk : k' = k
      · have hdecl := h k csv rfl hk
        rw [hkk, hk, AList.lookup_insert]
        simp only [Option.map_some, CSVData.declared, hdecl]
      · rw [AList.lookup_insert_ne hkk]

theorem installedOperator_crds (csvMap : CSVMap) (sub : Unstructured) :
    (installedOperator csvMap sub).crds = ((csvEntry csvMap sub).map (·.crds)).getD [] := by
  unfold installedOperator
  cases csvEntry csvMap sub <;> rfl

theorem baseOperator_crds (sweep : Sweep) (csvMap : CSVMap) (sub : Unstructured) (i : Nat) :
    (baseOperator sweep csvMap sub i).crds =
      (countCRs (sweep.counting i) (installedOperator csvMap sub)).crds := by
  unfold baseOperator
  dsimp only
  rw [withFailure_crds]
  rfl

/-- The CRDs of a record before the upgrade is looked at: those of its CSV, with counts. -/
theorem declared_baseOperator_crds (sweep : Sweep) (csvMap : CSVMap) (sub : Unstructured)
    (i : Nat) :
    (baseOperator sweep csvMap sub i).crds.map CRDInfo.declared =
      (installedOperator csvMap sub).crds.map CRDInfo.declared := by
  rw [baseOperator_crds, map_declared_countCRs]

theorem sameCSVs_governSubscription (sweep : Sweep) (csvMap : CSVMap)
    (input : Unstructured × Nat) :
    SameCSVs csvMap (governSubscription sweep csvMap input).1 := by
  obtain ⟨sub, i⟩ := input
  refine sameCSVs_storeCounts fun k csv hkey hk => ?_
  rw [declared_baseOperator_crds, installedOperator_crds, csvEntry, hkey, Option.bind_some, hk]
  rfl

theorem sameCSVs_run (sweep : Sweep) (csvMap : CSVMap) (inputs : List (Unstructured × Nat)) :
    SameCSVs csvMap (Reactive.run (governSubscription sweep) csvMap inputs).1 := by
  refine Reactive.run_induction (R := fun _ m => SameCSVs csvMap m) (P := fun _ => True) _
    (SameCSVs.refl csvMap) ?_ inputs fun _ _ => trivial
  intro past m input hm _
  exact hm.trans (sameCSVs_governSubscription sweep m input)

/-! ## The operators of a response -/

/-- The record that the round for the Subscription at place `i` appends to `results`. -/
def roundRecord (sweep : Sweep) (csvMap : CSVMap) (sub : Unstructured) (i : Nat) : OperatorInfo :=
  withScores sweep i (withManifest sweep i (baseOperator sweep csvMap sub i))

theorem withScores_crds (sweep : Sweep) (i : Nat) (op : OperatorInfo) :
    (withScores sweep i op).crds = op.crds := rfl

theorem roundRecord_crds (sweep : Sweep) (csvMap : CSVMap) (sub : Unstructured) (i : Nat) :
    (roundRecord sweep csvMap sub i).crds = (baseOperator sweep csvMap sub i).crds := by
  rw [roundRecord, withScores_crds, (withManifest_frame sweep i _).1]

theorem finish_eq (csvMap : CSVMap) (record : OperatorRecord) :
    record.finish csvMap = record.op.setCRDs (record.finish csvMap).crds := by
  unfold OperatorRecord.finish
  cases record.csvKey.bind csvMap.lookup <;> rfl

/-- A record whose CRDs are declared by its entry still has them when it is finished. -/
theorem declared_finish {m last : CSVMap} (hsame : SameCSVs m last) {record : OperatorRecord}
    (hcrds : ∀ k csv, record.csvKey = some k → m.lookup k = some csv →
      record.op.crds.map CRDInfo.declared = csv.crds.map CRDInfo.declared) :
    (record.finish last).crds.map CRDInfo.declared = record.op.crds.map CRDInfo.declared := by
  unfold OperatorRecord.finish
  cases hentry : record.csvKey.bind last.lookup with
  | none => rfl
  | some csv =>
    obtain ⟨k, hk, hlookup⟩ := Option.bind_eq_some_iff.mp hentry
    have hdecl := hsame k
    rw [hlookup] at hdecl
    obtain ⟨csv₀, hcsv₀, heq⟩ := Option.map_eq_some_iff.mp hdecl
    rw [hcrds k csv₀ hk hcsv₀]
    exact (congrArg CSVData.crds heq).symm

theorem operators_of_ok {sweep : Sweep} {resp : ClusterGovernanceResponse}
    (hresp : getClusterGovernance sweep = .ok resp) :
    ∃ subs, sweep.cluster.list subscriptionGVR "" "" = .ok subs ∧
      resp.operators = (governSubscriptions sweep subs).2.map
        (·.finish (governSubscriptions sweep subs).1) := by
  unfold getClusterGovernance at hresp
  cases hsubs : sweep.cluster.list subscriptionGVR "" "" with
  | error err =>
    rw [hsubs] at hresp
    cases hresp
  | ok subs =>
    rw [hsubs] at hresp
    obtain rfl := Except.ok.inj hresp
    exact ⟨subs, rfl, rfl⟩

/-- An operator of the response is the record that its round appended, finished with the map as
    it is after all rounds. -/
theorem round_of_response {sweep : Sweep} {resp : ClusterGovernanceResponse}
    (hresp : getClusterGovernance sweep = .ok resp) {i : Nat} {op : OperatorInfo}
    (hop : resp.operators[i]? = some op) :
    ∃ subs sub csvMap, sweep.cluster.list subscriptionGVR "" "" = .ok subs ∧
      subs[i]? = some sub ∧ SameCSVs (listedCSVs sweep) csvMap ∧
      op = (governSubscription sweep csvMap (sub, i)).2.finish
        (Reactive.run (governSubscription sweep) (listedCSVs sweep) subs.zipIdx).1 := by
  obtain ⟨subs, hsubs, hops⟩ := operators_of_ok hresp
  rw [hops, governSubscriptions, List.getElem?_map, Reactive.output_getElem?,
    List.getElem?_zipIdx] at hop
  cases hsub : subs[i]? with
  | none =>
    rw [hsub] at hop
    cases hop
  | some sub =>
    rw [hsub, Nat.zero_add] at hop
    exact ⟨subs, sub, _, hsubs, hsub, sameCSVs_run sweep (listedCSVs sweep) (subs.zipIdx.take i),
      (Option.some.inj hop).symm⟩

/-- An operator of the response is the record of its round; only the counts of its CRDs may
    have changed since, by the rounds of Subscriptions with the same CSV. -/
theorem operator_of_response {sweep : Sweep} {resp : ClusterGovernanceResponse}
    (hresp : getClusterGovernance sweep = .ok resp) {i : Nat} {op : OperatorInfo}
    (hop : resp.operators[i]? = some op) :
    ∃ csvMap sub, op = (roundRecord sweep csvMap sub i).setCRDs op.crds ∧
      op.crds.map CRDInfo.declared =
        (roundRecord sweep csvMap sub i).crds.map CRDInfo.declared := by
  obtain ⟨subs, sub, m, -, -, hm, hfinish⟩ := round_of_response hresp hop
  have hsame := hm.symm.trans (sameCSVs_run sweep (listedCSVs sweep) subs.zipIdx)
  rw [hfinish]
  refine ⟨m, sub, finish_eq _ _, declared_finish hsame fun k csv hkey hk => ?_⟩
  have hkey : csvRef m sub = some k := hkey
  have hbase := declared_baseOperator_crds sweep m sub i
  rw [installedOperator_crds, csvEntry, hkey, Option.bind_some, hk] at hbase
  exact (congrArg (List.map CRDInfo.declared) (roundRecord_crds sweep m sub i)).trans hbase

end HybridOperator.Collector
