/-
  `ProbeCVESources` of collector_cve_sources.go and the fleet of images that it is given, and
  `fetchOperatorCVEs` of collector.go.

  `handleGetCVESources` concatenates the images of the cached operators. Each operator's own
  list has no pair of a namespace and an identity twice, but two operators whose rounds scan one
  namespace both collect what runs in it, so the concatenation may.

  Proved:
  * `images_of_response`: what the operators of a finished sweep collected, round by round.
  * `report_exact_iff`: the two counts of the report are those of the distinct pairs exactly
    when no pair comes twice.
  * `nodup_fleet_iff`: in a finished sweep that is when no two rounds find the same image in the
    same namespace.
-/
import HybridOperator.Collector.ActiveCounts
import HybridOperator.Collector.ImageCoverage
import HybridOperator.Collector.SharedCounts
import HybridOperator.Security.CVEScanner

namespace HybridOperator.Collector

open HybridOperator.Lib

/-- `fetchOperatorCVEs` on the bundled dataset: a call of the scanner, without the affected
    versions, and the number of CVEs. -/
def fetchOperatorCVEs (cache : Security.CVECache) (call : Security.CVECall) :
    Security.CVECache × (List CVEInfo × Nat) :=
  let (cache, raw) := Security.getCVEsForOperator cache call
  let cves := raw.map fun c =>
    (⟨c.id, c.severity, c.description, c.fixedVersion, c.publishedDate, c.cvss⟩ : CVEInfo)
  (cache, cves, cves.length)

structure CVESourceReport where
  rhacsAvailable : Bool
  rhacsDetail : String
  pyxisReachable : Bool
  pyxisDetail : String
  registries : List String
  imageCount : Nat
  digestCoverage : Nat
  recommendation : String

def namespaceGVR : GroupVersionResource := ⟨"", "v1", "namespaces"⟩

/-- `CheckPyxisReachable` of source_probe.go, given what the request came to: an error or the
    status code of the response. -/
def checkPyxisReachable (answer : Except String Nat) : Bool × String :=
  match answer with
  | .error err => (false, "no egress to catalog.redhat.com: " ++ err)
  | .ok statusCode =>
      if statusCode < 500 then
        (true, "catalog.redhat.com reachable (HTTP " ++ toString statusCode ++ ")")
      else (false, "catalog.redhat.com returned HTTP " ++ toString statusCode)

def detectRHACS (dyn : DynClient) : Bool × String :=
  let found := fun gvr name => (dyn.get gvr "" name).isOk
  match ["stackrox", "rhacs-operator"].find? (found namespaceGVR) with
  | some ns => (true, "found namespace '" ++ ns ++ "'")
  | none =>
      match ["centrals.platform.stackrox.io", "securedclusters.platform.stackrox.io"].find?
          (found crdGVR) with
      | some crd => (true, "found CRD '" ++ crd ++ "'")
      | none => (false, "no RHACS namespace or Central/SecuredCluster CRD detected")

def isRedHatRegistry (registry : String) : Bool :=
  registry = "registry.redhat.io" ∨ registry = "registry.access.redhat.com" ∨
    registry = "quay.io"

def recommendSource (rhacsAvailable pyxisReachable hasRedHatRegistry : Bool) : String :=
  if rhacsAvailable then
    "Use RHACS: Advanced Cluster Security is installed and already scans in-cluster images " ++
      "(most authoritative, covers operands)."
  else if pyxisReachable ∧ hasRedHatRegistry then
    "Use Pyxis: the cluster can reach catalog.redhat.com and runs Red Hat-published images; " ++
      "resolve CVEs per image digest."
  else if pyxisReachable then
    "Pyxis reachable but few/no Red Hat registries detected; Pyxis coverage will be partial. " ++
      "Consider an image scanner (Trivy/Clair) for non-RH images."
  else
    "No automated CVE source detected in-cluster; an offline feed or an added scanner " ++
      "(RHACS/Trivy) is required."

/-- The variables of the loop over the images. -/
structure ImageTally where
  registrySet : GoMap String Bool := ∅
  digestCoverage : Nat := 0
  hasRedHatRegistry : Bool := false

/-- One round of that loop. -/
def tallyImage (tally : ImageTally) (img : ImageRef) : ImageTally where
  registrySet :=
    if img.registry ≠ "" then tally.registrySet.insert img.registry true else tally.registrySet
  digestCoverage :=
    if img.digest ≠ "" then tally.digestCoverage + 1 else tally.digestCoverage
  hasRedHatRegistry := tally.hasRedHatRegistry || isRedHatRegistry img.registry

/-- `answer` is what the request to Pyxis comes to, `order` that of the loop over
    `registrySet`. -/
def probeCVESources (answer : Except String Nat) (order : RangeOrder String) (dyn : DynClient)
    (images : List ImageRef) : CVESourceReport :=
  let rhacs := detectRHACS dyn
  let pyxis := checkPyxisReachable answer
  let tally := images.foldl tallyImage {}
  { rhacsAvailable := rhacs.1
    rhacsDetail := rhacs.2
    pyxisReachable := pyxis.1
    pyxisDetail := pyxis.2
    registries := (tally.registrySet.range order).mergeSort fun a b => a ≤ b
    imageCount := images.length
    digestCoverage := tally.digestCoverage
    recommendation := recommendSource rhacs.1 pyxis.1 tally.hasRedHatRegistry }

/-! ## The counts of a report -/

theorem foldl_tallyImage (images : List ImageRef) (tally : ImageTally) :
    (images.foldl tallyImage tally).digestCoverage =
      tally.digestCoverage + images.countP fun img => img.digest ≠ "" := by
  induction images generalizing tally with
  | nil => rfl
  | cons img images ih =>
    rw [List.foldl_cons, ih, List.countP_cons]
    by_cases h : img.digest = ""
    · simp [tallyImage, h]
    · simp [tallyImage, h]
      omega

/-- The pairs of the images, once for each image. -/
def fleetPairs (images : List ImageRef) : List (String × String) := images.map ImageRef.pair

/-- Those of the images with a digest. -/
def digestPairs (images : List ImageRef) : List (String × String) :=
  (images.filter fun img => img.digest ≠ "").map ImageRef.pair

/-- A report that counts every pair once. -/
structure ReportExact (report : CVESourceReport) (images : List ImageRef) : Prop where
  imageCount : report.imageCount = (fleetPairs images).toFinset.card
  digestCoverage : report.digestCoverage = (digestPairs images).toFinset.card

/-- The report counts every pair once exactly when no image is there twice. -/
theorem report_exact_iff (answer : Except String Nat) (order : RangeOrder String)
    (dyn : DynClient) (images : List ImageRef) :
    ReportExact (probeCVESources answer order dyn images) images ↔ (fleetPairs images).Nodup := by
  have hcount : (probeCVESources answer order dyn images).imageCount =
      (fleetPairs images).length := by
    rw [fleetPairs, List.length_map]
    rfl
  have hdigest : (probeCVESources answer order dyn images).digestCoverage =
      (digestPairs images).length := by
    rw [digestPairs, List.length_map, ← List.countP_eq_length_filter]
    exact (foldl_tallyImage images {}).trans (Nat.zero_add _)
  constructor
  · intro h
    rw [← card_toFinset_eq_length_iff, ← h.imageCount, hcount]
  · intro h
    have hsub : (digestPairs images).Nodup :=
      h.sublist ((List.filter_sublist).map ImageRef.pair)
    refine ⟨?_, ?_⟩
    · rw [hcount, List.toFinset_card_of_nodup h]
    · rw [hdigest, List.toFinset_card_of_nodup hsub]

/-! ## The images of a finished sweep -/

/-- The namespaces of a record: its own and those of the instances of its CRDs. -/
def recordNamespaces (sweep : Sweep) (i : Nat) (op : OperatorInfo) : GoMap String Bool :=
  (countCRs (sweep.counting i) op).crNamespaces

/-- What the workload stage reads of a record and writes to it. -/
def OperatorInfo.workloads (op : OperatorInfo) :
    String × List String × List String × List OperatorComponent × List ImageRef :=
  (op.nameSpace, op.exposedRoutes, op.serviceAccounts, op.components, op.images)

theorem withScores_workloads (sweep : Sweep) (i : Nat) (op : OperatorInfo) :
    (withScores sweep i op).workloads = op.workloads := rfl

theorem setCRDs_workloads (op : OperatorInfo) (crds : List CRDInfo) :
    (op.setCRDs crds).workloads = op.workloads := rfl

theorem withVersion_workloads (op : OperatorInfo) : (withVersion op).workloads = op.workloads :=
  rfl

theorem withWorkloads_congr (dyn : DynClient) (routeOrder imageOrder : RangeOrder String)
    (crNamespaces : GoMap String Bool) {op op' : OperatorInfo} (h : op.nameSpace = op'.nameSpace) :
    (withWorkloads dyn routeOrder imageOrder crNamespaces op).workloads =
      (withWorkloads dyn routeOrder imageOrder crNamespaces op').workloads := by
  unfold withWorkloads OperatorInfo.workloads
  dsimp only
  rw [h]

theorem workloads_roundRecord (sweep : Sweep) (csvMap : CSVMap) (sub : Unstructured) (i : Nat) :
    (roundRecord sweep csvMap sub i).workloads =
      (withWorkloads (sweep.scanning i) (sweep.routeOrder i) (sweep.imageOrder i)
        (countCRs (sweep.counting i) (installedOperator csvMap sub)).crNamespaces
        (installedOperator csvMap sub)).workloads := by
  rw [roundRecord, withScores_workloads,
    withManifest_keeps sweep i _ OperatorInfo.workloads fun _ _ _ _ _ _ _ _ => rfl, baseOperator,
    withFailure_keeps _ OperatorInfo.workloads fun _ _ _ _ => rfl, withVersion_workloads]
  exact withWorkloads_congr _ _ _ _ rfl

/-- A published record is what the workload stage of its round made of it. -/
theorem withWorkloads_of_response {sweep : Sweep} {resp : ClusterGovernanceResponse}
    (hresp : getClusterGovernance sweep = .ok resp) {i : Nat} {op : OperatorInfo}
    (hop : resp.operators[i]? = some op) :
    op.workloads = (withWorkloads (sweep.scanning i) (sweep.routeOrder i) (sweep.imageOrder i)
      (recordNamespaces sweep i op) op).workloads := by
  obtain ⟨csvMap, sub, hrecord, hcrds⟩ := operator_of_response hresp hop
  have hfields : op.workloads = (roundRecord sweep csvMap sub i).workloads := by
    rw [congrArg OperatorInfo.workloads hrecord, setCRDs_workloads]
  rw [workloads_roundRecord] at hfields
  have hns : op.nameSpace = (installedOperator csvMap sub).nameSpace :=
    congrArg Prod.fst hfields
  have hdeclared : op.crds.map CRDInfo.declared =
      (installedOperator csvMap sub).crds.map CRDInfo.declared := by
    rw [hcrds, roundRecord_crds, declared_baseOperator_crds]
  have hnamespaces : recordNamespaces sweep i op =
      (countCRs (sweep.counting i) (installedOperator csvMap sub)).crNamespaces := by
    rw [recordNamespaces, countCRs_crNamespaces, countCRs_crNamespaces, hns,
      listings_congr _ hdeclared]
  rw [hfields, hnamespaces, withWorkloads_congr _ _ _ _ hns]

theorem images_of_response {sweep : Sweep} {resp : ClusterGovernanceResponse}
    (hresp : getClusterGovernance sweep = .ok resp) {i : Nat} {op : OperatorInfo}
    (hop : resp.operators[i]? = some op) :
    op.images = collectImages (sweep.scanning i) (sweep.imageOrder i) op.nameSpace
      (recordNamespaces sweep i op) :=
  congrArg (fun w => w.2.2.2.2) (withWorkloads_of_response hresp hop)

/-- The rounds `i` and `j` both scan a namespace and find an image of one identity in it. -/
def SharedImage (sweep : Sweep) (resp : ClusterGovernanceResponse) (i j : Nat) : Prop :=
  ∃ op op' ns identity, resp.operators[i]? = some op ∧ resp.operators[j]? = some op' ∧
    ((ns = op.nameSpace ∨ ns ∈ recordNamespaces sweep i op) ∧
      RunsImage (sweep.scanning i) ns identity) ∧
    (ns = op'.nameSpace ∨ ns ∈ recordNamespaces sweep j op') ∧
      RunsImage (sweep.scanning j) ns identity

theorem mem_pairs_of_response {sweep : Sweep} (hpods : ∀ i, PodNamespaces (sweep.scanning i))
    {resp : ClusterGovernanceResponse} (hresp : getClusterGovernance sweep = .ok resp) {i : Nat}
    {op : OperatorInfo} (hop : resp.operators[i]? = some op) (ns identity : String) :
    (ns, identity) ∈ op.images.map ImageRef.pair ↔
      (ns = op.nameSpace ∨ ns ∈ recordNamespaces sweep i op) ∧
        RunsImage (sweep.scanning i) ns identity := by
  rw [images_of_response hresp hop]
  exact mem_pairs_collectImages (hpods i)

theorem nodup_pairs_of_response {sweep : Sweep} {resp : ClusterGovernanceResponse}
    (hresp : getClusterGovernance sweep = .ok resp) {op : OperatorInfo}
    (hop : op ∈ resp.operators) : (op.images.map ImageRef.pair).Nodup := by
  obtain ⟨i, hi⟩ := List.getElem?_of_mem hop
  rw [images_of_response hresp hi]
  exact nodup_pairs_of_keys (nodup_collectImages _ _ _ _)

/-- No image is in the fleet twice exactly when no two rounds share one. -/
theorem nodup_fleet_iff {sweep : Sweep} (hpods : ∀ i, PodNamespaces (sweep.scanning i))
    {resp : ClusterGovernanceResponse} (hresp : getClusterGovernance sweep = .ok resp) :
    (fleetPairs (resp.operators.flatMap (·.images))).Nodup ↔
      ∀ i j, i < j → ¬ SharedImage sweep resp i j := by
  rw [fleetPairs, List.map_flatMap, List.nodup_flatMap, List.pairwise_iff_getElem,
    and_iff_right fun op hop => nodup_pairs_of_response hresp hop]
  constructor
  · rintro h i j hij ⟨op, op', ns, identity, hi, hj, hshown, hshown'⟩
    obtain ⟨hilt, hiop⟩ := List.getElem?_eq_some_iff.mp hi
    obtain ⟨hjlt, hjop⟩ := List.getElem?_eq_some_iff.mp hj
    have hdisjoint : List.Disjoint _ _ := h i j hilt hjlt hij
    rw [hiop, hjop] at hdisjoint
    exact hdisjoint ((mem_pairs_of_response hpods hresp hi ns identity).mpr hshown)
      ((mem_pairs_of_response hpods hresp hj ns identity).mpr hshown')
  · rintro h i j hilt hjlt hij ⟨ns, identity⟩ hmem hmem'
    have hi := List.getElem?_eq_getElem hilt
    have hj := List.getElem?_eq_getElem hjlt
    exact h i j hij ⟨_, _, ns, identity, hi, hj,
      (mem_pairs_of_response hpods hresp hi ns identity).mp hmem,
      (mem_pairs_of_response hpods hresp hj ns identity).mp hmem'⟩

end HybridOperator.Collector
