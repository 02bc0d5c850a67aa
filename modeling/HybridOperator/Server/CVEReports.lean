/-
  `handleGetCVESources` and `handleGetAllCVEs` of main.go: what they answer for a cached
  inventory.

  Proved:
  * `cveSources_exact_iff`: the report on the sources counts every image of the fleet once
    exactly when no two rounds of the sweep find the same image in the same namespace.
  * `cveSummary_total_iff`: the summary of the CVEs has all of them exactly when no two operators
    with CVEs have one name.
-/
import HybridOperator.Collector.CVESources
import HybridOperator.Lib.Grouping

namespace HybridOperator.Server

open HybridOperator.Lib HybridOperator.Collector

/-! ## The sources -/

/-- The images of the cached operators, one list after the other. -/
def cachedImages (operators : List OperatorInfo) : List ImageRef :=
  operators.flatMap (·.images)

def handleGetCVESources (answer : Except String Nat) (order : RangeOrder String)
    (dyn : DynClient) (operators : List OperatorInfo) : CVESourceReport :=
  probeCVESources answer order dyn (cachedImages operators)

theorem cveSources_exact_iff (sweep : Sweep) (hpods : ∀ i, PodNamespaces (sweep.scanning i))
    (resp : ClusterGovernanceResponse) (hresp : getClusterGovernance sweep = .ok resp)
    (answer : Except String Nat) (order : RangeOrder String) (dyn : DynClient) :
    ReportExact (handleGetCVESources answer order dyn resp.operators)
        (cachedImages resp.operators) ↔
      ∀ i j, i < j → ¬ SharedImage sweep resp i j := by
  rw [handleGetCVESources, report_exact_iff, cachedImages, nodup_fleet_iff hpods hresp]

/-! ### Two operators in one namespace -/

/-- Two Subscriptions in `operators`, and the one pod there. -/
def sharedNamespaceObjects (gvr : GroupVersionResource) : List Unstructured :=
  if gvr = subscriptionGVR then
    [⟨[metadata "operators" "etcd"]⟩, ⟨[metadata "operators" "backup"]⟩]
  else if gvr = podGVR then [podOf "operators" "etcd-0" "quay.io/etcd:3" "quay.io/etcd@sha256:33"]
  else []

def sharedNamespaceSweep : Sweep := .ofClient (snapshotClient sharedNamespaceObjects)

/-- The one image is counted for each of the two operators. -/
theorem fleet_counted_twice :
    ∃ resp, getClusterGovernance sharedNamespaceSweep = .ok resp ∧
      cachedImages resp.operators =
        [⟨"quay.io/etcd:3", "sha256:33", "quay.io", "operators", "main", "operator"⟩,
          ⟨"quay.io/etcd:3", "sha256:33", "quay.io", "operators", "main", "operator"⟩] ∧
      ∀ answer order dyn, ¬ ReportExact
        (handleGetCVESources answer order dyn resp.operators) (cachedImages resp.operators) := by
  refine ⟨_, rfl, by decide +kernel, fun answer order dyn h => ?_⟩
  rw [handleGetCVESources, report_exact_iff] at h
  revert h
  decide +kernel

theorem cveSources_exact_iff_shared :
    ∃ resp, getClusterGovernance sharedNamespaceSweep = .ok resp ∧
      ∀ answer order dyn, ReportExact (handleGetCVESources answer order dyn resp.operators)
          (cachedImages resp.operators) ↔
        ∀ i j, i < j → ¬ SharedImage sharedNamespaceSweep resp i j :=
  ⟨_, rfl, cveSources_exact_iff sharedNamespaceSweep
    (fun _ => podNamespaces_snapshot (by decide +kernel)) _ rfl⟩

/-! ## The summary -/

/-- `counts` before the loop over the CVEs. -/
def zeroCounts : GoMap String Nat :=
  GoMap.ofEntries [("Critical", 0), ("High", 0), ("Medium", 0), ("Low", 0)]

/-- `counts[cve.Severity]++` for every CVE. -/
def severityCounts (cves : List CVEInfo) : GoMap String Nat :=
  cves.foldl (fun counts cve =>
    counts.insert cve.severity (counts.get cve.severity 0 + 1)) zeroCounts

def handleGetAllCVEs (operators : List OperatorInfo) : GoMap String (GoMap String Nat) :=
  operators.foldl (fun summary op =>
    if op.cves.length > 0 then summary.insert op.name (severityCounts op.cves) else summary) ∅

/-- The count of a severity, summed over the entries of the summary. -/
def summaryCount (summary : GoMap String (GoMap String Nat)) (severity : String) : Nat :=
  summary.total fun counts => counts.get severity 0

/-- The CVEs of a severity over all operators. -/
def fleetCount (operators : List OperatorInfo) (severity : String) : Nat :=
  (operators.flatMap (·.cves)).countP (·.severity = severity)

theorem get_zeroCounts (severity : String) : zeroCounts.get severity 0 = 0 := by
  have hzero : ∀ e ∈ [("Critical", 0), ("High", 0), ("Medium", 0), ("Low", 0)], e.2 = 0 := by
    decide
  unfold GoMap.get
  cases h : zeroCounts.lookup severity with
  | none => rfl
  | some n =>
    obtain ⟨e, he, hn⟩ := GoMap.mem_of_lookup_ofEntries h
    rw [← hn, hzero e he]
    rfl

theorem get_severityCounts (cves : List CVEInfo) (severity : String) :
    (severityCounts cves).get severity 0 = cves.countP (·.severity = severity) := by
  rw [severityCounts, GoMap.get_foldl_update CVEInfo.severity (fun n _ => n + 1),
    get_zeroCounts, Grouping.foldl_count, List.countP_eq_length_filter]

/-- The operators that the summary has an entry for. -/
def withCVEs (operators : List OperatorInfo) : List OperatorInfo :=
  operators.filter fun op => op.cves ≠ []

theorem handleGetAllCVEs_eq (operators : List OperatorInfo) :
    handleGetAllCVEs operators =
      GoMap.ofEntries ((withCVEs operators).map fun op => (op.name, severityCounts op.cves)) := by
  unfold handleGetAllCVEs withCVEs
  induction operators using List.reverseRecOn with
  | nil => rfl
  | append_singleton operators op ih =>
    rw [List.foldl_append, List.foldl_cons, List.foldl_nil, ih, List.filter_append]
    by_cases h : op.cves = []
    · simp [h]
    · rw [if_pos (List.length_pos_iff.mpr h), List.filter_singleton, decide_eq_true h, cond_true,
        List.map_append, List.map_singleton, GoMap.ofEntries_concat]

theorem fleetCount_eq (operators : List OperatorInfo) (severity : String) :
    fleetCount operators severity =
      ((withCVEs operators).map fun op => (severityCounts op.cves).get severity 0).sum := by
  unfold fleetCount withCVEs
  simp only [get_severityCounts]
  induction operators with
  | nil => rfl
  | cons op operators ih =>
    rw [List.flatMap_cons, List.countP_append, ih, List.filter_cons]
    by_cases h : op.cves = []
    · simp [h]
    · rw [if_pos (decide_eq_true h), List.map_cons, List.sum_cons]

theorem cveSummary_total_iff (operators : List OperatorInfo) :
    (∀ severity, summaryCount (handleGetAllCVEs operators) severity =
        fleetCount operators severity) ↔
      ((withCVEs operators).map (·.name)).Nodup := by
  have hpos : ∀ e ∈ (withCVEs operators).map fun op => (op.name, severityCounts op.cves),
      ∃ severity, 0 < e.2.get severity 0 := by
    intro e he
    obtain ⟨op, hop, rfl⟩ := List.mem_map.mp he
    have hcves : op.cves ≠ [] := of_decide_eq_true (List.mem_filter.mp hop).2
    obtain ⟨cve, hcve⟩ := List.exists_mem_of_ne_nil _ hcves
    refine ⟨cve.severity, ?_⟩
    rw [get_severityCounts]
    exact List.countP_pos_iff.mpr ⟨cve, hcve, decide_eq_true rfl⟩
  have hiff := GoMap.total_ofEntries_eq_iff (fun severity counts => GoMap.get counts severity 0)
    hpos
  simp only [List.map_map] at hiff
  simp only [summaryCount, handleGetAllCVEs_eq, fleetCount_eq]
  exact hiff

/-! ### Two Subscriptions with one name -/

/-- Subscriptions named `gitops` in two namespaces, to the package `openshift-gitops-operator`. -/
def sameNameObjects (gvr : GroupVersionResource) : List Unstructured :=
  if gvr = subscriptionGVR then
    [⟨[metadata "team-a" "gitops", ("spec", .obj [("name", .str "openshift-gitops-operator")])]⟩,
      ⟨[metadata "team-b" "gitops", ("spec", .obj [("name", .str "openshift-gitops-operator")])]⟩]
  else []

def sameNameSweep : Sweep :=
  { Sweep.ofClient (snapshotClient sameNameObjects) with
      fetchOperatorCVEs := fun _ package version =>
        (fetchOperatorCVEs {} ⟨package, version, 0, 0⟩).2 }

/-- Each of the two has a CVE of severity Medium, and the summary counts one. -/
theorem summary_loses_cve :
    ∃ resp, getClusterGovernance sameNameSweep = .ok resp ∧
      resp.operators.map (fun op => (op.name, op.nameSpace, op.cves.map (·.severity))) =
        [("gitops", "team-a", ["Medium"]), ("gitops", "team-b", ["Medium"])] ∧
      summaryCount (handleGetAllCVEs resp.operators) "Medium" = 1 ∧
      fleetCount resp.operators "Medium" = 2 :=
  ⟨_, rfl, by decide +kernel, by decide +kernel, by decide +kernel⟩

end HybridOperator.Server
