/-
  `DetectAnomalies` of collector.go.

  The four loops only append, so the result is the concatenation of what each resource adds:
  `resolutionFailures` of a Subscription, `planConflicts` of an InstallPlan, `csvAnomalies` of
  a CSV, `catalogFailures` of a CatalogSource. A list that could not be read is `none`, as the
  source tests for `nil`. Only the zombie check of a CSV looks at anything but the resource
  itself: at the Subscriptions of its namespace (`hasParentSub`).

  Proved: every anomaly names a resource of one of the lists (`names_of_mem_detectAnomalies`),
  and its type says which check added it (`origin_of_mem`).
-/
import HybridOperator.Collector.Types
import HybridOperator.Lib.GoMap
import HybridOperator.Lib.GoStrings

namespace HybridOperator.Collector

open HybridOperator.Lib

/-- `Object["status"].(map[string]interface{})`. -/
def Unstructured.status (u : Unstructured) : Option JMap := mapField u.object "status"

/-- The maps among `status.conditions`. -/
def Unstructured.conditions (u : Unstructured) : List JMap :=
  ((u.status.bind (sliceField · "conditions")).getD []).filterMap Json.asMap

def resolutionFailures (sub : Unstructured) : List AnomalyInfo :=
  (sub.conditions.filter fun cond =>
    stringField cond "reason" = "ResolutionFailed" ∧ stringField cond "status" = "True").map
    fun cond =>
      { type := "Dependency Deadlock"
        severity := "CRITICAL"
        resource := sub.getName
        nameSpace := sub.getNamespace
        description := "Subscription cannot resolve dependencies: " ++ stringField cond "message"
        action := "VERIFY_CATALOG_SOURCES" }

def planConflicts (ip : Unstructured) : List AnomalyInfo :=
  if stringField (ip.status.getD []) "phase" = "Failed" then
    (ip.conditions.filter fun cond =>
      stringField cond "type" = "Installed" ∧ stringField cond "status" = "False" ∧
        stringField cond "reason" = "InstallCheckFailed").map fun _ =>
      { type := "InstallPlan Conflict"
        severity := "CRITICAL"
        resource := ip.getName
        nameSpace := ip.getNamespace
        description := "InstallPlan failed due to ownership conflicts or step failure."
        action := "DELETE_CONFLICTING_RESOURCE" }
  else []

/-- The keys `subMap` gets: `namespace/name` of each Subscription. -/
def subMap (subs : List Unstructured) : GoMap String Bool :=
  subs.foldl (fun m sub => m.insert (sub.getNamespace ++ "/" ++ sub.getName) true) ∅

/-- Some key of `subMap` has the prefix `ns/`; the order of the keys does not matter. -/
def hasParentSub (subs : GoMap String Bool) (ns : String) : Bool :=
  subs.keys.any (GoStrings.hasPrefix · (ns ++ "/"))

def zombieCSV (subs : GoMap String Bool) (csv : Unstructured) : List AnomalyInfo :=
  let ns := csv.getNamespace
  if ns ≠ "openshift-operator-lifecycle-manager" ∧ ns ≠ "openshift-marketplace" ∧
      GoStrings.hasPrefix ns "openshift-" = false ∧ hasParentSub subs ns = false then
    [{ type := "Zombie CSV"
       severity := "WARNING"
       resource := csv.getName
       nameSpace := ns
       description := "ClusterServiceVersion exists without an active parent OLM Subscription."
       action := "PURGE_ZOMBIE_CSV" }]
  else []

def csvReason (csv : Unstructured) : List AnomalyInfo :=
  let reason := stringField (csv.status.getD []) "reason"
  if reason = "APIServiceResourceIssue" ∨ reason = "RequirementsNotMet" then
    [{ type := "Webhook/API Timeout"
       severity := "WARNING"
       resource := csv.getName
       nameSpace := csv.getNamespace
       description := "CSV is stuck waiting for APIService or Webhook requirement."
       action := "RESTART_OPERATOR_POD" }]
  else if reason = "UnpackFailed" ∨ reason = "UnsupportedAPI" then
    [{ type := "API Deprecation Rejection"
       severity := "CRITICAL"
       resource := csv.getName
       nameSpace := csv.getNamespace
       description := "CSV contains deprecated Kubernetes API resources no longer supported " ++
         "in this OCP version."
       action := "CHANGE_SUBSCRIPTION_CHANNEL" }]
  else []

def csvAnomalies (subs : GoMap String Bool) (csv : Unstructured) : List AnomalyInfo :=
  zombieCSV subs csv ++ csvReason csv

def catalogFailures (cs : Unstructured) : List AnomalyInfo :=
  match cs.status.bind (mapField · "connectionState") with
  | none => []
  | some connState =>
      let lastState := stringField connState "lastObservedState"
      if lastState ≠ "READY" then
        [{ type := "Catalog Source"
           severity := "CRITICAL"
           resource := cs.getName
           nameSpace := cs.getNamespace
           description := "CatalogSource gRPC connection is failing or pod is " ++
             "CrashLoopBackOff. State: " ++ lastState
           action := "RESTART_CATALOG_POD" }]
      else []

def detectAnomalies (subs ips csvs catsrcs : Option (List Unstructured)) : List AnomalyInfo :=
  (subs.getD []).flatMap resolutionFailures ++ (ips.getD []).flatMap planConflicts ++
    (csvs.getD []).flatMap (csvAnomalies (subMap (subs.getD []))) ++
    (catsrcs.getD []).flatMap catalogFailures

/-! ## Where an anomaly comes from -/

/-- What one resource of a list adds. -/
theorem mem_detectAnomalies {subs ips csvs catsrcs : Option (List Unstructured)} {a : AnomalyInfo} :
    a ∈ detectAnomalies subs ips csvs catsrcs ↔
      (∃ sub ∈ subs.getD [], a ∈ resolutionFailures sub) ∨
      (∃ ip ∈ ips.getD [], a ∈ planConflicts ip) ∨
      (∃ csv ∈ csvs.getD [], a ∈ csvAnomalies (subMap (subs.getD [])) csv) ∨
      ∃ cs ∈ catsrcs.getD [], a ∈ catalogFailures cs := by
  simp only [detectAnomalies, List.mem_append, List.mem_flatMap, or_assoc]

/-- An anomaly names the resource it comes from. -/
def Names (a : AnomalyInfo) (u : Unstructured) : Prop :=
  a.resource = u.getName ∧ a.nameSpace = u.getNamespace

theorem names_of_mem_resolutionFailures {sub : Unstructured} {a : AnomalyInfo}
    (h : a ∈ resolutionFailures sub) : Names a sub := by
  obtain ⟨cond, -, rfl⟩ := List.mem_map.mp h
  exact ⟨rfl, rfl⟩

theorem names_of_mem_planConflicts {ip : Unstructured} {a : AnomalyInfo}
    (h : a ∈ planConflicts ip) : Names a ip := by
  unfold planConflicts at h
  split at h
  · obtain ⟨cond, -, rfl⟩ := List.mem_map.mp h
    exact ⟨rfl, rfl⟩
  · cases h

theorem names_of_mem_csvAnomalies {subs : GoMap String Bool} {csv : Unstructured}
    {a : AnomalyInfo} (h : a ∈ csvAnomalies subs csv) : Names a csv := by
  rcases List.mem_append.mp h with h | h
  · unfold zombieCSV at h
    dsimp only at h
    split at h
    · rw [List.mem_singleton.mp h]
      exact ⟨rfl, rfl⟩
    · cases h
  · unfold csvReason at h
    dsimp only at h
    split_ifs at h
    · rw [List.mem_singleton.mp h]
      exact ⟨rfl, rfl⟩
    · rw [List.mem_singleton.mp h]
      exact ⟨rfl, rfl⟩
    · cases h

theorem names_of_mem_catalogFailures {cs : Unstructured} {a : AnomalyInfo}
    (h : a ∈ catalogFailures cs) : Names a cs := by
  unfold catalogFailures at h
  split at h
  · cases h
  · dsimp only at h
    split at h
    · rw [List.mem_singleton.mp h]
      exact ⟨rfl, rfl⟩
    · cases h

/-- Every anomaly names a resource of the four lists. -/
theorem names_of_mem_detectAnomalies {subs ips csvs catsrcs : Option (List Unstructured)}
    {a : AnomalyInfo} (h : a ∈ detectAnomalies subs ips csvs catsrcs) :
    ∃ u ∈ subs.getD [] ++ ips.getD [] ++ csvs.getD [] ++ catsrcs.getD [], Names a u := by
  simp only [List.mem_append]
  rcases mem_detectAnomalies.mp h with ⟨u, hu, ha⟩ | ⟨u, hu, ha⟩ | ⟨u, hu, ha⟩ | ⟨u, hu, ha⟩
  · exact ⟨u, by tauto, names_of_mem_resolutionFailures ha⟩
  · exact ⟨u, by tauto, names_of_mem_planConflicts ha⟩
  · exact ⟨u, by tauto, names_of_mem_csvAnomalies ha⟩
  · exact ⟨u, by tauto, names_of_mem_catalogFailures ha⟩

/-! ## Which check an anomaly comes from -/

theorem type_of_mem_resolutionFailures {sub : Unstructured} {a : AnomalyInfo}
    (h : a ∈ resolutionFailures sub) : a.type = "Dependency Deadlock" := by
  obtain ⟨cond, -, rfl⟩ := List.mem_map.mp h
  rfl

theorem mem_planConflicts {ip : Unstructured} {a : AnomalyInfo} (h : a ∈ planConflicts ip) :
    a.type = "InstallPlan Conflict" ∧ stringField (ip.status.getD []) "phase" = "Failed" := by
  unfold planConflicts at h
  split at h
  · rename_i hphase
    obtain ⟨cond, -, rfl⟩ := List.mem_map.mp h
    exact ⟨rfl, hphase⟩
  · cases h

theorem type_of_mem_zombieCSV {subs : GoMap String Bool} {csv : Unstructured} {a : AnomalyInfo}
    (h : a ∈ zombieCSV subs csv) : a.type = "Zombie CSV" := by
  unfold zombieCSV at h
  dsimp only at h
  split at h
  · rw [List.mem_singleton.mp h]
  · cases h

theorem type_of_mem_csvReason {csv : Unstructured} {a : AnomalyInfo} (h : a ∈ csvReason csv) :
    a.type = "Webhook/API Timeout" ∨ a.type = "API Deprecation Rejection" := by
  unfold csvReason at h
  dsimp only at h
  split_ifs at h
  · rw [List.mem_singleton.mp h]
    exact Or.inl rfl
  · rw [List.mem_singleton.mp h]
    exact Or.inr rfl
  · cases h

theorem type_of_mem_catalogFailures {cs : Unstructured} {a : AnomalyInfo}
    (h : a ∈ catalogFailures cs) : a.type = "Catalog Source" := by
  unfold catalogFailures at h
  split at h
  · cases h
  · dsimp only at h
    split at h
    · rw [List.mem_singleton.mp h]
    · cases h

section Types

variable {subs ips csvs catsrcs : Option (List Unstructured)} {a : AnomalyInfo}

/-- The check that added an anomaly, by its type. -/
theorem origin_of_mem (h : a ∈ detectAnomalies subs ips csvs catsrcs) :
    a.type = "Dependency Deadlock" ∨
    (a.type = "InstallPlan Conflict" ∧ ∃ ip ∈ ips.getD [], a ∈ planConflicts ip) ∨
    (a.type = "Zombie CSV" ∧ ∃ csv ∈ csvs.getD [], a ∈ zombieCSV (subMap (subs.getD [])) csv) ∨
    (a.type = "Webhook/API Timeout" ∨ a.type = "API Deprecation Rejection") ∨
    (a.type = "Catalog Source" ∧ ∃ cs ∈ catsrcs.getD [], a ∈ catalogFailures cs) := by
  rcases mem_detectAnomalies.mp h with ⟨u, hu, ha⟩ | ⟨u, hu, ha⟩ | ⟨u, hu, ha⟩ | ⟨u, hu, ha⟩
  · exact Or.inl (type_of_mem_resolutionFailures ha)
  · exact Or.inr (Or.inl ⟨(mem_planConflicts ha).1, u, hu, ha⟩)
  · rcases List.mem_append.mp ha with ha | ha
    · exact Or.inr (Or.inr (Or.inl ⟨type_of_mem_zombieCSV ha, u, hu, ha⟩))
    · exact Or.inr (Or.inr (Or.inr (Or.inl (type_of_mem_csvReason ha))))
  · exact Or.inr (Or.inr (Or.inr (Or.inr ⟨type_of_mem_catalogFailures ha, u, hu, ha⟩)))

theorem conflict_of_type (h : a ∈ detectAnomalies subs ips csvs catsrcs)
    (htype : a.type = "InstallPlan Conflict") : ∃ ip ∈ ips.getD [], a ∈ planConflicts ip := by
  have := origin_of_mem h
  simp only [htype] at this
  simpa using this

theorem zombie_of_type (h : a ∈ detectAnomalies subs ips csvs catsrcs)
    (htype : a.type = "Zombie CSV") :
    ∃ csv ∈ csvs.getD [], a ∈ zombieCSV (subMap (subs.getD [])) csv := by
  have := origin_of_mem h
  simp only [htype] at this
  simpa using this

theorem source_of_type (h : a ∈ detectAnomalies subs ips csvs catsrcs)
    (htype : a.type = "Catalog Source") : ∃ cs ∈ catsrcs.getD [], a ∈ catalogFailures cs := by
  have := origin_of_mem h
  simp only [htype] at this
  simpa using this

end Types

end HybridOperator.Collector
