/-
  The health summary and the anomaly list read the same statuses.

  `CollectOLMHealthStatus` looks a state up by its path, `DetectAnomalies` takes the maps on the
  way apart one by one. Both find the same: `connState_eq` and `planFailed_iff` say so for every
  object, however malformed its status. `health_agrees` puts together what follows for the lists:
  every source counted as failed has an anomaly, no source counted as ready adds one, every
  InstallPlan conflict is of a plan counted as failed, and nothing is counted twice.
-/
import HybridOperator.Collector.Anomalies
import HybridOperator.Collector.Health

namespace HybridOperator.Collector

open HybridOperator.Lib

/-- The state both functions look at is the same. -/
theorem connState_eq (cs : Unstructured) :
    connState cs = (cs.status.bind (mapField · "connectionState")).bind
      (nestedString · ["lastObservedState"]) := by
  unfold connState nestedString Unstructured.status
  rw [nestedField_cons_cons]
  cases mapField cs.object "status" with
  | none => rfl
  | some status =>
    rw [Option.bind_some, nestedField_cons_cons, Option.bind_some]
    cases mapField status "connectionState" <;> rfl

/-- The phase both functions look at is the same. -/
theorem planFailed_iff (ip : Unstructured) :
    planFailed ip = true ↔ stringField (ip.status.getD []) "phase" = "Failed" := by
  have hphase : nestedString ip.object ["status", "phase"] =
      nestedString (ip.status.getD []) ["phase"] := by
    unfold nestedString Unstructured.status
    rw [nestedField_cons_cons]
    cases mapField ip.object "status" <;> rfl
  unfold planFailed
  rw [decide_eq_true_eq, hphase, stringField_eq]
  cases nestedString (ip.status.getD []) ["phase"] with
  | none => exact iff_of_false (fun h => nomatch h) (by decide)
  | some phase => simp

/-- What a CatalogSource with a state adds. -/
theorem catalogFailures_of_connState {cs : Unstructured} {state : String}
    (h : connState cs = some state) :
    if state = "READY" then catalogFailures cs = []
    else ∃ a, catalogFailures cs = [a] ∧ a.type = "Catalog Source" ∧ Names a cs := by
  rw [connState_eq] at h
  obtain ⟨conn, hconn, hstate⟩ := Option.bind_eq_some_iff.mp h
  have hlast : stringField conn "lastObservedState" = state := by rw [stringField_eq, hstate]; rfl
  unfold catalogFailures
  rw [hconn]
  dsimp only
  rw [hlast]
  by_cases hready : state = "READY"
  · rw [if_pos hready, if_neg (not_not.mpr hready)]
  · rw [if_neg hready, if_pos hready]
    exact ⟨_, rfl, rfl, rfl, rfl⟩

/-- The summary and the anomalies of the same lists agree. -/
structure HealthAgrees (health : OLMHealthStatus) (ips catsrcs : Option (List Unstructured))
    (anomalies : List AnomalyInfo) : Prop where
  plansCounted : health.installPlanCount = (ips.getD []).length ∧
    health.installPlanPending = (ips.getD []).countP planPending ∧
    health.installPlanFailed = (ips.getD []).countP planFailed
  sourcesCounted : health.catalogSourceCount = (catsrcs.getD []).length ∧
    health.catalogSourceReady = (catsrcs.getD []).countP sourceReady ∧
    health.catalogSourceFailed = (catsrcs.getD []).countP sourceFailed
  /-- A source counted as failed gives rise to an anomaly that names it. -/
  failedReported : ∀ cs ∈ catsrcs.getD [], sourceFailed cs = true →
    ∃ a ∈ anomalies, a ∈ catalogFailures cs ∧ a.type = "Catalog Source" ∧ Names a cs
  /-- A source counted as ready gives rise to none. -/
  readySilent : ∀ cs ∈ catsrcs.getD [], sourceReady cs = true → catalogFailures cs = []
  /-- Every anomaly of that type comes from a source that is not counted as ready. -/
  sourceNotReady : ∀ a ∈ anomalies, a.type = "Catalog Source" →
    ∃ cs ∈ catsrcs.getD [], a ∈ catalogFailures cs ∧ Names a cs ∧ sourceReady cs = false
  /-- Every InstallPlan conflict names a plan counted as failed. -/
  conflictFailed : ∀ a ∈ anomalies, a.type = "InstallPlan Conflict" →
    ∃ ip ∈ ips.getD [], a ∈ planConflicts ip ∧ Names a ip ∧ planFailed ip = true
  plansBound : health.installPlanPending + health.installPlanFailed ≤ health.installPlanCount
  sourcesBound :
    health.catalogSourceReady + health.catalogSourceFailed ≤ health.catalogSourceCount

/-- For all lists, whatever their objects look like, the health summary and the anomaly list
    agree. -/
theorem health_agrees (dyn : DynClient) (subs ips csvs catsrcs : Option (List Unstructured)) :
    HealthAgrees (collectOLMHealthStatus dyn ips catsrcs) ips catsrcs
      (detectAnomalies subs ips csvs catsrcs) where
  plansCounted := ⟨rfl, rfl, rfl⟩
  sourcesCounted := ⟨rfl, rfl, rfl⟩
  failedReported := by
    intro cs hcs hfailed
    have hstate : ∃ state, connState cs = some state ∧ state ≠ "READY" := by
      rcases of_decide_eq_true hfailed with h | h
      · exact ⟨_, h, by decide⟩
      · exact ⟨_, h, by decide⟩
    obtain ⟨state, hstate, hready⟩ := hstate
    have hadds := catalogFailures_of_connState hstate
    rw [if_neg hready] at hadds
    obtain ⟨a, ha, htype, hnames⟩ := hadds
    have hmem : a ∈ catalogFailures cs := ha ▸ List.mem_singleton_self a
    exact ⟨a, mem_detectAnomalies.mpr (Or.inr (Or.inr (Or.inr ⟨cs, hcs, hmem⟩))), hmem, htype,
      hnames⟩
  readySilent := by
    intro cs _ hready
    exact catalogFailures_of_connState (of_decide_eq_true hready)
  sourceNotReady := by
    intro a ha htype
    obtain ⟨cs, hcs, hmem⟩ := source_of_type ha htype
    refine ⟨cs, hcs, hmem, names_of_mem_catalogFailures hmem,
      Bool.eq_false_iff.mpr fun hready => ?_⟩
    have hnil : catalogFailures cs = [] :=
      catalogFailures_of_connState (of_decide_eq_true hready)
    rw [hnil] at hmem
    cases hmem
  conflictFailed := by
    intro a ha htype
    obtain ⟨ip, hip, hmem⟩ := conflict_of_type ha htype
    exact ⟨ip, hip, hmem, names_of_mem_planConflicts hmem,
      (planFailed_iff ip).mpr (mem_planConflicts hmem).2⟩
  plansBound := installPlanCounts_le dyn ips catsrcs
  sourcesBound := catalogSourceCounts_le dyn ips catsrcs

end HybridOperator.Collector
