/-
  `CollectOLMHealthStatus` and `getPodStatus` of collector_health.go.

  The two loops count resources by a field of their status, so the counts are `countP`. A list
  that could not be read is `none`; its counts stay 0.

  Proved: `installPlanCounts_le` and `catalogSourceCounts_le`, no resource is counted on both
  sides.
-/
import HybridOperator.Collector.Types

namespace HybridOperator.Collector

open HybridOperator.Lib

/-- The loop over `containerStatuses` of a running pod: the first one that is not ready. -/
def runningStatus : List Json → String
  | [] => "Running"
  | cs :: rest =>
      match cs.asMap with
      | none => runningStatus rest
      | some csMap =>
          if nestedBool csMap ["ready"] = some false then
            match nestedMap csMap ["state", "waiting"] with
            | some waitingState =>
                let reason := (nestedString waitingState ["reason"]).getD ""
                if reason ≠ "" then "Degraded: " ++ reason else "Degraded"
            | none => "NotReady"
          else runningStatus rest

def getPodStatus (pod : Unstructured) : String :=
  match nestedString pod.object ["status", "phase"] with
  | none => "Unknown"
  | some phase =>
      if phase = "Running" then
        runningStatus ((nestedSlice pod.object ["status", "containerStatuses"]).getD [])
      else phase

/-- The pod the label selects in the namespace of OLM, as a status text. -/
def olmPodStatus (dyn : DynClient) (selector : String) : String :=
  match dyn.list podGVR "openshift-operator-lifecycle-manager" selector with
  | .ok (pod :: _) => getPodStatus pod
  | .ok [] => "NotFound"
  | .error _ => "Error"

def planPending (ip : Unstructured) : Bool :=
  nestedString ip.object ["status", "phase"] = some "Installing" ∨
    nestedString ip.object ["status", "phase"] = some "RequiresApproval"

def planFailed (ip : Unstructured) : Bool :=
  nestedString ip.object ["status", "phase"] = some "Failed"

/-- `status.connectionState.lastObservedState`. -/
def connState (cs : Unstructured) : Option String :=
  nestedString cs.object ["status", "connectionState", "lastObservedState"]

def sourceReady (cs : Unstructured) : Bool := connState cs = some "READY"

def sourceFailed (cs : Unstructured) : Bool :=
  connState cs = some "TRANSIENT_FAILURE" ∨ connState cs = some "SHUTDOWN"

def collectOLMHealthStatus (dyn : DynClient) (ips catsrcs : Option (List Unstructured)) :
    OLMHealthStatus :=
  let plans := ips.getD []
  let sources := catsrcs.getD []
  { installPlanCount := plans.length
    installPlanPending := plans.countP planPending
    installPlanFailed := plans.countP planFailed
    catalogSourceCount := sources.length
    catalogSourceReady := sources.countP sourceReady
    catalogSourceFailed := sources.countP sourceFailed
    olmOperatorStatus := olmPodStatus dyn "app=olm-operator"
    catalogOperatorStatus := olmPodStatus dyn "app=catalog-operator" }

/-! ## The counts -/

/-- Two predicates that exclude each other count no element twice. -/
theorem countP_add_countP_le {α : Type} {p q : α → Bool} (hpq : ∀ a, p a = true → q a = false)
    (l : List α) : l.countP p + l.countP q ≤ l.length := by
  induction l with
  | nil => simp
  | cons a l ih =>
    have h := hpq a
    simp only [List.countP_cons, List.length_cons]
    cases hp : p a with
    | true =>
      rw [h hp, if_pos rfl, if_neg Bool.false_ne_true]
      omega
    | false =>
      rw [if_neg Bool.false_ne_true]
      split <;> omega

theorem not_planFailed_of_planPending (ip : Unstructured) (h : planPending ip = true) :
    planFailed ip = false := by
  rcases of_decide_eq_true h with h | h <;> rw [planFailed, h] <;> decide

theorem not_sourceFailed_of_sourceReady (cs : Unstructured) (h : sourceReady cs = true) :
    sourceFailed cs = false := by
  have h' : connState cs = some "READY" := of_decide_eq_true h
  rw [sourceFailed, h']
  decide

/-- Pending and failed plans together never exceed the plans. -/
theorem installPlanCounts_le (dyn : DynClient) (ips catsrcs : Option (List Unstructured)) :
    (collectOLMHealthStatus dyn ips catsrcs).installPlanPending +
        (collectOLMHealthStatus dyn ips catsrcs).installPlanFailed ≤
      (collectOLMHealthStatus dyn ips catsrcs).installPlanCount :=
  countP_add_countP_le not_planFailed_of_planPending (ips.getD [])

/-- Ready and failed sources together never exceed the sources. -/
theorem catalogSourceCounts_le (dyn : DynClient) (ips catsrcs : Option (List Unstructured)) :
    (collectOLMHealthStatus dyn ips catsrcs).catalogSourceReady +
        (collectOLMHealthStatus dyn ips catsrcs).catalogSourceFailed ≤
      (collectOLMHealthStatus dyn ips catsrcs).catalogSourceCount :=
  countP_add_countP_le not_sourceFailed_of_sourceReady (catsrcs.getD [])

end HybridOperator.Collector
