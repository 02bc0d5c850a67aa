/-
  What a REAPPROVE_INSTALLPLAN call leaves in the cluster.

  The cluster is the objects the API server stores, by resource, namespace and name. An accepted
  Update stores the object it sends and an accepted Delete removes one; a rejected write changes
  nothing. What a merge patch makes of an object is a parameter: these calls send none.

  Proved:
  * `afterWrites_eq_filter`: only the accepted writes count.
  * `approve_eq_take`: the loop does not look at the plans behind the one it approves.
  * `approvedOnly_of_setApproved`: what is sent is the listed plan with `spec.approved` set.
  * `reapprove_outcome`: the two ways a call ends.
  * `reapprove_effect`: the call succeeds exactly when the Update of some unapproved plan is
    accepted. Then the first such plan is the only object that changes, and otherwise none does.
-/
import HybridOperator.Collector.Remediation

namespace HybridOperator.Collector

open HybridOperator.Lib

/-- The stored objects, by resource, namespace and name. -/
def Cluster : Type := GroupVersionResource → String → String → Option Unstructured

namespace Cluster

/-- The cluster with this object at this place, or with none there. -/
def store (cluster : Cluster) (gvr : GroupVersionResource) (ns name : String)
    (obj : Option Unstructured) : Cluster :=
  fun gvr' ns' name' =>
    if gvr' = gvr ∧ ns' = ns ∧ name' = name then obj else cluster gvr' ns' name'

variable (mergePatch : Unstructured → String → Unstructured) (cluster : Cluster)

/-- The cluster after one write. -/
def afterWrite : ClusterWrite × Bool → Cluster
  | (_, false) => cluster
  | (.update gvr ns obj, true) => cluster.store gvr ns obj.getName (some obj)
  | (.delete gvr ns name, true) => cluster.store gvr ns name none
  | (.patch gvr ns name body, true) =>
      cluster.store gvr ns name ((cluster gvr ns name).map (mergePatch · body))

/-- The cluster after the writes of a call, in the order they were sent. -/
def afterWrites (writes : WriteLog) : Cluster := writes.foldl (afterWrite mergePatch) cluster

/-- Only the accepted writes count. -/
theorem afterWrites_eq_filter (writes : WriteLog) :
    cluster.afterWrites mergePatch writes =
      cluster.afterWrites mergePatch (writes.filter Prod.snd) := by
  induction writes generalizing cluster with
  | nil => rfl
  | cons write writes ih =>
    obtain ⟨write, accepted⟩ := write
    cases accepted with
    | true => exact ih _
    | false => exact ih cluster

end Cluster

/-- The second plan is the first one with `spec.approved` set to true: every path that parts from
    `spec.approved` leads to the same value in both. -/
structure ApprovedOnly (ip ip' : Unstructured) : Prop where
  before : isApproved ip = false
  approved : nestedField (.obj ip'.object) ["spec", "approved"] = some (.bool true)
  same : ∀ path, ¬ path <+: ["spec", "approved"] → ¬ ["spec", "approved"] <+: path →
    nestedField (.obj ip'.object) path = nestedField (.obj ip.object) path

theorem approvedOnly_of_setApproved {ip ip' : Unstructured} (happ : isApproved ip = false)
    (hset : setApproved ip = some ip') : ApprovedOnly ip ip' := by
  obtain ⟨m, hm, rfl⟩ := Option.map_eq_some_iff.mp hset
  exact ⟨happ, nestedField_setNestedField hm, fun _ => nestedField_setNestedField_of_parts hm⟩

section Loop

variable (dyn : Nat → DynClient) (ns : String) (result : RemediationResult)

theorem firstAccepted_tail {k i : Nat} {ip p : Unstructured} {rest : List Unstructured}
    (h : FirstAccepted dyn ns k (ip :: rest) (i + 1) p) :
    FirstAccepted dyn ns (k + 1) rest i p := by
  obtain ⟨hp, hacc, hbefore⟩ := h
  refine ⟨hp, by rwa [Nat.add_right_comm], fun j p₀ hj hp₀ => ?_⟩
  have := hbefore (j + 1) p₀ (by omega) hp₀
  rwa [Nat.add_right_comm]

/-- The loop does not look at the plans behind the one it approves. -/
theorem approve_eq_take {k i : Nat} {plans : List Unstructured} {p : Unstructured}
    (h : FirstAccepted dyn ns k plans i p) :
    approveInstallPlans dyn ns result k plans =
      approveInstallPlans dyn ns result k (plans.take (i + 1)) := by
  induction plans generalizing k i with
  | nil => rfl
  | cons ip rest ih =>
    rw [List.take_succ_cons]
    cases i with
    | zero =>
      -- the head is approved: neither list is looked at behind it
      obtain ⟨hhead, hacc, -⟩ := h
      obtain rfl := Option.some.inj hhead
      have happ : Approvable ip := by
        by_contra hn
        rw [accepts_of_not_approvable dyn ns hn] at hacc
        cases hacc
      obtain ⟨ip', hset⟩ := Option.isSome_iff_exists.mp happ.2
      rw [accepts_of_setApproved dyn ns happ.1 hset, Nat.add_zero] at hacc
      rw [approve_send dyn ns result happ.1 hset, approve_send dyn ns result happ.1 hset,
        if_pos hacc, if_pos hacc]
    | succ i =>
      have hrest := ih (firstAccepted_tail dyn ns h)
      by_cases happ : Approvable ip
      · obtain ⟨ip', hset⟩ := Option.isSome_iff_exists.mp happ.2
        rw [approve_send dyn ns result happ.1 hset, approve_send dyn ns result happ.1 hset, hrest]
      · rw [approve_skip dyn ns result happ, approve_skip dyn ns result happ, hrest]

end Loop

theorem reapprove_eq {dyn : Nat → DynClient} {ns target : String} {plans : List Unstructured}
    (h : (dyn 0).list installPlanGVR ns "" = .ok plans) :
    executeRemediationAction dyn "REAPPROVE_INSTALLPLAN" ns target =
      approveInstallPlans dyn ns ⟨"REAPPROVE_INSTALLPLAN", target, ns, false, ""⟩ 0 plans := by
  unfold executeRemediationAction
  rw [if_pos rfl]
  simp only [h]

/-- A failed List ends the call without a write. -/
theorem reapprove_listFailed {dyn : Nat → DynClient} {ns target err : String}
    (h : (dyn 0).list installPlanGVR ns "" = .error err) :
    executeRemediationAction dyn "REAPPROVE_INSTALLPLAN" ns target =
      (⟨"REAPPROVE_INSTALLPLAN", target, ns, false, "Failed to query InstallPlans: " ++ err⟩, []) :=
    by
  unfold executeRemediationAction
  rw [if_pos rfl]
  simp only [h]

/-- The two ways a call ends: no Update is accepted, or the first plan whose Update is accepted
    is the one approved, and nothing is sent for the plans behind it. -/
theorem reapprove_outcome (dyn : Nat → DynClient) (ns target : String) :
    let run := executeRemediationAction dyn "REAPPROVE_INSTALLPLAN" ns target
    (run.1.success = false ∧ run.2.filter Prod.snd = [] ∧
      ∀ plans, (dyn 0).list installPlanGVR ns "" = .ok plans → NoneAccepted dyn ns 0 plans) ∨
    ∃ plans i ip ip', (dyn 0).list installPlanGVR ns "" = .ok plans ∧
      FirstAccepted dyn ns 0 plans i ip ∧ Approvable ip ∧ setApproved ip = some ip' ∧
      run.1 = approvedResult ⟨"REAPPROVE_INSTALLPLAN", target, ns, false, ""⟩ ip' ∧
      run.2.filter Prod.snd = [(.update installPlanGVR ns ip', true)] ∧
      ∀ w ∈ run.2, ∃ q ∈ plans.take (i + 1), ∃ q', setApproved q = some q' ∧
        w.1 = .update installPlanGVR ns q' := by
  intro run
  cases hlist : (dyn 0).list installPlanGVR ns "" with
  | error err =>
    have hrun : run = _ := reapprove_listFailed hlist
    rw [hrun]
    exact Or.inl ⟨rfl, rfl, fun plans hok => nomatch hok⟩
  | ok plans =>
    have hrun : run = _ := reapprove_eq hlist
    rcases approve_spec dyn ns ⟨"REAPPROVE_INSTALLPLAN", target, ns, false, ""⟩ 0 plans with
      ⟨hnone, hres, hlog⟩ | ⟨i, ip, ip', hfirst, happ, hset, hres, hlog⟩
    · rw [← hrun] at hres hlog
      refine Or.inl ⟨by rw [hres]; rfl, hlog, fun plans' hok => ?_⟩
      rwa [← Except.ok.inj hok]
    · rw [← hrun] at hres hlog
      refine Or.inr ⟨plans, i, ip, ip', rfl, hfirst, happ, hset, hres, hlog, fun w hw => ?_⟩
      rw [hrun, approve_eq_take dyn ns _ hfirst] at hw
      obtain ⟨q, hq, q', -, hset', hw⟩ := mem_writes dyn ns _ (b := w.2) hw
      exact ⟨q, hq, q', hset', hw⟩

/-- For every answer of the API server: the call succeeds exactly when the Update of some
    unapproved plan is accepted. Then the first such plan in list order is the one stored with
    `spec.approved` set, nothing else changes, the message names it and no write is sent for a
    plan behind it. When the call does not succeed no object changes. -/
theorem reapprove_effect (mergePatch : Unstructured → String → Unstructured)
    (dyn : Nat → DynClient) (cluster : Cluster) (ns target : String) :
    let run := executeRemediationAction dyn "REAPPROVE_INSTALLPLAN" ns target
    let after := cluster.afterWrites mergePatch run.2
    (run.1.success = true ↔ ∃ plans i ip, (dyn 0).list installPlanGVR ns "" = .ok plans ∧
      plans[i]? = some ip ∧ accepts dyn ns i ip = true) ∧
    (run.1.success = true → ∃ plans i ip ip', (dyn 0).list installPlanGVR ns "" = .ok plans ∧
      FirstAccepted dyn ns 0 plans i ip ∧ ApprovedOnly ip ip' ∧
      after = cluster.store installPlanGVR ns ip.getName (some ip') ∧
      run.1.message = "Successfully approved stuck InstallPlan " ++ ip.getName ∧
      ∀ w ∈ run.2, ∃ q ∈ plans.take (i + 1), ∃ q', setApproved q = some q' ∧
        w.1 = .update installPlanGVR ns q') ∧
    (run.1.success = false → after = cluster) := by
  intro run after
  have hafter : after = cluster.afterWrites mergePatch (run.2.filter Prod.snd) :=
    cluster.afterWrites_eq_filter mergePatch run.2
  rcases reapprove_outcome dyn ns target with
    ⟨hfail, hlog, hnone⟩ | ⟨plans, i, ip, ip', hlist, hfirst, happ, hset, hres, hlog, hwrites⟩
  · have hnot : ¬ run.1.success = true := by rw [hfail]; exact Bool.false_ne_true
    rw [hlog] at hafter
    refine ⟨iff_of_false hnot ?_, fun hs => absurd hs hnot, fun _ => hafter⟩
    rintro ⟨plans, i, ip, hok, hip, hacc⟩
    have hrejected := hnone plans hok i ip hip
    rw [Nat.zero_add, hacc] at hrejected
    cases hrejected
  · have hsucc : run.1.success = true := by rw [hres]; rfl
    have haccepts : accepts dyn ns i ip = true := by simpa using hfirst.2.1
    rw [hlog] at hafter
    refine ⟨iff_of_true hsucc ⟨plans, i, ip, hlist, hfirst.1, haccepts⟩, fun _ => ?_, fun hs => ?_⟩
    · refine ⟨plans, i, ip, ip', hlist, hfirst, approvedOnly_of_setApproved happ.1 hset, ?_, ?_,
        hwrites⟩
      · rw [hafter, ← getName_setApproved hset]
        rfl
      · rw [hres, ← getName_setApproved hset]
        rfl
    · rw [hsucc] at hs
      cases hs

end HybridOperator.Collector
