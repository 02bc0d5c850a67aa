/-
  What an approve request tells about a failure.

  The loop of REAPPROVE_INSTALLPLAN drops the errors of the Updates, and all ways out of it that
  approve nothing meet in one message, "No unapproved InstallPlans required intervention.".
  `ReportsFailure` is what a reader of the answer and of the audit log needs: when some listed
  plan was not approved and no Update was accepted, neither of them looks like what the same
  request leaves behind on a namespace whose plans are all approved.

  Proved:
  * `handle_noneAccepted`: without an accepted Update the answer and the event depend on the
    request only, not on the plans.
  * `reportsFailure_iff`: the failure is told exactly when there is none, that is when every
    listed plan was approved already or some Update was accepted.
-/
import HybridOperator.Server.ApproveScope
import HybridOperator.Collector.ReapproveEffect

namespace HybridOperator.Server

open HybridOperator.Collector HybridOperator.Lib

/-- The message of a call that had nothing to do. -/
def nothingRequired : String := "No unapproved InstallPlans required intervention."

section Request

variable {Body : Type} (codec : Codec Body) (auditLog : AuditLog) (r : Request Body)
  (req : Target)

/-- A request that finds an unapproved plan and approves none leaves another answer and another
    audit log than on any namespace whose plans are all approved, and its answer is not that
    nothing required intervention. -/
def ReportsFailure (plans : List Unstructured) : Prop :=
  (∃ ip ∈ plans, isApproved ip = false) → NoneAccepted r.api req.nameSpace 0 plans →
    (∀ (api : Nat → DynClient) (approved : List Unstructured),
      (api 0).list installPlanGVR req.nameSpace "" = .ok approved →
      (∀ ip ∈ approved, isApproved ip = true) →
      (handleApproveUpgrade codec auditLog r).response ≠
          (handleApproveUpgrade codec auditLog { r with api := api }).response ∧
        (handleApproveUpgrade codec auditLog r).auditLog ≠
          (handleApproveUpgrade codec auditLog { r with api := api }).auditLog) ∧
    ∀ result, (handleApproveUpgrade codec auditLog r).response = .remediation result →
      result.message ≠ nothingRequired

/-- What a call answers that had nothing to do. -/
def nothingResult : RemediationResult :=
  ⟨"REAPPROVE_INSTALLPLAN", req.name, req.nameSpace, false, nothingRequired⟩

theorem noneAccepted_of_approved {dyn : Nat → DynClient} {ns : String}
    {plans : List Unstructured} (h : ∀ ip ∈ plans, isApproved ip = true) :
    NoneAccepted dyn ns 0 plans := by
  intro i ip hip
  refine accepts_of_not_approvable dyn ns fun happ => ?_
  have hfalse := happ.1
  rw [h ip (List.mem_of_getElem? hip)] at hfalse
  cases hfalse

/-- Without an accepted Update the loop gives the result of an empty list. -/
theorem approve_noneAccepted {dyn : Nat → DynClient} {ns : String} {plans : List Unstructured}
    (result : RemediationResult) (h : NoneAccepted dyn ns 0 plans) :
    (approveInstallPlans dyn ns result 0 plans).1 = noneResult result := by
  rcases approve_spec dyn ns result 0 plans with ⟨-, hres, -⟩ | ⟨i, ip, -, hfirst, -⟩
  · exact hres
  · have hfalse := h i ip hfirst.1
    rw [hfirst.2.1] at hfalse
    cases hfalse

variable {r req}

/-- Without an accepted Update the answer and the event depend on the request only. -/
theorem handle_noneAccepted (hmethod : r.method = "POST") (hbody : codec.target r.body = some req)
    {plans : List Unstructured}
    (hlist : (r.api 0).list installPlanGVR req.nameSpace "" = .ok plans)
    (hnone : NoneAccepted r.api req.nameSpace 0 plans) :
    (handleApproveUpgrade codec auditLog r).response = .remediation (nothingResult req) ∧
      (handleApproveUpgrade codec auditLog r).auditLog =
        recordAudit auditLog r.now "approve" req.nameSpace req.name nothingRequired false := by
  have hres := approve_noneAccepted
    ⟨"REAPPROVE_INSTALLPLAN", req.name, req.nameSpace, false, ""⟩ hnone
  unfold handleApproveUpgrade handleRemediation withTarget
  simp only [hmethod, hbody, ne_eq, not_true_eq_false, if_false, reapprove_eq hlist, hres]
  exact ⟨rfl, rfl⟩

/-- The failure of an approve request is told exactly when there is none: every listed plan was
    approved already, or some Update was accepted. In every other case the answer and the audit
    log are those of the same request on any namespace whose plans are all approved. -/
theorem reportsFailure_iff (hmethod : r.method = "POST") (hbody : codec.target r.body = some req)
    (plans : List Unstructured)
    (hlist : (r.api 0).list installPlanGVR req.nameSpace "" = .ok plans) :
    (ReportsFailure codec auditLog r req plans ↔
      (∀ ip ∈ plans, isApproved ip = true) ∨
        ∃ i ip, plans[i]? = some ip ∧ accepts r.api req.nameSpace i ip = true) ∧
    (NoneAccepted r.api req.nameSpace 0 plans →
      ∀ (api : Nat → DynClient) (approved : List Unstructured),
        (api 0).list installPlanGVR req.nameSpace "" = .ok approved →
        (∀ ip ∈ approved, isApproved ip = true) →
        (handleApproveUpgrade codec auditLog r).response =
            (handleApproveUpgrade codec auditLog { r with api := api }).response ∧
          (handleApproveUpgrade codec auditLog r).auditLog =
            (handleApproveUpgrade codec auditLog { r with api := api }).auditLog) := by
  refine ⟨⟨fun h => ?_, fun hcond hun hnone => ?_⟩, fun hnone api approved happroved hall => ?_⟩
  · by_contra hcond
    push Not at hcond
    obtain ⟨⟨ip, hip, happ⟩, hrejected⟩ := hcond
    have hnone : NoneAccepted r.api req.nameSpace 0 plans := by
      intro i p hp
      rw [Nat.zero_add]
      exact Bool.eq_false_iff.mpr (hrejected i p hp)
    obtain ⟨-, hmessage⟩ := h ⟨ip, hip, Bool.eq_false_iff.mpr happ⟩ hnone
    exact hmessage _ (handle_noneAccepted codec auditLog hmethod hbody hlist hnone).1 rfl
  · exfalso
    rcases hcond with happ | ⟨i, ip, hip, hacc⟩
    · obtain ⟨ip, hip, hfalse⟩ := hun
      rw [happ ip hip] at hfalse
      cases hfalse
    · have hfalse := hnone i ip hip
      rw [Nat.zero_add, hacc] at hfalse
      cases hfalse
  · have hthis := handle_noneAccepted codec auditLog hmethod hbody hlist hnone
    have hthat := handle_noneAccepted codec auditLog (r := { r with api := api }) hmethod hbody
      happroved (noneAccepted_of_approved hall)
    exact ⟨hthis.1.trans hthat.1.symm, hthis.2.trans hthat.2.symm⟩

end Request

/-! ### A plan whose Update is rejected -/

/-- The approve request for etcd on an API server that lists one pending plan and rejects its
    Update. -/
def rejectedEtcd : Request Target :=
  { approveEtcd [] with api := fun _ => acceptsOnly [pendingPlan "install-etcd" "etcd"] "" }

/-- The pending plan could not be approved, and the answer is that nothing was required. -/
theorem rejected_update_not_reported :
    ¬ ReportsFailure targetCodec [] rejectedEtcd ⟨"openshift-operators", "etcd"⟩
      [pendingPlan "install-etcd" "etcd"] := by
  intro h
  have hnone : NoneAccepted rejectedEtcd.api "openshift-operators" 0
      [pendingPlan "install-etcd" "etcd"] := by
    intro i ip hip
    cases i with
    | zero =>
      obtain rfl := Option.some.inj hip
      decide
    | succ i => cases hip
  have hun : isApproved (pendingPlan "install-etcd" "etcd") = false := by decide
  exact (h ⟨_, List.mem_cons_self, hun⟩ hnone).2
    (nothingResult ⟨"openshift-operators", "etcd"⟩) rfl rfl

theorem reportsFailure_iff_rejected_update :
    (ReportsFailure targetCodec [] rejectedEtcd ⟨"openshift-operators", "etcd"⟩
        [pendingPlan "install-etcd" "etcd"] ↔
      (∀ ip ∈ [pendingPlan "install-etcd" "etcd"], isApproved ip = true) ∨
        ∃ i ip, [pendingPlan "install-etcd" "etcd"][i]? = some ip ∧
          accepts rejectedEtcd.api "openshift-operators" i ip = true) ∧
    (NoneAccepted rejectedEtcd.api "openshift-operators" 0 [pendingPlan "install-etcd" "etcd"] →
      ∀ (api : Nat → DynClient) (approved : List Unstructured),
        (api 0).list installPlanGVR "openshift-operators" "" = .ok approved →
        (∀ ip ∈ approved, isApproved ip = true) →
        (handleApproveUpgrade targetCodec [] rejectedEtcd).response =
            (handleApproveUpgrade targetCodec [] { rejectedEtcd with api := api }).response ∧
          (handleApproveUpgrade targetCodec [] rejectedEtcd).auditLog =
            (handleApproveUpgrade targetCodec [] { rejectedEtcd with api := api }).auditLog) :=
  reportsFailure_iff targetCodec [] rfl rfl [pendingPlan "install-etcd" "etcd"] rfl

end HybridOperator.Server
