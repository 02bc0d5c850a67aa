/-
  Which InstallPlans of a namespace an approve request can change.

  The content of the namespace is the list of its plans, with distinct names. `stored` is a plan
  after the writes of a request: each accepted Update with its name replaces it. A plan belongs
  to a Subscription when one of its owner references names it.

  The name in the request plays no part in the choice of the plan. So a plan of another operator
  can be approved (`approve_changes_other`), and the request stays with the plans of the named
  Subscription exactly when there are no others to approve (`approve_scope_iff`).
-/
import HybridOperator.Server.Actions

namespace HybridOperator.Server

open HybridOperator.Collector HybridOperator.Lib

/-- An owner reference of the plan names the Subscription. -/
def OwnedBy (ip : Unstructured) (name : String) : Prop :=
  ∃ ref ∈ nestedMaps ip.object ["metadata", "ownerReferences"],
    stringField ref "kind" = "Subscription" ∧ stringField ref "name" = name

/-- A write, if it was accepted and is an Update of this plan, replaces it. -/
def applyWrite (ns : String) (ip : Unstructured) (write : ClusterWrite × Bool) : Unstructured :=
  match write with
  | (.update gvr ns' obj, true) =>
      if gvr = installPlanGVR ∧ ns' = ns ∧ obj.getName = ip.getName then obj else ip
  | _ => ip

/-- A plan of the namespace after the writes. -/
def stored (ns : String) (writes : WriteLog) (ip : Unstructured) : Unstructured :=
  writes.foldl (applyWrite ns) ip

theorem stored_eq_filter (ns : String) (writes : WriteLog) (ip : Unstructured) :
    stored ns writes ip = stored ns (writes.filter Prod.snd) ip := by
  induction writes generalizing ip with
  | nil => rfl
  | cons write writes ih =>
    obtain ⟨write, accepted⟩ := write
    cases accepted with
    | true => exact ih _
    | false =>
      have hkeep : applyWrite ns ip (write, false) = ip := by cases write <;> rfl
      rw [stored, List.foldl_cons, hkeep]
      exact ih ip

/-- One accepted Update replaces the plan with its name and no other. -/
theorem stored_singleton (ns : String) (ip obj : Unstructured) :
    stored ns [(.update installPlanGVR ns obj, true)] ip =
      if obj.getName = ip.getName then obj else ip := by
  simp [stored, applyWrite]

section Loop

variable (dyn : Nat → DynClient) (ns : String) (result : RemediationResult)

/-- After the loop either every plan is as it was, or one is approved: the first in the list
    whose Update was accepted. -/
theorem stored_approve (plans : List Unstructured) :
    (NoneAccepted dyn ns 0 plans ∧ ∀ ip,
      stored ns (approveInstallPlans dyn ns result 0 plans).2 ip = ip) ∨
    ∃ i ip₀ ip', FirstAccepted dyn ns 0 plans i ip₀ ∧ Approvable ip₀ ∧
      setApproved ip₀ = some ip' ∧ ∀ ip,
        stored ns (approveInstallPlans dyn ns result 0 plans).2 ip =
          if ip₀.getName = ip.getName then ip' else ip := by
  rcases approve_spec dyn ns result 0 plans with ⟨hnone, -, hwrites⟩ |
    ⟨i, ip₀, ip', hfirst, happ, hset, -, hwrites⟩
  · refine Or.inl ⟨hnone, fun ip => ?_⟩
    rw [stored_eq_filter, hwrites]
    rfl
  · refine Or.inr ⟨i, ip₀, ip', hfirst, happ, hset, fun ip => ?_⟩
    rw [stored_eq_filter, hwrites, stored_singleton, getName_setApproved hset]

end Loop

section Request

variable {Body : Type} (codec : Codec Body) (auditLog : AuditLog) (r : Request Body)
  (req : Target)

theorem writes_approve {r : Request Body} {req : Target} (hmethod : r.method = "POST")
    (hbody : codec.target r.body = some req) {plans : List Unstructured}
    (hlist : (r.api 0).list installPlanGVR req.nameSpace "" = .ok plans) :
    (handleApproveUpgrade codec auditLog r).writes =
      (approveInstallPlans r.api req.nameSpace
        ⟨"REAPPROVE_INSTALLPLAN", req.name, req.nameSpace, false, ""⟩ 0 plans).2 := by
  unfold handleApproveUpgrade handleRemediation withTarget executeRemediationAction
  simp only [hmethod, hbody, ne_eq, not_true_eq_false, if_false, if_true, hlist]

/-- The API server that lists these plans and accepts the Updates of one name only. -/
def acceptsOnly (plans : List Unstructured) (name : String) : DynClient where
  list _ _ _ := .ok plans
  get _ _ _ := .error "not found"
  update _ _ obj := if obj.getName = name then .ok () else .error "conflict"
  delete _ _ _ := .error "forbidden"
  patch _ _ _ _ := .error "forbidden"

theorem accepts_acceptsOnly (plans : List Unstructured) (name ns : String) (k : Nat)
    {ip ip' : Unstructured} (ha : isApproved ip = false) (hset : setApproved ip = some ip') :
    accepts (fun _ => acceptsOnly plans name) ns k ip = decide (ip.getName = name) := by
  rw [accepts_of_setApproved _ _ ha hset]
  unfold acceptsOnly
  dsimp only
  rw [getName_setApproved hset]
  split
  · rename_i hname
    exact (decide_eq_true hname).symm
  · rename_i hname
    exact (decide_eq_false hname).symm

/-- A plan whose approval a request changes was not approved and could be. -/
theorem approvable_of_changed {r : Request Body} {req : Target} {plans : List Unstructured}
    (hnames : (plans.map (·.getName)).Nodup) (hmethod : r.method = "POST")
    (hbody : codec.target r.body = some req)
    (hlist : (r.api 0).list installPlanGVR req.nameSpace "" = .ok plans) {ip : Unstructured}
    (hip : ip ∈ plans)
    (hchanged : isApproved (stored req.nameSpace
      (handleApproveUpgrade codec auditLog r).writes ip) ≠ isApproved ip) : Approvable ip := by
  rw [writes_approve codec auditLog hmethod hbody hlist] at hchanged
  rcases stored_approve r.api req.nameSpace
      ⟨"REAPPROVE_INSTALLPLAN", req.name, req.nameSpace, false, ""⟩ plans with
    ⟨-, hstored⟩ | ⟨i, ip₀, ip₁, hfirst, happ, -, hstored⟩
  · rw [hstored] at hchanged
    exact absurd rfl hchanged
  · rw [hstored] at hchanged
    split at hchanged
    · rename_i hname
      have hmem : ip₀ ∈ plans := List.mem_of_getElem? hfirst.1
      have heq : ip₀ = ip := List.inj_on_of_nodup_map hnames hmem hip hname
      exact heq ▸ happ
    · exact absurd rfl hchanged

/-- When the API server rejects the Updates of all other plans, a plan that can be approved is. -/
theorem changed_of_approvable {r : Request Body} {req : Target} {plans : List Unstructured}
    (hmethod : r.method = "POST") (hbody : codec.target r.body = some req) {ip : Unstructured}
    (hapi : r.api = fun _ => acceptsOnly plans ip.getName) (hip : ip ∈ plans)
    (happ : Approvable ip) :
    isApproved (stored req.nameSpace (handleApproveUpgrade codec auditLog r).writes ip) ≠
      isApproved ip := by
  have hlist : (r.api 0).list installPlanGVR req.nameSpace "" = .ok plans := by rw [hapi]; rfl
  rw [writes_approve codec auditLog hmethod hbody hlist, hapi]
  obtain ⟨ip', hset⟩ := Option.isSome_iff_exists.mp happ.2
  rcases stored_approve (fun _ => acceptsOnly plans ip.getName) req.nameSpace
      ⟨"REAPPROVE_INSTALLPLAN", req.name, req.nameSpace, false, ""⟩ plans with
    ⟨hnone, -⟩ | ⟨i, ip₀, ip₁, ⟨-, hacc, -⟩, happ₀, hset₀, hstored⟩
  · obtain ⟨i, hi⟩ := List.mem_iff_getElem?.mp hip
    have hfalse := hnone i ip hi
    rw [accepts_acceptsOnly _ _ _ _ happ.1 hset] at hfalse
    exact absurd rfl (of_decide_eq_false hfalse)
  · rw [accepts_acceptsOnly _ _ _ _ happ₀.1 hset₀] at hacc
    rw [hstored, if_pos (of_decide_eq_true hacc), isApproved_setApproved hset₀, happ.1]
    decide

/-- Whatever Updates the API server accepts, an approve request changes the approval of plans of
    the named Subscription only, exactly when every plan of the namespace that can be approved
    belongs to it. -/
theorem approve_scope_iff (plans : List Unstructured) (hnames : (plans.map (·.getName)).Nodup)
    (hmethod : r.method = "POST") (hbody : codec.target r.body = some req) :
    (∀ api : Nat → DynClient, (api 0).list installPlanGVR req.nameSpace "" = .ok plans →
        ∀ ip ∈ plans, isApproved (stored req.nameSpace
            (handleApproveUpgrade codec auditLog { r with api := api }).writes ip) ≠
          isApproved ip → OwnedBy ip req.name) ↔
      ∀ ip ∈ plans, Approvable ip → OwnedBy ip req.name := by
  constructor
  · intro h ip hip happ
    let api : Nat → DynClient := fun _ => acceptsOnly plans ip.getName
    have hchanged := changed_of_approvable codec auditLog (r := { r with api := api }) hmethod
      hbody rfl hip happ
    exact h api rfl ip hip hchanged
  · intro h api hlist ip hip hchanged
    have happ := approvable_of_changed codec auditLog (r := { r with api := api }) hnames hmethod
      hbody hlist hip hchanged
    exact h ip hip happ

end Request

/-! ### Two operators in one namespace -/

/-- An InstallPlan of the named Subscription that waits for approval. -/
def pendingPlan (name subscription : String) : Unstructured :=
  ⟨[("metadata", .obj [("name", .str name), ("ownerReferences", .arr [.obj
    [("kind", .str "Subscription"), ("name", .str subscription)]])]),
    ("spec", .obj [("approved", .bool false)])]⟩

/-- A body that is already decoded. -/
def targetCodec : Codec Target := ⟨some, fun _ => none, fun _ => true⟩

/-- Approve the upgrade of `etcd`; the API server lists the plans and accepts every Update. -/
def approveEtcd (plans : List Unstructured) : Request Target where
  method := "POST"
  body := ⟨"openshift-operators", "etcd"⟩
  now := "2025-01-01T00:00:00Z"
  api := fun _ => { acceptsOnly plans "" with update := fun _ _ _ => .ok () }

/-- The plan of kiali comes first in the list, so approving the upgrade of etcd approves it. -/
theorem approve_changes_other :
    let plans := [pendingPlan "install-kiali" "kiali", pendingPlan "install-etcd" "etcd"]
    let after := stored "openshift-operators"
      (handleApproveUpgrade targetCodec [] (approveEtcd plans)).writes
    isApproved (pendingPlan "install-kiali" "kiali") = false ∧
      isApproved (after (pendingPlan "install-kiali" "kiali")) = true ∧
      isApproved (after (pendingPlan "install-etcd" "etcd")) = false ∧
      ¬ OwnedBy (pendingPlan "install-kiali" "kiali") "etcd" := by
  refine ⟨by decide, by decide, by decide, ?_⟩
  rintro ⟨ref, href, -, hname⟩
  rw [show nestedMaps (pendingPlan "install-kiali" "kiali").object
    ["metadata", "ownerReferences"] = [[("kind", .str "Subscription"), ("name", .str "kiali")]]
    from rfl] at href
  rw [List.mem_singleton.mp href] at hname
  revert hname
  decide

theorem approve_scope_iff_two_plans :
    (∀ api : Nat → DynClient, (api 0).list installPlanGVR "openshift-operators" "" =
          .ok [pendingPlan "install-kiali" "kiali", pendingPlan "install-etcd" "etcd"] →
        ∀ ip ∈ [pendingPlan "install-kiali" "kiali", pendingPlan "install-etcd" "etcd"],
          isApproved (stored "openshift-operators" (handleApproveUpgrade targetCodec []
            { approveEtcd [] with api := api }).writes ip) ≠ isApproved ip →
          OwnedBy ip "etcd") ↔
      ∀ ip ∈ [pendingPlan "install-kiali" "kiali", pendingPlan "install-etcd" "etcd"],
        Approvable ip → OwnedBy ip "etcd" :=
  approve_scope_iff targetCodec [] (approveEtcd []) ⟨"openshift-operators", "etcd"⟩
    [pendingPlan "install-kiali" "kiali", pendingPlan "install-etcd" "etcd"] (by decide) rfl rfl

end HybridOperator.Server
