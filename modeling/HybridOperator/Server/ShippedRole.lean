/-
  The operator under the ClusterRole it is shipped with.

  deploy.sh, operator-manifest.yaml and the Helm chart bind the operator's ServiceAccount to the
  same two rules: get, list and watch of everything, and delete of pods. An API server that
  enforces a role answers a call that no rule allows with an error; nothing is assumed about its
  answers to the others.

  The handlers also send Updates of InstallPlans, and Deletes and Patches of Subscriptions. No
  rule allows these.

  Proved: `shipped_role_run`, about every run. Only Deletes of pods are ever accepted, so a
  successful event in the audit log is a restart; and an approve request reports, whatever is
  pending, that no InstallPlan required intervention.
-/
import HybridOperator.Server.Mux

namespace HybridOperator.Server

open HybridOperator.Lib HybridOperator.Collector

/-! ## Roles -/

/-- A rule of a ClusterRole. -/
structure PolicyRule where
  apiGroups : List String
  resources : List String
  verbs : List String

/-- A list of a rule covers a value when it has it or a star. -/
def covers (values : List String) (value : String) : Bool :=
  values.contains "*" || values.contains value

def PolicyRule.allows (rule : PolicyRule) (verb : String) (gvr : GroupVersionResource) : Bool :=
  covers rule.apiGroups gvr.group && covers rule.resources gvr.resource && covers rule.verbs verb

abbrev ClusterRole := List PolicyRule

def ClusterRole.allows (role : ClusterRole) (verb : String) (gvr : GroupVersionResource) : Bool :=
  role.any fun rule => rule.allows verb gvr

/-- The rules of `hybrid-intelligent-operator-role`. -/
def hybridIntelligentOperatorRole : ClusterRole :=
  [⟨["*"], ["*"], ["get", "list", "watch"]⟩, ⟨[""], ["pods"], ["delete"]⟩]

def writeVerb : ClusterWrite → String
  | .update _ _ _ => "update"
  | .delete _ _ _ => "delete"
  | .patch _ _ _ _ => "patch"

def writeGVR : ClusterWrite → GroupVersionResource
  | .update gvr _ _ | .delete gvr _ _ | .patch gvr _ _ _ => gvr

/-- What the API server answers to a write. -/
def answerTo (dyn : DynClient) : ClusterWrite → Except String Unit
  | .update gvr ns obj => dyn.update gvr ns obj
  | .delete gvr ns name => dyn.delete gvr ns name
  | .patch gvr ns name body => dyn.patch gvr ns name body

/-- No call is answered that the role does not allow. -/
structure Enforces (role : ClusterRole) (dyn : DynClient) : Prop where
  list : ∀ gvr ns selector, role.allows "list" gvr = false → isOk (dyn.list gvr ns selector) = false
  get : ∀ gvr ns name, role.allows "get" gvr = false → isOk (dyn.get gvr ns name) = false
  write : ∀ w : ClusterWrite, role.allows (writeVerb w) (writeGVR w) = false →
    isOk (answerTo dyn w) = false

theorem role_update (gvr : GroupVersionResource) :
    hybridIntelligentOperatorRole.allows "update" gvr = false := by
  simp [hybridIntelligentOperatorRole, ClusterRole.allows, PolicyRule.allows, covers]

theorem role_patch (gvr : GroupVersionResource) :
    hybridIntelligentOperatorRole.allows "patch" gvr = false := by
  simp [hybridIntelligentOperatorRole, ClusterRole.allows, PolicyRule.allows, covers]

theorem role_delete (gvr : GroupVersionResource) :
    hybridIntelligentOperatorRole.allows "delete" gvr = true ↔
      gvr.group = "" ∧ gvr.resource = "pods" := by
  simp [hybridIntelligentOperatorRole, ClusterRole.allows, PolicyRule.allows, covers]

/-! ## The flags of the writes -/

theorem deletePods_flag {dyn : Nat → DynClient} {ns : String} {k : Nat}
    {pods : List Unstructured} {w : ClusterWrite × Bool}
    (h : w ∈ (deletePods dyn ns k pods).2) : ∃ j, w.2 = isOk (answerTo (dyn j) w.1) := by
  induction pods generalizing k with
  | nil => cases h
  | cons pod rest ih =>
    rw [deletePods] at h
    cases hdelete : (dyn (k + 1)).delete podGVR ns pod.getName with
    | ok _ =>
      rw [hdelete] at h
      obtain rfl := List.mem_singleton.mp h
      exact ⟨k + 1, by rw [answerTo, hdelete]; rfl⟩
    | error _ =>
      rw [hdelete] at h
      rcases List.mem_cons.mp h with rfl | h
      · exact ⟨k + 1, by rw [answerTo, hdelete]; rfl⟩
      · exact ih h

theorem approve_flag {dyn : Nat → DynClient} {ns : String} {result : RemediationResult} {k : Nat}
    {plans : List Unstructured} {w : ClusterWrite × Bool}
    (h : w ∈ (approveInstallPlans dyn ns result k plans).2) :
    ∃ j, w.2 = isOk (answerTo (dyn j) w.1) := by
  induction plans generalizing k with
  | nil => cases h
  | cons ip rest ih =>
    by_cases happ : Approvable ip
    · obtain ⟨ip', hset⟩ := Option.isSome_iff_exists.mp happ.2
      rw [approve_send dyn ns result happ.1 hset] at h
      split at h
      · rename_i hok
        obtain rfl := List.mem_singleton.mp h
        exact ⟨k + 1, hok.symm⟩
      · rename_i hok
        rcases List.mem_cons.mp h with rfl | h
        · exact ⟨k + 1, (Bool.not_eq_true _ ▸ hok).symm⟩
        · exact ih h
    · rw [approve_skip dyn ns result happ] at h
      exact ih h

theorem remediation_flag {dyn : Nat → DynClient} {action ns target : String}
    {w : ClusterWrite × Bool} (h : w ∈ (executeRemediationAction dyn action ns target).2) :
    ∃ j, w.2 = isOk (answerTo (dyn j) w.1) := by
  unfold executeRemediationAction at h
  split at h
  · split at h
    · cases h
    · exact approve_flag h
  · split at h
    · split at h
      · rename_i hdelete
        obtain rfl := List.mem_singleton.mp h
        exact ⟨0, by rw [answerTo, hdelete]; rfl⟩
      · rename_i hdelete
        obtain rfl := List.mem_singleton.mp h
        exact ⟨0, by rw [answerTo, hdelete]; rfl⟩
    · cases h

section Flags

variable {Body : Type} {codec : Codec Body}

theorem changeChannel_flag {r : Request Body} {auditLog : AuditLog} {w : ClusterWrite × Bool}
    (h : w ∈ (handleChangeChannel codec auditLog r).writes) :
    ∃ j, w.2 = isOk (answerTo (r.api j) w.1) := by
  unfold handleChangeChannel at h
  split at h
  · cases h
  · split at h
    · cases h
    · split at h
      · cases h
      · dsimp only at h
        split at h
        · rename_i hpatch
          obtain rfl := List.mem_singleton.mp h
          exact ⟨0, by rw [answerTo, hpatch]; rfl⟩
        · rename_i hpatch
          obtain rfl := List.mem_singleton.mp h
          exact ⟨0, by rw [answerTo, hpatch]; rfl⟩

/-- A write is noted as accepted exactly when the API server accepted it. -/
theorem flag_of_mem {r : HttpRequest Body} {endpoint : Logging} {auditLog : AuditLog}
    {w : ClusterWrite × Bool}
    (h : w ∈ (handle codec auditLog (loggingInput r endpoint)).writes) :
    ∃ j, w.2 = isOk (answerTo (r.api j) w.1) := by
  cases endpoint with
  | approve | delete =>
    obtain ⟨target, -, hw⟩ := withTarget_writes h
    exact remediation_flag hw
  | restartPod =>
    obtain ⟨target, -, hw⟩ := withTarget_writes h
    dsimp only at hw
    split at hw
    · exact deletePods_flag hw
    · cases hw
  | changeChannel => exact changeChannel_flag h
  | auditEvents => cases h

/-! ## Under the role -/

/-- Only the Delete of a pod is accepted, and only the restart handler sends one. -/
theorem restart_of_accepted {r : HttpRequest Body} {endpoint : Logging} {auditLog : AuditLog}
    (hrole : ∀ k, Enforces hybridIntelligentOperatorRole (r.api k)) {w : ClusterWrite × Bool}
    (h : w ∈ (handle codec auditLog (loggingInput r endpoint)).writes) (haccepted : w.2 = true) :
    endpoint = .restartPod ∧ ∃ ns pod, w.1 = .delete podGVR ns pod := by
  obtain ⟨j, hflag⟩ := flag_of_mem h
  have hallowed : hybridIntelligentOperatorRole.allows (writeVerb w.1) (writeGVR w.1) = true := by
    by_contra hrefused
    have hanswer := (hrole j).write w.1 (Bool.not_eq_true _ ▸ hrefused)
    rw [haccepted, hanswer] at hflag
    cases hflag
  obtain ⟨target, -, hsends⟩ := sends_of_mem h
  obtain ⟨w, accepted⟩ := w
  cases endpoint with
  | approve =>
    cases hsends
    rw [writeVerb, role_update] at hallowed
    cases hallowed
  | restartPod =>
    cases hsends with
    | restartPod _ _ pod => exact ⟨rfl, target.nameSpace, pod, rfl⟩
  | delete =>
    cases hsends
    have hgroup : subscriptionGVR.group = "" := (role_delete _).mp hallowed |>.1
    exact absurd hgroup (by decide)
  | changeChannel =>
    cases hsends
    rw [writeVerb, role_patch] at hallowed
    cases hallowed
  | auditEvents => cases hsends

/-- An approve request comes back without success, and blames no refusal of a write. -/
theorem approve_under_role (auditLog : AuditLog) {r : HttpRequest Body} {target : Target}
    (hrole : ∀ k, Enforces hybridIntelligentOperatorRole (r.api k))
    (hchecked : checkedTarget codec r.toRequest = some target) :
    ∃ result, (handle codec auditLog (loggingInput r .approve)).response = .remediation result ∧
      result.success = false ∧
      ((∃ err, (r.api 0).list installPlanGVR target.nameSpace "" = .error err ∧
          result.message = "Failed to query InstallPlans: " ++ err) ∨
        result.message = "No unapproved InstallPlans required intervention.") := by
  have hresponse : (handle codec auditLog (loggingInput r .approve)).response =
      .remediation (executeRemediationAction r.api "REAPPROVE_INSTALLPLAN" target.nameSpace
        target.name).1 := by
    rw [loggingInput, handle, handleApproveUpgrade, handleRemediation,
      withTarget_of_some hchecked]
  refine ⟨_, hresponse, ?_⟩
  cases hlist : (r.api 0).list installPlanGVR target.nameSpace "" with
  | error err =>
    rw [reapprove_listFailed hlist]
    exact ⟨rfl, .inl ⟨err, rfl, rfl⟩⟩
  | ok plans =>
    rw [reapprove_eq hlist]
    rcases approve_spec r.api target.nameSpace
      ⟨"REAPPROVE_INSTALLPLAN", target.name, target.nameSpace, false, ""⟩ 0 plans with
      ⟨-, hresult, -⟩ | ⟨i, ip, ip', hfirst, happ, hset, -, -⟩
    · rw [hresult]
      exact ⟨rfl, .inr rfl⟩
    · -- the role refuses the Update that would have been the first one accepted
      have hrefused := (hrole (0 + i + 1)).write (.update installPlanGVR target.nameSpace ip')
        (role_update _)
      have haccepts := hfirst.2.1
      rw [accepts_of_setApproved _ _ happ.1 hset] at haccepts
      rw [answerTo, haccepts] at hrefused
      cases hrefused

end Flags

/-! ## Runs -/

section Runs

variable {Body : Type} (platform : Platform Body)

/-- The API server enforces the role throughout. -/
def Enforced (activities : List (Activity Body)) : Prop :=
  ∀ r, .request r ∈ activities → ∀ k, Enforces hybridIntelligentOperatorRole (r.api k)

variable {platform}

theorem eventType_of_success {r : HttpRequest Body} {endpoint : Logging}
    (hrole : ∀ k, Enforces hybridIntelligentOperatorRole (r.api k)) {e : AuditEvent}
    (h : Records platform.codec (loggingInput r endpoint) e) (hsuccess : e.success = true) :
    e.type = "restart" := by
  have haccepted := (h.success []).mp hsuccess
  obtain ⟨w, hw, htrue⟩ := List.any_eq_true.mp haccepted
  rw [h.type, (restart_of_accepted hrole hw htrue).1]
  rfl

variable (platform)

/-- **The shipped role.** While the API server enforces the role, in every run: the writes that
    are accepted are Deletes of pods, a successful event in the audit log is a restart, and an
    approve request is told either that the List failed or that nothing required intervention. -/
theorem shipped_role_run (activities : List (Activity Body)) (henforced : Enforced activities) :
    (∀ before r after, activities = before ++ .request r :: after →
      ∀ w ∈ (serve platform (processAfter platform before) r).2.2, w.2 = true →
        ∃ ns pod, w.1 = .delete podGVR ns pod) ∧
    (∀ e ∈ (processAfter platform activities).auditLog, e.success = true → e.type = "restart") ∧
    ∀ before r after, activities = before ++ .request r :: after →
      findHandler platform.unescape r.method r.segments = .handler (.logging .approve) →
      ∀ target, checkedTarget platform.codec r.toRequest = some target →
      ∃ result, (serve platform (processAfter platform before) r).2.1 =
          .handled (.remediation result) ∧ result.success = false ∧
        ((∃ err, (r.api 0).list installPlanGVR target.nameSpace "" = .error err ∧
            result.message = "Failed to query InstallPlans: " ++ err) ∨
          result.message = "No unapproved InstallPlans required intervention.") := by
  refine ⟨?_, fun e he hsuccess => ?_, ?_⟩
  · rintro before r after rfl w hw haccepted
    have hrole := henforced r (by simp)
    unfold serve at hw
    split at hw
    · cases hw
    · cases hw
    · cases hw
    · exact (restart_of_accepted hrole hw haccepted).2
  · obtain ⟨r, endpoint, hmem, -, hrecords⟩ := record_of_mem platform he
    exact eventType_of_success (henforced r hmem) hrecords hsuccess
  · rintro before r after rfl hfound target hchecked
    have hrole := henforced r (by simp)
    obtain ⟨result, hresponse, hresult⟩ :=
      approve_under_role (processAfter platform before).auditLog hrole hchecked
    refine ⟨result, ?_, hresult⟩
    rw [serve, hfound]
    dsimp only
    rw [hresponse]

end Runs

/-! ### An API server that enforces the role -/

/-- A client whose calls are refused when the role does not allow them. -/
def restricted (role : ClusterRole) (dyn : DynClient) : DynClient where
  list gvr ns selector :=
    if role.allows "list" gvr then dyn.list gvr ns selector else .error "forbidden"
  get gvr ns name := if role.allows "get" gvr then dyn.get gvr ns name else .error "forbidden"
  update gvr ns obj :=
    if role.allows "update" gvr then dyn.update gvr ns obj else .error "forbidden"
  delete gvr ns name :=
    if role.allows "delete" gvr then dyn.delete gvr ns name else .error "forbidden"
  patch gvr ns name body :=
    if role.allows "patch" gvr then dyn.patch gvr ns name body else .error "forbidden"

theorem enforces_restricted (role : ClusterRole) (dyn : DynClient) :
    Enforces role (restricted role dyn) := by
  refine ⟨fun gvr ns selector h => ?_, fun gvr ns name h => ?_, fun w h => ?_⟩
  · simp [restricted, h, isOk]
  · simp [restricted, h, isOk]
  · cases w with
    | update gvr ns obj => simp_all [restricted, isOk, answerTo, writeVerb, writeGVR]
    | delete gvr ns name => simp_all [restricted, isOk, answerTo, writeVerb, writeGVR]
    | patch gvr ns name body => simp_all [restricted, isOk, answerTo, writeVerb, writeGVR]

/-- A platform whose requests have their target as the body. -/
def targetPlatform : Platform Target where
  codec := ⟨some, fun _ => none, fun _ => true⟩
  unescape := id
  unescape_plain := unescape_id
  quantities := plainQuantities
  getenv _ := ""
  parseFloat _ := none

/-- The InstallPlan and the pod of an operator `etcd`. -/
def waitingPlan : GroupVersionResource → List Unstructured := fun gvr =>
  if gvr = installPlanGVR then [⟨[metadata "operators" "install-etcd", ("spec", .obj [])]⟩]
  else if gvr = podGVR then [⟨[metadata "operators" "etcd-0"]⟩]
  else []

/-- A POST about `etcd` to one of the action endpoints. -/
def etcdRequest (action : String) : HttpRequest Target where
  method := "POST"
  body := ⟨"operators", "etcd"⟩
  now := ""
  api _ := restricted hybridIntelligentOperatorRole (snapshotClient waitingPlan)
  segments := ["api", "v1", "actions", action]
  query _ := ""
  pyxis := .error ""
  order := .asStored

/-- The restart is done and the approval is not, although the plan waits for it. -/
theorem shipped_role_run_etcd :
    (processAfter targetPlatform
      [.request (etcdRequest "approve"), .request (etcdRequest "restart-pod")]).auditLog =
        [⟨"", "approve", "operators", "etcd",
            "No unapproved InstallPlans required intervention.", false⟩,
          ⟨"", "restart", "operators", "etcd", "Pod etcd-0 deleted successfully", true⟩] ∧
    ∀ e ∈ (processAfter targetPlatform
      [.request (etcdRequest "approve"), .request (etcdRequest "restart-pod")]).auditLog,
        e.success = true → e.type = "restart" := by
  refine ⟨by decide +kernel, (shipped_role_run targetPlatform _ fun r hr k => ?_).2.1⟩
  obtain rfl | rfl : r = etcdRequest "approve" ∨ r = etcdRequest "restart-pod" := by
    simpa using hr
  · exact enforces_restricted _ _
  · exact enforces_restricted _ _

end HybridOperator.Server
