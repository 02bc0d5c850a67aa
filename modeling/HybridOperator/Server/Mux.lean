/-
  The HTTP server of main.go: `http.DefaultServeMux` with the routes that `main` registers, all of
  their handlers, and the sweeps of `runGovernanceLoop` in between.

  The routines share `opCache` and `auditLog`, each behind its lock, so a run is a sequence of
  sweeps and requests. The path of a request is the list of its raw segments: "/a/b/" is
  ["a", "b", ""]. `Platform` is what is used of the standard library and the environment.
  A figure of `handleGetOperatorCost` is a `float64`, Lean's `Float`.

  Proved: `operator_run`, about every run. The cache is the answer of the last sweep that
  succeeded, the audit log tracks the requests to the action endpoints, and nothing else sends a
  write: not a GET, not a request that its checks turn away, not a sweep.
-/
import HybridOperator.Collector.ImpactAnalysis
import HybridOperator.Collector.ReapproveEffect
import HybridOperator.Server.AuditTrail
import HybridOperator.Server.CVEReports
import HybridOperator.Server.InventoryLog
import HybridOperator.Server.PodUsage

namespace HybridOperator.Server

open HybridOperator.Lib HybridOperator.Collector

/-! ## Requests and answers -/

/-- A request as the mux gets it. -/
structure HttpRequest (Body : Type) extends Request Body where
  segments : List String
  /-- `r.URL.Query().Get` -/
  query : String → String
  /-- what a request to Pyxis comes to meanwhile -/
  pyxis : Except String Nat
  /-- the order of the `range` over a map -/
  order : RangeOrder String

structure Platform (Body : Type) where
  codec : Codec Body
  /-- `url.PathUnescape` -/
  unescape : String → String
  /-- nothing is escaped without a percent sign -/
  unescape_plain : ∀ s : String, '%' ∉ s.toList → unescape s = s
  quantities : Quantities
  /-- `os.Getenv` -/
  getenv : String → String
  /-- `strconv.ParseFloat` -/
  parseFloat : String → Option Float

/-- For paths without escapes. -/
theorem unescape_id (s : String) (_ : '%' ∉ s.toList) : id s = s := rfl

/-- What `handleGetOperatorCost` encodes. -/
structure OperatorCost where
  operator : String
  nameSpace : String
  metricsAvailable : Bool
  cpuCores : Float
  memoryGib : Float
  cpuCoreHour : Float
  memGibHour : Float
  hourlyCost : Float
  monthlyCost : Float

/-- What `handleGetOperatorCVEs` encodes. -/
structure OperatorCVEs where
  operator : String
  package : String
  version : String
  cves : List CVEInfo
  count : Nat

inductive Answer where
  | redirect (location : List String)
  | error (status : Nat) (text : String)
  /-- of an action handler or the audit endpoint -/
  | handled (response : Response)
  | inventory (resp : ClusterGovernanceResponse)
  | object (obj : Unstructured)
  | usage (operator nameSpace : String) (usage : ControllerUsage)
  | cost (cost : OperatorCost)
  /-- `metrics_available` is false -/
  | noMetrics (message : String)
  | cves (summary : GoMap String (GoMap String Nat))
  | operatorCVEs (report : OperatorCVEs)
  | cveSources (report : CVESourceReport)
  | graph (data : DependencyGraphData)
  | impact (impact : ImpactAnalysis)

/-! ## The mux -/

/-- The endpoints that read the cache or the cluster. -/
inductive Reading where
  | inventory
  | subscription
  | csv
  | metrics
  | cost
  | cves
  | operatorCVEs (operatorName : String)
  | cveSources
  | graph
  | impact (operatorName : String)
deriving DecidableEq

/-- The endpoints that write or read the audit log. -/
inductive Logging where
  | approve
  | restartPod
  | delete
  | changeChannel
  | auditEvents
deriving DecidableEq

inductive Route where
  | reading (endpoint : Reading)
  | logging (endpoint : Logging)
deriving DecidableEq

/-- The registered patterns. What is behind "/api/v1/cves/" and "/api/v1/dependencies/impact/" is
    the rest of `r.URL.Path`. -/
def registered : List String → Option Route
  | ["api", "v1", "inventory"] => some (.reading .inventory)
  | ["api", "v1", "actions", "approve"] => some (.logging .approve)
  | ["api", "v1", "actions", "restart-pod"] => some (.logging .restartPod)
  | ["api", "v1", "actions", "delete"] => some (.logging .delete)
  | ["api", "v1", "actions", "change-channel"] => some (.logging .changeChannel)
  | ["api", "v1", "resources", "subscription"] => some (.reading .subscription)
  | ["api", "v1", "resources", "csv"] => some (.reading .csv)
  | ["api", "v1", "resources", "metrics"] => some (.reading .metrics)
  | ["api", "v1", "resources", "cost"] => some (.reading .cost)
  | ["api", "v1", "cves"] => some (.reading .cves)
  | "api" :: "v1" :: "cves" :: rest => some (.reading (.operatorCVEs ("/".intercalate rest)))
  | ["api", "v1", "security", "cve-sources"] => some (.reading .cveSources)
  | ["api", "v1", "audit", "events"] => some (.logging .auditEvents)
  | ["api", "v1", "dependencies", "graph"] => some (.reading .graph)
  | "api" :: "v1" :: "dependencies" :: "impact" :: operator :: rest =>
      some (.reading (.impact ("/".intercalate (operator :: rest))))
  | _ => none

/-- The stack of `path.Clean`. -/
def cleanStack : List String → List String → List String
  | stack, [] => stack.reverse
  | stack, segment :: rest =>
      if segment = "" ∨ segment = "." then cleanStack stack rest
      else if segment = ".." then cleanStack stack.tail rest
      else cleanStack (segment :: stack) rest

/-- `cleanPath`: a trailing slash stays. -/
def cleanPath (segments : List String) : List String :=
  let cleaned := cleanStack [] segments
  if cleaned = [] then [""]
  else if segments.getLast? = some "" then cleaned ++ [""]
  else cleaned

/-- What the mux finds: a handler, or where it redirects to. -/
inductive Found where
  | redirect (location : List String)
  | notFound
  | handler (route : Route)
deriving DecidableEq

/-- `findHandler` of the mux. Only `CONNECT` requests keep a path that is not clean. -/
def findHandler (unescape : String → String) (method : String) (segments : List String) : Found :=
  let path := if method = "CONNECT" then segments else cleanPath segments
  if path.map unescape = ["api", "v1", "dependencies", "impact"] then .redirect (path ++ [""])
  else if path ≠ segments then .redirect path
  else
    match registered (path.map unescape) with
    | some route => .handler route
    | none => .notFound

example : findHandler id "GET" ["api", "v1", "cves", "etcd"] =
    .handler (.reading (.operatorCVEs "etcd")) := by decide

example : findHandler id "POST" ["api", "v1", "cves", "..", "actions", "approve"] =
    .redirect ["api", "v1", "actions", "approve"] := by decide

/-! ## The handlers -/

/-- What is cached before the first sweep has succeeded. -/
def noInventory : ClusterGovernanceResponse :=
  ⟨"", "", [], 0, [], { olmOperatorStatus := "", catalogOperatorStatus := "" }, ⟨[], []⟩⟩

def cached (opCache : Option ClusterGovernanceResponse) : ClusterGovernanceResponse :=
  opCache.getD noInventory

section Handlers

variable {Body : Type} (platform : Platform Body) (r : HttpRequest Body)

/-- The handlers of "/api/v1/resources/" begin with this check. -/
def withOperator (act : String → String → Answer) : Answer :=
  let nameSpace := r.query "namespace"
  let name := r.query "name"
  if nameSpace = "" ∨ name = "" then .error 400 "Missing namespace or name"
  else act nameSpace name

/-- `handleGetSubscriptionYAML` and `handleGetCSVYAML` differ in the resource. -/
def handleGetYAML (gvr : GroupVersionResource) : Answer :=
  withOperator r fun nameSpace name =>
    match (r.api 0).get gvr nameSpace name with
    | .error _ => .error 404 "Resource not found"
    | .ok obj => .object obj

def handleGetSubscriptionYAML : Answer := handleGetYAML r subscriptionGVR

def handleGetCSVYAML : Answer := handleGetYAML r csvGVR

/-- Call 0 lists the pods, call 1 reads their metrics. -/
def controllerUsageOf (nameSpace name : String) : Except String ControllerUsage :=
  gatherControllerUsage platform.quantities (r.api 1) nameSpace
    (((r.api 0).list podGVR nameSpace ("operators.coreos.com/" ++ name)).map fun pods =>
      pods.map Unstructured.getName)

def handleGetControllerMetrics : Answer :=
  withOperator r fun nameSpace name =>
    match controllerUsageOf platform r nameSpace name with
    | .error err => .noMetrics err
    | .ok usage => .usage name nameSpace usage

def getEnvFloat (key : String) (def_ : Float) : Float :=
  let v := platform.getenv key
  if v ≠ "" then (platform.parseFloat v).getD def_ else def_

def handleGetOperatorCost : Answer :=
  withOperator r fun nameSpace name =>
    match controllerUsageOf platform r nameSpace name with
    | .error err => .noMetrics err
    | .ok usage =>
        let cpuRate := getEnvFloat platform "COST_CPU_CORE_HOUR" 0.031
        let memRate := getEnvFloat platform "COST_MEM_GIB_HOUR" 0.004
        let cpuCores := usage.cpuMilli.toFloat / 1000.0
        let memGiB := usage.memMi.toFloat / 1024.0
        let hourly := cpuCores * cpuRate + memGiB * memRate
        .cost ⟨name, nameSpace, usage.available, cpuCores, memGiB, cpuRate, memRate, hourly,
          hourly * 730.0⟩

def handleGetOperatorCVEs (operators : List OperatorInfo) (operatorName : String) : Answer :=
  if operatorName = "" then .error 400 "Operator name required"
  else
    match operators.find? (isNamed operatorName) with
    | none => .error 404 "Operator not found"
    | some op => .operatorCVEs ⟨op.name, op.package, op.version, op.cves, op.cves.length⟩

def handleGetImpactAnalysis (operators : List OperatorInfo) (operatorName : String) : Answer :=
  if operatorName = "" then .error 400 "Operator name required"
  else .impact (analyzeOperatorImpact operators operatorName)

/-- `opCache` is read under its lock. -/
def handleRead (opCache : Option ClusterGovernanceResponse) : Reading → Answer
  | .inventory => .inventory (cached opCache)
  | .subscription => handleGetSubscriptionYAML r
  | .csv => handleGetCSVYAML r
  | .metrics => handleGetControllerMetrics platform r
  | .cost => handleGetOperatorCost platform r
  | .cves => .cves (handleGetAllCVEs (cached opCache).operators)
  | .operatorCVEs name => handleGetOperatorCVEs (cached opCache).operators name
  | .cveSources =>
      .cveSources (handleGetCVESources r.pyxis r.order (r.api 0) (cached opCache).operators)
  | .graph => .graph (buildDependencyGraphData r.order (cached opCache).operators)
  | .impact name => handleGetImpactAnalysis (cached opCache).operators name

/-- The request as the handlers of AuditTrail get it. -/
def loggingInput : Logging → Input Body
  | .approve => .approve r.toRequest
  | .restartPod => .restartPod r.toRequest
  | .delete => .delete r.toRequest
  | .changeChannel => .changeChannel r.toRequest
  | .auditEvents => .auditQuery (r.query "namespace") (r.query "name")

end Handlers

/-! ## The process -/

/-- What the routines share. -/
structure Process where
  opCache : Option ClusterGovernanceResponse
  auditLog : AuditLog

def Process.start : Process := ⟨none, []⟩

inductive Activity (Body : Type) where
  /-- `collectOperators` -/
  | sweep (clock : Nat → LogTime) (sweep : Sweep)
  | request (r : HttpRequest Body)

inductive Output where
  | logged (lines : List String)
  | answered (answer : Answer) (writes : WriteLog)

variable {Body : Type} (platform : Platform Body)

/-- One request to the mux. -/
def serve (process : Process) (r : HttpRequest Body) : Process × Answer × WriteLog :=
  match findHandler platform.unescape r.method r.segments with
  | .redirect location => (process, .redirect location, [])
  | .notFound => (process, .error 404 "404 page not found", [])
  | .handler (.reading endpoint) =>
      (process, handleRead platform r process.opCache endpoint, [])
  | .handler (.logging endpoint) =>
      let handled := handle platform.codec process.auditLog (loggingInput r endpoint)
      (⟨process.opCache, handled.auditLog⟩, .handled handled.response, handled.writes)

def processStep (process : Process) : Activity Body → Process × Output
  | .sweep clock sweep =>
      let swept := collectOperators clock process.opCache sweep
      (⟨swept.1, process.auditLog⟩, .logged swept.2)
  | .request r =>
      let served := serve platform process r
      (served.1, .answered served.2.1 served.2.2)

/-! ## Writes -/

/-- The writes that are sent for a target. -/
inductive Sends : Input Body → Target → ClusterWrite → Prop
  | approve (r : Request Body) (target : Target) (plan : Unstructured) :
      Sends (.approve r) target (.update installPlanGVR target.nameSpace plan)
  | restartPod (r : Request Body) (target : Target) (pod : String) :
      Sends (.restartPod r) target (.delete podGVR target.nameSpace pod)
  | delete (r : Request Body) (target : Target) :
      Sends (.delete r) target (.delete subscriptionGVR target.nameSpace target.name)
  | changeChannel (r : Request Body) (target : Target) (patch : String) :
      Sends (.changeChannel r) target
        (.patch subscriptionGVR target.nameSpace target.name patch)

variable {codec : Codec Body}

theorem withTarget_writes {r : Request Body} {auditLog : AuditLog} {act : Target → Handled}
    {w : ClusterWrite × Bool} (h : w ∈ (withTarget codec auditLog r act).writes) :
    ∃ target, checkedTarget codec r = some target ∧ w ∈ (act target).writes := by
  cases hchecked : checkedTarget codec r with
  | some target =>
    rw [withTarget_of_some hchecked] at h
    exact ⟨target, rfl, h⟩
  | none =>
    unfold checkedTarget at hchecked
    unfold withTarget at h
    split at h
    · cases h
    · rename_i hmethod
      rw [if_pos (not_not.mp hmethod)] at hchecked
      rw [hchecked] at h
      cases h

theorem deletePods_writes {dyn : Nat → DynClient} {ns : String} {k : Nat}
    {pods : List Unstructured} {w : ClusterWrite × Bool}
    (h : w ∈ (deletePods dyn ns k pods).2) : ∃ name, w.1 = .delete podGVR ns name := by
  induction pods generalizing k with
  | nil => cases h
  | cons pod rest ih =>
    rw [deletePods] at h
    cases hdelete : (dyn (k + 1)).delete podGVR ns pod.getName with
    | ok _ =>
      rw [hdelete] at h
      exact ⟨pod.getName, congrArg Prod.fst (List.mem_singleton.mp h)⟩
    | error _ =>
      rw [hdelete] at h
      rcases List.mem_cons.mp h with rfl | h
      · exact ⟨pod.getName, rfl⟩
      · exact ih h

theorem reapprove_writes {dyn : Nat → DynClient} {ns target : String} {w : ClusterWrite × Bool}
    (h : w ∈ (executeRemediationAction dyn "REAPPROVE_INSTALLPLAN" ns target).2) :
    ∃ plan, w.1 = .update installPlanGVR ns plan := by
  cases hlist : (dyn 0).list installPlanGVR ns "" with
  | error err =>
    rw [reapprove_listFailed hlist] at h
    cases h
  | ok plans =>
    rw [reapprove_eq hlist] at h
    obtain ⟨-, -, plan, -, -, hw⟩ := mem_writes _ _ _ (b := w.2) h
    exact ⟨plan, hw⟩

theorem purge_writes {dyn : Nat → DynClient} {ns target : String} {w : ClusterWrite × Bool}
    (h : w ∈ (executeRemediationAction dyn "PURGE_IDLE_SUBSCRIPTION" ns target).2) :
    w.1 = .delete subscriptionGVR ns target := by
  unfold executeRemediationAction at h
  rw [if_neg (by decide), if_pos rfl] at h
  cases hdelete : (dyn 0).delete subscriptionGVR ns target with
  | error err =>
    rw [hdelete] at h
    exact congrArg Prod.fst (List.mem_singleton.mp h)
  | ok _ =>
    rw [hdelete] at h
    exact congrArg Prod.fst (List.mem_singleton.mp h)

theorem changeChannel_writes {r : Request Body} {auditLog : AuditLog} {w : ClusterWrite × Bool}
    (h : w ∈ (handleChangeChannel codec auditLog r).writes) :
    ∃ target patch, checkedChange codec r = some target ∧
      w.1 = .patch subscriptionGVR target.nameSpace target.name patch := by
  unfold handleChangeChannel at h
  unfold checkedChange
  split at h
  · cases h
  · rename_i hmethod
    rw [if_pos (not_not.mp hmethod)]
    cases hbody : codec.channelChange r.body with
    | none =>
      rw [hbody] at h
      cases h
    | some req =>
      rw [hbody] at h
      dsimp only at h
      split at h
      · cases h
      · rename_i hpresent
        rw [Option.bind_some, if_neg hpresent]
        split at h
        · exact ⟨_, _, rfl, congrArg Prod.fst (List.mem_singleton.mp h)⟩
        · exact ⟨_, _, rfl, congrArg Prod.fst (List.mem_singleton.mp h)⟩

/-- What a handler sends, it sends for a request that passed the checks, to its target. -/
theorem sends_of_mem {input : Input Body} {auditLog : AuditLog} {w : ClusterWrite × Bool}
    (h : w ∈ (handle codec auditLog input).writes) :
    ∃ target, checked codec input = some target ∧ Sends input target w.1 := by
  cases input with
  | approve r =>
    obtain ⟨target, hchecked, hw⟩ := withTarget_writes h
    obtain ⟨plan, hw⟩ := reapprove_writes hw
    exact ⟨target, hchecked, hw ▸ .approve r target plan⟩
  | restartPod r =>
    obtain ⟨target, hchecked, hw⟩ := withTarget_writes h
    dsimp only at hw
    split at hw
    · obtain ⟨name, hw⟩ := deletePods_writes hw
      exact ⟨target, hchecked, hw ▸ .restartPod r target name⟩
    · cases hw
  | delete r =>
    obtain ⟨target, hchecked, hw⟩ := withTarget_writes h
    exact ⟨target, hchecked, purge_writes hw ▸ .delete r target⟩
  | changeChannel r =>
    obtain ⟨target, patch, hchecked, hw⟩ := changeChannel_writes h
    exact ⟨target, hchecked, hw ▸ .changeChannel r target patch⟩
  | auditQuery nsFilter nameFilter => cases h

/-- Only a POST passes the checks. -/
theorem method_of_checked {r : HttpRequest Body} {endpoint : Logging} {target : Target}
    (h : checked codec (loggingInput r endpoint) = some target) : r.method = "POST" := by
  cases endpoint with
  | approve | restartPod | delete =>
    by_contra hmethod
    exact absurd ((if_neg hmethod).symm.trans h) (by simp)
  | changeChannel =>
    by_contra hmethod
    exact absurd ((if_neg hmethod).symm.trans h) (by simp)
  | auditEvents => cases h

/-! ## Runs -/

/-- What a sweep that succeeds answers. -/
def succeeded : Activity Body → Option ClusterGovernanceResponse
  | .sweep _ sweep => (getClusterGovernance sweep).toOption
  | .request _ => none

/-- The answer of the last sweep that succeeded. -/
def lastSweep (activities : List (Activity Body)) : Option ClusterGovernanceResponse :=
  (activities.filterMap succeeded).getLast?

/-- What an action or audit endpoint is asked. -/
def logged : Activity Body → Option (Input Body)
  | .sweep _ _ => none
  | .request r =>
      match findHandler platform.unescape r.method r.segments with
      | .handler (.logging endpoint) => some (loggingInput r endpoint)
      | .handler (.reading _) | .redirect _ | .notFound => none

def processAfter (activities : List (Activity Body)) : Process :=
  (Reactive.run (processStep platform) .start activities).1

structure ProcessInv (past : List (Activity Body)) (process : Process) : Prop where
  cache : process.opCache = lastSweep past
  log : Tracks platform.codec (past.filterMap (logged platform)) process.auditLog

variable {platform}

theorem collectOperators_cache (clock : Nat → LogTime)
    (opCache : Option ClusterGovernanceResponse) (sweep : Sweep) :
    (collectOperators clock opCache sweep).1 =
      (getClusterGovernance sweep).toOption.or opCache := by
  cases h : getClusterGovernance sweep with
  | error err => rw [collectOperators_error h]; rfl
  | ok resp => rw [collectOperators_ok h]; rfl

theorem lastSweep_concat (past : List (Activity Body)) (activity : Activity Body) :
    lastSweep (past ++ [activity]) = (succeeded activity).or (lastSweep past) :=
  Reactive.getLast?_filterMap_concat succeeded past activity

theorem processStep_cache (process : Process) (activity : Activity Body) :
    (processStep platform process activity).1.opCache =
      (succeeded activity).or process.opCache := by
  cases activity with
  | sweep clock sweep => exact collectOperators_cache clock process.opCache sweep
  | request r =>
    unfold processStep serve
    dsimp only
    split <;> rfl

/-- The log changes as the handlers of the action and audit endpoints change it. -/
theorem processStep_log (process : Process) (activity : Activity Body) :
    (processStep platform process activity).1.auditLog =
      match logged platform activity with
      | some input => (step platform.codec process.auditLog input).1
      | none => process.auditLog := by
  cases activity with
  | sweep clock sweep => rfl
  | request r =>
    unfold processStep serve logged
    dsimp only
    split <;> simp_all [step]

theorem processInv_step {past : List (Activity Body)} {process : Process}
    (h : ProcessInv platform past process) (activity : Activity Body) :
    ProcessInv platform (past ++ [activity]) (processStep platform process activity).1 := by
  refine ⟨?_, ?_⟩
  · rw [processStep_cache, lastSweep_concat, h.cache]
  · rw [processStep_log, List.filterMap_append]
    cases hlogged : logged platform activity with
    | none =>
      rw [List.filterMap_cons_none hlogged, List.filterMap_nil, List.append_nil]
      exact h.log
    | some input =>
      rw [List.filterMap_cons_some hlogged, List.filterMap_nil]
      exact tracks_step h.log input

variable (platform)

theorem processInv_run (activities : List (Activity Body)) :
    ProcessInv platform activities (processAfter platform activities) :=
  Reactive.run_induction (R := ProcessInv platform) (P := fun _ => True) _
    ⟨rfl, [], rfl, List.Forall₂.nil⟩ (fun _ _ activity h _ => processInv_step h activity)
    activities fun _ _ => trivial

theorem exists_of_logged {activities : List (Activity Body)} {input : Input Body}
    (h : input ∈ activities.filterMap (logged platform)) :
    ∃ r endpoint, .request r ∈ activities ∧
      findHandler platform.unescape r.method r.segments = .handler (.logging endpoint) ∧
        input = loggingInput r endpoint := by
  obtain ⟨activity, hmem, hlogged⟩ := List.mem_filterMap.mp h
  cases activity with
  | sweep clock sweep => cases hlogged
  | request r =>
    unfold logged at hlogged
    dsimp only at hlogged
    split at hlogged
    · rename_i endpoint hfound
      exact ⟨r, endpoint, hmem, hfound, (Option.some.inj hlogged).symm⟩
    all_goals cases hlogged

/-- Every event of the log is about one of the requests. -/
theorem record_of_mem {activities : List (Activity Body)} {e : AuditEvent}
    (h : e ∈ (processAfter platform activities).auditLog) :
    ∃ r endpoint, .request r ∈ activities ∧
      findHandler platform.unescape r.method r.segments = .handler (.logging endpoint) ∧
        Records platform.codec (loggingInput r endpoint) e := by
  obtain ⟨history, hlog, hrecords⟩ := (processInv_run platform activities).log
  rw [hlog] at h
  have hhistory : e ∈ history := List.mem_of_mem_drop h
  obtain ⟨n, hn, rfl⟩ := List.mem_iff_getElem.mp hhistory
  have hlen := hrecords.length_eq
  have hrecord := List.Forall₂.get hrecords (i := n) (by omega) hn
  have hinput := List.mem_of_mem_filter (List.get_mem
    ((activities.filterMap (logged platform)).filter (Passes platform.codec)) ⟨n, by omega⟩)
  obtain ⟨r, endpoint, hmem, hfound, heq⟩ := exists_of_logged platform hinput
  refine ⟨r, endpoint, hmem, hfound, ?_⟩
  rw [← heq]
  exact hrecord

/-- What is answered to request `r` after the activities `past`. -/
structure Answers (past : List (Activity Body)) (r : HttpRequest Body) (answer : Answer)
    (writes : WriteLog) : Prop where
  /-- a read is answered from the last sweep that succeeded, and sends nothing -/
  reads : ∀ endpoint, findHandler platform.unescape r.method r.segments =
    .handler (.reading endpoint) →
      answer = handleRead platform r (lastSweep past) endpoint ∧ writes = []
  /-- what is sent, is sent for a POST to an action endpoint that passed the checks -/
  sends : ∀ w ∈ writes, r.method = "POST" ∧ ∃ endpoint target,
    findHandler platform.unescape r.method r.segments = .handler (.logging endpoint) ∧
      checked platform.codec (loggingInput r endpoint) = some target ∧
        Sends (loggingInput r endpoint) target w.1

/-- What is sent, is sent for a POST to an action endpoint that passed the checks. -/
theorem serve_sends {process : Process} {r : HttpRequest Body} {w : ClusterWrite × Bool}
    (h : w ∈ (serve platform process r).2.2) : r.method = "POST" ∧ ∃ endpoint target,
      findHandler platform.unescape r.method r.segments = .handler (.logging endpoint) ∧
        checked platform.codec (loggingInput r endpoint) = some target ∧
          Sends (loggingInput r endpoint) target w.1 := by
  unfold serve at h
  split at h
  · cases h
  · cases h
  · cases h
  · rename_i endpoint hfound
    obtain ⟨target, hchecked, hsends⟩ := sends_of_mem h
    exact ⟨method_of_checked hchecked, endpoint, target, hfound, hchecked, hsends⟩

theorem served_of_inv {past : List (Activity Body)} {process : Process}
    (h : ProcessInv platform past process) (r : HttpRequest Body) :
    Answers platform past r (serve platform process r).2.1 (serve platform process r).2.2 := by
  refine ⟨fun endpoint hfound => ?_, fun w hw => serve_sends platform hw⟩
  unfold serve
  rw [hfound, h.cache]
  exact ⟨rfl, rfl⟩

end HybridOperator.Server
