/-
  The action handlers of main.go and the audit log they write.

  A handler takes the audit log as it is and gives it back with its answer and the writes it
  sent to the API server. `recordAudit` is called where the source calls it. What a request
  brings is its method, its body, the answers the API server gives to the calls made for it,
  and the time its event is stamped with. `Codec` is what the handlers use of the standard
  library: the decoding of a body (`none` where `Decode` returns an error), for which nothing
  is assumed, and `strconv.IsPrint`.
-/
import HybridOperator.Collector.Remediation
import HybridOperator.Lib.GoStrings
import HybridOperator.Lib.Window

namespace HybridOperator.Server

open HybridOperator.Collector HybridOperator.Lib

structure AuditEvent where
  timestamp : String
  type : String
  nameSpace : String
  name : String
  detail : String
  success : Bool
deriving DecidableEq

abbrev AuditLog := List AuditEvent

def auditLogCapacity : Nat := 500

def recordAudit (auditLog : AuditLog) (now eventType ns name detail : String) (success : Bool) :
    AuditLog :=
  Window.push auditLogCapacity auditLog ⟨now, eventType, ns, name, detail, success⟩

/-- The body of an approve, restart or delete request. -/
structure Target where
  nameSpace : String
  name : String
deriving DecidableEq

/-- The body of a change-channel request. -/
structure ChannelChange where
  nameSpace : String
  name : String
  channel : String
deriving DecidableEq

structure Codec (Body : Type) where
  target : Body → Option Target
  channelChange : Body → Option ChannelChange
  isPrint : Char → Bool

/-- A request to an action handler. Call `k` made for it is answered by `api k`. -/
structure Request (Body : Type) where
  method : String
  body : Body
  now : String
  api : Nat → DynClient

/-- The answer of a handler: the status and what is encoded as its body. -/
inductive Response where
  | error (status : Nat) (text : String)
  | remediation (result : RemediationResult)
  | outcome (status : Nat) (success : Bool) (message : String) (channel : Option String)
  | events (total : Nat) (events : List AuditEvent)

/-- What a handler leaves behind. -/
structure Handled where
  auditLog : AuditLog
  response : Response
  writes : WriteLog

/-- A request that a check turned away. -/
def rejected (auditLog : AuditLog) (status : Nat) (text : String) : Handled :=
  ⟨auditLog, .error status text, []⟩

section Handlers

variable {Body : Type} (codec : Codec Body) (auditLog : AuditLog) (r : Request Body)

/-- The body that the approve, restart and delete handlers have in common: the checks, then
    `act`. -/
def withTarget (act : Target → Handled) : Handled :=
  if r.method ≠ "POST" then rejected auditLog 405 "Method not allowed"
  else
    match codec.target r.body with
    | none => rejected auditLog 400 "Invalid request"
    | some req => act req

/-- Approve and delete run one remediation action and record its result. -/
def handleRemediation (eventType action : String) : Handled :=
  withTarget codec auditLog r fun req =>
    let (result, writes) := executeRemediationAction r.api action req.nameSpace req.name
    ⟨recordAudit auditLog r.now eventType req.nameSpace req.name result.message result.success,
      .remediation result, writes⟩

def handleApproveUpgrade : Handled :=
  handleRemediation codec auditLog r "approve" "REAPPROVE_INSTALLPLAN"

def handleDeleteSubscription : Handled :=
  handleRemediation codec auditLog r "delete" "PURGE_IDLE_SUBSCRIPTION"

/-- The loop over the pods, from place `k` on: the first accepted Delete ends it. -/
def deletePods (dyn : Nat → DynClient) (ns : String) :
    Nat → List Unstructured → (Bool × String) × WriteLog
  | _, [] => ((false, "No pods found"), [])
  | k, pod :: rest =>
      match (dyn (k + 1)).delete podGVR ns pod.getName with
      | .ok _ => ((true, "Pod " ++ pod.getName ++ " deleted successfully"),
          [(.delete podGVR ns pod.getName, true)])
      | .error _ =>
          let later := deletePods dyn ns (k + 1) rest
          (later.1, (.delete podGVR ns pod.getName, false) :: later.2)

def handleRestartPod : Handled :=
  withTarget codec auditLog r fun req =>
    let ((success, message), writes) :=
      match (r.api 0).list podGVR req.nameSpace ("operators.coreos.com/" ++ req.name) with
      | .ok pods => deletePods r.api req.nameSpace 0 pods
      | .error _ => ((false, "No pods found"), [])
    ⟨recordAudit auditLog r.now "restart" req.nameSpace req.name message success,
      .outcome 200 success message none, writes⟩

def handleChangeChannel : Handled :=
  if r.method ≠ "POST" then rejected auditLog 405 "Method not allowed"
  else
    match codec.channelChange r.body with
    | none => rejected auditLog 400 "Invalid request"
    | some req =>
        if req.nameSpace = "" ∨ req.name = "" ∨ req.channel = "" then
          rejected auditLog 400 "Missing namespace, name, or channel"
        else
          let quoted := GoStrings.quote codec.isPrint req.channel
          let patch := "\x7b\"spec\":\x7b\"channel\":" ++ quoted ++ "\x7d\x7d"
          let write := ClusterWrite.patch subscriptionGVR req.nameSpace req.name patch
          match (r.api 0).patch subscriptionGVR req.nameSpace req.name patch with
          | .error err =>
              let msg := "Failed to switch channel: " ++ err
              ⟨recordAudit auditLog r.now "channel-change" req.nameSpace req.name msg false,
                .outcome 502 false msg none, [(write, false)]⟩
          | .ok _ =>
              ⟨recordAudit auditLog r.now "channel-change" req.nameSpace req.name
                  ("channel -> " ++ req.channel) true,
                .outcome 200 true ("Subscription " ++ req.nameSpace ++ "/" ++ req.name ++
                  " switched to channel " ++ quoted) (some req.channel), [(write, true)]⟩

end Handlers

/-! ## Querying the log -/

/-- Neither of the two filters `continue`s. -/
def eventMatches (nsFilter nameFilter : String) (e : AuditEvent) : Bool :=
  (nsFilter = "" ∨ e.nameSpace = nsFilter) ∧ (nameFilter = "" ∨ e.name = nameFilter)

/-- The loop of `handleGetAuditEvents` from place `i - 1` down to 0. -/
def collectEvents (auditLog : AuditLog) (nsFilter nameFilter : String) : Nat → List AuditEvent
  | 0 => []
  | i + 1 =>
      let later := collectEvents auditLog nsFilter nameFilter i
      match auditLog[i]? with
      | none => later
      | some e => if eventMatches nsFilter nameFilter e then e :: later else later

def handleGetAuditEvents (auditLog : AuditLog) (nsFilter nameFilter : String) : Handled :=
  let events := collectEvents auditLog nsFilter nameFilter auditLog.length
  ⟨auditLog, .events events.length events, []⟩

theorem collectEvents_eq (auditLog : AuditLog) (nsFilter nameFilter : String) (n : Nat) :
    collectEvents auditLog nsFilter nameFilter n =
      ((auditLog.take n).filter (eventMatches nsFilter nameFilter)).reverse := by
  induction n with
  | zero => rfl
  | succ n ih =>
    rw [collectEvents, ih, List.take_add_one, List.filter_append, List.reverse_append]
    cases auditLog[n]? with
    | none => rfl
    | some e =>
      by_cases he : eventMatches nsFilter nameFilter e = true
      · simp [he]
      · simp [he]

/-- The query gives the matching entries, newest first. -/
theorem handleGetAuditEvents_eq (auditLog : AuditLog) (nsFilter nameFilter : String) :
    handleGetAuditEvents auditLog nsFilter nameFilter =
      let found := (auditLog.filter (eventMatches nsFilter nameFilter)).reverse
      ⟨auditLog, .events found.length found, []⟩ := by
  rw [handleGetAuditEvents, collectEvents_eq, List.take_length]

end HybridOperator.Server
