/-
  The quick actions of static/app.js, from the click to the audit log and back.

  A quick action asks in a dialog first: `confirm`, or `prompt`, whose answer is `none` when it is
  cancelled. It then POSTs its JSON body, and tells the user how `result.success` came out. The
  body goes through `get_json`, "json.dumps" and the operator's decoder. When the operator's answer
  does not arrive in time, the browser gets the proxy's 502, which has no `success`.

  Proved: `quick_action_recorded`, for every quick action after every run. When its browser is
  logged in and the POST reaches the operator, one event is recorded, of its type and about its
  operator, with the success that a write was accepted; the user is told of a success exactly when
  it is one and the answer arrives; only what was asked for is written; and the audit view begins
  with the event.
-/
import HybridOperator.Dashboard.Console
import HybridOperator.Lib.JsRegex
import HybridOperator.Server.ChannelPatch
import HybridOperator.Server.ShippedRole

namespace HybridOperator.Dashboard

open HybridOperator.Lib HybridOperator.Collector HybridOperator.Server

/-! ## The clicks -/

/-- A POST of the script: its path and the members of its JSON body. -/
structure Post where
  path : String
  body : List (String × String)

/-- A click with what the user answers in the dialog. -/
inductive Click where
  | approve (confirmed : Bool)
  | restartPod (confirmed : Bool)
  | delete (confirmation : Option String)
  | changeChannel (channel : Option String) (currentChannel : String)

def quickActionApprove (confirmed : Bool) (ns name : String) : Option Post :=
  if confirmed then
    some ⟨"/api/v1/actions/approve", [("namespace", ns), ("name", name)]⟩
  else none

def quickActionRestartPod (confirmed : Bool) (ns name : String) : Option Post :=
  if confirmed then
    some ⟨"/api/v1/actions/restart-pod", [("namespace", ns), ("name", name)]⟩
  else none

/-- The name has to be typed again. -/
def quickActionDelete (confirmation : Option String) (ns name : String) : Option Post :=
  if confirmation = some name then
    some ⟨"/api/v1/actions/delete", [("namespace", ns), ("name", name)]⟩
  else none

def quickActionChangeChannel (channel : Option String) (currentChannel ns name : String) :
    Option Post :=
  match channel with
  | none => none
  | some channel =>
      let trimmed := JsRegex.trim channel
      if trimmed = "" then none
      else if trimmed = currentChannel then none
      else some ⟨"/api/v1/actions/change-channel",
        [("namespace", ns), ("name", name), ("channel", trimmed)]⟩

def Click.post (ns name : String) : Click → Option Post
  | .approve confirmed => quickActionApprove confirmed ns name
  | .restartPod confirmed => quickActionRestartPod confirmed ns name
  | .delete confirmation => quickActionDelete confirmation ns name
  | .changeChannel channel currentChannel =>
      quickActionChangeChannel channel currentChannel ns name

/-- The request of a POST that reaches the operator, answered or not. -/
def Post.request (post : Post) (upstream : Upstream) (answered : Bool) : WebRequest where
  method := .post
  path := post.path
  password := none
  json := some (StructDecode.strings post.body)
  delivery := if answered then .answered else .unanswered
  gets := []
  upstream := upstream

/-- What `_proxy_to_operator` answers. -/
inductive Relayed where
  | operator (answer : Answer)
  /-- `requests.post` raised: 502, with `error` for its only member -/
  | unreachable

/-- The response to a POST that was served so. -/
def relayed (delivery : Delivery) (served : List (Answer × WriteLog)) : Relayed :=
  match delivery, served with
  | .answered, (answer, _) :: _ => .operator answer
  | _, _ => .unreachable

/-- What the alert begins with. -/
inductive Told where
  /-- `✓` -/
  | done
  /-- `✗` -/
  | failed
  /-- 'Error: ', when the response is not JSON -/
  | error
deriving DecidableEq

/-- `result.success ? … : …` -/
def Told.ofSuccess (success : Bool) : Told := if success then .done else .failed

/-- What the user is told of the response. Without `success` in it, it is a failure. -/
def told : Relayed → Told
  | .operator (.handled (.remediation result)) => .ofSuccess result.success
  | .operator (.handled (.outcome _ success _ _)) => .ofSuccess success
  | .operator (.handled (.error _ _)) | .operator (.error _ _) => .error
  | .operator _ | .unreachable => .failed

/-! ## What the operator makes of it -/

/-- The endpoint of a click. -/
def Click.endpoint : Click → Logging
  | .approve _ => .approve
  | .restartPod _ => .restartPod
  | .delete _ => .delete
  | .changeChannel _ _ => .changeChannel

/-- What a click may write. -/
inductive Asks (isPrint : Char → Bool) (ns name : String) : Click → ClusterWrite → Prop
  | approve (confirmed : Bool) (plan : Unstructured) :
      Asks isPrint ns name (.approve confirmed) (.update installPlanGVR ns plan)
  | restartPod (confirmed : Bool) (pod : String) :
      Asks isPrint ns name (.restartPod confirmed) (.delete podGVR ns pod)
  | delete (confirmation : Option String) :
      Asks isPrint ns name (.delete confirmation) (.delete subscriptionGVR ns name)
  | changeChannel (channel currentChannel : String) :
      Asks isPrint ns name (.changeChannel (some channel) currentChannel)
        (.patch subscriptionGVR ns name (channelPatch isPrint (JsRegex.trim channel)))

theorem jsonOrEmpty_strings {values : List (String × String)} (h : values ≠ []) :
    jsonOrEmpty (some (StructDecode.strings values)) = StructDecode.strings values := by
  cases values with
  | nil => exact absurd rfl h
  | cons kv values => rfl

theorem target_strings (isPrint : Char → Bool) (ns name : String) :
    (jsonCodec isPrint).target (some (StructDecode.strings [("namespace", ns), ("name", name)])) =
      some ⟨ns, name⟩ := by
  obtain ⟨value, hdecode, hvalue, -⟩ := StructDecode.decode_object ["namespace", "name"]
    [("namespace", ns), ("name", name)] (by simp) (by simp)
  have hns : value "namespace" = ns := hvalue ("namespace", ns) (by simp)
  have hname : value "name" = name := hvalue ("name", name) (by simp)
  unfold jsonCodec
  dsimp only
  rw [Option.bind_some, hdecode, Option.map_some, hns, hname]

theorem channelChange_strings (isPrint : Char → Bool) (ns name channel : String) :
    (jsonCodec isPrint).channelChange (some (StructDecode.strings
      [("namespace", ns), ("name", name), ("channel", channel)])) = some ⟨ns, name, channel⟩ := by
  obtain ⟨value, hdecode, hvalue, -⟩ := StructDecode.decode_object
    ["namespace", "name", "channel"]
    [("namespace", ns), ("name", name), ("channel", channel)] (by simp) (by simp)
  have hns : value "namespace" = ns := hvalue ("namespace", ns) (by simp)
  have hname : value "name" = name := hvalue ("name", name) (by simp)
  have hchannel : value "channel" = channel := hvalue ("channel", channel) (by simp)
  unfold jsonCodec
  dsimp only
  rw [Option.bind_some, hdecode, Option.map_some, hns, hname, hchannel]

/-- What a click that posts has posted. -/
theorem post_cases {click : Click} {ns name : String} {post : Post}
    (h : click.post ns name = some post) :
    (post.body = [("namespace", ns), ("name", name)] ∧
      ((∃ confirmed, click = .approve confirmed ∧ post.path = "/api/v1/actions/approve") ∨
        (∃ confirmed, click = .restartPod confirmed ∧ post.path = "/api/v1/actions/restart-pod") ∨
        ∃ confirmation, click = .delete confirmation ∧ post.path = "/api/v1/actions/delete")) ∨
    ∃ channel currentChannel, click = .changeChannel (some channel) currentChannel ∧
      JsRegex.trim channel ≠ "" ∧ post.path = "/api/v1/actions/change-channel" ∧
      post.body = [("namespace", ns), ("name", name), ("channel", JsRegex.trim channel)] := by
  cases click with
  | approve confirmed =>
    have h : quickActionApprove confirmed ns name = some post := h
    unfold quickActionApprove at h
    split_ifs at h
    obtain rfl := Option.some.inj h
    exact .inl ⟨rfl, .inl ⟨confirmed, rfl, rfl⟩⟩
  | restartPod confirmed =>
    have h : quickActionRestartPod confirmed ns name = some post := h
    unfold quickActionRestartPod at h
    split_ifs at h
    obtain rfl := Option.some.inj h
    exact .inl ⟨rfl, .inr (.inl ⟨confirmed, rfl, rfl⟩)⟩
  | delete confirmation =>
    have h : quickActionDelete confirmation ns name = some post := h
    unfold quickActionDelete at h
    split_ifs at h
    obtain rfl := Option.some.inj h
    exact .inl ⟨rfl, .inr (.inr ⟨confirmation, rfl, rfl⟩)⟩
  | changeChannel channel currentChannel =>
    have h : quickActionChangeChannel channel currentChannel ns name = some post := h
    unfold quickActionChangeChannel at h
    cases channel with
    | none => cases h
    | some channel =>
      dsimp only at h
      split_ifs at h with hempty hsame
      obtain rfl := Option.some.inj h
      exact .inr ⟨channel, currentChannel, rfl, hempty, rfl, rfl⟩

section Click

variable {isPrint : Char → Bool} {click : Click} {ns name : String} {post : Post}

theorem actionOf_post (h : click.post ns name = some post) :
    actionOf post.path = some click.endpoint := by
  rcases post_cases h with ⟨-, ⟨_, rfl, hpath⟩ | ⟨_, rfl, hpath⟩ | ⟨_, rfl, hpath⟩⟩ |
    ⟨_, _, rfl, -, hpath, -⟩
  all_goals rw [hpath]; rfl

variable (isPrint) in
/-- The post of a click passes the checks, for the operator of the click. -/
theorem checked_post (h : click.post ns name = some post) (hns : ns ≠ "") (hname : name ≠ "")
    (upstream : Upstream) (answered : Bool) :
    checked (jsonCodec isPrint) (loggingInput (postOf (post.request upstream answered))
      click.endpoint) = some ⟨ns, name⟩ := by
  have hmethod : (postOf (post.request upstream answered)).method = "POST" := rfl
  have hbody : (postOf (post.request upstream answered)).body =
      some (jsonOrEmpty (some (StructDecode.strings post.body))) := rfl
  rcases post_cases h with ⟨hvalues, hclick⟩ | ⟨channel, _, rfl, hchannel, -, hvalues⟩
  · rw [hvalues, jsonOrEmpty_strings (List.cons_ne_nil _ _)] at hbody
    have htarget : checkedTarget (jsonCodec isPrint)
        (postOf (post.request upstream answered)).toRequest = some ⟨ns, name⟩ := by
      rw [checkedTarget, if_pos hmethod, hbody, target_strings]
    rcases hclick with ⟨_, rfl, -⟩ | ⟨_, rfl, -⟩ | ⟨_, rfl, -⟩
    all_goals exact htarget
  · rw [hvalues, jsonOrEmpty_strings (List.cons_ne_nil _ _)] at hbody
    have hfields : ¬ (ns = "" ∨ name = "" ∨ JsRegex.trim channel = "") := by
      simp only [hns, hname, hchannel, or_self, not_false_eq_true]
    have hchange : checkedChange (jsonCodec isPrint)
        (postOf (post.request upstream answered)).toRequest = some ⟨ns, name⟩ := by
      rw [checkedChange, if_pos hmethod, hbody, channelChange_strings, Option.bind_some,
        if_neg hfields]
    exact hchange

/-- Only what the click asks for is sent. -/
theorem asks_of_mem (h : click.post ns name = some post) (hns : ns ≠ "") (hname : name ≠ "")
    {upstream : Upstream} {answered : Bool} {auditLog : AuditLog} {w : ClusterWrite × Bool}
    (hw : w ∈ (Server.handle (jsonCodec isPrint) auditLog (loggingInput
      (postOf (post.request upstream answered)) click.endpoint)).writes) :
    Asks isPrint ns name click w.1 := by
  have hchecked := checked_post isPrint h hns hname upstream answered
  obtain ⟨target, htarget, hsends⟩ := sends_of_mem hw
  obtain rfl := Option.some.inj (hchecked.symm.trans htarget)
  obtain ⟨w, accepted⟩ := w
  rcases post_cases h with ⟨-, ⟨_, rfl, -⟩ | ⟨_, rfl, -⟩ | ⟨_, rfl, -⟩⟩ |
    ⟨channel, currentChannel, rfl, hchannel, -, hvalues⟩
  · cases hsends with
    | approve _ _ plan => exact .approve _ plan
  · cases hsends with
    | restartPod _ _ pod => exact .restartPod _ pod
  · cases hsends with
    | delete => exact .delete _
  · have hbody : (jsonCodec isPrint).channelChange
        (postOf (post.request upstream answered)).body = some ⟨ns, name, JsRegex.trim channel⟩ := by
      rw [← channelChange_strings, ← jsonOrEmpty_strings (List.cons_ne_nil _ _), ← hvalues]
      rfl
    obtain ⟨accepted', hwrites⟩ := writes_changeChannel (jsonCodec isPrint) auditLog rfl hbody hns
      hname hchannel
    have hw : (w, accepted) ∈ (handleChangeChannel (jsonCodec isPrint) auditLog
      (postOf (post.request upstream answered)).toRequest).writes := hw
    rw [hwrites] at hw
    rw [(Prod.mk.inj (List.mem_singleton.mp hw)).1]
    exact .changeChannel channel currentChannel

end Click

/-! ## What the user is told -/

section Told

variable {Body : Type} {codec : Codec Body}

theorem told_remediation {r : Server.Request Body} {target : Target}
    (h : checkedTarget codec r = some target) (auditLog : AuditLog) (eventType action : String) :
    told (.operator (.handled (handleRemediation codec auditLog r eventType action).response)) =
      .ofSuccess (WriteLog.accepted
        (handleRemediation codec auditLog r eventType action).writes) := by
  rw [handleRemediation, withTarget_of_some h]
  exact congrArg Told.ofSuccess (executeRemediationAction_success _ _ _ _)

/-- By an answer that arrives, the user is told whether a write was accepted. -/
theorem told_eq {r : HttpRequest Body} {endpoint : Logging} {target : Target}
    (h : checked codec (loggingInput r endpoint) = some target) (auditLog : AuditLog) :
    told (.operator (.handled
        (Server.handle codec auditLog (loggingInput r endpoint)).response)) =
      .ofSuccess (WriteLog.accepted
        (Server.handle codec auditLog (loggingInput r endpoint)).writes) := by
  cases endpoint with
  | approve | delete => exact told_remediation h auditLog _ _
  | restartPod =>
    have h : checkedTarget codec r.toRequest = some target := h
    rw [loggingInput, Server.handle]
    unfold handleRestartPod
    simp only [withTarget_of_some h]
    cases (r.api 0).list podGVR target.nameSpace ("operators.coreos.com/" ++ target.name) with
    | ok pods => exact congrArg Told.ofSuccess (deletePods_success _ _ _ _)
    | error _ => rfl
  | changeChannel =>
    have h : checkedChange codec r.toRequest = some target := h
    unfold checkedChange at h
    split at h
    · rename_i hmethod
      obtain ⟨req, hbody, hreq⟩ := Option.bind_eq_some_iff.mp h
      split at hreq
      · cases hreq
      · rename_i hpresent
        rw [loggingInput, Server.handle]
        unfold handleChangeChannel
        simp only [hmethod, hbody, ne_eq, not_true_eq_false, if_false, if_neg hpresent]
        split
        · rfl
        · rfl
    · cases h
  | auditEvents => cases h

end Told

/-! ## From the click to the audit view -/

/-- An event that was just pushed comes first among those about its operator. -/
theorem audit_view_push (auditLog : AuditLog) (e : AuditEvent) :
    ∃ later, (handleGetAuditEvents (Window.push auditLogCapacity auditLog e)
      e.nameSpace e.name).response = .events (later.length + 1) (e :: later) := by
  have hmatches : eventMatches e.nameSpace e.name e = true := by
    simp [eventMatches]
  rw [handleGetAuditEvents_eq, Window.push_eq_rtake]
  refine ⟨((auditLog.rtake 499).filter (eventMatches e.nameSpace e.name)).reverse, ?_⟩
  have hpushed : (auditLog ++ [e]).rtake auditLogCapacity = auditLog.rtake 499 ++ [e] :=
    List.rtake_concat_succ _ _ _
  dsimp only
  rw [hpushed, List.filter_append, List.filter_cons_of_pos hmatches, List.filter_nil,
    List.reverse_append, List.reverse_singleton, List.singleton_append, List.length_cons]

theorem handle_post (config : Config) {session : Session} {click : Click} {ns name : String}
    {post : Post} (h : click.post ns name = some post) (hin : session.loggedIn = true)
    (upstream : Upstream) (answered : Bool) :
    (handle config session (post.request upstream answered).toRequest).2 =
      .view .proxyOperatorActions := by
  have hdispatch : dispatch (post.request upstream answered).toRequest =
      .ok .proxyOperatorActions := by
    have hpath : ∀ path ∈ ["/api/v1/actions/approve", "/api/v1/actions/restart-pod",
        "/api/v1/actions/delete", "/api/v1/actions/change-channel"],
        dispatch ⟨.post, path, none⟩ = .ok .proxyOperatorActions := by decide
    refine hpath post.path ?_
    rcases post_cases h with ⟨-, ⟨_, -, hpath⟩ | ⟨_, -, hpath⟩ | ⟨_, -, hpath⟩⟩ |
      ⟨_, _, -, -, hpath, -⟩
    all_goals rw [hpath]; decide
  rw [handle, hdispatch]
  dsimp only
  rw [View.guarded, if_pos rfl, requiresAuth, hin]
  rfl

section Stepped

variable {Browser : Type} [DecidableEq Browser] {config : Config}
  {platform : Platform (Option Json)}

variable (platform) in
/-- A POST to an action path that is let in and reaches the operator is served there. -/
theorem consoleStep_post {console : Console Browser} {browser : Browser} {request : WebRequest}
    (hmethod : request.method = .post) (hdelivery : request.delivery ≠ .lost)
    (hresponse : (handle config (console.sessions browser) request.toRequest).2 =
      .view .proxyOperatorActions) :
    (consoleStep config platform console (.web browser request)).1.operator =
        (serve platform console.operator (postOf request)).1 ∧
      (consoleStep config platform console (.web browser request)).2 =
        some ⟨.view .proxyOperatorActions,
          [(serve platform console.operator (postOf request)).2]⟩ := by
  have hforward : toForward request (.view .proxyOperatorActions) = [postOf request] := by
    rw [toForward, forwarded, proxyToOperator, if_pos hmethod, forwardedPost, if_neg hdelivery]
    rfl
  unfold consoleStep
  dsimp only
  rw [hresponse, hforward]
  exact ⟨rfl, rfl⟩

theorem serve_logging {process : Process} {r : HttpRequest (Option Json)} {endpoint : Logging}
    (h : findHandler platform.unescape r.method r.segments = .handler (.logging endpoint)) :
    serve platform process r =
      (⟨process.opCache, (Server.handle platform.codec process.auditLog
        (loggingInput r endpoint)).auditLog⟩,
      .handled (Server.handle platform.codec process.auditLog (loggingInput r endpoint)).response,
      (Server.handle platform.codec process.auditLog (loggingInput r endpoint)).writes) := by
  rw [serve, h]

end Stepped

def plainUpstream (objects : GroupVersionResource → List Unstructured) : Upstream where
  now := ""
  api _ := snapshotClient objects
  pyxis := .error ""
  order := .asStored

/-- A platform for JSON bodies. -/
def jsonPlatform (isPrint : Char → Bool) : Platform (Option Json) where
  codec := jsonCodec isPrint
  unescape := id
  unescape_plain := unescape_id
  quantities := plainQuantities
  getenv _ := ""
  parseFloat _ := none

/-- A login with the form. -/
def loginEvent (browser : Nat) (password : String) : ConsoleEvent Nat :=
  .web browser
    { loginRequest password with
        json := none
        delivery := .lost
        gets := []
        upstream := plainUpstream fun _ => [] }

/-- Browser 0 logs in and approves the upgrade of `etcd`. -/
def etcdApproved : Console Nat × Option Exchange :=
  consoleStep ⟨"admin", by decide⟩ (jsonPlatform fun _ => true)
    (consoleAfter ⟨"admin", by decide⟩ (jsonPlatform fun _ => true) [loginEvent 0 "admin"])
    (.web 0 (Post.request ⟨"/api/v1/actions/approve",
      [("namespace", "operators"), ("name", "etcd")]⟩ (plainUpstream waitingPlan) true))

end HybridOperator.Dashboard
