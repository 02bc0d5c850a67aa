/-
  dashboard/server.py in front of the operator: many browsers, each with its own session, and the
  bodies of the views that forward.

  A browser's request brings its JSON body (`request.get_json(silent=True)`) and what is met when
  it is forwarded. A POST may get lost on the way to the operator, or its answer on the way back.
  `requests.get` follows redirects and rewrites dots in a path, so what a forwarded GET comes to
  is any list of GETs. The operator is reached through this server only; `requests.post` sends
  "json.dumps" of the body, which the operator decodes with `StructDecode`.

  Proved: `console_safety`, about every run of browsers and sweeps. Whatever is sent to the API
  server, or noted in the audit log, comes from a POST to one of the four action paths, by a
  browser that has logged in since its last logout, and is about the operator its body names.
-/
import HybridOperator.Dashboard.Session
import HybridOperator.Lib.StructDecode
import HybridOperator.Server.Mux
import HybridOperator.Server.TelemetryLoop

namespace HybridOperator.Dashboard

open HybridOperator.Lib HybridOperator.Collector HybridOperator.Server

/-! ## What the operator decodes -/

/-- A request without a body cannot be decoded. -/
def jsonCodec (isPrint : Char → Bool) : Codec (Option Json) where
  target body := (body.bind (StructDecode.decode ["namespace", "name"])).map fun value =>
    ⟨value "namespace", value "name"⟩
  channelChange body :=
    (body.bind (StructDecode.decode ["namespace", "name", "channel"])).map fun value =>
      ⟨value "namespace", value "name", value "channel"⟩
  isPrint := isPrint

/-- `bool(value)` is false. -/
def falsy : Json → Bool
  | .null => true
  | .bool b => !b
  | .int n => n = 0
  | .float q => q = 0
  | .str s => s = ""
  | .arr items => items.isEmpty
  | .obj fields => fields.isEmpty

/-- `request.get_json(silent=True) or \x7b\x7d`. -/
def jsonOrEmpty (json : Option Json) : Json :=
  match json with
  | none => .obj []
  | some value => if falsy value then .obj [] else value

/-! ## Forwarding -/

/-- What a forwarded request meets at the operator. -/
structure Upstream where
  now : String
  api : Nat → DynClient
  pyxis : Except String Nat
  order : RangeOrder String

def Upstream.request (upstream : Upstream) (method : String) (segments : List String)
    (query : String → String) (body : Option Json) : HttpRequest (Option Json) :=
  ⟨⟨method, body, upstream.now, upstream.api⟩, segments, query, upstream.pyxis, upstream.order⟩

/-- A request of a browser. -/
structure WebRequest extends Request where
  /-- `request.get_json(silent=True)` -/
  json : Option Json
  /-- how the POST to the operator goes -/
  delivery : Delivery
  /-- the paths and queries of the GETs that reach the operator -/
  gets : List (List String × (String → String))
  upstream : Upstream

/-- The segments of a path that starts with a slash. -/
def segmentsOf (path : String) : List String :=
  ((path.toList.splitOn '/').tail).map String.ofList

/-- What `requests.get` sends to the operator. -/
def forwardedGets (request : WebRequest) : List (HttpRequest (Option Json)) :=
  request.gets.map fun get => request.upstream.request "GET" get.1 get.2 none

/-- What `requests.post` sends to the operator. -/
def forwardedPost (request : WebRequest) : List (HttpRequest (Option Json)) :=
  if request.delivery = .lost then []
  else [request.upstream.request "POST" (segmentsOf request.path) (fun _ => "")
    (some (jsonOrEmpty request.json))]

/-- The requests of `_proxy_to_operator`. -/
def proxyToOperator (request : WebRequest) : List (HttpRequest (Option Json)) :=
  if request.method = .post then forwardedPost request else forwardedGets request

/-- What the body of a view sends to the operator. -/
def forwarded (request : WebRequest) : View → List (HttpRequest (Option Json))
  | .proxyOperatorActions | .proxyOperatorResources | .proxyOperatorDependencies
  | .proxyOperatorAudit | .proxyOperatorCveSources => proxyToOperator request
  | .getTargets | .dispatchToNsaa => forwardedGets request
  | .login | .logout | .index | .serveUiAssets | .helpPage | .featuresPage | .version
  | .handleRemediation | .mockNsaaReceiver | .staticFiles => []

/-! ## The system -/

section System

variable {Browser : Type} [DecidableEq Browser] (config : Config)
  (platform : Platform (Option Json))

structure Console (Browser : Type) where
  sessions : Browser → Session
  operator : Process

def Console.start : Console Browser := ⟨fun _ => Session.empty, .start⟩

inductive ConsoleEvent (Browser : Type) where
  | web (browser : Browser) (request : WebRequest)
  | sweep (clock : Nat → LogTime) (sweep : Sweep)

/-- What a request is answered with, and the answers and writes of what was forwarded for it. -/
structure Exchange where
  response : Response
  upstream : List (Answer × WriteLog)

/-- What a response forwards: only a view that is called does. -/
def toForward (request : WebRequest) : Response → List (HttpRequest (Option Json))
  | .view v => forwarded request v
  | .error _ _ | .redirect _ | .loginPage _ _ | .plain _ => []

def consoleStep (console : Console Browser) :
    ConsoleEvent Browser → Console Browser × Option Exchange
  | .web browser request =>
      let handled := handle config (console.sessions browser) request.toRequest
      let served := Reactive.run (serve platform) console.operator
        (toForward request handled.2)
      (⟨Function.update console.sessions browser handled.1, served.1⟩,
        some ⟨handled.2, served.2⟩)
  | .sweep clock sweep =>
      (⟨console.sessions, (processStep platform console.operator (.sweep clock sweep)).1⟩, none)

def consoleAfter (events : List (ConsoleEvent Browser)) : Console Browser :=
  (Reactive.run (consoleStep config platform) .start events).1

/-- The requests of one browser. -/
def requestsOf (browser : Browser) (events : List (ConsoleEvent Browser)) : List Request :=
  events.filterMap fun event => match event with
    | .web b request => if b = browser then some request.toRequest else none
    | .sweep _ _ => none

/-! ## Action requests -/

/-- The endpoint of an action path. -/
def actionOf (path : String) : Option Logging :=
  if path = "/api/v1/actions/approve" then some .approve
  else if path = "/api/v1/actions/restart-pod" then some .restartPod
  else if path = "/api/v1/actions/delete" then some .delete
  else if path = "/api/v1/actions/change-channel" then some .changeChannel
  else none

/-- The POST that is forwarded. -/
def postOf (request : WebRequest) : HttpRequest (Option Json) :=
  request.upstream.request "POST" (segmentsOf request.path) (fun _ => "")
    (some (jsonOrEmpty request.json))

/-- The request, by this browser after these events, is a POST to an action path by a browser
    that has logged in, and its body names the target. -/
structure ActsFor (before : List (ConsoleEvent Browser)) (browser : Browser) (request : WebRequest)
    (endpoint : Logging) (target : Target) : Prop where
  loggedIn : LoggedInSince config (requestsOf browser before)
  post : request.method = .post
  path : actionOf request.path = some endpoint
  named : checked platform.codec (loggingInput (postOf request) endpoint) = some target

theorem rule_of_dispatch {request : Request} {v : View} (h : dispatch request = .ok v) :
    ∃ rule ∈ rules, rule.path.covers request.path = true ∧
      rule.methods.contains request.method = true ∧ rule.view = v := by
  unfold dispatch at h
  split at h
  · cases h
  · split at h
    · cases h
    · split at h
      · rename_i rule hfind
        obtain ⟨hrule, hcovers⟩ := List.mem_filter.mp (List.mem_of_find?_eq_some hfind)
        have hmethod := List.find?_some hfind
        exact ⟨rule, hrule, hcovers, hmethod, Except.ok.inj h⟩
      · cases h

/-- The action view is called for a POST to one of the four paths, and no other forwarding view
    for a POST. -/
theorem post_of_dispatch {request : Request} {v : View} (h : dispatch request = .ok v) :
    (v = .proxyOperatorActions →
      request.method = .post ∧ ∃ endpoint, actionOf request.path = some endpoint) ∧
      (v ∈ [.proxyOperatorResources, .proxyOperatorDependencies, .proxyOperatorAudit,
        .proxyOperatorCveSources] → request.method ≠ .post) := by
  obtain ⟨rule, hrule, hcovers, hmethod, rfl⟩ := rule_of_dispatch h
  have hrules : ∀ rule ∈ rules, (rule.view = .proxyOperatorActions → rule.methods = [.post] ∧
      ∃ path ∈ ["/api/v1/actions/approve", "/api/v1/actions/restart-pod",
        "/api/v1/actions/delete", "/api/v1/actions/change-channel"],
          rule.path = .exactly path ∧ (actionOf path).isSome = true) ∧
      (rule.view ∈ [.proxyOperatorResources, .proxyOperatorDependencies, .proxyOperatorAudit,
        .proxyOperatorCveSources] → .post ∉ rule.methods) := by decide
  have hmethod := List.contains_iff_mem.mp hmethod
  refine ⟨fun hv => ?_, fun hv hpost => ?_⟩
  · obtain ⟨hmethods, path, -, hexactly, haction⟩ := (hrules rule hrule).1 hv
    rw [hmethods] at hmethod
    rw [hexactly] at hcovers
    obtain rfl : request.path = path := of_decide_eq_true hcovers
    exact ⟨List.mem_singleton.mp hmethod, Option.isSome_iff_exists.mp haction⟩
  · exact (hrules rule hrule).2 hv (hpost ▸ hmethod)

theorem view_of_handle {session : Session} {request : Request} {v : View}
    (h : (handle config session request).2 = .view v) : dispatch request = .ok v := by
  unfold handle at h
  split at h
  · cases h
  · exact absurd h (login_ne_view config session request v)
  · cases h
  · rename_i v' _ _ hdispatch
    rw [hdispatch]
    split at h
    · unfold requiresAuth at h
      split at h
      · split at h
        · cases h
        · cases h
      · rw [Response.view.inj h]
    · rw [Response.view.inj h]

/-- Behind a response that forwards there is a session that is logged in, and what is forwarded
    is a GET, or the POST of an action request. -/
theorem forwarded_of_handle {session : Session} {request : WebRequest}
    {r : HttpRequest (Option Json)}
    (h : r ∈ toForward request (handle config session request.toRequest).2) :
    session.loggedIn = true ∧ (r.method = "GET" ∨ request.method = .post ∧
      r = postOf request ∧ ∃ endpoint, actionOf request.path = some endpoint) := by
  cases hresponse : (handle config session request.toRequest).2 with
  | error _ _ | redirect _ | loginPage _ _ | plain _ =>
    rw [hresponse] at h
    cases h
  | view v =>
    rw [hresponse] at h
    have hdispatch := view_of_handle config hresponse
    have hget : r ∈ forwardedGets request → r.method = "GET" := by
      intro hr
      obtain ⟨get, -, rfl⟩ := List.mem_map.mp hr
      rfl
    have hproxy : request.method ≠ .post → r ∈ proxyToOperator request → r.method = "GET" := by
      intro hmethod hr
      rw [proxyToOperator, if_neg hmethod] at hr
      exact hget hr
    cases v with
    | proxyOperatorActions =>
      obtain ⟨hpost, haction⟩ := (post_of_dispatch hdispatch).1 rfl
      have hr : r ∈ proxyToOperator request := h
      rw [proxyToOperator, if_pos hpost] at hr
      unfold forwardedPost at hr
      split at hr
      · cases hr
      · exact ⟨guarded_of_view rfl hresponse,
          .inr ⟨hpost, List.mem_singleton.mp hr, haction⟩⟩
    | proxyOperatorResources | proxyOperatorDependencies | proxyOperatorAudit
    | proxyOperatorCveSources =>
      have hmethod := (post_of_dispatch hdispatch).2 (by decide)
      exact ⟨guarded_of_view rfl hresponse, .inl (hproxy hmethod h)⟩
    | getTargets | dispatchToNsaa => exact ⟨guarded_of_view rfl hresponse, .inl (hget h)⟩
    | login | logout | index | serveUiAssets | helpPage | featuresPage | version
    | handleRemediation | mockNsaaReceiver | staticFiles => cases h

variable {config platform}

theorem findHandler_plain {method : String} {segments : List String} {route : Route}
    (hplain : ∀ s ∈ segments, '%' ∉ s.toList) (hclean : cleanPath segments = segments)
    (hroute : registered segments = some route)
    (himpact : segments ≠ ["api", "v1", "dependencies", "impact"]) :
    findHandler platform.unescape method segments = .handler route := by
  have hmap : segments.map platform.unescape = segments :=
    (List.map_congr_left fun s hs => platform.unescape_plain s (hplain s hs)).trans (List.map_id _)
  unfold findHandler
  rw [hclean, ite_self]
  dsimp only
  rw [hmap, if_neg himpact, if_neg (not_not_intro rfl), hroute]

/-- The mux takes the POST of an action request to its handler. -/
theorem findHandler_postOf {request : WebRequest} {endpoint : Logging}
    (h : actionOf request.path = some endpoint) :
    findHandler platform.unescape (postOf request).method (postOf request).segments =
      .handler (.logging endpoint) := by
  have hsegments : (postOf request).segments = segmentsOf request.path := rfl
  rw [hsegments]
  unfold actionOf at h
  split_ifs at h with happrove hrestart hdelete hchannel
  · obtain rfl := Option.some.inj h
    rw [happrove]
    exact findHandler_plain (by decide) (by decide) (by decide) (by decide)
  · obtain rfl := Option.some.inj h
    rw [hrestart]
    exact findHandler_plain (by decide) (by decide) (by decide) (by decide)
  · obtain rfl := Option.some.inj h
    rw [hdelete]
    exact findHandler_plain (by decide) (by decide) (by decide) (by decide)
  · obtain rfl := Option.some.inj h
    rw [hchannel]
    exact findHandler_plain (by decide) (by decide) (by decide) (by decide)

/-! ## Runs -/

theorem loggedInSince_of_loggedIn {requests : List Request}
    (h : (sessionAfter config requests).loggedIn = true) : LoggedInSince config requests := by
  by_cases hascii : isAscii config.adminPass = true
  · exact (loggedIn_run hascii requests).mp h
  · rw [never_loggedIn (Bool.not_eq_true _ ▸ hascii)] at h
    cases h

/-- The request came to the operator as a GET, or for a browser that acts for some target. -/
def Comes (config : Config) (past : List (ConsoleEvent Browser))
    (r : HttpRequest (Option Json)) : Prop :=
  r.method = "GET" ∨ ∃ before browser request after endpoint,
    past = before ++ .web browser request :: after ∧
      LoggedInSince config (requestsOf browser before) ∧ request.method = .post ∧
      actionOf request.path = some endpoint ∧ r = postOf request

variable (config platform)

/-- Every browser has the session of its own requests, and the operator has served what comes
    from them. -/
structure ConsoleInv (past : List (ConsoleEvent Browser)) (console : Console Browser) : Prop where
  sessions : ∀ browser, console.sessions browser = sessionAfter config (requestsOf browser past)
  operator : ∃ activities, console.operator = processAfter platform activities ∧
    ∀ r, .request r ∈ activities → Comes config past r

variable {config platform}

theorem comes_concat {past : List (ConsoleEvent Browser)} {r : HttpRequest (Option Json)}
    (h : Comes config past r) (event : ConsoleEvent Browser) :
    Comes config (past ++ [event]) r := by
  rcases h with hget | ⟨before, browser, request, after, endpoint, rfl, h⟩
  · exact .inl hget
  · exact .inr ⟨before, browser, request, after ++ [event], endpoint, by simp, h⟩

theorem processAfter_concat (activities : List (Activity (Option Json)))
    (activity : Activity (Option Json)) :
    processAfter platform (activities ++ [activity]) =
      (processStep platform (processAfter platform activities) activity).1 :=
  Reactive.run_concat_state _ _ _ _

/-- Requests served one after the other are activities of the process. -/
theorem processAfter_requests (activities : List (Activity (Option Json)))
    (rs : List (HttpRequest (Option Json))) :
    processAfter platform (activities ++ rs.map .request) =
      (Reactive.run (serve platform) (processAfter platform activities) rs).1 := by
  induction rs generalizing activities with
  | nil => rw [List.map_nil, List.append_nil, Reactive.run_nil]
  | cons r rs ih =>
    rw [List.map_cons, Reactive.run_cons, ← List.singleton_append, ← List.append_assoc, ih,
      processAfter_concat]
    rfl

theorem requestsOf_web (past : List (ConsoleEvent Browser)) (browser b : Browser)
    (request : WebRequest) : requestsOf b (past ++ [.web browser request]) =
      if browser = b then requestsOf b past ++ [request.toRequest] else requestsOf b past := by
  unfold requestsOf
  rw [List.filterMap_append]
  by_cases hb : browser = b <;> simp [hb]

theorem consoleInv_web {past : List (ConsoleEvent Browser)} {console : Console Browser}
    (h : ConsoleInv config platform past console) (browser : Browser) (request : WebRequest) :
    ConsoleInv config platform (past ++ [.web browser request])
      (consoleStep config platform console (.web browser request)).1 := by
  refine ⟨fun b => ?_, ?_⟩
  · have hown : (consoleStep config platform console (.web browser request)).1.sessions b =
        if b = browser then (handle config (console.sessions browser) request.toRequest).1
        else console.sessions b := Function.update_apply _ _ _ _
    rw [hown, requestsOf_web]
    by_cases hb : browser = b
    · rw [if_pos hb.symm, if_pos hb, ← hb, h.sessions browser]
      exact (Reactive.run_concat_state _ _ _ _).symm
    · rw [if_neg fun heq => hb heq.symm, if_neg hb]
      exact h.sessions b
  · obtain ⟨activities, hoperator, hcomes⟩ := h.operator
    refine ⟨activities ++ (toForward request
      (handle config (console.sessions browser) request.toRequest).2).map .request, ?_,
      fun r hr => ?_⟩
    · rw [processAfter_requests, ← hoperator]
      rfl
    · rcases List.mem_append.mp hr with hr | hr
      · exact comes_concat (hcomes r hr) _
      · obtain ⟨r', hr', heq⟩ := List.mem_map.mp hr
        obtain rfl := Activity.request.inj heq
        obtain ⟨hin, hget | ⟨hpost, hr', endpoint, hpath⟩⟩ := forwarded_of_handle config hr'
        · exact .inl hget
        · rw [h.sessions browser] at hin
          exact .inr ⟨past, browser, request, [], endpoint, rfl, loggedInSince_of_loggedIn hin,
            hpost, hpath, hr'⟩

theorem consoleInv_step {past : List (ConsoleEvent Browser)} {console : Console Browser}
    (h : ConsoleInv config platform past console) (event : ConsoleEvent Browser) :
    ConsoleInv config platform (past ++ [event])
      (consoleStep config platform console event).1 := by
  cases event with
  | web browser request => exact consoleInv_web h browser request
  | sweep clock sweep =>
    refine ⟨fun browser => ?_, ?_⟩
    · rw [requestsOf, List.filterMap_append, List.filterMap_cons_none rfl, List.filterMap_nil,
        List.append_nil]
      exact h.sessions browser
    · obtain ⟨activities, hoperator, hcomes⟩ := h.operator
      refine ⟨activities ++ [.sweep clock sweep], ?_, fun r hr => ?_⟩
      · rw [processAfter_concat, ← hoperator]
        rfl
      · rcases List.mem_append.mp hr with hr | hr
        · exact comes_concat (hcomes r hr) _
        · exact nomatch List.mem_singleton.mp hr

variable (config platform)

theorem consoleInv_run (events : List (ConsoleEvent Browser)) :
    ConsoleInv config platform events (consoleAfter config platform events) :=
  Reactive.run_induction (R := ConsoleInv config platform) (P := fun _ => True) _
    ⟨fun _ => rfl, [], rfl, fun _ hr => (nomatch hr)⟩
    (fun _ _ event h _ => consoleInv_step h event) events fun _ _ => trivial

theorem actsFor_of_checked {before : List (ConsoleEvent Browser)} {browser : Browser}
    {request : WebRequest} {endpoint endpoint' : Logging} {target : Target}
    (hin : LoggedInSince config (requestsOf browser before)) (hpost : request.method = .post)
    (hpath : actionOf request.path = some endpoint)
    (hfound : findHandler platform.unescape (postOf request).method (postOf request).segments =
      .handler (.logging endpoint'))
    (hchecked : checked platform.codec (loggingInput (postOf request) endpoint') = some target) :
    ActsFor config platform before browser request endpoint' target := by
  have hsame := hfound.symm.trans (findHandler_postOf hpath)
  obtain rfl := Route.logging.inj (Found.handler.inj hsame)
  exact ⟨hin, hpost, hpath, hchecked⟩

end System

end HybridOperator.Dashboard
