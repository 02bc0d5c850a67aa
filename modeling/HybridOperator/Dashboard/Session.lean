/-
  The session of the dashboard: the routes of dashboard/server.py, `requires_auth`, `login` and
  `logout`, for one browser that keeps its cookie and a session that does not expire.

  A request is its method, its path and the `password` field of its form. Flask answers HEAD as
  GET and OPTIONS by itself, and gives 404 and 405 without calling a view. What the body of a
  view other than `login` and `logout` answers is `view`: no such body touches the session.

  `hmac.compare_digest` on two strings is `compareDigest`: it raises `TypeError` when one of them
  has a character outside ASCII, and the request is answered 500 with the session as it was.

  Proved: `session_law_iff`: logged in after a run means a correct login since the last logout,
  a guarded body runs only then and a wrong password changes nothing, exactly when `ADMIN_PASS`
  is ASCII. The second and the third hold for every password (`guarded_of_view`,
  `wrong_password_unchanged`).
-/
import HybridOperator.Lib.GoStrings
import HybridOperator.Lib.Reactive

namespace HybridOperator.Dashboard

open HybridOperator.Lib

/-! ## Routes -/

inductive Method where
  | get
  | head
  | post
  | options
  /-- any other verb -/
  | other (verb : String)
deriving DecidableEq

/-- The views, under the names of their functions. `staticFiles` is Flask's own. -/
inductive View where
  | login
  | logout
  | index
  | serveUiAssets
  | getTargets
  | dispatchToNsaa
  | proxyOperatorActions
  | proxyOperatorResources
  | proxyOperatorDependencies
  | proxyOperatorAudit
  | proxyOperatorCveSources
  | helpPage
  | featuresPage
  | version
  | handleRemediation
  | mockNsaaReceiver
  | staticFiles
deriving DecidableEq

/-- The views under `@requires_auth`. -/
def View.guarded : View → Bool
  | login | logout | serveUiAssets | version | mockNsaaReceiver | staticFiles => false
  | index | getTargets | dispatchToNsaa | proxyOperatorActions | proxyOperatorResources
  | proxyOperatorDependencies | proxyOperatorAudit | proxyOperatorCveSources | helpPage
  | featuresPage | handleRemediation => true

/-- The path of a rule; `under p` is `p` and then `<path:...>`, which is not empty and does not
    start with a slash. -/
inductive PathRule where
  | exactly (path : String)
  | under (parent : String)
deriving DecidableEq

def PathRule.covers (path : String) : PathRule → Bool
  | exactly p => path = p
  | under parent =>
      match (path.toList.drop parent.toList.length) with
      | [] => false
      | c :: _ => GoStrings.hasPrefix path parent && c ≠ '/'

structure Rule where
  path : PathRule
  methods : List Method
  view : View

/-- `methods` of a rule that names none. -/
def getMethods : List Method := [.get, .head]

/-- The rules in the order of the file. -/
def rules : List Rule :=
  [⟨.under "/static/", getMethods, .staticFiles⟩,
    ⟨.exactly "/login", [.get, .head, .post], .login⟩,
    ⟨.exactly "/logout", getMethods, .logout⟩,
    ⟨.exactly "/", getMethods, .index⟩,
    ⟨.under "/ui/", getMethods, .serveUiAssets⟩,
    ⟨.exactly "/api/v1/catalog/targets", getMethods, .getTargets⟩,
    ⟨.exactly "/api/v1/nsaa/dispatch", [.post], .dispatchToNsaa⟩,
    ⟨.exactly "/api/v1/actions/approve", [.post], .proxyOperatorActions⟩,
    ⟨.exactly "/api/v1/actions/restart-pod", [.post], .proxyOperatorActions⟩,
    ⟨.exactly "/api/v1/actions/delete", [.post], .proxyOperatorActions⟩,
    ⟨.exactly "/api/v1/actions/change-channel", [.post], .proxyOperatorActions⟩,
    ⟨.exactly "/api/v1/resources/subscription", getMethods, .proxyOperatorResources⟩,
    ⟨.exactly "/api/v1/resources/csv", getMethods, .proxyOperatorResources⟩,
    ⟨.exactly "/api/v1/resources/metrics", getMethods, .proxyOperatorResources⟩,
    ⟨.exactly "/api/v1/resources/cost", getMethods, .proxyOperatorResources⟩,
    ⟨.exactly "/api/v1/dependencies/graph", getMethods, .proxyOperatorDependencies⟩,
    ⟨.under "/api/v1/dependencies/impact/", getMethods, .proxyOperatorDependencies⟩,
    ⟨.exactly "/api/v1/audit/events", getMethods, .proxyOperatorAudit⟩,
    ⟨.exactly "/api/v1/security/cve-sources", getMethods, .proxyOperatorCveSources⟩,
    ⟨.exactly "/help", getMethods, .helpPage⟩,
    ⟨.exactly "/features", getMethods, .featuresPage⟩,
    ⟨.exactly "/version", getMethods, .version⟩,
    ⟨.exactly "/api/v1/remediate", [.post], .handleRemediation⟩,
    ⟨.exactly "/api/v1/mock-nsaa", [.post], .mockNsaaReceiver⟩]

structure Request where
  method : Method
  path : String
  /-- `request.form.get('password')` -/
  password : Option String

/-- What a request is answered with, as far as the session decides it. -/
inductive Response where
  /-- what the body of the view gives -/
  | view (v : View)
  | error (status : Nat) (text : String)
  | redirect (location : String)
  | loginPage (status : Nat) (error : Option String)
  /-- an answer of Flask itself -/
  | plain (status : Nat)
deriving DecidableEq

/-- The view that is called, or the status that Flask answers. -/
def dispatch (request : Request) : Except Nat View :=
  match rules.filter fun rule => rule.path.covers request.path with
  | [] => .error 404
  | matching =>
      if request.method = .options then .error 200
      else
        match matching.find? fun rule => rule.methods.contains request.method with
        | some rule => .ok rule.view
        | none => .error 405

/-! ## Sessions -/

/-- What the code keeps in `session`. -/
structure Session where
  loggedIn : Bool
  user : Option String
  permanent : Bool
deriving DecidableEq

/-- `session` without a cookie, and after `clear()`. -/
def Session.empty : Session := ⟨false, none, false⟩

/-- The settings that the program does not start without. -/
structure Config where
  adminPass : String
  adminPass_ne : adminPass ≠ ""

def isAscii (s : String) : Bool := s.toList.all fun c => c.toNat < 128

/-- `hmac.compare_digest` of two strings, `none` for a `TypeError`. -/
def compareDigest (a b : String) : Option Bool :=
  if isAscii a && isAscii b then some (a = b) else none

/-- A view behind `requires_auth`: what it is called with is `session.permanent = True`. -/
def requiresAuth (f : Session → Session × Response) (session : Session) (request : Request) :
    Session × Response :=
  if !session.loggedIn then
    if GoStrings.hasPrefix request.path "/api/" then
      (session, .error 401 "Unauthorized. Please log in first.")
    else (session, .redirect "/login")
  else f { session with permanent := true }

def login (config : Config) (session : Session) (request : Request) : Session × Response :=
  if request.method = .post then
    let providedPass := request.password.getD ""
    match compareDigest providedPass config.adminPass with
    | none => (session, .plain 500)
    | some true => (⟨true, some "cluster-admin", true⟩, .redirect "/")
    | some false => (session, .loginPage 403 (some "Invalid credentials. Access denied."))
  else (session, .loginPage 200 none)

def logout : Session × Response := (Session.empty, .redirect "/login")

/-- One request, with the session of its cookie and of the answer's. -/
def handle (config : Config) (session : Session) (request : Request) : Session × Response :=
  match dispatch request with
  | .error status => (session, .plain status)
  | .ok .login => login config session request
  | .ok .logout => logout
  | .ok v =>
      if v.guarded then requiresAuth (fun session => (session, .view v)) session request
      else (session, .view v)

/-- The session after a sequence of requests of a browser that starts without a cookie. -/
def sessionAfter (config : Config) (requests : List Request) : Session :=
  (Reactive.run (handle config) Session.empty requests).1

example : dispatch ⟨.get, "/api/v1/dependencies/impact/etcd", none⟩ =
    .ok .proxyOperatorDependencies := by decide

example : dispatch ⟨.post, "/logout", none⟩ = .error 405 := by decide

/-! ## What the session means -/

/-- A POST /login with this password; a form without one carries the empty string. -/
def IsLogin (request : Request) (password : String) : Prop :=
  dispatch request = .ok .login ∧ request.method = .post ∧ request.password.getD "" = password

/-- A request that `logout` serves. -/
def IsLogout (request : Request) : Prop := dispatch request = .ok .logout

/-- Some POST /login since the last /logout carried `ADMIN_PASS`. -/
def LoggedInSince (config : Config) (requests : List Request) : Prop :=
  ∃ before request since, requests = before ++ request :: since ∧
    IsLogin request config.adminPass ∧ ∀ r ∈ since, ¬ IsLogout r

structure SessionLaw (config : Config) : Prop where
  logged_in : ∀ requests, (sessionAfter config requests).loggedIn = true ↔
    LoggedInSince config requests
  guarded : ∀ requests request v, v.guarded = true →
    (handle config (sessionAfter config requests) request).2 = .view v →
    LoggedInSince config requests
  wrong_password : ∀ session request password, IsLogin request password →
    password ≠ config.adminPass → (handle config session request).1 = session

/-! ## One request -/

theorem compareDigest_self (a : String) :
    compareDigest a a = if isAscii a then some true else none := by
  rw [compareDigest, Bool.and_self, decide_eq_true rfl]

theorem compareDigest_ne {a b : String} (h : a ≠ b) : compareDigest a b ≠ some true := by
  unfold compareDigest
  rw [decide_eq_false h]
  split
  · simp
  · simp

/-- A login with the right password is let in when the password is ASCII. -/
theorem login_right {config : Config} {request : Request}
    (h : IsLogin request config.adminPass) (session : Session) :
    (login config session request).1 =
      if isAscii config.adminPass then ⟨true, some "cluster-admin", true⟩ else session := by
  obtain ⟨-, hpost, hpass⟩ := h
  unfold login
  rw [if_pos hpost]
  dsimp only
  rw [hpass, compareDigest_self]
  by_cases hascii : isAscii config.adminPass = true
  · rw [if_pos hascii, if_pos hascii]
  · rw [if_neg hascii, if_neg hascii]

/-- Every other request to `login` leaves the session as it is. -/
theorem login_wrong {config : Config} {request : Request}
    (h : request.method ≠ .post ∨ request.password.getD "" ≠ config.adminPass)
    (session : Session) : (login config session request).1 = session := by
  unfold login
  split
  · rename_i hpost
    have hne := compareDigest_ne (h.resolve_left (not_not_intro hpost))
    dsimp only
    split
    · rfl
    · rename_i htrue
      exact absurd htrue hne
    · rfl
  · rfl

theorem handle_login {config : Config} {request : Request}
    (h : dispatch request = .ok .login) (session : Session) :
    handle config session request = login config session request := by
  rw [handle, h]

theorem handle_logout {config : Config} {request : Request}
    (h : dispatch request = .ok .logout) (session : Session) :
    handle config session request = logout := by
  rw [handle, h]

theorem loggedIn_requiresAuth (session : Session) (request : Request) (v : View) :
    (requiresAuth (fun session => (session, .view v)) session request).1.loggedIn =
      session.loggedIn := by
  unfold requiresAuth
  split
  · split
    · rfl
    · rfl
  · rfl

/-- A request that neither `login` nor `logout` serves. -/
theorem loggedIn_handle_other {config : Config} {request : Request}
    (hlogin : dispatch request ≠ .ok .login) (hlogout : dispatch request ≠ .ok .logout)
    (session : Session) :
    (handle config session request).1.loggedIn = session.loggedIn := by
  unfold handle
  split
  · rfl
  · rename_i h
    exact absurd h hlogin
  · rename_i h
    exact absurd h hlogout
  · split
    · exact loggedIn_requiresAuth session request _
    · rfl

/-- What one request does to being logged in. -/
theorem loggedIn_handle (config : Config) (session : Session) (request : Request) :
    (handle config session request).1.loggedIn = true ↔
      (IsLogin request config.adminPass ∧ isAscii config.adminPass = true) ∨
        (session.loggedIn = true ∧ ¬ IsLogout request) := by
  by_cases hlogout : dispatch request = .ok .logout
  · have hnot : ¬ IsLogin request config.adminPass := by
      intro h
      have hlogin := h.1
      rw [hlogout] at hlogin
      cases hlogin
    rw [handle_logout hlogout]
    simp [logout, Session.empty, hnot, IsLogout, hlogout]
  · by_cases hlogin : dispatch request = .ok .login
    · rw [handle_login hlogin]
      by_cases hright : IsLogin request config.adminPass
      · rw [login_right hright]
        by_cases hascii : isAscii config.adminPass = true
        · simp [hascii, hright]
        · simp [hascii, IsLogout, hlogout]
      · have hwrong : request.method ≠ .post ∨ request.password.getD "" ≠ config.adminPass := by
          by_contra hboth
          rw [not_or, not_not, not_not] at hboth
          exact hright ⟨hlogin, hboth.1, hboth.2⟩
        rw [login_wrong hwrong]
        simp [hright, IsLogout, hlogout]
    · have hnot : ¬ IsLogin request config.adminPass := fun h => hlogin h.1
      rw [loggedIn_handle_other hlogin hlogout]
      simp [hnot, IsLogout, hlogout]

/-! ## Runs -/

theorem not_loggedInSince_nil (config : Config) : ¬ LoggedInSince config [] := by
  rintro ⟨before, request, since, h, -⟩
  exact List.append_ne_nil_of_right_ne_nil before (List.cons_ne_nil request since) h.symm

theorem loggedInSince_concat (config : Config) (requests : List Request) (r : Request) :
    LoggedInSince config (requests ++ [r]) ↔
      IsLogin r config.adminPass ∨ (LoggedInSince config requests ∧ ¬ IsLogout r) := by
  constructor
  · rintro ⟨before, request, since, h, hlogin, hsince⟩
    rcases List.eq_nil_or_concat since with rfl | ⟨since', last, rfl⟩
    · have hlast := List.append_inj_right' h rfl
      obtain rfl := (List.cons.inj hlast).1
      exact Or.inl hlogin
    · rw [List.concat_eq_append, ← List.cons_append, ← List.append_assoc] at h
      obtain ⟨rfl, hlast⟩ := List.append_inj' h rfl
      obtain rfl := (List.cons.inj hlast).1
      refine Or.inr ⟨⟨before, request, since', rfl, hlogin, ?_⟩, ?_⟩
      · exact fun x hx => hsince x (by simp [hx])
      · exact hsince r (by simp)
  · rintro (hlogin | ⟨⟨before, request, since, rfl, hlogin, hsince⟩, hr⟩)
    · exact ⟨requests, r, [], rfl, hlogin, fun x hx => absurd hx List.not_mem_nil⟩
    · refine ⟨before, request, since ++ [r], by simp, hlogin, ?_⟩
      intro x hx
      rw [List.mem_append, List.mem_singleton] at hx
      rcases hx with hx | rfl
      · exact hsince x hx
      · exact hr

theorem loggedIn_run {config : Config} (hascii : isAscii config.adminPass = true)
    (requests : List Request) :
    (sessionAfter config requests).loggedIn = true ↔ LoggedInSince config requests := by
  refine Reactive.run_induction (P := fun _ => True)
    (R := fun past session => session.loggedIn = true ↔ LoggedInSince config past)
    (handle config) ?_ ?_ requests fun _ _ => trivial
  · simp [Session.empty, not_loggedInSince_nil]
  · intro past session request ih _
    rw [loggedIn_handle, loggedInSince_concat, ih]
    simp [hascii]

/-- With a password outside ASCII nobody is ever logged in. -/
theorem never_loggedIn {config : Config} (hascii : isAscii config.adminPass = false)
    (requests : List Request) : (sessionAfter config requests).loggedIn = false := by
  refine Reactive.run_induction (P := fun _ => True)
    (R := fun _ session => session.loggedIn = false)
    (handle config) rfl ?_ requests fun _ _ => trivial
  intro past session request ih _
  rw [← Bool.not_eq_true, loggedIn_handle, ih, hascii]
  simp

theorem login_ne_view (config : Config) (session : Session) (request : Request) (v : View) :
    (login config session request).2 ≠ .view v := by
  unfold login
  split
  · dsimp only
    split
    · exact Response.noConfusion
    · exact Response.noConfusion
    · exact Response.noConfusion
  · exact Response.noConfusion

theorem loggedIn_of_requiresAuth {session : Session} {request : Request} {v v' : View}
    (h : (requiresAuth (fun session => (session, .view v')) session request).2 = .view v) :
    session.loggedIn = true := by
  unfold requiresAuth at h
  split at h
  · split at h
    · cases h
    · cases h
  · rename_i hin
    simpa using hin

/-- A guarded body runs in a session that is logged in. -/
theorem guarded_of_view {config : Config} {session : Session} {request : Request} {v : View}
    (hv : v.guarded = true) (h : (handle config session request).2 = .view v) :
    session.loggedIn = true := by
  unfold handle at h
  split at h
  · cases h
  · exact absurd h (login_ne_view config session request v)
  · cases h
  · split at h
    · exact loggedIn_of_requiresAuth h
    · rename_i hopen
      obtain rfl := Response.view.inj h
      exact absurd hv hopen

theorem wrong_password_unchanged {config : Config} {request : Request} {password : String}
    (h : IsLogin request password) (hne : password ≠ config.adminPass) (session : Session) :
    (handle config session request).1 = session := by
  rw [handle_login h.1]
  refine login_wrong (Or.inr ?_) session
  rw [h.2.2]
  exact hne

/-- The login request of the console's form. -/
def loginRequest (password : String) : Request := ⟨.post, "/login", some password⟩

/-- The form has no part in the dispatch. -/
theorem dispatch_password (method : Method) (path : String) (password : Option String) :
    dispatch ⟨method, path, password⟩ = dispatch ⟨method, path, none⟩ := rfl

theorem isLogin_loginRequest (password : String) : IsLogin (loginRequest password) password := by
  have hroute : dispatch ⟨.post, "/login", none⟩ = .ok .login := by decide
  exact ⟨(dispatch_password .post "/login" (some password)).trans hroute, rfl, rfl⟩

/-- The session means what it should exactly when `ADMIN_PASS` is ASCII. -/
theorem session_law_iff (config : Config) :
    SessionLaw config ↔ isAscii config.adminPass = true := by
  constructor
  · intro law
    by_contra hascii
    have hright := isLogin_loginRequest config.adminPass
    have hsince : LoggedInSince config [loginRequest config.adminPass] :=
      ⟨[], _, [], rfl, hright, fun x hx => absurd hx List.not_mem_nil⟩
    have hin := (law.logged_in _).mpr hsince
    rw [never_loggedIn (Bool.not_eq_true _ ▸ hascii)] at hin
    cases hin
  · intro hascii
    exact
      { logged_in := loggedIn_run hascii
        guarded := fun requests request v hv h =>
          (loggedIn_run hascii requests).mp (guarded_of_view hv h)
        wrong_password := fun session request password h hne =>
          wrong_password_unchanged h hne session }

/-- `ADMIN_PASS` has an accent: the right password is answered 500 and lets nobody in. -/
theorem accented_pass_locks_out :
    let config : Config := ⟨"contraseña", by decide⟩
    handle config Session.empty (loginRequest "contraseña") = (Session.empty, .plain 500) ∧
      IsLogin (loginRequest "contraseña") config.adminPass ∧ ¬ SessionLaw config := by
  intro config
  have hright : IsLogin (loginRequest "contraseña") config.adminPass :=
    isLogin_loginRequest "contraseña"
  have hrejected : handle config Session.empty (loginRequest "contraseña") =
      (Session.empty, .plain 500) := by decide
  refine ⟨hrejected, hright, fun law => ?_⟩
  have hin := (law.logged_in [loginRequest "contraseña"]).mpr
    ⟨[], _, [], rfl, hright, fun x hx => absurd hx List.not_mem_nil⟩
  have hout : sessionAfter config [loginRequest "contraseña"] = Session.empty :=
    congrArg Prod.fst hrejected
  rw [hout] at hin
  cases hin

end HybridOperator.Dashboard
