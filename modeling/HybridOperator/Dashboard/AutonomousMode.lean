/-
  The autonomous mode of the page and its NSAA sync: `toggleAutonomousMode`, `loadAutonomousMode`,
  `startNsaaAutoSync`, `stopNsaaAutoSync`, `syncToNSAA`, `dispatchToNSAA` and
  `triggerRemediation` of static/app.js in all tabs of a browser, and `dispatch_to_nsaa` of
  server.py behind them.

  The tabs share `localStorage`, so a page is loaded in the mode that was chosen last in any tab,
  while a page that is open keeps its own. A POST is on its way for as long as it takes, also when
  its tab is closed; it may get lost, and it may be refused because the session has ended. The
  server reads the operator's inventory when it handles the POST, and sends on what it read: that
  the read and the request are one event here says nothing about what the operator holds when the
  request arrives. The requests of `requests.post` and `requests.get` to the NSAA endpoint carry
  "json.dumps" of it.

  Proved: `nsaa_sync`, about every run. Off, a page sends nothing of its own accord; and whatever
  endpoint a page names, the server asks its own.
-/
import HybridOperator.Dashboard.ConditionalGet
import HybridOperator.Dashboard.Console

namespace HybridOperator.Dashboard

open HybridOperator.Lib HybridOperator.Lib.JsonText HybridOperator.Lib.JsonSame
open HybridOperator.Lib.JsonPrint HybridOperator.Lib.JsonStyles

/-! ## The page -/

structure SyncPage where
  autonomousModeEnabled : Bool
  nsaaSyncTimer : Option Nat
  /-- the intervals of `syncToNSAA` that the browser runs -/
  liveSyncs : List Nat
  nextSync : Nat

/-- A POST of the page. -/
inductive PagePost where
  | sync
  | dispatch (endpoint : String)
  | remediate (action nameSpace target : String)
deriving DecidableEq

def PagePost.body : PagePost → Json
  | .sync => .obj [("method", .str "POST")]
  | .dispatch endpoint => .obj [("endpoint_url", .str endpoint), ("method", .str "POST")]
  | .remediate action nameSpace target =>
      .obj [("action", .str action), ("namespace", .str nameSpace), ("target", .str target)]

/-- Whether it goes to "/api/v1/nsaa/dispatch", else to "/api/v1/remediate". -/
def PagePost.toNsaa : PagePost → Bool
  | .sync | .dispatch _ => true
  | .remediate _ _ _ => false

/-- It sends one `syncToNSAA` at once. -/
def startNsaaAutoSync (page : SyncPage) : SyncPage × List PagePost :=
  match page.nsaaSyncTimer with
  | some _ => (page, [])
  | none =>
      ({ page with
          nsaaSyncTimer := some page.nextSync
          liveSyncs := page.liveSyncs ++ [page.nextSync]
          nextSync := page.nextSync + 1 }, [.sync])

def stopNsaaAutoSync (page : SyncPage) : SyncPage :=
  match page.nsaaSyncTimer with
  | none => page
  | some id =>
      { page with liveSyncs := page.liveSyncs.filter (· ≠ id), nsaaSyncTimer := none }

/-- What `toggleAutonomousMode` writes under `AUTONOMOUS_MODE_KEY`. -/
def modeText (enabled : Bool) : String := if enabled then "true" else "false"

def toggleAutonomousMode (page : SyncPage) (enabled : Bool) : SyncPage × List PagePost :=
  let page := { page with autonomousModeEnabled := enabled }
  if enabled then startNsaaAutoSync page else (stopNsaaAutoSync page, [])

/-- The page that is loaded, with what is under `AUTONOMOUS_MODE_KEY`. -/
def loadAutonomousMode (stored : Option String) : SyncPage × List PagePost :=
  let page : SyncPage := ⟨stored ≠ some "false", none, [], 1⟩
  if page.autonomousModeEnabled then startNsaaAutoSync page else (page, [])

/-- The callback of the interval `id`. -/
def syncTick (page : SyncPage) (id : Nat) : List PagePost :=
  if id ∈ page.liveSyncs then [.sync] else []

def triggerRemediation (page : SyncPage) (action nameSpace target : String) (confirmed : Bool) :
    List PagePost :=
  if !page.autonomousModeEnabled then []
  else if !confirmed then []
  else [.remediate action nameSpace target]

/-- `endpoint` is the answer to the prompt. -/
def dispatchToNSAA (endpoint : Option String) : List PagePost :=
  match endpoint with
  | none => []
  | some endpoint => if endpoint = "" then [] else [.dispatch endpoint]

/-! ## The server -/

/-- What the server sends to the NSAA endpoint. -/
structure NsaaRequest where
  method : String
  url : String
  data : String

/-- The inventory that is sent on, or the exception; `undecodable` is that of `res.json()`. -/
def inventoryData (undecodable : String) : Except String (Nat × String) → Except String Json
  | .error e => .error e
  | .ok (status, content) =>
      if status = 200 then
        match decode content with
        | some raw => .ok raw
        | none => .error undecodable
      else .ok (.obj [])

/-- `method.upper()`, as far as the comparison with "GET" goes. -/
def upper (method : String) : String := String.ofList (method.toList.map Char.toUpper)

section Server

variable (floats : Floats) (nsaaEndpoint : String)

/-- The answer, and what was sent; `nsaa` is the status that the endpoint answers, or the
    exception. -/
def dispatchToNsaa (json : Option Json) (inventory : Except String Json)
    (nsaa : Except String Nat) : WebAnswer × Option NsaaRequest :=
  match jsonOrEmpty json with
  | .obj payload =>
      match (payload.lookup "method").getD (.str "POST") with
      | .str method =>
          match inventory with
          | .error e => (⟨502, jsonify floats (.obj [("error",
              .str ("Failed to fetch local inventory for dispatch: " ++ e))]), none⟩, none)
          | .ok data =>
              let request : NsaaRequest :=
                ⟨if upper method = "GET" then "GET" else "POST", nsaaEndpoint,
                  String.ofList (print dumps floats data)⟩
              match nsaa with
              | .error e => (⟨502, jsonify floats (.obj [("error",
                  .str ("Failed to connect to NSAA endpoint: " ++ e))]), none⟩, some request)
              | .ok status => (⟨200, jsonify floats (.obj [("status", .str "Success"),
                  ("nsaa_status_code", .int status), ("target_url", .str nsaaEndpoint),
                  ("message", .str "Successfully forwarded governance JSON payload to NSAA.")]),
                  none⟩, some request)
      | _ => (⟨500, "", none⟩, none)
  | _ => (⟨500, "", none⟩, none)

end Server

/-! ## The system -/

section System

variable {Tab : Type} [DecidableEq Tab] (floats : Floats) (nsaaEndpoint : String)

structure SyncWorld (Tab : Type) where
  /-- the item under `AUTONOMOUS_MODE_KEY` -/
  stored : Option String
  /-- the tabs that are open -/
  tabs : Tab → Option SyncPage
  /-- the POSTs on their way -/
  inFlight : List PagePost
  inventory : Inventory floats

def SyncWorld.start (stored : Option String) (first : Inventory floats) : SyncWorld floats Tab :=
  ⟨stored, fun _ => none, [], first⟩

/-- How a POST is handled. -/
structure Handling where
  loggedIn : Bool
  /-- the exception when the operator is not reached -/
  unreachable : Option String
  nsaa : Except String Nat

inductive SyncEvent (Tab : Type) where
  | load (tab : Tab)
  | close (tab : Tab)
  | toggle (tab : Tab) (enabled : Bool)
  | tick (tab : Tab) (id : Nat)
  | remediate (tab : Tab) (action nameSpace target : String) (confirmed : Bool)
  | dispatch (tab : Tab) (endpoint : Option String)
  | sweep (inventory : Inventory floats)
  /-- a POST that is on its way gets lost -/
  | lose (n : Nat)
  /-- it is handled -/
  | arrive (n : Nat) (handling : Handling)

/-- What the operator answers `requests.get`. -/
def upstreamOf {floats : Floats} (inventory : Inventory floats) (unreachable : Option String) :
    Except String (Nat × String) :=
  match unreachable with
  | some e => .error e
  | none => .ok (200, inventory.text)

/-- What a POST makes the server send to the NSAA endpoint. -/
def delivered {floats : Floats} (inventory : Inventory floats) (post : PagePost)
    (handling : Handling) : Option NsaaRequest :=
  if handling.loggedIn && post.toNsaa then
    (dispatchToNsaa floats nsaaEndpoint (some post.body)
      (inventoryData "" (upstreamOf inventory handling.unreachable)) handling.nsaa).2
  else none

/-- The POSTs that an event sends, the mode that `showAutonomousStatusNotification` tells of, and
    what is sent to the NSAA endpoint. -/
structure SyncOutput where
  posts : List PagePost := []
  banner : Option Bool := none
  request : Option NsaaRequest := none

/-- An event in an open tab. -/
def inTab {floats : Floats} (world : SyncWorld floats Tab) (tab : Tab)
    (f : SyncPage → SyncPage × List PagePost) : SyncWorld floats Tab × SyncOutput :=
  match world.tabs tab with
  | none => (world, {})
  | some page =>
      let next := f page
      ({ world with
          tabs := Function.update world.tabs tab (some next.1)
          inFlight := world.inFlight ++ next.2 }, { posts := next.2 })

def syncStep {floats : Floats} (world : SyncWorld floats Tab) :
    SyncEvent floats Tab → SyncWorld floats Tab × SyncOutput
  | .load tab =>
      let next := loadAutonomousMode world.stored
      ({ world with
          tabs := Function.update world.tabs tab (some next.1)
          inFlight := world.inFlight ++ next.2 }, { posts := next.2 })
  | .close tab => ({ world with tabs := Function.update world.tabs tab none }, {})
  | .toggle tab enabled =>
      if (world.tabs tab).isSome then
        let next := inTab { world with stored := some (modeText enabled) } tab fun page =>
          toggleAutonomousMode page enabled
        (next.1, { next.2 with banner := some enabled })
      else (world, {})
  | .tick tab id => inTab world tab fun page => (page, syncTick page id)
  | .remediate tab action nameSpace target confirmed =>
      inTab world tab fun page =>
        (page, triggerRemediation page action nameSpace target confirmed)
  | .dispatch tab endpoint => inTab world tab fun page => (page, dispatchToNSAA endpoint)
  | .sweep inventory => ({ world with inventory := inventory }, {})
  | .lose n => ({ world with inFlight := world.inFlight.eraseIdx n }, {})
  | .arrive n handling =>
      ({ world with inFlight := world.inFlight.eraseIdx n },
        { request := world.inFlight[n]?.bind fun post =>
            delivered nsaaEndpoint world.inventory post handling })

def syncAfter {floats : Floats} (stored : Option String) (first : Inventory floats)
    (events : List (SyncEvent floats Tab)) : SyncWorld floats Tab :=
  (Reactive.run (syncStep nsaaEndpoint) (.start floats stored first) events).1

end System

/-! ## One page -/

/-- One interval is live exactly in autonomous mode, the recorded one. -/
structure Synced (page : SyncPage) : Prop where
  on : page.autonomousModeEnabled = true →
    ∃ id, page.nsaaSyncTimer = some id ∧ page.liveSyncs = [id]
  off : page.autonomousModeEnabled = false → page.nsaaSyncTimer = none ∧ page.liveSyncs = []

theorem synced_start {page : SyncPage} (htimer : page.nsaaSyncTimer = none)
    (hlive : page.liveSyncs = []) (henabled : page.autonomousModeEnabled = true) :
    Synced (startNsaaAutoSync page).1 ∧
      (startNsaaAutoSync page).1.autonomousModeEnabled = true := by
  unfold startNsaaAutoSync
  rw [htimer, hlive]
  refine ⟨⟨fun _ => ⟨page.nextSync, rfl, rfl⟩, fun hoff => ?_⟩, henabled⟩
  change page.autonomousModeEnabled = false at hoff
  rw [henabled] at hoff
  cases hoff

theorem synced_load (stored : Option String) : Synced (loadAutonomousMode stored).1 := by
  unfold loadAutonomousMode
  dsimp only
  split
  · rename_i henabled
    exact (synced_start rfl rfl henabled).1
  · rename_i henabled
    exact ⟨fun hon => absurd hon henabled, fun _ => ⟨rfl, rfl⟩⟩

theorem Synced.cases {page : SyncPage} (h : Synced page) :
    (∃ id, page.nsaaSyncTimer = some id ∧ page.liveSyncs = [id]) ∨
      (page.nsaaSyncTimer = none ∧ page.liveSyncs = []) := by
  cases henabled : page.autonomousModeEnabled with
  | true => exact Or.inl (h.on henabled)
  | false => exact Or.inr (h.off henabled)

theorem startNsaaAutoSync_running {page : SyncPage} {id : Nat}
    (h : page.nsaaSyncTimer = some id) : startNsaaAutoSync page = (page, []) := by
  unfold startNsaaAutoSync
  rw [h]

theorem stopNsaaAutoSync_running {page : SyncPage} {id : Nat} (h : page.nsaaSyncTimer = some id)
    (hlive : page.liveSyncs = [id]) :
    stopNsaaAutoSync page = { page with liveSyncs := [], nsaaSyncTimer := none } := by
  have hfilter : [id].filter (· ≠ id) = [] := by simp
  unfold stopNsaaAutoSync
  rw [h, hlive]
  dsimp only
  rw [hfilter]

theorem stopNsaaAutoSync_idle {page : SyncPage} (h : page.nsaaSyncTimer = none) :
    stopNsaaAutoSync page = page := by
  unfold stopNsaaAutoSync
  rw [h]

theorem synced_toggle {page : SyncPage} (h : Synced page) (enabled : Bool) :
    Synced (toggleAutonomousMode page enabled).1 ∧
      (toggleAutonomousMode page enabled).1.autonomousModeEnabled = enabled := by
  cases enabled with
  | true =>
    show Synced (startNsaaAutoSync { page with autonomousModeEnabled := true }).1 ∧ _ = true
    rcases h.cases with ⟨id, htimer, hlive⟩ | ⟨htimer, hlive⟩
    · have hstart : startNsaaAutoSync { page with autonomousModeEnabled := true } =
          ({ page with autonomousModeEnabled := true }, []) := startNsaaAutoSync_running htimer
      refine ⟨?_, congrArg (fun next => next.1.autonomousModeEnabled) hstart⟩
      rw [hstart]
      exact ⟨fun _ => ⟨id, htimer, hlive⟩, nofun⟩
    · exact synced_start htimer hlive rfl
  | false =>
    show Synced (stopNsaaAutoSync { page with autonomousModeEnabled := false }) ∧ _ = false
    rcases h.cases with ⟨id, htimer, hlive⟩ | ⟨htimer, hlive⟩
    · have hstop : stopNsaaAutoSync { page with autonomousModeEnabled := false } =
          ⟨false, none, [], page.nextSync⟩ := stopNsaaAutoSync_running htimer hlive
      refine ⟨?_, congrArg SyncPage.autonomousModeEnabled hstop⟩
      rw [hstop]
      exact ⟨nofun, fun _ => ⟨rfl, rfl⟩⟩
    · have hstop : stopNsaaAutoSync { page with autonomousModeEnabled := false } =
          { page with autonomousModeEnabled := false } := stopNsaaAutoSync_idle htimer
      refine ⟨?_, congrArg SyncPage.autonomousModeEnabled hstop⟩
      rw [hstop]
      exact ⟨nofun, fun _ => ⟨htimer, hlive⟩⟩

theorem loaded_mode (stored : Option String) :
    (loadAutonomousMode stored).1.autonomousModeEnabled = decide (stored ≠ some "false") := by
  unfold loadAutonomousMode
  dsimp only
  split
  · rfl
  · rfl

/-! ### Off, a page sends nothing of its own -/

section Enabled

variable {page : SyncPage} {post : PagePost}

theorem enabled_of_load {stored : Option String} (hpost : post ∈ (loadAutonomousMode stored).2) :
    (loadAutonomousMode stored).1.autonomousModeEnabled = true := by
  unfold loadAutonomousMode at hpost ⊢
  dsimp only at hpost ⊢
  split
  · rename_i henabled
    exact (synced_start rfl rfl henabled).2
  · rename_i henabled
    rw [if_neg henabled] at hpost
    cases hpost

theorem enabled_of_toggle (h : Synced page) {enabled : Bool}
    (hpost : post ∈ (toggleAutonomousMode page enabled).2) :
    (toggleAutonomousMode page enabled).1.autonomousModeEnabled = true := by
  cases enabled with
  | true => exact (synced_toggle h true).2
  | false => cases hpost

theorem enabled_of_tick (h : Synced page) {id : Nat} (hpost : post ∈ syncTick page id) :
    page.autonomousModeEnabled = true := by
  by_contra hoff
  have hlive := (h.off (Bool.eq_false_iff.mpr hoff)).2
  simp [syncTick, hlive] at hpost

theorem enabled_of_remediation {action nameSpace target : String} {confirmed : Bool}
    (hpost : post ∈ triggerRemediation page action nameSpace target confirmed) :
    page.autonomousModeEnabled = true := by
  by_contra hoff
  simp [triggerRemediation, Bool.eq_false_iff.mpr hoff] at hpost

end Enabled

/-! ## One request -/

section Request

variable {floats : Floats} {nsaaEndpoint : String}

/-- What reaches the NSAA endpoint is the operator's inventory. -/
theorem delivered_eq_some {inventory : Inventory floats} {post : PagePost} {handling : Handling}
    {request : NsaaRequest} (h : delivered nsaaEndpoint inventory post handling = some request) :
    handling.loggedIn = true ∧ post.toNsaa = true ∧ request.url = nsaaEndpoint ∧
      request.method = "POST" ∧
      ∃ data, decode request.data = some data ∧ Same data inventory.document := by
  unfold delivered at h
  split at h
  · rename_i hguard
    obtain ⟨hin, hnsaa⟩ := Bool.and_eq_true_iff.mp hguard
    refine ⟨hin, hnsaa, ?_⟩
    have hbody : ∃ payload, jsonOrEmpty (some post.body) = .obj payload ∧
        (payload.lookup "method").getD (.str "POST") = .str "POST" := by
      cases post with
      | sync | dispatch _ => exact ⟨_, rfl, rfl⟩
      | remediate _ _ _ => cases hnsaa
    obtain ⟨payload, hpayload, hmethod⟩ := hbody
    have hpost : upper "POST" ≠ "GET" := by decide
    obtain ⟨raw, hread, hprintable, hsame⟩ := decode_text inventory
    cases hunreachable : handling.unreachable with
    | some e =>
      simp only [dispatchToNsaa, hpayload, hmethod, hunreachable, upstreamOf, inventoryData] at h
      cases h
    | none =>
      have hrequest : request =
          ⟨"POST", nsaaEndpoint, String.ofList (print dumps floats raw)⟩ := by
        simp only [dispatchToNsaa, hpayload, hmethod, hunreachable, upstreamOf, inventoryData,
          hread, if_true, if_neg hpost] at h
        split at h
        · exact (Option.some.inj h).symm
        · exact (Option.some.inj h).symm
      subst hrequest
      obtain ⟨data, hdata, -, hagain⟩ :=
        decode_print_same dumps hprintable (List.forall_mem_nil _)
      rw [List.append_nil] at hdata
      exact ⟨rfl, rfl, data, hdata, hagain.trans hsame⟩
  · cases h

end Request

/-! ## One event -/

section Step

variable {Tab : Type} [DecidableEq Tab] {floats : Floats} {nsaaEndpoint : String}
  {world : SyncWorld floats Tab} {tab : Tab} {f : SyncPage → SyncPage × List PagePost}
  {post : PagePost}

def AllSynced (world : SyncWorld floats Tab) : Prop :=
  ∀ tab page, world.tabs tab = some page → Synced page

theorem synced_update (h : AllSynced world) (tab : Tab) {page : Option SyncPage}
    (hpage : ∀ p ∈ page, Synced p) (tab' : Tab) (page' : SyncPage)
    (hpage' : Function.update world.tabs tab page tab' = some page') : Synced page' := by
  by_cases htab : tab' = tab
  · rw [htab, Function.update_self] at hpage'
    exact hpage page' hpage'
  · rw [Function.update_of_ne htab] at hpage'
    exact h tab' page' hpage'

theorem allSynced_inTab (h : AllSynced world) (hf : ∀ page, Synced page → Synced (f page).1) :
    AllSynced (inTab world tab f).1 := by
  unfold inTab
  split
  · exact h
  · rename_i page hpage
    exact synced_update h tab fun p hp => Option.some.inj hp ▸ hf page (h tab page hpage)

/-- A POST of a tab is sent by its page. -/
theorem mem_posts_inTab (hpost : post ∈ (inTab world tab f).2.posts) :
    ∃ page, world.tabs tab = some page ∧ post ∈ (f page).2 ∧
      (inTab world tab f).1.tabs tab = some (f page).1 := by
  unfold inTab at hpost ⊢
  split at hpost
  · cases hpost
  · rename_i page hpage
    exact ⟨page, hpage, hpost, Function.update_self _ _ _⟩

theorem allSynced_step (h : AllSynced world) (event : SyncEvent floats Tab) :
    AllSynced (syncStep nsaaEndpoint world event).1 := by
  cases event with
  | load tab =>
    exact synced_update h tab fun p hp => Option.some.inj hp ▸ synced_load world.stored
  | close tab => exact synced_update h tab (by rintro p ⟨⟩)
  | toggle tab enabled =>
    unfold syncStep
    dsimp only
    split
    · have hstored : AllSynced { world with stored := some (modeText enabled) } := h
      exact allSynced_inTab hstored fun page hpage => (synced_toggle hpage enabled).1
    · exact h
  | tick tab id => exact allSynced_inTab h fun _ hpage => hpage
  | remediate tab action nameSpace target confirmed => exact allSynced_inTab h fun _ hpage => hpage
  | dispatch tab endpoint => exact allSynced_inTab h fun _ hpage => hpage
  | sweep _ | lose _ | arrive _ _ => exact h

/-- The tab whose page sends. -/
def SyncEvent.tab? : SyncEvent floats Tab → Option Tab
  | .load tab | .toggle tab _ | .tick tab _ | .remediate tab _ _ _ _ | .dispatch tab _ => some tab
  | .close _ | .sweep _ | .lose _ | .arrive _ _ => none

/-- The user gave the endpoint of this POST. -/
def AskedFor (event : SyncEvent floats Tab) (post : PagePost) : Prop :=
  ∃ tab endpoint, event = .dispatch tab (some endpoint) ∧ post = .dispatch endpoint

/-- The POST was sent by a page in autonomous mode. -/
def SentEnabled (event : SyncEvent floats Tab) (world : SyncWorld floats Tab) : Prop :=
  ∃ tab page, event.tab? = some tab ∧ world.tabs tab = some page ∧
    page.autonomousModeEnabled = true

theorem sent_of_post (h : AllSynced world) (event : SyncEvent floats Tab)
    (hpost : post ∈ (syncStep nsaaEndpoint world event).2.posts) :
    AskedFor event post ∨ SentEnabled event (syncStep nsaaEndpoint world event).1 := by
  cases event with
  | load tab =>
    exact Or.inr ⟨tab, _, rfl, Function.update_self _ _ _, enabled_of_load hpost⟩
  | close _ | sweep _ | lose _ | arrive _ _ => cases hpost
  | toggle tab enabled =>
    unfold syncStep at hpost ⊢
    dsimp only at hpost ⊢
    split at hpost
    · rename_i hopen
      obtain ⟨page, hpage, hmem, hnext⟩ := mem_posts_inTab hpost
      rw [if_pos hopen]
      exact Or.inr ⟨tab, _, rfl, hnext, enabled_of_toggle (h tab page hpage) hmem⟩
    · cases hpost
  | tick tab id =>
    obtain ⟨page, hpage, hmem, hnext⟩ := mem_posts_inTab hpost
    exact Or.inr ⟨tab, _, rfl, hnext, enabled_of_tick (h tab page hpage) hmem⟩
  | remediate tab action nameSpace target confirmed =>
    obtain ⟨page, hpage, hmem, hnext⟩ := mem_posts_inTab hpost
    exact Or.inr ⟨tab, _, rfl, hnext, enabled_of_remediation hmem⟩
  | dispatch tab endpoint =>
    obtain ⟨page, hpage, hmem, hnext⟩ := mem_posts_inTab hpost
    refine Or.inl ?_
    unfold dispatchToNSAA at hmem
    split at hmem
    · cases hmem
    · split at hmem
      · cases hmem
      · exact ⟨tab, _, rfl, List.mem_singleton.mp hmem⟩

/-- The POSTs on their way that can make the server send something on. -/
def waiting (world : SyncWorld floats Tab) : Nat := world.inFlight.countP (·.toNsaa)

theorem countP_eraseIdx {posts : List PagePost} {n : Nat} (hpost : posts[n]? = some post) :
    (posts.eraseIdx n).countP (·.toNsaa) + (if post.toNsaa then 1 else 0) =
      posts.countP (·.toNsaa) := by
  obtain ⟨hlt, rfl⟩ := List.getElem?_eq_some_iff.mp hpost
  rw [← (List.getElem_cons_eraseIdx_perm hlt).countP_eq, List.countP_cons]

variable (nsaaEndpoint) in
/-- No POST is sent on twice. -/
theorem waiting_step (world : SyncWorld floats Tab) (event : SyncEvent floats Tab) :
    waiting (syncStep nsaaEndpoint world event).1 +
        (syncStep nsaaEndpoint world event).2.request.toList.length ≤
      waiting world + (syncStep nsaaEndpoint world event).2.posts.countP (·.toNsaa) := by
  have htab : ∀ world' : SyncWorld floats Tab, world'.inFlight = world.inFlight → ∀ tab f,
      waiting (inTab world' tab f).1 + (inTab world' tab f).2.request.toList.length ≤
        waiting world + (inTab world' tab f).2.posts.countP (·.toNsaa) := by
    intro world' hsame tab f
    unfold inTab waiting
    split
    · rw [hsame]
      exact Nat.le_add_right _ _
    · dsimp only
      rw [hsame, List.countP_append]
      exact Nat.le_refl _
  cases event with
  | load tab =>
    unfold syncStep waiting
    dsimp only
    rw [List.countP_append]
    exact Nat.le_refl _
  | close _ | sweep _ => exact Nat.le_refl _
  | toggle tab enabled =>
    unfold syncStep
    dsimp only
    split
    · exact htab { world with stored := some (modeText enabled) } rfl tab _
    · exact Nat.le_add_right _ _
  | tick tab _ | remediate tab _ _ _ _ | dispatch tab _ => exact htab world rfl tab _
  | lose n => exact (List.eraseIdx_sublist _ _).countP_le
  | arrive n handling =>
    unfold syncStep waiting
    dsimp only
    cases hpost : world.inFlight[n]? with
    | none =>
      have hall : world.inFlight.length ≤ n := List.getElem?_eq_none_iff.mp hpost
      rw [List.eraseIdx_of_length_le hall]
      exact Nat.le_refl _
    | some post =>
      have hcount := countP_eraseIdx hpost
      rw [Option.bind_some]
      cases hrequest : delivered nsaaEndpoint world.inventory post handling with
      | none => exact Nat.le_trans (Nat.le_add_right _ _) (Nat.le_of_eq hcount)
      | some request =>
        obtain ⟨-, hnsaa, -⟩ := delivered_eq_some hrequest
        rw [hnsaa] at hcount
        exact Nat.le_of_eq hcount

/-- `localStorage` has the mode that the user was told last. -/
theorem stored_step (world : SyncWorld floats Tab) (event : SyncEvent floats Tab) :
    (syncStep nsaaEndpoint world event).1.stored =
      ((syncStep nsaaEndpoint world event).2.banner.map modeText).or world.stored := by
  have htab : ∀ (world' : SyncWorld floats Tab) tab f,
      (inTab world' tab f).1.stored = world'.stored ∧ (inTab world' tab f).2.banner = none := by
    intro world' tab f
    unfold inTab
    split <;> exact ⟨rfl, rfl⟩
  cases event with
  | load _ | close _ | sweep _ | lose _ | arrive _ _ => rfl
  | toggle tab enabled =>
    unfold syncStep
    dsimp only
    split
    · exact (htab _ tab _).1
    · rfl
  | tick tab _ | remediate tab _ _ _ _ | dispatch tab _ =>
    unfold syncStep
    dsimp only
    rw [(htab world tab _).1, (htab world tab _).2]
    rfl

/-- A request to the NSAA endpoint is made for a POST that is handled with a session. -/
theorem arrive_of_request {event : SyncEvent floats Tab} {request : NsaaRequest}
    (h : (syncStep nsaaEndpoint world event).2.request = some request) :
    ∃ n handling, event = .arrive n handling ∧ handling.loggedIn = true ∧
      request.url = nsaaEndpoint ∧ request.method = "POST" ∧
      ∃ data, decode request.data = some data ∧ Same data world.inventory.document := by
  have htab : ∀ (world' : SyncWorld floats Tab) tab f, (inTab world' tab f).2.request = none := by
    intro world' tab f
    unfold inTab
    split <;> rfl
  cases event with
  | load _ | close _ | sweep _ | lose _ => cases h
  | toggle tab enabled =>
    unfold syncStep at h
    dsimp only at h
    split at h
    · exact absurd ((htab _ tab _).symm.trans h) nofun
    · cases h
  | tick tab _ | remediate tab _ _ _ _ | dispatch tab _ =>
    exact absurd ((htab world tab _).symm.trans h) nofun
  | arrive n handling =>
    obtain ⟨post, -, hdelivered⟩ := Option.bind_eq_some_iff.mp h
    obtain ⟨hin, -, hrest⟩ := delivered_eq_some hdelivered
    exact ⟨n, handling, rfl, hin, hrest⟩

end Step

/-! ## Runs -/

section Runs

variable {Tab : Type} [DecidableEq Tab] {floats : Floats} (nsaaEndpoint : String)
  (stored : Option String) (first : Inventory floats)

def syncOutputs (events : List (SyncEvent floats Tab)) : List SyncOutput :=
  (Reactive.run (syncStep nsaaEndpoint) (.start floats stored first) events).2

/-- The mode that the user was told last, or the stored one. -/
def chosenMode (outputs : List SyncOutput) : Bool :=
  (outputs.filterMap (·.banner)).getLast?.getD (stored ≠ some "false")

structure SyncInv (events : List (SyncEvent floats Tab)) : Prop where
  pages : AllSynced (syncAfter nsaaEndpoint stored first events)
  mode : (syncAfter nsaaEndpoint stored first events).stored =
    (((syncOutputs nsaaEndpoint stored first events).filterMap (·.banner)).getLast?.map
      modeText).or stored
  sent : waiting (syncAfter nsaaEndpoint stored first events) +
      ((syncOutputs nsaaEndpoint stored first events).filterMap (·.request)).length ≤
    ((syncOutputs nsaaEndpoint stored first events).flatMap (·.posts)).countP (·.toNsaa)

variable {nsaaEndpoint stored first}

theorem syncOutputs_concat (events : List (SyncEvent floats Tab))
    (event : SyncEvent floats Tab) :
    syncOutputs nsaaEndpoint stored first (events ++ [event]) =
      syncOutputs nsaaEndpoint stored first events ++
        [(syncStep nsaaEndpoint (syncAfter nsaaEndpoint stored first events) event).2] := by
  unfold syncOutputs syncAfter
  rw [Reactive.run_append]
  rfl

theorem syncAfter_concat (events : List (SyncEvent floats Tab))
    (event : SyncEvent floats Tab) :
    syncAfter nsaaEndpoint stored first (events ++ [event]) =
      (syncStep nsaaEndpoint (syncAfter nsaaEndpoint stored first events) event).1 :=
  Reactive.run_concat_state _ _ _ _

theorem syncInv_run (events : List (SyncEvent floats Tab)) :
    SyncInv nsaaEndpoint stored first events := by
  induction events using List.reverseRecOn with
  | nil => exact ⟨nofun, rfl, Nat.le_refl _⟩
  | append_singleton events event ih =>
    refine ⟨?_, ?_, ?_⟩
    · rw [syncAfter_concat]
      exact allSynced_step ih.pages event
    · rw [syncAfter_concat, stored_step, ih.mode, syncOutputs_concat,
        Reactive.getLast?_filterMap_concat, ← Option.or_assoc, Option.map_or]
    · have hstep :=
        waiting_step nsaaEndpoint (syncAfter nsaaEndpoint stored first events) event
      have hsent := ih.sent
      have hrequest : ∀ output : SyncOutput,
          ([output].filterMap (·.request)).length = output.request.toList.length := by
        intro output
        cases hnone : output.request with
        | none => rw [List.filterMap_cons_none hnone]; rfl
        | some _ => rw [List.filterMap_cons_some hnone]; rfl
      rw [syncAfter_concat, syncOutputs_concat, List.filterMap_append, List.length_append,
        hrequest, List.flatMap_append, List.countP_append, List.flatMap_singleton]
      omega

/-- A page that is loaded is in the mode that the user was told last, in whatever tab. -/
theorem loaded_chosen (events : List (SyncEvent floats Tab)) :
    (loadAutonomousMode (syncAfter nsaaEndpoint stored first events).stored).1.autonomousModeEnabled
      = chosenMode stored (syncOutputs nsaaEndpoint stored first events) := by
  rw [loaded_mode, (syncInv_run events).mode]
  unfold chosenMode
  cases ((syncOutputs nsaaEndpoint stored first events).filterMap (·.banner)).getLast? with
  | none => rfl
  | some enabled => cases enabled <;> rfl

/-- In every run: the interval of `syncToNSAA` is live, once, exactly in the pages that are in
    autonomous mode; a page is loaded in the mode that the user was told last; there are no more
    requests to the NSAA endpoint than POSTs that ask for one; what a page sends, it sends in
    autonomous mode or because the user gave an endpoint; and every such request is made for a
    session that is logged in, goes where the server was told to, and carries the inventory that the
    operator held when the server read it for this POST. -/
theorem nsaa_sync (nsaaEndpoint : String) (stored : Option String) (first : Inventory floats)
    (events : List (SyncEvent floats Tab)) :
    let outputs := syncOutputs nsaaEndpoint stored first events
    AllSynced (syncAfter nsaaEndpoint stored first events) ∧
      (loadAutonomousMode
        (syncAfter nsaaEndpoint stored first events).stored).1.autonomousModeEnabled =
          chosenMode stored outputs ∧
      (outputs.filterMap (·.request)).length ≤ (outputs.flatMap (·.posts)).countP (·.toNsaa) ∧
      ∀ past event later, events = past ++ event :: later →
        let world := syncAfter nsaaEndpoint stored first past
        let next := syncStep nsaaEndpoint world event
        (∀ post ∈ next.2.posts, AskedFor event post ∨ SentEnabled event next.1) ∧
          ∀ request, next.2.request = some request →
            ∃ n handling, event = .arrive n handling ∧ handling.loggedIn = true ∧
              request.url = nsaaEndpoint ∧ request.method = "POST" ∧
              ∃ data, decode request.data = some data ∧ Same data world.inventory.document := by
  refine ⟨(syncInv_run events).pages, loaded_chosen events, ?_, ?_⟩
  · exact Nat.le_trans (Nat.le_add_left _ _) (syncInv_run events).sent
  · rintro past event later rfl
    exact ⟨fun post hpost => sent_of_post (syncInv_run past).pages event hpost,
      fun request hrequest => arrive_of_request hrequest⟩

end Runs

/-! ### A page that syncs, and that is switched off -/

def syncedOnce : List (SyncEvent tenths Unit) :=
  [.load (), .sweep (inventoryOf ["etcd"]), .arrive 0 ⟨true, none, .ok 202⟩,
    .toggle () false, .tick () 1, .dispatch () (some "https://elsewhere/ingest"),
    .arrive 0 ⟨true, none, .ok 202⟩]

/-- The sync at load and what the user asks for are sent on, with the inventory of the sweep in
    between; the tick in manual mode sends nothing. -/
example :
    let outputs := syncOutputs "https://nsaa/ingest" none (inventoryOf []) syncedOnce
    outputs.flatMap (·.posts) = [.sync, .dispatch "https://elsewhere/ingest"] ∧
      (outputs.filterMap (·.request)).map (fun request => (request.url, request.data)) =
        List.replicate 2 ("https://nsaa/ingest",
          String.ofList (print dumps tenths
            (back (inventoryOf ["etcd"]).document))) := by
  refine ⟨?_, ?_⟩ <;> decide +kernel

end HybridOperator.Dashboard
