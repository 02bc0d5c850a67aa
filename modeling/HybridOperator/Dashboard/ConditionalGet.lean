/-
  `GET /api/v1/catalog/targets` on its whole way from the operator to the page: the operator's
  answer, `get_targets` of server.py with its ETag, the cache of the browser, and the page of
  `AutoRefresh`.

  The operator writes its inventory with Go's `json.Encoder`. The server decodes it and answers
  with `jsonify` of it, or with status 304 when the request names the MD5 of its sorted
  "json.dumps". "private, no-cache" makes the browser ask every time, with the ETag of what it has
  stored under the URL; on a 304 `fetch` resolves with what is stored and status 200. The browser
  may drop it at any time but while it asks. Between the call, the answer of the server and its
  arrival at the page anything else may happen.

  Numbers are kept as they are written. The texts that the operator sends have no half of a
  surrogate pair in them. `md5` is any function, so what is proved about the shown inventory says
  "or here are two texts with the same MD5".

  Proved:
  * `not_modified_iff`: nothing is sent exactly when the browser has the same inventory stored.
  * `inventory_shown`: in every run the page is brought the inventory that the operator held when
    the fetch was answered.
-/
import HybridOperator.Dashboard.InventoryRace
import HybridOperator.Lib.JsonStyles

namespace HybridOperator.Dashboard

open HybridOperator.Lib HybridOperator.Lib.JsonText HybridOperator.Lib.JsonSame
open HybridOperator.Lib.JsonPrint HybridOperator.Lib.JsonStyles

/-! ## The server -/

structure WebAnswer where
  status : Nat
  body : String
  etag : Option String := none

section Server

variable (floats : Floats) (md5 : String → String)

/-- `json.dumps(raw_data, sort_keys=True)`. -/
def payloadStr (raw : Json) : String := String.ofList (print dumps floats (sorted raw))

def jsonify (raw : Json) : String :=
  String.ofList (print compact floats (sorted raw) ++ ['\n'])

/-- `upstream` is the answer to `requests.get`, its status and text, or the exception. -/
def getTargets (forceRefresh : Bool) (ifNoneMatch : Option String)
    (upstream : Except String (Nat × String)) : WebAnswer :=
  match upstream with
  | .error e => ⟨502, jsonify floats (.obj
      [("error", .str ("Failed to reach local Go operator: " ++ e)), ("operators", .arr [])]), none⟩
  | .ok (status, content) =>
      match if status = 200 then decode content else none with
      | some raw =>
          let etag := md5 (payloadStr floats raw)
          if forceRefresh = false ∧ ifNoneMatch = some etag then ⟨304, "", none⟩
          else ⟨200, jsonify floats raw, some etag⟩
      | none => ⟨status, content, none⟩

/-- The view behind `requires_auth`. -/
def catalogTargets (loggedIn forceRefresh : Bool) (ifNoneMatch : Option String)
    (upstream : Except String (Nat × String)) : WebAnswer :=
  if loggedIn then getTargets floats md5 forceRefresh ifNoneMatch upstream
  else ⟨401, jsonify floats (.obj
    [("error", .str "Unauthorized. Please log in first.")]), none⟩

end Server

/-! ## The browser -/

/-- The URL without a query and the one with "refresh=true". -/
inductive InventoryUrl where
  | plain
  | refresh
deriving DecidableEq

structure StoredResponse where
  body : String
  etag : String

abbrev HttpCache := InventoryUrl → Option StoredResponse

/-- What `fetch` resolves with, status and text, and what is stored then. -/
def receiveAnswer (http : HttpCache) (url : InventoryUrl) (answer : WebAnswer) :
    (Nat × String) × HttpCache :=
  if answer.status = 200 then
    ((200, answer.body),
      Function.update http url (answer.etag.map fun etag => ⟨answer.body, etag⟩))
  else match if answer.status = 304 then http url else none with
    | some stored => ((200, stored.body), http)
    | none => ((answer.status, answer.body), http)

/-- What `fetchTargets` goes on with. -/
def outcomeOf (response : Nat × String) : Outcome :=
  if response.1 = 401 then .unauthorized
  else if response.1 = 304 then .notModified
  else if response.1 < 200 ∨ 299 < response.1 then .failed
  else match decode response.2 with
    | some data => .ok data
    | none => .failed

/-! ## The system -/

section System

variable (floats : Floats) (md5 : String → String)

/-- An inventory that the operator can hold. -/
structure Inventory where
  document : Json
  printable : Printable floats document

/-- The answer of `inventoryHandler`. -/
def Inventory.text {floats : Floats} (inventory : Inventory floats) : String :=
  String.ofList (print encoder floats inventory.document ++ ['\n'])

structure Tab where
  inventory : Inventory floats
  http : HttpCache
  /-- the answers on their way to the page -/
  answered : List (Nat × Outcome)
  page : Page

def Tab.start (first : Inventory floats) (stored : Option CacheEntry) : Tab floats :=
  ⟨first, fun _ => none, [], .load stored⟩

inductive TabEvent where
  /-- the operator has a new inventory -/
  | sweep (inventory : Inventory floats)
  /-- the browser drops what it has stored -/
  | forget (url : InventoryUrl)
  /-- a fetch is answered; `unreachable` is the exception when the operator is not reached -/
  | serve (number : Nat) (url : InventoryUrl) (loggedIn : Bool) (unreachable : Option String)
  /-- a fetch fails -/
  | lost (number : Nat)
  /-- the answer arrives -/
  | arrive (number : Nat) (now : Int)
  /-- any other event of the page -/
  | page (event : Event) (h : ∀ number outcome now, event ≠ .respond number outcome now)

/-- What the server answers with what the browser sends. -/
def answerTo {floats : Floats} (tab : Tab floats) (url : InventoryUrl) (loggedIn : Bool)
    (unreachable : Option String) : WebAnswer :=
  catalogTargets floats md5 loggedIn (url = .refresh) ((tab.http url).map (·.etag))
    (match unreachable with
      | some e => .error e
      | none => .ok (200, tab.inventory.text))

/-- The tab after the event, and the inventory that the event brought to the page. -/
def tabStep {floats : Floats} (tab : Tab floats) :
    TabEvent floats → Tab floats × Option (Nat × Json)
  | .sweep inventory => ({ tab with inventory := inventory }, none)
  | .forget url => ({ tab with http := Function.update tab.http url none }, none)
  | .serve number url loggedIn unreachable =>
      let got := receiveAnswer tab.http url (answerTo md5 tab url loggedIn unreachable)
      ({ tab with http := got.2, answered := tab.answered ++ [(number, outcomeOf got.1)] }, none)
  | .lost number => ({ tab with answered := tab.answered ++ [(number, .failed)] }, none)
  | .arrive number now =>
      match tab.answered.lookup number with
      | some outcome =>
          let next := respond tab.page number outcome now
          ({ tab with
              page := next.1
              answered := tab.answered.filter fun answer => answer.1 ≠ number },
            next.2.received)
      | none => (tab, none)
  | .page event _ =>
      let next := step tab.page event
      ({ tab with page := next.1 }, next.2.received)

def tabAfter {floats : Floats} (first : Inventory floats) (stored : Option CacheEntry)
    (events : List (TabEvent floats)) : Tab floats :=
  (Reactive.run (tabStep md5) (Tab.start floats first stored) events).1

end System

/-! ## One answer -/

section Answer

variable {floats : Floats} {md5 : String → String}

/-- What the browser stores of an answer about this inventory. -/
def Inventory.stored (md5 : String → String) (inventory : Inventory floats) : StoredResponse :=
  ⟨jsonify floats inventory.document, md5 (payloadStr floats inventory.document)⟩

/-- The server has the operator's document back, but for the order of members. -/
theorem decode_text (inventory : Inventory floats) :
    ∃ raw, decode inventory.text = some raw ∧ Printable floats raw ∧
      Same raw inventory.document :=
  decode_print_same encoder inventory.printable fun _ hc => List.mem_singleton.mp hc ▸ rfl

variable (md5) in
/-- So has whoever reads the server's answer. -/
theorem decode_jsonify (inventory : Inventory floats) :
    ∃ data, decode (inventory.stored md5).body = some data ∧ Same data inventory.document := by
  have hspace : ∀ c ∈ ['\n'], isSpace c = true := fun _ hc => List.mem_singleton.mp hc ▸ rfl
  obtain ⟨data, hread, -, hsame⟩ :=
    decode_print_same compact (printable_sorted inventory.printable) hspace
  exact ⟨data, hread, hsame.trans (same_sorted _)⟩

/-- A 304 is given for the ETag of the inventory that the operator holds, and else its text. -/
theorem catalogTargets_text (inventory : Inventory floats) (forceRefresh : Bool)
    (ifNoneMatch : Option String) :
    catalogTargets floats md5 true forceRefresh ifNoneMatch (.ok (200, inventory.text)) =
      if forceRefresh = false ∧ ifNoneMatch = some (inventory.stored md5).etag then ⟨304, "", none⟩
      else ⟨200, (inventory.stored md5).body, some (inventory.stored md5).etag⟩ := by
  obtain ⟨raw, hread, -, hsame⟩ := decode_text inventory
  have hpayload : payloadStr floats raw = payloadStr floats inventory.document := by
    unfold payloadStr
    rw [show sorted raw = sorted inventory.document from hsame]
  have hjsonify : jsonify floats raw = jsonify floats inventory.document := by
    unfold jsonify
    rw [show sorted raw = sorted inventory.document from hsame]
  rw [catalogTargets, if_pos rfl]
  simp only [getTargets, if_true, hread, hpayload, hjsonify]
  rfl

/-- Two inventories that are not the same and whose texts have one MD5. -/
def Collide (md5 : String → String) (a b : Inventory floats) : Prop :=
  payloadStr floats a.document ≠ payloadStr floats b.document ∧
    md5 (payloadStr floats a.document) = md5 (payloadStr floats b.document)

theorem same_of_etag {a b : Inventory floats} (h : (a.stored md5).etag = (b.stored md5).etag)
    (hno : ¬ Collide md5 a b) : Same a.document b.document := by
  have htext : payloadStr floats a.document = payloadStr floats b.document := by
    by_contra hne
    exact hno ⟨hne, h⟩
  exact (print_sorted_inj a.printable b.printable).mp (String.ofList_injective htext)

theorem outcomeOf_ok {body : String} {data : Json} (h : decode body = some data) :
    outcomeOf (200, body) = .ok data := by
  unfold outcomeOf
  rw [h]
  rfl

/-- What `fetch` resolves with, and what the browser has stored then. -/
inductive Received (md5 : String → String) (tab : Tab floats) (url : InventoryUrl) :
    (Nat × String) × HttpCache → Prop where
  | refused (status : Nat) (body : String) (h : status = 401 ∨ status = 502) :
      Received md5 tab url ((status, body), tab.http)
  | unchanged (stored : StoredResponse) (h : tab.http url = some stored)
      (hetag : stored.etag = (tab.inventory.stored md5).etag) :
      Received md5 tab url ((200, stored.body), tab.http)
  | fresh : Received md5 tab url ((200, (tab.inventory.stored md5).body),
      Function.update tab.http url (some (tab.inventory.stored md5)))

theorem received_refused (tab : Tab floats) (url : InventoryUrl) {answer : WebAnswer}
    (h : answer.status = 401 ∨ answer.status = 502) :
    Received md5 tab url (receiveAnswer tab.http url answer) := by
  have hok : answer.status ≠ 200 := by omega
  have hunchanged : answer.status ≠ 304 := by omega
  rw [receiveAnswer, if_neg hok, if_neg hunchanged]
  exact .refused _ _ h

theorem received_answerTo (tab : Tab floats) (url : InventoryUrl) :
    Received md5 tab url (receiveAnswer tab.http url (answerTo md5 tab url true none)) := by
  unfold answerTo
  dsimp only
  rw [catalogTargets_text]
  split
  · rename_i h
    obtain ⟨stored, hstored, hetag⟩ := Option.map_eq_some_iff.mp h.2
    simp only [receiveAnswer, hstored]
    exact .unchanged stored hstored hetag
  · exact .fresh

/-- Data comes only from the operator, to those who are logged in. -/
theorem received_serve (tab : Tab floats) (url : InventoryUrl) (loggedIn : Bool)
    (unreachable : Option String) :
    let got := receiveAnswer tab.http url (answerTo md5 tab url loggedIn unreachable)
    Received md5 tab url got ∧
      (got.1.1 = 200 → loggedIn = true ∧ unreachable = none) := by
  cases loggedIn with
  | false =>
    refine ⟨received_refused tab url (Or.inl rfl), fun h => ?_⟩
    cases h
  | true =>
    cases unreachable with
    | some e =>
      refine ⟨received_refused tab url (Or.inr rfl), fun h => ?_⟩
      cases h
    | none => exact ⟨received_answerTo tab url, fun _ => ⟨rfl, rfl⟩⟩

/-- The browser has only stored answers about inventories that `Old` holds of. -/
def StoresOnly (md5 : String → String) (Old : Inventory floats → Prop) (http : HttpCache) : Prop :=
  ∀ url stored, http url = some stored → ∃ old, Old old ∧ stored = old.stored md5

variable {Old : Inventory floats → Prop} {tab : Tab floats} {url : InventoryUrl}
  {got : (Nat × String) × HttpCache}

theorem Received.stores (h : Received md5 tab url got) (hold : StoresOnly md5 Old tab.http)
    (hnow : Old tab.inventory) : StoresOnly md5 Old got.2 := by
  cases h with
  | refused _ _ _ => exact hold
  | unchanged _ _ _ => exact hold
  | fresh =>
    intro url' stored hstored
    change Function.update tab.http url _ url' = some stored at hstored
    by_cases hurl : url' = url
    · subst hurl
      rw [Function.update_self] at hstored
      exact ⟨tab.inventory, hnow, (Option.some.inj hstored).symm⟩
    · rw [Function.update_of_ne hurl] at hstored
      exact hold url' stored hstored

/-- When no two inventories collide, a page that gets data gets the operator's. -/
theorem Received.outcome (h : Received md5 tab url got) (hold : StoresOnly md5 Old tab.http)
    (hno : ∀ old, Old old → ¬ Collide md5 old tab.inventory) :
    outcomeOf got.1 ≠ .notModified ∧ ∀ data, outcomeOf got.1 = .ok data →
      got.1.1 = 200 ∧ Same data tab.inventory.document := by
  have hdata : ∀ inventory : Inventory floats, Same inventory.document tab.inventory.document →
      outcomeOf (200, (inventory.stored md5).body) ≠ .notModified ∧
        ∀ data, outcomeOf (200, (inventory.stored md5).body) = .ok data →
          Same data tab.inventory.document := by
    intro inventory hnow
    obtain ⟨read, hread, hsame⟩ := decode_jsonify md5 inventory
    rw [outcomeOf_ok hread]
    refine ⟨nofun, fun data heq => ?_⟩
    obtain rfl := Outcome.ok.inj heq
    exact hsame.trans hnow
  cases h with
  | refused status body h => rcases h with rfl | rfl <;> exact ⟨nofun, nofun⟩
  | unchanged stored hstored hetag =>
    obtain ⟨old, hOld, rfl⟩ := hold url stored hstored
    have hnow := hdata old (same_of_etag hetag (hno old hOld))
    exact ⟨hnow.1, fun data heq => ⟨rfl, hnow.2 data heq⟩⟩
  | fresh =>
    have hnow := hdata tab.inventory rfl
    exact ⟨hnow.1, fun data heq => ⟨rfl, hnow.2 data heq⟩⟩

/-- Nothing is sent exactly when the URL asks for no refresh and what the browser has stored is of
    the same inventory. -/
theorem not_modified_iff (hold : StoresOnly md5 Old tab.http)
    (hno : ∀ old, Old old → ¬ Collide md5 old tab.inventory) (url : InventoryUrl) :
    (answerTo md5 tab url true none).status = 304 ↔ url = .plain ∧
      ∃ old : Inventory floats, Old old ∧ tab.http url = some (old.stored md5) ∧
        Same old.document tab.inventory.document := by
  have hurl : decide (url = InventoryUrl.refresh) = false ↔ url = .plain := by
    cases url <;> simp
  have hstatus : (answerTo md5 tab url true none).status = 304 ↔
      url = .plain ∧ ((tab.http url).map (·.etag)) = some (tab.inventory.stored md5).etag := by
    unfold answerTo
    dsimp only
    rw [catalogTargets_text]
    split
    · rename_i h
      exact iff_of_true rfl ⟨hurl.mp h.1, h.2⟩
    · rename_i h
      have hok : (200 : Nat) ≠ 304 := by decide
      exact iff_of_false hok fun hmatch => h ⟨hurl.mpr hmatch.1, hmatch.2⟩
  rw [hstatus]
  refine and_congr_right fun _ => ⟨fun h => ?_, ?_⟩
  · obtain ⟨stored, hstored, hetag⟩ := Option.map_eq_some_iff.mp h
    obtain ⟨old, hOld, rfl⟩ := hold url stored hstored
    exact ⟨old, hOld, hstored, same_of_etag hetag (hno old hOld)⟩
  · rintro ⟨old, -, hstored, hsame⟩
    rw [hstored, Option.map_some, Inventory.stored, Inventory.stored, payloadStr, payloadStr,
      show sorted old.document = sorted tab.inventory.document from hsame]

end Answer

/-! ## The page -/

/-- The cache entry is data that `P` holds of, and so is what the shown operators are of, once
    there are any. -/
structure DataFrom (P : Json → Prop) (page : Page) : Prop where
  cache : ∀ entry, page.cache = some entry → P entry.data
  operators : page.currentOperatorData = .arr [] ∨
    ∃ data, P data ∧ operatorsOf data = some page.currentOperatorData

section DataFrom

variable {P : Json → Prop} {page : Page}

theorem DataFrom.mono {Q : Json → Prop} (h : DataFrom P page) (hPQ : ∀ data, P data → Q data) :
    DataFrom Q page :=
  ⟨fun entry hentry => hPQ _ (h.cache entry hentry),
    h.operators.imp_right fun ⟨data, hdata, hoperators⟩ => ⟨data, hPQ data hdata, hoperators⟩⟩

theorem SameData.dataFrom {page' : Page} (hsame : SameData page page') (h : DataFrom P page) :
    DataFrom P page' := by
  refine ⟨?_, ?_⟩
  · rw [hsame.cache]
    exact h.cache
  · rw [hsame.operators]
    exact h.operators

theorem dataFrom_showData (h : DataFrom P page) {data : Json} (hdata : P data) :
    DataFrom P (showData page data) := by
  unfold showData
  split
  · rename_i operators hoperators
    refine (sameData_startAutoRefresh _).dataFrom ⟨h.cache, Or.inr ⟨data, hdata, hoperators⟩⟩
  · exact (sameData_startAutoRefresh page).dataFrom h

theorem dataFrom_fetchTargets (h : DataFrom P page) (unforced : Option Int) (byTimer : Bool) :
    DataFrom P (fetchTargets page unforced byTimer).1 := by
  unfold fetchTargets
  split
  · rename_i data hdata
    obtain ⟨now, -, hcached⟩ := Option.bind_eq_some_iff.mp hdata
    obtain ⟨entry, hentry, rfl⟩ := Option.map_eq_some_iff.mp (map_data_of_cachedData hcached)
    exact dataFrom_showData h (h.cache entry hentry)
  · exact ⟨h.cache, h.operators⟩

theorem dataFrom_respond (h : DataFrom P page) (number : Nat) {outcome : Outcome}
    (houtcome : ∀ data, outcome = .ok data → P data) (now : Int) :
    DataFrom P (respond page number outcome now).1 := by
  unfold respond
  split
  · have htaken : DataFrom P (taken page number) := ⟨h.cache, h.operators⟩
    cases outcome with
    | unauthorized => exact htaken
    | failed => exact (sameData_startAutoRefresh _).dataFrom htaken
    | notModified =>
      unfold resume
      dsimp only
      split
      · rename_i entry hentry
        exact dataFrom_showData htaken (h.cache entry hentry)
      · exact (sameData_startAutoRefresh _).dataFrom htaken
    | ok data =>
      have hdata := houtcome data rfl
      have hcached : DataFrom P { taken page number with cache := some ⟨now, data⟩ } :=
        ⟨fun entry hentry => Option.some.inj hentry ▸ hdata, h.operators⟩
      exact dataFrom_showData hcached hdata
  · exact h

/-! ### What is shown of the same documents -/

theorem jsTruthy_sorted (j : Json) : jsTruthy (sorted j) = jsTruthy j := by
  cases j <;> rfl

theorem operatorsOf_sorted (j : Json) :
    (operatorsOf (sorted j)).map sorted = (operatorsOf j).map sorted := by
  cases j with
  | null | bool _ | int _ | float _ | str _ | arr _ => rfl
  | obj m =>
    rw [sorted]
    simp only [operatorsOf, lookup_sortKeys, lookup_sortedMap, Option.map_some]
    cases m.lookup "operators" with
    | none => rfl
    | some operators =>
      simp only [Option.map_some, Option.getD_some, jsTruthy_sorted]
      split
      · rw [sorted_sorted]
      · rfl

/-- Documents that are the same have the same operators. -/
theorem same_operators {a b operators : Json} (h : Same a b)
    (hoperators : operatorsOf a = some operators) :
    ∃ operators', operatorsOf b = some operators' ∧ Same operators operators' := by
  have heq : (operatorsOf b).map sorted = some (sorted operators) := by
    rw [← operatorsOf_sorted, ← show sorted a = sorted b from h, operatorsOf_sorted, hoperators]
    rfl
  obtain ⟨operators', hof, hsame⟩ := Option.map_eq_some_iff.mp heq
  exact ⟨operators', hof, hsame.symm⟩

/-! ### The events -/

/-- Events that bring no answer bring no data. -/
theorem dataFrom_step (h : DataFrom P page) {event : Event}
    (hevent : ∀ number outcome now, event ≠ .respond number outcome now) :
    DataFrom P (step page event).1 ∧ (step page event).2.received = none := by
  cases event with
  | tick id =>
    unfold step tick
    dsimp only
    have hticked : DataFrom P { page with countdown := page.countdown - 1 } :=
      ⟨h.cache, h.operators⟩
    split
    · split
      · exact ⟨dataFrom_fetchTargets hticked none true, received_fetchTargets _ none true⟩
      · exact ⟨hticked, rfl⟩
    · exact ⟨h, rfl⟩
  | select value =>
    exact ⟨(sameData_startAutoRefresh _).dataFrom ⟨h.cache, h.operators⟩, rfl⟩
  | refresh forceRefresh now =>
    exact ⟨dataFrom_fetchTargets h _ false, received_fetchTargets page _ false⟩
  | invalidate =>
    have hcleared : DataFrom P { page with cache := none } := ⟨nofun, h.operators⟩
    exact ⟨dataFrom_fetchTargets hcleared none false, received_fetchTargets _ none false⟩
  | respond number outcome now => exact absurd rfl (hevent number outcome now)

theorem received_respond {number number' : Nat} {outcome : Outcome} {now : Int} {data : Json}
    (houtcome : outcome ≠ .notModified)
    (h : (respond page number outcome now).2.received = some (number', data)) :
    number' = number ∧ outcome = .ok data := by
  unfold respond at h
  split at h
  · cases outcome with
    | unauthorized | failed => cases h
    | notModified => exact absurd rfl houtcome
    | ok body =>
      obtain ⟨_, -, heq⟩ := Option.map_eq_some_iff.mp h
      obtain ⟨rfl, rfl⟩ := Prod.mk.inj heq
      exact ⟨rfl, rfl⟩
  · cases h

end DataFrom

/-! ## Runs -/

section Runs

variable {floats : Floats} (md5 : String → String) (first : Inventory floats)
  (stored : Option CacheEntry)

/-- The inventories that the operator has held. -/
def held (events : List (TabEvent floats)) : List (Inventory floats) :=
  first :: events.filterMap fun
    | .sweep inventory => some inventory
    | _ => none

/-- The fetch was answered when the operator held this inventory, up to the order of members. -/
def ServedWith (events : List (TabEvent floats)) (number : Nat) (data : Json) : Prop :=
  ∃ before url after, events = before ++ .serve number url true none :: after ∧
    Same data (tabAfter md5 first stored before).inventory.document

/-- Data that was in the operator, or that an earlier visit left. -/
def Known (events : List (TabEvent floats)) (data : Json) : Prop :=
  (∃ inventory ∈ held first events, Same data inventory.document) ∨
    ∃ entry, stored = some entry ∧ data = entry.data

variable {md5 first stored} {events : List (TabEvent floats)}

theorem held_append (later : List (TabEvent floats)) {inventory : Inventory floats}
    (h : inventory ∈ held first events) : inventory ∈ held first (events ++ later) := by
  unfold held at h ⊢
  rw [List.filterMap_append, ← List.cons_append]
  exact List.mem_append_left _ h

theorem tabAfter_concat (event : TabEvent floats) :
    tabAfter md5 first stored (events ++ [event]) =
      (tabStep md5 (tabAfter md5 first stored events) event).1 :=
  Reactive.run_concat_state _ _ _ _

theorem inventory_held (events : List (TabEvent floats)) :
    (tabAfter md5 first stored events).inventory ∈ held first events := by
  induction events using List.reverseRecOn with
  | nil => exact List.mem_cons_self
  | append_singleton events event ih =>
    rw [tabAfter_concat]
    cases event with
    | sweep inventory =>
      unfold held
      rw [List.filterMap_append]
      exact List.mem_cons_of_mem _ (List.mem_append_right _ List.mem_cons_self)
    | arrive number now =>
      unfold tabStep
      dsimp only
      split
      · exact held_append _ ih
      · exact held_append _ ih
    | forget _ | serve _ _ _ _ | lost _ | page _ _ => exact held_append _ ih

theorem ServedWith.append {number : Nat} {data : Json}
    (h : ServedWith md5 first stored events number data) (later : List (TabEvent floats)) :
    ServedWith md5 first stored (events ++ later) number data := by
  obtain ⟨before, url, after, rfl, hsame⟩ := h
  refine ⟨before, url, after ++ later, ?_, hsame⟩
  rw [List.append_assoc, List.cons_append]

theorem ServedWith.known {number : Nat} {data : Json}
    (h : ServedWith md5 first stored events number data) : Known first stored events data := by
  obtain ⟨before, url, after, rfl, hsame⟩ := h
  exact Or.inl ⟨_, held_append _ (inventory_held before), hsame⟩

theorem Known.append {data : Json} (h : Known first stored events data)
    (later : List (TabEvent floats)) : Known first stored (events ++ later) data :=
  h.imp_left fun ⟨inventory, hheld, hsame⟩ => ⟨inventory, held_append later hheld, hsame⟩

variable (md5 first stored) in
/-- What holds after every run in which no two inventories collide. -/
structure TabInv (events : List (TabEvent floats)) (tab : Tab floats) : Prop where
  http : StoresOnly md5 (· ∈ held first events) tab.http
  answered : ∀ answer ∈ tab.answered, answer.2 ≠ .notModified ∧
    ∀ data, answer.2 = .ok data → ServedWith md5 first stored events answer.1 data
  page : DataFrom (Known first stored events) tab.page

/-- No two inventories that were held collide. -/
def NoCollision (md5 : String → String) (inventories : List (Inventory floats)) : Prop :=
  ∀ a ∈ inventories, ∀ b ∈ inventories, ¬ Collide md5 a b

theorem TabInv.later {tab : Tab floats} (h : TabInv md5 first stored events tab)
    (event : TabEvent floats) : TabInv md5 first stored (events ++ [event]) tab := by
  refine ⟨fun url kept hkept => ?_, fun answer hanswer => ?_, h.page.mono fun _ hdata => ?_⟩
  · obtain ⟨old, hold, heq⟩ := h.http url kept hkept
    exact ⟨old, held_append _ hold, heq⟩
  · obtain ⟨hmodified, hserved⟩ := h.answered answer hanswer
    exact ⟨hmodified, fun data hdata => (hserved data hdata).append _⟩
  · exact hdata.append _

/-- An answer of the server, behind those that are on their way. -/
theorem answered_serve (h : TabInv md5 first stored events (tabAfter md5 first stored events))
    (hno : NoCollision md5 (held first events)) (number : Nat) (url : InventoryUrl)
    (loggedIn : Bool) (unreachable : Option String) :
    TabInv md5 first stored (events ++ [.serve number url loggedIn unreachable])
      (tabStep md5 (tabAfter md5 first stored events)
        (.serve number url loggedIn unreachable)).1 := by
  have hnow : (tabAfter md5 first stored events).inventory ∈ held first events :=
    inventory_held events
  have hlater := h.later (.serve number url loggedIn unreachable)
  obtain ⟨hreceived, hserved⟩ :=
    received_serve (tabAfter md5 first stored events) url loggedIn unreachable
  obtain ⟨hmodified, hdata⟩ := hreceived.outcome h.http fun old hold => hno old hold _ hnow
  refine ⟨hreceived.stores hlater.http (held_append _ hnow), fun answer hanswer => ?_,
    hlater.page⟩
  rcases List.mem_append.mp hanswer with hold | hnew
  · exact hlater.answered answer hold
  · obtain rfl := List.mem_singleton.mp hnew
    refine ⟨hmodified, fun data heq => ?_⟩
    obtain ⟨hstatus, hsame⟩ := hdata data heq
    obtain ⟨rfl, rfl⟩ := hserved hstatus
    exact ⟨events, url, [], rfl, hsame⟩

theorem tabInv_step (h : TabInv md5 first stored events (tabAfter md5 first stored events))
    (hno : NoCollision md5 (held first events)) (event : TabEvent floats) :
    TabInv md5 first stored (events ++ [event])
      (tabStep md5 (tabAfter md5 first stored events) event).1 := by
  have hlater := h.later event
  cases event with
  | sweep inventory => exact ⟨hlater.http, hlater.answered, hlater.page⟩
  | forget url =>
    refine ⟨fun url' kept hkept => ?_, hlater.answered, hlater.page⟩
    change Function.update (tabAfter md5 first stored events).http url none url' = some kept
      at hkept
    by_cases hurl : url' = url
    · rw [hurl, Function.update_self] at hkept
      cases hkept
    · rw [Function.update_of_ne hurl] at hkept
      exact hlater.http url' kept hkept
  | serve number url loggedIn unreachable => exact answered_serve h hno number url _ _
  | lost number =>
    refine ⟨hlater.http, fun answer hanswer => ?_, hlater.page⟩
    rcases List.mem_append.mp hanswer with hold | hnew
    · exact hlater.answered answer hold
    · obtain rfl := List.mem_singleton.mp hnew
      exact ⟨nofun, nofun⟩
  | arrive number now =>
    unfold tabStep
    dsimp only
    split
    · rename_i outcome hlookup
      have hanswer := hlater.answered (number, outcome) (mem_of_lookup hlookup)
      refine ⟨hlater.http, fun answer hmem => ?_, ?_⟩
      · exact hlater.answered answer (List.mem_of_mem_filter hmem)
      · have hknown : ∀ data, outcome = .ok data → Known first stored _ data :=
          fun data hdata => (hanswer.2 data hdata).known
        exact dataFrom_respond hlater.page number hknown now
    · exact hlater
  | page event hevent =>
    exact ⟨hlater.http, hlater.answered, (dataFrom_step hlater.page hevent).1⟩

theorem tabInv_run (events : List (TabEvent floats))
    (hno : NoCollision md5 (held first events)) :
    TabInv md5 first stored events (tabAfter md5 first stored events) := by
  induction events using List.reverseRecOn with
  | nil =>
    refine ⟨nofun, nofun, ⟨fun entry hentry => Or.inr ⟨entry, hentry, rfl⟩, Or.inl rfl⟩⟩
  | append_singleton events event ih =>
    have hbefore : NoCollision md5 (held first events) := fun a ha b hb =>
      hno a (held_append _ ha) b (held_append _ hb)
    rw [tabAfter_concat]
    exact tabInv_step (ih hbefore) hbefore event

/-- The inventories that were brought to the page. -/
theorem servedWith_of_output {number : Nat} {data : Json}
    (hno : NoCollision md5 (held first events)) (h : some (number, data) ∈
      (Reactive.run (tabStep md5) (Tab.start floats first stored) events).2) :
    ServedWith md5 first stored events number data := by
  obtain ⟨past, event, later, rfl, heq⟩ := Reactive.exists_of_output _ h
  have hpast : NoCollision md5 (held first past) := fun a ha b hb =>
    hno a (held_append _ ha) b (held_append _ hb)
  have hinv : TabInv md5 first stored past (tabAfter md5 first stored past) :=
    tabInv_run past hpast
  refine ServedWith.append ?_ (event :: later)
  change some (number, data) = (tabStep md5 (tabAfter md5 first stored past) event).2 at heq
  cases event with
  | sweep _ | forget _ | serve _ _ _ _ | lost _ => cases heq
  | arrive number' now =>
    unfold tabStep at heq
    dsimp only at heq
    split at heq
    · rename_i outcome hlookup
      obtain ⟨hmodified, hserved⟩ := hinv.answered (number', outcome) (mem_of_lookup hlookup)
      obtain ⟨rfl, hok⟩ := received_respond hmodified heq.symm
      exact hserved data hok
    · cases heq
  | page event hevent =>
    have hnone := (dataFrom_step hinv.page hevent).2
    exact absurd (heq.trans hnone) nofun

/-- Unless two inventories that the operator held have different texts with one MD5: each
    inventory that is brought to the page is the one the operator held when this fetch was
    answered, and the shown operators are those of an inventory that it held, or of what an earlier
    visit left, up to the order of members. -/
theorem inventory_shown (md5 : String → String) (first : Inventory floats)
    (stored : Option CacheEntry) (events : List (TabEvent floats)) :
    (∃ a ∈ held first events, ∃ b ∈ held first events, Collide md5 a b) ∨
      (∀ number data, some (number, data) ∈
          (Reactive.run (tabStep md5) (Tab.start floats first stored) events).2 →
        ServedWith md5 first stored events number data) ∧
      let shown := (tabAfter md5 first stored events).page.currentOperatorData
      shown = .arr [] ∨
        (∃ inventory ∈ held first events, ∃ operators,
          operatorsOf inventory.document = some operators ∧ Same shown operators) ∨
        ∃ entry, stored = some entry ∧ operatorsOf entry.data = some shown := by
  by_cases hno : NoCollision md5 (held first events)
  · refine Or.inr ⟨fun number data h => servedWith_of_output hno h, ?_⟩
    rcases (tabInv_run events hno).page.operators with hempty | ⟨data, hknown, hoperators⟩
    · exact Or.inl hempty
    · refine Or.inr ?_
      rcases hknown with ⟨inventory, hheld, hsame⟩ | ⟨entry, hstored, rfl⟩
      · obtain ⟨operators, hof, hshown⟩ := same_operators hsame hoperators
        exact Or.inl ⟨inventory, hheld, operators, hof, hshown⟩
      · exact Or.inr ⟨entry, hstored, hoperators⟩
  · simp only [NoCollision, not_forall, not_not] at hno
    obtain ⟨a, ha, b, hb, hcollide⟩ := hno
    exact Or.inl ⟨a, ha, b, hb, hcollide⟩

end Runs

/-! ### An inventory that is fetched twice, and the one after it -/

/-- Of a record with a simulated CVE, its name and the score. -/
def scoredOperator (name : String) : Json :=
  .obj [("name", .str name), ("cves", .arr [.obj [("cvss_score", .float 5.5)]])]

theorem printable_scoredOperator (name : String) : Printable tenths (scoredOperator name) := by
  have hscore : IsTenths 5.5 := ⟨55, by decide, by norm_num [Rat.mkRat_eq_div]⟩
  refine .obj (by simp) fun kv hkv => ?_
  simp only [List.mem_cons, List.not_mem_nil, or_false] at hkv
  rcases hkv with rfl | rfl
  · exact .str name
  · refine .arr fun cve hcve => ?_
    obtain rfl := List.mem_singleton.mp hcve
    refine .obj (List.nodup_singleton "cvss_score") fun kv hkv => ?_
    obtain rfl := List.mem_singleton.mp hkv
    exact .float hscore

def inventoryOf (names : List String) : Inventory tenths where
  document := .obj [("operators", .arr (names.map scoredOperator))]
  printable := by
    refine .obj (List.nodup_singleton "operators") fun kv hkv => ?_
    obtain rfl := List.mem_singleton.mp hkv
    refine .arr fun op hop => ?_
    obtain ⟨name, -, rfl⟩ := List.mem_map.mp hop
    exact printable_scoredOperator name

def threeFetches : List (TabEvent tenths) :=
  [.page (.refresh false 0) nofun, .serve 0 .plain true none, .arrive 0 5,
    .page .invalidate nofun, .serve 1 .plain true none, .arrive 1 6,
    .sweep (inventoryOf ["kafka"]),
    .page .invalidate nofun, .serve 2 .plain true none, .arrive 2 7]

/-- The second fetch is answered with 304. -/
example : (answerTo id (tabAfter id (inventoryOf ["etcd"]) none (threeFetches.take 4))
    .plain true none).status = 304 := by
  decide +kernel

/-- Each brings the inventory that was held when it was answered. -/
example :
    let brought := (Reactive.run (tabStep id) (Tab.start tenths (inventoryOf ["etcd"]) none)
      threeFetches).2.filterMap id
    brought.map (fun answer => (answer.1, jsonify tenths answer.2)) =
      [(0, "etcd"), (1, "etcd"), (2, "kafka")].map fun fetch =>
        (fetch.1, jsonify tenths (inventoryOf [fetch.2]).document) := by
  decide +kernel

end HybridOperator.Dashboard
