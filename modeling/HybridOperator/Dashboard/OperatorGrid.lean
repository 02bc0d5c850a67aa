/-
  The operator cards of the page: `handleSearch`, `applyFilters`, `toggleComparisonMode`,
  `selectForComparison` and `openComparisonModal` of static/app.js, with what `fetchTargets` does
  to the cards and the tiles, as one machine.

  The events are what the browser runs to completion one after the other. The search box applies
  the filters 300 ms after the last key only, so for that long the cards are those of an earlier
  query. An inventory that is not drawn to its end (`drawn` is false: a chart or `localStorage`
  raised) leaves the banner of a failed fetch in place of the cards, and `filteredOperators`
  unfiltered. Comparison goes by the name on a card, which operators in two namespaces may share.

  Of the tiles those are kept that count a field which records have (`Metrics`).

  Proved: `grid_run`, about every run (`GridInv`). The cards shown, and the operators that the
  exports take, are those of the last inventory that pass the filters, up to a search under way;
  every tile shows as many operators as the list that it opens (`tile_eq_length`); at most three
  operators are compared.
-/
import HybridOperator.Dashboard.ConflictModal
import HybridOperator.Lib.GoStrings
import HybridOperator.Lib.Reactive

namespace HybridOperator.Dashboard

open HybridOperator.Lib HybridOperator.Collector

/-! ## The filters -/

/-- The search box and the check boxes. -/
structure FilterInputs where
  query : String
  canUpgrade : Bool
  failed : Bool
  idle : Bool
  hasRoutes : Bool
  majorUpgrade : Bool
  highRisk : Bool
  blocked : Bool

inductive FilterBox where
  | canUpgrade
  | failed
  | idle
  | hasRoutes
  | majorUpgrade
  | highRisk
  | blocked

def FilterInputs.check (inputs : FilterInputs) (checked : Bool) : FilterBox → FilterInputs
  | .canUpgrade => { inputs with canUpgrade := checked }
  | .failed => { inputs with failed := checked }
  | .idle => { inputs with idle := checked }
  | .hasRoutes => { inputs with hasRoutes := checked }
  | .majorUpgrade => { inputs with majorUpgrade := checked }
  | .highRisk => { inputs with highRisk := checked }
  | .blocked => { inputs with blocked := checked }

def searchableText (op : OperatorInfo) : String :=
  " ".intercalate [op.name, op.package, op.version, op.nameSpace, op.channel]

section Page

variable (toLowerCase : String → String)

/-- The test of `applyFilters`. -/
def FilterInputs.passes (inputs : FilterInputs) (op : OperatorInfo) : Bool :=
  let searchQuery := toLowerCase inputs.query
  if searchQuery ≠ "" ∧
      GoStrings.contains (toLowerCase (searchableText op)) searchQuery = false then false
  else if inputs.canUpgrade ∧ ¬ op.canUpgrade then false
  else if inputs.failed ∧ op.phase ≠ "Failed" then false
  else if inputs.idle ∧ ¬ op.isIdle then false
  else if inputs.hasRoutes ∧ op.exposedRoutes.length = 0 then false
  else if inputs.majorUpgrade ∧ op.upgradeType ≠ .major then false
  else if inputs.highRisk ∧ op.riskScore < 50 then false
  else if inputs.blocked ∧ GoStrings.contains op.phase "Blocked" = false ∧
      GoStrings.contains op.phase "RequiresApproval" = false then false
  else true

/-! ## The page -/

/-- What the grid shows. -/
inductive Grid where
  | loading
  | cards (operators : List OperatorInfo)
  /-- 'Failed to communicate with Go sensor backend.' -/
  | failed

structure GridPage where
  inputs : FilterInputs
  allOperators : List OperatorInfo
  filteredOperators : List OperatorInfo
  searchDebounceTimer : Option Nat
  /-- the search timers that the browser runs -/
  searchTimers : List Nat
  nextTimer : Nat
  shown : Grid
  /-- the numbers on the tiles, once there are any -/
  metrics : Option Metrics
  comparisonMode : Bool
  selectedForComparison : List OperatorInfo
  /-- the operators of the comparison, unless it was closed since -/
  comparisonModal : Option (List OperatorInfo)

/-- The page when it is loaded; a browser may restore what the inputs were. -/
def GridPage.load (inputs : FilterInputs) : GridPage where
  inputs := inputs
  allOperators := []
  filteredOperators := []
  searchDebounceTimer := none
  searchTimers := []
  nextTimer := 1
  shown := .loading
  metrics := none
  comparisonMode := false
  selectedForComparison := []
  comparisonModal := none

inductive GridEvent where
  | typed (query : String)
  | searchTimer (id : Nat)
  | check (box : FilterBox) (checked : Bool)
  /-- `fetchTargets` has an inventory, and what it draws of it raises or not -/
  | received (operators : List OperatorInfo) (drawn : Bool)
  | fetchFailed
  | toggleComparison
  /-- the check box of a card with this name -/
  | select (opName : String)
  | closeComparison

/-- `op.name || op.package` -/
def cardName (op : OperatorInfo) : String := orElse op.name op.package

def renderGrid (page : GridPage) (operators : List OperatorInfo) : GridPage :=
  { page with shown := .cards operators }

def applyFilters (page : GridPage) : GridPage :=
  let filtered := page.allOperators.filter (page.inputs.passes toLowerCase)
  renderGrid { page with filteredOperators := filtered } filtered

def handleSearch (page : GridPage) (query : String) : GridPage :=
  { page with
      inputs := { page.inputs with query := query }
      searchTimers := page.searchTimers.filter (page.searchDebounceTimer ≠ some ·) ++
        [page.nextTimer]
      searchDebounceTimer := some page.nextTimer
      nextTimer := page.nextTimer + 1 }

/-- What `fetchTargets` does with an inventory. -/
def showInventory (page : GridPage) (operators : List OperatorInfo) (drawn : Bool) : GridPage :=
  let page' := { page with
    allOperators := operators
    filteredOperators := operators
    metrics := some (updateMetrics toLowerCase operators) }
  if drawn then applyFilters toLowerCase page' else { page' with shown := .failed }

def toggleComparisonMode (page : GridPage) : GridPage :=
  renderGrid { page with
    comparisonMode := !page.comparisonMode
    selectedForComparison := [] } page.filteredOperators

def openComparisonModal (page : GridPage) : GridPage :=
  if page.selectedForComparison.length < 2 then page
  else { page with comparisonModal := some page.selectedForComparison }

/-- The selection after a check box, unless three are selected already. -/
def newSelection (page : GridPage) (opName : String) : Option (List OperatorInfo) :=
  match page.selectedForComparison.findIdx? fun op => cardName op = opName with
  | some index => some (page.selectedForComparison.eraseIdx index)
  | none =>
      if page.selectedForComparison.length ≥ 3 then none
      else some (page.selectedForComparison ++
        (page.allOperators.find? fun op => cardName op = opName).toList)

def selectForComparison (page : GridPage) (opName : String) : GridPage :=
  match newSelection page opName with
  | none => page
  | some selected =>
      openComparisonModal
        (renderGrid { page with selectedForComparison := selected } page.filteredOperators)

/-- A card has a check box in comparison mode. -/
def hasCheckbox (page : GridPage) (opName : String) : Bool :=
  page.comparisonMode && match page.shown with
    | .cards operators => operators.any fun op => cardName op = opName
    | .loading | .failed => false

def gridStep (page : GridPage) : GridEvent → GridPage
  | .typed query => handleSearch page query
  | .searchTimer id =>
      if id ∈ page.searchTimers then
        applyFilters toLowerCase { page with searchTimers := page.searchTimers.filter (· ≠ id) }
      else page
  | .check box checked =>
      applyFilters toLowerCase { page with inputs := page.inputs.check checked box }
  | .received operators drawn => showInventory toLowerCase page operators drawn
  | .fetchFailed => { page with shown := .failed }
  | .toggleComparison => toggleComparisonMode page
  | .select opName => if hasCheckbox page opName then selectForComparison page opName else page
  | .closeComparison => { page with comparisonModal := none }

def gridAfter (inputs : FilterInputs) (events : List GridEvent) : GridPage :=
  events.foldl (gridStep toLowerCase) (.load inputs)

end Page

/-! ## The tiles -/

/-- The tiles, by the argument of `openMetricModal`. -/
inductive MetricType where
  | total
  | uptodate
  | upgradeable
  | major
  | idle
  | conflict
  | degraded
  | routes

/-- The number that the tile shows. -/
def Metrics.tile (m : Metrics) : MetricType → Nat
  | .total => m.total
  | .uptodate => m.upToDate
  | .upgradeable => m.upgradeable
  | .major => m.majorRisk
  | .idle => m.idle
  | .conflict => m.conflict
  | .degraded => m.degraded
  | .routes => m.routes

/-- `ops`, the operators that `openMetricModal` lists. -/
def modalOps (toLowerCase : String → String) (currentOperatorData : List OperatorInfo) :
    MetricType → List OperatorInfo
  | .total => currentOperatorData
  | .uptodate => currentOperatorData.filter fun op => !op.canUpgrade
  | .upgradeable => currentOperatorData.filter (·.canUpgrade)
  | .major => currentOperatorData.filter fun op => op.canUpgrade && op.upgradeType = .major
  | .idle => currentOperatorData.filter (·.isIdle)
  | .conflict => conflictOps toLowerCase currentOperatorData
  | .degraded => currentOperatorData.filter fun op => op.phase ∈
      ["Failed", "UpgradeFailed", "InstallPlanFailed", "Unknown", "Pending"]
  | .routes => currentOperatorData.filter fun op => op.exposedRoutes.length > 0

/-- Every tile shows the number of operators in the list that it opens. -/
theorem tile_eq_length (toLowerCase : String → String) (operators : List OperatorInfo)
    (type : MetricType) :
    (updateMetrics toLowerCase operators).tile type =
      (modalOps toLowerCase operators type).length := by
  cases type with
  | uptodate =>
    -- one is the rest of the total, the other counts
    have hsum := operators.length_eq_length_filter_add (·.canUpgrade)
    show operators.length - (operators.filter (·.canUpgrade)).length = _
    rw [modalOps]
    omega
  | conflict =>
    show conflictCount (Grouping.groupBy (getNormalizedPackageName toLowerCase) operators) = _
    have htotal := Grouping.total_groupBy (getNormalizedPackageName toLowerCase)
      (fun n => 1 < n) operators
    simp only [decide_eq_true_eq] at htotal
    rw [conflictCount_eq, htotal, List.countP_eq_length_filter, modalOps, conflictOps]
    refine congrArg List.length (List.filter_congr fun op _ => ?_)
    rw [Grouping.get_countBy]
  | _ => rfl

/-! ## What a run keeps -/

section Runs

variable {toLowerCase : String → String} {inputs : FilterInputs} {events : List GridEvent}
  {page : GridPage}

/-- The inventory that the event brings. -/
def GridEvent.inventory? : GridEvent → Option (List OperatorInfo)
  | .received operators _ => some operators
  | _ => none

/-- Whether the event leaves the operators filtered, where it has a say in it. -/
def GridEvent.filters? : GridEvent → Option Bool
  | .received _ drawn => some drawn
  | .check _ _ => some true
  | _ => none

/-- Whether the event leaves cards, where it has a say in it. -/
def GridEvent.draws? : GridEvent → Option Bool
  | .received _ drawn => some drawn
  | .fetchFailed => some false
  | .check _ _ | .toggleComparison => some true
  | _ => none

/-- What the last event that has a say said. -/
def lastOf {α : Type} (f : GridEvent → Option α) (events : List GridEvent) : Option α :=
  (events.filterMap f).getLast?

theorem lastOf_concat {α : Type} (f : GridEvent → Option α) (events : List GridEvent)
    (event : GridEvent) : lastOf f (events ++ [event]) = (f event).or (lastOf f events) :=
  Reactive.getLast?_filterMap_concat f events event

/-- Operators that are compared: few, of different names, and each the first of its name in some
    inventory that the page got. -/
structure Comparable (events : List GridEvent) (selected : List OperatorInfo) : Prop where
  few : selected.length ≤ 3
  names : (selected.map cardName).Nodup
  found : ∀ op ∈ selected, ∃ operators drawn, .received operators drawn ∈ events ∧
    operators.find? (fun other => cardName other = cardName op) = some op

variable (toLowerCase inputs) in
/-- The filters were applied to all operators at some moment, with the query of then; no inventory
    came since and no box was checked, and when no search is under way the query is still that. -/
def Filtered (events : List GridEvent) (page : GridPage) : Prop :=
  ∃ past later, events = past ++ later ∧ (∀ event ∈ later, event.filters? = none) ∧
    let query := (gridAfter toLowerCase inputs past).inputs.query
    page.filteredOperators =
        page.allOperators.filter ({ page.inputs with query := query }.passes toLowerCase) ∧
      (page.searchTimers = [] → query = page.inputs.query)

variable (toLowerCase) in
/-- What the filters and the cards have no part in. -/
structure GridKept (events : List GridEvent) (page : GridPage) : Prop where
  operators : page.allOperators = (lastOf GridEvent.inventory? events).getD []
  metrics : page.metrics =
    (lastOf GridEvent.inventory? events).map (updateMetrics toLowerCase)
  /-- at most one search is under way -/
  timers : page.searchTimers = [] ∨
    ∃ id, page.searchDebounceTimer = some id ∧ page.searchTimers = [id]
  selected : Comparable events page.selectedForComparison
  off : page.comparisonMode = false → page.selectedForComparison = []
  modal : ∀ ops ∈ page.comparisonModal, 2 ≤ ops.length ∧ Comparable events ops

variable (toLowerCase inputs) in
structure GridInv (events : List GridEvent) (page : GridPage) : Prop
    extends GridKept toLowerCase events page where
  filtered : Filtered toLowerCase inputs events page ∨
    lastOf GridEvent.filters? events = some false ∧ page.filteredOperators = page.allOperators
  shown : page.shown = .cards page.filteredOperators ∨
    page.shown = .failed ∧ lastOf GridEvent.draws? events = some false ∨
    page.shown = .loading ∧ lastOf GridEvent.draws? events = none

/-! ### Selecting -/

theorem Comparable.later {selected : List OperatorInfo} (h : Comparable events selected)
    (event : GridEvent) : Comparable (events ++ [event]) selected := by
  refine ⟨h.few, h.names, fun op hop => ?_⟩
  obtain ⟨operators, drawn, hmem, hfind⟩ := h.found op hop
  exact ⟨operators, drawn, List.mem_append_left _ hmem, hfind⟩

theorem comparable_nil (events : List GridEvent) : Comparable events [] :=
  ⟨Nat.zero_le 3, List.nodup_nil, nofun⟩

theorem received_of_lastOf {operators : List OperatorInfo}
    (h : lastOf GridEvent.inventory? events = some operators) :
    ∃ drawn, .received operators drawn ∈ events := by
  obtain ⟨event, hevent, hinventory⟩ := List.mem_filterMap.mp (List.mem_of_getLast? h)
  cases event with
  | received operators' drawn =>
    obtain rfl := Option.some.inj hinventory
    exact ⟨drawn, hevent⟩
  | typed _ | searchTimer _ | check _ _ | fetchFailed | toggleComparison | select _
  | closeComparison => cases hinventory

theorem comparable_concat {selected : List OperatorInfo} {op : OperatorInfo}
    (h : Comparable events selected) (hfew : selected.length < 3)
    (hother : ∀ other ∈ selected, cardName other ≠ cardName op)
    (hfound : ∃ operators drawn, .received operators drawn ∈ events ∧
      operators.find? (fun other => cardName other = cardName op) = some op) :
    Comparable events (selected ++ [op]) := by
  refine ⟨?_, ?_, fun op' hmem => ?_⟩
  · rw [List.length_append, List.length_singleton]
    exact hfew
  · rw [List.map_append, List.map_singleton, List.nodup_append]
    refine ⟨h.names, List.nodup_singleton _, fun name hname name' hname' heq => ?_⟩
    obtain ⟨other, hselected, rfl⟩ := List.mem_map.mp hname
    exact hother other hselected (heq.trans (List.mem_singleton.mp hname'))
  · rcases List.mem_append.mp hmem with hold | hnew
    · exact h.found op' hold
    · rwa [List.mem_singleton.mp hnew]

theorem comparable_newSelection {opName : String} {selected : List OperatorInfo}
    (h : Comparable events page.selectedForComparison)
    (hall : page.allOperators = (lastOf GridEvent.inventory? events).getD [])
    (hnew : newSelection page opName = some selected) : Comparable events selected := by
  unfold newSelection at hnew
  split at hnew
  · rename_i index hindex
    obtain rfl := Option.some.inj hnew
    have hsub := List.eraseIdx_sublist page.selectedForComparison index
    exact ⟨Nat.le_trans hsub.length_le h.few, (hsub.map cardName).nodup h.names,
      fun op hop => h.found op (hsub.subset hop)⟩
  · rename_i hindex
    split at hnew
    · cases hnew
    · rename_i hfew
      obtain rfl := Option.some.inj hnew
      cases hfind : page.allOperators.find? fun op => cardName op = opName with
      | none =>
        rw [Option.toList_none, List.append_nil]
        exact h
      | some op =>
        obtain rfl : cardName op = opName := by simpa using List.find?_some hfind
        have hother : ∀ other ∈ page.selectedForComparison, cardName other ≠ cardName op := by
          simpa using List.findIdx?_eq_none_iff.mp hindex
        refine comparable_concat h (Nat.lt_of_not_le hfew) hother ?_
        cases hlast : lastOf GridEvent.inventory? events with
        | none =>
          rw [hall, hlast] at hfind
          cases hfind
        | some operators =>
          obtain ⟨drawn, hreceived⟩ := received_of_lastOf hlast
          rw [hall, hlast] at hfind
          exact ⟨operators, drawn, hreceived, hfind⟩

/-- What a check box of a card does. -/
theorem select_cases (toLowerCase : String → String) (page : GridPage) (opName : String) :
    gridStep toLowerCase page (.select opName) = page ∨
      page.comparisonMode = true ∧ ∃ selected modal, newSelection page opName = some selected ∧
        (modal = page.comparisonModal ∨ 2 ≤ selected.length ∧ modal = some selected) ∧
        gridStep toLowerCase page (.select opName) = { page with
          selectedForComparison := selected
          shown := .cards page.filteredOperators
          comparisonModal := modal } := by
  unfold gridStep
  dsimp only
  split
  · rename_i hbox
    have hmode : page.comparisonMode = true := (Bool.and_eq_true_iff.mp hbox).1
    unfold selectForComparison
    split
    · exact Or.inl rfl
    · rename_i selected hnew
      refine Or.inr ⟨hmode, selected, ?_⟩
      unfold openComparisonModal renderGrid
      dsimp only
      split
      · exact ⟨_, hnew, Or.inl rfl, rfl⟩
      · rename_i hlen
        exact ⟨_, hnew, Or.inr ⟨Nat.le_of_not_lt hlen, rfl⟩, rfl⟩
  · exact Or.inl rfl

/-! ### One event -/

theorem lastOf_unsaid {α : Type} {f : GridEvent → Option α} {event : GridEvent}
    (h : f event = none) (events : List GridEvent) :
    lastOf f (events ++ [event]) = lastOf f events := by
  rw [lastOf_concat, h, Option.none_or]

theorem GridKept.later (h : GridKept toLowerCase events page) (event : GridEvent)
    (hinventory : event.inventory? = none) : GridKept toLowerCase (events ++ [event]) page := by
  refine ⟨?_, ?_, h.timers, h.selected.later event, h.off,
    fun ops hops => ⟨(h.modal ops hops).1, (h.modal ops hops).2.later event⟩⟩
  · rw [lastOf_unsaid hinventory]
    exact h.operators
  · rw [lastOf_unsaid hinventory]
    exact h.metrics

/-- Filters that were applied before an event which has no say in them, in a page with the same
    lists. -/
theorem Filtered.later (h : Filtered toLowerCase inputs events page) {event : GridEvent}
    (hfilters : event.filters? = none) {page' : GridPage}
    (hinputs : ∀ query, { page'.inputs with query := query } =
      { page.inputs with query := query })
    (hall : page'.allOperators = page.allOperators)
    (hfiltered : page'.filteredOperators = page.filteredOperators)
    (htimers : page'.searchTimers = [] →
      page.searchTimers = [] ∧ page'.inputs.query = page.inputs.query) :
    Filtered toLowerCase inputs (events ++ [event]) page' := by
  obtain ⟨past, later, heq, hlater, hlists, hquery⟩ := h
  refine ⟨past, later ++ [event], ?_, fun e he => ?_, ?_, fun hnone => ?_⟩
  · rw [heq, List.append_assoc]
  · rcases List.mem_append.mp he with he | he
    · exact hlater e he
    · exact List.mem_singleton.mp he ▸ hfilters
  · rw [hfiltered, hall, hinputs]
    exact hlists
  · obtain ⟨hnone, hsame⟩ := htimers hnone
    rw [hsame]
    exact hquery hnone

theorem gridAfter_concat (toLowerCase : String → String) (inputs : FilterInputs)
    (events : List GridEvent) (event : GridEvent) :
    gridAfter toLowerCase inputs (events ++ [event]) =
      gridStep toLowerCase (gridAfter toLowerCase inputs events) event :=
  List.foldl_concat _ _ _ _

/-- Where the filters are applied, the cards are those of the inputs. -/
theorem gridInv_applyFilters (h : GridKept toLowerCase events page)
    (hquery : (gridAfter toLowerCase inputs events).inputs.query = page.inputs.query) :
    GridInv toLowerCase inputs events (applyFilters toLowerCase page) where
  toGridKept := ⟨h.operators, h.metrics, h.timers, h.selected, h.off, h.modal⟩
  filtered := by
    refine Or.inl ⟨events, [], (List.append_nil events).symm, List.forall_mem_nil _, ?_⟩
    dsimp only
    rw [hquery]
    exact ⟨rfl, fun _ => rfl⟩
  shown := Or.inl rfl

/-- An event that leaves the lists and the inputs alone: shown are then the cards of the filtered
    operators, a failure, or what was shown before. -/
theorem GridInv.later (h : GridInv toLowerCase inputs events page) {event : GridEvent}
    (hfilters : event.filters? = none) {page' : GridPage}
    (hkept : GridKept toLowerCase (events ++ [event]) page')
    (hinputs : page'.inputs = page.inputs) (hall : page'.allOperators = page.allOperators)
    (hfiltered : page'.filteredOperators = page.filteredOperators)
    (htimers : page'.searchTimers = page.searchTimers)
    (hshown : page'.shown = .cards page.filteredOperators ∨
      page'.shown = .failed ∧ event.draws? = some false ∨
      page'.shown = page.shown ∧ event.draws? = none) :
    GridInv toLowerCase inputs (events ++ [event]) page' where
  toGridKept := hkept
  filtered := by
    rw [lastOf_unsaid hfilters, hfiltered, hall]
    refine h.filtered.imp_left fun hold => hold.later hfilters (fun _ => ?_) hall hfiltered ?_
    · rw [hinputs]
    · rw [htimers, hinputs]
      exact fun hnone => ⟨hnone, rfl⟩
  shown := by
    rw [hfiltered, lastOf_concat]
    rcases hshown with hcards | ⟨hfailed, hdraws⟩ | ⟨hsame, hdraws⟩
    · exact Or.inl hcards
    · rw [hdraws]
      exact Or.inr (Or.inl ⟨hfailed, rfl⟩)
    · rw [hsame, hdraws, Option.none_or]
      exact h.shown

theorem gridKept_received (h : GridKept toLowerCase events page) (operators : List OperatorInfo)
    (drawn : Bool) (filtered : List OperatorInfo) (shown : Grid) :
    GridKept toLowerCase (events ++ [.received operators drawn]) { page with
      allOperators := operators
      filteredOperators := filtered
      metrics := some (updateMetrics toLowerCase operators)
      shown := shown } := by
  refine ⟨?_, ?_, h.timers, h.selected.later _, h.off,
    fun ops hops => ⟨(h.modal ops hops).1, (h.modal ops hops).2.later _⟩⟩
  · rw [lastOf_concat]
    rfl
  · rw [lastOf_concat]
    rfl

theorem timers_typed (h : GridKept toLowerCase events page) :
    page.searchTimers.filter (page.searchDebounceTimer ≠ some ·) = [] := by
  rcases h.timers with hnone | ⟨id, hid, hone⟩
  · rw [hnone]
    rfl
  · rw [hid, hone]
    simp

theorem timers_fired (h : GridKept toLowerCase events page) {id : Nat}
    (hlive : id ∈ page.searchTimers) : page.searchTimers.filter (· ≠ id) = [] := by
  rcases h.timers with hnone | ⟨id', -, hone⟩
  · rw [hnone]
    rfl
  · rw [hone] at hlive ⊢
    obtain rfl := List.mem_singleton.mp hlive
    simp

theorem gridInv_typed (h : GridInv toLowerCase inputs events page) (query : String) :
    GridInv toLowerCase inputs (events ++ [.typed query]) (handleSearch page query) := by
  have hkept := h.toGridKept.later (.typed query) rfl
  have htimers : (handleSearch page query).searchTimers = [page.nextTimer] := by
    show page.searchTimers.filter _ ++ [page.nextTimer] = _
    rw [timers_typed h.toGridKept]
    rfl
  have hfilters : GridEvent.filters? (.typed query) = none := rfl
  have hdraws : GridEvent.draws? (.typed query) = none := rfl
  refine ⟨⟨hkept.operators, hkept.metrics, Or.inr ⟨page.nextTimer, rfl, htimers⟩, hkept.selected,
    hkept.off, hkept.modal⟩, ?_, ?_⟩
  · rw [lastOf_unsaid hfilters]
    exact h.filtered.imp_left fun hold =>
      hold.later rfl (fun _ => rfl) rfl rfl fun hnone => absurd (htimers.symm.trans hnone) nofun
  · rw [lastOf_unsaid hdraws]
    exact h.shown

theorem gridInv_select (h : GridInv toLowerCase inputs events page) (opName : String) :
    GridInv toLowerCase inputs (events ++ [.select opName])
      (gridStep toLowerCase page (.select opName)) := by
  have hkept := h.toGridKept.later (.select opName) rfl
  rcases select_cases toLowerCase page opName with
    hsame | ⟨hmode, selected, modal, hnew, hmodal, hnext⟩
  · rw [hsame]
    exact h.later rfl hkept rfl rfl rfl rfl (Or.inr (Or.inr ⟨rfl, rfl⟩))
  · have hselected : Comparable (events ++ [.select opName]) selected :=
      (comparable_newSelection h.selected h.operators hnew).later _
    rw [hnext]
    refine h.later rfl ⟨hkept.operators, hkept.metrics, hkept.timers, hselected, ?_, ?_⟩
      rfl rfl rfl rfl (Or.inl rfl)
    · intro hoff
      exact absurd (hmode.symm.trans hoff) nofun
    · intro ops hops
      rcases hmodal with rfl | ⟨hlen, rfl⟩
      · exact hkept.modal ops hops
      · obtain rfl := Option.some.inj hops
        exact ⟨hlen, hselected⟩

theorem gridInv_step (h : GridInv toLowerCase inputs events (gridAfter toLowerCase inputs events))
    (event : GridEvent) : GridInv toLowerCase inputs (events ++ [event])
      (gridAfter toLowerCase inputs (events ++ [event])) := by
  have hquery := congrArg (fun page => page.inputs.query)
    (gridAfter_concat toLowerCase inputs events event)
  rw [gridAfter_concat]
  cases event with
  | typed query => exact gridInv_typed h query
  | searchTimer id =>
    have hkept := h.toGridKept.later (.searchTimer id) rfl
    unfold gridStep at hquery ⊢
    dsimp only at hquery ⊢
    split
    · rename_i hlive
      rw [if_pos hlive] at hquery
      refine gridInv_applyFilters ⟨hkept.operators, hkept.metrics, ?_, hkept.selected, hkept.off,
        hkept.modal⟩ hquery
      exact Or.inl (timers_fired h.toGridKept hlive)
    · exact h.later rfl hkept rfl rfl rfl rfl (Or.inr (Or.inr ⟨rfl, rfl⟩))
  | check box checked =>
    have hkept := h.toGridKept.later (.check box checked) rfl
    exact gridInv_applyFilters ⟨hkept.operators, hkept.metrics, hkept.timers, hkept.selected,
      hkept.off, hkept.modal⟩ hquery
  | received operators drawn =>
    cases drawn with
    | true => exact gridInv_applyFilters (gridKept_received h.toGridKept operators true _ _) hquery
    | false =>
      refine ⟨gridKept_received h.toGridKept operators false _ _, Or.inr ⟨?_, rfl⟩,
        Or.inr (Or.inl ⟨rfl, ?_⟩)⟩
      · rw [lastOf_concat]
        rfl
      · rw [lastOf_concat]
        rfl
  | fetchFailed =>
    have hkept := h.toGridKept.later .fetchFailed rfl
    exact h.later rfl ⟨hkept.operators, hkept.metrics, hkept.timers, hkept.selected, hkept.off,
      hkept.modal⟩ rfl rfl rfl rfl (Or.inr (Or.inl ⟨rfl, rfl⟩))
  | toggleComparison =>
    have hkept := h.toGridKept.later .toggleComparison rfl
    exact h.later rfl ⟨hkept.operators, hkept.metrics, hkept.timers, comparable_nil _,
      fun _ => rfl, hkept.modal⟩ rfl rfl rfl rfl (Or.inl rfl)
  | select opName => exact gridInv_select h opName
  | closeComparison =>
    have hkept := h.toGridKept.later .closeComparison rfl
    exact h.later rfl ⟨hkept.operators, hkept.metrics, hkept.timers, hkept.selected, hkept.off,
      nofun⟩ rfl rfl rfl rfl (Or.inr (Or.inr ⟨rfl, rfl⟩))

theorem gridInv_run (toLowerCase : String → String) (inputs : FilterInputs)
    (events : List GridEvent) :
    GridInv toLowerCase inputs events (gridAfter toLowerCase inputs events) := by
  induction events using List.reverseRecOn with
  | nil =>
    refine ⟨⟨rfl, rfl, Or.inl rfl, comparable_nil [], fun _ => rfl, nofun⟩, Or.inl ?_,
      Or.inr (Or.inr ⟨rfl, rfl⟩)⟩
    exact ⟨[], [], rfl, List.forall_mem_nil _, rfl, fun _ => rfl⟩
  | append_singleton events event ih => exact gridInv_step ih event

/-- In every run: the page has the operators of the last inventory, and the exports take those that
    pass the filters as they were applied last, which are those of the inputs unless a search is
    under way or the inventory was not drawn to its end; the cards are theirs, or there are none
    because nothing was fetched yet or the last fetch failed; at most three operators are compared,
    of different names; and every tile shows as many operators as the list that it opens. -/
theorem grid_run (toLowerCase : String → String) (inputs : FilterInputs)
    (events : List GridEvent) :
    let page := gridAfter toLowerCase inputs events
    GridInv toLowerCase inputs events page ∧
      ∀ metrics ∈ page.metrics, ∀ type, metrics.tile type =
        (modalOps toLowerCase page.allOperators type).length := by
  have hinv := gridInv_run toLowerCase inputs events
  refine ⟨hinv, fun metrics hmetrics type => ?_⟩
  rw [hinv.metrics] at hmetrics
  obtain ⟨operators, hlast, rfl⟩ := Option.map_eq_some_iff.mp hmetrics
  rw [hinv.operators, hlast]
  exact tile_eq_length toLowerCase operators type

/-- While a search is under way the cards are those of before. -/
example :
    let records := ["etcd", "kafka"].map fun name =>
      flowRecord name "1.0.0" "1.0.0" "Succeeded" false .none
    let after := gridAfter id ⟨"", false, false, false, false, false, false, false⟩
    (after [.received records true, .typed "kaf"]).filteredOperators = records ∧
      (after [.received records true, .typed "kaf", .searchTimer 1]).filteredOperators =
        records.drop 1 := by
  refine ⟨?_, ?_⟩ <;> decide +kernel

end Runs

end HybridOperator.Dashboard
