/-
  The routes that `GetClusterGovernance` exposes on a record.

  The scan goes over the namespaces of the custom resources in the order of the map and keeps the
  first route of each host. What it keeps is a list of routes (`scanRoutes_eq`); `ExposedRoutes`
  and the components of kind `Route` are two renderings of it.

  Another order keeps other routes of the same hosts. A record of the sweep with the other order
  differs from the first in `ExposedRoutes` and the components only (`ReRouted`), since no stage
  after the scan reads more of them than the number of routes.

  Proved:
  * `exposedRoutes_of_response`: the routes of a published record have distinct hosts, one for
    each host that the Lists give.
  * `reRouted_of_orders`: sweeps that differ in that order publish the same number of routes and
    the same scores.
-/
import HybridOperator.Collector.CVESources

namespace HybridOperator.Collector

open HybridOperator.Lib

def routeHost (r : Unstructured) : String := (nestedString r.object ["spec", "host"]).getD ""

/-- The text of a route in `ExposedRoutes`. -/
def routeIdentifier (r : Unstructured) : String :=
  routeHost r ++ " (ns: " ++ r.getNamespace ++ ")"

def routeComponent (r : Unstructured) : OperatorComponent :=
  ⟨"Route", r.getName, r.getNamespace, "Host: " ++ routeHost r⟩

/-- A List in one of the namespaces succeeds and gives this route. -/
def ListedRoute (dyn : DynClient) (crNamespaces : GoMap String Bool) (r : Unstructured) : Prop :=
  ∃ ns ∈ crNamespaces, ∃ routes, dyn.list routeGVR ns "" = .ok routes ∧ r ∈ routes

/-- One route for each host that is found. -/
structure RoutesOnce (dyn : DynClient) (crNamespaces : GoMap String Bool)
    (routes : List Unstructured) : Prop where
  nodup : (routes.map routeHost).Nodup
  listed : ∀ r ∈ routes, routeHost r ≠ "" ∧ ListedRoute dyn crNamespaces r
  complete : ∀ r, ListedRoute dyn crNamespaces r → routeHost r ≠ "" →
    routeHost r ∈ routes.map routeHost

/-! ## The scan -/

/-- The routes with a host that a List in the namespace gives. -/
def hostRoutes (dyn : DynClient) (ns : String) : List Unstructured :=
  (listOrEmpty dyn routeGVR ns).filter fun r => routeHost r ≠ ""

/-- The scan's variables when these routes were kept. -/
def RouteScan.ofScan (scan : Dedup.Scan Unstructured String) : RouteScan :=
  ⟨scan.seen, scan.kept.map routeIdentifier, scan.kept.map routeComponent⟩

/-- The routes that the scan keeps. -/
def keptRoutes (dyn : DynClient) (order : RangeOrder String) (crNamespaces : GoMap String Bool) :
    List Unstructured :=
  Dedup.dedupBy routeHost ((crNamespaces.range order).flatMap (hostRoutes dyn))

theorem addRoute_ofScan (scan : Dedup.Scan Unstructured String) (r : Unstructured) :
    addRoute (.ofScan scan) r = .ofScan
      ((if routeHost r = "" then [] else [r]).foldl (Dedup.keepNew routeHost) scan) := by
  show (if routeHost r ≠ "" ∧ scan.seen.get (routeHost r) false = false then _ else _) = _
  by_cases hhost : routeHost r = ""
  · rw [if_neg fun h => h.1 hhost, if_pos hhost]
    rfl
  · rw [if_neg hhost, List.foldl_cons, List.foldl_nil, Dedup.keepNew]
    cases hseen : scan.seen.get (routeHost r) false with
    | true =>
      rw [if_neg fun h => Bool.noConfusion h.2, if_pos rfl]
    | false =>
      rw [if_pos ⟨hhost, rfl⟩, if_neg Bool.false_ne_true]
      unfold RouteScan.ofScan
      rw [List.map_append, List.map_append]
      rfl

theorem scanRoutes_eq (dyn : DynClient) (order : RangeOrder String)
    (crNamespaces : GoMap String Bool) :
    (scanRoutes dyn order crNamespaces).exposedRoutes =
        (keptRoutes dyn order crNamespaces).map routeIdentifier ∧
      (scanRoutes dyn order crNamespaces).components =
        (keptRoutes dyn order crNamespaces).map routeComponent := by
  have hscan : scanRoutes dyn order crNamespaces = .ofScan
      (((crNamespaces.range order).flatMap (hostRoutes dyn)).foldl
        (Dedup.keepNew routeHost) {}) := by
    refine Dedup.foldl_rounds RouteScan.ofScan (fun scan ns => ?_) (crNamespaces.range order) {}
    unfold hostRoutes listOrEmpty
    cases dyn.list routeGVR ns "" with
    | error e => rfl
    | ok routes =>
      have hfilter : routes.filter (fun r => routeHost r ≠ "") =
          routes.flatMap fun r => if routeHost r = "" then [] else [r] := by
        induction routes with
        | nil => rfl
        | cons r routes ih =>
          rw [List.flatMap_cons, ← ih, List.filter_cons]
          by_cases hhost : routeHost r = ""
          · simp [hhost]
          · simp [hhost]
      show routes.foldl addRoute (.ofScan scan) = .ofScan
        ((routes.filter fun r => routeHost r ≠ "").foldl (Dedup.keepNew routeHost) scan)
      rw [hfilter]
      exact Dedup.foldl_rounds RouteScan.ofScan addRoute_ofScan routes scan
  rw [hscan]
  exact ⟨rfl, rfl⟩

theorem mem_hostRoutes {dyn : DynClient} {ns : String} {r : Unstructured} :
    r ∈ hostRoutes dyn ns ↔
      (∃ routes, dyn.list routeGVR ns "" = .ok routes ∧ r ∈ routes) ∧ routeHost r ≠ "" := by
  unfold hostRoutes listOrEmpty
  rw [List.mem_filter, decide_eq_true_eq]
  cases dyn.list routeGVR ns "" with
  | error e => simp [Except.toOption]
  | ok routes => simp [Except.toOption]

theorem mem_flatMap_hostRoutes {dyn : DynClient} {order : RangeOrder String}
    {crNamespaces : GoMap String Bool} {r : Unstructured} :
    r ∈ (crNamespaces.range order).flatMap (hostRoutes dyn) ↔
      ListedRoute dyn crNamespaces r ∧ routeHost r ≠ "" := by
  rw [List.mem_flatMap]
  constructor
  · intro ⟨ns, hns, hr⟩
    obtain ⟨hlist, hhost⟩ := mem_hostRoutes.mp hr
    exact ⟨⟨ns, GoMap.mem_range.mp hns, hlist⟩, hhost⟩
  · intro ⟨⟨ns, hns, hlist⟩, hhost⟩
    exact ⟨ns, GoMap.mem_range.mpr hns, mem_hostRoutes.mpr ⟨hlist, hhost⟩⟩

theorem routesOnce_keptRoutes (dyn : DynClient) (order : RangeOrder String)
    (crNamespaces : GoMap String Bool) :
    RoutesOnce dyn crNamespaces (keptRoutes dyn order crNamespaces) := by
  refine ⟨Dedup.nodup_map_dedupBy routeHost _, fun r hr => ?_, fun r hlisted hhost => ?_⟩
  · exact (mem_flatMap_hostRoutes.mp (Dedup.mem_of_mem_dedupBy routeHost hr)).symm
  · exact (Dedup.mem_map_dedupBy routeHost).mpr
      (List.mem_map_of_mem (mem_flatMap_hostRoutes.mpr ⟨hlisted, hhost⟩))

/-- Every order finds the same hosts. -/
theorem length_keptRoutes (dyn : DynClient) (order order' : RangeOrder String)
    (crNamespaces : GoMap String Bool) :
    (keptRoutes dyn order crNamespaces).length = (keptRoutes dyn order' crNamespaces).length := by
  refine Dedup.length_dedupBy_congr routeHost fun host => ?_
  rw [List.mem_map, List.mem_map]
  exact exists_congr fun r => by rw [mem_flatMap_hostRoutes, mem_flatMap_hostRoutes]

/-! ## The routes of a record -/

theorem filter_route_components (dyn : DynClient) (routeOrder imageOrder : RangeOrder String)
    (crNamespaces : GoMap String Bool) (op : OperatorInfo) :
    (withWorkloads dyn routeOrder imageOrder crNamespaces op).components.filter
        (·.kind = "Route") =
      (scanRoutes dyn routeOrder crNamespaces).components := by
  rw [withWorkloads]
  dsimp only
  rw [List.filter_append, List.filter_append, (scanRoutes_eq dyn routeOrder crNamespaces).2]
  have hroutes : ∀ routes : List Unstructured,
      (routes.map routeComponent).filter (·.kind = "Route") = routes.map routeComponent := by
    intro routes
    refine List.filter_eq_self.mpr fun c hc => ?_
    obtain ⟨r, _, rfl⟩ := List.mem_map.mp hc
    rfl
  have hothers : ∀ (component : Unstructured → OperatorComponent) (objects : List Unstructured),
      (∀ o, (component o).kind ≠ "Route") →
        (objects.map component).filter (·.kind = "Route") = [] := by
    intro component objects hkind
    refine List.filter_eq_nil_iff.mpr fun c hc => ?_
    obtain ⟨o, _, rfl⟩ := List.mem_map.mp hc
    exact fun h => hkind o (of_decide_eq_true h)
  rw [hroutes, hothers _ _ fun _ => by simp, hothers _ _ fun _ => by simp, List.append_nil,
    List.append_nil]

/-- A published record renders one list of routes twice. -/
theorem exposedRoutes_of_response {sweep : Sweep} {resp : ClusterGovernanceResponse}
    (hresp : getClusterGovernance sweep = .ok resp) {i : Nat} {op : OperatorInfo}
    (hop : resp.operators[i]? = some op) :
    ∃ routes, RoutesOnce (sweep.scanning i) (recordNamespaces sweep i op) routes ∧
      op.exposedRoutes = routes.map routeIdentifier ∧
      op.components.filter (·.kind = "Route") = routes.map routeComponent := by
  have hworkloads := withWorkloads_of_response hresp hop
  have hroutes := scanRoutes_eq (sweep.scanning i) (sweep.routeOrder i)
    (recordNamespaces sweep i op)
  have hcomponents := congrArg (fun w => w.2.2.2.1) hworkloads
  refine ⟨_, routesOnce_keptRoutes (sweep.scanning i) (sweep.routeOrder i) _, ?_, ?_⟩
  · exact (congrArg (fun w => w.2.1) hworkloads).trans hroutes.1
  · rw [← hroutes.2, ← filter_route_components _ _ (sweep.imageOrder i) _ op]
    exact congrArg (List.filter (·.kind = "Route")) hcomponents

/-! ## Another order -/

def OperatorInfo.setRoutes (op : OperatorInfo) (exposedRoutes : List String)
    (components : List OperatorComponent) : OperatorInfo :=
  { op with exposedRoutes := exposedRoutes, components := components }

/-- The second record is the first with as many other routes. -/
def ReRouted (op op' : OperatorInfo) : Prop :=
  ∃ routes components, routes.length = op.exposedRoutes.length ∧
    op' = op.setRoutes routes components

theorem reRouted_scores {op op' : OperatorInfo} (h : ReRouted op op') :
    op.exposedRoutes.length = op'.exposedRoutes.length ∧ op.riskScore = op'.riskScore ∧
      op.healthScore = op'.healthScore := by
  obtain ⟨routes, components, hlength, rfl⟩ := h
  exact ⟨hlength.symm, rfl, rfl⟩

section Stages

variable (op : OperatorInfo) (routes : List String) (components : List OperatorComponent)

theorem withFailure_setRoutes :
    withFailure (op.setRoutes routes components) =
      (withFailure op).setRoutes routes components := by
  unfold withFailure
  rw [show (op.setRoutes routes components).phase = op.phase from rfl]
  split
  · rfl
  · rfl

theorem withVersion_setRoutes :
    withVersion (op.setRoutes routes components) =
      (withVersion op).setRoutes routes components := rfl

theorem withChannel_setRoutes (dyn : Nat → DynClient)
    (order : Nat → List String → RangeOrder String) (ocpNext : String) (chMap : JMap) :
    withChannel dyn order ocpNext (op.setRoutes routes components) chMap =
      (withChannel dyn order ocpNext op chMap).setRoutes routes components := by
  unfold withChannel
  dsimp only
  rw [show (op.setRoutes routes components).version = op.version from rfl]
  split_ifs
  · rfl
  · rfl
  · rfl
  · rfl

theorem withManifest_setRoutes (sweep : Sweep) (i : Nat) :
    withManifest sweep i (op.setRoutes routes components) =
      (withManifest sweep i op).setRoutes routes components := by
  unfold withManifest
  rw [show manifestChannel (sweep.scanning i) (op.setRoutes routes components) =
    manifestChannel (sweep.scanning i) op from rfl]
  cases manifestChannel (sweep.scanning i) op with
  | none => rfl
  | some chMap => exact withChannel_setRoutes op routes components _ _ _ chMap

/-- The scores count the routes and look at nothing else of them. -/
theorem withScores_setRoutes (sweep : Sweep) (i : Nat)
    (h : routes.length = op.exposedRoutes.length) :
    withScores sweep i (op.setRoutes routes components) =
      (withScores sweep i op).setRoutes routes components := by
  have hrisk : calculateSecurityRiskScore (op.setRoutes routes components) =
      calculateSecurityRiskScore op := by
    unfold calculateSecurityRiskScore
    rw [show (op.setRoutes routes components).exposedRoutes = routes from rfl, h]
    rfl
  have hhealth : calculateHealthScore (op.setRoutes routes components) =
      calculateHealthScore op := by
    unfold calculateHealthScore healthDeductions
    rw [show (op.setRoutes routes components).exposedRoutes = routes from rfl, h]
    rfl
  unfold withScores
  rw [hrisk, hhealth]
  rfl

end Stages

section Orders

variable (sweep : Sweep) (order : Nat → RangeOrder String)

/-- The same answers, with the namespaces of the route scans in another order. -/
def Sweep.reorder : Sweep := { sweep with routeOrder := order }

theorem withManifest_reorder (i : Nat) (op : OperatorInfo) :
    withManifest (sweep.reorder order) i op = withManifest sweep i op := rfl

theorem withScores_reorder (i : Nat) (op : OperatorInfo) :
    withScores (sweep.reorder order) i op = withScores sweep i op := rfl

theorem withScores_exposedRoutes (i : Nat) (op : OperatorInfo) :
    (withScores sweep i op).exposedRoutes = op.exposedRoutes := rfl

theorem listedCSVs_reorder : listedCSVs (sweep.reorder order) = listedCSVs sweep := rfl

theorem reRouted_baseOperator (csvMap : CSVMap) (sub : Unstructured) (i : Nat) :
    ReRouted (baseOperator sweep csvMap sub i)
      (baseOperator (sweep.reorder order) csvMap sub i) := by
  let op := withCRs (countCRs (sweep.counting i) (installedOperator csvMap sub))
    (installedOperator csvMap sub)
  let crNamespaces := (countCRs (sweep.counting i) (installedOperator csvMap sub)).crNamespaces
  let first := withWorkloads (sweep.scanning i) (sweep.routeOrder i) (sweep.imageOrder i)
    crNamespaces op
  let second := withWorkloads (sweep.scanning i) (order i) (sweep.imageOrder i) crNamespaces op
  have hlength : second.exposedRoutes.length = first.exposedRoutes.length := by
    show (scanRoutes (sweep.scanning i) (order i) crNamespaces).exposedRoutes.length =
      (scanRoutes (sweep.scanning i) (sweep.routeOrder i) crNamespaces).exposedRoutes.length
    rw [(scanRoutes_eq _ _ _).1, (scanRoutes_eq _ _ _).1, List.length_map, List.length_map]
    exact length_keptRoutes _ _ _ _
  have hkept : (withFailure (withVersion first)).exposedRoutes = first.exposedRoutes :=
    withFailure_keeps _ (·.exposedRoutes) fun _ _ _ _ => rfl
  refine ⟨second.exposedRoutes, second.components, hlength.trans (congrArg _ hkept.symm), ?_⟩
  show withFailure (withVersion (first.setRoutes second.exposedRoutes second.components)) = _
  rw [withVersion_setRoutes, withFailure_setRoutes]
  rfl

theorem reRouted_roundRecord (csvMap : CSVMap) (sub : Unstructured) (i : Nat) :
    ReRouted (roundRecord sweep csvMap sub i)
      (roundRecord (sweep.reorder order) csvMap sub i) := by
  obtain ⟨routes, components, hlength, hbase⟩ := reRouted_baseOperator sweep order csvMap sub i
  have hmanifest : routes.length =
      (withManifest sweep i (baseOperator sweep csvMap sub i)).exposedRoutes.length := by
    rw [withManifest_keeps sweep i _ (·.exposedRoutes) fun _ _ _ _ _ _ _ _ => rfl, hlength]
  have hscores : routes.length = (roundRecord sweep csvMap sub i).exposedRoutes.length := by
    rw [roundRecord, withScores_exposedRoutes, hmanifest]
  refine ⟨routes, components, hscores, ?_⟩
  rw [roundRecord, hbase, withManifest_reorder, withScores_reorder, withManifest_setRoutes,
    withScores_setRoutes _ _ _ _ _ hmanifest, roundRecord]

theorem reRouted_round (csvMap : CSVMap) (input : Unstructured × Nat) :
    (governSubscription sweep csvMap input).1 =
        (governSubscription (sweep.reorder order) csvMap input).1 ∧
      ReRouted (governSubscription sweep csvMap input).2.op
        (governSubscription (sweep.reorder order) csvMap input).2.op ∧
      (governSubscription sweep csvMap input).2.csvKey =
        (governSubscription (sweep.reorder order) csvMap input).2.csvKey := by
  obtain ⟨sub, i⟩ := input
  refine ⟨?_, reRouted_roundRecord sweep order csvMap sub i, rfl⟩
  show storeCounts csvMap (csvRef csvMap sub) (baseOperator sweep csvMap sub i).crds =
    storeCounts csvMap (csvRef csvMap sub) (baseOperator (sweep.reorder order) csvMap sub i).crds
  rw [baseOperator_crds, baseOperator_crds]
  rfl

theorem reRouted_finish (csvMap : CSVMap) {record record' : OperatorRecord}
    (hop : ReRouted record.op record'.op) (hkey : record.csvKey = record'.csvKey) :
    ReRouted (record.finish csvMap) (record'.finish csvMap) := by
  obtain ⟨routes, components, hlength, hop⟩ := hop
  unfold OperatorRecord.finish
  rw [← hkey, hop]
  cases record.csvKey.bind csvMap.lookup with
  | none => exact ⟨routes, components, hlength, rfl⟩
  | some csv => exact ⟨routes, components, hlength, rfl⟩

/-- Sweeps that differ in the order of the route scans publish records that differ in what
    routes they show. -/
theorem reRouted_of_orders {resp resp' : ClusterGovernanceResponse}
    (hresp : getClusterGovernance sweep = .ok resp)
    (hresp' : getClusterGovernance (sweep.reorder order) = .ok resp') :
    List.Forall₂ ReRouted resp.operators resp'.operators := by
  obtain ⟨subs, hsubs, hops⟩ := operators_of_ok hresp
  obtain ⟨subs', hsubs', hops'⟩ := operators_of_ok hresp'
  obtain rfl : subs = subs' := Except.ok.inj (hsubs.symm.trans hsubs')
  obtain ⟨hmap, hrecords⟩ := Reactive.run_forall₂ (governSubscription sweep)
    (governSubscription (sweep.reorder order)) id Eq
    (fun record record' => ReRouted record.op record'.op ∧ record.csvKey = record'.csvKey)
    (fun csvMap csvMap' input heq => by
      subst heq
      exact reRouted_round sweep order csvMap input)
    (listedCSVs_reorder sweep order).symm subs.zipIdx
  rw [List.map_id, listedCSVs_reorder] at hmap hrecords
  rw [hops, hops', List.forall₂_map_left_iff, List.forall₂_map_right_iff, governSubscriptions,
    governSubscriptions, listedCSVs_reorder]
  refine hrecords.imp fun record record' h => ?_
  rw [← hmap]
  exact reRouted_finish _ h.1 h.2

end Orders

end HybridOperator.Collector
