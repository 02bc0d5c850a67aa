/-
  The routes in `openMetricModal` of static/app.js: how the script reads the host and the
  namespace out of a text of `exposed_routes`.

  Proved: `exposedRoutes_exact`. The routes of a published record have distinct hosts, one for
  each host that the Lists give, in the order of the components of kind `Route`; the script reads
  the host and the namespace back; and neither their number nor the scores depend on the order
  in which the namespaces are scanned.
-/
import HybridOperator.Collector.ExposedRoutes
import HybridOperator.Lib.JsRegex

namespace HybridOperator.Dashboard

open HybridOperator.Lib HybridOperator.Lib.JsRegex HybridOperator.Collector

/-- `/^(.+?)\s*\(ns:\s*(.+?)\)$/` -/
def routePattern : List Part :=
  [.lazy dotChar, .star blank] ++ ['(', 'n', 's', ':'].map .lit ++
    [.star blank, .lazy dotChar, .lit ')']

/-- `host` and `ns` of one route of an operator. -/
def routeMatch (opNamespace route : String) : String × String :=
  match exec routePattern route.toList with
  | some [host, ns] => (trim host, trim ns)
  | _ => (route, opNamespace)

/-! ## Reading a route back -/

theorem blank_of_dnsChar {c : Char} (h : dnsChar c = true) : blank c = false := by
  have hrange := dnsChar_toNat h
  unfold blank
  dsimp only
  simp only [Bool.or_eq_false_iff, Bool.and_eq_false_iff, decide_eq_false_iff_not,
    beq_eq_false_iff_ne]
  omega

theorem dotChar_of_dnsChar {c : Char} (h : dnsChar c = true) : dotChar c = true := by
  have hrange := dnsChar_toNat h
  unfold dotChar lineTerminator
  dsimp only
  simp only [Bool.not_eq_true', Bool.or_eq_false_iff, beq_eq_false_iff_ne]
  omega

theorem ne_of_dnsChar {c d : Char} (h : dnsChar c = true) (hd : dnsChar d = false) : d ≠ c := by
  intro heq
  rw [heq, h] at hd
  exact Bool.noConfusion hd

/-- The pattern from the blanks after the first group on. -/
theorem exec_after_host {ns : List Char} (hne : ns ≠ []) (hns : ∀ c ∈ ns, dnsChar c = true) :
    exec ([.star blank] ++ ['(', 'n', 's', ':'].map .lit ++ [.star blank, .lazy dotChar, .lit ')'])
        (' ' :: '(' :: (['n', 's', ':'] ++ (' ' :: (ns ++ [')'])))) =
      some [String.ofList ns] := by
  obtain ⟨c, cs, rfl⟩ := List.exists_cons_of_ne_nil hne
  have hlast : exec [.lit ')'] [')'] = some [] := rfl
  have hgroup := exec_lazy_word hne (fun d hd => dotChar_of_dnsChar (hns d hd))
    (fun d hd s => by rw [exec_lit, if_neg (ne_of_dnsChar (hns d hd) (by decide))]) hlast
  refine exec_star_one (by decide) (by decide) ?_
  refine (exec_lits ['(', 'n', 's', ':'] _ _).trans ?_
  exact exec_star_one (by decide) (blank_of_dnsChar (hns c List.mem_cons_self)) hgroup

/-- The script reads back what the collector wrote, for DNS names. -/
theorem routeMatch_routeIdentifier {r : Unstructured} (hhost : IsDNSName (routeHost r))
    (hns : IsDNSName r.getNamespace) (opNamespace : String) :
    routeMatch opNamespace (routeIdentifier r) = (routeHost r, r.getNamespace) := by
  have htext : (routeIdentifier r).toList = (routeHost r).toList ++
      (' ' :: '(' :: (['n', 's', ':'] ++ (' ' :: (r.getNamespace.toList ++ [')'])))) := by
    have hopen : " (ns: ".toList = [' ', '(', 'n', 's', ':', ' '] := by decide
    have hclose : ")".toList = [')'] := by decide
    rw [routeIdentifier, String.toList_append, String.toList_append, String.toList_append, hopen,
      hclose, List.append_assoc, List.append_assoc]
    rfl
  have hrest := exec_after_host hns.toList_ne_nil fun c hc => hns.dnsChar_of_mem hc
  have hexec : exec routePattern (routeIdentifier r).toList =
      some [routeHost r, r.getNamespace] := by
    rw [htext]
    refine (exec_lazy_word hhost.toList_ne_nil
      (fun c hc => dotChar_of_dnsChar (hhost.dnsChar_of_mem hc)) (fun c hc s => ?_) hrest).trans ?_
    · have hc := hhost.dnsChar_of_mem hc
      refine (exec_star_cons (blank_of_dnsChar hc) _ s).trans ?_
      exact (exec_lit _ _ _ _).trans (if_neg (ne_of_dnsChar hc (by decide)))
    · rw [String.ofList_toList, String.ofList_toList]
  unfold routeMatch
  rw [hexec]
  dsimp only
  rw [trim_of_no_blank fun c hc => blank_of_dnsChar (hhost.dnsChar_of_mem hc),
    trim_of_no_blank fun c hc => blank_of_dnsChar (hns.dnsChar_of_mem hc)]

theorem exposedRoutes_exact (sweep : Sweep) (resp : ClusterGovernanceResponse)
    (hresp : getClusterGovernance sweep = .ok resp) :
    (∀ i op, resp.operators[i]? = some op →
      ∃ routes, RoutesOnce (sweep.scanning i) (recordNamespaces sweep i op) routes ∧
        op.exposedRoutes = routes.map routeIdentifier ∧
        op.components.filter (·.kind = "Route") = routes.map routeComponent ∧
        ∀ r ∈ routes, IsDNSName (routeHost r) → IsDNSName r.getNamespace →
          routeMatch op.nameSpace (routeIdentifier r) = (routeHost r, r.getNamespace)) ∧
    ∀ order resp', getClusterGovernance (sweep.reorder order) = .ok resp' →
      List.Forall₂ (fun op op' => op.exposedRoutes.length = op'.exposedRoutes.length ∧
        op.riskScore = op'.riskScore ∧ op.healthScore = op'.healthScore)
        resp.operators resp'.operators := by
  refine ⟨fun i op hop => ?_, fun order resp' hresp' => ?_⟩
  · obtain ⟨routes, honce, hexposed, hcomponents⟩ := exposedRoutes_of_response hresp hop
    exact ⟨routes, honce, hexposed, hcomponents, fun r _ hhost hns =>
      routeMatch_routeIdentifier hhost hns op.nameSpace⟩
  · exact (reRouted_of_orders sweep order hresp hresp').imp fun _ _ => reRouted_scores

/-! ### One host in two namespaces -/

def routeOf (ns name host : String) : Unstructured :=
  ⟨[metadata ns name, ("spec", .obj [("host", .str host)])]⟩

/-- etcd in `operators` with an instance in `team-a`; the host `db.example.com` has a route in
    both, `ui.example.com` in `team-a` only. -/
def routedObjects (gvr : GroupVersionResource) : List Unstructured :=
  if gvr = routeGVR then
    [routeOf "operators" "db" "db.example.com", routeOf "team-a" "db" "db.example.com",
      routeOf "team-a" "ui" "ui.example.com"]
  else liveEtcdObjects gvr

def routedSweep : Sweep :=
  { Sweep.ofClient (snapshotClient routedObjects) with routeOrder := fun _ => .first "operators" }

theorem exposedRoutes_exact_routed :
    ∃ resp resp', getClusterGovernance routedSweep = .ok resp ∧
      getClusterGovernance (routedSweep.reorder fun _ => .first "team-a") = .ok resp' ∧
      resp.operators.map (·.exposedRoutes) =
        [["db.example.com (ns: operators)", "ui.example.com (ns: team-a)"]] ∧
      resp'.operators.map (·.exposedRoutes) =
        [["db.example.com (ns: team-a)", "ui.example.com (ns: team-a)"]] ∧
      List.Forall₂ (fun op op' => op.exposedRoutes.length = op'.exposedRoutes.length ∧
        op.riskScore = op'.riskScore ∧ op.healthScore = op'.healthScore)
        resp.operators resp'.operators :=
  ⟨_, _, rfl, rfl, by decide +kernel, by decide +kernel,
    (exposedRoutes_exact routedSweep _ rfl).2 _ _ rfl⟩

end HybridOperator.Dashboard
