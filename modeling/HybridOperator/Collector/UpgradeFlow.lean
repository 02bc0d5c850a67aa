/-
  `BuildUpgradeFlowData` of collector.go: the Sankey data for the upgrades of a cluster.

  One pass over the operators fills three maps (`trackFlow`); nodes and links are then read out
  of them in the order of three `range` statements (`FlowOrders`), of which the one over the
  targets of a source may differ from source to source.

  `FlowInv` relates the three maps to the operators seen so far: the names stored for a route
  are those of the operators that take it, and the count of a node is the number of routes
  that start there plus the number of those that end there. It is kept by one operator
  (`flowInv_track`), hence by the pass (`flowInv_flows`).

  Proved:
  * `upgradeFlow_conserves`: the data conserves operators, for every list and every order.
  * `upgradeFlow_acyclic`: its links form no cycle when every target is newer than the version
    it replaces. Nodes are ranked by the version their name parses to, the nodes without one
    above all others.
-/
import HybridOperator.Collector.Semver
import HybridOperator.Collector.Types
import HybridOperator.Lib.GoMap
import HybridOperator.Lib.GoStrings
import HybridOperator.Lib.Tally
import Mathlib.Logic.Relation
import Mathlib.Order.WithBot

namespace HybridOperator.Collector

open HybridOperator.Lib

/-- `flowMap`, `nodeCounts` and `nodeCategories`. -/
structure UpgradeFlows where
  flowMap : GoMap String (GoMap String (List String)) := ∅
  nodeCounts : GoMap String Nat := ∅
  nodeCategories : GoMap String String := ∅

def currentVer (op : OperatorInfo) : String :=
  if op.version = "" then "Unknown" else op.version

/-- The target node of an operator and its category. -/
def targetNode (op : OperatorInfo) : String × String :=
  if op.canUpgrade = false then ("Up-to-Date", "safe")
  else if op.phase = "UpgradePending" ∨ GoStrings.contains op.phase "RequiresApproval" = true then
    ("Blocked", "blocked")
  else (if op.targetVersion = "" then "Available" else op.targetVersion, "target")

def targetVer (op : OperatorInfo) : String := (targetNode op).1

/-- `m[k]++`. -/
def increment (m : GoMap String Nat) (k : String) : GoMap String Nat :=
  m.insert k (m.get k 0 + 1)

/-- `if m[k] == "" { m[k] = v }`. -/
def setIfEmpty (m : GoMap String String) (k v : String) : GoMap String String :=
  if m.get k "" = "" then m.insert k v else m

/-- One round of the pass over the operators. -/
def trackFlow (flows : UpgradeFlows) (op : OperatorInfo) : UpgradeFlows :=
  let targets := flows.flowMap.get (currentVer op) ∅
  let names := targets.get (targetVer op) []
  { flowMap := flows.flowMap.insert (currentVer op)
      (targets.insert (targetVer op) (names ++ [op.name]))
    nodeCounts := increment (increment flows.nodeCounts (currentVer op)) (targetVer op)
    nodeCategories := setIfEmpty (setIfEmpty flows.nodeCategories (currentVer op) "current")
      (targetVer op) (targetNode op).2 }

/-- The orders of the `range` statements over `nodeCounts`, `flowMap` and each `targets`. -/
structure FlowOrders where
  nodes : RangeOrder String
  sources : RangeOrder String
  targets : String → RangeOrder String

/-- One round of the loop over `nodeCounts`, with the nodes and the `nodeSet` so far. -/
def addNode (flows : UpgradeFlows) (acc : List SankeyNode × GoMap String Bool) (nodeID : String) :
    List SankeyNode × GoMap String Bool :=
  if acc.2.get nodeID false then acc
  else
    let label := nodeID ++ " (" ++ toString (flows.nodeCounts.get nodeID 0) ++ ")"
    (acc.1 ++ [⟨nodeID, label, flows.nodeCategories.get nodeID ""⟩], acc.2.insert nodeID true)

/-- The type of a link, from the first operator with the name of the first one in the flow. -/
def flowType (operators : List OperatorInfo) (target : String) (ops : List String) : String :=
  if target = "Blocked" then "blocked"
  else if target = "Up-to-Date" then "uptodate"
  else
    match ops.head?.bind fun opName => operators.find? (·.name = opName) with
    | some op => GoStrings.toLower op.upgradeType.text
    | none => "minor"

def buildLinks (orders : FlowOrders) (operators : List OperatorInfo) (flows : UpgradeFlows) :
    List SankeyLink :=
  (flows.flowMap.range orders.sources).flatMap fun source =>
    let targets := flows.flowMap.get source ∅
    (targets.range (orders.targets source)).map fun target =>
      let ops := targets.get target []
      ⟨source, target, ops.length, flowType operators target ops, ops⟩

def buildUpgradeFlowData (orders : FlowOrders) (operators : List OperatorInfo) : SankeyData :=
  let flows := operators.foldl trackFlow {}
  { nodes := ((flows.nodeCounts.range orders.nodes).foldl (addNode flows) ([], ∅)).1
    links := buildLinks orders operators flows }

/-! ## The maps after the pass -/

/-- The link an operator belongs to: its source and its target. -/
def route (op : OperatorInfo) : String × String := (currentVer op, targetVer op)

/-- The operators that take a route, in the order of the list. -/
def onRoute (operators : List OperatorInfo) (r : String × String) : List OperatorInfo :=
  operators.filter fun op => route op = r

/-- How many routes start or end at a node; one that does both counts twice. -/
def degree (operators : List OperatorInfo) (v : String) : Nat :=
  (operators.countP fun op => currentVer op = v) + operators.countP fun op => targetVer op = v

/-- The three maps against the operators seen so far. -/
structure FlowInv (seen : List OperatorInfo) (flows : UpgradeFlows) : Prop where
  names : ∀ s t, (flows.flowMap.get s ∅).get t [] = (onRoute seen (s, t)).map (·.name)
  sources : ∀ s, s ∈ flows.flowMap ↔ ∃ op ∈ seen, currentVer op = s
  targets : ∀ s t, t ∈ flows.flowMap.get s ∅ ↔ ∃ op ∈ seen, route op = (s, t)
  counts : ∀ v, flows.nodeCounts.get v 0 = degree seen v
  nodes : ∀ v, v ∈ flows.nodeCounts ↔ ∃ op ∈ seen, currentVer op = v ∨ targetVer op = v

theorem get_increment (m : GoMap String Nat) (k v : String) :
    (increment m k).get v 0 = m.get v 0 + if k = v then 1 else 0 := by
  rw [increment, GoMap.get_insert]
  by_cases h : v = k
  · rw [if_pos h, if_pos h.symm, h]
  · rw [if_neg h, if_neg (Ne.symm h), Nat.add_zero]

theorem mem_increment (m : GoMap String Nat) (k v : String) :
    v ∈ increment m k ↔ v = k ∨ v ∈ m := AList.mem_insert m

theorem onRoute_concat (seen : List OperatorInfo) (op : OperatorInfo) (r : String × String) :
    onRoute (seen ++ [op]) r = onRoute seen r ++ if route op = r then [op] else [] := by
  rw [onRoute, List.filter_append, List.filter_singleton, Bool.cond_decide]
  rfl

theorem degree_concat (seen : List OperatorInfo) (op : OperatorInfo) (v : String) :
    degree (seen ++ [op]) v = degree seen v + (if currentVer op = v then 1 else 0) +
      if targetVer op = v then 1 else 0 := by
  simp only [degree, List.countP_append, List.countP_singleton, decide_eq_true_eq]
  omega

theorem flowInv_empty : FlowInv [] {} where
  names s t := rfl
  sources s := by simp
  targets s t := by simp [GoMap.get_empty]
  counts v := rfl
  nodes v := by simp

/-- The targets of one source after a round: only those of the operator's version change. -/
theorem get_trackFlow (flows : UpgradeFlows) (op : OperatorInfo) (s : String) :
    (trackFlow flows op).flowMap.get s ∅ =
      if s = currentVer op then
        (flows.flowMap.get s ∅).insert (targetVer op)
          ((flows.flowMap.get s ∅).get (targetVer op) [] ++ [op.name])
      else flows.flowMap.get s ∅ := by
  rw [trackFlow, GoMap.get_insert]
  split
  · rename_i h
    rw [h]
  · rfl

theorem flowInv_track {seen : List OperatorInfo} {flows : UpgradeFlows}
    (h : FlowInv seen flows) (op : OperatorInfo) :
    FlowInv (seen ++ [op]) (trackFlow flows op) where
  names s t := by
    rw [get_trackFlow, onRoute_concat, List.map_append, ← h.names]
    by_cases hs : s = currentVer op
    · rw [if_pos hs, GoMap.get_insert]
      by_cases ht : t = targetVer op
      · rw [if_pos ht, ht, if_pos (by rw [route, hs])]
        rfl
      · have hne : route op ≠ (s, t) := fun e => ht (Prod.mk.inj e).2.symm
        rw [if_neg ht, if_neg hne, List.map_nil, List.append_nil]
    · have hne : route op ≠ (s, t) := fun e => hs (Prod.mk.inj e).1.symm
      rw [if_neg hs, if_neg hne, List.map_nil, List.append_nil]
  sources s := by
    have hmem : s ∈ (trackFlow flows op).flowMap ↔ s = currentVer op ∨ s ∈ flows.flowMap :=
      AList.mem_insert flows.flowMap
    rw [hmem, h.sources]
    simp only [List.mem_append, List.mem_singleton, or_and_right, exists_or, exists_eq_left]
    rw [or_comm, eq_comm]
  targets s t := by
    rw [get_trackFlow]
    simp only [List.mem_append, List.mem_singleton, or_and_right, exists_or, exists_eq_left]
    by_cases hs : s = currentVer op
    · rw [if_pos hs, AList.mem_insert, h.targets, or_comm]
      simp only [route, hs, Prod.mk.injEq, true_and, eq_comm]
    · have hne : route op ≠ (s, t) := fun e => hs (Prod.mk.inj e).1.symm
      rw [if_neg hs, h.targets, or_iff_left hne]
  counts v := by
    have hget : (trackFlow flows op).nodeCounts.get v 0 = flows.nodeCounts.get v 0 +
        (if currentVer op = v then 1 else 0) + if targetVer op = v then 1 else 0 := by
      rw [trackFlow, get_increment, get_increment]
    rw [hget, h.counts, degree_concat]
  nodes v := by
    have hmem : v ∈ (trackFlow flows op).nodeCounts ↔
        v = targetVer op ∨ v = currentVer op ∨ v ∈ flows.nodeCounts := by
      rw [trackFlow, mem_increment, mem_increment]
    rw [hmem, h.nodes]
    simp only [List.mem_append, List.mem_singleton, or_and_right, exists_or, exists_eq_left]
    rw [← or_assoc, or_comm, or_comm (a := v = targetVer op), eq_comm,
      eq_comm (a := v) (b := targetVer op)]

theorem flowInv_foldl {seen : List OperatorInfo} {flows : UpgradeFlows}
    (h : FlowInv seen flows) (operators : List OperatorInfo) :
    FlowInv (seen ++ operators) (operators.foldl trackFlow flows) := by
  induction operators generalizing seen flows with
  | nil => simpa using h
  | cons op rest ih =>
    have hrest := ih (flowInv_track h op)
    rwa [List.append_assoc] at hrest

theorem flowInv_flows (operators : List OperatorInfo) :
    FlowInv operators (operators.foldl trackFlow {}) := flowInv_foldl flowInv_empty operators

/-! ## Nodes and links -/

/-- The node of an ID. -/
def nodeOf (flows : UpgradeFlows) (v : String) : SankeyNode :=
  ⟨v, v ++ " (" ++ toString (flows.nodeCounts.get v 0) ++ ")", flows.nodeCategories.get v ""⟩

/-- The `nodeSet` test never skips a key, since the loop visits each once. -/
theorem foldl_addNode (flows : UpgradeFlows) (ids : List String) (hnd : ids.Nodup)
    (nodes : List SankeyNode) (nodeSet : GoMap String Bool)
    (hfresh : ∀ v ∈ ids, GoMap.get nodeSet v false = false) :
    (ids.foldl (addNode flows) (nodes, nodeSet)).1 = nodes ++ ids.map (nodeOf flows) := by
  induction ids generalizing nodes nodeSet with
  | nil => simp
  | cons v ids ih =>
    obtain ⟨hv, hnd⟩ := List.nodup_cons.mp hnd
    have hnew : GoMap.get nodeSet v false = false := hfresh v List.mem_cons_self
    have hlater : ∀ u ∈ ids, GoMap.get (nodeSet.insert v true) u false = false := by
      intro u hu
      have hne : u ≠ v := fun h => hv (h ▸ hu)
      rw [GoMap.get_insert, if_neg hne]
      exact hfresh u (List.mem_cons_of_mem _ hu)
    rw [List.foldl_cons, addNode, hnew, if_neg Bool.false_ne_true, ih hnd _ _ hlater,
      List.append_assoc]
    rfl

section Data

variable (orders : FlowOrders) (operators : List OperatorInfo)

/-- The links' sources and targets, in the order the loops visit them. -/
def routes : List (String × String) :=
  let flowMap := (operators.foldl trackFlow {}).flowMap
  (flowMap.range orders.sources).flatMap fun s =>
    ((flowMap.get s ∅).range (orders.targets s)).map fun t => (s, t)

theorem nodes_eq :
    (buildUpgradeFlowData orders operators).nodes =
      ((operators.foldl trackFlow {}).nodeCounts.range orders.nodes).map
        (nodeOf (operators.foldl trackFlow {})) := by
  unfold buildUpgradeFlowData
  exact foldl_addNode _ _ (GoMap.nodup_range _ _) [] ∅ fun v _ => rfl

theorem nodeIds_eq :
    (buildUpgradeFlowData orders operators).nodes.map (·.id) =
      (operators.foldl trackFlow {}).nodeCounts.range orders.nodes := by
  rw [nodes_eq, List.map_map]
  exact List.map_id _

/-- The link of a route: it carries the names of the operators that take it. -/
def linkOf (r : String × String) : SankeyLink :=
  let ops := (onRoute operators r).map (·.name)
  ⟨r.1, r.2, ops.length, flowType operators r.2 ops, ops⟩

theorem links_eq :
    (buildUpgradeFlowData orders operators).links =
      (routes orders operators).map (linkOf operators) := by
  have hinv := flowInv_flows operators
  unfold buildUpgradeFlowData buildLinks routes linkOf
  simp only [List.map_flatMap, List.map_map, hinv.names]
  rfl

theorem mem_routes {r : String × String} :
    r ∈ routes orders operators ↔ ∃ op ∈ operators, route op = r := by
  have hinv := flowInv_flows operators
  obtain ⟨s, t⟩ := r
  simp only [routes, List.mem_flatMap, List.mem_map, GoMap.mem_range, hinv.sources, hinv.targets,
    Prod.mk.injEq]
  constructor
  · rintro ⟨_, -, _, hop, rfl, rfl⟩
    exact hop
  · rintro ⟨op, hop, hr⟩
    exact ⟨s, ⟨op, hop, (Prod.mk.inj hr).1⟩, t, ⟨op, hop, hr⟩, rfl, rfl⟩

theorem nodup_routes : (routes orders operators).Nodup := by
  refine List.nodup_flatMap.mpr ⟨fun s _ => ?_, ?_⟩
  · exact (GoMap.nodup_range _ _).map fun t t' h => (Prod.mk.inj h).2
  · refine (GoMap.nodup_range _ orders.sources).imp fun {s s'} hne r hr hr' => hne ?_
    obtain ⟨t, -, rfl⟩ := List.mem_map.mp hr
    obtain ⟨t', -, ht'⟩ := List.mem_map.mp hr'
    exact (Prod.mk.inj ht').1.symm

theorem mem_nodeIds {v : String} :
    v ∈ (buildUpgradeFlowData orders operators).nodes.map (·.id) ↔
      ∃ op ∈ operators, currentVer op = v ∨ targetVer op = v := by
  rw [nodeIds_eq, GoMap.mem_range, (flowInv_flows operators).nodes]

/-- A link of the data is the link of a route some operator takes. -/
theorem mem_links {l : SankeyLink} :
    l ∈ (buildUpgradeFlowData orders operators).links ↔
      ∃ op ∈ operators, l = linkOf operators (route op) := by
  rw [links_eq]
  simp only [List.mem_map, mem_routes]
  constructor
  · rintro ⟨_, ⟨op, hop, rfl⟩, rfl⟩
    exact ⟨op, hop, rfl⟩
  · rintro ⟨op, hop, rfl⟩
    exact ⟨_, ⟨op, hop, rfl⟩, rfl⟩

/-- The links with a given source, or a given target, carry the operators that pass there. -/
theorem sum_values_filter (p : String × String → Bool) :
    (((buildUpgradeFlowData orders operators).links.filter fun l => p (l.source, l.target)).map
      (·.value)).sum = operators.countP fun op => p (route op) := by
  rw [links_eq, List.filter_map, List.map_map,
    ← Tally.sum_countP_filter operators route (routes orders operators)
      (nodup_routes orders operators) p fun op hop =>
        (mem_routes orders operators).mpr ⟨op, hop, rfl⟩]
  congr 1
  refine List.map_congr_left fun r _ => ?_
  show ((onRoute operators r).map (·.name)).length = _
  rw [List.length_map, onRoute, List.countP_eq_length_filter]

end Data

/-! ## Conservation -/

/-- The sum of the values of the links into a node. -/
def SankeyData.incoming (data : SankeyData) (v : String) : Nat :=
  ((data.links.filter (·.target = v)).map (·.value)).sum

/-- The sum of the values of the links out of a node. -/
def SankeyData.outgoing (data : SankeyData) (v : String) : Nat :=
  ((data.links.filter (·.source = v)).map (·.value)).sum

/-- The data accounts for every operator of the list once. -/
structure Conserves (operators : List OperatorInfo) (data : SankeyData) : Prop where
  nodeIds_nodup : (data.nodes.map (·.id)).Nodup
  source_mem : ∀ l ∈ data.links, l.source ∈ data.nodes.map (·.id)
  target_mem : ∀ l ∈ data.links, l.target ∈ data.nodes.map (·.id)
  routes_nodup : (data.links.map fun l => (l.source, l.target)).Nodup
  value_eq : ∀ l ∈ data.links, l.value = l.operators.length
  /-- Place by place, an element of the list contributes its name to one link and no other. -/
  contributes : ∃ link : Fin operators.length → Fin data.links.length, ∀ k : Fin data.links.length,
    (data.links.get k).operators =
      ((List.finRange operators.length).filter fun i => link i = k).map
        fun i => (operators.get i).name
  total : (data.links.map (·.value)).sum = operators.length
  label_eq : ∀ n ∈ data.nodes,
    n.label = n.id ++ " (" ++ toString (data.incoming n.id + data.outgoing n.id) ++ ")"

theorem map_filter_finRange {α β : Type} (xs : List α) (p : α → Bool) (f : α → β) :
    ((List.finRange xs.length).filter fun i => p (xs.get i)).map (fun i => f (xs.get i)) =
      (xs.filter p).map f := by
  conv_rhs => rw [← List.map_get_finRange xs, List.filter_map, List.map_map]
  rfl

section Conservation

variable (orders : FlowOrders) (operators : List OperatorInfo)

theorem routes_eq :
    ((buildUpgradeFlowData orders operators).links.map fun l => (l.source, l.target)) =
      routes orders operators := by
  rw [links_eq, List.map_map]
  exact List.map_id _

theorem contributes :
    ∃ link : Fin operators.length → Fin (buildUpgradeFlowData orders operators).links.length,
      ∀ k, ((buildUpgradeFlowData orders operators).links.get k).operators =
        ((List.finRange operators.length).filter fun i => link i = k).map
          fun i => (operators.get i).name := by
  have hnd := nodup_routes orders operators
  rw [← routes_eq] at hnd
  have hex : ∀ i : Fin operators.length,
      ∃ k, (buildUpgradeFlowData orders operators).links.get k =
        linkOf operators (route (operators.get i)) := fun i =>
    List.mem_iff_get.mp ((mem_links orders operators).mpr ⟨_, List.get_mem operators i, rfl⟩)
  choose link hlink using hex
  refine ⟨link, fun k => ?_⟩
  obtain ⟨op, -, hk⟩ := (mem_links orders operators).mp
    (List.get_mem (buildUpgradeFlowData orders operators).links k)
  -- a place takes the link of its route, and two links never have the same route
  have hiff : ∀ i, link i = k ↔ route (operators.get i) = route op := by
    intro i
    constructor
    · intro h
      have hi := hlink i
      rw [h, hk] at hi
      exact (congrArg (fun l => (l.source, l.target)) hi).symm
    · intro h
      refine List.nodup_iff_injective_get.mp (hnd.of_map _) ?_
      rw [hlink, hk, h]
  rw [hk]
  simp only [hiff]
  exact (map_filter_finRange operators (fun o => route o = route op) (·.name)).symm

/-- **The flow data conserves operators**, for every list and every iteration order. -/
theorem upgradeFlow_conserves :
    Conserves operators (buildUpgradeFlowData orders operators) where
  nodeIds_nodup := by
    rw [nodeIds_eq]
    exact GoMap.nodup_range _ _
  source_mem l hl := by
    obtain ⟨op, hop, rfl⟩ := (mem_links orders operators).mp hl
    exact (mem_nodeIds orders operators).mpr ⟨op, hop, Or.inl rfl⟩
  target_mem l hl := by
    obtain ⟨op, hop, rfl⟩ := (mem_links orders operators).mp hl
    exact (mem_nodeIds orders operators).mpr ⟨op, hop, Or.inr rfl⟩
  routes_nodup := by
    rw [routes_eq]
    exact nodup_routes orders operators
  value_eq l hl := by
    obtain ⟨op, -, rfl⟩ := (mem_links orders operators).mp hl
    rfl
  contributes := contributes orders operators
  total := by
    have h := sum_values_filter orders operators fun _ => true
    simpa using h
  label_eq n hn := by
    have hout := sum_values_filter orders operators fun r => r.1 = n.id
    have hin := sum_values_filter orders operators fun r => r.2 = n.id
    rw [SankeyData.incoming, SankeyData.outgoing, hin, hout, Nat.add_comm]
    rw [nodes_eq] at hn
    obtain ⟨v, -, rfl⟩ := List.mem_map.mp hn
    have hcount := (flowInv_flows operators).counts v
    rw [nodeOf, hcount]
    rfl

end Conservation

/-! ## No cycle -/

/-- A link leads from one node to the other. -/
def SankeyData.Edge (data : SankeyData) (a b : String) : Prop :=
  ∃ l ∈ data.links, l.source = a ∧ l.target = b

/-- The links form a directed graph without cycles, self-loops included. -/
def SankeyData.Acyclic (data : SankeyData) : Prop := ∀ v, ¬ Relation.TransGen data.Edge v v

/-- The version a node's name parses to, and `⊤` when it has none. -/
def nodeRank (v : String) : WithTop (ℕ ×ₗ ℕ ×ₗ ℕ) :=
  if HasSemver v then (parseSemver v).key else ⊤

theorem nodeRank_of_hasSemver {v : String} (h : HasSemver v) :
    nodeRank v = (parseSemver v).key := if_pos h

theorem nodeRank_of_not_hasSemver {v : String} (h : ¬ HasSemver v) : nodeRank v = ⊤ := if_neg h

theorem edge_iff (orders : FlowOrders) (operators : List OperatorInfo) (a b : String) :
    (buildUpgradeFlowData orders operators).Edge a b ↔
      ∃ op ∈ operators, currentVer op = a ∧ targetVer op = b := by
  unfold SankeyData.Edge
  constructor
  · rintro ⟨l, hl, rfl, rfl⟩
    obtain ⟨op, hop, rfl⟩ := (mem_links orders operators).mp hl
    exact ⟨op, hop, rfl, rfl⟩
  · rintro ⟨op, hop, rfl, rfl⟩
    exact ⟨_, (mem_links orders operators).mpr ⟨op, hop, rfl⟩, rfl, rfl⟩

/-- The version an operator runs, as a node, is the string itself. -/
theorem currentVer_of_hasSemver {op : OperatorInfo} (h : HasSemver op.version) :
    currentVer op = op.version := by
  refine if_neg fun hempty => ?_
  rw [hempty] at h
  exact absurd h (by decide)

/-- The target of a link is a sentinel, or it is newer than its source. -/
theorem nodeRank_lt {op : OperatorInfo} (hver : HasSemver op.version)
    (hup : op.canUpgrade = true →
      isVersionGreater (parseSemver op.targetVersion) (parseSemver op.version) = true) :
    nodeRank (currentVer op) < nodeRank (targetVer op) := by
  rw [currentVer_of_hasSemver hver, nodeRank_of_hasSemver hver]
  have hsentinel : ∀ s : String, ¬ HasSemver s →
      ((parseSemver op.version).key : WithTop (ℕ ×ₗ ℕ ×ₗ ℕ)) < nodeRank s := by
    intro s hs
    rw [nodeRank_of_not_hasSemver hs]
    exact WithTop.coe_lt_top _
  unfold targetVer targetNode
  split
  · exact hsentinel _ (by decide)
  · rename_i hcan
    have hgreater := hup (by simpa using hcan)
    split
    · exact hsentinel _ (by decide)
    · show _ < nodeRank (if op.targetVersion = "" then "Available" else op.targetVersion)
      split
      · exact hsentinel _ (by decide)
      · -- a target without a number parses to 0.0.0, which is newer than nothing
        have htarget : HasSemver op.targetVersion := by
          by_contra hno
          rw [parseSemver_of_not_hasSemver hno, isVersionGreater_zero] at hgreater
          cases hgreater
        rw [nodeRank_of_hasSemver htarget, WithTop.coe_lt_coe]
        exact (isVersionGreater_iff _ _).mp hgreater

/-- **The flow graph has no cycle**, when every upgrade leads to a newer version and every
    version has a number. -/
theorem upgradeFlow_acyclic (orders : FlowOrders) (operators : List OperatorInfo)
    (hup : ∀ op ∈ operators, op.canUpgrade = true →
      isVersionGreater (parseSemver op.targetVersion) (parseSemver op.version) = true)
    (hver : ∀ op ∈ operators, HasSemver op.version) :
    (buildUpgradeFlowData orders operators).Acyclic := by
  intro v hcycle
  have hedge : ∀ a b, (buildUpgradeFlowData orders operators).Edge a b →
      nodeRank a < nodeRank b := by
    intro a b hab
    obtain ⟨op, hop, rfl, rfl⟩ := (edge_iff orders operators a b).mp hab
    exact nodeRank_lt (hver op hop) (hup op hop)
  have hlt : Relation.TransGen (· < ·) (nodeRank v) (nodeRank v) := hcycle.lift nodeRank hedge
  rw [Relation.transGen_eq_self] at hlt
  exact lt_irrefl _ hlt

/-- A record with the given fields and every other one as the collector leaves it at first. -/
def flowRecord (name version targetVersion phase : String) (canUpgrade : Bool)
    (upgradeType : UpgradeType) : OperatorInfo where
  name := name
  package := name
  nameSpace := "openshift-operators"
  channel := "stable"
  installedCSV := name ++ ".v" ++ version
  version := version
  phase := phase
  targetVersion := targetVersion
  targetCSV := name ++ ".v" ++ targetVersion
  canUpgrade := canUpgrade
  upgradeType := upgradeType
  crds := []
  ocpBlocker := false
  ocpBlockerReason := "None"
  ocpNextSupported := true
  isIdle := false
  activeCRs := 0
  crdDiff := {}
  exposedRoutes := []
  approvalStrategy := "Automatic"
  catalogSource := "redhat-operators"
  serviceAccounts := []
  components := []
  topologyGraph := []
  estDowntime := "0m"
  riskScore := 0
  healthScore := 100
  cves := []
  cveCount := 0
  images := []

/-- Version 1.3.0 is the target of one operator and the source of another. -/
theorem upgradeFlow_acyclic_chain :
    (buildUpgradeFlowData ⟨.asStored, .asStored, fun _ => .asStored⟩
      [flowRecord "etcd" "1.2.0" "1.3.0" "Succeeded" true .minor,
        flowRecord "kiali" "1.3.0" "2.0.0" "Succeeded" true .major]).Acyclic :=
  upgradeFlow_acyclic _ _ (by decide) (by decide)

end HybridOperator.Collector
