/-
  `BuildDependencyGraphData` of collector.go.

  An operator is known by its name, or by its package when it has no name (`operatorID`); the
  namespace is no part of it. A node is made for every operator that has such an ID, and an edge
  for every two entries of one kind's list of providers, in the order of the list. The kinds are
  ranged over in any order (`RangeOrder`); an edge is left out when its text `a->b` came before.

  Proved:
  * `mem_edges`: an edge of the graph is the first of the shared edges with its text.
  * `sharesKind_iff`: two IDs have a shared edge exactly when records of theirs own one kind.
  * `graph_wellFormed_iff`: the nodes are distinct, one for each operator, and the edges are
    between them, exactly when all operators have IDs and the IDs are distinct.
-/
import HybridOperator.Collector.Governance
import HybridOperator.Lib.Dedup

namespace HybridOperator.Collector

open HybridOperator.Lib

structure DependencyNode where
  id : String
  label : String
  type : String
  group : String
  shape : String
  color : String
deriving DecidableEq

/-- `fromID` and `toID` are the fields `From` and `To`. -/
structure DependencyEdge where
  fromID : String
  toID : String
  label : String
  type : String
deriving DecidableEq

structure DependencyGraphData where
  nodes : List DependencyNode
  edges : List DependencyEdge
deriving DecidableEq

/-! ## The graph -/

/-- `opID`: the name, else the package. -/
def operatorID (op : OperatorInfo) : String := if op.name = "" then op.package else op.name

/-- The role and the color of an operator. -/
def operatorRole (op : OperatorInfo) : String × String :=
  let hasCRDs := op.crds.length > 0
  let hasActiveCRs := op.activeCRs > 0
  if hasCRDs ∧ hasActiveCRs then ("both", "#9333ea")
  else if hasCRDs then ("provider", "#3b82f6")
  else if hasActiveCRs then ("consumer", "#22c55e")
  else ("standalone", "#6b7280")

def operatorNode (op : OperatorInfo) : Option DependencyNode :=
  let opID := operatorID op
  if opID = "" then none
  else some ⟨opID, opID, "operator", (operatorRole op).1, "box", (operatorRole op).2⟩

def addProvider (opID : String) (crdToOperators : GoMap String (List String)) (crd : CRDInfo) :
    GoMap String (List String) :=
  crdToOperators.insert crd.kind (crdToOperators.get crd.kind [] ++ [opID])

def addOperator (crdToOperators : GoMap String (List String)) (op : OperatorInfo) :
    GoMap String (List String) :=
  if operatorID op = "" then crdToOperators
  else op.crds.foldl (addProvider (operatorID op)) crdToOperators

/-- The IDs that provide each kind. -/
def crdToOperators (operators : List OperatorInfo) : GoMap String (List String) :=
  operators.foldl addOperator ∅

/-- The pairs `i < j` of a list, in the order of the two loops. -/
def pairs {α : Type} : List α → List (α × α)
  | [] => []
  | a :: as => as.map (fun b => (a, b)) ++ pairs as

def sharedEdge (crdKind : String) (ends : String × String) : DependencyEdge :=
  ⟨ends.1, ends.2, crdKind ++ " (shared)", "shares"⟩

/-- The edges as the loops come to them. -/
def sharedEdges (order : RangeOrder String) (operators : List OperatorInfo) :
    List DependencyEdge :=
  ((crdToOperators operators).range order).flatMap fun crdKind =>
    (pairs ((crdToOperators operators).get crdKind [])).map (sharedEdge crdKind)

def DependencyEdge.key (e : DependencyEdge) : String := e.fromID ++ "->" ++ e.toID

def buildDependencyGraphData (order : RangeOrder String) (operators : List OperatorInfo) :
    DependencyGraphData where
  nodes := operators.filterMap operatorNode
  edges := Dedup.dedupBy DependencyEdge.key (sharedEdges order operators)

/-! ## Nodes -/

theorem operatorNode_of_ne {op : OperatorInfo} (h : operatorID op ≠ "") :
    operatorNode op = some ⟨operatorID op, operatorID op, "operator", (operatorRole op).1, "box",
      (operatorRole op).2⟩ :=
  if_neg h

theorem operatorNode_of_eq {op : OperatorInfo} (h : operatorID op = "") :
    operatorNode op = none :=
  if_pos h

/-- The IDs of the nodes are the IDs of the operators that have one. -/
theorem nodeIDs_eq (order : RangeOrder String) (operators : List OperatorInfo) :
    (buildDependencyGraphData order operators).nodes.map DependencyNode.id =
      (operators.map operatorID).filter (· ≠ "") := by
  unfold buildDependencyGraphData
  dsimp only
  induction operators with
  | nil => rfl
  | cons op operators ih =>
    rw [List.map_cons]
    by_cases h : operatorID op = ""
    · rw [List.filterMap_cons_none (operatorNode_of_eq h), ih,
        List.filter_cons_of_neg (by simpa using h)]
    · rw [List.filterMap_cons_some (operatorNode_of_ne h), List.map_cons, ih,
        List.filter_cons_of_pos (by simpa using h)]

theorem mem_nodeIDs {order : RangeOrder String} {operators : List OperatorInfo} {n : String} :
    n ∈ (buildDependencyGraphData order operators).nodes.map DependencyNode.id ↔
      (∃ op ∈ operators, operatorID op = n) ∧ n ≠ "" := by
  rw [nodeIDs_eq, List.mem_filter, List.mem_map, decide_eq_true_eq]

/-! ## Providers of a kind -/

/-- What an operator adds to the list of a kind. -/
def provides (op : OperatorInfo) (kind : String) : List String :=
  if operatorID op = "" then []
  else (op.crds.filter fun crd => crd.kind = kind).map fun _ => operatorID op

theorem mem_provides {op : OperatorInfo} {kind id : String} :
    id ∈ provides op kind ↔ operatorID op = id ∧ id ≠ "" ∧ ∃ crd ∈ op.crds, crd.kind = kind := by
  unfold provides
  by_cases h : operatorID op = ""
  · rw [if_pos h]
    constructor
    · exact fun hmem => absurd hmem List.not_mem_nil
    · rintro ⟨rfl, hne, -⟩
      exact absurd h hne
  · rw [if_neg h, List.mem_map]
    constructor
    · rintro ⟨crd, hcrd, rfl⟩
      rw [List.mem_filter, decide_eq_true_eq] at hcrd
      exact ⟨rfl, h, crd, hcrd⟩
    · rintro ⟨rfl, -, crd, hcrd, hkind⟩
      exact ⟨crd, List.mem_filter.mpr ⟨hcrd, decide_eq_true hkind⟩, rfl⟩

theorem get_foldl_addProvider (opID : String) (crds : List CRDInfo)
    (m : GoMap String (List String)) (kind : String) :
    (crds.foldl (addProvider opID) m).get kind [] =
      m.get kind [] ++ (crds.filter fun crd => crd.kind = kind).map fun _ => opID := by
  show (crds.foldl (fun m crd => m.insert crd.kind (m.get crd.kind [] ++ [opID])) m).get kind [] = _
  rw [GoMap.get_foldl_update CRDInfo.kind (fun ids _ => ids ++ [opID]),
    List.foldl_append_eq_append]
  simp

theorem get_addOperator (op : OperatorInfo) (m : GoMap String (List String)) (kind : String) :
    (addOperator m op).get kind [] = m.get kind [] ++ provides op kind := by
  unfold addOperator provides
  split
  · rw [List.append_nil]
  · exact get_foldl_addProvider _ _ _ _

/-- The list of a kind has what every operator adds to it, in order. -/
theorem get_crdToOperators (operators : List OperatorInfo) (kind : String) :
    (crdToOperators operators).get kind [] = operators.flatMap (provides · kind) := by
  have hfold : ∀ m : GoMap String (List String), (operators.foldl addOperator m).get kind [] =
      m.get kind [] ++ operators.flatMap (provides · kind) := by
    induction operators with
    | nil => simp
    | cons op operators ih =>
      intro m
      rw [List.foldl_cons, ih, get_addOperator, List.flatMap_cons, List.append_assoc]
  exact hfold ∅

theorem mem_keys_of_provided {operators : List OperatorInfo} {kind id : String}
    (h : id ∈ (crdToOperators operators).get kind []) : kind ∈ crdToOperators operators := by
  by_contra hnot
  rw [GoMap.get, AList.lookup_eq_none.mpr hnot] at h
  exact absurd h List.not_mem_nil

/-! ## Shared edges -/

theorem mem_of_mem_pairs {α : Type} {l : List α} {a b : α} (h : (a, b) ∈ pairs l) :
    a ∈ l ∧ b ∈ l := by
  induction l with
  | nil => exact absurd h List.not_mem_nil
  | cons c l ih =>
    rw [pairs, List.mem_append, List.mem_map] at h
    rcases h with ⟨d, hd, heq⟩ | h
    · obtain ⟨rfl, rfl⟩ := Prod.mk.inj heq
      exact ⟨List.mem_cons_self, List.mem_cons_of_mem _ hd⟩
    · exact ⟨List.mem_cons_of_mem _ (ih h).1, List.mem_cons_of_mem _ (ih h).2⟩

/-- A pair of two places is a sublist of length two. -/
theorem mem_pairs_iff {α : Type} {l : List α} {a b : α} :
    (a, b) ∈ pairs l ↔ List.Sublist [a, b] l := by
  induction l with
  | nil => simp [pairs]
  | cons c l ih =>
    rw [pairs, List.mem_append, List.mem_map, ih, List.cons_sublist_cons', or_comm]
    refine or_congr Iff.rfl ⟨?_, ?_⟩
    · rintro ⟨d, hd, heq⟩
      obtain ⟨rfl, rfl⟩ := Prod.mk.inj heq
      exact ⟨rfl, List.singleton_sublist.mpr hd⟩
    · rintro ⟨rfl, hb⟩
      exact ⟨b, List.singleton_sublist.mp hb, rfl⟩

/-- Two different elements make a pair, in the one order or the other. -/
theorem pair_of_mem {α : Type} {l : List α} {a b : α} (ha : a ∈ l) (hb : b ∈ l) (hne : a ≠ b) :
    (a, b) ∈ pairs l ∨ (b, a) ∈ pairs l := by
  induction l with
  | nil => exact absurd ha List.not_mem_nil
  | cons c l ih =>
    rw [pairs, List.mem_append, List.mem_append, List.mem_map, List.mem_map]
    rcases List.mem_cons.mp ha with rfl | ha'
    · have hb' : b ∈ l := (List.mem_cons.mp hb).resolve_left (Ne.symm hne)
      exact Or.inl (Or.inl ⟨b, hb', rfl⟩)
    · rcases List.mem_cons.mp hb with rfl | hb'
      · exact Or.inr (Or.inl ⟨a, ha', rfl⟩)
      · exact (ih ha' hb').imp Or.inr Or.inr

theorem mem_sharedEdges {order : RangeOrder String} {operators : List OperatorInfo}
    {e : DependencyEdge} :
    e ∈ sharedEdges order operators ↔ ∃ kind a b,
      (a, b) ∈ pairs ((crdToOperators operators).get kind []) ∧ sharedEdge kind (a, b) = e := by
  unfold sharedEdges
  rw [List.mem_flatMap]
  constructor
  · rintro ⟨kind, -, he⟩
    obtain ⟨⟨a, b⟩, hpair, rfl⟩ := List.mem_map.mp he
    exact ⟨kind, a, b, hpair, rfl⟩
  · rintro ⟨kind, a, b, hpair, rfl⟩
    refine ⟨kind, GoMap.mem_range.mpr ?_, List.mem_map_of_mem hpair⟩
    exact mem_keys_of_provided (mem_of_mem_pairs hpair).1

/-- An edge of the graph is the first of the shared edges with its text. -/
theorem mem_edges {order : RangeOrder String} {operators : List OperatorInfo}
    {e : DependencyEdge} :
    e ∈ (buildDependencyGraphData order operators).edges ↔
      (sharedEdges order operators).find? (fun f => f.key = e.key) = some e :=
  Dedup.mem_dedupBy DependencyEdge.key _ e

/-- Both ends of a shared edge are IDs of operators. -/
theorem ends_of_sharedEdge {order : RangeOrder String} {operators : List OperatorInfo}
    {e : DependencyEdge} (h : e ∈ sharedEdges order operators) :
    ((∃ op ∈ operators, operatorID op = e.fromID) ∧ e.fromID ≠ "") ∧
      (∃ op ∈ operators, operatorID op = e.toID) ∧ e.toID ≠ "" := by
  obtain ⟨kind, a, b, hpair, rfl⟩ := mem_sharedEdges.mp h
  have hprovided : ∀ id ∈ (crdToOperators operators).get kind [],
      (∃ op ∈ operators, operatorID op = id) ∧ id ≠ "" := by
    intro id hid
    rw [get_crdToOperators, List.mem_flatMap] at hid
    obtain ⟨op, hop, hid⟩ := hid
    obtain ⟨hID, hne, -⟩ := mem_provides.mp hid
    exact ⟨⟨op, hop, hID⟩, hne⟩
  exact ⟨hprovided a (mem_of_mem_pairs hpair).1, hprovided b (mem_of_mem_pairs hpair).2⟩

/-! ## The text of an edge -/

theorem append_arrow_inj {a b c d : List Char} (ha : ¬ ['-', '>'] <:+: a)
    (hc : ¬ ['-', '>'] <:+: c) (h : a ++ '-' :: '>' :: b = c ++ '-' :: '>' :: d) :
    a = c ∧ b = d := by
  -- an arrow in one of the two texts before the other one's would be an arrow in its ID
  have htail : ∀ {x : Char} {s : List Char}, ¬ ['-', '>'] <:+: x :: s → ¬ ['-', '>'] <:+: s :=
    fun hs hi => hs (hi.trans (List.suffix_cons _ _).isInfix)
  have hnone : ∀ {x : Char} {s t u : List Char}, ¬ ['-', '>'] <:+: x :: s →
      '-' :: '>' :: t ≠ x :: s ++ '-' :: '>' :: u := by
    intro x s t u hs heq
    obtain ⟨hx, hrest⟩ := List.cons.inj heq
    cases s with
    | nil => simp at hrest
    | cons y s =>
      obtain ⟨hy, -⟩ := List.cons.inj hrest
      exact hs ⟨[], s, by simp [← hx, ← hy]⟩
  induction a generalizing c with
  | nil =>
    cases c with
    | nil => exact ⟨rfl, by simpa using h⟩
    | cons x c => exact absurd h (hnone hc)
  | cons x a ih =>
    cases c with
    | nil => exact absurd h.symm (hnone ha)
    | cons z c =>
      obtain ⟨rfl, hrest⟩ := List.cons.inj h
      obtain ⟨rfl, rfl⟩ := ih (htail ha) (htail hc) hrest
      exact ⟨rfl, rfl⟩

/-- Texts `a->b` whose first parts have no arrow tell the ends apart. -/
theorem ends_eq_of_key {e f : DependencyEdge} (he : ¬ ['-', '>'] <:+: e.fromID.toList)
    (hf : ¬ ['-', '>'] <:+: f.fromID.toList) (h : e.key = f.key) :
    e.fromID = f.fromID ∧ e.toID = f.toID := by
  have hlists := congrArg String.toList h
  unfold DependencyEdge.key at hlists
  rw [String.toList_append, String.toList_append, String.toList_append, String.toList_append,
    List.append_assoc, List.append_assoc] at hlists
  obtain ⟨hfrom, hto⟩ := append_arrow_inj he hf hlists
  exact ⟨String.toList_inj.mp hfrom, String.toList_inj.mp hto⟩

/-! ## Related operators -/

/-- An edge between two IDs, in either direction. -/
def DependencyEdge.Joins (e : DependencyEdge) (a b : String) : Prop :=
  (e.fromID = a ∧ e.toID = b) ∨ (e.fromID = b ∧ e.toID = a)

/-- Records with these two IDs own CRDs of one kind. -/
def SharesKind (operators : List OperatorInfo) (a b : String) : Prop :=
  ∃ op ∈ operators, ∃ op' ∈ operators, operatorID op = a ∧ operatorID op' = b ∧
    ∃ crd ∈ op.crds, ∃ crd' ∈ op'.crds, crd.kind = crd'.kind

/-- Two different IDs have a shared edge exactly when they share a kind. -/
theorem sharesKind_iff (order : RangeOrder String) {operators : List OperatorInfo}
    {a b : String} (ha : a ≠ "") (hb : b ≠ "") (hne : a ≠ b) :
    (∃ e ∈ sharedEdges order operators, e.Joins a b) ↔ SharesKind operators a b := by
  have hmem : ∀ kind id, id ∈ (crdToOperators operators).get kind [] ↔
      ∃ op ∈ operators, operatorID op = id ∧ id ≠ "" ∧ ∃ crd ∈ op.crds, crd.kind = kind := by
    intro kind id
    rw [get_crdToOperators, List.mem_flatMap]
    exact exists_congr fun op => and_congr_right fun _ => mem_provides
  constructor
  · rintro ⟨e, he, hjoins⟩
    obtain ⟨kind, c, d, hpair, rfl⟩ := mem_sharedEdges.mp he
    obtain ⟨hc, hd⟩ := mem_of_mem_pairs hpair
    have hboth : a ∈ (crdToOperators operators).get kind [] ∧
        b ∈ (crdToOperators operators).get kind [] := by
      rcases hjoins with ⟨rfl, rfl⟩ | ⟨rfl, rfl⟩
      · exact ⟨hc, hd⟩
      · exact ⟨hd, hc⟩
    obtain ⟨op, hop, hID, -, crd, hcrd, hkind⟩ := (hmem kind a).mp hboth.1
    obtain ⟨op', hop', hID', -, crd', hcrd', hkind'⟩ := (hmem kind b).mp hboth.2
    exact ⟨op, hop, op', hop', hID, hID', crd, hcrd, crd', hcrd', hkind.trans hkind'.symm⟩
  · rintro ⟨op, hop, op', hop', hID, hID', crd, hcrd, crd', hcrd', hkind⟩
    have hpa := (hmem crd.kind a).mpr ⟨op, hop, hID, ha, crd, hcrd, rfl⟩
    have hpb := (hmem crd.kind b).mpr ⟨op', hop', hID', hb, crd', hcrd', hkind.symm⟩
    rcases pair_of_mem hpa hpb hne with hpair | hpair
    · exact ⟨_, mem_sharedEdges.mpr ⟨crd.kind, a, b, hpair, rfl⟩, Or.inl ⟨rfl, rfl⟩⟩
    · exact ⟨_, mem_sharedEdges.mpr ⟨crd.kind, b, a, hpair, rfl⟩, Or.inr ⟨rfl, rfl⟩⟩

/-! ## What the dashboard loads -/

/-- The nodes have distinct IDs, there is one for each operator, and the edges are between
    them. -/
structure GraphWellFormed (operators : List OperatorInfo) (graph : DependencyGraphData) :
    Prop where
  distinct : (graph.nodes.map DependencyNode.id).Nodup
  one_per_operator : List.Forall₂ (fun op node => node.id = operatorID op) operators graph.nodes
  edges : ∀ e ∈ graph.edges, e.fromID ∈ graph.nodes.map DependencyNode.id ∧
    e.toID ∈ graph.nodes.map DependencyNode.id

theorem edges_between_nodes (order : RangeOrder String) (operators : List OperatorInfo) :
    ∀ e ∈ (buildDependencyGraphData order operators).edges,
      e.fromID ∈ (buildDependencyGraphData order operators).nodes.map DependencyNode.id ∧
      e.toID ∈ (buildDependencyGraphData order operators).nodes.map DependencyNode.id := by
  intro e he
  have hshared := List.mem_of_find?_eq_some (mem_edges.mp he)
  obtain ⟨hfrom, hto⟩ := ends_of_sharedEdge hshared
  exact ⟨mem_nodeIDs.mpr hfrom, mem_nodeIDs.mpr hto⟩

/-- There is a node for each operator when all of them have IDs. -/
theorem forall₂_nodes (order : RangeOrder String) {operators : List OperatorInfo}
    (h : ∀ op ∈ operators, operatorID op ≠ "") :
    List.Forall₂ (fun op node => node.id = operatorID op) operators
      (buildDependencyGraphData order operators).nodes := by
  unfold buildDependencyGraphData
  dsimp only
  induction operators with
  | nil => exact List.Forall₂.nil
  | cons op operators ih =>
    rw [List.filterMap_cons_some (operatorNode_of_ne (h op List.mem_cons_self))]
    exact List.Forall₂.cons rfl (ih fun o ho => h o (List.mem_cons_of_mem op ho))

/-- The graph is what the dashboard can load exactly when every operator has an ID and no two
    have the same. -/
theorem graph_wellFormed_iff (order : RangeOrder String) (operators : List OperatorInfo) :
    GraphWellFormed operators (buildDependencyGraphData order operators) ↔
      (∀ op ∈ operators, operatorID op ≠ "") ∧ (operators.map operatorID).Nodup := by
  constructor
  · intro h
    have hlength := congrArg List.length (nodeIDs_eq order operators)
    rw [List.length_map, ← h.one_per_operator.length_eq, ← List.length_map (f := operatorID),
      eq_comm, List.length_filter_eq_length_iff] at hlength
    have hIDs : ∀ op ∈ operators, operatorID op ≠ "" := by
      intro op hop
      exact of_decide_eq_true (hlength _ (List.mem_map_of_mem hop))
    have hfilter : (operators.map operatorID).filter (· ≠ "") = operators.map operatorID := by
      refine List.filter_eq_self.mpr ?_
      exact hlength
    refine ⟨hIDs, ?_⟩
    have hdistinct := h.distinct
    rwa [nodeIDs_eq, hfilter] at hdistinct
  · rintro ⟨hIDs, hnodup⟩
    refine ⟨?_, forall₂_nodes order hIDs, edges_between_nodes order operators⟩
    rw [nodeIDs_eq]
    exact hnodup.filter _

/-- etcd is subscribed to in two namespaces. -/
def etcdTwice : List OperatorInfo :=
  [newOperator ⟨[metadata "team-a" "etcd"]⟩, newOperator ⟨[metadata "team-b" "etcd"]⟩]

/-- The records differ in their namespaces, and both nodes have the ID `etcd`. -/
theorem graph_repeats_node :
    (etcdTwice.map fun op => (op.nameSpace, op.name)).Nodup ∧
      (buildDependencyGraphData .asStored etcdTwice).nodes.map DependencyNode.id =
        ["etcd", "etcd"] ∧
      ¬ GraphWellFormed etcdTwice (buildDependencyGraphData .asStored etcdTwice) := by
  have hnodes : (buildDependencyGraphData .asStored etcdTwice).nodes.map DependencyNode.id =
      ["etcd", "etcd"] := rfl
  refine ⟨by decide, hnodes, fun h => ?_⟩
  have hdistinct := h.distinct
  rw [hnodes] at hdistinct
  exact absurd hdistinct (by decide)

end HybridOperator.Collector
