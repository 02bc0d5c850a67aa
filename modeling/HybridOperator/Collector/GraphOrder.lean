/-
  The dependency graph against the order in which Go ranges over the kinds.

  An edge is left out when its text `a->b` came before, and the kept one is labelled with its
  kind. So when two kinds give edges of one text, the label is that of the kind ranged over
  first, and two requests for the same operators may be answered with different labels.

  Proved:
  * `drawsEdge_iff`: the edges of a kind are between any two of its owners, in order.
  * `graph_orderFree_iff`: the nodes and edges are the same for all orders if and only if no two
    kinds give edges of one text.
-/
import HybridOperator.Collector.DependencyGraph

namespace HybridOperator.Collector

open HybridOperator.Lib

/-- Every CRD of an operator with an ID: the ID and the kind, in order. -/
def ownerships (operators : List OperatorInfo) : List (String × String) :=
  operators.flatMap fun op =>
    if operatorID op = "" then [] else op.crds.map fun crd => (operatorID op, crd.kind)

/-- Two owners of a kind, the second after the first, give an edge with this text. -/
def DrawsEdge (operators : List OperatorInfo) (kind text : String) : Prop :=
  ∃ a b, List.Sublist [(a, kind), (b, kind)] (ownerships operators) ∧ a ++ "->" ++ b = text

/-- No two kinds give edges of one text. -/
def OneKindPerEdge (operators : List OperatorInfo) : Prop :=
  ∀ kind kind' text, DrawsEdge operators kind text → DrawsEdge operators kind' text →
    kind = kind'

/-- The same nodes and the same edges, with their labels. -/
structure SameGraph (graph graph' : DependencyGraphData) : Prop where
  nodes : ∀ n, n ∈ graph.nodes ↔ n ∈ graph'.nodes
  edges : ∀ e, e ∈ graph.edges ↔ e ∈ graph'.edges

/-! ## The edges of one kind -/

/-- The edges that the loop comes to for a kind. -/
def kindEdges (operators : List OperatorInfo) (kind : String) : List DependencyEdge :=
  (pairs ((crdToOperators operators).get kind [])).map (sharedEdge kind)

theorem get_crdToOperators_eq_owners (operators : List OperatorInfo) (kind : String) :
    (crdToOperators operators).get kind [] =
      ((ownerships operators).filter fun o => o.2 = kind).map Prod.fst := by
  rw [get_crdToOperators]
  unfold ownerships
  rw [List.filter_flatMap, List.map_flatMap]
  refine List.flatMap_congr fun op _ => ?_
  unfold provides
  split
  · rfl
  · rw [List.filter_map, List.map_map]
    rfl

/-- The owners of a kind, in order, are a part of all entries. -/
theorem sublist_owners_iff {owners : List (String × String)} {kind a b : String} :
    List.Sublist [a, b] ((owners.filter fun o => o.2 = kind).map Prod.fst) ↔
      List.Sublist [(a, kind), (b, kind)] owners := by
  constructor
  · intro h
    obtain ⟨entries, hsub, hmap⟩ := List.sublist_map_iff.mp h
    have hentries : entries = [(a, kind), (b, kind)] := by
      have hkind : ∀ o ∈ entries, (o.1, kind) = o := by
        intro o ho
        have hmem := List.mem_filter.mp (hsub.subset ho)
        exact Prod.ext rfl (of_decide_eq_true hmem.2).symm
      calc entries = entries.map fun o => (o.1, kind) := by
            rw [List.map_congr_left hkind, List.map_id']
        _ = (entries.map Prod.fst).map fun id => (id, kind) := by rw [List.map_map]; rfl
        _ = [(a, kind), (b, kind)] := by rw [← hmap]; rfl
    rw [← hentries]
    exact hsub.trans List.filter_sublist
  · intro h
    have hfilter := h.filter fun o => decide (o.2 = kind)
    rw [List.filter_cons_of_pos (by simp), List.filter_cons_of_pos (by simp)] at hfilter
    exact hfilter.map Prod.fst

theorem drawsEdge_iff {operators : List OperatorInfo} {kind text : String} :
    DrawsEdge operators kind text ↔ ∃ e ∈ kindEdges operators kind, e.key = text := by
  have hpairs : ∀ a b, (a, b) ∈ pairs ((crdToOperators operators).get kind []) ↔
      List.Sublist [(a, kind), (b, kind)] (ownerships operators) := by
    intro a b
    rw [mem_pairs_iff, get_crdToOperators_eq_owners, sublist_owners_iff]
  unfold DrawsEdge kindEdges
  constructor
  · rintro ⟨a, b, hsub, htext⟩
    exact ⟨_, List.mem_map_of_mem ((hpairs a b).mpr hsub), htext⟩
  · rintro ⟨e, he, htext⟩
    obtain ⟨⟨a, b⟩, hpair, rfl⟩ := List.mem_map.mp he
    exact ⟨a, b, (hpairs a b).mp hpair, htext⟩

theorem label_of_kindEdge {operators : List OperatorInfo} {kind : String} {e : DependencyEdge}
    (h : e ∈ kindEdges operators kind) : e.label = kind ++ " (shared)" := by
  obtain ⟨ends, -, rfl⟩ := List.mem_map.mp h
  rfl

/-- A kind with edges is a key of the map. -/
theorem mem_keys_of_kindEdge {operators : List OperatorInfo} {kind : String} {e : DependencyEdge}
    (h : e ∈ kindEdges operators kind) : kind ∈ (crdToOperators operators).keys := by
  obtain ⟨⟨a, b⟩, hpair, -⟩ := List.mem_map.mp h
  exact mem_keys_of_provided (mem_of_mem_pairs hpair).1

/-! ## Two orders -/

/-- The kind that is ranged over first has all its texts labelled with it. -/
theorem mem_edges_first {operators : List OperatorInfo} {kind : String} {e : DependencyEdge}
    (h : e ∈ Dedup.dedupBy DependencyEdge.key (kindEdges operators kind)) :
    e ∈ (buildDependencyGraphData (.first kind) operators).edges := by
  have hkey := mem_keys_of_kindEdge (Dedup.mem_of_mem_dedupBy _ h)
  show e ∈ Dedup.dedupBy DependencyEdge.key
    (((crdToOperators operators).range (.first kind)).flatMap (kindEdges operators))
  rw [GoMap.range, RangeOrder.order_first hkey, List.flatMap_cons]
  exact Dedup.mem_dedupBy_append_left _ h _

/-- When no text comes from two kinds, an edge is kept when it is the first of its own kind. -/
theorem mem_edges_of_oneKind {order : RangeOrder String} {operators : List OperatorInfo}
    (h : OneKindPerEdge operators) {e : DependencyEdge} :
    e ∈ (buildDependencyGraphData order operators).edges ↔
      ∃ kind ∈ (crdToOperators operators).keys,
        e ∈ Dedup.dedupBy DependencyEdge.key (kindEdges operators kind) := by
  show e ∈ Dedup.dedupBy DependencyEdge.key
    (((crdToOperators operators).range order).flatMap (kindEdges operators)) ↔ _
  rw [Dedup.mem_dedupBy_flatMap]
  · exact exists_congr fun kind => and_congr_left fun _ => GoMap.mem_range
  · intro kind _ kind' _ f hf g hg hkey
    exact h kind kind' g.key (drawsEdge_iff.mpr ⟨f, hf, hkey⟩) (drawsEdge_iff.mpr ⟨g, hg, rfl⟩)

/-- The graph is the same for all orders exactly when no two kinds give edges of one text. -/
theorem graph_orderFree_iff (operators : List OperatorInfo) :
    (∀ order order', SameGraph (buildDependencyGraphData order operators)
      (buildDependencyGraphData order' operators)) ↔ OneKindPerEdge operators := by
  constructor
  · intro h kind kind' text hdraws hdraws'
    obtain ⟨e, he, htext⟩ := drawsEdge_iff.mp hdraws
    obtain ⟨e', he', htext'⟩ := drawsEdge_iff.mp hdraws'
    obtain ⟨f, hf, hkey⟩ := Dedup.exists_mem_dedupBy DependencyEdge.key he
    obtain ⟨f', hf', hkey'⟩ := Dedup.exists_mem_dedupBy DependencyEdge.key he'
    -- with `kind` first the edge is `f`, with `kind'` first it is `f'`
    have hmem := ((h (.first kind) (.first kind')).edges f).mp (mem_edges_first hf)
    have heq : f = f' :=
      List.inj_on_of_nodup_map (Dedup.nodup_map_dedupBy _ _) hmem (mem_edges_first hf')
        (by rw [hkey, htext, hkey', htext'])
    have hlabel := label_of_kindEdge (Dedup.mem_of_mem_dedupBy _ hf)
    rw [heq, label_of_kindEdge (Dedup.mem_of_mem_dedupBy _ hf')] at hlabel
    exact (String.append_left_inj _).mp hlabel.symm
  · intro h order order'
    refine ⟨fun _ => Iff.rfl, fun e => ?_⟩
    rw [mem_edges_of_oneKind h, mem_edges_of_oneKind h]

/-! ### Two kinds of two operators -/

def ownedKind (kind : String) : CRDInfo := ⟨kind, kind, "v1", "", "", 0⟩

/-- etcd and its backup operator both own `EtcdCluster` and `EtcdBackup`. -/
def etcdTwoKinds : List OperatorInfo :=
  [{ newOperator ⟨[metadata "team-a" "etcd"]⟩ with
      crds := [ownedKind "EtcdCluster", ownedKind "EtcdBackup"] },
    { newOperator ⟨[metadata "team-a" "backup"]⟩ with
      crds := [ownedKind "EtcdCluster", ownedKind "EtcdBackup"] }]

/-- The one edge is labelled with the kind that is ranged over first. -/
theorem label_depends_on_order :
    (etcdTwoKinds.map operatorID).Nodup ∧
      (buildDependencyGraphData (.first "EtcdCluster") etcdTwoKinds).edges =
        [⟨"etcd", "backup", "EtcdCluster (shared)", "shares"⟩] ∧
      (buildDependencyGraphData (.first "EtcdBackup") etcdTwoKinds).edges =
        [⟨"etcd", "backup", "EtcdBackup (shared)", "shares"⟩] ∧
      ¬ SameGraph (buildDependencyGraphData (.first "EtcdCluster") etcdTwoKinds)
        (buildDependencyGraphData (.first "EtcdBackup") etcdTwoKinds) := by
  have hcluster : (buildDependencyGraphData (.first "EtcdCluster") etcdTwoKinds).edges =
      [⟨"etcd", "backup", "EtcdCluster (shared)", "shares"⟩] := by decide
  have hbackup : (buildDependencyGraphData (.first "EtcdBackup") etcdTwoKinds).edges =
      [⟨"etcd", "backup", "EtcdBackup (shared)", "shares"⟩] := by decide
  refine ⟨by decide, hcluster, hbackup, fun h => ?_⟩
  have hedge := (h.edges ⟨"etcd", "backup", "EtcdCluster (shared)", "shares"⟩).mp
  rw [hcluster, hbackup] at hedge
  exact absurd (hedge List.mem_cons_self) (by decide)

end HybridOperator.Collector
