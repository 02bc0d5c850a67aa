/-
  The edges of the dependency graph against the relation they draw.

  Two operators are related when they own CRDs of one kind. The loop makes an edge for every two
  entries of a kind's list, and an operator stands in that list once for every CRD of the kind it
  owns. So an operator with one kind in two versions is related to itself.

  Proved:
  * `pairs_sublist`: when no operator owns a kind twice, the ends of every pair are in the order of
    the operators, so no pair comes in both directions.
  * `edge_ends_of_key`: the text of an edge gives its ends back when no ID has an arrow in it.
  * `linked_iff_related`: when moreover no operator without an ID is related to one that has an ID,
    two operators are joined exactly when they are related.
  * `edges_exact_iff`: the edges are exactly one for each two related operators if and only if
    no operator owns a kind twice, and an operator without an ID is related to none with one.
-/
import HybridOperator.Collector.DependencyGraph

namespace HybridOperator.Collector

open HybridOperator.Lib

/-- The operators own CRDs of one kind. -/
def OwnCommonKind (op op' : OperatorInfo) : Prop :=
  ∃ crd ∈ op.crds, ∃ crd' ∈ op'.crds, crd.kind = crd'.kind

instance (op op' : OperatorInfo) : Decidable (OwnCommonKind op op') :=
  inferInstanceAs (Decidable (∃ crd ∈ op.crds, ∃ crd' ∈ op'.crds, crd.kind = crd'.kind))

instance (e : DependencyEdge) (a b : String) : Decidable (e.Joins a b) :=
  inferInstanceAs (Decidable (_ ∨ _))

/-- Exactly one edge joins two operators with a common kind, none joins any other two or an
    operator with itself, and every edge is between operators. -/
structure ExactEdges (operators : List OperatorInfo) (edges : List DependencyEdge) : Prop where
  ends : ∀ e ∈ edges, (∃ op ∈ operators, operatorID op = e.fromID) ∧
    ∃ op ∈ operators, operatorID op = e.toID
  count : ∀ op ∈ operators, ∀ op' ∈ operators,
    edges.countP (fun e => e.Joins (operatorID op) (operatorID op')) =
      if operatorID op ≠ operatorID op' ∧ OwnCommonKind op op' then 1 else 0

/-- No operator with an ID owns two CRDs of one kind. -/
def OwnsKindsOnce (operators : List OperatorInfo) : Prop :=
  ∀ op ∈ operators, operatorID op ≠ "" → (op.crds.map (·.kind)).Nodup

/-- The operators without an ID own no kind that an operator with an ID owns. -/
def UnnamedAlone (operators : List OperatorInfo) : Prop :=
  ∀ op ∈ operators, operatorID op = "" → ∀ op' ∈ operators, operatorID op' ≠ "" →
    ¬ OwnCommonKind op op'

theorem ownCommonKind_comm {op op' : OperatorInfo} (h : OwnCommonKind op op') :
    OwnCommonKind op' op := by
  obtain ⟨crd, hcrd, crd', hcrd', hkind⟩ := h
  exact ⟨crd', hcrd', crd, hcrd, hkind.symm⟩

/-! ## The order of the ends -/

/-- In a list without repetitions one of two elements comes first. -/
theorem not_sublist_swap {α : Type} {l : List α} (hnd : l.Nodup) {a b : α}
    (h : List.Sublist [a, b] l) : ¬ List.Sublist [b, a] l := by
  induction l with
  | nil => exact fun hba => absurd (List.sublist_nil.mp hba) (List.cons_ne_nil _ _)
  | cons c l ih =>
    obtain ⟨hc, hnd⟩ := List.nodup_cons.mp hnd
    intro hba
    rw [List.cons_sublist_cons', List.singleton_sublist] at h hba
    rcases h with h | ⟨rfl, hb⟩
    · rcases hba with hba | ⟨rfl, -⟩
      · exact ih hnd h hba
      · exact hc (h.subset (by simp))
    · rcases hba with hba | ⟨rfl, ha⟩
      · exact hc (hba.subset (by simp))
      · exact hc ha

/-- An operator that owns a kind once stands in its list at most once. -/
theorem provides_sublist {op : OperatorInfo}
    (h : operatorID op ≠ "" → (op.crds.map (·.kind)).Nodup) (kind : String) :
    List.Sublist (provides op kind) [operatorID op] := by
  unfold provides
  split
  · exact List.nil_sublist _
  · rename_i hID
    have hnd : ((op.crds.filter fun crd => crd.kind = kind).map (·.kind)).Nodup :=
      (h hID).sublist (List.filter_sublist.map _)
    have hkind : ∀ crd ∈ op.crds.filter (fun crd => crd.kind = kind), crd.kind = kind :=
      fun crd hcrd => of_decide_eq_true (List.mem_filter.mp hcrd).2
    cases hcrds : op.crds.filter fun crd => crd.kind = kind with
    | nil => exact List.nil_sublist _
    | cons crd rest =>
      rw [hcrds] at hnd hkind
      cases rest with
      | nil => exact List.Sublist.refl _
      | cons crd' rest =>
        have heq : crd.kind = crd'.kind := (hkind crd (by simp)).trans (hkind crd' (by simp)).symm
        exact absurd (List.mem_cons.mpr (Or.inl heq)) (List.nodup_cons.mp hnd).1

/-- The list of a kind is in the order of the operators. -/
theorem providers_sublist {operators : List OperatorInfo} (h : OwnsKindsOnce operators)
    (kind : String) :
    List.Sublist ((crdToOperators operators).get kind []) (operators.map operatorID) := by
  rw [get_crdToOperators]
  induction operators with
  | nil => exact List.Sublist.refl _
  | cons op operators ih =>
    rw [List.flatMap_cons, List.map_cons]
    exact (provides_sublist (h op List.mem_cons_self) kind).append
      (ih fun o ho => h o (List.mem_cons_of_mem op ho))

/-- When no operator owns a kind twice, the ends of every pair are in the order of the
    operators. -/
theorem pairs_sublist {operators : List OperatorInfo} (h : OwnsKindsOnce operators)
    {kind a b : String}
    (hpair : (a, b) ∈ pairs ((crdToOperators operators).get kind [])) :
    List.Sublist [a, b] (operators.map operatorID) :=
  (mem_pairs_iff.mp hpair).trans (providers_sublist h kind)

/-- An operator that owns a kind twice makes a pair with itself. -/
theorem self_pair {operators : List OperatorInfo} {op : OperatorInfo} (hop : op ∈ operators)
    (hID : operatorID op ≠ "") (h : ¬ (op.crds.map (·.kind)).Nodup) :
    ∃ kind, (operatorID op, operatorID op) ∈ pairs ((crdToOperators operators).get kind []) := by
  rw [List.nodup_iff_sublist] at h
  push Not at h
  obtain ⟨kind, hkinds⟩ := h
  obtain ⟨crds, hcrds, hmap⟩ := List.sublist_map_iff.mp hkinds
  have hkind : ∀ crd ∈ crds, crd.kind = kind := by
    intro crd hcrd
    have hmem : crd.kind ∈ crds.map (·.kind) := List.mem_map_of_mem hcrd
    rw [← hmap] at hmem
    simpa using hmem
  have hfilter : crds.filter (fun crd => crd.kind = kind) = crds :=
    List.filter_eq_self.mpr fun crd hcrd => decide_eq_true (hkind crd hcrd)
  have hlength : crds.length = 2 := by
    rw [← List.length_map (f := (·.kind)), ← hmap]
    rfl
  have htwo : crds.map (fun _ => operatorID op) = [operatorID op, operatorID op] := by
    rw [List.map_const', hlength]
    rfl
  refine ⟨kind, mem_pairs_iff.mpr ?_⟩
  have hprovides : List.Sublist [operatorID op, operatorID op] (provides op kind) := by
    rw [provides, if_neg hID, ← htwo]
    have hsub := hcrds.filter fun crd => decide (crd.kind = kind)
    rw [hfilter] at hsub
    exact hsub.map _
  obtain ⟨before, after, rfl⟩ := List.append_of_mem hop
  rw [get_crdToOperators, List.flatMap_append, List.flatMap_cons]
  exact hprovides.trans ((List.sublist_append_left _ _).trans (List.sublist_append_right _ _))

/-! ## IDs without arrows -/

/-- No ID of an operator has an arrow in it. -/
def ArrowFree (operators : List OperatorInfo) : Prop :=
  ∀ op ∈ operators, GoStrings.contains (operatorID op) "->" = false

/-- The text of an edge gives its ends back. -/
theorem edge_ends_of_key {order : RangeOrder String} {operators : List OperatorInfo}
    (harrow : ArrowFree operators) {e f : DependencyEdge} (he : e ∈ sharedEdges order operators)
    (hf : f ∈ sharedEdges order operators) (h : e.key = f.key) :
    e.fromID = f.fromID ∧ e.toID = f.toID := by
  have hfree : ∀ g ∈ sharedEdges order operators, ¬ ['-', '>'] <:+: g.fromID.toList := by
    intro g hg
    obtain ⟨⟨⟨op, hop, hID⟩, -⟩, -⟩ := ends_of_sharedEdge hg
    rw [← hID]
    exact of_decide_eq_false (harrow op hop)
  exact ends_eq_of_key (hfree e he) (hfree f hf) h

/-! ## One edge for every two related operators -/

section Edges

variable {order : RangeOrder String} {operators : List OperatorInfo}

/-- The edges of the graph join the same IDs as the shared edges. -/
theorem linked_iff_shared (harrow : ArrowFree operators) {a b : String} :
    (∃ e ∈ (buildDependencyGraphData order operators).edges, e.Joins a b) ↔
      ∃ e ∈ sharedEdges order operators, e.Joins a b := by
  constructor
  · rintro ⟨e, he, hjoins⟩
    exact ⟨e, Dedup.mem_of_mem_dedupBy _ he, hjoins⟩
  · rintro ⟨e, he, hjoins⟩
    obtain ⟨f, hf, hkey⟩ := Dedup.exists_mem_dedupBy DependencyEdge.key he
    have hshared := Dedup.mem_of_mem_dedupBy _ hf
    obtain ⟨hfrom, hto⟩ := edge_ends_of_key harrow hshared he hkey
    refine ⟨f, hf, ?_⟩
    unfold DependencyEdge.Joins
    rw [hfrom, hto]
    exact hjoins

/-- An operator without an ID has no edge. -/
theorem ids_of_joins {e : DependencyEdge} (he : e ∈ sharedEdges order operators) {a b : String}
    (h : e.Joins a b) : a ≠ "" ∧ b ≠ "" := by
  obtain ⟨⟨-, hfrom⟩, -, hto⟩ := ends_of_sharedEdge he
  rcases h with ⟨rfl, rfl⟩ | ⟨rfl, rfl⟩
  · exact ⟨hfrom, hto⟩
  · exact ⟨hto, hfrom⟩

/-- With distinct IDs the records that share a kind are the operators themselves. -/
theorem sharesKind_iff_ownCommonKind (hIDs : (operators.map operatorID).Nodup)
    {op op' : OperatorInfo} (hop : op ∈ operators) (hop' : op' ∈ operators) :
    SharesKind operators (operatorID op) (operatorID op') ↔ OwnCommonKind op op' := by
  have hinj := List.inj_on_of_nodup_map hIDs
  constructor
  · rintro ⟨o, ho, o', ho', hID, hID', hcommon⟩
    rw [hinj ho hop hID, hinj ho' hop' hID'] at hcommon
    exact hcommon
  · exact fun hcommon => ⟨op, hop, op', hop', rfl, rfl, hcommon⟩

/-- When no operator owns a kind twice, a shared edge has its ends in the order of the
    operators. -/
theorem sublist_of_sharedEdge (h : OwnsKindsOnce operators) {e : DependencyEdge}
    (he : e ∈ sharedEdges order operators) :
    List.Sublist [e.fromID, e.toID] (operators.map operatorID) := by
  obtain ⟨kind, a, b, hpair, rfl⟩ := mem_sharedEdges.mp he
  exact pairs_sublist h hpair

/-- Then no edge goes from an operator to itself. -/
theorem ends_ne (hIDs : (operators.map operatorID).Nodup) (h : OwnsKindsOnce operators)
    {e : DependencyEdge} (he : e ∈ sharedEdges order operators) {a : String} : ¬ e.Joins a a := by
  have hsub := sublist_of_sharedEdge h he
  have hself : ¬ List.Sublist [a, a] (operators.map operatorID) := by
    intro haa
    exact not_sublist_swap hIDs haa haa
  rintro (⟨rfl, hto⟩ | ⟨rfl, hto⟩)
  · rw [hto] at hsub
    exact hself hsub
  · rw [hto] at hsub
    exact hself hsub

/-- And two edges that join the same IDs have the same direction. -/
theorem key_eq_of_joins (hIDs : (operators.map operatorID).Nodup) (h : OwnsKindsOnce operators)
    {e f : DependencyEdge} (he : e ∈ sharedEdges order operators)
    (hf : f ∈ sharedEdges order operators) {a b : String} (hejoins : e.Joins a b)
    (hfjoins : f.Joins a b) : e.key = f.key := by
  have hesub := sublist_of_sharedEdge h he
  have hfsub := sublist_of_sharedEdge h hf
  unfold DependencyEdge.key
  rcases hejoins with ⟨hea, heb⟩ | ⟨heb, hea⟩
  · rcases hfjoins with ⟨hfa, hfb⟩ | ⟨hfb, hfa⟩
    · rw [hea, heb, hfa, hfb]
    · rw [hea, heb] at hesub
      rw [hfa, hfb] at hfsub
      exact absurd hfsub (not_sublist_swap hIDs hesub)
  · rcases hfjoins with ⟨hfa, hfb⟩ | ⟨hfb, hfa⟩
    · rw [hea, heb] at hesub
      rw [hfa, hfb] at hfsub
      exact absurd hesub (not_sublist_swap hIDs hfsub)
    · rw [hea, heb, hfa, hfb]

/-- When no operator owns a kind twice, at most one edge joins two IDs. -/
theorem countP_joins_le (hIDs : (operators.map operatorID).Nodup) (h : OwnsKindsOnce operators)
    (a b : String) :
    (buildDependencyGraphData order operators).edges.countP (fun e => e.Joins a b) ≤ 1 := by
  refine Dedup.countP_le_one (Dedup.nodup_map_dedupBy DependencyEdge.key _) ?_
  intro e he f hf hejoins hfjoins
  exact key_eq_of_joins hIDs h (Dedup.mem_of_mem_dedupBy _ he) (Dedup.mem_of_mem_dedupBy _ hf)
    (of_decide_eq_true hejoins) (of_decide_eq_true hfjoins)

theorem countP_joins_pos {edges : List DependencyEdge} {a b : String} :
    0 < edges.countP (fun e => e.Joins a b) ↔ ∃ e ∈ edges, e.Joins a b := by
  rw [List.countP_pos_iff]
  simp only [decide_eq_true_eq]

/-- Two operators are joined exactly when they are related. -/
theorem linked_iff_related (hIDs : (operators.map operatorID).Nodup) (harrow : ArrowFree operators)
    (honce : OwnsKindsOnce operators) (halone : UnnamedAlone operators) {op op' : OperatorInfo}
    (hop : op ∈ operators) (hop' : op' ∈ operators) :
    (∃ e ∈ (buildDependencyGraphData order operators).edges,
      e.Joins (operatorID op) (operatorID op')) ↔
      operatorID op ≠ operatorID op' ∧ OwnCommonKind op op' := by
  rw [linked_iff_shared harrow]
  constructor
  · rintro ⟨e, he, hjoins⟩
    obtain ⟨hID, hID'⟩ := ids_of_joins he hjoins
    have hne : operatorID op ≠ operatorID op' := by
      intro heq
      rw [← heq] at hjoins
      exact ends_ne hIDs honce he hjoins
    refine ⟨hne, (sharesKind_iff_ownCommonKind hIDs hop hop').mp ?_⟩
    exact (sharesKind_iff order hID hID' hne).mp ⟨e, he, hjoins⟩
  · rintro ⟨hne, hcommon⟩
    have hID : operatorID op ≠ "" := by
      intro h
      exact halone op hop h op' hop' (fun h' => hne (h.trans h'.symm)) hcommon
    have hID' : operatorID op' ≠ "" := by
      intro h'
      exact halone op' hop' h' op hop (fun h => hne (h.trans h'.symm))
        (ownCommonKind_comm hcommon)
    refine (sharesKind_iff order hID hID' hne).mpr ?_
    exact (sharesKind_iff_ownCommonKind hIDs hop hop').mpr hcommon

/-- An operator that owns a kind twice has an edge to itself. -/
theorem ownsKindsOnce_of_exact (harrow : ArrowFree operators)
    (h : ExactEdges operators (buildDependencyGraphData order operators).edges) :
    OwnsKindsOnce operators := by
  intro op hop hID
  by_contra hkinds
  obtain ⟨kind, hpair⟩ := self_pair hop hID hkinds
  have hjoined : ∃ e ∈ (buildDependencyGraphData order operators).edges,
      e.Joins (operatorID op) (operatorID op) :=
    (linked_iff_shared harrow).mpr
      ⟨_, mem_sharedEdges.mpr ⟨kind, _, _, hpair, rfl⟩, Or.inl ⟨rfl, rfl⟩⟩
  have hcount := h.count op hop op hop
  rw [if_neg fun hrelated => hrelated.1 rfl] at hcount
  exact absurd hcount (countP_joins_pos.mpr hjoined).ne'

/-- An operator without an ID that is related to another one would need an edge, which it never
    has. -/
theorem unnamedAlone_of_exact
    (h : ExactEdges operators (buildDependencyGraphData order operators).edges) :
    UnnamedAlone operators := by
  intro op hop hID op' hop' hID' hcommon
  have hne : operatorID op ≠ operatorID op' := by
    rw [hID]
    exact hID'.symm
  have hcount := h.count op hop op' hop'
  rw [if_pos ⟨hne, hcommon⟩] at hcount
  obtain ⟨e, he, hjoins⟩ := countP_joins_pos.mp (by rw [hcount]; exact Nat.one_pos)
  exact (ids_of_joins (Dedup.mem_of_mem_dedupBy _ he) hjoins).1 hID

end Edges

/-- The edges are exactly one for each two related operators if and only if no operator owns a
    kind twice and the operators without an ID are not related to the others. -/
theorem edges_exact_iff (order : RangeOrder String) {operators : List OperatorInfo}
    (hIDs : (operators.map operatorID).Nodup) (harrow : ArrowFree operators) :
    ExactEdges operators (buildDependencyGraphData order operators).edges ↔
      OwnsKindsOnce operators ∧ UnnamedAlone operators := by
  constructor
  · exact fun h => ⟨ownsKindsOnce_of_exact harrow h, unnamedAlone_of_exact h⟩
  · rintro ⟨honce, halone⟩
    refine ⟨?_, ?_⟩
    · intro e he
      obtain ⟨⟨hfrom, -⟩, hto, -⟩ := ends_of_sharedEdge (Dedup.mem_of_mem_dedupBy _ he)
      exact ⟨hfrom, hto⟩
    · intro op hop op' hop'
      have hle : (buildDependencyGraphData order operators).edges.countP
          (fun e => e.Joins (operatorID op) (operatorID op')) ≤ 1 :=
        countP_joins_le hIDs honce _ _
      have hrelated : 0 < (buildDependencyGraphData order operators).edges.countP
          (fun e => e.Joins (operatorID op) (operatorID op')) ↔
          operatorID op ≠ operatorID op' ∧ OwnCommonKind op op' :=
        countP_joins_pos.trans (linked_iff_related hIDs harrow honce halone hop hop')
      split
      · rename_i h
        exact Nat.le_antisymm hle (hrelated.mpr h)
      · rename_i h
        exact Nat.eq_zero_of_not_pos fun hpos => h (hrelated.mp hpos)

/-! ### One kind in two versions -/

def ownedCluster (version : String) : CRDInfo :=
  ⟨"etcdclusters.etcd.io", "EtcdCluster", version, "", "", 0⟩

/-- etcd owns `EtcdCluster` in two versions, and so does the backup operator in one. -/
def etcdTwoVersions : List OperatorInfo :=
  [{ newOperator ⟨[metadata "team-a" "etcd"]⟩ with
      crds := [ownedCluster "v1", ownedCluster "v1beta1"] },
    { newOperator ⟨[metadata "team-a" "backup"]⟩ with crds := [ownedCluster "v1"] }]

/-- The graph has an edge from etcd to itself. -/
theorem etcd_joined_to_itself :
    (etcdTwoVersions.map operatorID).Nodup ∧ ArrowFree etcdTwoVersions ∧
      (buildDependencyGraphData .asStored etcdTwoVersions).edges =
        [sharedEdge "EtcdCluster" ("etcd", "etcd"), sharedEdge "EtcdCluster" ("etcd", "backup")] ∧
      ¬ ExactEdges etcdTwoVersions (buildDependencyGraphData .asStored etcdTwoVersions).edges := by
  have hedges : (buildDependencyGraphData .asStored etcdTwoVersions).edges =
      [sharedEdge "EtcdCluster" ("etcd", "etcd"), sharedEdge "EtcdCluster" ("etcd", "backup")] := by
    decide
  refine ⟨by decide, ?_, hedges, fun h => ?_⟩
  · unfold ArrowFree
    decide
  · have hcount := h.count _ List.mem_cons_self _ List.mem_cons_self
    rw [hedges] at hcount
    exact absurd hcount (by decide)

/-- When etcd owns it in one version only, the edge to the backup operator is the only one. -/
theorem edges_exact_iff_one_version :
    let operators := etcdTwoVersions.map fun op => { op with crds := op.crds.take 1 }
    ExactEdges operators (buildDependencyGraphData .asStored operators).edges :=
  (edges_exact_iff .asStored (by decide) (by unfold ArrowFree; decide)).mpr
    ⟨by unfold OwnsKindsOnce; decide, by unfold UnnamedAlone; decide⟩

end HybridOperator.Collector
