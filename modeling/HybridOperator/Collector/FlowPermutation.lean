/-
  What the order of the operators means for the upgrade flow.

  The pass counts and groups, which is the same in every order. Two things are decided by the
  operator that is met first: the category of a node (`category_eq`), as the source sets it only
  while it is empty, and the type of a link, which is that of the first operator of the flow.

  Proved, for every list, every permutation of it and all iteration orders (`OrderFree`):
  * the IDs and labels of the nodes are the same, and so are the links up to their type and the
    order of their operators;
  * the category of a node is that of the first operator that touches it, so it is the same for
    every permutation exactly when all operators that touch the node agree;
  * the type of a link is the same when it is no upgrade, or when all records with the name of
    one of its operators have one upgrade type.
-/
import HybridOperator.Collector.LinkTypes

namespace HybridOperator.Collector

open HybridOperator.Lib

/-- The node is the current version or the target of the operator. -/
def Touches (op : OperatorInfo) (v : String) : Prop := currentVer op = v ∨ targetVer op = v

instance (op : OperatorInfo) (v : String) : Decidable (Touches op v) :=
  inferInstanceAs (Decidable (_ ∨ _))

/-- The category an operator gives to a node it touches, if the node has none. -/
def touchCategory (op : OperatorInfo) (v : String) : String :=
  if currentVer op = v then "current" else (targetNode op).2

theorem touchCategory_ne_empty (op : OperatorInfo) (v : String) : touchCategory op v ≠ "" := by
  unfold touchCategory targetNode
  split_ifs <;> exact of_decide_eq_false rfl

/-! ## Categories -/

theorem get_setIfEmpty (m : GoMap String String) (k c v : String) :
    (setIfEmpty m k c).get v "" = if m.get v "" = "" ∧ v = k then c else m.get v "" := by
  unfold setIfEmpty
  by_cases hk : m.get k "" = ""
  · rw [if_pos hk, GoMap.get_insert]
    by_cases hv : v = k
    · rw [if_pos hv, if_pos ⟨hv ▸ hk, hv⟩]
    · rw [if_neg hv, if_neg fun h => hv h.2]
  · have hne : ¬ (m.get v "" = "" ∧ v = k) := fun ⟨hv, hvk⟩ => hk (hvk ▸ hv)
    rw [if_neg hk, if_neg hne]

/-- One operator decides about a node it touches, if no other one did before. -/
theorem get_trackFlow_categories (flows : UpgradeFlows) (op : OperatorInfo) (v : String) :
    (trackFlow flows op).nodeCategories.get v "" =
      if flows.nodeCategories.get v "" = "" ∧ Touches op v then touchCategory op v
      else flows.nodeCategories.get v "" := by
  have hcurrent := get_setIfEmpty flows.nodeCategories (currentVer op) "current" v
  rw [trackFlow, get_setIfEmpty]
  by_cases hempty : flows.nodeCategories.get v "" = ""
  · by_cases hcur : currentVer op = v
    · rw [if_pos ⟨hempty, hcur.symm⟩] at hcurrent
      have hset : ¬ ("current" = "" ∧ v = targetVer op) := fun h => absurd h.1 (by decide)
      rw [hcurrent, if_neg hset, if_pos ⟨hempty, Or.inl hcur⟩, touchCategory, if_pos hcur]
    · have hother : ¬ (flows.nodeCategories.get v "" = "" ∧ v = currentVer op) :=
        fun h => hcur h.2.symm
      rw [if_neg hother, hempty] at hcurrent
      rw [hcurrent, hempty]
      by_cases htar : targetVer op = v
      · rw [if_pos ⟨rfl, htar.symm⟩, if_pos ⟨rfl, Or.inr htar⟩, touchCategory, if_neg hcur]
      · have hnone : ¬ ("" = "" ∧ Touches op v) := fun h => h.2.elim hcur htar
        have htarget : ¬ ("" = "" ∧ v = targetVer op) := fun h => htar h.2.symm
        rw [if_neg htarget, if_neg hnone]
  · have hfull : ∀ p : Prop, ¬ (flows.nodeCategories.get v "" = "" ∧ p) := fun p h => hempty h.1
    rw [if_neg (hfull _)] at hcurrent
    rw [hcurrent, if_neg (hfull _), if_neg (hfull _)]

theorem get_foldl_categories (operators : List OperatorInfo) (flows : UpgradeFlows) (v : String) :
    (operators.foldl trackFlow flows).nodeCategories.get v "" =
      if flows.nodeCategories.get v "" = "" then
        ((operators.find? (Touches · v)).map (touchCategory · v)).getD ""
      else flows.nodeCategories.get v "" := by
  induction operators generalizing flows with
  | nil =>
    split
    · assumption
    · rfl
  | cons op rest ih =>
    rw [List.foldl_cons, ih, get_trackFlow_categories]
    by_cases hempty : flows.nodeCategories.get v "" = ""
    · by_cases htouch : Touches op v
      · simp [hempty, htouch, touchCategory_ne_empty]
      · simp [hempty, htouch]
    · simp [hempty]

/-- The category of a node is that of the first operator that touches it. -/
theorem category_eq (orders : FlowOrders) (operators : List OperatorInfo) {n : SankeyNode}
    (hn : n ∈ (buildUpgradeFlowData orders operators).nodes) :
    ∃ op, operators.find? (Touches · n.id) = some op ∧ n.category = touchCategory op n.id := by
  have hid := (mem_nodeIds orders operators).mp (List.mem_map_of_mem hn)
  obtain ⟨op₀, hop₀, htouch⟩ := hid
  rw [nodes_eq] at hn
  obtain ⟨v, -, rfl⟩ := List.mem_map.mp hn
  cases hfind : operators.find? (Touches · v) with
  | none =>
    have := List.find?_eq_none.mp hfind op₀ hop₀
    exact absurd (decide_eq_true htouch) this
  | some op =>
    refine ⟨op, hfind, ?_⟩
    show (operators.foldl trackFlow {}).nodeCategories.get v "" = _
    rw [get_foldl_categories, hfind]
    rfl

/-! ## Permutations -/

/-- The same link up to its type and the order of its operators. -/
def LinkAgrees (l l' : SankeyLink) : Prop :=
  l.source = l'.source ∧ l.target = l'.target ∧ l.value = l'.value ∧
    l.operators.Perm l'.operators

/-- The same node IDs with the same labels, and the same links up to `LinkAgrees`. -/
structure FlowAgrees (data data' : SankeyData) : Prop where
  nodes : ∀ id label, (∃ n ∈ data.nodes, n.id = id ∧ n.label = label) ↔
    ∃ n ∈ data'.nodes, n.id = id ∧ n.label = label
  links : ∀ l ∈ data.links, ∃ l' ∈ data'.links, LinkAgrees l l'
  links_back : ∀ l' ∈ data'.links, ∃ l ∈ data.links, LinkAgrees l l'

section Perm

variable {operators operators' : List OperatorInfo} (orders orders' : FlowOrders)

theorem exists_node_iff (id label : String) :
    (∃ n ∈ (buildUpgradeFlowData orders operators).nodes, n.id = id ∧ n.label = label) ↔
      (∃ op ∈ operators, Touches op id) ∧
        label = id ++ " (" ++ toString (degree operators id) ++ ")" := by
  have hcounts := (flowInv_flows operators).counts
  have hnodes := (flowInv_flows operators).nodes
  rw [nodes_eq]
  simp only [List.mem_map, GoMap.mem_range, hnodes]
  constructor
  · rintro ⟨_, ⟨v, hv, rfl⟩, rfl, rfl⟩
    exact ⟨hv, by rw [nodeOf, hcounts]⟩
  · rintro ⟨hv, rfl⟩
    exact ⟨_, ⟨id, hv, rfl⟩, rfl, by rw [nodeOf, hcounts]⟩

theorem linkAgrees_of_perm (hperm : operators'.Perm operators) (r : String × String) :
    LinkAgrees (linkOf operators r) (linkOf operators' r) := by
  have hops : ((onRoute operators r).map (·.name)).Perm ((onRoute operators' r).map (·.name)) :=
    ((hperm.filter _).map _).symm
  exact ⟨rfl, rfl, hops.length_eq, hops⟩

theorem flowAgrees_of_perm (hperm : operators'.Perm operators) :
    FlowAgrees (buildUpgradeFlowData orders operators)
      (buildUpgradeFlowData orders' operators') where
  nodes id label := by
    have hdegree : degree operators id = degree operators' id := by
      rw [degree, degree, hperm.countP_eq, hperm.countP_eq]
    rw [exists_node_iff, exists_node_iff, hdegree]
    simp only [hperm.mem_iff]
  links l hl := by
    obtain ⟨op, hop, rfl⟩ := (mem_links orders operators).mp hl
    exact ⟨_, (mem_links orders' operators').mpr ⟨op, hperm.mem_iff.mpr hop, rfl⟩,
      linkAgrees_of_perm hperm _⟩
  links_back l' hl' := by
    obtain ⟨op, hop, rfl⟩ := (mem_links orders' operators').mp hl'
    exact ⟨_, (mem_links orders operators).mpr ⟨op, hperm.mem_iff.mp hop, rfl⟩,
      linkAgrees_of_perm hperm _⟩

/-- All records with one of these names have one upgrade type. -/
def OneType (operators : List OperatorInfo) (names : List String) : Prop :=
  ∀ op ∈ operators, ∀ op' ∈ operators, op.name ∈ names → op'.name ∈ names →
    op.upgradeType = op'.upgradeType

/-- The record an upgrade link has its type from bears the name of one of its operators. -/
theorem exists_type_record {op : OperatorInfo} (hop : op ∈ operators)
    (hblocked : targetVer op ≠ "Blocked") (hdate : targetVer op ≠ "Up-to-Date") :
    ∃ found ∈ operators, found.name ∈ (linkOf operators (route op)).operators ∧
      (linkOf operators (route op)).type = GoStrings.toLower found.upgradeType.text := by
  obtain ⟨first, hmem, hhead, -⟩ := exists_head_onRoute hop
  obtain ⟨found, hfound⟩ := exists_firstNamed hmem
  have hname : found.name = first.name := by simpa using List.find?_some hfound
  refine ⟨found, List.mem_of_find?_eq_some hfound, ?_, type_linkOf hblocked hdate hhead hfound⟩
  rw [hname]
  exact List.mem_map_of_mem (List.mem_of_mem_head? hhead)

theorem type_of_blocked (operators : List OperatorInfo) {op : OperatorInfo}
    (h : targetVer op = "Blocked") : (linkOf operators (route op)).type = "blocked" :=
  if_pos h

theorem type_of_upToDate (operators : List OperatorInfo) {op : OperatorInfo}
    (h : targetVer op = "Up-to-Date") : (linkOf operators (route op)).type = "uptodate" := by
  have hne : (route op).2 ≠ "Blocked" := by
    intro hblocked
    rw [show (route op).2 = targetVer op from rfl, h] at hblocked
    exact absurd hblocked (by decide)
  exact (if_neg hne).trans (if_pos h)

theorem type_eq_of_perm (hperm : operators'.Perm operators) {l l' : SankeyLink}
    (hl : l ∈ (buildUpgradeFlowData orders operators).links)
    (hl' : l' ∈ (buildUpgradeFlowData orders' operators').links) (hsource : l.source = l'.source)
    (htarget : l.target = l'.target)
    (h : l.target = "Blocked" ∨ l.target = "Up-to-Date" ∨ OneType operators l.operators) :
    l.type = l'.type := by
  obtain ⟨op, hop, rfl⟩ := (mem_links orders operators).mp hl
  obtain ⟨op', hop', rfl⟩ := (mem_links orders' operators').mp hl'
  have hroute : route op = route op' := Prod.ext hsource htarget
  have htar : targetVer op = targetVer op' := htarget
  by_cases hblocked : targetVer op = "Blocked"
  · rw [type_of_blocked _ hblocked, type_of_blocked _ (htar ▸ hblocked)]
  · by_cases hdate : targetVer op = "Up-to-Date"
    · rw [type_of_upToDate _ hdate, type_of_upToDate _ (htar ▸ hdate)]
    · have hone : OneType operators (linkOf operators (route op)).operators :=
        (h.resolve_left hblocked).resolve_left hdate
      obtain ⟨found, hfound, hname, htype⟩ := exists_type_record hop hblocked hdate
      obtain ⟨found', hfound', hname', htype'⟩ :=
        exists_type_record hop' (htar ▸ hblocked) (htar ▸ hdate)
      have hops := (linkAgrees_of_perm hperm (route op)).2.2.2
      rw [← hroute] at hname'
      rw [htype, htype', hone found hfound found' (hperm.mem_iff.mp hfound') hname
        (hops.mem_iff.mpr hname')]

/-- An operator that comes first decides the category of a node it touches. -/
theorem exists_perm_category {op : OperatorInfo} (hop : op ∈ operators) {v : String}
    (htouch : Touches op v) :
    ∃ operators', operators'.Perm operators ∧
      ∃ n ∈ (buildUpgradeFlowData orders operators').nodes, n.id = v ∧
        n.category = touchCategory op v := by
  obtain ⟨before, after, rfl⟩ := List.append_of_mem hop
  refine ⟨op :: (before ++ after), List.perm_middle.symm, ?_⟩
  have hid := (mem_nodeIds orders (op :: (before ++ after))).mpr ⟨op, List.mem_cons_self, htouch⟩
  obtain ⟨n, hn, rfl⟩ := List.mem_map.mp hid
  obtain ⟨first, hfind, hcategory⟩ := category_eq orders _ hn
  have hhead : (op :: (before ++ after)).find? (Touches · n.id) = some op :=
    List.find?_cons_of_pos (decide_eq_true htouch)
  obtain rfl := Option.some.inj (hhead.symm.trans hfind)
  exact ⟨n, hn, rfl, hcategory⟩

/-- The category of a node is the same for every permutation exactly when all operators that
    touch it agree. -/
theorem category_perm_iff (v : String) :
    (∀ operators' : List OperatorInfo, operators'.Perm operators → ∀ orders orders',
        ∀ n ∈ (buildUpgradeFlowData orders operators).nodes,
        ∀ n' ∈ (buildUpgradeFlowData orders' operators').nodes,
          n.id = v → n'.id = v → n.category = n'.category) ↔
      ∀ op ∈ operators, ∀ op' ∈ operators, Touches op v → Touches op' v →
        touchCategory op v = touchCategory op' v := by
  constructor
  · intro h op hop op' hop' htouch htouch'
    let orders : FlowOrders := ⟨.asStored, .asStored, fun _ => .asStored⟩
    have hid := (mem_nodeIds orders operators).mpr ⟨op, hop, htouch⟩
    obtain ⟨n, hn, hnv⟩ := List.mem_map.mp hid
    obtain ⟨l, hl, m, hm, hmv, hmcat⟩ := exists_perm_category orders hop htouch
    obtain ⟨l', hl', m', hm', hmv', hmcat'⟩ := exists_perm_category orders hop' htouch'
    rw [← hmcat, ← hmcat', ← h l hl orders orders n hn m hm hnv hmv,
      ← h l' hl' orders orders n hn m' hm' hnv hmv']
  · intro h operators' hperm orders orders' n hn n' hn' hv hv'
    obtain ⟨op, hfind, hcategory⟩ := category_eq orders operators hn
    obtain ⟨op', hfind', hcategory'⟩ := category_eq orders' operators' hn'
    have htouch : Touches op v := by simpa [hv] using List.find?_some hfind
    have htouch' : Touches op' v := by simpa [hv'] using List.find?_some hfind'
    rw [hcategory, hcategory', hv, hv']
    exact h op (List.mem_of_find?_eq_some hfind) op'
      (hperm.mem_iff.mp (List.mem_of_find?_eq_some hfind')) htouch htouch'

end Perm

/-- What does not depend on the order of the operators, and what the first one decides. -/
structure OrderFree (operators : List OperatorInfo) : Prop where
  agrees : ∀ operators' : List OperatorInfo, operators'.Perm operators → ∀ orders orders',
    FlowAgrees (buildUpgradeFlowData orders operators) (buildUpgradeFlowData orders' operators')
  category_eq_first : ∀ orders, ∀ n ∈ (buildUpgradeFlowData orders operators).nodes,
    ∃ op, operators.find? (Touches · n.id) = some op ∧ n.category = touchCategory op n.id
  category_iff : ∀ v,
    (∀ operators' : List OperatorInfo, operators'.Perm operators → ∀ orders orders',
        ∀ n ∈ (buildUpgradeFlowData orders operators).nodes,
        ∀ n' ∈ (buildUpgradeFlowData orders' operators').nodes,
          n.id = v → n'.id = v → n.category = n'.category) ↔
      ∀ op ∈ operators, ∀ op' ∈ operators, Touches op v → Touches op' v →
        touchCategory op v = touchCategory op' v
  type_eq : ∀ operators' : List OperatorInfo, operators'.Perm operators → ∀ orders orders',
    ∀ l ∈ (buildUpgradeFlowData orders operators).links,
    ∀ l' ∈ (buildUpgradeFlowData orders' operators').links,
      l.source = l'.source → l.target = l'.target →
      l.target = "Blocked" ∨ l.target = "Up-to-Date" ∨ OneType operators l.operators →
      l.type = l'.type

/-- Every list of operators gives the same upgrade flow in every order, up to what the operator
    that is met first decides. -/
theorem upgradeFlow_orderFree (operators : List OperatorInfo) : OrderFree operators where
  agrees _ hperm orders orders' := flowAgrees_of_perm orders orders' hperm
  category_eq_first orders _ hn := category_eq orders operators hn
  category_iff v := category_perm_iff v
  type_eq _ hperm orders orders' _ hl _ hl' hs ht h :=
    type_eq_of_perm orders orders' hperm hl hl' hs ht h

/-- Version 1.3.0 is the target of etcd and the current version of kiali. Its category is
    `target` when etcd comes first and `current` when kiali does. -/
theorem category_depends_on_order :
    let etcd := flowRecord "etcd" "1.2.0" "1.3.0" "Succeeded" true .minor
    let kiali := flowRecord "kiali" "1.3.0" "2.0.0" "Succeeded" true .major
    let orders : FlowOrders := ⟨.asStored, .asStored, fun _ => .asStored⟩
    [kiali, etcd].Perm [etcd, kiali] ∧
      ⟨"1.3.0", "1.3.0 (2)", "target"⟩ ∈ (buildUpgradeFlowData orders [etcd, kiali]).nodes ∧
      ⟨"1.3.0", "1.3.0 (2)", "current"⟩ ∈ (buildUpgradeFlowData orders [kiali, etcd]).nodes ∧
      ⟨"1.3.0", "1.3.0 (2)", "target"⟩ ∉ (buildUpgradeFlowData orders [kiali, etcd]).nodes := by
  refine ⟨List.Perm.swap _ _ _, ?_, ?_, ?_⟩ <;> decide +kernel

end HybridOperator.Collector
