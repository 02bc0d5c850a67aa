/-
  The topology dialog: `openTopologyModal` and `buildTopologyHTML` of static/app.js, on the nodes
  that the collector's `BuildDependencyGraph` makes.

  `buildTopologyHTML` calls itself for the children of a node, which are IDs that it looks up
  again in the whole list. `fuel` is the depth of the calls, and `none` a call that goes deeper.
  The result is the blocks of the HTML in the order of the document, each with the depth at
  which it is nested.

  The IDs start with `crd-`, `csv-` and `sub-`, so every look-up is of its own sort of node and
  the calls go three deep. A CRD's ID is its kind: CRDs of one kind are all looked up as the
  first of them.

  Proved: `topology_renders_once_iff`: the dialog is rendered, and its blocks are those of the
  nodes, each once, exactly when owned CRDs of one kind have the same number of instances.
-/
import HybridOperator.Collector.Governance

namespace HybridOperator.Dashboard

open HybridOperator.Lib HybridOperator.Collector

/-! ## The renderer -/

/-- What is shown of a node. -/
structure Card where
  type : String
  typeColor : String
  borderCol : String
  name : String
  status : String
deriving DecidableEq

structure Block where
  depth : Nat
  card : Card
deriving DecidableEq

def colors (type : String) : String × String :=
  if type = "CRD" then ("text-emerald-400", "border-emerald-800")
  else if type = "CSV" then ("text-blue-400", "border-blue-800")
  else if type = "Subscription" then ("text-purple-400", "border-purple-800")
  else ("text-gray-400", "border-gray-800")

def cardOf (node : TopologyNode) : Card :=
  ⟨node.type, (colors node.type).1, (colors node.type).2, node.name, node.status⟩

def buildTopologyHTML (nodes : List TopologyNode) : Nat → String → Nat → Option (List Block)
  | 0, _, _ => none
  | fuel + 1, nodeId, depth =>
      match nodes.find? fun n => n.id = nodeId with
      | none => some []
      | some node =>
          (node.children.mapM fun cid => buildTopologyHTML nodes fuel cid (depth + 1)).map
            fun childrenHtml => ⟨depth, cardOf node⟩ :: childrenHtml.flatten

/-- The container of the dialog, with `none` in it for the text that no graph is available. -/
def openTopologyModal (fuel : Nat) (topologyGraph : List TopologyNode) :
    Option (Option (List Block)) :=
  match topologyGraph.find? fun n => n.type = "Subscription" with
  | none => some none
  | some rootNode => (buildTopologyHTML topologyGraph fuel rootNode.id 0).map some

/-! ## The nodes of an operator -/

def crdNode (crd : CRDInfo) : TopologyNode :=
  ⟨"crd-" ++ crd.kind, "CRD", crd.kind, toString crd.activeCount ++ " Active CRs", []⟩

def csvNode (op : OperatorInfo) : TopologyNode :=
  ⟨"csv-" ++ op.installedCSV, "CSV", op.installedCSV, op.phase,
    op.crds.map fun crd => "crd-" ++ crd.kind⟩

def subNode (op : OperatorInfo) : TopologyNode :=
  ⟨"sub-" ++ op.name, "Subscription", op.name, op.phase, ["csv-" ++ op.installedCSV]⟩

theorem buildDependencyGraph_eq (op : OperatorInfo) :
    buildDependencyGraph op = op.crds.map crdNode ++ [csvNode op, subNode op] := by
  unfold buildDependencyGraph csvNode
  simp only [List.map_map]
  rfl

/-! ## Looking nodes up -/

theorem tagged_ne {p q : String} (hlength : p.toList.length = q.toList.length) (hne : p ≠ q)
    (s t : String) : p ++ s ≠ q ++ t := by
  intro h
  have hl := congrArg String.toList h
  rw [String.toList_append, String.toList_append] at hl
  exact hne (String.toList_inj.mp (List.append_inj_left hl hlength))

theorem find_crds_of_ne (op : OperatorInfo) {nodeId : String}
    (h : ∀ kind, "crd-" ++ kind ≠ nodeId) :
    (op.crds.map crdNode).find? (fun n => n.id = nodeId) = none := by
  rw [List.find?_eq_none]
  intro node hnode
  obtain ⟨crd, -, rfl⟩ := List.mem_map.mp hnode
  simpa [crdNode] using h crd.kind

theorem find_csv (op : OperatorInfo) :
    (buildDependencyGraph op).find? (fun n => n.id = "csv-" ++ op.installedCSV) =
      some (csvNode op) := by
  have hne : ∀ kind, "crd-" ++ kind ≠ "csv-" ++ op.installedCSV :=
    fun kind => tagged_ne (by decide) (by decide) kind op.installedCSV
  rw [buildDependencyGraph_eq, List.find?_append, find_crds_of_ne op hne, Option.none_or]
  exact List.find?_cons_of_pos (by simp [csvNode])

theorem find_sub (op : OperatorInfo) :
    (buildDependencyGraph op).find? (fun n => n.id = "sub-" ++ op.name) = some (subNode op) := by
  have hne : ∀ kind, "crd-" ++ kind ≠ "sub-" ++ op.name :=
    fun kind => tagged_ne (by decide) (by decide) kind op.name
  have hcsv : (csvNode op).id ≠ "sub-" ++ op.name :=
    tagged_ne (by decide) (by decide) op.installedCSV op.name
  rw [buildDependencyGraph_eq, List.find?_append, find_crds_of_ne op hne, Option.none_or,
    List.find?_cons_of_neg (by simpa using hcsv)]
  exact List.find?_cons_of_pos (by simp [subNode])

/-- The first owned CRD of a kind. -/
def firstOfKind (op : OperatorInfo) (kind : String) : Option CRDInfo :=
  op.crds.find? fun crd => crd.kind = kind

theorem firstOfKind_kind {op : OperatorInfo} {kind : String} {crd : CRDInfo}
    (h : firstOfKind op kind = some crd) : crd.kind = kind := by
  simpa using List.find?_some h

theorem firstOfKind_isSome {op : OperatorInfo} {crd : CRDInfo} (h : crd ∈ op.crds) :
    ∃ first, firstOfKind op crd.kind = some first := by
  cases hfind : firstOfKind op crd.kind with
  | none =>
    have hnone := List.find?_eq_none.mp hfind crd h
    simp at hnone
  | some first => exact ⟨first, rfl⟩

/-- A CRD's ID is looked up as the first CRD of its kind. -/
theorem find_crd {op : OperatorInfo} {kind : String} {first : CRDInfo}
    (h : firstOfKind op kind = some first) :
    (buildDependencyGraph op).find? (fun n => n.id = "crd-" ++ kind) = some (crdNode first) := by
  have hid : ((fun n : TopologyNode => decide (n.id = "crd-" ++ kind)) ∘ crdNode) =
      fun crd => decide (crd.kind = kind) := by
    funext crd
    have hiff : "crd-" ++ crd.kind = "crd-" ++ kind ↔ crd.kind = kind :=
      ⟨GoStrings.append_left_cancel, fun h => by rw [h]⟩
    exact decide_eq_decide.mpr hiff
  unfold firstOfKind at h
  rw [buildDependencyGraph_eq, List.find?_append, List.find?_map, hid, h]
  rfl

/-! ## Rendering -/

theorem mapM_some {α β : Type} {f : α → Option β} {g : α → β} {as : List α}
    (h : ∀ a ∈ as, f a = some (g a)) : as.mapM f = some (as.map g) := by
  induction as with
  | nil => rfl
  | cons a as ih =>
    rw [List.mapM_cons, h a List.mem_cons_self, ih fun b hb => h b (List.mem_cons_of_mem a hb)]
    rfl

/-- The block that is rendered for an owned CRD. -/
def crdBlock (op : OperatorInfo) (crd : CRDInfo) : Block :=
  ⟨2, cardOf (crdNode ((firstOfKind op crd.kind).getD crd))⟩

theorem render_crd {op : OperatorInfo} {crd : CRDInfo} (h : crd ∈ op.crds) (fuel : Nat) :
    buildTopologyHTML (buildDependencyGraph op) (fuel + 1) ("crd-" ++ crd.kind) 2 =
      some [crdBlock op crd] := by
  obtain ⟨first, hfirst⟩ := firstOfKind_isSome h
  unfold buildTopologyHTML crdBlock
  rw [find_crd hfirst, hfirst]
  rfl

theorem render_csv (op : OperatorInfo) (fuel : Nat) :
    buildTopologyHTML (buildDependencyGraph op) (fuel + 2) ("csv-" ++ op.installedCSV) 1 =
      some (⟨1, cardOf (csvNode op)⟩ :: op.crds.map (crdBlock op)) := by
  have hchildren : (csvNode op).children.mapM (fun cid =>
      buildTopologyHTML (buildDependencyGraph op) (fuel + 1) cid 2) =
        some (op.crds.map fun crd => [crdBlock op crd]) := by
    unfold csvNode
    dsimp only
    rw [List.mapM_map]
    exact mapM_some fun crd hcrd => render_crd hcrd fuel
  have hblocks : (op.crds.map fun crd => [crdBlock op crd]).flatten =
      op.crds.map (crdBlock op) := by
    rw [← List.flatMap_def, ← List.map_eq_flatMap]
  rw [buildTopologyHTML, find_csv]
  dsimp only
  rw [hchildren, Option.map_some, hblocks]

/-- The calls go three deep, and this is what they render. -/
theorem render_sub (op : OperatorInfo) (fuel : Nat) :
    buildTopologyHTML (buildDependencyGraph op) (fuel + 3) ("sub-" ++ op.name) 0 =
      some (⟨0, cardOf (subNode op)⟩ :: ⟨1, cardOf (csvNode op)⟩ ::
        op.crds.map (crdBlock op)) := by
  rw [buildTopologyHTML, find_sub]
  dsimp only
  unfold subNode
  dsimp only
  rw [List.mapM_cons, render_csv]
  simp

theorem root_eq (op : OperatorInfo) :
    (buildDependencyGraph op).find? (fun n => n.type = "Subscription") = some (subNode op) := by
  have hcrds : (op.crds.map crdNode).find? (fun n => n.type = "Subscription") = none := by
    rw [List.find?_eq_none]
    intro node hnode
    obtain ⟨crd, -, rfl⟩ := List.mem_map.mp hnode
    simp [crdNode]
  rw [buildDependencyGraph_eq, List.find?_append, hcrds, Option.none_or]
  rfl

/-- The blocks of the dialog. -/
def blocks (op : OperatorInfo) : List Block :=
  ⟨0, cardOf (subNode op)⟩ :: ⟨1, cardOf (csvNode op)⟩ :: op.crds.map (crdBlock op)

theorem openTopologyModal_eq (op : OperatorInfo) {fuel : Nat} (h : 3 ≤ fuel) :
    openTopologyModal fuel (buildDependencyGraph op) = some (some (blocks op)) := by
  obtain ⟨k, rfl⟩ := Nat.exists_eq_add_of_le' h
  have hsub := render_sub op k
  unfold openTopologyModal
  rw [root_eq]
  dsimp only
  unfold subNode
  dsimp only
  rw [hsub]
  rfl

/-! ## Every node once -/

theorem activeCRs_text_inj {m n : Nat}
    (h : toString m ++ " Active CRs" = toString n ++ " Active CRs") : m = n := by
  have hl := congrArg String.toList h
  rw [String.toList_append, String.toList_append] at hl
  have hdigits : Nat.toDigits 10 m = Nat.toDigits 10 n := by
    rw [← Nat.toList_repr, ← Nat.toList_repr]
    exact List.append_cancel_right hl
  rw [← Nat.ofDigitChars_toDigits (b := 10) (n := m) (by decide) (by decide), hdigits,
    Nat.ofDigitChars_toDigits (by decide) (by decide)]

/-- The card of a CRD tells its kind and its count. -/
theorem cardOf_crdNode_inj {crd crd' : CRDInfo} (h : cardOf (crdNode crd) = cardOf (crdNode crd')) :
    crd.kind = crd'.kind ∧ crd.activeCount = crd'.activeCount := by
  have hname : crd.kind = crd'.kind := congrArg Card.name h
  exact ⟨hname, activeCRs_text_inj (congrArg Card.status h)⟩

/-- What is rendered for the CRDs, against what should be. -/
theorem cards_perm_iff (op : OperatorInfo) :
    ((blocks op).map Block.card).Perm ((buildDependencyGraph op).map cardOf) ↔
      (op.crds.map fun crd => (crdBlock op crd).card).Perm
        (op.crds.map fun crd => cardOf (crdNode crd)) := by
  have hnodes : ((buildDependencyGraph op).map cardOf).Perm
      (cardOf (subNode op) :: cardOf (csvNode op) ::
        op.crds.map fun crd => cardOf (crdNode crd)) := by
    rw [buildDependencyGraph_eq, List.map_append, List.map_map]
    refine List.perm_append_comm.trans ?_
    exact List.Perm.swap _ _ _
  have hblocks : (blocks op).map Block.card =
      cardOf (subNode op) :: cardOf (csvNode op) ::
        op.crds.map fun crd => (crdBlock op crd).card := by
    unfold blocks
    rw [List.map_cons, List.map_cons, List.map_map]
    rfl
  rw [hblocks]
  constructor
  · intro h
    exact ((h.trans hnodes).cons_inv).cons_inv
  · intro h
    exact ((h.cons _).cons _).trans hnodes.symm

/-- The dialog is rendered for every operator, and every node is rendered once exactly when
    owned CRDs of one kind have the same number of instances. -/
theorem topology_renders_once_iff (op : OperatorInfo) :
    (∃ html, (∀ fuel, 3 ≤ fuel →
        openTopologyModal fuel (buildDependencyGraph op) = some (some html)) ∧
      (html.map Block.card).Perm ((buildDependencyGraph op).map cardOf)) ↔
    ∀ crd ∈ op.crds, ∀ crd' ∈ op.crds, crd.kind = crd'.kind →
      crd.activeCount = crd'.activeCount := by
  have hcount : (∃ html, (∀ fuel, 3 ≤ fuel →
        openTopologyModal fuel (buildDependencyGraph op) = some (some html)) ∧
      (html.map Block.card).Perm ((buildDependencyGraph op).map cardOf)) ↔
      (op.crds.map fun crd => (crdBlock op crd).card).Perm
        (op.crds.map fun crd => cardOf (crdNode crd)) := by
    rw [← cards_perm_iff]
    constructor
    · rintro ⟨html, hrender, hperm⟩
      have heq := (hrender 3 (Nat.le_refl 3)).symm.trans (openTopologyModal_eq op (Nat.le_refl 3))
      rwa [Option.some.inj (Option.some.inj heq)] at hperm
    · exact fun hperm => ⟨blocks op, fun fuel h => openTopologyModal_eq op h, hperm⟩
  rw [hcount]
  constructor
  · -- the card of every CRD is among the rendered ones, which have the first count of their kind
    intro hperm
    have hfirst : ∀ crd ∈ op.crds, ∃ first, firstOfKind op crd.kind = some first ∧
        first.activeCount = crd.activeCount := by
      intro crd hcrd
      have hmem :=
        hperm.mem_iff.mpr (List.mem_map_of_mem (f := fun crd => cardOf (crdNode crd)) hcrd)
      obtain ⟨other, hother, hcard⟩ := List.mem_map.mp hmem
      obtain ⟨first, hfind⟩ := firstOfKind_isSome hother
      unfold crdBlock at hcard
      rw [hfind, Option.getD_some] at hcard
      obtain ⟨hkind, hactive⟩ := cardOf_crdNode_inj hcard
      have hfirstKind := firstOfKind_kind hfind
      rw [← hfirstKind, hkind] at hfind
      exact ⟨first, hfind, hactive⟩
    intro crd hcrd crd' hcrd' hkind
    obtain ⟨first, hfind, hactive⟩ := hfirst crd hcrd
    obtain ⟨first', hfind', hactive'⟩ := hfirst crd' hcrd'
    rw [← hkind, hfind] at hfind'
    rw [← hactive, ← hactive', Option.some.inj hfind']
  · intro h
    have hsame : ∀ crd ∈ op.crds, (crdBlock op crd).card = cardOf (crdNode crd) := by
      intro crd hcrd
      obtain ⟨first, hfind⟩ := firstOfKind_isSome hcrd
      have hkind := firstOfKind_kind hfind
      have hactive := h first (List.mem_of_find?_eq_some hfind) crd hcrd hkind
      unfold crdBlock crdNode
      rw [hfind, Option.getD_some, hkind, hactive]
    rw [List.map_congr_left hsame]

/-- etcd v1 and v1beta2 of one kind, with one instance and with two. -/
def twoVersions : OperatorInfo :=
  { newOperator ⟨[metadata "operators" "etcd"]⟩ with
      crds := [⟨"etcdclusters.etcd.io", "EtcdCluster", "v1", "", "", 1⟩,
        ⟨"etcdclusters.etcd.database.coreos.com", "EtcdCluster", "v1beta2", "", "", 2⟩] }

/-- Both nodes are rendered with the count of the first. -/
theorem topology_repeats_first :
    ((blocks twoVersions).map fun block => block.card.status) =
        ["Unknown", "Unknown", "1 Active CRs", "1 Active CRs"] ∧
      ((buildDependencyGraph twoVersions).map fun node => node.status) =
        ["1 Active CRs", "2 Active CRs", "Unknown", "Unknown"] ∧
      ¬ ∃ html, (∀ fuel, 3 ≤ fuel →
          openTopologyModal fuel (buildDependencyGraph twoVersions) = some (some html)) ∧
        (html.map Block.card).Perm ((buildDependencyGraph twoVersions).map cardOf) := by
  refine ⟨by decide, by decide, ?_⟩
  rintro ⟨html, hrender, hperm⟩
  have heq := (hrender 3 (Nat.le_refl 3)).symm.trans
    (openTopologyModal_eq twoVersions (Nat.le_refl 3))
  rw [Option.some.inj (Option.some.inj heq)] at hperm
  exact absurd hperm (by decide)

end HybridOperator.Dashboard
