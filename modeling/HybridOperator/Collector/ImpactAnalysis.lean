/-
  `AnalyzeOperatorImpact` of collector.go, and the dependency graph whose nodes it is asked for.

  The analysis takes the first record whose name or package is the one it is given, and reports
  every other record that has instances of a kind this one owns. The graph knows an operator by
  its name, and joins operators that own one kind. So the record of a node and the record that
  is analysed for it may be two: another operator's package can be the node's name.

  Two IDs can share a kind and still have no edge, when an edge of other IDs was made before it
  with the same text `a->b`. Which one is made first is for the order in which Go ranges over
  the kinds; `Hidden` says from the owners of the kinds alone that there is an order in which
  the two have none. IDs without a `>`, as Kubernetes names are, have no such pair
  (`not_hidden`).

  Proved: `impact_joined_iff`: in every order the reported dependents of every node are joined
  to it, exactly when no package that is another operator's ID, no record without an ID and no
  text of an edge stands in between (`ImpactDrawn`).
-/
import HybridOperator.Collector.GraphOrder

namespace HybridOperator.Collector

open HybridOperator.Lib

structure ImpactAnalysis where
  operator : String
  directDependents : List String := []
  indirectDependents : List String := []
  providedCRDs : List String := []
  consumedCRDs : List String := []
  breakageRisk : String := "Low"
deriving DecidableEq

/-! ## The analysis -/

/-- `op.Name == operatorName || op.Package == operatorName`. -/
def isNamed (operatorName : String) (op : OperatorInfo) : Bool :=
  op.name = operatorName || op.package = operatorName

/-- `providedCRDKinds[kind]` for the CRDs of the target. -/
def providesKind (target : OperatorInfo) (kind : String) : Bool :=
  target.crds.any fun crd => crd.kind = kind

/-- The IDs as the loop over the operators comes to them. -/
def dependentIDs (operators : List OperatorInfo) (operatorName : String)
    (target : OperatorInfo) : List String :=
  operators.flatMap fun op =>
    if isNamed operatorName op then []
    else (op.crds.filter fun crd => providesKind target crd.kind ∧ crd.activeCount > 0).map
      fun _ => operatorID op

def breakageRisk (directCount providedCount : Nat) : String :=
  if directCount = 0 ∧ providedCount = 0 then "Low"
  else if directCount = 0 ∧ providedCount > 0 then "Low"
  else if directCount ≤ 2 then "Medium"
  else if directCount ≤ 5 then "High"
  else "Critical"

def analyzeOperatorImpact (operators : List OperatorInfo) (operatorName : String) :
    ImpactAnalysis :=
  match operators.find? (isNamed operatorName) with
  | none => { operator := operatorName }
  | some target =>
      let directDependents := Dedup.dedupBy id (dependentIDs operators operatorName target)
      let providedCRDs := target.crds.map (·.kind)
      { operator := operatorName
        directDependents := directDependents
        providedCRDs := providedCRDs
        consumedCRDs := (target.crds.filter (·.activeCount > 0)).map (·.kind)
        breakageRisk := breakageRisk directDependents.length providedCRDs.length }

/-- A record with another name and package than `n` has instances of a kind that the first
    record named `n` owns. -/
def DependsOn (operators : List OperatorInfo) (n : String) (op : OperatorInfo) : Prop :=
  isNamed n op = false ∧ ∃ target, operators.find? (isNamed n) = some target ∧
    ∃ crd ∈ op.crds, crd.activeCount > 0 ∧ ∃ owned ∈ target.crds, owned.kind = crd.kind

theorem mem_dependentIDs {operators : List OperatorInfo} {n d : String} {target : OperatorInfo} :
    d ∈ dependentIDs operators n target ↔ ∃ op ∈ operators, operatorID op = d ∧
      isNamed n op = false ∧
      ∃ crd ∈ op.crds, crd.activeCount > 0 ∧ ∃ owned ∈ target.crds, owned.kind = crd.kind := by
  unfold dependentIDs
  rw [List.mem_flatMap]
  refine exists_congr fun op => and_congr_right fun _ => ?_
  by_cases hnamed : isNamed n op = true
  · simp [hnamed]
  · rw [if_neg hnamed, List.mem_map]
    constructor
    · rintro ⟨crd, hcrd, rfl⟩
      simp only [List.mem_filter, providesKind, List.any_eq_true, decide_eq_true_eq] at hcrd
      obtain ⟨hmem, hkind, hactive⟩ := hcrd
      exact ⟨rfl, Bool.eq_false_iff.mpr hnamed, crd, hmem, hactive, hkind⟩
    · rintro ⟨rfl, -, crd, hmem, hactive, hkind⟩
      refine ⟨crd, ?_, rfl⟩
      simp only [List.mem_filter, providesKind, List.any_eq_true, decide_eq_true_eq]
      exact ⟨hmem, hkind, hactive⟩

/-- What is reported. -/
theorem mem_directDependents {operators : List OperatorInfo} {n d : String} :
    d ∈ (analyzeOperatorImpact operators n).directDependents ↔
      ∃ op ∈ operators, operatorID op = d ∧ DependsOn operators n op := by
  unfold analyzeOperatorImpact DependsOn
  split
  · rename_i hnone
    rw [hnone]
    simp
  · rename_i target hsome
    rw [hsome]
    dsimp only
    rw [Dedup.mem_dedupBy_id, mem_dependentIDs]
    simp

/-! ## The first pair of a list -/

/-- The places of `a` and `b` are the first two, as two nested loops come to them, that satisfy
    `p`. -/
def FirstPair {α : Type} (l : List α) (p : α × α → Bool) (a b : α) : Prop :=
  ∃ i j : Nat, i < j ∧ l[i]? = some a ∧ l[j]? = some b ∧ p (a, b) = true ∧
    ∀ (i' j' : Nat) c d, i' < j' → l[i']? = some c → l[j']? = some d → p (c, d) = true →
      i < i' ∨ (i = i' ∧ j ≤ j')

theorem firstPair_cons {α : Type} {l : List α} {p : α × α → Bool} {x a b : α}
    (hnone : ∀ y ∈ l, p (x, y) = false) : FirstPair (x :: l) p a b ↔ FirstPair l p a b := by
  constructor
  · rintro ⟨i, j, hij, hi, hj, hp, hfirst⟩
    obtain ⟨j, rfl⟩ : ∃ k, j = k + 1 := ⟨j - 1, by omega⟩
    have hjl : l[j]? = some b := by simpa using hj
    cases i with
    | zero =>
      obtain rfl : x = a := by simpa using hi
      rw [hnone b (List.mem_of_getElem? hjl)] at hp
      cases hp
    | succ i =>
      refine ⟨i, j, by omega, by simpa using hi, hjl, hp, fun i' j' c d hij' hc hd hpc => ?_⟩
      have h := hfirst (i' + 1) (j' + 1) c d (by omega) (by simpa using hc) (by simpa using hd) hpc
      omega
  · rintro ⟨i, j, hij, hi, hj, hp, hfirst⟩
    refine ⟨i + 1, j + 1, by omega, by simpa using hi, by simpa using hj, hp, ?_⟩
    intro i' j' c d hij' hc hd hpc
    obtain ⟨j', rfl⟩ : ∃ k, j' = k + 1 := ⟨j' - 1, by omega⟩
    have hdl : l[j']? = some d := by simpa using hd
    cases i' with
    | zero =>
      obtain rfl : x = c := by simpa using hc
      rw [hnone d (List.mem_of_getElem? hdl)] at hpc
      cases hpc
    | succ i' =>
      have h := hfirst i' j' c d (by omega) (by simpa using hc) hdl hpc
      omega

theorem firstPair_cons_found {α : Type} {l : List α} {p : α × α → Bool} {x y a b : α} {j : Nat}
    (hjl : l[j]? = some y) (hpy : p (x, y) = true)
    (hbefore : ∀ (k : Nat) z, k < j → l[k]? = some z → p (x, z) = false) :
    FirstPair (x :: l) p a b ↔ x = a ∧ y = b := by
  constructor
  · rintro ⟨i, k, hik, hi, hk, hp, hfirst⟩
    have h := hfirst 0 (j + 1) x y (by omega) (by simp) (by simpa using hjl) hpy
    obtain ⟨rfl, hle⟩ : i = 0 ∧ k ≤ j + 1 := by omega
    obtain rfl : x = a := by simpa using hi
    obtain ⟨k, rfl⟩ : ∃ m, k = m + 1 := ⟨k - 1, by omega⟩
    have hkl : l[k]? = some b := by simpa using hk
    rcases Nat.lt_or_ge k j with hlt | hge
    · rw [hbefore k b hlt hkl] at hp
      cases hp
    · obtain rfl : k = j := by omega
      rw [hjl] at hkl
      exact ⟨rfl, Option.some.inj hkl⟩
  · rintro ⟨rfl, rfl⟩
    refine ⟨0, j + 1, by omega, by simp, by simpa using hjl, hpy, ?_⟩
    intro i' j' c d hij' hc hd hpc
    rcases Nat.eq_zero_or_pos i' with rfl | hpos
    · obtain rfl : x = c := by simpa using hc
      obtain ⟨j', rfl⟩ : ∃ k, j' = k + 1 := ⟨j' - 1, by omega⟩
      have hdl : l[j']? = some d := by simpa using hd
      refine Or.inr ⟨rfl, Nat.succ_le_succ (Nat.le_of_not_lt fun hlt => ?_)⟩
      rw [hbefore j' d hlt hdl] at hpc
      cases hpc
    · exact Or.inl hpos

/-- The pairs are in the order of their places. -/
theorem find?_pairs {α : Type} {l : List α} {p : α × α → Bool} {a b : α} :
    (pairs l).find? p = some (a, b) ↔ FirstPair l p a b := by
  induction l with
  | nil =>
    constructor
    · intro h
      cases h
    · rintro ⟨i, j, -, hi, -⟩
      simp at hi
  | cons x l ih =>
    rw [pairs, List.find?_append, List.find?_map]
    cases hfind : l.find? (p ∘ fun y => (x, y)) with
    | none =>
      have hnone : ∀ y ∈ l, p (x, y) = false := by
        intro y hy
        simpa using List.find?_eq_none.mp hfind y hy
      rw [firstPair_cons hnone, ← ih]
      simp
    | some y =>
      obtain ⟨hpy, j, hj, hjy, hbefore⟩ := List.find?_eq_some_iff_getElem.mp hfind
      have hjl : l[j]? = some y := by rw [List.getElem?_eq_getElem hj, hjy]
      have hno : ∀ (k : Nat) z, k < j → l[k]? = some z → p (x, z) = false := by
        intro k z hlt hz
        have hk := hbefore k hlt
        rw [List.getElem?_eq_getElem (by omega)] at hz
        rw [Option.some.inj hz] at hk
        simpa using hk
      rw [firstPair_cons_found hjl hpy hno]
      simp

/-! ## Edges for what is reported -/

/-- The IDs that own the kind, in the order of the inventory, once for every CRD of the kind. -/
def kindOwners (operators : List OperatorInfo) (kind : String) : List String :=
  operators.flatMap (provides · kind)

/-- The first two owners of the kind that make an edge with this text. -/
def FirstDraw (operators : List OperatorInfo) (kind text a b : String) : Prop :=
  FirstPair (kindOwners operators kind) (fun ends => ends.1 ++ "->" ++ ends.2 = text) a b

def SameEnds (a b c d : String) : Prop := (c = a ∧ d = b) ∨ (c = b ∧ d = a)

/-- The text is first made by the two IDs themselves, among the owners of the kind. -/
def Keeps (operators : List OperatorInfo) (a b kind text : String) : Prop :=
  ∃ c d, FirstDraw operators kind text c d ∧ SameEnds a b c d

/-- The text is first made by another two. -/
def Takes (operators : List OperatorInfo) (a b kind text : String) : Prop :=
  ∃ c d, FirstDraw operators kind text c d ∧ ¬ SameEnds a b c d

/-- A kind takes the first text, and neither it nor a kind that can be ranged over next keeps the
    second. -/
def Loses (operators : List OperatorInfo) (a b text other : String) : Prop :=
  ∃ kind, Takes operators a b kind text ∧ ¬ Keeps operators a b kind other ∧
    ((∃ kind', Takes operators a b kind' other) ∨ ∀ kind', ¬ Keeps operators a b kind' other)

/-- There is an order of the kinds in which other IDs make the texts of both edges between `a`
    and `b`. -/
def Hidden (operators : List OperatorInfo) (a b : String) : Prop :=
  Loses operators a b (a ++ "->" ++ b) (b ++ "->" ++ a) ∨
    Loses operators a b (b ++ "->" ++ a) (a ++ "->" ++ b)

/-- The edge of the kind that has the text, if there is one. -/
def firstEdge (operators : List OperatorInfo) (text kind : String) : Option DependencyEdge :=
  (kindEdges operators kind).find? fun e => e.key = text

theorem firstEdge_iff {operators : List OperatorInfo} {text kind : String} {e : DependencyEdge} :
    firstEdge operators text kind = some e ↔
      ∃ a b, FirstDraw operators kind text a b ∧ sharedEdge kind (a, b) = e := by
  unfold firstEdge kindEdges
  rw [List.find?_map, get_crdToOperators, Option.map_eq_some_iff, Prod.exists]
  exact exists_congr fun a => exists_congr fun b => and_congr_left fun _ => find?_pairs

theorem keeps_iff {operators : List OperatorInfo} {a b kind text : String} :
    Keeps operators a b kind text ↔
      RangeOrder.Hit (DependencyEdge.Joins · a b) (firstEdge operators text) kind := by
  constructor
  · rintro ⟨c, d, hdraw, hends⟩
    exact ⟨_, firstEdge_iff.mpr ⟨c, d, hdraw, rfl⟩, hends⟩
  · rintro ⟨e, he, hjoins⟩
    obtain ⟨c, d, hdraw, rfl⟩ := firstEdge_iff.mp he
    exact ⟨c, d, hdraw, hjoins⟩

theorem takes_iff {operators : List OperatorInfo} {a b kind text : String} :
    Takes operators a b kind text ↔
      RangeOrder.Miss (DependencyEdge.Joins · a b) (firstEdge operators text) kind := by
  constructor
  · rintro ⟨c, d, hdraw, hends⟩
    exact ⟨_, firstEdge_iff.mpr ⟨c, d, hdraw, rfl⟩, hends⟩
  · rintro ⟨e, he, hjoins⟩
    obtain ⟨c, d, hdraw, rfl⟩ := firstEdge_iff.mp he
    exact ⟨c, d, hdraw, hjoins⟩

/-- The edge with a text is that of the first kind which has one. -/
theorem mem_edges_iff_firstEdge {order : RangeOrder String} {operators : List OperatorInfo}
    {e : DependencyEdge} :
    e ∈ (buildDependencyGraphData order operators).edges ↔
      ((crdToOperators operators).range order).findSome? (firstEdge operators e.key) = some e := by
  rw [mem_edges]
  show (List.flatMap (kindEdges operators) _).find? _ = _ ↔ _
  rw [List.find?_flatMap]
  rfl

theorem loses_iff {operators : List OperatorInfo} {a b text other : String} :
    Loses operators a b text other ↔ RangeOrder.Overtakes (DependencyEdge.Joins · a b)
      (firstEdge operators text) (firstEdge operators other) := by
  unfold Loses RangeOrder.Overtakes
  simp only [keeps_iff, takes_iff]

/-- Two IDs are not joined in an order along which neither of the two texts is theirs. -/
theorem not_joined_iff {order : RangeOrder String} {operators : List OperatorInfo} {a b : String} :
    (¬ ∃ e ∈ (buildDependencyGraphData order operators).edges, e.Joins a b) ↔
      RangeOrder.Misses (DependencyEdge.Joins · a b) (firstEdge operators (a ++ "->" ++ b))
          ((crdToOperators operators).range order) ∧
        RangeOrder.Misses (DependencyEdge.Joins · a b) (firstEdge operators (b ++ "->" ++ a))
          ((crdToOperators operators).range order) := by
  have hedge : ∀ {text : String} {e : DependencyEdge},
      ((crdToOperators operators).range order).findSome? (firstEdge operators text) = some e →
        e ∈ (buildDependencyGraphData order operators).edges := by
    intro text e he
    obtain ⟨kind, -, hkind⟩ := List.exists_of_findSome?_eq_some he
    have hkey : e.key = text := by simpa using List.find?_some hkind
    exact mem_edges_iff_firstEdge.mpr (by rw [hkey]; exact he)
  constructor
  · intro h
    exact ⟨fun e he hjoins => h ⟨e, hedge he, hjoins⟩, fun e he hjoins => h ⟨e, hedge he, hjoins⟩⟩
  · rintro ⟨hto, hfrom⟩ ⟨e, he, hjoins⟩
    have hfirst := mem_edges_iff_firstEdge.mp he
    rcases hjoins with ⟨rfl, rfl⟩ | ⟨rfl, rfl⟩
    · exact hto e hfirst (Or.inl ⟨rfl, rfl⟩)
    · exact hfrom e hfirst (Or.inr ⟨rfl, rfl⟩)

/-- Two different IDs are joined in every order exactly when they share a kind and are not
    hidden in any. -/
theorem joined_iff {operators : List OperatorInfo} {a b : String} (ha : a ≠ "") (hb : b ≠ "")
    (hne : a ≠ b) :
    (∀ order, ∃ e ∈ (buildDependencyGraphData order operators).edges, e.Joins a b) ↔
      SharesKind operators a b ∧ ¬ Hidden operators a b := by
  have hall : ∀ kind, kind ∉ (crdToOperators operators).keys →
      firstEdge operators (a ++ "->" ++ b) kind = none ∧
        firstEdge operators (b ++ "->" ++ a) kind = none := by
    intro kind hkind
    have hnone : ∀ text, firstEdge operators text kind = none := by
      intro text
      refine List.find?_eq_none.mpr fun e he => ?_
      exact absurd (mem_keys_of_kindEdge he) hkind
    exact ⟨hnone _, hnone _⟩
  have hhidden : SharesKind operators a b → ((∃ order,
      ¬ ∃ e ∈ (buildDependencyGraphData order operators).edges, e.Joins a b) ↔
        Hidden operators a b) := by
    intro hshares
    unfold Hidden
    rw [loses_iff, loses_iff, ← RangeOrder.misses_iff hall]
    · exact exists_congr fun order => not_joined_iff
    · obtain ⟨e, he, hjoins⟩ := (sharesKind_iff .asStored ha hb hne).mpr hshares
      obtain ⟨kind, -, hkind⟩ := List.mem_flatMap.mp he
      have hsome : firstEdge operators e.key kind ≠ none := by
        intro hnone
        simpa using List.find?_eq_none.mp hnone e hkind
      refine ⟨kind, ?_⟩
      rcases hjoins with ⟨rfl, rfl⟩ | ⟨rfl, rfl⟩
      · exact Or.inl hsome
      · exact Or.inr hsome
  constructor
  · intro h
    obtain ⟨e, he, hjoins⟩ := h .asStored
    have hshares := (sharesKind_iff .asStored ha hb hne).mp
      ⟨e, Dedup.mem_of_mem_dedupBy _ he, hjoins⟩
    refine ⟨hshares, fun hhid => ?_⟩
    obtain ⟨order, horder⟩ := (hhidden hshares).mpr hhid
    exact horder (h order)
  · rintro ⟨hshares, hnot⟩ order
    by_contra horder
    exact hnot ((hhidden hshares).mp ⟨order, horder⟩)

/-- A reported ID is not the node's. -/
theorem ne_of_dependsOn {operators : List OperatorInfo} {n : String} {op : OperatorInfo}
    (h : DependsOn operators n op) : n ≠ operatorID op := by
  have hnamed := h.1
  unfold isNamed at hnamed
  rw [Bool.or_eq_false_iff, decide_eq_false_iff_not, decide_eq_false_iff_not] at hnamed
  unfold operatorID
  split
  · exact Ne.symm hnamed.2
  · exact Ne.symm hnamed.1

theorem not_joined_empty {order : RangeOrder String} {operators : List OperatorInfo}
    {a : String} : ¬ ∃ e ∈ (buildDependencyGraphData order operators).edges, e.Joins a "" := by
  rintro ⟨e, he, hjoins⟩
  obtain ⟨⟨-, hfrom⟩, -, hto⟩ := ends_of_sharedEdge (List.mem_of_find?_eq_some (mem_edges.mp he))
  rcases hjoins with ⟨-, h⟩ | ⟨h, -⟩
  · exact hto h
  · exact hfrom h

/-! ## Every dependent joined to the node -/

/-- No record between the analysis and the graph: what the inventory must be like for the two to
    agree on every node, in every order. -/
structure ImpactDrawn (operators : List OperatorInfo) : Prop where
  /-- The ID `n` of an operator that is the package of an earlier record with another name, whose
      kinds are then the ones looked for: those with instances of them share a kind with `n`. -/
  namesakes : ∀ n, n ≠ "" → (∃ own ∈ operators, operatorID own = n) →
    ∀ target, operators.find? (isNamed n) = some target →
      target.package = n → target.name ≠ "" → target.name ≠ n →
        ∀ op ∈ operators, DependsOn operators n op → SharesKind operators n (operatorID op)
  /-- No record without name and package has instances of what is looked for. -/
  unnamed : ∀ n, n ≠ "" → (∃ own ∈ operators, operatorID own = n) →
    ∀ op ∈ operators, operatorID op = "" → ¬ DependsOn operators n op
  /-- No text of an edge to what is reported can be another edge's first. -/
  texts : ∀ n, n ≠ "" → (∃ own ∈ operators, operatorID own = n) →
    ∀ op ∈ operators, DependsOn operators n op → ¬ Hidden operators n (operatorID op)

/-- When the record that is analysed is the node's own, what is reported shares a kind with it. -/
theorem sharesKind_of_own {operators : List OperatorInfo} {n : String} {op target : OperatorInfo}
    (hop : op ∈ operators) (h : DependsOn operators n op)
    (htarget : operators.find? (isNamed n) = some target) (hown : operatorID target = n) :
    SharesKind operators n (operatorID op) := by
  obtain ⟨-, target', htarget', crd, hcrd, -, owned, howned, hkind⟩ := h
  rw [htarget] at htarget'
  obtain rfl := Option.some.inj htarget'
  exact ⟨target, List.mem_of_find?_eq_some htarget, op, hop, hown, rfl, owned, howned, crd, hcrd,
    hkind⟩

/-- A record that is found for an ID has it, unless the ID is its package only. -/
theorem own_or_package {n : String} {target : OperatorInfo} (hn : n ≠ "")
    (h : isNamed n target = true) :
    operatorID target = n ∨ target.package = n ∧ target.name ≠ "" ∧ target.name ≠ n := by
  unfold isNamed at h
  rw [Bool.or_eq_true, decide_eq_true_eq, decide_eq_true_eq] at h
  unfold operatorID
  by_cases hname : target.name = n
  · exact Or.inl (by rw [if_neg (by rw [hname]; exact hn), hname])
  · have hpackage : target.package = n := h.resolve_left hname
    by_cases hempty : target.name = ""
    · exact Or.inl (by rw [if_pos hempty, hpackage])
    · exact Or.inr ⟨hpackage, hempty, hname⟩

/-- What is reported shares a kind with the node. -/
theorem ImpactDrawn.sharesKind {operators : List OperatorInfo} (h : ImpactDrawn operators)
    {n : String} (hn : n ≠ "") (hown : ∃ own ∈ operators, operatorID own = n)
    {op : OperatorInfo} (hop : op ∈ operators) (hdepends : DependsOn operators n op) :
    SharesKind operators n (operatorID op) := by
  obtain ⟨target, htarget, -⟩ := hdepends.2
  rcases own_or_package hn (List.find?_some htarget) with hID | ⟨hpackage, hempty, hname⟩
  · exact sharesKind_of_own hop hdepends htarget hID
  · exact h.namesakes n hn hown target htarget hpackage hempty hname op hop hdepends

/-- Every dependent that is reported for a node of the graph is joined to it, in every order in
    which Go ranges over the kinds, exactly when the inventory is like that. -/
theorem impact_joined_iff (operators : List OperatorInfo) :
    (∀ order, ∀ node ∈ (buildDependencyGraphData order operators).nodes,
      ∀ d ∈ (analyzeOperatorImpact operators node.id).directDependents,
        ∃ e ∈ (buildDependencyGraphData order operators).edges, e.Joins node.id d) ↔
    ImpactDrawn operators := by
  constructor
  · intro h
    have hjoined : ∀ n, n ≠ "" → (∃ own ∈ operators, operatorID own = n) → ∀ op ∈ operators,
        DependsOn operators n op → ∀ order,
          ∃ e ∈ (buildDependencyGraphData order operators).edges, e.Joins n (operatorID op) := by
      intro n hn hown op hop hdepends order
      have hID : n ∈ (buildDependencyGraphData order operators).nodes.map DependencyNode.id :=
        mem_nodeIDs.mpr ⟨hown, hn⟩
      obtain ⟨node, hmem, rfl⟩ := List.mem_map.mp hID
      exact h order node hmem (operatorID op) (mem_directDependents.mpr ⟨op, hop, rfl, hdepends⟩)
    have hnamed : ∀ n, n ≠ "" → (∃ own ∈ operators, operatorID own = n) → ∀ op ∈ operators,
        DependsOn operators n op → operatorID op ≠ "" := by
      intro n hn hown op hop hdepends hempty
      have hjoins := hjoined n hn hown op hop hdepends .asStored
      rw [hempty] at hjoins
      exact not_joined_empty hjoins
    have hboth : ∀ n, n ≠ "" → (∃ own ∈ operators, operatorID own = n) → ∀ op ∈ operators,
        DependsOn operators n op →
          SharesKind operators n (operatorID op) ∧ ¬ Hidden operators n (operatorID op) :=
      fun n hn hown op hop hdepends =>
        (joined_iff hn (hnamed n hn hown op hop hdepends) (ne_of_dependsOn hdepends)).mp
          (hjoined n hn hown op hop hdepends)
    exact {
      namesakes := fun n hn hown _ _ _ _ _ op hop hdepends => (hboth n hn hown op hop hdepends).1
      unnamed := fun n hn hown op hop hempty hdepends => hnamed n hn hown op hop hdepends hempty
      texts := fun n hn hown op hop hdepends => (hboth n hn hown op hop hdepends).2 }
  · intro h order node hnode d hd
    obtain ⟨hown, hn⟩ := mem_nodeIDs.mp (List.mem_map_of_mem hnode)
    obtain ⟨op, hop, rfl, hdepends⟩ := mem_directDependents.mp hd
    have hID : operatorID op ≠ "" := fun hempty =>
      h.unnamed node.id hn hown op hop hempty hdepends
    exact (joined_iff hn hID (ne_of_dependsOn hdepends)).mpr
      ⟨h.sharesKind hn hown hop hdepends, h.texts node.id hn hown op hop hdepends⟩ order

/-! ## Names of Kubernetes objects -/

/-- IDs without a `>` are never hidden. -/
theorem not_hidden {operators : List OperatorInfo}
    (hnames : ∀ op ∈ operators, '>' ∉ (operatorID op).toList) {a b : String}
    (ha : '>' ∉ a.toList) (hb : '>' ∉ b.toList) : ¬ Hidden operators a b := by
  have harrow : ∀ {s : String}, '>' ∉ s.toList → ¬ ['-', '>'] <:+: s.toList :=
    fun hs hin => hs (hin.subset (by simp))
  -- the text gives the two IDs back, so no other two make it
  have htakes : ∀ {kind x y : String}, '>' ∉ x.toList → SameEnds a b x y →
      ¬ Takes operators a b kind (x ++ "->" ++ y) := by
    intro kind x y hx hends htakes
    obtain ⟨e, he, hnot⟩ := takes_iff.mp htakes
    have hkey : e.key = x ++ "->" ++ y := by simpa using List.find?_some he
    have hedge : e ∈ sharedEdges .asStored operators := by
      refine List.mem_flatMap.mpr ⟨kind, ?_, List.mem_of_find?_eq_some he⟩
      exact GoMap.mem_range.mpr (mem_keys_of_kindEdge (List.mem_of_find?_eq_some he))
    obtain ⟨⟨⟨op, hop, hID⟩, -⟩, -⟩ := ends_of_sharedEdge hedge
    have hfrom : '>' ∉ e.fromID.toList := hID ▸ hnames op hop
    obtain ⟨hxe, hye⟩ := ends_eq_of_key (f := ⟨x, y, "", ""⟩) (harrow hfrom) (harrow hx) hkey
    refine hnot ?_
    show (e.fromID = a ∧ e.toID = b) ∨ (e.fromID = b ∧ e.toID = a)
    rw [hxe, hye]
    exact hends
  rintro (⟨kind, htaken, -⟩ | ⟨kind, htaken, -⟩)
  · exact htakes ha (Or.inl ⟨rfl, rfl⟩) htaken
  · exact htakes hb (Or.inr ⟨rfl, rfl⟩) htaken

/-- No dependent of another operator is reported when no package is another operator's name. -/
theorem impactDrawn_of_names {operators : List OperatorInfo}
    (hnames : ∀ op ∈ operators, op.name ≠ "" ∧ '>' ∉ op.name.toList)
    (hown : ∀ op ∈ operators, ∀ op' ∈ operators, op.package = op'.name → op.name = op'.name) :
    ImpactDrawn operators := by
  have hID : ∀ op ∈ operators, operatorID op = op.name := fun op hop => if_neg (hnames op hop).1
  refine ⟨?_, ?_, ?_⟩
  · rintro n - ⟨own, hown', rfl⟩ target htarget hpackage - hname
    rw [hID own hown'] at hpackage hname
    exact absurd (hown target (List.mem_of_find?_eq_some htarget) own hown' hpackage) hname
  · intro n _ _ op hop hempty
    rw [hID op hop] at hempty
    exact absurd hempty (hnames op hop).1
  · rintro n - ⟨own, hown', rfl⟩ op hop -
    have hfree : ∀ op ∈ operators, '>' ∉ (operatorID op).toList := by
      intro o ho
      rw [hID o ho]
      exact (hnames o ho).2
    exact not_hidden hfree (hfree own hown') (hfree op hop)

/-! ### A package that is another operator's name -/

def kafkaCRD (activeCount : Nat) : CRDInfo :=
  ⟨"kafkas.kafka.strimzi.io", "Kafka", "v1", "", "", activeCount⟩

def etcdCRD (activeCount : Nat) : CRDInfo :=
  ⟨"etcdclusters.etcd.io", "EtcdCluster", "v1", "", "", activeCount⟩

/-- `streams` is a Subscription for the package `kafka`, `kafka` one for another package, and
    `mirror` has instances of the kind that `streams` owns. -/
def kafkaOperators : List OperatorInfo :=
  [{ newOperator ⟨[metadata "team-a" "streams"]⟩ with
      package := "kafka", crds := [kafkaCRD 0] },
    { newOperator ⟨[metadata "team-b" "kafka"]⟩ with
      package := "etcd", crds := [etcdCRD 0] },
    { newOperator ⟨[metadata "team-c" "mirror"]⟩ with crds := [kafkaCRD 2], activeCRs := 2 }]

/-- For the node `kafka`, `mirror` is reported, and the only edge joins it to `streams`. -/
theorem impact_of_other_operator :
    "kafka" ∈ (buildDependencyGraphData .asStored kafkaOperators).nodes.map DependencyNode.id ∧
      (analyzeOperatorImpact kafkaOperators "kafka").directDependents = ["mirror"] ∧
      (buildDependencyGraphData .asStored kafkaOperators).edges =
        [⟨"streams", "mirror", "Kafka (shared)", "shares"⟩] ∧
      ¬ ∃ e ∈ (buildDependencyGraphData .asStored kafkaOperators).edges,
        e.Joins "kafka" "mirror" := by
  have hedges : (buildDependencyGraphData .asStored kafkaOperators).edges =
      [⟨"streams", "mirror", "Kafka (shared)", "shares"⟩] := by decide
  refine ⟨by decide, by decide, hedges, ?_⟩
  rw [hedges]
  rintro ⟨e, he, hjoins⟩
  rw [List.mem_singleton.mp he] at hjoins
  exact absurd hjoins (by unfold DependencyEdge.Joins; decide)

end HybridOperator.Collector
