/-
  The type of a link of the upgrade flow against the operators that flow through it.

  When the upgrade type of each record is determined by its two versions, all operators of a
  link into a version have one type (`upgradeType_of_versionTarget`). `BuildUpgradeFlowData` looks
  for it by name: it takes the first record of the whole list with the name of the first operator
  of the link, and names are not unique across namespaces.

  Proved: `linkType_iff`: the type of every link into a version is that of its operators exactly
  when each such search finds a record of the same type.
-/
import HybridOperator.Collector.Consistency
import HybridOperator.Collector.UpgradeFlow

namespace HybridOperator.Collector

open HybridOperator.Lib

/-- The target of a link is a version, not one of the three sentinels. -/
def VersionTarget (target : String) : Prop :=
  target ≠ "Blocked" ∧ target ≠ "Up-to-Date" ∧ target ≠ "Available"

/-- The upgrade type is determined by the parsed versions. -/
def TypeDetermined (op : OperatorInfo) : Prop :=
  op.upgradeType =
    if op.canUpgrade then upgradeTypeOf (parseSemver op.targetVersion) (parseSemver op.version)
    else .none

/-- The first record of the list with a name. -/
def firstNamed (operators : List OperatorInfo) (name : String) : Option OperatorInfo :=
  operators.find? fun op => op.name = name

theorem toLower_text_injective : ∀ s t : UpgradeType,
    GoStrings.toLower s.text = GoStrings.toLower t.text → s = t := by
  intro s t h
  cases s <;> cases t <;> first | rfl | exact absurd h (by decide)

theorem parseSemver_currentVer (op : OperatorInfo) :
    parseSemver (currentVer op) = parseSemver op.version := by
  unfold currentVer
  split
  · rename_i h
    rw [h, parseSemver_of_not_hasSemver (by decide : ¬ HasSemver "Unknown"),
      parseSemver_of_not_hasSemver (by decide : ¬ HasSemver "")]
  · rfl

/-- An operator with a version as its target is upgraded to that version. -/
theorem eq_of_versionTarget {op : OperatorInfo} (h : VersionTarget (targetVer op)) :
    op.canUpgrade = true ∧ targetVer op = op.targetVersion := by
  obtain ⟨hblocked, hdate, havailable⟩ := h
  unfold targetVer targetNode at *
  split at hdate
  · exact absurd rfl hdate
  · rename_i hcan
    rw [if_neg hcan] at hblocked havailable ⊢
    split at hblocked
    · exact absurd rfl hblocked
    · rename_i hpending
      rw [if_neg hpending] at havailable ⊢
      refine ⟨by simpa using hcan, if_neg fun hempty => ?_⟩
      exact havailable (if_pos hempty)

/-- The type of every operator of a link into a version is that of its two ends. -/
theorem upgradeType_of_versionTarget {op : OperatorInfo} (htype : TypeDetermined op)
    (h : VersionTarget (targetVer op)) :
    op.upgradeType =
      upgradeTypeOf (parseSemver (targetVer op)) (parseSemver (currentVer op)) := by
  obtain ⟨hcan, htarget⟩ := eq_of_versionTarget h
  rw [htarget, parseSemver_currentVer, htype, if_pos hcan]

theorem upgradeType_eq_of_route {op op' : OperatorInfo} (htype : TypeDetermined op)
    (htype' : TypeDetermined op') (hroute : route op = route op')
    (h : VersionTarget (targetVer op)) : op.upgradeType = op'.upgradeType := by
  have hcur : currentVer op = currentVer op' := congrArg Prod.fst hroute
  have htar : targetVer op = targetVer op' := congrArg Prod.snd hroute
  rw [upgradeType_of_versionTarget htype h, upgradeType_of_versionTarget htype' (htar ▸ h), hcur,
    htar]

section Links

variable {operators : List OperatorInfo}

theorem mem_onRoute {op : OperatorInfo} {r : String × String} :
    op ∈ onRoute operators r ↔ op ∈ operators ∧ route op = r := by
  rw [onRoute, List.mem_filter, decide_eq_true_eq]

/-- The first operator of a route someone takes. -/
theorem exists_head_onRoute {op : OperatorInfo} (hop : op ∈ operators) :
    ∃ first ∈ operators, (onRoute operators (route op)).head? = some first ∧
      route first = route op := by
  cases h : onRoute operators (route op) with
  | nil =>
    have hmem := mem_onRoute.mpr ⟨hop, rfl⟩
    rw [h] at hmem
    cases hmem
  | cons first rest =>
    obtain ⟨hfirst, hroute⟩ := mem_onRoute.mp (h ▸ List.mem_cons_self)
    exact ⟨first, hfirst, rfl, hroute⟩

theorem exists_firstNamed {op : OperatorInfo} (hop : op ∈ operators) :
    ∃ found, firstNamed operators op.name = some found := by
  cases h : firstNamed operators op.name with
  | none =>
    have := List.find?_eq_none.mp h op hop
    simp at this
  | some found => exact ⟨found, rfl⟩

/-- The type of a link that is an upgrade is that of the record the search finds. -/
theorem type_linkOf {r : String × String} {first found : OperatorInfo} (hblocked : r.2 ≠ "Blocked")
    (hdate : r.2 ≠ "Up-to-Date") (hfirst : (onRoute operators r).head? = some first)
    (hfound : firstNamed operators first.name = some found) :
    (linkOf operators r).type = GoStrings.toLower found.upgradeType.text := by
  show flowType operators r.2 ((onRoute operators r).map (·.name)) = _
  unfold flowType
  rw [if_neg hblocked, if_neg hdate, List.head?_map, hfirst]
  unfold firstNamed at hfound
  simp only [Option.map_some, Option.bind_some, hfound]

end Links

/-- Every link into a version has the type of each operator that flows through it exactly when
    the first record with the name of the first operator of the link has the type of that
    operator. -/
theorem linkType_iff (orders : FlowOrders) (operators : List OperatorInfo)
    (htypes : ∀ op ∈ operators, TypeDetermined op) :
    (∀ l ∈ (buildUpgradeFlowData orders operators).links, VersionTarget l.target →
        ∀ op ∈ operators, currentVer op = l.source → targetVer op = l.target →
          l.type = GoStrings.toLower op.upgradeType.text) ↔
      ∀ op ∈ operators, VersionTarget (targetVer op) →
        (onRoute operators (route op)).head? = some op →
        ∀ found, firstNamed operators op.name = some found →
          found.upgradeType = op.upgradeType := by
  constructor
  · intro h op hop hversion hhead found hfound
    have hlink := (mem_links orders operators).mpr ⟨op, hop, rfl⟩
    have htype := h _ hlink hversion op hop rfl rfl
    rw [type_linkOf hversion.1 hversion.2.1 hhead hfound] at htype
    exact toLower_text_injective _ _ htype
  · intro h l hl hversion op hop hsource htarget
    obtain ⟨op₀, hop₀, rfl⟩ := (mem_links orders operators).mp hl
    have hroute : route op = route op₀ := Prod.ext hsource htarget
    obtain ⟨first, hmem, hhead, hfirst⟩ := exists_head_onRoute hop₀
    obtain ⟨found, hfound⟩ := exists_firstNamed hmem
    have hversion₁ : VersionTarget (targetVer first) := by
      rw [show targetVer first = targetVer op₀ from congrArg Prod.snd hfirst]
      exact hversion
    rw [type_linkOf hversion.1 hversion.2.1 hhead hfound,
      h first hmem hversion₁ (hfirst ▸ hhead) found hfound,
      upgradeType_eq_of_route (htypes first hmem) (htypes op hop) (hfirst.trans hroute.symm)
        hversion₁]

/-! ### One name in two namespaces -/

/-- A major upgrade of etcd, and a minor one in another namespace. -/
def twoEtcds : List OperatorInfo :=
  [flowRecord "etcd" "1.0.0" "2.0.0" "Succeeded" true .major,
    { flowRecord "etcd" "1.2.0" "1.3.0" "Succeeded" true .minor with nameSpace := "team" }]

instance : DecidablePred TypeDetermined := fun _ => inferInstanceAs (Decidable (_ = _))

instance : DecidablePred VersionTarget := fun _ => inferInstanceAs (Decidable (_ ∧ _ ∧ _))

/-- The link of the minor upgrade has the type of the major one. -/
theorem minor_link_typed_major :
    (∀ op ∈ twoEtcds, TypeDetermined op) ∧
      ∃ l ∈ (buildUpgradeFlowData ⟨.asStored, .asStored, fun _ => .asStored⟩ twoEtcds).links,
        VersionTarget l.target ∧ ∃ op ∈ twoEtcds, currentVer op = l.source ∧
          targetVer op = l.target ∧ l.type ≠ GoStrings.toLower op.upgradeType.text := by
  let minor :=
    { flowRecord "etcd" "1.2.0" "1.3.0" "Succeeded" true .minor with nameSpace := "team" }
  have hminor : minor ∈ twoEtcds := List.mem_cons_of_mem _ (List.mem_singleton_self _)
  exact ⟨by decide, linkOf twoEtcds (route minor), (mem_links _ _).mpr ⟨minor, hminor, rfl⟩,
    by decide, minor, hminor, rfl, rfl, by decide⟩

theorem linkType_iff_two_names :
    let operators := [flowRecord "etcd" "1.0.0" "2.0.0" "Succeeded" true .major,
      flowRecord "kiali" "1.2.0" "1.3.0" "Succeeded" true .minor]
    let orders : FlowOrders := ⟨.asStored, .asStored, fun _ => .asStored⟩
    (∀ l ∈ (buildUpgradeFlowData orders operators).links, VersionTarget l.target →
        ∀ op ∈ operators, currentVer op = l.source → targetVer op = l.target →
          l.type = GoStrings.toLower op.upgradeType.text) ↔
      ∀ op ∈ operators, VersionTarget (targetVer op) →
        (onRoute operators (route op)).head? = some op →
        ∀ found, firstNamed operators op.name = some found → found.upgradeType = op.upgradeType :=
  linkType_iff _ _ (by decide)

end HybridOperator.Collector
