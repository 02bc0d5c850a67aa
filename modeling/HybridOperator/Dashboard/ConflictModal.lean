/-
  The 'Conflicts' metric and the list behind it: `getNormalizedPackageName`, `updateMetrics` and
  the case 'conflict' of `openMetricModal` in static/app.js.

  The metric gathers the operators of each package and adds up the groups of more than one. The
  list counts the operators of each package, keeps those whose count exceeds one and gathers
  these again. The order of an object's keys plays no part: the metric adds up the values, the
  list sorts the keys.

  `toLowerCase` is a parameter: which letters of a script are lower case is Unicode's to say.

  Proved: `conflictMetric_exact`. The groups of the list partition the operators that share their
  package with another one, and the metric is the number of operators in the list.
-/
import HybridOperator.Dashboard.UpgradeCard
import HybridOperator.Lib.Grouping
import HybridOperator.Lib.JsRegex

namespace HybridOperator.Dashboard

open HybridOperator.Lib HybridOperator.Lib.JsRegex HybridOperator.Lib.Grouping
open HybridOperator.Collector

/-! ## The package of an operator -/

/-- `replace` of every match of `-(operator|sub|subscription).*` by the empty text. After a match
    the text is dropped to the end of the line, where `.*` ends. -/
def dropSuffix : Bool → List Char → List Char
  | _, [] => []
  | dropping, c :: s =>
      if dropping && dotChar c then dropSuffix true s
      else if c = '-' ∧ ["operator", "sub", "subscription"].any (·.toList.isPrefixOf s) then
        dropSuffix true s
      else c :: dropSuffix false s

def getNormalizedPackageName (toLowerCase : String → String) (op : OperatorInfo) : String :=
  if op.package ≠ "" ∧ trim op.package ≠ "" then toLowerCase (trim op.package)
  else trim (String.ofList (dropSuffix false (toLowerCase op.name).toList))

/-! ## The metrics -/

/-- The numbers of `setMetric`. Those that count a field which no record has (`restarts`,
    `oom_killed`, `approval_status`, `has_orphans`) are left out. -/
structure Metrics where
  total : Nat
  upToDate : Nat
  upgradeable : Nat
  majorRisk : Nat
  idle : Nat
  conflict : Nat
  degraded : Nat
  routes : Nat
deriving DecidableEq

def conflictCount (packageGroups : GoMap String (List OperatorInfo)) : Nat :=
  (packageGroups.entries.map Sigma.snd).foldl
    (fun n group => if group.length > 1 then n + group.length else n) 0

def updateMetrics (toLowerCase : String → String) (operators : List OperatorInfo) : Metrics :=
  let upgradeable := (operators.filter (·.canUpgrade)).length
  { total := operators.length
    upToDate := operators.length - upgradeable
    upgradeable := upgradeable
    majorRisk := (operators.filter fun op => op.canUpgrade && op.upgradeType = .major).length
    idle := (operators.filter (·.isIdle)).length
    conflict := conflictCount (groupBy (getNormalizedPackageName toLowerCase) operators)
    degraded := (operators.filter fun op => op.phase ∈
      ["Failed", "UpgradeFailed", "InstallPlanFailed", "Unknown", "Pending"]).length
    routes := (operators.filter fun op => op.exposedRoutes.length > 0).length }

/-! ## The list -/

/-- An operator in the list. -/
structure ConflictRow where
  number : Nat
  name : String
  nameSpace : String
  version : String
  phase : String
  channel : Option String
deriving DecidableEq

structure ConflictGroup where
  displayName : String
  instances : Nat
  rows : List ConflictRow
deriving DecidableEq

/-- What `listEl` is filled with. -/
inductive ConflictList where
  /-- 'Excellent! No cross-namespace conflicts detected.' -/
  | excellent
  | conflicts (groups : List ConflictGroup)
deriving DecidableEq

def ConflictList.groups : ConflictList → List ConflictGroup
  | excellent => []
  | conflicts groups => groups

def conflictRow (op : OperatorInfo) (idx : Nat) : ConflictRow where
  number := idx + 1
  name := orElse op.name op.package
  nameSpace := op.nameSpace
  version := "v" ++ orElse op.version "Unknown"
  phase := orElse op.phase "Unknown"
  channel := if op.channel = "" then none else some op.channel

/-- `group[0]` is there: no group is empty. -/
def displayName (pkg : String) : List OperatorInfo → String
  | [] => pkg
  | op :: _ => orElse (orElse op.package op.name) pkg

def conflictGroup (pkg : String) (group : List OperatorInfo) : ConflictGroup where
  displayName := displayName pkg group
  instances := group.length
  rows := group.zipIdx.map fun (op, idx) => conflictRow op idx

/-- `ops` -/
def conflictOps (toLowerCase : String → String) (operators : List OperatorInfo) :
    List OperatorInfo :=
  let pkgCounts := countBy (getNormalizedPackageName toLowerCase) operators
  operators.filter fun op => GoMap.get pkgCounts (getNormalizedPackageName toLowerCase op) 0 > 1

def conflictModal (toLowerCase : String → String) (operators : List OperatorInfo) :
    ConflictList :=
  let conflictGroups := groupBy (getNormalizedPackageName toLowerCase)
    (conflictOps toLowerCase operators)
  if conflictGroups.keys.length = 0 then .excellent
  else .conflicts ((sort conflictGroups.keys).map fun pkg =>
    conflictGroup pkg (GoMap.get conflictGroups pkg []))

theorem length_rows (pkg : String) (group : List OperatorInfo) :
    (conflictGroup pkg group).rows.length = group.length := by
  rw [conflictGroup, List.length_map, List.length_zipIdx]

/-! ## The two groupings -/

section

variable (toLowerCase : String → String) (operators : List OperatorInfo)

theorem conflictCount_eq (packageGroups : GoMap String (List OperatorInfo)) :
    conflictCount packageGroups =
      GoMap.total (fun group => if 1 < group.length then group.length else 0) packageGroups := by
  have hsum : ∀ (groups : List (List OperatorInfo)) (n : Nat),
      groups.foldl (fun n group => if group.length > 1 then n + group.length else n) n =
        n + (groups.map fun group => if 1 < group.length then group.length else 0).sum := by
    intro groups
    induction groups with
    | nil => exact fun n => rfl
    | cons group groups ih =>
      intro n
      rw [List.foldl_cons, ih, List.map_cons, List.sum_cons]
      split_ifs
      · omega
      · omega
  rw [conflictCount, hsum, Nat.zero_add, List.map_map]
  rfl

theorem mem_conflictOps {op : OperatorInfo} : op ∈ conflictOps toLowerCase operators ↔
    op ∈ operators ∧ 1 < operators.countP fun other =>
      getNormalizedPackageName toLowerCase other = getNormalizedPackageName toLowerCase op := by
  rw [conflictOps, List.mem_filter, decide_eq_true_eq, get_countBy]

/-- The operators of a package are kept together or not at all. -/
theorem filter_conflictOps {pkg : String}
    (h : pkg ∈ (conflictOps toLowerCase operators).map (getNormalizedPackageName toLowerCase)) :
    ((conflictOps toLowerCase operators).filter fun op =>
        getNormalizedPackageName toLowerCase op = pkg) =
      operators.filter fun op => getNormalizedPackageName toLowerCase op = pkg := by
  obtain ⟨op, hop, rfl⟩ := List.mem_map.mp h
  have hcount := ((mem_conflictOps toLowerCase operators).mp hop).2
  rw [conflictOps, List.filter_filter]
  refine List.filter_congr fun other _ => ?_
  rw [get_countBy]
  by_cases hpkg : getNormalizedPackageName toLowerCase other =
      getNormalizedPackageName toLowerCase op
  · rw [hpkg, decide_eq_true hcount, Bool.and_true]
  · rw [decide_eq_false hpkg, Bool.false_and]

/-- The packages of the list. -/
def conflictKeys : List String :=
  sort (groupBy (getNormalizedPackageName toLowerCase) (conflictOps toLowerCase operators)).keys

theorem mem_conflictKeys {pkg : String} : pkg ∈ conflictKeys toLowerCase operators ↔
    pkg ∈ (conflictOps toLowerCase operators).map (getNormalizedPackageName toLowerCase) :=
  (sort_perm _).mem_iff.trans mem_gather

theorem nodup_conflictKeys : (conflictKeys toLowerCase operators).Nodup :=
  (sort_perm _).nodup_iff.mpr (AList.keys_nodup _)

theorem key_mem_conflictKeys (i : Fin operators.length) :
    getNormalizedPackageName toLowerCase (operators.get i) ∈ conflictKeys toLowerCase operators ↔
      Shares (getNormalizedPackageName toLowerCase) operators i := by
  rw [mem_conflictKeys, shares_iff]
  constructor
  · intro h
    obtain ⟨op, hop, hpkg⟩ := List.mem_map.mp h
    rw [← hpkg]
    exact ((mem_conflictOps toLowerCase operators).mp hop).2
  · intro h
    exact List.mem_map_of_mem
      ((mem_conflictOps toLowerCase operators).mpr ⟨List.get_mem operators i, h⟩)

/-- The list shows each package with all its operators. -/
theorem groups_conflictModal :
    (conflictModal toLowerCase operators).groups =
      (conflictKeys toLowerCase operators).map fun pkg => conflictGroup pkg
        ((keyPositions (getNormalizedPackageName toLowerCase) operators pkg).map
          operators.get) := by
  have hgroups : ∀ pkg ∈ conflictKeys toLowerCase operators,
      GoMap.get (groupBy (getNormalizedPackageName toLowerCase)
          (conflictOps toLowerCase operators)) pkg [] =
        (keyPositions (getNormalizedPackageName toLowerCase) operators pkg).map
          operators.get := by
    intro pkg hpkg
    rw [get_groupBy, keyPositions, map_get_positions]
    exact filter_conflictOps toLowerCase operators
      ((mem_conflictKeys toLowerCase operators).mp hpkg)
  rw [conflictModal]
  split
  · rename_i hempty
    have hkeys : conflictKeys toLowerCase operators = [] :=
      List.eq_nil_of_length_eq_zero ((sort_perm _).length_eq.trans hempty)
    rw [hkeys]
    rfl
  · exact List.map_congr_left fun pkg hpkg => congrArg (conflictGroup pkg) (hgroups pkg hpkg)

/-- The operators in the list, counted by position. -/
theorem conflict_updateMetrics :
    (updateMetrics toLowerCase operators).conflict =
      ((conflictKeys toLowerCase operators).flatMap
        (keyPositions (getNormalizedPackageName toLowerCase) operators)).length := by
  have hperm : (positions (fun op => 1 < operators.countP fun other =>
        getNormalizedPackageName toLowerCase other = getNormalizedPackageName toLowerCase op)
        operators).Perm ((conflictKeys toLowerCase operators).flatMap
          (keyPositions (getNormalizedPackageName toLowerCase) operators)) := by
    refine (List.perm_ext_iff_of_nodup (nodup_positions _ operators)
      (nodup_flatMap_keyPositions _ operators (nodup_conflictKeys toLowerCase operators))).mpr
      fun i => ?_
    rw [mem_flatMap_keyPositions, key_mem_conflictKeys, shares_iff, mem_positions,
      decide_eq_true_iff]
  have htotal := total_groupBy (getNormalizedPackageName toLowerCase) (fun n => 1 < n) operators
  simp only [decide_eq_true_eq] at htotal
  rw [← hperm.length_eq, length_positions, ← htotal]
  exact conflictCount_eq _

end

theorem conflictMetric_exact (toLowerCase : String → String) (operators : List OperatorInfo) :
    (updateMetrics toLowerCase operators).conflict =
        ((conflictModal toLowerCase operators).groups.map fun g => g.rows.length).sum ∧
      ∃ groups : List (String × List (Fin operators.length)),
        (conflictModal toLowerCase operators).groups =
          groups.map (fun g => conflictGroup g.1 (g.2.map operators.get)) ∧
        (groups.flatMap Prod.snd).Nodup ∧
        (∀ i, i ∈ groups.flatMap Prod.snd ↔
          Shares (getNormalizedPackageName toLowerCase) operators i) ∧
        ∀ g ∈ groups, g.2 ≠ [] ∧
          ∀ i, i ∈ g.2 ↔ getNormalizedPackageName toLowerCase (operators.get i) = g.1 := by
  have hlist := groups_conflictModal toLowerCase operators
  have hflat : ((conflictKeys toLowerCase operators).map fun pkg =>
      (pkg, keyPositions (getNormalizedPackageName toLowerCase) operators pkg)).flatMap Prod.snd =
      (conflictKeys toLowerCase operators).flatMap
        (keyPositions (getNormalizedPackageName toLowerCase) operators) :=
    List.flatMap_map _ _ _
  refine ⟨?_, (conflictKeys toLowerCase operators).map fun pkg =>
    (pkg, keyPositions (getNormalizedPackageName toLowerCase) operators pkg), ?_, ?_, ?_, ?_⟩
  · rw [conflict_updateMetrics, hlist, List.map_map, List.length_flatMap]
    refine congrArg List.sum (List.map_congr_left fun pkg _ => ?_)
    exact ((length_rows pkg _).trans (List.length_map _)).symm
  · rw [hlist, List.map_map]
    rfl
  · rw [hflat]
    exact nodup_flatMap_keyPositions _ operators (nodup_conflictKeys toLowerCase operators)
  · intro i
    rw [hflat, mem_flatMap_keyPositions, key_mem_conflictKeys]
  · intro g hg
    obtain ⟨pkg, hpkg, rfl⟩ := List.mem_map.mp hg
    refine ⟨?_, fun i => mem_keyPositions⟩
    obtain ⟨op, hop, hop'⟩ := List.mem_map.mp ((mem_conflictKeys toLowerCase operators).mp hpkg)
    obtain ⟨i, hi⟩ := List.get_of_mem ((mem_conflictOps toLowerCase operators).mp hop).1
    rw [← hi] at hop'
    exact List.ne_nil_of_mem (mem_keyPositions.mpr hop')

end HybridOperator.Dashboard
