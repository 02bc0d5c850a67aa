/-
  `sumPodUsage` and `gatherControllerUsage` of main.go: the CPU and memory of an operator's
  controller pods.

  `resource.ParseQuantity` is a parameter, `Quantities`. The memory of each container is divided
  by 1024 * 1024 before it is added, so every container may cost the figure almost one MiB.

  Proved:
  * `sumPodUsage_error_iff`: the figure is less than 1 MiB off exactly when what the containers
    use beyond whole MiB adds up to less than one, and the sum fits in an `int64`.
  * `gatherControllerUsage_error_iff`: the same for all containers of the operator's pods.
  * `gatherControllerUsage_available`: usage is available exactly when there are pods and the
    metrics of all of them were read.
-/
import Mathlib.Algebra.BigOperators.Ring.Finset
import HybridOperator.Collector.Client
import HybridOperator.Lib.GoInt

namespace HybridOperator.Server

open HybridOperator.Lib HybridOperator.Lib.GoInt HybridOperator.Collector

/-! ## One pod -/

/-- `k8s.io/apimachinery/pkg/api/resource`; `none` is an error of `ParseQuantity`. -/
structure Quantities where
  Quantity : Type
  parseQuantity : String → Option Quantity
  milliValue : Quantity → Int64
  value : Quantity → Int64
  /-- the number that a quantity stands for -/
  amount : Quantity → ℚ
  /-- no quantity represents a number greater than `2^63 - 1` -/
  amount_le : ∀ {s q}, parseQuantity s = some q → amount q ≤ 2 ^ 63 - 1
  /-- `Value` rounds up to a whole number, and leaves one as it is -/
  value_whole : ∀ {q} {n : Nat}, amount q = n → n < 2 ^ 63 → (value q).toInt = n

section Usage

variable (R : Quantities)

def addContainer (usage : Int64 × Int64) (c : Json) : Int64 × Int64 :=
  match c.asMap with
  | none => usage
  | some cMap =>
      let cpuStr := (nestedString cMap ["usage", "cpu"]).getD ""
      let memStr := (nestedString cMap ["usage", "memory"]).getD ""
      (match R.parseQuantity cpuStr with
        | some q => usage.1 + R.milliValue q
        | none => usage.1,
      match R.parseQuantity memStr with
        | some q => usage.2 + R.value q / (1024 * 1024)
        | none => usage.2)

/-- `cpuMilli` and `memMi`. -/
def sumPodUsage (podMetrics : JMap) : Int64 × Int64 :=
  match nestedSlice podMetrics ["containers"] with
  | none => (0, 0)
  | some containers => containers.foldl (addContainer R) (0, 0)

/-- The memory that a container uses, when it parses. -/
def memoryQuantity (cMap : JMap) : Option R.Quantity :=
  R.parseQuantity ((nestedString cMap ["usage", "memory"]).getD "")

/-- The memory quantities of the containers. -/
def memoryQuantities (podMetrics : JMap) : List R.Quantity :=
  (nestedMaps podMetrics ["containers"]).filterMap (memoryQuantity R)

/-- The figure for containers with these quantities. -/
def memoryFigure (qs : List R.Quantity) : Int64 :=
  (qs.map fun q => R.value q / (1024 * 1024)).foldl (· + ·) 0

theorem foldl_addContainer (containers : List Json) (usage : Int64 × Int64) :
    (containers.foldl (addContainer R) usage).2 =
      (((containers.filterMap Json.asMap).filterMap (memoryQuantity R)).map fun q =>
        R.value q / (1024 * 1024)).foldl (· + ·) usage.2 := by
  induction containers generalizing usage with
  | nil => rfl
  | cons c containers ih =>
    rw [List.foldl_cons, ih]
    cases hmap : c.asMap with
    | none => rw [addContainer, hmap, List.filterMap_cons_none hmap]
    | some cMap =>
      rw [addContainer, hmap, List.filterMap_cons_some hmap]
      dsimp only
      cases hquantity : memoryQuantity R cMap with
      | none =>
        rw [List.filterMap_cons_none hquantity]
        rw [memoryQuantity] at hquantity
        rw [hquantity]
      | some q =>
        rw [List.filterMap_cons_some hquantity, List.map_cons, List.foldl_cons]
        rw [memoryQuantity] at hquantity
        rw [hquantity]

theorem sumPodUsage_memory (podMetrics : JMap) :
    (sumPodUsage R podMetrics).2 = memoryFigure R (memoryQuantities R podMetrics) := by
  rw [sumPodUsage, memoryQuantities, nestedMaps]
  cases nestedSlice podMetrics ["containers"] with
  | none => rfl
  | some containers => exact foldl_addContainer R containers (0, 0)

/-- The whole MiB of one container. -/
theorem toInt_value_div {q : R.Quantity} {s : String} (hq : R.parseQuantity s = some q) {n : Nat}
    (hn : R.amount q = n) : (R.value q / (1024 * 1024)).toInt = (n / 2 ^ 20 : Nat) := by
  have hlt : n < 2 ^ 63 := by
    have hle := R.amount_le hq
    rw [hn] at hle
    have hcast : (n : ℚ) < (2 ^ 63 : Nat) := by
      push_cast
      linarith
    exact Nat.cast_lt.mp hcast
  have hmib : ((1024 * 1024 : Int64)).toInt = (2 ^ 20 : Nat) := by decide
  rw [Int64.toInt_div_of_ne_right _ _ (by decide), R.value_whole hn hlt, hmib]
  exact (Int.ofNat_tdiv n (2 ^ 20)).symm

/-- The whole MiB of the containers. -/
theorem map_value_div {qs : List R.Quantity} (hqs : ∀ q ∈ qs, ∃ s, R.parseQuantity s = some q)
    {bytes : List Nat} (hbytes : qs.map R.amount = bytes.map fun n : Nat => (n : ℚ)) :
    (qs.map fun q => (R.value q / (1024 * 1024)).toInt) =
      bytes.map fun n : Nat => ((n / 2 ^ 20 : Nat) : Int) := by
  induction qs generalizing bytes with
  | nil =>
    rw [List.map_eq_nil_iff.mp hbytes.symm]
    rfl
  | cons q qs ih =>
    obtain ⟨n, rest, rfl, hn, hrest⟩ := List.map_eq_cons_iff.mp hbytes.symm
    obtain ⟨s, hs⟩ := hqs q List.mem_cons_self
    rw [List.map_cons, List.map_cons, toInt_value_div R hs hn.symm,
      ih (fun q' hq' => hqs q' (List.mem_cons_of_mem q hq')) hrest.symm]

theorem memoryFigure_error_iff {qs : List R.Quantity}
    (hqs : ∀ q ∈ qs, ∃ s, R.parseQuantity s = some q) {bytes : List Nat}
    (hbytes : qs.map R.amount = bytes.map fun n : Nat => (n : ℚ)) :
    |((memoryFigure R qs).toInt : ℚ) - (bytes.sum : ℚ) / 2 ^ 20| < 1 ↔
      (bytes.map (· % 2 ^ 20)).sum < 2 ^ 20 ∧ (bytes.map (· / 2 ^ 20)).sum < 2 ^ 63 := by
  have hfigure : (memoryFigure R qs).toInt =
      (((bytes.map (· / 2 ^ 20)).sum : Nat) : Int).bmod (2 ^ 64) := by
    have hmap := map_value_div R hqs hbytes
    rw [memoryFigure, toInt_foldl_add, List.map_map, Nat.cast_list_sum, List.map_map]
    show (0 + (qs.map fun q => (R.value q / (1024 * 1024)).toInt).sum).bmod _ = _
    rw [hmap, Int.zero_add]
    rfl
  have herror := sum_div_error_lt_iff bytes (m := 2 ^ 20) (by decide)
  rw [hfigure, ← herror]
  norm_num

theorem parsed_of_mem {podMetrics : JMap} {q : R.Quantity}
    (h : q ∈ memoryQuantities R podMetrics) : ∃ s, R.parseQuantity s = some q := by
  obtain ⟨_, _, hs⟩ := List.mem_filterMap.mp h
  exact ⟨_, hs⟩

theorem sumPodUsage_error_iff (podMetrics : JMap) (bytes : List Nat)
    (hbytes : (memoryQuantities R podMetrics).map R.amount = bytes.map fun n : Nat => (n : ℚ)) :
    |((sumPodUsage R podMetrics).2.toInt : ℚ) - (bytes.sum : ℚ) / 2 ^ 20| < 1 ↔
      (bytes.map (· % 2 ^ 20)).sum < 2 ^ 20 ∧ (bytes.map (· / 2 ^ 20)).sum < 2 ^ 63 := by
  rw [sumPodUsage_memory]
  exact memoryFigure_error_iff R (fun q hq => parsed_of_mem R hq) hbytes

/-! ## The pods of an operator -/

def podMetricsGVR : GroupVersionResource := ⟨"metrics.k8s.io", "v1beta1", "pods"⟩

/-- An entry of `Pods`. -/
structure PodFigure where
  pod : String
  cpuMilli : Int64
  memoryMib : Int64
deriving DecidableEq

structure ControllerUsage where
  cpuMilli : Int64
  memMi : Int64
  pods : List PodFigure
  available : Bool
deriving DecidableEq

variable (dyn : DynClient) (ns : String)

def podFigure (pod : String) (pm : Unstructured) : PodFigure :=
  ⟨pod, (sumPodUsage R pm.object).1, (sumPodUsage R pm.object).2⟩

def addPod (u : ControllerUsage) (pod : String) : ControllerUsage :=
  match dyn.get podMetricsGVR ns pod with
  | .error _ => { u with available := false }
  | .ok pm =>
      let figure := podFigure R pod pm
      { u with
        cpuMilli := u.cpuMilli + figure.cpuMilli
        memMi := u.memMi + figure.memoryMib
        pods := u.pods ++ [figure] }

/-- `pods` are the names of the pods with the operator's label, as `clientset` lists them. -/
def gatherControllerUsage (pods : Except String (List String)) : Except String ControllerUsage :=
  match pods with
  | .error err => .error ("failed to list controller pods: " ++ err)
  | .ok pods =>
      let u := pods.foldl (addPod R dyn ns) ⟨0, 0, [], true⟩
      .ok { u with available := u.available && u.pods.length > 0 }

/-- The metrics of a pod, when they are read. -/
def metricsOf (pod : String) : Option Unstructured := (dyn.get podMetricsGVR ns pod).toOption

/-- The entry of a pod, when its metrics are read. -/
def figureOf (pod : String) : Option PodFigure := (metricsOf dyn ns pod).map (podFigure R pod)

/-- The quantities of all containers of the pods. -/
def podsQuantities (pods : List String) : List R.Quantity :=
  (pods.filterMap (metricsOf dyn ns)).flatMap fun pm => memoryQuantities R pm.object

section Step

variable {dyn ns} (u : ControllerUsage) {pod : String}

theorem addPod_none (h : metricsOf dyn ns pod = none) :
    addPod R dyn ns u pod = { u with available := false } := by
  unfold metricsOf at h
  unfold addPod
  cases hget : dyn.get podMetricsGVR ns pod with
  | error err => rfl
  | ok pm =>
    rw [hget] at h
    exact nomatch h

theorem addPod_some {pm : Unstructured} (h : metricsOf dyn ns pod = some pm) :
    addPod R dyn ns u pod =
      { u with
        cpuMilli := u.cpuMilli + (podFigure R pod pm).cpuMilli
        memMi := u.memMi + memoryFigure R (memoryQuantities R pm.object)
        pods := u.pods ++ [podFigure R pod pm] } := by
  unfold metricsOf at h
  unfold addPod
  cases hget : dyn.get podMetricsGVR ns pod with
  | error err =>
    rw [hget] at h
    exact nomatch h
  | ok pm' =>
    rw [hget] at h
    obtain rfl := Option.some.inj h
    rw [← sumPodUsage_memory]
    rfl

end Step

theorem memoryFigure_append (qs qs' : List R.Quantity) :
    memoryFigure R (qs ++ qs') = memoryFigure R qs + memoryFigure R qs' := by
  rw [memoryFigure, List.map_append, List.foldl_append, foldl_add]
  rfl

theorem foldl_addPod_memMi (pods : List String) (u : ControllerUsage) :
    (pods.foldl (addPod R dyn ns) u).memMi =
      u.memMi + memoryFigure R (podsQuantities R dyn ns pods) := by
  induction pods generalizing u with
  | nil => exact (Int64.add_zero _).symm
  | cons pod pods ih =>
    rw [List.foldl_cons, ih, podsQuantities, podsQuantities]
    cases hmetrics : metricsOf dyn ns pod with
    | none => rw [addPod_none R u hmetrics, List.filterMap_cons_none hmetrics]
    | some pm =>
      rw [addPod_some R u hmetrics, List.filterMap_cons_some hmetrics, List.flatMap_cons,
        memoryFigure_append, Int64.add_assoc]

theorem foldl_addPod_pods (pods : List String) (u : ControllerUsage) :
    (pods.foldl (addPod R dyn ns) u).pods = u.pods ++ pods.filterMap (figureOf R dyn ns) ∧
      (pods.foldl (addPod R dyn ns) u).available =
        (u.available && pods.all fun pod => (figureOf R dyn ns pod).isSome) := by
  induction pods generalizing u with
  | nil => exact ⟨(List.append_nil _).symm, (Bool.and_true _).symm⟩
  | cons pod pods ih =>
    obtain ⟨hpods, havailable⟩ := ih (addPod R dyn ns u pod)
    rw [List.foldl_cons, hpods, havailable, List.all_cons]
    cases hmetrics : metricsOf dyn ns pod with
    | none =>
      have hfigure : figureOf R dyn ns pod = none := by rw [figureOf, hmetrics]; rfl
      rw [addPod_none R u hmetrics, List.filterMap_cons_none hfigure, hfigure]
      refine ⟨rfl, ?_⟩
      rw [Option.isSome_none, Bool.false_and, Bool.and_false]
    | some pm =>
      have hfigure : figureOf R dyn ns pod = some (podFigure R pod pm) := by
        rw [figureOf, hmetrics]
        rfl
      rw [addPod_some R u hmetrics, List.filterMap_cons_some hfigure, hfigure]
      refine ⟨?_, ?_⟩
      · rw [List.append_assoc, List.singleton_append]
      · rw [Option.isSome_some, Bool.true_and]

/-- Usage is available when there are pods and each of them has its entry. -/
theorem gatherControllerUsage_available {pods : List String} {u : ControllerUsage}
    (h : gatherControllerUsage R dyn ns (.ok pods) = .ok u) :
    u.available = true ↔ pods ≠ [] ∧ u.pods.length = pods.length := by
  obtain ⟨hpods, havailable⟩ := foldl_addPod_pods R dyn ns pods ⟨0, 0, [], true⟩
  obtain rfl := Except.ok.inj h
  dsimp only
  rw [hpods, havailable, Bool.true_and, List.nil_append, Bool.and_eq_true, decide_eq_true_iff,
    List.all_eq_true, ← List.filterMap_length_eq_length, and_comm (a := pods ≠ [])]
  refine and_congr_right fun hlength => ?_
  rw [hlength]
  exact List.length_pos_iff

/-- The figure for the operator is as far off as that of one pod with all the containers. -/
theorem gatherControllerUsage_error_iff {pods : List String} {u : ControllerUsage}
    (h : gatherControllerUsage R dyn ns (.ok pods) = .ok u) {bytes : List Nat}
    (hbytes : (podsQuantities R dyn ns pods).map R.amount = bytes.map fun n : Nat => (n : ℚ)) :
    |(u.memMi.toInt : ℚ) - (bytes.sum : ℚ) / 2 ^ 20| < 1 ↔
      (bytes.map (· % 2 ^ 20)).sum < 2 ^ 20 ∧ (bytes.map (· / 2 ^ 20)).sum < 2 ^ 63 := by
  obtain rfl := Except.ok.inj h
  dsimp only
  rw [foldl_addPod_memMi, Int64.zero_add]
  refine memoryFigure_error_iff R (fun q hq => ?_) hbytes
  obtain ⟨pm, _, hmem⟩ := List.mem_flatMap.mp hq
  exact parsed_of_mem R hmem

end Usage

/-! ### Two small containers -/

/-- Plain numbers of bytes. -/
def plainQuantities : Quantities where
  Quantity := Fin (2 ^ 63)
  parseQuantity s :=
    if s ≠ "" ∧ s.toList.all Char.isDigit then
      let n := Nat.ofDigitChars 10 s.toList 0
      if h : n < 2 ^ 63 then some ⟨n, h⟩ else none
    else none
  milliValue q := Int64.ofNat (q.val * 1000)
  value q := Int64.ofNat q.val
  amount q := q.val
  amount_le {s q} _ := by
    have hq : (q.val : ℚ) ≤ (2 ^ 63 - 1 : Nat) := Nat.cast_le.mpr (by omega)
    exact hq.trans (by norm_num)
  value_whole {q n} h _ := by
    rw [Int64.toInt_ofNat_of_lt q.isLt, Nat.cast_inj.mp h]

def containerOf (memory : String) : Json := .obj [("usage", .obj [("memory", .str memory)])]

/-- A pod with two containers that use one byte less than a MiB each. -/
def smallContainers : JMap :=
  [("containers", .arr [containerOf "1048575", containerOf "1048575"])]

theorem small_containers_lost :
    (memoryQuantities plainQuantities smallContainers).map plainQuantities.amount =
        [1048575, 1048575] ∧
      (sumPodUsage plainQuantities smallContainers).2.toInt = 0 ∧
      ¬ |((sumPodUsage plainQuantities smallContainers).2.toInt : ℚ) -
        (1048575 + 1048575) / 2 ^ 20| < 1 := by
  have hfigure : (sumPodUsage plainQuantities smallContainers).2.toInt = 0 := by
    decide +kernel
  refine ⟨by decide +kernel, hfigure, ?_⟩
  rw [hfigure]
  norm_num [abs_lt]

/-- One of them and a container of one MiB. -/
theorem sumPodUsage_error_iff_small :
    |((sumPodUsage plainQuantities
        [("containers", .arr [containerOf "1048575", containerOf "1048576"])]).2.toInt : ℚ) -
        ([1048575, 1048576].sum : Nat) / 2 ^ 20| < 1 :=
  (sumPodUsage_error_iff plainQuantities _ [1048575, 1048576] (by decide +kernel)).mpr
    (by decide)

end HybridOperator.Server
