/-
  Grouping a list by a key: what a loop gathers in a map under the keys of the elements, and the
  elements that share their key with another one.

  A list is grouped in two ways: by gathering each group, and by counting the elements under each
  key and asking for each element whether its count exceeds one. Both find the same
  (`total_groupBy`, `shares_iff`).
-/
import HybridOperator.Lib.GoMap
import HybridOperator.Lib.Tally
import Mathlib.Data.Finset.Card
import Mathlib.Data.List.FinRange
import Mathlib.Data.Nat.SuccPred

namespace HybridOperator.Lib.Grouping

variable {α κ ν : Type} [DecidableEq κ]

/-- `for x { m[key(x)] = f(m[key(x)], x) }`, with `zero` for what is missing. -/
def gather (key : α → κ) (f : ν → α → ν) (zero : ν) (xs : List α) : GoMap κ ν :=
  xs.foldl (fun m x => m.insert (key x) (f (GoMap.get m (key x) zero) x)) ∅

def groupBy (key : α → κ) (xs : List α) : GoMap κ (List α) :=
  gather key (fun group x => group ++ [x]) [] xs

def countBy (key : α → κ) (xs : List α) : GoMap κ Nat := gather key (fun n _ => n + 1) 0 xs

theorem gather_concat (key : α → κ) (f : ν → α → ν) (zero : ν) (xs : List α) (x : α) :
    gather key f zero (xs ++ [x]) =
      (gather key f zero xs).insert (key x)
        (f (GoMap.get (gather key f zero xs) (key x) zero) x) := by
  rw [gather, List.foldl_append]
  rfl

theorem mem_gather {key : α → κ} {f : ν → α → ν} {zero : ν} {xs : List α} {k : κ} :
    k ∈ gather key f zero xs ↔ k ∈ xs.map key := by
  induction xs using List.reverseRecOn with
  | nil => exact iff_of_false (AList.notMem_empty k) List.not_mem_nil
  | append_singleton xs x ih =>
    rw [gather_concat, AList.mem_insert, ih, List.map_append, List.mem_append, or_comm]
    exact or_congr_right List.mem_singleton.symm

/-- Under a key stands what the elements with that key give. -/
theorem get_gather (key : α → κ) (f : ν → α → ν) (zero : ν) (xs : List α) (k : κ) :
    GoMap.get (gather key f zero xs) k zero = (xs.filter fun x => key x = k).foldl f zero :=
  GoMap.get_foldl_update key f zero xs ∅ k

theorem get_groupBy (key : α → κ) (xs : List α) (k : κ) :
    GoMap.get (groupBy key xs) k [] = xs.filter fun x => key x = k := by
  rw [groupBy, get_gather, List.foldl_append_eq_append, List.nil_append, ← List.flatMap_def,
    List.flatMap_singleton']

theorem foldl_count (xs : List α) : xs.foldl (fun n _ => n + 1) 0 = xs.length :=
  (List.foldl_const Nat.succ 0 xs).trans ((Nat.succ_iterate 0 _).trans (Nat.zero_add _))

theorem get_countBy (key : α → κ) (xs : List α) (k : κ) :
    GoMap.get (countBy key xs) k 0 = xs.countP fun x => key x = k := by
  rw [countBy, get_gather, foldl_count, List.countP_eq_length_filter]

/-- The groups of a size that satisfies `p` have the elements whose key has such a count. -/
theorem total_groupBy (key : α → κ) (p : Nat → Bool) (xs : List α) :
    GoMap.total (fun group => if p group.length then group.length else 0) (groupBy key xs) =
      xs.countP fun x => p (xs.countP fun y => key y = key x) := by
  have hentry : ∀ e ∈ (groupBy key xs).entries, e.2 = xs.filter fun x => key x = e.1 := by
    intro e he
    have hlookup : (groupBy key xs).lookup e.1 = some e.2 :=
      List.mem_dlookup (groupBy key xs).nodupKeys he
    rw [← get_groupBy key xs e.1, GoMap.get, hlookup]
    rfl
  have hkeys : GoMap.total (fun group => if p group.length then group.length else 0)
      (groupBy key xs) =
      ((groupBy key xs).keys.map fun k =>
        if p (xs.countP fun x => key x = k) then xs.countP fun x => key x = k else 0).sum := by
    rw [GoMap.total, AList.keys, List.keys, List.map_map]
    refine congrArg List.sum (List.map_congr_left fun e he => ?_)
    rw [hentry e he, ← List.countP_eq_length_filter]
    rfl
  have hcov : ∀ x ∈ xs, key x ∈ (groupBy key xs).keys :=
    fun x hx => mem_gather.mpr (List.mem_map_of_mem hx)
  rw [hkeys, ← Tally.sum_countP_filter xs key (groupBy key xs).keys (groupBy key xs).keys_nodup
    (fun k => p (xs.countP fun x => key x = k)) hcov, Tally.sum_map_filter]

/-! ## Positions -/

/-- The positions of the elements that satisfy `p`. -/
def positions (p : α → Bool) (xs : List α) : List (Fin xs.length) :=
  (List.finRange xs.length).filter fun i => p (xs.get i)

theorem mem_positions {p : α → Bool} {xs : List α} {i : Fin xs.length} :
    i ∈ positions p xs ↔ p (xs.get i) = true :=
  List.mem_filter.trans (and_iff_right (List.mem_finRange i))

theorem nodup_positions (p : α → Bool) (xs : List α) : (positions p xs).Nodup :=
  (List.nodup_finRange xs.length).filter _

theorem map_get_positions (p : α → Bool) (xs : List α) :
    (positions p xs).map xs.get = xs.filter p := by
  have hall : (List.finRange xs.length).map xs.get = xs := List.map_get_finRange xs
  conv_rhs => rw [← hall, List.filter_map]
  rfl

theorem length_positions (p : α → Bool) (xs : List α) :
    (positions p xs).length = xs.countP p := by
  rw [List.countP_eq_length_filter, ← map_get_positions, List.length_map]

/-- The positions of a group. -/
def keyPositions (key : α → κ) (xs : List α) (k : κ) : List (Fin xs.length) :=
  positions (fun x => key x = k) xs

theorem mem_keyPositions {key : α → κ} {xs : List α} {k : κ} {i : Fin xs.length} :
    i ∈ keyPositions key xs k ↔ key (xs.get i) = k :=
  mem_positions.trans decide_eq_true_iff

theorem mem_flatMap_keyPositions {key : α → κ} {xs : List α} {ks : List κ} {i : Fin xs.length} :
    i ∈ ks.flatMap (keyPositions key xs) ↔ key (xs.get i) ∈ ks := by
  simp only [List.mem_flatMap, mem_keyPositions, exists_eq_right']

/-- No position is in two groups. -/
theorem nodup_flatMap_keyPositions (key : α → κ) (xs : List α) {ks : List κ} (h : ks.Nodup) :
    (ks.flatMap (keyPositions key xs)).Nodup := by
  rw [List.nodup_flatMap]
  refine ⟨fun k _ => nodup_positions _ xs, h.imp fun hne i hi hi' => hne ?_⟩
  exact (mem_keyPositions.mp hi).symm.trans (mem_keyPositions.mp hi')

/-- Another element of the list has the same key. -/
def Shares (key : α → κ) (xs : List α) (i : Fin xs.length) : Prop :=
  ∃ j, j ≠ i ∧ key (xs.get j) = key (xs.get i)

theorem shares_iff {key : α → κ} {xs : List α} {i : Fin xs.length} :
    Shares key xs i ↔ 1 < xs.countP fun x => key x = key (xs.get i) := by
  have hi : i ∈ (positions (fun x => key x = key (xs.get i)) xs).toFinset :=
    List.mem_toFinset.mpr (mem_positions.mpr (decide_eq_true rfl))
  rw [← length_positions, ← List.toFinset_card_of_nodup (nodup_positions _ xs)]
  constructor
  · intro ⟨j, hne, hkey⟩
    have hj : j ∈ (positions (fun x => key x = key (xs.get i)) xs).toFinset :=
      List.mem_toFinset.mpr (mem_positions.mpr (decide_eq_true hkey))
    exact Finset.one_lt_card.mpr ⟨j, hj, i, hi, hne⟩
  · intro h
    obtain ⟨j, hj, hne⟩ := Finset.exists_mem_ne h i
    have hkey := mem_positions.mp (List.mem_toFinset.mp hj)
    exact ⟨j, hne, of_decide_eq_true hkey⟩

end HybridOperator.Lib.Grouping
