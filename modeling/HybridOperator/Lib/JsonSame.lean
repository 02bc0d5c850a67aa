/-
  When two JSON documents are the same: when they are equal but for the order of the members of
  their objects. `sorted` is the form all documents that are the same have in common: members
  stand in the order of their names, and one that another hides is dropped.

  Proved:
  * `same_obj_iff`: two objects are the same when they have the same value under every name.
  * `sorted_sorted`: sorting changes nothing that is sorted.
-/
import HybridOperator.Lib.StructDecode
import Mathlib.Data.List.Sort
import Mathlib.Data.String.Basic

namespace HybridOperator.Lib

/-- The rule for documents: arrays and objects from what is in them. -/
theorem Json.induction {P : Json → Prop} (null : P .null) (bool : ∀ b, P (.bool b))
    (int : ∀ n, P (.int n)) (float : ∀ q, P (.float q)) (str : ∀ s, P (.str s))
    (arr : ∀ l, (∀ j ∈ l, P j) → P (.arr l)) (obj : ∀ m, (∀ kv ∈ m, P kv.2) → P (.obj m)) :
    ∀ j, P j
  | .null => null
  | .bool b => bool b
  | .int n => int n
  | .float q => float q
  | .str s => str s
  | .arr l => arr l fun j _ => Json.induction null bool int float str arr obj j
  | .obj m => obj m fun kv _ => Json.induction null bool int float str arr obj kv.2
termination_by j => sizeOf j
decreasing_by
  · have := List.sizeOf_lt_of_mem ‹j ∈ l›
    simp only [Json.arr.sizeOf_spec]
    omega
  · have := List.sizeOf_lt_of_mem ‹kv ∈ m›
    obtain ⟨k, v⟩ := kv
    simp only [Json.obj.sizeOf_spec, Prod.mk.sizeOf_spec] at this ⊢
    omega

namespace JsonSame

theorem mem_of_lookup {κ ν : Type} [BEq κ] [LawfulBEq κ] {m : List (κ × ν)} {k : κ} {v : ν}
    (h : m.lookup k = some v) : (k, v) ∈ m := by
  obtain ⟨before, after, rfl, -⟩ := List.lookup_eq_some_iff.mp h
  exact List.mem_append_right _ List.mem_cons_self

theorem lookup_eq_some {m : JMap} (h : (m.map Prod.fst).Nodup) {k : String} {j : Json} :
    m.lookup k = some j ↔ (k, j) ∈ m :=
  ⟨mem_of_lookup, StructDecode.lookup_of_nodup h⟩

/-- The bindings that count, in the order of their keys. -/
def sortKeys (m : JMap) : JMap :=
  ((keys m).insertionSort (· ≤ ·)).filterMap fun k => (m.lookup k).map fun j => (k, j)

mutual
/-- The document with the members of every object in the order of their names. -/
def sorted : Json → Json
  | .null => .null
  | .bool b => .bool b
  | .int n => .int n
  | .float q => .float q
  | .str s => .str s
  | .arr l => .arr (sortedSlice l)
  | .obj m => .obj (sortKeys (sortedMap m))

def sortedSlice : List Json → List Json
  | [] => []
  | j :: l => sorted j :: sortedSlice l

def sortedMap : JMap → JMap
  | [] => []
  | (k, j) :: m => (k, sorted j) :: sortedMap m
end

/-- Equal up to the order of members. -/
def Same (a b : Json) : Prop := sorted a = sorted b

theorem sortedSlice_eq (l : List Json) : sortedSlice l = l.map sorted := by
  induction l with
  | nil => rfl
  | cons j l ih => rw [sortedSlice, ih, List.map_cons]

theorem lookup_sortedMap (m : JMap) (k : String) :
    (sortedMap m).lookup k = (m.lookup k).map sorted := by
  induction m with
  | nil => rfl
  | cons kv m ih =>
    obtain ⟨k', j⟩ := kv
    rw [sortedMap, List.lookup_cons, List.lookup_cons]
    split
    · rfl
    · exact ih

/-- `sortKeys` is made of what the keys are bound to. -/
theorem sortKeys_congr {m m' : JMap} (h : ∀ k, m.lookup k = m'.lookup k) :
    sortKeys m = sortKeys m' := by
  have hkeys : (keys m).Perm (keys m') := by
    refine (List.perm_ext_iff_of_nodup (keys_nodup m) (keys_nodup m')).mpr fun k => ?_
    rw [mem_keys, mem_keys, h]
  have hsort : (keys m).insertionSort (· ≤ ·) = (keys m').insertionSort (· ≤ ·) := by
    refine List.Perm.eq_of_sortedLE List.sortedLE_insertionSort List.sortedLE_insertionSort ?_
    exact (List.perm_insertionSort _ _).trans
      (hkeys.trans (List.perm_insertionSort _ _).symm)
  unfold sortKeys
  rw [hsort]
  exact List.filterMap_congr fun k _ => by rw [h]

theorem map_fst_filterMap_lookup (m : JMap) (ks : List String) (h : ∀ k ∈ ks, k ∈ keys m) :
    (ks.filterMap fun k => (m.lookup k).map fun j => (k, j)).map Prod.fst = ks := by
  induction ks with
  | nil => rfl
  | cons k ks ih =>
    obtain ⟨j, hj⟩ := mem_keys.mp (h k List.mem_cons_self)
    have hks := ih fun k' hk' => h k' (List.mem_cons_of_mem k hk')
    rw [List.filterMap_cons, hj, Option.map_some, List.map_cons, hks]

theorem map_fst_sortKeys (m : JMap) :
    (sortKeys m).map Prod.fst = (keys m).insertionSort (· ≤ ·) :=
  map_fst_filterMap_lookup m _ fun _ hk => (List.mem_insertionSort _).mp hk

theorem nodup_sortKeys (m : JMap) : ((sortKeys m).map Prod.fst).Nodup := by
  rw [map_fst_sortKeys]
  exact (List.perm_insertionSort _ _).nodup_iff.mpr (keys_nodup m)

theorem mem_sortKeys {m : JMap} {kv : String × Json} :
    kv ∈ sortKeys m ↔ m.lookup kv.1 = some kv.2 := by
  obtain ⟨k, j⟩ := kv
  simp only [sortKeys, List.mem_filterMap, List.mem_insertionSort, Option.map_eq_some_iff,
    Prod.mk.injEq, mem_keys]
  constructor
  · rintro ⟨_, -, _, h, rfl, rfl⟩
    exact h
  · exact fun h => ⟨k, ⟨j, h⟩, j, h, rfl, rfl⟩

theorem lookup_sortKeys (m : JMap) (k : String) : (sortKeys m).lookup k = m.lookup k :=
  Option.ext fun j => by rw [lookup_eq_some (nodup_sortKeys m), mem_sortKeys]

/-- Two objects are the same when they have the same value under every name. -/
theorem same_obj_iff (m m' : JMap) :
    Same (.obj m) (.obj m') ↔ ∀ k, (m.lookup k).map sorted = (m'.lookup k).map sorted := by
  unfold Same
  rw [sorted, sorted, Json.obj.injEq]
  constructor
  · intro h k
    rw [← lookup_sortedMap, ← lookup_sortedMap, ← lookup_sortKeys, h, lookup_sortKeys]
  · intro h
    refine sortKeys_congr fun k => ?_
    rw [lookup_sortedMap, lookup_sortedMap, h k]

theorem sorted_sorted (j : Json) : sorted (sorted j) = sorted j := by
  induction j using Json.induction with
  | null | bool b | int n | float q | str s => simp only [sorted]
  | arr l ih =>
    simp only [sorted, sortedSlice_eq, List.map_map]
    exact congrArg Json.arr (List.map_congr_left ih)
  | obj m ih =>
    rw [sorted]
    refine (same_obj_iff _ _).mpr fun k => ?_
    rw [lookup_sortKeys, lookup_sortedMap, Option.map_map]
    cases hk : m.lookup k with
    | none => rfl
    | some j =>
      exact congrArg some (ih (k, j) (mem_of_lookup hk))

end JsonSame

end HybridOperator.Lib
