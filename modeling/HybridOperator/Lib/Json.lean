/-
  JSON documents as a Go program sees them after decoding into `interface{}`: maps from
  strings, slices, strings, booleans, integers (`int64`), other numbers, `nil`.

  A map is a list of bindings of which the first with a given key counts, so every list
  denotes a map and no side condition on duplicate keys is needed. What a `range` over the
  map visits is `keys`, each key once.

  The accessors (`nestedField`, `nestedString`, …, `setNestedField`) follow the documented
  behaviour of the `unstructured` helpers: a value is found when every field on the path is
  there and it has the asked type. A missing field and a field of another type both give
  `none`, since the callers drop the error and keep the zero value.
-/
import Mathlib.Data.List.Dedup
import Mathlib.Data.List.Basic
import Mathlib.Data.Rat.Defs

namespace HybridOperator.Lib

/-- A decoded JSON value. -/
inductive Json where
  | null
  | bool (b : Bool)
  | int (n : Int)
  | float (q : ℚ)
  | str (s : String)
  | arr (items : List Json)
  | obj (fields : List (String × Json))

/-- A `map[string]interface{}`. -/
abbrev JMap := List (String × Json)

namespace Json

/-! ## Type assertions -/

/-- `v.(map[string]interface{})`. -/
def asMap : Json → Option JMap
  | obj m => some m
  | _ => none

/-- `v.([]interface{})`. -/
def asSlice : Json → Option (List Json)
  | arr l => some l
  | _ => none

/-- `v.(string)`. -/
def asString : Json → Option String
  | str s => some s
  | _ => none

/-- `v.(bool)`. -/
def asBool : Json → Option Bool
  | bool b => some b
  | _ => none

/-- `v.(int64)`. -/
def asInt : Json → Option Int
  | int n => some n
  | _ => none

theorem asMap_eq_some {j : Json} {m : JMap} : j.asMap = some m ↔ j = obj m := by
  cases j <;> simp [asMap]

/-! ## Depth -/

mutual
/-- Nesting depth: scalars have depth `0`. -/
def depth : Json → Nat
  | arr l => depthSlice l + 1
  | obj m => depthMap m + 1
  | _ => 0

def depthSlice : List Json → Nat
  | [] => 0
  | j :: js => max j.depth (depthSlice js)

def depthMap : List (String × Json) → Nat
  | [] => 0
  | (_, j) :: rest => max j.depth (depthMap rest)
end

theorem depth_le_of_lookup {m : JMap} {k : String} {j : Json} (h : m.lookup k = some j) :
    j.depth ≤ depthMap m := by
  induction m with
  | nil => simp at h
  | cons kv rest ih =>
    obtain ⟨k', j'⟩ := kv
    rw [List.lookup_cons] at h
    simp only [depthMap]
    split at h
    · obtain rfl := Option.some.inj h
      exact Nat.le_max_left _ _
    · exact Nat.le_trans (ih h) (Nat.le_max_right _ _)

theorem depthMap_lt_of_lookup {m m' : JMap} {k : String} (h : m.lookup k = some (obj m')) :
    depthMap m' < depthMap m := by
  have := depth_le_of_lookup h
  simp only [depth] at this
  omega

end Json

/-! ## Keys -/

/-- The keys of a map, each once: what a `range` over it visits, in some order. -/
def keys (m : JMap) : List String := (m.map Prod.fst).dedup

theorem keys_nodup (m : JMap) : (keys m).Nodup := List.nodup_dedup _

theorem mem_keys {m : JMap} {k : String} : k ∈ keys m ↔ ∃ j, m.lookup k = some j := by
  rw [keys, List.mem_dedup, List.mem_map, ← Option.isSome_iff_exists, List.lookup_isSome_iff]
  simp only [beq_iff_eq, eq_comm (a := k)]

theorem lookup_singleton_eq_some {k k' : String} {v w : Json}
    (h : List.lookup k' [(k, v)] = some w) : k' = k ∧ v = w := by
  rw [List.lookup_cons] at h
  split at h
  · rename_i hk
    exact ⟨beq_iff_eq.mp hk, Option.some.inj h⟩
  · cases h

/-! ## Accessors -/

/-- `m[k].(map[string]interface{})`. -/
def mapField (m : JMap) (k : String) : Option JMap := (m.lookup k).bind Json.asMap

/-- `m[k].([]interface{})`. -/
def sliceField (m : JMap) (k : String) : Option (List Json) := (m.lookup k).bind Json.asSlice

/-- `m[k].(string)`, empty when that is not a string. -/
def stringField (m : JMap) (k : String) : String := ((m.lookup k).bind Json.asString).getD ""

/-- The value at a path of field names, when every step goes through a map. -/
def nestedField (j : Json) : List String → Option Json
  | [] => some j
  | k :: ks => (j.asMap.bind (List.lookup k)).bind (nestedField · ks)

def nestedString (m : JMap) (path : List String) : Option String :=
  (nestedField (.obj m) path).bind Json.asString

def nestedBool (m : JMap) (path : List String) : Option Bool :=
  (nestedField (.obj m) path).bind Json.asBool

def nestedInt64 (m : JMap) (path : List String) : Option Int :=
  (nestedField (.obj m) path).bind Json.asInt

def nestedSlice (m : JMap) (path : List String) : Option (List Json) :=
  (nestedField (.obj m) path).bind Json.asSlice

def nestedMap (m : JMap) (path : List String) : Option JMap :=
  (nestedField (.obj m) path).bind Json.asMap

/-- The maps of a slice at a path, other elements passed over; none when it is missing. -/
def nestedMaps (m : JMap) (path : List String) : List JMap :=
  ((nestedSlice m path).getD []).filterMap Json.asMap

theorem nestedField_cons (m : JMap) (k : String) (ks : List String) :
    nestedField (.obj m) (k :: ks) = (m.lookup k).bind (nestedField · ks) := rfl

/-- A path with more than one step goes on in a map. -/
theorem nestedField_cons_cons (m : JMap) (k k' : String) (ks : List String) :
    nestedField (.obj m) (k :: k' :: ks) =
      (mapField m k).bind fun m' => nestedField (.obj m') (k' :: ks) := by
  rw [nestedField_cons, mapField]
  cases m.lookup k with
  | none => rfl
  | some j => cases j <;> rfl

theorem stringField_eq (m : JMap) (k : String) :
    stringField m k = (nestedString m [k]).getD "" := by
  unfold stringField nestedString
  rw [nestedField_cons]
  cases m.lookup k <;> rfl

/-! ## Writing a field -/

/-- `m[k] = v`. -/
def setField (m : JMap) (k : String) (v : Json) : JMap :=
  (k, v) :: m.filter fun kv => kv.1 ≠ k

theorem lookup_setField_self (m : JMap) (k : String) (v : Json) :
    (setField m k v).lookup k = some v := by
  simp [setField]

theorem lookup_filter_ne (m : JMap) {k k' : String} (h : k' ≠ k) :
    (m.filter fun kv => kv.1 ≠ k).lookup k' = m.lookup k' := by
  induction m with
  | nil => rfl
  | cons kv rest ih =>
    obtain ⟨k₀, j₀⟩ := kv
    by_cases h₀ : k₀ = k
    · have hb : (k' == k₀) = false := beq_false_of_ne (h₀ ▸ h)
      rw [List.filter_cons_of_neg (by simpa using h₀), List.lookup_cons, hb]
      exact ih
    · rw [List.filter_cons_of_pos (by simpa using h₀), List.lookup_cons, List.lookup_cons, ih]

theorem lookup_setField_ne (m : JMap) {k k' : String} (v : Json) (h : k' ≠ k) :
    (setField m k v).lookup k' = m.lookup k' := by
  have hb : (k' == k) = false := beq_false_of_ne h
  rw [setField, List.lookup_cons, hb]
  exact lookup_filter_ne m h

/-- Writes a value at a path, making the maps that are missing on the way; `none` (an error)
    when something on the way is there and is not a map. -/
def setNestedField (m : JMap) (v : Json) : List String → Option JMap
  | [] => none
  | [k] => some (setField m k v)
  | k :: k' :: ks =>
      match m.lookup k with
      | none => (setNestedField [] v (k' :: ks)).map fun m' => setField m k (.obj m')
      | some (.obj m') => (setNestedField m' v (k' :: ks)).map fun m'' => setField m k (.obj m'')
      | some _ => none

/-- One step of writing below `k`: the map that was there, or a new one, is written below. -/
theorem setNestedField_cons_cons {m m' : JMap} {v : Json} {k k' : String} {ks : List String}
    (h : setNestedField m v (k :: k' :: ks) = some m') :
    ∃ m₀ m₁, setNestedField m₀ v (k' :: ks) = some m₁ ∧ m' = setField m k (.obj m₁) ∧
      (m.lookup k = some (.obj m₀) ∨ m.lookup k = none ∧ m₀ = []) := by
  simp only [setNestedField] at h
  split at h
  · rename_i hk
    obtain ⟨m₁, h₁, rfl⟩ := Option.map_eq_some_iff.mp h
    exact ⟨[], m₁, h₁, rfl, Or.inr ⟨hk, rfl⟩⟩
  · rename_i m₀ hk
    obtain ⟨m₁, h₁, rfl⟩ := Option.map_eq_some_iff.mp h
    exact ⟨m₀, m₁, h₁, rfl, Or.inl hk⟩
  · cases h

/-- What was written is what is read back. -/
theorem nestedField_setNestedField {m m' : JMap} {v : Json} {path : List String}
    (h : setNestedField m v path = some m') : nestedField (.obj m') path = some v := by
  induction path generalizing m m' with
  | nil => simp [setNestedField] at h
  | cons k ks ih =>
    cases ks with
    | nil =>
      obtain rfl := Option.some.inj h
      rw [nestedField_cons, lookup_setField_self]
      rfl
    | cons k' ks =>
      obtain ⟨_, m₁, h₁, rfl, -⟩ := setNestedField_cons_cons h
      rw [nestedField_cons, lookup_setField_self]
      exact ih h₁

/-- Writing below `k` leaves every other top-level field as it was. -/
theorem lookup_setNestedField_ne {m m' : JMap} {v : Json} {k k' : String} {ks : List String}
    (h : setNestedField m v (k :: ks) = some m') (hne : k' ≠ k) :
    m'.lookup k' = m.lookup k' := by
  cases ks with
  | nil =>
    obtain rfl := Option.some.inj h
    exact lookup_setField_ne m v hne
  | cons k₁ ks =>
    obtain ⟨_, m₁, -, rfl, -⟩ := setNestedField_cons_cons h
    exact lookup_setField_ne m _ hne

theorem nestedField_nil_map (p : List String) (hp : p ≠ []) : nestedField (.obj []) p = none := by
  obtain ⟨k, ks, rfl⟩ := List.exists_cons_of_ne_nil hp
  rfl

/-- Writing at a path leaves every path that parts from it as it was. -/
theorem nestedField_setNestedField_of_parts {m m' : JMap} {v : Json} {path p : List String}
    (h : setNestedField m v path = some m') (hp : ¬ p <+: path) (hpath : ¬ path <+: p) :
    nestedField (.obj m') p = nestedField (.obj m) p := by
  induction path generalizing m m' p with
  | nil => exact absurd List.nil_prefix hpath
  | cons k ks ih =>
    have hne : p ≠ [] := fun hn => hp (hn ▸ List.nil_prefix)
    obtain ⟨q, qs, rfl⟩ := List.exists_cons_of_ne_nil hne
    rw [nestedField_cons, nestedField_cons]
    by_cases hq : q = k
    · subst hq
      have hqs : ¬ qs <+: ks := fun hpre => hp (List.cons_prefix_cons.mpr ⟨rfl, hpre⟩)
      have hks : ¬ ks <+: qs := fun hpre => hpath (List.cons_prefix_cons.mpr ⟨rfl, hpre⟩)
      have hne' : ks ≠ [] := fun hn => hks (hn ▸ List.nil_prefix)
      obtain ⟨k', ks', rfl⟩ := List.exists_cons_of_ne_nil hne'
      obtain ⟨m₀, m₁, h₁, rfl, hm₀⟩ := setNestedField_cons_cons h
      rw [lookup_setField_self, Option.bind_some, ih h₁ hqs hks]
      rcases hm₀ with hm₀ | ⟨hm₀, rfl⟩
      · rw [hm₀, Option.bind_some]
      · rw [hm₀, Option.bind_none]
        exact nestedField_nil_map qs fun hn => hqs (hn ▸ List.nil_prefix)
    · rw [lookup_setNestedField_ne h hq]

end HybridOperator.Lib
