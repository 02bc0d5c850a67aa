/-
  `encoding/json` decoding an object into a struct whose fields are strings.

  A key is stored in the field with exactly its name, else in the first one that it folds to; any
  other key is passed over. Field names are ASCII, so only two runes outside ASCII fold to a letter
  of one: the long s and the Kelvin sign. `null` leaves a field as it is, and a value of another
  type is an error of the whole decoding. A top-level `null` is decoded to the zero struct.

  Proved: `decode_object`, an object of strings under the names of fields is decoded to these
  strings, and the other fields stay empty.
-/
import HybridOperator.Lib.Json

namespace HybridOperator.Lib.StructDecode

/-- The rune that stands for all that are equal to it under `SimpleFold`. -/
def foldRune (c : Char) : Char :=
  if c.toNat = 0x17F then 's' else if c.toNat = 0x212A then 'k' else c.toLower

def foldName (s : String) : String := String.ofList (s.toList.map foldRune)

/-- The field that a key is stored in. -/
def fieldOf (fields : List String) (key : String) : Option String :=
  if key ∈ fields then some key else fields.find? fun field => foldName field = foldName key

/-- The struct so far, and whether every value had the right type. -/
structure Decoding where
  value : String → String
  typed : Bool

/-- One member of the object. -/
def store (fields : List String) (d : Decoding) (key : String) (v : Json) : Decoding :=
  match fieldOf fields key, v with
  | none, _ | some _, .null => d
  | some field, .str s => { d with value := Function.update d.value field s }
  | some _, _ => { d with typed := false }

/-- The members of a map, one for each key. -/
def members (m : JMap) : List (String × Json) :=
  (keys m).filterMap fun k => (m.lookup k).map fun v => (k, v)

/-- The fields' values, `none` for an error. -/
def decode (fields : List String) : Json → Option (String → String)
  | .null => some fun _ => ""
  | .obj m =>
      let d := (members m).foldl (fun d kv => store fields d kv.1 kv.2) ⟨fun _ => "", true⟩
      if d.typed then some d.value else none
  | _ => none

/-- An object of strings. -/
def strings (values : List (String × String)) : Json :=
  .obj (values.map fun kv => (kv.1, .str kv.2))

theorem lookup_of_nodup {m : JMap} (h : (m.map Prod.fst).Nodup) {kv : String × Json}
    (hkv : kv ∈ m) : m.lookup kv.1 = some kv.2 := by
  obtain ⟨before, after, rfl⟩ := List.append_of_mem hkv
  refine List.lookup_eq_some_iff.mpr ⟨before, after, rfl, fun p hp => bne_iff_ne.mpr ?_⟩
  rw [List.map_append, List.map_cons, List.nodup_append] at h
  exact fun heq => h.2.2 p.1 (List.mem_map_of_mem hp) kv.1 List.mem_cons_self heq.symm

theorem members_of_nodup {m : JMap} (h : (m.map Prod.fst).Nodup) : members m = m := by
  have hkeys : keys m = m.map Prod.fst := List.Nodup.dedup h
  have hmembers : ∀ l ⊆ m, (l.map Prod.fst).filterMap
      (fun k => (m.lookup k).map fun v => (k, v)) = l := by
    intro l hl
    induction l with
    | nil => rfl
    | cons kv l ih =>
      have hsub := List.cons_subset.mp hl
      rw [List.map_cons, List.filterMap_cons_some (b := kv) _, ih hsub.2]
      rw [lookup_of_nodup h hsub.1]
      rfl
  rw [members, hkeys]
  exact hmembers m fun _ hkv => hkv

/-- One after the other the strings are stored. -/
theorem foldl_store {fields : List String} {values : List (String × String)}
    (h : ∀ kv ∈ values, kv.1 ∈ fields) (d : Decoding) :
    (values.map fun kv => (kv.1, Json.str kv.2)).foldl
        (fun d kv => store fields d kv.1 kv.2) d =
      { d with
          value := values.foldl (fun value kv => Function.update value kv.1 kv.2) d.value } := by
  induction values generalizing d with
  | nil => rfl
  | cons kv values ih =>
    have hfield : fieldOf fields kv.1 = some kv.1 := if_pos (h kv List.mem_cons_self)
    have hstore : store fields d kv.1 (.str kv.2) =
        { d with value := Function.update d.value kv.1 kv.2 } := by
      unfold store
      rw [hfield]
    rw [List.map_cons, List.foldl_cons, hstore,
      ih fun kv' hkv' => h kv' (List.mem_cons_of_mem kv hkv'), List.foldl_cons]

theorem foldl_update_of_not_mem {values : List (String × String)} {field : String}
    (h : field ∉ values.map Prod.fst) (value : String → String) :
    values.foldl (fun value kv => Function.update value kv.1 kv.2) value field = value field := by
  induction values generalizing value with
  | nil => rfl
  | cons kv values ih =>
    rw [List.map_cons, List.mem_cons, not_or] at h
    rw [List.foldl_cons, ih h.2, Function.update_of_ne h.1]

theorem foldl_update_of_mem {values : List (String × String)} (h : (values.map Prod.fst).Nodup)
    {kv : String × String} (hkv : kv ∈ values) (value : String → String) :
    values.foldl (fun value kv => Function.update value kv.1 kv.2) value kv.1 = kv.2 := by
  induction values generalizing value with
  | nil => cases hkv
  | cons kv' values ih =>
    rw [List.map_cons, List.nodup_cons] at h
    rw [List.foldl_cons]
    rcases List.mem_cons.mp hkv with rfl | hkv
    · rw [foldl_update_of_not_mem h.1, Function.update_self]
    · exact ih h.2 hkv _

/-- The strings of an object under the names of fields are decoded to the values of these fields,
    and the other fields stay empty. -/
theorem decode_object (fields : List String) (values : List (String × String))
    (hnodup : (values.map Prod.fst).Nodup) (hfields : ∀ kv ∈ values, kv.1 ∈ fields) :
    ∃ value, decode fields (strings values) = some value ∧
      (∀ kv ∈ values, value kv.1 = kv.2) ∧
      ∀ field, field ∉ values.map Prod.fst → value field = "" := by
  have hkeys : ((values.map fun kv => (kv.1, Json.str kv.2)).map Prod.fst).Nodup := by
    rw [List.map_map]
    exact hnodup
  refine ⟨_, ?_, fun kv hkv => foldl_update_of_mem hnodup hkv fun _ => "",
    fun field hfield => foldl_update_of_not_mem hfield fun _ => ""⟩
  rw [strings, decode, members_of_nodup hkeys, foldl_store hfields]
  rfl

end HybridOperator.Lib.StructDecode
