/-
  The schema diff of schema_diff.go: `specProperties`, `compareOpenAPISchemas` with its inner
  `walk`, and `hasFieldInSpec`.

  `walk` only appends to its two result lists, so it is written as the concatenation of what
  each property of the current schema contributes, in the order of the `range`. That order may
  differ from call to call: `order` gives one for every call, which the names on the way to it
  identify. `walk` recurses into the nested properties of the current schema, so the depth of
  that schema bounds the recursion; `walk_eq_nil_iff` holds from that bound on.

  What the diff sees are the properties reached through `properties` alone (`propAt`). What a
  schema declares is more: a field below an array is reached through `items` (`resolve`).

  Proved:
  * `compareOpenAPISchemas_eq_nil_iff`: the diff is empty exactly when every path of properties
    of the current schema leads to a property of the target whose declared type agrees.
  * `hasFieldInSpec_join`: looking up a joined path follows its names one after the other,
    when no name contains the separator.
-/
import HybridOperator.Lib.GoMap
import HybridOperator.Lib.GoStrings
import HybridOperator.Lib.Json

namespace HybridOperator.Collector

open HybridOperator.Lib

/-- The declared type, empty when there is none. -/
def typeOf (m : JMap) : String := stringField m "type"

def specProperties (schema : JMap) : Option JMap :=
  ((mapField schema "properties").bind (mapField · "spec")).bind (mapField · "properties")

def hasFieldInSpec (spec : JMap) (fieldPath : String) : Bool :=
  (nestedField (.obj spec) (GoStrings.split fieldPath '.')).isSome

/-- The path of a property below `pfx`. -/
def pathBelow (pfx name : String) : String :=
  if pfx ≠ "" then pfx ++ "." ++ name else name

/-- The entry for a declared type that changes; none unless both types are given. -/
def typeMutation (path cType tType : String) : List String :=
  if cType ≠ "" ∧ tType ≠ "" ∧ cType ≠ tType then
    [path ++ " (" ++ cType ++ " -> " ++ tType ++ ")"]
  else []

/-- One round of the loop in `walk`: what the property `name` with the current schema `cRaw`
    adds to `removedFields` and to `typeMutations`. -/
def visit (recurse : String → JMap → JMap → List String × List String) (pfx : String)
    (tgt : JMap) (name : String) (cRaw : Json) : List String × List String :=
  let path := pathBelow pfx name
  match tgt.lookup name with
  | none => ([path], [])
  | some tRaw =>
      let cMap := cRaw.asMap.getD []
      let tMap := tRaw.asMap.getD []
      let mutated := typeMutation path (typeOf cMap) (typeOf tMap)
      match mapField cMap "properties" with
      | none => ([], mutated)
      | some cNested =>
          -- a nested object collapsed in the target counts as one without properties
          let tNested := (mapField tMap "properties").getD []
          let below := recurse path cNested tNested
          (below.1, mutated ++ below.2)

def walk (order : List String → RangeOrder String) :
    Nat → List String → String → JMap → JMap → List String × List String
  | 0, _, _, _, _ => ([], [])
  | fuel + 1, names, pfx, cur, tgt =>
      let found := ((order names).order (keys cur)).map fun name =>
        visit (walk order fuel (names ++ [name])) pfx tgt name ((cur.lookup name).getD .null)
      (found.flatMap Prod.fst, found.flatMap Prod.snd)

/-- `(removedFields, typeMutations)`. -/
def compareOpenAPISchemas (order : List String → RangeOrder String)
    (currentSchema targetSchema : JMap) : List String × List String :=
  match specProperties currentSchema, specProperties targetSchema with
  | some currentSpec, some targetSpec =>
      walk order (Json.depthMap currentSpec + 1) [] "" currentSpec targetSpec
  | _, _ => ([], [])

/-! ## Paths of properties -/

/-- The properties an object schema declares for its fields. -/
def nestedProperties (schema : Json) : Option JMap :=
  schema.asMap.bind (mapField · "properties")

/-- The property that a path of names leads to, through `properties` alone. -/
def propAt (props : JMap) : List String → Option Json
  | [] => none
  | [k] => props.lookup k
  | k :: k' :: ks =>
      ((props.lookup k).bind nestedProperties).bind fun nested => propAt nested (k' :: ks)

/-- Both schemas declare a type and the two differ. -/
def TypeChanges (c t : Json) : Prop :=
  typeOf (c.asMap.getD []) ≠ "" ∧ typeOf (t.asMap.getD []) ≠ "" ∧
    typeOf (c.asMap.getD []) ≠ typeOf (t.asMap.getD [])

/-- Every path of properties of `cur` leads to a property of `tgt` of the same declared type. -/
def PropertiesKept (cur tgt : JMap) : Prop :=
  ∀ path c, propAt cur path = some c → ∃ t, propAt tgt path = some t ∧ ¬ TypeChanges c t

theorem nestedProperties_eq (j : Json) :
    nestedProperties j = mapField (j.asMap.getD []) "properties" := by
  cases j <;> rfl

theorem depthMap_lt_of_nestedProperties {m nested : JMap} {k : String} {c : Json}
    (hc : m.lookup k = some c) (hn : nestedProperties c = some nested) :
    Json.depthMap nested < Json.depthMap m := by
  obtain ⟨fields, hf, hp⟩ := Option.bind_eq_some_iff.mp hn
  obtain ⟨p, hp', hpm⟩ := Option.bind_eq_some_iff.mp hp
  rw [Json.asMap_eq_some] at hf hpm
  subst hf hpm
  have h1 := Json.depthMap_lt_of_lookup hp'
  have h2 := Json.depthMap_lt_of_lookup hc
  omega

theorem typeMutation_eq_nil_iff (path : String) (c t : Json) :
    typeMutation path (typeOf (c.asMap.getD [])) (typeOf (t.asMap.getD [])) = [] ↔
      ¬ TypeChanges c t := by
  unfold typeMutation TypeChanges
  split <;> simp_all

/-! ## When the diff is empty -/

/-- What it takes for one property of the current schema to be kept. -/
def PropertyKept (tgt : JMap) (name : String) (c : Json) : Prop :=
  ∃ t, tgt.lookup name = some t ∧ ¬ TypeChanges c t ∧
    ∀ nested, nestedProperties c = some nested →
      PropertiesKept nested ((nestedProperties t).getD [])

theorem visit_eq_nil_iff {recurse : String → JMap → JMap → List String × List String}
    {pfx name : String} {tgt : JMap} {c : Json}
    (hrec : ∀ path nested t', nestedProperties c = some nested →
      (recurse path nested t' = ([], []) ↔ PropertiesKept nested t')) :
    visit recurse pfx tgt name c = ([], []) ↔ PropertyKept tgt name c := by
  unfold visit PropertyKept
  cases ht : tgt.lookup name with
  | none => simp
  | some t =>
    simp only [Option.some.injEq, exists_eq_left']
    rw [← nestedProperties_eq, ← nestedProperties_eq]
    cases hn : nestedProperties c with
    | none => simp [typeMutation_eq_nil_iff]
    | some nested =>
      simp only [Option.some.injEq, forall_eq', Prod.mk.injEq, List.append_eq_nil_iff,
        typeMutation_eq_nil_iff]
      rw [← hrec (pathBelow pfx name) nested _ hn, Prod.ext_iff]
      tauto

theorem propertyKept_of_propertiesKept {cur tgt : JMap} {name : String} {c : Json}
    (h : PropertiesKept cur tgt) (hc : cur.lookup name = some c) : PropertyKept tgt name c := by
  obtain ⟨t, ht, htype⟩ := h [name] c hc
  refine ⟨t, ht, htype, fun nested hn path d hd => ?_⟩
  cases path with
  | nil => cases hd
  | cons k ks =>
    have hcur : propAt cur (name :: k :: ks) = some d := by
      simp only [propAt, hc, Option.bind_some, hn]
      exact hd
    obtain ⟨t', ht', htype'⟩ := h _ _ hcur
    have ht₀ : tgt.lookup name = some t := ht
    simp only [propAt, ht₀, Option.bind_some] at ht'
    obtain ⟨tNested, htn, ht''⟩ := Option.bind_eq_some_iff.mp ht'
    exact ⟨t', by rw [htn]; exact ht'', htype'⟩

theorem propertiesKept_iff (cur tgt : JMap) :
    PropertiesKept cur tgt ↔
      ∀ name c, cur.lookup name = some c → PropertyKept tgt name c := by
  constructor
  · intro h name c hc
    exact propertyKept_of_propertiesKept h hc
  · intro h path d hd
    match path, hd with
    | [k], hd =>
      obtain ⟨t, ht, htype, -⟩ := h k d hd
      exact ⟨t, ht, htype⟩
    | k :: k' :: ks, hd =>
      obtain ⟨nested, hk, hd'⟩ := Option.bind_eq_some_iff.mp hd
      obtain ⟨c, hc, hn⟩ := Option.bind_eq_some_iff.mp hk
      obtain ⟨t, ht, -, hbelow⟩ := h k c hc
      obtain ⟨t', ht', htype⟩ := hbelow nested hn _ _ hd'
      refine ⟨t', ?_, htype⟩
      cases htn : nestedProperties t with
      | none =>
        -- a collapsed target object has no properties left to lead to
        rw [htn] at ht'
        cases ks <;> cases ht'
      | some tNested =>
        rw [htn] at ht'
        simp only [propAt, ht, Option.bind_some, htn]
        exact ht'

/-- With fuel beyond the depth of the current properties, `walk` finds nothing exactly when
    they are all kept. -/
theorem walk_eq_nil_iff (order : List String → RangeOrder String) (fuel : Nat)
    (names : List String) (pfx : String) (cur tgt : JMap) (hfuel : Json.depthMap cur < fuel) :
    walk order fuel names pfx cur tgt = ([], []) ↔ PropertiesKept cur tgt := by
  induction fuel generalizing names pfx cur tgt with
  | zero => omega
  | succ fuel ih =>
    rw [propertiesKept_iff, walk, Prod.ext_iff]
    simp only [List.flatMap_map, List.flatMap_eq_nil_iff, RangeOrder.mem_order, mem_keys,
      forall_exists_index]
    have hvisit : ∀ name c, cur.lookup name = some c →
        (visit (walk order fuel (names ++ [name])) pfx tgt name c = ([], []) ↔
          PropertyKept tgt name c) := by
      intro name c hc
      refine visit_eq_nil_iff fun path nested t' hn => ih _ _ _ _ ?_
      have := depthMap_lt_of_nestedProperties hc hn
      omega
    constructor
    · intro h name c hc
      rw [← hvisit name c hc, Prod.ext_iff]
      have h1 := h.1 name c hc
      have h2 := h.2 name c hc
      rw [hc] at h1 h2
      exact ⟨h1, h2⟩
    · intro h
      refine ⟨fun name c hc => ?_, fun name c hc => ?_⟩ <;>
        rw [hc, Option.getD_some, (hvisit name c hc).mpr (h name c hc)]

/-- The diff of two schemas with spec properties is empty exactly when all properties are kept. -/
theorem compareOpenAPISchemas_eq_nil_iff (order : List String → RangeOrder String)
    {currentSchema targetSchema cur tgt : JMap} (hc : specProperties currentSchema = some cur)
    (ht : specProperties targetSchema = some tgt) :
    compareOpenAPISchemas order currentSchema targetSchema = ([], []) ↔
      PropertiesKept cur tgt := by
  rw [compareOpenAPISchemas, hc, ht]
  exact walk_eq_nil_iff order _ [] "" cur tgt (Nat.lt_succ_self _)

/-! ## Looking a path up in a spec -/

/-- The lookup of a joined path follows its names one after the other. -/
theorem hasFieldInSpec_join (spec : JMap) {names : List String} (hne : names ≠ [])
    (hdot : ∀ n ∈ names, '.' ∉ n.toList) :
    hasFieldInSpec spec (GoStrings.join names '.') = (nestedField (.obj spec) names).isSome := by
  rw [hasFieldInSpec, GoStrings.split_join hne hdot]

end HybridOperator.Collector
