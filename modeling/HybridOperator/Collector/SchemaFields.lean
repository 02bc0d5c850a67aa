/-
  What an empty schema diff says about the fields users can have set.

  A path is a sequence of steps: into a field of an object, or into the elements of an array.
  `Occurs v p` says that the field `p` ends in is set somewhere in the value `v`; `resolve`
  follows a path through a schema, by `properties` and by `items`. `Covers` is the meaning the
  diff is for: whatever the value, when the current schema declares all its fields, so does
  the target schema.

  `walk` does not enter `items`. So `Covers` does not follow from an empty diff
  (`empty_diff_misses_items`); what does follow, exactly, is `empty_diff_covers_iff`.
-/
import HybridOperator.Collector.SchemaDiff

namespace HybridOperator.Collector

open HybridOperator.Lib

inductive PathStep where
  | field (name : String)
  | elem
deriving DecidableEq

/-- The sub-schema one step leads to. -/
def stepInto (schema : Json) : PathStep → Option Json
  | .field name => (nestedProperties schema).bind (List.lookup name)
  | .elem => schema.asMap.bind (List.lookup "items")

/-- The sub-schema a path leads to. -/
def resolve (schema : Json) : List PathStep → Option Json
  | [] => some schema
  | s :: p => (stepInto schema s).bind (resolve · p)

/-- The field that `p` ends in occurs in the value. -/
inductive Occurs : Json → List PathStep → Prop where
  | here {m : JMap} {name : String} {v : Json} :
      m.lookup name = some v → Occurs (.obj m) [.field name]
  | inField {m : JMap} {name : String} {v : Json} {p : List PathStep} :
      m.lookup name = some v → Occurs v p → Occurs (.obj m) (.field name :: p)
  | inElem {l : List Json} {v : Json} {p : List PathStep} :
      v ∈ l → Occurs v p → Occurs (.arr l) (.elem :: p)

/-- Every field occurring in the value is declared by the schema. -/
def Declares (schema v : Json) : Prop := ∀ p, Occurs v p → (resolve schema p).isSome = true

/-- The schema of `.spec` in an `openAPIV3Schema`, empty when there is none. -/
def specSchema (schema : JMap) : Json :=
  .obj (((mapField schema "properties").bind (mapField · "spec")).getD [])

/-- Every field a value can have under the current schema it can have under the target. -/
def Covers (currentSchema targetSchema : JMap) : Prop :=
  ∀ v, Declares (specSchema currentSchema) v → Declares (specSchema targetSchema) v

/-- The target declares every field that the current schema declares below some `items`. -/
def ItemsKept (currentSchema targetSchema : JMap) : Prop :=
  ∀ p name, PathStep.elem ∈ p →
    (resolve (specSchema currentSchema) (p ++ [.field name])).isSome = true →
    (resolve (specSchema targetSchema) (p ++ [.field name])).isSome = true

/-! ## Paths through a schema -/

theorem resolve_append (schema : Json) (p q : List PathStep) :
    resolve schema (p ++ q) = (resolve schema p).bind (resolve · q) := by
  induction p generalizing schema with
  | nil => rfl
  | cons s p ih =>
    simp only [List.cons_append, resolve]
    cases stepInto schema s with
    | none => rfl
    | some sub => exact ih sub

theorem isSome_resolve_prefix {schema : Json} {p q : List PathStep} (hpq : p <+: q)
    (hq : (resolve schema q).isSome = true) : (resolve schema p).isSome = true := by
  obtain ⟨r, rfl⟩ := hpq
  rw [resolve_append] at hq
  cases h : resolve schema p with
  | none => rw [h] at hq; cases hq
  | some sub => rfl

/-- Through `properties` alone a path resolves as `propAt` looks it up. -/
theorem resolve_fields {schema : Json} {props : JMap} (hp : nestedProperties schema = some props)
    {names : List String} (hne : names ≠ []) :
    resolve schema (names.map .field) = propAt props names := by
  induction names generalizing schema props with
  | nil => exact absurd rfl hne
  | cons k ks ih =>
    simp only [List.map_cons, resolve, stepInto, hp, Option.bind_some]
    cases ks with
    | nil => cases h : props.lookup k <;> simp [propAt, h, resolve]
    | cons k' ks =>
      simp only [propAt]
      cases h : props.lookup k with
      | none => rfl
      | some sub =>
        simp only [Option.bind_some]
        cases hn : nestedProperties sub with
        | none => simp [resolve, stepInto, hn]
        | some nested =>
          rw [Option.bind_some]
          exact ih hn (by simp)

theorem nestedProperties_specSchema (schema : JMap) :
    nestedProperties (specSchema schema) = specProperties schema := by
  unfold specSchema specProperties
  cases (mapField schema "properties").bind (mapField · "spec") with
  | none => rfl
  | some spec => rfl

/-- A path without an array step is a path of names. -/
theorem exists_names {p : List PathStep} (h : PathStep.elem ∉ p) :
    ∃ names : List String, p = names.map .field := by
  induction p with
  | nil => exact ⟨[], rfl⟩
  | cons s p ih =>
    obtain ⟨names, rfl⟩ := ih fun hm => h (List.mem_cons_of_mem _ hm)
    cases s with
    | field name => exact ⟨name :: names, rfl⟩
    | elem => exact absurd List.mem_cons_self h

/-! ## Values with one field -/

/-- The value that has exactly the fields on one path. -/
def valueOf : List PathStep → Json
  | [] => .null
  | .field name :: p => .obj [(name, valueOf p)]
  | .elem :: p => .arr [valueOf p]

theorem occurs_valueOf (p : List PathStep) (name : String) :
    Occurs (valueOf (p ++ [.field name])) (p ++ [.field name]) := by
  induction p with
  | nil => exact .here (List.lookup_cons_self)
  | cons s p ih =>
    cases s with
    | field k => exact .inField List.lookup_cons_self ih
    | elem => exact .inElem List.mem_cons_self ih

theorem prefix_of_occurs_valueOf {p q : List PathStep} (h : Occurs (valueOf p) q) : q <+: p := by
  induction p generalizing q with
  | nil => cases h
  | cons s p ih =>
    cases s with
    | field k =>
      cases h with
      | here hk =>
        obtain ⟨rfl, -⟩ := lookup_singleton_eq_some hk
        exact ⟨p, rfl⟩
      | inField hk hq =>
        obtain ⟨rfl, rfl⟩ := lookup_singleton_eq_some hk
        exact List.cons_prefix_cons.mpr ⟨rfl, ih hq⟩
    | elem =>
      cases h with
      | inElem hv hq =>
        obtain rfl := List.mem_singleton.mp hv
        exact List.cons_prefix_cons.mpr ⟨rfl, ih hq⟩

theorem declares_valueOf {schema : Json} {p : List PathStep}
    (h : (resolve schema p).isSome = true) : Declares schema (valueOf p) :=
  fun _ hq => isSome_resolve_prefix (prefix_of_occurs_valueOf hq) h

theorem occurs_ends_in_field {v : Json} {p : List PathStep} (h : Occurs v p) :
    ∃ q name, p = q ++ [.field name] := by
  induction h with
  | here _ => exact ⟨[], _, rfl⟩
  | inField _ _ ih =>
    obtain ⟨q, name, rfl⟩ := ih
    exact ⟨.field _ :: q, name, rfl⟩
  | inElem _ _ ih =>
    obtain ⟨q, name, rfl⟩ := ih
    exact ⟨.elem :: q, name, rfl⟩

/-- A schema declares every value another one declares exactly when it resolves every path to
    a field that the other resolves. -/
theorem forall_declares_iff (s t : Json) :
    (∀ v, Declares s v → Declares t v) ↔
      ∀ p name, (resolve s (p ++ [.field name])).isSome = true →
        (resolve t (p ++ [.field name])).isSome = true := by
  constructor
  · intro h p name hs
    exact h _ (declares_valueOf hs) _ (occurs_valueOf p name)
  · intro h v hv p hp
    obtain ⟨q, name, rfl⟩ := occurs_ends_in_field hp
    exact h q name (hv _ hp)

/-! ## The empty diff -/

theorem covers_iff_of_propertiesKept {currentSchema targetSchema cur tgt : JMap}
    (hc : specProperties currentSchema = some cur) (ht : specProperties targetSchema = some tgt)
    (hk : PropertiesKept cur tgt) :
    Covers currentSchema targetSchema ↔ ItemsKept currentSchema targetSchema := by
  rw [Covers, forall_declares_iff]
  constructor
  · intro h p name _
    exact h p name
  · intro h p name hs
    by_cases he : PathStep.elem ∈ p
    · exact h p name he hs
    · obtain ⟨names, rfl⟩ := exists_names he
      have hpath : names.map PathStep.field ++ [.field name] = (names ++ [name]).map .field := by
        simp
      rw [hpath, resolve_fields (by rw [nestedProperties_specSchema, hc]) (by simp)] at hs
      rw [hpath, resolve_fields (by rw [nestedProperties_specSchema, ht]) (by simp)]
      obtain ⟨c, hcur⟩ := Option.isSome_iff_exists.mp hs
      obtain ⟨t, htgt, -⟩ := hk _ c hcur
      rw [htgt]
      rfl

/-- An empty diff means that no field a user can have set disappears, exactly when the target
    keeps the fields below arrays or a property reached through `properties` alone is already
    missing or of another type in the target. -/
theorem empty_diff_covers_iff (order : List String → RangeOrder String)
    (currentSchema targetSchema cur tgt : JMap) (hc : specProperties currentSchema = some cur)
    (ht : specProperties targetSchema = some tgt) :
    (compareOpenAPISchemas order currentSchema targetSchema = ([], []) →
        Covers currentSchema targetSchema) ↔
      ItemsKept currentSchema targetSchema ∨ ¬ PropertiesKept cur tgt := by
  rw [compareOpenAPISchemas_eq_nil_iff order hc ht]
  constructor
  · intro h
    by_cases hk : PropertiesKept cur tgt
    · exact Or.inl ((covers_iff_of_propertiesKept hc ht hk).mp (h hk))
    · exact Or.inr hk
  · rintro (hi | hn) hk
    · exact (covers_iff_of_propertiesKept hc ht hk).mpr hi
    · exact absurd hk hn

/-! ### A list of listeners -/

/-- A schema whose spec is an array `listeners` of objects with the given properties. -/
def listenersSchema (properties : JMap) : JMap :=
  [("properties", .obj [("spec", .obj [("properties", .obj [("listeners", .obj
    [("type", .str "array"), ("items", .obj [("properties", .obj properties)])])])])])]

/-- Both schemas have spec properties, the target drops the port of a listener, and the diff is
    empty. -/
theorem empty_diff_misses_items :
    (specProperties (listenersSchema [("port", .obj []), ("name", .obj [])])).isSome = true ∧
      (specProperties (listenersSchema [("name", .obj [])])).isSome = true ∧
      compareOpenAPISchemas (fun _ => .asStored)
        (listenersSchema [("port", .obj []), ("name", .obj [])])
        (listenersSchema [("name", .obj [])]) = ([], []) ∧
      ¬ Covers (listenersSchema [("port", .obj []), ("name", .obj [])])
        (listenersSchema [("name", .obj [])]) := by
  refine ⟨by decide, by decide, by decide, fun hcovers => ?_⟩
  let path : List PathStep := [.field "listeners", .elem]
  have hset := hcovers (valueOf (path ++ [.field "port"])) (declares_valueOf (by decide))
  have hport := hset _ (occurs_valueOf path "port")
  revert hport
  decide

theorem empty_diff_covers_iff_listeners :
    (compareOpenAPISchemas (fun _ => .asStored)
        (listenersSchema [("port", .obj []), ("name", .obj [])])
        (listenersSchema [("name", .obj [])]) = ([], []) →
      Covers (listenersSchema [("port", .obj []), ("name", .obj [])])
        (listenersSchema [("name", .obj [])])) ↔
      ItemsKept (listenersSchema [("port", .obj []), ("name", .obj [])])
          (listenersSchema [("name", .obj [])]) ∨
        ¬ PropertiesKept
          [("listeners", .obj [("type", .str "array"),
            ("items", .obj [("properties", .obj [("port", .obj []), ("name", .obj [])])])])]
          [("listeners", .obj [("type", .str "array"),
            ("items", .obj [("properties", .obj [("name", .obj [])])])])] :=
  empty_diff_covers_iff (fun _ => .asStored) _ _ _ _ rfl rfl

end HybridOperator.Collector
