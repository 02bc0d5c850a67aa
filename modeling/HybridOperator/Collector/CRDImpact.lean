/-
  `AnalyzeCRDBreakingChanges` and `getCurrentCRDSchema` of schema_diff.go.

  The loop over the current CRDs only appends to its result, so the result is put together from
  what each CRD adds (`impactOf`). The List and the Get for the CRD at place `k` are those of
  the client `dyn k`.

  Proved:
  * `hasBreakingImpact_iff`: the impact flag is set exactly when a violating CR is listed.
  * `mem_violatingCRs_iff`: an entry is listed exactly for a CR that the List returns and a
    field that the diff reports as removed and that is found in the spec of the CR.
-/
import HybridOperator.Collector.SchemaDiff
import HybridOperator.Collector.Types

namespace HybridOperator.Collector

open HybridOperator.Lib

/-- One round of the loop over the target's owned CRDs: `targetSchemaMap[kind] = schema`. -/
def addTargetSchema (targetSchemas : GoMap String JMap) (item : Json) : GoMap String JMap :=
  match item.asMap with
  | none => targetSchemas
  | some crdMap =>
      match nestedMap crdMap ["openAPIV3Schema"] with
      | none => targetSchemas
      | some openAPISchema =>
          targetSchemas.insert ((nestedString crdMap ["kind"]).getD "") openAPISchema

/-- The owned CRDs of a CSV: `spec.customresourcedefinitions.owned`. -/
def ownedEntries (csv : JMap) : Option (List Json) :=
  nestedSlice csv ["spec", "customresourcedefinitions", "owned"]

/-- The resource a CRD is served as, when its name splits into plural and group. -/
def gvrOf (crd : CRDInfo) : Option GroupVersionResource :=
  (GoStrings.splitN2 crd.name '.').map fun (plural, group) => ⟨group, crd.version, plural⟩

def getCurrentCRDSchema (dyn : DynClient) (crdName version : String) : Option JMap :=
  match dyn.get crdGVR "" crdName with
  | .error _ => none
  | .ok obj =>
      (nestedMaps obj.object ["spec", "versions"]).findSome? fun vMap =>
        if (nestedString vMap ["name"]).getD "" = version then
          nestedMap vMap ["schema", "openAPIV3Schema"]
        else none

def impactDetail (crd : CRDInfo) (cr : Unstructured) (removedField : String) : CRImpactDetail where
  crName := cr.getName
  crNamespace := cr.getNamespace
  crdKind := crd.kind
  breakingField := "spec." ++ removedField
  reason := "Field 'spec." ++ removedField ++
    "' is removed in target version but actively configured on this CR"

/-- What one CR adds to `ViolatingCRs`. -/
def violations (crd : CRDInfo) (removed : List String) (cr : Unstructured) :
    List CRImpactDetail :=
  match nestedMap cr.object ["spec"] with
  | none => []
  | some crSpec => (removed.filter (hasFieldInSpec crSpec)).map (impactDetail crd cr)

/-- What one CRD adds to the result; nothing on every path that the loop `continue`s on. -/
def impactOf (dyn : DynClient) (order : List String → RangeOrder String) (ns : String)
    (targetSchemas : GoMap String JMap) (crd : CRDInfo) : CRDDiffResult :=
  match targetSchemas.lookup crd.kind, gvrOf crd with
  | some targetSchema, some gvr =>
      match dyn.list gvr ns "" with
      | .error _ => {}
      | .ok [] => {}
      | .ok crs =>
          match getCurrentCRDSchema dyn crd.name crd.version with
          | none => {}
          | some currentSchema =>
              let (removed, mutated) := compareOpenAPISchemas order currentSchema targetSchema
              let violating := crs.flatMap (violations crd removed)
              { hasBreakingImpact := !violating.isEmpty
                removedFields := removed
                typeMutations := mutated
                violatingCRs := violating }
  | _, _ => {}

def analyzeCRDBreakingChanges (dyn : Nat → DynClient)
    (order : Nat → List String → RangeOrder String) (ns : String) (currentCRDs : List CRDInfo)
    (targetCSV : Option JMap) : CRDDiffResult :=
  match targetCSV.bind ownedEntries with
  | none => {}
  | some targetCRDSpecs =>
      let targetSchemas := targetCRDSpecs.foldl addTargetSchema ∅
      let parts := currentCRDs.zipIdx.map fun (crd, k) =>
        impactOf (dyn k) (order k) ns targetSchemas crd
      { hasBreakingImpact := parts.any (·.hasBreakingImpact)
        removedFields := parts.flatMap (·.removedFields)
        typeMutations := parts.flatMap (·.typeMutations)
        violatingCRs := parts.flatMap (·.violatingCRs) }

/-! ## The target schemas -/

/-- The kind and the schema an entry of the owned list declares. -/
def entrySchema (item : Json) : Option (String × JMap) :=
  item.asMap.bind fun crdMap =>
    (nestedMap crdMap ["openAPIV3Schema"]).map fun schema =>
      ((nestedString crdMap ["kind"]).getD "", schema)

theorem addTargetSchema_eq (m : GoMap String JMap) (item : Json) :
    addTargetSchema m item = match entrySchema item with
      | none => m
      | some (kind, schema) => m.insert kind schema := by
  unfold addTargetSchema entrySchema
  cases item.asMap with
  | none => rfl
  | some crdMap => cases h : nestedMap crdMap ["openAPIV3Schema"] <;> simp [h]

theorem lookup_foldl_addTargetSchema_of_not_mem {items : List Json} {kind : String}
    (hno : kind ∉ (items.filterMap entrySchema).map Prod.fst) (m : GoMap String JMap) :
    (items.foldl addTargetSchema m).lookup kind = m.lookup kind := by
  induction items generalizing m with
  | nil => rfl
  | cons item items ih =>
    rw [List.foldl_cons]
    cases he : entrySchema item with
    | none =>
      rw [List.filterMap_cons_none he] at hno
      rw [ih hno, addTargetSchema_eq, he]
    | some entry =>
      rw [List.filterMap_cons_some he, List.map_cons, List.mem_cons, not_or] at hno
      rw [ih hno.2, addTargetSchema_eq, he]
      exact AList.lookup_insert_ne hno.1

/-- When every kind is declared once, the map has the schema of each entry. -/
theorem lookup_foldl_addTargetSchema {items : List Json} {kind : String} {schema : JMap}
    (hnd : ((items.filterMap entrySchema).map Prod.fst).Nodup)
    (hmem : (kind, schema) ∈ items.filterMap entrySchema) (m : GoMap String JMap) :
    (items.foldl addTargetSchema m).lookup kind = some schema := by
  induction items generalizing m with
  | nil => cases hmem
  | cons item items ih =>
    rw [List.foldl_cons]
    cases he : entrySchema item with
    | none =>
      rw [List.filterMap_cons_none he] at hnd hmem
      exact ih hnd hmem _
    | some entry =>
      rw [List.filterMap_cons_some he] at hnd hmem
      obtain ⟨hnew, hnd⟩ := List.nodup_cons.mp hnd
      rcases List.mem_cons.mp hmem with heq | hlater
      · -- no later entry has this kind, so its schema stays
        subst heq
        rw [lookup_foldl_addTargetSchema_of_not_mem hnew, addTargetSchema_eq, he]
        exact AList.lookup_insert m
      · exact ih hnd hlater _

/-! ## What is reported -/

theorem mem_violations {crd : CRDInfo} {removed : List String} {cr : Unstructured}
    {d : CRImpactDetail} :
    d ∈ violations crd removed cr ↔ ∃ crSpec, nestedMap cr.object ["spec"] = some crSpec ∧
      ∃ field ∈ removed, hasFieldInSpec crSpec field = true ∧ d = impactDetail crd cr field := by
  unfold violations
  cases nestedMap cr.object ["spec"] with
  | none => simp
  | some crSpec =>
    simp only [List.mem_map, List.mem_filter, Option.some.injEq, exists_eq_left', and_assoc,
      eq_comm]

/-- The instances and the removed fields a CRD is checked with, when the loop gets that far. -/
def Checked (dyn : DynClient) (order : List String → RangeOrder String) (ns : String)
    (targetSchemas : GoMap String JMap) (crd : CRDInfo) (crs : List Unstructured)
    (removed : List String) : Prop :=
  ∃ targetSchema gvr currentSchema, targetSchemas.lookup crd.kind = some targetSchema ∧
    gvrOf crd = some gvr ∧ dyn.list gvr ns "" = .ok crs ∧
    getCurrentCRDSchema dyn crd.name crd.version = some currentSchema ∧
    removed = (compareOpenAPISchemas order currentSchema targetSchema).1

section Impact

variable (dyn : DynClient) (order : List String → RangeOrder String) (ns : String)
  (targetSchemas : GoMap String JMap) (crd : CRDInfo)

theorem mem_impactOf {d : CRImpactDetail} :
    d ∈ (impactOf dyn order ns targetSchemas crd).violatingCRs ↔
      ∃ crs removed, Checked dyn order ns targetSchemas crd crs removed ∧
        ∃ cr ∈ crs, d ∈ violations crd removed cr := by
  unfold impactOf Checked
  constructor
  · intro h
    split at h
    · rename_i targetSchema gvr hschema hgvr
      split at h
      · cases h
      · cases h
      · rename_i crs hne hlist
        split at h
        · cases h
        · rename_i currentSchema hcur
          obtain ⟨cr, hcr, hd⟩ := List.mem_flatMap.mp h
          exact ⟨crs, _, ⟨targetSchema, gvr, currentSchema, hschema, hgvr, hlist, hcur, rfl⟩,
            cr, hcr, hd⟩
    · cases h
  · rintro ⟨crs, removed, ⟨targetSchema, gvr, currentSchema, hschema, hgvr, hlist, hcur, rfl⟩,
      cr, hcr, hd⟩
    rw [hschema, hgvr]
    dsimp only
    rw [hlist]
    cases crs with
    | nil => cases hcr
    | cons c crs =>
      dsimp only
      rw [hcur]
      exact List.mem_flatMap.mpr ⟨cr, hcr, hd⟩

theorem hasBreakingImpact_impactOf :
    (impactOf dyn order ns targetSchemas crd).hasBreakingImpact = true ↔
      (impactOf dyn order ns targetSchemas crd).violatingCRs ≠ [] := by
  unfold impactOf
  split
  · split
    · simp
    · simp
    · split
      · simp
      · simp only [Bool.not_eq_true', List.isEmpty_eq_false_iff, ne_eq]
  · simp

end Impact

section Analysis

variable (dyn : Nat → DynClient) (order : Nat → List String → RangeOrder String) (ns : String)
  (currentCRDs : List CRDInfo)

/-- The entries are those of the CRDs, each checked with its own List and Get. -/
theorem mem_violatingCRs_iff {target : JMap} {targetCRDSpecs : List Json}
    (ht : ownedEntries target = some targetCRDSpecs) {d : CRImpactDetail} :
    d ∈ (analyzeCRDBreakingChanges dyn order ns currentCRDs (some target)).violatingCRs ↔
      ∃ k crd crs removed, currentCRDs[k]? = some crd ∧
        Checked (dyn k) (order k) ns (targetCRDSpecs.foldl addTargetSchema ∅) crd crs removed ∧
        ∃ cr ∈ crs, d ∈ violations crd removed cr := by
  unfold analyzeCRDBreakingChanges
  rw [Option.bind_some, ht]
  simp only [List.flatMap_map, List.mem_flatMap, Prod.exists, List.mem_zipIdx_iff_getElem?,
    mem_impactOf]
  constructor
  · rintro ⟨crd, k, hk, crs, removed, hchecked, hcr⟩
    exact ⟨k, crd, crs, removed, hk, hchecked, hcr⟩
  · rintro ⟨k, crd, crs, removed, hk, hchecked, hcr⟩
    exact ⟨crd, k, hk, crs, removed, hchecked, hcr⟩

/-- The flag is set exactly when there is an entry. -/
theorem hasBreakingImpact_iff (target : Option JMap) :
    (analyzeCRDBreakingChanges dyn order ns currentCRDs target).hasBreakingImpact = true ↔
      (analyzeCRDBreakingChanges dyn order ns currentCRDs target).violatingCRs ≠ [] := by
  unfold analyzeCRDBreakingChanges
  split
  · simp
  · simp only [List.any_map, List.any_eq_true, Function.comp_apply, ne_eq,
      List.flatMap_eq_nil_iff, List.flatMap_map, not_forall]
    constructor
    · rintro ⟨p, hp, himpact⟩
      exact ⟨p, hp, (hasBreakingImpact_impactOf _ _ _ _ _).mp himpact⟩
    · rintro ⟨p, hp, hne⟩
      exact ⟨p, hp, (hasBreakingImpact_impactOf _ _ _ _ _).mpr hne⟩

end Analysis

end HybridOperator.Collector
