/-
  The loops of `AnalyzeCRDBreakingChanges` as they run, and what they report.

  Three nested loops append to one result: over the current CRDs, over the instances of a CRD,
  over the removed fields of its diff. `analyzeLoop` carries the result through them;
  `analyzeLoop_eq` shows that it is the result put together from what each CRD adds.

  Proved:
  * `analyzeLoop_exact`: the listed violations are exactly those of the triples of a CRD, a CR
    and a removed field that `Violates` describes, in the order of the loops, each once; the flag
    is set exactly when there is one; the removed fields and type mutations are those of the
    CRDs that reached the diff, in order.
-/
import HybridOperator.Collector.CRDImpact
import HybridOperator.Lib.NestedLoop

namespace HybridOperator.Collector

open HybridOperator.Lib

/-! ## The loops -/

/-- The loop body for one removed field of a CR with the given spec. -/
def inspectField (crd : CRDInfo) (cr : Unstructured) (crSpec : JMap) (result : CRDDiffResult)
    (removedField : String) : CRDDiffResult :=
  if hasFieldInSpec crSpec removedField then
    { result with
      hasBreakingImpact := true
      violatingCRs := result.violatingCRs ++ [impactDetail crd cr removedField] }
  else result

/-- The loop body for one instance of the CRD. -/
def inspectCR (crd : CRDInfo) (removed : List String) (result : CRDDiffResult)
    (cr : Unstructured) : CRDDiffResult :=
  match nestedMap cr.object ["spec"] with
  | none => result
  | some crSpec => removed.foldl (inspectField crd cr crSpec) result

/-- The loop body for one current CRD. -/
def inspectCRD (dyn : DynClient) (order : List String → RangeOrder String) (ns : String)
    (targetSchemas : GoMap String JMap) (result : CRDDiffResult) (crd : CRDInfo) :
    CRDDiffResult :=
  match targetSchemas.lookup crd.kind with
  | none => result
  | some targetSchema =>
      match gvrOf crd with
      | none => result
      | some gvr =>
          match dyn.list gvr ns "" with
          | .error _ => result
          | .ok crList =>
              if crList.length = 0 then result
              else
                match getCurrentCRDSchema dyn crd.name crd.version with
                | none => result
                | some currentSchema =>
                    let (removed, mutated) := compareOpenAPISchemas order currentSchema targetSchema
                    crList.foldl (inspectCR crd removed)
                      { result with
                        removedFields := result.removedFields ++ removed
                        typeMutations := result.typeMutations ++ mutated }

/-- `targetSchemaMap`, empty when there is no descriptor or it has no list of owned CRDs. -/
def targetSchemaMap (targetCSV : Option JMap) : GoMap String JMap :=
  ((targetCSV.bind ownedEntries).getD []).foldl addTargetSchema ∅

def analyzeLoop (dyn : Nat → DynClient) (order : Nat → List String → RangeOrder String)
    (ns : String) (currentCRDs : List CRDInfo) (targetCSV : Option JMap) : CRDDiffResult :=
  match targetCSV.bind ownedEntries with
  | none => {}
  | some targetCRDSpecs =>
      currentCRDs.zipIdx.foldl
        (fun result (crd, k) =>
          inspectCRD (dyn k) (order k) ns (targetCRDSpecs.foldl addTargetSchema ∅) result crd)
        {}

/-! ## What the loops add -/

namespace CRDDiffResult

/-- Results one after the other. -/
def add (r s : CRDDiffResult) : CRDDiffResult where
  hasBreakingImpact := r.hasBreakingImpact || s.hasBreakingImpact
  removedFields := r.removedFields ++ s.removedFields
  typeMutations := r.typeMutations ++ s.typeMutations
  violatingCRs := r.violatingCRs ++ s.violatingCRs

def concat (parts : List CRDDiffResult) : CRDDiffResult where
  hasBreakingImpact := parts.any (·.hasBreakingImpact)
  removedFields := parts.flatMap (·.removedFields)
  typeMutations := parts.flatMap (·.typeMutations)
  violatingCRs := parts.flatMap (·.violatingCRs)

theorem add_zero (r : CRDDiffResult) : r.add {} = r := by
  simp [add]

theorem zero_add (r : CRDDiffResult) : add {} r = r := by
  simp [add]

theorem add_assoc (r s t : CRDDiffResult) : (r.add s).add t = r.add (s.add t) := by
  simp only [add, Bool.or_assoc, List.append_assoc]

theorem concat_cons (p : CRDDiffResult) (ps : List CRDDiffResult) :
    concat (p :: ps) = p.add (concat ps) := by
  simp only [concat, add, List.any_cons, List.flatMap_cons]

/-- A loop whose body adds a part in each round adds the parts. -/
theorem foldl_add {α : Type} {body : CRDDiffResult → α → CRDDiffResult}
    {part : α → CRDDiffResult} (h : ∀ r a, body r a = r.add (part a)) (l : List α)
    (r : CRDDiffResult) : l.foldl body r = r.add (concat (l.map part)) := by
  induction l generalizing r with
  | nil => exact (add_zero r).symm
  | cons a l ih => rw [List.foldl_cons, h, ih, add_assoc, List.map_cons, concat_cons]

/-- Nothing but violations. -/
def ofViolations (ds : List CRImpactDetail) : CRDDiffResult :=
  { hasBreakingImpact := !ds.isEmpty, violatingCRs := ds }

theorem concat_ofViolations {α : Type} (f : α → List CRImpactDetail) (l : List α) :
    concat (l.map fun a => ofViolations (f a)) = ofViolations (l.flatMap f) := by
  induction l with
  | nil => rfl
  | cons a l ih =>
    rw [List.map_cons, concat_cons, ih, List.flatMap_cons]
    cases f a with
    | nil => exact zero_add _
    | cons d ds => rfl

end CRDDiffResult

open CRDDiffResult

theorem inspectField_eq (crd : CRDInfo) (cr : Unstructured) (crSpec : JMap) (r : CRDDiffResult)
    (field : String) :
    inspectField crd cr crSpec r field =
      r.add (ofViolations
        (([field].filter (hasFieldInSpec crSpec)).map (impactDetail crd cr))) := by
  unfold inspectField
  by_cases h : hasFieldInSpec crSpec field = true
  · rw [if_pos h, List.filter_singleton, h]
    simp [add, ofViolations]
  · rw [if_neg h, List.filter_singleton, Bool.eq_false_of_not_eq_true h]
    exact (add_zero r).symm

theorem inspectCR_eq (crd : CRDInfo) (removed : List String) (r : CRDDiffResult)
    (cr : Unstructured) :
    inspectCR crd removed r cr = r.add (ofViolations (violations crd removed cr)) := by
  unfold inspectCR violations
  cases nestedMap cr.object ["spec"] with
  | none => exact (add_zero r).symm
  | some crSpec =>
    have hfilter : (removed.flatMap fun field =>
        ([field].filter (hasFieldInSpec crSpec)).map (impactDetail crd cr)) =
        (removed.filter (hasFieldInSpec crSpec)).map (impactDetail crd cr) := by
      rw [← List.map_flatMap, ← List.filter_flatMap, List.flatMap_singleton']
    dsimp only
    rw [foldl_add (inspectField_eq crd cr crSpec), concat_ofViolations, hfilter]

theorem inspectCRD_eq (dyn : DynClient) (order : List String → RangeOrder String) (ns : String)
    (targetSchemas : GoMap String JMap) (r : CRDDiffResult) (crd : CRDInfo) :
    inspectCRD dyn order ns targetSchemas r crd =
      r.add (impactOf dyn order ns targetSchemas crd) := by
  unfold inspectCRD impactOf
  cases targetSchemas.lookup crd.kind with
  | none => exact (add_zero r).symm
  | some targetSchema =>
    cases gvrOf crd with
    | none => exact (add_zero r).symm
    | some gvr =>
      dsimp only
      cases dyn.list gvr ns "" with
      | error e => exact (add_zero r).symm
      | ok crList =>
        cases crList with
        | nil => exact (add_zero r).symm
        | cons cr crs =>
          dsimp only
          rw [if_neg (List.length_eq_zero_iff.not.mpr (List.cons_ne_nil cr crs))]
          cases getCurrentCRDSchema dyn crd.name crd.version with
          | none => exact (add_zero r).symm
          | some currentSchema =>
            dsimp only
            generalize compareOpenAPISchemas order currentSchema targetSchema = found
            rw [foldl_add (inspectCR_eq crd found.1), concat_ofViolations]
            simp only [add, ofViolations, List.append_nil]

/-- The loops build the result that is put together from what each CRD adds. -/
theorem analyzeLoop_eq (dyn : Nat → DynClient) (order : Nat → List String → RangeOrder String)
    (ns : String) (currentCRDs : List CRDInfo) (targetCSV : Option JMap) :
    analyzeLoop dyn order ns currentCRDs targetCSV =
      analyzeCRDBreakingChanges dyn order ns currentCRDs targetCSV := by
  unfold analyzeLoop analyzeCRDBreakingChanges
  cases targetCSV.bind ownedEntries with
  | none => rfl
  | some targetCRDSpecs =>
    dsimp only
    have hbody : ∀ (r : CRDDiffResult) (p : CRDInfo × Nat),
        inspectCRD (dyn p.2) (order p.2) ns (targetCRDSpecs.foldl addTargetSchema ∅) r p.1 =
          r.add (impactOf (dyn p.2) (order p.2) ns (targetCRDSpecs.foldl addTargetSchema ∅) p.1) :=
      fun r p => inspectCRD_eq _ _ _ _ _ _
    exact (foldl_add hbody currentCRDs.zipIdx {}).trans (zero_add _)

/-! ## The report -/

/-- A CRD, one of its instances, and a removed field. -/
abbrev Triple := CRDInfo × Unstructured × String

def detailOf (t : Triple) : CRImpactDetail := impactDetail t.1 t.2.1 t.2.2

/-- The field is found in the spec of the CR. -/
def setsRemoved (cr : Unstructured) (field : String) : Bool :=
  match nestedMap cr.object ["spec"] with
  | none => false
  | some crSpec => hasFieldInSpec crSpec field

/-- The places of the three loops: of the CRD, of the CR among its instances, of the field among
    those the diff removes. -/
abbrev Place := Nat × Nat × Nat

/-- The order in which the loops come to the places. -/
def Before : Place → Place → Prop := Prod.Lex (· < ·) (Prod.Lex (· < ·) (· < ·))

/-- The diff of the CRD is reached, and finds this: the kind has a target schema, the name
    splits, the List succeeds with some instance, the live schema is resolved. -/
def ReachesDiff (dyn : DynClient) (order : List String → RangeOrder String) (ns : String)
    (targetSchemas : GoMap String JMap) (crd : CRDInfo) (found : List String × List String) :
    Prop :=
  ∃ targetSchema gvr crs currentSchema, targetSchemas.lookup crd.kind = some targetSchema ∧
    gvrOf crd = some gvr ∧ dyn.list gvr ns "" = .ok crs ∧ crs ≠ [] ∧
    getCurrentCRDSchema dyn crd.name crd.version = some currentSchema ∧
    found = compareOpenAPISchemas order currentSchema targetSchema

section Report

variable (dyn : Nat → DynClient) (order : Nat → List String → RangeOrder String) (ns : String)
  (currentCRDs : List CRDInfo) (targetCSV : Option JMap)

/-- The triple at a place is a violation: its CRD is checked, and the CR at its place among the
    instances sets the field at its place among the removed ones. -/
def Violates (place : Place) (t : Triple) : Prop :=
  ∃ crs removed, currentCRDs[place.1]? = some t.1 ∧
    Checked (dyn place.1) (order place.1) ns (targetSchemaMap targetCSV) t.1 crs removed ∧
    crs[place.2.1]? = some t.2.1 ∧ removed[place.2.2]? = some t.2.2 ∧
    setsRemoved t.2.1 t.2.2 = true

/-- The result reports exactly the violations, in order, and what the reached diffs find. -/
structure ExactReport (result : CRDDiffResult) : Prop where
  violating : ∃ entries : List (Place × Triple),
    result.violatingCRs = entries.map (fun e => detailOf e.2) ∧
    NestedLoop.InOrder Before entries ∧
    ∀ place t, (place, t) ∈ entries ↔ Violates dyn order ns currentCRDs targetCSV place t
  flag : result.hasBreakingImpact = true ↔ result.violatingCRs ≠ []
  diffs : ∃ found : List (Nat × List String × List String),
    result.removedFields = found.flatMap (·.2.1) ∧
    result.typeMutations = found.flatMap (·.2.2) ∧
    NestedLoop.InOrder (· < ·) found ∧
    ∀ k f, (k, f) ∈ found ↔ ∃ crd, currentCRDs[k]? = some crd ∧
      ReachesDiff (dyn k) (order k) ns (targetSchemaMap targetCSV) crd f

end Report

/-! ## What one CRD reports -/

/-- The instances of a CRD whose diff is reached, and what the diff finds. -/
def diffOf (dyn : DynClient) (order : List String → RangeOrder String) (ns : String)
    (targetSchemas : GoMap String JMap) (crd : CRDInfo) :
    Option (List Unstructured × List String × List String) := do
  let targetSchema ← targetSchemas.lookup crd.kind
  let gvr ← gvrOf crd
  let crs ← (dyn.list gvr ns "").toOption
  let currentSchema ← getCurrentCRDSchema dyn crd.name crd.version
  if crs = [] then none else some (crs, compareOpenAPISchemas order currentSchema targetSchema)

section OneCRD

variable (dyn : DynClient) (order : List String → RangeOrder String) (ns : String)
  (targetSchemas : GoMap String JMap) (crd : CRDInfo)

theorem toOption_eq_some {ε α : Type} {x : Except ε α} {a : α} :
    x.toOption = some a ↔ x = .ok a := by
  cases x with
  | error e => exact iff_of_false (fun h => by cases h) (fun h => by cases h)
  | ok b =>
    have hb : (Except.ok b : Except ε α).toOption = some b := rfl
    rw [hb, Option.some.injEq, Except.ok.injEq]

theorem diffOf_eq_some {crs : List Unstructured} {found : List String × List String} :
    diffOf dyn order ns targetSchemas crd = some (crs, found) ↔
      ∃ targetSchema gvr currentSchema, targetSchemas.lookup crd.kind = some targetSchema ∧
        gvrOf crd = some gvr ∧ dyn.list gvr ns "" = .ok crs ∧ crs ≠ [] ∧
        getCurrentCRDSchema dyn crd.name crd.version = some currentSchema ∧
        found = compareOpenAPISchemas order currentSchema targetSchema := by
  unfold diffOf
  simp only [Option.bind_eq_bind, Option.bind_eq_some_iff, toOption_eq_some]
  constructor
  · rintro ⟨targetSchema, hschema, gvr, hgvr, crs', hlist, currentSchema, hcur, h⟩
    by_cases hnil : crs' = []
    · rw [if_pos hnil] at h
      cases h
    · rw [if_neg hnil] at h
      cases h
      exact ⟨targetSchema, gvr, currentSchema, hschema, hgvr, hlist, hnil, hcur, rfl⟩
  · rintro ⟨targetSchema, gvr, currentSchema, hschema, hgvr, hlist, hnil, hcur, rfl⟩
    exact ⟨targetSchema, hschema, gvr, hgvr, crs, hlist, currentSchema, hcur, if_neg hnil⟩

theorem reachesDiff_iff {found : List String × List String} :
    ReachesDiff dyn order ns targetSchemas crd found ↔
      (diffOf dyn order ns targetSchemas crd).map Prod.snd = some found := by
  rw [Option.map_eq_some_iff]
  constructor
  · rintro ⟨targetSchema, gvr, crs, currentSchema, h⟩
    exact ⟨(crs, found), (diffOf_eq_some ..).mpr ⟨targetSchema, gvr, currentSchema, h⟩, rfl⟩
  · rintro ⟨⟨crs, _⟩, h, rfl⟩
    obtain ⟨targetSchema, gvr, currentSchema, h⟩ := (diffOf_eq_some ..).mp h
    exact ⟨targetSchema, gvr, crs, currentSchema, h⟩

/-- A removed field, when the CR sets it. -/
def tripleOf (cr : Unstructured) (field : String) : Option Triple :=
  if setsRemoved cr field then some (crd, cr, field) else none

theorem violations_eq (removed : List String) (cr : Unstructured) :
    violations crd removed cr = (removed.filterMap (tripleOf crd cr)).map detailOf := by
  unfold violations tripleOf setsRemoved
  cases nestedMap cr.object ["spec"] with
  | none => simp
  | some crSpec =>
    dsimp only
    induction removed with
    | nil => rfl
    | cons field removed ih =>
      by_cases h : hasFieldInSpec crSpec field = true
      · rw [List.filter_cons_of_pos h, List.map_cons, ih, List.filterMap_cons, if_pos h]
        rfl
      · rw [List.filter_cons_of_neg h, ih, List.filterMap_cons, if_neg h]

theorem impactOf_eq :
    impactOf dyn order ns targetSchemas crd =
      match diffOf dyn order ns targetSchemas crd with
      | none => {}
      | some (crs, found) =>
          { hasBreakingImpact := !(crs.flatMap (violations crd found.1)).isEmpty
            removedFields := found.1
            typeMutations := found.2
            violatingCRs := crs.flatMap (violations crd found.1) } := by
  unfold impactOf diffOf
  cases targetSchemas.lookup crd.kind with
  | none => rfl
  | some targetSchema =>
    cases gvrOf crd with
    | none => rfl
    | some gvr =>
      dsimp only [Option.bind_eq_bind, Option.bind_some]
      cases dyn.list gvr ns "" with
      | error e => rfl
      | ok crs =>
        dsimp only [Except.toOption, Option.bind_some]
        cases getCurrentCRDSchema dyn crd.name crd.version with
        | none => cases crs <;> rfl
        | some currentSchema => cases crs <;> rfl

/-- The fields and the types that one CRD adds are those its diff finds. -/
theorem fields_impactOf :
    (impactOf dyn order ns targetSchemas crd).removedFields =
        (((diffOf dyn order ns targetSchemas crd).map Prod.snd).map Prod.fst).getD [] ∧
      (impactOf dyn order ns targetSchemas crd).typeMutations =
        (((diffOf dyn order ns targetSchemas crd).map Prod.snd).map Prod.snd).getD [] := by
  rw [impactOf_eq]
  cases diffOf dyn order ns targetSchemas crd with
  | none => exact ⟨rfl, rfl⟩
  | some diff => exact ⟨rfl, rfl⟩

/-- The violations of one CRD, with the places of the CR and of the field. -/
def entriesOf : List ((Nat × Nat) × Triple) :=
  match diffOf dyn order ns targetSchemas crd with
  | none => []
  | some (crs, removed, _) =>
      NestedLoop.each (fun cr _ => NestedLoop.select (fun field _ => tripleOf crd cr field) removed)
        crs

theorem map_entriesOf :
    (entriesOf dyn order ns targetSchemas crd).map (fun e => detailOf e.2) =
      (impactOf dyn order ns targetSchemas crd).violatingCRs := by
  rw [impactOf_eq, entriesOf]
  cases diffOf dyn order ns targetSchemas crd with
  | none => rfl
  | some diff =>
    obtain ⟨crs, removed, mutated⟩ := diff
    have hsplit : (fun e : (Nat × Nat) × Triple => detailOf e.2) = detailOf ∘ Prod.snd := rfl
    have hcr : ∀ cr : Unstructured, ((NestedLoop.select (fun field _ => tripleOf crd cr field)
        removed).map Prod.snd).map detailOf = violations crd removed cr := by
      intro cr
      rw [NestedLoop.map_snd_select, NestedLoop.filterMap_zipIdx (tripleOf crd cr), violations_eq]
    dsimp only
    rw [hsplit, ← List.map_map, NestedLoop.map_snd_each, List.map_flatMap]
    simp only [hcr]
    exact NestedLoop.flatMap_zipIdx (violations crd removed) crs

theorem inOrder_entriesOf :
    NestedLoop.InOrder (Prod.Lex (· < ·) (· < ·)) (entriesOf dyn order ns targetSchemas crd) := by
  unfold entriesOf
  split
  · exact List.Pairwise.nil
  · exact NestedLoop.inOrder_each fun cr i _ => NestedLoop.inOrder_select _ _

theorem tripleOf_eq_some {cr : Unstructured} {field : String} {t : Triple} :
    tripleOf crd cr field = some t ↔ setsRemoved cr field = true ∧ t = (crd, cr, field) := by
  unfold tripleOf
  by_cases h : setsRemoved cr field = true
  · rw [if_pos h, and_iff_right h, Option.some.injEq, eq_comm]
  · rw [if_neg h]
    exact iff_of_false (fun hnone => by cases hnone) fun hand => h hand.1

theorem mem_entriesOf {i j : Nat} {t : Triple} :
    ((i, j), t) ∈ entriesOf dyn order ns targetSchemas crd ↔
      ∃ crs removed, Checked dyn order ns targetSchemas crd crs removed ∧ t.1 = crd ∧
        crs[i]? = some t.2.1 ∧ removed[j]? = some t.2.2 ∧ setsRemoved t.2.1 t.2.2 = true := by
  constructor
  · intro h
    rw [entriesOf] at h
    cases hdiff : diffOf dyn order ns targetSchemas crd with
    | none => rw [hdiff] at h; cases h
    | some diff =>
      obtain ⟨crs, removed, mutated⟩ := diff
      rw [hdiff] at h
      obtain ⟨cr, hcr, hfield⟩ := NestedLoop.mem_each.mp h
      obtain ⟨field, hremoved, ht⟩ := NestedLoop.mem_select.mp hfield
      obtain ⟨hsets, rfl⟩ := (tripleOf_eq_some ..).mp ht
      obtain ⟨targetSchema, gvr, currentSchema, hschema, hgvr, hlist, -, hcur, hfound⟩ :=
        (diffOf_eq_some ..).mp hdiff
      exact ⟨crs, removed, ⟨targetSchema, gvr, currentSchema, hschema, hgvr, hlist, hcur,
        congrArg Prod.fst hfound⟩, rfl, hcr, hremoved, hsets⟩
  · rintro ⟨crs, removed, ⟨targetSchema, gvr, currentSchema, hschema, hgvr, hlist, hcur, rfl⟩,
      ht, hcr, hremoved, hsets⟩
    have hne : crs ≠ [] := by
      rintro rfl
      cases hcr
    have hdiff := (diffOf_eq_some dyn order ns targetSchemas crd).mpr
      ⟨targetSchema, gvr, currentSchema, hschema, hgvr, hlist, hne, hcur, rfl⟩
    rw [entriesOf, hdiff]
    refine NestedLoop.mem_each.mpr ⟨_, hcr, NestedLoop.mem_select.mpr ⟨_, hremoved, ?_⟩⟩
    exact (tripleOf_eq_some ..).mpr ⟨hsets, by rw [← ht]⟩

end OneCRD

/-! ## The whole report -/

/-- Without a list of owned CRDs in the descriptor, no CRD adds anything. -/
theorem analyze_eq_concat (dyn : Nat → DynClient) (order : Nat → List String → RangeOrder String)
    (ns : String) (currentCRDs : List CRDInfo) (targetCSV : Option JMap) :
    analyzeCRDBreakingChanges dyn order ns currentCRDs targetCSV =
      concat (currentCRDs.zipIdx.map fun (crd, k) =>
        impactOf (dyn k) (order k) ns (targetSchemaMap targetCSV) crd) := by
  unfold analyzeCRDBreakingChanges targetSchemaMap
  cases targetCSV.bind ownedEntries with
  | none =>
    have himpact : ∀ p : CRDInfo × Nat, impactOf (dyn p.2) (order p.2) ns
        ((none : Option (List Json)).getD [] |>.foldl addTargetSchema ∅) p.1 = ofViolations [] :=
      fun p => rfl
    simp only [himpact]
    rw [concat_ofViolations (fun _ => []) currentCRDs.zipIdx, List.flatMap_eq_nil_iff.mpr
      fun _ _ => rfl]
    rfl
  | some targetCRDSpecs => rfl

section Whole

variable (dyn : Nat → DynClient) (order : Nat → List String → RangeOrder String) (ns : String)
  (currentCRDs : List CRDInfo) (targetCSV : Option JMap)

/-- The violations of all CRDs, with their places. -/
def allEntries : List (Place × Triple) :=
  NestedLoop.each (fun crd k => entriesOf (dyn k) (order k) ns (targetSchemaMap targetCSV) crd)
    currentCRDs

theorem mem_allEntries {place : Place} {t : Triple} :
    (place, t) ∈ allEntries dyn order ns currentCRDs targetCSV ↔
      Violates dyn order ns currentCRDs targetCSV place t := by
  obtain ⟨k, i, j⟩ := place
  rw [allEntries, NestedLoop.mem_each]
  simp only [mem_entriesOf, Violates]
  constructor
  · rintro ⟨crd, hcrd, crs, removed, hchecked, rfl, hviolates⟩
    exact ⟨crs, removed, hcrd, hchecked, hviolates⟩
  · rintro ⟨crs, removed, hcrd, hchecked, hviolates⟩
    exact ⟨t.1, hcrd, crs, removed, hchecked, rfl, hviolates⟩

theorem violatingCRs_eq :
    (analyzeCRDBreakingChanges dyn order ns currentCRDs targetCSV).violatingCRs =
      (allEntries dyn order ns currentCRDs targetCSV).map fun e => detailOf e.2 := by
  have hsplit : (fun e : Place × Triple => detailOf e.2) = detailOf ∘ Prod.snd := rfl
  rw [analyze_eq_concat, allEntries, hsplit, ← List.map_map, NestedLoop.map_snd_each,
    List.map_flatMap]
  simp only [concat, List.flatMap_map, ← map_entriesOf, List.map_map]
  rfl

/-- The loops report exactly the violations, in the order they come to them, and what the reached
    diffs find. -/
theorem analyzeLoop_exact :
    ExactReport dyn order ns currentCRDs targetCSV
      (analyzeLoop dyn order ns currentCRDs targetCSV) := by
  rw [analyzeLoop_eq]
  refine ⟨⟨_, violatingCRs_eq dyn order ns currentCRDs targetCSV, ?_, fun place t =>
    mem_allEntries dyn order ns currentCRDs targetCSV⟩,
    hasBreakingImpact_iff dyn order ns currentCRDs targetCSV, ?_⟩
  · exact NestedLoop.inOrder_each fun crd k _ => inOrder_entriesOf _ _ _ _ _
  · refine ⟨NestedLoop.select (fun crd k =>
      (diffOf (dyn k) (order k) ns (targetSchemaMap targetCSV) crd).map Prod.snd) currentCRDs,
      ?_, ?_, NestedLoop.inOrder_select _ _, ?_⟩
    · rw [analyze_eq_concat, NestedLoop.flatMap_select _ Prod.fst]
      simp only [concat, List.flatMap_map, fields_impactOf]
    · rw [analyze_eq_concat, NestedLoop.flatMap_select _ Prod.snd]
      simp only [concat, List.flatMap_map, fields_impactOf]
    · intro k f
      simp only [reachesDiff_iff]
      exact NestedLoop.mem_select

end Whole

end HybridOperator.Collector
