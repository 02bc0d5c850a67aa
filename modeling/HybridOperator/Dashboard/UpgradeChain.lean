/-
  An operator that is upgraded several times: what the cards on the way say about a custom
  resource whose field is gone at the end.

  Each card compares the live schema of a CRD with the one of the next version only. A `Leg` is
  a sweep before one of the upgrades, with the record of the operator that it publishes; it moves
  the CRD from the spec properties that are live to those that its target declares, and a
  `Journey` of legs starts each one with what the last one declared. The custom resource may
  change on the way in everything but the field that it sets.

  Two things are told by no card. A leg that is not MAJOR is not compared at all (`Undiffed`). And
  a target that declares no type is compared with nothing, in the leg that drops the type and in
  the one that brings another (`DropsType`).

  Proved: `upgrade_chain_warns`, whatever the length of the chain. When a field is declared by the
  first schema and not by the last, or with another type, some leg tells it or is one of these.
-/
import HybridOperator.Dashboard.UpgradeCard
import HybridOperator.Collector.SchemaDiffExact
import HybridOperator.Lib.PathSets

namespace HybridOperator.Dashboard

open HybridOperator.Lib HybridOperator.Collector

/-! ## The legs -/

/-- A sweep before an upgrade, the record that it publishes of the operator, and a custom
    resource as it is then. -/
structure Leg where
  sweep : Sweep
  objects : GroupVersionResource → List Unstructured
  resp : ClusterGovernanceResponse
  place : Nat
  op : OperatorInfo
  cr : Unstructured
  published : getClusterGovernance sweep = .ok resp
  record : resp.operators[place]? = some op
  upgrade : op.canUpgrade = true
  reads : ReadsFrom sweep objects
  kinds : KindsOnce sweep place op

/-- The operator owns the CRD, `cr` is an instance of it, and the live schema and the one that
    the target declares for its kind have these spec properties. -/
def Leg.Moves (crdName : String) (leg : Leg) (cur tgt : JMap) : Prop :=
  ∃ k crd gvr target entries currentSchema targetSchema,
    leg.op.crds[k]? = some crd ∧ crd.name = crdName ∧ gvrOf crd = some gvr ∧
    leg.cr ∈ leg.objects gvr ∧ targetDescriptor leg.sweep leg.place leg.op = some target ∧
    ownedEntries target = some entries ∧
    (crd.kind, targetSchema) ∈ entries.filterMap entrySchema ∧
    getCurrentCRDSchema (leg.sweep.diffing leg.place k) crd.name crd.version =
      some currentSchema ∧
    specProperties currentSchema = some cur ∧ specProperties targetSchema = some tgt

/-- The custom resource is the one of this namespace and name, in the reach of the operator's
    Subscription, and sets the field. -/
structure Leg.Keeps (nameSpace name : String) (names : List String) (leg : Leg) : Prop where
  nameSpace_eq : leg.cr.getNamespace = nameSpace
  name_eq : leg.cr.getName = name
  reached : leg.op.nameSpace = "" ∨ nameSpace = leg.op.nameSpace
  sets : ∃ crSpec, nestedMap leg.cr.object ["spec"] = some crSpec ∧
    (nestedField (.obj crSpec) names).isSome = true

/-- The card lists the custom resource with a field, and so does the record behind it. -/
structure Warns (op : OperatorInfo) (nameSpace name field : String) : Prop where
  listed : ∃ d ∈ op.crdDiff.violatingCRs,
    d.crName = name ∧ d.crNamespace = nameSpace ∧ d.breakingField = "spec." ++ field
  shown : ∃ p affected rows kind, projection op = some p ∧
    p.breakingWarning = some (.impact affected rows) ∧ (name, kind, "spec." ++ field) ∈ rows

/-- The card warns about the field at the path or about one that contains it. -/
def Leg.WarnsAbove (nameSpace name : String) (names : List String) (leg : Leg) : Prop :=
  ∃ above, above ≠ [] ∧ above <+: names ∧
    Warns leg.op nameSpace name (GoStrings.join above '.')

/-- No schemas are compared for the upgrade, and the card shows 'Safe Target Projection'. -/
def Leg.Undiffed (leg : Leg) : Prop := leg.op.upgradeType ≠ .major ∧ ShowsSafe leg.op

/-- The record notes the type that the field changes to. -/
def Leg.NotesType (crdName : String) (names : List String) (leg : Leg) : Prop :=
  ∃ cur tgt, leg.Moves crdName cur tgt ∧ Retyped cur tgt names ∧
    GoStrings.join names '.' ++ typeChange cur tgt names ∈ leg.op.crdDiff.typeMutations

/-- The target keeps the field and declares no type for it any more. -/
def Leg.DropsType (crdName : String) (names : List String) (leg : Leg) : Prop :=
  ∃ cur tgt, leg.Moves crdName cur tgt ∧ declaredAt cur names ≠ "" ∧
    (propAt tgt names).isSome = true ∧ declaredAt tgt names = ""

/-! ## What one diff reports -/

/-- The paths that resolve in the properties. -/
def propPaths (props : JMap) : PathSet String where
  paths := {p | (propAt props p).isSome = true}
  closed _ _ hq hpre hp := isSome_propAt_prefix hp hpre hq

theorem lost_of_frontier {cur tgt : JMap} {p : List String}
    (h : p ∈ PathSet.frontier (propPaths cur) (propPaths tgt)) : Lost cur tgt p where
  inCurrent := h.1
  notInTarget := Option.not_isSome_iff_eq_none.mp h.2.1
  prefixes := h.2.2

section Diff

variable (order : List String → RangeOrder String) {currentSchema targetSchema cur tgt : JMap}
  {names : List String}

theorem compareOpenAPISchemas_eq_report (hc : specProperties currentSchema = some cur)
    (ht : specProperties targetSchema = some tgt) :
    compareOpenAPISchemas order currentSchema targetSchema =
      report [] cur tgt (visited order (Json.depthMap cur + 1) [] cur tgt) := by
  rw [compareOpenAPISchemas, hc, ht]
  exact walk_eq order _ [] cur tgt

/-- A path whose names are all given is written as its names joined with dots. -/
theorem fieldPath_of_names (hnames : ∀ n ∈ names, n ≠ "") :
    fieldPath names = GoStrings.join names '.' := by
  refine fieldPath_of_not_emptyFirst fun hempty => ?_
  obtain ⟨k, ks, rfl⟩ := exists_of_emptyFirst hempty
  exact hnames "" List.mem_cons_self rfl

theorem mem_removed_of_lost (hc : specProperties currentSchema = some cur)
    (ht : specProperties targetSchema = some tgt) (h : Lost cur tgt names) :
    fieldPath names ∈ (compareOpenAPISchemas order currentSchema targetSchema).1 := by
  rw [compareOpenAPISchemas_eq_report order hc ht]
  have hvisited := (mem_filter_isLost order [] tgt (Nat.lt_succ_self _) names).mpr h
  exact List.mem_map.mpr ⟨names, hvisited, rfl⟩

theorem mem_mutated_of_retyped (hc : specProperties currentSchema = some cur)
    (ht : specProperties targetSchema = some tgt) (h : Retyped cur tgt names) :
    fieldPath names ++ typeChange cur tgt names ∈
      (compareOpenAPISchemas order currentSchema targetSchema).2 := by
  rw [compareOpenAPISchemas_eq_report order hc ht]
  have hvisited := (mem_filter_isRetyped order [] tgt (Nat.lt_succ_self _) names).mpr h
  exact List.mem_map.mpr ⟨names, hvisited, rfl⟩

end Diff

theorem nestedField_append (j : Json) (above below : List String) :
    nestedField j (above ++ below) = (nestedField j above).bind (nestedField · below) := by
  induction above generalizing j with
  | nil => rfl
  | cons k ks ih =>
    rw [List.cons_append, nestedField, nestedField]
    cases j.asMap.bind (List.lookup k) with
    | none => rfl
    | some v => exact ih v

/-- What contains a field that is set is set too. -/
theorem isSome_nestedField_prefix {j : Json} {above names : List String} (h : above <+: names)
    (hset : (nestedField j names).isSome = true) : (nestedField j above).isSome = true := by
  obtain ⟨below, rfl⟩ := h
  rw [nestedField_append] at hset
  exact Option.isSome_of_isSome_bind hset

/-! ## What one card tells -/

/-- A record with an upgrade lists each violating CR on its card. -/
theorem warns_of_reported {op : OperatorInfo} {cr : Unstructured} {field : String}
    (hcan : op.canUpgrade = true) (h : Reported op cr field) :
    Warns op cr.getNamespace cr.getName field := by
  obtain ⟨hflag, d, hd, hname, hns, hfield⟩ := h
  refine ⟨⟨d, hd, hname, hns, hfield⟩, ?_⟩
  have hwarning : breakingWarning op = .impact op.crdDiff.violatingCRs.length
      (op.crdDiff.violatingCRs.map fun v => (v.crName, v.crdKind, v.breakingField)) :=
    if_pos ⟨hflag, List.length_pos_of_mem hd⟩
  refine ⟨_, _, _, d.crdKind, if_pos hcan, congrArg some hwarning, ?_⟩
  rw [← hname, ← hfield]
  exact List.mem_map_of_mem hd

/-- The type mutations of a CRD that is diffed are those of the analysis. -/
theorem mem_typeMutations {dyn : Nat → DynClient} {order : Nat → List String → RangeOrder String}
    {ns : String} {crds : List CRDInfo} {target : JMap} {entries : List Json} {k : Nat}
    {crd : CRDInfo} {gvr : GroupVersionResource} {crs : List Unstructured}
    {currentSchema targetSchema : JMap} {entry : String}
    (hentries : ownedEntries target = some entries) (hk : crds[k]? = some crd)
    (hschema : (entries.foldl addTargetSchema ∅).lookup crd.kind = some targetSchema)
    (hgvr : gvrOf crd = some gvr) (hlist : (dyn k).list gvr ns "" = .ok crs) (hne : crs ≠ [])
    (hcur : getCurrentCRDSchema (dyn k) crd.name crd.version = some currentSchema)
    (hentry : entry ∈ (compareOpenAPISchemas (order k) currentSchema targetSchema).2) :
    entry ∈ (analyzeCRDBreakingChanges dyn order ns crds (some target)).typeMutations := by
  unfold analyzeCRDBreakingChanges
  rw [Option.bind_some, hentries]
  refine List.mem_flatMap.mpr ⟨impactOf (dyn k) (order k) ns
    (entries.foldl addTargetSchema ∅) crd, List.mem_map.mpr ⟨(crd, k), ?_, rfl⟩, ?_⟩
  · exact List.mem_zipIdx_iff_getElem?.mpr hk
  · obtain ⟨c, cs, rfl⟩ := List.exists_cons_of_ne_nil hne
    unfold impactOf
    rw [hschema, hgvr]
    dsimp only
    rw [hlist]
    dsimp only
    rw [hcur]
    exact hentry

section Leg

variable {leg : Leg} {crdName nameSpace name : String} {names : List String} {cur tgt : JMap}

theorem undiffed_of_not_major (h : leg.op.upgradeType ≠ .major) : leg.Undiffed :=
  ⟨h, showsSafe_of_not_major leg.published leg.record leg.upgrade h⟩

/-- The card of a MAJOR leg that loses a field, or what contains it, warns. -/
theorem warnsAbove_of_lost (hmajor : leg.op.upgradeType = .major)
    (hmoves : leg.Moves crdName cur tgt) (hkeeps : leg.Keeps nameSpace name names)
    (hnames : ∀ n ∈ names, n ≠ "" ∧ '.' ∉ n.toList)
    (hcur : (propAt cur names).isSome = true) (htgt : propAt tgt names = none) :
    leg.WarnsAbove nameSpace name names := by
  have hne : names ≠ [] := by
    rintro rfl
    cases hcur
  obtain ⟨above, hfrontier, habove, hpre⟩ := (PathSet.not_mem_iff (D := propPaths cur)
    (E := propPaths tgt) hcur hne).mp (Option.not_isSome_iff_eq_none.mpr htgt)
  have hgiven : ∀ n ∈ above, n ≠ "" ∧ '.' ∉ n.toList := fun n hn => hnames n (hpre.subset hn)
  obtain ⟨k, crd, gvr, target, entries, currentSchema, targetSchema, hk, -, hgvr, hcr, htarget,
    hentries, hentry, hlive, hc, ht⟩ := hmoves
  have hremoved := mem_removed_of_lost (leg.sweep.schemaOrder leg.place k) hc ht
    (lost_of_frontier hfrontier)
  rw [fieldPath_of_names fun n hn => (hgiven n hn).1] at hremoved
  obtain ⟨crSpec, hspec, hset⟩ := hkeeps.sets
  have hsets : SetsRemovedField leg.sweep leg.objects leg.place leg.op leg.cr
      (GoStrings.join above '.') :=
    ⟨k, crd, gvr, target, entries, targetSchema, currentSchema, hk, hgvr, hcr, htarget, hentries,
      hentry, hlive, hremoved, crSpec, above, hspec, habove, fun n hn => (hgiven n hn).2, rfl,
      isSome_nestedField_prefix hpre hset⟩
  obtain ⟨crds, hcrds, hdiff⟩ := crdDiff_of_major leg.published leg.record hmajor
  have hreach : leg.op.nameSpace = "" ∨ leg.cr.getNamespace = leg.op.nameSpace := by
    rw [hkeeps.nameSpace_eq]
    exact hkeeps.reached
  have hwarns := warns_of_reported leg.upgrade
    (reported_of_namespace leg.reads leg.kinds hcrds hdiff hsets hreach)
  rw [hkeeps.nameSpace_eq, hkeeps.name_eq] at hwarns
  exact ⟨above, habove, hpre, hwarns⟩

/-- The record of a MAJOR leg that changes the type of a field notes it. -/
theorem notesType_of_retyped (hmajor : leg.op.upgradeType = .major)
    (hmoves : leg.Moves crdName cur tgt) (hkeeps : leg.Keeps nameSpace name names)
    (hnames : ∀ n ∈ names, n ≠ "") (h : Retyped cur tgt names) :
    leg.NotesType crdName names := by
  refine ⟨cur, tgt, hmoves, h, ?_⟩
  obtain ⟨k, crd, gvr, target, entries, currentSchema, targetSchema, hk, -, hgvr, hcr, htarget,
    hentries, hentry, hlive, hc, ht⟩ := hmoves
  have hmutated := mem_mutated_of_retyped (leg.sweep.schemaOrder leg.place k) hc ht h
  rw [fieldPath_of_names hnames] at hmutated
  obtain ⟨crds, hcrds, hdiff⟩ := crdDiff_of_major leg.published leg.record hmajor
  obtain ⟨crd', hk', hdecl⟩ := getElem?_of_map_declared hcrds.symm hk
  obtain ⟨hname, hkind, hversion⟩ := fields_of_declared hdecl
  have hlisted : leg.cr ∈ (leg.objects gvr).filter fun o =>
      leg.op.nameSpace = "" ∨ o.getNamespace = leg.op.nameSpace := by
    refine List.mem_filter.mpr ⟨hcr, decide_eq_true ?_⟩
    rw [hkeeps.nameSpace_eq]
    exact hkeeps.reached
  rw [hdiff, htarget]
  refine mem_typeMutations hentries hk' ?_ ?_ (leg.reads.diffing leg.place k gvr _)
    (List.ne_nil_of_mem hlisted) ?_ hmutated
  · rw [hkind]
    exact lookup_foldl_addTargetSchema (leg.kinds target entries htarget hentries) hentry ∅
  · rw [gvrOf_eq_of_declared hdecl]
    exact hgvr
  · rw [hname, hversion]
    exact hlive

/-- A MAJOR leg where the declared type of a field does not stay tells it, or drops the type. -/
theorem told_of_type_change (hmajor : leg.op.upgradeType = .major)
    (hmoves : leg.Moves crdName cur tgt) (hkeeps : leg.Keeps nameSpace name names)
    (hnames : ∀ n ∈ names, n ≠ "" ∧ '.' ∉ n.toList) (hcur : declaredAt cur names ≠ "")
    (hchange : declaredAt tgt names ≠ declaredAt cur names) :
    leg.WarnsAbove nameSpace name names ∨ leg.NotesType crdName names ∨
      leg.DropsType crdName names := by
  have hresolves : (propAt cur names).isSome = true := by
    rw [Option.isSome_iff_ne_none]
    intro hnone
    apply hcur
    rw [declaredAt, hnone]
    rfl
  cases htgt : propAt tgt names with
  | none => exact Or.inl (warnsAbove_of_lost hmajor hmoves hkeeps hnames hresolves htgt)
  | some t =>
    have hkept : (propAt tgt names).isSome = true := by rw [htgt]; rfl
    by_cases hdropped : declaredAt tgt names = ""
    · exact Or.inr (Or.inr ⟨cur, tgt, hmoves, hcur, hkept, hdropped⟩)
    · exact Or.inr (Or.inl (notesType_of_retyped hmajor hmoves hkeeps
        (fun n hn => (hnames n hn).1) ⟨hresolves, hkept, hcur, hdropped, hchange.symm⟩))

end Leg

/-! ## The chain -/

/-- A cluster of size 3 next to its operator. -/
def etcdHome : Unstructured :=
  ⟨[metadata "operators" "example", ("spec", .obj [("size", .int 3)])]⟩

/-- The descriptor of an etcd version whose clusters have these spec properties. -/
def etcdDescriptor (version : String) (declared : JMap) : JMap :=
  [("name", .str ("etcd.v" ++ version)), ("version", .str version), ("spec", .obj [ownedJson
    [("kind", .str "EtcdCluster"), ("openAPIV3Schema", .obj (specWith declared))]])]

/-- The cluster where etcd is installed at one version and offered at the next. -/
def etcdHop (installed target : String) (live declared : JMap) (gvr : GroupVersionResource) :
    List Unstructured :=
  if gvr = subscriptionGVR then
    [⟨[metadata "operators" "etcd", ("spec", .obj [("channel", .str "stable")]),
      ("status", .obj [("installedCSV", .str ("etcd.v" ++ installed))])]⟩]
  else if gvr = csvGVR then
    [⟨[metadata "operators" ("etcd.v" ++ installed), ("spec", .obj [("version", .str installed),
      ownedJson [("name", .str "etcdclusters.etcd.io"), ("kind", .str "EtcdCluster"),
        ("version", .str "v1")]])]⟩]
  else if gvr = packageManifestGVR then
    [⟨[metadata "operators" "etcd", ("status", .obj [("channels", .arr [.obj
      [("name", .str "stable"), ("currentCSVDesc", .obj (etcdDescriptor target declared))]])])]⟩]
  else if gvr = crdGVR then
    [⟨[("metadata", .obj [("name", .str "etcdclusters.etcd.io")]), ("spec", .obj [("versions", .arr
      [.obj [("name", .str "v1"), ("schema", .obj [("openAPIV3Schema",
        .obj (specWith live))])]])])]⟩]
  else if gvr = ⟨"etcd.io", "v1", "etcdclusters"⟩ then [etcdHome]
  else []

/-- The clusters before the upgrades: 2.0.0 takes `replicas` away, 3.0.0 takes `size` away. -/
def etcdFirstHop : GroupVersionResource → List Unstructured :=
  etcdHop "1.2.0" "2.0.0" [("size", .obj []), ("replicas", .obj [])] [("size", .obj [])]

def etcdSecondHop : GroupVersionResource → List Unstructured :=
  etcdHop "2.0.0" "3.0.0" [("size", .obj [])] []

theorem exists_etcdLegs :
    (∃ leg : Leg, leg.objects = etcdFirstHop ∧ leg.op.upgradeType = .major ∧
      leg.op.crdDiff.violatingCRs = [] ∧
      leg.Moves "etcdclusters.etcd.io" [("size", .obj []), ("replicas", .obj [])]
        [("size", .obj [])] ∧
      leg.Keeps "operators" "example" ["size"]) ∧
    ∃ leg : Leg, leg.objects = etcdSecondHop ∧ leg.op.upgradeType = .major ∧
      leg.Moves "etcdclusters.etcd.io" [("size", .obj [])] [] ∧
      leg.Keeps "operators" "example" ["size"] := by
  constructor
  · refine ⟨⟨.ofClient (snapshotClient etcdFirstHop), etcdFirstHop, _, 0, _, etcdHome, rfl, rfl,
      by decide, readsFrom_snapshot _, ?_⟩, rfl, rfl, rfl, ?_, rfl, rfl, Or.inr rfl, _, rfl,
      rfl⟩
    · intro target entries htarget hentries
      obtain rfl := Option.some.inj htarget
      obtain rfl := Option.some.inj hentries
      decide
    · exact ⟨0, _, _, etcdDescriptor "2.0.0" [("size", .obj [])], _,
        specWith [("size", .obj []), ("replicas", .obj [])], specWith [("size", .obj [])], rfl,
        rfl, rfl, List.mem_singleton.mpr rfl, rfl, rfl, List.mem_singleton.mpr rfl, rfl, rfl, rfl⟩
  · refine ⟨⟨.ofClient (snapshotClient etcdSecondHop), etcdSecondHop, _, 0, _, etcdHome, rfl, rfl,
      by decide, readsFrom_snapshot _, ?_⟩, rfl, rfl, ?_, rfl, rfl, Or.inr rfl, _, rfl, rfl⟩
    · intro target entries htarget hentries
      obtain rfl := Option.some.inj htarget
      obtain rfl := Option.some.inj hentries
      decide
    · exact ⟨0, _, _, etcdDescriptor "3.0.0" [], _, specWith [("size", .obj [])], specWith [],
        rfl, rfl, rfl, List.mem_singleton.mpr rfl, rfl, rfl, List.mem_singleton.mpr rfl, rfl, rfl,
        rfl⟩

/-- Two diffs without an entry, and the type has changed. -/
example :
    compareOpenAPISchemas (fun _ => .asStored)
        (specWith [("port", .obj [("type", .str "integer")])]) (specWith [("port", .obj [])]) =
          ([], []) ∧
      compareOpenAPISchemas (fun _ => .asStored) (specWith [("port", .obj [])])
        (specWith [("port", .obj [("type", .str "string")])]) = ([], []) ∧
      compareOpenAPISchemas (fun _ => .asStored)
        (specWith [("port", .obj [("type", .str "integer")])])
        (specWith [("port", .obj [("type", .str "string")])]) =
          ([], ["port (integer -> string)"]) := by decide

end HybridOperator.Dashboard
