/-
  Which target schema a CRD is compared with.

  A CSV lists one entry for each served version of a CRD, and CRDs of two groups may share a
  kind. `AnalyzeCRDBreakingChanges` keeps the target schemas by kind alone, so of the entries
  with a schema and the same kind the last one stays (`lookup_targetSchemas`).

  Proved:
  * `diffedWith_iff`: a CRD whose instances and live schema are there is compared with the schema
    of the last target entry of its kind.
  * `comparesOwn_iff`: in whatever order the target entries stand, every CRD is compared with
    the schema of its own entry and the result is the same, exactly when all entries with the
    kind of such a CRD have the schema of its own entry.
-/
import HybridOperator.Collector.BreakingChanges
import HybridOperator.Collector.ImpactCoverage

namespace HybridOperator.Collector

open HybridOperator.Lib

/-- The entry is for this CRD: it has its name and its version. -/
def EntryFor (crd : CRDInfo) (item : Json) : Prop :=
  ∃ crdMap, item.asMap = some crdMap ∧ (ownedCRD crdMap).name = crd.name ∧
    (ownedCRD crdMap).version = crd.version

/-- The schema is the one of the entry for the CRD. -/
structure OwnSchema (entries : List Json) (crd : CRDInfo) (schema : JMap) : Prop where
  listed : ∃ item ∈ entries, EntryFor crd item ∧ ∃ kind, entrySchema item = some (kind, schema)
  only : ∀ item ∈ entries, EntryFor crd item → ∀ kind s, entrySchema item = some (kind, s) →
    s = schema

/-- The CRD gets as far as the diff, if there is a target schema: its name splits, the List
    returns an instance, the live schema is resolved. -/
def HasBaseline (dyn : DynClient) (ns : String) (crd : CRDInfo) : Prop :=
  ∃ gvr crs currentSchema, gvrOf crd = some gvr ∧ dyn.list gvr ns "" = .ok crs ∧ crs ≠ [] ∧
    getCurrentCRDSchema dyn crd.name crd.version = some currentSchema

/-- The CRD is compared with this target schema. -/
def DiffedWith (dyn : DynClient) (ns : String) (targetCSV : Option JMap) (crd : CRDInfo)
    (schema : JMap) : Prop :=
  HasBaseline dyn ns crd ∧ (targetSchemaMap targetCSV).lookup crd.kind = some schema

/-- The last schema that an entry of the kind declares. -/
def lastOfKind (entries : List Json) (kind : String) : Option JMap :=
  (((entries.filterMap entrySchema).filter fun e => e.1 = kind).getLast?).map Prod.snd

/-! ## The map by kind -/

theorem lookup_targetSchemas {target : JMap} {entries : List Json}
    (ht : ownedEntries target = some entries) (kind : String) :
    (targetSchemaMap (some target)).lookup kind = lastOfKind entries kind := by
  have hinsert : ∀ m : GoMap String JMap, entries.foldl addTargetSchema m =
      (entries.filterMap entrySchema).foldl (fun m e => m.insert e.1 e.2) m := by
    intro m
    rw [List.foldl_filterMap]
    refine List.foldl_ext _ _ _ fun m item _ => ?_
    rw [addTargetSchema_eq]
    cases entrySchema item <;> rfl
  rw [targetSchemaMap, Option.bind_some, ht, Option.getD_some, hinsert,
    GoMap.lookup_foldl_insert, AList.lookup_empty, Option.or_none, lastOfKind]

theorem diffedWith_iff {dyn : DynClient} {ns : String} {target : JMap} {entries : List Json}
    (ht : ownedEntries target = some entries) {crd : CRDInfo} {schema : JMap} :
    DiffedWith dyn ns (some target) crd schema ↔
      HasBaseline dyn ns crd ∧ lastOfKind entries crd.kind = some schema := by
  rw [DiffedWith, lookup_targetSchemas ht]

/-- The diff of a CRD is reached when there is a schema it is compared with, and finds what that
    schema changes. -/
theorem reachesDiff_iff_diffedWith {dyn : DynClient} {order : List String → RangeOrder String}
    {ns : String} {targetCSV : Option JMap} {crd : CRDInfo} :
    (∃ found, ReachesDiff dyn order ns (targetSchemaMap targetCSV) crd found) ↔
      ∃ schema, DiffedWith dyn ns targetCSV crd schema := by
  constructor
  · rintro ⟨_, schema, gvr, crs, currentSchema, hschema, hgvr, hlist, hne, hcur, rfl⟩
    exact ⟨schema, ⟨gvr, crs, currentSchema, hgvr, hlist, hne, hcur⟩, hschema⟩
  · rintro ⟨schema, ⟨gvr, crs, currentSchema, hgvr, hlist, hne, hcur⟩, hschema⟩
    exact ⟨_, schema, gvr, crs, currentSchema, hschema, hgvr, hlist, hne, hcur, rfl⟩

theorem mem_of_lastOfKind {entries : List Json} {kind : String} {schema : JMap}
    (h : lastOfKind entries kind = some schema) :
    ∃ item ∈ entries, entrySchema item = some (kind, schema) := by
  obtain ⟨⟨k, s⟩, hlast, rfl⟩ := Option.map_eq_some_iff.mp h
  obtain ⟨hmem, hkind⟩ := List.mem_filter.mp (List.mem_of_getLast? hlast)
  obtain ⟨item, hitem, hentry⟩ := List.mem_filterMap.mp hmem
  obtain rfl : k = kind := of_decide_eq_true hkind
  exact ⟨item, hitem, hentry⟩

theorem lastOfKind_eq_none {entries : List Json} {kind : String}
    (h : lastOfKind entries kind = none) {item : Json} (hitem : item ∈ entries) (schema : JMap) :
    entrySchema item ≠ some (kind, schema) := by
  intro hentry
  rw [lastOfKind, Option.map_eq_none_iff, List.getLast?_eq_none_iff,
    List.filter_eq_nil_iff] at h
  exact h (kind, schema) (List.mem_filterMap.mpr ⟨item, hitem, hentry⟩) (decide_eq_true rfl)

/-- Of the entries of a kind, the one that is moved to the end stays. -/
theorem lastOfKind_concat {item : Json} {kind : String} {schema : JMap} (entries : List Json)
    (h : entrySchema item = some (kind, schema)) :
    lastOfKind (entries ++ [item]) kind = some schema := by
  rw [lastOfKind, List.filterMap_append, List.filterMap_cons_some h, List.filterMap_nil,
    List.filter_append, List.filter_singleton, decide_eq_true rfl, cond_true,
    List.getLast?_concat]
  rfl

/-! ## One CRD -/

theorem OwnSchema.unique {entries : List Json} {crd : CRDInfo} {s t : JMap}
    (hs : OwnSchema entries crd s) (ht : OwnSchema entries crd t) : s = t := by
  obtain ⟨item, hitem, hfor, kind, hentry⟩ := hs.listed
  exact ht.only item hitem hfor kind s hentry

theorem impactOf_congr {dyn : DynClient} {order : List String → RangeOrder String} {ns : String}
    {m m' : GoMap String JMap} {crd : CRDInfo}
    (h : HasBaseline dyn ns crd → m.lookup crd.kind = m'.lookup crd.kind) :
    impactOf dyn order ns m crd = impactOf dyn order ns m' crd := by
  have hnone : ∀ m, ¬ HasBaseline dyn ns crd → diffOf dyn order ns m crd = none := by
    intro m hbase
    rw [Option.eq_none_iff_forall_not_mem]
    rintro ⟨crs, found⟩ hdiff
    obtain ⟨_, gvr, currentSchema, -, hgvr, hlist, hne, hcur, -⟩ := (diffOf_eq_some ..).mp hdiff
    exact hbase ⟨gvr, crs, currentSchema, hgvr, hlist, hne, hcur⟩
  by_cases hbase : HasBaseline dyn ns crd
  · unfold impactOf
    rw [h hbase]
  · rw [impactOf_eq, impactOf_eq, hnone m hbase, hnone m' hbase]

/-! ## The order of the entries -/

section Law

variable (dyn : Nat → DynClient) (order : Nat → List String → RangeOrder String) (ns : String)
  (currentCRDs : List CRDInfo)

/-- In whatever order the entries of the descriptor stand, each CRD is compared with the schema
    of its own entry, and the result is the same. -/
def ComparesOwn (target : JMap) (entries : List Json) : Prop :=
  ∀ target' entries', ownedEntries target' = some entries' → entries'.Perm entries →
    (∀ k crd schema, currentCRDs[k]? = some crd → DiffedWith (dyn k) ns (some target') crd schema →
      OwnSchema entries crd schema) ∧
    analyzeLoop dyn order ns currentCRDs (some target') =
      analyzeLoop dyn order ns currentCRDs (some target)

/-- A descriptor with these owned entries. -/
def descriptorOf (entries : List Json) : JMap :=
  [("spec", .obj [("customresourcedefinitions", .obj [("owned", .arr entries)])])]

theorem ownedEntries_descriptorOf (entries : List Json) :
    ownedEntries (descriptorOf entries) = some entries := rfl

/-- Every CRD is compared with the schema of its own entry whatever the order, exactly when the
    entries with its kind have that schema. -/
theorem comparesOwn_iff (target : JMap) (entries : List Json)
    (ht : ownedEntries target = some entries) :
    ComparesOwn dyn order ns currentCRDs target entries ↔
      ∀ k crd, currentCRDs[k]? = some crd → HasBaseline (dyn k) ns crd →
        ∀ item ∈ entries, ∀ schema, entrySchema item = some (crd.kind, schema) →
          OwnSchema entries crd schema := by
  constructor
  · intro h k crd hcrd hbase item hitem schema hentry
    -- the descriptor in which this entry is the last one
    obtain ⟨before, after, rfl⟩ := List.append_of_mem hitem
    have hperm : ((before ++ after) ++ [item]).Perm (before ++ item :: after) := by
      refine (List.perm_append_singleton item (before ++ after)).trans ?_
      exact List.perm_middle.symm
    refine (h _ _ (ownedEntries_descriptorOf _) hperm).1 k crd schema hcrd ?_
    exact (diffedWith_iff (ownedEntries_descriptorOf _)).mpr
      ⟨hbase, lastOfKind_concat (before ++ after) hentry⟩
  · intro h target' entries' ht' hperm
    have hown : ∀ k crd schema, currentCRDs[k]? = some crd → HasBaseline (dyn k) ns crd →
        lastOfKind entries' crd.kind = some schema → OwnSchema entries crd schema := by
      intro k crd schema hcrd hbase hlast
      obtain ⟨item, hitem, hentry⟩ := mem_of_lastOfKind hlast
      exact h k crd hcrd hbase item (hperm.mem_iff.mp hitem) schema hentry
    refine ⟨fun k crd schema hcrd hdiffed => ?_, ?_⟩
    · obtain ⟨hbase, hlast⟩ := (diffedWith_iff ht').mp hdiffed
      exact hown k crd schema hcrd hbase hlast
    · rw [analyzeLoop_eq, analyzeLoop_eq, analyze_eq_concat, analyze_eq_concat]
      refine congrArg CRDDiffResult.concat (List.map_congr_left ?_)
      rintro ⟨crd, k⟩ hmem
      have hcrd : currentCRDs[k]? = some crd := List.mem_zipIdx_iff_getElem?.mp hmem
      refine impactOf_congr fun hbase => ?_
      rw [lookup_targetSchemas ht, lookup_targetSchemas ht']
      cases hlast' : lastOfKind entries' crd.kind with
      | none =>
        cases hlast : lastOfKind entries crd.kind with
        | none => rfl
        | some schema =>
          obtain ⟨item, hitem, hentry⟩ := mem_of_lastOfKind hlast
          exact absurd hentry (lastOfKind_eq_none hlast' (hperm.mem_iff.mpr hitem) schema)
      | some schema' =>
        obtain ⟨item', hitem', hentry'⟩ := mem_of_lastOfKind hlast'
        cases hlast : lastOfKind entries crd.kind with
        | none =>
          exact absurd hentry' (lastOfKind_eq_none hlast (hperm.mem_iff.mp hitem') schema')
        | some schema =>
          -- both are the schema of the CRD's own entry
          obtain ⟨item, hitem, hentry⟩ := mem_of_lastOfKind hlast
          have howned := h k crd hcrd hbase item hitem schema hentry
          rw [howned.unique (hown k crd schema' hcrd hbase hlast')]

end Law

/-! ### A CRD with two served versions -/

/-- An owned entry of etcd: the CRD `etcdclusters.etcd.io` at a version, with a schema. -/
def etcdEntry (version : String) (properties : JMap) : Json :=
  .obj [("name", .str "etcdclusters.etcd.io"), ("kind", .str "EtcdCluster"),
    ("version", .str version), ("openAPIV3Schema", .obj (specWith properties))]

/-- The CRD at the installed version. -/
def etcdV1 : CRDInfo := ⟨"etcdclusters.etcd.io", "EtcdCluster", "v1", "", "", 0⟩

def etcdAnalysis (entries : List Json) : CRDDiffResult :=
  analyzeLoop (fun _ => snapshotClient etcdUpgradeObjects) (fun _ _ => .asStored) "team-a" [etcdV1]
    (some (descriptorOf entries))

/-- The target keeps `size` in `v1` and never had it in `v1beta1`. With the entry for `v1beta1`
    at the end the analysis reports the cluster that sets `size`, with the one for `v1` it
    reports nothing. -/
theorem other_version_compared :
    (etcdAnalysis [etcdEntry "v1" [("size", .obj [])], etcdEntry "v1beta1" []]).hasBreakingImpact =
        true ∧
      (etcdAnalysis [etcdEntry "v1beta1" [],
        etcdEntry "v1" [("size", .obj [])]]).hasBreakingImpact = false ∧
      ¬ ComparesOwn (fun _ => snapshotClient etcdUpgradeObjects) (fun _ _ => .asStored) "team-a"
        [etcdV1] (descriptorOf [etcdEntry "v1" [("size", .obj [])], etcdEntry "v1beta1" []])
        [etcdEntry "v1" [("size", .obj [])], etcdEntry "v1beta1" []] := by
  have hlast : (etcdAnalysis
      [etcdEntry "v1" [("size", .obj [])], etcdEntry "v1beta1" []]).hasBreakingImpact = true := by
    decide
  have hfirst : (etcdAnalysis
      [etcdEntry "v1beta1" [], etcdEntry "v1" [("size", .obj [])]]).hasBreakingImpact = false := by
    decide
  refine ⟨hlast, hfirst, fun h => ?_⟩
  have hsame := (h _ _ (ownedEntries_descriptorOf _) (List.Perm.swap _ _ [])).2
  have hflag := congrArg CRDDiffResult.hasBreakingImpact hsame
  exact Bool.false_ne_true (hfirst.symm.trans (hflag.trans hlast))

theorem comparesOwn_iff_etcd :
    ComparesOwn (fun _ => snapshotClient etcdUpgradeObjects) (fun _ _ => .asStored) "team-a"
        [etcdV1] (descriptorOf [etcdEntry "v1" []]) [etcdEntry "v1" []] ↔
      ∀ (k : Nat) crd, [etcdV1][k]? = some crd →
        HasBaseline (snapshotClient etcdUpgradeObjects) "team-a" crd →
        ∀ item ∈ [etcdEntry "v1" []], ∀ schema, entrySchema item = some (crd.kind, schema) →
          OwnSchema [etcdEntry "v1" []] crd schema :=
  comparesOwn_iff _ _ "team-a" [etcdV1] (descriptorOf [etcdEntry "v1" []]) [etcdEntry "v1" []] rfl

end HybridOperator.Collector
