/-
  Which custom resources the breaking-change analysis of a major upgrade reports.

  `ActiveCRs` counts the instances of the owned CRDs in the whole cluster, and
  `AnalyzeCRDBreakingChanges` lists those in the namespace of the Subscription only. On a
  cluster whose content does not change during the sweep (`ReadsFrom`), every counted custom
  resource that sets a removed field is reported exactly when all of them live in that
  namespace (`impact_reported_iff`). `impact_misses_namespace` is a cluster where one does not.
-/
import HybridOperator.Collector.Consistency
import HybridOperator.Collector.Governance

namespace HybridOperator.Collector

open HybridOperator.Lib

/-- The cluster has the same instances for every List of the sweep, and a namespaced List gives
    exactly those in that namespace. -/
structure ReadsFrom (sweep : Sweep) (objects : GroupVersionResource → List Unstructured) :
    Prop where
  counting : ∀ i k gvr, (sweep.counting i k).list gvr "" "" = .ok (objects gvr)
  diffing : ∀ i k gvr ns, (sweep.diffing i k).list gvr ns "" =
    .ok ((objects gvr).filter fun o => ns = "" ∨ o.getNamespace = ns)

/-- The descriptor of the version that an operator's channel offers. -/
def targetDescriptor (sweep : Sweep) (i : Nat) (op : OperatorInfo) : Option JMap :=
  (manifestChannel (sweep.scanning i) op).bind (nestedMap · ["currentCSVDesc"])

/-- The target declares every kind at most once. -/
def KindsOnce (sweep : Sweep) (i : Nat) (op : OperatorInfo) : Prop :=
  ∀ target entries, targetDescriptor sweep i op = some target →
    ownedEntries target = some entries → ((entries.filterMap entrySchema).map Prod.fst).Nodup

/-- The custom resource sets the spec field at a dotted path: following its names, none of which
    contains a dot, leads to a value. -/
def SetsField (cr : Unstructured) (field : String) : Prop :=
  ∃ crSpec names, nestedMap cr.object ["spec"] = some crSpec ∧ names ≠ [] ∧
    (∀ n ∈ names, '.' ∉ n.toList) ∧ field = GoStrings.join names '.' ∧
    (nestedField (.obj crSpec) names).isSome = true

/-- A counted custom resource of the operator sets a field that the diff between the live
    schema and the target schema of its kind reports as removed. -/
def SetsRemovedField (sweep : Sweep) (objects : GroupVersionResource → List Unstructured)
    (i : Nat) (op : OperatorInfo) (cr : Unstructured) (field : String) : Prop :=
  ∃ k crd gvr target entries targetSchema currentSchema,
    op.crds[k]? = some crd ∧ gvrOf crd = some gvr ∧ cr ∈ objects gvr ∧
    targetDescriptor sweep i op = some target ∧ ownedEntries target = some entries ∧
    (crd.kind, targetSchema) ∈ entries.filterMap entrySchema ∧
    getCurrentCRDSchema (sweep.diffing i k) crd.name crd.version = some currentSchema ∧
    field ∈ (compareOpenAPISchemas (sweep.schemaOrder i k) currentSchema targetSchema).1 ∧
    SetsField cr field

/-- The analysis warns, with an entry for the resource and the field. -/
def Reported (op : OperatorInfo) (cr : Unstructured) (field : String) : Prop :=
  op.crdDiff.hasBreakingImpact = true ∧
    ∃ d ∈ op.crdDiff.violatingCRs, d.crName = cr.getName ∧ d.crNamespace = cr.getNamespace ∧
      d.breakingField = "spec." ++ field

/-! ## The analysis behind a published record -/

section Channel

variable (dyn : Nat → DynClient) (order : Nat → List String → RangeOrder String)
  (ocpNext : String)

theorem withChannel_major {op : OperatorInfo} {chMap : JMap} (hno : op.upgradeType = .none)
    (h : (withChannel dyn order ocpNext op chMap).upgradeType = .major) :
    (withChannel dyn order ocpNext op chMap).crdDiff =
      analyzeCRDBreakingChanges dyn order op.nameSpace op.crds
        (nestedMap chMap ["currentCSVDesc"]) := by
  unfold withChannel at h ⊢
  dsimp only at h ⊢
  split_ifs at h ⊢ with hgreater hmajor
  · rfl
  · exact absurd (hno.symm.trans h) (by decide)

end Channel

/-- The fields that say which upgrade to look at are those collected before. -/
theorem targetDescriptor_congr (sweep : Sweep) (i : Nat) {op op' : OperatorInfo}
    (hns : op.nameSpace = op'.nameSpace) (hpackage : op.package = op'.package)
    (hchannel : op.channel = op'.channel) :
    targetDescriptor sweep i op = targetDescriptor sweep i op' := by
  unfold targetDescriptor manifestChannel
  rw [hns, hpackage, hchannel]

theorem crdDiff_withManifest (sweep : Sweep) (i : Nat) {op : OperatorInfo}
    (hno : op.upgradeType = .none) (h : (withManifest sweep i op).upgradeType = .major) :
    (withManifest sweep i op).crdDiff =
      analyzeCRDBreakingChanges (sweep.diffing i) (sweep.schemaOrder i) op.nameSpace op.crds
        (targetDescriptor sweep i op) := by
  rcases withManifest_cases sweep i op with heq | ⟨chMap, hch, heq⟩
  · rw [heq, hno] at h
    cases h
  · rw [heq] at h ⊢
    rw [withChannel_major _ _ _ hno h, targetDescriptor, hch]
    rfl

/-- What a published record still shares with the record before its scores. -/
theorem published_fields {sweep : Sweep} {i : Nat} {op base : OperatorInfo} {crds : List CRDInfo}
    (h : op = (withScores sweep i base).setCRDs crds) :
    op.upgradeType = base.upgradeType ∧ op.crdDiff = base.crdDiff ∧
      op.nameSpace = base.nameSpace ∧ op.package = base.package ∧ op.channel = base.channel := by
  subst h
  exact ⟨rfl, rfl, rfl, rfl, rfl⟩

section Response

variable {sweep : Sweep} {resp : ClusterGovernanceResponse}

/-- The diff published for a major upgrade is the analysis of the CRDs of the record, counts
    aside, in the namespace of the Subscription. -/
theorem crdDiff_of_major (hresp : getClusterGovernance sweep = .ok resp) {i : Nat}
    {op : OperatorInfo} (hop : resp.operators[i]? = some op) (hmajor : op.upgradeType = .major) :
    ∃ crds, crds.map CRDInfo.declared = op.crds.map CRDInfo.declared ∧
      op.crdDiff = analyzeCRDBreakingChanges (sweep.diffing i) (sweep.schemaOrder i)
        op.nameSpace crds (targetDescriptor sweep i op) := by
  obtain ⟨csvMap, sub, hrecord, hcrds⟩ := operator_of_response hresp hop
  obtain ⟨hbase, hcan⟩ := consistent_baseOperator sweep csvMap sub i
  have hno : (baseOperator sweep csvMap sub i).upgradeType = .none := by
    rw [hbase.upgradeType_eq, hcan]
    rfl
  obtain ⟨htype, hdiff, hns, hpackage, hchannel⟩ := published_fields hrecord
  obtain ⟨-, -, hns', hpackage', hchannel'⟩ :=
    withManifest_frame sweep i (baseOperator sweep csvMap sub i)
  have htarget := targetDescriptor_congr sweep i (hns.trans hns') (hpackage.trans hpackage')
    (hchannel.trans hchannel')
  rw [htype] at hmajor
  refine ⟨(baseOperator sweep csvMap sub i).crds, ?_, ?_⟩
  · rw [hcrds, roundRecord_crds]
  · rw [hdiff, crdDiff_withManifest sweep i hno hmajor, htarget, hns, hns']

end Response

/-! ## What is reported -/

theorem hasFieldInSpec_of_setsField {cr : Unstructured} {field : String}
    (h : SetsField cr field) :
    ∃ crSpec, nestedMap cr.object ["spec"] = some crSpec ∧ hasFieldInSpec crSpec field = true := by
  obtain ⟨crSpec, names, hspec, hne, hdot, rfl, hset⟩ := h
  exact ⟨crSpec, hspec, by rw [hasFieldInSpec_join crSpec hne hdot, hset]⟩

section Reported

variable {sweep : Sweep} {objects : GroupVersionResource → List Unstructured} {i : Nat}
  {op : OperatorInfo} {crds : List CRDInfo} {cr : Unstructured} {field : String}

/-- An entry is about an instance that the namespaced List gave. -/
theorem namespace_of_reported (hreads : ReadsFrom sweep objects)
    (hdiff : op.crdDiff = analyzeCRDBreakingChanges (sweep.diffing i) (sweep.schemaOrder i)
      op.nameSpace crds (targetDescriptor sweep i op))
    (hsets : SetsRemovedField sweep objects i op cr field) (h : Reported op cr field) :
    op.nameSpace = "" ∨ cr.getNamespace = op.nameSpace := by
  obtain ⟨-, d, hd, -, hdns, -⟩ := h
  obtain ⟨-, -, -, target, entries, -, -, -, -, -, htarget, hentries, -⟩ := hsets
  rw [hdiff, htarget, mem_violatingCRs_iff _ _ _ _ hentries] at hd
  obtain ⟨k, crd, crs, removed, -, ⟨_, gvr, _, -, -, hlist, -⟩, cr', hcr', hviol⟩ := hd
  obtain ⟨_, -, field', -, -, rfl⟩ := mem_violations.mp hviol
  rw [hreads.diffing, Except.ok.injEq] at hlist
  rw [← hlist] at hcr'
  have hns := of_decide_eq_true (List.mem_filter.mp hcr').2
  rwa [show cr'.getNamespace = cr.getNamespace from hdns] at hns

/-- An instance in the namespace of the Subscription is listed, and its removed fields found. -/
theorem reported_of_namespace (hreads : ReadsFrom sweep objects)
    (hkinds : KindsOnce sweep i op)
    (hcrds : crds.map CRDInfo.declared = op.crds.map CRDInfo.declared)
    (hdiff : op.crdDiff = analyzeCRDBreakingChanges (sweep.diffing i) (sweep.schemaOrder i)
      op.nameSpace crds (targetDescriptor sweep i op))
    (hsets : SetsRemovedField sweep objects i op cr field)
    (hns : op.nameSpace = "" ∨ cr.getNamespace = op.nameSpace) : Reported op cr field := by
  obtain ⟨k, crd, gvr, target, entries, targetSchema, currentSchema, hk, hgvr, hcr, htarget,
    hentries, hentry, hcur, hremoved, hset⟩ := hsets
  obtain ⟨crd', hk', hdecl⟩ := getElem?_of_map_declared hcrds.symm hk
  obtain ⟨hname, hkind, hversion⟩ := fields_of_declared hdecl
  have hlookup := lookup_foldl_addTargetSchema (hkinds target entries htarget hentries) hentry ∅
  have hlisted : cr ∈ (objects gvr).filter fun o =>
      op.nameSpace = "" ∨ o.getNamespace = op.nameSpace :=
    List.mem_filter.mpr ⟨hcr, decide_eq_true hns⟩
  obtain ⟨crSpec, hspec, hfield⟩ := hasFieldInSpec_of_setsField hset
  have hmem : impactDetail crd' cr field ∈ op.crdDiff.violatingCRs := by
    rw [hdiff, htarget, mem_violatingCRs_iff _ _ _ _ hentries]
    refine ⟨k, crd', _, _, hk', ⟨targetSchema, gvr, currentSchema, ?_, ?_, ?_, ?_, rfl⟩, cr,
      hlisted, mem_violations.mpr ⟨crSpec, hspec, field, hremoved, hfield, rfl⟩⟩
    · rw [hkind]
      exact hlookup
    · rw [gvrOf_eq_of_declared hdecl]
      exact hgvr
    · exact hreads.diffing i k gvr op.nameSpace
    · rw [hname, hversion]
      exact hcur
  refine ⟨?_, _, hmem, rfl, rfl, rfl⟩
  rw [hdiff] at hmem ⊢
  exact (hasBreakingImpact_iff _ _ _ _ _).mpr (List.ne_nil_of_mem hmem)

end Reported

/-- **Every counted custom resource that sets a removed field is reported**, exactly when those
    that do so live in the namespace of the Subscription. -/
theorem impact_reported_iff (sweep : Sweep) (resp : ClusterGovernanceResponse)
    (hresp : getClusterGovernance sweep = .ok resp) (i : Nat) (op : OperatorInfo)
    (hop : resp.operators[i]? = some op) (hmajor : op.upgradeType = .major)
    (objects : GroupVersionResource → List Unstructured) (hreads : ReadsFrom sweep objects)
    (hkinds : KindsOnce sweep i op) :
    (∀ cr field, SetsRemovedField sweep objects i op cr field → Reported op cr field) ↔
      ∀ cr field, SetsRemovedField sweep objects i op cr field →
        op.nameSpace = "" ∨ cr.getNamespace = op.nameSpace := by
  obtain ⟨crds, hcrds, hdiff⟩ := crdDiff_of_major hresp hop hmajor
  constructor
  · intro h cr field hsets
    exact namespace_of_reported hreads hdiff hsets (h cr field hsets)
  · intro h cr field hsets
    exact reported_of_namespace hreads hkinds hcrds hdiff hsets (h cr field hsets)

/-! ### A custom resource in another namespace -/

theorem readsFrom_snapshot (objects : GroupVersionResource → List Unstructured) :
    ReadsFrom (.ofClient (snapshotClient objects)) objects where
  counting _ _ gvr := by
    show Except.ok ((objects gvr).filter _) = _
    rw [List.filter_eq_self.mpr fun _ _ => by simp]
  diffing _ _ _ _ := rfl

/-- An `openAPIV3Schema` with these spec properties. -/
def specWith (properties : JMap) : JMap :=
  [("properties", .obj [("spec", .obj [("properties", .obj properties)])])]

/-- The owned CRDs of a CSV, with one entry. -/
def ownedJson (entry : JMap) : String × Json :=
  ("customresourcedefinitions", .obj [("owned", .arr [.obj entry])])

/-- The descriptor of etcd 2.0.0, whose clusters have no `size` any more. -/
def etcdTarget : JMap :=
  [("name", .str "etcd.v2.0.0"), ("version", .str "2.0.0"), ("spec", .obj [ownedJson
    [("kind", .str "EtcdCluster"), ("openAPIV3Schema", .obj (specWith []))]])]

/-- A cluster of size 3 in `team-a`. -/
def etcdCluster : Unstructured :=
  ⟨[metadata "team-a" "example", ("spec", .obj [("size", .int 3)])]⟩

/-- etcd 1.2.0 is installed in `operators`, its channel offers 2.0.0. -/
def etcdUpgradeObjects (gvr : GroupVersionResource) : List Unstructured :=
  if gvr = subscriptionGVR then
    [⟨[metadata "operators" "etcd", ("spec", .obj [("channel", .str "stable")]),
      ("status", .obj [("installedCSV", .str "etcd.v1.2.0")])]⟩]
  else if gvr = csvGVR then
    [⟨[metadata "operators" "etcd.v1.2.0", ("status", .obj [("phase", .str "Succeeded")]),
      ("spec", .obj [("version", .str "1.2.0"), ownedJson [("name", .str "etcdclusters.etcd.io"),
        ("kind", .str "EtcdCluster"), ("version", .str "v1")]])]⟩]
  else if gvr = packageManifestGVR then
    [⟨[metadata "operators" "etcd", ("status", .obj [("channels", .arr [.obj
      [("name", .str "stable"), ("currentCSVDesc", .obj etcdTarget)]])])]⟩]
  else if gvr = crdGVR then
    [⟨[("metadata", .obj [("name", .str "etcdclusters.etcd.io")]), ("spec", .obj [("versions", .arr
      [.obj [("name", .str "v1"), ("schema", .obj [("openAPIV3Schema",
        .obj (specWith [("size", .obj [])]))])]])])]⟩]
  else if gvr = ⟨"etcd.io", "v1", "etcdclusters"⟩ then [etcdCluster]
  else []

def etcdUpgradeSweep : Sweep := .ofClient (snapshotClient etcdUpgradeObjects)

theorem kindsOnce_etcd {op : OperatorInfo}
    (h : targetDescriptor etcdUpgradeSweep 0 op = some etcdTarget) :
    KindsOnce etcdUpgradeSweep 0 op := by
  intro target entries htarget hentries
  rw [h] at htarget
  obtain rfl := Option.some.inj htarget
  obtain rfl := Option.some.inj hentries
  decide

/-- The cluster in `team-a` is counted and sets the removed field; the analysis reports no
    breaking impact. -/
theorem impact_misses_namespace :
    ∃ resp op, getClusterGovernance etcdUpgradeSweep = .ok resp ∧ resp.operators[0]? = some op ∧
      op.upgradeType = .major ∧ op.activeCRs = 1 ∧ ReadsFrom etcdUpgradeSweep etcdUpgradeObjects ∧
      KindsOnce etcdUpgradeSweep 0 op ∧
      SetsRemovedField etcdUpgradeSweep etcdUpgradeObjects 0 op etcdCluster "size" ∧
      ¬ Reported op etcdCluster "size" := by
  refine ⟨_, _, rfl, rfl, by decide, by decide, readsFrom_snapshot _, kindsOnce_etcd rfl, ?_, ?_⟩
  · have hset : SetsField etcdCluster "size" :=
      ⟨_, ["size"], rfl, by decide, by decide, by decide, rfl⟩
    refine ⟨0, _, _, etcdTarget, _, specWith [], specWith [("size", .obj [])], rfl, rfl,
      List.mem_singleton.mpr rfl, rfl, rfl, List.mem_singleton.mpr rfl, rfl, ?_, hset⟩
    decide
  · rintro ⟨himpact, -⟩
    revert himpact
    decide

theorem impact_reported_iff_etcd :
    ∃ resp op, getClusterGovernance etcdUpgradeSweep = .ok resp ∧ resp.operators[0]? = some op ∧
      ((∀ cr field, SetsRemovedField etcdUpgradeSweep etcdUpgradeObjects 0 op cr field →
          Reported op cr field) ↔
        ∀ cr field, SetsRemovedField etcdUpgradeSweep etcdUpgradeObjects 0 op cr field →
          op.nameSpace = "" ∨ cr.getNamespace = op.nameSpace) :=
  ⟨_, _, rfl, rfl, impact_reported_iff etcdUpgradeSweep _ rfl 0 _ rfl (by decide) _
    (readsFrom_snapshot _) (kindsOnce_etcd rfl)⟩

end HybridOperator.Collector
