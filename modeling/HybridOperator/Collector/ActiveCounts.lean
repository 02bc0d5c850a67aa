/-
  What `ActiveCRs` counts.

  The loop over the owned CRDs adds the length of every List that succeeds (`activeCRs_eq`). A
  CSV lists a CRD once for each served version, and a List at any served version gives all the
  instances of the CRD. So the instances of a CRD are counted once for each of its entries.

  Proved: `activeCRs_distinct_iff`, with every call answered, `ActiveCRs` is the number of
  distinct instances exactly when no CRD that has instances has two entries.
-/
import HybridOperator.Collector.IdleOperators
import HybridOperator.Collector.UpgradeOffer
import Mathlib.Data.Finset.Card

namespace HybridOperator.Collector

open HybridOperator.Lib

/-! ## The counter -/

theorem withFailure_activeCRs (op : OperatorInfo) : (withFailure op).activeCRs = op.activeCRs :=
  withFailure_keeps op (·.activeCRs) fun _ _ _ _ => rfl

theorem baseOperator_activeCRs (sweep : Sweep) (csvMap : CSVMap) (sub : Unstructured) (i : Nat) :
    (baseOperator sweep csvMap sub i).activeCRs =
      (countCRs (sweep.counting i) (installedOperator csvMap sub)).activeCRs := by
  unfold baseOperator
  dsimp only
  rw [withFailure_activeCRs]
  rfl

theorem withManifest_activeCRs (sweep : Sweep) (i : Nat) (op : OperatorInfo) :
    (withManifest sweep i op).activeCRs = op.activeCRs :=
  withManifest_keeps sweep i op (·.activeCRs) fun _ _ _ _ _ _ _ _ => rfl

theorem withScores_activeCRs (sweep : Sweep) (i : Nat) (op : OperatorInfo) (crds : List CRDInfo) :
    ((withScores sweep i op).setCRDs crds).activeCRs = op.activeCRs := rfl

/-- CRDs that declare the same are counted alike. -/
theorem instances_congr {crds crds' : List CRDInfo} (dyn : Nat → DynClient)
    (h : crds.map CRDInfo.declared = crds'.map CRDInfo.declared) :
    crds.zipIdx.map (instances dyn) = crds'.zipIdx.map (instances dyn) := by
  have hlengths : ∀ crds : List CRDInfo,
      crds.zipIdx.map (instances dyn) = (listings dyn crds).map List.length := by
    intro crds
    rw [listings, List.map_map]
    rfl
  rw [hlengths, hlengths, listings_congr dyn h]

/-- `ActiveCRs` of a published record is the sum over its CRDs of what their Lists gave in its own
    round. -/
theorem activeCRs_eq {sweep : Sweep} {resp : ClusterGovernanceResponse}
    (hresp : getClusterGovernance sweep = .ok resp) {i : Nat} {op : OperatorInfo}
    (hop : resp.operators[i]? = some op) :
    op.activeCRs = (op.crds.zipIdx.map (instances (sweep.counting i))).sum := by
  obtain ⟨csvMap, sub, hrecord, hcrds⟩ := operator_of_response hresp hop
  have hactive : op.activeCRs = (baseOperator sweep csvMap sub i).activeCRs := by
    have hfield := congrArg OperatorInfo.activeCRs hrecord
    rwa [roundRecord, withScores_activeCRs, withManifest_activeCRs] at hfield
  have hdeclared : op.crds.map CRDInfo.declared =
      (installedOperator csvMap sub).crds.map CRDInfo.declared := by
    rw [hcrds, roundRecord_crds, declared_baseOperator_crds]
  rw [hactive, baseOperator_activeCRs, countCRs_activeCRs, instances_congr _ hdeclared]

/-! ## Distinct instances -/

section Distinct

variable (objects : GroupVersionResource → List Unstructured)

/-- The instances of the CRD of an entry, as a List at the version of the entry gives them. -/
def ownedInstances (crd : CRDInfo) : List Unstructured := ((gvrOf crd).map objects).getD []

/-- An instance by its CRD, its namespace and its name. -/
def instanceKey (crd : CRDInfo) (cr : Unstructured) : String × String × String :=
  (crd.name, cr.getNamespace, cr.getName)

/-- The instances of all entries, one entry after the other. -/
def instanceKeys (crds : List CRDInfo) : List (String × String × String) :=
  crds.flatMap fun crd => (ownedInstances objects crd).map (instanceKey crd)

/-- The API server answers the Lists of the round from the instances there are: namespace and
    name tell them apart, and every served version of a CRD gives all of them. -/
structure AnswersFrom (sweep : Sweep) (i : Nat) (crds : List CRDInfo) : Prop where
  answers : ∀ k crd gvr, crds[k]? = some crd → gvrOf crd = some gvr →
    (sweep.counting i k).list gvr "" "" = .ok (objects gvr)
  named : ∀ gvr, ((objects gvr).map fun cr => (cr.getNamespace, cr.getName)).Nodup
  served : ∀ a ∈ crds, ∀ b ∈ crds, a.name = b.name → ∀ cr ∈ ownedInstances objects a,
    ∃ cr' ∈ ownedInstances objects b,
      cr'.getNamespace = cr.getNamespace ∧ cr'.getName = cr.getName

/-- No CRD that has instances has two entries. -/
def CountedOnce (crds : List CRDInfo) : Prop :=
  crds.Pairwise fun a b => a.name = b.name → ownedInstances objects a = []

variable {objects}

theorem instances_eq {sweep : Sweep} {i : Nat} {crds : List CRDInfo}
    (h : AnswersFrom objects sweep i crds) :
    (crds.zipIdx.map (instances (sweep.counting i))).sum = (instanceKeys objects crds).length := by
  have hone : ∀ input ∈ crds.zipIdx, instances (sweep.counting i) input =
      (ownedInstances objects input.1).length := by
    rintro ⟨crd, k⟩ hmem
    have hk : crds[k]? = some crd := List.mem_zipIdx_iff_getElem?.mp hmem
    unfold instances listCRs ownedInstances
    cases hgvr : gvrOf crd with
    | none => simp only [Option.bind_none, Option.map_none]
    | some gvr =>
      simp only [Option.bind_some, Option.map_some, h.answers k crd gvr hk hgvr]
      rfl
  have hcrds : crds.zipIdx.map (fun input => (ownedInstances objects input.1).length) =
      crds.map fun crd => (ownedInstances objects crd).length := by
    rw [← Function.comp_def (fun crd => (ownedInstances objects crd).length) Prod.fst,
      ← List.map_map, List.zipIdx_map_fst]
  rw [List.map_congr_left hone, hcrds, instanceKeys, List.length_flatMap]
  simp only [List.length_map]

/-- The entries of a CRD have the same instances, so two of them repeat each one. -/
theorem nodup_instanceKeys_iff {sweep : Sweep} {i : Nat} {crds : List CRDInfo}
    (h : AnswersFrom objects sweep i crds) :
    (instanceKeys objects crds).Nodup ↔ CountedOnce objects crds := by
  have heach : ∀ crd ∈ crds, ((ownedInstances objects crd).map (instanceKey crd)).Nodup := by
    intro crd _
    unfold ownedInstances
    cases gvrOf crd with
    | none => exact List.nodup_nil
    | some gvr =>
      refine List.Nodup.of_map Prod.snd ?_
      rw [List.map_map]
      exact h.named gvr
  rw [instanceKeys, List.nodup_flatMap, and_iff_right heach, CountedOnce]
  refine List.Pairwise.iff_of_mem fun {a b} ha hb => ?_
  constructor
  · intro hdisjoint hname
    refine List.eq_nil_iff_forall_not_mem.mpr fun cr hcr => ?_
    obtain ⟨cr', hcr', hns, hcrname⟩ := h.served a ha b hb hname cr hcr
    refine hdisjoint (List.mem_map_of_mem hcr) (List.mem_map.mpr ⟨cr', hcr', ?_⟩)
    rw [instanceKey, instanceKey, hname, hns, hcrname]
  · intro hempty key hka hkb
    obtain ⟨cr, hcr, rfl⟩ := List.mem_map.mp hka
    obtain ⟨cr', -, hkey⟩ := List.mem_map.mp hkb
    have hname : a.name = b.name := (congrArg Prod.fst hkey).symm
    rw [hempty hname] at hcr
    cases hcr

end Distinct

theorem card_toFinset_eq_length_iff {α : Type} [DecidableEq α] (l : List α) :
    l.toFinset.card = l.length ↔ l.Nodup := by
  rw [List.card_toFinset]
  constructor
  · intro h
    exact List.dedup_eq_self.mp ((List.dedup_sublist l).eq_of_length h)
  · intro h
    rw [h.dedup]

/-- With every call answered, `ActiveCRs` is the number of distinct instances of the owned CRDs,
    exactly when no CRD that has instances has two entries. -/
theorem activeCRs_distinct_iff (sweep : Sweep) (resp : ClusterGovernanceResponse)
    (hresp : getClusterGovernance sweep = .ok resp) (i : Nat) (op : OperatorInfo)
    (hop : resp.operators[i]? = some op) (objects : GroupVersionResource → List Unstructured)
    (hanswers : AnswersFrom objects sweep i op.crds) :
    op.activeCRs = (instanceKeys objects op.crds).toFinset.card ↔ CountedOnce objects op.crds := by
  rw [activeCRs_eq hresp hop, instances_eq hanswers, eq_comm, card_toFinset_eq_length_iff,
    nodup_instanceKeys_iff hanswers]

/-! ### A CRD with two served versions -/

/-- The cluster of `liveEtcdObjects`, where the CSV of etcd lists its CRD at `v1` and `v1beta1`. -/
def twoVersionsObjects (gvr : GroupVersionResource) : List Unstructured :=
  if gvr = csvGVR then
    [⟨[metadata "operators" "etcd.v1.2.0", ("status", .obj [("phase", .str "Succeeded")]),
      ("spec", .obj [("version", .str "1.2.0"), ("customresourcedefinitions", .obj [("owned", .arr
        [.obj [("name", .str "etcdclusters.etcd.io"), ("kind", .str "EtcdCluster"),
          ("version", .str "v1")],
        .obj [("name", .str "etcdclusters.etcd.io"), ("kind", .str "EtcdCluster"),
          ("version", .str "v1beta1")]])])])]⟩]
  else if gvr = ⟨"etcd.io", "v1beta1", "etcdclusters"⟩ then [⟨[metadata "team-a" "example"]⟩]
  else liveEtcdObjects gvr

def twoVersionsSweep : Sweep := .ofClient (snapshotClient twoVersionsObjects)

theorem answersFrom_twoVersions {crds : List CRDInfo}
    (hserved : ∀ a ∈ crds, ∀ b ∈ crds, a.name = b.name →
      ∀ cr ∈ ownedInstances twoVersionsObjects a, ∃ cr' ∈ ownedInstances twoVersionsObjects b,
        cr'.getNamespace = cr.getNamespace ∧ cr'.getName = cr.getName) :
    AnswersFrom twoVersionsObjects twoVersionsSweep 0 crds where
  answers k crd gvr _ _ := (readsFrom_snapshot twoVersionsObjects).counting 0 k gvr
  named gvr := by
    unfold twoVersionsObjects liveEtcdObjects
    split_ifs <;> decide
  served := hserved

/-- The only custom resource of etcd is counted twice. -/
theorem instance_counted_twice :
    ∃ resp op, getClusterGovernance twoVersionsSweep = .ok resp ∧ resp.operators[0]? = some op ∧
      AnswersFrom twoVersionsObjects twoVersionsSweep 0 op.crds ∧ op.activeCRs = 2 ∧
      (instanceKeys twoVersionsObjects op.crds).toFinset.card = 1 :=
  ⟨_, _, rfl, rfl, answersFrom_twoVersions (by decide), by decide, by decide⟩

theorem activeCRs_distinct_iff_twoVersions :
    ∃ resp op, getClusterGovernance twoVersionsSweep = .ok resp ∧ resp.operators[0]? = some op ∧
      (op.activeCRs = (instanceKeys twoVersionsObjects op.crds).toFinset.card ↔
        CountedOnce twoVersionsObjects op.crds) :=
  ⟨_, _, rfl, rfl, activeCRs_distinct_iff twoVersionsSweep _ rfl 0 _ rfl twoVersionsObjects
    (answersFrom_twoVersions (by decide))⟩

end HybridOperator.Collector
