/-
  What `IsIdle` says about the custom resources of an operator.

  The flag is set when the operator owns CRDs and the counter is 0 (`isIdle_iff`). A CRD whose
  name does not split, or whose List fails, adds nothing to the counter. So the flag is also
  set when nothing is known about the instances (`idle_without_listing`): it means what it says
  exactly when every owned CRD was listed, or some List gave an instance
  (`idle_means_empty_iff`).
-/
import HybridOperator.Collector.Governance

namespace HybridOperator.Collector

open HybridOperator.Lib

theorem setCRDs_isIdle (op : OperatorInfo) (crds : List CRDInfo) :
    (op.setCRDs crds).isIdle = op.isIdle := rfl

theorem withScores_isIdle (sweep : Sweep) (i : Nat) (op : OperatorInfo) :
    (withScores sweep i op).isIdle = op.isIdle := rfl

theorem baseOperator_isIdle (sweep : Sweep) (csvMap : CSVMap) (sub : Unstructured) (i : Nat) :
    (baseOperator sweep csvMap sub i).isIdle = true ↔
      0 < (countCRs (sweep.counting i) (installedOperator csvMap sub)).crds.length ∧
        (countCRs (sweep.counting i) (installedOperator csvMap sub)).activeCRs = 0 := by
  unfold baseOperator
  dsimp only
  rw [withFailure_isIdle]
  exact decide_eq_true_iff

/-- The counter is 0 when no owned CRD gave an instance. -/
theorem countCRs_activeCRs_eq_zero (dyn : Nat → DynClient) (op : OperatorInfo) :
    (countCRs dyn op).activeCRs = 0 ↔
      ∀ j crd, op.crds[j]? = some crd → (listCRs (dyn j) crd).getD [] = [] := by
  rw [countCRs_activeCRs, List.sum_eq_zero_iff_forall_eq_nat]
  simp only [List.mem_map, Prod.exists, List.mk_mem_zipIdx_iff_getElem?, instances]
  constructor
  · intro h j crd hj
    exact List.length_eq_zero_iff.mp (h _ ⟨crd, j, hj, rfl⟩)
  · rintro h _ ⟨crd, j, hj, rfl⟩
    exact List.length_eq_zero_iff.mpr (h j crd hj)

theorem forall_listCRs_congr {crds crds' : List CRDInfo} (dyn : Nat → DynClient)
    (p : Option (List Unstructured) → Prop)
    (h : crds.map CRDInfo.declared = crds'.map CRDInfo.declared)
    (hall : ∀ j crd, crds[j]? = some crd → p (listCRs (dyn j) crd)) :
    ∀ j crd, crds'[j]? = some crd → p (listCRs (dyn j) crd) := by
  intro j crd hj
  obtain ⟨crd', hj', hdecl⟩ := getElem?_of_map_declared h.symm hj
  rw [← listCRs_eq_of_declared (dyn j) hdecl]
  exact hall j crd' hj'

section Response

variable {sweep : Sweep} {resp : ClusterGovernanceResponse}

/-- When a published record is marked idle. -/
theorem isIdle_iff (hresp : getClusterGovernance sweep = .ok resp) {i : Nat} {op : OperatorInfo}
    (hop : resp.operators[i]? = some op) :
    op.isIdle = true ↔ op.crds ≠ [] ∧ ∀ j crd, op.crds[j]? = some crd →
      (listCRs (sweep.counting i j) crd).getD [] = [] := by
  obtain ⟨csvMap, sub, hrecord, hcrds⟩ := operator_of_response hresp hop
  have hidle : op.isIdle = (baseOperator sweep csvMap sub i).isIdle := by
    have hfield := congrArg OperatorInfo.isIdle hrecord
    rwa [setCRDs_isIdle, roundRecord, withScores_isIdle, (withManifest_frame sweep i _).2.1]
      at hfield
  -- the CRDs counted in the round and those published declare the same
  have hcounted : (installedOperator csvMap sub).crds.map CRDInfo.declared =
      op.crds.map CRDInfo.declared := by
    rw [hcrds, roundRecord_crds, declared_baseOperator_crds]
  have hlength : 0 < (countCRs (sweep.counting i) (installedOperator csvMap sub)).crds.length ↔
      op.crds ≠ [] := by
    have h := congrArg List.length ((map_declared_countCRs (sweep.counting i) _).trans hcounted)
    simp only [List.length_map] at h
    rw [h, List.length_pos_iff]
  rw [hidle, baseOperator_isIdle, hlength, countCRs_activeCRs_eq_zero]
  have hcongr : ∀ {crds crds' : List CRDInfo},
      crds.map CRDInfo.declared = crds'.map CRDInfo.declared →
      (∀ j crd, crds[j]? = some crd → (listCRs (sweep.counting i j) crd).getD [] = []) →
      ∀ j crd, crds'[j]? = some crd → (listCRs (sweep.counting i j) crd).getD [] = [] :=
    fun h => forall_listCRs_congr (sweep.counting i) (fun l => l.getD [] = []) h
  exact and_congr_right fun _ => ⟨hcongr hcounted, hcongr hcounted.symm⟩

end Response

/-- An operator marked idle has only CRDs that were listed without error and gave no instance,
    exactly when every CRD it owns could be listed or some CRD gave an instance. -/
theorem idle_means_empty_iff (sweep : Sweep) (resp : ClusterGovernanceResponse)
    (hresp : getClusterGovernance sweep = .ok resp) (i : Nat) (op : OperatorInfo)
    (hop : resp.operators[i]? = some op) :
    (op.isIdle = true → ∀ j crd, op.crds[j]? = some crd →
        listCRs (sweep.counting i j) crd = some []) ↔
      (∀ j crd, op.crds[j]? = some crd → (listCRs (sweep.counting i j) crd).isSome = true) ∨
        ∃ j crd crs, op.crds[j]? = some crd ∧ listCRs (sweep.counting i j) crd = some crs ∧
          crs ≠ [] := by
  rw [isIdle_iff hresp hop]
  constructor
  · intro h
    by_cases hsome : ∃ j crd crs, op.crds[j]? = some crd ∧
        listCRs (sweep.counting i j) crd = some crs ∧ crs ≠ []
    · exact Or.inr hsome
    · refine Or.inl fun j crd hj => ?_
      have hnone : ∀ j crd, op.crds[j]? = some crd →
          (listCRs (sweep.counting i j) crd).getD [] = [] := by
        intro j crd hj
        by_contra hne
        cases hlist : listCRs (sweep.counting i j) crd with
        | none => exact hne (by rw [hlist]; rfl)
        | some crs => exact hsome ⟨j, crd, crs, hj, hlist, fun he => hne (by rw [hlist, he]; rfl)⟩
      have hcrds : op.crds ≠ [] := by
        intro he
        rw [he] at hj
        cases hj
      rw [h ⟨hcrds, hnone⟩ j crd hj]
      rfl
  · rintro (hall | ⟨j, crd, crs, hj, hlist, hne⟩) ⟨-, hempty⟩
    · intro j crd hj
      obtain ⟨crs, hlist⟩ := Option.isSome_iff_exists.mp (hall j crd hj)
      have hnil := hempty j crd hj
      rw [hlist] at hnil
      rw [hlist, show crs = [] from hnil]
    · have hnil := hempty j crd hj
      rw [hlist] at hnil
      exact absurd hnil hne

/-! ### A List that fails -/

/-- etcd is installed in `operators`, and `team-a` has one of its clusters. -/
def liveEtcdObjects (gvr : GroupVersionResource) : List Unstructured :=
  if gvr = subscriptionGVR then
    [⟨[metadata "operators" "etcd",
      ("status", .obj [("installedCSV", .str "etcd.v1.2.0")])]⟩]
  else if gvr = csvGVR then
    [⟨[metadata "operators" "etcd.v1.2.0", ("status", .obj [("phase", .str "Succeeded")]),
      ("spec", .obj [("version", .str "1.2.0"), ("customresourcedefinitions", .obj [("owned", .arr
        [.obj [("name", .str "etcdclusters.etcd.io"), ("kind", .str "EtcdCluster"),
          ("version", .str "v1")]])])])]⟩]
  else if gvr = ⟨"etcd.io", "v1", "etcdclusters"⟩ then [⟨[metadata "team-a" "example"]⟩]
  else []

/-- The sweep of that cluster in which the API server does not answer the List of the CRs. -/
def failedListSweep : Sweep :=
  { Sweep.ofClient (snapshotClient liveEtcdObjects) with
      counting := fun _ _ =>
        { snapshotClient liveEtcdObjects with list := fun _ _ _ => .error "timeout" } }

/-- The operator has a live custom resource, its only CRD could not be listed, and it is
    reported as idle. -/
theorem idle_without_listing :
    ∃ resp op crd, getClusterGovernance failedListSweep = .ok resp ∧
      resp.operators[0]? = some op ∧ op.crds[0]? = some crd ∧ op.isIdle = true ∧
      listCRs (failedListSweep.counting 0 0) crd = none ∧
      (liveEtcdObjects ⟨"etcd.io", "v1", "etcdclusters"⟩).length = 1 :=
  ⟨_, _, _, rfl, rfl, rfl, by decide, by rfl, by decide⟩

theorem idle_means_empty_iff_etcd :
    ∃ resp op, getClusterGovernance failedListSweep = .ok resp ∧
      resp.operators[0]? = some op ∧
      ((op.isIdle = true → ∀ j crd, op.crds[j]? = some crd →
          listCRs (failedListSweep.counting 0 j) crd = some []) ↔
        (∀ j crd, op.crds[j]? = some crd →
            (listCRs (failedListSweep.counting 0 j) crd).isSome = true) ∨
          ∃ j crd crs, op.crds[j]? = some crd ∧
            listCRs (failedListSweep.counting 0 j) crd = some crs ∧ crs ≠ []) :=
  ⟨_, _, rfl, rfl, idle_means_empty_iff failedListSweep _ rfl 0 _ rfl⟩

end HybridOperator.Collector
