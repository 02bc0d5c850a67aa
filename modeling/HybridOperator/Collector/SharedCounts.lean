/-
  The counts of CRDs that several records share.

  `op.CRDs` is the slice that `csvMap` has for the installed CSV, and the counts are written into
  it in place. Subscriptions of one namespace that resolve to the same CSV share that slice: each
  of their rounds overwrites the counts of the CRDs whose List succeeds and leaves the others.
  So a count in the finished response is the last answer of the sweep for that CRD
  (`published_counts`), while `ActiveCRs` and `IsIdle` of a record are about its own round.

  Proved: `counts_agree_iff`, in the finished response the counts of a record agree with
  `ActiveCRs` and `IsIdle` exactly when its own answers and the last ones have the same sum.
-/
import HybridOperator.Collector.ActiveCounts

namespace HybridOperator.Collector

open HybridOperator.Lib

/-- The counts of a record agree with each other. -/
structure CountsAgree (op : OperatorInfo) : Prop where
  activeCRs_eq : op.activeCRs = (op.crds.map (·.activeCount)).sum
  isIdle_iff : op.isIdle = true ↔ op.crds ≠ [] ∧ (op.crds.map (·.activeCount)).sum = 0

/-- The Subscriptions of the sweep, none when they could not be listed. -/
def sweepSubs (sweep : Sweep) : List Unstructured := listOrEmpty sweep.cluster subscriptionGVR ""

theorem sweepSubs_eq {sweep : Sweep} {subs : List Unstructured}
    (h : sweep.cluster.list subscriptionGVR "" "" = .ok subs) : sweepSubs sweep = subs := by
  rw [sweepSubs, listOrEmpty, h]
  rfl

/-- The rounds whose Subscription resolves to the entry `key` of `csvMap`. -/
def roundsOf (csvMap : CSVMap) (inputs : List (Unstructured × Nat)) (key : Option String) :
    List Nat :=
  (inputs.filter fun input => csvRef csvMap input.1 = key).map Prod.snd

/-- The rounds that share the CRDs of the record at place `i`. -/
def sharing (sweep : Sweep) (i : Nat) : List Nat :=
  roundsOf (listedCSVs sweep) (sweepSubs sweep).zipIdx
    ((sweepSubs sweep)[i]?.bind (csvRef (listedCSVs sweep)))

/-- The CRDs that the CSV declares which the Subscription at place `i` resolves to. -/
def csvCRDs (sweep : Sweep) (i : Nat) : List CRDInfo :=
  (((sweepSubs sweep)[i]?.bind (csvEntry (listedCSVs sweep))).map (·.crds)).getD []

/-- What the Lists of the CRD at place `k` gave in these rounds, the failed ones left out. -/
def answersIn (sweep : Sweep) (rounds : List Nat) (input : CRDInfo × Nat) : List Nat :=
  rounds.filterMap fun j => (listCRs (sweep.counting j input.2) input.1).map List.length

/-- The last of them, 0 when there is none. -/
def lastAnswer (sweep : Sweep) (rounds : List Nat) (input : CRDInfo × Nat) : Nat :=
  (answersIn sweep rounds input).getLast?.getD 0

/-! ## The counts of one entry over the rounds -/

/-- The counts that one round writes. -/
def recount (sweep : Sweep) (crds : List CRDInfo) (j : Nat) : List CRDInfo :=
  crds.zipIdx.map (counted (sweep.counting j))

theorem counted_setCount (dyn : Nat → DynClient) (crd : CRDInfo) (k n : Nat) :
    counted dyn ({ crd with activeCount := n }, k) =
      { crd with activeCount := ((listCRs (dyn k) crd).map List.length).getD n } := by
  have hlist : listCRs (dyn k) { crd with activeCount := n } = listCRs (dyn k) crd :=
    listCRs_eq_of_declared _ rfl
  unfold counted
  dsimp only
  rw [hlist]
  cases listCRs (dyn k) crd <;> rfl

/-- Mapping elements with their places keeps the places. -/
theorem zipIdx_map_zipIdx {α β : Type} (f : α × Nat → β) (l : List α) :
    (l.zipIdx.map f).zipIdx = l.zipIdx.map fun x => (f x, x.2) := by
  apply List.ext_getElem?
  intro n
  simp only [List.getElem?_zipIdx, List.getElem?_map, Option.map_map]
  cases l[n]? <;> simp

/-- After some rounds a CRD has the last answer for it, or the count it came with. -/
theorem foldl_recount (sweep : Sweep) (crds : List CRDInfo) (rounds : List Nat) :
    rounds.foldl (recount sweep) crds = crds.zipIdx.map fun input =>
      { input.1 with
          activeCount := (answersIn sweep rounds input).getLast?.getD input.1.activeCount } := by
  induction rounds using List.reverseRecOn with
  | nil => exact (List.zipIdx_map_fst 0 crds).symm
  | append_singleton rounds j ih =>
    rw [List.foldl_append, List.foldl_cons, List.foldl_nil, ih, recount, zipIdx_map_zipIdx,
      List.map_map]
    refine List.map_congr_left ?_
    rintro ⟨crd, k⟩ -
    rw [Function.comp_apply, counted_setCount, answersIn, answersIn, List.filterMap_append]
    cases h : listCRs (sweep.counting j k) crd with
    | none => simp [h]
    | some crs => simp [h]

/-! ## The entries of the map -/

theorem csvRef_congr {m m' : CSVMap} (h : SameCSVs m m') (sub : Unstructured) :
    csvRef m sub = csvRef m' sub := by
  have hmem : ∀ k, k ∈ m ↔ k ∈ m' := by
    intro k
    have hk := congrArg Option.isSome (h k)
    rw [Option.isSome_map, Option.isSome_map] at hk
    rw [← AList.lookup_isSome, ← AList.lookup_isSome, hk]
  unfold csvRef
  dsimp only
  rw [if_congr (and_congr_right fun _ => hmem _) rfl rfl]

theorem lookup_storeCounts (m : CSVMap) (ref : Option String) (crds : List CRDInfo)
    (key : String) :
    (storeCounts m ref crds).lookup key =
      (m.lookup key).map fun csv => if ref = some key then { csv with crds := crds } else csv := by
  cases ref with
  | none => simp [storeCounts]
  | some k =>
    rw [storeCounts]
    cases hk : m.lookup k with
    | none =>
      dsimp only
      by_cases hkey : k = key
      · rw [← hkey, hk]
        rfl
      · simp [hkey]
    | some csv =>
      dsimp only
      by_cases hkey : k = key
      · rw [← hkey, AList.lookup_insert, hk]
        simp
      · rw [AList.lookup_insert_ne (Ne.symm hkey)]
        simp [hkey]

/-- What the round for the Subscription does to an entry. -/
theorem lookup_governSubscription (sweep : Sweep) (m : CSVMap) (sub : Unstructured) (j : Nat)
    (key : String) :
    (governSubscription sweep m (sub, j)).1.lookup key =
      (m.lookup key).map fun csv =>
        if csvRef m sub = some key then { csv with crds := recount sweep csv.crds j } else csv := by
  have hcrds : (baseOperator sweep m sub j).crds =
      recount sweep (((csvEntry m sub).map (·.crds)).getD []) j := by
    rw [baseOperator_crds, countCRs_crds, installedOperator_crds, recount]
  show (storeCounts m (csvRef m sub) (baseOperator sweep m sub j).crds).lookup key = _
  rw [lookup_storeCounts, hcrds, csvEntry]
  cases hkey : m.lookup key with
  | none => rfl
  | some csv =>
    by_cases href : csvRef m sub = some key
    · simp only [href, Option.bind_some, hkey, Option.map_some, Option.getD_some]
    · simp only [if_neg href]

/-- What a whole run does to it: the counts of the rounds that resolve to it, in order. -/
theorem lookup_run (sweep : Sweep) (m : CSVMap) (inputs : List (Unstructured × Nat))
    (key : String) :
    (Reactive.run (governSubscription sweep) m inputs).1.lookup key =
      (m.lookup key).map fun csv =>
        { csv with crds := (roundsOf m inputs (some key)).foldl (recount sweep) csv.crds } := by
  induction inputs generalizing m with
  | nil =>
    rw [Reactive.run_nil]
    cases m.lookup key <;> rfl
  | cons input inputs ih =>
    obtain ⟨sub, j⟩ := input
    have hsame := sameCSVs_governSubscription sweep m (sub, j)
    have hrounds : roundsOf (governSubscription sweep m (sub, j)).1 inputs (some key) =
        roundsOf m inputs (some key) := by
      unfold roundsOf
      simp only [← csvRef_congr hsame]
    rw [Reactive.run_cons, ih, hrounds, lookup_governSubscription, Option.map_map]
    refine congrArg (fun f => (m.lookup key).map f) ?_
    funext csv
    unfold roundsOf
    by_cases href : csvRef m sub = some key
    · simp [href]
    · simp [href]

/-- The counts of a listed CSV start at 0. -/
theorem activeCount_listed {sweep : Sweep} {key : String} {csv : CSVData}
    (h : (listedCSVs sweep).lookup key = some csv) : ∀ crd ∈ csv.crds, crd.activeCount = 0 := by
  have hfold : listedCSVs sweep = ((((sweep.cluster.list csvGVR "" "").toOption).getD []).map
      fun csv => (csvKey csv.getNamespace csv.getName, csvData csv)).foldl
        (fun m e => m.insert e.1 e.2) ∅ := by
    rw [listedCSVs, buildCSVMap, List.foldl_map]
  rw [hfold, GoMap.lookup_foldl_insert, AList.lookup_empty, Option.or_none] at h
  obtain ⟨entry, hlast, rfl⟩ := Option.map_eq_some_iff.mp h
  have hmem := (List.mem_filter.mp (List.mem_of_getLast? hlast)).1
  obtain ⟨obj, -, rfl⟩ := List.mem_map.mp hmem
  intro crd hcrd
  obtain ⟨crdMap, -, rfl⟩ := List.mem_map.mp hcrd
  rfl

/-! ## The finished records -/

section Response

variable {sweep : Sweep} {resp : ClusterGovernanceResponse} {i : Nat} {op : OperatorInfo}

/-- A finished record has the CRDs of its CSV with the counts of all rounds that share them. -/
theorem finished_crds (hresp : getClusterGovernance sweep = .ok resp)
    (hop : resp.operators[i]? = some op) :
    (∀ crd ∈ csvCRDs sweep i, crd.activeCount = 0) ∧
      op.crds = (sharing sweep i).foldl (recount sweep) (csvCRDs sweep i) := by
  obtain ⟨subs, sub, m, hsubs, hsub, hsame, hfinish⟩ := round_of_response hresp hop
  have hsharing : sharing sweep i = roundsOf (listedCSVs sweep) subs.zipIdx
      (csvRef (listedCSVs sweep) sub) := by
    rw [sharing, sweepSubs_eq hsubs, hsub, Option.bind_some]
  have hcsv : csvCRDs sweep i = (((csvRef (listedCSVs sweep) sub).bind
      (listedCSVs sweep).lookup).map (·.crds)).getD [] := by
    rw [csvCRDs, sweepSubs_eq hsubs, hsub, Option.bind_some, csvEntry]
  have hkey : (governSubscription sweep m (sub, i)).2.csvKey = csvRef (listedCSVs sweep) sub :=
    (csvRef_congr hsame sub).symm
  rw [hfinish, hsharing, hcsv]
  unfold OperatorRecord.finish
  rw [hkey]
  cases href : csvRef (listedCSVs sweep) sub with
  | none =>
    -- a record without an entry owns no CRDs
    refine ⟨fun crd hcrd => absurd hcrd List.not_mem_nil, ?_⟩
    have hnone : csvRef m sub = none := (csvRef_congr hsame sub).symm.trans href
    show (roundRecord sweep m sub i).crds = _
    rw [roundRecord_crds, baseOperator_crds, countCRs_crds, installedOperator_crds, csvEntry,
      hnone, foldl_recount]
    rfl
  | some k =>
    rw [Option.bind_some, Option.bind_some, lookup_run]
    cases hlisted : (listedCSVs sweep).lookup k with
    | none =>
      -- the key of a record is one of the map
      unfold csvRef at href
      dsimp only at href
      split_ifs at href with hmem
      obtain rfl := Option.some.inj href
      exact absurd hmem.2 (AList.lookup_eq_none.mp hlisted)
    | some csv => exact ⟨activeCount_listed hlisted, rfl⟩

/-- The count of each CRD is the last answer for it. -/
theorem published_counts (hresp : getClusterGovernance sweep = .ok resp)
    (hop : resp.operators[i]? = some op) :
    op.crds.map (·.activeCount) =
      (csvCRDs sweep i).zipIdx.map (lastAnswer sweep (sharing sweep i)) := by
  obtain ⟨hzero, hcrds⟩ := finished_crds hresp hop
  rw [hcrds, foldl_recount, List.map_map]
  refine List.map_congr_left ?_
  rintro ⟨crd, k⟩ hmem
  have hcount := hzero crd (List.fst_mem_of_mem_zipIdx hmem)
  rw [Function.comp_apply, lastAnswer]
  dsimp only
  rw [hcount]

/-- A finished record declares the CRDs of its CSV. -/
theorem declared_csvCRDs (hresp : getClusterGovernance sweep = .ok resp)
    (hop : resp.operators[i]? = some op) :
    op.crds.map CRDInfo.declared = (csvCRDs sweep i).map CRDInfo.declared := by
  obtain ⟨-, hcrds⟩ := finished_crds hresp hop
  have hsame := congrArg (List.map CRDInfo.declared) (List.zipIdx_map_fst 0 (csvCRDs sweep i))
  rw [hcrds, foldl_recount, List.map_map, ← hsame, List.map_map]
  rfl

/-- A published record is idle when it has CRDs and its own round counted nothing. -/
theorem isIdle_iff_activeCRs (hresp : getClusterGovernance sweep = .ok resp)
    (hop : resp.operators[i]? = some op) :
    op.isIdle = true ↔ op.crds ≠ [] ∧ op.activeCRs = 0 := by
  rw [isIdle_iff hresp hop, activeCRs_eq hresp hop, List.sum_eq_zero_iff_forall_eq_nat]
  refine and_congr_right fun _ => ?_
  simp only [List.mem_map, Prod.exists, List.mk_mem_zipIdx_iff_getElem?, instances]
  constructor
  · rintro h _ ⟨crd, j, hj, rfl⟩
    exact List.length_eq_zero_iff.mpr (h j crd hj)
  · intro h j crd hj
    exact List.length_eq_zero_iff.mp (h _ ⟨crd, j, hj, rfl⟩)

end Response

/-- **The counts of a finished record agree**, exactly when what its own Lists gave and what the
    last successful Lists gave, in all rounds that share its CRDs, have the same sum. -/
theorem counts_agree_iff (sweep : Sweep) (resp : ClusterGovernanceResponse)
    (hresp : getClusterGovernance sweep = .ok resp) (i : Nat) (op : OperatorInfo)
    (hop : resp.operators[i]? = some op) :
    CountsAgree op ↔
      ((csvCRDs sweep i).zipIdx.map (instances (sweep.counting i))).sum =
        ((csvCRDs sweep i).zipIdx.map (lastAnswer sweep (sharing sweep i))).sum := by
  rw [← instances_congr _ (declared_csvCRDs hresp hop), ← activeCRs_eq hresp hop,
    ← published_counts hresp hop]
  constructor
  · intro h
    exact h.activeCRs_eq
  · intro h
    refine ⟨h, ?_⟩
    rw [isIdle_iff_activeCRs hresp hop, h]

/-! ### Two Subscriptions with one CSV -/

/-- The cluster of `liveEtcdObjects` with a second Subscription for the same CSV. -/
def sharedCSVObjects (gvr : GroupVersionResource) : List Unstructured :=
  if gvr = subscriptionGVR then
    [⟨[metadata "operators" "etcd", ("status", .obj [("installedCSV", .str "etcd.v1.2.0")])]⟩,
      ⟨[metadata "operators" "etcd-copy",
        ("status", .obj [("installedCSV", .str "etcd.v1.2.0")])]⟩]
  else liveEtcdObjects gvr

/-- The sweep in which the List of the second round fails. -/
def sharedCSVSweep : Sweep :=
  { Sweep.ofClient (snapshotClient sharedCSVObjects) with
      counting := fun i _ =>
        if i = 0 then snapshotClient sharedCSVObjects
        else { snapshotClient sharedCSVObjects with list := fun _ _ _ => .error "timeout" } }

/-- The second record counts nothing and is idle, and its CRD has the instance that the first
    round counted. -/
theorem stale_count_shared :
    ∃ resp op, getClusterGovernance sharedCSVSweep = .ok resp ∧ resp.operators[1]? = some op ∧
      op.activeCRs = 0 ∧ op.isIdle = true ∧ op.crds.map (·.activeCount) = [1] ∧
      ¬ CountsAgree op := by
  refine ⟨_, _, rfl, rfl, by decide, by decide, by decide, fun h => ?_⟩
  have hsum := h.activeCRs_eq
  revert hsum
  decide

theorem counts_agree_iff_shared :
    ∃ resp op, getClusterGovernance sharedCSVSweep = .ok resp ∧ resp.operators[0]? = some op ∧
      (CountsAgree op ↔
        ((csvCRDs sharedCSVSweep 0).zipIdx.map (instances (sharedCSVSweep.counting 0))).sum =
          ((csvCRDs sharedCSVSweep 0).zipIdx.map
            (lastAnswer sharedCSVSweep (sharing sharedCSVSweep 0))).sum) :=
  ⟨_, _, rfl, rfl, counts_agree_iff sharedCSVSweep _ rfl 0 _ rfl⟩

end HybridOperator.Collector
