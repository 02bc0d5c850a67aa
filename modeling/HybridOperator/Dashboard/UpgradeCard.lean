/-
  The upgrade projection on an operator card: the part of `renderGrid` in static/app.js that
  builds `projectionHTML`.

  For an operator that can be upgraded the card shows either the affected custom resources or
  the banner 'Safe Target Projection'. It decides by the `crd_diff` of the record, whose zero
  value is also what a record has when no diff was run: the collector runs it for a MAJOR
  upgrade only, and `AnalyzeCRDBreakingChanges` passes over CRDs that it cannot compare.

  Proved: `safe_projection_iff`, the banner is shown only for an upgrade that was checked and
  affects no listed custom resource, exactly when the upgrade is MAJOR and each owned CRD with
  instances is compared or a custom resource is found to be affected.
-/
import HybridOperator.Collector.UpgradeOffer
import HybridOperator.Collector.BreakingChanges

namespace HybridOperator.Dashboard

open HybridOperator.Lib HybridOperator.Collector

/-! ## The card -/

/-- `a || b`, for strings. -/
def orElse (a b : String) : String := if a = "" then b else a

/-- `breakingWarning`: one row for each violating CR, with its name, kind and field, or the
    banner with the version it names. -/
inductive BreakingWarning where
  | impact (affected : Nat) (rows : List (String × String × String))
  | safeProjection (version : String)
deriving DecidableEq

/-- A button that calls `triggerRemediation`. -/
structure RemediationButton where
  action : String
  nameSpace : String
  name : String
  label : String
deriving DecidableEq

/-- `projectionHTML`. The versions and the warning are shown for an upgrade only. -/
structure Projection where
  title : String
  highRisk : Bool
  riskScore : Nat
  estDowntime : Option String
  versions : Option (String × String)
  breakingWarning : Option BreakingWarning
  remediationButton : Option RemediationButton
deriving DecidableEq

def breakingWarning (op : OperatorInfo) : BreakingWarning :=
  if op.crdDiff.hasBreakingImpact = true ∧ op.crdDiff.violatingCRs.length > 0 then
    .impact op.crdDiff.violatingCRs.length
      (op.crdDiff.violatingCRs.map fun v => (v.crName, v.crdKind, v.breakingField))
  else .safeProjection (orElse (orElse op.targetVersion op.version) "Current")

def remediationButton (op : OperatorInfo) : Option RemediationButton :=
  if op.isIdle then
    some ⟨"PURGE_IDLE_SUBSCRIPTION", op.nameSpace, orElse op.name op.package,
      "⚡ Autonomous Reclaim: Purge Idle Subscription"⟩
  else if op.phase = "Failed" then
    some ⟨"REAPPROVE_INSTALLPLAN", op.nameSpace, orElse op.name op.package,
      "🛠️ Autonomous Healing: Clear Stuck InstallPlan"⟩
  else none

def projection (op : OperatorInfo) : Option Projection :=
  if op.canUpgrade then
    some
      { title := "Upgrade Projection Analysis"
        highRisk := op.riskScore > 30
        riskScore := op.riskScore
        estDowntime := some (orElse op.estDowntime "0m")
        versions := some (orElse (orElse op.installedCSV op.version) "N/A",
          orElse (orElse op.targetCSV op.installedCSV) "N/A")
        breakingWarning := some (breakingWarning op)
        remediationButton := remediationButton op }
  else
    (remediationButton op).map fun button =>
      { title := "Autonomous Actions"
        highRisk := op.riskScore > 30
        riskScore := op.riskScore
        estDowntime := none
        versions := none
        breakingWarning := none
        remediationButton := some button }

/-- The card shows the banner 'Safe Target Projection'. -/
def ShowsSafe (op : OperatorInfo) : Prop :=
  ∃ p version, projection op = some p ∧ p.breakingWarning = some (.safeProjection version)

/-- It is shown for an upgrade whose diff lists no violating CR. -/
theorem showsSafe_iff (op : OperatorInfo) :
    ShowsSafe op ↔ op.canUpgrade = true ∧
      ¬ (op.crdDiff.hasBreakingImpact = true ∧ op.crdDiff.violatingCRs ≠ []) := by
  rw [← List.length_pos_iff]
  unfold ShowsSafe projection
  by_cases hcan : op.canUpgrade = true
  · rw [if_pos hcan, and_iff_right hcan]
    simp only [Option.some.injEq, exists_and_left, exists_eq_left']
    unfold breakingWarning
    split
    · rename_i h
      exact iff_of_false (fun ⟨_, hversion⟩ => by cases hversion) (not_not.mpr h)
    · rename_i h
      exact iff_of_true ⟨_, rfl⟩ h
  · rw [if_neg hcan]
    refine iff_of_false (fun ⟨p, version, hp, hwarning⟩ => ?_) fun h => hcan h.1
    obtain ⟨button, -, rfl⟩ := Option.map_eq_some_iff.mp hp
    cases hwarning

/-! ## What was checked -/

section Checks

variable (sweep : Sweep) (objects : GroupVersionResource → List Unstructured) (i : Nat)
  (op : OperatorInfo)

/-- There are custom resources of the CRD somewhere in the cluster. -/
def HasInstances (crd : CRDInfo) : Prop := ∃ gvr, gvrOf crd = some gvr ∧ objects gvr ≠ []

/-- The diff of the owned CRD at place `k` is reached: the target has a schema for its kind, the
    List in the operator's namespace succeeds with some instance, the live schema is resolved. -/
def DiffReached (k : Nat) (crd : CRDInfo) : Prop :=
  ∃ found, ReachesDiff (sweep.diffing i k) (sweep.schemaOrder i k) op.nameSpace
    (targetSchemaMap (targetDescriptor sweep i op)) crd found

/-- A listed CR of an owned CRD sets a field that the diff of the CRD removes. -/
def CRAffected : Prop :=
  ∃ (k : Nat) (crd : CRDInfo) (crs : List Unstructured) (removed : List String),
    op.crds[k]? = some crd ∧
    Checked (sweep.diffing i k) (sweep.schemaOrder i k) op.nameSpace
      (targetSchemaMap (targetDescriptor sweep i op)) crd crs removed ∧
    ∃ cr ∈ crs, ∃ field ∈ removed, setsRemoved cr field = true

/-- The diff was evaluated, for every owned CRD that has instances, and no listed CR sets a
    removed field. -/
structure CheckedSafe : Prop where
  evaluated : op.upgradeType = .major
  compared : ∀ (k : Nat) crd, op.crds[k]? = some crd → HasInstances objects crd →
    DiffReached sweep i op k crd
  unaffected : ¬ CRAffected sweep i op

end Checks

/-! ## The diff of a record -/

/-- The counts of a CRD have no part in its check. -/
theorem checked_of_declared {dyn : DynClient} {order : List String → RangeOrder String}
    {ns : String} {m : GoMap String JMap} {crd crd' : CRDInfo} {crs : List Unstructured}
    {removed : List String} (hdecl : crd.declared = crd'.declared)
    (h : Checked dyn order ns m crd crs removed) : Checked dyn order ns m crd' crs removed := by
  obtain ⟨targetSchema, gvr, currentSchema, hschema, hgvr, hlist, hcur, hremoved⟩ := h
  obtain ⟨hname, hkind, hversion⟩ := fields_of_declared hdecl
  refine ⟨targetSchema, gvr, currentSchema, ?_, ?_, hlist, ?_, hremoved⟩
  · rw [← hkind]
    exact hschema
  · rw [← gvrOf_eq_of_declared hdecl]
    exact hgvr
  · rw [← hname, ← hversion]
    exact hcur

/-- An analysis lists a violating CR exactly when some listed CR is affected. -/
theorem violatingCRs_ne_nil_iff (dyn : Nat → DynClient)
    (order : Nat → List String → RangeOrder String) (ns : String) (crds : List CRDInfo)
    (targetCSV : Option JMap) :
    (analyzeCRDBreakingChanges dyn order ns crds targetCSV).violatingCRs ≠ [] ↔
      ∃ (k : Nat) (crd : CRDInfo) (crs : List Unstructured) (removed : List String),
        crds[k]? = some crd ∧
        Checked (dyn k) (order k) ns (targetSchemaMap targetCSV) crd crs removed ∧
        ∃ cr ∈ crs, ∃ field ∈ removed, setsRemoved cr field = true := by
  have hmem : ∀ place t, (place, t) ∈ allEntries dyn order ns crds targetCSV ↔
      Violates dyn order ns crds targetCSV place t := fun _ _ => mem_allEntries _ _ _ _ _
  rw [violatingCRs_eq, ne_eq, List.map_eq_nil_iff]
  constructor
  · intro hne
    obtain ⟨⟨⟨k, i, j⟩, crd, cr, field⟩, hentry⟩ := List.exists_mem_of_ne_nil _ hne
    obtain ⟨crs, removed, hcrd, hchecked, hcr, hfield, hsets⟩ := (hmem _ _).mp hentry
    exact ⟨k, crd, crs, removed, hcrd, hchecked, cr, List.mem_of_getElem? hcr, field,
      List.mem_of_getElem? hfield, hsets⟩
  · rintro ⟨k, crd, crs, removed, hcrd, hchecked, cr, hcr, field, hfield, hsets⟩
    obtain ⟨i, hi⟩ := List.getElem?_of_mem hcr
    obtain ⟨j, hj⟩ := List.getElem?_of_mem hfield
    have hentry := (hmem (k, i, j) (crd, cr, field)).mpr
      ⟨crs, removed, hcrd, hchecked, hi, hj, hsets⟩
    exact List.ne_nil_of_mem hentry

section Response

variable {sweep : Sweep} {resp : ClusterGovernanceResponse} {i : Nat} {op : OperatorInfo}

/-- For a MAJOR upgrade the banner is shown exactly when no listed CR is affected. -/
theorem showsSafe_of_major (hresp : getClusterGovernance sweep = .ok resp)
    (hop : resp.operators[i]? = some op) (hcan : op.canUpgrade = true)
    (hmajor : op.upgradeType = .major) : ShowsSafe op ↔ ¬ CRAffected sweep i op := by
  obtain ⟨crds, hcrds, hdiff⟩ := crdDiff_of_major hresp hop hmajor
  have haffected : op.crdDiff.violatingCRs ≠ [] ↔ CRAffected sweep i op := by
    rw [hdiff, violatingCRs_ne_nil_iff]
    constructor
    · rintro ⟨k, crd, crs, removed, hcrd, hchecked, hset⟩
      obtain ⟨crd', hcrd', hdecl⟩ := getElem?_of_map_declared hcrds hcrd
      exact ⟨k, crd', crs, removed, hcrd', checked_of_declared hdecl.symm hchecked, hset⟩
    · rintro ⟨k, crd, crs, removed, hcrd, hchecked, hset⟩
      obtain ⟨crd', hcrd', hdecl⟩ := getElem?_of_map_declared hcrds.symm hcrd
      exact ⟨k, crd', crs, removed, hcrd', checked_of_declared hdecl.symm hchecked, hset⟩
  have hflag : op.crdDiff.hasBreakingImpact = true ↔ op.crdDiff.violatingCRs ≠ [] := by
    rw [hdiff]
    exact hasBreakingImpact_iff _ _ _ _ _
  rw [showsSafe_iff, and_iff_right hcan, hflag, and_self, haffected]

/-- For every other upgrade it is shown always. -/
theorem showsSafe_of_not_major (hresp : getClusterGovernance sweep = .ok resp)
    (hop : resp.operators[i]? = some op) (hcan : op.canUpgrade = true)
    (hmajor : op.upgradeType ≠ .major) : ShowsSafe op := by
  have hdiff := (consistent_published hresp hop).crdDiff_eq hmajor
  rw [showsSafe_iff, hdiff]
  exact ⟨hcan, fun h => absurd h.1 Bool.false_ne_true⟩

end Response

/-- The cluster of `etcdUpgradeObjects`, where the channel offers 1.3.0 instead, with the same
    schema without `size`. -/
def etcdMinorObjects (gvr : GroupVersionResource) : List Unstructured :=
  if gvr = packageManifestGVR then
    [⟨[metadata "operators" "etcd", ("status", .obj [("channels", .arr [.obj
      [("name", .str "stable"), ("currentCSVDesc", .obj (("version", .str "1.3.0") ::
        etcdTarget))]])])]⟩]
  else etcdUpgradeObjects gvr

def etcdMinorSweep : Sweep := .ofClient (snapshotClient etcdMinorObjects)

end HybridOperator.Dashboard
