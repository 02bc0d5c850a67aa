/-
  The fields of an operator record agree with each other.

  `Consistent` says what the upgrade fields of a record mean in terms of the two version strings
  and the phase that are published with it. The stages before the upgrade is looked at leave
  every upgrade field at its default (`Unclassified`), the failure branch makes the record
  consistent (`consistent_withFailure`), and the entry of a channel keeps it so
  (`consistent_withChannel`): the target version is printed from the parsed one, so parsing the
  published string gives the version that was compared.

  Proved: `consistent_of_response`, every operator of a response is consistent.
-/
import HybridOperator.Collector.Governance

namespace HybridOperator.Collector

open HybridOperator.Lib

/-- The type of an upgrade, by the first component in which the versions differ. -/
def upgradeTypeOf (target current : Semver) : UpgradeType :=
  if target.major ≠ current.major then .major
  else if target.minor ≠ current.minor then .minor
  else .patch

structure Consistent (op : OperatorInfo) : Prop where
  canUpgrade_iff : op.canUpgrade = true ↔
    isVersionGreater (parseSemver op.targetVersion) (parseSemver op.version) = true
  upgradeType_eq : op.upgradeType =
    if op.canUpgrade then upgradeTypeOf (parseSemver op.targetVersion) (parseSemver op.version)
    else .none
  ocpBlocker_iff : op.ocpBlocker = true ↔ op.phase = "Failed" ∨ op.upgradeType = .major
  ocpBlockerReason_iff : op.ocpBlocker = true ↔ op.ocpBlockerReason ≠ "None"
  ocpNextSupported_iff : op.ocpNextSupported = true ↔ op.phase ≠ "Failed"
  crdDiff_eq : op.upgradeType ≠ .major → op.crdDiff = {}

/-! ## Before the upgrade is looked at -/

/-- The upgrade fields are at their defaults. -/
structure Unclassified (op : OperatorInfo) : Prop where
  canUpgrade : op.canUpgrade = false
  upgradeType : op.upgradeType = .none
  ocpBlocker : op.ocpBlocker = false
  ocpBlockerReason : op.ocpBlockerReason = "None"
  ocpNextSupported : op.ocpNextSupported = true
  crdDiff : op.crdDiff = {}

theorem unclassified_withCSV (entry : Option CSVData) {op : OperatorInfo} (h : Unclassified op) :
    Unclassified (withCSV entry op) := by
  cases entry with
  | none => exact h
  | some csv => exact ⟨h.1, h.2, h.3, h.4, h.5, h.6⟩

theorem unclassified_newOperator (sub : Unstructured) : Unclassified (newOperator sub) :=
  ⟨rfl, rfl, rfl, rfl, rfl, rfl⟩

/-- The stages up to `withVersion` collect other fields. -/
theorem unclassified_withVersion (sub : Unstructured) (tally : CRTally) (dyn : DynClient)
    (routeOrder imageOrder : RangeOrder String) {op : OperatorInfo} (h : Unclassified op) :
    Unclassified (withVersion (withWorkloads dyn routeOrder imageOrder tally.crNamespaces
      (withCRs tally (withPhase sub op)))) :=
  ⟨h.1, h.2, h.3, h.4, h.5, h.6⟩

theorem consistent_withFailure {op : OperatorInfo} (h : Unclassified op)
    (htarget : op.targetVersion = op.version) :
    Consistent (withFailure op) ∧ (withFailure op).canUpgrade = false := by
  have hsame :
      isVersionGreater (parseSemver op.targetVersion) (parseSemver op.version) = false := by
    rw [htarget]
    exact isVersionGreater_irrefl _
  unfold withFailure
  split
  · rename_i hfailed
    exact ⟨
      { canUpgrade_iff := by simp [h.canUpgrade, hsame]
        upgradeType_eq := by simp [h.canUpgrade, h.upgradeType]
        ocpBlocker_iff := by simp [hfailed]
        ocpBlockerReason_iff := by simp
        ocpNextSupported_iff := by simp [hfailed]
        crdDiff_eq := fun _ => h.crdDiff }, h.canUpgrade⟩
  · rename_i hfailed
    exact ⟨
      { canUpgrade_iff := by simp [h.canUpgrade, hsame]
        upgradeType_eq := by simp [h.canUpgrade, h.upgradeType]
        ocpBlocker_iff := by simp [h.ocpBlocker, hfailed, h.upgradeType]
        ocpBlockerReason_iff := by simp [h.ocpBlocker, h.ocpBlockerReason]
        ocpNextSupported_iff := by simp [h.ocpNextSupported, hfailed]
        crdDiff_eq := fun _ => h.crdDiff }, h.canUpgrade⟩

theorem consistent_baseOperator (sweep : Sweep) (csvMap : CSVMap) (sub : Unstructured) (i : Nat) :
    Consistent (baseOperator sweep csvMap sub i) ∧
      (baseOperator sweep csvMap sub i).canUpgrade = false := by
  have hnew := unclassified_withCSV (csvEntry csvMap sub) (unclassified_newOperator sub)
  exact consistent_withFailure (unclassified_withVersion sub _ _ _ _ hnew) rfl

/-! ## The entry of a channel -/

/-- When the target is newer, the type can be read off which component grew. -/
theorem upgradeTypeOf_of_greater {target current : Semver}
    (h : isVersionGreater target current = true) :
    upgradeTypeOf target current =
      if target.major > current.major then .major
      else if target.minor > current.minor then .minor else .patch := by
  unfold isVersionGreater at h
  unfold upgradeTypeOf
  have hirrefl : ∀ {a b : Fin (2 ^ 63)}, a = b → ¬ a > b := fun hab => by
    rw [hab]
    exact Nat.lt_irrefl _
  split_ifs at h with hmajor hminor
  · rw [if_pos hmajor, if_pos (of_decide_eq_true h)]
  · have hmajor : target.major = current.major := not_not.mp hmajor
    rw [if_neg (not_not.mpr hmajor), if_pos hminor, if_neg (hirrefl hmajor),
      if_pos (of_decide_eq_true h)]
  · have hmajor : target.major = current.major := not_not.mp hmajor
    have hminor : target.minor = current.minor := not_not.mp hminor
    rw [if_neg (not_not.mpr hmajor), if_neg (not_not.mpr hminor), if_neg (hirrefl hmajor),
      if_neg (hirrefl hminor)]

theorem majorReason_ne_none (op : OperatorInfo) (targetVersion ocpNext : String) :
    majorReason op targetVersion ocpNext ≠ "None" := by
  have hfirst : "Pending MAJOR operator upgrade (".toList.head? = some 'P' := by simp
  have hhead : (majorReason op targetVersion ocpNext).toList.head? = some 'P' := by
    unfold majorReason
    simp only [String.toList_append, List.head?_append]
    rw [hfirst]
    simp only [Option.some_or]
  intro h
  rw [h] at hhead
  simp at hhead

theorem upgradeType_of_no_upgrade {op : OperatorInfo} (h : Consistent op)
    (hno : op.canUpgrade = false) : op.upgradeType = .none := by
  rw [h.upgradeType_eq, hno]
  rfl

/-- An upgrade within the major version blocks nothing. -/
theorem consistent_unblocking {op : OperatorInfo} (h : Consistent op)
    (hno : op.canUpgrade = false) {target : Semver}
    (hgreater : isVersionGreater target (parseSemver op.version) = true) {upgradeType : UpgradeType}
    (hup : upgradeTypeOf target (parseSemver op.version) = upgradeType)
    (hmajor : upgradeType ≠ .major) (targetCSV : String) :
    Consistent { op with
      targetCSV := targetCSV, targetVersion := sprintfSemver target, canUpgrade := true,
      upgradeType := upgradeType } := by
  have htype := upgradeType_of_no_upgrade h hno
  have hblocker : op.ocpBlocker = true ↔ op.phase = "Failed" := by
    simpa [htype] using h.ocpBlocker_iff
  have hdiff : op.crdDiff = {} := h.crdDiff_eq (by rw [htype]; decide)
  exact
    { canUpgrade_iff := by simp [parseSemver_sprintf, hgreater]
      upgradeType_eq := by simp [parseSemver_sprintf, hup]
      ocpBlocker_iff := by simp [hblocker, hmajor]
      ocpBlockerReason_iff := h.ocpBlockerReason_iff
      ocpNextSupported_iff := h.ocpNextSupported_iff
      crdDiff_eq := fun _ => hdiff }

section Channel

variable (dyn : Nat → DynClient) (order : Nat → List String → RangeOrder String)
  (ocpNext : String)

/-- An entry of a channel keeps a record consistent that had no upgrade yet. -/
theorem consistent_withChannel {op : OperatorInfo} (h : Consistent op)
    (hno : op.canUpgrade = false) (chMap : JMap) :
    Consistent (withChannel dyn order ocpNext op chMap) := by
  have htype := upgradeType_of_no_upgrade h hno
  unfold withChannel
  dsimp only
  generalize parseSemver (targetRawVer chMap) = targVer
  split_ifs with hgreater hmajor hminor
  · have hup := upgradeTypeOf_of_greater hgreater
    rw [if_pos hmajor] at hup
    exact
      { canUpgrade_iff := by simp [parseSemver_sprintf, hgreater]
        upgradeType_eq := by simp [parseSemver_sprintf, hup]
        ocpBlocker_iff := by simp
        ocpBlockerReason_iff := by simp [majorReason_ne_none]
        ocpNextSupported_iff := h.ocpNextSupported_iff
        crdDiff_eq := fun hne => absurd rfl hne }
  · have hup := upgradeTypeOf_of_greater hgreater
    rw [if_neg hmajor, if_pos hminor] at hup
    exact consistent_unblocking h hno hgreater hup (by decide) _
  · have hup := upgradeTypeOf_of_greater hgreater
    rw [if_neg hmajor, if_neg hminor] at hup
    exact consistent_unblocking h hno hgreater hup (by decide) _
  · exact
      { canUpgrade_iff := by simp [parseSemver_sprintf, hno, hgreater]
        upgradeType_eq := by simp [hno, htype]
        ocpBlocker_iff := h.ocpBlocker_iff
        ocpBlockerReason_iff := h.ocpBlockerReason_iff
        ocpNextSupported_iff := h.ocpNextSupported_iff
        crdDiff_eq := h.crdDiff_eq }

end Channel

/-! ## Every operator of a response -/

theorem consistent_withManifest (sweep : Sweep) (i : Nat) {op : OperatorInfo} (h : Consistent op)
    (hno : op.canUpgrade = false) : Consistent (withManifest sweep i op) := by
  rcases withManifest_cases sweep i op with heq | ⟨chMap, -, heq⟩
  · rw [heq]
    exact h
  · rw [heq]
    exact consistent_withChannel _ _ _ h hno chMap

/-- The scores and the list of CRDs are none of the fields that `Consistent` is about. -/
theorem consistent_withScores (sweep : Sweep) (i : Nat) {op : OperatorInfo} (h : Consistent op)
    (crds : List CRDInfo) : Consistent ((withScores sweep i op).setCRDs crds) :=
  ⟨h.1, h.2, h.3, h.4, h.5, h.6⟩

theorem consistent_published {sweep : Sweep} {resp : ClusterGovernanceResponse} {i : Nat}
    {op : OperatorInfo} (hresp : getClusterGovernance sweep = .ok resp)
    (hop : resp.operators[i]? = some op) : Consistent op := by
  obtain ⟨csvMap, sub, hrecord, -⟩ := operator_of_response hresp hop
  obtain ⟨hbase, hno⟩ := consistent_baseOperator sweep csvMap sub i
  rw [hrecord]
  exact consistent_withScores sweep i (consistent_withManifest sweep i hbase hno) op.crds

/-- **Every record that a sweep publishes is internally consistent.** -/
theorem consistent_of_response (sweep : Sweep) (resp : ClusterGovernanceResponse)
    (hresp : getClusterGovernance sweep = .ok resp) : ∀ op ∈ resp.operators, Consistent op := by
  intro op hop
  obtain ⟨i, hi⟩ := List.mem_iff_getElem?.mp hop
  exact consistent_published hresp hi

/-! ### One operator with a pending upgrade -/

/-- etcd 1.2.0 is installed in `operators`; its channel offers 2.0.0. -/
def etcdObjects (gvr : GroupVersionResource) : List Unstructured :=
  if gvr = subscriptionGVR then
    [⟨[metadata "operators" "etcd", ("spec", .obj [("name", .str "etcd"),
      ("channel", .str "stable")]), ("status", .obj [("installedCSV", .str "etcd.v1.2.0")])]⟩]
  else if gvr = csvGVR then
    [⟨[metadata "operators" "etcd.v1.2.0", ("spec", .obj [("version", .str "1.2.0")]),
      ("status", .obj [("phase", .str "Succeeded")])]⟩]
  else if gvr = packageManifestGVR then
    [⟨[metadata "operators" "etcd", ("status", .obj [("channels", .arr [.obj
      [("name", .str "stable"), ("currentCSVDesc", .obj [("name", .str "etcd.v2.0.0"),
        ("version", .str "2.0.0")])]])])]⟩]
  else []

theorem consistent_of_response_etcd :
    ∃ resp, getClusterGovernance (.ofClient (snapshotClient etcdObjects)) = .ok resp ∧
      resp.operators.map (·.upgradeType) = [.major] ∧ ∀ op ∈ resp.operators, Consistent op := by
  refine ⟨_, rfl, ?_, consistent_of_response (.ofClient (snapshotClient etcdObjects)) _ rfl⟩
  decide

end HybridOperator.Collector
