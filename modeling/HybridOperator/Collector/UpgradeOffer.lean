/-
  What the upgrade fields of a published record say, in terms of what the sweep read.

  The record keeps the version it was collected with, the namespace, the package and the channel,
  so the entry of the channel that decided about the upgrade is the one these fields lead to
  (`offered`). Of the version strings only `parseSemver` is compared.

  Proved, for every operator of a response:
  * `canUpgrade_iff_offered`: an upgrade is reported exactly when the channel offers a version
    that is greater.
  * `major_iff_offered`: it is MAJOR exactly when the offered major component is greater.
-/
import HybridOperator.Collector.ImpactCoverage

namespace HybridOperator.Collector

open HybridOperator.Lib

/-- The version that an operator's channel offers, as it is parsed. -/
def offered (sweep : Sweep) (i : Nat) (op : OperatorInfo) : Option Semver :=
  (manifestChannel (sweep.scanning i) op).map fun chMap => parseSemver (targetRawVer chMap)

/-- The channel offers a version with a greater major component. -/
def MajorOffered (sweep : Sweep) (i : Nat) (op : OperatorInfo) : Prop :=
  ∃ target, offered sweep i op = some target ∧ target.major > (parseSemver op.version).major

theorem isVersionGreater_of_major {target current : Semver} (h : target.major > current.major) :
    isVersionGreater target current = true := by
  have hne : target.major ≠ current.major := fun heq => by
    rw [heq] at h
    exact Nat.lt_irrefl _ h
  rw [isVersionGreater, if_pos hne]
  exact decide_eq_true h

/-- The version that the installed CSV gives, or its name when it gives none. -/
def installedVersion (csvMap : CSVMap) (sub : Unstructured) : String :=
  let op := installedOperator csvMap sub
  if op.version = "" then sprintfSemver (parseSemver op.installedCSV) else op.version

theorem withFailure_version (op : OperatorInfo) : (withFailure op).version = op.version :=
  withFailure_keeps op (·.version) fun _ _ _ _ => rfl

theorem baseOperator_version (sweep : Sweep) (csvMap : CSVMap) (sub : Unstructured) (i : Nat) :
    (baseOperator sweep csvMap sub i).version = installedVersion csvMap sub := by
  unfold baseOperator
  dsimp only
  rw [withFailure_version]
  rfl

theorem baseOperator_targetVersion (sweep : Sweep) (csvMap : CSVMap) (sub : Unstructured)
    (i : Nat) :
    (baseOperator sweep csvMap sub i).targetVersion =
      (baseOperator sweep csvMap sub i).version := by
  unfold baseOperator withFailure
  dsimp only
  split <;> rfl

/-! ## The entry of the channel -/

section Manifest

variable (sweep : Sweep) (i : Nat) {op : OperatorInfo}

theorem withManifest_version : (withManifest sweep i op).version = op.version :=
  withManifest_keeps sweep i op (·.version) fun _ _ _ _ _ _ _ _ => rfl

theorem withManifest_canUpgrade (hno : op.canUpgrade = false) :
    (withManifest sweep i op).canUpgrade = true ↔
      ∃ target, offered sweep i op = some target ∧
        isVersionGreater target (parseSemver op.version) = true := by
  unfold withManifest offered
  cases manifestChannel (sweep.scanning i) op with
  | none => exact iff_of_false (by rw [hno]; exact Bool.false_ne_true) fun ⟨_, h, _⟩ => by cases h
  | some chMap =>
    simp only [Option.map_some, Option.some.injEq, exists_eq_left']
    unfold withChannel
    dsimp only
    split_ifs with hgreater hmajor hminor
    · exact iff_of_true rfl hgreater
    · exact iff_of_true rfl hgreater
    · exact iff_of_true rfl hgreater
    · exact iff_of_false (by rw [hno]; exact Bool.false_ne_true) hgreater

theorem withManifest_major (hno : op.upgradeType = .none) :
    (withManifest sweep i op).upgradeType = .major ↔ MajorOffered sweep i op := by
  unfold withManifest MajorOffered offered
  cases manifestChannel (sweep.scanning i) op with
  | none => exact iff_of_false (by rw [hno]; decide) fun ⟨_, h, _⟩ => by cases h
  | some chMap =>
    simp only [Option.map_some, Option.some.injEq, exists_eq_left']
    unfold withChannel
    dsimp only
    split_ifs with hgreater hmajor hminor
    · exact iff_of_true rfl hmajor
    · exact iff_of_false (by decide) hmajor
    · exact iff_of_false (by decide) hmajor
    · refine iff_of_false (by rw [hno]; decide) fun hmajor => ?_
      exact hgreater (isVersionGreater_of_major hmajor)

theorem withManifest_targetVersion :
    (withManifest sweep i op).targetVersion =
      ((offered sweep i op).map sprintfSemver).getD op.targetVersion := by
  unfold withManifest offered
  cases manifestChannel (sweep.scanning i) op with
  | none => rfl
  | some chMap =>
    unfold withChannel
    dsimp only
    split_ifs <;> rfl

end Manifest

/-! ## Published records -/

section Response

variable {sweep : Sweep} {resp : ClusterGovernanceResponse} {i : Nat} {op : OperatorInfo}

theorem published_version {base : OperatorInfo} {crds : List CRDInfo}
    (h : op = (withScores sweep i base).setCRDs crds) :
    op.version = base.version ∧ op.canUpgrade = base.canUpgrade ∧
      op.targetVersion = base.targetVersion := by
  subst h
  exact ⟨rfl, rfl, rfl⟩

/-- A published record has the version, the namespace, the package and the channel that it was
    collected with. -/
theorem collected_fields (hresp : getClusterGovernance sweep = .ok resp)
    (hop : resp.operators[i]? = some op) :
    ∃ csvMap sub, op.version = installedVersion csvMap sub ∧
      op.version = (baseOperator sweep csvMap sub i).version ∧
      offered sweep i op = offered sweep i (baseOperator sweep csvMap sub i) ∧
      op.canUpgrade = (withManifest sweep i (baseOperator sweep csvMap sub i)).canUpgrade ∧
      op.upgradeType = (withManifest sweep i (baseOperator sweep csvMap sub i)).upgradeType ∧
      op.targetVersion =
        (withManifest sweep i (baseOperator sweep csvMap sub i)).targetVersion := by
  obtain ⟨csvMap, sub, hrecord, -⟩ := operator_of_response hresp hop
  obtain ⟨htype, -, hns, hpackage, hchannel⟩ := published_fields hrecord
  obtain ⟨-, -, hns', hpackage', hchannel'⟩ :=
    withManifest_frame sweep i (baseOperator sweep csvMap sub i)
  obtain ⟨hversion, hcan, htarget⟩ := published_version hrecord
  have hversion := hversion.trans (withManifest_version sweep i)
  refine ⟨csvMap, sub, hversion.trans (baseOperator_version sweep csvMap sub i), hversion, ?_,
    hcan, htype, htarget⟩
  unfold offered manifestChannel
  rw [hns.trans hns', hpackage.trans hpackage', hchannel.trans hchannel']

theorem canUpgrade_iff_offered (hresp : getClusterGovernance sweep = .ok resp)
    (hop : resp.operators[i]? = some op) :
    op.canUpgrade = true ↔ ∃ target, offered sweep i op = some target ∧
      isVersionGreater target (parseSemver op.version) = true := by
  obtain ⟨csvMap, sub, -, hversion, hoffered, hcan, -⟩ := collected_fields hresp hop
  rw [hcan, hoffered, hversion]
  exact withManifest_canUpgrade sweep i (consistent_baseOperator sweep csvMap sub i).2

theorem major_iff_offered (hresp : getClusterGovernance sweep = .ok resp)
    (hop : resp.operators[i]? = some op) :
    op.upgradeType = .major ↔ MajorOffered sweep i op := by
  obtain ⟨csvMap, sub, -, hversion, hoffered, -, htype, -⟩ := collected_fields hresp hop
  obtain ⟨hbase, hcan⟩ := consistent_baseOperator sweep csvMap sub i
  have hno : (baseOperator sweep csvMap sub i).upgradeType = .none := by
    rw [hbase.upgradeType_eq, hcan]
    rfl
  rw [htype, withManifest_major sweep i hno, MajorOffered, MajorOffered, hoffered, hversion]

/-- Parsing the published target version gives the version that was compared. -/
theorem parseSemver_targetVersion (hresp : getClusterGovernance sweep = .ok resp)
    (hop : resp.operators[i]? = some op) :
    parseSemver op.targetVersion = (offered sweep i op).getD (parseSemver op.version) := by
  obtain ⟨csvMap, sub, -, hversion, hoffered, -, -, htarget⟩ := collected_fields hresp hop
  rw [htarget, withManifest_targetVersion, hoffered, hversion]
  cases offered sweep i (baseOperator sweep csvMap sub i) with
  | none => rw [Option.map_none, Option.getD_none, Option.getD_none, baseOperator_targetVersion]
  | some target =>
    rw [Option.map_some, Option.getD_some, Option.getD_some, parseSemver_sprintf]

end Response

end HybridOperator.Collector
