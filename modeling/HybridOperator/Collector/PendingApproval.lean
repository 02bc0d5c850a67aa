/-
  Where the upgrade flow puts an operator that waits for approval.

  `BuildUpgradeFlowData` tells from the phase of a record that its upgrade is pending. The phase
  is that of the installed CSV; the state of the Subscription only counts when the CSV is missing
  or has no phase (`phase_of_response`). So the state `UpgradePending` is lost behind a CSV that
  runs: `pending_blocked_iff` says for which phases of the CSV the operator still gets to the
  `Blocked` node.
-/
import HybridOperator.Collector.LinkTypes
import HybridOperator.Collector.MissingVersion

namespace HybridOperator.Collector

open HybridOperator.Lib

/-- The operator flows through a link of the response into this target. -/
def RoutedTo (resp : ClusterGovernanceResponse) (op : OperatorInfo) (target : String) : Prop :=
  targetVer op = target ∧ ∃ l ∈ resp.upgradeFlow.links,
    l.source = currentVer op ∧ l.target = target ∧ op.name ∈ l.operators

/-- The Subscription waits for its upgrade. -/
def AwaitsUpgrade (sub : Unstructured) : Prop :=
  nestedString sub.object ["status", "state"] = some "UpgradePending"

/-- The phase is one that `BuildUpgradeFlowData` takes for pending. -/
def PendingPhase (phase : String) : Prop :=
  phase = "UpgradePending" ∨ GoStrings.contains phase "RequiresApproval" = true

/-! ## The phase of a record -/

/-- The phase that an entry of `csvMap` gives a new record. -/
def entryPhase (entry : Option CSVData) : String := (entry.map (·.phase)).getD "Unknown"

theorem installedOperator_phase (m : CSVMap) (sub : Unstructured) :
    (installedOperator m sub).phase = resolvePhase (entryPhase (csvEntry m sub))
      ((nestedString sub.object ["status", "state"]).getD "") := by
  unfold installedOperator
  cases csvEntry m sub <;> rfl

theorem entryPhase_congr {m m' : CSVMap} (h : SameCSVs m m') (sub : Unstructured) :
    entryPhase (csvEntry m sub) = entryPhase (csvEntry m' sub) := by
  have hphase : ∀ entry : Option CSVData,
      entryPhase entry = ((entry.map CSVData.declared).map (·.phase)).getD "Unknown" := by
    intro entry
    cases entry <;> rfl
  rw [hphase, hphase, csvEntry_declared h]

theorem withFailure_phase (op : OperatorInfo) : (withFailure op).phase = op.phase :=
  withFailure_keeps op (·.phase) fun _ _ _ _ => rfl

theorem withManifest_phase (sweep : Sweep) (i : Nat) (op : OperatorInfo) :
    (withManifest sweep i op).phase = op.phase :=
  withManifest_keeps sweep i op (·.phase) fun _ _ _ _ _ _ _ _ => rfl

theorem baseOperator_phase (sweep : Sweep) (csvMap : CSVMap) (sub : Unstructured) (i : Nat) :
    (baseOperator sweep csvMap sub i).phase = (installedOperator csvMap sub).phase := by
  unfold baseOperator
  dsimp only
  rw [withFailure_phase]
  rfl

theorem published_phase {sweep : Sweep} {i : Nat} {op base : OperatorInfo} {crds : List CRDInfo}
    (h : op = (withScores sweep i base).setCRDs crds) : op.phase = base.phase := by
  subst h
  rfl

section Response

variable {sweep : Sweep} {resp : ClusterGovernanceResponse} {i : Nat} {op : OperatorInfo}
  {sub : Unstructured}

/-- The phase of a published record: that of the installed CSV, else the state of the
    Subscription. -/
theorem phase_of_response (hresp : getClusterGovernance sweep = .ok resp)
    (hop : resp.operators[i]? = some op) (hsub : (sweepSubs sweep)[i]? = some sub) :
    op.phase = resolvePhase (entryPhase (csvEntry (listedCSVs sweep) sub))
      ((nestedString sub.object ["status", "state"]).getD "") := by
  obtain ⟨m, hsame, hrecord⟩ := roundRecord_of_sub hresp hop hsub
  rw [published_phase (i := i) hrecord, withManifest_phase, baseOperator_phase,
    installedOperator_phase, entryPhase_congr hsame]

/-- A pending Subscription makes the phase pending when the CSV gives none, or does itself. -/
theorem pendingPhase_resolvePhase (phase : String) :
    PendingPhase (resolvePhase phase "UpgradePending") ↔
      phase = "" ∨ phase = "Unknown" ∨ PendingPhase phase := by
  unfold resolvePhase
  by_cases h : phase = "Unknown" ∨ phase = ""
  · have hstate : "UpgradePending" ≠ "" := by decide
    have hnot : ¬ ("UpgradePending" = "UpgradeFailed" ∨ "UpgradePending" = "InstallPlanFailed" ∨
        "UpgradePending" = "Unknown") := by decide
    rw [if_pos h]
    dsimp only
    rw [if_pos hstate, if_neg hnot]
    exact iff_of_true (Or.inl rfl) (h.elim (fun h => Or.inr (Or.inl h)) Or.inl)
  · rw [if_neg h]
    exact ⟨fun hp => Or.inr (Or.inr hp), fun hp => hp.elim (fun hp => absurd (Or.inr hp) h)
      fun hp => hp.elim (fun hp => absurd (Or.inl hp) h) id⟩

theorem upgradeFlow_of_ok (hresp : getClusterGovernance sweep = .ok resp) :
    resp.upgradeFlow = buildUpgradeFlowData sweep.flowOrders resp.operators := by
  unfold getClusterGovernance at hresp
  split at hresp
  · cases hresp
  · obtain rfl := Except.ok.inj hresp
    rfl

/-- A published record that can be upgraded has a printed version as its target. -/
theorem targetVersion_ne_blocked (hresp : getClusterGovernance sweep = .ok resp)
    (hop : resp.operators[i]? = some op) (hcan : op.canUpgrade = true) :
    op.targetVersion ≠ "Blocked" := by
  intro heq
  have hgreater := (consistent_published hresp hop).canUpgrade_iff.mp hcan
  rw [heq, parseSemver_of_not_hasSemver (by decide), isVersionGreater_zero] at hgreater
  cases hgreater

theorem targetVer_blocked_iff (hcan : op.canUpgrade = true) (hne : op.targetVersion ≠ "Blocked") :
    targetVer op = "Blocked" ↔ PendingPhase op.phase := by
  have hcan' : ¬ op.canUpgrade = false := by simp [hcan]
  unfold targetVer targetNode
  rw [if_neg hcan']
  unfold PendingPhase
  by_cases h : op.phase = "UpgradePending" ∨ GoStrings.contains op.phase "RequiresApproval" = true
  · rw [if_pos h]
    exact iff_of_true rfl h
  · rw [if_neg h]
    refine iff_of_false (fun htarget => ?_) h
    dsimp only at htarget
    split at htarget
    · exact absurd htarget (by decide)
    · exact hne htarget

theorem routedTo_iff (hresp : getClusterGovernance sweep = .ok resp)
    (hop : resp.operators[i]? = some op) (target : String) :
    RoutedTo resp op target ↔ targetVer op = target := by
  refine ⟨fun h => h.1, fun h => ⟨h, ?_⟩⟩
  have hmem := List.mem_of_getElem? hop
  rw [upgradeFlow_of_ok hresp]
  exact ⟨_, (mem_links _ _).mpr ⟨op, hmem, rfl⟩, rfl, h,
    List.mem_map_of_mem (mem_onRoute.mpr ⟨hmem, rfl⟩)⟩

end Response

/-- An operator whose Subscription waits for an upgrade that is there flows to `Blocked` exactly
    when its CSV is missing, has no phase, or has a phase that means pending itself. -/
theorem pending_blocked_iff (sweep : Sweep) (resp : ClusterGovernanceResponse)
    (hresp : getClusterGovernance sweep = .ok resp) (i : Nat) (op : OperatorInfo)
    (hop : resp.operators[i]? = some op) (sub : Unstructured)
    (hsub : (sweepSubs sweep)[i]? = some sub) (hstate : AwaitsUpgrade sub)
    (hcan : op.canUpgrade = true) :
    RoutedTo resp op "Blocked" ↔ ∀ csv, csvEntry (listedCSVs sweep) sub = some csv →
      csv.phase = "" ∨ csv.phase = "Unknown" ∨ PendingPhase csv.phase := by
  have hphase := phase_of_response hresp hop hsub
  rw [AwaitsUpgrade] at hstate
  rw [hstate, Option.getD_some] at hphase
  rw [routedTo_iff hresp hop, targetVer_blocked_iff hcan (targetVersion_ne_blocked hresp hop hcan),
    hphase, pendingPhase_resolvePhase]
  cases csvEntry (listedCSVs sweep) sub with
  | none => exact iff_of_true (Or.inr (Or.inl rfl)) (fun _ h => nomatch h)
  | some csv => exact ⟨fun h _ heq => Option.some.inj heq ▸ h, fun h => h csv rfl⟩

/-! ### A pending upgrade of a running operator -/

/-- etcd 1.2.0 runs, and the upgrade to 2.0.0 waits for approval. -/
def waitingEtcd : Unstructured :=
  ⟨[metadata "operators" "etcd", ("spec", .obj [("channel", .str "stable")]),
    ("status", .obj [("installedCSV", .str "etcd.v1.2.0"), ("state", .str "UpgradePending")])]⟩

def waitingEtcdObjects (gvr : GroupVersionResource) : List Unstructured :=
  if gvr = subscriptionGVR then [waitingEtcd] else etcdObjects gvr

def waitingEtcdSweep : Sweep := .ofClient (snapshotClient waitingEtcdObjects)

/-- The operator flows to 2.0.0 as if nothing stood in its way. -/
theorem waiting_not_blocked :
    ∃ resp op, getClusterGovernance waitingEtcdSweep = .ok resp ∧ resp.operators[0]? = some op ∧
      (sweepSubs waitingEtcdSweep)[0]? = some waitingEtcd ∧ AwaitsUpgrade waitingEtcd ∧
      op.canUpgrade = true ∧ op.phase = "Succeeded" ∧ RoutedTo resp op "2.0.0" ∧
      ¬ RoutedTo resp op "Blocked" := by
  refine ⟨_, _, rfl, rfl, rfl, rfl, by decide, by decide, ?_, fun h => ?_⟩
  · exact (routedTo_iff (show getClusterGovernance waitingEtcdSweep = .ok _ from rfl)
      (i := 0) rfl _).mpr (by decide)
  · exact absurd h.1 (by decide)

theorem pending_blocked_iff_waiting :
    ∃ resp op, getClusterGovernance waitingEtcdSweep = .ok resp ∧ resp.operators[0]? = some op ∧
      (RoutedTo resp op "Blocked" ↔ ∀ csv,
        csvEntry (listedCSVs waitingEtcdSweep) waitingEtcd = some csv →
          csv.phase = "" ∨ csv.phase = "Unknown" ∨ PendingPhase csv.phase) :=
  ⟨_, _, rfl, rfl, pending_blocked_iff waitingEtcdSweep _ rfl 0 _ rfl waitingEtcd rfl rfl
    (by decide)⟩

end HybridOperator.Collector
