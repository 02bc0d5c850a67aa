/-
  Upgrades that are classified without an installed version.

  The version of a record is the one of the installed CSV; when the CSV gives none it is read off
  the name of the CSV, which is the `startingCSV` of the Subscription when its status names none
  (`installedText`). `parseSemver` gives 0.0.0 for a text without a number, and the comparison
  takes that for a version.

  Proved: `missing_version_iff`, no MAJOR upgrade is classified from a missing version, and MAJOR
  means that both versions were parsed and the major component grew, exactly when the installed
  version could be parsed or the channel offers no version with a major component above 0.
-/
import HybridOperator.Collector.SharedCounts

namespace HybridOperator.Collector

open HybridOperator.Lib

/-- The text that the installed version is read from. -/
def installedText (sweep : Sweep) (sub : Unstructured) : String :=
  let op := installedOperator (listedCSVs sweep) sub
  if op.version = "" then op.installedCSV else op.version

/-- Both versions have a number of the form `x.y.z`, and the major component grew. -/
def MajorGrew (sweep : Sweep) (sub : Unstructured) (i : Nat) (op : OperatorInfo) : Prop :=
  HasSemver (installedText sweep sub) ∧
    ∃ chMap, manifestChannel (sweep.scanning i) op = some chMap ∧ HasSemver (targetRawVer chMap) ∧
      (parseSemver (targetRawVer chMap)).major > (parseSemver (installedText sweep sub)).major

/-- The record reports no upgrade that is classified from a missing version. -/
structure NotFromMissing (sweep : Sweep) (sub : Unstructured) (i : Nat) (op : OperatorInfo) :
    Prop where
  missing : ¬ HasSemver (installedText sweep sub) →
    op.upgradeType ≠ .major ∧ (op.ocpBlocker = true → op.phase = "Failed")
  major : op.upgradeType = .major → MajorGrew sweep sub i op

/-! ## The version of a record -/

theorem csvEntry_declared {m m' : CSVMap} (h : SameCSVs m m') (sub : Unstructured) :
    (csvEntry m sub).map CSVData.declared = (csvEntry m' sub).map CSVData.declared := by
  unfold csvEntry
  rw [csvRef_congr h sub]
  cases csvRef m' sub with
  | none => rfl
  | some k => exact h k

theorem installedOperator_version (m : CSVMap) (sub : Unstructured) :
    (installedOperator m sub).version =
      (((csvEntry m sub).map CSVData.declared).map (·.version)).getD "" := by
  unfold installedOperator
  cases csvEntry m sub <;> rfl

theorem installedOperator_installedCSV (m : CSVMap) (sub : Unstructured) :
    (installedOperator m sub).installedCSV = installedCSV sub := by
  unfold installedOperator
  cases csvEntry m sub <;> rfl

theorem installedVersion_congr {m m' : CSVMap} (h : SameCSVs m m') (sub : Unstructured) :
    installedVersion m sub = installedVersion m' sub := by
  unfold installedVersion
  dsimp only
  rw [installedOperator_version, installedOperator_version, csvEntry_declared h,
    installedOperator_installedCSV, installedOperator_installedCSV]

/-- The printed version parses as the text it was read from. -/
theorem parseSemver_installedVersion (sweep : Sweep) (sub : Unstructured) :
    parseSemver (installedVersion (listedCSVs sweep) sub) =
      parseSemver (installedText sweep sub) := by
  unfold installedVersion installedText
  dsimp only
  split
  · exact parseSemver_sprintf _
  · rfl

/-- A record has the namespace, the package and the channel of its Subscription. -/
theorem baseOperator_fields (sweep : Sweep) (m : CSVMap) (sub : Unstructured) (i : Nat) :
    (baseOperator sweep m sub i).nameSpace = sub.getNamespace ∧
      (baseOperator sweep m sub i).package = packageName sub ∧
      (baseOperator sweep m sub i).channel = specString sub "channel" := by
  have hinstalled : (installedOperator m sub).nameSpace = sub.getNamespace ∧
      (installedOperator m sub).package = packageName sub ∧
      (installedOperator m sub).channel = specString sub "channel" := by
    unfold installedOperator
    cases csvEntry m sub <;> exact ⟨rfl, rfl, rfl⟩
  unfold baseOperator
  dsimp only
  rw [withFailure_keeps _ (·.nameSpace) fun _ _ _ _ => rfl,
    withFailure_keeps _ (·.package) fun _ _ _ _ => rfl,
    withFailure_keeps _ (·.channel) fun _ _ _ _ => rfl]
  generalize installedOperator m sub = op at hinstalled ⊢
  exact hinstalled

section Response

variable {sweep : Sweep} {resp : ClusterGovernanceResponse} {i : Nat} {op : OperatorInfo}
  {sub : Unstructured}

/-- An operator of the response is the record that the round of its Subscription made, CRDs
    aside. -/
theorem roundRecord_of_sub (hresp : getClusterGovernance sweep = .ok resp)
    (hop : resp.operators[i]? = some op) (hsub : (sweepSubs sweep)[i]? = some sub) :
    ∃ csvMap, SameCSVs (listedCSVs sweep) csvMap ∧
      op = (roundRecord sweep csvMap sub i).setCRDs op.crds := by
  obtain ⟨subs, sub', m, hsubs, hsub', hsame, hfinish⟩ := round_of_response hresp hop
  rw [sweepSubs_eq hsubs, hsub'] at hsub
  obtain rfl := Option.some.inj hsub
  have hrecord := finish_eq (Reactive.run (governSubscription sweep) (listedCSVs sweep)
    subs.zipIdx).1 (governSubscription sweep m (sub', i)).2
  rw [← hfinish] at hrecord
  exact ⟨m, hsame, hrecord⟩

theorem version_of_response (hresp : getClusterGovernance sweep = .ok resp)
    (hop : resp.operators[i]? = some op) (hsub : (sweepSubs sweep)[i]? = some sub) :
    op.version = installedVersion (listedCSVs sweep) sub := by
  obtain ⟨m, hsame, hrecord⟩ := roundRecord_of_sub hresp hop hsub
  obtain ⟨hversion, -⟩ := published_version (i := i) hrecord
  rw [hversion, withManifest_version, baseOperator_version, installedVersion_congr hsame]

/-- The entry of the channel is looked up by what the Subscription asks for. -/
theorem subscription_fields (hresp : getClusterGovernance sweep = .ok resp)
    (hop : resp.operators[i]? = some op) (hsub : (sweepSubs sweep)[i]? = some sub) :
    op.nameSpace = sub.getNamespace ∧ op.package = packageName sub ∧
      op.channel = specString sub "channel" := by
  obtain ⟨m, -, hrecord⟩ := roundRecord_of_sub hresp hop hsub
  obtain ⟨-, -, hns, hpackage, hchannel⟩ := published_fields hrecord
  obtain ⟨-, -, hns', hpackage', hchannel'⟩ :=
    withManifest_frame sweep i (baseOperator sweep m sub i)
  obtain ⟨hns₀, hpackage₀, hchannel₀⟩ := baseOperator_fields sweep m sub i
  exact ⟨hns.trans (hns'.trans hns₀), hpackage.trans (hpackage'.trans hpackage₀),
    hchannel.trans (hchannel'.trans hchannel₀)⟩

/-- A published record is MAJOR when the channel offers a major component above the one that the
    installed text parses to, be that its own or the 0 of a missing number. -/
theorem major_iff_installedText (hresp : getClusterGovernance sweep = .ok resp)
    (hop : resp.operators[i]? = some op) (hsub : (sweepSubs sweep)[i]? = some sub) :
    op.upgradeType = .major ↔ ∃ chMap, manifestChannel (sweep.scanning i) op = some chMap ∧
      (parseSemver (targetRawVer chMap)).major > (parseSemver (installedText sweep sub)).major := by
  rw [major_iff_offered hresp hop, MajorOffered, version_of_response hresp hop hsub,
    parseSemver_installedVersion]
  unfold offered
  constructor
  · rintro ⟨target, htarget, hgt⟩
    obtain ⟨chMap, hch, rfl⟩ := Option.map_eq_some_iff.mp htarget
    exact ⟨chMap, hch, hgt⟩
  · rintro ⟨chMap, hch, hgt⟩
    exact ⟨_, Option.map_eq_some_iff.mpr ⟨chMap, hch, rfl⟩, hgt⟩

end Response

/-- Nothing above 0 is parsed from a text without a number. -/
theorem hasSemver_of_major_pos {s : String} {v : Semver} (h : (parseSemver s).major > v.major) :
    HasSemver s := by
  by_contra hno
  rw [parseSemver_of_not_hasSemver hno] at h
  exact Nat.not_lt_zero _ h

/-- No upgrade is classified from a missing version, exactly when the installed version could be
    parsed or the channel offers no version with a major component above 0. -/
theorem missing_version_iff (sweep : Sweep) (resp : ClusterGovernanceResponse)
    (hresp : getClusterGovernance sweep = .ok resp) (i : Nat) (op : OperatorInfo)
    (hop : resp.operators[i]? = some op) (sub : Unstructured)
    (hsub : (sweepSubs sweep)[i]? = some sub) :
    NotFromMissing sweep sub i op ↔
      HasSemver (installedText sweep sub) ∨
        ∀ chMap, manifestChannel (sweep.scanning i) op = some chMap →
          (parseSemver (targetRawVer chMap)).major = 0 := by
  have hmajor := major_iff_installedText hresp hop hsub
  constructor
  · intro h
    by_cases hinstalled : HasSemver (installedText sweep sub)
    · exact Or.inl hinstalled
    · refine Or.inr fun chMap hch => ?_
      by_contra hne
      refine (h.missing hinstalled).1 (hmajor.mpr ⟨chMap, hch, ?_⟩)
      rw [parseSemver_of_not_hasSemver hinstalled]
      exact Nat.pos_of_ne_zero fun hzero => hne (Fin.ext hzero)
  · intro h
    have hgrew : op.upgradeType = .major → MajorGrew sweep sub i op := by
      intro htype
      obtain ⟨chMap, hch, hgt⟩ := hmajor.mp htype
      refine ⟨?_, chMap, hch, hasSemver_of_major_pos hgt, hgt⟩
      obtain hinstalled | hzero := h
      · exact hinstalled
      · rw [hzero chMap hch] at hgt
        exact absurd hgt (Nat.not_lt_zero _)
    refine ⟨fun hmissing => ?_, hgrew⟩
    have hno : op.upgradeType ≠ .major := fun htype => hmissing (hgrew htype).1
    exact ⟨hno, fun hblocker =>
      ((consistent_published hresp hop).ocpBlocker_iff.mp hblocker).resolve_right hno⟩

/-! ### A Subscription that is not installed yet -/

/-- A Subscription without an installed CSV, whose channel offers etcd 2.0.0. -/
def pendingEtcd : Unstructured :=
  ⟨[metadata "operators" "etcd", ("spec", .obj [("channel", .str "stable")]),
    ("status", .obj [("state", .str "UpgradePending")])]⟩

def pendingEtcdObjects (gvr : GroupVersionResource) : List Unstructured :=
  if gvr = subscriptionGVR then [pendingEtcd]
  else if gvr = packageManifestGVR then etcdUpgradeObjects packageManifestGVR
  else []

def pendingEtcdSweep : Sweep := .ofClient (snapshotClient pendingEtcdObjects)

/-- A MAJOR upgrade from 0.0.0 is reported, and it blocks the platform. -/
theorem missing_version_major :
    ∃ resp op, getClusterGovernance pendingEtcdSweep = .ok resp ∧ resp.operators[0]? = some op ∧
      (sweepSubs pendingEtcdSweep)[0]? = some pendingEtcd ∧
      ¬ HasSemver (installedText pendingEtcdSweep pendingEtcd) ∧
      op.upgradeType = .major ∧ op.ocpBlocker = true ∧ op.phase = "UpgradePending" ∧
      ¬ NotFromMissing pendingEtcdSweep pendingEtcd 0 op := by
  refine ⟨_, _, rfl, rfl, rfl, by decide, by decide, by decide, by decide, fun h => ?_⟩
  have htype := (h.missing (by decide)).1
  revert htype
  decide

theorem missing_version_iff_pending :
    ∃ resp op, getClusterGovernance pendingEtcdSweep = .ok resp ∧ resp.operators[0]? = some op ∧
      (NotFromMissing pendingEtcdSweep pendingEtcd 0 op ↔
        HasSemver (installedText pendingEtcdSweep pendingEtcd) ∨
          ∀ chMap, manifestChannel (pendingEtcdSweep.scanning 0) op = some chMap →
            (parseSemver (targetRawVer chMap)).major = 0) :=
  ⟨_, _, rfl, rfl, missing_version_iff pendingEtcdSweep _ rfl 0 _ rfl pendingEtcd rfl⟩

end HybridOperator.Collector
