/-
  `CanUpgrade` and SemVer precedence.

  `parseSemver` takes the three numbers of a version and drops what follows them, so of two valid
  SemVer strings `isVersionGreater` compares the releases (`isVersionGreater_print`).

  Proved: `canUpgrade_release`, for every installed and every offered version that are valid
  SemVer, an upgrade is reported exactly when the release of the offered one has strictly higher
  precedence; this is the precedence of the versions themselves exactly unless they differ in a
  pre-release only and the offered one is the higher.
-/
import HybridOperator.Lib.SemVer
import HybridOperator.Collector.UpgradeOffer

namespace HybridOperator.Collector

open HybridOperator.Lib

/-- The numbers fit into Go's `int`. -/
structure FitsInt (v : SemVer.Version) : Prop where
  major : v.major < 2 ^ 63
  minor : v.minor < 2 ^ 63
  patch : v.patch < 2 ^ 63

/-- Parsing the text of a version gives its three numbers. -/
theorem key_parseSemver_print {v : SemVer.Version} (h : FitsInt v) :
    (parseSemver v.print).key = v.core := by
  obtain ⟨rest, hrest, htext⟩ := v.toList_print
  have hmatch : findStringSubmatch v.print.toList = some (Nat.toDigits 10 v.major,
      Nat.toDigits 10 v.minor, Nat.toDigits 10 v.patch) := by
    rw [htext]
    exact findStringSubmatch_of_matchHere (matchHere_numbers _ _ _ hrest)
  have hparse : parseSemver v.print =
      ⟨⟨v.major, h.major⟩, ⟨v.minor, h.minor⟩, ⟨v.patch, h.patch⟩⟩ := by
    unfold parseSemver
    rw [hmatch]
    dsimp only
    rw [atoi_toDigits ⟨v.major, h.major⟩, atoi_toDigits ⟨v.minor, h.minor⟩,
      atoi_toDigits ⟨v.patch, h.patch⟩]
  rw [hparse]
  rfl

theorem isVersionGreater_print {target current : SemVer.Version} (ht : FitsInt target)
    (hc : FitsInt current) :
    isVersionGreater (parseSemver target.print) (parseSemver current.print) = true ↔
      current.release.Precedes target.release := by
  rw [isVersionGreater_iff, key_parseSemver_print ht, key_parseSemver_print hc,
    SemVer.Version.release_precedes_iff]

/-- The releases tell what the versions tell, unless only the pre-releases differ. -/
theorem release_iff_precedes_iff (v w : SemVer.Version) :
    (v.release.Precedes w.release ↔ v.Precedes w) ↔
      ¬ (v.core = w.core ∧ SemVer.preReleasePrecedes v.preRelease w.preRelease = true) := by
  rw [SemVer.Version.release_precedes_iff, SemVer.Version.Precedes]
  constructor
  · intro h hsame
    have hlt := h.mpr (Or.inr hsame)
    rw [hsame.1] at hlt
    exact lt_irrefl _ hlt
  · intro h
    exact (or_iff_left h).symm

/-- **`CanUpgrade` says that the release of the offered version has strictly higher precedence**
    than the release of the installed one. -/
theorem canUpgrade_release (sweep : Sweep) (resp : ClusterGovernanceResponse)
    (hresp : getClusterGovernance sweep = .ok resp) (i : Nat) (op : OperatorInfo)
    (hop : resp.operators[i]? = some op) (chMap : JMap)
    (hchannel : manifestChannel (sweep.scanning i) op = some chMap)
    (installed target : SemVer.Version) (hi : FitsInt installed) (ht : FitsInt target)
    (hinstalled : op.version = installed.print) (htarget : targetRawVer chMap = target.print) :
    (op.canUpgrade = true ↔ installed.release.Precedes target.release) ∧
      ((op.canUpgrade = true ↔ installed.Precedes target) ↔
        ¬ (installed.core = target.core ∧
          SemVer.preReleasePrecedes installed.preRelease target.preRelease = true)) := by
  have hoffered : offered sweep i op = some (parseSemver target.print) := by
    rw [offered, hchannel, Option.map_some, htarget]
  have hrelease : op.canUpgrade = true ↔ installed.release.Precedes target.release := by
    rw [canUpgrade_iff_offered hresp hop, hoffered, hinstalled]
    simp only [Option.some.injEq, exists_eq_left']
    exact isVersionGreater_print ht hi
  refine ⟨hrelease, ?_⟩
  rw [hrelease]
  exact release_iff_precedes_iff installed target

/-! ### A z-stream update -/

theorem preRelease_wf_date (date : Nat) :
    ∀ x ∈ [SemVer.Identifier.numeric date], x.WellFormed := by
  intro x hx
  rw [List.mem_singleton.mp hx]
  exact trivial

/-- `4.12.0-` and a build date. -/
def zStream (date : Nat) : SemVer.Version :=
  ⟨4, 12, 0, [.numeric date], [], preRelease_wf_date date, SemVer.Version.build_wf_nil⟩

theorem fitsInt_zStream (date : Nat) : FitsInt (zStream date) :=
  ⟨by show 4 < 2 ^ 63; decide, by show 12 < 2 ^ 63; decide, by show 0 < 2 ^ 63; decide⟩

def zStreamTarget : JMap :=
  [("name", .str "stable"), ("currentCSVDesc", .obj [("version", .str "4.12.0-202302061702")])]

/-- An operator is installed in one build of 4.12.0 and its channel offers a later one. -/
def zStreamObjects (gvr : GroupVersionResource) : List Unstructured :=
  if gvr = subscriptionGVR then
    [⟨[metadata "operators" "logging", ("spec", .obj [("channel", .str "stable")]),
      ("status", .obj [("installedCSV", .str "logging.v4.12.0")])]⟩]
  else if gvr = csvGVR then
    [⟨[metadata "operators" "logging.v4.12.0", ("status", .obj [("phase", .str "Succeeded")]),
      ("spec", .obj [("version", .str "4.12.0-202301042354")])]⟩]
  else if gvr = packageManifestGVR then
    [⟨[metadata "operators" "logging", ("status", .obj [("channels", .arr
      [.obj zStreamTarget])])]⟩]
  else []

def zStreamSweep : Sweep := .ofClient (snapshotClient zStreamObjects)

/-- The offered build has the higher precedence, and the operator is reported as up to date. -/
theorem zStream_not_reported :
    ∃ resp op, getClusterGovernance zStreamSweep = .ok resp ∧ resp.operators[0]? = some op ∧
      manifestChannel (zStreamSweep.scanning 0) op = some zStreamTarget ∧
      op.version = (zStream 202301042354).print ∧
      targetRawVer zStreamTarget = (zStream 202302061702).print ∧
      (zStream 202301042354).Precedes (zStream 202302061702) ∧ op.canUpgrade = false :=
  ⟨_, _, rfl, rfl, rfl, by decide, by decide, Or.inr ⟨rfl, by decide⟩, by decide⟩

theorem canUpgrade_release_zStream :
    ∃ resp op, getClusterGovernance zStreamSweep = .ok resp ∧ resp.operators[0]? = some op ∧
      (op.canUpgrade = true ↔
        (zStream 202301042354).release.Precedes (zStream 202302061702).release) ∧
      ((op.canUpgrade = true ↔ (zStream 202301042354).Precedes (zStream 202302061702)) ↔
        ¬ ((zStream 202301042354).core = (zStream 202302061702).core ∧
          SemVer.preReleasePrecedes (zStream 202301042354).preRelease
            (zStream 202302061702).preRelease = true)) :=
  ⟨_, _, rfl, rfl, canUpgrade_release zStreamSweep _ rfl 0 _ rfl zStreamTarget rfl
    (zStream 202301042354) (zStream 202302061702) (fitsInt_zStream _) (fitsInt_zStream _)
    (by decide) (by decide)⟩

end HybridOperator.Collector
