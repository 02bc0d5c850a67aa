/-
  `CatalogService` of olm_catalog.py: the head of a channel, read from the PackageManifest that
  the `oc` command prints, and the upgrade it is for an installed version.

  `subprocess.run` and `json.loads` are the parameter `Oc`. `parse_semver` and the classification
  are written as in app.py.

  Proved: `evaluateTarget_ok`, an answer with the status `OK` is classified by the target version
  that it shows and the installed version that it was asked for.
-/
import HybridOperator.Brain.OLMInventory

namespace HybridOperator.Brain

open HybridOperator.Lib

/-- What the code uses of its surroundings. -/
structure Oc where
  /-- `subprocess.run`: the return code and the standard output; `none` when it raises -/
  run : List String → Option (Int × String)
  /-- `json.loads`; `none` when it raises -/
  loads : String → Option Json

/-- The answer of `evaluate_target`. -/
structure Evaluation where
  targetVersion : Json
  /-- `target_csv`, which only an answer about a channel's head has -/
  targetCSV : Option Json
  canUpgrade : Bool
  upgradeType : String
  catalogStatus : String

namespace CatalogService

/-- `parse_semver` of the service. -/
def parseSemver (versionStr : String) : Version := Brain.parseSemver versionStr

section Catalog

variable (str : Json → String) (oc : Oc)

def getPackageManifest (pkgName nameSpace : String) : Option Json :=
  match oc.run ["oc", "get", "packagemanifest", pkgName, "-n", nameSpace, "-o", "json"] with
  | none => none
  | some (returncode, stdout) => if returncode = 0 then oc.loads stdout else none

/-- An answer without a head. -/
def notFound (installedVersion status : String) : Evaluation :=
  ⟨.str installedVersion, none, false, "UNKNOWN", status⟩

/-- The answer about the head `csvDesc` of a channel. -/
def headEvaluation (installedVersion : String) (csvDesc : Json) : Except PyException Evaluation :=
  (dictGet csvDesc "version" (.str installedVersion)).bind fun targetVersion =>
    let upgrade := classify (parseSemver (versionStr str targetVersion))
      (parseSemver installedVersion)
    (dictGet csvDesc "name" (.str "")).map fun targetCSV =>
      ⟨targetVersion, some targetCSV, upgrade.1, upgrade.2, "OK"⟩

def evaluateTarget (pkg ns channel installedVersion : String) : Except PyException Evaluation :=
  match (getPackageManifest oc pkg ns).filter truthy with
  | none => .ok (notFound installedVersion "MANIFEST_NOT_FOUND")
  | some manifest =>
      (targetChannel manifest (.str channel)).bind fun
        | none => .ok (notFound installedVersion "CHANNEL_NOT_FOUND")
        | some targetCh =>
            (dictGet targetCh "currentCSVDesc" (.obj [])).bind
              (headEvaluation str installedVersion)

variable {str} {oc}

theorem evaluateTarget_ok {pkg ns channel installedVersion : String} {answer : Evaluation}
    (h : evaluateTarget str oc pkg ns channel installedVersion = .ok answer)
    (hok : answer.catalogStatus = "OK") :
    (answer.canUpgrade, answer.upgradeType) =
      classify (Brain.parseSemver (versionStr str answer.targetVersion))
        (Brain.parseSemver installedVersion) := by
  have hstatus : ∀ status, status ≠ "OK" →
      (.ok (notFound installedVersion status) : Except PyException Evaluation) ≠ .ok answer := by
    intro status hne heq
    rw [← Except.ok.inj heq] at hok
    exact hne hok
  unfold evaluateTarget at h
  split at h
  · exact absurd h (hstatus _ (by decide))
  · obtain ⟨found, -, h⟩ := bind_eq_ok.mp h
    cases found with
    | none => exact absurd h (hstatus _ (by decide))
    | some targetCh =>
      obtain ⟨csvDesc, -, h⟩ := bind_eq_ok.mp h
      obtain ⟨targetVersion, -, h⟩ := bind_eq_ok.mp h
      obtain ⟨targetCSV, -, rfl⟩ := map_eq_ok.mp h
      rfl

end Catalog

end CatalogService

end HybridOperator.Brain
