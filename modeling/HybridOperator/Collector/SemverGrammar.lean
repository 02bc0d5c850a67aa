/-
  The grammar of `parseSemver`: what it reads out of a text, said without the search.

  `SemverText` looks for the leftmost `digits.digits.digits` of the text, its last run of digits
  taken whole; each component is the number of its run, or the largest `int` when the number is
  larger. A text without such a place gives zeros.

  Proved: `parseSemver_grammar`, the parser meets the grammar, undoes the printing of versions,
  and so gives for a published target version the version that was compared.
-/
import HybridOperator.Collector.UpgradeOffer
import HybridOperator.Lib.TripleSearch

namespace HybridOperator.Collector

open HybridOperator.Lib HybridOperator.Lib.Regex HybridOperator.Lib.TripleSearch

/-- The largest `int`. -/
def maxInt : Nat := 2 ^ 63 - 1

/-- The number that a run of digits denotes. -/
def decimal (ds : List Char) : Nat := Nat.ofDigitChars 10 ds 0

/-- The version that the runs of digits denote, saturated. -/
structure Denotes (v : Semver) (major minor patch : List Char) : Prop where
  major_eq : v.major.val = min (decimal major) maxInt
  minor_eq : v.minor.val = min (decimal minor) maxInt
  patch_eq : v.patch.val = min (decimal patch) maxInt

/-- `\d+\.\d+\.\d+` in a text. -/
abbrev SemverAt := TripleAt Char.isDigit '.'

/-- The version of a text. -/
inductive SemverText (cs : List Char) (v : Semver) : Prop where
  | found (skipped major minor patch rest : List Char)
      (h : LeftmostTriple Char.isDigit '.' cs skipped major minor patch rest)
      (hv : Denotes v major minor patch)
  | missing (h : ∀ skipped major minor patch rest, ¬ SemverAt cs skipped major minor patch rest)
      (hv : v = ⟨0, 0, 0⟩)

/-! ## The search -/

theorem isSearch_findStringSubmatch : IsSearch matchHere findStringSubmatch :=
  ⟨rfl, fun _ _ => rfl⟩

theorem digits_eq_some {cs w t : List Char} :
    digits cs = some (w, t) ↔ cs = w ++ t ∧ IsWord Char.isDigit w ∧ Ends Char.isDigit t := by
  constructor
  · intro h
    obtain ⟨run, rest, rfl, hrun, hends⟩ := exists_run Char.isDigit cs
    have hstop : rest.takeWhile Char.isDigit = [] := by
      cases rest with
      | nil => rfl
      | cons c rest =>
        refine List.takeWhile_cons_of_neg ?_
        rw [hends c rfl]
        exact Bool.false_ne_true
    by_cases hne : run = []
    · rw [hne, List.nil_append, digits, hstop] at h
      cases h
    · rw [digits_append hne hrun hstop] at h
      obtain ⟨rfl, rfl⟩ := Prod.mk.inj (Option.some.inj h)
      exact ⟨rfl, ⟨hne, hrun⟩, hends⟩
  · rintro ⟨rfl, hword, hends⟩
    refine digits_append hword.ne_nil hword.all ?_
    cases t with
    | nil => rfl
    | cons c t =>
      refine List.takeWhile_cons_of_neg ?_
      rw [hends c rfl]
      exact Bool.false_ne_true

theorem dot_eq_some {cs t : List Char} : dot cs = some t ↔ cs = '.' :: t := by
  constructor
  · intro h
    unfold dot at h
    split at h
    · rw [Option.some.inj h]
    · cases h
  · rintro rfl
    rfl

/-- A match here is a triple here, its last run taken whole. -/
theorem reads_matchHere :
    ReadsTriple Char.isDigit '.' (fun major minor patch => (major, minor, patch)) matchHere := by
  intro cs g
  unfold matchHere
  simp only [Option.bind_eq_some_iff, Option.map_eq_some_iff, Prod.exists, digits_eq_some,
    dot_eq_some]
  constructor
  · rintro ⟨major, t, ⟨rfl, hmajor, -⟩, t', rfl, minor, u, ⟨rfl, hminor, -⟩, u', rfl, patch, rest,
      ⟨rfl, hpatch, hends⟩, rfl⟩
    exact ⟨major, minor, patch, rest, ⟨rfl, hmajor, hminor, hpatch⟩, hends, rfl⟩
  · rintro ⟨major, minor, patch, rest, htriple, hends, rfl⟩
    exact ⟨major, _, ⟨htriple.text, htriple.first, ends_cons rfl _⟩, _, rfl, minor, _,
      ⟨rfl, htriple.second, ends_cons rfl _⟩, _, rfl, patch, rest, ⟨rfl, htriple.third, hends⟩,
      rfl⟩

theorem findStringSubmatch_eq_some {cs major minor patch : List Char} :
    findStringSubmatch cs = some (major, minor, patch) ↔
      ∃ skipped rest, LeftmostTriple Char.isDigit '.' cs skipped major minor patch rest := by
  rw [isSearch_findStringSubmatch.eq_some_iff reads_matchHere]
  constructor
  · rintro ⟨skipped, a, b, c, rest, hleft, heq⟩
    obtain ⟨rfl, rfl, rfl⟩ : major = a ∧ minor = b ∧ patch = c := by simpa using heq
    exact ⟨skipped, rest, hleft⟩
  · rintro ⟨skipped, rest, hleft⟩
    exact ⟨skipped, major, minor, patch, rest, hleft, rfl⟩

theorem findStringSubmatch_eq_none {cs : List Char} :
    findStringSubmatch cs = none ↔
      ∀ skipped major minor patch rest, ¬ SemverAt cs skipped major minor patch rest :=
  isSearch_findStringSubmatch.eq_none_iff reads_matchHere cs

/-! ## The parser -/

theorem denotes_atoi (major minor patch : List Char) :
    Denotes ⟨atoi major, atoi minor, atoi patch⟩ major minor patch := ⟨rfl, rfl, rfl⟩

theorem Denotes.unique {v w : Semver} {major minor patch : List Char}
    (hv : Denotes v major minor patch) (hw : Denotes w major minor patch) : v = w := by
  cases v with
  | mk a b c =>
    cases w with
    | mk a' b' c' =>
      obtain rfl : a = a' := Fin.ext (hv.major_eq.trans hw.major_eq.symm)
      obtain rfl : b = b' := Fin.ext (hv.minor_eq.trans hw.minor_eq.symm)
      obtain rfl : c = c' := Fin.ext (hv.patch_eq.trans hw.patch_eq.symm)
      rfl

theorem parseSemver_eq_iff (s : String) (v : Semver) :
    parseSemver s = v ↔ SemverText s.toList v := by
  unfold parseSemver
  cases hfind : findStringSubmatch s.toList with
  | none =>
    have hnone := findStringSubmatch_eq_none.mp hfind
    constructor
    · intro hv
      exact .missing hnone hv.symm
    · intro h
      cases h with
      | found skipped a b c rest hleft => exact absurd hleft.toTripleAt (hnone skipped a b c rest)
      | missing _ hv => exact hv.symm
  | some groups =>
    obtain ⟨major, minor, patch⟩ := groups
    dsimp only
    obtain ⟨skipped, rest, hleft⟩ := findStringSubmatch_eq_some.mp hfind
    constructor
    · rintro rfl
      exact .found skipped major minor patch rest hleft (denotes_atoi major minor patch)
    · intro h
      cases h with
      | found skipped' a b c rest' hleft' hv =>
        have hfind' := findStringSubmatch_eq_some.mpr ⟨skipped', rest', hleft'⟩
        obtain ⟨rfl, rfl, rfl⟩ : major = a ∧ minor = b ∧ patch = c := by
          simpa using hfind.symm.trans hfind'
        exact (denotes_atoi major minor patch).unique hv
      | missing hnone _ => exact absurd hleft.toTripleAt (hnone _ _ _ _ _)

/-- **`parseSemver` meets its grammar** and inverts the printing of versions. -/
theorem parseSemver_grammar :
    (∀ (s : String) (v : Semver), parseSemver s = v ↔ SemverText s.toList v) ∧
    (∀ v : Semver, parseSemver (sprintfSemver v) = v) ∧
    ∀ (sweep : Sweep) (resp : ClusterGovernanceResponse),
      getClusterGovernance sweep = .ok resp → ∀ (i : Nat) (op : OperatorInfo),
        resp.operators[i]? = some op →
          parseSemver op.targetVersion = (offered sweep i op).getD (parseSemver op.version) :=
  ⟨parseSemver_eq_iff, parseSemver_sprintf, fun _ _ hresp _ _ hop =>
    parseSemver_targetVersion hresp hop⟩

/-- A version with a number too large for an `int`, and one that is published and parsed again. -/
theorem parseSemver_grammar_etcd :
    SemverText "etcd.v3.99999999999999999999.1.7".toList ⟨3, ⟨maxInt, by decide⟩, 1⟩ ∧
      ∃ resp op, getClusterGovernance etcdUpgradeSweep = .ok resp ∧
        resp.operators[0]? = some op ∧ offered etcdUpgradeSweep 0 op = some ⟨2, 0, 0⟩ ∧
        parseSemver op.targetVersion =
          (offered etcdUpgradeSweep 0 op).getD (parseSemver op.version) :=
  ⟨(parseSemver_grammar.1 _ _).mp (by decide), _, _, rfl, rfl, by decide,
    parseSemver_grammar.2.2 etcdUpgradeSweep _ rfl 0 _ rfl⟩

end HybridOperator.Collector
