/-
  One upgrade, classified three times: by the collector, by the brain's own inventory, and by
  `CatalogService`.

  All three look for the first component in which two versions differ (`rise`), and name it
  (`verdict`). They read the versions differently. The collector takes ASCII digits and stops
  counting at the largest `int`; the brain takes every decimal digit and counts on.

  Proved:
  * `sameClassification_of_readAlike`, for every pair of texts in which the collector and the
    brain find the same numbers, as in all texts with ASCII digits only: the classifications are
    the same exactly when saturation leaves the first difference visible, or hides one that is no
    upgrade behind no upgrade.
  * `differs_of_otherNumbers`: every other text is classified differently against some text.
-/
import HybridOperator.Brain.OLMCatalog
import HybridOperator.Collector.MissingVersion
import HybridOperator.Collector.SemverGrammar
import HybridOperator.Lib.FirstRise

namespace HybridOperator.Brain

open HybridOperator.Lib HybridOperator.Lib.Regex HybridOperator.Lib.TripleSearch
open HybridOperator.Collector

/-- The classification that goes with the first difference of two versions. -/
def verdict : Option Nat → Bool × String
  | none => (false, "NONE")
  | some 0 => (true, "MAJOR")
  | some 1 => (true, "MINOR")
  | some _ => (true, "PATCH")

def components (v : Version) : List Nat := [v.1, v.2.1, v.2.2]

/-- A version of the collector as a tuple. -/
def semverTuple (v : Semver) : Version := (v.major.val, v.minor.val, v.patch.val)

/-- The components as the collector reads them. -/
def goComponents (s : String) : List Nat := components (semverTuple (Collector.parseSemver s))

/-- The components as the brain reads them. -/
def pyComponents (s : String) : List Nat := components (parseSemver s)

/-! ## The verdict of a comparison -/

theorem rise_triple (a b c a' b' c' : Nat) :
    rise [a, b, c] [a', b', c'] =
      if a' ≠ a then if a' > a then some 0 else none
      else if b' ≠ b then if b' > b then some 1 else none
      else if c' > c then some 2 else none := by
  unfold rise rise rise rise
  split_ifs <;> first | rfl | omega

theorem classify_eq (target installed : Version) :
    classify target installed = verdict (rise (components installed) (components target)) := by
  unfold components classify tupleGreater
  rw [rise_triple]
  split_ifs <;> simp only [decide_eq_true_eq] at * <;> first | rfl | omega

theorem tupleGreater_semverTuple (target current : Semver) :
    tupleGreater (semverTuple target) (semverTuple current) = isVersionGreater target current := by
  unfold tupleGreater isVersionGreater semverTuple
  simp only [ne_eq, Fin.ext_iff, gt_iff_lt, Fin.lt_def]

/-- The collector's comparison and its upgrade type are the brain's classification. -/
theorem classify_semverTuple (target current : Semver) :
    classify (semverTuple target) (semverTuple current) =
      (isVersionGreater target current,
        (if isVersionGreater target current then upgradeTypeOf target current
          else .none).text) := by
  rw [classify, tupleGreater_semverTuple]
  cases hgreater : isVersionGreater target current with
  | false => rfl
  | true =>
    rw [if_pos rfl, if_pos rfl, upgradeTypeOf_of_greater hgreater]
    simp only [semverTuple, gt_iff_lt, Fin.lt_def]
    split_ifs <;> rfl

theorem length_components (v : Version) : (components v).length = 3 := rfl

/-- The verdict tells the component of the first difference. -/
theorem verdict_injective {v w v' w' : Version}
    (h : verdict (rise (components v) (components w)) =
      verdict (rise (components v') (components w'))) :
    rise (components v) (components w) = rise (components v') (components w') := by
  have hcases : ∀ v w : Version, rise (components v) (components w) = none ∨
      ∃ k : Fin 3, rise (components v) (components w) = some k.val := by
    intro v w
    cases hrise : rise (components v) (components w) with
    | none => exact Or.inl rfl
    | some k => exact Or.inr ⟨⟨k, length_components v ▸ rise_lt_length hrise⟩, rfl⟩
  have hsome : ∀ k : Fin 3, verdict (some k.val) ≠ verdict none := by decide
  have hinj : ∀ k l : Fin 3, verdict (some k.val) = verdict (some l.val) → k = l := by decide
  rcases hcases v w with hrise | ⟨k, hrise⟩
  · rcases hcases v' w' with hrise' | ⟨l, hrise'⟩
    · rw [hrise, hrise']
    · rw [hrise, hrise'] at h
      exact absurd h.symm (hsome l)
  · rcases hcases v' w' with hrise' | ⟨l, hrise'⟩
    · rw [hrise, hrise'] at h
      exact absurd h (hsome k)
    · rw [hrise, hrise'] at h ⊢
      rw [hinj k l h]

/-! ## The three classifications -/

/-- The collector publishes `outcome` for an operator whose installed version is read from
    `installed` and whose channel offers `target`. -/
def CollectorClassifies (installed target : String) (outcome : Bool × String) : Prop :=
  ∃ sweep resp i op sub chMap, getClusterGovernance sweep = .ok resp ∧
    resp.operators[i]? = some op ∧ (sweepSubs sweep)[i]? = some sub ∧
    installedText sweep sub = installed ∧
    manifestChannel (sweep.scanning i) op = some chMap ∧ targetRawVer chMap = target ∧
    outcome = (op.canUpgrade, op.upgradeType.text)

/-- The brain's inventory shows, at some time, `outcome` for a Subscription with the installed CSV
    `installed` and with `target` at the head of its channel. -/
def InventoryClassifies (installed target : String) (outcome : Bool × String) : Prop :=
  ∃ str apis i record, (discoveryRun str apis)[i]? = some record ∧
    ∃ api ∈ apis, ∃ item head, evaluateItem str api (item, i) = .ok record ∧
      versionStr str record.installedCSV = installed ∧
      findHead api i record.item = .ok (some head) ∧ versionStr str head.rawVersion = target ∧
      outcome = (record.canUpgrade, record.upgradeType)

/-- `evaluate_target` answers `outcome` about `installed` and the target version `target`. -/
def CatalogClassifies (installed target : String) (outcome : Bool × String) : Prop :=
  ∃ str oc pkg ns channel answer,
    CatalogService.evaluateTarget str oc pkg ns channel installed = .ok answer ∧
    answer.catalogStatus = "OK" ∧ versionStr str answer.targetVersion = target ∧
    outcome = (answer.canUpgrade, answer.upgradeType)

/-- Whatever the three say about an installed and a target version, they say the same. -/
def SameClassification (installed target : String) : Prop :=
  ∀ collector inventory catalog, CollectorClassifies installed target collector →
    InventoryClassifies installed target inventory →
    CatalogClassifies installed target catalog →
      collector = inventory ∧ inventory = catalog

theorem collectorClassifies_verdict {installed target : String} {outcome : Bool × String}
    (h : CollectorClassifies installed target outcome) :
    outcome = verdict (rise (goComponents installed) (goComponents target)) := by
  obtain ⟨sweep, resp, i, op, sub, chMap, hresp, hop, hsub, rfl, hch, rfl, rfl⟩ := h
  have hversion : Collector.parseSemver op.version =
      Collector.parseSemver (installedText sweep sub) := by
    rw [version_of_response hresp hop hsub, parseSemver_installedVersion]
  have htarget : Collector.parseSemver op.targetVersion =
      Collector.parseSemver (targetRawVer chMap) := by
    rw [parseSemver_targetVersion hresp hop, offered, hch]
    rfl
  have hconsistent := consistent_published hresp hop
  have hcan : op.canUpgrade = isVersionGreater (Collector.parseSemver (targetRawVer chMap))
      (Collector.parseSemver (installedText sweep sub)) := by
    rw [Bool.eq_iff_iff, hconsistent.canUpgrade_iff, htarget, hversion]
  rw [hconsistent.upgradeType_eq, hcan, htarget, hversion, ← classify_semverTuple, classify_eq]
  rfl

theorem inventoryClassifies_verdict {installed target : String} {outcome : Bool × String}
    (h : InventoryClassifies installed target outcome) :
    outcome = verdict (rise (pyComponents installed) (pyComponents target)) := by
  obtain ⟨str, _, i, record, -, api, -, item, head, hitem, rfl, hhead, rfl, rfl⟩ := h
  rw [upgrade_of_record hitem hhead, classify_eq]
  rfl

theorem catalogClassifies_verdict {installed target : String} {outcome : Bool × String}
    (h : CatalogClassifies installed target outcome) :
    outcome = verdict (rise (pyComponents installed) (pyComponents target)) := by
  obtain ⟨str, oc, pkg, ns, channel, answer, hanswer, hok, rfl, rfl⟩ := h
  rw [CatalogService.evaluateTarget_ok hanswer hok, classify_eq]
  rfl

/-- The inventory and `CatalogService` never disagree: both read as Python does. -/
theorem inventory_catalog_agree {installed target : String} {inventory catalog : Bool × String}
    (hinventory : InventoryClassifies installed target inventory)
    (hcatalog : CatalogClassifies installed target catalog) : inventory = catalog := by
  rw [inventoryClassifies_verdict hinventory, catalogClassifies_verdict hcatalog]

/-! ## Every pair is classified by all three -/

section Pair

variable (installed target : String)

/-- A Subscription to etcd, its installed CSV `installed`. -/
def pairSubscription : Unstructured :=
  ⟨[metadata "operators" "etcd",
    ("spec", .obj [("name", .str "etcd"), ("channel", .str "stable")]),
    ("status", .obj [("installedCSV", .str installed)])]⟩

/-- The channel `stable` with `target` at its head. -/
def pairChannel : JMap :=
  [("name", .str "stable"), ("currentCSVDesc", .obj [("version", .str target)])]

/-- The manifest of etcd. -/
def pairManifest : JMap :=
  [metadata "operators" "etcd", ("status", .obj [("channels", .arr [.obj (pairChannel target)])])]

def pairObjects (gvr : GroupVersionResource) : List Unstructured :=
  if gvr = subscriptionGVR then [pairSubscription installed]
  else if gvr = packageManifestGVR then [⟨pairManifest target⟩]
  else []

def pairSweep : Sweep := .ofClient (snapshotClient (pairObjects installed target))

theorem installedCSV_pair : installedCSV (pairSubscription installed) = installed := by
  have hstatus : (nestedString (pairSubscription installed).object ["status", "installedCSV"]).getD
      "" = installed := rfl
  have hspec : specString (pairSubscription installed) "startingCSV" = "" := rfl
  unfold installedCSV
  dsimp only
  rw [hstatus, hspec]
  split
  · rename_i h
    exact h.symm
  · rfl

theorem installedText_pair :
    installedText (pairSweep installed target) (pairSubscription installed) = installed := by
  have hentry : csvEntry (listedCSVs (pairSweep installed target)) (pairSubscription installed) =
      none := by
    unfold csvEntry csvRef
    dsimp only
    rw [if_neg fun h => AList.notMem_empty _ h.2]
    rfl
  have hversion : (installedOperator (listedCSVs (pairSweep installed target))
      (pairSubscription installed)).version = "" := by
    rw [installedOperator_version, hentry]
    rfl
  unfold installedText
  dsimp only
  rw [if_pos hversion, installedOperator_installedCSV, installedCSV_pair]

theorem targetRawVer_pair : targetRawVer (pairChannel target) = target := by
  have hraw : (nestedString (pairChannel target) ["currentCSVDesc", "version"]).getD "" = target :=
    rfl
  have hname : targetCSVName (pairChannel target) = "" := rfl
  unfold targetRawVer
  dsimp only
  rw [hraw, hname]
  split
  · rename_i h
    exact h.symm
  · rfl

theorem exists_collectorClassifies : ∃ outcome, CollectorClassifies installed target outcome := by
  have hresp : ∃ resp, getClusterGovernance (pairSweep installed target) = .ok resp :=
    ⟨_, rfl⟩
  obtain ⟨resp, hresp⟩ := hresp
  have hop : ∃ op, resp.operators[0]? = some op := by
    obtain rfl := Except.ok.inj hresp
    exact ⟨_, rfl⟩
  obtain ⟨op, hop⟩ := hop
  have hsub : (sweepSubs (pairSweep installed target))[0]? = some (pairSubscription installed) :=
    rfl
  obtain ⟨hns, hpackage, hchannel⟩ := subscription_fields hresp hop hsub
  have hch : manifestChannel ((pairSweep installed target).scanning 0) op =
      some (pairChannel target) := by
    rw [manifestChannel, hns, hpackage, hchannel]
    rfl
  exact ⟨_, pairSweep installed target, resp, 0, op, pairSubscription installed,
    pairChannel target, hresp, hop, hsub, installedText_pair installed target, hch,
    targetRawVer_pair target, rfl⟩

def pairApi : CustomObjectsApi where
  configLoaded := true
  subscriptions := .ok (.obj [("items", .arr [.obj (pairSubscription installed).object])])
  packageManifest _ _ _ := .ok (.obj (pairManifest target))

theorem exists_inventoryClassifies : ∃ outcome, InventoryClassifies installed target outcome := by
  have hraw : versionStr (fun _ => "")
      (if truthy (.str target) then .str target else .str "") = target := by
    by_cases h : target = ""
    · rw [h]
      rfl
    · rw [truthy, if_pos (decide_eq_true h)]
      rfl
  exact ⟨_, fun _ => "", [pairApi installed target], 0, _, rfl, pairApi installed target,
    List.mem_cons_self, .obj (pairSubscription installed).object,
    ⟨.str "", if truthy (.str target) then .str target else .str ""⟩, rfl, rfl, rfl, hraw, rfl⟩

def pairOc : Oc where
  run _ := some (0, "")
  loads _ := some (.obj (pairManifest target))

theorem exists_catalogClassifies : ∃ outcome, CatalogClassifies installed target outcome :=
  ⟨_, fun _ => "", pairOc target, "etcd", "operators", "stable", _, rfl, rfl, rfl, rfl⟩

end Pair

/-! ## The numbers in a text -/

/-- The numbers of the first version in a text whose digits are those of `cls`; zeros without a
    version. -/
inductive Numerals (cls : Char → Bool) (s : String) : List Nat → Prop where
  | found (skipped a b c rest : List Char)
      (h : LeftmostTriple cls '.' s.toList skipped a b c rest) :
      Numerals cls s [number a, number b, number c]
  | missing (h : ∀ skipped a b c rest, ¬ TripleAt cls '.' s.toList skipped a b c rest) :
      Numerals cls s [0, 0, 0]

theorem exists_numerals (cls : Char → Bool) (s : String) : ∃ ns, Numerals cls s ns := by
  by_cases hfound : ∃ skipped a b c rest, TripleAt cls '.' s.toList skipped a b c rest
  · obtain ⟨skipped, a, b, c, rest, htriple⟩ := hfound
    obtain ⟨skipped', a', b', c', rest', hleft⟩ := exists_leftmost htriple
    exact ⟨_, .found skipped' a' b' c' rest' hleft⟩
  · refine ⟨_, .missing fun skipped a b c rest htriple => ?_⟩
    exact hfound ⟨skipped, a, b, c, rest, htriple⟩

/-- A decimal digit outside ASCII, which the collector does not take, in the version that the
    brain finds. -/
def ForeignDigits (s : String) : Prop :=
  ∃ skipped a b c rest, LeftmostTriple isDecimalDigit '.' s.toList skipped a b c rest ∧
    ∃ d ∈ a ++ b ++ c, d.isDigit = false

theorem reads_semverPattern :
    ReadsTriple isDecimalDigit '.' tripleGroups (matchAt semverPattern) :=
  matchAt_triplePattern (by decide)

theorem pyComponents_of_numerals {s : String} {ns : List Nat} (h : Numerals isDecimalDigit s ns) :
    pyComponents s = ns := by
  unfold pyComponents parseSemver
  cases h with
  | found skipped a b c rest hleft =>
    have hsearch := ((isSearch_search semverPattern).eq_some_iff reads_semverPattern
      s.toList _).mpr ⟨skipped, a, b, c, rest, hleft, rfl⟩
    rw [hsearch]
    simp only [tripleGroups, String.toList_ofList, components]
  | missing hmissing =>
    have hsearch := ((isSearch_search semverPattern).eq_none_iff reads_semverPattern
      s.toList).mpr hmissing
    rw [hsearch]
    rfl

/-- What the collector makes of a component. -/
def saturate (n : Nat) : Nat := min n maxInt

theorem monotone_saturate : Monotone saturate := fun _ _ h => min_le_min_right maxInt h

theorem goComponents_of_numerals {s : String} {ns : List Nat} (h : Numerals Char.isDigit s ns) :
    goComponents s = ns.map saturate := by
  unfold goComponents
  cases h with
  | found skipped a b c rest hleft =>
    have hgo := (parseSemver_eq_iff s _).mpr
      (.found skipped a b c rest hleft (denotes_atoi a b c))
    rw [hgo, number_of_ascii hleft.first.all, number_of_ascii hleft.second.all,
      number_of_ascii hleft.third.all]
    rfl
  | missing hmissing =>
    have hgo := (parseSemver_eq_iff s ⟨0, 0, 0⟩).mpr (.missing hmissing rfl)
    rw [hgo]
    rfl

/-- With ASCII digits only, the collector finds the same place. -/
theorem leftmost_of_ascii {cs skipped a b c rest : List Char}
    (h : LeftmostTriple isDecimalDigit '.' cs skipped a b c rest)
    (hascii : ∀ d ∈ a ++ b ++ c, d.isDigit = true) :
    LeftmostTriple Char.isDigit '.' cs skipped a b c rest := by
  refine ⟨⟨h.text, ⟨h.first.ne_nil, fun d hd => hascii d ?_⟩,
    ⟨h.second.ne_nil, fun d hd => hascii d ?_⟩, ⟨h.third.ne_nil, fun d hd => hascii d ?_⟩⟩,
    fun d hd => ?_, fun skipped' a' b' c' rest' htriple => ?_⟩
  · exact List.mem_append_left _ (List.mem_append_left _ hd)
  · exact List.mem_append_left _ (List.mem_append_right _ hd)
  · exact List.mem_append_right _ hd
  · refine Bool.eq_false_iff.mpr fun hdigit => ?_
    have hno := h.greedy d hd
    rw [isDecimalDigit_of_isDigit hdigit] at hno
    cases hno
  · exact h.leftmost _ _ _ _ _ (htriple.mono fun _ => isDecimalDigit_of_isDigit)

/-- Without foreign digits, the numbers are those of the ASCII digits. -/
theorem numerals_of_ascii {s : String} {ns : List Nat} (hascii : ¬ ForeignDigits s)
    (h : Numerals isDecimalDigit s ns) : Numerals Char.isDigit s ns := by
  cases h with
  | found skipped a b c rest hleft =>
    refine .found skipped a b c rest (leftmost_of_ascii hleft fun d hd => ?_)
    by_contra hno
    exact hascii ⟨skipped, a, b, c, rest, hleft, d, hd, Bool.eq_false_iff.mpr hno⟩
  | missing hmissing =>
    refine .missing fun skipped a b c rest htriple => ?_
    exact hmissing skipped a b c rest (htriple.mono fun _ => isDecimalDigit_of_isDigit)

/-- ARABIC-INDIC DIGIT TWO is a digit for the brain only. -/
example : pyComponents "\u0662.0.0" = [2, 0, 0] ∧ goComponents "\u0662.0.0" = [0, 0, 0] := by
  decide

/-! ## Agreement -/

/-- The first version of ASCII digits in the text and the first one of any decimal digits have the
    same numbers, as far as the collector can count. -/
def SameNumbers (s : String) : Prop :=
  ∀ us xs, Numerals Char.isDigit s us → Numerals isDecimalDigit s xs →
    us.map saturate = xs.map saturate

/-- Both texts have the same numbers for the collector and for the brain, and saturation leaves
    the first difference of the two versions as it is. -/
structure ReadAlike (installed target : String) : Prop where
  installedSame : SameNumbers installed
  targetSame : SameNumbers target
  kept : ∀ xs ys, Numerals isDecimalDigit installed xs → Numerals isDecimalDigit target ys →
    Kept saturate xs ys

theorem sameNumbers_iff {s : String} :
    SameNumbers s ↔ goComponents s = (pyComponents s).map saturate := by
  obtain ⟨us, hus⟩ := exists_numerals Char.isDigit s
  obtain ⟨xs, hxs⟩ := exists_numerals isDecimalDigit s
  rw [goComponents_of_numerals hus, pyComponents_of_numerals hxs]
  constructor
  · exact fun h => h us xs hus hxs
  · intro h us' xs' hus' hxs'
    rw [← goComponents_of_numerals hus', ← pyComponents_of_numerals hxs',
      goComponents_of_numerals hus, pyComponents_of_numerals hxs, h]

/-- Where the brain finds ASCII digits only, the numbers are the same. -/
theorem sameNumbers_of_ascii {s : String} (h : ¬ ForeignDigits s) : SameNumbers s := by
  intro us xs hus hxs
  rw [← goComponents_of_numerals hus, goComponents_of_numerals (numerals_of_ascii h hxs)]

/-- With the same numbers in both texts, the first differences are in one place exactly when
    saturation keeps it. -/
theorem rise_eq_iff {installed target : String} (hi : SameNumbers installed)
    (ht : SameNumbers target) :
    rise (goComponents installed) (goComponents target) =
        rise (pyComponents installed) (pyComponents target) ↔
      ReadAlike installed target := by
  rw [sameNumbers_iff.mp hi, sameNumbers_iff.mp ht, rise_map_iff monotone_saturate]
  constructor
  · intro h
    refine ⟨hi, ht, fun xs ys hxs hys => ?_⟩
    rw [← pyComponents_of_numerals hxs, ← pyComponents_of_numerals hys]
    exact h
  · intro h
    obtain ⟨xs, hxs⟩ := exists_numerals isDecimalDigit installed
    obtain ⟨ys, hys⟩ := exists_numerals isDecimalDigit target
    rw [pyComponents_of_numerals hxs, pyComponents_of_numerals hys]
    exact h.kept xs ys hxs hys

/-- The three say the same exactly when the two readings rise at one component. -/
theorem sameClassification_iff_rise (installed target : String) :
    SameClassification installed target ↔
      rise (goComponents installed) (goComponents target) =
        rise (pyComponents installed) (pyComponents target) := by
  constructor
  · intro h
    obtain ⟨go, hgo⟩ := exists_collectorClassifies installed target
    obtain ⟨inventory, hinventory⟩ := exists_inventoryClassifies installed target
    obtain ⟨catalog, hcatalog⟩ := exists_catalogClassifies installed target
    have hsame := (h go inventory catalog hgo hinventory hcatalog).1
    rw [collectorClassifies_verdict hgo, inventoryClassifies_verdict hinventory] at hsame
    exact verdict_injective hsame
  · intro h go inventory catalog hgo hinventory hcatalog
    refine ⟨?_, inventory_catalog_agree hinventory hcatalog⟩
    rw [collectorClassifies_verdict hgo, inventoryClassifies_verdict hinventory, h]

/-- Texts that read alike are classified alike, and of the texts with the same numbers for both
    no others are. -/
theorem sameClassification_of_readAlike (installed target : String) :
    (ReadAlike installed target → SameClassification installed target) ∧
      (SameNumbers installed → SameNumbers target →
        SameClassification installed target → ReadAlike installed target) := by
  rw [sameClassification_iff_rise]
  exact ⟨fun h => (rise_eq_iff h.installedSame h.targetSame).mpr h,
    fun hi ht => (rise_eq_iff hi ht).mp⟩

/-- A zero outside ASCII in front of a component changes no number. -/
theorem sameClassification_of_readAlike_zero : SameClassification "\u06601.2.3" "1.3.0" :=
  (sameClassification_of_readAlike "\u06601.2.3" "1.3.0").1
    ((rise_eq_iff (sameNumbers_iff.mpr (by decide)) (sameNumbers_iff.mpr (by decide))).mp
      (by decide))

/-! ### Other numbers -/

/-- The numbers of a printed version. -/
theorem numerals_sprintf (v : Semver) :
    Numerals isDecimalDigit (sprintfSemver v) (components (semverTuple v)) := by
  have hdigits : ∀ n : Fin (2 ^ 63), IsWord isDecimalDigit (Nat.toDigits 10 n.val) :=
    fun n => ⟨Nat.toDigits_ne_nil, fun c hc => isDecimalDigit_of_isDigit (isDigit_toDigits _ c hc)⟩
  have hnumber : ∀ n : Fin (2 ^ 63), number (Nat.toDigits 10 n.val) = n.val := by
    intro n
    rw [number_of_ascii (isDigit_toDigits n.val), Nat.ofDigitChars_ten_toDigits]
  have hleft : LeftmostTriple isDecimalDigit '.' (sprintfSemver v).toList []
      (Nat.toDigits 10 v.major.val) (Nat.toDigits 10 v.minor.val) (Nat.toDigits 10 v.patch.val)
      [] := by
    refine ⟨⟨?_, hdigits _, hdigits _, hdigits _⟩, fun c hc => ?_, fun _ _ _ _ _ _ => Nat.zero_le _⟩
    · rw [toList_sprintfSemver, List.nil_append, List.append_nil]
    · cases hc
  have h := Numerals.found [] _ _ _ [] hleft
  rw [hnumber, hnumber, hnumber] at h
  exact h

/-- A version is not above another one and below it. -/
theorem eq_of_not_rise {v w : Version} (h : rise (components v) (components w) = none)
    (h' : rise (components w) (components v) = none) : v = w := by
  obtain ⟨a, b, c⟩ := v
  obtain ⟨a', b', c'⟩ := w
  simp only [components, rise_triple] at h h'
  have ha : a = a' := by
    by_contra hne
    split_ifs at h h' <;> omega
  subst ha
  have hb : b = b' := by
    by_contra hne
    split_ifs at h h' <;> omega
  subst hb
  have hc : c = c' := by
    by_contra hne
    split_ifs at h h' <;> omega
  rw [hc]

/-- A text with other numbers for the collector has another text with which it is classified
    differently, as the installed or as the target version: what the collector reads in it. -/
theorem differs_of_otherNumbers {s : String} (h : ¬ SameNumbers s) :
    ∃ t, ¬ SameClassification s t ∨ ¬ SameClassification t s := by
  refine ⟨sprintfSemver (Collector.parseSemver s), ?_⟩
  have hgo : goComponents (sprintfSemver (Collector.parseSemver s)) = goComponents s := by
    unfold goComponents
    rw [parseSemver_sprintf]
  have hpy : pyComponents (sprintfSemver (Collector.parseSemver s)) = goComponents s :=
    pyComponents_of_numerals (numerals_sprintf _)
  have hself : rise (goComponents s) (goComponents s) = none := by
    unfold goComponents components
    rw [rise_triple]
    simp
  rw [sameClassification_iff_rise, sameClassification_iff_rise, hgo, hpy, hself]
  by_contra hno
  obtain ⟨hup, hdown⟩ := not_or.mp hno
  have heq := eq_of_not_rise (v := parseSemver s) (w := semverTuple (Collector.parseSemver s))
    (not_not.mp hup).symm (not_not.mp hdown).symm
  refine h fun us xs hus hxs => ?_
  have hreads : xs = us.map saturate := by
    rw [← pyComponents_of_numerals hxs, ← goComponents_of_numerals hus]
    exact congrArg components heq
  rw [hreads, List.map_map]
  refine List.map_congr_left fun n _ => ?_
  show min n maxInt = min (min n maxInt) maxInt
  rw [min_assoc, min_self]

/-- From the largest `int` to the number after it, a major upgrade that the collector does not
    see. -/
theorem saturated_differs :
    ¬ SameClassification "9223372036854775807.0.0" "9223372036854775808.0.0" := by
  intro h
  obtain ⟨go, hgo⟩ := exists_collectorClassifies "9223372036854775807.0.0" "9223372036854775808.0.0"
  obtain ⟨inventory, hinventory⟩ :=
    exists_inventoryClassifies "9223372036854775807.0.0" "9223372036854775808.0.0"
  obtain ⟨catalog, hcatalog⟩ :=
    exists_catalogClassifies "9223372036854775807.0.0" "9223372036854775808.0.0"
  have hsame := (h go inventory catalog hgo hinventory hcatalog).1
  rw [collectorClassifies_verdict hgo, inventoryClassifies_verdict hinventory] at hsame
  revert hsame
  decide +kernel

end HybridOperator.Brain
