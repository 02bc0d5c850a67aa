/-
  Anomaly detection is local to a namespace.

  Every anomaly has the namespace of the resource that adds it, so the anomalies of a namespace
  come from the resources of that namespace. What a resource adds is its own business, but for
  the zombie check of a CSV, which asks whether some key `namespace/name` of a Subscription
  starts with `ns/`. Namespaces have no slash in them, so the slash of the prefix is the slash of
  the key, and the answer is whether a Subscription has that very namespace: `a` is not mistaken
  for `ab`.

  Proved: `anomalies_local`: the anomalies of a namespace are those of the four lists restricted
  to it, in order, so lists that agree on a namespace have the same anomalies in it.
-/
import HybridOperator.Collector.Anomalies

namespace HybridOperator.Collector

open HybridOperator.Lib

/-! ## The zombie check -/

theorem mem_subMap {subs : List Unstructured} {k : String} :
    k ∈ subMap subs ↔ ∃ sub ∈ subs, sub.getNamespace ++ "/" ++ sub.getName = k := by
  unfold subMap
  induction subs using List.reverseRecOn with
  | nil => simp
  | append_singleton subs sub ih =>
    rw [List.foldl_append, List.foldl_cons, List.foldl_nil, AList.mem_insert, ih]
    constructor
    · rintro (rfl | ⟨other, hother, hk⟩)
      · exact ⟨sub, by simp, rfl⟩
      · exact ⟨other, List.mem_append_left _ hother, hk⟩
    · rintro ⟨other, hother, hk⟩
      rcases List.mem_append.mp hother with hold | hnew
      · exact Or.inr ⟨other, hold, hk⟩
      · rw [List.mem_singleton.mp hnew] at hk
        exact Or.inl hk.symm

/-- The slash of a prefix `ns/` is the slash of the key. -/
theorem hasPrefix_key_iff {ns ns' name : String} (hns : '/' ∉ ns.toList)
    (hns' : '/' ∉ ns'.toList) :
    GoStrings.hasPrefix (ns' ++ "/" ++ name) (ns ++ "/") = true ↔ ns' = ns := by
  have hslash : "/".toList = ['/'] := by decide
  unfold GoStrings.hasPrefix
  simp only [String.toList_append, hslash, List.isPrefixOf_iff_prefix, List.append_assoc]
  constructor
  · rintro ⟨rest, hrest⟩
    have hkeys := congrArg (List.takeWhile (· ≠ '/')) hrest
    rw [List.append_assoc] at hkeys
    have heq := (GoStrings.takeWhile_ne_append_cons hns rest).symm.trans
      (hkeys.trans (GoStrings.takeWhile_ne_append_cons hns' _))
    exact (String.toList_inj.mp heq).symm
  · rintro rfl
    exact ⟨name.toList, by rw [List.append_assoc]⟩

/-- The check asks whether the key of some Subscription starts with `ns/`. -/
theorem hasParentSub_iff_key {subs : List Unstructured} {ns : String} :
    hasParentSub (subMap subs) ns = true ↔ ∃ sub ∈ subs,
      GoStrings.hasPrefix (sub.getNamespace ++ "/" ++ sub.getName) (ns ++ "/") = true := by
  unfold hasParentSub
  rw [List.any_eq_true]
  constructor
  · rintro ⟨k, hk, hprefix⟩
    obtain ⟨sub, hsub, rfl⟩ := mem_subMap.mp (AList.mem_keys.mpr hk)
    exact ⟨sub, hsub, hprefix⟩
  · rintro ⟨sub, hsub, hprefix⟩
    exact ⟨_, AList.mem_keys.mp (mem_subMap.mpr ⟨sub, hsub, rfl⟩), hprefix⟩

/-- A namespace has a parent Subscription when a Subscription is in it. -/
theorem hasParentSub_iff {subs : List Unstructured} {ns : String} (hns : '/' ∉ ns.toList)
    (hsubs : ∀ sub ∈ subs, '/' ∉ sub.getNamespace.toList) :
    hasParentSub (subMap subs) ns = true ↔ ∃ sub ∈ subs, sub.getNamespace = ns := by
  rw [hasParentSub_iff_key]
  exact exists_congr fun sub => and_congr_right fun hsub => hasPrefix_key_iff hns (hsubs sub hsub)

/-! ## Restriction to a namespace -/

def inNamespace (n : String) (us : List Unstructured) : List Unstructured :=
  us.filter fun u => u.getNamespace = n

/-- A list as it is when only the resources of one namespace are there. -/
def restrict (n : String) (us : Option (List Unstructured)) : Option (List Unstructured) :=
  us.map (inNamespace n)

def anomaliesIn (n : String) (anomalies : List AnomalyInfo) : List AnomalyInfo :=
  anomalies.filter fun a => a.nameSpace = n

theorem getD_restrict (n : String) (us : Option (List Unstructured)) :
    (restrict n us).getD [] = inNamespace n (us.getD []) := by
  cases us with
  | none => rfl
  | some us => rfl

/-- The anomalies in a namespace are those that its resources add. -/
theorem anomaliesIn_flatMap {f : Unstructured → List AnomalyInfo}
    (hf : ∀ u a, a ∈ f u → Names a u) (n : String) (us : List Unstructured) :
    anomaliesIn n (us.flatMap f) = (inNamespace n us).flatMap f := by
  unfold anomaliesIn inNamespace
  induction us with
  | nil => rfl
  | cons u us ih =>
    rw [List.flatMap_cons, List.filter_append, ih]
    by_cases hu : u.getNamespace = n
    · have hall : (f u).filter (fun a => a.nameSpace = n) = f u := by
        refine List.filter_eq_self.mpr fun a ha => ?_
        rw [decide_eq_true_eq, (hf u a ha).2, hu]
      rw [hall, List.filter_cons_of_pos (by simpa using hu), List.flatMap_cons]
    · have hnone : (f u).filter (fun a => a.nameSpace = n) = [] := by
        refine List.filter_eq_nil_iff.mpr fun a ha => ?_
        rw [decide_eq_true_eq, (hf u a ha).2]
        exact hu
      rw [hnone, List.nil_append, List.filter_cons_of_neg (by simpa using hu)]

/-- A CSV of the namespace is checked against the Subscriptions of the namespace alone. -/
theorem csvAnomalies_restrict {subs : List Unstructured} {n : String} (hn : '/' ∉ n.toList)
    (hsubs : ∀ sub ∈ subs, '/' ∉ sub.getNamespace.toList) {csv : Unstructured}
    (hcsv : csv.getNamespace = n) :
    csvAnomalies (subMap subs) csv = csvAnomalies (subMap (inNamespace n subs)) csv := by
  have hsubs' : ∀ sub ∈ inNamespace n subs, '/' ∉ sub.getNamespace.toList :=
    fun sub hsub => hsubs sub (List.mem_of_mem_filter hsub)
  have hparent : hasParentSub (subMap subs) n = hasParentSub (subMap (inNamespace n subs)) n := by
    rw [Bool.eq_iff_iff, hasParentSub_iff hn hsubs, hasParentSub_iff hn hsubs']
    unfold inNamespace
    simp only [List.mem_filter, decide_eq_true_eq]
    exact exists_congr fun sub => ⟨fun h => ⟨⟨h.1, h.2⟩, h.2⟩, fun h => ⟨h.1.1, h.2⟩⟩
  unfold csvAnomalies zombieCSV
  dsimp only
  rw [hcsv, hparent]

/-- Namespace names have no slash, in any of the Subscriptions. -/
def SlashFree (us : Option (List Unstructured)) : Prop :=
  ∀ u ∈ us.getD [], '/' ∉ u.getNamespace.toList

instance (us : Option (List Unstructured)) : Decidable (SlashFree us) :=
  inferInstanceAs (Decidable (∀ u ∈ us.getD [], '/' ∉ u.getNamespace.toList))

theorem anomaliesIn_detectAnomalies {subs : Option (List Unstructured)} {n : String}
    (hn : '/' ∉ n.toList) (hsubs : SlashFree subs)
    (ips csvs catsrcs : Option (List Unstructured)) :
    anomaliesIn n (detectAnomalies subs ips csvs catsrcs) =
      detectAnomalies (restrict n subs) (restrict n ips) (restrict n csvs)
        (restrict n catsrcs) := by
  have hcsvs : (inNamespace n (csvs.getD [])).flatMap (csvAnomalies (subMap (subs.getD []))) =
      (inNamespace n (csvs.getD [])).flatMap
        (csvAnomalies (subMap (inNamespace n (subs.getD [])))) := by
    refine List.flatMap_congr fun csv hcsv => ?_
    exact csvAnomalies_restrict hn hsubs (of_decide_eq_true (List.mem_filter.mp hcsv).2)
  unfold detectAnomalies
  rw [getD_restrict, getD_restrict, getD_restrict, getD_restrict, ← hcsvs,
    ← anomaliesIn_flatMap (fun _ _ => names_of_mem_resolutionFailures),
    ← anomaliesIn_flatMap (fun _ _ => names_of_mem_planConflicts),
    ← anomaliesIn_flatMap (fun _ _ => names_of_mem_csvAnomalies),
    ← anomaliesIn_flatMap (fun _ _ => names_of_mem_catalogFailures)]
  simp only [anomaliesIn, List.filter_append]

/-- The anomalies of a namespace are those of its own resources, and they are the same in every
    cluster that has the same resources in it. -/
theorem anomalies_local (subs ips csvs catsrcs : Option (List Unstructured)) (n : String)
    (hn : '/' ∉ n.toList) (hsubs : SlashFree subs) :
    anomaliesIn n (detectAnomalies subs ips csvs catsrcs) =
        detectAnomalies (restrict n subs) (restrict n ips) (restrict n csvs)
          (restrict n catsrcs) ∧
      ∀ subs' ips' csvs' catsrcs', SlashFree subs' → restrict n subs' = restrict n subs →
        restrict n ips' = restrict n ips → restrict n csvs' = restrict n csvs →
        restrict n catsrcs' = restrict n catsrcs →
        anomaliesIn n (detectAnomalies subs' ips' csvs' catsrcs') =
          anomaliesIn n (detectAnomalies subs ips csvs catsrcs) := by
  have hlocal := anomaliesIn_detectAnomalies hn hsubs ips csvs catsrcs
  refine ⟨hlocal, fun subs' ips' csvs' catsrcs' hsubs' h₁ h₂ h₃ h₄ => ?_⟩
  rw [anomaliesIn_detectAnomalies hn hsubs', hlocal, h₁, h₂, h₃, h₄]

/-- A CSV in `team` and its Subscription in `team-b`, whose name starts with that of `team`: the
    CSV is a zombie of `team`, as it is without the other namespace. -/
theorem anomalies_local_team :
    let subs := some [⟨[metadata "team-b" "etcd"]⟩]
    let csvs := some [⟨[metadata "team" "etcd.v1.2.0"]⟩, ⟨[metadata "team-b" "etcd.v1.2.0"]⟩]
    let alone := detectAnomalies (some []) none (some [⟨[metadata "team" "etcd.v1.2.0"]⟩]) none
    anomaliesIn "team" (detectAnomalies subs none csvs none) = alone ∧
      alone.map (·.type) = ["Zombie CSV"] ∧
      anomaliesIn "team" (detectAnomalies (some []) none csvs none) = alone := by
  intro subs csvs alone
  obtain ⟨hlocal, hsame⟩ := anomalies_local subs none csvs none "team" (by decide) (by decide)
  have halone : anomaliesIn "team" (detectAnomalies subs none csvs none) = alone := hlocal
  have hother : anomaliesIn "team" (detectAnomalies (some []) none csvs none) =
      anomaliesIn "team" (detectAnomalies subs none csvs none) :=
    hsame (some []) none csvs none (by decide) rfl rfl rfl rfl
  exact ⟨halone, by decide, hother.trans halone⟩

end HybridOperator.Collector
