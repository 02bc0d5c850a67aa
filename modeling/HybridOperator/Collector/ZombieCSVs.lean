/-
  The zombie check against the parent relation it stands for.

  The parent of a CSV is the Subscription of its namespace that has it as `status.installedCSV`.
  `DetectAnomalies` does not look at that field: any Subscription whose key starts with `ns/`
  counts as the parent of every CSV of `ns`. So a CSV with a parent is never reported
  (`not_reported_of_parent`), and the check is exact if and only if every CSV outside `openshift-*`
  whose namespace has some Subscription has a parent (`zombie_exact_iff`).
-/
import HybridOperator.Collector.AnomalyLocality

namespace HybridOperator.Collector

open HybridOperator.Lib

/-- The namespace is not one of OpenShift's own. -/
def OutsideOpenshift (csv : Unstructured) : Prop :=
  GoStrings.hasPrefix csv.getNamespace "openshift-" = false

/-- The Subscription has the CSV of its namespace as its installed one. -/
def ParentOf (sub csv : Unstructured) : Prop :=
  sub.getNamespace = csv.getNamespace ∧
    nestedString sub.object ["status", "installedCSV"] = some csv.getName

/-- The key of the Subscription starts with the namespace of the CSV and a slash. -/
def KeyMatches (sub csv : Unstructured) : Prop :=
  GoStrings.hasPrefix (sub.getNamespace ++ "/" ++ sub.getName) (csv.getNamespace ++ "/") = true

/-- The CSV is listed for purge. -/
def ReportedZombie (anomalies : List AnomalyInfo) (csv : Unstructured) : Prop :=
  ∃ a ∈ anomalies, a.type = "Zombie CSV" ∧ Names a csv

section Lists

variable {subs ips csvs catsrcs : Option (List Unstructured)} {csv : Unstructured}

theorem keyMatches_of_parentOf {sub : Unstructured} (h : ParentOf sub csv) :
    KeyMatches sub csv := by
  unfold KeyMatches GoStrings.hasPrefix
  rw [h.1, List.isPrefixOf_iff_prefix]
  exact ⟨sub.getName.toList, String.toList_append.symm⟩

/-- What the check adds for a CSV. -/
theorem mem_zombieCSV {subs : GoMap String Bool} {a : AnomalyInfo} (h : a ∈ zombieCSV subs csv) :
    Names a csv ∧ OutsideOpenshift csv ∧ hasParentSub subs csv.getNamespace = false := by
  unfold zombieCSV at h
  dsimp only at h
  split at h
  · rename_i hcond
    rw [List.mem_singleton.mp h]
    exact ⟨⟨rfl, rfl⟩, hcond.2.2⟩
  · cases h

theorem zombieCSV_of_outside {subs : GoMap String Bool} (hout : OutsideOpenshift csv)
    (h : hasParentSub subs csv.getNamespace = false) :
    ∃ a ∈ zombieCSV subs csv, a.type = "Zombie CSV" ∧ Names a csv := by
  have hne : ∀ ns, GoStrings.hasPrefix ns "openshift-" = true → csv.getNamespace ≠ ns := by
    intro ns hns heq
    rw [OutsideOpenshift, heq, hns] at hout
    cases hout
  unfold zombieCSV
  rw [if_pos ⟨hne _ (by decide), hne _ (by decide), hout, h⟩]
  exact ⟨_, List.mem_singleton_self _, rfl, rfl, rfl⟩

/-- A listed CSV outside `openshift-*` is reported when no key of a Subscription matches. -/
theorem reportedZombie_iff (hcsv : csv ∈ csvs.getD []) (hout : OutsideOpenshift csv) :
    ReportedZombie (detectAnomalies subs ips csvs catsrcs) csv ↔
      ¬ ∃ sub ∈ subs.getD [], KeyMatches sub csv := by
  have hkey : (∃ sub ∈ subs.getD [], KeyMatches sub csv) ↔
      hasParentSub (subMap (subs.getD [])) csv.getNamespace = true := hasParentSub_iff_key.symm
  rw [hkey, Bool.not_eq_true]
  constructor
  · rintro ⟨a, ha, htype, hnames⟩
    obtain ⟨csv', -, hmem⟩ := zombie_of_type ha htype
    obtain ⟨hnames', -, hparent⟩ := mem_zombieCSV hmem
    rwa [← hnames'.2, hnames.2] at hparent
  · intro hparent
    obtain ⟨a, ha, htype, hnames⟩ := zombieCSV_of_outside hout hparent
    exact ⟨a, mem_detectAnomalies.mpr (Or.inr (Or.inr (Or.inl
      ⟨csv, hcsv, List.mem_append_left _ ha⟩))), htype, hnames⟩

/-- A CSV with a parent is never reported. -/
theorem not_reported_of_parent {sub : Unstructured} (hsub : sub ∈ subs.getD [])
    (hparent : ParentOf sub csv) :
    ¬ ReportedZombie (detectAnomalies subs ips csvs catsrcs) csv := by
  rintro ⟨a, ha, htype, hnames⟩
  obtain ⟨csv', -, hmem⟩ := zombie_of_type ha htype
  obtain ⟨hnames', -, hnone⟩ := mem_zombieCSV hmem
  rw [← hnames'.2, hnames.2] at hnone
  have htrue : hasParentSub (subMap (subs.getD [])) csv.getNamespace = true :=
    hasParentSub_iff_key.mpr ⟨sub, hsub, keyMatches_of_parentOf hparent⟩
  rw [hnone] at htrue
  cases htrue

end Lists

/-- The zombies are exactly the CSVs without a parent, if and only if every listed CSV outside
    `openshift-*` for which the key of some Subscription matches has a parent. -/
theorem zombie_exact_iff (subs ips csvs catsrcs : Option (List Unstructured)) :
    (∀ csv ∈ csvs.getD [], OutsideOpenshift csv →
        (ReportedZombie (detectAnomalies subs ips csvs catsrcs) csv ↔
          ¬ ∃ sub ∈ subs.getD [], ParentOf sub csv)) ↔
      ∀ csv ∈ csvs.getD [], OutsideOpenshift csv →
        (∃ sub ∈ subs.getD [], KeyMatches sub csv) → ∃ sub ∈ subs.getD [], ParentOf sub csv := by
  refine forall_congr' fun csv => forall_congr' fun hcsv => forall_congr' fun hout => ?_
  rw [reportedZombie_iff hcsv hout, not_iff_not]
  constructor
  · exact fun h => h.mp
  · intro h
    exact ⟨h, fun ⟨sub, hsub, hparent⟩ => ⟨sub, hsub, keyMatches_of_parentOf hparent⟩⟩

/-! ### An orphan beside another operator -/

/-- The Subscription of etcd, which has its CSV installed. -/
def etcdSubscription : Unstructured :=
  ⟨[metadata "team" "etcd", ("status", .obj [("installedCSV", .str "etcd.v1.2.0")])]⟩

/-- A CSV that was left behind in the same namespace. -/
def orphanCSV : Unstructured := ⟨[metadata "team" "kiali.v1.0.0"]⟩

/-- The Subscription of etcd hides the orphan. -/
theorem orphan_not_reported :
    OutsideOpenshift orphanCSV ∧ ¬ ParentOf etcdSubscription orphanCSV ∧
      ¬ ReportedZombie (detectAnomalies (some [etcdSubscription]) none (some [orphanCSV]) none)
        orphanCSV := by
  have hnone : detectAnomalies (some [etcdSubscription]) none (some [orphanCSV]) none = [] := by
    rfl
  refine ⟨by unfold OutsideOpenshift; decide, fun h => ?_, fun ⟨a, ha, _⟩ => ?_⟩
  · exact absurd h.2 (by decide)
  · rw [hnone] at ha
    cases ha

end HybridOperator.Collector
