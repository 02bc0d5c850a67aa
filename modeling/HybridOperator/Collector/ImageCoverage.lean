/-
  What `collectImages` finds, and that the order of the namespaces does not matter.

  Without the first-seen map the loops visit the images of `containerRefs`; the map drops the
  later ones of a key (`collectImages_eq`). A key is the namespace, `|` and the identity, so it
  tells the pairs apart as long as no namespace has a `|` in its name. Kubernetes names a
  namespace by a DNS label: a List of pods in a namespace named otherwise finds none
  (`PodNamespaces`).

  Proved: `collectImages_exact`. No pair of a namespace and an identity comes twice, the pairs
  are those of the containers of the scanned namespaces, an image is marked `operator` exactly
  in the operator's namespace, and two orders give permutations of one list.
-/
import HybridOperator.Collector.Images
import HybridOperator.Lib.Dedup
import HybridOperator.Lib.DnsNames

namespace HybridOperator.Collector

open HybridOperator.Lib

/-- The digest if it was resolved, else the reference. -/
def ImageRef.identity (ref : ImageRef) : String :=
  if ref.digest = "" then ref.image else ref.digest

def ImageRef.pair (ref : ImageRef) : String × String := (ref.nameSpace, ref.identity)

/-- The containers and init containers of a pod. -/
def podContainers (pod : Unstructured) : List JMap :=
  nestedMaps pod.object ["spec", "containers"] ++ nestedMaps pod.object ["spec", "initContainers"]

/-- The image of a container, empty when it has none. -/
def containerImage (cMap : JMap) : String := (nestedString cMap ["image"]).getD ""

/-- The record of a container of `pod`. -/
def containerRef (ns source : String) (pod : Unstructured) (cMap : JMap) : ImageRef :=
  let name := (nestedString cMap ["name"]).getD ""
  ⟨containerImage cMap, (imageDigests pod).get name "", parseRegistry (containerImage cMap), ns,
    name, source⟩

/-- Some container with an image, of a pod that a List in `ns` gives, has this identity. -/
def RunsImage (dyn : DynClient) (ns identity : String) : Prop :=
  ∃ pods, dyn.list podGVR ns "" = .ok pods ∧ ∃ pod ∈ pods, ∃ cMap ∈ podContainers pod,
    containerImage cMap ≠ "" ∧ (containerRef ns "" pod cMap).identity = identity

/-- Where a List finds pods, it asked all namespaces or one that Kubernetes can have. -/
def PodNamespaces (dyn : DynClient) : Prop :=
  ∀ ns pods, dyn.list podGVR ns "" = .ok pods → pods ≠ [] → ns = "" ∨ IsDNSName ns

/-! ## The loops without the first-seen map -/

def podRefs (ns source : String) (pod : Unstructured) : List ImageRef :=
  ((podContainers pod).filter fun cMap => containerImage cMap ≠ "").map (containerRef ns source pod)

def namespaceRefs (dyn : DynClient) (source ns : String) : List ImageRef :=
  match dyn.list podGVR ns "" with
  | .error _ => []
  | .ok pods => pods.flatMap (podRefs ns source)

/-- The mark of the images of a namespace. -/
def imageSource (operatorNS ns : String) : String :=
  if ns = operatorNS then "operator" else "operand"

def scannedRefs (dyn : DynClient) (operatorNS ns : String) : List ImageRef :=
  namespaceRefs dyn (imageSource operatorNS ns) ns

/-- The namespaces in the order in which they are scanned. -/
def scannedNamespaces (order : RangeOrder String) (operatorNS : String)
    (crNamespaces : GoMap String Bool) : List String :=
  operatorNS :: (crNamespaces.range order).filter (· ≠ operatorNS)

theorem mem_scannedNamespaces {order : RangeOrder String} {operatorNS ns : String}
    {crNamespaces : GoMap String Bool} :
    ns ∈ scannedNamespaces order operatorNS crNamespaces ↔
      ns = operatorNS ∨ ns ∈ crNamespaces := by
  rw [scannedNamespaces, List.mem_cons, List.mem_filter, GoMap.mem_range, decide_eq_true_eq]
  by_cases h : ns = operatorNS
  · exact iff_of_true (Or.inl h) (Or.inl h)
  · rw [and_iff_left h]

/-- The captured variables as a scan that keeps the first of each key. -/
def ImageScan.ofScan (scan : Dedup.Scan ImageRef String) : ImageScan := ⟨scan.seen, scan.kept⟩

theorem scanContainer_ofScan (ns source : String) (pod : Unstructured) (cMap : JMap)
    (scan : Dedup.Scan ImageRef String) :
    scanContainer ns source (imageDigests pod) (.ofScan scan) cMap =
      if containerImage cMap = "" then .ofScan scan
      else .ofScan (Dedup.keepNew ImageRef.key scan (containerRef ns source pod cMap)) := by
  unfold Dedup.keepNew
  rw [apply_ite ImageScan.ofScan]
  rfl

theorem scanPod_ofScan (ns source : String) (scan : Dedup.Scan ImageRef String)
    (pod : Unstructured) :
    scanPod ns source (.ofScan scan) pod =
      .ofScan ((podRefs ns source pod).foldl (Dedup.keepNew ImageRef.key) scan) := by
  have hrefs : podRefs ns source pod = (podContainers pod).flatMap fun cMap =>
      if containerImage cMap = "" then [] else [containerRef ns source pod cMap] := by
    unfold podRefs
    induction podContainers pod with
    | nil => rfl
    | cons cMap cMaps ih =>
      rw [List.flatMap_cons, ← ih, List.filter_cons]
      by_cases himage : containerImage cMap = ""
      · simp [himage]
      · simp [himage]
  rw [hrefs]
  refine Dedup.foldl_rounds ImageScan.ofScan (fun scan cMap => ?_) _ scan
  rw [scanContainer_ofScan]
  split
  · rfl
  · rfl

theorem scanNamespace_ofScan (dyn : DynClient) (source : String)
    (scan : Dedup.Scan ImageRef String) (ns : String) :
    scanNamespace dyn source (.ofScan scan) ns =
      .ofScan ((namespaceRefs dyn source ns).foldl (Dedup.keepNew ImageRef.key) scan) := by
  unfold scanNamespace namespaceRefs
  cases dyn.list podGVR ns "" with
  | error e => rfl
  | ok pods =>
    exact Dedup.foldl_rounds ImageScan.ofScan (fun scan pod => scanPod_ofScan ns source scan pod)
      pods scan

/-- The collected images are the first of each key over all the scanned namespaces. -/
theorem collectImages_eq (dyn : DynClient) (order : RangeOrder String) (operatorNS : String)
    (crNamespaces : GoMap String Bool) :
    collectImages dyn order operatorNS crNamespaces =
      Dedup.dedupBy ImageRef.key ((scannedNamespaces order operatorNS crNamespaces).flatMap
        (scannedRefs dyn operatorNS)) := by
  have hoperator : scannedRefs dyn operatorNS operatorNS =
      namespaceRefs dyn "operator" operatorNS := by
    rw [scannedRefs, imageSource, if_pos rfl]
  have hoperands : ((crNamespaces.range order).filter (· ≠ operatorNS)).flatMap
      (scannedRefs dyn operatorNS) =
        ((crNamespaces.range order).filter (· ≠ operatorNS)).flatMap
          (namespaceRefs dyn "operand") := by
    refine List.flatMap_congr fun ns hns => ?_
    have hne : ns ≠ operatorNS := by simpa using (List.mem_filter.mp hns).2
    rw [scannedRefs, imageSource, if_neg hne]
  rw [scannedNamespaces, List.flatMap_cons, hoperator, hoperands]
  unfold collectImages Dedup.dedupBy
  rw [List.foldl_append]
  show (List.foldl _ (scanNamespace dyn "operator" (.ofScan {}) operatorNS) _).images = _
  rw [scanNamespace_ofScan, Dedup.foldl_rounds ImageScan.ofScan
    fun scan ns => scanNamespace_ofScan dyn "operand" scan ns]
  rfl

theorem mem_namespaceRefs {dyn : DynClient} {source ns : String} {ref : ImageRef} :
    ref ∈ namespaceRefs dyn source ns ↔
      ∃ pods, dyn.list podGVR ns "" = .ok pods ∧ ∃ pod ∈ pods, ∃ cMap ∈ podContainers pod,
        containerImage cMap ≠ "" ∧ containerRef ns source pod cMap = ref := by
  unfold namespaceRefs
  cases dyn.list podGVR ns "" with
  | error e => simp
  | ok pods => simp [podRefs, and_assoc]

theorem mem_scannedRefs_nameSpace {dyn : DynClient} {operatorNS ns : String} {ref : ImageRef}
    (h : ref ∈ scannedRefs dyn operatorNS ns) : ref.nameSpace = ns := by
  obtain ⟨pods, _, pod, _, cMap, _, _, rfl⟩ := mem_namespaceRefs.mp h
  rfl

theorem mem_scannedRefs_source {dyn : DynClient} {operatorNS ns : String} {ref : ImageRef}
    (h : ref ∈ scannedRefs dyn operatorNS ns) : ref.source = imageSource operatorNS ns := by
  obtain ⟨pods, _, pod, _, cMap, _, _, rfl⟩ := mem_namespaceRefs.mp h
  rfl

theorem exists_identity_scannedRefs (dyn : DynClient) (operatorNS ns identity : String) :
    (∃ ref ∈ scannedRefs dyn operatorNS ns, ref.identity = identity) ↔
      RunsImage dyn ns identity := by
  constructor
  · intro ⟨ref, href, hid⟩
    obtain ⟨pods, hpods, pod, hpod, cMap, hcMap, himage, rfl⟩ := mem_namespaceRefs.mp href
    exact ⟨pods, hpods, pod, hpod, cMap, hcMap, himage, hid⟩
  · intro ⟨pods, hpods, pod, hpod, cMap, hcMap, himage, hid⟩
    exact ⟨_, mem_namespaceRefs.mpr ⟨pods, hpods, pod, hpod, cMap, hcMap, himage, rfl⟩, hid⟩

/-! ## The keys -/

theorem ImageRef.key_eq (ref : ImageRef) : ref.key = ref.nameSpace ++ "|" ++ ref.identity := by
  rw [ImageRef.key, imageKey, ImageRef.identity]
  split
  · rfl
  · rfl

/-- A key is read back up to its first `|`. -/
theorem pair_eq_of_key_eq {ref ref' : ImageRef} (h : '|' ∉ ref.nameSpace.toList)
    (h' : '|' ∉ ref'.nameSpace.toList) (hkey : ref.key = ref'.key) : ref.pair = ref'.pair := by
  have hchars := congrArg String.toList hkey
  simp only [ImageRef.key_eq, String.toList_append, List.append_assoc] at hchars
  obtain ⟨hns, hid⟩ := GoStrings.separated_cancel h h' hchars
  exact Prod.ext (String.toList_injective hns) (String.toList_injective hid)

theorem nodup_pairs_of_keys {refs : List ImageRef} (h : (refs.map ImageRef.key).Nodup) :
    (refs.map ImageRef.pair).Nodup := by
  have hkeys : refs.map ImageRef.key =
      (refs.map ImageRef.pair).map fun pair => pair.1 ++ "|" ++ pair.2 := by
    rw [List.map_map]
    exact List.map_congr_left fun ref _ => ref.key_eq
  rw [hkeys] at h
  exact h.of_map _

theorem not_mem_nameSpace {dyn : DynClient} (hpods : PodNamespaces dyn) {operatorNS ns : String}
    {ref : ImageRef} (h : ref ∈ scannedRefs dyn operatorNS ns) :
    '|' ∉ ref.nameSpace.toList := by
  rw [mem_scannedRefs_nameSpace h]
  obtain ⟨pods, hlist, pod, hpod, _⟩ := mem_namespaceRefs.mp h
  rcases hpods ns pods hlist (List.ne_nil_of_mem hpod) with rfl | hname
  · exact List.not_mem_nil
  · exact hname.not_mem (by decide)

/-- Every scanned namespace keeps its own images. -/
theorem mem_collectImages {dyn : DynClient} (hpods : PodNamespaces dyn) {order : RangeOrder String}
    {operatorNS : String} {crNamespaces : GoMap String Bool} {ref : ImageRef} :
    ref ∈ collectImages dyn order operatorNS crNamespaces ↔
      ∃ ns, (ns = operatorNS ∨ ns ∈ crNamespaces) ∧
        ref ∈ Dedup.dedupBy ImageRef.key (scannedRefs dyn operatorNS ns) := by
  rw [collectImages_eq, Dedup.mem_dedupBy_flatMap]
  · exact exists_congr fun ns => by rw [mem_scannedNamespaces]
  · intro ns _ ns' _ ref href ref' href' hkey
    have hpair := pair_eq_of_key_eq (not_mem_nameSpace hpods href) (not_mem_nameSpace hpods href')
      hkey
    rw [← mem_scannedRefs_nameSpace href, ← mem_scannedRefs_nameSpace href']
    exact (Prod.mk.inj hpair).1

theorem mem_pairs_collectImages {dyn : DynClient} (hpods : PodNamespaces dyn)
    {order : RangeOrder String} {operatorNS : String} {crNamespaces : GoMap String Bool}
    {ns identity : String} :
    (ns, identity) ∈ (collectImages dyn order operatorNS crNamespaces).map ImageRef.pair ↔
      (ns = operatorNS ∨ ns ∈ crNamespaces) ∧ RunsImage dyn ns identity := by
  rw [List.mem_map, ← exists_identity_scannedRefs dyn operatorNS]
  constructor
  · intro ⟨ref, href, hpair⟩
    obtain ⟨ns', hns', hmem⟩ := (mem_collectImages hpods).mp href
    have href' := Dedup.mem_of_mem_dedupBy _ hmem
    obtain ⟨hname, hid⟩ := Prod.mk.inj hpair
    rw [mem_scannedRefs_nameSpace href'] at hname
    subst hname
    exact ⟨hns', ref, href', hid⟩
  · intro ⟨hns, ref, href, hid⟩
    obtain ⟨kept, hkept, hkey⟩ := Dedup.exists_mem_dedupBy ImageRef.key href
    have hkept' := Dedup.mem_of_mem_dedupBy _ hkept
    refine ⟨kept, (mem_collectImages hpods).mpr ⟨ns, hns, hkept⟩, ?_⟩
    rw [pair_eq_of_key_eq (not_mem_nameSpace hpods hkept') (not_mem_nameSpace hpods href) hkey]
    exact Prod.ext (mem_scannedRefs_nameSpace href) hid

theorem collectImages_exact (dyn : DynClient) (hpods : PodNamespaces dyn) (operatorNS : String)
    (crNamespaces : GoMap String Bool) :
    (∀ order,
      ((collectImages dyn order operatorNS crNamespaces).map ImageRef.pair).Nodup ∧
      (∀ ns identity,
        (ns, identity) ∈ (collectImages dyn order operatorNS crNamespaces).map ImageRef.pair ↔
          (ns = operatorNS ∨ ns ∈ crNamespaces) ∧ RunsImage dyn ns identity) ∧
      ∀ ref ∈ collectImages dyn order operatorNS crNamespaces,
        (ref.source = "operator" ↔ ref.nameSpace = operatorNS)) ∧
    ∀ order order', (collectImages dyn order operatorNS crNamespaces).Perm
      (collectImages dyn order' operatorNS crNamespaces) := by
  refine ⟨fun order => ⟨?_, fun ns identity => mem_pairs_collectImages hpods, ?_⟩, ?_⟩
  · exact nodup_pairs_of_keys (nodup_collectImages dyn order operatorNS crNamespaces)
  · intro ref href
    obtain ⟨ns, _, hmem⟩ := (mem_collectImages hpods).mp href
    have href' := Dedup.mem_of_mem_dedupBy _ hmem
    rw [mem_scannedRefs_source href', mem_scannedRefs_nameSpace href', imageSource]
    by_cases hns : ns = operatorNS
    · exact iff_of_true (if_pos hns) hns
    · rw [if_neg hns]
      exact iff_of_false (by decide) hns
  · intro order order'
    refine (List.perm_ext_iff_of_nodup ((nodup_collectImages dyn order _ _).of_map _)
      ((nodup_collectImages dyn order' _ _).of_map _)).mpr fun ref => ?_
    rw [mem_collectImages hpods, mem_collectImages hpods]

theorem podNamespaces_snapshot {objects : GroupVersionResource → List Unstructured}
    (h : ∀ pod ∈ objects podGVR, IsDNSName pod.getNamespace) :
    PodNamespaces (snapshotClient objects) := by
  intro ns pods hlist hpods
  obtain rfl : (objects podGVR).filter (fun o => ns = "" ∨ o.getNamespace = ns) = pods :=
    Except.ok.inj hlist
  obtain ⟨pod, hpod⟩ := List.exists_mem_of_ne_nil _ hpods
  obtain ⟨hmem, hns⟩ := List.mem_filter.mp hpod
  rcases of_decide_eq_true hns with hall | rfl
  · exact Or.inl hall
  · exact Or.inr (h pod hmem)

/-- A pod with one container `main`; `imageID` is empty until it runs. -/
def podOf (ns name image imageID : String) : Unstructured :=
  ⟨[metadata ns name,
    ("spec", .obj [("containers", .arr [.obj [("name", .str "main"), ("image", .str image)]])]),
    ("status", .obj [("containerStatuses",
      .arr [.obj [("name", .str "main"), ("imageID", .str imageID)]])])]⟩

/-- An operator in `ops` whose resources are in `shop`: the image `web:1` runs there twice and
    is starting once. -/
def shopPods : GroupVersionResource → List Unstructured := fun gvr =>
  if gvr = podGVR then
    [podOf "ops" "controller" "quay.io/ops:2" "quay.io/ops@sha256:22",
      podOf "shop" "web-a" "web:1" "docker.io/web@sha256:11",
      podOf "shop" "web-b" "web:1" "docker.io/web@sha256:11",
      podOf "shop" "web-c" "web:1" ""]
  else []

def shopNamespaces : GoMap String Bool := (AList.insert "ops" true ∅).insert "shop" true

theorem collectImages_exact_shop :
    ((collectImages (snapshotClient shopPods) (.first "ops") "ops" shopNamespaces).map
      ImageRef.pair).Nodup ∧
    ("shop", "sha256:11") ∈
      (collectImages (snapshotClient shopPods) (.first "ops") "ops" shopNamespaces).map
        ImageRef.pair ∧
    (collectImages (snapshotClient shopPods) (.first "ops") "ops" shopNamespaces).Perm
      (collectImages (snapshotClient shopPods) (.first "shop") "ops" shopNamespaces) := by
  obtain ⟨hexact, hperm⟩ := collectImages_exact (snapshotClient shopPods)
    (podNamespaces_snapshot (by decide +kernel)) "ops" shopNamespaces
  obtain ⟨hnodup, hmem, _⟩ := hexact (.first "ops")
  refine ⟨hnodup, (hmem "shop" "sha256:11").mpr ⟨Or.inr (by decide), ?_⟩, hperm _ _⟩
  refine ⟨_, rfl, podOf "shop" "web-a" "web:1" "docker.io/web@sha256:11", ?_,
    [("name", .str "main"), ("image", .str "web:1")], ?_, ?_, ?_⟩
  · exact List.mem_filter.mpr ⟨by simp [shopPods], by decide +kernel⟩
  · exact List.mem_singleton_self _
  · decide
  · decide +kernel

end HybridOperator.Collector
