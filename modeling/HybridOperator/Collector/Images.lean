/-
  `parseRegistry`, `collectImages` and `imageDigests` of collector_images.go.

  The closure `scan` of `collectImages` is a fold over the containers of the pods of one
  namespace; its state is what the closure captures, `seen` and `images` (`ImageScan`).

  Proved: `nodup_collectImages`, no two collected images have the same namespace and identity.
  The fold keeps every identity of `images` in `seen` and appends only an unseen one.
-/
import HybridOperator.Collector.Types
import HybridOperator.Lib.GoMap
import HybridOperator.Lib.GoStrings

namespace HybridOperator.Collector

open HybridOperator.Lib

def parseRegistry (image : String) : String :=
  let ref := image.toList.takeWhile (· ≠ '@')
  if '/' ∈ ref then
    let first := ref.takeWhile (· ≠ '/')
    if '.' ∈ first ∨ ':' ∈ first ∨ first = "localhost".toList then String.ofList first
    else "docker.io"
  else "docker.io"

/-- `name → digest`, from the container statuses and then the init container statuses. -/
def imageDigests (pod : Unstructured) : GoMap String String :=
  let statuses := nestedMaps pod.object ["status", "containerStatuses"] ++
    nestedMaps pod.object ["status", "initContainerStatuses"]
  statuses.foldl (fun out sMap =>
    match GoStrings.splitN2 ((nestedString sMap ["imageID"]).getD "") '@' with
    | some (_, digest) => out.insert ((nestedString sMap ["name"]).getD "") digest
    | none => out) ∅

/-- The variables that the closure `scan` captures. -/
structure ImageScan where
  seen : GoMap String Bool := ∅
  images : List ImageRef := []

/-- What two images of one namespace are told apart by: the digest, else the reference. -/
def imageKey (ns digest image : String) : String :=
  if digest = "" then ns ++ "|" ++ image else ns ++ "|" ++ digest

def ImageRef.key (ref : ImageRef) : String := imageKey ref.nameSpace ref.digest ref.image

/-- One round of the loop over the containers of a pod. -/
def scanContainer (ns source : String) (digestByContainer : GoMap String String)
    (scan : ImageScan) (cMap : JMap) : ImageScan :=
  let image := (nestedString cMap ["image"]).getD ""
  if image = "" then scan
  else
    let name := (nestedString cMap ["name"]).getD ""
    let digest := digestByContainer.get name ""
    let key := imageKey ns digest image
    if scan.seen.get key false then scan
    else
      { seen := scan.seen.insert key true
        images := scan.images ++ [⟨image, digest, parseRegistry image, ns, name, source⟩] }

def scanPod (ns source : String) (scan : ImageScan) (pod : Unstructured) : ImageScan :=
  (nestedMaps pod.object ["spec", "containers"] ++
    nestedMaps pod.object ["spec", "initContainers"]).foldl
      (scanContainer ns source (imageDigests pod)) scan

/-- `scan(ns, source)`. -/
def scanNamespace (dyn : DynClient) (source : String) (scan : ImageScan) (ns : String) :
    ImageScan :=
  match dyn.list podGVR ns "" with
  | .error _ => scan
  | .ok pods => pods.foldl (scanPod ns source) scan

def collectImages (dyn : DynClient) (order : RangeOrder String) (operatorNS : String)
    (crNamespaces : GoMap String Bool) : List ImageRef :=
  let operands := (crNamespaces.range order).filter (· ≠ operatorNS)
  (operands.foldl (scanNamespace dyn "operand")
    (scanNamespace dyn "operator" {} operatorNS)).images

/-! ## No image twice -/

/-- The images are told apart by their keys, and `seen` has them all. -/
structure ScanInv (scan : ImageScan) : Prop where
  seen : ∀ ref ∈ scan.images, scan.seen.get ref.key false = true
  nodup : (scan.images.map ImageRef.key).Nodup

theorem scanInv_empty : ScanInv {} := ⟨fun _ h => absurd h List.not_mem_nil, List.nodup_nil⟩

theorem scanInv_scanContainer {ns source : String} {digestByContainer : GoMap String String}
    {scan : ImageScan} (h : ScanInv scan) (cMap : JMap) :
    ScanInv (scanContainer ns source digestByContainer scan cMap) := by
  unfold scanContainer
  dsimp only
  split_ifs with himage hseen
  · exact h
  · exact h
  · refine ⟨fun ref href => ?_, ?_⟩
    · rw [GoMap.get_insert]
      split_ifs with hkey
      · rfl
      · rcases List.mem_append.mp href with hold | hnew
        · exact h.seen ref hold
        · rw [List.mem_singleton.mp hnew] at hkey
          exact absurd rfl hkey
    · rw [List.map_append, List.map_singleton, List.nodup_append]
      refine ⟨h.nodup, List.nodup_singleton _, fun k hk k' hk' heq => hseen ?_⟩
      obtain ⟨ref, href, rfl⟩ := List.mem_map.mp hk
      rw [← h.seen ref href, heq, List.mem_singleton.mp hk']
      rfl

theorem scanInv_foldl {α : Type} {step : ImageScan → α → ImageScan}
    (hstep : ∀ scan a, ScanInv scan → ScanInv (step scan a)) (as : List α) {scan : ImageScan}
    (h : ScanInv scan) : ScanInv (as.foldl step scan) := by
  induction as generalizing scan with
  | nil => exact h
  | cons a as ih => exact ih (hstep scan a h)

theorem scanInv_scanNamespace (dyn : DynClient) (source : String) {scan : ImageScan}
    (h : ScanInv scan) (ns : String) : ScanInv (scanNamespace dyn source scan ns) := by
  unfold scanNamespace
  split
  · exact h
  · exact scanInv_foldl (fun scan pod hs =>
      scanInv_foldl (fun _ cMap hs => scanInv_scanContainer hs cMap) _ hs) _ h

/-- No two collected images have the same namespace and identity. -/
theorem nodup_collectImages (dyn : DynClient) (order : RangeOrder String) (operatorNS : String)
    (crNamespaces : GoMap String Bool) :
    ((collectImages dyn order operatorNS crNamespaces).map ImageRef.key).Nodup :=
  (scanInv_foldl (fun _ ns hs => scanInv_scanNamespace dyn "operand" hs ns) _
    (scanInv_scanNamespace dyn "operator" scanInv_empty operatorNS)).nodup

end HybridOperator.Collector
