/-
  The Kubernetes API as the collector sees it through `dynamic.Interface`.

  An object is unstructured JSON. A call is a function from its arguments to an answer, which
  is an error or a value: nothing is assumed about the cluster behind it. Functions that make
  several calls take a family of clients, one for each call, so the API server may answer the
  same question differently at different moments.
-/
import HybridOperator.Lib.Json

namespace HybridOperator.Collector

open HybridOperator.Lib

/-- `schema.GroupVersionResource`. -/
structure GroupVersionResource where
  group : String
  version : String
  resource : String
deriving DecidableEq

/-- `unstructured.Unstructured`. -/
structure Unstructured where
  object : JMap

namespace Unstructured

def getName (u : Unstructured) : String :=
  (nestedString u.object ["metadata", "name"]).getD ""

def getNamespace (u : Unstructured) : String :=
  (nestedString u.object ["metadata", "namespace"]).getD ""

end Unstructured

/-- The `metadata` member of an object. -/
def metadata (ns name : String) : String × Json :=
  ("metadata", .obj [("name", .str name), ("namespace", .str ns)])

/-- The calls of `dynamic.Interface` the operator makes. The string after the resource is the
    namespace; it is empty when `Namespace` is not called, which asks for all namespaces.
    `list` also takes the label selector, `patch` the merge patch. -/
structure DynClient where
  list : GroupVersionResource → String → String → Except String (List Unstructured)
  get : GroupVersionResource → String → String → Except String Unstructured
  update : GroupVersionResource → String → Unstructured → Except String Unit
  delete : GroupVersionResource → String → String → Except String Unit
  patch : GroupVersionResource → String → String → String → Except String Unit

/-- A cluster with these objects, whose API server answers every call. -/
def snapshotClient (objects : GroupVersionResource → List Unstructured) : DynClient where
  list gvr ns _ := .ok ((objects gvr).filter fun o => ns = "" ∨ o.getNamespace = ns)
  get gvr ns name :=
    match (objects gvr).find? fun o => o.getName = name ∧ (ns = "" ∨ o.getNamespace = ns) with
    | some o => .ok o
    | none => .error "not found"
  update _ _ _ := .ok ()
  delete _ _ _ := .ok ()
  patch _ _ _ _ := .ok ()

def subscriptionGVR : GroupVersionResource := ⟨"operators.coreos.com", "v1alpha1", "subscriptions"⟩

def csvGVR : GroupVersionResource :=
  ⟨"operators.coreos.com", "v1alpha1", "clusterserviceversions"⟩

def packageManifestGVR : GroupVersionResource :=
  ⟨"packages.operators.coreos.com", "v1", "packagemanifests"⟩

def clusterVersionGVR : GroupVersionResource := ⟨"config.openshift.io", "v1", "clusterversions"⟩

def routeGVR : GroupVersionResource := ⟨"route.openshift.io", "v1", "routes"⟩

def serviceAccountGVR : GroupVersionResource := ⟨"", "v1", "serviceaccounts"⟩

def deploymentGVR : GroupVersionResource := ⟨"apps", "v1", "deployments"⟩

def installPlanGVR : GroupVersionResource := ⟨"operators.coreos.com", "v1alpha1", "installplans"⟩

def catalogSourceGVR : GroupVersionResource :=
  ⟨"operators.coreos.com", "v1alpha1", "catalogsources"⟩

def podGVR : GroupVersionResource := ⟨"", "v1", "pods"⟩

def crdGVR : GroupVersionResource :=
  ⟨"apiextensions.k8s.io", "v1", "customresourcedefinitions"⟩

end HybridOperator.Collector
