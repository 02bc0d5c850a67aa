/-
  `ExecuteRemediationAction` of remediation.go, with the writes it sends to the API server.

  Call 0 of the client is the List, call `k + 1` the Update for the plan listed at place `k`.
  `approveInstallPlans` is the loop over the listed plans: a plan that is approved, or whose
  `spec.approved` cannot be set, is passed over; for any other one an Update is sent, and the
  first accepted Update ends the loop.

  Proved about the loop, for every answer of the API server:
  * `approve_spec`: either no Update is accepted, or exactly one is, that of the first listed
    plan whose Update the server accepts, and the result says which.
  * `success_iff_accepted`: it reports success exactly when an Update was accepted.
  * `mem_writes`: every write sent is the Update of a listed plan that can be approved, with
    `spec.approved` set.
-/
import HybridOperator.Collector.Client

namespace HybridOperator.Collector

open HybridOperator.Lib

structure RemediationResult where
  action : String
  target : String
  nameSpace : String
  success : Bool
  message : String
deriving DecidableEq

/-- A write as it is sent to the API server. -/
inductive ClusterWrite where
  | update (resource : GroupVersionResource) (ns : String) (obj : Unstructured)
  | delete (resource : GroupVersionResource) (ns name : String)
  | patch (resource : GroupVersionResource) (ns name body : String)

/-- The writes in the order they were sent, each with whether it was accepted. -/
abbrev WriteLog := List (ClusterWrite × Bool)

/-- Some write was accepted. -/
def WriteLog.accepted (log : WriteLog) : Bool := log.any Prod.snd

/-- `err == nil`. -/
def isOk {α : Type} : Except String α → Bool
  | .ok _ => true
  | .error _ => false

/-- `spec.approved` of an InstallPlan; false when it is missing. -/
def isApproved (ip : Unstructured) : Bool :=
  (nestedBool ip.object ["spec", "approved"]).getD false

/-- `SetNestedField(ip.Object, true, "spec", "approved")`. -/
def setApproved (ip : Unstructured) : Option Unstructured :=
  (setNestedField ip.object (.bool true) ["spec", "approved"]).map .mk

/-- The result when the loop ends without an accepted Update. -/
def noneResult (result : RemediationResult) : RemediationResult :=
  { result with message := "No unapproved InstallPlans required intervention." }

/-- The result after the Update to `ip` was accepted. -/
def approvedResult (result : RemediationResult) (ip : Unstructured) : RemediationResult :=
  { result with
      success := true
      message := "Successfully approved stuck InstallPlan " ++ ip.getName }

/-- The loop over the listed plans, from place `k` on. -/
def approveInstallPlans (dyn : Nat → DynClient) (ns : String) (result : RemediationResult) :
    Nat → List Unstructured → RemediationResult × WriteLog
  | _, [] => (noneResult result, [])
  | k, ip :: rest =>
      if isApproved ip then approveInstallPlans dyn ns result (k + 1) rest
      else
        match setApproved ip with
        | none => approveInstallPlans dyn ns result (k + 1) rest
        | some ip' =>
            match (dyn (k + 1)).update installPlanGVR ns ip' with
            | .ok _ => (approvedResult result ip', [(.update installPlanGVR ns ip', true)])
            | .error _ =>
                let later := approveInstallPlans dyn ns result (k + 1) rest
                (later.1, (.update installPlanGVR ns ip', false) :: later.2)

def executeRemediationAction (dyn : Nat → DynClient) (action ns target : String) :
    RemediationResult × WriteLog :=
  let result : RemediationResult := ⟨action, target, ns, false, ""⟩
  if action = "REAPPROVE_INSTALLPLAN" then
    match (dyn 0).list installPlanGVR ns "" with
    | .error err => ({ result with message := "Failed to query InstallPlans: " ++ err }, [])
    | .ok items => approveInstallPlans dyn ns result 0 items
  else if action = "PURGE_IDLE_SUBSCRIPTION" then
    match (dyn 0).delete subscriptionGVR ns target with
    | .error err =>
        ({ result with message := "Failed to remove idle subscription: " ++ err },
          [(.delete subscriptionGVR ns target, false)])
    | .ok _ =>
        ({ result with
            success := true
            message := "Successfully purged idle subscription " ++ target ++
              " to reclaim cluster compute resources." },
          [(.delete subscriptionGVR ns target, true)])
  else ({ result with message := "Unknown remediation directive: " ++ action }, [])

/-! ## Setting `spec.approved` -/

/-- The plan is not approved and its `spec.approved` can be set. -/
def Approvable (ip : Unstructured) : Prop := isApproved ip = false ∧ (setApproved ip).isSome = true

instance : DecidablePred Approvable := fun _ => inferInstanceAs (Decidable (_ ∧ _))

theorem isApproved_setApproved {ip ip' : Unstructured} (h : setApproved ip = some ip') :
    isApproved ip' = true := by
  obtain ⟨m, hm, rfl⟩ := Option.map_eq_some_iff.mp h
  rw [isApproved, nestedBool, nestedField_setNestedField hm]
  rfl

/-- Fields outside `spec`, the name and the owners among them, stay as they were. -/
theorem lookup_setApproved {ip ip' : Unstructured} (h : setApproved ip = some ip') {k : String}
    (hk : k ≠ "spec") : ip'.object.lookup k = ip.object.lookup k := by
  obtain ⟨m, hm, rfl⟩ := Option.map_eq_some_iff.mp h
  exact lookup_setNestedField_ne hm hk

theorem getName_setApproved {ip ip' : Unstructured} (h : setApproved ip = some ip') :
    ip'.getName = ip.getName := by
  simp only [Unstructured.getName, nestedString, nestedField_cons,
    lookup_setApproved h (by decide : "metadata" ≠ "spec")]

/-! ## The loop -/

/-- An Update is sent for the plan listed at place `k`, if the loop gets there, and accepted. -/
def accepts (dyn : Nat → DynClient) (ns : String) (k : Nat) (ip : Unstructured) : Bool :=
  !isApproved ip &&
    match setApproved ip with
    | some ip' => isOk ((dyn (k + 1)).update installPlanGVR ns ip')
    | none => false

section Loop

variable (dyn : Nat → DynClient) (ns : String) (result : RemediationResult)

theorem approve_skip {k : Nat} {ip : Unstructured} {rest : List Unstructured}
    (h : ¬ Approvable ip) :
    approveInstallPlans dyn ns result k (ip :: rest) =
      approveInstallPlans dyn ns result (k + 1) rest := by
  rw [approveInstallPlans]
  split
  · rfl
  · rename_i ha
    split
    · rfl
    · rename_i ip' hs
      exact absurd ⟨by simpa using ha, by rw [hs]; rfl⟩ h

theorem approve_send {k : Nat} {ip ip' : Unstructured} {rest : List Unstructured}
    (ha : isApproved ip = false) (hs : setApproved ip = some ip') :
    approveInstallPlans dyn ns result k (ip :: rest) =
      if isOk ((dyn (k + 1)).update installPlanGVR ns ip') then
        (approvedResult result ip', [(.update installPlanGVR ns ip', true)])
      else
        ((approveInstallPlans dyn ns result (k + 1) rest).1,
          (.update installPlanGVR ns ip', false) ::
            (approveInstallPlans dyn ns result (k + 1) rest).2) := by
  rw [approveInstallPlans, if_neg (by simp [ha])]
  simp only [hs]
  cases (dyn (k + 1)).update installPlanGVR ns ip' <;> rfl

theorem accepts_of_not_approvable {k : Nat} {ip : Unstructured} (h : ¬ Approvable ip) :
    accepts dyn ns k ip = false := by
  unfold accepts
  cases ha : isApproved ip with
  | true => rfl
  | false =>
    cases hs : setApproved ip with
    | none => rfl
    | some ip' => exact absurd ⟨ha, by rw [hs]; rfl⟩ h

theorem accepts_of_setApproved {k : Nat} {ip ip' : Unstructured} (ha : isApproved ip = false)
    (hs : setApproved ip = some ip') :
    accepts dyn ns k ip = isOk ((dyn (k + 1)).update installPlanGVR ns ip') := by
  simp [accepts, ha, hs]

/-- No listed plan from place `k` on has its Update accepted. -/
def NoneAccepted (k : Nat) (plans : List Unstructured) : Prop :=
  ∀ i ip, plans[i]? = some ip → accepts dyn ns (k + i) ip = false

/-- The plan at place `k + i` is the first whose Update is accepted. -/
def FirstAccepted (k : Nat) (plans : List Unstructured) (i : Nat) (ip : Unstructured) : Prop :=
  plans[i]? = some ip ∧ accepts dyn ns (k + i) ip = true ∧
    ∀ j ip₀, j < i → plans[j]? = some ip₀ → accepts dyn ns (k + j) ip₀ = false

theorem noneAccepted_cons {k : Nat} {ip : Unstructured} {rest : List Unstructured}
    (h : accepts dyn ns k ip = false) (hr : NoneAccepted dyn ns (k + 1) rest) :
    NoneAccepted dyn ns k (ip :: rest) := by
  intro i p hp
  cases i with
  | zero =>
    obtain rfl := Option.some.inj hp
    exact h
  | succ i =>
    have := hr i p hp
    rwa [Nat.add_right_comm] at this

theorem firstAccepted_cons {k i : Nat} {ip p : Unstructured} {rest : List Unstructured}
    (h : accepts dyn ns k ip = false) (hr : FirstAccepted dyn ns (k + 1) rest i p) :
    FirstAccepted dyn ns k (ip :: rest) (i + 1) p := by
  obtain ⟨hp, hacc, hbefore⟩ := hr
  refine ⟨hp, by rwa [Nat.add_right_comm] at hacc, fun j p₀ hj hp₀ => ?_⟩
  cases j with
  | zero =>
    obtain rfl := Option.some.inj hp₀
    exact h
  | succ j =>
    have := hbefore j p₀ (by omega) hp₀
    rwa [Nat.add_right_comm] at this

/-- What the loop does, said once: no Update is accepted and nothing is reported as approved, or
    the first plan whose Update the server accepts is the one that is approved and reported. -/
theorem approve_spec (k : Nat) (plans : List Unstructured) :
    (NoneAccepted dyn ns k plans ∧
      (approveInstallPlans dyn ns result k plans).1 = noneResult result ∧
      (approveInstallPlans dyn ns result k plans).2.filter Prod.snd = []) ∨
    ∃ i ip ip', FirstAccepted dyn ns k plans i ip ∧ Approvable ip ∧ setApproved ip = some ip' ∧
      (approveInstallPlans dyn ns result k plans).1 = approvedResult result ip' ∧
      (approveInstallPlans dyn ns result k plans).2.filter Prod.snd =
        [(.update installPlanGVR ns ip', true)] := by
  induction plans generalizing k with
  | nil => exact Or.inl ⟨fun i ip h => by simp at h, rfl, rfl⟩
  | cons ip rest ih =>
    by_cases hap : Approvable ip
    · obtain ⟨ip', hs⟩ := Option.isSome_iff_exists.mp hap.2
      have hacc := accepts_of_setApproved dyn ns (k := k) hap.1 hs
      rw [approve_send dyn ns result hap.1 hs]
      split
      · rename_i hok
        exact Or.inr ⟨0, ip, ip', ⟨rfl, by rw [Nat.add_zero, hacc, hok], by omega⟩, hap, hs, rfl,
          rfl⟩
      · rename_i hok
        have hfalse : accepts dyn ns k ip = false := by rw [hacc]; simpa using hok
        rcases ih (k + 1) with ⟨hnone, h1, h2⟩ | ⟨i, p, p', hfirst, hp, hset, h1, h2⟩
        · exact Or.inl ⟨noneAccepted_cons dyn ns hfalse hnone, h1, h2⟩
        · exact Or.inr ⟨i + 1, p, p', firstAccepted_cons dyn ns hfalse hfirst, hp, hset, h1, h2⟩
    · have hfalse := accepts_of_not_approvable dyn ns (k := k) hap
      rw [approve_skip dyn ns result hap]
      rcases ih (k + 1) with ⟨hnone, h1, h2⟩ | ⟨i, p, p', hfirst, hp, hset, h1, h2⟩
      · exact Or.inl ⟨noneAccepted_cons dyn ns hfalse hnone, h1, h2⟩
      · exact Or.inr ⟨i + 1, p, p', firstAccepted_cons dyn ns hfalse hfirst, hp, hset, h1, h2⟩

theorem accepted_eq_filter (log : WriteLog) :
    log.accepted = !(log.filter Prod.snd).isEmpty := by
  induction log with
  | nil => rfl
  | cons w log ih =>
    obtain ⟨w, b⟩ := w
    cases b with
    | true => rfl
    | false => simpa [WriteLog.accepted] using ih

/-- Success is reported exactly when an Update was accepted. -/
theorem success_iff_accepted (hr : result.success = false) (k : Nat) (plans : List Unstructured) :
    (approveInstallPlans dyn ns result k plans).1.success =
      WriteLog.accepted (approveInstallPlans dyn ns result k plans).2 := by
  rw [accepted_eq_filter]
  rcases approve_spec dyn ns result k plans with ⟨-, h1, h2⟩ | ⟨_, _, _, -, -, -, h1, h2⟩
  · rw [h1, h2]
    exact hr
  · rw [h1, h2]
    rfl

/-- Every write sent is the Update of a listed plan that can be approved. -/
theorem mem_writes {k : Nat} {plans : List Unstructured} {w : ClusterWrite} {b : Bool}
    (h : (w, b) ∈ (approveInstallPlans dyn ns result k plans).2) :
    ∃ ip ∈ plans, ∃ ip', Approvable ip ∧ setApproved ip = some ip' ∧
      w = .update installPlanGVR ns ip' := by
  induction plans generalizing k with
  | nil => cases h
  | cons ip rest ih =>
    have hlater : (w, b) ∈ (approveInstallPlans dyn ns result (k + 1) rest).2 →
        ∃ p ∈ ip :: rest, ∃ ip', Approvable p ∧ setApproved p = some ip' ∧
          w = .update installPlanGVR ns ip' := by
      intro hm
      obtain ⟨p, hp, hrest⟩ := ih hm
      exact ⟨p, List.mem_cons_of_mem _ hp, hrest⟩
    by_cases hap : Approvable ip
    · obtain ⟨ip', hs⟩ := Option.isSome_iff_exists.mp hap.2
      have hhead : w = .update installPlanGVR ns ip' → ∃ p ∈ ip :: rest, ∃ ip',
          Approvable p ∧ setApproved p = some ip' ∧ w = .update installPlanGVR ns ip' :=
        fun hw => ⟨ip, List.mem_cons_self, ip', hap, hs, hw⟩
      rw [approve_send dyn ns result hap.1 hs] at h
      split at h
      · exact hhead (Prod.mk.inj (List.mem_singleton.mp h)).1
      · rcases List.mem_cons.mp h with h | h
        · exact hhead (Prod.mk.inj h).1
        · exact hlater h
    · rw [approve_skip dyn ns result hap] at h
      exact hlater h

end Loop

/-- Whatever the action, success is reported exactly when a write was accepted. -/
theorem executeRemediationAction_success (dyn : Nat → DynClient) (action ns target : String) :
    (executeRemediationAction dyn action ns target).1.success =
      WriteLog.accepted (executeRemediationAction dyn action ns target).2 := by
  unfold executeRemediationAction
  split
  · cases (dyn 0).list installPlanGVR ns "" with
    | error err => rfl
    | ok items => exact success_iff_accepted dyn ns _ rfl 0 items
  · split
    · cases (dyn 0).delete subscriptionGVR ns target with
      | error err => rfl
      | ok _ => rfl
    · rfl

end HybridOperator.Collector
