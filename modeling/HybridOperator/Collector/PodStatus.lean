/-
  What `getPodStatus` reports for a running pod, over all lists of container statuses.

  The loop returns at the first container that is not ready: when that one is waiting the status
  is Degraded, otherwise 'NotReady', whatever the containers after it do
  (`runningStatus_cases`). So a container in CrashLoopBackOff is not seen behind one that is not
  ready for another reason, and the status depends on the order of the list.

  Proved: `statusLaw_iff`. A waiting container always degrades the pod, in any order of its
  containers, exactly when none of the containers that are not ready is waiting or all are.
-/
import HybridOperator.Collector.Health
import HybridOperator.Lib.GoStrings

namespace HybridOperator.Collector

open HybridOperator.Lib

def IsRunning (pod : Unstructured) : Prop :=
  nestedString pod.object ["status", "phase"] = some "Running"

def containerStatuses (pod : Unstructured) : List Json :=
  (nestedSlice pod.object ["status", "containerStatuses"]).getD []

/-- A map whose `ready` is the boolean `false`. -/
def NotReady (cs : Json) : Prop :=
  ∃ csMap, cs.asMap = some csMap ∧ nestedBool csMap ["ready"] = some false

def Waiting (cs : Json) : Prop :=
  ∃ csMap, cs.asMap = some csMap ∧ (nestedMap csMap ["state", "waiting"]).isSome = true

/-- 'Degraded', or 'Degraded: ' and a reason. -/
def Degraded (status : String) : Prop := GoStrings.hasPrefix status "Degraded" = true

/-- Every map with a boolean `ready` has `ready = true`. -/
def AllReady (statuses : List Json) : Prop :=
  ∀ cs ∈ statuses, ∀ csMap, cs.asMap = some csMap →
    ∀ ready, nestedBool csMap ["ready"] = some ready → ready = true

structure StatusLaw (pod : Unstructured) : Prop where
  running_iff : getPodStatus pod = "Running" ↔ AllReady (containerStatuses pod)
  degraded : (∃ cs ∈ containerStatuses pod, NotReady cs ∧ Waiting cs) →
    Degraded (getPodStatus pod)
  permuted : ∀ pod', IsRunning pod' →
    (containerStatuses pod').Perm (containerStatuses pod) →
    Degraded (getPodStatus pod) → getPodStatus pod' ≠ "NotReady"

/-! ## The first container that is not ready -/

theorem getPodStatus_of_running {pod : Unstructured} (h : IsRunning pod) :
    getPodStatus pod = runningStatus (containerStatuses pod) := by
  rw [getPodStatus, h]
  exact if_pos rfl

theorem allReady_iff {statuses : List Json} :
    AllReady statuses ↔ ∀ cs ∈ statuses, ¬ NotReady cs := by
  constructor
  · intro h cs hcs ⟨csMap, hmap, hready⟩
    exact Bool.false_ne_true (h cs hcs csMap hmap false hready)
  · intro h cs hcs csMap hmap ready hready
    cases ready with
    | true => rfl
    | false => exact absurd ⟨csMap, hmap, hready⟩ (h cs hcs)

theorem runningStatus_of_ready {cs : Json} (h : ¬ NotReady cs) (rest : List Json) :
    runningStatus (cs :: rest) = runningStatus rest := by
  rw [runningStatus]
  cases hmap : cs.asMap with
  | none => rfl
  | some csMap => exact if_neg fun hready => h ⟨csMap, hmap, hready⟩

theorem runningStatus_of_waiting {cs : Json} (h : NotReady cs) (hwaiting : Waiting cs)
    (rest : List Json) : Degraded (runningStatus (cs :: rest)) := by
  obtain ⟨csMap, hmap, hready⟩ := h
  obtain ⟨csMap', hmap', hwaiting⟩ := hwaiting
  obtain rfl := Option.some.inj (hmap.symm.trans hmap')
  obtain ⟨waitingState, hwaiting⟩ := Option.isSome_iff_exists.mp hwaiting
  rw [runningStatus, hmap]
  dsimp only
  rw [if_pos hready, hwaiting]
  dsimp only
  split
  · have hstart : "Degraded".toList <+: "Degraded: ".toList := by decide
    rw [Degraded, GoStrings.hasPrefix, String.toList_append]
    exact List.isPrefixOf_iff_prefix.mpr (hstart.trans (List.prefix_append _ _))
  · exact List.isPrefixOf_iff_prefix.mpr List.prefix_rfl

theorem runningStatus_of_not_waiting {cs : Json} (h : NotReady cs) (hwaiting : ¬ Waiting cs)
    (rest : List Json) : runningStatus (cs :: rest) = "NotReady" := by
  obtain ⟨csMap, hmap, hready⟩ := h
  rw [runningStatus, hmap]
  dsimp only
  rw [if_pos hready]
  cases hstate : nestedMap csMap ["state", "waiting"] with
  | none => rfl
  | some waitingState => exact absurd ⟨csMap, hmap, by rw [hstate]; rfl⟩ hwaiting

/-- What the loop finds, and what it reports. -/
theorem runningStatus_cases (statuses : List Json) :
    (AllReady statuses ∧ runningStatus statuses = "Running") ∨
      ∃ cs ∈ statuses, NotReady cs ∧
        (Waiting cs ∧ Degraded (runningStatus statuses) ∨
          ¬ Waiting cs ∧ runningStatus statuses = "NotReady") := by
  induction statuses with
  | nil => exact Or.inl ⟨fun cs hcs => absurd hcs List.not_mem_nil, rfl⟩
  | cons cs statuses ih =>
    by_cases hcs : NotReady cs
    · refine Or.inr ⟨cs, List.mem_cons_self, hcs, ?_⟩
      by_cases hwaiting : Waiting cs
      · exact Or.inl ⟨hwaiting, runningStatus_of_waiting hcs hwaiting statuses⟩
      · exact Or.inr ⟨hwaiting, runningStatus_of_not_waiting hcs hwaiting statuses⟩
    · rw [runningStatus_of_ready hcs]
      rcases ih with ⟨hready, hstatus⟩ | ⟨cs', hcs', h⟩
      · refine Or.inl ⟨allReady_iff.mpr fun c hc => ?_, hstatus⟩
        rcases List.mem_cons.mp hc with rfl | hc
        · exact hcs
        · exact allReady_iff.mp hready c hc
      · exact Or.inr ⟨cs', List.mem_cons_of_mem cs hcs', h⟩

theorem not_degraded_running : ¬ Degraded "Running" := by
  unfold Degraded
  decide

theorem not_degraded_notReady : ¬ Degraded "NotReady" := by
  unfold Degraded
  decide

theorem runningStatus_eq_running_iff (statuses : List Json) :
    runningStatus statuses = "Running" ↔ AllReady statuses := by
  rcases runningStatus_cases statuses with ⟨hready, hstatus⟩ | ⟨cs, hcs, hnot, hstatus⟩
  · exact iff_of_true hstatus hready
  · refine iff_of_false (fun hrunning => ?_) fun hready => allReady_iff.mp hready cs hcs hnot
    rw [hrunning] at hstatus
    rcases hstatus with ⟨_, hdegraded⟩ | ⟨_, heq⟩
    · exact not_degraded_running hdegraded
    · exact absurd heq (by decide)

theorem exists_waiting_of_degraded {statuses : List Json}
    (h : Degraded (runningStatus statuses)) : ∃ cs ∈ statuses, NotReady cs ∧ Waiting cs := by
  rcases runningStatus_cases statuses with ⟨_, hstatus⟩ | ⟨cs, hcs, hnot, hcase⟩
  · rw [hstatus] at h
    exact absurd h not_degraded_running
  · rcases hcase with ⟨hwaiting, _⟩ | ⟨_, hstatus⟩
    · exact ⟨cs, hcs, hnot, hwaiting⟩
    · rw [hstatus] at h
      exact absurd h not_degraded_notReady

theorem exists_not_waiting_of_notReady {statuses : List Json}
    (h : runningStatus statuses = "NotReady") :
    ∃ cs ∈ statuses, NotReady cs ∧ ¬ Waiting cs := by
  rcases runningStatus_cases statuses with ⟨_, hstatus⟩ | ⟨cs, hcs, hnot, hcase⟩
  · exact absurd (h.symm.trans hstatus) (by decide)
  · rcases hcase with ⟨_, hdegraded⟩ | ⟨hwaiting, _⟩
    · rw [h] at hdegraded
      exact absurd hdegraded not_degraded_notReady
    · exact ⟨cs, hcs, hnot, hwaiting⟩

/-! ## The law -/

/-- A running pod with these container statuses. -/
def runningPod (statuses : List Json) : Unstructured :=
  ⟨[("status", .obj [("phase", .str "Running"), ("containerStatuses", .arr statuses)])]⟩

theorem statusLaw_iff {pod : Unstructured} (hpod : IsRunning pod) :
    StatusLaw pod ↔
      (∀ cs ∈ containerStatuses pod, NotReady cs → ¬ Waiting cs) ∨
        ∀ cs ∈ containerStatuses pod, NotReady cs → Waiting cs := by
  have hstatus := getPodStatus_of_running hpod
  constructor
  · intro h
    by_contra hmixed
    rw [not_or] at hmixed
    obtain ⟨hsome, hsome'⟩ := hmixed
    push Not at hsome hsome'
    obtain ⟨cs, hcs, hnot, hwaiting⟩ := hsome
    obtain ⟨cs', hcs', hnot', hwaiting'⟩ := hsome'
    obtain ⟨before, after, hlist⟩ := List.append_of_mem hcs'
    -- the container that is not waiting is put first
    have hperm : (cs' :: (before ++ after)).Perm (containerStatuses pod) := by
      rw [hlist]
      exact List.perm_middle.symm
    exact h.permuted (runningPod (cs' :: (before ++ after))) rfl hperm
      (h.degraded ⟨cs, hcs, hnot, hwaiting⟩) (runningStatus_of_not_waiting hnot' hwaiting' _)
  · intro h
    refine ⟨?_, ?_, ?_⟩
    · rw [hstatus]
      exact runningStatus_eq_running_iff _
    · intro ⟨cs, hcs, hnot, hwaiting⟩
      have hall := h.resolve_left fun hnone => hnone cs hcs hnot hwaiting
      rw [hstatus]
      rcases runningStatus_cases (containerStatuses pod) with ⟨hready, _⟩ | ⟨c, hc, hnot', hcase⟩
      · exact absurd hnot (allReady_iff.mp hready cs hcs)
      · exact (hcase.resolve_right fun hcase => hcase.1 (hall c hc hnot')).2
    · intro pod' hpod' hperm hdegraded hnotReady
      rw [hstatus] at hdegraded
      rw [getPodStatus_of_running hpod'] at hnotReady
      obtain ⟨cs, hcs, hnot, hwaiting⟩ := exists_waiting_of_degraded hdegraded
      obtain ⟨cs', hcs', hnot', hwaiting'⟩ := exists_not_waiting_of_notReady hnotReady
      rcases h with hnone | hall
      · exact hnone cs hcs hnot hwaiting
      · exact hwaiting' (hall cs' (hperm.mem_iff.mp hcs') hnot')

/-! ### A crash loop behind a container that has ended -/

def statusOf (ready : Bool) (state reason : String) : Json :=
  .obj [("ready", .bool ready), ("state", .obj [(state, .obj [("reason", .str reason)])])]

/-- The first container has ended, the second is in CrashLoopBackOff. -/
def endedThenCrashing : List Json :=
  [statusOf false "terminated" "Completed", statusOf false "waiting" "CrashLoopBackOff"]

/-- The crash loop is reported in one order only. -/
theorem crashLoop_hidden :
    getPodStatus (runningPod endedThenCrashing) = "NotReady" ∧
      getPodStatus (runningPod endedThenCrashing.reverse) = "Degraded: CrashLoopBackOff" ∧
      ¬ StatusLaw (runningPod endedThenCrashing) := by
  have hstatus : getPodStatus (runningPod endedThenCrashing) = "NotReady" := by decide +kernel
  refine ⟨hstatus, by decide +kernel, fun h => ?_⟩
  have hdegraded := h.degraded ⟨statusOf false "waiting" "CrashLoopBackOff",
    List.mem_cons_of_mem _ List.mem_cons_self, ⟨_, rfl, rfl⟩, ⟨_, rfl, rfl⟩⟩
  rw [hstatus] at hdegraded
  exact not_degraded_notReady hdegraded

/-- A container that runs, one in CrashLoopBackOff, a malformed status, and one whose image
    cannot be pulled. -/
def crashingAmongOthers : List Json :=
  [statusOf true "running" "", statusOf false "waiting" "CrashLoopBackOff", .str "unknown",
    statusOf false "waiting" "ImagePullBackOff"]

theorem statusLaw_iff_crashing : StatusLaw (runningPod crashingAmongOthers) := by
  have hpod : IsRunning (runningPod crashingAmongOthers) := rfl
  refine (statusLaw_iff hpod).mpr (Or.inr fun cs hcs hnot => ?_)
  have hcs : cs ∈ crashingAmongOthers := hcs
  simp only [crashingAmongOthers, List.mem_cons, List.not_mem_nil, or_false] at hcs
  rcases hcs with rfl | rfl | rfl | rfl
  · obtain ⟨csMap, hmap, hready⟩ := hnot
    obtain rfl := Option.some.inj hmap
    cases hready
  · exact ⟨_, rfl, rfl⟩
  · obtain ⟨csMap, hmap, -⟩ := hnot
    cases hmap
  · exact ⟨_, rfl, rfl⟩

end HybridOperator.Collector
