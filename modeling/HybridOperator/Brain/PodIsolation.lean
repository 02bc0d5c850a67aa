/-
  The telemetry of one pod does not depend on the other pods.

  `pod_history` is one dict for all pods. A request belongs to the pod it names (`concerns`),
  also when it is turned away; a request that names no pod belongs to none. The view of a pod is
  its entry in `pod_history`.

  Nothing here asks what a reading is: the window, the answers and the isolation hold whatever is
  stored, and numeric readings are a case of it. An answer is `respond (decision np history)`,
  the action with its reason, or the page of an exception numpy raised.

  Proved: `pod_isolation`: the entry of every pod after every run is the window of five on what
  was accepted for it, a request answered 400 changes nothing, an accepted request is answered
  from the window it leaves, and two runs that agree on a pod's requests answer them alike.
-/
import HybridOperator.Brain.TelemetryRuns

namespace HybridOperator.Brain

open HybridOperator.Lib

/-- The key of the pod that a request names. -/
def podOf (request : Option Json) : Option DictKey :=
  match getJson request with
  | .obj data => dictKey (getItem data "pod_name")
  | _ => none

/-- Whether a request is one of pod `k`'s. -/
def concerns (k : DictKey) (request : Option Json) : Bool := podOf request = some k

/-- What the accepted requests stored under a key, in order of arrival. -/
def accepted (k : DictKey) (requests : List (Option Json)) : List Json :=
  requests.filterMap (storedUnder k)

/-- The entry of a key that stands for these readings; a key that was never stored has none. -/
def entry (stored : List Json) : Option (List Json) :=
  if stored = [] then none else some (stored.rtake 5)

/-! ## One request -/

/-- What is stored is stored under the pod that the request names. -/
theorem podOf_of_checked {request : Option Json} {k : DictKey} {currentMem : Json}
    (h : checkPayload request = .ok (k, currentMem)) : podOf request = some k := by
  unfold checkPayload at h
  unfold podOf
  generalize getJson request = body at h ⊢
  cases body with
  | obj data =>
    dsimp only at h ⊢
    split at h
    · cases h
    · split at h
      · rename_i k' hkey
        rw [hkey, (Prod.mk.inj (Except.ok.inj h)).1]
      · cases h
  | _ => cases h

theorem storedUnder_of_checked {request : Option Json} {k : DictKey} {currentMem : Json}
    (h : checkPayload request = .ok (k, currentMem)) :
    storedUnder k request = some currentMem := by
  rw [storedUnder, h]
  exact if_pos rfl

/-- A request answered 400 was turned away by the checks: an answer after them has 200 or 500. -/
theorem rejected_of_status {F : Type} (np : Numpy F) {podHistory : PodHistory}
    {request : Option Json} (h : (receiveTelemetry np podHistory request).2.status = 400) :
    ∃ response, checkPayload request = .error response := by
  cases hcheck : checkPayload request with
  | error response => exact ⟨response, rfl⟩
  | ok payload =>
    obtain ⟨k, currentMem⟩ := payload
    rw [receiveTelemetry_ok np hcheck] at h
    cases hdecision : decision np (appended podHistory k currentMem) with
    | none =>
      rw [hdecision] at h
      exact absurd h (by simp [respond, raised])
    | some d =>
      rw [hdecision] at h
      exact absurd h (by simp [respond])

/-- The part of `pod_history` that belongs to a pod is its entry. -/
theorem isolated_receive {F : Type} (np : Numpy F) (k : DictKey) :
    Reactive.Isolated (receiveTelemetry np) (concerns k) (fun podHistory => podHistory.lookup k)
    where
  other := by
    intro podHistory request hother
    cases hcheck : checkPayload request with
    | error response => rw [receiveTelemetry_error np hcheck]
    | ok payload =>
      obtain ⟨k', currentMem⟩ := payload
      have hne : k ≠ k' := by
        rintro rfl
        rw [concerns, podOf_of_checked hcheck, decide_eq_false_iff_not] at hother
        exact hother rfl
      rw [receiveTelemetry_ok np hcheck]
      exact AList.lookup_insert_ne hne
  answer := by
    intro podHistory podHistory' request hown hview
    cases hcheck : checkPayload request with
    | error response => rw [receiveTelemetry_error np hcheck, receiveTelemetry_error np hcheck]
    | ok payload =>
      obtain ⟨k', currentMem⟩ := payload
      rw [concerns, podOf_of_checked hcheck, decide_eq_true_eq, Option.some.injEq] at hown
      subst hown
      rw [receiveTelemetry_ok np hcheck, receiveTelemetry_ok np hcheck, appended, appended, hview]
  next := by
    intro podHistory podHistory' request hown hview
    cases hcheck : checkPayload request with
    | error response =>
      rw [receiveTelemetry_error np hcheck, receiveTelemetry_error np hcheck]
      exact hview
    | ok payload =>
      obtain ⟨k', currentMem⟩ := payload
      rw [concerns, podOf_of_checked hcheck, decide_eq_true_eq, Option.some.injEq] at hown
      subst hown
      rw [receiveTelemetry_ok np hcheck, receiveTelemetry_ok np hcheck]
      dsimp only
      rw [AList.lookup_insert, AList.lookup_insert, appended, appended, hview]

/-! ## Runs -/

section Runs

variable {F : Type} (np : Numpy F)

theorem accepted_concat (k : DictKey) (past : List (Option Json)) (request : Option Json) :
    accepted k (past ++ [request]) = accepted k past ++ (storedUnder k request).toList := by
  unfold accepted
  rw [List.filterMap_append]
  cases hstored : storedUnder k request with
  | none => rw [List.filterMap_cons_none hstored]; rfl
  | some m => rw [List.filterMap_cons_some hstored]; rfl

/-- A key is in `pod_history` once something was stored under it. -/
theorem lookup_isSome_run (k : DictKey) (requests : List (Option Json)) :
    ((serve np requests).1.lookup k).isSome = true ↔ accepted k requests ≠ [] := by
  refine Reactive.run_induction (P := fun _ => True)
    (R := fun past podHistory => (podHistory.lookup k).isSome = true ↔ accepted k past ≠ [])
    (receiveTelemetry np) ?_ ?_ requests fun _ _ => trivial
  · have hempty : (∅ : PodHistory).lookup k = none := rfl
    rw [hempty]
    simp [accepted]
  · intro past podHistory request ih _
    rw [accepted_concat]
    cases hcheck : checkPayload request with
    | error response =>
      have hnone : storedUnder k request = none := by rw [storedUnder, hcheck]
      rw [receiveTelemetry_error np hcheck, hnone, Option.toList_none, List.append_nil]
      exact ih
    | ok payload =>
      obtain ⟨k', currentMem⟩ := payload
      rw [receiveTelemetry_ok np hcheck]
      by_cases hk : k' = k
      · subst hk
        rw [AList.lookup_insert, storedUnder_of_checked hcheck]
        simp
      · have hnone : storedUnder k request = none := by
          rw [storedUnder, hcheck]
          exact if_neg hk
        rw [AList.lookup_insert_ne (Ne.symm hk), hnone, Option.toList_none, List.append_nil]
        exact ih

/-- The entry of every key is the window on what was accepted for it. -/
theorem lookup_run (k : DictKey) (requests : List (Option Json)) :
    (serve np requests).1.lookup k = entry (accepted k requests) := by
  have hwindow := history_run np requests k
  have hsome := lookup_isSome_run np k requests
  unfold entry
  split
  · rename_i hnil
    rw [← Option.not_isSome_iff_eq_none, hsome]
    exact not_not_intro hnil
  · rename_i hne
    obtain ⟨history, hhistory⟩ := Option.isSome_iff_exists.mp (hsome.mpr hne)
    rw [hhistory, Option.getD_some] at hwindow
    rw [hhistory, hwindow]
    rfl

/-- An accepted request is answered from the window that it leaves. -/
theorem answer_run (before after : List (Option Json)) {request : Option Json} {k : DictKey}
    {currentMem : Json} (h : checkPayload request = .ok (k, currentMem)) :
    (serve np (before ++ request :: after)).2[before.length]? =
      some (respond (decision np ((accepted k before ++ [currentMem]).rtake 5))) := by
  have htake : (before ++ request :: after).take before.length = before := by simp
  have hat : (before ++ request :: after)[before.length]? = some request := by simp
  rw [serve, Reactive.output_getElem?, htake, hat, Option.map_some, receiveTelemetry_ok np h]
  have hwindow := history_run np before k
  unfold serve at hwindow
  rw [appended, hwindow, Window.shift_rtake]
  rfl

/-- The responses that the requests of a pod get in a run. -/
def responsesTo (k : DictKey) (requests : List (Option Json)) : List Response :=
  ((requests.zip (serve np requests).2).filter fun answered => concerns k answered.1).map Prod.snd

/-- What the answers to a pod's requests depend on: see the head of this file. -/
theorem pod_isolation :
    (∀ requests k, (serve np requests).1.lookup k = entry (accepted k requests)) ∧
    (∀ podHistory request, (receiveTelemetry np podHistory request).2.status = 400 →
      (receiveTelemetry np podHistory request).1 = podHistory) ∧
    (∀ before request after k currentMem, checkPayload request = .ok (k, currentMem) →
      (serve np (before ++ request :: after)).2[before.length]? =
        some (respond (decision np ((accepted k (before ++ [request])).rtake 5)))) ∧
    (∀ k requests requests',
      requests.filter (concerns k) = requests'.filter (concerns k) →
      responsesTo np k requests = responsesTo np k requests') := by
  refine ⟨fun requests k => lookup_run np k requests, ?_, ?_, ?_⟩
  · intro podHistory request h
    obtain ⟨response, hcheck⟩ := rejected_of_status np h
    rw [receiveTelemetry_error np hcheck]
  · intro before request after k currentMem h
    rw [accepted_concat, storedUnder_of_checked h]
    exact answer_run np before after h
  · intro k requests requests' h
    unfold responsesTo serve
    rw [← Reactive.outputsTo_eq_run, ← Reactive.outputsTo_eq_run]
    exact Reactive.outputsTo_congr (isolated_receive np k) ∅ h

end Runs

/-- Another pod's readings between those of `web`, and a body without a reading: the leak is
    found as it is without them. -/
theorem pod_isolation_interleaved :
    let alone := [telemetry "web" (.int 100), telemetry "web" .null, telemetry "web" (.int 300),
      telemetry "web" (.int 500)]
    let interleaved := [telemetry "db" (.int 900), telemetry "web" (.int 100),
      telemetry "web" .null, telemetry "db" (.int 10), telemetry "web" (.int 300),
      telemetry "web" (.int 500), telemetry "db" (.int 1)]
    (serve exactNumpy interleaved).1.lookup (.str "web") =
        some [.int 100, .int 300, .int 500] ∧
      (serve exactNumpy (interleaved.take 3)).1 = (serve exactNumpy (interleaved.take 2)).1 ∧
      (serve exactNumpy interleaved).2[5]? =
        some (respond (decision exactNumpy [.int 100, .int 300, .int 500])) ∧
      responsesTo exactNumpy (.str "web") interleaved =
        responsesTo exactNumpy (.str "web") alone := by
  obtain ⟨hentry, hrejected, hanswer, hothers⟩ := pod_isolation exactNumpy
  refine ⟨hentry _ _, ?_, ?_, hothers _ _ _ rfl⟩
  · exact hrejected (serve exactNumpy [telemetry "db" (.int 900), telemetry "web" (.int 100)]).1
      (telemetry "web" .null) rfl
  · exact hanswer [telemetry "db" (.int 900), telemetry "web" (.int 100), telemetry "web" .null,
      telemetry "db" (.int 10), telemetry "web" (.int 300)] (telemetry "web" (.int 500))
      [telemetry "db" (.int 1)] (.str "web") (.int 500) rfl

end HybridOperator.Brain
