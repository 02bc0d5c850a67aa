/-
  Valid telemetry requests in runs that also have malformed ones.

  A request is valid when it names a pod by a non-empty string and carries a number
  (`validReading`); every other request is malformed. A malformed request may still pass the
  checks of the endpoint and be stored. `StoresNumbers` is the condition that it does not: what
  the checks let through has a string for a name and a number that a machine array holds.

  In a run under that condition what is stored under a pod is what the valid requests for it
  carried (`storedUnder_eq_readingOf`), so every valid request gets the decision on the last
  five readings of its pod, and a malformed one leaves `pod_history` alone.

  Proved: `valid_answered`, about every request of every such run; `string_reading_poisons`,
  where one string makes a later valid request fail.
-/
import Mathlib.Algebra.Order.Floor.Ring
import Mathlib.Data.Rat.Floor
import HybridOperator.Brain.Telemetry

namespace HybridOperator.Brain

open HybridOperator.Lib

/-! ## Valid requests -/

/-- The pod and the reading of a valid request. -/
def validReading : Option Json → Option (String × Json)
  | some (.obj data) =>
      match getItem data "pod_name" with
      | .str pod =>
          if pod ≠ "" ∧ isNumber (getItem data "memory_mb") then
            some (pod, getItem data "memory_mb")
          else none
      | _ => none
  | _ => none

/-- The reading of a valid request for `pod`. -/
def readingOf (pod : String) (request : Option Json) : Option Json :=
  (validReading request).bind fun reading => if reading.1 = pod then some reading.2 else none

/-- The numeric readings of a pod, in order of arrival. -/
def readings (pod : String) (requests : List (Option Json)) : List Json :=
  requests.filterMap (readingOf pod)

/-- What the endpoint's checks let through is named by a string and is a machine number. -/
def StoresNumbers (request : Option Json) : Prop :=
  ∀ k m, checkPayload request = .ok (k, m) → (∃ pod, k = .str pod) ∧ machineNumber m = true

theorem isNone_of_isNumber {m : Json} (h : isNumber m = true) : isNone m = false := by
  cases m <;> first | rfl | cases h

theorem validReading_eq_some {request : Option Json} {pod : String} {m : Json}
    (h : validReading request = some (pod, m)) :
    ∃ data, request = some (.obj data) ∧ getItem data "pod_name" = .str pod ∧
      getItem data "memory_mb" = m ∧ pod ≠ "" ∧ isNumber m = true := by
  unfold validReading at h
  split at h
  · rename_i data
    split at h
    · rename_i pod' hpod
      split at h
      · rename_i hvalid
        obtain ⟨rfl, rfl⟩ := Prod.mk.inj (Option.some.inj h)
        exact ⟨data, rfl, hpod, rfl, hvalid.1, hvalid.2⟩
      · cases h
    · cases h
  · cases h

/-- A body that answers `get("pod_name")` is the body that was sent. -/
theorem getJson_eq {request : Option Json} {data : JMap} {v : Json}
    (h : getJson request = .obj data) (hv : getItem data "pod_name" = v) (hne : truthy v = true) :
    request = some (.obj data) := by
  have hdata : Json.obj data ≠ .obj [] := by
    intro hnil
    obtain rfl := Json.obj.inj hnil
    subst hv
    cases hne
  unfold getJson at h
  split at h
  · split at h
    · rw [h]
    · exact absurd h.symm hdata
  · exact absurd h.symm hdata

theorem checkPayload_eq_ok {request : Option Json} {k : DictKey} {m : Json}
    (h : checkPayload request = .ok (k, m)) :
    ∃ data, request = some (.obj data) ∧ truthy (getItem data "pod_name") = true ∧
      dictKey (getItem data "pod_name") = some k ∧ getItem data "memory_mb" = m := by
  unfold checkPayload at h
  split at h
  · rename_i data hdata
    dsimp only at h
    split at h
    · cases h
    · rename_i hpass
      have htruthy : truthy (getItem data "pod_name") = true := by
        cases ht : truthy (getItem data "pod_name") with
        | true => rfl
        | false => simp [ht] at hpass
      split at h
      · rename_i k' hk
        obtain ⟨rfl, rfl⟩ := Prod.mk.inj (Except.ok.inj h)
        exact ⟨data, getJson_eq hdata rfl htruthy, htruthy, hk, rfl⟩
      · cases h
  · cases h

/-- A valid request passes the endpoint's checks. -/
theorem checkPayload_of_valid {request : Option Json} {pod : String} {m : Json}
    (h : validReading request = some (pod, m)) : checkPayload request = .ok (.str pod, m) := by
  obtain ⟨data, rfl, hpod, hm, hne, hnum⟩ := validReading_eq_some h
  have hnonempty : truthy (.obj data) = true := by
    cases data with
    | nil => cases hpod
    | cons _ _ => rfl
  have hname : truthy (.str pod) = true := decide_eq_true hne
  have hdata : getJson (some (.obj data)) = .obj data := by
    rw [getJson, if_pos hnonempty]
  rw [checkPayload, hdata]
  simp only [hpod, hm, hname, isNone_of_isNumber hnum, dictKey, Bool.not_true, Bool.or_false,
    Bool.false_eq_true, if_false]

theorem dictKey_eq_str {v : Json} {pod : String} (h : dictKey v = some (.str pod)) :
    v = .str pod := by
  cases v with
  | str s =>
    have hs : s = pod := DictKey.str.inj (Option.some.inj h)
    rw [hs]
  | bool b => cases h
  | int n => cases h
  | float q => cases h
  | null => cases h
  | arr items => cases h
  | obj fields => cases h

/-- Under the condition the checks let valid requests through and no others. -/
theorem validReading_of_checkPayload {request : Option Json} (hstores : StoresNumbers request)
    {k : DictKey} {m : Json} (h : checkPayload request = .ok (k, m)) :
    ∃ pod, k = .str pod ∧ validReading request = some (pod, m) := by
  obtain ⟨⟨pod, rfl⟩, hm⟩ := hstores k m h
  obtain ⟨data, rfl, htruthy, hkey, hmem⟩ := checkPayload_eq_ok h
  have hpod := dictKey_eq_str hkey
  rw [hpod] at htruthy
  have hne : pod ≠ "" := of_decide_eq_true htruthy
  refine ⟨pod, rfl, ?_⟩
  rw [validReading, hpod, hmem]
  exact if_pos ⟨hne, isNumber_of_machineNumber hm⟩

theorem storedUnder_eq_readingOf {request : Option Json} (h : StoresNumbers request)
    (pod : String) : storedUnder (.str pod) request = readingOf pod request := by
  unfold storedUnder readingOf
  cases hcheck : checkPayload request with
  | error response =>
    cases hvalid : validReading request with
    | none => rfl
    | some reading =>
      rw [checkPayload_of_valid hvalid] at hcheck
      cases hcheck
  | ok payload =>
    obtain ⟨pod', hk, hvalid⟩ := validReading_of_checkPayload h hcheck
    rw [hvalid]
    dsimp only [Option.bind_some]
    rw [hk]
    simp only [DictKey.str.injEq]

/-! ## Runs -/

section Runs

variable {F : Type} (np : Numpy F) {requests : List (Option Json)}

theorem filterMap_stored (h : ∀ r ∈ requests, StoresNumbers r) (pod : String) :
    requests.filterMap (storedUnder (.str pod)) = readings pod requests :=
  List.filterMap_congr fun r hr => storedUnder_eq_readingOf (h r hr) pod

theorem readings_machineNumber (h : ∀ r ∈ requests, StoresNumbers r) (pod : String) :
    ∀ m ∈ readings pod requests, machineNumber m = true := by
  intro m hm
  obtain ⟨r, hr, hread⟩ := List.mem_filterMap.mp hm
  obtain ⟨reading, hvalid, hpod⟩ := Option.bind_eq_some_iff.mp hread
  obtain ⟨pod', m'⟩ := reading
  split at hpod
  · obtain rfl := Option.some.inj hpod
    exact (h r hr _ _ (checkPayload_of_valid hvalid)).2
  · cases hpod

theorem serve_concat_state (request : Option Json) :
    (serve np (requests ++ [request])).1 =
      (receiveTelemetry np (serve np requests).1 request).1 :=
  Reactive.run_concat_state _ _ _ _

/-- A valid request after a run under the condition. -/
theorem receive_valid (h : ∀ r ∈ requests, StoresNumbers r) {request : Option Json}
    (hreq : StoresNumbers request) {pod : String} {m : Json}
    (hvalid : validReading request = some (pod, m)) :
    ∃ d, decision np ((readings pod (requests ++ [request])).rtake 5) = some d ∧
      (receiveTelemetry np (serve np requests).1 request).2 = ⟨200, .decision d⟩ := by
  have hall : ∀ r ∈ requests ++ [request], StoresNumbers r := by
    intro r hr
    rcases List.mem_append.mp hr with hr | hr
    · exact h r hr
    · rw [List.mem_singleton.mp hr]
      exact hreq
  have hcheck := checkPayload_of_valid hvalid
  have hstate := receiveTelemetry_ok np hcheck (serve np requests).1
  have hhistory : appended (serve np requests).1 (.str pod) m =
      (readings pod (requests ++ [request])).rtake 5 := by
    have htracks := history_run np (requests ++ [request]) (.str pod)
    rw [filterMap_stored hall, serve_concat_state, hstate, AList.lookup_insert,
      Option.getD_some] at htracks
    exact htracks
  have hmachine : ∀ m ∈ (readings pod (requests ++ [request])).rtake 5, machineNumber m = true :=
    fun m hm => readings_machineNumber hall pod m (List.mem_of_mem_drop hm)
  obtain ⟨d, hd⟩ := decision_isSome np hmachine
  refine ⟨d, hd, ?_⟩
  rw [hstate, hhistory, hd]
  rfl

/-- A malformed request under the condition does not reach the store. -/
theorem receive_malformed {request : Option Json} (hreq : StoresNumbers request)
    (hmalformed : validReading request = none) (podHistory : PodHistory) :
    (receiveTelemetry np podHistory request).1 = podHistory := by
  cases hcheck : checkPayload request with
  | error response => rw [receiveTelemetry_error np hcheck]
  | ok payload =>
    obtain ⟨pod, -, hvalid⟩ := validReading_of_checkPayload hreq hcheck
    rw [hvalid] at hmalformed
    cases hmalformed

/-- Whatever the checks let through changes an empty `pod_history`. So a malformed request that
    passes them is no longer without effect. -/
theorem serve_singleton_ne {request : Option Json} {k : DictKey} {m : Json}
    (h : checkPayload request = .ok (k, m)) : (serve np [request]).1 ≠ (serve np []).1 := by
  intro heq
  have hfirst : (serve np [request]).1 = AList.insert k (appended ∅ k m) ∅ :=
    congrArg Prod.fst (receiveTelemetry_ok np h ∅)
  have hlookup := congrArg (AList.lookup k) (hfirst.symm.trans heq)
  rw [AList.lookup_insert] at hlookup
  cases hlookup

/-- **Valid requests are answered.** In a run in which nothing but numbers is stored, wherever a
    valid request comes, it is answered with status 200 and the decision on the last five numeric
    readings of its pod, its own included; and a malformed one leaves `pod_history` as it was. -/
theorem valid_answered (hstores : ∀ r ∈ requests, StoresNumbers r) (n : Nat)
    (request : Option Json) (hn : requests[n]? = some request) :
    (∀ pod m, validReading request = some (pod, m) →
      ∃ d, decision np ((readings pod (requests.take (n + 1))).rtake 5) = some d ∧
        (serve np requests).2[n]? = some ⟨200, .decision d⟩) ∧
      (validReading request = none →
        (serve np (requests.take (n + 1))).1 = (serve np (requests.take n)).1) := by
  have htake : requests.take (n + 1) = requests.take n ++ [request] := by
    rw [List.take_add_one, hn]
    rfl
  have hreq : StoresNumbers request := hstores request (List.mem_of_getElem? hn)
  have hpast : ∀ r ∈ requests.take n, StoresNumbers r :=
    fun r hr => hstores r (List.mem_of_mem_take hr)
  rw [htake]
  constructor
  · intro pod m hvalid
    obtain ⟨d, hd, hresponse⟩ := receive_valid np hpast hreq hvalid
    refine ⟨d, hd, ?_⟩
    rw [serve, Reactive.output_getElem?, hn, Option.map_some]
    exact congrArg some hresponse
  · intro hmalformed
    rw [serve_concat_state]
    exact receive_malformed np hreq hmalformed _

end Runs

/-! ### A string among the readings -/

def exactValue : Json → ℚ
  | .bool b => if b then 1 else 0
  | .int n => n
  | .float q => q
  | .null | .str _ | .arr _ | .obj _ => 0

/-- The slope of the least squares line through `(0, y₀), (1, y₁), …`. -/
def leastSquares (ys : List ℚ) : ℚ :=
  let n : ℚ := ys.length
  let xs : List ℚ := (List.range ys.length).map fun i => (i : ℚ)
  (n * (List.zipWith (· * ·) xs ys).sum - xs.sum * ys.sum) /
    (n * (xs.map fun x => x * x).sum - xs.sum * xs.sum)

/-- One decimal of a number that is not negative. -/
def fixedOne (q : ℚ) : String :=
  let tenths := ⌊q * 10 + 1 / 2⌋
  toString (tenths / 10) ++ "." ++ toString (tenths % 10)

/-- `np.polyfit` and the operations on its slope in exact arithmetic. -/
def exactNumpy : Numpy ℚ where
  polyfit history :=
    if history.all machineNumber then some (leastSquares (history.map exactValue)) else none
  positive slope := slope > 0
  add m slope := exactValue m + slope
  exceeds projectedMem limit := projectedMem > limit
  fixed1 := fixedOne
  polyfit_numbers history _ h := by
    rw [if_pos (List.all_eq_true.mpr h)]
    rfl
  polyfit_str history s h := by
    rw [if_neg]
    intro hall
    exact Bool.false_ne_true (List.all_eq_true.mp hall _ h)

example : decision exactNumpy [.int 100, .int 300, .int 500] =
    some ⟨"RESTART_PROACTIVE", "Memory leak projected (700.0MB exceeds limit of 512MB)."⟩ := by
  decide +kernel

/-- The body the operator's collector sends. -/
def telemetry (pod : String) (memoryMB : Json) : Option Json :=
  some (.obj [("pod_name", .str pod), ("memory_mb", memoryMB)])

/-- A string is stored as a reading, and the second valid request after it fails, where the
    numeric readings of the pod give a decision. -/
theorem string_reading_poisons :
    let requests := [telemetry "web" (.str "n/a"), telemetry "web" (.int 200),
      telemetry "web" (.int 210)]
    validReading (telemetry "web" (.str "n/a")) = none ∧
      (serve exactNumpy (requests.take 1)).1 ≠ (serve exactNumpy []).1 ∧
      validReading (telemetry "web" (.int 210)) = some ("web", .int 210) ∧
      decision exactNumpy ((readings "web" requests).rtake 5) =
        some ⟨"NONE", "Normal operating parameters"⟩ ∧
      (serve exactNumpy requests).2[2]? = some ⟨500, .internalServerError⟩ := by
  have hpasses : checkPayload (telemetry "web" (.str "n/a")) = .ok (.str "web", .str "n/a") := rfl
  exact ⟨rfl, serve_singleton_ne exactNumpy hpasses, rfl, by decide, by decide⟩

theorem storesNumbers_telemetry {pod : String} {m : Json} (hpod : pod ≠ "")
    (hm : machineNumber m = true) : StoresNumbers (telemetry pod m) := by
  intro k m' h
  have hvalid : validReading (telemetry pod m) = some (pod, m) :=
    if_pos ⟨hpod, isNumber_of_machineNumber hm⟩
  rw [checkPayload_of_valid hvalid] at h
  obtain ⟨rfl, rfl⟩ := Prod.mk.inj (Except.ok.inj h)
  exact ⟨⟨pod, rfl⟩, hm⟩

theorem storesNumbers_missing (pod : String) : StoresNumbers (telemetry pod .null) := by
  intro k m h
  have herror : checkPayload (telemetry pod .null) =
      .error ⟨400, .error "Invalid telemetry payload"⟩ := if_pos (Bool.or_true _)
  rw [herror] at h
  cases h

theorem valid_answered_leak :
    let requests := [telemetry "web" (.int 100), telemetry "web" .null,
      telemetry "web" (.int 300), telemetry "web" (.int 500)]
    (∀ pod m, validReading (telemetry "web" (.int 500)) = some (pod, m) →
      ∃ d, decision exactNumpy ((readings pod (requests.take 4)).rtake 5) = some d ∧
        (serve exactNumpy requests).2[3]? = some ⟨200, .decision d⟩) ∧
      (validReading (telemetry "web" (.int 500)) = none →
        (serve exactNumpy (requests.take 4)).1 = (serve exactNumpy (requests.take 3)).1) := by
  refine valid_answered exactNumpy ?_ 3 _ rfl
  intro r hr
  simp only [List.mem_cons, List.not_mem_nil, or_false] at hr
  rcases hr with rfl | rfl | rfl | rfl
  · exact storesNumbers_telemetry (by decide) rfl
  · exact storesNumbers_missing "web"
  · exact storesNumbers_telemetry (by decide) rfl
  · exact storesNumbers_telemetry (by decide) rfl

end HybridOperator.Brain
