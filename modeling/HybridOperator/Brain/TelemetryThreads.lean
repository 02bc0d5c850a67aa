/-
  `receive_telemetry` in the threads of the server.

  Flask serves each request in a thread of its own, and the threads share `pod_history` without a
  lock. `RequestThread` is where a request stands, between two accesses to what is shared: the
  dict, which each statement looks the pod up in again, and the list that it found. A request
  that the checks turn away comes to neither.

  The cell of a pod has the lists that were assigned to `pod_history[pod_name]`, in order: the
  last of them is the entry, and a thread may still work on one before it. With `test` and
  `create` apart, two first requests of a pod may both assign a list, and the reading in the first
  of them is gone. With `len` and `pop` apart, two requests may both remove a reading where one
  would do.

  Proved: `telemetry_threads`. In every interleaving the window of a pod is the newest part of
  what was appended to its list, longer than five by the requests under way at most. A pod whose
  requests do not overlap is served as by `receiveTelemetry`, whatever those of the other pods do.
-/
import HybridOperator.Brain.PodIsolation
import HybridOperator.Lib.Threads

namespace HybridOperator.Brain

open HybridOperator.Lib

/-! ## A request, step by step -/

/-- What a request does next. A number stands for the list that it found. -/
inductive RequestThread (F : Type) where
  /-- `pod_name not in pod_history` -/
  | test (currentMem : Json)
  /-- `pod_history[pod_name] = []` -/
  | create (currentMem : Json)
  /-- `pod_history[pod_name]`, to append to it -/
  | lookup (currentMem : Json)
  | append (currentMem : Json) (list : Nat)
  /-- `pod_history[pod_name]`, for its length -/
  | lookupLen
  | len (list : Nat)
  /-- `pod_history[pod_name]`, to pop from it -/
  | lookupPop
  | pop (list : Nat)
  /-- `history = pod_history[pod_name]` -/
  | lookupHistory
  /-- `len(history) >= 3` -/
  | count (history : Nat)
  /-- `x = np.arange(len(history))` -/
  | arange (history : Nat)
  /-- `y = np.array(history)`, the fit of `x` and `y`, and `slope > 0` -/
  | fit (history : Nat) (x : Nat)
  /-- `history[-1] + slope`, and the rest -/
  | project (history : Nat) (slope : F)
  | answered (response : Response)

section Program

variable {F : Type} (np : Numpy F)

def normalOperation : Response := ⟨200, .decision ⟨"NONE", "Normal operating parameters"⟩⟩

/-- The decision on the slope and the last reading. -/
def projection (slope : F) (last : Json) : Response :=
  let projectedMem := np.add last slope
  if np.exceeds projectedMem memoryLimitMB then
    ⟨200, .decision ⟨"RESTART_PROACTIVE", "Memory leak projected (" ++ np.fixed1 projectedMem ++
      "MB exceeds limit of " ++ toString memoryLimitMB ++ "MB)."⟩⟩
  else normalOperation

/-- One access to the lists of the pod; the entry is the last of them. -/
def RequestThread.step (lists : List (List Json)) :
    RequestThread F → List (List Json) × RequestThread F
  | .test m => (lists, if lists.isEmpty then .create m else .lookup m)
  | .create m => (lists ++ [[]], .lookup m)
  | .lookup m => (lists, .append m (lists.length - 1))
  | .append m list => (lists.modify list (· ++ [m]), .lookupLen)
  | .lookupLen => (lists, .len (lists.length - 1))
  | .len list => (lists, if (lists.getD list []).length > 5 then .lookupPop else .lookupHistory)
  | .lookupPop => (lists, .pop (lists.length - 1))
  | .pop list =>
      -- `pop` from an empty list raises
      if (lists.getD list []).isEmpty then (lists, .answered raised)
      else (lists.modify list List.tail, .lookupHistory)
  | .lookupHistory => (lists, .count (lists.length - 1))
  | .count history =>
      (lists, if (lists.getD history []).length ≥ 3 then .arange history
        else .answered normalOperation)
  | .arange history => (lists, .fit history (lists.getD history []).length)
  | .fit history x =>
      let y := lists.getD history []
      -- `polyfit` raises when the two have different lengths
      match if y.length = x then np.polyfit y else none with
      | none => (lists, .answered raised)
      | some slope =>
          (lists, if np.positive slope then .project history slope else .answered normalOperation)
  | .project history slope =>
      match (lists.getD history []).getLast? with
      | none => (lists, .answered raised)
      | some last => (lists, .answered (projection np slope last))
  | .answered response => (lists, .answered response)

def RequestThread.response? : RequestThread F → Option Response
  | .answered response => some response
  | _ => none

/-- A request that the checks turn away is answered without an access. -/
def requestThread (request : Option Json) : RequestThread F :=
  match checkPayload request with
  | .error response => .answered response
  | .ok (_, currentMem) => .test currentMem

theorem requestThread_error {request : Option Json} {response : Response}
    (h : checkPayload request = .error response) :
    (requestThread request : RequestThread F) = .answered response := by
  rw [requestThread, h]

theorem requestThread_ok {request : Option Json} {payload : DictKey × Json}
    (h : checkPayload request = .ok payload) :
    (requestThread request : RequestThread F) = .test payload.2 := by
  rw [requestThread, h]

def telemetryProgram :
    Threads.Program (List (List Json)) (Option Json) (RequestThread F) Response where
  start := requestThread
  step := RequestThread.step np
  result := RequestThread.response?

abbrev TelemetryWorld (F : Type) :=
  Threads.World (Option DictKey) (List (List Json)) (RequestThread F)

/-- The server after the events, from the empty `pod_history`. -/
def threadsAfter (events : List (Threads.Event (Option Json))) : TelemetryWorld F :=
  Threads.after podOf (telemetryProgram np) [] events

/-- The moves of the pod's requests. -/
def movesOf (k : DictKey) (events : List (Threads.Event (Option Json))) :
    List (RequestThread F) :=
  Threads.ofKey (some k) (Threads.moves podOf (telemetryProgram np) [] events)

/-- What was appended to the list in place `i`, in order. -/
def appendedTo (i : Nat) (moves : List (RequestThread F)) : List Json :=
  moves.filterMap fun
    | .append m list => if list = i then some m else none
    | _ => none

/-- What was appended to any list. -/
def appendedReadings (moves : List (RequestThread F)) : List Json :=
  moves.filterMap fun
    | .append m _ => some m
    | _ => none

/-- The reading that a request has still to append. -/
def RequestThread.held? : RequestThread F → Option Json
  | .test m | .create m | .lookup m | .append m _ => some m
  | _ => none

/-- The pod's requests under way. -/
def underWay (k : DictKey) (world : TelemetryWorld F) : Nat :=
  (Threads.threadsOf (some k) world).countP fun t => t.response?.isNone

end Program

/-! ## A pod whose requests do not overlap -/

section Alone

variable {F : Type} (np : Numpy F)

/-- `receiveTelemetry` on the lists of one pod. -/
def receiveAlone (lists : List (List Json)) (request : Option Json) :
    List (List Json) × Response :=
  match checkPayload request with
  | .error response => (lists, response)
  | .ok (_, currentMem) =>
      let history := Window.shift 5 (lists.getLastD []) currentMem
      ([history], respond (decision np history))

/-- Where the request is that has the lists for itself: they were `lists` when it came. -/
def AloneAt (lists : List (List Json)) (m : Json) (lists' : List (List Json)) :
    RequestThread F → Prop
  | .test m' => m' = m ∧ lists' = lists
  | .create m' => m' = m ∧ lists' = [] ∧ lists = []
  | .lookup m' => m' = m ∧ lists' = [lists.getLastD []]
  | .append m' list => m' = m ∧ lists' = [lists.getLastD []] ∧ list = 0
  | .lookupLen => lists' = [lists.getLastD [] ++ [m]]
  | .len list => lists' = [lists.getLastD [] ++ [m]] ∧ list = 0
  | .lookupPop => lists' = [lists.getLastD [] ++ [m]] ∧ (lists.getLastD [] ++ [m]).length > 5
  | .pop list => lists' = [lists.getLastD [] ++ [m]] ∧
      (lists.getLastD [] ++ [m]).length > 5 ∧ list = 0
  | .lookupHistory => lists' = [Window.shift 5 (lists.getLastD []) m]
  | .count history => lists' = [Window.shift 5 (lists.getLastD []) m] ∧ history = 0
  | .arange history => lists' = [Window.shift 5 (lists.getLastD []) m] ∧ history = 0 ∧
      (Window.shift 5 (lists.getLastD []) m).length ≥ 3
  | .fit history x => lists' = [Window.shift 5 (lists.getLastD []) m] ∧ history = 0 ∧
      (Window.shift 5 (lists.getLastD []) m).length ≥ 3 ∧
      x = (Window.shift 5 (lists.getLastD []) m).length
  | .project history slope => lists' = [Window.shift 5 (lists.getLastD []) m] ∧ history = 0 ∧
      (Window.shift 5 (lists.getLastD []) m).length ≥ 3 ∧
      np.polyfit (Window.shift 5 (lists.getLastD []) m) = some slope ∧ np.positive slope = true
  | .answered response => lists' = [Window.shift 5 (lists.getLastD []) m] ∧
      response = respond (decision np (Window.shift 5 (lists.getLastD []) m))

/-- The pod has no entry yet, or one list and no other. -/
def OneList (lists : List (List Json)) : Prop := lists.length ≤ 1

section OneList

variable (w : List Json)

theorem step_len : (RequestThread.len 0 : RequestThread F).step np [w] =
    ([w], if w.length > 5 then .lookupPop else .lookupHistory) := rfl

theorem step_pop (hne : w ≠ []) : (RequestThread.pop 0 : RequestThread F).step np [w] =
    ([w.tail], .lookupHistory) := by
  cases w with
  | nil => exact absurd rfl hne
  | cons m w => rfl

theorem step_count : (RequestThread.count 0 : RequestThread F).step np [w] =
    ([w], if w.length ≥ 3 then .arange 0 else .answered normalOperation) := rfl

theorem step_fit : (RequestThread.fit 0 w.length : RequestThread F).step np [w] =
    match np.polyfit w with
    | none => ([w], .answered raised)
    | some slope =>
        ([w], if np.positive slope then .project 0 slope else .answered normalOperation) := by
  unfold RequestThread.step
  simp only [List.getD_cons_zero, if_true]

theorem step_project (slope : F) (hne : w ≠ []) :
    (RequestThread.project 0 slope).step np [w] =
      ([w], .answered (projection np slope (w.getLastD .null))) := by
  unfold RequestThread.step
  simp only [List.getD_cons_zero, List.getLast?_eq_some_getLast hne,
    List.getLastD_eq_getLast?, Option.getD_some]

/-- The decision on three readings and more is the one on the slope and the last of them. -/
theorem respond_decision_positive {slope : F} (hlong : w.length ≥ 3)
    (hfit : np.polyfit w = some slope) (hpositive : np.positive slope = true) :
    respond (decision np w) = projection np slope (w.getLastD .null) := by
  rw [decision, if_pos hlong, hfit]
  dsimp only
  rw [if_pos hpositive, projection]
  split
  · rfl
  · rfl

theorem respond_decision_short (hshort : ¬ w.length ≥ 3) :
    respond (decision np w) = normalOperation := by
  rw [decision, if_neg hshort]
  rfl

theorem respond_decision_raised (hlong : w.length ≥ 3) (hfit : np.polyfit w = none) :
    respond (decision np w) = raised := by
  rw [decision, if_pos hlong, hfit]
  rfl

theorem respond_decision_flat {slope : F} (hlong : w.length ≥ 3)
    (hfit : np.polyfit w = some slope) (hflat : ¬ np.positive slope = true) :
    respond (decision np w) = normalOperation := by
  rw [decision, if_pos hlong, hfit]
  dsimp only
  rw [if_neg hflat]
  rfl

end OneList

theorem aloneAt_step {lists lists' : List (List Json)} {m : Json} {t : RequestThread F}
    (hone : OneList lists) (h : AloneAt np lists m lists' t) :
    AloneAt np lists m (t.step np lists').1 (t.step np lists').2 := by
  cases t with
  | test m' =>
    obtain ⟨rfl, rfl⟩ := h
    cases lists' with
    | nil => exact ⟨rfl, rfl, rfl⟩
    | cons w rest =>
      obtain rfl : rest = [] := List.eq_nil_of_length_eq_zero (by
        simp only [OneList, List.length_cons] at hone
        omega)
      exact ⟨rfl, rfl⟩
  | create m' =>
    obtain ⟨rfl, rfl, rfl⟩ := h
    exact ⟨rfl, rfl⟩
  | lookup m' =>
    obtain ⟨rfl, rfl⟩ := h
    exact ⟨rfl, rfl, rfl⟩
  | append m' list =>
    obtain ⟨rfl, rfl, rfl⟩ := h
    exact rfl
  | lookupLen =>
    obtain rfl := h
    exact ⟨rfl, rfl⟩
  | len list =>
    obtain ⟨rfl, rfl⟩ := h
    rw [step_len]
    split
    · rename_i hlong
      exact ⟨rfl, hlong⟩
    · rename_i hshort
      exact congrArg (· :: []) (if_neg hshort).symm
  | lookupPop =>
    obtain ⟨rfl, hlong⟩ := h
    exact ⟨rfl, hlong, rfl⟩
  | pop list =>
    obtain ⟨rfl, hlong, rfl⟩ := h
    rw [step_pop np _ (by simp)]
    exact congrArg (· :: []) (if_pos hlong).symm
  | lookupHistory =>
    obtain rfl := h
    exact ⟨rfl, rfl⟩
  | count history =>
    obtain ⟨rfl, rfl⟩ := h
    rw [step_count]
    split
    · rename_i hlong
      exact ⟨rfl, rfl, hlong⟩
    · rename_i hshort
      exact ⟨rfl, (respond_decision_short np _ hshort).symm⟩
  | arange history =>
    obtain ⟨rfl, rfl, hlong⟩ := h
    exact ⟨rfl, rfl, hlong, rfl⟩
  | fit history x =>
    obtain ⟨rfl, rfl, hlong, rfl⟩ := h
    rw [step_fit]
    cases hfit : np.polyfit (Window.shift 5 (lists.getLastD []) m) with
    | none => exact ⟨rfl, (respond_decision_raised np _ hlong hfit).symm⟩
    | some slope =>
      dsimp only
      split
      · rename_i hpositive
        exact ⟨rfl, rfl, hlong, hfit, hpositive⟩
      · rename_i hflat
        exact ⟨rfl, (respond_decision_flat np _ hlong hfit hflat).symm⟩
  | project history slope =>
    obtain ⟨rfl, rfl, hlong, hfit, hpositive⟩ := h
    have hne : Window.shift 5 (lists.getLastD []) m ≠ [] := by
      intro hnil
      rw [hnil] at hlong
      exact absurd hlong (by decide)
    rw [step_project np _ slope hne]
    exact ⟨rfl, (respond_decision_positive np _ hlong hfit hpositive).symm⟩
  | answered response => exact h

/-- Where the request is, when it has the lists of its pod for itself. -/
def AloneWith (lists : List (List Json)) (request : Option Json) (lists' : List (List Json))
    (t : RequestThread F) : Prop :=
  OneList lists ∧
    match checkPayload request with
    | .error response => lists' = lists ∧ t = .answered response
    | .ok (_, m) => AloneAt np lists m lists' t

theorem response?_eq_some {t : RequestThread F} {response : Response}
    (h : t.response? = some response) : t = .answered response := by
  cases t with
  | answered response' => exact congrArg RequestThread.answered (Option.some.inj h)
  | _ => cases h

theorem serves_telemetry (k : DictKey) :
    Threads.Serves podOf (telemetryProgram np) (some k) (receiveAlone np) OneList
      (AloneWith np) where
  good lists request _ hone := by
    unfold receiveAlone
    split
    · exact hone
    · exact Nat.le_refl 1
  start lists request _ hone := by
    refine ⟨hone, ?_⟩
    cases hcheck : checkPayload request with
    | error response => exact ⟨rfl, requestThread_error hcheck⟩
    | ok payload =>
      have hstart : (telemetryProgram np).start request = .test payload.2 :=
        requestThread_ok hcheck
      rw [hstart]
      exact ⟨rfl, rfl⟩
  step lists request lists' t h hrunning := by
    obtain ⟨hone, h⟩ := h
    refine ⟨hone, ?_⟩
    cases hcheck : checkPayload request with
    | error response =>
      rw [hcheck] at h
      obtain ⟨-, rfl⟩ := h
      cases hrunning
    | ok payload =>
      rw [hcheck] at h
      exact aloneAt_step np hone h
  done lists request lists' t response h hresult := by
    obtain ⟨-, h⟩ := h
    obtain rfl := response?_eq_some hresult
    unfold receiveAlone
    cases hcheck : checkPayload request with
    | error response' =>
      rw [hcheck] at h
      obtain ⟨rfl, hresponse⟩ := h
      rw [RequestThread.answered.inj hresponse]
    | ok payload =>
      rw [hcheck] at h
      obtain ⟨rfl, rfl⟩ := h
      rfl

/-- The requests of one pod are served alike on its lists and on `pod_history`. -/
theorem alone_run (k : DictKey) {requests : List (Option Json)}
    (hown : ∀ r ∈ requests, podOf r = some k) {lists : List (List Json)} {podHistory : PodHistory}
    (h : lists = (podHistory.lookup k).toList) :
    Reactive.run (receiveAlone np) lists requests =
      (((Reactive.run (receiveTelemetry np) podHistory requests).1.lookup k).toList,
        (Reactive.run (receiveTelemetry np) podHistory requests).2) := by
  induction requests generalizing lists podHistory with
  | nil => rw [Reactive.run_nil, Reactive.run_nil, h]
  | cons request requests ih =>
    have hrest := fun r hr => hown r (List.mem_cons_of_mem request hr)
    have hone : receiveAlone np lists request =
        (((receiveTelemetry np podHistory request).1.lookup k).toList,
          (receiveTelemetry np podHistory request).2) := by
      unfold receiveAlone
      cases hcheck : checkPayload request with
      | error response =>
        rw [receiveTelemetry_error np hcheck]
        exact congrArg (·, response) h
      | ok payload =>
        obtain ⟨k', m⟩ := payload
        obtain rfl : k' = k := Option.some.inj
          ((podOf_of_checked hcheck).symm.trans (hown request List.mem_cons_self))
        have hlast : lists.getLastD [] = (podHistory.lookup k').getD [] := by
          rw [h]
          cases podHistory.lookup k' <;> rfl
        rw [receiveTelemetry_ok np hcheck]
        dsimp only
        rw [hlast, AList.lookup_insert]
        rfl
    rw [Reactive.run_cons, Reactive.run_cons, hone, ih hrest rfl]

theorem accepted_filter (k : DictKey) (requests : List (Option Json)) :
    accepted k (requests.filter (concerns k)) = accepted k requests := by
  unfold accepted
  rw [List.filterMap_filter]
  refine List.filterMap_congr fun request _ => ?_
  split
  · rfl
  · rename_i hother
    rw [storedUnder]
    split
    · rename_i k' m hcheck
      refine (if_neg ?_).symm
      rintro rfl
      exact hother (decide_eq_true (podOf_of_checked hcheck))
    · rfl

/-- The pod's answers, and its entry, are those of its own requests one after the other. -/
theorem alone_eq_serve (k : DictKey) (requests : List (Option Json)) :
    Reactive.run (receiveAlone np) [] (requests.filter (concerns k)) =
      (((serve np requests).1.lookup k).toList, responsesTo np k requests) := by
  have hown : ∀ r ∈ requests.filter (concerns k), podOf r = some k :=
    fun r hr => of_decide_eq_true (List.mem_filter.mp hr).2
  have hempty : ([] : List (List Json)) = ((∅ : PodHistory).lookup k).toList := rfl
  rw [alone_run np k hown hempty]
  refine Prod.ext ?_ ?_
  · have hentry := lookup_run np k (requests.filter (concerns k))
    rw [accepted_filter, ← lookup_run np k requests] at hentry
    exact congrArg Option.toList hentry
  · unfold responsesTo serve
    rw [← Reactive.outputsTo_eq_run]
    exact (Reactive.outputsTo_filter (isolated_receive np k) rfl requests).symm

end Alone

/-! ## Any interleaving -/

section Interleaved

variable {F : Type} (np : Numpy F)

/-- The request has appended, and has still to see whether its list is longer than five: the list
    in place `current`, or one that it has yet to look up. -/
def trimming (current : Nat) : RequestThread F → Bool
  | .lookupLen | .lookupPop => true
  | .len list | .pop list => list = current
  | _ => false

/-- The window of the pod is longer than five by the requests that have still to look at it. -/
def Bounded (lists : List (List Json)) (ts : List (RequestThread F)) : Prop :=
  (lists.getLastD []).length ≤ 5 + ts.countP (trimming (lists.length - 1))

/-- Every list is the newest part of what was appended to it. -/
def Suffixes (moves : List (RequestThread F)) (lists : List (List Json)) : Prop :=
  ∀ i w, lists[i]? = some w → w <:+ appendedTo i moves

/-- Every accepted reading was appended once, or is still held by its request. -/
def Conserved (k : DictKey) (requests : List (Option Json)) (moves ts : List (RequestThread F)) :
    Prop :=
  (appendedReadings moves ++ ts.filterMap RequestThread.held?).Perm (accepted k requests)

theorem getLastD_eq_getElem? (lists : List (List Json)) :
    lists.getLastD [] = (lists[lists.length - 1]?).getD [] := by
  rw [List.getLastD_eq_getLast?, List.getLast?_eq_getElem?]

theorem getLastD_eq_getD (lists : List (List Json)) :
    lists.getLastD [] = lists.getD (lists.length - 1) [] := by
  rw [getLastD_eq_getElem?, List.getD_eq_getElem?_getD]

/-- The entry changes when the list that is changed is the entry. -/
theorem getLastD_modify {lists : List (List Json)} {list : Nat} (f : List Json → List Json) :
    (lists.modify list f).getLastD [] =
      if list = lists.length - 1 ∧ lists ≠ [] then f (lists.getLastD [])
      else lists.getLastD [] := by
  rw [getLastD_eq_getElem?, getLastD_eq_getElem?, List.length_modify, List.getElem?_modify]
  cases lists with
  | nil => simp
  | cons w rest =>
    have hlt : (w :: rest).length - 1 < (w :: rest).length := by simp
    rw [List.getElem?_eq_getElem hlt]
    by_cases h : list = (w :: rest).length - 1
    · rw [if_pos ⟨h, List.cons_ne_nil w rest⟩, h]
      simp
    · rw [if_neg fun h' => h h'.1]
      exact if_neg h

/-! ### The length of the window -/

theorem bounded_of_short {lists : List (List Json)} {ts : List (RequestThread F)}
    (h : (lists.getLastD []).length ≤ 5) : Bounded lists ts :=
  Nat.le_add_right_of_le h

/-- The window may grow by the request that has it still to look at. -/
theorem bounded_of_le {lists lists' : List (List Json)} {before later : List (RequestThread F)}
    {t t' : RequestThread F} (h : Bounded lists (before ++ t :: later))
    (hlen : lists'.length = lists.length)
    (hle : (lists'.getLastD []).length + (trimming (lists.length - 1) t).toNat ≤
      (lists.getLastD []).length + (trimming (lists.length - 1) t').toNat) :
    Bounded lists' (before ++ t' :: later) := by
  unfold Bounded at h ⊢
  rw [hlen]
  rw [List.countP_append, List.countP_cons] at h ⊢
  cases ht : trimming (lists.length - 1) t <;> cases ht' : trimming (lists.length - 1) t' <;>
    rw [ht] at h hle <;> rw [ht'] at hle <;> simp at h hle ⊢ <;> omega

theorem bounded_move {lists : List (List Json)} {before later : List (RequestThread F)}
    {t : RequestThread F} (h : Bounded lists (before ++ t :: later)) :
    Bounded (t.step np lists).1 (before ++ (t.step np lists).2 :: later) := by
  cases t with
  | test m =>
    refine bounded_of_le h rfl ?_
    unfold RequestThread.step
    dsimp only
    split <;> exact Nat.le_refl _
  | create m =>
    refine bounded_of_short ?_
    unfold RequestThread.step
    simp
  | lookup m => exact bounded_of_le h rfl (Nat.le_refl _)
  | append m list =>
    refine bounded_of_le h (List.length_modify _ _ _) ?_
    unfold RequestThread.step
    dsimp only
    rw [getLastD_modify]
    split
    · simp [trimming]
    · simp [trimming]
  | lookupLen => exact bounded_of_le h rfl (by simp [RequestThread.step, trimming])
  | len list =>
    unfold RequestThread.step
    dsimp only
    by_cases hlong : (lists.getD list []).length > 5
    · rw [if_pos hlong]
      refine bounded_of_le h rfl (Nat.add_le_add_left ?_ _)
      cases trimming (lists.length - 1) (.len list : RequestThread F) <;> simp [trimming]
    · rw [if_neg hlong]
      by_cases hlist : list = lists.length - 1
      · rw [hlist, ← getLastD_eq_getD] at hlong
        exact bounded_of_short (Nat.le_of_not_gt hlong)
      · -- a list that is no longer the entry
        refine bounded_of_le h rfl ?_
        simp [trimming, hlist]
  | lookupPop => exact bounded_of_le h rfl (by simp [RequestThread.step, trimming])
  | pop list =>
    unfold RequestThread.step
    dsimp only
    by_cases hempty : (lists.getD list []).isEmpty = true
    · rw [if_pos hempty]
      by_cases hlist : list = lists.length - 1
      · rw [hlist, ← getLastD_eq_getD, List.isEmpty_iff] at hempty
        exact bounded_of_short (by rw [hempty]; exact Nat.zero_le 5)
      · refine bounded_of_le h rfl ?_
        simp [trimming, hlist]
    · rw [if_neg hempty]
      refine bounded_of_le h (List.length_modify _ _ _) ?_
      dsimp only
      rw [getLastD_modify]
      by_cases hlist : list = lists.length - 1
      · rw [hlist, ← getLastD_eq_getD, List.isEmpty_iff] at hempty
        have hne : lists ≠ [] := by
          rintro rfl
          exact hempty rfl
        have hpos := List.length_pos_of_ne_nil hempty
        rw [if_pos ⟨hlist, hne⟩, List.length_tail]
        simp only [trimming, hlist, decide_true, Bool.toNat_true, Bool.toNat_false]
        omega
      · rw [if_neg fun h' => hlist h'.1]
        simp [trimming, hlist]
  | lookupHistory => exact bounded_of_le h rfl (Nat.le_refl _)
  | count history =>
    refine bounded_of_le h rfl ?_
    unfold RequestThread.step
    dsimp only
    split <;> exact Nat.le_refl _
  | arange history => exact bounded_of_le h rfl (Nat.le_refl _)
  | fit history x =>
    unfold RequestThread.step
    dsimp only
    split
    · exact bounded_of_le h rfl (Nat.le_refl _)
    · refine bounded_of_le h rfl ?_
      split <;> exact Nat.le_refl _
  | project history slope =>
    unfold RequestThread.step
    dsimp only
    split <;> exact bounded_of_le h rfl (Nat.le_refl _)
  | answered response => exact bounded_of_le h rfl (Nat.le_refl _)

/-! ### What the lists hold -/

theorem appendedTo_concat (i : Nat) (moves : List (RequestThread F)) (t : RequestThread F) :
    appendedTo i (moves ++ [t]) = appendedTo i moves ++ appendedTo i [t] :=
  List.filterMap_append

/-- A list that no move changes stays the newest part of what was appended to it. -/
theorem suffixes_same {moves : List (RequestThread F)} {lists : List (List Json)}
    (h : Suffixes moves lists) {t : RequestThread F} (ht : ∀ i, appendedTo i [t] = []) :
    Suffixes (moves ++ [t]) lists := by
  intro i w hw
  rw [appendedTo_concat, ht, List.append_nil]
  exact h i w hw

theorem suffixes_move {moves : List (RequestThread F)} {lists : List (List Json)}
    (h : Suffixes moves lists) (t : RequestThread F) :
    Suffixes (moves ++ [t]) (t.step np lists).1 := by
  cases t with
  | create m =>
    intro i w hw
    rw [appendedTo_concat]
    rw [RequestThread.step] at hw
    by_cases hi : i < lists.length
    · rw [List.getElem?_append_left hi] at hw
      have hold := h i w hw
      rwa [← List.append_nil (appendedTo i moves)] at hold
    · have hnew : w = [] := by
        rw [List.getElem?_append_right (Nat.le_of_not_lt hi), List.getElem?_singleton] at hw
        split at hw
        · exact (Option.some.inj hw).symm
        · cases hw
      rw [hnew]
      exact List.nil_suffix
  | append m list =>
    intro i w hw
    rw [RequestThread.step, List.getElem?_modify] at hw
    obtain ⟨w', hw', rfl⟩ := Option.map_eq_some_iff.mp hw
    rw [appendedTo_concat]
    by_cases hi : list = i
    · have hsome : appendedTo i [(.append m list : RequestThread F)] = [m] :=
        List.filterMap_cons_some (if_pos hi)
      obtain ⟨dropped, hdropped⟩ := h i w' hw'
      rw [if_pos hi, hsome]
      exact ⟨dropped, by rw [← List.append_assoc, hdropped]⟩
    · rw [if_neg hi]
      have hnone : appendedTo i [(.append m list : RequestThread F)] = [] :=
        List.filterMap_cons_none (if_neg hi)
      rw [hnone, List.append_nil]
      exact h i w' hw'
  | pop list =>
    refine suffixes_same ?_ fun _ => rfl
    rw [RequestThread.step]
    split
    · exact h
    · intro i w hw
      rw [List.getElem?_modify] at hw
      obtain ⟨w', hw', rfl⟩ := Option.map_eq_some_iff.mp hw
      split
      · exact (List.tail_suffix w').trans (h i w' hw')
      · exact h i w' hw'
  | fit history x =>
    refine suffixes_same ?_ fun _ => rfl
    rw [RequestThread.step]
    split <;> exact h
  | project history slope =>
    refine suffixes_same ?_ fun _ => rfl
    rw [RequestThread.step]
    split <;> exact h
  | _ => exact suffixes_same h fun _ => rfl

/-- The reading that a thread holds is appended by its move, or held on. -/
theorem held_step (lists : List (List Json)) (t : RequestThread F) :
    t.held?.toList = appendedReadings [t] ++ (t.step np lists).2.held?.toList := by
  cases t with
  | fit history x =>
    unfold RequestThread.step
    dsimp only
    split
    · rfl
    · dsimp only
      split <;> rfl
  | test m | len list | pop list | count history | project history slope =>
    unfold RequestThread.step
    dsimp only
    split <;> rfl
  | _ => rfl

theorem conserved_move {k : DictKey} {requests : List (Option Json)}
    {moves before later : List (RequestThread F)} {t : RequestThread F} (lists : List (List Json))
    (h : Conserved k requests moves (before ++ t :: later)) :
    Conserved k requests (moves ++ [t]) (before ++ (t.step np lists).2 :: later) := by
  unfold Conserved at h ⊢
  refine List.Perm.trans ?_ h
  have hheld (t' : RequestThread F) : (before ++ t' :: later).filterMap RequestThread.held? =
      before.filterMap RequestThread.held? ++ (t'.held?.toList ++
        later.filterMap RequestThread.held?) := by
    rw [List.filterMap_append, List.filterMap_cons]
    cases t'.held? <;> rfl
  have happended : appendedReadings (moves ++ [t]) =
      appendedReadings moves ++ appendedReadings [t] := List.filterMap_append
  rw [hheld, hheld, held_step np lists t, happended]
  simp only [List.append_assoc]
  refine List.Perm.append_left _ ?_
  rw [← List.append_assoc, ← List.append_assoc (before.filterMap _)]
  exact List.Perm.append_right _ List.perm_append_comm

/-- A request of the pod comes with the reading that it is to append. -/
theorem conserved_arrive {k : DictKey} {requests : List (Option Json)}
    {moves ts : List (RequestThread F)} {request : Option Json} (hpod : podOf request = some k)
    (h : Conserved k requests moves ts) :
    Conserved k (requests ++ [request]) moves (ts ++ [requestThread request]) := by
  have hheld : (requestThread request : RequestThread F).held? = storedUnder k request := by
    cases hcheck : checkPayload request with
    | error response => rw [requestThread_error hcheck, storedUnder, hcheck]; rfl
    | ok payload =>
      obtain ⟨k', m⟩ := payload
      obtain rfl : k' = k := Option.some.inj ((podOf_of_checked hcheck).symm.trans hpod)
      rw [requestThread_ok hcheck, storedUnder_of_checked hcheck]
      rfl
  unfold Conserved at h ⊢
  rw [accepted_concat, List.filterMap_append, ← List.append_assoc, ← hheld]
  have hlast : [(requestThread request : RequestThread F)].filterMap RequestThread.held? =
      ((requestThread request : RequestThread F).held?).toList := by
    rw [List.filterMap_cons]
    cases (requestThread request : RequestThread F).held? <;> rfl
  rw [hlast]
  exact h.append_right _

theorem bounded_arrive {lists : List (List Json)} {ts : List (RequestThread F)}
    (h : Bounded lists ts) (t : RequestThread F) : Bounded lists (ts ++ [t]) := by
  unfold Bounded at h ⊢
  rw [List.countP_append]
  omega

/-- A request that has still to look at its list is under way. -/
theorem countP_trimming_le (current : Nat) (ts : List (RequestThread F)) :
    ts.countP (trimming current) ≤ ts.countP fun t => t.response?.isNone := by
  refine List.countP_mono_left fun t _ ht => ?_
  cases t with
  | answered response => cases ht
  | _ => rfl

/-- What holds of a pod however its requests overlap: the window is the newest part of what was
    appended to its list, longer than five by the requests under way at most, and every accepted
    reading was appended once or is still held by its request. -/
structure Overlapping (k : DictKey) (events : List (Threads.Event (Option Json))) : Prop where
  newest : ((threadsAfter np events).cells (some k)).getLastD [] <:+
    appendedTo (((threadsAfter np events).cells (some k)).length - 1) (movesOf np k events)
  bounded : (((threadsAfter np events).cells (some k)).getLastD []).length ≤
    5 + underWay k (threadsAfter np events)
  conserved : (appendedReadings (movesOf np k events) ++
    (Threads.threadsOf (some k) (threadsAfter np events)).filterMap RequestThread.held?).Perm
      (accepted k (Threads.arrivals events))

theorem overlapping_run (k : DictKey) (events : List (Threads.Event (Option Json))) :
    Overlapping np k events := by
  have hbounded := Threads.run_view podOf (telemetryProgram np) [] (some k)
    (R := fun _ _ lists ts => Bounded lists ts) (Nat.zero_le _)
    (fun _ _ _ _ _ _ h => bounded_arrive h _) (fun _ _ _ _ _ _ h _ => bounded_move np h) events
  have hsuffixes := Threads.run_view podOf (telemetryProgram np) [] (some k)
    (R := fun _ moves lists _ => Suffixes moves lists) (fun _ _ h => by cases h)
    (fun _ _ _ _ _ _ h => h) (fun _ _ _ _ t _ h _ => suffixes_move np h t) events
  have hconserved := Threads.run_view podOf (telemetryProgram np) [] (some k)
    (R := fun requests moves _ ts => Conserved k requests moves ts) (List.Perm.refl _)
    (fun _ _ _ _ _ hpod h => conserved_arrive hpod h)
    (fun _ _ lists _ _ _ h _ => conserved_move np lists h) events
  refine ⟨?_, ?_, ?_⟩
  · rw [getLastD_eq_getElem?]
    cases hlast : ((threadsAfter np events).cells (some k))[
        ((threadsAfter np events).cells (some k)).length - 1]? with
    | none => exact List.nil_suffix
    | some w => exact hsuffixes _ w hlast
  · exact hbounded.trans (Nat.add_le_add_left (countP_trimming_le _ _) 5)
  · unfold Conserved at hconserved
    have hown := accepted_filter k (Threads.arrivals events)
    exact hown ▸ hconserved

/-- **Telemetry in any interleaving.** However the requests of a pod overlap, its window is as in
    `Overlapping`. If they do not overlap, they are answered as by `receiveTelemetry` on the
    requests in the order of arrival, one after the other, and leave the window that it leaves,
    whatever the requests of other pods do in between. -/
theorem telemetry_threads (events : List (Threads.Event (Option Json))) (k : DictKey) :
    Overlapping np k events ∧
      (Threads.Serial podOf (telemetryProgram np) (some k) [] events →
        Threads.resultsOf (telemetryProgram np) (some k) (threadsAfter np events) <+:
            responsesTo np k (Threads.arrivals events) ∧
          (Threads.Idle (telemetryProgram np) (some k) (threadsAfter np events) →
            (threadsAfter np events).cells (some k) =
                ((serve np (Threads.arrivals events)).1.lookup k).toList ∧
              Threads.resultsOf (telemetryProgram np) (some k) (threadsAfter np events) =
                responsesTo np k (Threads.arrivals events))) := by
  refine ⟨overlapping_run np k events, fun hserial => ?_⟩
  have hnone : OneList [] := Nat.zero_le 1
  obtain ⟨hsofar, hidle⟩ := Threads.serial_run (serves_telemetry np k) hnone events hserial
  have halone := alone_eq_serve np k (Threads.arrivals events)
  unfold concerns at halone
  rw [halone] at hsofar hidle
  exact ⟨hsofar, fun h => ⟨congrArg Prod.fst (hidle h), congrArg Prod.snd (hidle h)⟩⟩

/-- Two first requests of `web` both find no entry: the second assigns a list when the first has
    appended, and only its reading is left. -/
example :
    ((threadsAfter exactNumpy ([.arrive (telemetry "web" (.int 100)),
        .arrive (telemetry "web" (.int 200))] ++
          [0, 1, 0, 0, 0, 1, 1, 1].map .run)).cells (some (.str "web"))).getLastD [] =
      [.int 200] := rfl

set_option maxRecDepth 4000 in
/-- The fifth and the sixth reading of `web` are both appended before either request looks at the
    length: both pop, and four readings are left. -/
example :
    ((threadsAfter exactNumpy ((([10, 20, 30, 40].zipIdx).flatMap fun reading =>
        .arrive (telemetry "web" (.int reading.1)) :: List.replicate 6 (.run reading.2)) ++
          [.arrive (telemetry "web" (.int 50)), .arrive (telemetry "web" (.int 60))] ++
          [4, 4, 4, 5, 5, 5, 4, 4, 5, 5, 4, 4, 5, 5].map .run)).cells
        (some (.str "web"))).getLastD [] = [.int 30, .int 40, .int 50, .int 60] := rfl

end Interleaved

end HybridOperator.Brain
