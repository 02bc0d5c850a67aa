/-
  `runTelemetryLoop` and `sendToExternalBrain` of main.go, together with the brain they talk to.

  The system is the operator's `simulatedMemoryTracker` and the brain's `pod_history`; nobody else
  posts to the brain. A round is what one List answers, with what is met at each of its pods: how
  the POST goes, and whether the API server accepts a Delete. A POST may get lost on the way to the
  brain, or on the way back, after the brain has stored the reading. Every answer of the brain is
  decoded, whatever its status; the page of an exception is not JSON.

  The tracker is a float that starts at 420 and grows by 35, so it is a whole number, and exact
  below 2^53.

  Proved: `mitigation_safety`, for every run, every loss of messages and every answer of the API
  server. A pod is evicted only right after the brain decided so, on at least three readings that
  came from this loop; and the tracker counts the rounds since the last accepted eviction.
-/
import HybridOperator.Brain.TelemetryRuns

namespace HybridOperator.Server

open HybridOperator.Lib HybridOperator.Brain

/-! ## The loop -/

structure TelemetryPayload where
  podName : String
  memoryMb : Nat

structure BrainResponse where
  action : String
  reason : String
  globalClusterStatus : String

/-- How a POST to the brain goes. -/
inductive Delivery where
  /-- it does not reach the brain -/
  | lost
  /-- the brain serves it, its answer does not arrive in time -/
  | unanswered
  | answered
deriving DecidableEq

/-- A pod of a listing, with what is met when its turn comes. -/
structure Turn where
  podName : String
  /-- `pod.Status.Phase == corev1.PodRunning` -/
  running : Bool
  delivery : Delivery
  /-- the API server accepts a Delete of the pod -/
  deletable : Bool

/-- What the loop is seen to do. -/
inductive LoopEvent where
  | outbound (payload : TelemetryPayload) (delivery : Delivery)
  | evict (podName : String) (accepted : Bool)
  /-- the tracker grows at the end of a round -/
  | grown

structure MitigationLoop where
  simulatedMemoryTracker : Nat
  podHistory : PodHistory

def MitigationLoop.start : MitigationLoop := ⟨420, ∅⟩

/-- What is returned without an answer. -/
def noFeedback : BrainResponse := ⟨"NONE", "", "UNKNOWN"⟩

/-- `json.NewDecoder(resp.Body).Decode(&result)`: fields that are missing stay empty. -/
def decodeFeedback : ResponseBody → BrainResponse
  | .decision d => ⟨d.action, d.reason, ""⟩
  | .error _ => ⟨"", "", ""⟩
  | .internalServerError => noFeedback

/-- What the payload is encoded as. -/
def TelemetryPayload.body (payload : TelemetryPayload) : Option Json :=
  telemetry payload.podName (.int payload.memoryMb)

section Loop

variable {F : Type} (np : Numpy F)

def sendToExternalBrain (podHistory : PodHistory) (payload : TelemetryPayload) :
    Delivery → PodHistory × BrainResponse
  | .lost => (podHistory, noFeedback)
  | .unanswered => ((receiveTelemetry np podHistory payload.body).1, noFeedback)
  | .answered =>
      let served := receiveTelemetry np podHistory payload.body
      (served.1, decodeFeedback served.2.body)

/-- The body of the loop over the pods. -/
def telemetryTurn (loop : MitigationLoop) (turn : Turn) : MitigationLoop × List LoopEvent :=
  if turn.running then
    let payload : TelemetryPayload := ⟨turn.podName, loop.simulatedMemoryTracker⟩
    let feedback := sendToExternalBrain np loop.podHistory payload turn.delivery
    if feedback.2.action = "RESTART_PROACTIVE" then
      (⟨if turn.deletable then 420 else loop.simulatedMemoryTracker, feedback.1⟩,
        [.outbound payload turn.delivery, .evict turn.podName turn.deletable])
    else (⟨loop.simulatedMemoryTracker, feedback.1⟩, [.outbound payload turn.delivery])
  else (loop, [])

/-- One round of `runTelemetryLoop`; `none` for a List that failed. -/
def telemetryRound (loop : MitigationLoop) :
    Option (List Turn) → MitigationLoop × List LoopEvent
  | none => (loop, [])
  | some pods =>
      let after := Reactive.run (telemetryTurn np) loop pods
      if pods.length > 0 then
        ({ after.1 with simulatedMemoryTracker := after.1.simulatedMemoryTracker + 35 },
          after.2.flatten ++ [.grown])
      else (after.1, after.2.flatten)

/-- The loop after some rounds. -/
def loopAfter (rounds : List (Option (List Turn))) : MitigationLoop :=
  (Reactive.run (telemetryRound np) .start rounds).1

/-- What it did in these rounds, in order. -/
def loopTrace (rounds : List (Option (List Turn))) : List LoopEvent :=
  (Reactive.run (telemetryRound np) .start rounds).2.flatten

end Loop

/-! ## What the events tell -/

/-- The reading of `pod` that an event brings to the brain. -/
def LoopEvent.reading (pod : String) : LoopEvent → Option Json
  | .outbound payload delivery =>
      if payload.podName = pod ∧ delivery ≠ .lost then some (.int payload.memoryMb) else none
  | .evict _ _ | .grown => none

/-- The readings of `pod` that reached the brain. -/
def delivered (pod : String) (events : List LoopEvent) : List Json :=
  events.filterMap (LoopEvent.reading pod)

/-- How often the tracker grew since it was set back last. -/
def level : List LoopEvent → Nat :=
  List.foldl (fun n event => match event with
    | .grown => n + 1
    | .evict _ true => 0
    | .evict _ false | .outbound _ _ => n) 0

/-- After these events an eviction of `pod` is called for: the last of them is an answered POST
    about the pod, and the brain decided for a restart on what it had of the pod. -/
structure Warranted {F : Type} (np : Numpy F) (before : List LoopEvent) (pod : String) : Prop where
  answered : ∃ past memoryMb, before = past ++ [.outbound ⟨pod, memoryMb⟩ .answered]
  decided : ∃ reason, decision np ((delivered pod before).rtake 5) =
    some ⟨"RESTART_PROACTIVE", reason⟩
  three : 3 ≤ (delivered pod before).length

/-- Every eviction is called for when it comes. -/
def EvictionsWarranted {F : Type} (np : Numpy F) (events : List LoopEvent) : Prop :=
  ∀ before pod accepted after, events = before ++ .evict pod accepted :: after →
    Warranted np before pod

theorem delivered_append (pod : String) (events events' : List LoopEvent) :
    delivered pod (events ++ events') = delivered pod events ++ delivered pod events' :=
  List.filterMap_append

theorem level_concat (events : List LoopEvent) (event : LoopEvent) :
    level (events ++ [event]) = match event with
      | .grown => level events + 1
      | .evict _ true => 0
      | .evict _ false | .outbound _ _ => level events := by
  rw [level, List.foldl_append]
  rfl

/-- A further event that is no eviction needs no warrant. -/
theorem evictionsWarranted_concat {F : Type} {np : Numpy F} {events : List LoopEvent}
    (h : EvictionsWarranted np events) {event : LoopEvent}
    (hevent : ∀ pod accepted, event = .evict pod accepted → Warranted np events pod) :
    EvictionsWarranted np (events ++ [event]) := by
  intro before pod accepted after heq
  rcases List.eq_nil_or_concat after with rfl | ⟨rest, last, rfl⟩
  · obtain ⟨hbefore, hlast⟩ := List.append_inj' heq rfl
    rw [← hbefore]
    exact hevent pod accepted (List.singleton_inj.mp hlast)
  · rw [List.concat_eq_append, ← List.cons_append, ← List.append_assoc] at heq
    exact h before pod accepted rest (List.append_inj' heq rfl).1

/-! ## One exchange -/

section Exchange

variable {F : Type} {np : Numpy F}

theorem checkPayload_body {payload : TelemetryPayload} (hname : payload.podName ≠ "") :
    checkPayload payload.body = .ok (.str payload.podName, .int payload.memoryMb) :=
  checkPayload_of_valid (if_pos ⟨hname, rfl⟩)

theorem checkPayload_unnamed {payload : TelemetryPayload} (hname : payload.podName = "") :
    checkPayload payload.body = .error ⟨400, .error "Invalid telemetry payload"⟩ := by
  rw [TelemetryPayload.body, hname]
  rfl

/-- The brain's windows are those on the readings that were delivered. -/
def Mirrors (events : List LoopEvent) (podHistory : PodHistory) : Prop :=
  ∀ pod, pod ≠ "" → (podHistory.lookup (.str pod)).getD [] = (delivered pod events).rtake 5

theorem mirrors_of_no_reading {events : List LoopEvent} {podHistory : PodHistory}
    (h : Mirrors events podHistory) {event : LoopEvent}
    (hevent : ∀ pod, pod ≠ "" → event.reading pod = none) :
    Mirrors (events ++ [event]) podHistory := by
  intro pod hpod
  rw [delivered_append, delivered, delivered, List.filterMap_cons_none (hevent pod hpod),
    List.filterMap_nil, List.append_nil]
  exact h pod hpod

variable (np) in
/-- A POST that the brain serves is mirrored. -/
theorem mirrors_served {events : List LoopEvent} {podHistory : PodHistory}
    (h : Mirrors events podHistory) (payload : TelemetryPayload) {delivery : Delivery}
    (hdelivery : delivery ≠ .lost) :
    Mirrors (events ++ [.outbound payload delivery])
      (receiveTelemetry np podHistory payload.body).1 := by
  by_cases hname : payload.podName = ""
  · rw [receiveTelemetry_error np (checkPayload_unnamed hname)]
    refine mirrors_of_no_reading h fun pod hpod => if_neg fun hread => hpod ?_
    rw [← hread.1, hname]
  · rw [receiveTelemetry_ok np (checkPayload_body hname)]
    intro pod hpod
    by_cases hown : payload.podName = pod
    · have hreading : LoopEvent.reading pod (.outbound payload delivery) =
          some (.int payload.memoryMb) := if_pos ⟨hown, hdelivery⟩
      rw [← hown, AList.lookup_insert, Option.getD_some, appended, h _ hname,
        Window.shift_rtake, hown, delivered_append]
      congr 2
      rw [delivered, List.filterMap_cons_some hreading, List.filterMap_nil]
    · have hother : DictKey.str pod ≠ .str payload.podName :=
        fun heq => hown (DictKey.str.inj heq).symm
      have hreading : LoopEvent.reading pod (.outbound payload delivery) = none :=
        if_neg fun hread => hown hread.1
      rw [AList.lookup_insert_ne hother, delivered_append, delivered, delivered,
        List.filterMap_cons_none hreading, List.filterMap_nil, List.append_nil]
      exact h pod hpod

variable (np) in
theorem mirrors_send {events : List LoopEvent} {podHistory : PodHistory}
    (h : Mirrors events podHistory) (payload : TelemetryPayload) (delivery : Delivery) :
    Mirrors (events ++ [.outbound payload delivery])
      (sendToExternalBrain np podHistory payload delivery).1 := by
  cases delivery with
  | lost => exact mirrors_of_no_reading h fun pod _ => if_neg fun hread => hread.2 rfl
  | unanswered => exact mirrors_served np h payload (by decide)
  | answered => exact mirrors_served np h payload (by decide)

theorem decision_of_short {history : List Json} (h : history.length < 3) :
    decision np history = some ⟨"NONE", "Normal operating parameters"⟩ := by
  unfold decision
  dsimp only
  rw [if_neg (by omega)]

theorem noFeedback_action : noFeedback.action ≠ "RESTART_PROACTIVE" := by decide

/-- An answer about a named pod carries the decision on the last five readings delivered; there is
    none where the brain's handler raises. -/
theorem sendToExternalBrain_answered {events : List LoopEvent} {podHistory : PodHistory}
    (h : Mirrors events podHistory) {payload : TelemetryPayload} (hname : payload.podName ≠ "") :
    (sendToExternalBrain np podHistory payload .answered).2 =
      ((decision np ((delivered payload.podName
        (events ++ [.outbound payload .answered])).rtake 5)).map fun d =>
          decodeFeedback (.decision d)).getD noFeedback := by
  have hdelivery : Delivery.answered ≠ .lost := by decide
  have hwindow := mirrors_served np h payload hdelivery payload.podName hname
  unfold sendToExternalBrain
  dsimp only
  rw [receiveTelemetry_ok np (checkPayload_body hname)] at hwindow ⊢
  rw [AList.lookup_insert, Option.getD_some] at hwindow
  dsimp only
  rw [hwindow]
  cases decision np
      ((delivered payload.podName (events ++ [.outbound payload .answered])).rtake 5) <;> rfl

/-- Nor does an unnamed pod get a restart. -/
theorem sendToExternalBrain_unnamed {podHistory : PodHistory} {payload : TelemetryPayload}
    (hname : payload.podName = "") :
    (sendToExternalBrain np podHistory payload .answered).2.action = "" := by
  unfold sendToExternalBrain
  dsimp only
  rw [receiveTelemetry_error np (checkPayload_unnamed hname)]
  rfl

/-- Feedback to restart is the brain's answer, and its decision on at least three readings. -/
theorem warranted_of_feedback {events : List LoopEvent} {podHistory : PodHistory}
    (h : Mirrors events podHistory) {payload : TelemetryPayload} {delivery : Delivery}
    (hfeedback : (sendToExternalBrain np podHistory payload delivery).2.action =
      "RESTART_PROACTIVE") :
    Warranted np (events ++ [.outbound payload delivery]) payload.podName := by
  cases delivery with
  | lost => exact absurd hfeedback noFeedback_action
  | unanswered => exact absurd hfeedback noFeedback_action
  | answered =>
    by_cases hname : payload.podName = ""
    · rw [sendToExternalBrain_unnamed hname] at hfeedback
      exact absurd hfeedback (by decide)
    · rw [sendToExternalBrain_answered h hname] at hfeedback
      cases hdecision : decision np
          ((delivered payload.podName (events ++ [.outbound payload .answered])).rtake 5) with
      | none =>
        rw [hdecision] at hfeedback
        exact absurd hfeedback noFeedback_action
      | some d =>
        rw [hdecision] at hfeedback
        obtain ⟨action, reason⟩ := d
        have haction : action = "RESTART_PROACTIVE" := hfeedback
        subst haction
        refine ⟨⟨events, payload.memoryMb, rfl⟩, ⟨reason, hdecision⟩, ?_⟩
        by_contra hshort
        have hlen := Window.length_rtake
          (delivered payload.podName (events ++ [.outbound payload .answered])) 5
        rw [decision_of_short (by omega)] at hdecision
        exact absurd hdecision (by simp)

end Exchange

/-! ## Runs -/

section Runs

variable {F : Type} (np : Numpy F)

/-- What holds of the events so far and of the loop. -/
structure LoopInv (events : List LoopEvent) (loop : MitigationLoop) : Prop where
  mirrors : Mirrors events loop.podHistory
  warranted : EvictionsWarranted np events
  tracker : loop.simulatedMemoryTracker = 420 + 35 * level events

variable {np}

theorem loopInv_turn {events : List LoopEvent} {loop : MitigationLoop}
    (h : LoopInv np events loop) (turn : Turn) :
    LoopInv np (events ++ (telemetryTurn np loop turn).2) (telemetryTurn np loop turn).1 := by
  unfold telemetryTurn
  dsimp only
  split
  · have hmirrors := mirrors_send np h.mirrors
      ⟨turn.podName, loop.simulatedMemoryTracker⟩ turn.delivery
    have hwarranted : EvictionsWarranted np
        (events ++ [.outbound ⟨turn.podName, loop.simulatedMemoryTracker⟩ turn.delivery]) :=
      evictionsWarranted_concat h.warranted fun _ _ heq => nomatch heq
    have htracker : loop.simulatedMemoryTracker = 420 + 35 * level
        (events ++ [.outbound ⟨turn.podName, loop.simulatedMemoryTracker⟩ turn.delivery]) := by
      rw [level_concat]
      exact h.tracker
    split
    · rename_i hrestart
      have hcalled := warranted_of_feedback h.mirrors hrestart
      rw [← List.singleton_append, ← List.append_assoc]
      refine ⟨mirrors_of_no_reading hmirrors fun _ _ => rfl,
        evictionsWarranted_concat hwarranted fun pod accepted heq => ?_, ?_⟩
      · rw [← (LoopEvent.evict.inj heq).1]
        exact hcalled
      · rw [level_concat]
        cases turn.deletable with
        | true => rfl
        | false => exact htracker
    · exact ⟨hmirrors, hwarranted, htracker⟩
  · rw [List.append_nil]
    exact h

theorem loopInv_round {events : List LoopEvent} {loop : MitigationLoop}
    (h : LoopInv np events loop) (round : Option (List Turn)) :
    LoopInv np (events ++ (telemetryRound np loop round).2) (telemetryRound np loop round).1 := by
  cases round with
  | none =>
    rw [telemetryRound, List.append_nil]
    exact h
  | some pods =>
    have hpods := Reactive.run_trace (R := LoopInv np) (P := fun _ => True) (telemetryTurn np)
      (fun _ _ turn _ hturn => loopInv_turn hturn turn) h pods fun _ _ => trivial
    unfold telemetryRound
    dsimp only
    split
    · rw [← List.append_assoc]
      refine ⟨mirrors_of_no_reading hpods.mirrors fun _ _ => rfl,
        evictionsWarranted_concat hpods.warranted fun _ _ heq => (nomatch heq), ?_⟩
      rw [level_concat]
      dsimp only
      rw [hpods.tracker]
      omega
    · exact hpods

theorem loopInv_start : LoopInv np [] .start :=
  ⟨fun _ _ => rfl, fun before pod accepted after heq => by simp at heq, rfl⟩

variable (np)

theorem loopInv_run (rounds : List (Option (List Turn))) :
    LoopInv np (loopTrace np rounds) (loopAfter np rounds) :=
  Reactive.run_trace (R := LoopInv np) (P := fun _ => True) (telemetryRound np)
    (fun _ _ round _ h => loopInv_round h round) loopInv_start rounds fun _ _ => trivial

/-- **Safety of the mitigation.** In every run, whatever messages get lost and whatever the API
    server answers: a pod is evicted only right after the brain answered a POST about it and
    decided for a restart, on at least three readings of this loop; the brain's windows hold what
    was delivered; the tracker counts the rounds since the last accepted eviction. -/
theorem mitigation_safety (rounds : List (Option (List Turn))) :
    EvictionsWarranted np (loopTrace np rounds) ∧
      Mirrors (loopTrace np rounds) (loopAfter np rounds).podHistory ∧
      (loopAfter np rounds).simulatedMemoryTracker = 420 + 35 * level (loopTrace np rounds) :=
  ⟨(loopInv_run np rounds).warranted, (loopInv_run np rounds).mirrors,
    (loopInv_run np rounds).tracker⟩

end Runs

end HybridOperator.Server
