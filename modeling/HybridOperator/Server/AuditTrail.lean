/-
  The audit log against the requests the server handled.

  `step` handles one request to an action handler or to the audit endpoint; a run of the server
  is `Reactive.run` of it. `checked` says, from the request alone, whether it passes the checks
  of its handler, and for which target. `Records` is what the one event of such a request says
  about it.

  Each handler records exactly one event for a request that passes (`handle_of_some`, one case
  for each handler) and none for another (`handle_of_none`). The log keeps the last
  `auditLogCapacity` of the events by `Window.push_rtake`, so over a run it is a window on the
  unbounded history (`audit_refines`).

  Proved: `audit_trail`, about every run: the log, the success flags, the audit queries.
-/
import HybridOperator.Lib.Reactive
import HybridOperator.Server.Actions

namespace HybridOperator.Server

open HybridOperator.Collector HybridOperator.Lib

inductive Input (Body : Type) where
  | approve (r : Request Body)
  | restartPod (r : Request Body)
  | delete (r : Request Body)
  | changeChannel (r : Request Body)
  | auditQuery (nsFilter nameFilter : String)

variable {Body : Type} (codec : Codec Body)

def handle (auditLog : AuditLog) : Input Body → Handled
  | .approve r => handleApproveUpgrade codec auditLog r
  | .restartPod r => handleRestartPod codec auditLog r
  | .delete r => handleDeleteSubscription codec auditLog r
  | .changeChannel r => handleChangeChannel codec auditLog r
  | .auditQuery nsFilter nameFilter => handleGetAuditEvents auditLog nsFilter nameFilter

/-- One request: the new log, the answer and the writes sent. -/
def step (auditLog : AuditLog) (input : Input Body) : AuditLog × Response × WriteLog :=
  let handled := handle codec auditLog input
  (handled.auditLog, handled.response, handled.writes)

/-! ## What is to be recorded -/

def checkedTarget (r : Request Body) : Option Target :=
  if r.method = "POST" then codec.target r.body else none

def checkedChange (r : Request Body) : Option Target :=
  if r.method = "POST" then
    (codec.channelChange r.body).bind fun req =>
      if req.nameSpace = "" ∨ req.name = "" ∨ req.channel = "" then none
      else some ⟨req.nameSpace, req.name⟩
  else none

/-- The target of a request that passes the method, JSON and required-field checks. -/
def checked : Input Body → Option Target
  | .approve r | .restartPod r | .delete r => checkedTarget codec r
  | .changeChannel r => checkedChange codec r
  | .auditQuery _ _ => none

def eventType : Input Body → String
  | .approve _ => "approve"
  | .restartPod _ => "restart"
  | .delete _ => "delete"
  | .changeChannel _ => "channel-change"
  | .auditQuery _ _ => ""

/-- The time the request's event is stamped with. -/
def stamp : Input Body → String
  | .approve r | .restartPod r | .delete r | .changeChannel r => r.now
  | .auditQuery _ _ => ""

/-- The event of a request that passed the checks. -/
structure Records (input : Input Body) (e : AuditEvent) : Prop where
  target : checked codec input = some ⟨e.nameSpace, e.name⟩
  type : e.type = eventType input
  timestamp : e.timestamp = stamp input
  success : ∀ auditLog, e.success = true ↔
    WriteLog.accepted (handle codec auditLog input).writes = true

/-! ## What is recorded -/

variable {codec}

theorem withTarget_of_none {r : Request Body} (h : checkedTarget codec r = none)
    (auditLog : AuditLog) (act : Target → Handled) :
    (withTarget codec auditLog r act).auditLog = auditLog := by
  unfold checkedTarget at h
  unfold withTarget
  split
  · rfl
  · rename_i hmethod
    rw [if_pos (not_not.mp hmethod)] at h
    rw [h]
    rfl

theorem withTarget_of_some {r : Request Body} {target : Target}
    (h : checkedTarget codec r = some target) (auditLog : AuditLog) (act : Target → Handled) :
    withTarget codec auditLog r act = act target := by
  unfold checkedTarget at h
  split at h
  · rename_i hmethod
    unfold withTarget
    rw [if_neg (not_not.mpr hmethod), h]
  · cases h

theorem deletePods_success (dyn : Nat → DynClient) (ns : String) (k : Nat)
    (pods : List Unstructured) :
    (deletePods dyn ns k pods).1.1 = WriteLog.accepted (deletePods dyn ns k pods).2 := by
  induction pods generalizing k with
  | nil => rfl
  | cons pod rest ih =>
    rw [deletePods]
    cases (dyn (k + 1)).delete podGVR ns pod.getName with
    | ok _ => rfl
    | error _ => exact ih (k + 1)

/-- A request that does not pass the checks leaves the log as it was. -/
theorem handle_of_none {input : Input Body} (h : checked codec input = none)
    (auditLog : AuditLog) : (handle codec auditLog input).auditLog = auditLog := by
  cases input with
  | approve r => exact withTarget_of_none h auditLog _
  | restartPod r => exact withTarget_of_none h auditLog _
  | delete r => exact withTarget_of_none h auditLog _
  | changeChannel r =>
    have h : checkedChange codec r = none := h
    unfold checkedChange at h
    unfold handle handleChangeChannel
    dsimp only
    split
    · rfl
    · rename_i hmethod
      rw [if_pos (not_not.mp hmethod)] at h
      cases hbody : codec.channelChange r.body with
      | none => rfl
      | some req =>
        rw [hbody, Option.bind_some] at h
        split at h
        · rename_i hmissing
          dsimp only
          rw [if_pos hmissing]
          rfl
        · cases h
  | auditQuery nsFilter nameFilter => rfl

theorem handleRemediation_of_some {r : Request Body} {target : Target}
    (h : checkedTarget codec r = some target) (eventType action : String) :
    ∃ detail success, ∀ auditLog,
      (handleRemediation codec auditLog r eventType action).auditLog =
          recordAudit auditLog r.now eventType target.nameSpace target.name detail success ∧
        success = WriteLog.accepted
          (handleRemediation codec auditLog r eventType action).writes := by
  refine ⟨(executeRemediationAction r.api action target.nameSpace target.name).1.message,
    (executeRemediationAction r.api action target.nameSpace target.name).1.success,
    fun auditLog => ?_⟩
  rw [handleRemediation, withTarget_of_some h]
  exact ⟨rfl, executeRemediationAction_success _ _ _ _⟩

theorem handleRestartPod_of_some {r : Request Body} {target : Target}
    (h : checkedTarget codec r = some target) :
    ∃ detail success, ∀ auditLog,
      (handleRestartPod codec auditLog r).auditLog =
          recordAudit auditLog r.now "restart" target.nameSpace target.name detail success ∧
        success = WriteLog.accepted (handleRestartPod codec auditLog r).writes := by
  unfold handleRestartPod
  simp only [withTarget_of_some h]
  cases (r.api 0).list podGVR target.nameSpace ("operators.coreos.com/" ++ target.name) with
  | ok pods => exact ⟨_, _, fun auditLog => ⟨rfl, deletePods_success _ _ _ _⟩⟩
  | error _ => exact ⟨_, _, fun auditLog => ⟨rfl, rfl⟩⟩

theorem handleChangeChannel_of_some {r : Request Body} {target : Target}
    (h : checkedChange codec r = some target) :
    ∃ detail success, ∀ auditLog,
      (handleChangeChannel codec auditLog r).auditLog =
          recordAudit auditLog r.now "channel-change" target.nameSpace target.name detail success ∧
        success = WriteLog.accepted (handleChangeChannel codec auditLog r).writes := by
  unfold checkedChange at h
  split at h
  · rename_i hmethod
    obtain ⟨req, hbody, hreq⟩ := Option.bind_eq_some_iff.mp h
    split at hreq
    · cases hreq
    · rename_i hpresent
      obtain rfl := Option.some.inj hreq
      unfold handleChangeChannel
      simp only [hmethod, hbody, ne_eq, not_true_eq_false, if_false, if_neg hpresent]
      split
      · exact ⟨_, _, fun auditLog => ⟨rfl, rfl⟩⟩
      · exact ⟨_, _, fun auditLog => ⟨rfl, rfl⟩⟩
  · cases h

/-- A request that passes the checks records one event about it. -/
theorem handle_of_some {input : Input Body} {target : Target}
    (h : checked codec input = some target) :
    ∃ e, Records codec input e ∧ ∀ auditLog,
      (handle codec auditLog input).auditLog = Window.push auditLogCapacity auditLog e := by
  have hevent : ∃ detail success, ∀ auditLog,
      (handle codec auditLog input).auditLog = recordAudit auditLog (stamp input)
          (eventType input) target.nameSpace target.name detail success ∧
        success = WriteLog.accepted (handle codec auditLog input).writes := by
    cases input with
    | approve r => exact handleRemediation_of_some h _ _
    | restartPod r => exact handleRestartPod_of_some h
    | delete r => exact handleRemediation_of_some h _ _
    | changeChannel r => exact handleChangeChannel_of_some h
    | auditQuery nsFilter nameFilter => cases h
  obtain ⟨detail, success, hall⟩ := hevent
  refine ⟨⟨stamp input, eventType input, target.nameSpace, target.name, detail, success⟩,
    ⟨h, rfl, rfl, fun auditLog => ?_⟩, fun auditLog => (hall auditLog).1⟩
  rw [← (hall auditLog).2]

/-! ## Runs -/

/-- The request passes its handler's checks. -/
def Passes (codec : Codec Body) (input : Input Body) : Bool := (checked codec input).isSome

/-- The log is the window on an unbounded history that has one event for each request that
    passed the checks, in order. -/
def Tracks (codec : Codec Body) (inputs : List (Input Body)) (auditLog : AuditLog) : Prop :=
  ∃ history, auditLog = history.rtake auditLogCapacity ∧
    List.Forall₂ (Records codec) (inputs.filter (Passes codec)) history

theorem step_log (codec : Codec Body) (auditLog : AuditLog) (input : Input Body) :
    (step codec auditLog input).1 = (handle codec auditLog input).auditLog := rfl

theorem tracks_step {past : List (Input Body)} {auditLog : AuditLog}
    (h : Tracks codec past auditLog) (input : Input Body) :
    Tracks codec (past ++ [input]) (step codec auditLog input).1 := by
  obtain ⟨history, hlog, hrecords⟩ := h
  rw [Tracks, List.filter_append, step_log]
  cases hchecked : checked codec input with
  | none =>
    have hpass : Passes codec input = false := by rw [Passes, hchecked]; rfl
    refine ⟨history, (handle_of_none hchecked auditLog).trans hlog, ?_⟩
    rw [List.filter_cons_of_neg (by rw [hpass]; decide), List.filter_nil, List.append_nil]
    exact hrecords
  | some target =>
    have hpass : Passes codec input = true := by rw [Passes, hchecked]; rfl
    obtain ⟨e, he, hpush⟩ := handle_of_some hchecked
    refine ⟨history ++ [e], ?_, ?_⟩
    · rw [hpush, hlog, Window.push_rtake]
    · rw [List.filter_cons_of_pos hpass, List.filter_nil]
      exact List.rel_append hrecords (List.Forall₂.cons he List.Forall₂.nil)

/-- After every run the log tracks the requests of the run. -/
theorem audit_refines (codec : Codec Body) (inputs : List (Input Body)) :
    Tracks codec inputs (Reactive.run (step codec) [] inputs).1 := by
  refine Reactive.run_induction (R := Tracks codec) (P := fun _ => True) _
    ⟨[], rfl, List.Forall₂.nil⟩ ?_ inputs fun _ _ => trivial
  intro past auditLog input h _
  exact tracks_step h input

/-- **The audit trail.** After every run the log holds the last events of the history with one
    event for each request that passed, successful exactly when a write of that request was
    accepted; and an audit query, wherever it comes in a run, gives the matching entries of the
    log at that moment, newest first. -/
theorem audit_trail (codec : Codec Body) :
    (∀ inputs, Tracks codec inputs (Reactive.run (step codec) [] inputs).1) ∧
      ∀ before nsFilter nameFilter after,
        (Reactive.run (step codec) []
            (before ++ .auditQuery nsFilter nameFilter :: after)).2[before.length]? =
          let found := ((Reactive.run (step codec) [] before).1.filter
            (eventMatches nsFilter nameFilter)).reverse
          some (.events found.length found, []) := by
  refine ⟨audit_refines codec, fun before nsFilter nameFilter after => ?_⟩
  rw [Reactive.output_getElem?, List.getElem?_append_right (Nat.le_refl _), Nat.sub_self,
    List.getElem?_cons_zero, Option.map_some, List.take_left', step, handle,
    handleGetAuditEvents_eq]
  rfl

end HybridOperator.Server
