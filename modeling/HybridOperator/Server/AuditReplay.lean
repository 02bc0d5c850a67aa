/-
  The audit log as a record of what the operator has done to the cluster.

  The state is the cluster of ReapproveEffect and the audit log. Between the requests anybody
  else may change the cluster in any way. Of the API server it is assumed that an Update of an
  InstallPlan is accepted only when the stored plan is still the one that was listed, which is
  what the `resourceVersion` in the object is for (`Optimistic`). What a merge patch makes of an
  object is a parameter.

  An event says in its texts what was done: the detail of an approval names the plan, that of a
  restart the pod, that of a channel change the channel. `replayEvent` does again what an event
  says, on any cluster.

  Proved: `audit_replay`, about every run. Replaying the recorded events in the place of the
  requests, with the changes of the others in between, gives the same cluster; and the log is the
  last of these events.
-/
import HybridOperator.Server.ChannelPatch
import HybridOperator.Server.Mux

namespace HybridOperator.Server

open HybridOperator.Collector HybridOperator.Lib

/-! ## Replaying -/

/-- The text behind a beginning. -/
def behind (start text : String) : String := String.ofList (text.toList.drop start.toList.length)

/-- The text between a beginning and an end. -/
def between (start stop text : String) : String :=
  String.ofList ((behind start text).toList.take
    ((behind start text).toList.length - stop.toList.length))

theorem behind_append (start text : String) : behind start (start ++ text) = text := by
  rw [behind, String.toList_append, List.drop_left', String.ofList_toList]
  rfl

theorem between_append (start stop text : String) :
    between start stop (start ++ text ++ stop) = text := by
  rw [between, String.append_assoc, behind_append, String.toList_append, List.length_append,
    Nat.add_sub_cancel, List.take_left', String.ofList_toList]
  rfl

section Replay

variable (mergePatch : Unstructured → String → Unstructured) (isPrint : Char → Bool)

/-- The cluster after what a successful event says. -/
def replayEvent (cluster : Cluster) (e : AuditEvent) : Cluster :=
  if e.success then
    match e.type with
    | "approve" =>
        let plan := behind "Successfully approved stuck InstallPlan " e.detail
        cluster.store installPlanGVR e.nameSpace plan
          ((cluster installPlanGVR e.nameSpace plan).bind setApproved)
    | "restart" =>
        cluster.store podGVR e.nameSpace (between "Pod " " deleted successfully" e.detail) none
    | "delete" => cluster.store subscriptionGVR e.nameSpace e.name none
    | "channel-change" =>
        cluster.store subscriptionGVR e.nameSpace e.name
          ((cluster subscriptionGVR e.nameSpace e.name).map
            (mergePatch · (channelPatch isPrint (behind "channel -> " e.detail))))
    | _ => cluster
  else cluster

/-- What a request leaves behind: the event it recorded, or another party's change. -/
inductive Item where
  | event (e : AuditEvent)
  | world (change : Cluster → Cluster)

def Item.event? : Item → Option AuditEvent
  | .event e => some e
  | .world _ => none

def replayItem (cluster : Cluster) : Item → Cluster
  | .event e => replayEvent mergePatch isPrint cluster e
  | .world change => change cluster

end Replay

/-! ## The system -/

/-- The cluster and the operator's log of what it did to it. -/
structure World where
  cluster : Cluster
  auditLog : AuditLog

inductive Happening (Body : Type) where
  | request (input : Input Body)
  | world (change : Cluster → Cluster)

variable {Body : Type} (mergePatch : Unstructured → String → Unstructured) (codec : Codec Body)

/-- The event of a request that passed its checks is the last one of the log after it. -/
def recorded (auditLog : AuditLog) (input : Input Body) : Option AuditEvent :=
  if (checked codec input).isSome then (handle codec auditLog input).auditLog.getLast? else none

def worldStep (w : World) : Happening Body → World × List Item
  | .request input =>
      let handled := handle codec w.auditLog input
      (⟨w.cluster.afterWrites mergePatch handled.writes, handled.auditLog⟩,
        ((recorded codec w.auditLog input).map Item.event).toList)
  | .world change => (⟨change w.cluster, w.auditLog⟩, [.world change])

def worldAfter (cluster : Cluster) (happenings : List (Happening Body)) : World :=
  (Reactive.run (worldStep mergePatch codec) ⟨cluster, []⟩ happenings).1

def itemsOf (cluster : Cluster) (happenings : List (Happening Body)) : List Item :=
  (Reactive.run (worldStep mergePatch codec) ⟨cluster, []⟩ happenings).2.flatten

/-- An Update is accepted only of the stored plan. -/
def Optimistic (cluster : Cluster) : Input Body → Prop
  | .approve r => ∀ target plans i p, codec.target r.body = some target →
      (r.api 0).list installPlanGVR target.nameSpace "" = .ok plans → plans[i]? = some p →
        accepts r.api target.nameSpace i p = true →
          cluster installPlanGVR target.nameSpace p.getName = some p
  | .restartPod _ | .delete _ | .changeChannel _ | .auditQuery _ _ => True

/-! ## One request -/

section Requests

/-- The request of a target records this event, and the cluster is as if it was replayed. -/
def Replays (cluster : Cluster) (auditLog : AuditLog) (handled : Handled) : Prop :=
  ∃ e, handled.auditLog = Window.push auditLogCapacity auditLog e ∧
    cluster.afterWrites mergePatch handled.writes =
      replayEvent mergePatch codec.isPrint cluster e

variable {mergePatch codec} {cluster : Cluster}

/-- A failed event is replayed by doing nothing. -/
theorem replayEvent_failed {e : AuditEvent} (h : e.success = false) :
    replayEvent mergePatch codec.isPrint cluster e = cluster := by
  rw [replayEvent, h]
  rfl

theorem afterWrites_rejected {writes : WriteLog} (h : writes.filter Prod.snd = []) :
    cluster.afterWrites mergePatch writes = cluster := by
  rw [Cluster.afterWrites_eq_filter, h]
  rfl

theorem target_of_checked {r : Request Body} {target : Target}
    (h : checkedTarget codec r = some target) : codec.target r.body = some target := by
  unfold checkedTarget at h
  split at h
  · exact h
  · cases h

theorem replays_approve {r : Request Body} {target : Target}
    (hchecked : checkedTarget codec r = some target)
    (hoptimistic : Optimistic codec cluster (.approve r)) (auditLog : AuditLog) :
    Replays mergePatch codec cluster auditLog
      (handleApproveUpgrade codec auditLog r) := by
  rw [handleApproveUpgrade, handleRemediation, withTarget_of_some hchecked]
  dsimp only
  refine ⟨_, rfl, ?_⟩
  rcases reapprove_outcome r.api target.nameSpace target.name with
    ⟨hfail, hlog, -⟩ | ⟨plans, i, ip, ip', hlist, hfirst, happ, hset, hresult, hlog, -⟩
  · rw [replayEvent_failed hfail, afterWrites_rejected hlog]
  · have hstored := hoptimistic target plans i ip (target_of_checked hchecked) hlist hfirst.1
      (by simpa using hfirst.2.1)
    have hplan : behind "Successfully approved stuck InstallPlan "
        (approvedResult ⟨"REAPPROVE_INSTALLPLAN", target.name, target.nameSpace, false, ""⟩
          ip').message = ip.getName := by
      rw [← getName_setApproved hset]
      exact behind_append _ _
    rw [Cluster.afterWrites_eq_filter, hlog, hresult]
    unfold replayEvent
    dsimp only
    rw [hplan, hstored, Option.bind_some, hset, ← getName_setApproved hset]
    rfl

/-- The loop over the pods ends with one that it names, or with no accepted Delete. -/
theorem deletePods_outcome (dyn : Nat → DynClient) (ns : String) (k : Nat)
    (pods : List Unstructured) :
    ((deletePods dyn ns k pods).1.1 = false ∧
      (deletePods dyn ns k pods).2.filter Prod.snd = []) ∨
    ∃ pod, (deletePods dyn ns k pods).1 = (true, "Pod " ++ pod ++ " deleted successfully") ∧
      (deletePods dyn ns k pods).2.filter Prod.snd = [(.delete podGVR ns pod, true)] := by
  induction pods generalizing k with
  | nil => exact .inl ⟨rfl, rfl⟩
  | cons pod rest ih =>
    rw [deletePods]
    cases (dyn (k + 1)).delete podGVR ns pod.getName with
    | ok _ => exact .inr ⟨pod.getName, rfl, rfl⟩
    | error _ => exact ih (k + 1)

theorem replays_restartPod {r : Request Body} {target : Target}
    (hchecked : checkedTarget codec r = some target) (auditLog : AuditLog) :
    Replays mergePatch codec cluster auditLog
      (handleRestartPod codec auditLog r) := by
  unfold handleRestartPod
  rw [withTarget_of_some hchecked]
  dsimp only
  refine ⟨_, rfl, ?_⟩
  cases (r.api 0).list podGVR target.nameSpace ("operators.coreos.com/" ++ target.name) with
  | error _ => rfl
  | ok pods =>
    rcases deletePods_outcome r.api target.nameSpace 0 pods with
      ⟨hfail, hlog⟩ | ⟨pod, hresult, hlog⟩
    · rw [replayEvent_failed hfail, afterWrites_rejected hlog]
    · obtain ⟨hsuccess, hdetail⟩ := Prod.mk.inj hresult
      rw [Cluster.afterWrites_eq_filter, hlog]
      dsimp only
      rw [hsuccess, hdetail]
      unfold replayEvent
      dsimp only
      rw [between_append]
      rfl

theorem replays_delete {r : Request Body} {target : Target}
    (hchecked : checkedTarget codec r = some target) (auditLog : AuditLog) :
    Replays mergePatch codec cluster auditLog
      (handleDeleteSubscription codec auditLog r) := by
  rw [handleDeleteSubscription, handleRemediation, withTarget_of_some hchecked]
  dsimp only
  refine ⟨_, rfl, ?_⟩
  unfold executeRemediationAction
  rw [if_neg (by decide), if_pos rfl]
  cases (r.api 0).delete subscriptionGVR target.nameSpace target.name with
  | error err => rfl
  | ok _ => rfl

theorem replays_changeChannel {r : Request Body} {target : Target}
    (hchecked : checkedChange codec r = some target) (auditLog : AuditLog) :
    Replays mergePatch codec cluster auditLog
      (handleChangeChannel codec auditLog r) := by
  unfold checkedChange at hchecked
  split at hchecked
  · rename_i hmethod
    obtain ⟨req, hbody, hreq⟩ := Option.bind_eq_some_iff.mp hchecked
    split at hreq
    · cases hreq
    · rename_i hpresent
      unfold handleChangeChannel
      simp only [hmethod, hbody, ne_eq, not_true_eq_false, if_false, if_neg hpresent]
      split
      · exact ⟨_, rfl, rfl⟩
      · refine ⟨_, rfl, ?_⟩
        unfold replayEvent
        dsimp only
        rw [behind_append]
        rfl
  · cases hchecked

variable (mergePatch) in
/-- A request that passes its checks. -/
theorem replays_of_checked {input : Input Body} {target : Target}
    (hchecked : checked codec input = some target) (hoptimistic : Optimistic codec cluster input)
    (auditLog : AuditLog) :
    Replays mergePatch codec cluster auditLog (handle codec auditLog input) := by
  cases input with
  | approve r => exact replays_approve hchecked hoptimistic auditLog
  | restartPod r => exact replays_restartPod hchecked auditLog
  | delete r => exact replays_delete hchecked auditLog
  | changeChannel r => exact replays_changeChannel hchecked auditLog
  | auditQuery nsFilter nameFilter => cases hchecked

variable (mergePatch) in
/-- A request that does not pass sends nothing. -/
theorem afterWrites_of_unchecked {input : Input Body} (h : checked codec input = none)
    (auditLog : AuditLog) :
    cluster.afterWrites mergePatch (handle codec auditLog input).writes = cluster := by
  have hnone : (handle codec auditLog input).writes = [] := by
    refine List.eq_nil_iff_forall_not_mem.mpr fun w hw => ?_
    obtain ⟨target, htarget, -⟩ := sends_of_mem hw
    rw [h] at htarget
    cases htarget
  rw [hnone]
  rfl

variable (mergePatch codec) in
/-- One request, and the replay of what it recorded. -/
theorem replay_request {input : Input Body} (hoptimistic : Optimistic codec cluster input)
    (auditLog : AuditLog) :
    cluster.afterWrites mergePatch (handle codec auditLog input).writes =
        ((recorded codec auditLog input).map Item.event).toList.foldl
          (replayItem mergePatch codec.isPrint) cluster ∧
      ∀ history, auditLog = history.rtake auditLogCapacity →
        (handle codec auditLog input).auditLog =
          (history ++ (recorded codec auditLog input).toList).rtake auditLogCapacity := by
  unfold recorded
  cases hchecked : checked codec input with
  | none =>
    refine ⟨afterWrites_of_unchecked mergePatch hchecked auditLog, fun history hlog => ?_⟩
    rw [handle_of_none hchecked, hlog]
    exact (congrArg (·.rtake auditLogCapacity) (List.append_nil history)).symm
  | some target =>
    obtain ⟨e, hpush, hreplay⟩ := replays_of_checked mergePatch hchecked hoptimistic auditLog
    have hlast : (Window.push auditLogCapacity auditLog e).getLast? = some e := by
      have hpushed : (auditLog ++ [e]).rtake auditLogCapacity = auditLog.rtake 499 ++ [e] :=
        List.rtake_concat_succ _ _ _
      rw [Window.push_eq_rtake, hpushed, List.getLast?_concat]
    rw [Option.isSome_some, if_pos rfl, hpush, hlast]
    refine ⟨hreplay, fun history hlog => ?_⟩
    rw [hlog, Window.push_rtake]
    rfl

end Requests

/-! ## Runs -/

section Runs

/-- The API server accepts an Update only of the stored plan, throughout the run. -/
def OptimisticRun (cluster : Cluster) (happenings : List (Happening Body)) : Prop :=
  ∀ before input after, happenings = before ++ .request input :: after →
    Optimistic codec (worldAfter mergePatch codec cluster before).cluster input

/-- The state is what the items give. -/
structure ReplayInv (cluster : Cluster) (items : List Item) (w : World) : Prop where
  cluster : w.cluster = items.foldl (replayItem mergePatch codec.isPrint) cluster
  log : w.auditLog = (items.filterMap Item.event?).rtake auditLogCapacity

variable {mergePatch codec}

/-- Items without other parties' changes. -/
theorem items_eq_events {items : List Item} (h : ∀ change, .world change ∉ items) :
    items = (items.filterMap Item.event?).map Item.event := by
  induction items with
  | nil => rfl
  | cons item items ih =>
    have hrest := ih fun change hmem => h change (List.mem_cons_of_mem item hmem)
    cases item with
    | event e =>
      have hevent : Item.event? (.event e) = some e := rfl
      rw [List.filterMap_cons_some hevent, List.map_cons, ← hrest]
    | world change => exact absurd List.mem_cons_self (h change)

theorem replayInv_step {cluster : Cluster} {items : List Item} {w : World}
    (h : ReplayInv mergePatch codec cluster items w) (happening : Happening Body)
    (hoptimistic : ∀ input, happening = .request input → Optimistic codec w.cluster input) :
    ReplayInv mergePatch codec cluster (items ++ (worldStep mergePatch codec w happening).2)
      (worldStep mergePatch codec w happening).1 := by
  cases happening with
  | request input =>
    obtain ⟨hcluster, hlog⟩ :=
      replay_request mergePatch codec (hoptimistic input rfl) w.auditLog
    refine ⟨?_, ?_⟩
    · rw [List.foldl_append, ← h.cluster]
      exact hcluster
    · have hevents : (((recorded codec w.auditLog input).map Item.event).toList).filterMap
          Item.event? = (recorded codec w.auditLog input).toList := by
        cases recorded codec w.auditLog input <;> rfl
      have hstep : (worldStep mergePatch codec w (.request input)).2 =
          ((recorded codec w.auditLog input).map Item.event).toList := rfl
      rw [hstep, List.filterMap_append, hevents]
      exact hlog _ h.log
  | world change =>
    refine ⟨?_, ?_⟩
    · rw [List.foldl_append, ← h.cluster]
      rfl
    · have hevents : (worldStep mergePatch codec w (.world change)).2.filterMap Item.event? = [] :=
        rfl
      rw [List.filterMap_append, hevents, List.append_nil]
      exact h.log

variable (mergePatch codec)

theorem replayInv_run (cluster : Cluster) (happenings : List (Happening Body))
    (hrun : OptimisticRun mergePatch codec cluster happenings) :
    ReplayInv mergePatch codec cluster (itemsOf mergePatch codec cluster happenings)
      (worldAfter mergePatch codec cluster happenings) := by
  induction happenings using List.reverseRecOn with
  | nil => exact ⟨rfl, (List.drop_nil).symm⟩
  | append_singleton happenings happening ih =>
    have hbefore := ih fun before input after heq =>
      hrun before input (after ++ [happening]) (by simp [heq])
    have hstep := replayInv_step hbefore happening fun input heq =>
      hrun happenings input [] (by rw [heq])
    unfold worldAfter itemsOf at hstep ⊢
    simp only [Reactive.run_append, Reactive.run_cons, Reactive.run_nil, List.flatten_append,
      List.flatten_cons, List.flatten_nil, List.append_nil]
    exact hstep

/-- **The audit log is a record of the changes.** In every run, with any changes by others between
    the requests: the cluster is what replaying the recorded events in the place of the requests
    gives, and the log is the last 500 of these events. So when nobody else changes it and no
    more than 500 events are recorded, the log alone leads from the first cluster to the last. -/
theorem audit_replay (cluster : Cluster) (happenings : List (Happening Body))
    (hrun : OptimisticRun mergePatch codec cluster happenings) :
    (worldAfter mergePatch codec cluster happenings).cluster =
        (itemsOf mergePatch codec cluster happenings).foldl
          (replayItem mergePatch codec.isPrint) cluster ∧
      (worldAfter mergePatch codec cluster happenings).auditLog =
        ((itemsOf mergePatch codec cluster happenings).filterMap Item.event?).rtake
          auditLogCapacity ∧
      ((∀ change, .world change ∉ itemsOf mergePatch codec cluster happenings) →
        (itemsOf mergePatch codec cluster happenings).length ≤ auditLogCapacity →
        (worldAfter mergePatch codec cluster happenings).cluster =
          (worldAfter mergePatch codec cluster happenings).auditLog.foldl
            (replayEvent mergePatch codec.isPrint) cluster) := by
  obtain ⟨hcluster, hlog⟩ := replayInv_run mergePatch codec cluster happenings hrun
  refine ⟨hcluster, hlog, fun halone hlen => ?_⟩
  have hkept := Nat.le_trans (List.length_filterMap_le Item.event? _) hlen
  rw [hlog, Window.rtake_of_length_le hkept, hcluster]
  conv_lhs => rw [items_eq_events halone, List.foldl_map]
  rfl

end Runs

/-! ### An approval, a change by somebody else, and a removal -/

def storedPlan : Unstructured := ⟨[metadata "operators" "install-etcd", ("spec", .obj [])]⟩

def planCluster : Cluster :=
  Cluster.store (fun _ _ _ => none) installPlanGVR "operators" "install-etcd" (some storedPlan)

def planRequest : Request Target :=
  ⟨"POST", ⟨"operators", "etcd"⟩, "", fun _ => snapshotClient fun gvr =>
    if gvr = installPlanGVR then [storedPlan] else []⟩

/-- Somebody else adds the Subscription of etcd after its plan was approved; it is deleted. -/
def etcdHappenings : List (Happening Target) :=
  [.request (.approve planRequest),
    .world fun cluster => cluster.store subscriptionGVR "operators" "etcd"
      (some ⟨[metadata "operators" "etcd"]⟩),
    .request (.delete planRequest)]

def planCodec : Codec Target := ⟨some, fun _ => none, fun _ => true⟩

theorem optimisticRun_etcd :
    OptimisticRun (fun obj _ => obj) planCodec planCluster etcdHappenings := by
  intro before input after heq
  unfold etcdHappenings at heq
  rcases before with _ | ⟨_, _ | ⟨_, _ | ⟨_, _⟩⟩⟩
  · obtain rfl := Happening.request.inj (List.cons.inj heq).1
    intro target plans i p htarget hlist hp _
    obtain rfl := Option.some.inj htarget
    obtain rfl := Except.ok.inj hlist
    have hplan : p = storedPlan := by
      simpa [planRequest] using (List.mem_filter.mp (List.mem_of_getElem? hp)).1
    rw [hplan]
    rfl
  · cases (List.cons.inj (List.cons.inj heq).2).1
  · obtain rfl := Happening.request.inj (List.cons.inj (List.cons.inj (List.cons.inj heq).2).2).1
    trivial
  · simp at heq

/-- The plan is approved and the Subscription gone, as in the replay of the two events with the
    change in between. -/
theorem audit_replay_etcd :
    let w := worldAfter (fun obj _ => obj) planCodec planCluster etcdHappenings
    (w.cluster installPlanGVR "operators" "install-etcd").map isApproved = some true ∧
      w.cluster subscriptionGVR "operators" "etcd" = none ∧
      w.auditLog.map (fun e => (e.type, e.success)) = [("approve", true), ("delete", true)] ∧
      w.cluster = (itemsOf (fun obj _ => obj) planCodec planCluster etcdHappenings).foldl
        (replayItem (fun obj _ => obj) planCodec.isPrint) planCluster :=
  ⟨by decide +kernel, by decide +kernel, by decide +kernel,
    (audit_replay (fun obj _ => obj) planCodec planCluster etcdHappenings optimisticRun_etcd).1⟩

end HybridOperator.Server
