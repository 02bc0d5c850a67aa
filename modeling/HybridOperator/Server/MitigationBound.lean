/-
  How far `simulatedMemoryTracker` gets while one pod is served in every round.

  A pod is served in a round when it is listed once, runs, gets its answer from the brain and can
  be deleted. Nothing is asked of the other pods. Rounds without pods and Lists that fail change
  nothing. numpy is exact (`ExactNumpy`).

  A reading is `420 + 35 * k`; `k` is its level. From one round to the next the level of the pod's
  reading goes up by one, unless an accepted eviction set the tracker back: then it is 0 or 1
  (`Climb`). So level 3 comes after 1 and 2, and whatever stands before these in the window, the
  readings rise and the brain restarts the pod (`restart_at_top`).

  Proved: `mitigation_bounded`. The tracker never exceeds 525, no such reading is sent about any
  pod, and no four rounds pass without an accepted eviction.
-/
import HybridOperator.Brain.RestartDecision
import HybridOperator.Server.TelemetryLoop

namespace HybridOperator.Server

open HybridOperator.Lib HybridOperator.Lib.LeastSquares HybridOperator.Brain

/-! ## Levels -/

/-- The reading of a level. -/
def levelReading (k : Nat) : Json := .int ((420 + 35 * k : Nat) : Int)

/-- The levels of a pod that is served in every round. -/
structure Climb (ks : List Nat) : Prop where
  first : ∀ k, ks.head? = some k → k = 0
  le : ∀ k ∈ ks, k ≤ 3
  next : ks.IsChain fun a b => b = a + 1 ∨ b = 0 ∨ b = 1

/-- Level `n` may come next. -/
structure Next (ks : List Nat) (n : Nat) : Prop where
  le : n ≤ 3
  first : ks = [] → n = 0
  after : ∀ k, ks.getLast? = some k → n = k + 1 ∨ n = 0 ∨ n = 1

theorem Climb.concat {ks : List Nat} {n : Nat} (h : Climb ks) (hn : Next ks n) :
    Climb (ks ++ [n]) := by
  refine ⟨fun k hk => ?_, fun k hk => ?_, ?_⟩
  · cases ks with
    | nil =>
      obtain rfl := Option.some.inj hk
      exact hn.first rfl
    | cons a as => exact h.first k hk
  · rcases List.mem_append.mp hk with hk | hk
    · exact h.le k hk
    · rw [List.mem_singleton.mp hk]
      exact hn.le
  · refine List.isChain_append.mpr ⟨h.next, List.isChain_singleton _, fun a ha b hb => ?_⟩
    obtain rfl := Option.some.inj hb
    exact hn.after a ha

/-- What comes before level 3: levels 1 and 2, and at least one more. -/
theorem Climb.before_top {ks : List Nat} (h : Climb (ks ++ [3])) :
    ∃ us x, ks = us ++ [x, 1, 2] := by
  obtain ⟨hks, -, hlast⟩ := List.isChain_append.mp h.next
  rcases List.eq_nil_or_concat' ks with rfl | ⟨vs, a, rfl⟩
  · exact absurd (h.first 3 rfl) (by decide)
  · obtain rfl : a = 2 := by
      have := hlast a List.getLast?_concat 3 rfl
      omega
    obtain ⟨hvs, -, hlast'⟩ := List.isChain_append.mp hks
    rcases List.eq_nil_or_concat' vs with rfl | ⟨ws, b, rfl⟩
    · exact absurd (h.first 2 rfl) (by decide)
    · obtain rfl : b = 1 := by
        have := hlast' b List.getLast?_concat 2 rfl
        omega
      rcases List.eq_nil_or_concat' ws with rfl | ⟨us, x, rfl⟩
      · exact absurd (h.first 1 rfl) (by decide)
      · exact ⟨us, x, by simp⟩

/-! ## The decision at level 3 -/

section Decision

variable {np : Numpy ℚ}

/-- Readings that rise along the fitted line and end at the limit restart the pod. -/
theorem restart_of_cov_pos (hnp : ExactNumpy np) {n : Nat} (hn : 2 ≤ n) {history : List Json}
    {y : Fin (n + 1) → ℚ} (hy : Reads history y) (hcov : 0 < cov (arange (n + 1)) y)
    (hlast : memoryLimitMB ≤ y (Fin.last n)) :
    ∃ reason, decision np history = some ⟨"RESTART_PROACTIVE", reason⟩ := by
  obtain ⟨slope, intercept, hfit, haction⟩ := action_of_reads hnp hn hy
  have hslope : 0 < slope := by
    rw [hfit.slope_eq (cov_arange_pos (by omega))]
    exact div_pos hcov (cov_arange_pos (by omega))
  have hdecision := decision_action hnp history
  rw [haction, if_pos ⟨hslope, by linarith⟩] at hdecision
  obtain ⟨⟨action, reason⟩, hd, hrestart⟩ := Option.map_eq_some_iff.mp hdecision
  obtain rfl : action = "RESTART_PROACTIVE" := hrestart
  exact ⟨reason, hd⟩

/-- The values of the levels. -/
theorem reads_levels {n : Nat} (k : Fin n → Nat) :
    Reads ((List.ofFn k).map levelReading) fun i => 420 + 35 * (k i : ℚ) := by
  refine ⟨fun m hm => ?_, ?_⟩
  · obtain ⟨j, -, rfl⟩ := List.mem_map.mp hm
    rfl
  · rw [List.map_map, List.map_ofFn]
    refine congrArg List.ofFn (funext fun i => ?_)
    simp [levelReading, exactValue]

theorem rtake_append_of_length {α : Type} {m : List α} {n : Nat} (h : m.length = n) (l : List α) :
    (l ++ m).rtake n = m := by
  rw [List.rtake, List.length_append, h, Nat.add_sub_cancel, List.drop_left']
  rfl

/-- At level 3 the brain restarts the pod. -/
theorem restart_at_top (hnp : ExactNumpy np) {ks : List Nat} (h : Climb (ks ++ [3])) :
    ∃ reason, decision np (((ks ++ [3]).map levelReading).rtake 5) =
      some ⟨"RESTART_PROACTIVE", reason⟩ := by
  obtain ⟨us, x, rfl⟩ := h.before_top
  have hx : (x : ℚ) ≤ 3 := by
    have := h.le x (by simp)
    exact_mod_cast this
  rcases List.eq_nil_or_concat' us with rfl | ⟨vs, y, rfl⟩
  · have hreads := reads_levels (n := 4) ![x, 1, 2, 3]
    refine restart_of_cov_pos hnp (by decide) hreads ?_ ?_
    · simp [cov, Fin.sum_univ_succ, arange]
      linarith
    · simp [memoryLimitMB, Fin.last]
      norm_num
  · have hstep : x = y + 1 ∨ x = 0 ∨ x = 1 := by
      have hchain := h.next
      rw [show vs ++ [y] ++ [x, 1, 2] ++ [3] = (vs ++ [y]) ++ [x, 1, 2, 3] by simp] at hchain
      exact (List.isChain_append.mp hchain).2.2 y List.getLast?_concat x rfl
    have hy : y ≤ 3 := h.le y (by simp)
    have hsum : (2 * y + x : ℚ) < 8 := by
      have : 2 * y + x < 8 := by
        have := h.le x (by simp)
        omega
      exact_mod_cast this
    have hwindow : ((vs ++ [y] ++ [x, 1, 2] ++ [3]).map levelReading).rtake 5 =
        (List.ofFn ![y, x, 1, 2, 3]).map levelReading := by
      rw [show vs ++ [y] ++ [x, 1, 2] ++ [3] = vs ++ [y, x, 1, 2, 3] by simp, List.map_append]
      exact rtake_append_of_length rfl _
    rw [hwindow]
    refine restart_of_cov_pos hnp (by decide) (reads_levels ![y, x, 1, 2, 3]) ?_ ?_
    · simp [cov, Fin.sum_univ_succ, arange]
      linarith
    · simp [memoryLimitMB, Fin.last]
      norm_num

end Decision

/-! ## Events -/

/-- No level above 3 so far, and no reading of one. -/
structure Bounded (events : List LoopEvent) : Prop where
  level_le : ∀ past, past <+: events → level past ≤ 3
  sent_le : ∀ payload delivery, .outbound payload delivery ∈ events → payload.memoryMb ≤ 525

theorem bounded_concat {events : List LoopEvent} (h : Bounded events) {event : LoopEvent}
    (hlevel : level (events ++ [event]) ≤ 3)
    (hsent : ∀ payload delivery, event = .outbound payload delivery → payload.memoryMb ≤ 525) :
    Bounded (events ++ [event]) := by
  refine ⟨fun past hpast => ?_, fun payload delivery hmem => ?_⟩
  · rcases List.prefix_concat_iff.mp hpast with rfl | hpast
    · exact hlevel
    · exact h.level_le past hpast
  · rcases List.mem_append.mp hmem with hmem | hmem
    · exact h.sent_le payload delivery hmem
    · exact hsent payload delivery (List.mem_singleton.mp hmem).symm

section Turns

variable {F : Type} {np : Numpy F}

theorem bounded_turn {events : List LoopEvent} {loop : MitigationLoop} (h : Bounded events)
    (hloop : LoopInv np events loop) (turn : Turn) :
    Bounded (events ++ (telemetryTurn np loop turn).2) := by
  have hlevel := h.level_le events (List.prefix_refl _)
  have houtbound : Bounded
      (events ++ [.outbound ⟨turn.podName, loop.simulatedMemoryTracker⟩ turn.delivery]) := by
    refine bounded_concat h ?_ fun payload delivery heq => ?_
    · rw [level_concat]
      exact hlevel
    · rw [← (LoopEvent.outbound.inj heq).1]
      have htracker := hloop.tracker
      dsimp only
      omega
  unfold telemetryTurn
  dsimp only
  split
  · split
    · rw [← List.singleton_append, ← List.append_assoc]
      refine bounded_concat houtbound ?_ fun payload delivery heq => (nomatch heq)
      rw [level_concat, level_concat]
      cases turn.deletable with
      | true => exact Nat.zero_le 3
      | false => exact hlevel
    · exact houtbound
  · rw [List.append_nil]
    exact h

variable (np) in
/-- A turn leaves the level or sets it back. -/
theorem level_turn (events : List LoopEvent) (loop : MitigationLoop) (turn : Turn) :
    level (events ++ (telemetryTurn np loop turn).2) = level events ∨
      level (events ++ (telemetryTurn np loop turn).2) = 0 := by
  unfold telemetryTurn
  dsimp only
  split
  · split
    · rw [← List.singleton_append, ← List.append_assoc, level_concat, level_concat]
      cases turn.deletable with
      | true => exact .inr rfl
      | false => exact .inl rfl
    · exact .inl (level_concat _ _)
  · rw [List.append_nil]
    exact .inl rfl

theorem delivered_other {pod : String} (events : List LoopEvent) (loop : MitigationLoop)
    {turn : Turn} (hturn : turn.podName ≠ pod) :
    delivered pod (events ++ (telemetryTurn np loop turn).2) = delivered pod events := by
  have hreading : LoopEvent.reading pod
      (.outbound ⟨turn.podName, loop.simulatedMemoryTracker⟩ turn.delivery) = none :=
    if_neg fun hread => hturn hread.1
  rw [delivered_append]
  unfold telemetryTurn
  dsimp only
  split
  · split
    · rw [delivered, delivered, List.filterMap_cons_none hreading,
        List.filterMap_cons_none rfl, List.filterMap_nil, List.append_nil]
    · rw [delivered, delivered, List.filterMap_cons_none hreading, List.filterMap_nil,
        List.append_nil]
  · exact List.append_nil _

/-- In the middle of a round: the readings of `pod` so far, and the level the round began with
    unless it was set back since. -/
structure Midway (np : Numpy F) (pod : String) (ks : List Nat) (top : Nat)
    (events : List LoopEvent) (loop : MitigationLoop) : Prop where
  inv : LoopInv np events loop
  bounded : Bounded events
  readings : delivered pod events = ks.map levelReading
  level : level events = top ∨ level events = 0

/-- The turns of the other pods. -/
theorem midway_others {pod : String} {ks : List Nat} {top : Nat} {events : List LoopEvent}
    {loop : MitigationLoop} (h : Midway np pod ks top events loop) (turns : List Turn)
    (hturns : ∀ turn ∈ turns, turn.podName ≠ pod) :
    Midway np pod ks top (events ++ (Reactive.run (telemetryTurn np) loop turns).2.flatten)
      (Reactive.run (telemetryTurn np) loop turns).1 := by
  refine Reactive.run_trace (R := Midway np pod ks top) (P := fun turn => turn.podName ≠ pod)
    (telemetryTurn np) (fun past s turn hturn hpast => ?_) h turns hturns
  refine ⟨loopInv_turn hpast.inv turn, bounded_turn hpast.bounded hpast.inv turn, ?_, ?_⟩
  · rw [delivered_other past s hturn]
    exact hpast.readings
  · rcases level_turn np past s turn with hsame | hback
    · rw [hsame]
      exact hpast.level
    · exact .inr hback

end Turns

/-! ## Rounds that serve a pod -/

/-- The pod is listed once, runs, gets its answer and can be deleted. -/
def Served (pod : String) (pods : List Turn) : Prop :=
  ∃ before after, pods = before ++ ⟨pod, true, .answered, true⟩ :: after ∧
    ∀ turn ∈ before ++ after, turn.podName ≠ pod

section Rounds

variable {np : Numpy ℚ}

/-- The pod's own POST adds the level to its readings. -/
theorem delivered_own {pod : String} {ks : List Nat} {top : Nat} {events : List LoopEvent}
    {loop : MitigationLoop} (h : Midway np pod ks top events loop) :
    delivered pod (events ++ [.outbound ⟨pod, loop.simulatedMemoryTracker⟩ .answered]) =
      (ks ++ [level events]).map levelReading := by
  have hreading : LoopEvent.reading pod
      (.outbound ⟨pod, loop.simulatedMemoryTracker⟩ .answered) =
        some (levelReading (level events)) := by
    rw [levelReading, ← h.inv.tracker]
    exact if_pos ⟨rfl, by decide⟩
  rw [delivered_append, h.readings, List.map_append, delivered,
    List.filterMap_cons_some hreading]
  rfl

/-- The own turn of a pod at level 3 ends with its eviction. -/
theorem telemetryTurn_top (hnp : ExactNumpy np) {pod : String} (hpod : pod ≠ "") {ks : List Nat}
    {top : Nat} {events : List LoopEvent} {loop : MitigationLoop}
    (h : Midway np pod ks top events loop) (htop : level events = 3)
    (hclimb : Climb (ks ++ [3])) :
    (telemetryTurn np loop ⟨pod, true, .answered, true⟩).2 =
      [.outbound ⟨pod, loop.simulatedMemoryTracker⟩ .answered, .evict pod true] := by
  obtain ⟨reason, hdecision⟩ := restart_at_top hnp hclimb
  have hanswer : (sendToExternalBrain np loop.podHistory
      ⟨pod, loop.simulatedMemoryTracker⟩ .answered).2.action = "RESTART_PROACTIVE" := by
    rw [sendToExternalBrain_answered h.inv.mirrors hpod, delivered_own h, htop, hdecision]
    rfl
  unfold telemetryTurn
  dsimp only
  rw [if_pos rfl, if_pos hanswer]

/-- The own turn of a pod adds its reading, and leaves no level above 2. -/
theorem midway_own (hnp : ExactNumpy np) {pod : String} (hpod : pod ≠ "") {ks : List Nat}
    {top : Nat} {events : List LoopEvent} {loop : MitigationLoop}
    (h : Midway np pod ks top events loop) (hks : Climb ks) (hnext : Next ks top) :
    ∃ b top', top' ≤ 2 ∧ (top' = b ∨ top' = 0) ∧ Climb (ks ++ [b]) ∧
      Midway np pod (ks ++ [b]) top'
        (events ++ (telemetryTurn np loop ⟨pod, true, .answered, true⟩).2)
        (telemetryTurn np loop ⟨pod, true, .answered, true⟩).1 := by
  have hlevel : Next ks (level events) := by
    rcases h.level with htop | hzero
    · rw [htop]
      exact hnext
    · rw [hzero]
      exact ⟨by decide, fun _ => rfl, fun _ _ => .inr (.inl rfl)⟩
  have hclimb := hks.concat hlevel
  have hinv := loopInv_turn h.inv ⟨pod, true, .answered, true⟩
  have hbounded := bounded_turn h.bounded h.inv ⟨pod, true, .answered, true⟩
  have hreadings : delivered pod
      (events ++ (telemetryTurn np loop ⟨pod, true, .answered, true⟩).2) =
        (ks ++ [level events]).map levelReading := by
    rw [← delivered_own h]
    unfold telemetryTurn
    dsimp only
    rw [if_pos rfl]
    split
    · rw [← List.singleton_append, ← List.append_assoc, delivered_append]
      exact List.append_nil _
    · rfl
  by_cases htop : level events = 3
  · have hturn := telemetryTurn_top hnp hpod h htop (htop ▸ hclimb)
    refine ⟨level events, 0, by decide, .inr rfl, hclimb, hinv, hbounded, hreadings, .inl ?_⟩
    rw [hturn, ← List.singleton_append, ← List.append_assoc, level_concat]
  · have hle := hlevel.le
    exact ⟨level events, level events, by omega, .inl rfl, hclimb, hinv, hbounded, hreadings,
      level_turn np events loop _⟩

/-- What holds between rounds. -/
structure Between (np : Numpy ℚ) (pod : String) (events : List LoopEvent)
    (loop : MitigationLoop) : Prop where
  inv : LoopInv np events loop
  bounded : Bounded events
  climbs : ∃ ks, delivered pod events = ks.map levelReading ∧ Climb ks ∧ Next ks (level events)

/-- A served pod's round. -/
theorem between_served (hnp : ExactNumpy np) {pod : String} (hpod : pod ≠ "")
    {events : List LoopEvent} {loop : MitigationLoop} (h : Between np pod events loop)
    {pods : List Turn} (hserved : Served pod pods) :
    Between np pod (events ++ (telemetryRound np loop (some pods)).2)
      (telemetryRound np loop (some pods)).1 := by
  have hinv := loopInv_round h.inv (some pods)
  obtain ⟨before, after, rfl, hothers⟩ := hserved
  obtain ⟨ks, hreadings, hks, hnext⟩ := h.climbs
  have hfirst := midway_others ⟨h.inv, h.bounded, hreadings, .inl rfl⟩ before
    fun turn hturn => hothers turn (List.mem_append_left _ hturn)
  obtain ⟨b, top, htop, hb, hclimb, hown⟩ := midway_own hnp hpod hfirst hks hnext
  have hlast := midway_others hown after
    fun turn hturn => hothers turn (List.mem_append_right _ hturn)
  have hevents : events ++
      (telemetryRound np loop (some (before ++ ⟨pod, true, .answered, true⟩ :: after))).2 =
        events ++ (Reactive.run (telemetryTurn np) loop
          (before ++ ⟨pod, true, .answered, true⟩ :: after)).2.flatten ++ [.grown] := by
    unfold telemetryRound
    dsimp only
    rw [if_pos (by simp), List.append_assoc]
  rw [hevents] at hinv ⊢
  rw [Reactive.run_append, Reactive.run_cons, List.flatten_append, List.flatten_cons,
    ← List.append_assoc, ← List.append_assoc] at hinv ⊢
  have hgrown := level_concat (events ++ (Reactive.run (telemetryTurn np) loop before).2.flatten ++
    (telemetryTurn np (Reactive.run (telemetryTurn np) loop before).1
      ⟨pod, true, .answered, true⟩).2 ++ (Reactive.run (telemetryTurn np)
        (telemetryTurn np (Reactive.run (telemetryTurn np) loop before).1
          ⟨pod, true, .answered, true⟩).1 after).2.flatten) .grown
  dsimp only at hgrown
  have hlevel := hlast.level
  refine ⟨hinv, bounded_concat hlast.bounded (by omega) fun _ _ heq => (nomatch heq),
    ks ++ [b], ?_, hclimb, ⟨by omega, by simp, fun k hk => ?_⟩⟩
  · rw [delivered_append, hlast.readings]
    exact List.append_nil _
  · rw [List.getLast?_concat] at hk
    obtain rfl := Option.some.inj hk
    omega

theorem between_round (hnp : ExactNumpy np) {pod : String} (hpod : pod ≠ "")
    {events : List LoopEvent} {loop : MitigationLoop} (h : Between np pod events loop)
    {round : Option (List Turn)}
    (hround : ∀ pods, round = some pods → pods ≠ [] → Served pod pods) :
    Between np pod (events ++ (telemetryRound np loop round).2) (telemetryRound np loop round).1 :=
  match round with
  | none | some [] => by
    rw [show (telemetryRound np loop _).2 = [] from rfl, List.append_nil]
    exact h
  | some (turn :: turns) => between_served hnp hpod h (hround _ rfl (List.cons_ne_nil _ _))

theorem between_start (pod : String) : Between np pod [] .start :=
  ⟨loopInv_start, ⟨fun past hpast => by rw [List.prefix_nil.mp hpast]; decide,
    fun _ _ hmem => nomatch hmem⟩, [], rfl, ⟨by simp, by simp, List.isChain_nil⟩,
    ⟨by decide, fun _ => rfl, by simp⟩⟩

/-- **The mitigation takes effect.** While some pod is served in every round that lists pods, the
    tracker never exceeds 525, no higher reading is sent about any pod, and at no moment have
    more than three rounds ended since the last accepted eviction. -/
theorem mitigation_bounded (hnp : ExactNumpy np) {pod : String} (hpod : pod ≠ "")
    (rounds : List (Option (List Turn)))
    (hserved : ∀ pods, some pods ∈ rounds → pods ≠ [] → Served pod pods) :
    (loopAfter np rounds).simulatedMemoryTracker ≤ 525 ∧
      (∀ payload delivery, .outbound payload delivery ∈ loopTrace np rounds →
        payload.memoryMb ≤ 525) ∧
      ∀ past, past <+: loopTrace np rounds → level past ≤ 3 := by
  have hrun : Between np pod (loopTrace np rounds) (loopAfter np rounds) :=
    Reactive.run_trace (R := Between np pod)
      (P := fun round => ∀ pods, round = some pods → pods ≠ [] → Served pod pods)
      (telemetryRound np) (fun _ _ round hround h => between_round hnp hpod h hround)
      (between_start pod) rounds
      fun round hround pods heq => hserved pods (heq ▸ hround)
  refine ⟨?_, hrun.bounded.sent_le, hrun.bounded.level_le⟩
  have hlevel := hrun.bounded.level_le _ (List.prefix_refl _)
  have htracker := hrun.inv.tracker
  omega

/-- Six rounds about one pod and another whose POSTs get lost. -/
theorem mitigation_bounded_app :
    (loopAfter rationalNumpy (List.replicate 6 (some
      [⟨"sidecar", true, .lost, false⟩, ⟨"app", true, .answered, true⟩]))).simulatedMemoryTracker
        ≤ 525 := by
  have hpod : "app" ≠ "" := by decide
  refine (mitigation_bounded exact_rationalNumpy hpod _ fun pods hpods _ => ?_).1
  obtain rfl := Option.some.inj (List.eq_of_mem_replicate hpods)
  exact ⟨[⟨"sidecar", true, .lost, false⟩], [], rfl, by simp⟩

end Rounds

end HybridOperator.Server
