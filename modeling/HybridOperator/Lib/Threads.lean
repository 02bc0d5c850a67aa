/-
  Requests that are served at the same time by threads. Each request works on the cell of its
  key; a step of a thread is one access to the cell, and the steps of different threads come in
  any order.

  A world is looked at key by key: the cell of the key and the threads of its requests, in the
  order of arrival. `ViewStep` says all that an event can do to them, so that an invariant of a
  key is proved for the arrival of a request and for the move of one thread (`run_view`).

  Requests of a key overlap when one arrives before those before it are answered. `serial_run` is
  the rule for a key whose requests do not (`Serial`): whatever the threads of the other keys do
  in between, its requests are served as by one atomic step after the other.
-/
import HybridOperator.Lib.Reactive
import Mathlib.Logic.Function.Basic

namespace HybridOperator.Lib.Threads

/-- How a request is served: where its thread begins, what one step does, and the result of a
    thread that has ended. -/
structure Program (σ ρ τ ω : Type) where
  start : ρ → τ
  step : σ → τ → σ × τ
  result : τ → Option ω

structure World (κ σ τ : Type) where
  cells : κ → σ
  threads : List (κ × τ)

inductive Event (ρ : Type) where
  | arrive (request : ρ)
  /-- the thread of the request that arrived in this place makes its next step -/
  | run (thread : Nat)

variable {κ σ ρ τ ω : Type} [DecidableEq κ] (key : ρ → κ) (P : Program σ ρ τ ω)

/-- The output tells which thread moved, and from where. -/
def step (world : World κ σ τ) : Event ρ → World κ σ τ × List (κ × τ)
  | .arrive request =>
      ({ world with threads := world.threads ++ [(key request, P.start request)] }, [])
  | .run i =>
      match world.threads[i]? with
      | none => (world, [])
      | some (k, t) =>
          if (P.result t).isSome then (world, [])
          else
            let next := P.step (world.cells k) t
            ({ cells := Function.update world.cells k next.1
               threads := world.threads.set i (k, next.2) }, [(k, t)])

/-- The world after the events, when all cells are `s₀` and no request has arrived. -/
def after (s₀ : σ) (events : List (Event ρ)) : World κ σ τ :=
  (Reactive.run (step key P) ⟨fun _ => s₀, []⟩ events).1

/-- The moves of the run, in order. -/
def moves (s₀ : σ) (events : List (Event ρ)) : List (κ × τ) :=
  (Reactive.run (step key P) ⟨fun _ => s₀, []⟩ events).2.flatten

/-- What belongs to a key, of a list of pairs with keys. -/
def ofKey {α : Type} (k : κ) (l : List (κ × α)) : List α :=
  (l.filter fun p => p.1 = k).map Prod.snd

def threadsOf (k : κ) (world : World κ σ τ) : List τ := ofKey k world.threads

/-- The results of the key's threads, in the order in which their requests arrived. -/
def resultsOf (k : κ) (world : World κ σ τ) : List ω :=
  (threadsOf k world).filterMap P.result

/-- Every request of the key that has arrived is answered. -/
def Idle (k : κ) (world : World κ σ τ) : Prop :=
  ∀ t ∈ threadsOf k world, (P.result t).isSome = true

def Event.request? : Event ρ → Option ρ
  | .arrive request => some request
  | .run _ => none

/-- The requests that have arrived. -/
def arrivals (events : List (Event ρ)) : List ρ := events.filterMap Event.request?

/-! ## One key -/

section OfKey

variable {α : Type} (k : κ)

@[simp] theorem ofKey_nil : ofKey k ([] : List (κ × α)) = [] := rfl

theorem ofKey_append (l m : List (κ × α)) : ofKey k (l ++ m) = ofKey k l ++ ofKey k m := by
  rw [ofKey, List.filter_append, List.map_append, ofKey, ofKey]

theorem ofKey_cons_self (a : α) (l : List (κ × α)) :
    ofKey k ((k, a) :: l) = a :: ofKey k l := by
  rw [ofKey, List.filter_cons_of_pos (by simp), List.map_cons, ofKey]

theorem ofKey_cons_ne {j : κ} (h : j ≠ k) (a : α) (l : List (κ × α)) :
    ofKey k ((j, a) :: l) = ofKey k l := by
  rw [ofKey, List.filter_cons_of_neg (by simpa using h), ofKey]

end OfKey

/-- What an event does to the cell and the threads of a key: a request arrives, a thread moves,
    or nothing. The last list is the moves. -/
inductive ViewStep (k : κ) (s : σ) (ts : List τ) (event : Event ρ) :
    σ → List τ → List τ → Prop where
  | arrived (request : ρ) : event = .arrive request → key request = k →
      ViewStep k s ts event s (ts ++ [P.start request]) []
  | moved (before : List τ) (t : τ) (later : List τ) (i : Nat) : event = .run i →
      ts = before ++ t :: later → P.result t = none →
      ViewStep k s ts event (P.step s t).1 (before ++ (P.step s t).2 :: later) [t]
  | other : (∀ request, event = .arrive request → key request ≠ k) →
      ViewStep k s ts event s ts []

variable {key P}

theorem own_arrive {k : κ} {event : Event ρ} {request : ρ} (hevent : event = .arrive request)
    (hkey : key request = k) : (event.request?.toList.filter fun r => key r = k) = [request] := by
  rw [hevent, Event.request?, Option.toList_some, List.filter_singleton, decide_eq_true hkey]
  rfl

theorem own_run {k : κ} {event : Event ρ} {i : Nat} (hevent : event = .run i) :
    (event.request?.toList.filter fun r => key r = k) = [] := by
  rw [hevent]
  rfl

theorem own_other {k : κ} {event : Event ρ}
    (hother : ∀ request, event = .arrive request → key request ≠ k) :
    (event.request?.toList.filter fun r => key r = k) = [] := by
  cases event with
  | arrive request =>
    rw [Event.request?, Option.toList_some, List.filter_singleton,
      decide_eq_false (hother request rfl)]
    rfl
  | run i => rfl

variable (key P) in
theorem viewStep_step (k : κ) (world : World κ σ τ) (event : Event ρ) :
    ViewStep key P k (world.cells k) (threadsOf k world) event
      ((step key P world event).1.cells k) (threadsOf k (step key P world event).1)
      (ofKey k (step key P world event).2) := by
  cases event with
  | arrive request =>
    by_cases hk : key request = k
    · have hthreads : threadsOf k (step key P world (.arrive request)).1 =
          threadsOf k world ++ [P.start request] := by
        unfold threadsOf step
        dsimp only
        rw [ofKey_append, hk, ofKey_cons_self, ofKey_nil]
      rw [hthreads]
      exact .arrived request rfl hk
    · have hthreads : threadsOf k (step key P world (.arrive request)).1 = threadsOf k world := by
        unfold threadsOf step
        dsimp only
        rw [ofKey_append, ofKey_cons_ne k hk, ofKey_nil, List.append_nil]
      rw [hthreads]
      exact .other fun _ hevent => Event.arrive.inj hevent ▸ hk
  | run i =>
    have hother : ∀ request, Event.run i = .arrive request → key request ≠ k :=
      fun _ hevent => by cases hevent
    unfold step
    dsimp only
    cases hi : world.threads[i]? with
    | none => exact .other hother
    | some thread =>
      obtain ⟨j, t⟩ := thread
      dsimp only
      by_cases hdone : (P.result t).isSome = true
      · rw [if_pos hdone]
        exact .other hother
      · rw [if_neg hdone]
        obtain ⟨hlt, hget⟩ := List.getElem?_eq_some_iff.mp hi
        have hsplit : ofKey k world.threads =
            ofKey k (world.threads.take i ++ (j, t) :: world.threads.drop (i + 1)) := by
          rw [← hget, ← List.drop_eq_getElem_cons hlt, List.take_append_drop]
        rw [ofKey_append] at hsplit
        have hset (p : κ × τ) : world.threads.set i p =
            world.threads.take i ++ p :: world.threads.drop (i + 1) :=
          List.set_eq_take_append_cons_drop ▸ if_pos hlt
        unfold threadsOf
        dsimp only
        rw [hset, ofKey_append]
        by_cases hk : j = k
        · subst hk
          rw [ofKey_cons_self] at hsplit
          rw [Function.update_self, ofKey_cons_self, ofKey_cons_self]
          exact .moved _ t _ i rfl hsplit (Option.not_isSome_iff_eq_none.mp hdone)
        · rw [ofKey_cons_ne k hk] at hsplit
          rw [Function.update_of_ne (Ne.symm hk), ofKey_cons_ne k hk, ofKey_cons_ne k hk, ← hsplit]
          exact .other hother

/-! ## Runs -/

section Runs

variable {s₀ : σ}

theorem after_concat (events : List (Event ρ)) (event : Event ρ) :
    after key P s₀ (events ++ [event]) = (step key P (after key P s₀ events) event).1 :=
  Reactive.run_concat_state _ _ events event

theorem moves_concat (events : List (Event ρ)) (event : Event ρ) :
    moves key P s₀ (events ++ [event]) =
      moves key P s₀ events ++ (step key P (after key P s₀ events) event).2 := by
  unfold moves after
  rw [Reactive.run_append, List.flatten_append]
  congr 1
  exact List.append_nil _

theorem arrivals_concat (k : κ) (events : List (Event ρ)) (event : Event ρ) :
    (arrivals (events ++ [event])).filter (fun r => key r = k) =
      (arrivals events).filter (fun r => key r = k) ++
        event.request?.toList.filter fun r => key r = k := by
  rw [arrivals, List.filterMap_append, List.filter_append]
  congr 2

variable (key P s₀) in
/-- An invariant of one key, its requests and moves so far, its cell and its threads: it holds at
    the start, the arrival of a request keeps it, and so does the move of a thread. -/
theorem run_view (k : κ) {R : List ρ → List τ → σ → List τ → Prop} (h0 : R [] [] s₀ [])
    (harrive : ∀ requests past s ts request, key request = k → R requests past s ts →
      R (requests ++ [request]) past s (ts ++ [P.start request]))
    (hmove : ∀ requests past s before t later, R requests past s (before ++ t :: later) →
      P.result t = none →
      R requests (past ++ [t]) (P.step s t).1 (before ++ (P.step s t).2 :: later))
    (events : List (Event ρ)) :
    R ((arrivals events).filter fun r => key r = k) (ofKey k (moves key P s₀ events))
      ((after key P s₀ events).cells k) (threadsOf k (after key P s₀ events)) := by
  induction events using List.reverseRecOn with
  | nil => exact h0
  | append_singleton events event ih =>
    rw [after_concat, moves_concat, ofKey_append, arrivals_concat]
    generalize after key P s₀ events = world at ih ⊢
    generalize ofKey k (moves key P s₀ events) = past at ih ⊢
    generalize (arrivals events).filter (fun r => key r = k) = requests at ih ⊢
    have hview := viewStep_step key P k world event
    generalize (step key P world event).1.cells k = s' at hview ⊢
    generalize threadsOf k (step key P world event).1 = ts' at hview ⊢
    generalize ofKey k (step key P world event).2 = ms at hview ⊢
    cases hview with
    | arrived request hevent hkey =>
      rw [own_arrive hevent hkey, List.append_nil]
      exact harrive _ _ _ _ _ hkey ih
    | moved before t later i hevent hts hrunning =>
      rw [hts] at ih
      rw [own_run hevent, List.append_nil]
      exact hmove _ _ _ _ _ _ ih hrunning
    | other hother =>
      rw [own_other hother, List.append_nil, List.append_nil]
      exact ih

end Runs

/-! ## Requests that do not overlap -/

section Serial

variable (key P) (k : κ) (s₀ : σ)

/-- No request of the key arrives before all those before it are answered. -/
def Serial (events : List (Event ρ)) : Prop :=
  ∀ n request, events[n]? = some (.arrive request) → key request = k →
    Idle P k (after key P s₀ (events.take n))

/-- The thread of a request does what the atomic step `op` does, when it has the cell for itself.
    `Doing s r s' t`: the request `r` began on the cell `s`, its thread has come to `t` and the
    cell to `s'`. -/
structure Serves (op : σ → ρ → σ × ω) (Good : σ → Prop) (Doing : σ → ρ → σ → τ → Prop) :
    Prop where
  good : ∀ s request, key request = k → Good s → Good (op s request).1
  start : ∀ s request, key request = k → Good s → Doing s request s (P.start request)
  step : ∀ s request s' t, Doing s request s' t → P.result t = none →
    Doing s request (P.step s' t).1 (P.step s' t).2
  done : ∀ s request s' t result, Doing s request s' t → P.result t = some result →
    (s', result) = op s request

/-- The cell and the threads of a key after these requests: all are answered, or all but the
    last one, whose thread is under way. -/
inductive Serving (op : σ → ρ → σ × ω) (Good : σ → Prop) (Doing : σ → ρ → σ → τ → Prop)
    (requests : List ρ) (s : σ) (ts : List τ) : Prop where
  | idle : (∀ t ∈ ts, (P.result t).isSome = true) → Good s →
      (s, ts.filterMap P.result) = Reactive.run op s₀ requests →
      Serving op Good Doing requests s ts
  | busy (past : List ρ) (request : ρ) (answered : List τ) (t : τ) (s' : σ) :
      requests = past ++ [request] → ts = answered ++ [t] → key request = k →
      (∀ d ∈ answered, (P.result d).isSome = true) → Good s' →
      (s', answered.filterMap P.result) = Reactive.run op s₀ past →
      P.result t = none → Doing s' request s t → Serving op Good Doing requests s ts

variable {key P k s₀} {op : σ → ρ → σ × ω} {Good : σ → Prop} {Doing : σ → ρ → σ → τ → Prop}
  {requests : List ρ} {s : σ} {ts : List τ}

/-- The only thread under way is the last one. -/
theorem eq_of_running {answered before later : List τ} {t t' : τ}
    (h : answered ++ [t] = before ++ t' :: later)
    (hanswered : ∀ d ∈ answered, (P.result d).isSome = true) (hrunning : P.result t' = none) :
    answered = before ∧ t = t' ∧ later = [] := by
  rcases List.eq_nil_or_concat later with rfl | ⟨later, last, rfl⟩
  · obtain ⟨hbefore, hlast⟩ := List.append_inj' h rfl
    exact ⟨hbefore, (List.cons.inj hlast).1, rfl⟩
  · -- another thread behind it would make it one of the answered ones
    rw [List.concat_eq_append, ← List.cons_append, ← List.append_assoc] at h
    obtain ⟨hbefore, -⟩ := List.append_inj' h rfl
    have hmem : t' ∈ answered := by
      rw [hbefore]
      exact List.mem_append_right _ List.mem_cons_self
    have hdone := hanswered t' hmem
    rw [hrunning] at hdone
    cases hdone

omit [DecidableEq κ] in
/-- A request that has come to its end, on the cell that those before it left. -/
theorem serving_of_result (hserves : Serves key P k op Good Doing) {past : List ρ} {request : ρ}
    {answered : List τ} {t : τ} {s' : σ} (hkey : key request = k)
    (hanswered : ∀ d ∈ answered, (P.result d).isSome = true) (hgood : Good s')
    (hrun : (s', answered.filterMap P.result) = Reactive.run op s₀ past)
    (hdoing : Doing s' request s t) :
    Serving key P k s₀ op Good Doing (past ++ [request]) s (answered ++ [t]) := by
  cases hresult : P.result t with
  | none => exact .busy past request answered t s' rfl rfl hkey hanswered hgood hrun hresult hdoing
  | some result =>
    have hdone := hserves.done s' request s t result hdoing hresult
    refine .idle ?_ ?_ ?_
    · intro d hd
      rcases List.mem_append.mp hd with hd | hd
      · exact hanswered d hd
      · rw [List.mem_singleton.mp hd, hresult]
        rfl
    · have hnext := hserves.good s' request hkey hgood
      rw [← hdone] at hnext
      exact hnext
    · rw [Reactive.run_append, ← hrun, Reactive.run_cons, ← hdone, List.filterMap_append,
        List.filterMap_cons_some hresult]
      rfl

theorem serving_step (hserves : Serves key P k op Good Doing) {event : Event ρ} {s' : σ}
    {ts' ms : List τ} (hidle : ∀ request, event = .arrive request → key request = k →
      ∀ t ∈ ts, (P.result t).isSome = true)
    (h : Serving key P k s₀ op Good Doing requests s ts)
    (hview : ViewStep key P k s ts event s' ts' ms) :
    Serving key P k s₀ op Good Doing
      (requests ++ (event.request?.toList.filter fun r => key r = k)) s' ts' := by
  cases hview with
  | arrived request hevent hkey =>
    rw [own_arrive hevent hkey]
    cases h with
    | idle hanswered hgood hrun =>
      exact serving_of_result hserves hkey hanswered hgood hrun
        (hserves.start s request hkey hgood)
    | busy past last answered t _ _ hts _ _ _ _ hrunning _ =>
      have hlast := hidle request hevent hkey t (hts ▸ List.mem_append_right _ List.mem_cons_self)
      rw [hrunning] at hlast
      cases hlast
  | moved before t later i hevent hts hrunning =>
    rw [own_run hevent, List.append_nil]
    cases h with
    | idle hanswered _ _ =>
      have hdone := hanswered t (hts ▸ List.mem_append_right _ List.mem_cons_self)
      rw [hrunning] at hdone
      cases hdone
    | busy past request answered t' _ hrequests hts' hkey hanswered hgood hrun _ hdoing =>
      obtain ⟨rfl, rfl, rfl⟩ := eq_of_running (hts'.symm.trans hts) hanswered hrunning
      rw [hrequests]
      exact serving_of_result hserves hkey hanswered hgood hrun
        (hserves.step _ _ _ _ hdoing hrunning)
  | other hother =>
    rw [own_other hother, List.append_nil]
    exact h

theorem serving_run (hserves : Serves key P k op Good Doing) (hgood : Good s₀)
    (events : List (Event ρ)) (hserial : Serial key P k s₀ events) :
    Serving key P k s₀ op Good Doing ((arrivals events).filter fun r => key r = k)
      ((after key P s₀ events).cells k) (threadsOf k (after key P s₀ events)) := by
  induction events using List.reverseRecOn with
  | nil => exact .idle (fun t ht => by cases ht) hgood rfl
  | append_singleton events event ih =>
    have hbefore : Serial key P k s₀ events := by
      intro n request hn hkey
      obtain ⟨hlt, -⟩ := List.getElem?_eq_some_iff.mp hn
      have hidle := hserial n request (by rw [List.getElem?_append_left hlt, hn]) hkey
      rwa [List.take_append_of_le_length (Nat.le_of_lt hlt)] at hidle
    have hidle : ∀ request, event = .arrive request → key request = k →
        Idle P k (after key P s₀ events) := by
      intro request hevent hkey
      have hlast := hserial events.length request (by rw [List.getElem?_concat_length, hevent]) hkey
      rwa [List.take_left] at hlast
    rw [arrivals_concat, after_concat]
    exact serving_step hserves hidle (ih hbefore) (viewStep_step key P k _ event)

/-- **Requests of a key that do not overlap are served one after the other**, whatever the other
    threads do in between: the results so far are those of atomic steps, and when all requests
    are answered the cell is what these steps leave. -/
theorem serial_run (hserves : Serves key P k op Good Doing) (hgood : Good s₀)
    (events : List (Event ρ)) (hserial : Serial key P k s₀ events) :
    resultsOf P k (after key P s₀ events) <+:
        (Reactive.run op s₀ ((arrivals events).filter fun r => key r = k)).2 ∧
      (Idle P k (after key P s₀ events) →
        ((after key P s₀ events).cells k, resultsOf P k (after key P s₀ events)) =
          Reactive.run op s₀ ((arrivals events).filter fun r => key r = k)) := by
  have hserving := serving_run hserves hgood events hserial
  unfold resultsOf Idle
  generalize threadsOf k (after key P s₀ events) = ts at hserving ⊢
  cases hserving with
  | idle _ _ hrun =>
    rw [← hrun]
    exact ⟨List.prefix_rfl, fun _ => rfl⟩
  | busy past request answered t s' hrequests hts _ _ _ hrun hrunning _ =>
    constructor
    · rw [hts, hrequests, List.filterMap_append, List.filterMap_cons_none hrunning,
        List.filterMap_nil, List.append_nil, Reactive.run_append, ← hrun]
      exact List.prefix_append _ _
    · intro hidle
      have hdone := hidle t (hts ▸ List.mem_append_right _ List.mem_cons_self)
      rw [hrunning] at hdone
      cases hdone

end Serial

end HybridOperator.Lib.Threads
