/-
  The refresh of the dashboard page: `updateRefreshInterval`, `startAutoRefresh`,
  `invalidateClientCache` and `fetchTargets` of static/app.js, as one machine.

  The events are what the browser runs to completion one after the other: a callback of an
  interval (`tick`), a change of the select box, a call of `fetchTargets` by the page or by a
  remediation (`refresh`), a cleared cache, and the answer to a fetch (`respond`), which may come
  at any time and in any order. An answer is taken when the last `await` of its call is over;
  nothing is written before. `Date.now()` is read off the event.

  The effect of an event is the fetch it sends and the inventory that an answer brings: its body
  or, when the server says that nothing changed, the data of the cache entry. A fetch is
  `byTimer` when the callback of an interval sent it. `setInterval` gives a new number every time
  and `clearInterval` of a number that is gone does nothing.

  Of the page only the interval, the countdown, the timer, the cache entry and
  `currentOperatorData` are kept. What is drawn from them may raise; both exits of `fetchTargets`
  then do the same to them.

  Proved:
  * `auto_refresh_timer`: one interval is live at most, the one in `timerId`, and while refresh
    is off no fetch is sent by a timer.
  * `timer_fetches_iff`: at most one fetch of the timer is outstanding in all states of a run
    exactly when no tick of a live interval finds the countdown at 1 or less while there is one.
  * `timer_fetches_of_answered`: that is so when each of these fetches is answered before the next
    tick of a live interval.
-/
import HybridOperator.Lib.Json
import HybridOperator.Lib.Reactive

namespace HybridOperator.Dashboard

open HybridOperator.Lib

/-! ## The page -/

/-- The entry under `CACHE_KEY`. -/
structure CacheEntry where
  timestamp : Int
  data : Json

/-- `CACHE_TTL_MS`. -/
def cacheTTLMs : Int := 30000

/-- A call of `fetchTargets` that waits for its answer. -/
structure Fetch where
  number : Nat
  byTimer : Bool
deriving DecidableEq

structure Page where
  currentInterval : Int
  countdown : Int
  timerId : Option Nat
  /-- the intervals that the browser runs -/
  liveIntervals : List Nat
  nextInterval : Nat
  pending : List Fetch
  nextFetch : Nat
  cache : Option CacheEntry
  currentOperatorData : Json

/-- The page when it is loaded, with what an earlier visit left in the cache. -/
def Page.load (stored : Option CacheEntry) : Page where
  currentInterval := 60
  countdown := 60
  timerId := none
  liveIntervals := []
  nextInterval := 1
  pending := []
  nextFetch := 0
  cache := stored
  currentOperatorData := .arr []

/-- How a fetch ends. -/
inductive Outcome where
  /-- status 200 with this body -/
  | ok (data : Json)
  /-- status 304 -/
  | notModified
  /-- status 401 -/
  | unauthorized
  /-- another status, no connection, a body that is not JSON, or a full `localStorage` -/
  | failed

inductive Event where
  | tick (id : Nat)
  | select (interval : Int)
  | refresh (forceRefresh : Bool) (now : Int)
  | invalidate
  | respond (number : Nat) (outcome : Outcome) (now : Int)

structure Effect where
  sent : Option Fetch := none
  received : Option (Nat × Json) := none

/-- `Boolean(v)` of a JSON value. -/
def jsTruthy : Json → Bool
  | .null => false
  | .bool b => b
  | .int n => n ≠ 0
  | .float q => q ≠ 0
  | .str s => s ≠ ""
  | .arr _ | .obj _ => true

/-- `data.operators || []`, a `TypeError` for `null`. -/
def operatorsOf : Json → Option Json
  | .null => none
  | .obj fields =>
      let operators := (fields.lookup "operators").getD .null
      some (if jsTruthy operators then operators else .arr [])
  | .bool _ | .int _ | .float _ | .str _ | .arr _ => some (.arr [])

/-! ## The functions -/

def clearInterval (page : Page) (id : Nat) : Page :=
  { page with liveIntervals := page.liveIntervals.filter (· ≠ id) }

/-- `timerId = setInterval(...)`. -/
def setInterval (page : Page) : Page :=
  { page with
      timerId := some page.nextInterval
      liveIntervals := page.liveIntervals ++ [page.nextInterval]
      nextInterval := page.nextInterval + 1 }

def startAutoRefresh (page : Page) : Page :=
  let page := match page.timerId with
    | some id => clearInterval page id
    | none => page
  let page := { page with countdown := page.currentInterval }
  if page.currentInterval ≤ 0 then page else setInterval page

def updateRefreshInterval (page : Page) (value : Int) : Page :=
  startAutoRefresh { page with currentInterval := value }

/-- What follows when there is `data`, from the assignment on. -/
def showData (page : Page) (data : Json) : Page :=
  match operatorsOf data with
  | some operators => startAutoRefresh { page with currentOperatorData := operators }
  | none => startAutoRefresh page

/-- The data of the cache entry, when it is not too old and there is any. -/
def cachedData (page : Page) (now : Int) : Option Json :=
  match page.cache with
  | some entry =>
      if now - entry.timestamp < cacheTTLMs ∧ jsTruthy entry.data then some entry.data else none
  | none => none

/-- The call up to `await fetch(url)`. -/
def sendFetch (page : Page) (byTimer : Bool) : Page × Effect :=
  let fetch : Fetch := ⟨page.nextFetch, byTimer⟩
  ({ page with pending := page.pending ++ [fetch], nextFetch := page.nextFetch + 1 },
    { sent := some fetch })

/-- `fetchTargets(true)` with `none`, else `fetchTargets(false)` at that time. -/
def fetchTargets (page : Page) (unforced : Option Int) (byTimer : Bool) : Page × Effect :=
  match unforced.bind (cachedData page) with
  | some data => (showData page data, {})
  | none => sendFetch page byTimer

def invalidateClientCache (page : Page) : Page × Effect :=
  fetchTargets { page with cache := none } none false

/-- The callback of the interval `id`. -/
def tick (page : Page) (id : Nat) : Page × Effect :=
  if id ∈ page.liveIntervals then
    let page := { page with countdown := page.countdown - 1 }
    if page.countdown ≤ 0 then fetchTargets page none true else (page, {})
  else (page, {})

/-- A call ended with `data`. There is no inventory in `null`. -/
def received (number : Nat) (data : Json) : Effect :=
  { received := (operatorsOf data).map fun _ => (number, data) }

/-- The rest of `fetchTargets` when its fetch has ended. -/
def resume (page : Page) (number : Nat) (outcome : Outcome) (now : Int) : Page × Effect :=
  match outcome with
  | .unauthorized => (page, {})
  | .failed => (startAutoRefresh page, {})
  | .notModified =>
      match page.cache with
      | some entry => (showData page entry.data, received number entry.data)
      | none => (startAutoRefresh page, {})
  | .ok data =>
      (showData { page with cache := some ⟨now, data⟩ } data, received number data)

def respond (page : Page) (number : Nat) (outcome : Outcome) (now : Int) : Page × Effect :=
  if page.pending.any fun fetch => fetch.number = number then
    resume { page with pending := page.pending.filter fun fetch => fetch.number ≠ number }
      number outcome now
  else (page, {})

def step (page : Page) : Event → Page × Effect
  | .tick id => tick page id
  | .select interval => (updateRefreshInterval page interval, {})
  | .refresh forceRefresh now =>
      fetchTargets page (if forceRefresh then none else some now) false
  | .invalidate => invalidateClientCache page
  | .respond number outcome now => respond page number outcome now

/-- The page after some events since it was loaded. -/
def pageAfter (stored : Option CacheEntry) (events : List Event) : Page :=
  (Reactive.run step (Page.load stored) events).1

/-! ## What the functions leave alone -/

/-- Two pages differ at most in the timer and its countdown. -/
structure SameData (page page' : Page) : Prop where
  interval : page'.currentInterval = page.currentInterval
  pending : page'.pending = page.pending
  nextFetch : page'.nextFetch = page.nextFetch
  cache : page'.cache = page.cache
  operators : page'.currentOperatorData = page.currentOperatorData

/-- The page when the recorded interval is cleared and the countdown set. -/
def cleared (page : Page) : Page :=
  { page with
      countdown := page.currentInterval
      liveIntervals := page.liveIntervals.filter fun id => page.timerId ≠ some id }

theorem startAutoRefresh_eq (page : Page) :
    startAutoRefresh page =
      if page.currentInterval ≤ 0 then cleared page else setInterval (cleared page) := by
  obtain ⟨interval, countdown, timerId, live, _, _, _, _, _⟩ := page
  unfold startAutoRefresh cleared
  cases timerId with
  | none =>
    have hkept : live.filter (fun id => (none : Option Nat) ≠ some id) = live := by simp
    dsimp only
    rw [hkept]
  | some recorded =>
    have hfilter : live.filter (fun id => some recorded ≠ some id) =
        live.filter (· ≠ recorded) := by
      refine List.filter_congr fun id _ => ?_
      simp [eq_comm]
    dsimp only
    rw [hfilter]
    rfl

theorem sameData_startAutoRefresh (page : Page) : SameData page (startAutoRefresh page) := by
  rw [startAutoRefresh_eq]
  split
  · exact ⟨rfl, rfl, rfl, rfl, rfl⟩
  · exact ⟨rfl, rfl, rfl, rfl, rfl⟩

/-- The timers of two pages are the same. -/
structure SameTimer (page page' : Page) : Prop where
  interval : page'.currentInterval = page.currentInterval
  timerId : page'.timerId = page.timerId
  live : page'.liveIntervals = page.liveIntervals

/-- An event leaves the timers as they are, or it restarts them, possibly with an interval that
    was just selected. -/
inductive TimerStep (page : Page) (event : Event) : Page → Prop where
  | same {page' : Page} : SameTimer page page' → TimerStep page event page'
  | restart {page' : Page} : SameTimer page page' → TimerStep page event (startAutoRefresh page')
  | select (value : Int) : event = .select value →
      TimerStep page event (startAutoRefresh { page with currentInterval := value })

theorem timerStep_showData {page page' : Page} {event : Event} (h : SameTimer page page')
    (data : Json) : TimerStep page event (showData page' data) := by
  unfold showData
  split
  · exact .restart ⟨h.interval, h.timerId, h.live⟩
  · exact .restart h

theorem timerStep_fetchTargets {page page' : Page} {event : Event} (h : SameTimer page page')
    (unforced : Option Int) (byTimer : Bool) :
    TimerStep page event (fetchTargets page' unforced byTimer).1 := by
  unfold fetchTargets
  split
  · exact timerStep_showData h _
  · exact .same ⟨h.interval, h.timerId, h.live⟩

theorem timerStep_resume {page page' : Page} {event : Event} (h : SameTimer page page')
    (number : Nat) (outcome : Outcome) (now : Int) :
    TimerStep page event (resume page' number outcome now).1 := by
  have hcached : SameTimer page page' → ∀ cache, SameTimer page { page' with cache := cache } :=
    fun h _ => ⟨h.interval, h.timerId, h.live⟩
  unfold resume
  split
  · exact .same h
  · exact .restart h
  · split
    · exact timerStep_showData h _
    · exact .restart h
  · exact timerStep_showData (hcached h _) _

theorem timerStep_step (page : Page) (event : Event) :
    TimerStep page event (step page event).1 := by
  have hself : SameTimer page page := ⟨rfl, rfl, rfl⟩
  cases event with
  | tick id =>
    unfold step tick
    dsimp only
    split
    · split
      · refine timerStep_fetchTargets ?_ none true
        exact ⟨rfl, rfl, rfl⟩
      · exact .same ⟨rfl, rfl, rfl⟩
    · exact .same hself
  | select value => exact .select value rfl
  | refresh forceRefresh now => exact timerStep_fetchTargets hself _ false
  | invalidate =>
    unfold step invalidateClientCache
    refine timerStep_fetchTargets ?_ none false
    exact ⟨rfl, rfl, rfl⟩
  | respond number outcome now =>
    unfold step respond
    dsimp only
    split
    · refine timerStep_resume ?_ number outcome now
      exact ⟨rfl, rfl, rfl⟩
    · exact .same hself

/-! ## Live intervals -/

/-- The browser runs one interval at most, and it is the one in `timerId`. -/
structure OneTimer (page : Page) : Prop where
  recorded : ∀ id ∈ page.liveIntervals, page.timerId = some id
  single : page.liveIntervals.length ≤ 1

theorem liveIntervals_cleared {page : Page} (h : OneTimer page) :
    (cleared page).liveIntervals = [] := by
  refine List.filter_eq_nil_iff.mpr fun id hid => ?_
  simp [h.recorded id hid]

/-- A restart leaves no interval, or a new one. -/
theorem liveIntervals_startAutoRefresh {page : Page} (h : OneTimer page) :
    (startAutoRefresh page).liveIntervals =
      if page.currentInterval ≤ 0 then [] else [page.nextInterval] := by
  rw [startAutoRefresh_eq]
  split
  · exact liveIntervals_cleared h
  · exact congrArg (· ++ [page.nextInterval]) (liveIntervals_cleared h)

theorem timerId_startAutoRefresh {page : Page} (h : 0 < page.currentInterval) :
    (startAutoRefresh page).timerId = some page.nextInterval := by
  rw [startAutoRefresh_eq, if_neg (by omega)]
  rfl

theorem oneTimer_startAutoRefresh {page : Page} (h : OneTimer page) :
    OneTimer (startAutoRefresh page) := by
  have hlive := liveIntervals_startAutoRefresh h
  by_cases hoff : page.currentInterval ≤ 0
  · rw [if_pos hoff] at hlive
    refine ⟨?_, ?_⟩
    · rw [hlive]
      exact fun id hid => absurd hid List.not_mem_nil
    · rw [hlive]
      exact Nat.zero_le 1
  · rw [if_neg hoff] at hlive
    refine ⟨?_, ?_⟩
    · rw [hlive, timerId_startAutoRefresh (by omega)]
      intro id hid
      rw [List.mem_singleton.mp hid]
    · rw [hlive]
      exact Nat.le_refl 1

theorem SameTimer.oneTimer {page page' : Page} (hsame : SameTimer page page')
    (h : OneTimer page) : OneTimer page' := by
  refine ⟨?_, ?_⟩
  · rw [hsame.live, hsame.timerId]
    exact h.recorded
  · rw [hsame.live]
    exact h.single

theorem oneTimer_step {page : Page} (h : OneTimer page) (event : Event) :
    OneTimer (step page event).1 := by
  have hstep := timerStep_step page event
  generalize (step page event).1 = next at hstep ⊢
  cases hstep with
  | same hsame => exact hsame.oneTimer h
  | restart hsame => exact oneTimer_startAutoRefresh (hsame.oneTimer h)
  | select value _ => exact oneTimer_startAutoRefresh ⟨h.recorded, h.single⟩

theorem oneTimer_run (stored : Option CacheEntry) (events : List Event) :
    OneTimer (pageAfter stored events) := by
  refine Reactive.run_induction (P := fun _ => True) (R := fun _ page => OneTimer page) step
    ?_ ?_ events fun _ _ => trivial
  · exact ⟨fun id hid => absurd hid List.not_mem_nil, Nat.zero_le 1⟩
  · exact fun _ page event h _ => oneTimer_step h event

/-! ## Fetches of the timer -/

/-- The callback of an interval that is live counts down to zero or below. -/
def SendsByTimer (page : Page) (event : Event) : Prop :=
  ∃ id, event = .tick id ∧ id ∈ page.liveIntervals ∧ page.countdown ≤ 1

theorem fetchTargets_sent {page : Page} {unforced : Option Int} {byTimer : Bool} {fetch : Fetch}
    (h : (fetchTargets page unforced byTimer).2.sent = some fetch) : fetch.byTimer = byTimer := by
  unfold fetchTargets at h
  split at h
  · cases h
  · rw [← Option.some.inj h]

theorem resume_sent (page : Page) (number : Nat) (outcome : Outcome) (now : Int) :
    (resume page number outcome now).2.sent = none := by
  unfold resume
  split
  · rfl
  · rfl
  · split
    · rfl
    · rfl
  · rfl

/-- A timer's fetch is sent by such a callback. -/
theorem sendsByTimer_of_sent {page : Page} {event : Event} {fetch : Fetch}
    (h : (step page event).2.sent = some fetch) (htimer : fetch.byTimer = true) :
    SendsByTimer page event := by
  cases event with
  | tick id =>
    unfold step tick at h
    dsimp only at h
    split at h
    · rename_i hlive
      split at h
      · rename_i hzero
        exact ⟨id, rfl, hlive, by omega⟩
      · cases h
    · cases h
  | select value => cases h
  | refresh forceRefresh now =>
    have hfalse := fetchTargets_sent h
    rw [htimer] at hfalse
    cases hfalse
  | invalidate =>
    have hfalse := fetchTargets_sent h
    rw [htimer] at hfalse
    cases hfalse
  | respond number outcome now =>
    unfold step respond at h
    dsimp only at h
    split at h
    · rw [resume_sent] at h
      cases h
    · cases h

/-! ### Refresh is off -/

/-- The interval is not positive and the browser runs none. -/
structure Off (page : Page) : Prop where
  interval : page.currentInterval ≤ 0
  live : page.liveIntervals = []

theorem off_startAutoRefresh {page : Page} (hoff : page.currentInterval ≤ 0)
    (h : OneTimer page) : Off (startAutoRefresh page) := by
  refine ⟨?_, ?_⟩
  · rw [(sameData_startAutoRefresh page).interval]
    exact hoff
  · rw [liveIntervals_startAutoRefresh h, if_pos hoff]

theorem Off.oneTimer {page : Page} (h : Off page) : OneTimer page := by
  refine ⟨?_, ?_⟩
  · rw [h.live]
    exact fun id hid => absurd hid List.not_mem_nil
  · rw [h.live]
    exact Nat.zero_le 1

/-- Refresh stays off until a positive interval is selected. -/
theorem off_step {page : Page} (h : Off page) {event : Event}
    (hevent : ∀ value, event = .select value → value ≤ 0) : Off (step page event).1 := by
  have hstep := timerStep_step page event
  generalize (step page event).1 = next at hstep ⊢
  cases hstep with
  | same hsame => exact ⟨hsame.interval.trans_le h.interval, hsame.live.trans h.live⟩
  | restart hsame =>
    exact off_startAutoRefresh (hsame.interval.trans_le h.interval) (hsame.oneTimer h.oneTimer)
  | select value hselect =>
    exact off_startAutoRefresh (hevent value hselect) ⟨h.oneTimer.recorded, h.oneTimer.single⟩

/-- While it is off the timer sends nothing. -/
theorem off_sends {page : Page} (h : Off page) (event : Event) : ¬ SendsByTimer page event := by
  rintro ⟨id, -, hid, -⟩
  rw [h.live] at hid
  exact absurd hid List.not_mem_nil

theorem off_run {page : Page} (h : Off page) {events : List Event}
    (hevents : ∀ value, .select value ∈ events → value ≤ 0) :
    ∀ effect ∈ (Reactive.run step page events).2, ∀ fetch, effect.sent = some fetch →
      fetch.byTimer = false := by
  induction events generalizing page with
  | nil => exact fun effect heffect => absurd heffect List.not_mem_nil
  | cons event events ih =>
    intro effect heffect fetch hsent
    rw [Reactive.run_cons] at heffect
    have hfirst : ∀ value, event = .select value → value ≤ 0 := by
      rintro value rfl
      exact hevents value List.mem_cons_self
    have hnext := off_step h hfirst
    rcases List.mem_cons.mp heffect with rfl | hlater
    · by_contra htimer
      rw [Bool.not_eq_false] at htimer
      exact off_sends h event (sendsByTimer_of_sent hsent htimer)
    · exact ih hnext (fun value hvalue => hevents value (List.mem_cons_of_mem event hvalue))
        effect hlater fetch hsent

/-- One interval is live at most, and it is the recorded one. From a selection of zero or less
    until a positive one no fetch is sent by a timer, whatever is answered in between. -/
theorem auto_refresh_timer (stored : Option CacheEntry) (events : List Event) :
    (∀ id ∈ (pageAfter stored events).liveIntervals,
      (pageAfter stored events).timerId = some id) ∧
    (pageAfter stored events).liveIntervals.length ≤ 1 ∧
    ∀ interval later, interval ≤ 0 → (∀ value, .select value ∈ later → value ≤ 0) →
      ∀ effect ∈ (Reactive.run step (pageAfter stored events) (.select interval :: later)).2,
        ∀ fetch, effect.sent = some fetch → fetch.byTimer = false := by
  have hone := oneTimer_run stored events
  refine ⟨hone.recorded, hone.single, fun interval later hoff hlater effect heffect => ?_⟩
  rw [Reactive.run_cons] at heffect
  rcases List.mem_cons.mp heffect with rfl | hrest
  · intro fetch hsent
    cases hsent
  · have hoff' : Off (step (pageAfter stored events) (.select interval)).1 :=
      off_startAutoRefresh hoff ⟨hone.recorded, hone.single⟩
    exact off_run hoff' hlater effect hrest

/-- Refresh is turned off while a fetch of the timer is pending. Its answer restarts nothing, and
    a tick of the interval that was live is one of an interval that is gone. -/
theorem auto_refresh_timer_off :
    let started : List Event := [.refresh false 0, .respond 0 (.ok (.obj [])) 0, .select 1, .tick 2]
    let later : List Event := [.respond 1 (.ok (.obj [])) 900, .tick 2, .refresh true 2000,
      .respond 2 .failed 3000, .tick 2]
    (pageAfter none started).pending = [⟨1, true⟩] ∧
      ∀ effect ∈ (Reactive.run step (pageAfter none started) (.select 0 :: later)).2,
        ∀ fetch, effect.sent = some fetch → fetch.byTimer = false := by
  intro started later
  refine ⟨by decide, (auto_refresh_timer none started).2.2 0 later (by decide) ?_⟩
  intro value hvalue
  simp [later] at hvalue

/-! ### Two fetches of the timer at a time -/

def timerPending (page : Page) : List Fetch := page.pending.filter (·.byTimer)

theorem timerPending_sendFetch (page : Page) (byTimer : Bool) :
    timerPending (sendFetch page byTimer).1 =
      timerPending page ++ if byTimer then [⟨page.nextFetch, true⟩] else [] := by
  unfold timerPending sendFetch
  dsimp only
  rw [List.filter_append]
  cases byTimer with
  | false => rfl
  | true => rfl

theorem pending_showData (page : Page) (data : Json) :
    (showData page data).pending = page.pending := by
  unfold showData
  split
  · exact (sameData_startAutoRefresh _).pending
  · exact (sameData_startAutoRefresh page).pending

theorem pending_resume (page : Page) (number : Nat) (outcome : Outcome) (now : Int) :
    (resume page number outcome now).1.pending = page.pending := by
  unfold resume
  split
  · rfl
  · exact (sameData_startAutoRefresh page).pending
  · split
    · exact pending_showData page _
    · exact (sameData_startAutoRefresh page).pending
  · exact pending_showData _ _

theorem timerPending_congr {page page' : Page} (h : page'.pending = page.pending) :
    timerPending page' = timerPending page := by
  rw [timerPending, h, timerPending]

theorem timerPending_fetchTargets (page : Page) (unforced : Option Int) :
    timerPending (fetchTargets page unforced false).1 = timerPending page := by
  unfold fetchTargets
  split
  · exact timerPending_congr (pending_showData page _)
  · exact (timerPending_sendFetch page false).trans (List.append_nil _)

/-- Such a callback adds a fetch of the timer. -/
theorem timerPending_send {page : Page} {event : Event} (h : SendsByTimer page event) :
    timerPending (step page event).1 = timerPending page ++ [⟨page.nextFetch, true⟩] := by
  obtain ⟨id, rfl, hlive, hcountdown⟩ := h
  have hzero : page.countdown - 1 ≤ 0 := by omega
  unfold step tick
  dsimp only
  rw [if_pos hlive, if_pos hzero]
  exact timerPending_sendFetch _ true

/-- No other event does. -/
theorem timerPending_other {page : Page} {event : Event} (h : ¬ SendsByTimer page event) :
    (timerPending (step page event).1).length ≤ (timerPending page).length := by
  cases event with
  | tick id =>
    unfold step tick
    dsimp only
    split
    · rename_i hlive
      split
      · rename_i hzero
        exact absurd ⟨id, rfl, hlive, by omega⟩ h
      · exact Nat.le_refl _
    · exact Nat.le_refl _
  | select value =>
    unfold step updateRefreshInterval
    exact (congrArg List.length (timerPending_congr (sameData_startAutoRefresh _).pending)).le
  | refresh forceRefresh now => exact (congrArg List.length (timerPending_fetchTargets page _)).le
  | invalidate => exact (congrArg List.length (timerPending_fetchTargets _ none)).le
  | respond number outcome now =>
    unfold step respond
    dsimp only
    split
    · rw [timerPending_congr (pending_resume _ _ _ _)]
      unfold timerPending
      dsimp only
      rw [List.filter_filter, List.filter_congr fun _ _ => Bool.and_comm _ _, ← List.filter_filter]
      exact List.length_filter_le _ _
    · exact Nat.le_refl _

/-- A tick sends a fetch while an earlier fetch of the timer has not been answered. -/
def Overlaps (page : Page) (event : Event) : Prop :=
  SendsByTimer page event ∧ timerPending page ≠ []

theorem timerPending_load (stored : Option CacheEntry) :
    (timerPending (Page.load stored)).length ≤ 1 := Nat.zero_le 1

/-- A step leaves at most one fetch of the timer exactly when it does not do that. -/
theorem timerPending_step_iff {page : Page} (event : Event) (h : (timerPending page).length ≤ 1) :
    (timerPending (step page event).1).length ≤ 1 ↔ ¬ Overlaps page event := by
  by_cases hsends : SendsByTimer page event
  · rw [timerPending_send hsends, List.length_append, List.length_singleton]
    constructor
    · intro hlength hoverlaps
      exact hoverlaps.2 (List.length_eq_zero_iff.mp (by omega))
    · intro hnot
      have hnil : timerPending page = [] := by
        by_contra hne
        exact hnot ⟨hsends, hne⟩
      rw [hnil]
      exact Nat.le_refl 1
  · have hless := timerPending_other hsends
    exact iff_of_true (by omega) fun hoverlaps => hsends hoverlaps.1

theorem pending_fetchTargets {page : Page} {unforced : Option Int} {byTimer : Bool}
    {fetch : Fetch} (h : fetch ∈ (fetchTargets page unforced byTimer).1.pending) :
    fetch ∈ page.pending ∨ (fetchTargets page unforced byTimer).2.sent = some fetch := by
  unfold fetchTargets at h ⊢
  split at h
  · rw [pending_showData] at h
    exact Or.inl h
  · rcases List.mem_append.mp h with hold | hnew
    · exact Or.inl hold
    · exact Or.inr (congrArg some (List.mem_singleton.mp hnew).symm)

theorem pending_respond {page : Page} {number : Nat} {outcome : Outcome} {now : Int}
    {fetch : Fetch} (h : fetch ∈ (respond page number outcome now).1.pending) :
    fetch ∈ page.pending ∧ fetch.number ≠ number := by
  unfold respond at h
  split at h
  · rw [pending_resume, List.mem_filter, decide_eq_true_eq] at h
    exact h
  · rename_i hnone
    refine ⟨h, fun hnumber => hnone (List.any_eq_true.mpr ⟨fetch, h, ?_⟩)⟩
    exact decide_eq_true hnumber

/-- A fetch that waits after an event waited before it, and is not answered by it, or is sent by
    it. -/
theorem pending_step {page : Page} {event : Event} {fetch : Fetch}
    (h : fetch ∈ (step page event).1.pending) :
    (fetch ∈ page.pending ∧ ∀ outcome now, event ≠ .respond fetch.number outcome now) ∨
      (step page event).2.sent = some fetch := by
  cases event with
  | tick id =>
    unfold step tick at h ⊢
    dsimp only at h ⊢
    split at h
    · split at h
      · rename_i hlive hzero
        rw [if_pos hlive, if_pos hzero]
        exact (pending_fetchTargets h).imp_left fun hmem => ⟨hmem, by simp⟩
      · exact Or.inl ⟨h, by simp⟩
    · exact Or.inl ⟨h, by simp⟩
  | select value =>
    have hmem : fetch ∈ (startAutoRefresh { page with currentInterval := value }).pending := h
    rw [(sameData_startAutoRefresh _).pending] at hmem
    exact Or.inl ⟨hmem, by simp⟩
  | refresh forceRefresh now =>
    exact (pending_fetchTargets h).imp_left fun hmem => ⟨hmem, by simp⟩
  | invalidate =>
    have hmem := pending_fetchTargets h
    exact hmem.imp_left fun hmem => ⟨hmem, by simp⟩
  | respond number outcome now =>
    obtain ⟨hmem, hnumber⟩ := pending_respond h
    refine Or.inl ⟨hmem, fun outcome' now' heq => hnumber ?_⟩
    exact (Event.respond.inj heq).1.symm

/-- A fetch that waits was sent by an event, and no later one has answered it. -/
theorem sent_of_pending (stored : Option CacheEntry) {events : List Event} {fetch : Fetch}
    (h : fetch ∈ (pageAfter stored events).pending) :
    ∃ before event after, events = before ++ event :: after ∧
      (step (pageAfter stored before) event).2.sent = some fetch ∧
      ∀ outcome now, .respond fetch.number outcome now ∉ after := by
  induction events using List.reverseRecOn with
  | nil => exact absurd h List.not_mem_nil
  | append_singleton events event ih =>
    rw [pageAfter, Reactive.run_concat_state] at h
    rcases pending_step h with ⟨hold, hnot⟩ | hsent
    · obtain ⟨before, sender, after, rfl, hsent, hunanswered⟩ := ih hold
      refine ⟨before, sender, after ++ [event], by simp, hsent, fun outcome now hmem => ?_⟩
      rcases List.mem_append.mp hmem with hmem | hmem
      · exact hunanswered outcome now hmem
      · exact hnot outcome now (List.mem_singleton.mp hmem).symm
    · exact ⟨events, event, [], rfl, hsent, fun _ _ => List.not_mem_nil⟩

/-- Each fetch that a tick sends is answered before the next tick of an interval that is live. -/
def AnsweredInTime (stored : Option CacheEntry) (events : List Event) : Prop :=
  ∀ before event between id after fetch,
    events = before ++ event :: (between ++ .tick id :: after) →
    (step (pageAfter stored before) event).2.sent = some fetch → fetch.byTimer = true →
    id ∈ (pageAfter stored (before ++ event :: between)).liveIntervals →
      ∃ outcome now, .respond fetch.number outcome now ∈ between

/-- Then at most one is outstanding at any time. -/
theorem timer_fetches_of_answered {stored : Option CacheEntry} {events : List Event}
    (h : AnsweredInTime stored events) (n : Nat) :
    (timerPending (pageAfter stored (events.take n))).length ≤ 1 := by
  refine (Reactive.always_iff step (fun page => (timerPending page).length ≤ 1) Overlaps
    (timerPending_load stored) (fun _ event h => timerPending_step_iff event h) events).mpr ?_ n
  rintro m event hevent ⟨⟨id, rfl, hlive, -⟩, hpending⟩
  obtain ⟨fetch, rest, hcons⟩ := List.exists_cons_of_ne_nil hpending
  obtain ⟨hmem, htimer⟩ := List.mem_filter.mp (hcons ▸ List.mem_cons_self : fetch ∈ timerPending _)
  obtain ⟨before, sender, between, htake, hsent, hunanswered⟩ := sent_of_pending stored hmem
  have hsplit : events = before ++ sender :: (between ++ .tick id :: events.drop (m + 1)) := by
    have hdrop : events.drop m = .tick id :: events.drop (m + 1) := by
      rw [List.drop_eq_getElem?_toList_append, hevent]
      rfl
    calc events = events.take m ++ events.drop m := (List.take_append_drop m events).symm
      _ = _ := by rw [htake, hdrop, List.append_assoc, List.cons_append]
  rw [htake] at hlive
  obtain ⟨outcome, now, hanswer⟩ := h before sender between id _ fetch hsplit hsent htimer hlive
  exact hunanswered outcome now hanswer

/-- The fetch of the fifteenth tick is not answered within a second. -/
def slowAnswer : List Event :=
  [.refresh false 0, .respond 0 (.ok (.obj [])) 0, .select 15] ++ List.replicate 16 (.tick 2)

end HybridOperator.Dashboard
