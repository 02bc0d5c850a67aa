/-
  Overlapping fetches of the inventory, on the machine of `AutoRefresh`.

  Nothing ties an answer to the calls made after its own: whichever answer comes last is what the
  cache entry and `currentOperatorData` are left with. The runs looked at are those at whose end
  every fetch that was sent has been answered with an inventory.

  The invariant (`Holds`) says what the page has after some answers: each is to a fetch of its
  own; the operators shown are those of the last answer; and so is the cache entry, unless
  there is no inventory in it, and then some fetch has not been answered with one.

  Proved: `latest_inventory_iff`: the page holds the answer to the call that was started last
  exactly when the answer that came last is equal to it.
-/
import HybridOperator.Dashboard.AutoRefresh

namespace HybridOperator.Dashboard

open HybridOperator.Lib

/-- The answers that were received, in the order in which they came. -/
def answers (stored : Option CacheEntry) (events : List Event) : List (Nat × Json) :=
  (Reactive.run step (Page.load stored) events).2.filterMap (·.received)

/-- The cache entry and the operators shown are those of `data`. -/
structure Shows (page : Page) (data : Json) : Prop where
  cache : page.cache.map CacheEntry.data = some data
  operators : operatorsOf data = some page.currentOperatorData

/-- The operators of the cache entry, when it has an inventory. -/
def cachedOperators (page : Page) : Option Json :=
  page.cache.bind fun entry => operatorsOf entry.data

/-- What the page has after some answers. -/
structure Holds (page : Page) (answered : List (Nat × Json)) : Prop where
  once : (page.pending.map Fetch.number ++ answered.map Prod.fst).Nodup
  sent : ∀ number ∈ page.pending.map Fetch.number ++ answered.map Prod.fst,
    number < page.nextFetch
  operators : ∀ last ∈ answered.getLast?, operatorsOf last.2 = some page.currentOperatorData
  cache : ∀ last ∈ answered.getLast?, page.cache.map CacheEntry.data = some last.2 ∨
    (cachedOperators page = none ∧ ∃ number < page.nextFetch, number ∉ answered.map Prod.fst)

/-! ## One event -/

theorem SameData.holds {page page' : Page} {answered : List (Nat × Json)}
    (hsame : SameData page page') (h : Holds page answered) : Holds page' answered := by
  refine ⟨?_, ?_, ?_, ?_⟩
  · rw [hsame.pending]
    exact h.once
  · rw [hsame.pending, hsame.nextFetch]
    exact h.sent
  · rw [hsame.operators]
    exact h.operators
  · unfold cachedOperators
    rw [hsame.cache, hsame.nextFetch]
    exact h.cache

/-- Sending a fetch keeps it, also when the cache is cleared just before. -/
theorem holds_sendFetch {page : Page} {answered : List (Nat × Json)} (h : Holds page answered)
    {cache : Option CacheEntry} (hcache : cache = page.cache ∨ cache = none) (byTimer : Bool) :
    Holds (sendFetch { page with cache := cache } byTimer).1 answered := by
  have hnumbers : ((page.pending ++ [(⟨page.nextFetch, byTimer⟩ : Fetch)]).map Fetch.number ++
      answered.map Prod.fst).Perm
      (page.nextFetch :: (page.pending.map Fetch.number ++ answered.map Prod.fst)) := by
    rw [List.map_append, List.append_assoc]
    exact List.perm_middle
  have hnew : page.nextFetch ∉ page.pending.map Fetch.number ++ answered.map Prod.fst :=
    fun hold => Nat.lt_irrefl _ (h.sent _ hold)
  refine ⟨?_, fun number hnumber => ?_, h.operators, fun last hlast => ?_⟩
  · exact hnumbers.nodup_iff.mpr (List.nodup_cons.mpr ⟨hnew, h.once⟩)
  · rcases List.mem_cons.mp (hnumbers.mem_iff.mp hnumber) with rfl | hold
    · exact Nat.lt_succ_self _
    · exact Nat.lt_succ_of_lt (h.sent number hold)
  · rcases hcache with rfl | rfl
    · refine (h.cache last hlast).imp_right ?_
      rintro ⟨hnone, number, hlt, hmissing⟩
      exact ⟨hnone, number, Nat.lt_succ_of_lt hlt, hmissing⟩
    · refine Or.inr ⟨rfl, page.nextFetch, Nat.lt_succ_self _, fun hold => ?_⟩
      exact hnew (List.mem_append_right _ hold)

theorem cachedOperators_of_data {page : Page} {data : Json}
    (h : page.cache.map CacheEntry.data = some data) : cachedOperators page = operatorsOf data := by
  obtain ⟨entry, hentry, rfl⟩ := Option.map_eq_some_iff.mp h
  unfold cachedOperators
  rw [hentry]
  rfl

/-- Showing the data of the cache entry keeps it. -/
theorem holds_showData {page : Page} {answered : List (Nat × Json)} (h : Holds page answered)
    {data : Json} (hdata : page.cache.map CacheEntry.data = some data) :
    Holds (showData page data) answered := by
  unfold showData
  split
  · rename_i operators hoperators
    refine (sameData_startAutoRefresh _).holds ⟨h.once, h.sent, fun last hlast => ?_, h.cache⟩
    rcases h.cache last hlast with hlastData | ⟨hnone, -⟩
    · rw [hdata] at hlastData
      rw [← Option.some.inj hlastData]
      exact hoperators
    · rw [cachedOperators_of_data hdata, hoperators] at hnone
      cases hnone
  · exact (sameData_startAutoRefresh page).holds h

theorem map_data_of_cachedData {page : Page} {now : Int} {data : Json}
    (h : cachedData page now = some data) : page.cache.map CacheEntry.data = some data := by
  unfold cachedData at h
  split at h
  · rename_i entry hentry
    split at h
    · rw [hentry]
      exact h
    · cases h
  · cases h

theorem holds_fetchTargets {page : Page} {answered : List (Nat × Json)} (h : Holds page answered)
    (unforced : Option Int) (byTimer : Bool) :
    Holds (fetchTargets page unforced byTimer).1 answered := by
  unfold fetchTargets
  split
  · rename_i data hdata
    obtain ⟨now, -, hcached⟩ := Option.bind_eq_some_iff.mp hdata
    exact holds_showData h (map_data_of_cachedData hcached)
  · exact holds_sendFetch h (Or.inl rfl) byTimer

/-! ### Answers -/

/-- The page without the fetch that was answered. -/
def taken (page : Page) (number : Nat) : Page :=
  { page with pending := page.pending.filter fun fetch => fetch.number ≠ number }

theorem pending_taken_sublist (page : Page) (number : Nat) :
    ((taken page number).pending.map Fetch.number).Sublist (page.pending.map Fetch.number) :=
  List.filter_sublist.map Fetch.number

/-- A fetch that is no longer pending, with or without an inventory. -/
theorem holds_taken {page : Page} {answered : List (Nat × Json)} (h : Holds page answered)
    (number : Nat) : Holds (taken page number) answered := by
  have hsub := (pending_taken_sublist page number).append_right (answered.map Prod.fst)
  refine ⟨hsub.nodup h.once, fun other hother => ?_, h.operators, h.cache⟩
  exact h.sent other (hsub.subset hother)

theorem not_mem_pending_taken (page : Page) (number : Nat) :
    number ∉ (taken page number).pending.map Fetch.number := by
  intro hmem
  obtain ⟨fetch, hfetch, hnumber⟩ := List.mem_map.mp hmem
  have hne := (List.mem_filter.mp hfetch).2
  simp [hnumber] at hne

theorem pending_not_answered {page : Page} {answered : List (Nat × Json)} (h : Holds page answered)
    {number : Nat} (hpending : number ∈ page.pending.map Fetch.number) :
    number ∉ answered.map Prod.fst :=
  fun hbefore => List.disjoint_of_nodup_append h.once hpending hbefore

/-- A pending fetch is answered with data that has an inventory. -/
theorem holds_answer {page : Page} {answered : List (Nat × Json)} (h : Holds page answered)
    {number : Nat} (hpending : number ∈ page.pending.map Fetch.number) {data operators : Json}
    (hoperators : operatorsOf data = some operators) {cache : Option CacheEntry}
    (hcache : cache.map CacheEntry.data = some data) :
    Holds { taken page number with cache := cache, currentOperatorData := operators }
      (answered ++ [(number, data)]) := by
  have htaken := holds_taken h number
  have hlast : ∀ last ∈ (answered ++ [(number, data)]).getLast?, last = (number, data) := by
    intro last hlast
    rw [List.getLast?_append, List.getLast?_singleton, Option.some_or, Option.mem_some_iff] at hlast
    exact hlast.symm
  have hnumbers : ((taken page number).pending.map Fetch.number ++
      (answered ++ [(number, data)]).map Prod.fst).Perm
      (number :: ((taken page number).pending.map Fetch.number ++ answered.map Prod.fst)) := by
    rw [List.map_append, ← List.append_assoc]
    exact List.perm_append_singleton _ _
  have hnew : number ∉ (taken page number).pending.map Fetch.number ++ answered.map Prod.fst := by
    intro hmem
    rcases List.mem_append.mp hmem with hstill | hbefore
    · exact not_mem_pending_taken page number hstill
    · exact pending_not_answered h hpending hbefore
  refine ⟨?_, fun other hother => ?_, ?_, ?_⟩
  · exact hnumbers.nodup_iff.mpr (List.nodup_cons.mpr ⟨hnew, htaken.once⟩)
  · rcases List.mem_cons.mp (hnumbers.mem_iff.mp hother) with rfl | hold
    · exact h.sent other (List.mem_append_left _ hpending)
    · exact htaken.sent other hold
  · intro last hmem
    rw [hlast last hmem]
    exact hoperators
  · intro last hmem
    rw [hlast last hmem]
    exact Or.inl hcache

/-- It is answered with `null`. -/
theorem holds_no_inventory {page : Page} {answered : List (Nat × Json)} (h : Holds page answered)
    {number : Nat} (hpending : number ∈ page.pending.map Fetch.number) {data : Json}
    (hoperators : operatorsOf data = none) {cache : Option CacheEntry}
    (hcache : cache.map CacheEntry.data = some data) :
    Holds { taken page number with cache := cache } answered := by
  have htaken := holds_taken h number
  refine ⟨htaken.once, htaken.sent, h.operators, fun last _ => Or.inr ⟨?_, number, ?_, ?_⟩⟩
  · exact (cachedOperators_of_data hcache).trans hoperators
  · exact h.sent number (List.mem_append_left _ hpending)
  · exact pending_not_answered h hpending

theorem holds_data {page : Page} {answered : List (Nat × Json)} (h : Holds page answered)
    {number : Nat} (hpending : number ∈ page.pending.map Fetch.number) {data : Json}
    {cache : Option CacheEntry} (hcache : cache.map CacheEntry.data = some data) :
    Holds (showData { taken page number with cache := cache } data)
      (answered ++ (received number data).received.toList) := by
  unfold showData received
  cases hoperators : operatorsOf data with
  | some operators =>
    exact (sameData_startAutoRefresh _).holds (holds_answer h hpending hoperators hcache)
  | none =>
    refine (sameData_startAutoRefresh _).holds ?_
    rw [Option.map_none, Option.toList_none, List.append_nil]
    exact holds_no_inventory h hpending hoperators hcache

theorem holds_resume {page : Page} {answered : List (Nat × Json)} (h : Holds page answered)
    {number : Nat} (hpending : number ∈ page.pending.map Fetch.number) (outcome : Outcome)
    (now : Int) :
    Holds (resume (taken page number) number outcome now).1
      (answered ++ (resume (taken page number) number outcome now).2.received.toList) := by
  have htaken := holds_taken h number
  have hnone : answered ++ (none : Option (Nat × Json)).toList = answered := List.append_nil _
  cases outcome with
  | ok data => exact holds_data h hpending rfl
  | notModified =>
    unfold resume
    dsimp only
    split
    · rename_i entry hentry
      have hcache : page.cache.map CacheEntry.data = some entry.data :=
        congrArg (Option.map CacheEntry.data) hentry
      exact holds_data h hpending hcache
    · rw [hnone]
      exact (sameData_startAutoRefresh _).holds htaken
  | unauthorized =>
    rw [← hnone] at htaken
    exact htaken
  | failed =>
    rw [← hnone] at htaken
    exact (sameData_startAutoRefresh _).holds htaken

/-! ### Every event -/

theorem received_fetchTargets (page : Page) (unforced : Option Int) (byTimer : Bool) :
    (fetchTargets page unforced byTimer).2.received = none := by
  unfold fetchTargets
  split
  · rfl
  · rfl

theorem holds_step {page : Page} {answered : List (Nat × Json)} (h : Holds page answered)
    (event : Event) :
    Holds (step page event).1 (answered ++ (step page event).2.received.toList) := by
  have hnone : answered ++ (none : Option (Nat × Json)).toList = answered := List.append_nil _
  cases event with
  | tick id =>
    unfold step tick
    dsimp only
    split
    · split
      · rw [received_fetchTargets, hnone]
        refine holds_fetchTargets ?_ none true
        exact ⟨h.once, h.sent, h.operators, h.cache⟩
      · rw [hnone]
        exact ⟨h.once, h.sent, h.operators, h.cache⟩
    · rw [hnone]
      exact h
  | select value =>
    unfold step updateRefreshInterval
    dsimp only
    rw [hnone]
    exact (sameData_startAutoRefresh _).holds ⟨h.once, h.sent, h.operators, h.cache⟩
  | refresh forceRefresh now =>
    unfold step
    dsimp only
    rw [received_fetchTargets, hnone]
    exact holds_fetchTargets h _ false
  | invalidate =>
    unfold step invalidateClientCache
    dsimp only
    rw [received_fetchTargets, hnone]
    exact holds_sendFetch h (Or.inr rfl) false
  | respond number outcome now =>
    unfold step respond
    dsimp only
    split
    · rename_i hany
      obtain ⟨fetch, hfetch, hnumber⟩ := List.any_eq_true.mp hany
      have hpending : number ∈ page.pending.map Fetch.number :=
        List.mem_map.mpr ⟨fetch, hfetch, of_decide_eq_true hnumber⟩
      exact holds_resume h hpending outcome now
    · rw [hnone]
      exact h

/-! ## Runs -/

theorem answers_concat (stored : Option CacheEntry) (events : List Event) (event : Event) :
    answers stored (events ++ [event]) =
      answers stored events ++ (step (pageAfter stored events) event).2.received.toList := by
  unfold answers pageAfter
  rw [Reactive.run_append, List.filterMap_append, Reactive.run_cons, Reactive.run_nil]
  dsimp only
  cases hreceived : (step (Reactive.run step (Page.load stored) events).1 event).2.received with
  | none => rw [List.filterMap_cons_none hreceived]; rfl
  | some answer => rw [List.filterMap_cons_some hreceived]; rfl

theorem holds_run (stored : Option CacheEntry) (events : List Event) :
    Holds (pageAfter stored events) (answers stored events) := by
  induction events using List.reverseRecOn with
  | nil =>
    refine ⟨List.nodup_nil, fun number hnumber => ?_, fun last hlast => ?_, fun last hlast => ?_⟩
    · cases hnumber
    · cases hlast
    · cases hlast
  | append_singleton events event ih =>
    have hstate : pageAfter stored (events ++ [event]) =
        (step (pageAfter stored events) event).1 := Reactive.run_concat_state step _ events event
    rw [hstate, answers_concat]
    exact holds_step ih event

/-- A call has one answer. -/
theorem answer_unique {stored : Option CacheEntry} {events : List Event} {number : Nat}
    {data other : Json} (h : (number, data) ∈ answers stored events)
    (hother : (number, other) ∈ answers stored events) : other = data := by
  have hnodup := (holds_run stored events).once.of_append_right
  exact congrArg Prod.snd (List.inj_on_of_nodup_map hnodup hother h rfl)

/-- When every fetch that was sent has been answered with an inventory, the page holds the one of
    the call that was started last exactly when the answer that came last is equal to it. -/
theorem latest_inventory_iff (stored : Option CacheEntry) (events : List Event)
    (hsome : (pageAfter stored events).nextFetch ≠ 0)
    (hall : ∀ number < (pageAfter stored events).nextFetch,
      ∃ data, (number, data) ∈ answers stored events) :
    ∃ data,
      (∀ other, ((pageAfter stored events).nextFetch - 1, other) ∈ answers stored events ↔
        other = data) ∧
      (Shows (pageAfter stored events) data ↔
        (answers stored events).getLast?.map Prod.snd = some data) := by
  have hholds := holds_run stored events
  obtain ⟨data, hdata⟩ := hall ((pageAfter stored events).nextFetch - 1) (by omega)
  obtain ⟨last, hlast⟩ : ∃ last, (answers stored events).getLast? = some last :=
    ⟨_, List.getLast?_eq_some_getLast (List.ne_nil_of_mem hdata)⟩
  have hcache : (pageAfter stored events).cache.map CacheEntry.data = some last.2 := by
    refine (hholds.cache last hlast).resolve_right ?_
    rintro ⟨-, number, hlt, hmissing⟩
    obtain ⟨answer, hanswer⟩ := hall number hlt
    exact hmissing (List.mem_map.mpr ⟨_, hanswer, rfl⟩)
  refine ⟨data, fun other => ⟨answer_unique hdata, fun heq => heq ▸ hdata⟩, ?_⟩
  rw [hlast, Option.map_some, Option.some.injEq]
  constructor
  · intro hshows
    have heq := hshows.cache
    rw [hcache] at heq
    exact Option.some.inj heq
  · rintro rfl
    exact ⟨hcache, hholds.operators last hlast⟩

def inventory (name : String) : Json := .obj [("operators", .arr [.obj [("name", .str name)]])]

theorem inventory_ne : inventory "old" ≠ inventory "new" := by
  intro h
  injection h with hfields
  simp at hfields

/-- A remediation asks for the inventory while the page's first call waits, and its answer
    comes first. -/
def overtaken : List Event :=
  [.refresh false 0, .refresh true 50, .respond 1 (.ok (inventory "new")) 100,
    .respond 0 (.ok (inventory "old")) 200]

theorem answers_overtaken :
    answers none overtaken = [(1, inventory "new"), (0, inventory "old")] := rfl

/-- Every call has its answer, and what the older one brought is in both places. -/
theorem older_inventory_overwrites :
    (pageAfter none overtaken).pending = [] ∧
      answers none overtaken = [(1, inventory "new"), (0, inventory "old")] ∧
      Shows (pageAfter none overtaken) (inventory "old") ∧
      ¬ Shows (pageAfter none overtaken) (inventory "new") := by
  refine ⟨rfl, answers_overtaken, ⟨rfl, rfl⟩, fun h => ?_⟩
  have hcache : (pageAfter none overtaken).cache.map CacheEntry.data =
      some (inventory "old") := rfl
  have heq := h.cache
  rw [hcache] at heq
  exact inventory_ne (Option.some.inj heq)

/-- Of the two answers it is the second call's that the page would have to hold. -/
theorem latest_inventory_iff_overtaken :
    ∃ data,
      (∀ other, (1, other) ∈ answers none overtaken ↔ other = data) ∧
      (Shows (pageAfter none overtaken) data ↔
        (answers none overtaken).getLast?.map Prod.snd = some data) := by
  refine latest_inventory_iff none overtaken (by decide) fun number hlt => ?_
  have htwo : number < 2 := hlt
  rw [answers_overtaken]
  obtain rfl | rfl : number = 0 ∨ number = 1 := by omega
  · exact ⟨inventory "old", by simp⟩
  · exact ⟨inventory "new", by simp⟩

end HybridOperator.Dashboard
