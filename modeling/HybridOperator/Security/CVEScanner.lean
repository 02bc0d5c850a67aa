/-
  `GetCVEsForOperator` and `fetchCVEsFromAPI` of cve_scanner.go: the CVEs of a package at a
  version, and the cache in front of them.

  The cache is two maps, from the text `package:version` to the CVEs and to the time until which
  they are good. The text does not tell all pairs apart: a `:` in either part moves the border.
  `cache_refines` shows the two maps as one cache with lifetimes, whose rules then apply.
  Times are nanoseconds since the zero value of `time.Time`; the error of `GetCVEsForOperator` is
  always nil and left out.

  Proved:
  * `cveCache_transparent_iff`: a run of calls is answered as without the cache, and no list is
    served for another pair, exactly when no call comes within the lifetime of an entry with
    the same text and another pair.
  * `cveCache_transparent_of_versions`: that never happens while no version has a `:`.
-/
import HybridOperator.Lib.GoStrings
import HybridOperator.Lib.TtlCache
import Mathlib.Data.Rat.Defs
import Mathlib.Data.Int.Order.Basic

namespace HybridOperator.Security

open HybridOperator.Lib

structure CVEInfo where
  id : String
  severity : String
  description : String
  affectedVersions : List String
  fixedVersion : String
  publishedDate : String
  cvss : ℚ
deriving DecidableEq

structure CVECache where
  data : GoMap String (List CVEInfo) := ∅
  expiry : GoMap String Int := ∅

/-- `24 * time.Hour`. -/
def ttl : Int := 86400000000000

/-- A call and what it reads off the clock: when it looks at an entry, and when it stores one. -/
structure CVECall where
  operatorPackage : String
  version : String
  checkedAt : Int
  storedAt : Int

def CVECall.pair (call : CVECall) : String × String := (call.operatorPackage, call.version)

def cacheKey (operatorPackage version : String) : String := operatorPackage ++ ":" ++ version

def fetchCVEsFromAPI (operatorPackage version : String) : List CVEInfo :=
  if GoStrings.contains operatorPackage "openshift" ∨
      GoStrings.contains operatorPackage "kubernetes" then
    [{ id := "CVE-2024-1234"
       severity := "Medium"
       description := "Sample CVE for demonstration purposes"
       affectedVersions := [version]
       fixedVersion := "1.0.0"
       publishedDate := "2024-01-15"
       cvss := 11 / 2 }]
  else []

/-- The update of the cache after a fetch. -/
def CVECache.store (cache : CVECache) (call : CVECall) (cves : List CVEInfo) : CVECache :=
  let key := cacheKey call.operatorPackage call.version
  { data := cache.data.insert key cves
    expiry := cache.expiry.insert key (call.storedAt + ttl) }

def getCVEsForOperator (cache : CVECache) (call : CVECall) : CVECache × List CVEInfo :=
  let key := cacheKey call.operatorPackage call.version
  let cves := fetchCVEsFromAPI call.operatorPackage call.version
  match cache.data.lookup key with
  | some cachedCVEs =>
      if call.checkedAt < cache.expiry.get key 0 then (cache, cachedCVEs)
      else (cache.store call cves, cves)
  | none => (cache.store call cves, cves)

/-! ## Runs of calls -/

/-- The cache before call `n` of a run from the empty cache. -/
def cacheAt (calls : List CVECall) (n : Nat) : CVECache :=
  (Reactive.run getCVEsForOperator {} (calls.take n)).1

/-- The call finds an entry that is still good. -/
def Cached (cache : CVECache) (call : CVECall) : Prop :=
  (cache.data.lookup (cacheKey call.operatorPackage call.version)).isSome ∧
    call.checkedAt < cache.expiry.get (cacheKey call.operatorPackage call.version) 0

/-- Call `n` fetches and stores. -/
def Stored (calls : List CVECall) (n : Nat) (call : CVECall) : Prop :=
  calls[n]? = some call ∧ ¬ Cached (cacheAt calls n) call

def SameText (call call' : CVECall) : Prop :=
  cacheKey call.operatorPackage call.version = cacheKey call'.operatorPackage call'.version

/-- Call `n` is served the list that call `j` stored: the last one stored under its text. -/
structure ServedList (calls : List CVECall) (j n : Nat) (source call : CVECall) : Prop where
  lt : j < n
  stored : Stored calls j source
  served : calls[n]? = some call ∧ Cached (cacheAt calls n) call
  sameText : SameText source call
  last : ∀ i other, j < i → i < n → Stored calls i other → ¬ SameText other call

/-- No call can tell that there is a cache. -/
structure CacheTransparent (calls : List CVECall) : Prop where
  own : ∀ (n : Nat) (call : CVECall), calls[n]? = some call →
    (Reactive.run getCVEsForOperator {} calls).2[n]? =
      some (fetchCVEsFromAPI call.operatorPackage call.version)
  not_foreign : ∀ j n source call, ServedList calls j n source call → source.pair = call.pair

/-- Within 24 hours of storing a list, its text is asked for by its own pair only. -/
def TextsApart (calls : List CVECall) : Prop :=
  ∀ (j n : Nat) (source call : CVECall), j < n → Stored calls j source →
    calls[n]? = some call → SameText source call → call.checkedAt < source.storedAt + ttl →
    source.pair = call.pair

/-! ## The two maps as one cache -/

def pairKey (pair : String × String) : String := cacheKey pair.1 pair.2

def pairFetch (pair : String × String) : List CVEInfo := fetchCVEsFromAPI pair.1 pair.2

def CVECall.timed (call : CVECall) : TtlCache.Call (String × String) Int :=
  ⟨call.pair, call.checkedAt, call.storedAt + ttl⟩

/-- Every list is held with its time. -/
def Represents (cache : CVECache) (m : GoMap String (List CVEInfo × Int)) : Prop :=
  ∀ k, m.lookup k = (cache.data.lookup k).map fun cves => (cves, cache.expiry.get k 0)

theorem live_eq_none_iff {cache : CVECache} {m : GoMap String (List CVEInfo × Int)}
    (h : Represents cache m) (call : CVECall) :
    TtlCache.live pairKey m call.timed = none ↔ ¬ Cached cache call := by
  have hkey : m.lookup (pairKey call.timed.query) =
      (cache.data.lookup (cacheKey call.operatorPackage call.version)).map fun cves =>
        (cves, cache.expiry.get (cacheKey call.operatorPackage call.version) 0) := h _
  rw [TtlCache.live_eq_none, hkey, Cached]
  cases cache.data.lookup (cacheKey call.operatorPackage call.version) with
  | none => simp
  | some cves =>
    simp only [Option.map_some, Option.some.injEq, forall_eq', Option.isSome_some, true_and]
    rfl

theorem represents_store {cache : CVECache} {m : GoMap String (List CVEInfo × Int)}
    (h : Represents cache m) (call : CVECall) (cves : List CVEInfo) :
    Represents (cache.store call cves)
      (m.insert (pairKey call.timed.query) (cves, call.timed.expiresAt)) := by
  intro k
  have hdata : (cache.store call cves).data =
      cache.data.insert (pairKey call.timed.query) cves := rfl
  have hexpiry : (cache.store call cves).expiry =
      cache.expiry.insert (pairKey call.timed.query) call.timed.expiresAt := rfl
  rw [hdata, hexpiry, GoMap.get_insert]
  by_cases hk : k = pairKey call.timed.query
  · rw [if_pos hk, hk, AList.lookup_insert, AList.lookup_insert, Option.map_some]
  · rw [if_neg hk, AList.lookup_insert_ne hk, AList.lookup_insert_ne hk, h k]

/-- The code's step on the two maps is the cache's step. -/
theorem cache_step {cache : CVECache} {m : GoMap String (List CVEInfo × Int)}
    (h : Represents cache m) (call : CVECall) :
    Represents (getCVEsForOperator cache call).1
        (TtlCache.step pairKey pairFetch m call.timed).1 ∧
      (getCVEsForOperator cache call).2 =
        (TtlCache.step pairKey pairFetch m call.timed).2 := by
  have hkey := h (cacheKey call.operatorPackage call.version)
  have hmiss := live_eq_none_iff h call
  unfold TtlCache.step getCVEsForOperator
  dsimp only
  cases hlive : TtlCache.live pairKey m call.timed with
  | none =>
    have hnot := hmiss.mp hlive
    cases hdata : cache.data.lookup (cacheKey call.operatorPackage call.version) with
    | none => exact ⟨represents_store h call _, rfl⟩
    | some cves =>
      have hexpired : ¬ call.checkedAt <
          cache.expiry.get (cacheKey call.operatorPackage call.version) 0 := by
        intro hlt
        exact hnot ⟨by rw [hdata]; rfl, hlt⟩
      dsimp only
      rw [if_neg hexpired]
      exact ⟨represents_store h call _, rfl⟩
  | some v =>
    obtain ⟨t, hlookup, hlt⟩ := TtlCache.live_eq_some.mp hlive
    rw [show pairKey call.timed.query = cacheKey call.operatorPackage call.version from rfl,
      hkey] at hlookup
    obtain ⟨cves, hdata, hentry⟩ := Option.map_eq_some_iff.mp hlookup
    obtain ⟨rfl, rfl⟩ := Prod.mk.inj hentry
    have hgood : call.checkedAt <
        cache.expiry.get (cacheKey call.operatorPackage call.version) 0 := hlt
    rw [hdata]
    dsimp only
    rw [if_pos hgood]
    exact ⟨h, rfl⟩

theorem cache_refines (calls : List CVECall) :
    Represents (Reactive.run getCVEsForOperator {} calls).1
        (Reactive.run (TtlCache.step pairKey pairFetch) ∅ (calls.map CVECall.timed)).1 ∧
      (Reactive.run getCVEsForOperator {} calls).2 =
        (Reactive.run (TtlCache.step pairKey pairFetch) ∅ (calls.map CVECall.timed)).2 :=
  have hempty : Represents {} ∅ := fun _ => rfl
  Reactive.run_simulation _ _ CVECall.timed Represents (fun _ _ call h => cache_step h call) hempty
    calls

theorem represents_cacheAt (calls : List CVECall) (n : Nat) :
    Represents (cacheAt calls n)
      (TtlCache.state pairKey pairFetch (calls.map CVECall.timed) n) := by
  rw [TtlCache.state, ← List.map_take]
  exact (cache_refines (calls.take n)).1

theorem timed_injective : Function.Injective CVECall.timed := by
  intro call call' h
  obtain ⟨hpair, hchecked, hexpires⟩ := TtlCache.Call.mk.inj h
  obtain ⟨hpackage, hversion⟩ := Prod.mk.inj hpair
  have hstored : call.storedAt = call'.storedAt := by omega
  cases call
  cases call'
  simp only [CVECall.mk.injEq]
  exact ⟨hpackage, hversion, hchecked, hstored⟩

theorem getElem?_timed {calls : List CVECall} {n : Nat} {call : CVECall} :
    (calls.map CVECall.timed)[n]? = some call.timed ↔ calls[n]? = some call := by
  rw [List.getElem?_map, Option.map_eq_some_iff]
  constructor
  · intro ⟨call', hcall', heq⟩
    rwa [timed_injective heq] at hcall'
  · exact fun h => ⟨call, h, rfl⟩

theorem exists_of_getElem?_timed {calls : List CVECall} {n : Nat}
    {c : TtlCache.Call (String × String) Int} (h : (calls.map CVECall.timed)[n]? = some c) :
    ∃ call, c = CVECall.timed call := by
  rw [List.getElem?_map, Option.map_eq_some_iff] at h
  obtain ⟨call, _, rfl⟩ := h
  exact ⟨call, rfl⟩

theorem stores_timed_iff {calls : List CVECall} {n : Nat} {call : CVECall} :
    TtlCache.Stores pairKey pairFetch (calls.map CVECall.timed) n call.timed ↔
      Stored calls n call :=
  and_congr getElem?_timed (live_eq_none_iff (represents_cacheAt calls n) call)

theorem noClash_timed_iff {calls : List CVECall} :
    TtlCache.NoClash pairKey pairFetch (calls.map CVECall.timed) ↔ TextsApart calls := by
  constructor
  · intro h j n source call hjn hstored hcall hsame hlife
    exact h j n source.timed call.timed hjn (stores_timed_iff.mpr hstored)
      (getElem?_timed.mpr hcall) hsame hlife
  · intro h j n d c hjn hd hc hkey hlife
    obtain ⟨source, rfl⟩ := exists_of_getElem?_timed hd.1
    obtain ⟨call, rfl⟩ := exists_of_getElem?_timed hc
    exact h j n source call hjn (stores_timed_iff.mp hd) (getElem?_timed.mp hc) hkey hlife

theorem servedFrom_timed_iff {calls : List CVECall} {j n : Nat} {source call : CVECall} :
    TtlCache.ServedFrom pairKey pairFetch (calls.map CVECall.timed) j n source.timed call.timed ↔
      ServedList calls j n source call := by
  have hcached : (TtlCache.live pairKey
      (TtlCache.state pairKey pairFetch (calls.map CVECall.timed) n) call.timed).isSome ↔
        Cached (cacheAt calls n) call := by
    rw [← not_iff_not, ← live_eq_none_iff (represents_cacheAt calls n) call]
    rw [Option.not_isSome_iff_eq_none]
  constructor
  · intro ⟨hcall, hlive, hholds⟩
    exact ⟨hholds.lt, stores_timed_iff.mp hholds.stores,
      ⟨getElem?_timed.mp hcall, hcached.mp hlive⟩, hholds.key_eq,
      fun i other hji hin hother => hholds.last i other.timed hji hin (stores_timed_iff.mpr hother)⟩
  · intro h
    refine ⟨getElem?_timed.mpr h.served.1, hcached.mpr h.served.2, h.lt,
      stores_timed_iff.mpr h.stored, h.sameText, fun i d hji hin hd => ?_⟩
    obtain ⟨other, rfl⟩ := exists_of_getElem?_timed hd.1
    exact h.last i other hji hin (stores_timed_iff.mp hd)

theorem transparent_timed_iff {calls : List CVECall} :
    TtlCache.Transparent pairKey pairFetch (calls.map CVECall.timed) ↔ CacheTransparent calls := by
  constructor
  · intro h
    refine ⟨fun n call hcall => ?_, fun j n source call hserved =>
      h.not_foreign j n _ _ (servedFrom_timed_iff.mpr hserved)⟩
    rw [(cache_refines calls).2]
    exact h.own n call.timed (getElem?_timed.mpr hcall)
  · intro h
    refine ⟨fun n c hc => ?_, fun j n d c hserved => ?_⟩
    · obtain ⟨call, rfl⟩ := exists_of_getElem?_timed hc
      rw [← (cache_refines calls).2]
      exact h.own n call (getElem?_timed.mp hc)
    · obtain ⟨call, rfl⟩ := exists_of_getElem?_timed hserved.1
      obtain ⟨source, rfl⟩ := exists_of_getElem?_timed hserved.2.2.stores.1
      exact h.not_foreign j n source call (servedFrom_timed_iff.mp hserved)

/-! ## Transparency -/

theorem cveCache_transparent_iff (calls : List CVECall)
    (hclock : calls.Pairwise fun earlier later => earlier.checkedAt ≤ later.checkedAt) :
    CacheTransparent calls ↔ TextsApart calls := by
  rw [← transparent_timed_iff, ← noClash_timed_iff]
  exact TtlCache.transparent_iff (List.pairwise_map.mpr hclock)

/-- The text ends in the version, from the last `:` on. -/
theorem pair_eq_of_sameText {call call' : CVECall} (h : ':' ∉ call.version.toList)
    (h' : ':' ∉ call'.version.toList) (hsame : SameText call call') : call.pair = call'.pair := by
  have hchars := congrArg (fun s => s.toList.reverse) hsame
  simp only [cacheKey, String.toList_append, List.reverse_append, List.append_assoc] at hchars
  obtain ⟨hversion, hpackage⟩ := GoStrings.separated_cancel
    (fun hmem => h (List.mem_reverse.mp hmem)) (fun hmem => h' (List.mem_reverse.mp hmem)) hchars
  exact Prod.ext (String.toList_injective (List.reverse_injective hpackage))
    (String.toList_injective (List.reverse_injective hversion))

/-- As long as no version has a `:` the cache is transparent. -/
theorem cveCache_transparent_of_versions {calls : List CVECall}
    (h : ∀ call ∈ calls, ':' ∉ call.version.toList) : CacheTransparent calls := by
  have happart : TtlCache.NoClash pairKey pairFetch (calls.map CVECall.timed) := by
    refine TtlCache.noClash_of_injOn fun c hc d hd hkey => ?_
    obtain ⟨source, hsource, rfl⟩ := List.mem_map.mp hc
    obtain ⟨call, hcall, rfl⟩ := List.mem_map.mp hd
    exact pair_eq_of_sameText (h source hsource) (h call hcall) hkey
  exact transparent_timed_iff.mp (TtlCache.transparent_of_noClash happart)

/-! ### Two pairs with one text -/

/-- The package `openshift:a` at `b`, and a second later `openshift` at `a:b`. -/
def borderCalls : List CVECall :=
  [⟨"openshift:a", "b", 0, 0⟩, ⟨"openshift", "a:b", 1000000000, 1000000000⟩]

/-- The second call is told that the CVE affects the version `b`. -/
theorem border_served_foreign :
    (Reactive.run getCVEsForOperator {} borderCalls).2 =
        [fetchCVEsFromAPI "openshift:a" "b", fetchCVEsFromAPI "openshift:a" "b"] ∧
      (fetchCVEsFromAPI "openshift:a" "b").map (·.affectedVersions) = [["b"]] ∧
      (fetchCVEsFromAPI "openshift" "a:b").map (·.affectedVersions) = [["a:b"]] ∧
      ¬ CacheTransparent borderCalls := by
  refine ⟨by decide +kernel, by decide +kernel, by decide +kernel, fun h => ?_⟩
  have hown := h.own 1 _ rfl
  revert hown
  decide +kernel

theorem cveCache_transparent_iff_border : CacheTransparent borderCalls ↔ TextsApart borderCalls :=
  cveCache_transparent_iff borderCalls (by decide)

end HybridOperator.Security
