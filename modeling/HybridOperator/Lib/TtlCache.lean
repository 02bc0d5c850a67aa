/-
  A cache whose entries expire: a store from keys to a value and the time it is good until. A
  call reads the clock, takes the value under its key if that is still good, and else fetches
  and stores. Nothing is assumed about queries, keys, values and times but that keys can be told
  apart and times compared; `key` need not tell the queries apart.

  `Holds` says which call an entry comes from, by the calls alone: the last one before that
  stored under the key. `lookup_state_iff` is the invariant of all runs.

  Proved: `transparent_iff`. With a clock that does not run backwards, every call is answered as
  by a fetch of its own and never from the entry of another query exactly when no call comes, in
  the lifetime of an entry, with its key and a different query.
-/
import HybridOperator.Lib.GoMap
import HybridOperator.Lib.Reactive
import Mathlib.Order.Lattice

namespace HybridOperator.Lib.TtlCache

variable {χ κ ν τ : Type} [DecidableEq κ] [LinearOrder τ]

/-- A query, the time at which the cache is asked, and the time until which what is fetched for
    it is good. -/
structure Call (χ τ : Type) where
  query : χ
  checkedAt : τ
  expiresAt : τ

variable (key : χ → κ) (fetch : χ → ν)

/-- The value under the key of the call, if it is still good. -/
def live (m : GoMap κ (ν × τ)) (c : Call χ τ) : Option ν :=
  ((m.lookup (key c.query)).filter fun entry => c.checkedAt < entry.2).map Prod.fst

def step (m : GoMap κ (ν × τ)) (c : Call χ τ) : GoMap κ (ν × τ) × ν :=
  match live key m c with
  | some v => (m, v)
  | none => (m.insert (key c.query) (fetch c.query, c.expiresAt), fetch c.query)

/-- The cache before call `n` of a run from the empty one. -/
def state (calls : List (Call χ τ)) (n : Nat) : GoMap κ (ν × τ) :=
  (Reactive.run (step key fetch) ∅ (calls.take n)).1

/-- Call `n` finds nothing good and stores what it fetches. -/
def Stores (calls : List (Call χ τ)) (n : Nat) (c : Call χ τ) : Prop :=
  calls[n]? = some c ∧ live key (state key fetch calls n) c = none

/-- The entry under `k` before call `n` is the one that call `j` stored. -/
structure Holds (calls : List (Call χ τ)) (n : Nat) (k : κ) (j : Nat) (c : Call χ τ) : Prop where
  lt : j < n
  stores : Stores key fetch calls j c
  key_eq : key c.query = k
  last : ∀ i d, j < i → i < n → Stores key fetch calls i d → key d.query ≠ k

variable {key fetch} {calls : List (Call χ τ)}

theorem live_eq_none {m : GoMap κ (ν × τ)} {c : Call χ τ} :
    live key m c = none ↔
      ∀ entry, m.lookup (key c.query) = some entry → ¬ c.checkedAt < entry.2 := by
  unfold live
  rw [Option.map_eq_none_iff, Option.filter_eq_none_iff]
  simp

theorem live_eq_some {m : GoMap κ (ν × τ)} {c : Call χ τ} {v : ν} :
    live key m c = some v ↔ ∃ t, m.lookup (key c.query) = some (v, t) ∧ c.checkedAt < t := by
  unfold live
  rw [Option.map_eq_some_iff]
  constructor
  · intro ⟨⟨v', t⟩, hentry, hv⟩
    obtain ⟨hlookup, hlt⟩ := Option.filter_eq_some_iff.mp hentry
    obtain rfl : v' = v := hv
    exact ⟨t, hlookup, of_decide_eq_true hlt⟩
  · intro ⟨t, hlookup, hlt⟩
    exact ⟨(v, t), Option.filter_eq_some_iff.mpr ⟨hlookup, decide_eq_true hlt⟩, rfl⟩

theorem state_zero : state key fetch calls 0 = ∅ := by
  rw [state, List.take_zero]
  rfl

theorem state_succ {n : Nat} {c : Call χ τ} (h : calls[n]? = some c) :
    state key fetch calls (n + 1) = (step key fetch (state key fetch calls n) c).1 :=
  Reactive.run_take_succ _ _ h

theorem state_succ_of_none {n : Nat} (h : calls[n]? = none) :
    state key fetch calls (n + 1) = state key fetch calls n := by
  rw [state, state, List.take_add_one, h, Option.toList_none, List.append_nil]

/-- The entry of a key after a call: what the call stored under it, or what was there. -/
theorem lookup_state_succ {n : Nat} {k : κ} :
    (∃ c, Stores key fetch calls n c ∧ key c.query = k ∧
        (state key fetch calls (n + 1)).lookup k = some (fetch c.query, c.expiresAt)) ∨
      (∀ c, Stores key fetch calls n c → key c.query ≠ k) ∧
        (state key fetch calls (n + 1)).lookup k = (state key fetch calls n).lookup k := by
  cases hc : calls[n]? with
  | none =>
    refine Or.inr ⟨fun c hstores => ?_, by rw [state_succ_of_none hc]⟩
    exact absurd (hc.symm.trans hstores.1) (Option.some_ne_none c).symm
  | some c =>
    rw [state_succ hc]
    unfold step
    cases hlive : live key (state key fetch calls n) c with
    | some v =>
      refine Or.inr ⟨fun d hstores => ?_, rfl⟩
      obtain rfl : c = d := Option.some.inj (hc.symm.trans hstores.1)
      exact absurd (hlive.symm.trans hstores.2) (Option.some_ne_none v)
    | none =>
      by_cases hk : key c.query = k
      · refine Or.inl ⟨c, ⟨hc, hlive⟩, hk, ?_⟩
        rw [← hk]
        exact AList.lookup_insert _
      · refine Or.inr ⟨fun d hstores => ?_, AList.lookup_insert_ne (Ne.symm hk)⟩
        obtain rfl : c = d := Option.some.inj (hc.symm.trans hstores.1)
        exact hk

theorem Holds.succ {n : Nat} {k : κ} {j : Nat} {c : Call χ τ} (h : Holds key fetch calls n k j c)
    (hnew : ∀ d, Stores key fetch calls n d → key d.query ≠ k) :
    Holds key fetch calls (n + 1) k j c := by
  refine ⟨Nat.lt_succ_of_lt h.lt, h.stores, h.key_eq, fun i d hij hi hd => ?_⟩
  rcases Nat.lt_succ_iff_lt_or_eq.mp hi with hlt | rfl
  · exact h.last i d hij hlt hd
  · exact hnew d hd

/-- An entry of the cache is what the last call that stored under its key has fetched. -/
theorem lookup_state_iff {n : Nat} {k : κ} {entry : ν × τ} :
    (state key fetch calls n).lookup k = some entry ↔
      ∃ j c, Holds key fetch calls n k j c ∧ entry = (fetch c.query, c.expiresAt) := by
  induction n with
  | zero =>
    rw [state_zero]
    exact iff_of_false (Option.some_ne_none entry).symm
      fun ⟨j, c, h, _⟩ => Nat.not_lt_zero j h.lt
  | succ n ih =>
    rcases @lookup_state_succ _ _ _ _ _ _ key fetch calls n k with
      ⟨c, hstores, hk, hlookup⟩ | ⟨hnew, hlookup⟩
    · rw [hlookup]
      constructor
      · intro hentry
        refine ⟨n, c, ⟨Nat.lt_succ_self n, hstores, hk, fun i d hni hin => ?_⟩,
          (Option.some.inj hentry).symm⟩
        omega
      · intro ⟨j, d, hholds, hentry⟩
        have hj : j = n := Nat.le_antisymm (Nat.le_of_lt_succ hholds.lt)
          (Nat.not_lt.mp fun hlt => hholds.last n c hlt (Nat.lt_succ_self n) hstores hk)
        subst hj
        obtain rfl : d = c := Option.some.inj (hholds.stores.1.symm.trans hstores.1)
        rw [hentry]
    · rw [hlookup, ih]
      constructor
      · intro ⟨j, c, hholds, hentry⟩
        exact ⟨j, c, hholds.succ hnew, hentry⟩
      · intro ⟨j, c, hholds, hentry⟩
        refine ⟨j, c, ⟨?_, hholds.stores, hholds.key_eq, fun i d hji hin =>
          hholds.last i d hji (Nat.lt_succ_of_lt hin)⟩, hentry⟩
        refine Nat.lt_of_le_of_ne (Nat.le_of_lt_succ hholds.lt) fun hj => ?_
        subst hj
        exact hnew c hholds.stores hholds.key_eq

/-! ## Transparency -/

variable (key fetch) (calls)

/-- Call `n` is answered from the entry that call `j` stored. -/
def ServedFrom (j n : Nat) (d c : Call χ τ) : Prop :=
  calls[n]? = some c ∧ (live key (state key fetch calls n) c).isSome ∧
    Holds key fetch calls n (key c.query) j d

/-- The cache does not show: every answer is the call's own fetch, and none is taken from the
    entry of another query. -/
structure Transparent : Prop where
  own : ∀ (n : Nat) (c : Call χ τ), calls[n]? = some c →
    (Reactive.run (step key fetch) ∅ calls).2[n]? = some (fetch c.query)
  not_foreign : ∀ (j n : Nat) (d c : Call χ τ), ServedFrom key fetch calls j n d c →
    d.query = c.query

/-- In the lifetime of an entry the calls with its key are the calls with its query. -/
def NoClash : Prop :=
  ∀ (j n : Nat) (d c : Call χ τ), j < n → Stores key fetch calls j d → calls[n]? = some c →
    key d.query = key c.query → c.checkedAt < d.expiresAt → d.query = c.query

variable {key fetch} {calls}

/-- With a clock that does not run backwards an entry is there for all its lifetime. -/
theorem holds_of_lifetime (hclock : calls.Pairwise fun a b => a.checkedAt ≤ b.checkedAt)
    {j n : Nat} {d c : Call χ τ} (hjn : j < n) (hd : Stores key fetch calls j d)
    (hc : calls[n]? = some c) (hlife : c.checkedAt < d.expiresAt) :
    Holds key fetch calls n (key d.query) j d := by
  have hholds : ∀ m, j < m → m ≤ n → Holds key fetch calls m (key d.query) j d := by
    intro m
    induction m with
    | zero => exact fun hj => absurd hj (Nat.not_lt_zero j)
    | succ m ih =>
      intro hjm hmn
      rcases Nat.lt_succ_iff_lt_or_eq.mp hjm with hlt | rfl
      · have hm := ih hlt (by omega)
        refine hm.succ fun e he hk => ?_
        have hentry : (state key fetch calls m).lookup (key e.query) =
            some (fetch d.query, d.expiresAt) := by
          rw [hk]
          exact lookup_state_iff.mpr ⟨j, d, hm, rfl⟩
        have hexpired := live_eq_none.mp he.2 _ hentry
        have hle : e.checkedAt ≤ c.checkedAt := by
          obtain ⟨hmlt, hme⟩ := List.getElem?_eq_some_iff.mp he.1
          obtain ⟨hnlt, hnc⟩ := List.getElem?_eq_some_iff.mp hc
          have := List.pairwise_iff_getElem.mp hclock m n hmlt hnlt hmn
          rwa [hme, hnc] at this
        exact hexpired (lt_of_le_of_lt hle hlife)
      · exact ⟨Nat.lt_succ_self j, hd, rfl, fun i e hji hij => by omega⟩
  exact hholds n hjn (Nat.le_refl n)

theorem transparent_of_noClash (h : NoClash key fetch calls) : Transparent key fetch calls := by
  refine ⟨fun n c hc => ?_, fun j n d c ⟨hc, hlive, hholds⟩ => ?_⟩
  · rw [Reactive.output_getElem?, hc, Option.map_some]
    refine congrArg some ?_
    show (step key fetch (state key fetch calls n) c).2 = fetch c.query
    unfold step
    cases hlive : live key (state key fetch calls n) c with
    | none => rfl
    | some v =>
      obtain ⟨t, hlookup, hlt⟩ := live_eq_some.mp hlive
      obtain ⟨j, d, hholds, hentry⟩ := lookup_state_iff.mp hlookup
      obtain ⟨rfl, rfl⟩ := Prod.mk.inj hentry
      exact congrArg fetch (h j n d c hholds.lt hholds.stores hc hholds.key_eq hlt)
  · obtain ⟨v, hv⟩ := Option.isSome_iff_exists.mp hlive
    obtain ⟨t, hlookup, hlt⟩ := live_eq_some.mp hv
    have hentry := lookup_state_iff.mpr ⟨j, d, hholds, rfl⟩
    obtain ⟨_, rfl⟩ := Prod.mk.inj (Option.some.inj (hlookup.symm.trans hentry))
    exact h j n d c hholds.lt hholds.stores hc hholds.key_eq hlt

theorem transparent_iff (hclock : calls.Pairwise fun a b => a.checkedAt ≤ b.checkedAt) :
    Transparent key fetch calls ↔ NoClash key fetch calls := by
  refine ⟨fun h j n d c hjn hd hc hkey hlife => ?_, transparent_of_noClash⟩
  have hholds := holds_of_lifetime hclock hjn hd hc hlife
  rw [hkey] at hholds
  have hlive := live_eq_some.mpr ⟨_, lookup_state_iff.mpr ⟨j, d, hholds, rfl⟩, hlife⟩
  exact h.not_foreign j n d c ⟨hc, by rw [hlive]; rfl, hholds⟩

/-- A key that tells the queries apart never clashes. -/
theorem noClash_of_injOn (h : ∀ c ∈ calls, ∀ d ∈ calls, key c.query = key d.query →
    c.query = d.query) : NoClash key fetch calls :=
  fun _ _ d c _ hd hc hkey _ =>
    h d (List.mem_of_getElem? hd.1) c (List.mem_of_getElem? hc) hkey

end HybridOperator.Lib.TtlCache
