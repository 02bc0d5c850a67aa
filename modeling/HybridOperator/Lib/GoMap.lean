/-
  Go maps: `map[κ]ν` as Mathlib's association lists without duplicate keys, and the order in
  which a `range` statement visits the keys.

  The language leaves that order open and it may differ from one `range` to the next. A
  `RangeOrder` is one such choice. It carries the proof that it only permutes, so a theorem
  stated for every `RangeOrder` holds for every order the runtime can pick.

  Proved:
  * `total_ofEntries_eq_iff`: a map filled entry by entry keeps the total of its values exactly
    when no key is written twice.
  * `misses_iff`: when two searches along a `range`, which stop at their first answers, both miss
    the good ones in some order.
-/
import Mathlib.Data.List.AList
import Mathlib.Data.List.Induction
import Mathlib.Algebra.BigOperators.Group.List.Basic
import Mathlib.Algebra.GroupWithZero.Nat

namespace HybridOperator.Lib

/-- `map[κ]ν`. -/
abbrev GoMap (κ ν : Type) := AList fun _ : κ => ν

/-- The order in which one `range` statement visits the keys of a map. -/
structure RangeOrder (κ : Type) where
  order : List κ → List κ
  perm : ∀ ks, (order ks).Perm ks

namespace RangeOrder

variable {κ : Type}

/-- The keys in the order of the representation. -/
def asStored : RangeOrder κ := ⟨id, List.Perm.refl⟩

instance : Inhabited (RangeOrder κ) := ⟨asStored⟩

theorem mem_order (o : RangeOrder κ) {ks : List κ} {k : κ} : k ∈ o.order ks ↔ k ∈ ks :=
  (o.perm ks).mem_iff

theorem nodup_order (o : RangeOrder κ) {ks : List κ} : (o.order ks).Nodup ↔ ks.Nodup :=
  (o.perm ks).nodup_iff

/-- One key before the others, if it is there. -/
def first [DecidableEq κ] (k : κ) : RangeOrder κ where
  order ks := if k ∈ ks then k :: ks.erase k else ks
  perm ks := by
    split
    · rename_i h
      exact (List.perm_cons_erase h).symm
    · exact List.Perm.refl ks

theorem order_first [DecidableEq κ] {k : κ} {ks : List κ} (h : k ∈ ks) :
    (first k).order ks = k :: ks.erase k := if_pos h

/-- Two keys before the others, if they are there. -/
def firstTwo [DecidableEq κ] (k k' : κ) : RangeOrder κ where
  order ks := if k ∈ ks ∧ k' ∈ ks.erase k then k :: k' :: (ks.erase k).erase k' else ks
  perm ks := by
    split
    · rename_i h
      exact (((List.perm_cons_erase h.2).symm.cons k).trans (List.perm_cons_erase h.1).symm)
    · exact List.Perm.refl ks

theorem order_firstTwo [DecidableEq κ] {k k' : κ} {ks : List κ} (h : k ∈ ks)
    (h' : k' ∈ ks.erase k) :
    (firstTwo k k').order ks = k :: k' :: (ks.erase k).erase k' := if_pos ⟨h, h'⟩

/-! ### Searches along a range

  `findSome?` along a range has the answer of the first key that has one. `misses_iff` says when
  there is an order in which two such searches both have an answer that is not a good one. -/

section Search

variable {κ β : Type} (good : β → Prop)

/-- No good answer is found along the keys. -/
def Misses (f : κ → Option β) (ks : List κ) : Prop := ∀ b, ks.findSome? f = some b → ¬ good b

def Hit (f : κ → Option β) (k : κ) : Prop := ∃ b, f k = some b ∧ good b

def Miss (f : κ → Option β) (k : κ) : Prop := ∃ b, f k = some b ∧ ¬ good b

/-- A key with an answer to the first search that is not good, and with no good one to the
    second, for which another key can come next. -/
def Overtakes (f g : κ → Option β) : Prop :=
  ∃ k, Miss good f k ∧ ¬ Hit good g k ∧ ((∃ k', Miss good g k') ∨ ∀ k', ¬ Hit good g k')

variable {good}

theorem misses_cons_of_none {f : κ → Option β} {k : κ} {ks : List κ} (h : f k = none) :
    Misses good f (k :: ks) ↔ Misses good f ks := by
  unfold Misses
  rw [List.findSome?_cons, h]

theorem misses_cons_of_miss {f : κ → Option β} {k : κ} {ks : List κ} (h : Miss good f k) :
    Misses good f (k :: ks) := by
  obtain ⟨b, hb, hbad⟩ := h
  intro c hc
  rw [List.findSome?_cons, hb] at hc
  rw [← Option.some.inj hc]
  exact hbad

theorem miss_of_misses_cons {f : κ → Option β} {k : κ} {ks : List κ} {b : β} (hb : f k = some b)
    (h : Misses good f (k :: ks)) : Miss good f k :=
  ⟨b, hb, h b (by rw [List.findSome?_cons, hb])⟩

theorem not_hit_of_miss {f : κ → Option β} {k : κ} (h : Miss good f k) : ¬ Hit good f k := by
  obtain ⟨b, hb, hbad⟩ := h
  rintro ⟨c, hc, hgood⟩
  rw [hb] at hc
  obtain rfl := Option.some.inj hc
  exact hbad hgood

/-- A search that misses has an answer at some key that is not good, or has no answers. -/
theorem miss_or_none {f : κ → Option β} {ks : List κ} (hall : ∀ k, k ∉ ks → f k = none)
    (h : Misses good f ks) : (∃ k, Miss good f k) ∨ ∀ k, ¬ Hit good f k := by
  cases hfind : ks.findSome? f with
  | none =>
    right
    rintro k ⟨b, hb, -⟩
    by_cases hk : k ∈ ks
    · rw [List.findSome?_eq_none_iff.mp hfind k hk] at hb
      cases hb
    · rw [hall k hk] at hb
      cases hb
  | some b =>
    left
    obtain ⟨k, -, hk⟩ := List.exists_of_findSome?_eq_some hfind
    exact ⟨k, b, hk, h b hfind⟩

/-- Along keys at which both searches miss, the first with an answer overtakes. -/
theorem overtakes_of_misses {f g : κ → Option β} {ks : List κ}
    (hall : ∀ k, k ∉ ks → f k = none ∧ g k = none) (hf : Misses good f ks)
    (hg : Misses good g ks) (hsome : ∃ k, f k ≠ none ∨ g k ≠ none) :
    Overtakes good f g ∨ Overtakes good g f := by
  induction ks with
  | nil =>
    obtain ⟨k, hk⟩ := hsome
    obtain ⟨hfk, hgk⟩ := hall k List.not_mem_nil
    exact absurd hk (by simp [hfk, hgk])
  | cons k ks ih =>
    have hfall : ∀ k', k' ∉ k :: ks → f k' = none := fun k' hk' => (hall k' hk').1
    have hgall : ∀ k', k' ∉ k :: ks → g k' = none := fun k' hk' => (hall k' hk').2
    cases hfk : f k with
    | some b =>
      refine Or.inl ⟨k, miss_of_misses_cons hfk hf, ?_, miss_or_none hgall hg⟩
      rintro ⟨c, hc, hgood⟩
      exact not_hit_of_miss (miss_of_misses_cons hc hg) ⟨c, hc, hgood⟩
    | none =>
      cases hgk : g k with
      | some c =>
        refine Or.inr ⟨k, miss_of_misses_cons hgk hg, ?_, miss_or_none hfall hf⟩
        rintro ⟨b, hb, -⟩
        rw [hfk] at hb
        cases hb
      | none =>
        rw [misses_cons_of_none hfk] at hf
        rw [misses_cons_of_none hgk] at hg
        refine ih (fun k' hk' => ?_) hf hg
        by_cases hkk : k' = k
        · rw [hkk]
          exact ⟨hfk, hgk⟩
        · exact hall k' (by simp [hkk, hk'])

/-- A key that overtakes, and after it the one that comes next, make an order in which both
    searches miss. -/
theorem misses_of_overtakes [DecidableEq κ] {f g : κ → Option β} {ks : List κ}
    (hall : ∀ k, k ∉ ks → f k = none ∧ g k = none) (h : Overtakes good f g) :
    ∃ o : RangeOrder κ, Misses good f (o.order ks) ∧ Misses good g (o.order ks) := by
  obtain ⟨k, hmiss, hnot, hnext⟩ := h
  have hmem : ∀ k', (∃ b, f k' = some b) ∨ (∃ b, g k' = some b) → k' ∈ ks := by
    intro k' hk'
    by_contra hout
    obtain ⟨hf, hg⟩ := hall k' hout
    rcases hk' with ⟨b, hb⟩ | ⟨b, hb⟩
    · rw [hf] at hb
      cases hb
    · rw [hg] at hb
      cases hb
  have hk : k ∈ ks := hmem k (Or.inl (hmiss.imp fun _ hb => hb.1))
  cases hgk : g k with
  | some c =>
    refine ⟨first k, ?_⟩
    rw [order_first hk]
    exact ⟨misses_cons_of_miss hmiss, misses_cons_of_miss ⟨c, hgk, fun hc => hnot ⟨c, hgk, hc⟩⟩⟩
  | none =>
    rcases hnext with ⟨k', hmiss'⟩ | hnone
    · have hne : k' ≠ k := by
        rintro rfl
        obtain ⟨b, hb, -⟩ := hmiss'
        rw [hgk] at hb
        cases hb
      have hk' : k' ∈ ks.erase k :=
        (List.mem_erase_of_ne hne).mpr (hmem k' (Or.inr (hmiss'.imp fun _ hb => hb.1)))
      refine ⟨firstTwo k k', ?_⟩
      rw [order_firstTwo hk hk']
      exact ⟨misses_cons_of_miss hmiss, (misses_cons_of_none hgk).mpr (misses_cons_of_miss hmiss')⟩
    · refine ⟨first k, ?_⟩
      rw [order_first hk]
      refine ⟨misses_cons_of_miss hmiss, fun c hc hgood => ?_⟩
      obtain ⟨k', -, hk'⟩ := List.exists_of_findSome?_eq_some hc
      exact hnone k' ⟨c, hk', hgood⟩

/-- When one of two searches has an answer at all, both miss in some order exactly when a key
    overtakes. -/
theorem misses_iff [DecidableEq κ] {f g : κ → Option β} {ks : List κ}
    (hall : ∀ k, k ∉ ks → f k = none ∧ g k = none) (hsome : ∃ k, f k ≠ none ∨ g k ≠ none) :
    (∃ o : RangeOrder κ, Misses good f (o.order ks) ∧ Misses good g (o.order ks)) ↔
      Overtakes good f g ∨ Overtakes good g f := by
  constructor
  · rintro ⟨o, hf, hg⟩
    exact overtakes_of_misses (fun k hk => hall k fun hmem => hk (o.mem_order.mpr hmem)) hf hg hsome
  · rintro (h | h)
    · exact misses_of_overtakes hall h
    · obtain ⟨o, hg, hf⟩ := misses_of_overtakes (fun k hk => (hall k hk).symm) h
      exact ⟨o, hf, hg⟩

end Search

end RangeOrder

namespace GoMap

section Range

variable {κ ν : Type}

/-- The keys of `m` in the order of one `range` statement. -/
def range (m : GoMap κ ν) (o : RangeOrder κ) : List κ := o.order m.keys

theorem mem_range {m : GoMap κ ν} {o : RangeOrder κ} {k : κ} : k ∈ range m o ↔ k ∈ m :=
  o.mem_order

theorem nodup_range (m : GoMap κ ν) (o : RangeOrder κ) : (range m o).Nodup :=
  o.nodup_order.mpr m.keys_nodup

end Range

section Get

variable {κ ν : Type} [DecidableEq κ]

/-- `m[k]`, which is the zero value of the type when the key is missing. -/
def get (m : GoMap κ ν) (k : κ) (zero : ν) : ν := (m.lookup k).getD zero

theorem get_empty (k : κ) (zero : ν) : get (∅ : GoMap κ ν) k zero = zero := rfl

theorem get_insert (m : GoMap κ ν) (k k' : κ) (v zero : ν) :
    get (m.insert k v) k' zero = if k' = k then v else get m k' zero := by
  unfold get
  split
  · rename_i h
    subst h
    rw [AList.lookup_insert]
    rfl
  · rename_i h
    rw [AList.lookup_insert_ne h]

/-- A loop that updates `m[key(x)]` for every `x`: under a key stands what the elements with that
    key make of what stood there. -/
theorem get_foldl_update {α : Type} (key : α → κ) (f : ν → α → ν) (zero : ν) (xs : List α)
    (m : GoMap κ ν) (k : κ) :
    get (xs.foldl (fun m x => m.insert (key x) (f (get m (key x) zero) x)) m) k zero =
      (xs.filter fun x => key x = k).foldl f (get m k zero) := by
  induction xs generalizing m with
  | nil => rfl
  | cons x xs ih =>
    rw [List.foldl_cons, ih, get_insert, List.filter_cons]
    by_cases hk : k = key x
    · subst hk
      rw [if_pos rfl, if_pos (decide_eq_true rfl), List.foldl_cons]
    · rw [if_neg hk, if_neg fun h => hk (of_decide_eq_true h).symm]

/-- A key that is written several times keeps the value of the last write. -/
theorem lookup_foldl_insert (entries : List (κ × ν)) (m : GoMap κ ν) (k : κ) :
    (entries.foldl (fun m e => m.insert e.1 e.2) m).lookup k =
      ((entries.filter fun e => e.1 = k).getLast?.map Prod.snd).or (m.lookup k) := by
  induction entries using List.reverseRecOn with
  | nil => rfl
  | append_singleton entries e ih =>
    rw [List.foldl_append, List.foldl_cons, List.foldl_nil, List.filter_append]
    by_cases hk : e.1 = k
    · subst hk
      rw [AList.lookup_insert, List.filter_singleton, decide_eq_true rfl, cond_true,
        List.getLast?_concat]
      rfl
    · rw [AList.lookup_insert_ne (Ne.symm hk), ih, List.filter_singleton, decide_eq_false hk,
        cond_false, List.append_nil]

end Get

section Total

variable {κ ν ι : Type} [DecidableEq κ]

/-- The sum of a weight over the entries of a map. -/
def total (w : ν → Nat) (m : GoMap κ ν) : Nat := (m.entries.map fun e => w e.2).sum

/-- The entries `m[k] = v` written one after the other. -/
def ofEntries (entries : List (κ × ν)) : GoMap κ ν :=
  entries.foldl (fun m e => m.insert e.1 e.2) ∅

theorem ofEntries_concat (entries : List (κ × ν)) (e : κ × ν) :
    ofEntries (entries ++ [e]) = (ofEntries entries).insert e.1 e.2 := by
  rw [ofEntries, List.foldl_append]
  rfl

theorem mem_ofEntries {entries : List (κ × ν)} {k : κ} :
    k ∈ ofEntries entries ↔ k ∈ entries.map Prod.fst := by
  induction entries using List.reverseRecOn with
  | nil => exact iff_of_false (AList.notMem_empty k) List.not_mem_nil
  | append_singleton entries e ih =>
    rw [ofEntries_concat, AList.mem_insert, ih, List.map_append, List.mem_append, or_comm]
    exact or_congr_right List.mem_singleton.symm

theorem mem_of_lookup_ofEntries {entries : List (κ × ν)} {k : κ} {v : ν}
    (h : (ofEntries entries).lookup k = some v) : ∃ e ∈ entries, e.2 = v := by
  rw [ofEntries, lookup_foldl_insert, AList.lookup_empty, Option.or_none] at h
  obtain ⟨e, he, hv⟩ := Option.map_eq_some_iff.mp h
  exact ⟨e, (List.mem_filter.mp (List.mem_of_getLast? he)).1, hv⟩

theorem total_insert_of_notMem (w : ν → Nat) {m : GoMap κ ν} {k : κ} (h : k ∉ m) (v : ν) :
    total w (m.insert k v) = total w m + w v := by
  rw [total, AList.entries_insert_of_notMem h, List.map_cons, List.sum_cons, Nat.add_comm]
  rfl

/-- A write to a key that is there loses what it had. -/
theorem total_insert_of_mem (w : ν → Nat) {m : GoMap κ ν} {k : κ} {old : ν}
    (h : m.lookup k = some old) (v : ν) :
    total w (m.insert k v) + w old = total w m + w v := by
  have hmem : k ∈ m.entries.keys := AList.lookup_isSome.mp (by rw [h]; rfl)
  obtain ⟨b, before, after, -, hentries, herase⟩ := List.exists_of_kerase hmem
  have hb : m.lookup k = some b :=
    List.mem_dlookup m.nodupKeys (by rw [hentries]; simp)
  obtain rfl : b = old := Option.some.inj (hb.symm.trans h)
  rw [total, total, AList.entries_insert, herase, hentries]
  simp only [List.map_cons, List.map_append, List.sum_cons, List.sum_append]
  omega

theorem total_insert_le (w : ν → Nat) (m : GoMap κ ν) (k : κ) (v : ν) :
    total w (m.insert k v) ≤ total w m + w v := by
  cases h : m.lookup k with
  | none => exact (total_insert_of_notMem w (AList.lookup_eq_none.mp h) v).le
  | some old => exact Nat.le_of_add_right_le (total_insert_of_mem w h v).le

theorem total_ofEntries_le (w : ν → Nat) (entries : List (κ × ν)) :
    total w (ofEntries entries) ≤ (entries.map fun e => w e.2).sum := by
  induction entries using List.reverseRecOn with
  | nil => exact Nat.le_refl 0
  | append_singleton entries e ih =>
    rw [ofEntries_concat, List.map_append, List.sum_append, List.map_singleton,
      List.sum_singleton]
    exact (total_insert_le w _ _ _).trans (Nat.add_le_add_right ih _)

/-- When every value weighs something, the writes keep all weights exactly if no key is written
    twice. -/
theorem total_ofEntries_eq_iff (w : ι → ν → Nat) {entries : List (κ × ν)}
    (hpos : ∀ e ∈ entries, ∃ i, 0 < w i e.2) :
    (∀ i, total (w i) (ofEntries entries) = (entries.map fun e => w i e.2).sum) ↔
      (entries.map Prod.fst).Nodup := by
  induction entries using List.reverseRecOn with
  | nil => exact iff_of_true (fun _ => rfl) List.nodup_nil
  | append_singleton entries e ih =>
    have ih := ih fun e' he' => hpos e' (List.mem_append_left _ he')
    simp only [ofEntries_concat, List.map_append, List.sum_append, List.map_singleton,
      List.sum_singleton]
    rw [← List.concat_eq_append, List.nodup_concat, ← ih, ← mem_ofEntries]
    constructor
    · intro h
      have hnew : e.1 ∉ ofEntries entries := by
        intro hmem
        obtain ⟨old, hold⟩ := Option.isSome_iff_exists.mp (AList.lookup_isSome.mpr hmem)
        obtain ⟨e', he', rfl⟩ := mem_of_lookup_ofEntries hold
        obtain ⟨i, hi⟩ := hpos e' (List.mem_append_left _ he')
        have hlost := total_insert_of_mem (w i) hold e.2
        have hle := total_ofEntries_le (w i) entries
        have hsum := h i
        omega
      refine ⟨hnew, fun i => ?_⟩
      have hsum := h i
      rw [total_insert_of_notMem _ hnew] at hsum
      omega
    · intro ⟨hnew, h⟩ i
      rw [total_insert_of_notMem _ hnew, h i]

end Total

end GoMap

end HybridOperator.Lib
