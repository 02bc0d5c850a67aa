/-
  Loops that keep the first element of each key: a map of the keys that were seen, and a slice
  that a new one is appended to.

  Proved: `mem_dedupBy`: what is kept is the first element of its key in the input, and
  `nodup_map_dedupBy`: no key is kept twice.
-/
import HybridOperator.Lib.GoMap
import Mathlib.Data.List.Induction

namespace HybridOperator.Lib.Dedup

variable {α κ : Type} [DecidableEq κ]

structure Scan (α κ : Type) where
  seen : GoMap κ Bool := ∅
  kept : List α := []

/-- One round of the loop. -/
def keepNew (key : α → κ) (scan : Scan α κ) (a : α) : Scan α κ :=
  if scan.seen.get (key a) false then scan
  else { seen := scan.seen.insert (key a) true, kept := scan.kept ++ [a] }

/-- The elements whose key was not seen before them. -/
def dedupBy (key : α → κ) (as : List α) : List α := (as.foldl (keepNew key) {}).kept

/-- A loop over any state that shows a scan, whose rounds keep the new ones of what they find,
    keeps the new ones of all that is found. -/
theorem foldl_rounds {σ β : Type} (view : Scan α κ → σ) {key : α → κ} {step : σ → β → σ}
    {found : β → List α}
    (hstep : ∀ scan b, step (view scan) b = view ((found b).foldl (keepNew key) scan))
    (bs : List β) (scan : Scan α κ) :
    bs.foldl step (view scan) = view ((bs.flatMap found).foldl (keepNew key) scan) := by
  induction bs generalizing scan with
  | nil => rfl
  | cons b bs ih => rw [List.foldl_cons, hstep, ih, List.flatMap_cons, List.foldl_append]

theorem keepNew_seen (key : α → κ) (scan : Scan α κ) (a : α) (k : κ) :
    (keepNew key scan a).seen.get k false = true ↔
      scan.seen.get k false = true ∨ key a = k := by
  unfold keepNew
  split
  · rename_i hseen
    constructor
    · exact Or.inl
    · rintro (h | rfl)
      · exact h
      · exact hseen
  · rw [GoMap.get_insert]
    split
    · rename_i hk
      exact iff_of_true rfl (Or.inr hk.symm)
    · rename_i hk
      exact ⟨Or.inl, fun h => h.resolve_right (Ne.symm hk)⟩

theorem keepNew_kept (key : α → κ) (scan : Scan α κ) (a : α) :
    (keepNew key scan a).kept =
      if scan.seen.get (key a) false then scan.kept else scan.kept ++ [a] := by
  unfold keepNew
  split
  · rfl
  · rfl

theorem foldl_seen (key : α → κ) (as : List α) (k : κ) :
    (as.foldl (keepNew key) {}).seen.get k false = true ↔ ∃ a ∈ as, key a = k := by
  induction as using List.reverseRecOn with
  | nil => simp [GoMap.get_empty]
  | append_singleton as a ih =>
    rw [List.foldl_append, List.foldl_cons, List.foldl_nil, keepNew_seen, ih]
    simp [or_and_right, exists_or]

/-- What is kept is the first of its key. -/
theorem mem_dedupBy (key : α → κ) (as : List α) (a : α) :
    a ∈ dedupBy key as ↔ as.find? (fun b => key b = key a) = some a := by
  unfold dedupBy
  induction as using List.reverseRecOn with
  | nil => simp
  | append_singleton as b ih =>
    rw [List.foldl_append, List.foldl_cons, List.foldl_nil, List.find?_append, keepNew_kept]
    have hseen := foldl_seen key as (key b)
    have hnone : as.find? (fun c => key c = key a) = none ↔ ¬ ∃ c ∈ as, key c = key a := by
      simp
    split
    · rename_i h
      rw [ih]
      by_cases hkey : key b = key a
      · have hsome : as.find? (fun c => key c = key a) ≠ none := by
          rw [Ne, hnone, not_not, ← hkey]
          exact hseen.mp h
        obtain ⟨c, hc⟩ := Option.ne_none_iff_exists'.mp hsome
        rw [hc, Option.some_or]
      · simp [hkey]
    · rename_i h
      rw [List.mem_append, List.mem_singleton, ih]
      by_cases hkey : key b = key a
      · have hfind : as.find? (fun c => key c = key a) = none := by
          rw [hnone, ← hkey]
          exact fun hex => h (hseen.mpr hex)
        rw [hfind, Option.none_or]
        simp [hkey, eq_comm]
      · have hne : a ≠ b := fun hab => hkey (by rw [hab])
        simp [hkey, hne]

/-- Every element is represented by the kept one of its key. -/
theorem exists_mem_dedupBy (key : α → κ) {as : List α} {a : α} (h : a ∈ as) :
    ∃ b ∈ dedupBy key as, key b = key a := by
  cases hfind : as.find? (fun b => key b = key a) with
  | none =>
    have hnone := List.find?_eq_none.mp hfind a h
    simp at hnone
  | some b =>
    have hkey : key b = key a := by simpa using List.find?_some hfind
    refine ⟨b, (mem_dedupBy key as b).mpr ?_, hkey⟩
    rw [hkey]
    exact hfind

theorem mem_of_mem_dedupBy (key : α → κ) {as : List α} {a : α} (h : a ∈ dedupBy key as) :
    a ∈ as :=
  List.mem_of_find?_eq_some ((mem_dedupBy key as a).mp h)

/-- No two kept elements have the same key. -/
theorem nodup_map_dedupBy (key : α → κ) (as : List α) : ((dedupBy key as).map key).Nodup := by
  unfold dedupBy
  induction as using List.reverseRecOn with
  | nil => exact List.nodup_nil
  | append_singleton as a ih =>
    rw [List.foldl_append, List.foldl_cons, List.foldl_nil, keepNew_kept]
    split
    · exact ih
    · rename_i hnew
      rw [List.map_append, List.map_singleton, ← List.concat_eq_append]
      refine ih.concat fun hmem => hnew ?_
      obtain ⟨b, hb, hkey⟩ := List.mem_map.mp hmem
      exact (foldl_seen key as (key a)).mpr ⟨b, mem_of_mem_dedupBy key hb, hkey⟩

/-- A list whose keys are distinct has at most one element with a property that fixes the key. -/
theorem countP_le_one {α κ : Type} {key : α → κ} {l : List α} (hnd : (l.map key).Nodup)
    {p : α → Bool} (h : ∀ a ∈ l, ∀ b ∈ l, p a → p b → key a = key b) : l.countP p ≤ 1 := by
  induction l with
  | nil => exact Nat.zero_le _
  | cons a l ih =>
    obtain ⟨ha, hnd⟩ := List.nodup_cons.mp hnd
    have hl : ∀ b ∈ l, ∀ c ∈ l, p b → p c → key b = key c := fun b hb c hc =>
      h b (List.mem_cons_of_mem _ hb) c (List.mem_cons_of_mem _ hc)
    by_cases hp : p a = true
    · have hnone : l.countP p = 0 := by
        refine List.countP_eq_zero.mpr fun b hb hpb => ha ?_
        rw [h a List.mem_cons_self b (List.mem_cons_of_mem _ hb) hp hpb]
        exact List.mem_map_of_mem hb
      rw [List.countP_cons_of_pos hp, hnone]
    · rw [List.countP_cons_of_neg hp]
      exact ih hnd hl

/-- What is kept of a list stays kept when more is appended. -/
theorem mem_dedupBy_append_left (key : α → κ) {as : List α} {a : α} (h : a ∈ dedupBy key as)
    (bs : List α) : a ∈ dedupBy key (as ++ bs) := by
  rw [mem_dedupBy] at h ⊢
  rw [List.find?_append, h, Option.some_or]

/-- When no key comes in two blocks, every block is scanned by itself. -/
theorem mem_dedupBy_flatMap {β : Type} (key : α → κ) (block : β → List α) {xs : List β}
    (h : ∀ x ∈ xs, ∀ y ∈ xs, ∀ a ∈ block x, ∀ b ∈ block y, key a = key b → x = y) {a : α} :
    a ∈ dedupBy key (xs.flatMap block) ↔ ∃ x ∈ xs, a ∈ dedupBy key (block x) := by
  simp only [mem_dedupBy, List.find?_flatMap]
  constructor
  · exact List.exists_of_findSome?_eq_some
  · rintro ⟨x, hx, hfind⟩
    have ha : a ∈ block x := List.mem_of_find?_eq_some hfind
    have hsome : xs.findSome? (fun y => (block y).find? fun b => key b = key a) ≠ none := by
      intro hnone
      rw [List.findSome?_eq_none_iff.mp hnone x hx] at hfind
      exact Option.some_ne_none a hfind.symm
    obtain ⟨b, hb⟩ := Option.ne_none_iff_exists'.mp hsome
    obtain ⟨y, hy, hfindy⟩ := List.exists_of_findSome?_eq_some hb
    have hkey : key b = key a := by simpa using List.find?_some hfindy
    have hyx : y = x := h y hy x hx b (List.mem_of_find?_eq_some hfindy) a ha hkey
    subst hyx
    rw [hb, ← hfindy, hfind]

theorem mem_map_dedupBy (key : α → κ) {as : List α} {k : κ} :
    k ∈ (dedupBy key as).map key ↔ k ∈ as.map key := by
  constructor
  · intro h
    obtain ⟨a, ha, rfl⟩ := List.mem_map.mp h
    exact List.mem_map_of_mem (mem_of_mem_dedupBy key ha)
  · intro h
    obtain ⟨a, ha, rfl⟩ := List.mem_map.mp h
    obtain ⟨b, hb, hkey⟩ := exists_mem_dedupBy key ha
    rw [← hkey]
    exact List.mem_map_of_mem hb

/-- How many are kept depends on the keys that occur only. -/
theorem length_dedupBy_congr (key : α → κ) {as bs : List α}
    (h : ∀ k, k ∈ as.map key ↔ k ∈ bs.map key) :
    (dedupBy key as).length = (dedupBy key bs).length := by
  have hperm : ((dedupBy key as).map key).Perm ((dedupBy key bs).map key) := by
    refine (List.perm_ext_iff_of_nodup (nodup_map_dedupBy key as)
      (nodup_map_dedupBy key bs)).mpr fun k => ?_
    rw [mem_map_dedupBy, mem_map_dedupBy, h k]
  have hlength := hperm.length_eq
  rwa [List.length_map, List.length_map] at hlength

/-- With the elements for keys nothing is lost. -/
theorem mem_dedupBy_id {as : List κ} {a : κ} : a ∈ dedupBy id as ↔ a ∈ as := by
  constructor
  · exact mem_of_mem_dedupBy id
  · intro h
    obtain ⟨b, hb, hkey⟩ := exists_mem_dedupBy id h
    rw [id, id] at hkey
    rwa [hkey] at hb

end HybridOperator.Lib.Dedup
