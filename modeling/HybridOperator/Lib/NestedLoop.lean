/-
  Nested loops that append: what they append, with the places at which they do.

  The place of an entry is the position in the list the loop runs over, and for a nested loop
  the position in the outer list together with the place in the inner loop.

  Proved: the entries stand in the lexicographic order of their places (`inOrder_each`,
  `inOrder_select`), so each place has at most one entry, and an entry is there exactly when the
  body appends it at its place (`mem_each`, `mem_select`).
-/
import Mathlib.Data.Prod.Lex
import Mathlib.Data.List.Basic

namespace HybridOperator.Lib.NestedLoop

variable {α β π : Type}

/-- What a loop over `l` appends whose body is a loop; the body knows its position. -/
def each (body : α → Nat → List (π × β)) (l : List α) : List ((Nat × π) × β) :=
  l.zipIdx.flatMap fun (a, k) => (body a k).map fun (p, b) => ((k, p), b)

/-- What a loop over `l` appends that appends one entry or none in each round. -/
def select (body : α → Nat → Option β) (l : List α) : List (Nat × β) :=
  l.zipIdx.filterMap fun (a, k) => (body a k).map fun b => (k, b)

/-- The entries stand in the order `r` of their places. -/
def InOrder (r : π → π → Prop) (entries : List (π × β)) : Prop :=
  entries.Pairwise fun x y => r x.1 y.1

theorem mem_each {body : α → Nat → List (π × β)} {l : List α} {k : Nat} {p : π} {b : β} :
    ((k, p), b) ∈ each body l ↔ ∃ a, l[k]? = some a ∧ (p, b) ∈ body a k := by
  simp only [each, List.mem_flatMap, List.mem_map, Prod.exists, Prod.mk.injEq,
    List.mem_zipIdx_iff_getElem?]
  constructor
  · rintro ⟨a, k', ha, p', b', hb, ⟨rfl, rfl⟩, rfl⟩
    exact ⟨a, ha, hb⟩
  · rintro ⟨a, ha, hb⟩
    exact ⟨a, k, ha, p, b, hb, ⟨rfl, rfl⟩, rfl⟩

theorem mem_select {body : α → Nat → Option β} {l : List α} {k : Nat} {b : β} :
    (k, b) ∈ select body l ↔ ∃ a, l[k]? = some a ∧ body a k = some b := by
  simp only [select, List.mem_filterMap, Option.map_eq_some_iff, Prod.exists, Prod.mk.injEq,
    List.mem_zipIdx_iff_getElem?]
  constructor
  · rintro ⟨a, k', ha, b', hb, rfl, rfl⟩
    exact ⟨a, ha, hb⟩
  · rintro ⟨a, ha, hb⟩
    exact ⟨a, k, ha, b, hb, rfl, rfl⟩

/-- A body that does not use its position. -/
theorem flatMap_zipIdx (body : α → List β) (l : List α) :
    (l.zipIdx.flatMap fun x => body x.1) = l.flatMap body := by
  rw [← List.flatMap_map (fun x : α × Nat => x.1) body, List.zipIdx_map_fst]

theorem filterMap_zipIdx (body : α → Option β) (l : List α) :
    (l.zipIdx.filterMap fun x => body x.1) = l.filterMap body := by
  rw [← Function.comp_def, ← List.filterMap_map, List.zipIdx_map_fst]

theorem map_snd_each (body : α → Nat → List (π × β)) (l : List α) :
    (each body l).map Prod.snd = l.zipIdx.flatMap fun (a, k) => (body a k).map Prod.snd := by
  simp only [each, List.map_flatMap, List.map_map]
  rfl

theorem map_snd_select (body : α → Nat → Option β) (l : List α) :
    (select body l).map Prod.snd = l.zipIdx.filterMap fun (a, k) => body a k := by
  simp only [select, List.map_filterMap, Option.map_map]
  refine List.filterMap_congr fun x _ => ?_
  exact Option.map_id'

/-- Entries that are lists, one after the other. -/
theorem flatMap_select {γ : Type} (body : α → Nat → Option β) (g : β → List γ) (l : List α) :
    ((select body l).flatMap fun e => g e.2) =
      l.zipIdx.flatMap fun x => ((body x.1 x.2).map g).getD [] := by
  unfold select
  induction l.zipIdx with
  | nil => rfl
  | cons x xs ih =>
    obtain ⟨a, k⟩ := x
    rw [List.flatMap_cons, ← ih, List.filterMap_cons]
    dsimp only
    cases body a k with
    | none => rfl
    | some b => exact List.flatMap_cons

/-- Later elements have greater positions. -/
theorem pairwise_zipIdx (l : List α) : l.zipIdx.Pairwise fun x y => x.2 < y.2 := by
  have hrange : (l.zipIdx.map Prod.snd).Pairwise (· < ·) := by
    rw [List.zipIdx_map_snd]
    exact List.pairwise_lt_range'
  exact List.pairwise_map.mp hrange

theorem inOrder_each {r : π → π → Prop} {body : α → Nat → List (π × β)} {l : List α}
    (h : ∀ a k, l[k]? = some a → InOrder r (body a k)) :
    InOrder (Prod.Lex (· < ·) r) (each body l) := by
  rw [InOrder, each, List.pairwise_flatMap]
  constructor
  · rintro ⟨a, k⟩ hmem
    rw [List.pairwise_map]
    refine (h a k (List.mem_zipIdx_iff_getElem?.mp hmem)).imp fun {x y} hr => ?_
    show Prod.Lex (· < ·) r (k, x.1) (k, y.1)
    exact Prod.Lex.right k hr
  · refine (pairwise_zipIdx l).imp fun {x y} hlt => ?_
    intro e he f hf
    obtain ⟨p, -, rfl⟩ := List.mem_map.mp he
    obtain ⟨q, -, rfl⟩ := List.mem_map.mp hf
    exact Prod.Lex.left _ _ hlt

theorem inOrder_select (body : α → Nat → Option β) (l : List α) :
    InOrder (· < ·) (select body l) := by
  rw [InOrder, select, List.pairwise_filterMap]
  refine (pairwise_zipIdx l).imp fun {x y} hlt => ?_
  intro e he f hf
  obtain ⟨b, -, rfl⟩ := Option.map_eq_some_iff.mp he
  obtain ⟨c, -, rfl⟩ := Option.map_eq_some_iff.mp hf
  exact hlt

end HybridOperator.Lib.NestedLoop
