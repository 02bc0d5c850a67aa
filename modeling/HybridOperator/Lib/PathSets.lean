/-
  Sets of paths that contain what leads to their paths, and what such a set loses to another.

  The loss is told by its `frontier`, the topmost paths that are missing: a path of the first set
  is missing from the second exactly when a path of the frontier leads to it.

  A `Journey` is a sequence of moves between states, each labelled. What holds at its start and
  not at its end is lost by one of its moves.

  Proved:
  * `not_mem_iff`: the frontier tells every missing path.
  * `Journey.exists_loss`: the move that loses a property.
-/
import Mathlib.Data.List.Infix
import Mathlib.Data.Set.Basic

namespace HybridOperator.Lib

/-! ## Path sets -/

structure PathSet (κ : Type) where
  paths : Set (List κ)
  closed : ∀ p q, q ∈ paths → p <+: q → p ≠ [] → p ∈ paths

namespace PathSet

variable {κ : Type} {D E : PathSet κ} {p q : List κ}

/-- The topmost paths of `D` that `E` does not have. -/
def frontier (D E : PathSet κ) : Set (List κ) :=
  {p | p ∈ D.paths ∧ p ∉ E.paths ∧ ∀ q, q ≠ [] → q <+: p → q ≠ p → q ∈ E.paths}

/-- A missing path has a topmost missing one on the way to it. -/
theorem exists_frontier (hD : p ∈ D.paths) (hE : p ∉ E.paths) (hne : p ≠ []) :
    ∃ q ∈ frontier D E, q ≠ [] ∧ q <+: p := by
  induction hn : p.length using Nat.strong_induction_on generalizing p with
  | _ n ih =>
    by_cases htop : ∀ q, q ≠ [] → q <+: p → q ≠ p → q ∈ E.paths
    · exact ⟨p, ⟨hD, hE, htop⟩, hne, List.prefix_rfl⟩
    · push Not at htop
      obtain ⟨q, hq, hpre, hproper, hmissing⟩ := htop
      have hlt : q.length < n :=
        hn ▸ lt_of_le_of_ne hpre.length_le fun h => hproper (hpre.eq_of_length h)
      obtain ⟨r, hr, hrne, hrq⟩ := ih q.length hlt (D.closed q p hD hpre hq) hmissing hq rfl
      exact ⟨r, hr, hrne, hrq.trans hpre⟩

/-- The frontier tells which paths are missing. -/
theorem not_mem_iff (hD : p ∈ D.paths) (hne : p ≠ []) :
    p ∉ E.paths ↔ ∃ q ∈ frontier D E, q ≠ [] ∧ q <+: p := by
  constructor
  · intro hE
    exact exists_frontier hD hE hne
  · rintro ⟨q, ⟨-, hmissing, -⟩, hq, hpre⟩ hE
    exact hmissing (E.closed q p hE hpre hq)

end PathSet

/-! ## Journeys -/

/-- Moves one after the other, the next from where the last one ended. -/
inductive Journey {ι σ : Type} (moves : ι → σ → σ → Prop) : List ι → σ → σ → Prop where
  | nil (s : σ) : Journey moves [] s s
  | cons {i : ι} {is : List ι} {s t u : σ} (first : moves i s t) (rest : Journey moves is t u) :
      Journey moves (i :: is) s u

namespace Journey

variable {ι σ : Type} {moves : ι → σ → σ → Prop} {is : List ι} {s u : σ}

/-- What holds at the start and not at the end is lost by a move. -/
theorem exists_loss {P : σ → Prop} (h : Journey moves is s u) (hs : P s) (hu : ¬ P u) :
    ∃ i ∈ is, ∃ a b, moves i a b ∧ P a ∧ ¬ P b := by
  induction h with
  | nil s => exact absurd hs hu
  | @cons i is s t u first rest ih =>
    by_cases ht : P t
    · obtain ⟨j, hj, hloss⟩ := ih ht hu
      exact ⟨j, List.mem_cons_of_mem i hj, hloss⟩
    · exact ⟨i, List.mem_cons_self, s, t, first, hs, ht⟩

end Journey

end HybridOperator.Lib
