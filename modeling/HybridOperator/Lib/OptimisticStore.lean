/-
  Optimistic concurrency: cells with a version each, clients that work on copies.

  A client reads a cell and later writes it back. The server accepts the write only when the
  version the client read is still the stored one, and every accepted write makes a new
  version. `Faithful` is what holds of a copy from the moment it is read on, whatever others
  write: its version is not ahead of the store, and when the versions agree the values do.
  Hence an accepted write starts from the stored value (`value_eq_of_current`), and it makes
  every other copy of the cell stale (`not_current_put`).

  Nothing is said about when a write is rejected, so the rules hold for a server that also
  rejects writes for other reasons.
-/
import Mathlib.Logic.Function.Basic

namespace HybridOperator.Lib.OptimisticStore

variable {κ ν : Type}

/-- A stored value and its version. -/
structure Cell (ν : Type) where
  version : Nat
  value : ν

/-- The server's cells. -/
abbrev Store (κ ν : Type) := κ → Cell ν

/-- What a client holds of a cell it read. -/
structure Copy (κ ν : Type) where
  key : κ
  version : Nat
  value : ν

/-- A copy of the cell as it is now. -/
def read (s : Store κ ν) (k : κ) : Copy κ ν := ⟨k, (s k).version, (s k).value⟩

/-- The copy carries the stored version: the condition for accepting a write. -/
def Current (s : Store κ ν) (c : Copy κ ν) : Prop := (s c.key).version = c.version

instance (s : Store κ ν) (c : Copy κ ν) : Decidable (Current s c) :=
  inferInstanceAs (Decidable (_ = _))

/-- An accepted write: the new value under the next version. -/
def put [DecidableEq κ] (s : Store κ ν) (k : κ) (v : ν) : Store κ ν :=
  Function.update s k ⟨(s k).version + 1, v⟩

/-- Not ahead of the store, and equal to it whenever the versions agree. -/
def Faithful (s : Store κ ν) (c : Copy κ ν) : Prop :=
  c.version ≤ (s c.key).version ∧ (Current s c → (s c.key).value = c.value)

theorem faithful_read (s : Store κ ν) (k : κ) : Faithful s (read s k) :=
  ⟨Nat.le_refl _, fun _ => rfl⟩

theorem value_eq_of_current {s : Store κ ν} {c : Copy κ ν} (hf : Faithful s c)
    (hc : Current s c) : (s c.key).value = c.value := hf.2 hc

section Put

variable [DecidableEq κ]

@[simp] theorem put_same (s : Store κ ν) (k : κ) (v : ν) :
    put s k v k = ⟨(s k).version + 1, v⟩ := by
  simp [put]

theorem put_other (s : Store κ ν) {k k' : κ} (v : ν) (h : k' ≠ k) : put s k v k' = s k' := by
  simp [put, h]

/-- A write to a cell leaves no copy of it current that was not ahead of the store. -/
theorem not_current_put {s : Store κ ν} {c : Copy κ ν} (hf : Faithful s c) (v : ν) :
    ¬ Current (put s c.key v) c := by
  have h := hf.1
  simp only [Current, put_same]
  omega

/-- A write by anyone keeps every copy faithful. -/
theorem faithful_put {s : Store κ ν} {c : Copy κ ν} (hf : Faithful s c) (k : κ) (v : ν) :
    Faithful (put s k v) c := by
  by_cases hk : c.key = k
  · subst hk
    refine ⟨?_, fun hc => absurd hc (not_current_put hf v)⟩
    rw [put_same]
    exact Nat.le_succ_of_le hf.1
  · simpa only [Faithful, Current, put_other s v hk] using hf

end Put

end HybridOperator.Lib.OptimisticStore
