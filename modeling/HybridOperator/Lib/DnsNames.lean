/-
  Names made of DNS labels: letters, digits, `-`, and `.` between the labels. Kubernetes gives
  namespaces such names, and the host of a route is one.
-/
import Mathlib.Data.List.Basic

namespace HybridOperator.Lib

def dnsChar (c : Char) : Bool := c.isAlphanum || c == '-' || c == '.'

theorem dnsChar_toNat {c : Char} (h : dnsChar c = true) :
    45 ≤ c.toNat ∧ c.toNat ≤ 46 ∨ 48 ≤ c.toNat ∧ c.toNat ≤ 57 ∨ 65 ≤ c.toNat ∧ c.toNat ≤ 90 ∨
      97 ≤ c.toNat ∧ c.toNat ≤ 122 := by
  have hval : c.toNat = c.val.toNat := rfl
  unfold dnsChar Char.isAlphanum Char.isAlpha Char.isUpper Char.isLower Char.isDigit at h
  simp only [Bool.or_eq_true, Bool.and_eq_true, decide_eq_true_eq, ge_iff_le,
    UInt32.le_iff_toNat_le, beq_iff_eq] at h
  rw [hval]
  rcases h with ((((h | h) | h) | rfl) | rfl)
  · exact Or.inr (Or.inr (Or.inl h))
  · exact Or.inr (Or.inr (Or.inr h))
  · exact Or.inr (Or.inl h)
  · decide
  · decide

/-- The characters of DNS names, at least one of them. -/
def IsDNSName (s : String) : Prop := s ≠ "" ∧ s.toList.all dnsChar = true

instance : DecidablePred IsDNSName := fun _ => inferInstanceAs (Decidable (_ ∧ _))

namespace IsDNSName

theorem dnsChar_of_mem {s : String} (h : IsDNSName s) {c : Char} (hc : c ∈ s.toList) :
    dnsChar c = true :=
  List.all_eq_true.mp h.2 c hc

/-- A character that is none of theirs does not occur. -/
theorem not_mem {s : String} (h : IsDNSName s) {c : Char} (hc : dnsChar c = false) :
    c ∉ s.toList := by
  intro hmem
  rw [h.dnsChar_of_mem hmem] at hc
  exact Bool.noConfusion hc

theorem toList_ne_nil {s : String} (h : IsDNSName s) : s.toList ≠ [] := by
  intro hnil
  exact h.1 (String.toList_injective (hnil.trans String.toList_empty.symm))

end IsDNSName

end HybridOperator.Lib
