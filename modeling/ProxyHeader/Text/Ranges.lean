/-!
# Ranges of characters

A class of characters is a list of ranges, each given by its first and last code point.
A class is looked through from the front, so it may be in any order; those that are kept
here are in ascending order, which `Ranges.ascend` checks.
-/

namespace ProxyHeader

namespace Ranges

/-- Whether a character lies in one of the ranges. -/
def contain (ranges : List (Nat × Nat)) (c : Char) : Bool :=
  ranges.any fun (lo, hi) => decide (lo ≤ c.toNat ∧ c.toNat ≤ hi)

/-- Whether ranges hold a character each and follow one another upwards, all above `last`. -/
def ascend (last : Nat) : List (Nat × Nat) → Bool
  | [] => true
  | (lo, hi) :: rest => decide (last < lo ∧ lo ≤ hi) && ascend hi rest

/-- A character at or below `last` lies in none of the ranges above. -/
theorem contain_eq_false_of_ascend {last : Nat} {c : Char} (hc : c.toNat ≤ last)
    {ranges : List (Nat × Nat)} (h : ascend last ranges = true) : contain ranges c = false := by
  induction ranges generalizing last with
  | nil => rfl
  | cons r rest ih =>
    obtain ⟨lo, hi⟩ := r
    simp only [ascend, Bool.and_eq_true, decide_eq_true_eq] at h
    have hrest := ih (by omega : c.toNat ≤ hi) h.2
    simp only [contain] at hrest
    simp only [contain, List.any_cons, hrest, Bool.or_false, decide_eq_false_iff_not]
    omega

end Ranges

end ProxyHeader
