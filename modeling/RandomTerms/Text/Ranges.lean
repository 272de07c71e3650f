/-
# Sets of characters as ranges

A set of characters given by the ranges of their code points, which is how a property of characters
is kept as a table.
-/

namespace RandomTerms.Text

/-- Whether a character lies in one of the ranges of code points, ends included. -/
def inRanges (ranges : List (Nat × Nat)) (c : Char) : Bool :=
  ranges.any fun r => decide (r.1 ≤ c.toNat) && decide (c.toNat ≤ r.2)

/-- A character lies in the ranges if it lies in one that is among them. -/
theorem inRanges_of_mem {ranges : List (Nat × Nat)} {c : Char} {first last : Nat}
    (h : (first, last) ∈ ranges) (low : first ≤ c.toNat) (high : c.toNat ≤ last) :
    inRanges ranges c = true := by
  rw [inRanges, List.any_eq_true]
  exact ⟨(first, last), h, by simp [low, high]⟩

end RandomTerms.Text
