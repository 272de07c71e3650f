/-
# A congruential sequence

A source computed from a word of 64 bits: each draw multiplies the word and adds to it, and
answers with the upper half of the bits, brought into the range. The lower bits are left out, as
they repeat too soon.
-/
import RandomTerms.Draw

namespace RandomTerms

/-- The word that the sequence has reached. -/
structure Congruential where
  word : UInt64
deriving DecidableEq, Repr

namespace Congruential

/-- The multiplier of the sequence, shared by the seeding of other generators. -/
def multiplier : UInt64 := 6364136223846793005

/-- The word after this one. -/
def next (s : Congruential) : Congruential := ⟨s.word * multiplier + 1442695040888963407⟩

/-- The number that a word stands for. -/
def value (s : Congruential) : Nat := (s.word >>> 33).toNat

/-- The number of the next word, brought into the range. -/
def draw (r : Range) (s : Congruential) : Reply Congruential :=
  .answered (r.wrap s.next.value) s.next

instance : SteadySource Congruential where
  draw := draw
  supply _ := 0
  supply_le _ := Nat.le_refl _
  supply_lt h hr hv := by
    injection h with h _
    exact absurd (h ▸ Range.wrap_mem hr _) hv

end Congruential
end RandomTerms
