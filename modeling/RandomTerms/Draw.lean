/-
# Drawing numbers

All that is random about a term comes from draws: someone asks for a number in a range, a source
answers it or stops. The source decides what it answers, so a source may hold a script, compute a
sequence, or turn random words into numbers.

No law binds a source: it may answer outside the range that was asked for, and then a term may grow
for ever. A steady source answers outside the range only so many times: `supply` bounds how often.
An answer inside the range may be had for ever. Every term that grows from a steady source ends.
-/

namespace RandomTerms

/-- The numbers from `low` to `high`, ends included. -/
structure Range where
  low : Nat
  high : Nat
deriving DecidableEq, Repr

namespace Range

instance : Membership Nat Range := ⟨fun r v => r.low ≤ v ∧ v ≤ r.high⟩

theorem mem_iff {r : Range} {v : Nat} : v ∈ r ↔ r.low ≤ v ∧ v ≤ r.high := Iff.rfl

instance (v : Nat) (r : Range) : Decidable (v ∈ r) :=
  inferInstanceAs (Decidable (r.low ≤ v ∧ v ≤ r.high))

/-- How many numbers a range that is not empty has. -/
def size (r : Range) : Nat := r.high - r.low + 1

/-- Any number brought into the range, by counting round it from the low end. -/
def wrap (r : Range) (v : Nat) : Nat := r.low + v % r.size

theorem wrap_mem {r : Range} (h : r.low ≤ r.high) (v : Nat) : r.wrap v ∈ r := by
  have := Nat.mod_lt v (show 0 < r.size from Nat.succ_pos _)
  simp only [size] at this
  simp only [mem_iff, wrap, size]
  omega

/-- The range as it is written in messages. -/
def text (r : Range) : String := toString r.low ++ "..=" ++ toString r.high

end Range

/-- Why drawing comes to a stop. -/
inductive Stop
  /-- A script has no number left for the range asked for. -/
  | scriptEnded (asked : Range)
  /-- The next number of a script lies outside the range asked for. -/
  | outside (value : Nat) (asked : Range)
  /-- A list of random words has none left. -/
  | wordsEnded
  /-- A random number was asked for in a range that has none. -/
  | emptyRange
  /-- The number drawn counts no entry of a list of `size` entries. -/
  | noEntry (size index : Nat)
deriving DecidableEq, Repr

def Stop.message : Stop → String
  | .scriptEnded asked => "no draw left for " ++ asked.text
  | .outside value asked => "draw " ++ toString value ++ " outside " ++ asked.text
  | .wordsEnded => "words exhausted"
  | .emptyRange => "cannot sample empty range"
  | .noEntry size index =>
    "index out of bounds: the len is " ++ toString size ++ " but the index is " ++ toString index

/-- What a source does when it is asked: it answers a number or stops, and goes on from `next`. -/
inductive Reply (σ : Type)
  | answered (value : Nat) (next : σ)
  | stopped (why : Stop) (next : σ)

class DrawSource (σ : Type) where
  draw : Range → σ → Reply σ

/-- A source that answers outside the range only so many times. -/
class SteadySource (σ : Type) extends DrawSource σ where
  /-- A bound on the answers outside the range that the source may still give. -/
  supply : σ → Nat
  /-- Answering never adds to the supply. -/
  supply_le {r : Range} {s s' : σ} {v : Nat} : draw r s = .answered v s' → supply s' ≤ supply s
  /-- An answer outside the range uses the supply up. -/
  supply_lt {r : Range} {s s' : σ} {v : Nat} :
    draw r s = .answered v s' → r.low ≤ r.high → v ∉ r → supply s' < supply s

end RandomTerms
