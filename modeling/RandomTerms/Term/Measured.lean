/-
# Terms with their length at hand

A term that grows is asked for its length at every step. Counting its characters anew each time
would make long terms slow, so the length is kept beside the term, together with the proof that it
is the length.
-/
import RandomTerms.Term

namespace RandomTerms

/-- A term and the length of its text. -/
structure Measured where
  term : Term
  length : Nat
  length_eq : length = term.length

namespace Measured

def atom (a : Atom) : Measured := ⟨.atom a, a.width, rfl⟩

def group (m : Measured) : Measured := ⟨.group m.term, m.length + 2, by rw [m.length_eq]; rfl⟩

def join (l : Measured) (op : Op) (r : Measured) : Measured :=
  ⟨.join l.term op r.term, l.length + 1 + r.length, by rw [l.length_eq, r.length_eq]; rfl⟩

theorem length_pos (m : Measured) : 0 < m.length := m.length_eq ▸ m.term.length_pos

end Measured
end RandomTerms
