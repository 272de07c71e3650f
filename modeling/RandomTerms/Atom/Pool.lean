/-
# The pool

The atoms that terms are made of, as a list from which an entry is drawn at random: each lowercase
letter four times, then the numbers from 0 to 100. With 104 letters among 205 entries an atom is a
letter about every other time.
-/
import RandomTerms.Atom

namespace RandomTerms.Pool

/-- How often each letter stands in the pool. -/
def letterWeight : Nat := 4

def greatestNumber : Nat := 100

def letters : List Atom := (List.range 26).map fun i => .letter (Char.ofNat ('a'.toNat + i))

/-- The numbers from 0 to the greatest. -/
def numbers : List Atom := (List.range (greatestNumber + 1)).map fun n => .number (UInt8.ofNat n)

/-- The pool, in the order in which a draw counts its entries. -/
def entries : List Atom := (List.replicate letterWeight letters).flatten ++ numbers

def size : Nat := entries.length

theorem size_eq : size = 205 := by
  simp [size, entries, letters, numbers, letterWeight, greatestNumber]

/-- The entry at an index, counted from zero. -/
def entry? (index : Nat) : Option Atom := entries[index]?

end RandomTerms.Pool
