/-
# Atoms

The smallest term: a variable, written as a letter, or a small whole number, written in decimal.
Any character may stand as a letter and any byte as a number; which of them terms are made of is
a matter of the pool.
-/

namespace RandomTerms

/-- A letter or a number. -/
inductive Atom
  | letter (c : Char)
  | number (n : UInt8)
deriving DecidableEq, Repr

namespace Atom

/-- The characters an atom is written with. -/
def chars : Atom → List Char
  | letter c => [c]
  | number n => Nat.toDigits 10 n.toNat

def text (a : Atom) : String := .ofList a.chars

def isLetter : Atom → Bool
  | letter _ => true
  | number _ => false

def width : Atom → Nat
  | letter _ => 1
  | number n => if n.toNat < 10 then 1 else if n.toNat < 100 then 2 else 3

/-- `width` counts the characters that are written. -/
theorem length_chars (a : Atom) : a.chars.length = a.width := by
  cases a with
  | letter c => rfl
  | number n =>
    have h : n.toNat < 256 := n.toNat_lt
    have iff (k : Nat) (hk : 0 < k) :=
      Nat.length_toDigits_le_iff (n := n.toNat) (by omega : 1 < 10) hk
    have h0 : 0 < (Nat.toDigits 10 n.toNat).length := Nat.length_toDigits_pos
    have h1 := iff 1 (by omega)
    have h2 := iff 2 (by omega)
    have h3 := iff 3 (by omega)
    simp only [chars, width]
    split
    · omega
    · split <;> omega

theorem width_pos (a : Atom) : 0 < a.width := by
  cases a with
  | letter c => exact Nat.one_pos
  | number n =>
    simp only [width]
    split
    · exact Nat.one_pos
    · split <;> exact Nat.succ_pos _

end Atom
end RandomTerms
