/-
# Terms

An arithmetic term as it grows: an atom, a term in parentheses, or a term with an operator and
another term appended. The tree remembers in which order the parts were put together; the text
does not, since nothing is said about which operator binds more tightly.
-/
import RandomTerms.Atom

namespace RandomTerms

inductive Op
  | plus
  | minus
  | times
deriving DecidableEq, Repr

def Op.char : Op → Char
  | plus => '+'
  | minus => '-'
  | times => '*'

inductive Term
  | atom (a : Atom)
  | group (inner : Term)
  | join (left : Term) (op : Op) (right : Term)
deriving DecidableEq, Repr

namespace Term

/-- The characters of a term, in front of those that follow it. -/
def charsBefore : Term → List Char → List Char
  | atom a, rest => a.chars ++ rest
  | group t, rest => '(' :: t.charsBefore (')' :: rest)
  | join l op r, rest => l.charsBefore (op.char :: r.charsBefore rest)

def chars (t : Term) : List Char := t.charsBefore []

def text (t : Term) : String := .ofList t.chars

/-- The characters that terms are written with. -/
def isTermChar (c : Char) : Bool :=
  c.isLower || c.isDigit || c == '(' || c == ')' || c == '+' || c == '-' || c == '*'

/-- How many characters the text has. -/
def length : Term → Nat
  | atom a => a.width
  | group t => t.length + 2
  | join l _ r => l.length + 1 + r.length

/-! ## The text, part by part -/

theorem charsBefore_eq (t : Term) (rest : List Char) : t.charsBefore rest = t.chars ++ rest := by
  suffices h : ∀ rest, t.charsBefore rest = t.charsBefore [] ++ rest from h rest
  induction t with
  | atom a => intro rest; simp [charsBefore]
  | group t ih =>
    intro rest
    simp only [charsBefore]
    rw [ih (')' :: rest), ih [')']]
    simp
  | join l op r ihl ihr =>
    intro rest
    simp only [charsBefore]
    rw [ihl, ihl (op.char :: r.charsBefore []), ihr rest]
    simp

@[simp] theorem chars_atom (a : Atom) : (atom a).chars = a.chars := by
  simp [chars, charsBefore]

@[simp] theorem chars_group (t : Term) : (group t).chars = '(' :: (t.chars ++ [')']) := by
  rw [chars, charsBefore, charsBefore_eq]

@[simp] theorem chars_join (l : Term) (op : Op) (r : Term) :
    (join l op r).chars = l.chars ++ op.char :: r.chars := by
  rw [chars, charsBefore, charsBefore_eq, ← chars]

theorem length_chars (t : Term) : t.chars.length = t.length := by
  induction t with
  | atom a => simp [length, Atom.length_chars]
  | group t ih => simp [length, ih]
  | join l op r ihl ihr => simp [length, ihl, ihr]; omega

theorem length_pos (t : Term) : 0 < t.length := by
  cases t with
  | atom a => exact a.width_pos
  | group t => exact Nat.succ_pos _
  | join l op r => simp only [length]; omega

end Term
end RandomTerms
