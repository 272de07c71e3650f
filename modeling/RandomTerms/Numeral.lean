/-
# Whole numbers in decimal

Reading a whole number that has to fit a given span. The reader goes from left to right and
reports the first thing that is wrong: a character that is not a digit, or a digit that takes the
value out of the span. So `99999999999999999999x` is too large, while `x99999999999999999999` has
an invalid digit. Only the ASCII digits count, and one sign may stand in front of them.
-/

namespace RandomTerms.Numeral

/-- Why a text is not a number of the wanted kind. -/
inductive Problem
  | empty
  | invalidDigit
  | tooLarge
  | tooSmall
deriving DecidableEq, Repr

def Problem.message : Problem → String
  | .empty => "cannot parse integer from empty string"
  | .invalidDigit => "invalid digit found in string"
  | .tooLarge => "number too large to fit in target type"
  | .tooSmall => "number too small to fit in target type"

/-- The numbers to be read: up to `greatest`, and down to `-least`; with `least` absent a minus
sign is as wrong as any other character. -/
structure Kind where
  greatest : Nat
  least : Option Nat
deriving DecidableEq

def signed64 : Kind := ⟨0x7fffffffffffffff, some 0x8000000000000000⟩

def unsigned64 : Kind := ⟨0xffffffffffffffff, none⟩

def digitValue (c : Char) : Nat := c.toNat - '0'.toNat

/-- Continues `value` by the digits of a text, as long as it stays within `limit`. -/
def extend (limit : Nat) (beyond : Problem) (value : Nat) : List Char → Except Problem Nat
  | [] => .ok value
  | c :: rest =>
    if c.isDigit then
      if 10 * value + digitValue c ≤ limit then
        extend limit beyond (10 * value + digitValue c) rest
      else .error beyond
    else .error .invalidDigit

/-- The value of the digits that follow a sign or stand alone; at least one is needed. -/
def magnitude (limit : Nat) (beyond : Problem) : List Char → Except Problem Nat
  | [] => .error .invalidDigit
  | c :: rest => extend limit beyond 0 (c :: rest)

/-- Reads a number of the given kind that fills the whole text. -/
def read (kind : Kind) : List Char → Except Problem Int
  | [] => .error .empty
  | '+' :: rest => (magnitude kind.greatest .tooLarge rest).map Int.ofNat
  | '-' :: rest =>
    match kind.least with
    | some least => (magnitude least .tooSmall rest).map fun n => -Int.ofNat n
    | none => .error .invalidDigit
  | c :: rest => (magnitude kind.greatest .tooLarge (c :: rest)).map Int.ofNat

/-- The decimal text of a number, a minus sign in front if it is negative. -/
def text (n : Int) : String :=
  .ofList (if n < 0 then '-' :: Nat.toDigits 10 n.natAbs else Nat.toDigits 10 n.natAbs)

end RandomTerms.Numeral
