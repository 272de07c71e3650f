/-
# Decimal numbers

Whether a text is a decimal number: a sign, digits with a point among them or at either end, and an
exponent; or a word for infinity or for no number at all. The sign and the exponent may be absent.
-/

namespace RandomTerms.Text

/-- A text without a sign at its beginning. -/
def unsigned (s : List Char) : List Char :=
  match s with
  | '+' :: rest | '-' :: rest => rest
  | s => s

/-- Whether a text is a number of digits, and at least one. -/
def isDigits (s : List Char) : Bool := !s.isEmpty && s.all Char.isDigit

/-- Whether a text is an exponent with its mark, or empty. -/
def isExponent : List Char → Bool
  | [] => true
  | c :: rest => (c == 'e' || c == 'E') && isDigits (unsigned rest)

/-- Whether a text is a number without a sign. -/
def isMagnitude (s : List Char) : Bool :=
  let whole := s.takeWhile Char.isDigit
  match s.dropWhile Char.isDigit with
  | '.' :: rest =>
    !(whole.isEmpty && (rest.takeWhile Char.isDigit).isEmpty)
      && isExponent (rest.dropWhile Char.isDigit)
  | rest => !whole.isEmpty && isExponent rest

/-- The words that stand for a number, in letters of either case. -/
def numberWords : List String := ["inf", "infinity", "nan"]

def isDecimal (s : List Char) : Bool :=
  isMagnitude (unsigned s)
    || numberWords.contains (String.ofList ((unsigned s).map Char.toLower))

end RandomTerms.Text
