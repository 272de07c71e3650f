/-
# Atoms in a field

How an atom is written where a field asks for more than its bare text: with a plus sign, cut to
a precision, filled up to a width. A letter is laid out as text and a number as a number, and the
two differ: text leans to the left, ignores the sign and may be cut; a number leans to the right,
is never cut, and can be filled with zeros between its sign and its digits.

A field is asked for by a pattern such as `{:*^+6}`, which `Form.parse?` reads. The pattern
`{:?}` asks for a sketch of the atom instead, its kind and what it holds.
-/
import RandomTerms.Atom
import RandomTerms.Text.Quoted

namespace RandomTerms

/-- The side of the field on which the content stands. -/
inductive Align
  | left
  | right
  | center
deriving DecidableEq, Repr

/-- What a field asks for. A content longer than `width` is written in full. -/
structure Layout where
  fill : Char := ' '
  align : Option Align := none
  plus : Bool := false
  zeros : Bool := false
  width : Nat := 0
  precision : Option Nat := none
deriving DecidableEq, Repr

/-- Fills `content` up to `width`; in the middle, the smaller half stands to the left. -/
def pad (fill : Char) (align : Align) (width : Nat) (content : List Char) : List Char :=
  let gap := width - content.length
  match align with
  | .left => content ++ List.replicate gap fill
  | .right => List.replicate gap fill ++ content
  | .center => List.replicate (gap / 2) fill ++ content ++ List.replicate (gap - gap / 2) fill

namespace Atom

/-- What the field is filled up around: a letter, unless the precision is zero, or a number with
the sign that was asked for. -/
def content (layout : Layout) : Atom → List Char
  | letter c => match layout.precision with
    | some p => [c].take p
    | none => [c]
  | number n => (if layout.plus then ['+'] else []) ++ Nat.toDigits 10 n.toNat

/-- A number filled with zeros between its sign and its digits. -/
def zeroFilled (layout : Layout) (n : UInt8) : List Char :=
  (if layout.plus then ['+'] else [])
    ++ List.replicate (layout.width - (content layout (number n)).length) '0'
    ++ Nat.toDigits 10 n.toNat

def laidOut (layout : Layout) : Atom → List Char
  | letter c => pad layout.fill (layout.align.getD .left) layout.width (content layout (letter c))
  | number n =>
    if layout.zeros then zeroFilled layout n
    else pad layout.fill (layout.align.getD .right) layout.width (content layout (number n))

/-- The kind of the atom and, in brackets, what it holds; spread over three lines if asked. -/
def sketch (spread : Bool) (a : Atom) : List Char :=
  let (kind, held) := match a with
    | letter c => ("Letter", Text.quoteChar c)
    | number n => ("Number", Nat.toDigits 10 n.toNat)
  if spread then kind.toList ++ "(\n    ".toList ++ held ++ ",\n)".toList
  else kind.toList ++ ['('] ++ held ++ [')']

/-- The two ways in which a pattern can ask for an atom. -/
inductive Form
  | field (layout : Layout)
  | sketch (spread : Bool)
deriving DecidableEq, Repr

def format (a : Atom) : Form → String
  | .field layout => .ofList (a.laidOut layout)
  | .sketch spread => .ofList (a.sketch spread)

end Atom

/-! ## Reading a pattern

A pattern is a pair of braces. Inside, after a colon, stand in this order and all optional: a fill
character with a side, or a side alone; a plus sign; a number sign; a zero; a width; a point with
a precision. A question mark at the end asks for a sketch, which the number sign spreads. -/

namespace Atom.Form

/-- The side that a character stands for. -/
def side? (c : Char) : Option Align :=
  if c = '<' then some .left
  else if c = '>' then some .right
  else if c = '^' then some .center
  else none

/-- Takes the fill character and the side off the front. -/
def takeAlign (s : List Char) : (Char × Option Align) × List Char :=
  match s with
  | fill :: c :: rest =>
    match side? c, side? fill with
    | some side, _ => ((fill, some side), rest)
    | none, some side => ((' ', some side), c :: rest)
    | none, none => ((' ', none), s)
  | [c] =>
    match side? c with
    | some side => ((' ', some side), [])
    | none => ((' ', none), s)
  | [] => ((' ', none), [])

/-- Takes `mark` off the front, if it stands there. -/
def takeMark (mark : Char) (s : List Char) : Bool × List Char :=
  if s.head? = some mark then (true, s.tail) else (false, s)

/-- Takes the digits off the front; `none` if there are none. -/
def takeNumber (s : List Char) : Option Nat × List Char :=
  let digits := s.takeWhile Char.isDigit
  (if digits.isEmpty then none else some (Nat.ofDigitChars 10 digits 0), s.dropWhile Char.isDigit)

/-- Takes a point and a precision off the front. -/
def takePrecision (s : List Char) : Option Nat × List Char :=
  match takeMark '.' s with
  | (true, rest) =>
    match takeNumber rest with
    | (some p, rest) => (some p, rest)
    | (none, _) => (none, s)
  | (false, _) => (none, s)

/-- What stands between the colon and the end of the pattern. -/
def parseSpec? (s : List Char) : Option Form :=
  let ((fill, align), s) := takeAlign s
  let (plus, s) := takeMark '+' s
  let (spread, s) := takeMark '#' s
  let (zeros, s) := takeMark '0' s
  let (width, s) := takeNumber s
  let (precision, s) := takePrecision s
  let layout : Layout := ⟨fill, align, plus, zeros, width.getD 0, precision⟩
  if s = ['\x7d'] then some (.field layout)
  else if s = ['?', '\x7d'] ∧ layout = {} then some (.sketch spread)
  else none

/-- The form that a pattern asks for; `none` for a text that is no pattern. -/
def parse? (pattern : String) : Option Form :=
  match pattern.toList with
  | '\x7b' :: ':' :: s => parseSpec? s
  | ['\x7b', '\x7d'] => some (.field {})
  | _ => none

end Atom.Form
end RandomTerms
