/-
# The smallest parts of a pattern

A pattern describes a set of texts. Its smallest parts are literal characters, the dot, anchors, the
edges of words and the shorthands for digits, blanks and word characters. Which of them may stand
in a pattern depends on the mode in which it is read. Patterns work without the tables of Unicode:
where characters are meant there is no shorthand, no edge of a word, and no literal whose case would
be folded; and where bytes are meant a part may not match a piece of a character.
-/
import RandomTerms.Text.Blank

namespace RandomTerms.Pattern

/-- How a pattern is read from some place on. -/
structure Mode where
  /-- Letters stand for both of their cases. -/
  fold : Bool
  /-- Characters are meant, and not bytes. -/
  unicode : Bool
  /-- White space and comments are passed over. -/
  spaced : Bool
deriving DecidableEq, Repr

namespace Mode

def initial : Mode := ⟨false, true, false⟩

/-- The marks that change the mode; those for lines and for greed do not matter here. -/
def marks : List Char := ['i', 'm', 's', 'U', 'u', 'R', 'x']

/-- Whether a text of marks is in order: those after a hyphen are taken back, none stands twice, and
a hyphen has a mark after it. -/
def isOrderly (text : List Char) : Bool :=
  text.all (fun c => c == '-' || marks.contains c) && decide text.Nodup && text.getLast? != some '-'

/-- The mode after a text of marks. -/
def marked (m : Mode) (text : List Char) : Mode :=
  let given := text.takeWhile (· != '-')
  let taken := text.dropWhile (· != '-')
  let now (mark : Char) (before : Bool) : Bool :=
    given.contains mark || (before && !taken.contains mark)
  ⟨now 'i' m.fold, now 'u' m.unicode, now 'x' m.spaced⟩

end Mode

/-! ## White space and comments -/

/-- Passes over white space and over comments, which go from a hash mark to the end of the line;
`inside` tells whether a comment has been begun. -/
def skipFrom (inside : Bool) : List Char → List Char
  | [] => []
  | c :: rest =>
    if inside then skipFrom (c != '\n') rest
    else if Text.isBlank c then skipFrom false rest
    else if c == '#' then skipFrom true rest
    else c :: rest

/-- Passes over what does not belong to the pattern. -/
def Mode.skip (m : Mode) (s : List Char) : List Char := if m.spaced then skipFrom false s else s

theorem length_skipFrom_le (inside : Bool) (s : List Char) :
    (skipFrom inside s).length ≤ s.length := by
  induction s generalizing inside with
  | nil => simp [skipFrom]
  | cons c rest ih => grind [skipFrom]

/-- To pass over something never makes a text longer. -/
theorem Mode.length_skip_le (m : Mode) (s : List Char) : (m.skip s).length ≤ s.length := by
  unfold Mode.skip
  split
  · exact length_skipFrom_le false s
  · exact Nat.le_refl _

/-! ## Primitives -/

/-- A smallest part of a pattern. -/
inductive Primitive
  /-- A character that stands for itself; `byte` if it was given as the number of a byte. -/
  | literal (c : Char) (byte : Bool)
  | any
  /-- The beginning or the end of a line or of the text. -/
  | anchor
  /-- The edge of a word, or a place that is none. -/
  | wordEdge
  /-- A class of characters with a name of one letter, or its complement. -/
  | shorthand (negated : Bool)
deriving DecidableEq, Repr

namespace Primitive

/-- Whether a primitive may stand in a pattern. -/
def isAllowed (m : Mode) : Primitive → Bool
  | literal c byte => if m.unicode then !m.fold else !byte || decide (c.toNat ≤ 0x7f)
  | any => m.unicode
  | anchor => true
  | wordEdge => !m.unicode
  | shorthand negated => !m.unicode && !negated

/-- Whether a primitive may stand in a set of characters. -/
def isAllowedInSet (m : Mode) : Primitive → Bool
  | literal c _ => if m.unicode then !m.fold else decide (c.toNat ≤ 0x7f)
  | shorthand negated => !m.unicode && !negated
  | any | anchor | wordEdge => false

def hexDigit? (c : Char) : Option Nat :=
  if c.isDigit then some (c.toNat - '0'.toNat)
  else if 'a'.toNat ≤ c.toLower.toNat ∧ c.toLower.toNat ≤ 'f'.toNat then
    some (c.toLower.toNat - 'a'.toNat + 10)
  else none

/-- Continues `value` by `count` hexadecimal digits. -/
def hexadecimal? (m : Mode) (value : Nat) : (count : Nat) → List Char → Option (Nat × List Char)
  | 0, s => some (value, m.skip s)
  | count + 1, s =>
    match m.skip s with
    | [] => none
    | c :: rest =>
      match hexDigit? c with
      | none => none
      | some digit => hexadecimal? m (16 * value + digit) count rest

/-- A character given by its number in `count` hexadecimal digits. -/
def numbered? (m : Mode) (count : Nat) (byte : Bool) (s : List Char) :
    Option (Primitive × List Char) :=
  match hexadecimal? m 0 count s with
  | none => none
  | some (value, rest) =>
    if value < 0xd800 || (0xdfff < value && value < 0x110000) then
      some (literal (Char.ofNat value) byte, rest)
    else none

/-- The primitive that a character stands for after a backslash, where nothing more belongs to it.
Marks of ASCII stand for themselves. -/
def ofEscape? (c : Char) : Option Primitive :=
  match c with
  | 'a' => some (literal '\x07' false)
  | 't' => some (literal '\t' false)
  | 'n' => some (literal '\n' false)
  | 'v' => some (literal '\x0b' false)
  | 'f' => some (literal '\x0c' false)
  | 'r' => some (literal '\r' false)
  | 'A' | 'z' => some anchor
  | 'b' | 'B' | '<' | '>' => some wordEdge
  | 'd' | 's' | 'w' => some (shorthand false)
  | 'D' | 'S' | 'W' => some (shorthand true)
  | c => if c.toNat ≤ 0x7f && !c.isAlphanum then some (literal c false) else none

/-- Reads what follows a backslash. Classes named by a property of Unicode are not known. -/
def escaped? (m : Mode) : List Char → Option (Primitive × List Char)
  | [] => none
  | 'x' :: rest => numbered? m 2 true rest
  | 'u' :: rest => numbered? m 4 false rest
  | 'U' :: rest => numbered? m 8 false rest
  | c :: rest => (ofEscape? c).map fun p => (p, rest)

/-- Reads a primitive of a set, whose first character is `c`. -/
def member? (m : Mode) (c : Char) (rest : List Char) : Option (Primitive × List Char) :=
  if c == '\\' then escaped? m rest else some (literal c false, rest)

/-! ### What is left is no longer -/

theorem length_hexadecimal?_le {m : Mode} {value count result : Nat} {s rest : List Char}
    (h : hexadecimal? m value count s = some (result, rest)) : rest.length ≤ s.length := by
  induction count generalizing value s with
  | zero =>
    have := m.length_skip_le s
    grind [hexadecimal?]
  | succ count ih =>
    have := m.length_skip_le s
    grind [hexadecimal?]

theorem length_numbered?_le {m : Mode} {count : Nat} {byte : Bool} {p : Primitive}
    {s rest : List Char} (h : numbered? m count byte s = some (p, rest)) :
    rest.length ≤ s.length := by
  unfold numbered? at h
  split at h
  · contradiction
  · next value rest' hex =>
    have := length_hexadecimal?_le hex
    grind

theorem length_escaped?_le {m : Mode} {p : Primitive} {s rest : List Char}
    (h : escaped? m s = some (p, rest)) : rest.length ≤ s.length := by
  unfold escaped? at h
  split at h
  · contradiction
  · exact Nat.le_succ_of_le (length_numbered?_le h)
  · exact Nat.le_succ_of_le (length_numbered?_le h)
  · exact Nat.le_succ_of_le (length_numbered?_le h)
  · obtain ⟨_, _, same⟩ := Option.map_eq_some_iff.mp h
    cases same
    exact Nat.le_succ _

theorem length_member?_le {m : Mode} {c : Char} {p : Primitive} {s rest : List Char}
    (h : member? m c s = some (p, rest)) : rest.length ≤ s.length := by
  unfold member? at h
  split at h
  · exact length_escaped?_le h
  · grind

end Primitive
end RandomTerms.Pattern
