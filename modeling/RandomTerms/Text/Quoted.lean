/-
# Quoted text

How a text is shown inside a message: between quotes, on one line, with every character visible.
The quote in use and the backslash are escaped by a backslash, four frequent controls have a
letter of their own, and every other character that would not show is written by its code
point in braces. All else stands for itself, so a message that quotes an ordinary word reads as
the word.
-/
import RandomTerms.Text.Hidden

namespace RandomTerms.Text

/-- A character by its code point: `\u`, then the lowercase hexadecimal number in braces. -/
def codePointEscape (c : Char) : List Char :=
  ['\\', 'u', '\x7b'] ++ Nat.toDigits 16 c.toNat ++ ['\x7d']

/-- The letter that stands for a control after a backslash. -/
def controlLetter? (c : Char) : Option Char :=
  if c = '\x00' then some '0'
  else if c = '\t' then some 't'
  else if c = '\n' then some 'n'
  else if c = '\r' then some 'r'
  else none

/-- One character between two quotes `mark`. -/
def escape (mark c : Char) : List Char :=
  match controlLetter? c with
  | some letter => ['\\', letter]
  | none =>
    if c = mark ∨ c = '\\' then ['\\', c]
    else if isHidden c then codePointEscape c
    else [c]

/-- A text between two quotes `mark`. -/
def quoteWith (mark : Char) (s : List Char) : List Char :=
  mark :: (s.flatMap (escape mark) ++ [mark])

/-- A text in double quotes; an apostrophe in it stands for itself. -/
def quote (s : String) : String := .ofList (quoteWith '"' s.toList)

/-- One character in apostrophes; a double quote stands for itself. -/
def quoteChar (c : Char) : List Char := quoteWith '\'' [c]

end RandomTerms.Text
