/-
# White space around a text

The characters with the Unicode property White_Space, and a text without those at its two ends.
A number on the command line is read after `trim`, so a no-break space or an ideographic space
around it does no harm, while one inside it does.
-/
import RandomTerms.Text.Ranges

namespace RandomTerms.Text

/-- The ranges of code points with the property White_Space, ends included. -/
def blankRanges : List (Nat × Nat) :=
  [(0x9, 0xd), (0x20, 0x20), (0x85, 0x85), (0xa0, 0xa0), (0x1680, 0x1680), (0x2000, 0x200a),
   (0x2028, 0x2029), (0x202f, 0x202f), (0x205f, 0x205f), (0x3000, 0x3000)]

/-- White space, by the property White_Space. -/
def isBlank (c : Char) : Bool := inRanges blankRanges c

/-- The text without the white space in front. -/
def trimStart (s : List Char) : List Char := s.dropWhile isBlank

/-- The text without the white space at either end. -/
def trim (s : List Char) : List Char := (trimStart (trimStart s).reverse).reverse

end RandomTerms.Text
