/-
# Balanced parentheses

A check on any text at all: every parenthesis that opens is closed later, and none is closed that
was not opened. It runs over the bytes of the text, where the two parentheses are single bytes
and no other character contains either of them.
-/
import RandomTerms.Text.Utf8

namespace RandomTerms

/-- Goes through the bytes with `depth` parentheses open. -/
def balancedFrom (depth : Nat) : List UInt8 → Bool
  | [] => depth == 0
  | b :: rest =>
    if b = 0x28 then balancedFrom (depth + 1) rest
    else if b = 0x29 then
      match depth with
      | 0 => false
      | depth + 1 => balancedFrom depth rest
    else balancedFrom depth rest

/-- Whether the parentheses of a text match. -/
def isBalanced (text : String) : Bool := balancedFrom 0 (Text.utf8 text.toList)

end RandomTerms
