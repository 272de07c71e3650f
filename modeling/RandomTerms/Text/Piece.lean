/-
# Pieces of a text

Places in a text, counted in the bytes of its characters in UTF-8, and the piece that lies between
two places. There is no such piece where one of the places is inside a character.
-/

namespace RandomTerms.Text

/-- The number of bytes of a text. -/
def size : List Char → Nat
  | [] => 0
  | c :: rest => c.utf8Size + size rest

/-- The text after a place. -/
def after? : (place : Nat) → List Char → Option (List Char)
  | 0, s => some s
  | _ + 1, [] => none
  | place + 1, c :: rest =>
    if c.utf8Size ≤ place + 1 then after? (place + 1 - c.utf8Size) rest else none

/-- The text before a place. -/
def before? : (place : Nat) → List Char → Option (List Char)
  | 0, _ => some []
  | _ + 1, [] => none
  | place + 1, c :: rest =>
    if c.utf8Size ≤ place + 1 then (before? (place + 1 - c.utf8Size) rest).map (c :: ·) else none

/-- The piece of so many bytes after a place. -/
def piece? (s : List Char) (place bytes : Nat) : Option (List Char) :=
  (after? place s).bind (before? bytes)

end RandomTerms.Text
