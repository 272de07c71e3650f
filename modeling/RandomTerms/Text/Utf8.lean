/-
# UTF-8

A text as bytes and bytes as a text. Decoding cuts the bytes into characters and ill-formed
stretches; a stretch is as long as it could still have become a character, so a sequence broken
off in the middle is one stretch and a stray byte is another. The strict reading accepts no
ill-formed stretch, the lossy one puts U+FFFD in its place.
-/

namespace RandomTerms.Text

def utf8 (s : List Char) : List UInt8 := s.flatMap String.utf8EncodeChar

/-- What the first byte of a sequence announces: how many bytes follow, the bounds of the next
one, and the bits it contributes itself. The bounds keep out overlong forms, surrogates and
numbers above U+10FFFF. -/
structure Lead where
  more : Nat
  low : Nat
  high : Nat
  bits : Nat

/-- The announcement of a first byte; `none` for a byte that can start nothing. -/
def lead? (b : UInt8) : Option Lead :=
  let n := b.toNat
  if n < 0x80 then some ⟨0, 0x80, 0xbf, n⟩
  else if n < 0xc2 then none
  else if n < 0xe0 then some ⟨1, 0x80, 0xbf, n - 0xc0⟩
  else if n = 0xe0 then some ⟨2, 0xa0, 0xbf, 0⟩
  else if n = 0xed then some ⟨2, 0x80, 0x9f, 0xd⟩
  else if n < 0xf0 then some ⟨2, 0x80, 0xbf, n - 0xe0⟩
  else if n = 0xf0 then some ⟨3, 0x90, 0xbf, 0⟩
  else if n < 0xf4 then some ⟨3, 0x80, 0xbf, n - 0xf0⟩
  else if n = 0xf4 then some ⟨3, 0x80, 0x8f, 4⟩
  else none

/-- Takes the `more` bytes that a sequence still needs, the first of them in `low..=high`. Gives
the code point, or `none` at the first byte that does not fit, which is left where it is. -/
def continuation (low high value : Nat) : Nat → List UInt8 → Option Nat × List UInt8
  | 0, rest => (some value, rest)
  | _ + 1, [] => (none, [])
  | more + 1, b :: rest =>
    if low ≤ b.toNat ∧ b.toNat ≤ high then
      continuation 0x80 0xbf (64 * value + (b.toNat - 0x80)) more rest
    else (none, b :: rest)

theorem length_continuation_le (low high value more : Nat) (bytes : List UInt8) :
    (continuation low high value more bytes).2.length ≤ bytes.length := by
  induction more generalizing low high value bytes with
  | zero => exact Nat.le_refl _
  | succ more ih =>
    cases bytes with
    | nil => exact Nat.le_refl _
    | cons b rest =>
      simp only [continuation]
      split
      · exact Nat.le_trans (ih ..) (Nat.le_succ _)
      · exact Nat.le_refl _

/-- The character or the ill-formed stretch that begins with `b`, and what follows it. -/
def piece (b : UInt8) (rest : List UInt8) : Option Char × List UInt8 :=
  match lead? b with
  | none => (none, rest)
  | some l =>
    let (value, rest) := continuation l.low l.high l.bits l.more rest
    (value.map Char.ofNat, rest)

theorem length_piece_le (b : UInt8) (rest : List UInt8) :
    (piece b rest).2.length ≤ rest.length := by
  unfold piece
  split
  · exact Nat.le_refl _
  · exact length_continuation_le ..

/-- The bytes cut into characters and ill-formed stretches (`none`). -/
def pieces : List UInt8 → List (Option Char)
  | [] => []
  | b :: rest => (piece b rest).1 :: pieces (piece b rest).2
termination_by bytes => bytes.length
decreasing_by exact Nat.lt_succ_of_le (length_piece_le ..)

/-- The text that the bytes spell, if they are well formed throughout. -/
def ofUtf8? (bytes : List UInt8) : Option String :=
  ((pieces bytes).mapM id).map String.ofList

/-- The text that the bytes spell, with U+FFFD for each ill-formed stretch. -/
def ofUtf8Lossy (bytes : List UInt8) : String :=
  .ofList ((pieces bytes).map (·.getD '\ufffd'))

end RandomTerms.Text
