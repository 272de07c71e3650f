/-
# Random words by shifts

A generator of random words of 32 bits that keeps four of them and makes the next one out of the
oldest and the newest by shifts and exclusive or. Four zeros would only ever give zeros, so a seed
never leads to them.
-/
import RandomTerms.Draw.Congruential

namespace RandomTerms

/-- The last four words, the oldest first. -/
structure XorShift where
  x : UInt32
  y : UInt32
  z : UInt32
  w : UInt32
deriving DecidableEq, Repr

namespace XorShift

/-- The word before it is given out, and the state after. -/
def next (s : XorShift) : UInt32 × XorShift :=
  let t := s.x ^^^ (s.x <<< 11)
  let w := s.w ^^^ (s.w >>> 19) ^^^ t ^^^ (t >>> 8)
  (w, ⟨s.y, s.z, s.w, w⟩)

/-! ## From a seed -/

/-- The seed word after this one. -/
def stir (word : UInt64) : UInt64 := word * Congruential.multiplier + 11634580027462260723

/-- A word turned to the right by a number of bits below 32. -/
def rotateRight (word turn : UInt32) : UInt32 := (word >>> turn) ||| (word <<< (32 - turn))

/-- The 32 bits that a seed word gives: its upper bits folded onto themselves, then turned by the
number in its five highest. -/
def fold (word : UInt64) : UInt32 :=
  rotateRight (((word >>> 18) ^^^ word) >>> 27).toUInt32 (word >>> 59).toUInt32

/-- The generator that a seed leads to. -/
def ofSeed (seed : UInt64) : XorShift :=
  let a := stir seed
  let b := stir a
  let c := stir b
  let d := stir c
  let s : XorShift := ⟨fold a, fold b, fold c, fold d⟩
  if s = ⟨0, 0, 0, 0⟩ then ⟨0x0bad5eed, 0x0bad5eed, 0x0bad5eed, 0x0bad5eed⟩ else s

end XorShift
end RandomTerms
