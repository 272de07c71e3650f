/-
# What a run is asked for

The settings of one run and where they come from. Two arguments give the number of terms and the
length of each, no arguments give the defaults, and a variable of the environment may set a limit
on the depth. Whatever is wrong with them is an error of its own, and of several faults the first
in this order is reported: the number of arguments, the first argument, the second, an odd number
of terms, the depth.
-/
import RandomTerms.Numeral
import RandomTerms.Text.Blank
import RandomTerms.Text.Quoted

namespace RandomTerms

inductive Parameter
  | count
  | length
deriving DecidableEq, Repr

def Parameter.name : Parameter → String
  | .count => "N"
  | .length => "LENGTH"

/-- The variable of the environment that limits the depth. -/
def maxDepthVariable : String := "TERMGEN_MAX_DEPTH"

inductive ConfigError
  /-- Neither no arguments nor two. -/
  | arity (count : Nat)
  | notAnInteger (parameter : Parameter) (text : String) (problem : Numeral.Problem)
  | notPositive (parameter : Parameter) (value : Int)
  | oddTermCount (count : Nat)
  | invalidMaxDepth (text : String) (problem : Numeral.Problem)
deriving DecidableEq, Repr

namespace ConfigError

/-- The wording of an error. A text that was rejected is quoted as it was given. -/
def message : ConfigError → String
  | arity count => "expected 0 or 2 arguments, got " ++ toString count
  | notAnInteger parameter text _ => parameter.name ++ " is not an integer: " ++ Text.quote text
  | notPositive parameter value =>
    parameter.name ++ " must be positive, got " ++ Numeral.text value
  | oddTermCount count => "N must be even, got " ++ toString count
  | invalidMaxDepth text _ =>
    maxDepthVariable ++ " is not a non-negative integer: " ++ Text.quote text

/-- Whether the arguments are at fault, so that it helps to say how they are used. -/
def isUsage : ConfigError → Bool
  | arity _ | notAnInteger .. | notPositive .. | oddTermCount _ => true
  | invalidMaxDepth .. => false

/-- What was wrong with the numeral, where that is the fault. -/
def problem? : ConfigError → Option Numeral.Problem
  | notAnInteger _ _ problem | invalidMaxDepth _ problem => some problem
  | arity _ | notPositive .. | oddTermCount _ => none

end ConfigError

/-- The settings of a run. Settings that were read have an even, positive number of terms and a
positive length; others may be put together by hand. -/
structure Config where
  termCount : Nat
  targetLength : Nat
  maxDepth : Option Nat
deriving DecidableEq, Repr

/-- Reads an argument as a positive number. -/
def Parameter.read (parameter : Parameter) (text : String) : Except ConfigError Nat :=
  match Numeral.read Numeral.signed64 (Text.trim text.toList) with
  | .error problem => .error (.notAnInteger parameter text problem)
  | .ok value => if 0 < value then .ok value.toNat else .error (.notPositive parameter value)

namespace Config

/-- The number of terms where no arguments are given. -/
def defaultTermCount : Nat := 20

/-- The length of a term where no arguments are given. -/
def defaultTargetLength : Nat := 250

/-- The settings where no arguments are given. -/
def default : Config := ⟨defaultTermCount, defaultTargetLength, none⟩

/-- The number of pairs that the terms make. -/
def pairCount (c : Config) : Nat := c.termCount / 2

/-- Reads the settings from the arguments. -/
def ofArgs : List String → Except ConfigError Config
  | [] => .ok default
  | [count, length] => do
    let termCount ← Parameter.count.read count
    let targetLength ← Parameter.length.read length
    if termCount % 2 = 0 then .ok ⟨termCount, targetLength, none⟩
    else .error (.oddTermCount termCount)
  | args => .error (.arity args.length)

/-- Settings that were read ask for an even number of terms. -/
theorem two_mul_pairCount_of_ofArgs {args : List String} {c : Config} (h : ofArgs args = .ok c) :
    2 * c.pairCount = c.termCount := by
  unfold ofArgs at h
  split at h
  · cases h
    rfl
  · next count length =>
    cases hcount : Parameter.count.read count with
    | error e => rw [hcount] at h; cases h
    | ok termCount =>
      cases hlength : Parameter.length.read length with
      | error e => rw [hcount, hlength] at h; cases h
      | ok targetLength =>
        simp only [hcount, hlength, bind, Except.bind] at h
        split at h
        · next heven =>
          cases h
          exact Nat.mul_div_cancel' (Nat.dvd_of_mod_eq_zero heven)
        · cases h
  · cases h

/-- Takes the limit on the depth from the text of the variable; without a text there is none. -/
def withMaxDepthText (c : Config) : Option String → Except ConfigError Config
  | none => .ok ⟨c.termCount, c.targetLength, none⟩
  | some text =>
    match Numeral.read Numeral.unsigned64 (Text.trim text.toList) with
    | .error problem => .error (.invalidMaxDepth text problem)
    | .ok value => .ok ⟨c.termCount, c.targetLength, some value.toNat⟩

end Config
end RandomTerms
