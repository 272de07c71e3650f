/-
# Directives of the log

A directive keeps the lines of some components up to a level:

    debug                       all components, up to this level
    termgen::output=debug       the components whose paths begin with the name
    termgenerator               the same, up to the last level
    termgen[{len}]=debug        the same, but only the lines that have the field

A directive may also ask for a named part of a run, or for a value of a field in such a part, which
is a number or a pattern (`[part]=debug`, `[{len=1.*}]=debug`). No part of a run has a name here, so
such a directive covers no line; but it has to be well-formed.
-/
import RandomTerms.Log
import RandomTerms.Numeral
import RandomTerms.Pattern.Reader
import RandomTerms.Text.Decimal
import RandomTerms.Text.Piece

namespace RandomTerms

inductive Scope
  | everywhere
  /-- The lines that have a field of this name. -/
  | withField (name : List Char)
  /-- The lines from a named part of a run. -/
  | withinPart
deriving DecidableEq, Repr

def Scope.covers (l : Line) : Scope → Bool
  | everywhere => true
  | withField name => l.fieldNames.any fun field => field.toList == name
  | withinPart => false

/-- Keeps the lines in `scope` of the components whose paths begin with `name`, up to the level of
rank `upTo`. -/
structure Directive where
  name : List Char
  scope : Scope
  upTo : Nat
deriving DecidableEq, Repr

def Directive.covers (d : Directive) (l : Line) : Bool :=
  d.name.isPrefixOf l.component.path.toList && d.scope.covers l

/-- The rank of a level that is given by its number, or by its name in letters of either case. -/
def Level.rank? (s : List Char) : Option Nat :=
  match Numeral.read Numeral.unsigned64 s with
  | .ok rank => if rank.toNat ≤ Level.trace.rank then some rank.toNat else none
  | .error _ =>
    match String.ofList (s.map Char.toLower) with
    | "off" => some 0
    | "error" => some Level.error.rank
    | "warn" => some Level.warn.rank
    | "info" => some Level.info.rank
    | "debug" => some Level.debug.rank
    | "trace" => some Level.trace.rank
    | _ => none

/-! ## Reading a directive -/

/-- A text out of which a directive is cut. What is read is the body, without the white space around
it, and places are counted there; but the pieces come from the whole text. So where white space
stands in front, each piece lies that much too early. There is no directive where a piece would
begin or end inside a character. -/
structure Cutting where
  whole : List Char
deriving DecidableEq, Repr

namespace Cutting

/-- The text without the white space around it. -/
def body (d : Cutting) : List Char := Text.trim d.whole

/-- The place at which a rest of the body begins. -/
def place (d : Cutting) (rest : List Char) : Nat := Text.size d.body - Text.size rest

/-- The piece from the place of one rest of the body to the place of another. -/
def piece? (d : Cutting) (first last : List Char) : Option (List Char) :=
  Text.piece? d.whole (d.place first) (d.place last - d.place first)

/-- The piece from the place of a rest of the body to the end. -/
def ending? (d : Cutting) (rest : List Char) : Option (List Char) :=
  Text.after? (d.place rest) d.whole

end Cutting

namespace Scope

/-- Whether a text may be the value of a field. -/
def isValue (s : List Char) : Bool := Text.isDecimal s || Pattern.isPattern s

/-- The scope that asks for a field, with or without a value, and for a part of a run if one is
named. -/
def ofField? (part field : List Char) : Option Scope :=
  if field.isEmpty then none
  else
    match field.dropWhile (· != '=') with
    | [] => some (if part.isEmpty then .withField field else .withinPart)
    | _ :: rest => if isValue (rest.takeWhile (· != '=')) then some .withinPart else none

/-- Reads a scope of which the opening bracket has been read, and gives the text after it: a part
of a run, or a field between braces with or without a part in front of them. -/
def parse? (d : Cutting) (inner : List Char) : Option (Scope × List Char) :=
  let opening := inner.dropWhile fun c => c != ']' && c != '{'
  match opening with
  | ']' :: rest => do
    let _ ← d.piece? inner opening
    return (.withinPart, rest)
  | '{' :: field => do
    let part ← d.piece? inner opening
    let closing := field.dropWhile (· != '}')
    match closing with
    | [] => none
    | _ :: rest =>
      let scope ← ofField? part (← d.piece? field closing)
      match rest with
      | ']' :: rest => return (scope, rest)
      | _ => none
  | _ => none

end Scope

namespace Directive

/-- Whether the body of a directive may begin with a character. -/
def isInitial (c : Char) : Bool :=
  Text.isAlphanumeric c || c == '-' || c == ':' || c == '_' || c == '['

/-- Whether a character belongs to the name, which goes on up to a scope or a level. -/
def isNameChar (c : Char) : Bool := c != '=' && c != '['

/-- A directive that is one word: a level for all components, or else a name, of which everything
is kept. -/
def ofWord (s : List Char) : Directive :=
  match Level.rank? s with
  | some upTo => ⟨[], .everywhere, upTo⟩
  | none => ⟨s, .everywhere, Level.trace.rank⟩

/-- Completes a directive by what follows its name and its scope: nothing, or an equals sign and a
level. Without a level everything is kept. -/
def complete? (d : Cutting) (name : List Char) (scope : Scope) : List Char → Option Directive
  | [] => some ⟨name, scope, Level.trace.rank⟩
  | '=' :: rest => do
    let level ← d.ending? rest
    if level.isEmpty then return ⟨name, scope, Level.trace.rank⟩
    else return ⟨name, scope, ← Level.rank? level⟩
  | _ => none

/-- Reads a directive. White space around a name belongs to it, and no component has such a
name. -/
def parse? (s : List Char) : Option Directive :=
  let d : Cutting := ⟨s⟩
  let rest := d.body.dropWhile isNameChar
  if d.body.head?.any isInitial then
    match rest with
    | [] => some (ofWord s)
    | '[' :: inner => do
      let name ← d.piece? d.body rest
      let (scope, rest) ← Scope.parse? d inner
      complete? d name scope rest
    | _ => do
      let name ← d.piece? d.body rest
      complete? d name .everywhere rest
  else none

end Directive
end RandomTerms
