/-
# Filters of the log

A language in which lines of the log can be asked for, the one that the program is run with. A
filter is a list of directives. Of those that cover a line the most specific one decides: the
longest name, and of names equally long one that asks for a field. A line that no directive covers
is not kept.

The command itself takes any `Selection`, and nothing that is proved of it depends on this one.
-/
import RandomTerms.Log.Directive
import RandomTerms.Text.Split
import RandomTerms.Text.Utf8

namespace RandomTerms

/-- Whether a scope is at least as specific as another: to ask for a field is more specific than to
ask for nothing, and of two fields the one that comes later in the alphabet is. -/
def Scope.supersedes : Scope → Scope → Bool
  | _, everywhere => true
  | withField name, withField other =>
    !List.lex (name.map Char.toNat) (other.map Char.toNat) Nat.blt
  | withinPart, _ => true
  | _, _ => false

/-- Whether a directive is at least as specific as another. -/
def Directive.supersedes (d other : Directive) : Bool :=
  Nat.blt other.name.length d.name.length
    || (d.name.length == other.name.length && d.scope.supersedes other.scope)

/-- A filter, the directives in the order in which they were given. -/
abbrev Filter := List Directive

namespace Filter

/-- Keeps warnings and errors. -/
def standard : Filter := [⟨[], .everywhere, Level.warn.rank⟩]

/-- Reads a filter from directives with commas between them, of which there may be none. One faulty
directive makes the text no filter. -/
def parse? (s : String) : Option Filter :=
  ((Text.split ',' s.toList).filter fun part => !part.isEmpty).mapM Directive.parse?

/-- The directive that decides about a line: the most specific of those that cover it, and of
several that are equally specific the last. -/
def decisive? (f : Filter) (l : Line) : Option Directive :=
  (f.filter fun d => d.covers l).foldl (fun best d =>
    match best with
    | none => some d
    | some b => if d.supersedes b then some d else some b) none

def keeps (f : Filter) (l : Line) : Bool :=
  match f.decisive? l with
  | none => false
  | some d => Nat.ble l.level.rank d.upTo

/-- The lines that the text of a filter asks for. Bytes that are no text are no filter. -/
def selection : Selection where
  asked? held := ((held.bind Text.ofUtf8?).bind parse?).map keeps
  standard := standard.keeps

end Filter
end RandomTerms
