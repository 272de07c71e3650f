/-
# The log

Lines about a run. A line has a level, comes from a component of the program, and says something in
a message and in named fields.

Which lines are kept is not settled here. It is asked for in the text of a variable, and what such a
text means is for those to say who keep the log; a `Selection` stands for what they say.
-/
import RandomTerms.Tape

namespace RandomTerms

/-- How important a line is, the most important first. -/
inductive Level
  | error
  | warn
  | info
  | debug
  | trace
deriving DecidableEq, Repr

namespace Level

def name : Level → String
  | error => "ERROR"
  | warn => "WARN"
  | info => "INFO"
  | debug => "DEBUG"
  | trace => "TRACE"

/-- The number of a level; zero is left for no level at all. -/
def rank : Level → Nat
  | error => 1
  | warn => 2
  | info => 3
  | debug => 4
  | trace => 5

end Level

/-- The components that write to the log: the command, what grows terms, and what puts them into a
document. -/
inductive Component
  | command
  | growth
  | document
deriving DecidableEq, Repr

/-- The path of a component, from the outermost part of the program inwards. -/
def Component.path : Component → String
  | .command => "termgenerator"
  | .growth => "termgen::term"
  | .document => "termgen::output"

structure Line where
  component : Component
  level : Level
  message : String
  fields : List (String × String)
deriving DecidableEq, Repr

namespace Line

/-- The line as it is printed: the level, the message and the fields. -/
def print (l : Line) : String :=
  " ".intercalate (l.level.name :: l.message :: l.fields.map fun field => field.1 ++ "=" ++ field.2)

/-- The names of what a line says; the message counts as a field. -/
def fieldNames (l : Line) : List String := "message" :: l.fields.map Prod.fst

end Line

/-- How the lines of a log are chosen. -/
structure Selection where
  /-- The lines that the bytes of a variable ask for, if the variable is set and they mean
  anything. -/
  asked? : Option (List UInt8) → Option (Line → Bool)
  /-- The lines that are kept if nothing is asked for. -/
  standard : Line → Bool

def Selection.keeps (selection : Selection) (held : Option (List UInt8)) : Line → Bool :=
  (selection.asked? held).getD selection.standard

/-! ## Events as lines -/

namespace Event

/-- The component in which an event happens. -/
def component : Event → Component
  | expanding .. => .growth
  | generated .. => .document

/-- How important an event is. -/
def level : Event → Level
  | expanding .. => .trace
  | generated .. => .debug

/-- What kind of event it is. -/
def title : Event → String
  | expanding .. => "expanding sub-term"
  | generated .. => "generated term"

/-- What the event says beyond its title. -/
def details : Event → List (String × String)
  | expanding depth target op =>
    [("depth", toString depth), ("sub_length", toString target), ("op", op.char.toString)]
  | generated index length => [("index", toString index), ("len", toString length)]

def line (e : Event) : Line := ⟨e.component, e.level, e.title, e.details⟩

end Event
end RandomTerms
