/-
# What is recorded

A tape is a source together with what has been drawn from it so far and what has been reported
along the way, in order. The number of answered draws is read off the tape, and so is the log of a
run.
-/
import RandomTerms.Draw
import RandomTerms.Term

namespace RandomTerms

/-- What is reported while terms are made. -/
inductive Event
  /-- At `depth`, an operator and a sub-term with a target of its own are about to be appended. -/
  | expanding (depth target : Nat) (op : Op)
  /-- The term number `index` of a document is made. -/
  | generated (index length : Nat)
deriving DecidableEq, Repr

inductive Entry
  | drawn (asked : Range) (value : Nat)
  /-- A script had no number that fits. -/
  | refused (asked : Range)
  | event (e : Event)
deriving DecidableEq, Repr

/-- The range that a script refused, if that is why drawing came to a stop. -/
def Stop.refused? : Stop → Option Range
  | .scriptEnded asked => some asked
  | .outside _ asked => some asked
  | .wordsEnded | .emptyRange | .noEntry .. => none

/-- A source with its record, the newest entry first. -/
structure Tape (σ : Type) where
  source : σ
  past : List Entry

namespace Tape

variable {σ : Type}

def blank (source : σ) : Tape σ := ⟨source, []⟩

def note (e : Event) (tape : Tape σ) : Tape σ := ⟨tape.source, .event e :: tape.past⟩

/-- Puts an answer on the tape, and the source as it is after it. -/
def answered (asked : Range) (value : Nat) (source : σ) (tape : Tape σ) : Tape σ :=
  ⟨source, .drawn asked value :: tape.past⟩

/-- Puts a stop on the tape, if it is one that is recorded, and the source as it is after it. -/
def stopped (why : Stop) (source : σ) (tape : Tape σ) : Tape σ :=
  match why.refused? with
  | some asked => ⟨source, .refused asked :: tape.past⟩
  | none => ⟨source, tape.past⟩

def draw [DrawSource σ] (r : Range) (tape : Tape σ) : Except Stop Nat × Tape σ :=
  match DrawSource.draw r tape.source with
  | .answered v s => (.ok v, tape.answered r v s)
  | .stopped why s => (.error why, tape.stopped why s)

def entries (tape : Tape σ) : List Entry := tape.past.reverse

end Tape

/-- The number that an entry says was drawn. -/
def Entry.value? : Entry → Option Nat
  | .drawn _ v => some v
  | .refused _ | .event _ => none

/-- The event that an entry reports. -/
def Entry.event? : Entry → Option Event
  | .event e => some e
  | .drawn .. | .refused _ => none

def drawnValues (entries : List Entry) : List Nat := entries.filterMap Entry.value?

def reported (entries : List Entry) : List Event := entries.filterMap Entry.event?

end RandomTerms
