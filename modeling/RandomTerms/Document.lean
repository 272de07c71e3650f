/-
# Documents

What a run writes: the number of pairs on the first line, then the terms, one a line. Each term is
made before any of its line is written, so where the source stops, no line is begun, and where the
writer fails, nothing is drawn for the lines that it did not get to.
-/
import RandomTerms.Config
import RandomTerms.Generator
import RandomTerms.Sink
import RandomTerms.Text.Split

namespace RandomTerms

/-- What keeps a document from being completed. -/
inductive Trouble
  | source (why : Stop)
  | writer (fault : Fault)
deriving DecidableEq, Repr

def Trouble.message : Trouble → String
  | .source why => why.message
  | .writer fault => fault.message

/-- How writing a document ended, and the tape and the writer as they are then. -/
structure Writing (σ ω : Type) where
  trouble : Option Trouble
  tape : Tape σ
  writer : ω

/-- What terms these settings ask for. -/
def Config.generator (c : Config) : Generator := ⟨c.targetLength, c.maxDepth⟩

namespace Document

def writeLine {ω : Type} [Writer ω] (line : List Char) (w : ω) : Except Fault Unit × ω :=
  match Writer.writeAll line w with
  | (.error fault, w) => (.error fault, w)
  | (.ok (), w) => Writer.writeAll ['\n'] w

/-- Writes the terms from number `index` on, `left` of them, each made by `one`, and flushes the
writer; `none` if one of them is never made. -/
def writeTerms? {σ ω : Type} [Writer ω] (one : Tape σ → Option (Except Stop Term × Tape σ)) :
    (left index : Nat) → Tape σ → ω → Option (Writing σ ω)
  | 0, _, tape, w =>
    match Writer.flush w with
    | (.error fault, w) => some ⟨some (.writer fault), tape, w⟩
    | (.ok (), w) => some ⟨none, tape, w⟩
  | left + 1, index, tape, w =>
    match one tape with
    | none => none
    | some (.error why, tape) => some ⟨some (.source why), tape, w⟩
    | some (.ok t, tape) =>
      let tape := tape.note (.generated index t.length)
      match writeLine t.chars w with
      | (.error fault, w) => some ⟨some (.writer fault), tape, w⟩
      | (.ok (), w) => writeTerms? one left (index + 1) tape w

/-- Writes the document that the settings ask for, with terms made by `one`. -/
def writeFrom? {σ ω : Type} [Writer ω] (one : Tape σ → Option (Except Stop Term × Tape σ))
    (c : Config) (tape : Tape σ) (w : ω) : Option (Writing σ ω) :=
  match writeLine (Nat.toDigits 10 c.pairCount) w with
  | (.error fault, w) => some ⟨some (.writer fault), tape, w⟩
  | (.ok (), w) => writeTerms? one c.termCount 0 tape w

/-- Writes the document that the settings ask for, if every term that it gets to ends. -/
noncomputable def write? {σ ω : Type} [DrawSource σ] [Writer ω] (c : Config) (tape : Tape σ)
    (w : ω) : Option (Writing σ ω) :=
  writeFrom? c.generator.generate? c tape w

/-! ## On a steady source -/

theorem isSome_writeTerms? {σ ω : Type} [Writer ω] (one : Tape σ → Except Stop Term × Tape σ)
    (left index : Nat) (tape : Tape σ) (w : ω) :
    (writeTerms? (fun tape => some (one tape)) left index tape w).isSome := by
  induction left generalizing index tape w with
  | zero => simp only [writeTerms?]; split <;> exact rfl
  | succ left ih =>
    simp only [writeTerms?]
    split
    · next h => cases h
    · exact rfl
    · split
      · exact rfl
      · exact ih ..

theorem isSome_writeFrom? {σ ω : Type} [Writer ω] (one : Tape σ → Except Stop Term × Tape σ)
    (c : Config) (tape : Tape σ) (w : ω) :
    (writeFrom? (fun tape => some (one tape)) c tape w).isSome := by
  unfold writeFrom?
  split
  · exact rfl
  · exact isSome_writeTerms? ..

/-- Writes the document that the settings ask for. -/
def write {σ ω : Type} [SteadySource σ] [Writer ω] (c : Config) (tape : Tape σ) (w : ω) :
    Writing σ ω :=
  (writeFrom? (fun tape => some (c.generator.generate tape)) c tape w).get
    (isSome_writeFrom? c.generator.generate c tape w)

theorem write?_eq {σ ω : Type} [SteadySource σ] [Writer ω] (c : Config) (tape : Tape σ) (w : ω) :
    write? c tape w = some (write c tape w) := by
  have hone : c.generator.generate? = fun tape : Tape σ => some (c.generator.generate tape) :=
    funext c.generator.generate?_eq
  rw [write?, hone, write, Option.some_get]

end Document

/-! ## Reading a document back -/

/-- A text as a document: its first line, the lines after it, and whether the last of them was
ended. -/
structure Listing where
  header : String
  terms : List String
  ended : Bool
deriving DecidableEq, Repr

namespace Listing

/-- Reads a text line by line. What follows the last line end is a line only if it is not empty. -/
def ofText (text : String) : Listing :=
  let lines := Text.split '\n' text.toList
  let ended := lines.getLast? == some []
  let lines := (if ended then lines.dropLast else lines).map String.ofList
  ⟨lines.headD "", lines.tail, ended⟩

end Listing
end RandomTerms
