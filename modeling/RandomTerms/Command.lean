/-
# The command

What the command does with its arguments and its environment, up to what it prints, what it logs
and how it exits. Arguments that are not well-formed text are read with the ill-formed parts
replaced, which makes them no numbers; a variable that is not well-formed text counts as not set.

Arguments that are rejected are answered with how the command is used. That text is printed
without asking whether it arrives, so where it cannot, the command breaks off and says why.

A third variable asks for lines of the log. What it asks for is left to a `Selection`.
-/
import RandomTerms.Document
import RandomTerms.Log
import RandomTerms.Text.Utf8

namespace RandomTerms

namespace Command

def usage : String :=
  "\nUsage: termgenerator.py N LENGTH\nwhere\n" ++
  "  N:      Number of terms to generate (must be even)\n" ++
  "  LENGTH: Approximate length of each generated term\n" ++
  "The output of this script can be used as input for the LazyMathInstructor program."

/-- What the command is started with, as bytes. -/
structure Invocation where
  args : List (List UInt8)
  maxDepth : Option (List UInt8)
  /-- The variable that asks for lines of the log. -/
  filter : Option (List UInt8)
deriving DecidableEq, Repr

inductive Exit
  | success
  | failure
  /-- The command broke off, with this as its last words. -/
  | abrupt (message : String)
deriving DecidableEq, Repr

/-- The number that the command leaves behind. -/
def Exit.code : Exit → Nat
  | .success => 0
  | .failure => 1
  | .abrupt _ => 101

/-- What becomes of a run: how it ends, what reaches the output, and what is logged. -/
structure Outcome where
  exit : Exit
  output : String
  log : List Line
deriving DecidableEq, Repr

/-- The settings that the command is started with. -/
def Invocation.settings (i : Invocation) : Except ConfigError Config := do
  let config ← Config.ofArgs (i.args.map Text.ofUtf8Lossy)
  config.withMaxDepthText (i.maxDepth.bind Text.ofUtf8?)

/-- The settings as they stand in the log. -/
def showConfig (c : Config) : String :=
  "Config \x7b term_count: " ++ toString c.termCount ++
  ", target_length: " ++ toString c.targetLength ++
  ", max_depth: " ++ (match c.maxDepth with
    | none => "None"
    | some limit => "Some(" ++ toString limit ++ ")") ++ " \x7d"

/-- A line of the command itself that has no fields. -/
def line (level : Level) (message : String) : Line := ⟨.command, level, message, []⟩

/-- Writes the document that the settings ask for. -/
def runConfig {σ : Type} [SteadySource σ] (c : Config) (device : Device) (s : σ) : Outcome :=
  let writing := Document.write c (Tape.blank s) (Buffered.new device)
  let log := ⟨.command, .debug, "starting", [("config", showConfig c)]⟩
    :: (reported writing.tape.entries).map Event.line
  match writing.trouble with
  | none => ⟨.success, writing.writer.written, log⟩
  | some (.writer fault) =>
    ⟨.failure, writing.writer.written,
      log ++ [line .error ("failed to write terms: " ++ fault.message)]⟩
  | some (.source why) => ⟨.abrupt why.message, writing.writer.written, log⟩

/-- Answers settings that were rejected. -/
def reject (e : ConfigError) (device : Device) : Outcome :=
  if e.isUsage then
    let log := [line .debug ("rejected arguments: " ++ e.message)]
    match device with
    | .accepting => ⟨.failure, usage ++ "\n", log⟩
    | .failing fault _ => ⟨.abrupt ("failed printing to stdout: " ++ fault.message), "", log⟩
  else ⟨.failure, "", [line .error e.message]⟩

/-- Runs the command. -/
def run {σ : Type} [SteadySource σ] (selection : Selection) (i : Invocation) (device : Device)
    (s : σ) : Outcome :=
  let outcome := match i.settings with
    | .ok c => runConfig c device s
    | .error e => reject e device
  ⟨outcome.exit, outcome.output, outcome.log.filter (selection.keeps i.filter)⟩

end Command
end RandomTerms
