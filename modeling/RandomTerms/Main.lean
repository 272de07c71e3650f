/-
# The program

The outermost layer: it asks the system for the arguments, the environment and a random seed,
prints what the command has decided, and exits as the command does. Where the output cannot be
written, the command decides once more, now for a device that fails in this way.
-/
import RandomTerms.Command
import RandomTerms.Draw.Source
import RandomTerms.Log.Filter

namespace RandomTerms

/-- A seed from the randomness of the system. -/
def randomSeed : IO UInt64 := do
  let bytes ← IO.getRandomBytes 8
  return bytes.toList.foldl (fun seed b => seed * 256 + b.toUInt64) 0

/-- How an error of the system is worded. -/
def wording : IO.Error → String
  | .resourceExhausted _ code details | .resourceVanished code details =>
    details ++ " (os error " ++ toString code ++ ")"
  | e => toString e

/-- A device that fails with an error of the system. -/
def deviceOf (e : IO.Error) : Device := .failing (.other (wording e)) nofun

/-- Prints a text and sees to it that it has arrived. -/
def emit (text : String) : IO Unit := do
  let out ← IO.getStdout
  out.putStr text
  out.flush

def runProgram (selection : Selection) (args : List String) : IO UInt32 := do
  let maxDepth ← IO.getEnv maxDepthVariable
  let filter ← IO.getEnv "RUST_LOG"
  let bytes (s : String) : List UInt8 := Text.utf8 s.toList
  let invocation : Command.Invocation := ⟨args.map bytes, maxDepth.map bytes, filter.map bytes⟩
  let source := XorShift.ofSeed (← randomSeed)
  let planned := Command.run selection invocation .accepting source
  let outcome ← match ← (emit planned.output).toBaseIO with
    | .ok () => pure planned
    | .error e => pure (Command.run selection invocation (deviceOf e) source)
  for line in outcome.log do
    IO.eprintln line.print
  if let .abrupt message := outcome.exit then
    IO.eprintln message
  return UInt32.ofNat outcome.exit.code

end RandomTerms

def main (args : List String) : IO UInt32 :=
  RandomTerms.runProgram RandomTerms.Filter.selection args
