/-
# Sessions

A sequence of steps on one source: drawing, picking atoms, making terms and documents, and changing
what is asked for in between. Each step goes on with the source where the step before it left it,
whether that one was completed or came to a stop. A step that draws changes nothing but the source.
-/
import RandomTerms.Document
import RandomTerms.Draw.Source

namespace RandomTerms

/-- What a session keeps from step to step. -/
structure Session where
  source : Source
  generator : Generator
  config : Config
deriving DecidableEq, Repr

inductive Step
  /-- Begins anew with terms of this length and no limit on their depth. -/
  | newGenerator (target : Nat)
  /-- Sets or removes the limit on the depth of terms. -/
  | limitDepth (maxDepth : Option Nat)
  /-- Reads the settings from arguments. -/
  | configure (args : List String)
  /-- Reads the limit on the depth into the settings. -/
  | configureDepth (text : Option String)
  /-- Sets the settings, unchecked. -/
  | setConfig (config : Config)
  | countPool
  | draw (asked : Range)
  | pick (count : Nat)
  | generate (count : Nat)
  | sampleAtoms (count : Nat)
  | sampleTerms (count : Nat)
  /-- Writes the document that the settings ask for to a new device. -/
  | write (medium : Medium)
deriving DecidableEq, Repr

/-- What a step gives back. A step that was stopped gives what was made before. -/
inductive Answer
  | generator (g : Generator)
  | config (c : Config)
  | rejected (e : ConfigError)
  | poolSize (size : Nat)
  | drawn (value : Except Stop Nat)
  | atoms (made : List Atom) (stop : Option Stop)
  | terms (made : List Term) (stop : Option Stop)
  | atomSample (made : List Atom) (stop : Option Stop)
  | termSample (made : List Term) (stop : Option Stop)
  /-- Samples need a source of random words. -/
  | notRandom
  | written (output : String) (flushes : Nat) (trouble : Option Trouble)

/-- The answer of a step and the entries that it put on the tape. -/
structure Report where
  answer : Answer
  entries : List Entry

/-- How many draws were answered during the step. -/
def Report.used (r : Report) : Nat := (drawnValues r.entries).length

namespace Session

/-- A session on this source, with everything else as it is by default. -/
def start (source : Source) : Session :=
  ⟨source, ⟨Config.defaultTargetLength, none⟩, Config.default⟩

/-- The session with its source moved on. -/
def withSource (s : Session) (source : Source) : Session := ⟨source, s.generator, s.config⟩

/-- Takes over settings, unless they were rejected. -/
def adopt (s : Session) : Except ConfigError Config → Report × Session
  | .ok config => (⟨.config config, []⟩, ⟨s.source, s.generator, config⟩)
  | .error e => (⟨.rejected e, []⟩, s)

/-- Begins anew with a generator. -/
def renew (s : Session) (generator : Generator) : Report × Session :=
  (⟨.generator generator, []⟩, ⟨s.source, generator, s.config⟩)

/-- Finishes a step that made a batch: its answer and its entries, and the source as it is now. -/
def finish {σ α : Type} (s : Session) (inject : σ → Source)
    (answer : List α → Option Stop → Answer) (batch : Batch σ α) : Report × Session :=
  (⟨answer batch.made batch.stop, batch.tape.entries⟩, s.withSource (inject batch.tape.source))

def perform (s : Session) : Step → Report × Session
  | .newGenerator target => s.renew ⟨target, none⟩
  | .limitDepth maxDepth => s.renew ⟨s.generator.target, maxDepth⟩
  | .configure args => s.adopt (Config.ofArgs args)
  | .configureDepth text => s.adopt (s.config.withMaxDepthText text)
  | .setConfig config => s.adopt (.ok config)
  | .countPool => (⟨.poolSize Pool.size, []⟩, s)
  | .draw asked =>
    let (value, tape) := (Tape.blank s.source).draw asked
    (⟨.drawn value, tape.entries⟩, s.withSource tape.source)
  | .pick count => s.finish id .atoms (Batch.make Pool.pick count (Tape.blank s.source))
  | .generate count =>
    s.finish id .terms (Batch.make s.generator.generate count (Tape.blank s.source))
  | .sampleAtoms count =>
    match s.source with
    | .xorShift g => s.finish .xorShift .atomSample (Pool.sample count g)
    | .words g => s.finish .words .atomSample (Pool.sample count g)
    | .script _ | .unchecked _ | .cycle _ | .congruential _ => (⟨.notRandom, []⟩, s)
  | .sampleTerms count =>
    match s.source with
    | .xorShift g => s.finish .xorShift .termSample (s.generator.sample count g)
    | .words g => s.finish .words .termSample (s.generator.sample count g)
    | .script _ | .unchecked _ | .cycle _ | .congruential _ => (⟨.notRandom, []⟩, s)
  | .write medium =>
    let writing := Document.write s.config (Tape.blank s.source) (Sink.new medium)
    (⟨.written writing.writer.accepted writing.writer.flushes writing.trouble,
      writing.tape.entries⟩, s.withSource writing.tape.source)

def performAll (s : Session) : List Step → List Report × Session
  | [] => ([], s)
  | step :: steps =>
    let (report, s) := s.perform step
    let (reports, s) := s.performAll steps
    (report :: reports, s)

end Session
end RandomTerms
