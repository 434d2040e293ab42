import HelpMan.Failure
import HelpMan.Log.Logger
import HelpMan.Page.Render

/-!
# Generating a page

The generator asks its help source for the utility's help, reads it, builds the
parameters and renders the page, and only then hands the whole page to its destination
(`Generator.generate`). It refuses a request that names no utility, and a generator
without a help source, before asking anything. The asking, reading and rendering run as
one timed operation that is logged as a whole; the number of commands read is logged at
debug level, and so is the number of bytes handed over.

Any failure stops the run before the destination gets anything: the destination receives
either the whole page or nothing (`Generation.written`).

The help source and the destination act on a state of the caller's choice (`σ`): a list
of requests for a test, or the files of a directory for the command line.
-/

namespace HelpMan.Page

open Log

/-- What a help source answers: the help text or a failure, and what it logged. -/
structure HelpAnswer where
  result : Except Failure String
  log : String

/-- Where the page goes: a destination that takes it, or one that refuses with a reason. -/
inductive Sink where
  | accepts
  | refuses (reason : String)
  deriving DecidableEq, Repr

/-- A page generator over a state `σ` that its help source may change. -/
structure Generator (σ : Type) where
  /-- The help source: the help of a command and subcommand. -/
  source : Option (String → String → σ → HelpAnswer × σ)
  environment : List EnvVar
  logger : Logger
  now : Clock.Reading

/-- The outcome of a generation. -/
structure Generation where
  /-- What was logged, in order. -/
  log : String
  /-- What the destination received: the whole page or nothing. -/
  written : String
  result : Except Failure Unit

/-- The name of the timed operation for a request. -/
def operationName (req : Request) : String :=
  "man page generation for " ++ filename req.command req.subcommand

/-- Reads the help text and renders the page, or says why not. -/
def pageOf (g : Generator σ) (req : Request) (text : String) : String × Except Failure String :=
  let help := Help.parse text
  let parsed := g.logger.debug ("parsed " ++ toString help.commands.length ++ " commands from help output")
  match Params.make req help g.now with
  | .error bad => (parsed, .error (.badFileEntry bad))
  | .ok p => (parsed, .ok (render p help.commands g.environment req.also))

/-- Generates the page for a request and hands it to the destination. -/
def Generator.generate (g : Generator σ) (req : Request) (sink : Sink) (st : σ) : Generation × σ :=
  if req.command = "" then (⟨"", "", .error .noCommand⟩, st)
  else
    match g.source with
    | none => (⟨"", "", .error (.plain "generator has no help source")⟩, st)
    | some source =>
      let op := operationName req
      let start := g.logger.started op
      let (answer, st) := source req.command req.subcommand st
      match answer.result with
      | .error e => (⟨start ++ answer.log ++ g.logger.finished op (some e.message), "", .error e⟩, st)
      | .ok text =>
        match pageOf g req text with
        | (parsed, .error e) =>
          (⟨start ++ answer.log ++ parsed ++ g.logger.finished op (some e.message), "", .error e⟩, st)
        | (parsed, .ok page) =>
          let done := start ++ answer.log ++ parsed ++ g.logger.finished op none
          match sink with
          | .refuses reason =>
            (⟨done, "", .error (.wrap "failed to write man page" (.plain reason))⟩, st)
          | .accepts =>
            (⟨done ++ g.logger.debug ("wrote " ++ toString page.utf8ByteSize ++ " bytes"), page, .ok ()⟩,
              st)

end HelpMan.Page
