/-
SyntaxCorpus.CommandLine.Run — a command line carried out.

* `ExitStatus` — how a run ends.
* `Fault` — an error without a message.
* `Reply` — what a run prints, and what it leaves behind.
* `runSingle`, `runBatched` — the two modes.
* `runScheduled`, `run` — a command line from its arguments to its reply, for
  any schedule and without one. A refused command line neither reads nor writes
  a file.

Printing succeeds. The outputs are no terminals, so styles do not show.
-/
import SyntaxCorpus.Batch.Run
import SyntaxCorpus.CommandLine.Command
import SyntaxCorpus.Console.Line
import SyntaxCorpus.Console.Markup
import SyntaxCorpus.Export

namespace SyntaxCorpus.CommandLine

/-- How a run ends. -/
inductive ExitStatus
  | success
  | failure
  | usage
  | interrupted
  deriving DecidableEq

/-- The number that the system is told. -/
def ExitStatus.code : ExitStatus → Nat
  | success => 0
  | failure => 1
  | usage => 2
  | interrupted => 130

/-- An error that a run has no message for. -/
inductive Fault
  /-- The parser gives something that is no tree of labels. -/
  | invalidTree (ps : List Validation.Problem)
  /-- A path has a null character. -/
  | nullCharacter
  /-- What is raised instead of the text of a crash. -/
  | escaped (raised : Crash)
  /-- The search for the input goes too deep. -/
  | searchTooDeep
  /-- A message cannot be printed for the tags of styles in it. -/
  | markup (e : Markup.MarkupError)
  deriving DecidableEq

/-- The error in words. -/
def Fault.message : Fault → String
  | invalidTree ps => Validation.problemsText ps
  | nullCharacter => FileError.nullCharacter.reason
  | escaped raised => s!"{raised.kind}: {raised.text}"
  | searchTooDeep => DiscoveryError.tooDeep.message
  | markup e => e.message

/-- What a run prints, and what it leaves behind. -/
structure Reply where
  status : ExitStatus
  /-- What goes to the standard output. -/
  output : String := ""
  /-- What goes to the standard error output, besides log entries. -/
  errors : String := ""
  /-- An error that `errors` does not tell of. -/
  fault : Option Fault := none
  files : FileSystem
  events : List Event := []

/-- The log entries of a run that are shown, as lines. -/
def Reply.logLines (r : Reply) (least : Level) : List String :=
  r.events.filterMap fun
    | .log e => if e.isShown least then some e.line else none
    | .parse _ => none

/-- What a run works with. -/
structure Setup where
  files : FileSystem
  environment : Environment
  /-- The number of processors, where it is known. -/
  processors : Option Nat
  parser : SourceParser
  serialize : Serializer
  readInteger : IntegerReader
  /-- The number of columns that the standard output has. -/
  outputWidth : Nat
  /-- The number of columns that the standard error output has. -/
  errorWidth : Nat

/-- An error message as it is printed; tags of styles in it are left out. -/
def errorLine (width : Nat) (message : String) : Except Fault String :=
  ((Markup.plain ("[red]Error:[/red] " ++ message)).map (Console.printed width)).mapError .markup

/-- An error message as it is printed, with all its tags. -/
def plainErrorLine (width : Nat) (message : String) : Except Fault String :=
  errorLine width (Markup.escape message)

/-- A refused command line. -/
def refused (setup : Setup) (e : UsageError) : Reply where
  status := .usage
  errors := usageLine ++ "\n" ++ Console.printed setup.errorWidth ("Error: " ++ e.message)
  files := setup.files

/-- A run that is stopped, with what is printed for it. -/
def stopped (files : FileSystem) (events : List Event) : Except Fault String → Reply
  | .ok errors => { status := .failure, errors := errors, files := files, events := events }
  | .error fault => { status := .failure, fault := some fault, files := files, events := events }

/-- A run that is interrupted. -/
def interrupted (files : FileSystem) (events : List Event) : Reply where
  status := .interrupted
  files := files
  events := events

/-- The end of an export to `output` that is stopped by an error. -/
def ofExportError (setup : Setup) (files : FileSystem) (events : List Event)
    (output : Option String) : ExportError → Reply
  | .parse (.failed f) => stopped files events (plainErrorLine setup.errorWidth f.message)
  | .parse (.interrupted _) => interrupted files events
  | .parse .nullCharacter => stopped files events (.error .nullCharacter)
  | .parse (.escaped raised) => stopped files events (.error (.escaped raised))
  | .invalidTree ps => stopped files events (.error (.invalidTree ps))
  | .serialization e => stopped files events (plainErrorLine setup.errorWidth e.message)
  | .unwritable _ .nullCharacter => stopped files events (.error .nullCharacter)
  | .unwritable _ cause =>
    stopped files events
      (errorLine setup.errorWidth ("cannot write " ++ output.getD "" ++ ": " ++ cause.reason))

/-- The document of a single file. -/
def runSingle (setup : Setup) (r : Request) : Reply :=
  let (result, after) :=
    exportFile { files := setup.files } setup.parser setup.serialize ⟨r.methodOnly, r.language⟩
      r.input r.output
  match result with
  | .ok _ =>
    { status := .success, output := after.output, files := after.files, events := after.events }
  | .error e =>
    { ofExportError setup after.files after.events r.output e with output := after.output }

/-- The options that a request gives for a batch. -/
def Request.overrides (r : Request) : Overrides where
  minNodes := (r.minNodes.map .int).getD .null
  maxNodes := (r.maxNodes.map .int).getD .null
  methodOnly := .bool r.methodOnly
  language := (r.language.map .text).getD .null
  workers := (r.workers.map .int).getD .null

/-- The end of a batch that has no result. -/
def ofBatchFailure (setup : Setup) (files : FileSystem) (events : List Event) :
    Batch.Failure → Reply
  | .discovery .nullCharacter => stopped files events (.error .nullCharacter)
  | .discovery .tooDeep => stopped files events (.error .searchTooDeep)
  | .discovery e => stopped files events (plainErrorLine setup.errorWidth e.message)
  | .sinks e =>
    stopped files events
      (if e.cause = .nullCharacter then .error .nullCharacter
        else plainErrorLine setup.errorWidth e.message)
  | .stopped (.interrupted _) => interrupted files events
  | .stopped (.invalidTree ps) => stopped files events (.error (.invalidTree ps))
  | .stopped .nullCharacter => stopped files events (.error .nullCharacter)
  | .stopped (.escaped raised) => stopped files events (.error (.escaped raised))

/-- The tally of a batch in words. -/
def tallyLine (width : Nat) (t : Tally) : String :=
  Console.printed width
    s!"Processed {t.total} files: {t.accepted} accepted, {t.rejected} rejected"

/-- A path as it is printed, with emoji for their names. -/
def pathLine (width : Nat) (p : Path) : String :=
  Console.printed width (String.ofList (Console.replaceEmoji ("  " ++ p.text).toList))

/-- The summary of a batch: its tally, and the paths of its outputs. -/
def summary (width : Nat) (t : Tally) (outputs : String) : String :=
  tallyLine width t ++ String.join ((SinkPaths.of outputs).toList.map (pathLine width))

/-- A batch with its options. -/
def runWithOptions (setup : Setup) (schedule : List Batch.Move) (options : BatchOptions)
    (input outputs : String) : Reply :=
  let report :=
    Batch.runBatch setup.files setup.parser setup.serialize options schedule input outputs
  match report.result with
  | .ok t =>
    { status := .success, output := summary setup.outputWidth t outputs, files := report.files
      events := report.events }
  | .error e => ofBatchFailure setup report.files report.events e

/-- A batch. -/
def runBatched (setup : Setup) (schedule : List Batch.Move) (r : Request) : Reply :=
  match r.output with
  | none => refused setup .missingOutput
  | some outputs =>
    match BatchOptions.load setup.environment setup.processors r.overrides with
    | .error e => refused setup (.options e)
    | .ok options => runWithOptions setup schedule options r.input outputs

/-- A request carried out. -/
def runRequest (setup : Setup) (schedule : List Batch.Move) (r : Request) : Reply :=
  if r.batch then runBatched setup schedule r else runSingle setup r

/-- Whether a command line asks for progress entries. -/
def isVerbose (readInteger : IntegerReader) (arguments : List String) : Bool :=
  match Command.read readInteger arguments with
  | .ok (.generate r) => r.verbose
  | _ => false

/-- A command line carried out. A schedule says which moves a batch makes
first. -/
def runScheduled (setup : Setup) (schedule : List Batch.Move) (arguments : List String) : Reply :=
  match Command.read setup.readInteger arguments with
  | .error e => refused setup e
  | .ok .help => { status := .success, output := helpText, files := setup.files }
  | .ok (.generate r) => runRequest setup schedule r

/-- A command line carried out. -/
def run (setup : Setup) (arguments : List String) : Reply := runScheduled setup [] arguments

end SyntaxCorpus.CommandLine
