/-
SyntaxCorpus.CommandLine.Command — what a command line asks for.

A request for help counts before anything that is wrong with values and
operands, but not before options that do not exist.

* `Request` — an input with all settings of a run.
* `Command.read` — the command of a command line.
* `helpText` — the help.
-/
import SyntaxCorpus.CommandLine.Arguments

namespace SyntaxCorpus.CommandLine

/-- A run that is asked for. Without `batch`, the input is one file, and the
limits and workers do not matter. -/
structure Request where
  input : String
  output : Option String
  batch : Bool
  methodOnly : Bool
  verbose : Bool
  language : Option String
  minNodes : Option Int
  maxNodes : Option Int
  workers : Option Int
  deriving DecidableEq

/-- What a command line asks for. -/
inductive Command
  | help
  | generate (r : Request)
  deriving DecidableEq

/-- The only operand. -/
def onlyInput : List String → Except UsageError String
  | [] => .error .missingInput
  | [input] => .ok input
  | _ :: more => .error (.unexpectedArguments more)

/-- The request that arguments make. -/
def Request.ofArguments (readInteger : IntegerReader) (a : Arguments) :
    Except UsageError Request := do
  let minNodes ← a.integer? readInteger .minNodes
  let maxNodes ← a.integer? readInteger .maxNodes
  let workers ← a.integer? readInteger .workers
  let input ← onlyInput a.operands
  return {
    input, minNodes, maxNodes, workers
    output := a.value? .output
    batch := a.has .batch
    methodOnly := a.has .method
    verbose := a.has .verbose
    language := a.value? .language }

/-- The command of a command line. -/
def Command.read (readInteger : IntegerReader) (arguments : List String) :
    Except UsageError Command := do
  let a ← Arguments.read arguments
  if a.has .help then return .help
  return .generate (← Request.ofArguments readInteger a)

/-- The line that shows how the program is used. -/
def usageLine : String := "Usage: syntaxcorpus [OPTIONS] INPUT"

/-- What an option is for. -/
def OptionKind.purpose : OptionKind → String
  | flag .batch => "Treat INPUT as a pattern and process every match."
  | flag .method => "Parse a single method instead of a full file."
  | flag .verbose => "Log progress to the standard error output."
  | flag .help => "Show this message and exit."
  | valued .output => "Output file, or the beginning of the output paths in batch mode."
  | valued .language => "Language name or alias; the file ending decides by default."
  | valued .minNodes => "Minimum number of nodes (batch mode only)."
  | valued .maxNodes => "Maximum number of nodes (batch mode only)."
  | valued .workers => "Parallel workers (batch mode only)."

/-- The names of an option. -/
def OptionKind.names (o : OptionKind) : String :=
  match o.letter? with
  | some c => String.ofList ['-', c] ++ ", " ++ o.name
  | none => "    " ++ o.name

/-- The help. -/
def helpText : String :=
  usageLine ++ "\n\n"
    ++ "Parse INPUT and print its flattened syntax tree, or export a whole batch.\n\n"
    ++ String.join (allOptions.map fun o => s!"  {o.names}\n        {o.purpose}\n")

end SyntaxCorpus.CommandLine
