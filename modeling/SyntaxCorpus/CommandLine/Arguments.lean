/-
SyntaxCorpus.CommandLine.Arguments — the arguments of a command line, read as
options and operands.

An option has a long name, which must be written out, and some have a letter.
A value follows its option as the next argument, after an equals sign, or
directly after the letter; letters without values may share a hyphen. Options
and operands may be mixed. `--` ends the options, and a hyphen alone is an
operand.

* `Flag`, `Valued` — the options.
* `UsageError` — why a command line is refused.
* `Arguments.read` — the settings and operands of a command line.
* `IntegerReader` — how the integers of options are read.
-/
import SyntaxCorpus.Options
import SyntaxCorpus.Text.Quoted

namespace SyntaxCorpus.CommandLine

/-- The options without a value. -/
inductive Flag
  | batch
  | method
  | verbose
  | help
  deriving DecidableEq

/-- The options with a value. -/
inductive Valued
  | output
  | language
  | minNodes
  | maxNodes
  | workers
  deriving DecidableEq

/-- An option. -/
inductive OptionKind
  | flag (f : Flag)
  | valued (v : Valued)
  deriving DecidableEq

/-- The long name of an option. -/
def OptionKind.name : OptionKind → String
  | flag .batch => "--batch"
  | flag .method => "--method"
  | flag .verbose => "--verbose"
  | flag .help => "--help"
  | valued .output => "--output"
  | valued .language => "--language"
  | valued .minNodes => "--min-nodes"
  | valued .maxNodes => "--max-nodes"
  | valued .workers => "--workers"

/-- The letter of an option that has one. -/
def OptionKind.letter? : OptionKind → Option Char
  | flag .method => some 'm'
  | flag .verbose => some 'v'
  | flag .help => some 'h'
  | valued .output => some 'o'
  | valued .language => some 'l'
  | valued .workers => some 'j'
  | _ => none

/-- All options. -/
def allOptions : List OptionKind :=
  [.valued .output, .flag .method, .flag .batch, .valued .minNodes, .valued .maxNodes,
    .valued .language, .valued .workers, .flag .verbose, .flag .help]

/-- The option with a long name. -/
def optionNamed? (name : String) : Option OptionKind := allOptions.find? (·.name == name)

/-- The option with a letter. -/
def optionLettered? (letter : Char) : Option OptionKind :=
  allOptions.find? (·.letter? == some letter)

/-- Why a command line is refused. -/
inductive UsageError
  | unknownOption (name : String)
  | missingValue (option : Valued)
  | unexpectedValue (option : Flag)
  | notAnInteger (option : Valued) (value : String)
  | missingInput
  | unexpectedArguments (arguments : List String)
  | missingOutput
  | options (e : ConfigError)
  deriving DecidableEq

/-- The error in words. -/
def UsageError.message : UsageError → String
  | unknownOption name => s!"no such option: {name}"
  | missingValue option => s!"option {(OptionKind.valued option).name} requires a value"
  | unexpectedValue option => s!"option {(OptionKind.flag option).name} takes no value"
  | notAnInteger option value =>
    s!"invalid value for {(OptionKind.valued option).name}: {Text.quoted value} is no integer"
  | missingInput => "missing argument INPUT"
  | unexpectedArguments arguments =>
    "unexpected arguments: " ++ String.intercalate " " arguments
  | missingOutput => "option --output is required in batch mode"
  | options e => e.message

/-- An option as it is set. -/
inductive Setting
  | on (option : Flag)
  | value (option : Valued) (text : String)
  deriving DecidableEq

/-- The settings of one argument. -/
structure Reading where
  settings : List Setting
  /-- The option whose value is the next argument. -/
  awaited : Option Valued

/-- Settings and operands, each in the order of the command line. -/
structure Arguments where
  settings : List Setting
  operands : List String

/-- A name, and the value after an equals sign if there is one. -/
def splitValue (cs : List Char) : String × Option String :=
  match cs.dropWhile (· != '=') with
  | [] => (String.ofList cs, none)
  | _ :: value => (String.ofList (cs.takeWhile (· != '=')), some (String.ofList value))

/-- An argument with a long name. -/
def readLong (cs : List Char) : Except UsageError Reading :=
  let (name, value?) := splitValue cs
  match optionNamed? name, value? with
  | none, _ => .error (.unknownOption name)
  | some (.flag f), none => .ok ⟨[.on f], none⟩
  | some (.flag f), some _ => .error (.unexpectedValue f)
  | some (.valued v), none => .ok ⟨[], some v⟩
  | some (.valued v), some value => .ok ⟨[.value v value], none⟩

/-- Letters after a hyphen. What follows the letter of an option with a value
is its value. -/
def readLetters : List Char → Except UsageError Reading
  | [] => .ok ⟨[], none⟩
  | c :: cs =>
    match optionLettered? c with
    | none => .error (.unknownOption (String.ofList ['-', c]))
    | some (.flag f) => (readLetters cs).map fun r => { r with settings := .on f :: r.settings }
    | some (.valued v) =>
      if cs.isEmpty then .ok ⟨[], some v⟩ else .ok ⟨[.value v (String.ofList cs)], none⟩

/-- The settings of an argument that is an option; `none` for an operand. -/
def readOption? (argument : String) : Option (Except UsageError Reading) :=
  match argument.toList with
  | '-' :: '-' :: cs => some (readLong ('-' :: '-' :: cs))
  | '-' :: c :: cs => some (readLetters (c :: cs))
  | _ => none

/-- How an integer is read from the value of an option. -/
abbrev IntegerReader := String → Option Int

namespace Arguments

/-- More settings, before those that are there. -/
def withSettings (a : Arguments) (settings : List Setting) : Arguments :=
  { a with settings := settings ++ a.settings }

/-- One more operand, before those that are there. -/
def withOperand (a : Arguments) (operand : String) : Arguments :=
  { a with operands := operand :: a.operands }

/-- The settings and operands of a command line. -/
def read : List String → Except UsageError Arguments
  | [] => .ok ⟨[], []⟩
  | argument :: rest =>
    if argument == "--" then .ok ⟨[], rest⟩
    else
      match readOption? argument with
      | none => (read rest).map (·.withOperand argument)
      | some (.error e) => .error e
      | some (.ok r) =>
        match r.awaited, rest with
        | none, rest => (read rest).map (·.withSettings r.settings)
        | some option, [] => .error (.missingValue option)
        | some option, value :: rest =>
          (read rest).map (·.withSettings (r.settings ++ [.value option value]))

/-- Whether a flag is set. -/
def has (a : Arguments) (option : Flag) : Bool := a.settings.contains (.on option)

/-- The value of an option; the last one counts. -/
def value? (a : Arguments) (option : Valued) : Option String :=
  a.settings.reverse.findSome? fun
    | .value o text => if o = option then some text else none
    | .on _ => none

/-- The integer that an option has as its value. -/
def integer? (a : Arguments) (readInteger : IntegerReader) (option : Valued) :
    Except UsageError (Option Int) :=
  match a.value? option with
  | none => .ok none
  | some text =>
    match readInteger text with
    | some n => .ok (some n)
    | none => .error (.notAnInteger option text)

end Arguments
end SyntaxCorpus.CommandLine
