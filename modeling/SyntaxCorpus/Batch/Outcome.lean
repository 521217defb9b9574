/-
SyntaxCorpus.Batch.Outcome — what becomes of one file of a batch.

* `Outcome` — a file is accepted with its records, or rejected for a reason.
* `relativePath` — a path as seen from a directory.
* `processFile` — the outcome of a file, before anything is written.
-/
import SyntaxCorpus.Admission
import SyntaxCorpus.Batch.FailureLine
import SyntaxCorpus.Options
import SyntaxCorpus.Parser.File
import SyntaxCorpus.Path.Relative
import SyntaxCorpus.Record.Flatten

namespace SyntaxCorpus

/-- The reasons for which a file is rejected. -/
inductive RejectionKind
  | parseFailed
  | tooFewNodes
  | tooManyNodes
  | serializationFailed
  | invalidPath
  deriving DecidableEq

/-- The name of a reason. -/
def RejectionKind.name : RejectionKind → String
  | parseFailed => "parse_failed"
  | tooFewNodes => "too_few_nodes"
  | tooManyNodes => "too_many_nodes"
  | serializationFailed => "serialization_failed"
  | invalidPath => "invalid_path"

/-- A rejected file: its path, why it is rejected, and the reason in words. -/
structure Rejection where
  path : String
  kind : RejectionKind
  reason : String
  deriving DecidableEq

/-- What becomes of a file. -/
inductive Outcome
  | accepted (path : String) (records : List Record)
  | rejected (r : Rejection)

/-- Whether the file is accepted. -/
def Outcome.isAccepted : Outcome → Bool
  | accepted .. => true
  | rejected _ => false

/-- What ends a whole batch at one file. -/
inductive FileStop
  | interrupted (text : String)
  /-- The parser gives something that is no tree of labels. -/
  | invalidTree (ps : List Validation.Problem)
  | nullCharacter
  /-- What is raised instead of the text of a crash. -/
  | escaped (raised : Crash)
  deriving DecidableEq

/-- A path as seen from the directory `root`, both as seen from the working
directory. -/
def relativePath (fs : FileSystem) (path root : Path) : String :=
  let here : Path := ⟨.single, fs.workingDirectory⟩
  Path.relativeTo (here.onto root) (here.onto path)

/-- The decision on the records of a file. -/
def admitted (options : BatchOptions) (path : String) (records : List Record) : Outcome :=
  let decision := Admission.ofCount records.length options.minNodes options.maxNodes
  match decision with
  | .accept => .accepted path records
  | .tooFew => .rejected ⟨path, .tooFewNodes, decision.reason⟩
  | .tooMany => .rejected ⟨path, .tooManyNodes, decision.reason⟩

/-- The outcome of a file that has been parsed. -/
def outcomeOf (options : BatchOptions) (path : String) :
    Except ParseStop (Tree RawLabel) → Except FileStop Outcome
  | .error (.failed f) => .ok (.rejected ⟨path, .parseFailed, f.message⟩)
  | .error (.interrupted text) => .error (.interrupted text)
  | .error .nullCharacter => .error .nullCharacter
  | .error (.escaped raised) => .error (.escaped raised)
  | .ok tree =>
    match flattenRaw tree with
    | .ok records => .ok (admitted options path records)
    | .error ps => .error (.invalidTree ps)

/-- The settings that the files of a batch are parsed with. -/
def BatchOptions.settings (options : BatchOptions) : ParseSettings :=
  ⟨options.methodOnly, options.language⟩

/-- The outcome of a file, and what is done for it by a thread of the given
origin. A path with a line break is rejected before the file is read. -/
def processFile (fs : FileSystem) (parser : SourceParser) (origin : Origin)
    (options : BatchOptions) (root path : Path) : Except FileStop Outcome × List Event :=
  let shown := relativePath fs path root
  if hasLineBreak shown then
    (.ok (.rejected ⟨escapePath shown, .invalidPath, "path contains a line break"⟩), [])
  else
    let (parsed, events) := parseFile fs parser origin options.settings path.text
    (outcomeOf options shown parsed, events)

end SyntaxCorpus
