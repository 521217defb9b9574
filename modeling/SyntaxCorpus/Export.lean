/-
SyntaxCorpus.Export — the records of a single file as a document.

The document goes to a file or, if none is given, to the standard output. An export
takes its steps in order and ends at the first error; what it has done by then stays.

* `ExportError` — why there is no document.
* `Surroundings`, `Exporting` — what an export works on, and its steps.
* `exportFile` — the records of a file, their document written; also what is left of
  the surroundings after an error.
-/
import SyntaxCorpus.Parser.File
import SyntaxCorpus.Record.Document
import SyntaxCorpus.Record.Flatten

namespace SyntaxCorpus

/-- How records are made a document. -/
abbrev Serializer := List Record → Except SerializationError String

/-- Why the document of a file is not written. -/
inductive ExportError
  | parse (stop : ParseStop)
  /-- The parser gives something that is no tree of labels. -/
  | invalidTree (ps : List Validation.Problem)
  | serialization (e : SerializationError)
  | unwritable (path : String) (cause : FileError)
  deriving DecidableEq

/-- What an export works on. -/
structure Surroundings where
  files : FileSystem
  /-- What has gone to the standard output. -/
  output : String := ""
  events : List Event := []

/-- Steps that stop at the first error, and leave the surroundings as they are
at that moment. -/
abbrev Exporting := ExceptT ExportError (StateM Surroundings)

namespace Exporting

variable {α : Type}

/-- What comes of steps, and what they leave. -/
def runIn (m : Exporting α) (s : Surroundings) : Except ExportError α × Surroundings :=
  (ExceptT.run m).run s

/-- The tree of a file. -/
def tree (parser : SourceParser) (settings : ParseSettings) (path : String) :
    Exporting (Tree RawLabel) := do
  let s ← get
  let (parsed, events) := parseFile s.files parser .main settings path
  set { s with events := s.events ++ events }
  ofExcept (parsed.mapError .parse)

/-- A text printed. -/
def print (text : String) : Exporting Unit :=
  modify fun s => { s with output := s.output ++ text }

/-- A file opened, and emptied or created by that. -/
def openFile (target : String) : Exporting Location := do
  let s ← get
  match s.files.openForWriting target with
  | .ok (l, files) =>
    set { s with files }
    return l
  | .error e => throw (.unwritable target e)

/-- A text put into an open file. -/
def fill (l : Location) (text : String) : Exporting Unit :=
  modify fun s => { s with files := s.files.writeAt l 0 text.toUTF8 }

/-- A text put where it is asked for. -/
def put (output : Option String) (text : String) : Exporting Unit :=
  match output with
  | none => print text
  | some target => do
    let l ← openFile (Path.ofText target).text
    fill l text

/-- The steps of the export of a file. -/
def steps (parser : SourceParser) (serialize : Serializer) (settings : ParseSettings)
    (path : String) (output : Option String) : Exporting (List Record) := do
  let tree ← tree parser settings path
  let records ← ofExcept ((flattenRaw tree).mapError .invalidTree)
  let document ← ofExcept ((serialize records).mapError .serialization)
  put output (document ++ "\n")
  return records

end Exporting

/-- The records of a file, their document written to the file `output` or, if none is
given, to the standard output. -/
def exportFile (before : Surroundings) (parser : SourceParser) (serialize : Serializer)
    (settings : ParseSettings) (path : String) (output : Option String) :
    Except ExportError (List Record) × Surroundings :=
  (Exporting.steps parser serialize settings path output).runIn before

end SyntaxCorpus
