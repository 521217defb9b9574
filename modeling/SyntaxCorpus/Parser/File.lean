/-
SyntaxCorpus.Parser.File — the tree of a file.

The language is settled first, then the file is read, then the parser is
called; the first of these to fail ends the work.

* `fileLanguage`, `fileSource` — the first two steps.
* `parseFile` — the tree of a file.
-/
import SyntaxCorpus.FileSystem.Content
import SyntaxCorpus.Parser.Basic

namespace SyntaxCorpus

/-- The language of a file. -/
def fileLanguage (path : String) (language : Option String) : Except ParseStop String :=
  (Language.resolve language (some (Path.ofText path))).mapError fun e => .failed (.language e)

/-- Why a file is not read. Messages show the path as it was given. -/
def readFailure (path : String) : FileError → ParseStop
  | .nullCharacter => .nullCharacter
  | .notFound => .failed (.fileNotFound path)
  | e => .failed (.unreadable path e)

/-- The content of a file. -/
def fileSource (fs : FileSystem) (path : String) : Except ParseStop ByteArray :=
  (fs.read (Path.ofText path).text).mapError (readFailure path)

/-- How a file is parsed. -/
structure ParseSettings where
  methodOnly : Bool := false
  language : Option String := none

/-- The tree of a file, and what is done for it by a thread of the given
origin. -/
def parseFile (fs : FileSystem) (parser : SourceParser) (origin : Origin)
    (settings : ParseSettings) (path : String) :
    Except ParseStop (Tree RawLabel) × List Event :=
  match fileLanguage path settings.language with
  | .error e => (.error e, [])
  | .ok language =>
    match fileSource fs path with
    | .error e => (.error e, [])
    | .ok source => parseSource parser origin ⟨source, language, settings.methodOnly⟩

end SyntaxCorpus
