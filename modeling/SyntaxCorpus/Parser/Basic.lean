/-
SyntaxCorpus.Parser.Basic — parsers, and how parsing fails.

* `ParseCall` — what a parser is asked to parse.
* `ParserOutcome`, `SourceParser` — a parser gives a tree of raw labels,
  reports what is wrong with the source, crashes, or is interrupted. What else ends
  a whole program (an order to exit, a lack of memory) is left out.
* `ParseFailure` — why a file has no tree.
* `Event` — what is done on the way: calls of the parser, and log entries.
* `parseSource` — a call of a parser, with a crash made a failure.
-/
import SyntaxCorpus.FileSystem.Basic
import SyntaxCorpus.Language.Resolve
import SyntaxCorpus.Logging
import SyntaxCorpus.Record.Basic

namespace SyntaxCorpus

/-- What a parser is asked to parse: a source in a language, whole files or
single declarations. -/
structure ParseCall where
  source : ByteArray
  language : String
  methodOnly : Bool

/-- An error that a parser does not handle. -/
structure Crash where
  kind : String
  text : String
  deriving DecidableEq

/-- What comes of a call of a parser. -/
inductive ParserOutcome
  | tree (t : Tree RawLabel)
  | failure (message : String)
  | crash (c : Crash)
  /-- An error of some kind that has no text: whoever asks for it raises another error,
  which is no failure, interrupt or error of the file system itself. -/
  | untold (kind : String) (raised : Crash)
  | interrupt (text : String)

/-- A parser. -/
structure SourceParser where
  parse : ParseCall → ParserOutcome

/-- Why a file has no tree. -/
inductive ParseFailure
  /-- The parser says what is wrong. -/
  | reported (message : String)
  | crashed (c : Crash)
  | language (e : LanguageError)
  | fileNotFound (path : String)
  | unreadable (path : String) (cause : FileError)
  deriving DecidableEq

/-- The cause in words. -/
def ParseFailure.message : ParseFailure → String
  | reported message => message
  | crashed c => s!"{c.kind}: {c.text}"
  | language e => e.message
  | fileNotFound path => s!"File not found: {path}"
  | unreadable path cause => s!"Cannot read {path}: {cause.reason}"

/-- Why parsing ends without a tree. -/
inductive ParseStop
  | failed (f : ParseFailure)
  | interrupted (text : String)
  /-- The path has a null character. -/
  | nullCharacter
  /-- What is raised instead of the text of a crash. -/
  | escaped (raised : Crash)
  deriving DecidableEq

/-- What is done on the way to a result. -/
inductive Event
  | parse (call : ParseCall)
  | log (entry : LogEntry)

/-- The log entry on a crash of a parser. -/
def crashEntry (origin : Origin) (call : ParseCall) (kind : String) : LogEntry where
  level := .debug
  message := s!"parser raised {kind} for {call.language} input"
  origin := origin

/-- A call of a parser by a thread of the given origin. A crash with a text is a
failure like any other; an interrupt is not, and neither is a crash without one. -/
def parseSource (parser : SourceParser) (origin : Origin) (call : ParseCall) :
    Except ParseStop (Tree RawLabel) × List Event :=
  match parser.parse call with
  | .tree t => (.ok t, [.parse call])
  | .failure message => (.error (.failed (.reported message)), [.parse call])
  | .crash c =>
    (.error (.failed (.crashed c)), [.parse call, .log (crashEntry origin call c.kind)])
  | .untold kind raised =>
    (.error (.escaped raised), [.parse call, .log (crashEntry origin call kind)])
  | .interrupt text => (.error (.interrupted text), [.parse call])

end SyntaxCorpus
