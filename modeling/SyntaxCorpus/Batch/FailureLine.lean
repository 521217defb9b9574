/-
SyntaxCorpus.Batch.FailureLine — the lines of the failure log.

A line has the path of the file, a tab and the reason on one line. A path with
a line break is written with escapes.

* `hasLineBreak` — whether a path cannot stand on a line of its own.
* `escapePath` — the path with escapes.
* `failureLine` — the line of a path and a reason.
-/
import SyntaxCorpus.Text.Blank

namespace SyntaxCorpus

/-- Whether a path has a line break. -/
def hasLineBreak (path : String) : Bool :=
  path.toList.any fun c => c == '\n' || c == '\r'

/-- A text with every occurrence of a character replaced. -/
def replaceChar (c : Char) (by_ : List Char) (cs : List Char) : List Char :=
  cs.flatMap fun d => if d == c then by_ else [d]

/-- The characters that are escaped in a path, in this order, each with its
escape. The backslash is first, so that the escapes of the others keep
theirs. -/
def pathEscapes : List (Char × List Char) :=
  [('\\', ['\\', '\\']), ('\n', ['\\', 'n']), ('\r', ['\\', 'r']), ('\t', ['\\', 't'])]

/-- A path with backslashes, line breaks and tabs written as escapes. -/
def escapePath (path : String) : String :=
  String.ofList (pathEscapes.foldl (fun cs (c, by_) => replaceChar c by_ cs) path.toList)

/-- The line of a path and a reason. -/
def failureLine (path reason : String) : String :=
  s!"{path}\t{Text.oneLine reason}\n"

end SyntaxCorpus
