/-
SyntaxCorpus.Discovery — the files that an input names.

An input with wildcards is a pattern; any other input is a path. Directories
are left out, and of several paths that lead to one file only the first one
stays.

* `DiscoveryError` — why there are no files to work on.
* `selectFiles` — the files among candidates.
* `findFiles` — the files of an input, and the log entry of the search.
-/
import SyntaxCorpus.Logging
import SyntaxCorpus.Path.Basic
import SyntaxCorpus.Pattern.Expand
import SyntaxCorpus.Text.Blank

namespace SyntaxCorpus

/-- Why the files of an input are not found. -/
inductive DiscoveryError
  | blankInput
  | inaccessible (path : String) (cause : FileError)
  | noFiles (input : String)
  /-- The input has a null character before a wildcard. -/
  | nullCharacter
  /-- The input has too many parts, or there are directories too deep. -/
  | tooDeep
  deriving DecidableEq

/-- The cause in words. -/
def DiscoveryError.message : DiscoveryError → String
  | blankInput => "empty input pattern"
  | inaccessible path cause => s!"cannot access {path}: {cause.message path}"
  | noFiles input => s!"no files match {Text.quoted input}"
  | nullCharacter => FileError.nullCharacter.reason
  | tooDeep => "maximum recursion depth exceeded"

/-- Why a pattern is not expanded, as a cause of the search to fail. -/
def DiscoveryError.ofExpandError : Pattern.ExpandError → DiscoveryError
  | .nullCharacter => .nullCharacter
  | .tooDeep => .tooDeep

/-- The paths that an input offers. -/
def candidates (fs : FileSystem) (input : String) : Except DiscoveryError (List Path) :=
  if Pattern.hasWildcard input then
    ((Pattern.expand fs input).map (·.map Path.ofText)).mapError .ofExpandError
  else .ok [Path.ofText input]

/-- The location of a candidate that is a file. -/
def fileLocation? (fs : FileSystem) (candidate : Path) :
    Except DiscoveryError (Option Location) :=
  match fs.isFile candidate.text with
  | .error e => .error (.inaccessible candidate.text e)
  | .ok false => .ok none
  | .ok true => .ok ((fs.status candidate.text).toOption.map (·.1))

/-- The candidates that are files, each file once. `seen` are the locations of
the files found so far. -/
def selectFiles (fs : FileSystem) (seen : List Location) :
    List Path → Except DiscoveryError (List Path)
  | [] => .ok []
  | c :: cs =>
    (fileLocation? fs c).bind fun
      | none => selectFiles fs seen cs
      | some l =>
        if seen.contains l then selectFiles fs seen cs
        else (selectFiles fs (l :: seen) cs).map (c :: ·)

/-- The log entry of a search. -/
def searchEntry (input : String) (found : Nat) : LogEntry where
  level := .debug
  message := s!"pattern {Text.quoted input} matched {found} file(s)"

/-- The files of an input. -/
def findFiles (fs : FileSystem) (input : String) : Except DiscoveryError (List Path) :=
  if Text.isAllBlank input then .error .blankInput
  else (candidates fs input).bind (selectFiles fs [])

/-- The files of an input, of which there has to be one. -/
def findSomeFiles (fs : FileSystem) (input : String) : Except DiscoveryError (List Path) :=
  (findFiles fs input).bind fun files =>
    if files.isEmpty then .error (.noFiles input) else .ok files

end SyntaxCorpus
