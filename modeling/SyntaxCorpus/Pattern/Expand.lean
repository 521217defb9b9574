/-
SyntaxCorpus.Pattern.Expand — the paths that fit a pattern.

A pattern has a part for each name of a path. A part with wildcards stands for
the names that fit it, hidden ones included; the part `**` stands for any
number of names, also none, and follows links to directories; any other part
stands for itself, and has to exist.

A pattern is taken apart from its end: the directories that fit the pattern
without its last part are expanded first, then the last part in each of them.
So `expand` works on the characters of the pattern from the last to the first.

Every part from the first one with wildcards on is a level of the search, and so is
every directory that `**` goes down. A search that needs too many levels fails.

* `joined` — a path and a name in it.
* `ExpandError` — why a search fails.
* `namesIn`, `descendants` — the names in a directory, and the paths below it.
* `expandPart` — a last part in one directory.
* `expand` — the paths that fit a pattern.
-/
import SyntaxCorpus.FileSystem.Basic
import SyntaxCorpus.Pattern.Wildcard

namespace SyntaxCorpus.Pattern

/-- A path with a name in it. The empty name adds a slash to a path that does
not end with one. -/
def joined (directory name : String) : String :=
  if startsAtRoot name || directory.isEmpty then name
  else if directory.toList.getLast? == some '/' then directory ++ name
  else directory ++ "/" ++ name

/-- The path of a name in a directory; of two parts one may be empty. -/
def pathIn (directory name : String) : String :=
  if name.isEmpty then directory else joined directory name

/-- Why the paths that fit a pattern are not found. -/
inductive ExpandError
  /-- A directory is to be listed that has a null character in its path. -/
  | nullCharacter
  /-- The search needs more levels than it may go down. -/
  | tooDeep
  deriving DecidableEq

/-- The names in the directory that a path leads to, or only the names of
directories. The empty path stands for the working directory. A path that
leads to no directory has no names in it, and neither has a directory that cannot be
listed; a path with a null character is an error. -/
def namesIn (fs : FileSystem) (directoriesOnly : Bool) (directory : String) :
    Except ExpandError (List String) :=
  match fs.status (if directory.isEmpty then "." else directory) with
  | .ok (l, .directory) =>
    if fs.unlisted.contains l then .ok []
    else
      .ok (((fs.listing l).map (·.1)).filter fun name =>
        !directoriesOnly || fs.isDirectory (pathIn directory name))
  | .error .nullCharacter => .error .nullCharacter
  | _ => .ok []

/-- The paths below a directory, as seen from there, each before the paths
below it; at most `depth` levels may be gone down. -/
def descendants (fs : FileSystem) (directoriesOnly : Bool) :
    Nat → String → Except ExpandError (List String)
  | 0, _ => .error .tooDeep
  | depth + 1, directory =>
    (namesIn fs directoriesOnly directory).bind fun names =>
      (names.mapM fun name =>
        (descendants fs directoriesOnly depth (pathIn directory name)).map fun below =>
          name :: below.map (pathIn name)).map List.flatten

/-- The part that stands for any number of names. -/
def anyDepth : String := "**"

/-- What the last part of a pattern stands for in a directory, with `depth` levels to go
down. The empty part stands for the directory itself. No names at all lead to the start,
whatever is there; so a file fits, too, if the pattern ends in the part for any number of
names. (Later releases of the search ask for a directory there.) -/
def expandPart (fs : FileSystem) (depth : Nat) (directoriesOnly : Bool)
    (directory part : String) : Except ExpandError (List String) :=
  if part == anyDepth then
    (descendants fs directoriesOnly depth directory).map ("" :: ·)
  else if hasWildcard part then
    (namesIn fs directoriesOnly directory).map (·.filter (matchesName part))
  else if part.isEmpty then .ok (if fs.isDirectory directory then [part] else [])
  else .ok (if fs.has (pathIn directory part) then [part] else [])

/-- A part in each of some directories. -/
def expandIn (fs : FileSystem) (depth : Nat) (directoriesOnly : Bool) (part : String)
    (directories : List String) : Except ExpandError (List String) :=
  (directories.mapM fun d =>
    (expandPart fs depth directoriesOnly d part).map (·.map (joined d))).map List.flatten

/-- The paths that fit a pattern with wildcards, given by its characters from
the last to the first, with some levels to go down. The part itself is one. -/
def expandReversed (fs : FileSystem) :
    Nat → Bool → List Char → Except ExpandError (List String)
  | 0, _, _ => .error .tooDeep
  | depth + 1, directoriesOnly, reversed =>
    let part := String.ofList (reversed.takeWhile (· != '/')).reverse
    match reversed.dropWhile (· != '/') with
    | [] => expandPart fs depth directoriesOnly "" part
    | slash :: above =>
      let parent := above.dropWhile (· == '/')
      if parent.isEmpty then
        expandIn fs depth directoriesOnly part [String.ofList (slash :: above)]
      else if parent.any isWildcard then
        (expandReversed fs depth true parent).bind (expandIn fs depth directoriesOnly part)
      else expandIn fs depth directoriesOnly part [String.ofList parent.reverse]

/-- The paths that fit a pattern with wildcards. -/
def expand (fs : FileSystem) (pattern : String) : Except ExpandError (List String) :=
  expandReversed fs fs.searchDepth false pattern.toList.reverse

end SyntaxCorpus.Pattern
