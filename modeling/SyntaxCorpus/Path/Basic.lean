/-
SyntaxCorpus.Path.Basic — paths of files.

A path has a root and the names that lead from there to a file. Its written
form may have empty names and the name `.`, which lead nowhere and are
dropped; `..` stays, because where it leads depends on the links on the way.

* `Path.ofText`, `Path.text` — the written form.
* `Path.name`, `Path.suffix` — the last name, and its ending.
* `Path.onto` — a path as seen from another one.
* `Path.le` — the order of paths, name by name.
-/
import SyntaxCorpus.Text.Split

namespace SyntaxCorpus

/-- Where a path starts. Exactly two leading slashes are a root of their own. -/
inductive Root
  | none
  | single
  | double
  deriving DecidableEq

/-- The written form of a root. -/
def Root.text : Root → String
  | none => ""
  | single => "/"
  | double => "//"

/-- The root that a text starts with. -/
def Root.ofChars : List Char → Root
  | '/' :: '/' :: '/' :: _ => single
  | '/' :: '/' :: _ => double
  | '/' :: _ => single
  | _ => none

/-- A path. -/
structure Path where
  root : Root
  names : List String
  deriving DecidableEq

namespace Path

/-- A name that leads somewhere else than to the directory it stands in. -/
def isProperName (name : String) : Bool := name != "" && name != "."

/-- The path of a written form. -/
def ofText (s : String) : Path where
  root := Root.ofChars s.toList
  names := (Text.pieces '/' s).filter isProperName

/-- Whether a path starts at a root. -/
def isAbsolute (p : Path) : Bool := p.root != .none

/-- The written form of a path; the path without names and root is `.`. -/
def text (p : Path) : String :=
  match p.root, p.names with
  | .none, [] => "."
  | root, names => root.text ++ String.intercalate "/" names

/-- The last name of a path. -/
def name (p : Path) : String := p.names.getLast?.getD ""

/-- The ending of a name: from its last point on. A name that starts or ends
with its last point has none. -/
def suffixOf (name : String) : String :=
  let reversed := name.toList.reverse
  let ending := reversed.takeWhile (· != '.')
  match reversed.dropWhile (· != '.') with
  | _ :: _ :: _ => if ending.isEmpty then "" else String.ofList ('.' :: ending.reverse)
  | _ => ""

/-- The ending of the last name. -/
def suffix (p : Path) : String := suffixOf p.name

/-- A path as seen from a directory: an absolute path stays as it is. -/
def onto (directory p : Path) : Path :=
  if p.isAbsolute then p else ⟨directory.root, directory.names ++ p.names⟩

/-- What two paths are compared by: the root, if there is one, and the
names. -/
def sortKey (p : Path) : List String :=
  if p.isAbsolute then p.root.text :: p.names else p.names

/-- The order of paths: name by name, each name by its code points. -/
def le (p q : Path) : Bool := !q.sortKey.lex p.sortKey

end Path
end SyntaxCorpus
