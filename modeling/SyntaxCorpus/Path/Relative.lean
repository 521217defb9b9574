/-
SyntaxCorpus.Path.Relative — the way from one directory to a path.

Both paths are taken by their names alone: a name followed by `..` is
cancelled, whatever it is a name of, and `..` at the root stays there. The way
leaves the part of the directory that the paths do not share, and enters the
rest of the path.

* `collapse` — names without `..`.
* `wayTo` — the way between two lists of names.
* `Path.relativeTo` — the way from a directory to a path, written.
-/
import SyntaxCorpus.Path.Basic

namespace SyntaxCorpus.Path

/-- The names from a root on, with every `..` and the name before it
cancelled. -/
def collapse (names : List String) : List String :=
  (names.foldl (fun found name => if name == ".." then found.tail else name :: found) []).reverse

/-- The way from the directory to the path, both given by their names from the
root on. -/
def wayTo : List String → List String → List String
  | d :: directory, p :: path =>
    if d == p then wayTo directory path
    else List.replicate (d :: directory).length ".." ++ p :: path
  | directory, path => List.replicate directory.length ".." ++ path

/-- The way from a directory to a path, both from a root on; `.` if they are
one place. -/
def relativeTo (directory p : Path) : String :=
  Path.text ⟨.none, wayTo (collapse directory.names) (collapse p.names)⟩

end SyntaxCorpus.Path
