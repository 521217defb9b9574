/-
SyntaxCorpus.Grammar.SyntaxError — where a source is wrong.

* `SyntaxError` — the first thing that is wrong, with its line and column in
  the source as it was given, both from one on.
* `SyntaxError.locate` — the error of a concrete tree: the node that comes
  first in document order among those that are wrong or missing.
-/
import SyntaxCorpus.Grammar.Cst

namespace SyntaxCorpus

/-- What is wrong with a source. -/
inductive SyntaxError
  | missing (type : String) (line column : Nat)
  | unexpected (line column : Nat)
  /-- The grammar rejects the source, but names no place. -/
  | somewhere
  deriving DecidableEq

namespace SyntaxError

/-- The error in words. -/
def message : SyntaxError → String
  | missing type line column => s!"missing {type} at line {line}, column {column}"
  | unexpected line column => s!"syntax error at line {line}, column {column}"
  | somewhere => "syntax error"

/-- Whether a node is wrong or missing. -/
def isFault (n : CstNode) : Bool := n.isError || n.isMissing

/-- The error at a node. `offset` lines stand before the source as it was
given; what is wrong there is shown in its first line. -/
def atNode (offset : Nat) (n : CstNode) : SyntaxError :=
  let line := n.position.row - offset + 1
  let column := n.position.column + 1
  if n.isMissing then missing n.type line column else unexpected line column

/-- The error of a concrete tree. -/
def locate (offset : Nat) (t : Cst) : SyntaxError :=
  match t.find? (isFault ·.label) with
  | some found => atNode offset found.label
  | none => somewhere

end SyntaxError
end SyntaxCorpus
