/-
SyntaxCorpus.Pattern.Wildcard — patterns for single names.

In a pattern `*` stands for any run of characters, `?` for any character, and
an expression in brackets for one character of a set. A bracket that is not
closed stands for itself, as every other character does.

* `hasWildcard` — whether a text is a pattern.
* `Piece`, `piecesOf` — the parts of a pattern.
* `matchesName` — whether a name fits.
-/
import SyntaxCorpus.Pattern.CharClass

namespace SyntaxCorpus.Pattern

/-- The characters that make a text a pattern. -/
def isWildcard (c : Char) : Bool := c == '*' || c == '?' || c == '['

/-- Whether a text is a pattern. -/
def hasWildcard (s : String) : Bool := s.toList.any isWildcard

/-- A part of a pattern. -/
inductive Piece
  /-- Any run of characters. -/
  | anyRun
  | one (test : CharTest)
  deriving DecidableEq

/-- The parts of a pattern. -/
def piecesOf (cs : List Char) : List Piece :=
  match cs with
  | [] => []
  | c :: rest =>
    if c == '*' then .anyRun :: piecesOf rest
    else if c == '?' then .one .any :: piecesOf rest
    else if c == '[' then
      match _closed : classBody? rest with
      | some (body, rest) => .one (CharTest.ofBody body) :: piecesOf rest
      | none => .one (.exactly c) :: piecesOf rest
    else .one (.exactly c) :: piecesOf rest
termination_by cs.length
decreasing_by
  · simp
  · simp
  · have := length_classBody ‹classBody? _ = _›
    simp only [List.length_cons]
    omega
  · simp
  · simp

/-- Which ends of a name fit the parts: an entry for the whole name, one for
the name without its first character, and so on to the empty end. -/
def fits (name : List Char) : List Piece → List Bool
  | [] => name.map (fun _ => false) ++ [true]
  | .anyRun :: rest => (fits name rest).scanr (fun fit later => fit || later) false |>.dropLast
  | .one test :: rest =>
    List.zipWith (fun c fit => test.passes c && fit) name (fits name rest).tail ++ [false]

/-- Whether a name fits a pattern. -/
def matchesName (pattern name : String) : Bool :=
  (fits name.toList (piecesOf pattern.toList)).headD false

end SyntaxCorpus.Pattern
