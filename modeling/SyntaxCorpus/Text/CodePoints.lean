/-
SyntaxCorpus.Text.CodePoints — texts that may hold halves of surrogate pairs.

A code point is a character or a surrogate. A surrogate has no encoding of its own,
so a sequence of code points is a text only if there is none in it.

* `CodePoint` — a character or a surrogate.
* `ofCodePoints` — the text of a sequence of code points, or where the first
  surrogates in it are.
-/
import SyntaxCorpus.Text.Quoted

namespace SyntaxCorpus.Text

/-- One half of a surrogate pair. -/
abbrev Surrogate : Type := { n : Nat // 0xD800 ≤ n ∧ n < 0xE000 }

/-- A character, or half of a surrogate pair. -/
abbrev CodePoint : Type := Char ⊕ Surrogate

/-- The first surrogates of a sequence of code points: where they start, which one is
the first, and how many follow it without a character between them. -/
structure Unencodable where
  position : Nat
  first : Surrogate
  further : Nat
  deriving DecidableEq

/-- The surrogates in words: the only one, or that there are several. -/
def Unencodable.what (u : Unencodable) : String :=
  if u.further = 0 then "character '\\u" ++ hexPadded 4 u.first.val ++ "'" else "characters"

/-- The place of the last of several surrogates, after that of the first one. -/
def Unencodable.rangeEnd (u : Unencodable) : String :=
  if u.further = 0 then "" else "-" ++ toString (u.position + u.further)

/-- What is wrong with the code points, in words. -/
def Unencodable.message (u : Unencodable) : String :=
  "'utf-8' codec can't encode " ++ u.what ++ " in position " ++ toString u.position
    ++ (u.rangeEnd ++ ": surrogates not allowed")

/-- The characters of code points that start at `position`, or the first surrogates
among them. -/
def charactersFrom (position : Nat) : List CodePoint → Except Unencodable (List Char)
  | [] => .ok []
  | .inl c :: ps => (charactersFrom (position + 1) ps).map (c :: ·)
  | .inr s :: ps => .error ⟨position, s, (ps.takeWhile Sum.isRight).length⟩

/-- The text of a sequence of code points. -/
def ofCodePoints (ps : List CodePoint) : Except Unencodable String :=
  (charactersFrom 0 ps).map String.ofList

end SyntaxCorpus.Text
