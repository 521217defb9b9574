/-
SyntaxCorpus.Pattern.CharClass — sets of characters in brackets.

The body of a bracket expression ends at the first `]`, not counting one in
front, after a `!` if there is one. A hyphen between two characters makes them
the ends of a range by code points; ranges whose ends are in the wrong order
are empty and dropped together with their ends. A `!` in front of what remains
negates the set.

* `classBody?` — the body at the front of a text.
* `chunks`, `dropEmptyRanges` — the body cut at the hyphens of its ranges,
  then without the empty ones.
* `CharTest` — which characters a part of a pattern stands for.
* `CharTest.ofBody` — the test of a body.
-/
namespace SyntaxCorpus.Pattern

/-- The characters at the front of a text that are equal to `c`, at most one,
and the rest. -/
def optionalChar (c : Char) : List Char → List Char × List Char
  | d :: cs => if d == c then ([d], cs) else ([], d :: cs)
  | [] => ([], [])

/-- The body of a bracket expression after its opening bracket, and what comes
after its closing bracket. -/
def classBody? (cs : List Char) : Option (List Char × List Char) :=
  let (mark, cs) := optionalChar '!' cs
  let (first, cs) := optionalChar ']' cs
  match cs.dropWhile (· != ']') with
  | _ :: rest => some (mark ++ first ++ cs.takeWhile (· != ']'), rest)
  | [] => none

theorem length_optionalChar (c : Char) (cs : List Char) :
    (optionalChar c cs).2.length ≤ cs.length := by
  unfold optionalChar
  split
  · split <;> simp
  · simp

theorem length_classBody {cs body rest : List Char} (h : classBody? cs = some (body, rest)) :
    rest.length < cs.length := by
  unfold classBody? at h
  have h1 := length_optionalChar '!' cs
  have h2 := length_optionalChar ']' (optionalChar '!' cs).2
  simp only at h
  split at h
  next c tail heq =>
    simp only [Option.some.injEq, Prod.mk.injEq] at h
    obtain ⟨_, rfl⟩ := h
    have h3 := (List.dropWhile_sublist (· != ']')
      (l := (optionalChar ']' (optionalChar '!' cs).2).2)).length_le
    rw [heq, List.length_cons] at h3
    omega
  next => cases h

/-- A body cut at the hyphens of its ranges. The first `skip` characters are
no such hyphens; after a cut, these are the end of the range and the character
behind it. A hyphen at the very end stands for itself. -/
def cutRanges (skip : Nat) (cs : List Char) : List (List Char) :=
  match _hyphen : (cs.drop skip).dropWhile (· != '-') with
  | [] => [cs]
  | [_] => [cs]
  | _ :: rest =>
    (cs.take skip ++ (cs.drop skip).takeWhile (· != '-')) :: cutRanges 2 rest
termination_by cs.length
decreasing_by
  have h1 := (List.dropWhile_sublist (· != '-') (l := cs.drop skip)).length_le
  rw [‹List.dropWhile _ _ = _›, List.length_cons, List.length_drop] at h1
  omega

/-- The chunks of a body between the hyphens of its ranges. A hyphen in front,
after a `!` if there is one, stands for itself. -/
def chunks (body : List Char) : List (List Char) :=
  match body with
  | '!' :: _ => cutRanges 2 body
  | _ => cutRanges 1 body

/-- The chunks without the ends of empty ranges. The ranges are looked at from
the last to the first; where an empty one is dropped, the two chunks become
one. -/
def dropEmptyRanges : List (List Char) → List (List Char)
  | [] => []
  | chunk :: rest =>
    match dropEmptyRanges rest with
    | [] => [chunk]
    | next :: others =>
      match chunk.getLast?, next.head? with
      | some low, some high =>
        if high < low then (chunk.dropLast ++ next.tail) :: others
        else chunk :: next :: others
      | _, _ => chunk :: next :: others

/-- A character of a body, or the hyphen of a range. -/
inductive Mark
  | char (c : Char)
  | hyphen

/-- The chunks with the hyphens between them. -/
def marks : List (List Char) → List Mark
  | [] => []
  | [chunk] => chunk.map .char
  | chunk :: rest => chunk.map .char ++ .hyphen :: marks rest

/-- A closed range of characters. -/
structure CharRange where
  low : Char
  high : Char
  deriving DecidableEq

/-- Whether a character is in a range. -/
def CharRange.has (r : CharRange) (c : Char) : Bool := r.low ≤ c && c ≤ r.high

/-- The ranges of a body. A hyphen that no character precedes stands for
itself. -/
def ranges : List Mark → List CharRange
  | .char a :: .hyphen :: .char b :: rest => ⟨a, b⟩ :: ranges rest
  | .char a :: rest => ⟨a, a⟩ :: ranges rest
  | .hyphen :: rest => ⟨'-', '-'⟩ :: ranges rest
  | [] => []

/-- Which characters a part of a pattern stands for. -/
inductive CharTest
  | any
  | exactly (c : Char)
  | oneOf (rs : List CharRange)
  | noneOf (rs : List CharRange)
  deriving DecidableEq

namespace CharTest

/-- Whether a character passes. -/
def passes : CharTest → Char → Bool
  | any, _ => true
  | exactly d, c => d == c
  | oneOf rs, c => rs.any (·.has c)
  | noneOf rs, c => !rs.any (·.has c)

/-- The test of a body. A body without characters stands for none, and the
negation of nothing for any. -/
def ofBody (body : List Char) : CharTest :=
  match marks (dropEmptyRanges (chunks body)) with
  | [.char '!'] => any
  | .char '!' :: rest => noneOf (ranges rest)
  | found => oneOf (ranges found)

end CharTest
end SyntaxCorpus.Pattern
