/-
SyntaxCorpus.Text.Split — a text cut at a character.

* `splitOn` — the pieces between the occurrences of a character. A text without
  it is one piece; two of them side by side have an empty piece between them.
* `pieces` — the same on texts.
-/
namespace SyntaxCorpus.Text

/-- The pieces of a list between the occurrences of `sep`. -/
def splitOn (sep : Char) : List Char → List (List Char)
  | [] => [[]]
  | c :: cs =>
    if c == sep then [] :: splitOn sep cs
    else
      match splitOn sep cs with
      | piece :: rest => (c :: piece) :: rest
      | [] => [[c]]

/-- The pieces of a text between the occurrences of `sep`. -/
def pieces (sep : Char) (s : String) : List String :=
  (splitOn sep s.toList).map String.ofList

theorem splitOn_ne_nil (sep : Char) (cs : List Char) : splitOn sep cs ≠ [] := by
  cases cs with
  | nil => simp [splitOn]
  | cons c cs =>
    rw [splitOn]
    split
    · simp
    · split <;> simp

end SyntaxCorpus.Text
