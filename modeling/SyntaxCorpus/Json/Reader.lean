/-
SyntaxCorpus.Json.Reader — the value of a JSON document.

The reader goes through the tokens once. It keeps the lists and objects that
are still open, the innermost one first, each with the values that it has so
far.

* `Open` — an open list or object.
* `readTokens` — the value of a sequence of tokens.
* `read` — the value of a document.
-/
import SyntaxCorpus.Json.Token

namespace SyntaxCorpus.Json

/-- A list or an object that is not closed yet, the last value first. An
object waits for the value of the field `name`. -/
inductive Open
  | list (items : List Datum)
  | object (fields : List (String × Datum)) (name : String)

/-- How many lists and objects with content may be open at once. -/
def depthLimit : Nat := 200

/-- The value of the remaining tokens: `done` is the value that was just
completed, if a value is not what comes next. Every open list or object takes
the values inside it; a sequence with a token out of place has no value. -/
def readTokens (stack : List Open) (done : Option Datum) : List Token → Option Datum
  | [] =>
    match stack with
    | [] => done
    | _ => none
  | token :: rest =>
    match done with
    | none =>
      match token, rest with
      | .literal s, rest => readTokens stack (some s.toDatum) rest
      | .text s, rest => readTokens stack (some (.text s)) rest
      | .openList, .closeList :: rest => readTokens stack (some (.list [])) rest
      | .openObject, .closeObject :: rest => readTokens stack (some (.mapping [])) rest
      | .openList, rest =>
        if stack.length < depthLimit then readTokens (.list [] :: stack) none rest else none
      | .openObject, .text name :: .colon :: rest =>
        if stack.length < depthLimit then readTokens (.object [] name :: stack) none rest
        else none
      | _, _ => none
    | some d =>
      match stack, token, rest with
      | .list items :: outer, .comma, rest => readTokens (.list (d :: items) :: outer) none rest
      | .list items :: outer, .closeList, rest =>
        readTokens outer (some (.list (d :: items).reverse)) rest
      | .object fields name :: outer, .comma, .text next :: .colon :: rest =>
        readTokens (.object ((name, d) :: fields) next :: outer) none rest
      | .object fields name :: outer, .closeObject, rest =>
        readTokens outer (some (.mapping ((name, d) :: fields).reverse)) rest
      | _, _, _ => none

/-- The value of a document, its numbers within the limit. -/
def read (limit : Option Nat) (s : String) : Option Datum :=
  (tokens limit s.toList).bind (readTokens [] none)

end SyntaxCorpus.Json
