/-
SyntaxCorpus.Json.Token — the tokens of a JSON document.

A document is a sequence of tokens with spaces, tabs and line breaks between
them. Numbers have no leading zeros; a number with a point or an exponent is a
floating-point number. A reader may limit the length of a number up to its
point; every function here takes that limit, if there is one. Besides the
three literals of the format, `NaN`, `Infinity` and `-Infinity` are literals,
too.

* `Token` — a punctuation mark, a value without parts, or a text.
* `scanToken` — the token at the front of a document.
* `tokens` — all tokens of a document.
-/
import SyntaxCorpus.Datum
import SyntaxCorpus.Json.Text
import SyntaxCorpus.Number.IntegerText

namespace SyntaxCorpus.Json

/-- A token of a document. -/
inductive Token
  | openList
  | closeList
  | openObject
  | closeObject
  | comma
  | colon
  | literal (value : Scalar)
  | text (s : String)
  deriving DecidableEq

/-- What may stand between two tokens. -/
def isSpacing (c : Char) : Bool :=
  c == ' ' || c == '\t' || c == '\n' || c == '\r'

/-- The marks that are a token each. -/
def mark? : Char → Option Token
  | '[' => some .openList
  | ']' => some .closeList
  | '\x7b' => some .openObject
  | '\x7d' => some .closeObject
  | ',' => some .comma
  | ':' => some .colon
  | _ => none

/-- The values that are written as words. -/
def words : List (List Char × Scalar) :=
  [("null".toList, .null), ("true".toList, .bool true), ("false".toList, .bool false),
    ("NaN".toList, .float .nan), ("Infinity".toList, .float (.infinite false)),
    ("-Infinity".toList, .float (.infinite true))]

/-- A word at the front of a document, and the rest. -/
def scanWord (cs : List Char) : Option (Scalar × List Char) :=
  (words.find? fun (word, _) => word.isPrefixOf cs).map
    fun (word, value) => (value, cs.drop word.length)

/-- A zero that another digit follows. -/
def hasLeadingZero : List Char → Bool
  | '-' :: '0' :: c :: _ => c.isDigit
  | '0' :: c :: _ => c.isDigit
  | _ => false

/-- How many characters a number has before its point and exponent. -/
def wholeLength (cs : List Char) : Nat :=
  let (negative, rest) := scanMinus cs
  (if negative then 1 else 0) + (rest.takeWhile Char.isDigit).length

/-- Whether a number has too many characters before its point and exponent. -/
def isTooLong (limit : Option Nat) (cs : List Char) : Bool :=
  limit.any fun most => most < wholeLength cs

/-- A number at the front of a document, and the rest. -/
def scanNumber (limit : Option Nat) (cs : List Char) : Option (Scalar × List Char) :=
  if hasLeadingZero cs || isTooLong limit cs then none
  else
    (scanDecimal cs).map fun (d, rest) =>
      (if d.whole then .int d.toInt else .float d.toBinary64, rest)

/-- The token at the front of a document, and the rest. -/
def scanToken (limit : Option Nat) (cs : List Char) : Option (Token × List Char) :=
  match cs with
  | [] => none
  | c :: rest =>
    match mark? c with
    | some token => some (token, rest)
    | none =>
      if c == '"' then (scanText rest).map fun (s, rest) => (.text (String.ofList s), rest)
      else
        match scanWord cs with
        | some (value, rest) => some (.literal value, rest)
        | none => (scanNumber limit cs).map fun (value, rest) => (.literal value, rest)

theorem words_ne_nil : ∀ w ∈ words, 0 < w.1.length := by
  decide

theorem length_scanWord {cs rest : List Char} {v : Scalar} (h : scanWord cs = some (v, rest)) :
    rest.length < cs.length := by
  simp only [scanWord, Option.map_eq_some_iff, Prod.mk.injEq, Prod.exists] at h
  obtain ⟨word, value, hf, _, rfl⟩ := h
  have hpos : 0 < word.length := words_ne_nil _ (List.mem_of_find?_eq_some hf)
  have hle : word.length ≤ cs.length := by
    have hp : word.isPrefixOf cs = true := by simpa using List.find?_some hf
    exact (List.isPrefixOf_iff_prefix.mp hp).length_le
  simp only [List.length_drop]
  omega

theorem length_scanNumber {limit : Option Nat} {cs rest : List Char} {v : Scalar}
    (h : scanNumber limit cs = some (v, rest)) : rest.length < cs.length := by
  unfold scanNumber at h
  split at h
  · cases h
  · simp only [Option.map_eq_some_iff, Prod.mk.injEq, Prod.exists] at h
    obtain ⟨d, _, hd, _, rfl⟩ := h
    exact length_scanDecimal hd

theorem length_scanToken {limit : Option Nat} {cs rest : List Char} {t : Token}
    (h : scanToken limit cs = some (t, rest)) : rest.length < cs.length := by
  unfold scanToken at h
  split at h
  · cases h
  next c tail =>
    split at h
    · cases h
      simp
    · split at h
      · simp only [Option.map_eq_some_iff, Prod.mk.injEq, Prod.exists] at h
        obtain ⟨_, _, hs, _, rfl⟩ := h
        have := length_scanText hs
        simp only [List.length_cons]
        omega
      · split at h
        next hw =>
          cases h
          exact length_scanWord hw
        next =>
          simp only [Option.map_eq_some_iff, Prod.mk.injEq, Prod.exists] at h
          obtain ⟨_, _, hn, _, rfl⟩ := h
          exact length_scanNumber hn

/-- The tokens of a document after those found so far, the last one first. -/
def tokensOnto (limit : Option Nat) (found : List Token) (cs : List Char) :
    Option (List Token) :=
  match cs with
  | [] => some found.reverse
  | c :: tail =>
    if isSpacing c then tokensOnto limit found tail
    else
      match _next : scanToken limit (c :: tail) with
      | some (token, rest) => tokensOnto limit (token :: found) rest
      | none => none
termination_by cs.length
decreasing_by
  · simp
  · exact length_scanToken ‹scanToken limit _ = _›

/-- The tokens of a document, if it has no other parts. -/
def tokens (limit : Option Nat) (cs : List Char) : Option (List Token) :=
  tokensOnto limit [] cs

end SyntaxCorpus.Json
