/-
SyntaxCorpus.Json.Text — texts in JSON documents.

A text stands between double quotes. The quote, the backslash and the
characters below U+0020 are written as escapes, and every other character as
it is. Reading accepts every escape of the format; a pair of escapes for a
high and a low surrogate is one character, and a single surrogate is none.

* `escapeChar`, `escaped` — writing.
* `scanText` — reading, up to and including the closing quote.
-/
import SyntaxCorpus.Text.Quoted

namespace SyntaxCorpus.Json

/-- The characters that are escaped by a letter, with their letters. -/
def letterEscapes : List (Char × Char) :=
  [('"', '"'), ('\\', '\\'), ('\x08', 'b'), ('\x0c', 'f'), ('\n', 'n'), ('\r', 'r'), ('\t', 't')]

/-- A character inside a written text. -/
def escapeChar (c : Char) : List Char :=
  match letterEscapes.find? (·.1 == c) with
  | some (_, letter) => ['\\', letter]
  | none => if c.toNat < 0x20 then '\\' :: 'u' :: (Text.hexPadded 4 c.toNat).toList else [c]

/-- A text between its quotes. -/
def escaped (s : String) : List Char :=
  '"' :: s.toList.flatMap escapeChar ++ ['"']

/-- The value of a hexadecimal digit. -/
def hexValue? (c : Char) : Option Nat :=
  if '0' ≤ c && c ≤ '9' then some (c.toNat - '0'.toNat)
  else if 'a' ≤ c && c ≤ 'f' then some (c.toNat - 'a'.toNat + 10)
  else if 'A' ≤ c && c ≤ 'F' then some (c.toNat - 'A'.toNat + 10)
  else none

/-- The number that four hexadecimal digits write, and the rest. -/
def scanHex4 : List Char → Option (Nat × List Char)
  | a :: b :: c :: d :: rest => do
    let a ← hexValue? a
    let b ← hexValue? b
    let c ← hexValue? c
    let d ← hexValue? d
    return (((a * 16 + b) * 16 + c) * 16 + d, rest)
  | _ => none

/-- The first of two code units of a character beyond U+FFFF. -/
def isHighSurrogate (n : Nat) : Bool := 0xD800 ≤ n && n < 0xDC00

/-- The second of two code units of a character beyond U+FFFF. -/
def isLowSurrogate (n : Nat) : Bool := 0xDC00 ≤ n && n < 0xE000

/-- A character given by its code units: four digits, or eight in two
escapes. -/
def scanUnits (cs : List Char) : Option (Char × List Char) :=
  match scanHex4 cs with
  | some (high, rest) =>
    if isHighSurrogate high then
      match rest with
      | '\\' :: 'u' :: rest =>
        match scanHex4 rest with
        | some (low, rest) =>
          if isLowSurrogate low then
            some (Char.ofNat (0x10000 + (high - 0xD800) * 0x400 + (low - 0xDC00)), rest)
          else none
        | none => none
      | _ => none
    else if isLowSurrogate high then none
    else some (Char.ofNat high, rest)
  | none => none

/-- The character of an escape, after its backslash. The solidus may be
escaped, too. -/
def scanEscape : List Char → Option (Char × List Char)
  | 'u' :: rest => scanUnits rest
  | '/' :: rest => some ('/', rest)
  | letter :: rest => (letterEscapes.find? (·.2 == letter)).map fun (c, _) => (c, rest)
  | [] => none

theorem length_scanHex4 {cs rest : List Char} {n : Nat} (h : scanHex4 cs = some (n, rest)) :
    rest.length < cs.length := by
  unfold scanHex4 at h
  split at h
  · simp only [Option.bind_eq_bind, Option.bind_eq_some_iff, Option.pure_def,
      Option.some.injEq, Prod.mk.injEq] at h
    obtain ⟨_, _, _, _, _, _, _, _, _, rfl⟩ := h
    simp only [List.length_cons]
    omega
  · cases h

theorem length_scanUnits {cs rest : List Char} {c : Char} (h : scanUnits cs = some (c, rest)) :
    rest.length < cs.length := by
  unfold scanUnits at h
  split at h
  next high tail h4 =>
    have l := length_scanHex4 h4
    split at h
    · split at h
      next tail =>
        split at h
        next low last h4' =>
          have l' := length_scanHex4 h4'
          split at h
          · simp only [Option.some.injEq, Prod.mk.injEq] at h
            obtain ⟨_, rfl⟩ := h
            simp only [List.length_cons] at l
            omega
          · cases h
        next => cases h
      next => cases h
    · split at h
      · cases h
      · simp only [Option.some.injEq, Prod.mk.injEq] at h
        obtain ⟨_, rfl⟩ := h
        exact l
  next => cases h

theorem length_scanEscape {cs rest : List Char} {c : Char} (h : scanEscape cs = some (c, rest)) :
    rest.length < cs.length := by
  unfold scanEscape at h
  split at h
  · have := length_scanUnits h
    simp only [List.length_cons]
    omega
  · cases h
    simp
  · simp only [Option.map_eq_some_iff, Prod.mk.injEq] at h
    obtain ⟨_, _, _, rfl⟩ := h
    simp
  · cases h

/-- A text after its opening quote, following the characters found so far, the
last one first; and what comes after its closing quote. -/
def scanTextOnto (found : List Char) : List Char → Option (List Char × List Char)
  | [] => none
  | c :: cs =>
    if c == '"' then some (found.reverse, cs)
    else if c == '\\' then
      match _found : scanEscape cs with
      | some (e, rest) => scanTextOnto (e :: found) rest
      | none => none
    else if c.toNat < 0x20 then none
    else scanTextOnto (c :: found) cs
termination_by cs => cs.length
decreasing_by
  · have := length_scanEscape ‹scanEscape cs = _›
    simp only [List.length_cons]
    omega
  · simp

/-- A text after its opening quote, and what comes after its closing quote. -/
def scanText (cs : List Char) : Option (List Char × List Char) :=
  scanTextOnto [] cs

theorem length_scanTextOnto {found cs s rest : List Char}
    (h : scanTextOnto found cs = some (s, rest)) : rest.length < cs.length := by
  fun_induction scanTextOnto found cs with
  | case1 => cases h
  | case2 => cases h; simp
  | case3 found c cs _ _ e rest' he ih =>
    have := length_scanEscape he
    have := ih h
    simp only [List.length_cons]
    omega
  | case4 => cases h
  | case5 => cases h
  | case6 found c cs _ _ _ ih =>
    have := ih h
    simp only [List.length_cons]
    omega

theorem length_scanText {cs s rest : List Char} (h : scanText cs = some (s, rest)) :
    rest.length < cs.length :=
  length_scanTextOnto h

end SyntaxCorpus.Json
