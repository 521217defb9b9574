/-
SyntaxCorpus.Number.DecimalText — reading decimal numbers.

* `natOfDigits` — the number that a run of digits writes.
* `Decimal`, `scanDecimal` — a sign, digits and a power of ten, read off the
  front of a text.
* `Decimal.toBinary64` — the floating-point number nearest to a decimal.
-/
import SyntaxCorpus.Number.Binary64

namespace SyntaxCorpus

/-- The number that a run of decimal digits writes. -/
def natOfDigits (cs : List Char) : Nat :=
  cs.foldl (fun n c => n * 10 + (c.toNat - '0'.toNat)) 0

/-- A decimal number `digits · 10 ^ exponent`, as it is written: whether it
has a sign, a fraction or an exponent decides how its text is read. -/
structure Decimal where
  negative : Bool
  digits : Nat
  exponent : Int
  /-- Written without a point and without an exponent. -/
  whole : Bool

/-- The floating-point number nearest to a decimal. -/
def Decimal.toBinary64 (d : Decimal) : Binary64 :=
  Binary64.ofDecimal d.negative d.digits d.exponent

/-- A decimal without a point and an exponent, as an integer. -/
def Decimal.toInt (d : Decimal) : Int :=
  if d.negative then -(d.digits : Int) else d.digits

/-- The digits at the front of a text, and the rest. -/
def spanDigits (cs : List Char) : List Char × List Char :=
  (cs.takeWhile Char.isDigit, cs.dropWhile Char.isDigit)

/-- A sign at the front of a text: whether it is a minus, and the rest. -/
def scanSign : List Char → Bool × List Char
  | '-' :: cs => (true, cs)
  | '+' :: cs => (false, cs)
  | cs => (false, cs)

/-- A minus sign at the front of a text, if there is one, and the rest. -/
def scanMinus : List Char → Bool × List Char
  | '-' :: cs => (true, cs)
  | cs => (false, cs)

/-- The digits after a point at the front of a text, if there is one. A point
without digits is an error. -/
def scanFraction : List Char → Option (List Char × List Char)
  | '.' :: cs =>
    match spanDigits cs with
    | ([], _) => none
    | found => some found
  | cs => some ([], cs)

/-- The exponent at the front of a text, if there is one: `e` or `E`, an
optional sign and at least one digit. A letter without digits is an error. -/
def scanExponent : List Char → Option (Option Int × List Char)
  | [] => some (none, [])
  | c :: cs =>
    if c == 'e' || c == 'E' then
      match spanDigits (scanSign cs).2 with
      | ([], _) => none
      | (ds, rest) =>
        let n : Int := natOfDigits ds
        some (some (if (scanSign cs).1 then -n else n), rest)
    else some (none, c :: cs)

/-- The decimal at the front of a text, and the rest: an optional `-`, digits,
an optional point with digits after it, an optional exponent. -/
def scanDecimal (cs : List Char) : Option (Decimal × List Char) :=
  let (negative, cs) := scanMinus cs
  match spanDigits cs with
  | ([], _) => none
  | (whole, rest) =>
    (scanFraction rest).bind fun (fraction, rest) =>
      (scanExponent rest).map fun (e, rest) =>
        let digits := natOfDigits (whole ++ fraction)
        let exponent : Int := e.getD 0 - fraction.length
        (⟨negative, digits, exponent, fraction.isEmpty && e.isNone⟩, rest)

theorem length_spanDigits (cs : List Char) :
    (spanDigits cs).2.length + (spanDigits cs).1.length = cs.length := by
  have := congrArg List.length (List.takeWhile_append_dropWhile (p := Char.isDigit) (l := cs))
  simp only [List.length_append] at this
  simp only [spanDigits]
  omega

theorem length_scanSign (cs : List Char) : (scanSign cs).2.length ≤ cs.length := by
  fun_cases scanSign cs <;> simp

theorem length_scanMinus (cs : List Char) : (scanMinus cs).2.length ≤ cs.length := by
  fun_cases scanMinus cs <;> simp

theorem length_scanFraction {cs ds rest : List Char} (h : scanFraction cs = some (ds, rest)) :
    rest.length ≤ cs.length := by
  fun_cases scanFraction cs with
  | case1 cs x hs => simp [scanFraction, hs] at h
  | case2 cs hs =>
    have hl := length_spanDigits cs
    have heq : spanDigits cs = (ds, rest) := by simpa [scanFraction] using h
    simp only [heq] at hl
    simp only [List.length_cons]
    omega
  | case3 cs hs =>
    rw [scanFraction.eq_2 _ hs] at h
    cases h
    exact Nat.le_refl _

theorem length_scanExponent {cs rest : List Char} {e : Option Int}
    (h : scanExponent cs = some (e, rest)) : rest.length ≤ cs.length := by
  unfold scanExponent at h
  split at h
  · cases h
    simp
  next c cs =>
    split at h
    · have hl := length_spanDigits (scanSign cs).2
      have hs := length_scanSign cs
      split at h
      · cases h
      next ds rest' hd =>
        cases h
        simp only [hd] at hl
        simp only [List.length_cons]
        omega
    · cases h
      exact Nat.le_refl _

theorem length_scanDecimal {cs rest : List Char} {d : Decimal}
    (h : scanDecimal cs = some (d, rest)) : rest.length < cs.length := by
  unfold scanDecimal at h
  have hm := length_scanMinus cs
  have hl := length_spanDigits (scanMinus cs).2
  simp only at h
  split at h
  · cases h
  next whole tail hne hs =>
    simp only [Option.bind_eq_some_iff, Option.map_eq_some_iff, Prod.mk.injEq,
      Prod.exists] at h
    obtain ⟨_, _, hf, _, _, he, _, rfl⟩ := h
    have h1 := length_scanFraction hf
    have h2 := length_scanExponent he
    have hpos : 0 < whole.length := by
      cases whole with
      | nil => exact (hne rfl).elim
      | cons => simp
    simp only [hs] at hl
    omega

end SyntaxCorpus
