/-
SyntaxCorpus.Proofs.Json.Token — written parts are read as their tokens.

`LexesTo limit cs ts` says that the characters `cs` are read as the tokens
`ts`, whatever was read before them and whatever follows that ends a value. A
number needs that condition: followed by another digit it would be another
number.

* `tokensOnto_mark`, `tokensOnto_escaped` — marks and texts end by themselves.
* `lexesTo_word`, `lexesTo_chars` — words and numbers, the latter if they are
  not too long.
* `isTooLong_int` — how long integers are.
-/
import Mathlib.Data.Nat.Digits.Defs
import SyntaxCorpus.Json.Token
import SyntaxCorpus.Proofs.Json.Text
import SyntaxCorpus.Proofs.Number.DecimalText

namespace SyntaxCorpus.Json

/-- What may follow a value: nothing, a comma, a closing mark or a line break. -/
def EndsValue (rest : List Char) : Prop :=
  ∀ c ∈ rest.head?, c = ',' ∨ c = ']' ∨ c = '\x7d' ∨ c = '\n'

theorem EndsValue.endsNumber {rest : List Char} (h : EndsValue rest) : EndsNumber rest := by
  intro c hc
  rcases h c hc with rfl | rfl | rfl | rfl
  · decide
  · decide
  · decide
  · decide

theorem endsValue_comma (rest : List Char) : EndsValue (',' :: rest) :=
  fun _ hc => .inl (Option.some.inj hc).symm

theorem endsValue_closeList (rest : List Char) : EndsValue (']' :: rest) :=
  fun _ hc => .inr (.inl (Option.some.inj hc).symm)

theorem endsValue_closeObject (rest : List Char) : EndsValue ('\x7d' :: rest) :=
  fun _ hc => .inr (.inr (.inl (Option.some.inj hc).symm))

theorem endsValue_newline (rest : List Char) : EndsValue ('\n' :: rest) :=
  fun _ hc => .inr (.inr (.inr (Option.some.inj hc).symm))

theorem endsValue_nil : EndsValue [] :=
  fun _ hc => by cases hc

/-- The characters are read as the tokens. -/
def LexesTo (limit : Option Nat) (cs : List Char) (ts : List Token) : Prop :=
  ∀ (found : List Token) (rest : List Char), EndsValue rest →
    tokensOnto limit found (cs ++ rest) = tokensOnto limit (ts.reverse ++ found) rest

theorem tokensOnto_nil (limit : Option Nat) (found : List Token) :
    tokensOnto limit found [] = some found.reverse := by
  rw [tokensOnto]

/-- A line break at the end is no part of a document. -/
theorem tokensOnto_newline (limit : Option Nat) (found : List Token) :
    tokensOnto limit found ['\n'] = some found.reverse := by
  rw [tokensOnto, if_pos (by decide), tokensOnto_nil]

theorem tokensOnto_of_scanToken {limit : Option Nat} {c : Char} {cs rest : List Char} {t : Token}
    (hc : isSpacing c = false) (h : scanToken limit (c :: cs) = some (t, rest))
    (found : List Token) :
    tokensOnto limit found (c :: cs) = tokensOnto limit (t :: found) rest := by
  rw [tokensOnto, if_neg (by simp [hc])]
  split
  · rename_i heq
    rw [h] at heq
    cases heq
    rfl
  · rename_i heq
    rw [h] at heq
    cases heq

/-! ## Marks and texts -/

theorem tokensOnto_mark {c : Char} {t : Token} (hc : isSpacing c = false) (h : mark? c = some t)
    (limit : Option Nat) (found : List Token) (rest : List Char) :
    tokensOnto limit found (c :: rest) = tokensOnto limit (t :: found) rest :=
  tokensOnto_of_scanToken hc (by simp only [scanToken, h]) found

theorem tokensOnto_escaped (limit : Option Nat) (found : List Token) (s : String)
    (rest : List Char) :
    tokensOnto limit found (escaped s ++ rest) = tokensOnto limit (.text s :: found) rest := by
  rw [escaped, List.append_assoc, List.cons_append, List.singleton_append]
  refine tokensOnto_of_scanToken (by decide) ?_ found
  have hmark : mark? '"' = none := rfl
  simp only [scanToken, hmark, beq_self_eq_true, if_true, scanText_flatMap_escapeChar,
    Option.map_some, String.ofList_toList]

theorem lexesTo_escaped (limit : Option Nat) (s : String) :
    LexesTo limit (escaped s) [.text s] :=
  fun found rest _ => tokensOnto_escaped limit found s rest

/-- Two parts with a comma between them. -/
theorem LexesTo.comma {limit : Option Nat} {cs ds : List Char} {ts us : List Token}
    (hcs : LexesTo limit cs ts) (hds : LexesTo limit ds us) :
    LexesTo limit (cs ++ ',' :: ds) (ts ++ .comma :: us) := by
  intro found rest hrest
  have hmark : mark? ',' = some .comma := rfl
  rw [List.append_assoc, List.cons_append, hcs found _ (endsValue_comma _),
    tokensOnto_mark (by decide) hmark, hds _ rest hrest]
  simp only [List.reverse_append, List.reverse_cons, List.append_assoc, List.cons_append,
    List.nil_append]

/-! ## Words -/

/-- Words are told apart from numbers by their first two characters. -/
theorem words_no_digit : ∀ w ∈ words, 2 ≤ w.1.length ∧ ∀ c ∈ w.1, c.isDigit = false := by
  have hall : ∀ w ∈ words, 2 ≤ w.1.length ∧ (w.1.all fun c => !c.isDigit) = true := by decide
  intro w hw
  obtain ⟨hlength, hdigits⟩ := hall w hw
  exact ⟨hlength, fun c hc => by simpa using List.all_eq_true.mp hdigits c hc⟩

theorem scanWord_eq_none {cs : List Char} (h : ∃ c ∈ cs.take 2, c.isDigit = true) :
    scanWord cs = none := by
  rw [scanWord, Option.map_eq_none_iff, List.find?_eq_none]
  intro w hw hpre
  obtain ⟨rest, rfl⟩ := List.isPrefixOf_iff_prefix.mp hpre
  obtain ⟨hlen, hdigit⟩ := words_no_digit w hw
  rw [List.take_append_of_le_length hlen] at h
  obtain ⟨c, hc, hd⟩ := h
  rw [hdigit c (List.mem_of_mem_take hc)] at hd
  cases hd

/-- No word is the beginning of another one, or starts like another kind of
token. -/
theorem words_apart : ∀ w ∈ words, ∃ c cs, w.1 = c :: cs ∧
    isSpacing c = false ∧ mark? c = none ∧ c ≠ '"' ∧
    ∀ rest, words.find? (fun v => v.1.isPrefixOf (w.1 ++ rest)) = some w := by
  intro w hw
  simp only [words, List.mem_cons, List.not_mem_nil, or_false] at hw
  rcases hw with rfl | rfl | rfl | rfl | rfl | rfl <;>
    exact ⟨_, _, rfl, by decide, by decide, by decide, fun rest => rfl⟩

theorem lexesTo_word (limit : Option Nat) {w : List Char × Scalar} (hw : w ∈ words) :
    LexesTo limit w.1 [.literal w.2] := by
  obtain ⟨c, cs, hcs, hspacing, hmark, hquote, hfind⟩ := words_apart w hw
  intro found rest _
  have hscan : scanWord (w.1 ++ rest) = some (w.2, rest) := by
    rw [scanWord, hfind rest, Option.map_some]
    show some (w.2, (w.1 ++ rest).drop w.1.length) = some (w.2, rest)
    rw [List.drop_left]
  rw [hcs, List.cons_append] at hscan ⊢
  refine tokensOnto_of_scanToken hspacing ?_ found
  simp only [scanToken, hmark, beq_eq_false_iff_ne.mpr hquote, Bool.false_eq_true, if_false, hscan]

/-! ## Numbers -/

section Numbers

variable {limit : Option Nat} {width : Nat} {n : NumberText} {rest : List Char}

theorem hasLeadingZero_chars (h : EndsNumber rest) :
    hasLeadingZero (n.chars width ++ rest) = false := by
  have htail := n.tail_stopsDigits width h
  rw [n.chars_append]
  generalize fractionText n.fraction ++ (exponentPart width n.exponent ++ rest) = tail at htail ⊢
  have hzero : hasLeadingZero (n.whole ++ tail) = false := by
    rcases n.whole_lead with hw | hw
    · rw [hw]
      cases tail with
      | nil => rfl
      | cons c cs => exact htail c rfl
    · obtain ⟨d, ds, hds, hd⟩ := n.exists_whole_cons
      rw [hds] at hw ⊢
      unfold hasLeadingZero
      split
      · rename_i heq
        obtain ⟨rfl, -⟩ := List.cons.inj heq
        cases hd
      · rename_i heq
        obtain ⟨rfl, -⟩ := List.cons.inj heq
        exact absurd rfl hw
      · rfl
  cases hneg : n.negative with
  | false => exact hzero
  | true =>
    obtain ⟨d, ds, hds, hd⟩ := n.exists_whole_cons
    rw [hds] at hzero ⊢
    show hasLeadingZero ('-' :: d :: (ds ++ tail)) = false
    unfold hasLeadingZero
    split
    · rename_i heq
      obtain ⟨-, heq⟩ := List.cons.inj heq
      obtain ⟨rfl, heq⟩ := List.cons.inj heq
      rw [List.cons_append, heq] at hzero
      exact hzero
    · rename_i heq
      cases heq
    · rfl

theorem wholeLength_chars (h : EndsNumber rest) :
    wholeLength (n.chars width ++ rest) = (signText n.negative ++ n.whole).length := by
  rw [wholeLength, NumberText.scanMinus_chars]
  dsimp only
  rw [takeWhile_isDigit n.whole_digits (n.tail_stopsDigits width h), List.length_append]
  cases n.negative with
  | true => rfl
  | false => rfl

theorem digit_startsNoMark {c : Char} (h : c.isDigit = true) :
    isSpacing c = false ∧ mark? c = none ∧ (c == '"') = false := by
  have hne : ∀ d : Char, d.isDigit = false → (c == d) = false := by
    intro d hd
    refine beq_eq_false_iff_ne.mpr ?_
    rintro rfl
    rw [h] at hd
    cases hd
  refine ⟨?_, ?_, hne '"' (by decide)⟩
  · rw [isSpacing, hne ' ' (by decide), hne '\t' (by decide), hne '\n' (by decide),
      hne '\r' (by decide)]
    rfl
  · unfold mark?
    split <;> first | rfl | cases h

/-- The value that a written number is read as. -/
def numberValue (d : Decimal) : Scalar := if d.whole then .int d.toInt else .float d.toBinary64

/-- A number is read as its value if it is not too long. -/
theorem lexesTo_chars (hfits : isTooLong limit (n.chars width) = false) :
    LexesTo limit (n.chars width) [.literal (numberValue n.toDecimal)] := by
  intro found rest hrest
  have hends := hrest.endsNumber
  have hshort : isTooLong limit (n.chars width ++ rest) = false := by
    have hnil : EndsNumber [] := fun _ hc => by cases hc
    rw [← hfits, isTooLong, isTooLong, wholeLength_chars hends, ← wholeLength_chars hnil,
      List.append_nil]
  have hnumber : scanNumber limit (n.chars width ++ rest)
      = some (numberValue n.toDecimal, rest) := by
    rw [scanNumber, hasLeadingZero_chars hends, hshort, if_neg (by decide),
      n.scanDecimal_chars width hends]
    rfl
  obtain ⟨d, ds, hds, hd⟩ := n.exists_whole_cons
  have hcons : ∃ c cs, n.chars width ++ rest = c :: cs ∧ isSpacing c = false ∧ mark? c = none ∧
      (c == '"') = false ∧ ∃ d ∈ (n.chars width ++ rest).take 2, d.isDigit = true := by
    rw [n.chars_append, hds]
    cases n.negative with
    | true => exact ⟨'-', _, rfl, rfl, rfl, rfl, d, by simp [signText], hd⟩
    | false =>
      obtain ⟨hspacing, hmark, hquote⟩ := digit_startsNoMark hd
      exact ⟨d, _, rfl, hspacing, hmark, hquote, d, by simp [signText], hd⟩
  obtain ⟨c, cs, hcs, hspacing, hmark, hquote, hdigit⟩ := hcons
  have hword := scanWord_eq_none hdigit
  rw [hcs] at hnumber hword ⊢
  refine tokensOnto_of_scanToken hspacing ?_ found
  simp only [scanToken, hmark, hquote, Bool.false_eq_true, if_false, hword, hnumber,
    Option.map_some]

theorem lexesTo_int (z : Int) (hfits : isTooLong limit (toString z).toList = false) :
    LexesTo limit (toString z).toList [.literal (.int z)] := by
  rw [← NumberText.chars_ofInt 0] at hfits ⊢
  have hvalue : numberValue (NumberText.ofInt z).toDecimal = .int z := by
    have hwhole : (NumberText.ofInt z).toDecimal.whole = true := rfl
    rw [numberValue, if_pos hwhole, NumberText.toInt_ofInt]
  rw [← hvalue]
  exact lexesTo_chars hfits

/-- An integer that is not negative is as long as its digits. -/
theorem isTooLong_int {z : Int} {most : Nat} (hmost : 0 < most) (hz : 0 ≤ z)
    (hlt : z < (10 ^ most : Nat)) : isTooLong (some most) (toString z).toList = false := by
  have hends : EndsNumber [] := fun _ hc => by cases hc
  have hneg : decide (z < 0) = false := by simpa using hz
  have hlength : wholeLength (toString z).toList = (Nat.toDigits 10 z.natAbs).length := by
    rw [← NumberText.chars_ofInt 0, ← List.append_nil (NumberText.chars _ _),
      wholeLength_chars hends]
    simp only [NumberText.ofInt, hneg]
    rfl
  have hle : (Nat.toDigits 10 z.natAbs).length ≤ most :=
    Nat.toDigits_length 10 z.natAbs most hmost (by omega)
  rw [isTooLong, Option.any_some, hlength, decide_eq_false_iff_not]
  omega

theorem isTooLong_escaped (most : Nat) (s : String) :
    isTooLong (some most) (escaped s) = false := by
  have hlength : wholeLength (escaped s) = 0 := rfl
  rw [isTooLong, Option.any_some, hlength, decide_eq_false_iff_not]
  omega

end Numbers

end SyntaxCorpus.Json
