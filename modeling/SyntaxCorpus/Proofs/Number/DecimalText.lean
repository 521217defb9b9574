/-
SyntaxCorpus.Proofs.Number.DecimalText — written numbers are read back.

* `NumberText` — the parts of a written number: sign, digits before and behind
  the point, exponent.
* `scanDecimal_chars` — the scanner finds these parts again, whatever follows
  the number, as long as it cannot continue it.
* `NumberText.ofInt` — the parts of an integer.
* `exists_numberText_write` — the parts of a finite floating-point number. The
  decimal that they make is the shortest one or, for a whole number, the same
  with one more zero, so it is read as the number.
-/
import SyntaxCorpus.Number.DecimalText
import SyntaxCorpus.Number.Layout
import SyntaxCorpus.Proofs.Number.Shortest

namespace SyntaxCorpus

/-! ## Digits -/

theorem natOfDigits_eq (cs : List Char) : natOfDigits cs = Nat.ofDigitChars 10 cs 0 := by
  rw [natOfDigits, Nat.ofDigitChars_eq_foldl]
  simp only [Nat.mul_comm]

theorem natOfDigits_append (xs ys : List Char) :
    natOfDigits (xs ++ ys) = natOfDigits xs * 10 ^ ys.length + natOfDigits ys := by
  rw [natOfDigits_eq, natOfDigits_eq, natOfDigits_eq, Nat.ofDigitChars_append,
    Nat.ofDigitChars_eq_ofDigitChars_zero, Nat.mul_comm]

theorem natOfDigits_replicate_zero (n : Nat) : natOfDigits (List.replicate n '0') = 0 := by
  rw [natOfDigits_eq, Nat.ofDigitChars_replicate_zero, Nat.mul_zero]

theorem natOfDigits_toDigits (n : Nat) : natOfDigits (Nat.toDigits 10 n) = n := by
  rw [natOfDigits_eq, Nat.ofDigitChars_ten_toDigits]

theorem isDigit_toDigits (n : Nat) : ∀ c ∈ Nat.toDigits 10 n, c.isDigit = true :=
  fun _ hc => Nat.isDigit_of_mem_toDigits (by decide) (by decide) hc

theorem isDigit_replicate_zero (n : Nat) : ∀ c ∈ List.replicate n '0', c.isDigit = true := by
  intro c hc
  rw [List.eq_of_mem_replicate hc]
  decide

/-- The digits of a positive number do not start with a zero. -/
theorem head?_toDigits_ne_zero {n : Nat} (hn : n ≠ 0) :
    (Nat.toDigits 10 n).head? ≠ some '0' := by
  induction n using Nat.strongRecOn with
  | ind n ih =>
    by_cases hlt : n < 10
    · rw [Nat.toDigits_of_lt_base hlt]
      revert hn
      clear ih
      revert n
      decide
    · rw [Nat.toDigits_of_base_le (by decide) (by omega), List.head?_append]
      have hhead := ih (n / 10) (by omega) (by omega)
      cases hdigits : Nat.toDigits 10 (n / 10) with
      | nil => exact absurd hdigits Nat.toDigits_ne_nil
      | cons d ds =>
        rw [hdigits] at hhead
        exact hhead

/-- What follows does not go on with a digit. -/
def StopsDigits (rest : List Char) : Prop := ∀ c ∈ rest.head?, c.isDigit = false

theorem takeWhile_isDigit {ds rest : List Char} (hds : ∀ c ∈ ds, c.isDigit = true)
    (hrest : StopsDigits rest) : (ds ++ rest).takeWhile Char.isDigit = ds := by
  rw [List.takeWhile_append_of_pos hds]
  cases rest with
  | nil => simp
  | cons c cs =>
    rw [List.takeWhile_cons_of_neg (by simp [hrest c rfl]), List.append_nil]

theorem spanDigits_append {ds rest : List Char} (hds : ∀ c ∈ ds, c.isDigit = true)
    (hrest : StopsDigits rest) : spanDigits (ds ++ rest) = (ds, rest) := by
  rw [spanDigits, takeWhile_isDigit hds hrest, List.dropWhile_append_of_pos hds]
  cases rest with
  | nil => rfl
  | cons c cs => rw [List.dropWhile_cons_of_neg (by simp [hrest c rfl])]

/-! ## Parts of a number -/

/-- What follows cannot continue a number. -/
def EndsNumber (rest : List Char) : Prop :=
  ∀ c ∈ rest.head?, c.isDigit = false ∧ c ≠ '.' ∧ c ≠ 'e' ∧ c ≠ 'E'

theorem EndsNumber.stopsDigits {rest : List Char} (h : EndsNumber rest) : StopsDigits rest :=
  fun c hc => (h c hc).1

/-- The sign of a number. -/
def signText (negative : Bool) : List Char := if negative then ['-'] else []

/-- A point and the digits behind it, if there are any. -/
def fractionText (fraction : List Char) : List Char :=
  if fraction = [] then [] else '.' :: fraction

/-- An exponent of at least `width` digits, if there is one. -/
def exponentPart (width : Nat) : Option Int → List Char
  | none => []
  | some e => FloatLayout.exponentText width e

theorem scanMinus_signText (negative : Bool) {ds : List Char}
    (hds : ∀ c ∈ ds.head?, c.isDigit = true) :
    scanMinus (signText negative ++ ds) = (negative, ds) := by
  cases negative with
  | true => rfl
  | false =>
    cases ds with
    | nil => rfl
    | cons d ds =>
      have hd : d ≠ '-' := by
        rintro rfl
        exact absurd (hds '-' rfl) (by decide)
      show scanMinus (d :: ds) = (false, d :: ds)
      unfold scanMinus
      split
      · rename_i heq
        exact absurd (List.cons.inj heq).1 hd
      · rfl

theorem scanFraction_fractionText {fraction rest : List Char}
    (hf : ∀ c ∈ fraction, c.isDigit = true) (hstop : StopsDigits rest)
    (hpoint : ∀ c ∈ rest.head?, c ≠ '.') :
    scanFraction (fractionText fraction ++ rest) = some (fraction, rest) := by
  by_cases hne : fraction = []
  · subst hne
    cases rest with
    | nil => rfl
    | cons c cs =>
      show scanFraction (c :: cs) = some ([], c :: cs)
      unfold scanFraction
      split
      · rename_i heq
        exact absurd (List.cons.inj heq).1 (hpoint c rfl)
      · rfl
  · rw [fractionText, if_neg hne, List.cons_append, scanFraction, spanDigits_append hf hstop]
    cases fraction with
    | nil => exact absurd rfl hne
    | cons d ds => rfl

theorem scanExponent_of_ends {rest : List Char} (h : EndsNumber rest) :
    scanExponent rest = some (none, rest) := by
  cases rest with
  | nil => rfl
  | cons c cs =>
    have hc := h c rfl
    rw [scanExponent, if_neg (by simp [hc])]

theorem scanExponent_exponentText (width : Nat) (e : Int) {rest : List Char}
    (h : StopsDigits rest) :
    scanExponent (FloatLayout.exponentText width e ++ rest) = some (some e, rest) := by
  have hall : ∀ c ∈ List.replicate (width - (Nat.toDigits 10 e.natAbs).length) '0'
      ++ Nat.toDigits 10 e.natAbs, c.isDigit = true := by
    intro c hc
    rcases List.mem_append.mp hc with hc | hc
    · exact isDigit_replicate_zero _ c hc
    · exact isDigit_toDigits _ c hc
  have hvalue : natOfDigits (List.replicate (width - (Nat.toDigits 10 e.natAbs).length) '0'
      ++ Nat.toDigits 10 e.natAbs) = e.natAbs := by
    rw [natOfDigits_append, natOfDigits_replicate_zero, natOfDigits_toDigits, Nat.zero_mul,
      Nat.zero_add]
  have hne : List.replicate (width - (Nat.toDigits 10 e.natAbs).length) '0'
      ++ Nat.toDigits 10 e.natAbs ≠ [] := by
    simp [Nat.toDigits_ne_nil]
  simp only [FloatLayout.exponentText, FloatLayout.digitsOf, List.cons_append]
  generalize List.replicate (width - (Nat.toDigits 10 e.natAbs).length) '0'
      ++ Nat.toDigits 10 e.natAbs = ds at hall hvalue hne
  have hsign : scanSign ((if e < 0 then '-' else '+') :: (ds ++ rest))
      = (decide (e < 0), ds ++ rest) := by
    by_cases he : e < 0
    · rw [if_pos he, decide_eq_true he]
      rfl
    · rw [if_neg he, decide_eq_false he]
      rfl
  rw [scanExponent, if_pos (by decide), hsign, spanDigits_append hall h]
  cases ds with
  | nil => exact absurd rfl hne
  | cons d ds =>
    simp only [hvalue, decide_eq_true_eq, Option.some.injEq, Prod.mk.injEq, and_true]
    split <;> omega

theorem exponentPart_head {width : Nat} {exponent : Option Int} {rest : List Char}
    (h : EndsNumber rest) : ∀ c ∈ (exponentPart width exponent ++ rest).head?,
      c.isDigit = false ∧ c ≠ '.' := by
  cases exponent with
  | none => exact fun c hc => ⟨(h c hc).1, (h c hc).2.1⟩
  | some e =>
    intro c hc
    obtain rfl : 'e' = c := Option.some.inj hc
    decide

theorem scanExponent_exponentPart (width : Nat) (exponent : Option Int) {rest : List Char}
    (h : EndsNumber rest) :
    scanExponent (exponentPart width exponent ++ rest) = some (exponent, rest) := by
  cases exponent with
  | none => exact scanExponent_of_ends h
  | some e => exact scanExponent_exponentText width e h.stopsDigits

/-- The parts of a written number. There are digits before the point, and the
first of them is a zero only if it is the only one. -/
structure NumberText where
  negative : Bool
  whole : List Char
  fraction : List Char
  exponent : Option Int
  whole_ne_nil : whole ≠ []
  whole_digits : ∀ c ∈ whole, c.isDigit = true
  fraction_digits : ∀ c ∈ fraction, c.isDigit = true
  whole_lead : whole = ['0'] ∨ whole.head? ≠ some '0'

namespace NumberText

/-- The number, written with an exponent of at least `width` digits. -/
def chars (width : Nat) (n : NumberText) : List Char :=
  signText n.negative ++ (n.whole ++ (fractionText n.fraction ++ exponentPart width n.exponent))

/-- The decimal that the parts make. -/
def toDecimal (n : NumberText) : Decimal where
  negative := n.negative
  digits := natOfDigits (n.whole ++ n.fraction)
  exponent := n.exponent.getD 0 - n.fraction.length
  whole := n.fraction.isEmpty && n.exponent.isNone

theorem chars_append (width : Nat) (n : NumberText) (rest : List Char) :
    n.chars width ++ rest = signText n.negative
      ++ (n.whole ++ (fractionText n.fraction ++ (exponentPart width n.exponent ++ rest))) := by
  simp only [chars, List.append_assoc]

theorem tail_stopsDigits (width : Nat) (n : NumberText) {rest : List Char} (h : EndsNumber rest) :
    StopsDigits (fractionText n.fraction ++ (exponentPart width n.exponent ++ rest)) := by
  unfold fractionText
  split
  · exact fun c hc => (exponentPart_head h c hc).1
  · intro c hc
    obtain rfl : '.' = c := Option.some.inj hc
    decide

theorem exists_whole_cons (n : NumberText) :
    ∃ d ds, n.whole = d :: ds ∧ d.isDigit = true := by
  cases hw : n.whole with
  | nil => exact absurd hw n.whole_ne_nil
  | cons d ds => exact ⟨d, ds, rfl, n.whole_digits d (by rw [hw]; exact List.mem_cons_self)⟩

theorem scanMinus_chars (width : Nat) (n : NumberText) (rest : List Char) :
    scanMinus (n.chars width ++ rest) = (n.negative,
      n.whole ++ (fractionText n.fraction ++ (exponentPart width n.exponent ++ rest))) := by
  obtain ⟨d, ds, hw, hd⟩ := n.exists_whole_cons
  rw [chars_append, scanMinus_signText]
  intro c hc
  rw [hw] at hc
  obtain rfl : d = c := Option.some.inj hc
  exact hd

/-- A written number is scanned to its parts. -/
theorem scanDecimal_chars (width : Nat) (n : NumberText) {rest : List Char} (h : EndsNumber rest) :
    scanDecimal (n.chars width ++ rest) = some (n.toDecimal, rest) := by
  have hfraction : scanFraction
      (fractionText n.fraction ++ (exponentPart width n.exponent ++ rest))
        = some (n.fraction, exponentPart width n.exponent ++ rest) :=
    scanFraction_fractionText n.fraction_digits (fun c hc => (exponentPart_head h c hc).1)
      (fun c hc => (exponentPart_head h c hc).2)
  unfold scanDecimal
  simp only [scanMinus_chars, spanDigits_append n.whole_digits (n.tail_stopsDigits width h)]
  cases hw : n.whole with
  | nil => exact absurd hw n.whole_ne_nil
  | cons d ds =>
    simp only [hfraction, Option.bind_some, scanExponent_exponentPart width n.exponent h,
      Option.map_some, toDecimal, hw]

/-! ## Integers -/

/-- The parts of an integer. -/
def ofInt (z : Int) : NumberText where
  negative := decide (z < 0)
  whole := Nat.toDigits 10 z.natAbs
  fraction := []
  exponent := none
  whole_ne_nil := Nat.toDigits_ne_nil
  whole_digits := isDigit_toDigits _
  fraction_digits := by simp
  whole_lead := by
    by_cases hz : z.natAbs = 0
    · exact .inl (by rw [hz, Nat.toDigits_zero])
    · exact .inr (head?_toDigits_ne_zero hz)

theorem chars_ofInt (width : Nat) (z : Int) : (ofInt z).chars width = (toString z).toList := by
  have hrest : fractionText [] ++ exponentPart width none = [] := rfl
  rw [Int.toString_eq_repr, Int.repr_eq_if]
  by_cases hz : 0 ≤ z
  · have hneg : decide (z < 0) = false := by simpa using hz
    have habs : z.natAbs = z.toNat := by omega
    simp only [chars, ofInt, hrest, List.append_nil]
    rw [if_pos hz, Nat.toList_repr, hneg, habs]
    rfl
  · have hneg : decide (z < 0) = true := by simpa using hz
    have habs : z.natAbs = (-z).toNat := by omega
    simp only [chars, ofInt, hrest, List.append_nil]
    rw [if_neg hz, String.toList_append, Nat.toList_repr, hneg, habs]
    rfl

theorem toInt_ofInt (z : Int) : (ofInt z).toDecimal.toInt = z := by
  simp only [Decimal.toInt, toDecimal, ofInt, List.append_nil, natOfDigits_toDigits,
    decide_eq_true_eq]
  split <;> omega

end NumberText

/-! ## Floating-point numbers -/

theorem natOfDigits_append_zeros (ds : List Char) (n : Nat) :
    natOfDigits (ds ++ List.replicate n '0') = natOfDigits ds * 10 ^ n := by
  rw [natOfDigits_append, natOfDigits_replicate_zero, List.length_replicate, Nat.add_zero]

theorem natOfDigits_zeros_append (n : Nat) (ds : List Char) :
    natOfDigits (List.replicate n '0' ++ ds) = natOfDigits ds := by
  rw [natOfDigits_append, natOfDigits_replicate_zero, Nat.zero_mul, Nat.zero_add]

/-- The parts make the decimal `digits · 10 ^ exponent`, or the same one with
`.0` behind it. -/
def NumberText.Writes (n : NumberText) (digits : Nat) (exponent : Int) : Prop :=
  (n.toDecimal.digits = digits ∧ n.toDecimal.exponent = exponent) ∨
    ∃ e : Nat, exponent = e ∧ n.toDecimal.digits = digits * 10 ^ (e + 1) ∧
      n.toDecimal.exponent = -1

open Binary64 in
theorem NumberText.Writes.toBinary64 {n : NumberText} {rank digits : Nat} {exponent : Int}
    (h : n.Writes digits exponent) (hr : 0 < rank) (hfin : rank < rankCount)
    (hcovers : Covers rank digits exponent) :
    n.toDecimal.toBinary64 = .finite n.negative ⟨rank, hfin⟩ := by
  rw [Decimal.toBinary64]
  rcases h with ⟨hdigits, hexp⟩ | ⟨e, rfl, hdigits, hexp⟩
  · rw [hdigits, hexp]
    exact ofDecimal_eq_finite hr hfin hcovers n.negative
  · rw [hdigits, hexp]
    exact ofDecimal_eq_finite hr hfin hcovers.mul_pow n.negative

/-- Parts without an exponent that make a decimal laid out with a point. -/
structure NumberText.IsWithPoint (n : NumberText) (negative : Bool) (ds : List Char)
    (exponent : Int) : Prop where
  negative_eq : n.negative = negative
  exponent_eq : n.exponent = none
  fraction_ne_nil : n.fraction ≠ []
  text : n.whole ++ '.' :: n.fraction = FloatLayout.withPoint ds (exponent + ds.length)
  writes : n.Writes (natOfDigits ds) exponent

section

variable {ds : List Char} {exponent : Int}

/-- A decimal below one has a zero before the point. -/
theorem exists_withPoint_small (hne : ds ≠ []) (hds : ∀ c ∈ ds, c.isDigit = true)
    (negative : Bool) (hsmall : exponent + ds.length ≤ 0) :
    ∃ n : NumberText, n.IsWithPoint negative ds exponent := by
  let zeros := List.replicate (-(exponent + ds.length)).toNat '0'
  have hdigits : ∀ c ∈ zeros ++ ds, c.isDigit = true := by
    intro c hc
    rcases List.mem_append.mp hc with hc | hc
    · exact isDigit_replicate_zero _ c hc
    · exact hds c hc
  refine ⟨⟨negative, ['0'], zeros ++ ds, none, by simp, isDigit_replicate_zero 1, hdigits,
    .inl rfl⟩, rfl, rfl, by simp [hne], ?_, .inl ⟨?_, ?_⟩⟩
  · rw [FloatLayout.withPoint, if_pos hsmall]
    rfl
  · show natOfDigits (List.replicate 1 '0' ++ (zeros ++ ds)) = natOfDigits ds
    rw [natOfDigits_zeros_append, natOfDigits_zeros_append]
  · simp only [NumberText.toDecimal, zeros, List.length_append, List.length_replicate,
      Option.getD_none]
    omega

/-- A decimal without a fraction has zeros up to the point and one behind
it. -/
theorem exists_withPoint_whole (hne : ds ≠ []) (hds : ∀ c ∈ ds, c.isDigit = true)
    (hlead : ds.head? ≠ some '0') (negative : Bool) (hwhole : 0 ≤ exponent) :
    ∃ n : NumberText, n.IsWithPoint negative ds exponent := by
  have hlen : 0 < ds.length := List.length_pos_iff.mpr hne
  have htake : ds.take (exponent + ds.length).toNat = ds := List.take_of_length_le (by omega)
  have hdrop : ds.drop (exponent + ds.length).toNat = [] := List.drop_of_length_le (by omega)
  have hzeros : (exponent + ds.length).toNat - ds.length = exponent.toNat := by omega
  have hdigits : ∀ c ∈ ds ++ List.replicate exponent.toNat '0', c.isDigit = true := by
    intro c hc
    rcases List.mem_append.mp hc with hc | hc
    · exact hds c hc
    · exact isDigit_replicate_zero _ c hc
  have hhead : (ds ++ List.replicate exponent.toNat '0').head? ≠ some '0' := by
    cases ds with
    | nil => exact absurd rfl hne
    | cons d ds => exact hlead
  refine ⟨⟨negative, ds ++ List.replicate exponent.toNat '0', ['0'], none, by simp [hne], hdigits,
    isDigit_replicate_zero 1, .inr hhead⟩, rfl, rfl, by simp, ?_,
    .inr ⟨exponent.toNat, by omega, ?_, rfl⟩⟩
  · simp only [FloatLayout.withPoint]
    rw [if_neg (by omega), htake, hdrop, hzeros]
    rfl
  · show natOfDigits (ds ++ List.replicate exponent.toNat '0' ++ List.replicate 1 '0') = _
    rw [natOfDigits_append_zeros, natOfDigits_append_zeros, Nat.mul_assoc, ← Nat.pow_add]

/-- The point of any other decimal stands between two of its digits. -/
theorem exists_withPoint_between (hne : ds ≠ []) (hds : ∀ c ∈ ds, c.isDigit = true)
    (hlead : ds.head? ≠ some '0') (negative : Bool) (hlarge : ¬ exponent + ds.length ≤ 0)
    (hfraction : ¬ 0 ≤ exponent) : ∃ n : NumberText, n.IsWithPoint negative ds exponent := by
  have hlt : (exponent + ds.length).toNat < ds.length := by omega
  have hzeros : (exponent + ds.length).toNat - ds.length = 0 := by omega
  have hfront : ds.take (exponent + ds.length).toNat ≠ [] := by
    intro hnil
    rw [List.take_eq_nil_iff] at hnil
    rcases hnil with hnil | hnil
    · omega
    · exact hne hnil
  have hback : ds.drop (exponent + ds.length).toNat ≠ [] := by simpa using hlt
  have hhead : (ds.take (exponent + ds.length).toNat).head? ≠ some '0' := by
    rw [List.head?_take, if_neg (by omega)]
    exact hlead
  refine ⟨⟨negative, ds.take (exponent + ds.length).toNat,
    ds.drop (exponent + ds.length).toNat, none, hfront, fun c hc => hds c (List.mem_of_mem_take hc),
    fun c hc => hds c (List.mem_of_mem_drop hc), .inr hhead⟩, rfl, rfl, hback, ?_, .inl ⟨?_, ?_⟩⟩
  · simp only [FloatLayout.withPoint]
    rw [if_neg hlarge, hzeros, List.replicate_zero, List.append_nil, if_neg (by simpa using hlt)]
  · simp only [NumberText.toDecimal, List.take_append_drop]
  · simp only [NumberText.toDecimal, List.length_drop, Option.getD_none]
    omega

theorem exists_withPoint (hne : ds ≠ []) (hds : ∀ c ∈ ds, c.isDigit = true)
    (hlead : ds.head? ≠ some '0') (negative : Bool) (exponent : Int) :
    ∃ n : NumberText, n.IsWithPoint negative ds exponent := by
  by_cases hsmall : exponent + ds.length ≤ 0
  · exact exists_withPoint_small hne hds negative hsmall
  by_cases hwhole : 0 ≤ exponent
  · exact exists_withPoint_whole hne hds hlead negative hwhole
  · exact exists_withPoint_between hne hds hlead negative hsmall hwhole

end

theorem exists_numberText_decimalText (layout : FloatLayout) {ds : List Char} (hne : ds ≠ [])
    (hds : ∀ c ∈ ds, c.isDigit = true) (hlead : ds.head? ≠ some '0') (negative : Bool)
    (exponent : Int) :
    ∃ n : NumberText, n.negative = negative ∧
      n.chars layout.exponentWidth = signText negative ++ layout.decimalText ds exponent ∧
      n.toDecimal.whole = false ∧ n.Writes (natOfDigits ds) exponent := by
  have hlead' : exponent + ds.length - 1 + 1 = exponent + ds.length := by omega
  unfold FloatLayout.decimalText
  dsimp only
  split
  · obtain ⟨n, rfl, hexp, hfraction, htext, hwrites⟩ :=
      exists_withPoint hne hds hlead negative exponent
    refine ⟨n, rfl, ?_, ?_, hwrites⟩
    · rw [NumberText.chars, hexp, fractionText, if_neg hfraction, hlead', ← htext]
      simp only [exponentPart, List.append_nil]
    · simp [NumberText.toDecimal, hfraction]
  · -- one digit before the point, and an exponent
    cases ds with
    | nil => exact absurd rfl hne
    | cons d ds =>
      refine ⟨⟨negative, [d], ds, some (exponent + (d :: ds).length - 1), by simp, ?_,
        fun c hc => hds c (List.mem_cons_of_mem d hc), .inr hlead⟩, rfl, ?_, ?_, .inl ⟨rfl, ?_⟩⟩
      · intro c hc
        rw [List.mem_singleton] at hc
        exact hds c (by simp [hc])
      · cases ds with
        | nil => rfl
        | cons d' ds => rfl
      · simp [NumberText.toDecimal]
      · simp only [NumberText.toDecimal, List.length_cons, Option.getD_some]
        omega

open Binary64 in
/-- A finite number is written in parts that make a decimal which is read as
the number. -/
theorem exists_numberText_write (layout : FloatLayout) (negative : Bool) (rank : Fin rankCount) :
    ∃ n : NumberText, (layout.write (.finite negative rank)).toList = n.chars layout.exponentWidth
      ∧ n.toDecimal.whole = false ∧ n.toDecimal.toBinary64 = .finite negative rank := by
  have hsign : ∀ cs : List Char,
      (if negative then '-' :: cs else cs) = signText negative ++ cs := by
    intro cs
    cases negative with
    | true => rfl
    | false => rfl
  simp only [FloatLayout.write, String.toList_ofList, hsign]
  by_cases hzero : rank.val = 0
  · refine ⟨⟨negative, ['0'], ['0'], none, by simp, isDigit_replicate_zero 1,
      isDigit_replicate_zero 1, .inl rfl⟩, ?_, rfl, ?_⟩
    · rw [if_pos hzero]
      rfl
    · have hrank : rank = ⟨0, by decide⟩ := Fin.ext hzero
      rw [hrank]
      rfl
  · have hr : 0 < rank.val := Nat.pos_of_ne_zero hzero
    have hcovers := shortest_covers hr
    have hlead := head?_toDigits_ne_zero (hcovers.digits_ne_zero hr)
    obtain ⟨n, rfl, htext, hwhole, hwrites⟩ := exists_numberText_decimalText layout
      Nat.toDigits_ne_nil (isDigit_toDigits _) hlead negative (shortest rank.val).2
    rw [natOfDigits_toDigits] at hwrites
    refine ⟨n, ?_, hwhole, hwrites.toBinary64 hr rank.isLt hcovers⟩
    rw [if_neg hzero, htext, FloatLayout.digitsOf]

end SyntaxCorpus
