/-
SyntaxCorpus.Proofs.Number.Rounding — rounding to the nearest floating-point
number.

* `units_strictMono` — the values of the ranks ascend.
* `rankBelow_eq_iff` — `rankBelow` finds the last rank that is not above a
  value.
* `nearestRank_eq` — every fraction in the interval of a rank rounds to it; the
  ends of the interval do so exactly when the rank is even.
* `ofDecimal_eq_finite` — so does every decimal in the interval. The two
  shortcuts for very large and very small decimals are not taken there.
-/
import Mathlib.Order.Monotone.Basic
import Mathlib.Tactic.Ring
import SyntaxCorpus.Number.Shortest

namespace SyntaxCorpus.Binary64

/-! ## The values of ranks -/

theorem units_eq (r : Nat) : units r =
    if r < 2 ^ 52 then r else (2 ^ 52 + r % 2 ^ 52) * 2 ^ (r / 2 ^ 52 - 1) := rfl

/-- Above the first block, a block and a place in it give the value. The place
may be the first one of the next block. -/
theorem units_block (q m : Nat) (hm : m ≤ 2 ^ 52) :
    units ((q + 1) * 2 ^ 52 + m) = (2 ^ 52 + m) * 2 ^ q := by
  have hlow : ¬ (q + 1) * 2 ^ 52 + m < 2 ^ 52 := by omega
  rw [units_eq, if_neg hlow]
  rcases Nat.lt_or_eq_of_le hm with hlt | rfl
  · have hmod : ((q + 1) * 2 ^ 52 + m) % 2 ^ 52 = m := by omega
    have hdiv : ((q + 1) * 2 ^ 52 + m) / 2 ^ 52 = q + 1 := by omega
    rw [hmod, hdiv, Nat.add_sub_cancel]
  · have hmod : ((q + 1) * 2 ^ 52 + 2 ^ 52) % 2 ^ 52 = 0 := by omega
    have hdiv : ((q + 1) * 2 ^ 52 + 2 ^ 52) / 2 ^ 52 = q + 2 := by omega
    rw [hmod, hdiv, show q + 2 - 1 = q + 1 by omega, Nat.pow_succ]
    omega

/-- Up to the end of the second block, the ranks count the multiples. -/
theorem units_of_le {r : Nat} (hr : r ≤ 2 ^ 53) : units r = r := by
  by_cases h : r < 2 ^ 52
  · rw [units_eq, if_pos h]
  · have heq : r = (0 + 1) * 2 ^ 52 + (r - 2 ^ 52) := by omega
    rw [heq, units_block 0 (r - 2 ^ 52) (by omega), Nat.pow_zero]
    omega

theorem units_lt_succ (r : Nat) : units r < units (r + 1) := by
  by_cases h : r < 2 ^ 52
  · rw [units_of_le (by omega), units_of_le (by omega)]
    omega
  · have hq : r = (r / 2 ^ 52 - 1 + 1) * 2 ^ 52 + r % 2 ^ 52 := by omega
    generalize r / 2 ^ 52 - 1 = q at hq
    have hm : r % 2 ^ 52 < 2 ^ 52 := Nat.mod_lt _ (by decide)
    generalize r % 2 ^ 52 = m at hq hm
    rw [hq, Nat.add_assoc, units_block q m (by omega), units_block q (m + 1) (by omega)]
    exact Nat.mul_lt_mul_of_pos_right (by omega) (Nat.two_pow_pos q)

theorem units_strictMono : StrictMono units := strictMono_nat_of_lt_succ units_lt_succ

theorem units_pos {r : Nat} (hr : 0 < r) : 0 < units r := by
  have := units_strictMono hr
  omega

/-- The value of the rank after the last finite one. -/
theorem units_rankCount : units rankCount = 2 ^ 2098 := by
  have heq : rankCount = (2045 + 1) * 2 ^ 52 + 2 ^ 52 := by decide
  have hsum : ∀ n, (2 ^ 52 + 2 ^ 52) * 2 ^ n = 2 ^ (53 + n) := by
    intro n
    rw [Nat.pow_add, show 2 ^ 52 + 2 ^ 52 = 2 ^ 53 by decide]
  rw [heq, units_block 2045 (2 ^ 52) (Nat.le_refl _), hsum]

/-! ## The rank below a value -/

theorem rankBelow_eq (u : Nat) : rankBelow u =
    if u < 2 ^ 53 then u
    else (u.log2 - 52 + 1) * 2 ^ 52 + (u / 2 ^ (u.log2 - 52) - 2 ^ 52) := rfl

theorem units_rankBelow_le (u : Nat) : units (rankBelow u) ≤ u ∧ u < units (rankBelow u + 1) := by
  rw [rankBelow_eq]
  by_cases h : u < 2 ^ 53
  · rw [if_pos h, units_of_le (by omega), units_of_le (by omega)]
    omega
  · have hne : u ≠ 0 := by omega
    have hlog : 53 ≤ u.log2 := (Nat.le_log2 hne).mpr (by omega)
    have hle : 2 ^ u.log2 ≤ u := Nat.log2_self_le hne
    have hlt : u < 2 ^ (u.log2 + 1) := Nat.lt_log2_self
    obtain ⟨step, hstep⟩ : ∃ step, u.log2 = step + 52 := ⟨u.log2 - 52, by omega⟩
    rw [hstep] at hle hlt
    rw [if_neg h]
    simp only [hstep, Nat.add_sub_cancel]
    have hpos : 0 < 2 ^ step := Nat.two_pow_pos step
    have hlow : 2 ^ 52 ≤ u / 2 ^ step := by
      rw [Nat.le_div_iff_mul_le hpos, ← Nat.pow_add, Nat.add_comm]
      exact hle
    have hhigh : u / 2 ^ step < 2 ^ 53 := by
      rw [Nat.div_lt_iff_lt_mul hpos, ← Nat.pow_add]
      exact Nat.lt_of_lt_of_le hlt (Nat.pow_le_pow_right (by decide) (by omega))
    generalize hm : u / 2 ^ step - 2 ^ 52 = m
    have hdiv : u / 2 ^ step = 2 ^ 52 + m := by omega
    rw [Nat.add_assoc _ m 1, units_block step m (by omega), units_block step (m + 1) (by omega),
      ← Nat.add_assoc, ← hdiv]
    exact ⟨Nat.div_mul_le_self u _, Nat.lt_mul_of_div_lt (Nat.lt_succ_self _) hpos⟩

theorem rankBelow_eq_iff (u r : Nat) : rankBelow u = r ↔ units r ≤ u ∧ u < units (r + 1) := by
  constructor
  · rintro rfl
    exact units_rankBelow_le u
  · rintro ⟨hle, hlt⟩
    have ⟨hle', hlt'⟩ := units_rankBelow_le u
    have h1 : rankBelow u < r + 1 := units_strictMono.lt_iff_lt.mp (Nat.lt_of_le_of_lt hle' hlt)
    have h2 : r < rankBelow u + 1 := units_strictMono.lt_iff_lt.mp (Nat.lt_of_le_of_lt hle hlt')
    omega

/-! ## Fractions in the interval of a rank -/

/-- What it means to be in an interval: between the ends, which count only if
the interval is closed. -/
theorem Interval.has_iff (i : Interval) (point scale : Nat) :
    i.has point scale = true ↔ i.low * scale ≤ point ∧ point ≤ i.high * scale ∧
      (i.closed = false → i.low * scale < point ∧ point < i.high * scale) := by
  unfold Interval.has
  cases i.closed with
  | true => simp
  | false =>
    simp only [Bool.false_eq_true, if_false, Bool.and_eq_true, decide_eq_true_eq, true_implies]
    omega

theorem Interval.has_mul (i : Interval) (point scale : Nat) {c : Nat} (hc : 0 < c) :
    i.has (point * c) (scale * c) = i.has point scale := by
  refine Bool.eq_iff_iff.mpr ?_
  rw [Interval.has_iff, Interval.has_iff, ← Nat.mul_assoc, ← Nat.mul_assoc]
  simp only [Nat.mul_le_mul_right_iff hc, Nat.mul_lt_mul_right hc]

theorem nearestRank_eq {num den r : Nat} (hden : 0 < den) (hr : 0 < r)
    (h : (intervalOf r).has (2 * num) den = true) : nearestRank num den = r := by
  rw [Interval.has_iff] at h
  obtain ⟨hlow, hhigh, hopen⟩ := h
  simp only [intervalOf, beq_eq_false_iff_ne, Nat.add_mul] at hlow hhigh hopen
  have hsucc : r - 1 + 1 = r := by omega
  have h1 : units (r - 1) * den < units r * den :=
    Nat.mul_lt_mul_of_pos_right (units_strictMono (by omega)) hden
  have h2 : units r * den < units (r + 1) * den :=
    Nat.mul_lt_mul_of_pos_right (units_lt_succ r) hden
  unfold nearestRank
  by_cases hside : units r * den ≤ num
  · have hbelow : rankBelow (num / den) = r := by
      refine (rankBelow_eq_iff _ _).mpr ⟨(Nat.le_div_iff_mul_le hden).mpr hside, ?_⟩
      exact (Nat.div_lt_iff_lt_mul hden).mpr (by omega)
    simp only [hbelow, Nat.add_mul]
    by_cases hlt : 2 * num < units r * den + units (r + 1) * den
    · rw [if_pos hlt]
    · have heven : r % 2 = 0 := by
        by_cases he : r % 2 = 0
        · exact he
        · have := hopen he
          omega
      rw [if_neg hlt, if_neg (by omega), heven]
      rfl
  · have hbelow : rankBelow (num / den) = r - 1 := by
      refine (rankBelow_eq_iff _ _).mpr ⟨(Nat.le_div_iff_mul_le hden).mpr (by omega), ?_⟩
      rw [hsucc]
      exact (Nat.div_lt_iff_lt_mul hden).mpr (by omega)
    simp only [hbelow, hsucc, Nat.add_mul]
    by_cases hlt : units (r - 1) * den + units r * den < 2 * num
    · rw [if_neg (by omega), if_pos hlt]
    · have hodd : ¬ (r - 1) % 2 = 0 := by
        intro he
        have := hopen (by omega)
        omega
      rw [if_neg (by omega), if_neg hlt, if_neg (by simpa using hodd)]

/-! ## Decimals in the interval of a rank -/

/-- Whether `digits · 10 ^ exponent` is in the interval of a rank. -/
def Covers (rank digits : Nat) (exponent : Int) : Prop :=
  (intervalOf rank).has (digits * (halfUnitsPerOne * 10 ^ exponent.toNat))
    (10 ^ (-exponent).toNat) = true

theorem halfUnitsPerOne_lt : halfUnitsPerOne < 10 ^ 325 := by
  decide +kernel

theorem two_mul_units_rankCount_lt : 2 * units rankCount < halfUnitsPerOne * 10 ^ 309 := by
  rw [units_rankCount]
  decide +kernel

theorem lt_pow_digitCount {n : Nat} (hn : n ≠ 0) : n < 10 ^ digitCount n := by
  rw [digitCount, if_neg hn]
  exact (Nat.length_toDigits_le_iff (by decide) Nat.length_toDigits_pos).mp (Nat.le_refl _)

theorem pow_digitCount_le {n : Nat} (hn : n ≠ 0) : 10 ^ (digitCount n - 1) ≤ n := by
  rw [digitCount, if_neg hn]
  by_cases hone : (Nat.toDigits 10 n).length = 1
  · rw [hone]
    exact Nat.pos_of_ne_zero hn
  · have hpos : 0 < (Nat.toDigits 10 n).length := Nat.length_toDigits_pos
    refine Nat.le_of_not_lt fun hlt => ?_
    have := (Nat.length_toDigits_le_iff (by decide) (by omega)).mpr hlt
    omega

theorem Covers.digits_ne_zero {rank digits : Nat} {exponent : Int} (hr : 0 < rank)
    (h : Covers rank digits exponent) : digits ≠ 0 := by
  rintro rfl
  obtain ⟨hlow, -, -⟩ := (Interval.has_iff _ _ _).mp h
  have hpos : 0 < (intervalOf rank).low * 10 ^ (-exponent).toNat :=
    Nat.mul_pos (by have := units_pos hr; simp only [intervalOf]; omega)
      (Nat.pow_pos (by decide))
  omega

theorem lt_add_of_pow_le {s t k m half digits : Nat} (h : 10 ^ s ≤ digits * (half * 10 ^ t))
    (hd : digits < 10 ^ k) (hhalf : half < 10 ^ m) : s < k + (m + t) := by
  have hlt : 10 ^ s < 10 ^ (k + (m + t)) := by
    calc 10 ^ s
        ≤ digits * (half * 10 ^ t) := h
      _ < 10 ^ k * (10 ^ m * 10 ^ t) :=
          Nat.mul_lt_mul_of_lt_of_le hd (Nat.mul_le_mul_right _ (Nat.le_of_lt hhalf))
            (Nat.mul_pos (Nat.pow_pos (by decide)) (Nat.pow_pos (by decide)))
      _ = 10 ^ (k + (m + t)) := by rw [Nat.pow_add, Nat.pow_add]
  exact (Nat.pow_lt_pow_iff_right (by decide)).mp hlt

theorem add_lt_of_mul_pow_le {s t k m half high digits : Nat}
    (h : digits * (half * 10 ^ t) ≤ high * 10 ^ s) (hd : 10 ^ k ≤ digits)
    (hhigh : high < half * 10 ^ m) : k + t < m + s := by
  have hlt : half * 10 ^ (k + t) < half * 10 ^ (m + s) := by
    calc half * 10 ^ (k + t)
        = 10 ^ k * (half * 10 ^ t) := by rw [Nat.pow_add, Nat.mul_left_comm]
      _ ≤ digits * (half * 10 ^ t) := Nat.mul_le_mul_right _ hd
      _ ≤ high * 10 ^ s := h
      _ < half * 10 ^ m * 10 ^ s := Nat.mul_lt_mul_of_pos_right hhigh (Nat.pow_pos (by decide))
      _ = half * 10 ^ (m + s) := by rw [Nat.pow_add, Nat.mul_assoc]
  exact (Nat.pow_lt_pow_iff_right (by decide)).mp (Nat.lt_of_mul_lt_mul_left hlt)

/-- The decimals in the interval of a finite rank are not so small or large
that `ofDecimal` would not look at them closely. -/
theorem Covers.order_bounds {rank digits : Nat} {exponent : Int} (hr : 0 < rank)
    (hfin : rank < rankCount) (h : Covers rank digits exponent) :
    -325 ≤ exponent + digitCount digits ∧ exponent + digitCount digits < 311 := by
  have hd := h.digits_ne_zero hr
  obtain ⟨hlow, hhigh, -⟩ := (Interval.has_iff _ _ _).mp h
  have hlowpos : 1 ≤ (intervalOf rank).low := by
    have := units_pos hr
    simp only [intervalOf]
    omega
  have hhighlt : (intervalOf rank).high < halfUnitsPerOne * 10 ^ 309 := by
    have h1 := units_strictMono.monotone (show rank ≤ rankCount by omega)
    have h2 := units_strictMono.monotone (show rank + 1 ≤ rankCount by omega)
    have h3 := two_mul_units_rankCount_lt
    simp only [intervalOf]
    omega
  have hsmall := lt_add_of_pow_le (Nat.le_trans (Nat.le_mul_of_pos_left _ hlowpos) hlow)
    (lt_pow_digitCount hd) halfUnitsPerOne_lt
  have hlarge := add_lt_of_mul_pow_le hhigh (pow_digitCount_le hd) hhighlt
  omega

theorem ofDecimal_eq (negative : Bool) (digits : Nat) (exponent : Int) :
    ofDecimal negative digits exponent =
      if digits = 0 || exponent + digitCount digits < -325 then ofRank negative 0
      else if 311 ≤ exponent + digitCount digits then .infinite negative
      else if 0 ≤ exponent then
        ofRank negative (nearestRank (digits * 10 ^ exponent.toNat * unitsPerOne) 1)
      else ofRank negative (nearestRank (digits * unitsPerOne) (10 ^ (-exponent).toNat)) := rfl

/-- Every decimal in the interval of a finite rank is read as the number of
that rank. -/
theorem ofDecimal_eq_finite {rank digits : Nat} {exponent : Int} (hr : 0 < rank)
    (hfin : rank < rankCount) (h : Covers rank digits exponent) (negative : Bool) :
    ofDecimal negative digits exponent = .finite negative ⟨rank, hfin⟩ := by
  have hd := h.digits_ne_zero hr
  obtain ⟨hsmall, hlarge⟩ := h.order_bounds hr hfin
  have hrank : ofRank negative rank = .finite negative ⟨rank, hfin⟩ := by
    rw [ofRank, dif_pos hfin]
  rw [ofDecimal_eq]
  simp only [Bool.or_eq_true, decide_eq_true_eq]
  rw [if_neg (by omega), if_neg (by omega)]
  by_cases hexp : 0 ≤ exponent
  · have hone : 10 ^ (-exponent).toNat = 1 := by
      rw [show (-exponent).toNat = 0 by omega, Nat.pow_zero]
    have hpoint : digits * (halfUnitsPerOne * 10 ^ exponent.toNat)
        = 2 * (digits * 10 ^ exponent.toNat * unitsPerOne) := by
      rw [halfUnitsPerOne]
      ring
    rw [Covers, hone, hpoint] at h
    have hnearest : nearestRank (digits * 10 ^ exponent.toNat * unitsPerOne) 1 = rank :=
      nearestRank_eq Nat.one_pos hr h
    rw [if_pos hexp, hnearest, hrank]
  · have hone : 10 ^ exponent.toNat = 1 := by rw [show exponent.toNat = 0 by omega, Nat.pow_zero]
    have hpoint : digits * (halfUnitsPerOne * 1) = 2 * (digits * unitsPerOne) := by
      rw [halfUnitsPerOne]
      ring
    rw [Covers, hone, hpoint] at h
    have hnearest : nearestRank (digits * unitsPerOne) (10 ^ (-exponent).toNat) = rank :=
      nearestRank_eq (Nat.pow_pos (by decide)) hr h
    rw [if_neg hexp, hnearest, hrank]

/-- A decimal stays in the interval if its point is moved behind one more zero
than it has. -/
theorem Covers.mul_pow {rank digits e : Nat} (h : Covers rank digits e) :
    Covers rank (digits * 10 ^ (e + 1)) (-1) := by
  have hneg : (-(e : Int)).toNat = 0 := by omega
  have hpoint : digits * 10 ^ (e + 1) * (halfUnitsPerOne * 10 ^ 0)
      = digits * (halfUnitsPerOne * 10 ^ e) * 10 := by
    rw [Nat.pow_succ]
    ring
  rw [Covers, Int.toNat_natCast, hneg, Nat.pow_zero] at h
  rw [Covers, show (-1 : Int).toNat = 0 from rfl, show (-(-1 : Int)).toNat = 1 from rfl, hpoint,
    ← h]
  exact Interval.has_mul _ _ 1 (by decide)

end SyntaxCorpus.Binary64
