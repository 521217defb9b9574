/-
SyntaxCorpus.Proofs.Number.Shortest — the shortest digits read back.

* `has_of_onGrid?` — what is taken on a grid is in the interval.
* `isSome_onGrid?_exact` — on the grid of 10⁻¹⁰⁷⁴ the value itself is a point,
  so the search from above finds a grid before its steps are used up.
* `shortest_covers` — the shortest decimal of a rank is in its interval.
-/
import SyntaxCorpus.Proofs.Number.Rounding

namespace SyntaxCorpus.Binary64

theorem has_of_onGrid? {i : Interval} {exponent : Int} {d : Nat}
    (h : onGrid? i exponent = some d) :
    i.has (d * (halfUnitsPerOne * 10 ^ exponent.toNat)) (10 ^ (-exponent).toNat) = true := by
  simp only [onGrid?, Nat.pow_eq] at h
  generalize halfUnitsPerOne * 10 ^ exponent.toNat = step at h ⊢
  generalize 10 ^ (-exponent).toNat = scale at h ⊢
  generalize i.value * scale / step = below at h
  cases hb : i.has (below * step) scale <;> cases ha : i.has ((below + 1) * step) scale <;>
    simp only [hb, ha] at h
  · cases h
  · obtain rfl := Option.some.inj h
    exact ha
  · obtain rfl := Option.some.inj h
    exact hb
  · split at h
    · obtain rfl := Option.some.inj h
      exact hb
    · split at h
      · obtain rfl := Option.some.inj h
        exact ha
      · obtain rfl := Option.some.inj h
        by_cases heven : (below % 2 == 0) = true
        · rw [if_pos heven]
          exact hb
        · rw [if_neg heven]
          exact ha

/-- A point at the value itself is taken. -/
theorem isSome_onGrid? {i : Interval} {exponent : Int} (hlow : i.low < i.value)
    (hhigh : i.value < i.high)
    (hdvd : halfUnitsPerOne * 10 ^ exponent.toNat ∣ i.value * 10 ^ (-exponent).toNat) :
    (onGrid? i exponent).isSome = true := by
  have hscale : 0 < 10 ^ (-exponent).toNat := Nat.pow_pos (by decide)
  simp only [onGrid?, Nat.pow_eq]
  generalize halfUnitsPerOne * 10 ^ exponent.toNat = step at hdvd ⊢
  generalize 10 ^ (-exponent).toNat = scale at hdvd hscale ⊢
  have hbelow : i.has (i.value * scale / step * step) scale = true := by
    rw [Nat.div_mul_cancel hdvd, Interval.has_iff]
    have h1 := Nat.mul_lt_mul_of_pos_right hlow hscale
    have h2 := Nat.mul_lt_mul_of_pos_right hhigh hscale
    omega
  cases ha : i.has ((i.value * scale / step + 1) * step) scale
  · simp only [hbelow, Option.isSome_some]
  · simp only [hbelow]
    split
    · rfl
    · split
      · rfl
      · rfl

theorem halfUnitsPerOne_eq : halfUnitsPerOne = 2 * 2 ^ 1074 := by
  decide +kernel

theorem halfUnitsPerOne_dvd (u : Nat) : halfUnitsPerOne * 10 ^ 0 ∣ 2 * u * 10 ^ 1074 := by
  rw [halfUnitsPerOne_eq]
  generalize 1074 = n
  refine ⟨u * 5 ^ n, ?_⟩
  rw [show 10 ^ n = 2 ^ n * 5 ^ n by rw [← Nat.mul_pow]]
  ring

theorem isSome_onGrid?_exact {rank : Nat} (hr : 0 < rank) :
    (onGrid? (intervalOf rank) (-1074)).isSome = true := by
  have h1 : units (rank - 1) < units rank := units_strictMono (by omega)
  have h2 := units_lt_succ rank
  have hzero : (-1074 : Int).toNat = 0 := rfl
  have hexp : (-(-1074 : Int)).toNat = 1074 := rfl
  refine isSome_onGrid? ?_ ?_ ?_
  · simp only [intervalOf]
    omega
  · simp only [intervalOf]
    omega
  · rw [hzero, hexp]
    exact halfUnitsPerOne_dvd (units rank)

theorem searchGrids_eq (i : Interval) : ∀ (fuel : Nat) (top : Int),
    (∃ k : Nat, k < fuel ∧ (onGrid? i (top - k)).isSome = true) →
    ∃ d e, searchGrids i top fuel = (d, e) ∧ onGrid? i e = some d
  | 0, _, ⟨k, hk, _⟩ => absurd hk (Nat.not_lt_zero k)
  | fuel + 1, top, ⟨k, hk, hsome⟩ => by
      rw [searchGrids]
      cases hgrid : onGrid? i top with
      | some d => exact ⟨d, top, rfl, hgrid⟩
      | none =>
        cases k with
        | zero =>
          rw [Int.natCast_zero, Int.sub_zero, hgrid] at hsome
          cases hsome
        | succ k =>
          refine searchGrids_eq i fuel (top - 1) ⟨k, by omega, ?_⟩
          rw [← hsome]
          congr 2
          omega

/-- The shortest decimal of a rank is in its interval. -/
theorem shortest_covers {rank : Nat} (hr : 0 < rank) :
    Covers rank (shortest rank).1 (shortest rank).2 := by
  obtain ⟨d, e, heq, hgrid⟩ := searchGrids_eq (intervalOf rank) 1400 309
    ⟨1383, by decide, isSome_onGrid?_exact hr⟩
  rw [shortest, heq]
  exact has_of_onGrid? hgrid

end SyntaxCorpus.Binary64
