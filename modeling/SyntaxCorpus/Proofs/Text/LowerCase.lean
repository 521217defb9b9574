/-
SyntaxCorpus.Proofs.Text.LowerCase — texts that are in lower case.

* `lower_eq_self` — a text in ASCII without capital letters is its own lower case.
-/
import SyntaxCorpus.Text.LowerCase

namespace SyntaxCorpus.Text

/-- A character of ASCII that is no capital letter. -/
def isLowAscii (c : Char) : Bool := c.toNat < 0x80 && !(0x41 ≤ c.toNat && c.toNat ≤ 0x5A)

/-- Besides the capital letters of ASCII, no letter of ASCII has another lower
case. -/
theorem first_of_mem_letterRuns : ∀ r ∈ letterRuns.toList,
    r.first = 0x41 ∧ r.last = 0x5A ∨ 0x80 ≤ r.first := by
  decide +kernel

theorem lowerChar_eq_self {c : Char} (h : isLowAscii c = true) : lowerChar c = c := by
  have hnone : letterRuns.find? (·.has c.toNat) = none := by
    refine Array.find?_eq_none.mpr fun r hr hhas => ?_
    simp only [LetterRun.has, Bool.and_eq_true, decide_eq_true_eq] at hhas
    simp only [isLowAscii, Bool.and_eq_true, Bool.not_eq_true', decide_eq_true_eq,
      Bool.and_eq_false_iff, decide_eq_false_iff_not] at h
    have hfirst := first_of_mem_letterRuns r (Array.mem_toList_iff.mpr hr)
    omega
  unfold lowerChar
  rw [hnone]

/-- A text without capital letters is its own lower case. -/
theorem lower_eq_self {s : String} (h : s.toList.all isLowAscii = true) : lower s = s := by
  have hchars : ∀ cs : List Char, cs.all isLowAscii = true →
      (cs.flatMap fun c => if c.toNat == 0x130 then ['i', Char.ofNat 0x307] else [lowerChar c])
        = cs := by
    intro cs
    induction cs with
    | nil => exact fun _ => rfl
    | cons c cs ih =>
      intro hall
      rw [List.all_cons, Bool.and_eq_true] at hall
      have hdotted : ¬ (c.toNat == 0x130) = true := by
        have hascii := hall.1
        simp only [isLowAscii, Bool.and_eq_true, decide_eq_true_eq] at hascii
        rw [beq_iff_eq]
        omega
      rw [List.flatMap_cons, ih hall.2, if_neg hdotted, lowerChar_eq_self hall.1]
      rfl
  rw [lower, hchars _ h, String.ofList_toList]

end SyntaxCorpus.Text
