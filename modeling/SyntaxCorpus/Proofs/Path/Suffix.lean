/-
SyntaxCorpus.Proofs.Path.Suffix — the ending of the last name of a path.

* `suffixOf_append`, `suffixOf_of_not_mem` — the ending of a name is what stands
  from its last point on, if there is something on both sides of this point.
* `EndsWith`, `suffixOf_eq_iff` — names with an ending.
* `HasLastName`, `getLast?_names_iff` — the last name of a written path: only
  slashes and points come after it.
-/
import Mathlib.Data.List.TakeWhile
import SyntaxCorpus.Proofs.Path.Basic

namespace SyntaxCorpus.Path

/-! ## Endings -/

section

variable {name ending : String}

/-- A name is a stem and its ending, which starts with the last point. -/
def EndsWith (name ending : String) : Prop :=
  ∃ stem rest : List Char, name.toList = stem ++ '.' :: rest ∧ stem ≠ [] ∧ '.' ∉ rest ∧
    ending = String.ofList ('.' :: rest)

theorem suffixOf_of_not_mem (h : '.' ∉ name.toList) : suffixOf name = "" := by
  have hdrop : name.toList.reverse.dropWhile (· != '.') = [] := by
    rw [List.dropWhile_eq_nil_iff]
    intro c hc
    rw [bne_iff_ne]
    rintro rfl
    exact h (List.mem_reverse.mp hc)
  rw [suffixOf, hdrop]

/-- A name is cut at its last point, if there is something on both sides of it. -/
theorem suffixOf_append {stem rest : List Char} (hname : name.toList = stem ++ '.' :: rest)
    (hrest : '.' ∉ rest) :
    suffixOf name = if stem = [] ∨ rest = [] then "" else String.ofList ('.' :: rest) := by
  have hall : ∀ c ∈ rest.reverse, (c != '.') = true := by
    intro c hc
    rw [bne_iff_ne]
    rintro rfl
    exact hrest (List.mem_reverse.mp hc)
  have hreversed : name.toList.reverse = rest.reverse ++ '.' :: stem.reverse := by
    rw [hname]
    simp
  have htake : (rest.reverse ++ '.' :: stem.reverse).takeWhile (· != '.') = rest.reverse := by
    rw [List.takeWhile_append_of_pos hall]
    simp
  have hdrop : (rest.reverse ++ '.' :: stem.reverse).dropWhile (· != '.')
      = '.' :: stem.reverse := by
    rw [List.dropWhile_append_of_pos hall]
    simp
  rw [suffixOf, hreversed, htake, hdrop]
  cases hstem : stem.reverse with
  | nil =>
    obtain rfl := List.reverse_eq_nil_iff.mp hstem
    simp
  | cons c cs =>
    have hne : stem ≠ [] := by
      rintro rfl
      cases hstem
    simp [hne]

theorem suffixOf_eq_iff (h : ending ≠ "") :
    suffixOf name = ending ↔ EndsWith name ending ∧ ending ≠ "." := by
  have hpoint : ∀ rest : List Char, String.ofList ('.' :: rest) = "." ↔ rest = [] := by
    intro rest
    rw [← String.toList_inj, String.toList_ofList]
    simp
  constructor
  · rintro rfl
    by_cases hmem : '.' ∈ name.toList
    · obtain ⟨stem, rest, hname, hrest⟩ := Text.exists_last_occurrence hmem
      have hsuffix := suffixOf_append hname hrest
      by_cases hends : stem = [] ∨ rest = []
      · rw [if_pos hends] at hsuffix
        exact (h hsuffix).elim
      · rw [if_neg hends] at hsuffix
        rw [not_or] at hends
        refine ⟨⟨stem, rest, hname, hends.1, hrest, hsuffix⟩, ?_⟩
        rw [hsuffix, Ne, hpoint]
        exact hends.2
    · exact (h (suffixOf_of_not_mem hmem)).elim
  · rintro ⟨⟨stem, rest, hname, hstem, hrest, rfl⟩, hne⟩
    rw [Ne, hpoint] at hne
    rw [suffixOf_append hname hrest, if_neg (not_or.mpr ⟨hstem, hne⟩)]

end

/-! ## Last names -/

/-- The last name of a written path. -/
def HasLastName (path name : String) : Prop :=
  ∃ before after, Text.pieces '/' path = before ++ name :: after ∧ name ≠ "" ∧ name ≠ "." ∧
    ∀ piece ∈ after, piece = "" ∨ piece = "."

theorem getLast?_names_iff {path name : String} :
    (ofText path).names.getLast? = some name ↔ HasLastName path name := by
  have hnames : (ofText path).names = (Text.pieces '/' path).filter isProperName := rfl
  rw [hnames, List.getLast?_eq_some_iff]
  constructor
  · rintro ⟨names, h⟩
    obtain ⟨before, rest, hpieces, -, hrest⟩ := List.filter_eq_append_iff.mp h
    obtain ⟨skipped, after, rfl, -, hname, hafter⟩ := List.filter_eq_cons_iff.mp hrest
    rw [List.filter_eq_nil_iff] at hafter
    refine ⟨before ++ skipped, after, by rw [hpieces, List.append_assoc],
      (isProperName_iff.mp hname).1, (isProperName_iff.mp hname).2, fun piece hpiece => ?_⟩
    have hskipped := hafter piece hpiece
    rw [isProperName_iff, not_and_or, not_not, not_not] at hskipped
    exact hskipped
  · rintro ⟨before, after, hpieces, hempty, hpoint, hafter⟩
    refine ⟨before.filter isProperName, ?_⟩
    have hskipped : after.filter isProperName = [] := by
      rw [List.filter_eq_nil_iff]
      intro piece hpiece
      rw [isProperName_iff, not_and_or, not_not, not_not]
      exact hafter piece hpiece
    rw [hpieces, List.filter_append,
      List.filter_cons_of_pos (isProperName_iff.mpr ⟨hempty, hpoint⟩), hskipped]

end SyntaxCorpus.Path
