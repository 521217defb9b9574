/-
SyntaxCorpus.Proofs.Text.CodePoints — when code points are a text.

* `FirstSurrogates` — the first surrogates of a sequence of code points.
* `ofCodePoints_cases` — code points are the characters of the text that is made of
  them, or the first surrogates among them are found.
-/
import SyntaxCorpus.Text.CodePoints

namespace SyntaxCorpus.Text

/-- The first surrogates of a sequence of code points, up to the next character: only
characters come before them. -/
def FirstSurrogates (ps : List CodePoint) (u : Unencodable) : Prop :=
  ∃ (cs : List Char) (run : List Surrogate) (rest : List CodePoint),
    ps = cs.map .inl ++ .inr u.first :: (run.map .inr ++ rest) ∧
      (∀ p ∈ rest.head?, p.isLeft = true) ∧ u.position = cs.length ∧ u.further = run.length

/-- The surrogates at the front of a sequence of code points, and what follows them. -/
theorem exists_surrogates_append (ps : List CodePoint) :
    ∃ (run : List Surrogate) (rest : List CodePoint), ps = run.map .inr ++ rest ∧
      (∀ p ∈ rest.head?, p.isLeft = true) ∧ (ps.takeWhile Sum.isRight).length = run.length := by
  induction ps with
  | nil => exact ⟨[], [], rfl, by simp, rfl⟩
  | cons p ps ih =>
    cases p with
    | inl c => exact ⟨[], .inl c :: ps, rfl, by simp, rfl⟩
    | inr s =>
      obtain ⟨run, rest, rfl, hrest, hlength⟩ := ih
      refine ⟨s :: run, rest, rfl, hrest, ?_⟩
      rw [List.takeWhile_cons_of_pos rfl, List.length_cons, hlength, List.length_cons]

theorem charactersFrom_cases (ps : List CodePoint) (position : Nat) :
    (∃ cs : List Char, ps = cs.map .inl ∧ charactersFrom position ps = .ok cs) ∨
      ∃ u, FirstSurrogates ps u ∧
        charactersFrom position ps = .error { u with position := position + u.position } := by
  induction ps generalizing position with
  | nil => exact .inl ⟨[], rfl, rfl⟩
  | cons p ps ih =>
    cases p with
    | inl c =>
      rcases ih (position + 1) with ⟨cs, rfl, hok⟩ | ⟨u, hu, herror⟩
      · refine .inl ⟨c :: cs, rfl, ?_⟩
        rw [charactersFrom, hok]
        rfl
      · obtain ⟨cs, run, rest, rfl, hrest, hposition, hfurther⟩ := hu
        refine .inr ⟨{ u with position := u.position + 1 },
          ⟨c :: cs, run, rest, rfl, hrest, congrArg (· + 1) hposition, hfurther⟩, ?_⟩
        rw [charactersFrom, herror, Nat.add_right_comm, Nat.add_assoc]
        rfl
    | inr s =>
      obtain ⟨run, rest, hps, hrest, hlength⟩ := exists_surrogates_append ps
      refine .inr ⟨⟨0, s, run.length⟩, ⟨[], run, rest, congrArg _ hps, hrest, rfl, rfl⟩, ?_⟩
      rw [charactersFrom, hlength]
      rfl

/-- Code points are the characters of a text, or the first surrogates among them are
found. -/
theorem ofCodePoints_cases (ps : List CodePoint) :
    (∃ cs : List Char, ps = cs.map .inl ∧ ofCodePoints ps = .ok (String.ofList cs)) ∨
      ∃ u, FirstSurrogates ps u ∧ ofCodePoints ps = .error u := by
  rcases charactersFrom_cases ps 0 with ⟨cs, hps, hok⟩ | ⟨u, hu, herror⟩
  · refine .inl ⟨cs, hps, ?_⟩
    rw [ofCodePoints, hok]
    rfl
  · refine .inr ⟨u, hu, ?_⟩
    rw [ofCodePoints, herror, Nat.zero_add]
    rfl

/-- There is a surrogate among the code points. -/
theorem FirstSurrogates.exists_mem {ps : List CodePoint} {u : Unencodable}
    (h : FirstSurrogates ps u) : ∃ s : Surrogate, .inr s ∈ ps := by
  obtain ⟨cs, run, rest, rfl, -⟩ := h
  exact ⟨u.first, List.mem_append_right _ (List.mem_cons_self ..)⟩

end SyntaxCorpus.Text
