/-
SyntaxCorpus.Proofs.Json.Text — written texts are read back.

* `scanTextOnto_escapeChar` — one character, however it is written, is read as
  itself. The escapes by a letter and those by four digits are finitely many,
  so each table is checked once.
* `scanText_flatMap_escapeChar` — a whole text, up to its closing quote.
* `notControl_escaped` — a written text has no control characters.
-/
import SyntaxCorpus.Json.Text

namespace SyntaxCorpus.Json

/-! ## Escapes -/

theorem find?_letterEscapes_some {c c' letter : Char}
    (h : letterEscapes.find? (·.1 == c) = some (c', letter)) :
    c' = c ∧ (c', letter) ∈ letterEscapes := by
  have heq := List.find?_some h
  exact ⟨eq_of_beq heq, List.mem_of_find?_eq_some h⟩

theorem find?_letterEscapes_none {c : Char} (h : letterEscapes.find? (·.1 == c) = none) :
    c ≠ '"' ∧ c ≠ '\\' := by
  rw [List.find?_eq_none] at h
  constructor
  · rintro rfl
    exact h ('"', '"') (by decide) (by decide)
  · rintro rfl
    exact h ('\\', '\\') (by decide) (by decide)

/-- The letters of the escapes are different, and none of them starts another
kind of escape. -/
theorem scanEscape_nil_letter : ∀ e ∈ letterEscapes,
    e.2 ≠ 'u' ∧ e.2 ≠ '/' ∧ letterEscapes.find? (·.2 == e.2) = some e := by
  decide

theorem scanEscape_letter {c letter : Char} (h : (c, letter) ∈ letterEscapes)
    (rest : List Char) : scanEscape (letter :: rest) = some (c, rest) := by
  obtain ⟨hu, hsolidus, hfind⟩ := scanEscape_nil_letter _ h
  unfold scanEscape
  split
  · rename_i heq
    exact absurd (List.cons.inj heq).1 hu
  · rename_i heq
    exact absurd (List.cons.inj heq).1 hsolidus
  · rename_i heq
    obtain ⟨rfl, rfl⟩ := List.cons.inj heq
    rw [hfind]
    rfl
  · rename_i heq
    cases heq

theorem scanHex4_append {cs rest : List Char} {n : Nat} (h : scanHex4 cs = some (n, rest))
    (more : List Char) : scanHex4 (cs ++ more) = some (n, rest ++ more) := by
  unfold scanHex4 at h
  split at h
  · simp only [Option.bind_eq_bind, Option.bind_eq_some_iff, Option.pure_def, Option.some.injEq,
      Prod.mk.injEq] at h
    obtain ⟨a, ha, b, hb, c, hc, d, hd, rfl, rfl⟩ := h
    simp only [List.cons_append, scanHex4, ha, hb, hc, hd]
    rfl
  · cases h

/-- The control characters are written in four digits and are no
surrogates. -/
theorem scanHex4_hexPadded : ∀ n < 0x20,
    scanHex4 (Text.hexPadded 4 n).toList = some (n, []) ∧
      isHighSurrogate n = false ∧ isLowSurrogate n = false := by
  decide

theorem scanEscape_hexPadded {c : Char} (h : c.toNat < 0x20) (rest : List Char) :
    scanEscape ('u' :: ((Text.hexPadded 4 c.toNat).toList ++ rest)) = some (c, rest) := by
  obtain ⟨hscan, hhigh, hlow⟩ := scanHex4_hexPadded c.toNat h
  have hscan' := scanHex4_append hscan rest
  rw [List.nil_append] at hscan'
  simp only [scanEscape, scanUnits, hscan', hhigh, hlow, Bool.false_eq_true, if_false,
    Char.ofNat_toNat]

/-! ## Texts -/

theorem scanTextOnto_of_scanEscape {cs rest : List Char} {c : Char}
    (h : scanEscape cs = some (c, rest)) (found : List Char) :
    scanTextOnto found ('\\' :: cs) = scanTextOnto (c :: found) rest := by
  rw [scanTextOnto, if_neg (by decide), if_pos (by decide)]
  split
  · rename_i heq
    rw [h] at heq
    cases heq
    rfl
  · rename_i heq
    rw [h] at heq
    cases heq

/-- A character is read as itself, however it is written. -/
theorem scanTextOnto_escapeChar (found : List Char) (c : Char) (rest : List Char) :
    scanTextOnto found (escapeChar c ++ rest) = scanTextOnto (c :: found) rest := by
  unfold escapeChar
  split
  · rename_i c' letter hfind
    obtain ⟨rfl, hmem⟩ := find?_letterEscapes_some hfind
    exact scanTextOnto_of_scanEscape (scanEscape_letter hmem rest) found
  · rename_i hfind
    obtain ⟨hquote, hbackslash⟩ := find?_letterEscapes_none hfind
    split
    · rename_i hcontrol
      exact scanTextOnto_of_scanEscape (scanEscape_hexPadded hcontrol rest) found
    · rename_i hcontrol
      rw [List.singleton_append, scanTextOnto, if_neg (by simpa using hquote),
        if_neg (by simpa using hbackslash), if_neg hcontrol]

theorem scanTextOnto_flatMap_escapeChar : ∀ (cs found rest : List Char),
    scanTextOnto found (cs.flatMap escapeChar ++ '"' :: rest) = some (found.reverse ++ cs, rest)
  | [], found, rest => by
      rw [List.flatMap_nil, List.nil_append, scanTextOnto, if_pos (by decide), List.append_nil]
  | c :: cs, found, rest => by
      rw [List.flatMap_cons, List.append_assoc, scanTextOnto_escapeChar,
        scanTextOnto_flatMap_escapeChar cs (c :: found) rest, List.reverse_cons, List.append_assoc,
        List.singleton_append]

theorem scanText_flatMap_escapeChar (cs rest : List Char) :
    scanText (cs.flatMap escapeChar ++ '"' :: rest) = some (cs, rest) :=
  scanTextOnto_flatMap_escapeChar cs [] rest

/-! ## No control characters -/

/-- A character that may stand in a single line. -/
def NotControl (c : Char) : Prop := 0x20 ≤ c.toNat

instance (c : Char) : Decidable (NotControl c) := inferInstanceAs (Decidable (_ ≤ _))

theorem notControl_letterEscapes : ∀ e ∈ letterEscapes, NotControl e.2 := by
  decide

theorem notControl_of_all {cs : List Char} (h : (cs.all fun c => decide (NotControl c)) = true) :
    ∀ c ∈ cs, NotControl c :=
  fun c hc => of_decide_eq_true (List.all_eq_true.mp h c hc)

theorem notControl_hexPadded : ∀ n < 0x20, ∀ c ∈ (Text.hexPadded 4 n).toList, NotControl c := by
  have hall : ∀ n < 0x20,
      ((Text.hexPadded 4 n).toList.all fun c => decide (NotControl c)) = true := by decide
  exact fun n hn => notControl_of_all (hall n hn)

theorem notControl_escapeChar (c : Char) : ∀ d ∈ escapeChar c, NotControl d := by
  intro d hd
  unfold escapeChar at hd
  split at hd
  · rename_i c' letter hfind
    rw [List.mem_cons, List.mem_singleton] at hd
    rcases hd with rfl | rfl
    · decide
    · exact notControl_letterEscapes _ (List.mem_of_find?_eq_some hfind)
  · split at hd
    · rename_i hcontrol
      rw [List.mem_cons, List.mem_cons] at hd
      rcases hd with rfl | rfl | hd
      · decide
      · decide
      · exact notControl_hexPadded _ hcontrol d hd
    · rename_i hcontrol
      rw [List.mem_singleton] at hd
      rw [hd]
      exact Nat.le_of_not_lt hcontrol

theorem notControl_escaped (s : String) : ∀ c ∈ escaped s, NotControl c := by
  intro c hc
  rw [escaped, List.cons_append, List.mem_cons, List.mem_append, List.mem_flatMap,
    List.mem_singleton] at hc
  rcases hc with rfl | ⟨d, -, hd⟩ | rfl
  · decide
  · exact notControl_escapeChar d c hd
  · decide

end SyntaxCorpus.Json
