/-
SyntaxCorpus.Proofs.Record.ReadBack — the document of a tree gives back its
records.

The values that grammars give are text or absent, and these come back as they
are. The only numbers in such a document are those of nodes, so a reader that
limits the length of numbers takes it, unless the tree has more nodes than such a
number can count.

* `ReadsBack` — a text is a document of these records.
* `fits_flatten` — no number in the document of a tree is longer than its size.
* `readsBack_line` — a line with the document of a tree gives back its records,
  as text and as bytes.
-/
import SyntaxCorpus.Proofs.Record.Document
import SyntaxCorpus.Proofs.Record.RoundTrip
import SyntaxCorpus.Proofs.Text.Utf8

namespace SyntaxCorpus.Document

/-- A text is a document of these records. -/
structure ReadsBack (text : String) (records : List Record) : Prop where
  /-- For a reader of numbers of any length. -/
  unlimited : readWith none text = .ok records
  limited : records.length ≤ 10 ^ maxIntegerLength → read text = .ok records
  bytes : records.length ≤ 10 ^ maxIntegerLength → readBytes text.toUTF8 = .ok records

variable {t : Tree Label}

theorem documented_of_isPlain {r : Record} (h : Label.isPlain ⟨r.type, r.value⟩ = true) :
    r.documented = r := by
  obtain ⟨id, type, value, children⟩ := r
  cases value <;> simp_all [Label.isPlain, Record.documented, Scalar.documented]

/-- The numbers in the records of a tree are no longer than its size. -/
theorem fits_flatten (hplain : ∀ l ∈ t.labels, l.isPlain = true) {most : Nat}
    (hmost : 0 < most) (hsize : t.size ≤ 10 ^ most) : ∀ r ∈ flatten t, Fits (some most) r := by
  intro r hr cs hcs
  have hid : r.id < t.size := by
    have hmem : r.id ∈ (flatten t).map (·.id) := List.mem_map_of_mem hr
    rw [flatten_eq, ids_recordsFrom, List.mem_range'_1] at hmem
    omega
  have hchild : ∀ c ∈ r.children, (r.id : Int) < c ∧ c < t.size := by
    have hchildren := children_recordsFrom t 0 r (by rwa [flatten_eq] at hr)
    simpa using hchildren
  simp only [numerals, List.mem_cons, List.mem_append, Option.mem_toList, List.mem_map] at hcs
  rcases hcs with rfl | hcs | ⟨c, hc, rfl⟩
  · exact Json.isTooLong_int (z := r.id) hmost (by omega) (by omega)
  · have hl := hplain _ (label_mem_of_mem_flatten hr)
    cases hvalue : r.value with
    | null => rw [hvalue] at hcs; cases hcs
    | text s =>
      rw [hvalue] at hcs
      cases hcs
      exact Json.isTooLong_escaped most s
    | _ => rw [hvalue] at hl; cases hl
  · obtain ⟨hlow, hhigh⟩ := hchild c hc
    exact Json.isTooLong_int hmost (by omega) (by omega)

theorem map_documented_flatten (hplain : ∀ l ∈ t.labels, l.isPlain = true) :
    (flatten t).map Record.documented = flatten t := by
  have hsame : ∀ r ∈ flatten t, r.documented = r :=
    fun r hr => documented_of_isPlain (hplain _ (label_mem_of_mem_flatten hr))
  rw [List.map_congr_left hsame, List.map_id']

/-- A line with the document of a tree gives back its records. -/
theorem readsBack_line (hplain : ∀ l ∈ t.labels, l.isPlain = true) :
    ReadsBack (write (flatten t) ++ "\n") (flatten t) := by
  have hread : (flatten t).length ≤ 10 ^ maxIntegerLength →
      read (write (flatten t) ++ "\n") = .ok (flatten t) := by
    intro hsize
    rw [length_flatten] at hsize
    have hfits := fits_flatten hplain (by decide) hsize
    rw [read, readWith_line_of_fits hfits, map_documented_flatten hplain]
  refine ⟨?_, hread, fun hsize => ?_⟩
  · rw [readWith_line_of_fits fun r _ => fits_none r, map_documented_flatten hplain]
  · rw [readBytes, Text.Utf8.decode_toUTF8]
    exact hread hsize

end SyntaxCorpus.Document
