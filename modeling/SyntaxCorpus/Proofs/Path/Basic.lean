/-
SyntaxCorpus.Proofs.Path.Basic — paths and their written forms.

* `Path.IsProper` — every name of a path leads somewhere and has no slash; the
  paths of written forms are such.
* `Path.ofText_text` — such a path is the path of its written form.
* `Path.mem_text_ofText_iff` — reading a path and writing it again loses no
  characters but slashes and points.
* `Path.pairwise_mergeSort` — sorted paths are in the order of their names.
-/
import Mathlib.Data.String.Basic
import SyntaxCorpus.Path.Basic
import SyntaxCorpus.Proofs.Text.Split

namespace SyntaxCorpus.Path

theorem isProperName_iff {name : String} :
    isProperName name = true ↔ name ≠ "" ∧ name ≠ "." := by
  simp [isProperName]

/-- Whether every name leads somewhere and has no slash. -/
def IsProper (p : Path) : Prop :=
  ∀ name ∈ p.names, isProperName name = true ∧ '/' ∉ name.toList

theorem isProper_ofText (s : String) : (ofText s).IsProper := by
  intro name hname
  obtain ⟨hmem, hproper⟩ := List.mem_filter.mp hname
  exact ⟨hproper, Text.not_mem_of_mem_pieces hmem⟩

variable {names : List String}

/-- The names of joined names. -/
theorem filter_pieces_intercalate
    (h : ∀ name ∈ names, isProperName name = true ∧ '/' ∉ name.toList) :
    (Text.pieces '/' (String.intercalate "/" names)).filter isProperName = names := by
  cases names with
  | nil => decide
  | cons name names =>
    have hpieces : Text.pieces '/' (String.intercalate "/" (name :: names)) = name :: names :=
      Text.pieces_intercalate (List.cons_ne_nil name names) fun n hn => (h n hn).2
    rw [hpieces]
    exact List.filter_eq_self.mpr fun n hn => (h n hn).1

/-- Joined names do not start with a slash. -/
theorem head?_intercalate (h : ∀ name ∈ names, isProperName name = true ∧ '/' ∉ name.toList) :
    (String.intercalate "/" names).toList.head? ≠ some '/' := by
  cases names with
  | nil => simp
  | cons name names =>
    obtain ⟨hproper, hslash⟩ := h name (List.mem_cons_self ..)
    cases hname : name.toList with
    | nil =>
      rw [String.toList_eq_nil_iff] at hname
      simp [isProperName, hname] at hproper
    | cons c cs =>
      have hc : c ≠ '/' := by
        rintro rfl
        exact hslash (by simp [hname])
      have hhead : (String.intercalate "/" (name :: names)).toList.head? = some c := by
        cases names <;> simp [hname]
      rw [hhead]
      simpa using hc

/-- A root adds no names. -/
theorem filter_pieces_append (root : Root) (s : String) :
    (Text.pieces '/' (root.text ++ s)).filter isProperName
      = (Text.pieces '/' s).filter isProperName := by
  have hslash : ∀ t : String, (Text.pieces '/' ("/" ++ t)).filter isProperName
      = (Text.pieces '/' t).filter isProperName := by
    intro t
    have hpieces := Text.pieces_append_cons (List.not_mem_nil : '/' ∉ []) t.toList
    have htext : String.ofList ([] ++ '/' :: t.toList) = "/" ++ t := by
      rw [← String.toList_inj]
      simp
    rw [htext, String.ofList_toList] at hpieces
    rw [hpieces]
    exact List.filter_cons_of_neg (by decide)
  cases root with
  | none => rw [Root.text, String.empty_append]
  | single => exact hslash s
  | double =>
    have htext : Root.double.text ++ s = "/" ++ ("/" ++ s) := by
      rw [← String.append_assoc]
      rfl
    rw [htext, hslash, hslash]

theorem ofChars_append (root : Root) {cs : List Char} (h : cs.head? ≠ some '/') :
    Root.ofChars (root.text.toList ++ cs) = root := by
  cases cs with
  | nil => cases root <;> rfl
  | cons c cs =>
    have hc : c ≠ '/' := by simpa using h
    cases root <;> simp [Root.text, Root.ofChars, hc]

/-- A proper path is the path of its written form. -/
theorem ofText_text {p : Path} (h : p.IsProper) : ofText p.text = p := by
  obtain ⟨root, names⟩ := p
  by_cases hnone : root = .none ∧ names = []
  · obtain ⟨rfl, rfl⟩ := hnone
    decide
  · have htext : text ⟨root, names⟩ = root.text ++ String.intercalate "/" names := by
      unfold text
      split
      · rename_i hroot hnames
        exact absurd ⟨hroot, hnames⟩ hnone
      · rfl
    have hchars : (text ⟨root, names⟩).toList
        = root.text.toList ++ (String.intercalate "/" names).toList := by
      rw [htext, String.toList_append]
    have hroot := ofChars_append root (head?_intercalate h)
    rw [ofText, hchars, hroot, htext]
    rw [filter_pieces_append, filter_pieces_intercalate h]

/-! ## The characters of a written form -/

/-- A path is written with the characters of its names, besides slashes and
points. -/
theorem mem_text_iff {c : Char} (hslash : c ≠ '/') (hdot : c ≠ '.') (p : Path) :
    c ∈ p.text.toList ↔ ∃ name ∈ p.names, c ∈ name.toList := by
  have hroot : ∀ root : Root, c ∉ root.text.toList := by
    rintro (_ | _ | _) <;> simp [Root.text, hslash]
  have hnames : ∀ names : List String,
      c ∈ (String.intercalate "/" names).toList ↔ ∃ name ∈ names, c ∈ name.toList := by
    intro names
    induction names with
    | nil => simp
    | cons name names ih =>
      cases names with
      | nil => simp
      | cons next rest =>
        rw [String.intercalate_cons_cons, String.toList_append, String.toList_append,
          List.mem_append, List.mem_append, ih]
        simp [hslash]
  unfold text
  split
  · rename_i hnil
    simp [hnil, hdot]
  · rw [String.toList_append, List.mem_append, hnames]
    simp [hroot]

/-- No other characters are lost when a path is read and written again. -/
theorem mem_text_ofText_iff {c : Char} (hslash : c ≠ '/') (hdot : c ≠ '.') (s : String) :
    c ∈ (ofText s).text.toList ↔ c ∈ s.toList := by
  rw [mem_text_iff hslash hdot, ← Text.exists_mem_pieces_iff hslash]
  constructor
  · rintro ⟨name, hname, hc⟩
    exact ⟨name, (List.mem_filter.mp hname).1, hc⟩
  · rintro ⟨name, hname, hc⟩
    refine ⟨name, List.mem_filter.mpr ⟨hname, ?_⟩, hc⟩
    -- a name with such a character is neither empty nor a point
    rw [isProperName_iff]
    exact ⟨by rintro rfl; simp at hc, by rintro rfl; simp [hdot] at hc⟩

/-! ## The order of paths -/

theorem le_iff (p q : Path) : p.le q = true ↔ p.sortKey ≤ q.sortKey := by
  rw [le, Bool.not_eq_true', ← Bool.not_eq_true, List.lex_eq_true_iff_lt, not_lt]

/-- Sorted paths are in the order of their names. -/
theorem pairwise_mergeSort (paths : List Path) :
    (paths.mergeSort le).Pairwise fun p q => p.sortKey ≤ q.sortKey := by
  have htrans : ∀ p q r : Path, p.le q = true → q.le r = true → p.le r = true := by
    intro p q r hpq hqr
    rw [le_iff] at hpq hqr ⊢
    exact hpq.trans hqr
  have htotal : ∀ p q : Path, (p.le q || q.le p) = true := by
    intro p q
    rw [Bool.or_eq_true, le_iff, le_iff]
    exact le_total _ _
  exact (List.pairwise_mergeSort htrans htotal paths).imp fun {p q} => (le_iff p q).mp

end SyntaxCorpus.Path
