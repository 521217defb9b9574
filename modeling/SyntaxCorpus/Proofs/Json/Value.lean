/-
SyntaxCorpus.Proofs.Json.Value — texts that are read as values.

The text of a value, a list or an object is read in two steps, and the
theorems about it go the same way:

* `LexesTo` — its characters are read as tokens;
* `ParsesTo` — the tokens are read as a value, inside any open lists and
  objects, as long as there is room for those that it opens itself;
* `Denotes` — both. It holds of the text of a scalar, and it is handed on from
  the parts of a list (`denotes_array`) or an object (`denotes_object`) to the
  whole.
-/
import SyntaxCorpus.Proofs.Json.Token
import SyntaxCorpus.Record.Document

namespace SyntaxCorpus

open Json

namespace Document

/-! ## Values -/

/-- The tokens are those of a value that opens at most `depth` lists and
objects inside each other. -/
structure ParsesTo (depth : Nat) (ts : List Token) (d : Datum) : Prop where
  starts : ∃ t rest, ts = t :: rest ∧ t ≠ .closeList
  reads : ∀ (stack : List Open) (more : List Token), stack.length + depth ≤ depthLimit →
    readTokens stack none (ts ++ more) = readTokens stack (some d) more

/-- The characters are read as the value. -/
def Denotes (limit : Option Nat) (depth : Nat) (cs : List Char) (d : Datum) : Prop :=
  ∃ ts, LexesTo limit cs ts ∧ ParsesTo depth ts d

variable {limit : Option Nat} {depth : Nat}

theorem denotes_literal {cs : List Char} {s : Scalar}
    (h : LexesTo limit cs [.literal s]) : Denotes limit depth cs s.toDatum := by
  refine ⟨_, h, ⟨_, _, rfl, by simp⟩, fun stack more _ => ?_⟩
  rw [List.singleton_append, readTokens]

theorem denotes_escaped (s : String) : Denotes limit depth (escaped s) (.text s) := by
  refine ⟨_, lexesTo_escaped limit s, ⟨_, _, rfl, by simp⟩, fun stack more _ => ?_⟩
  rw [List.singleton_append, readTokens]

theorem denotes_int (z : Int) (hfits : isTooLong limit (toString z).toList = false) :
    Denotes limit depth (toString z).toList (.int z) :=
  denotes_literal (lexesTo_int z hfits)

theorem denotes_word {w : List Char × Scalar} (hw : w ∈ words) :
    Denotes limit depth w.1 w.2.toDatum :=
  denotes_literal (lexesTo_word limit hw)

theorem denotes_finite (layout : FloatLayout) (negative : Bool) (rank : Fin Binary64.rankCount)
    (hfits : isTooLong limit (layout.write (.finite negative rank)).toList = false) :
    Denotes limit depth (layout.write (.finite negative rank)).toList
      (.float (.finite negative rank)) := by
  obtain ⟨n, htext, hwhole, hvalue⟩ := exists_numberText_write layout negative rank
  have hnumber : numberValue n.toDecimal = .float (.finite negative rank) := by
    rw [numberValue, hwhole, if_neg (by decide), hvalue]
  rw [htext] at hfits ⊢
  have hlexes := lexesTo_chars hfits
  rw [hnumber] at hlexes
  exact denotes_literal hlexes

/-! ## Lists -/

theorem readTokens_openList {stack : List Open} {t : Token} (hroom : stack.length < depthLimit)
    (ht : t ≠ .closeList) (rest : List Token) :
    readTokens stack none (.openList :: t :: rest)
      = readTokens (.list [] :: stack) none (t :: rest) := by
  rw [readTokens, if_pos hroom]
  intro _ heq
  exact ht (List.cons.inj heq).1

section Lists

variable {α : Type} {text : α → List Char} {value : α → Datum}

/-- The items of a list that has items, up to its closing bracket. -/
theorem exists_tokens_items : ∀ (x : α) (xs : List α),
    (∀ y ∈ x :: xs, Denotes limit depth (text y) (value y)) →
    ∃ ts, LexesTo limit (commaSeparated ((x :: xs).map text)) ts ∧
      (∃ t rest, ts = t :: rest ∧ t ≠ .closeList) ∧
      ∀ (found : List Datum) (outer : List Open) (more : List Token),
        outer.length + 1 + depth ≤ depthLimit →
        readTokens (.list found :: outer) none (ts ++ .closeList :: more)
          = readTokens outer (some (.list (found.reverse ++ (x :: xs).map value))) more
  | x, [], h => by
      obtain ⟨ts, hlexes, hparses⟩ := h x List.mem_cons_self
      refine ⟨ts, hlexes, hparses.starts, fun found outer more hroom => ?_⟩
      rw [hparses.reads (.list found :: outer) _ hroom, readTokens, List.reverse_cons,
        List.map_singleton]
  | x, y :: ys, h => by
      obtain ⟨ts, hlexes, hparses⟩ := h x List.mem_cons_self
      obtain ⟨us, hlexes', -, hreads⟩ :=
        exists_tokens_items y ys fun z hz => h z (List.mem_cons_of_mem x hz)
      obtain ⟨t, rest, hts, ht⟩ := hparses.starts
      refine ⟨ts ++ .comma :: us, hlexes.comma hlexes', ⟨t, rest ++ .comma :: us, ?_, ht⟩,
        fun found outer more hroom => ?_⟩
      · rw [hts, List.cons_append]
      · rw [List.append_assoc, hparses.reads (.list found :: outer) _ hroom, List.cons_append,
          readTokens, hreads _ _ _ hroom, List.reverse_cons, List.append_assoc,
          List.singleton_append, ← List.map_cons]

theorem denotes_array (xs : List α) (h : ∀ x ∈ xs, Denotes limit depth (text x) (value x)) :
    Denotes limit (depth + 1) (arrayText (xs.map text)) (.list (xs.map value)) := by
  have hopen : mark? '[' = some .openList := rfl
  have hclose : mark? ']' = some .closeList := rfl
  cases xs with
  | nil =>
    refine ⟨[.openList, .closeList], fun found rest _ => ?_, ⟨_, _, rfl, by simp⟩,
      fun stack more _ => ?_⟩
    · show tokensOnto limit found ('[' :: ']' :: rest) = _
      rw [tokensOnto_mark (by decide) hopen, tokensOnto_mark (by decide) hclose]
      rfl
    · show readTokens stack none (.openList :: .closeList :: more) = _
      rw [readTokens]
      rfl
  | cons x xs =>
    obtain ⟨ts, hlexes, ⟨t, rest, rfl, ht⟩, hreads⟩ := exists_tokens_items x xs h
    refine ⟨.openList :: (t :: rest ++ [.closeList]), fun found more _ => ?_,
      ⟨_, _, rfl, by simp⟩, fun stack more hroom => ?_⟩
    · rw [arrayText, List.append_assoc, List.cons_append, tokensOnto_mark (by decide) hopen,
        List.singleton_append, hlexes _ _ (endsValue_closeList _),
        tokensOnto_mark (by decide) hclose]
      simp only [List.reverse_cons, List.reverse_append, List.append_assoc, List.cons_append,
        List.reverse_nil, List.nil_append]
    · have hreads' := hreads [] stack more (by omega)
      rw [List.reverse_nil, List.nil_append] at hreads'
      rw [← hreads', List.cons_append, List.append_assoc, List.singleton_append]
      exact readTokens_openList (by omega) ht _

end Lists

/-! ## Objects -/

/-- A field of an object: its name, its value and the text of its value. -/
structure WrittenField where
  name : String
  text : List Char
  value : Datum

namespace WrittenField

/-- The field as it is written. -/
def chars (f : WrittenField) : List Char := fieldText f.name f.text

/-- The field as it is read. -/
def datum (f : WrittenField) : String × Datum := (f.name, f.value)

end WrittenField

theorem lexesTo_field {cs : List Char} {ts : List Token} (h : LexesTo limit cs ts)
    (name : String) : LexesTo limit (fieldText name cs) (.text name :: .colon :: ts) := by
  intro found rest hrest
  have hmark : mark? ':' = some .colon := rfl
  rw [fieldText, List.append_assoc, tokensOnto_escaped, List.cons_append,
    tokensOnto_mark (by decide) hmark, h _ rest hrest]
  simp only [List.reverse_cons, List.append_assoc, List.cons_append, List.nil_append]

/-- The fields of an object that has fields, up to its closing brace. The name
of the first one is read when the object is opened. -/
theorem exists_tokens_fields : ∀ (f : WrittenField) (fs : List WrittenField),
    (∀ g ∈ f :: fs, Denotes limit depth g.text g.value) →
    ∃ ts, LexesTo limit (commaSeparated ((f :: fs).map WrittenField.chars))
        (.text f.name :: .colon :: ts) ∧
      ∀ (found : List (String × Datum)) (outer : List Open) (more : List Token),
        outer.length + 1 + depth ≤ depthLimit →
        readTokens (.object found f.name :: outer) none (ts ++ .closeObject :: more)
          = readTokens outer
              (some (.mapping (found.reverse ++ (f :: fs).map WrittenField.datum))) more
  | f, [], h => by
      obtain ⟨ts, hlexes, hparses⟩ := h f List.mem_cons_self
      refine ⟨ts, lexesTo_field hlexes f.name, fun found outer more hroom => ?_⟩
      rw [hparses.reads (.object found f.name :: outer) _ hroom, readTokens, List.reverse_cons,
        List.map_singleton]
      rfl
  | f, g :: gs, h => by
      obtain ⟨ts, hlexes, hparses⟩ := h f List.mem_cons_self
      obtain ⟨us, hlexes', hreads⟩ :=
        exists_tokens_fields g gs fun k hk => h k (List.mem_cons_of_mem f hk)
      refine ⟨ts ++ .comma :: .text g.name :: .colon :: us,
        (lexesTo_field hlexes f.name).comma hlexes', fun found outer more hroom => ?_⟩
      rw [List.append_assoc, hparses.reads (.object found f.name :: outer) _ hroom,
        List.cons_append, List.cons_append, List.cons_append, readTokens, hreads _ _ _ hroom,
        List.reverse_cons, List.append_assoc, List.singleton_append]
      rfl

theorem denotes_object {fs : List WrittenField} (hne : fs ≠ [])
    (h : ∀ f ∈ fs, Denotes limit depth f.text f.value) :
    Denotes limit (depth + 1) ('\x7b' :: commaSeparated (fs.map WrittenField.chars) ++ ['\x7d'])
      (.mapping (fs.map WrittenField.datum)) := by
  have hopen : mark? '\x7b' = some .openObject := rfl
  have hclose : mark? '\x7d' = some .closeObject := rfl
  cases fs with
  | nil => exact absurd rfl hne
  | cons f fs =>
    obtain ⟨ts, hlexes, hreads⟩ := exists_tokens_fields f fs h
    refine ⟨.openObject :: .text f.name :: .colon :: (ts ++ [.closeObject]),
      fun found more _ => ?_, ⟨_, _, rfl, by simp⟩, fun stack more hroom => ?_⟩
    · rw [List.append_assoc, List.cons_append, tokensOnto_mark (by decide) hopen,
        List.singleton_append, hlexes _ _ (endsValue_closeObject _),
        tokensOnto_mark (by decide) hclose]
      simp only [List.reverse_cons, List.reverse_append, List.append_assoc, List.cons_append,
        List.reverse_nil, List.nil_append]
    · have hreads' := hreads [] stack more (by omega)
      rw [List.reverse_nil, List.nil_append] at hreads'
      rw [← hreads', List.cons_append, List.cons_append, List.cons_append, List.append_assoc,
        List.singleton_append, readTokens, if_pos (by omega)]

end Document
end SyntaxCorpus
