/-
SyntaxCorpus.Proofs.Record.Payload — documents of records whose values may be raw
bytes or code points.

* `Payload.StandsFor` — the value that raw bytes stand for is the text that they
  encode, and the value of code points is the text of these characters.
* `Payload.IsText` — values that are no bytes and code points without a text.
* `Restates` — a record with the text in the place of its bytes or code points.
* `Payload.Faults` — how a value without a text is reported: with the place where the
  text in the bytes ends, or with the place of the first surrogate.
* `Document.Answers`, `answers_writePayloads` — the document is that of the
  restated records, or the first value without a text is reported.
* `writePayloads_decodes` — so records are refused exactly if some bytes encode no
  text or some code points have a surrogate.
-/
import SyntaxCorpus.Proofs.Record.Document
import SyntaxCorpus.Proofs.Text.CodePoints
import SyntaxCorpus.Proofs.Text.Malformed
import SyntaxCorpus.Proofs.Traversal

namespace SyntaxCorpus

open Text (CodePoint FirstSurrogates Surrogate ofCodePoints_cases)
open Text.Utf8 (StopsAt decode_cases)

/-! ## Values -/

/-- The scalar that a value stands for. -/
inductive Payload.StandsFor : Payload → Scalar → Prop
  | scalar (s : Scalar) : StandsFor (.scalar s) s
  | codePoints (cs : List Char) : StandsFor (.codePoints (cs.map .inl)) (.text (String.ofList cs))
  | bytes (s : String) : StandsFor (.bytes s.toUTF8) (.text s)

/-- Whether a value has a text, if it is raw bytes or code points. -/
structure Payload.IsText (p : Payload) : Prop where
  bytes : ∀ b, p = .bytes b → b.IsValidUTF8
  codePoints : ∀ ps, p = .codePoints ps → ∀ s : Surrogate, .inr s ∉ ps

theorem Payload.StandsFor.isText {p : Payload} {s : Scalar} (h : p.StandsFor s) : p.IsText where
  bytes := by
    rintro b rfl
    cases h with
    | bytes s => exact s.isValidUTF8
  codePoints := by
    rintro ps rfl
    cases h with
    | codePoints cs => simp

/-- How a value without a text is reported. -/
inductive Payload.Faults : Payload → SerializationError → Prop
  | bytes {b m what} (hbytes : ¬ b.IsValidUTF8) (hstops : StopsAt b m.index)
      (hmessage : (SerializationError.illFormed m).message
        = what ++ (" from index " ++ toString m.index)) : Faults (.bytes b) (.illFormed m)
  | codePoints {ps u what rest} (hfirst : FirstSurrogates ps u)
      (hmessage : (SerializationError.unencodable u).message
        = what ++ (" in position " ++ toString u.position ++ rest)) :
      Faults (.codePoints ps) (.unencodable u)

/-- The report on bytes that encode no text ends with a place in them. -/
theorem exists_message_illFormed (m : Text.Utf8.Malformed) : ∃ what,
    (SerializationError.illFormed m).message = what ++ (" from index " ++ toString m.index) := by
  have hmalformed : ∃ what, m.message = what ++ (" from index " ++ toString m.index) := by
    obtain ⟨index, size⟩ := m
    cases size with
    | none =>
      have hsplit : "incomplete utf-8 byte sequence from index "
          = "incomplete utf-8 byte sequence" ++ " from index " := by decide +kernel
      refine ⟨"incomplete utf-8 byte sequence", ?_⟩
      rw [← String.append_assoc, ← hsplit]
      rfl
    | some n =>
      have hsplit : " bytes from index " = " bytes" ++ " from index " := by decide +kernel
      have hmessage : (⟨index, some n⟩ : Text.Utf8.Malformed).message
          = "invalid utf-8 sequence of " ++ toString n ++ " bytes from index " ++ toString index :=
        rfl
      refine ⟨"invalid utf-8 sequence of " ++ toString n ++ " bytes", ?_⟩
      rw [hmessage, hsplit]
      simp only [String.append_assoc]
  obtain ⟨what, hwhat⟩ := hmalformed
  refine ⟨"cannot serialize AST: Error serializing to JSON: " ++ what, ?_⟩
  rw [String.append_assoc, ← hwhat]
  rfl

theorem append_regroup (a b c d e f : String) :
    a ++ (b ++ c ++ d ++ e ++ f) = a ++ (b ++ c) ++ (d ++ e ++ f) := by
  simp only [String.append_assoc]

/-- The report on code points with a surrogate names its place. -/
theorem exists_message_unencodable (u : Text.Unencodable) : ∃ what rest,
    (SerializationError.unencodable u).message
      = what ++ (" in position " ++ toString u.position ++ rest) :=
  -- the brackets have to fit: texts of literals alone would be computed
  ⟨_, _, append_regroup _ _ _ _ _ _⟩

/-- A value stands for a scalar, or there is a report on it. -/
theorem Payload.toScalar_cases (p : Payload) :
    (∃ s, p.StandsFor s ∧ p.toScalar = .ok s) ∨ ∃ e, p.Faults e ∧ p.toScalar = .error e := by
  cases p with
  | scalar s => exact .inl ⟨s, .scalar s, rfl⟩
  | codePoints ps =>
    rcases ofCodePoints_cases ps with ⟨cs, rfl, htext⟩ | ⟨u, hfirst, herror⟩
    · refine .inl ⟨.text (String.ofList cs), .codePoints cs, ?_⟩
      rw [toScalar, htext]
      rfl
    · obtain ⟨what, rest, hmessage⟩ := exists_message_unencodable u
      refine .inr ⟨.unencodable u, .codePoints hfirst hmessage, ?_⟩
      rw [toScalar, herror]
      rfl
  | bytes b =>
    rcases decode_cases b with ⟨s, rfl, hdecode⟩ | ⟨hbytes, m, hdecode, hstops⟩
    · refine .inl ⟨.text s, .bytes s, ?_⟩
      rw [toScalar, hdecode]
      rfl
    · obtain ⟨what, hmessage⟩ := exists_message_illFormed m
      refine .inr ⟨.illFormed m, .bytes hbytes hstops hmessage, ?_⟩
      rw [toScalar, hdecode]
      rfl

/-! ## Records -/

/-- A record with a scalar in the place of the value that stands for it. -/
structure Restates (r : RecordWith Payload) (q : Record) : Prop where
  id : q.id = r.id
  type : q.type = r.type
  value : r.value.StandsFor q.value
  children : q.children = r.children

/-- A record with the scalar that its value stands for. -/
def restated (r : RecordWith Payload) : Except SerializationError Record :=
  r.value.toScalar.map fun v => { r with value := v }

theorem restated_cases (r : RecordWith Payload) :
    (∃ q, Restates r q ∧ restated r = .ok q) ∨
      ∃ e, r.value.Faults e ∧ restated r = .error e := by
  rcases r.value.toScalar_cases with ⟨s, hs, hvalue⟩ | ⟨e, he, hvalue⟩
  · refine .inl ⟨{ r with value := s }, ⟨rfl, rfl, hs, rfl⟩, ?_⟩
    rw [restated, hvalue]
    rfl
  · refine .inr ⟨e, he, ?_⟩
    rw [restated, hvalue]
    rfl

theorem restates_of_restated {r : RecordWith Payload} {q : Record} (h : restated r = .ok q) :
    Restates r q := by
  rcases restated_cases r with ⟨q', hq, hok⟩ | ⟨e, _, herror⟩
  · obtain rfl : q' = q := Except.ok.inj (hok.symm.trans h)
    exact hq
  · cases herror.symm.trans h

namespace Document

theorem writePayloads_eq (records : List (RecordWith Payload)) :
    writePayloads records = (records.mapM restated).map write := rfl

/-- What becomes of records with raw bytes and code points: they have the document of the
records with their texts in place of these, or the first value without a text is
reported. -/
inductive Answers (records : List (RecordWith Payload)) : Except SerializationError String → Prop
  | written {plain : List Record} (hplain : List.Forall₂ Restates records plain)
      (hsame : writePayloads (plain.map payload) = .ok (write plain)) :
      Answers records (.ok (write plain))
  | reported {before r after e} (hrecords : records = before ++ r :: after)
      (hbefore : ∀ q ∈ before, q.value.IsText) (hfaults : r.value.Faults e) :
      Answers records (.error e)

theorem answers_writePayloads (records : List (RecordWith Payload)) :
    Answers records (writePayloads records) := by
  rw [writePayloads_eq]
  rcases mapM_cases restated records with
    ⟨plain, hplain, hmap⟩ | ⟨before, r, after, e, hrecords, hbefore, hr, hmap⟩
  · rw [hmap]
    exact .written (hplain.imp fun _ _ => restates_of_restated) (writePayloads_map_payload plain)
  · rcases restated_cases r with ⟨q, _, hok⟩ | ⟨e', hfaults, herror⟩
    · cases hok.symm.trans hr
    · obtain rfl := Except.error.inj (herror.symm.trans hr)
      rw [hmap]
      refine .reported hrecords (fun q hq => ?_) hfaults
      obtain ⟨plain, hplain⟩ := hbefore q hq
      exact (restates_of_restated hplain).value.isText

/-- **Records with raw bytes and code points are refused exactly if some of these are no
text, and the first ones are reported; otherwise they count as their texts.** -/
theorem writePayloads_decodes (records : List (RecordWith Payload)) :
    Answers records (writePayloads records) ∧
      ((∃ e, writePayloads records = .error e) ↔
        ∃ r ∈ records, (∃ b, r.value = .bytes b ∧ ¬ b.IsValidUTF8) ∨
          ∃ ps, r.value = .codePoints ps ∧ ∃ s : Surrogate, .inr s ∈ ps) := by
  have hanswer := answers_writePayloads records
  refine ⟨hanswer, ?_⟩
  generalize writePayloads records = answer at hanswer
  cases hanswer with
  | @written plain hplain =>
    have hall : ∀ q ∈ records, q.value.IsText :=
      ((List.forall₂_and_left records plain).mp
        (hplain.imp fun _ _ hq => ⟨hq.value.isText, hq⟩)).1
    constructor
    · rintro ⟨e, he⟩
      cases he
    · rintro ⟨r, hr, ⟨b, hvalue, hbytes⟩ | ⟨ps, hvalue, s, hs⟩⟩
      · exact (hbytes ((hall r hr).bytes b hvalue)).elim
      · exact ((hall r hr).codePoints ps hvalue s hs).elim
  | @reported before r after e hrecords hbefore hfaults =>
    refine ⟨fun _ => ⟨r, ?_, ?_⟩, fun _ => ⟨_, rfl⟩⟩
    · rw [hrecords]
      exact List.mem_append_right _ (List.mem_cons_self ..)
    · generalize r.value = value at hfaults
      cases hfaults with
      | bytes hbytes => exact .inl ⟨_, rfl, hbytes⟩
      | codePoints hfirst => exact .inr ⟨_, rfl, hfirst.exists_mem⟩

/-- Records without bytes are refused, too, if a value is half of a surrogate pair. -/
theorem not_refused_iff_bytes_surrogate :
    ¬ ((∃ e, writePayloads [⟨0, "t", .codePoints [.inr ⟨0xD800, by decide⟩], []⟩] = .error e) ↔
      ∃ r ∈ [(⟨0, "t", .codePoints [.inr ⟨0xD800, by decide⟩], []⟩ : RecordWith Payload)],
        ∃ b, r.value = .bytes b ∧ ¬ b.IsValidUTF8) := by
  intro h
  obtain ⟨r, hr, b, hvalue, -⟩ := h.mp ⟨.unencodable ⟨0, ⟨0xD800, by decide⟩, 0⟩, rfl⟩
  obtain rfl := List.mem_singleton.mp hr
  cases hvalue

end Document
end SyntaxCorpus
