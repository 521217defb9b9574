/-
SyntaxCorpus.Proofs.Record.Document — a document gives back its records.

* `denotes_recordText` — the text of a record is read as an object.
* `recordOf_recordDatum` — the object is read as the record.
* `readWith_write_of_fits`, `readWith_line_of_fits` — a document gives back its
  records, also as a line of a file.
* `notControl_write`, `newline_not_mem_write` — a document is a single line.
* `readWith_writePayloads` — the round trip. The only values that do not come
  back are the floating-point numbers without digits, which have no text but
  `null`.
-/
import SyntaxCorpus.Proofs.Json.Value
import SyntaxCorpus.Proofs.Traversal

namespace SyntaxCorpus

open Json
open Validation (Checked)

/-! ## Records -/

/-- What is read where a value was written: a floating-point number without
digits leaves no value behind. -/
def Scalar.documented : Scalar → Scalar
  | .float .nan | .float (.infinite _) => .null
  | s => s

/-- A record as it comes back from its document. -/
def Record.documented (r : Record) : Record := { r with value := r.value.documented }

namespace Document

variable {limit : Option Nat} {depth : Nat}

/-- The numbers in the text of a record, and its value whatever it is. -/
def numerals (r : Record) : List (List Char) :=
  (toString r.id).toList :: ((scalarText r.value).toList
    ++ r.children.map fun c => (toString c).toList)

/-- No number of a record is too long. -/
def Fits (limit : Option Nat) (r : Record) : Prop :=
  ∀ cs ∈ numerals r, isTooLong limit cs = false

theorem fits_none (r : Record) : Fits none r :=
  fun _ _ => rfl

theorem denotes_scalarText {s : Scalar} {cs : List Char} (h : scalarText s = some cs)
    (hfits : isTooLong limit cs = false) : Denotes limit depth cs s.documented.toDatum := by
  cases s with
  | null => cases h
  | bool b =>
    cases h
    cases b with
    | true => exact denotes_word (w := ("true".toList, .bool true)) (by decide)
    | false => exact denotes_word (w := ("false".toList, .bool false)) (by decide)
  | int n =>
    cases h
    exact denotes_int n hfits
  | float x =>
    cases h
    cases x with
    | finite negative rank => exact denotes_finite numberLayout negative rank hfits
    | infinite negative =>
      cases negative with
      | true => exact denotes_word (w := ("null".toList, .null)) (by decide)
      | false => exact denotes_word (w := ("null".toList, .null)) (by decide)
    | nan => exact denotes_word (w := ("null".toList, .null)) (by decide)
  | text t =>
    cases h
    exact denotes_escaped t

/-- The field of the value, if there is one. -/
def valueField (s : Scalar) : Option WrittenField :=
  (scalarText s).map fun cs => ⟨"value", cs, s.documented.toDatum⟩

/-- The fields of a record. -/
def recordFields (r : Record) : List WrittenField :=
  [⟨"id", (toString (r.id : Int)).toList, .int r.id⟩, ⟨"type", escaped r.type, .text r.type⟩]
    ++ (valueField r.value).toList
    ++ [⟨"children", arrayText (r.children.map fun c => (toString c).toList),
      .list (r.children.map .int)⟩]

/-- A record as it is read, before any check. -/
def recordDatum (r : Record) : Datum := .mapping ((recordFields r).map WrittenField.datum)

theorem recordText_eq (r : Record) :
    recordText r
      = '\x7b' :: commaSeparated ((recordFields r).map WrittenField.chars) ++ ['\x7d'] := by
  simp only [recordText, recordFields, valueField]
  cases scalarText r.value with
  | none => rfl
  | some cs => rfl

theorem denotes_recordText {r : Record} (hfits : Fits limit r) :
    Denotes limit 2 (recordText r) (recordDatum r) := by
  rw [recordText_eq]
  refine denotes_object (by simp [recordFields]) fun f hf => ?_
  simp only [recordFields, List.mem_append, List.mem_cons, List.not_mem_nil, or_false,
    Option.mem_toList] at hf
  rcases hf with ((rfl | rfl) | hf) | rfl
  · exact denotes_int r.id (hfits _ List.mem_cons_self)
  · exact denotes_escaped r.type
  · obtain ⟨cs, hcs, rfl⟩ := Option.map_eq_some_iff.mp hf
    exact denotes_scalarText hcs (hfits cs (by simp [numerals, hcs]))
  · refine denotes_array r.children fun c hc => denotes_int c (hfits _ ?_)
    exact List.mem_cons_of_mem _ (List.mem_append_right _ (List.mem_map_of_mem hc))

theorem eachFrom_map {α β γ : Type} {check : α → Checked β} {g : γ → α} {f : γ → β} :
    ∀ (xs : List γ) (index : Nat), (∀ x ∈ xs, check (g x) = .ok (f x)) →
    Validation.eachFrom index check (xs.map g) = .ok (xs.map f)
  | [], _, _ => rfl
  | x :: xs, index, h => by
      rw [List.map_cons, Validation.eachFrom, h x List.mem_cons_self,
        eachFrom_map xs (index + 1) fun y hy => h y (List.mem_cons_of_mem x hy)]
      rfl

theorem checkChildren_ints (kind : Validation.Kind) (cs : List Int) :
    Record.checkChildren kind (.list (cs.map .int)) = .ok cs := by
  have hchildren : Validation.eachFrom 0 Validation.integer (cs.map .int) = .ok (cs.map id) :=
    eachFrom_map cs 0 fun _ _ => rfl
  rw [Record.checkChildren, hchildren, List.map_id]

theorem atLeast_zero (n : Nat) : Validation.atLeast 0 (.int n) = .ok ⟨n, Nat.zero_le n⟩ := by
  have hle : ((0 : Nat) : Int) ≤ n := by omega
  have hread : Validation.atLeast 0 (.int n)
      = if h : ((0 : Nat) : Int) ≤ n then .ok ⟨(n : Int).toNat, by omega⟩
        else Validation.fail (.belowMinimum 0) := rfl
  rw [hread, dif_pos hle]
  rfl

/-- Named values that are those of a record make the record. -/
theorem ofFields_eq_ok {kind : Validation.Kind} {fields : List (String × Datum)} {r : Record}
    (hid : Record.field? "id" fields = some (.int r.id))
    (htype : Record.field? "type" fields = some (.text r.type))
    (hvalue : ∀ d ∈ Record.field? "value" fields, d = r.value.toDatum)
    (habsent : Record.field? "value" fields = none → r.value = .null)
    (hchildren : Record.field? "children" fields = some (.list (r.children.map .int))) :
    Record.ofFields kind fields = .ok r := by
  have hopt : Record.optional "value" .null Validation.scalar fields = .ok r.value := by
    rw [Record.optional]
    cases hfield : Record.field? "value" fields with
    | none => rw [habsent hfield]
    | some d =>
      obtain rfl := hvalue d hfield
      simp only [Validation.scalar_toDatum]
      rfl
  rw [Record.ofFields, hopt, Record.required, Record.required, Record.optional, hid, htype,
    hchildren]
  simp only [atLeast_zero, checkChildren_ints]
  rfl

theorem recordOf_recordDatum (r : Record) : recordOf (recordDatum r) = .ok r.documented := by
  have hnull : scalarText r.value = none → r.documented.value = .null := by
    intro h
    cases hv : r.value with
    | null => rw [Record.documented, hv]; rfl
    | _ => rw [hv] at h; cases h
  refine ofFields_eq_ok ?_ ?_ ?_ ?_ ?_ <;> unfold recordFields valueField <;>
    cases h : scalarText r.value
  · rfl
  · rfl
  · rfl
  · rfl
  · exact fun _ hd => by cases hd
  · exact fun _ hd => (Option.some.inj hd).symm
  · exact fun _ => hnull h
  · exact fun hfield => by cases hfield
  · rfl
  · rfl

/-- What follows a document without being a part of it. -/
structure EndsDocument (limit : Option Nat) (rest : List Char) : Prop where
  endsValue : EndsValue rest
  noTokens : ∀ found, tokensOnto limit found rest = some found.reverse

theorem endsDocument_nil (limit : Option Nat) : EndsDocument limit [] :=
  ⟨endsValue_nil, tokensOnto_nil limit⟩

theorem endsDocument_newline (limit : Option Nat) : EndsDocument limit ['\n'] :=
  ⟨endsValue_newline [], tokensOnto_newline limit⟩

theorem readWith_write_append {records : List Record} (hfits : ∀ r ∈ records, Fits limit r)
    {rest : String} (hrest : EndsDocument limit rest.toList) :
    readWith limit (write records ++ rest) = .ok (records.map Record.documented) := by
  obtain ⟨ts, hlexes, hparses⟩ := denotes_array records fun r hr => denotes_recordText (hfits r hr)
  have hread : Json.read limit (write records ++ rest)
      = some (.list (records.map recordDatum)) := by
    have htokens := hlexes [] rest.toList hrest.endsValue
    have hvalue := hparses.reads [] [] (by decide)
    rw [hrest.noTokens, List.append_nil, List.reverse_reverse] at htokens
    rw [List.append_nil, readTokens] at hvalue
    rw [Json.read, tokens, String.toList_append, write, String.toList_ofList, htokens,
      Option.bind_some, hvalue]
  rw [readWith, hread]
  exact eachFrom_map records 0 fun r _ => recordOf_recordDatum r

/-- The document of a list of records gives back the list, for a reader that
takes their numbers. -/
theorem readWith_write_of_fits {records : List Record} (hfits : ∀ r ∈ records, Fits limit r) :
    readWith limit (write records) = .ok (records.map Record.documented) := by
  have hrest : EndsDocument limit "".toList := endsDocument_nil limit
  have h := readWith_write_append hfits hrest
  rwa [String.append_empty] at h

/-- So does a line with this document. -/
theorem readWith_line_of_fits {records : List Record} (hfits : ∀ r ∈ records, Fits limit r) :
    readWith limit (write records ++ "\n") = .ok (records.map Record.documented) :=
  readWith_write_append hfits (endsDocument_newline limit)

/-! ## A single line -/

theorem notControl_digit {c : Char} (h : c.isDigit = true) : NotControl c := by
  have hle : '0' ≤ c := by
    rw [Char.isDigit, Bool.and_eq_true, decide_eq_true_eq] at h
    exact h.1
  exact Nat.le_trans (by decide) hle

theorem notControl_exponentPart (width : Nat) (exponent : Option Int) :
    ∀ c ∈ exponentPart width exponent, NotControl c := by
  cases exponent with
  | none => simp [exponentPart]
  | some e =>
    intro c hc
    simp only [exponentPart, FloatLayout.exponentText, List.mem_cons, List.mem_append] at hc
    rcases hc with rfl | rfl | hc | hc
    · decide
    · split <;> decide
    · exact notControl_digit (isDigit_replicate_zero _ c hc)
    · exact notControl_digit (isDigit_toDigits _ c hc)

theorem notControl_chars (width : Nat) (n : NumberText) :
    ∀ c ∈ n.chars width, NotControl c := by
  intro c hc
  simp only [NumberText.chars, List.mem_append] at hc
  rcases hc with hc | hc | hc | hc
  · cases hneg : n.negative <;> rw [hneg] at hc
    · cases hc
    · rw [signText, if_pos rfl, List.mem_singleton] at hc
      rw [hc]
      decide
  · exact notControl_digit (n.whole_digits c hc)
  · unfold fractionText at hc
    split at hc
    · cases hc
    · rcases List.mem_cons.mp hc with rfl | hc
      · decide
      · exact notControl_digit (n.fraction_digits c hc)
  · exact notControl_exponentPart width n.exponent c hc

theorem notControl_int (z : Int) : ∀ c ∈ (toString z).toList, NotControl c := by
  rw [← NumberText.chars_ofInt 0]
  exact notControl_chars 0 _

theorem notControl_scalarText {s : Scalar} {cs : List Char} (h : scalarText s = some cs) :
    ∀ c ∈ cs, NotControl c := by
  cases s with
  | null => cases h
  | bool b =>
    cases h
    cases b <;> exact notControl_of_all (by decide)
  | int n =>
    cases h
    exact notControl_int n
  | float x =>
    cases h
    cases x with
    | finite negative rank =>
      obtain ⟨n, htext, -⟩ := exists_numberText_write numberLayout negative rank
      rw [htext]
      exact notControl_chars _ n
    | infinite negative => cases negative <;> exact notControl_of_all (by decide)
    | nan => exact notControl_of_all (by decide)
  | text t =>
    cases h
    exact notControl_escaped t

theorem notControl_commaSeparated : ∀ {xs : List (List Char)},
    (∀ x ∈ xs, ∀ c ∈ x, NotControl c) → ∀ c ∈ commaSeparated xs, NotControl c
  | [], _, c, hc => by cases hc
  | [x], h, c, hc => h x List.mem_cons_self c hc
  | x :: y :: ys, h, c, hc => by
      rw [commaSeparated, List.mem_append, List.mem_cons] at hc
      rcases hc with hc | rfl | hc
      · exact h x List.mem_cons_self c hc
      · decide
      · exact notControl_commaSeparated (fun z hz => h z (List.mem_cons_of_mem x hz)) c hc
      · simp

theorem notControl_arrayText {xs : List (List Char)} (h : ∀ x ∈ xs, ∀ c ∈ x, NotControl c) :
    ∀ c ∈ arrayText xs, NotControl c := by
  intro c hc
  rw [arrayText, List.cons_append, List.mem_cons, List.mem_append, List.mem_singleton] at hc
  rcases hc with rfl | hc | rfl
  · decide
  · exact notControl_commaSeparated h c hc
  · decide

theorem notControl_recordText (r : Record) : ∀ c ∈ recordText r, NotControl c := by
  have hfields : ∀ f ∈ recordFields r, ∀ c ∈ f.text, NotControl c := by
    intro f hf
    simp only [recordFields, List.mem_append, List.mem_cons, List.not_mem_nil, or_false,
      Option.mem_toList] at hf
    rcases hf with ((rfl | rfl) | hf) | rfl
    · exact notControl_int r.id
    · exact notControl_escaped r.type
    · obtain ⟨cs, hcs, rfl⟩ := Option.map_eq_some_iff.mp hf
      exact notControl_scalarText hcs
    · refine notControl_arrayText fun x hx => ?_
      obtain ⟨z, -, rfl⟩ := List.mem_map.mp hx
      exact notControl_int z
  intro c hc
  rw [recordText_eq, List.cons_append, List.mem_cons, List.mem_append, List.mem_singleton] at hc
  rcases hc with rfl | hc | rfl
  · decide
  · refine notControl_commaSeparated (fun x hx => ?_) c hc
    obtain ⟨f, hf, rfl⟩ := List.mem_map.mp hx
    intro d hd
    rw [WrittenField.chars, fieldText, List.mem_append, List.mem_cons] at hd
    rcases hd with hd | rfl | hd
    · exact notControl_escaped f.name d hd
    · decide
    · exact hfields f hf d hd
  · decide

theorem notControl_write (records : List Record) : ∀ c ∈ (write records).toList, NotControl c := by
  rw [write, String.toList_ofList]
  refine notControl_arrayText fun x hx => ?_
  obtain ⟨r, -, rfl⟩ := List.mem_map.mp hx
  exact notControl_recordText r

/-- A document is a single line. -/
theorem newline_not_mem_write (records : List Record) : '\n' ∉ (write records).toList := by
  intro hmem
  exact absurd (notControl_write records _ hmem) (by decide)

/-! ## The round trip -/

/-- A record among those whose values may be raw bytes. -/
def payload (r : Record) : RecordWith Payload := { r with value := .scalar r.value }

theorem writePayloads_map_payload (records : List Record) :
    writePayloads (records.map payload) = .ok (write records) := by
  have hmap : (records.map payload).mapM (fun r : RecordWith Payload =>
      r.value.toScalar.map fun v => ({ r with value := v } : Record)) = .ok records :=
    mapM_eq_ok_iff.mpr (List.forall₂_map_left_iff.mpr (List.forall₂_same.mpr fun _ _ => rfl))
  rw [writePayloads, hmap]
  rfl

/-- Records have a document, of a single line, and it gives them back with all
their fields: only a floating-point value without digits is lost. -/
theorem readWith_writePayloads (records : List Record) :
    ∃ text, writePayloads (records.map payload) = .ok text ∧
      readWith none text = .ok (records.map Record.documented) ∧
      ∀ c ∈ text.toList, NotControl c :=
  ⟨write records, writePayloads_map_payload records,
    readWith_write_of_fits fun r _ => fits_none r, notControl_write records⟩

end Document
end SyntaxCorpus
