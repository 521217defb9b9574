/-
SyntaxCorpus.Proofs.Validation.Check — what a value comes to when it is checked.

* `StandsForText`, `string_eq_ok_iff` — the values that stand for a text.
* `StandsForInteger`, `integer_eq_ok_iff`, `atLeast_eq_ok_iff` — the values that
  stand for an integer. One value stands for one integer.
* `StandsForBoolean`, `boolean_eq_ok_iff` — the values that stand for a truth value.
* `StandsForScalar`, `scalar_eq_ok_iff` — the values that stand for a scalar.
* `at_eq_ok_iff`, `both_eq_ok_iff`, `both_eq_error_iff` — checks put together.
-/
import SyntaxCorpus.Proofs.Text.Malformed
import SyntaxCorpus.Validation.Check

namespace SyntaxCorpus.Validation

/-! ## Text -/

/-- A value stands for a text: it is one, or the bytes of one, or a value of another
kind that comes to one. -/
inductive StandsForText : Datum → String → Prop
  | text (s : String) : StandsForText (.text s) s
  | bytes (s : String) : StandsForText (.bytes s.toUTF8) s
  | other {r : Readings} {s : String} (h : r.string = .ok s) : StandsForText (.other r) s

theorem encodedText_eq_ok_iff {kind : Kind} {b : ByteArray} {s : String} :
    encodedText kind b = .ok s ↔ b = s.toUTF8 := by
  rcases Text.Utf8.decode_cases b with ⟨t, rfl, hdecode⟩ | ⟨hbytes, m, hdecode, -⟩
  · rw [encodedText, hdecode]
    constructor
    · intro h
      rw [Except.ok.inj h]
    · intro h
      rw [String.toByteArray_inj.mp h]
      rfl
  · rw [encodedText, hdecode]
    constructor
    · intro h
      cases h
    · rintro rfl
      exact (hbytes s.isValidUTF8).elim

/-- Bytes are checked as the text that they encode. -/
theorem encodedText_bind_eq_ok_iff {α : Type} {kind : Kind} {b : ByteArray}
    {check : String → Checked α} {x : α} :
    (encodedText kind b).bind check = .ok x ↔ ∃ s, b = s.toUTF8 ∧ check s = .ok x := by
  cases htext : encodedText kind b with
  | error ps =>
    constructor
    · intro h
      cases h
    · rintro ⟨s, hb, -⟩
      cases htext.symm.trans (encodedText_eq_ok_iff.mpr hb)
  | ok t =>
    obtain rfl := encodedText_eq_ok_iff.mp htext
    constructor
    · exact fun h => ⟨t, rfl, h⟩
    · rintro ⟨s, hb, h⟩
      rwa [String.toByteArray_inj.mp hb]

theorem string_eq_ok_iff {d : Datum} {s : String} : string d = .ok s ↔ StandsForText d s := by
  constructor
  · intro h
    cases d with
    | text t =>
      obtain rfl := Except.ok.inj h
      exact .text t
    | bytes b =>
      obtain rfl := encodedText_eq_ok_iff.mp h
      exact .bytes s
    | other r => exact .other h
    | null => cases h
    | bool b => cases h
    | int n => cases h
    | float x => cases h
    | list items => cases h
    | mapping fields => cases h
  · intro h
    cases h with
    | text => rfl
    | bytes => exact encodedText_eq_ok_iff.mpr rfl
    | other h => exact h

theorem StandsForText.unique {d : Datum} {s t : String} (hs : StandsForText d s)
    (ht : StandsForText d t) : s = t := by
  rw [← string_eq_ok_iff] at hs ht
  exact Except.ok.inj (hs.symm.trans ht)

/-! ## Integers -/

/-- A value stands for an integer: it is an integer or a truth value, a number
without a fraction that is not too large, a text that is read as an integer, or the
bytes of such a text, or a value of another kind that comes to an integer. -/
inductive StandsForInteger : Datum → Int → Prop
  | int (n : Int) : StandsForInteger (.int n) n
  | bool (b : Bool) : StandsForInteger (.bool b) b.toInt
  | float {x : Binary64} {n : Int} (hvalue : x.toInt? = some n) (hsize : n.natAbs < integerLimit) :
      StandsForInteger (.float x) n
  | text {s : String} {n : Int} (h : readInteger s = .ok n) : StandsForInteger (.text s) n
  | bytes {s : String} {n : Int} (h : readInteger s = .ok n) :
      StandsForInteger (.bytes s.toUTF8) n
  | other {r : Readings} {n : Int} (h : r.integer = .ok n) : StandsForInteger (.other r) n

theorem integerOfFloat_eq_ok_iff {x : Binary64} {n : Int} :
    integerOfFloat x = .ok n ↔ x.toInt? = some n ∧ n.natAbs < integerLimit := by
  cases x with
  | finite negative rank =>
    cases hvalue : (Binary64.finite negative rank).toInt? with
    | none => simp [integerOfFloat, hvalue, fail]
    | some m =>
      simp only [integerOfFloat, hvalue, Option.some.injEq]
      split
      · rename_i hsize
        constructor
        · intro h
          obtain rfl := Except.ok.inj h
          exact ⟨rfl, hsize⟩
        · rintro ⟨rfl, _⟩
          rfl
      · rename_i hsize
        constructor
        · intro h
          cases h
        · rintro ⟨rfl, h⟩
          exact (hsize h).elim
  | infinite negative => simp [integerOfFloat, Binary64.toInt?, fail]
  | nan => simp [integerOfFloat, Binary64.toInt?, fail]

theorem integerOfText_eq_ok_iff {s : String} {n : Int} :
    integerOfText s = .ok n ↔ readInteger s = .ok n := by
  rw [integerOfText]
  split
  · rename_i m hread
    rw [hread, Except.ok.injEq, Except.ok.injEq]
  · rename_i hread
    rw [hread]
    constructor <;> intro h <;> cases h
  · rename_i hread
    rw [hread]
    constructor <;> intro h <;> cases h

theorem integer_eq_ok_iff {d : Datum} {n : Int} : integer d = .ok n ↔ StandsForInteger d n := by
  constructor
  · intro h
    cases d with
    | int m =>
      obtain rfl := Except.ok.inj h
      exact .int m
    | bool b =>
      obtain rfl := Except.ok.inj h
      cases b with
      | false => exact .bool false
      | true => exact .bool true
    | float x =>
      obtain ⟨hvalue, hsize⟩ := integerOfFloat_eq_ok_iff.mp h
      exact .float hvalue hsize
    | text s => exact .text (integerOfText_eq_ok_iff.mp h)
    | bytes b =>
      obtain ⟨s, rfl, hs⟩ := encodedText_bind_eq_ok_iff.mp h
      exact .bytes (integerOfText_eq_ok_iff.mp hs)
    | other r => exact .other h
    | null => cases h
    | list items => cases h
    | mapping fields => cases h
  · intro h
    cases h with
    | int => rfl
    | bool b => cases b <;> rfl
    | float hvalue hsize => exact integerOfFloat_eq_ok_iff.mpr ⟨hvalue, hsize⟩
    | text hread => exact integerOfText_eq_ok_iff.mpr hread
    | bytes hread =>
      exact encodedText_bind_eq_ok_iff.mpr ⟨_, rfl, integerOfText_eq_ok_iff.mpr hread⟩
    | other h => exact h

theorem StandsForInteger.unique {d : Datum} {m n : Int} (hm : StandsForInteger d m)
    (hn : StandsForInteger d n) : m = n := by
  rw [← integer_eq_ok_iff] at hm hn
  exact Except.ok.inj (hm.symm.trans hn)

/-- A value is checked against a minimum as the integer that it stands for. -/
theorem atLeast_eq_ok_iff {minimum : Nat} {d : Datum} {n : { n : Nat // minimum ≤ n }} :
    atLeast minimum d = .ok n ↔ StandsForInteger d n.val := by
  rw [← integer_eq_ok_iff, atLeast]
  cases integer d with
  | error ps => simp [Except.bind]
  | ok m =>
    rw [Except.bind]
    split
    · rename_i hminimum
      constructor
      · intro h
        obtain rfl := Except.ok.inj h
        rw [Int.toNat_of_nonneg (by omega)]
      · intro h
        obtain rfl := Except.ok.inj h
        rfl
    · rename_i hminimum
      constructor
      · intro h
        cases h
      · intro h
        obtain rfl := Except.ok.inj h
        exact (hminimum (Int.ofNat_le.mpr n.property)).elim

theorem StandsForInteger.exists_atLeast {minimum n : Nat} {d : Datum} (h : StandsForInteger d n)
    (hminimum : minimum ≤ n) : ∃ x, atLeast minimum d = .ok x :=
  ⟨⟨n, hminimum⟩, atLeast_eq_ok_iff.mpr h⟩

/-! ## Truth values -/

/-- A value stands for a truth value: it is one, or a number that is one or zero, or
a word for it, or the bytes of such a word, or a value of another kind that comes to
one. -/
inductive StandsForBoolean : Datum → Bool → Prop
  | bool (b : Bool) : StandsForBoolean (.bool b) b
  | int (b : Bool) : StandsForBoolean (.int b.toInt) b
  | float {x : Binary64} {b : Bool} (h : x.toInt? = some b.toInt) : StandsForBoolean (.float x) b
  | text {s : String} {b : Bool}
      (h : s.map Char.toLower ∈ if b then trueWords else falseWords) : StandsForBoolean (.text s) b
  | bytes {s : String} {b : Bool}
      (h : s.map Char.toLower ∈ if b then trueWords else falseWords) :
      StandsForBoolean (.bytes s.toUTF8) b
  | other {r : Readings} {b : Bool} (h : r.boolean = .ok b) : StandsForBoolean (.other r) b

theorem booleanOfInteger_eq_ok_iff {n : Int} {b : Bool} :
    booleanOfInteger n = .ok b ↔ n = b.toInt := by
  unfold booleanOfInteger
  by_cases hzero : n = 0
  · subst hzero
    cases b <;> simp
  · rw [if_neg hzero]
    by_cases hone : n = 1
    · subst hone
      cases b <;> simp
    · rw [if_neg hone]
      cases b <;> simp [hzero, hone, fail]

theorem natAbs_toInt_lt_integerLimit (b : Bool) : b.toInt.natAbs < integerLimit := by
  cases b <;> decide

theorem not_mem_falseWords : ∀ word ∈ trueWords, word ∉ falseWords := by decide

theorem booleanOfText_eq_ok_iff {s : String} {b : Bool} :
    booleanOfText s = .ok b ↔ s.map Char.toLower ∈ if b then trueWords else falseWords := by
  simp only [booleanOfText, List.contains_iff_mem]
  constructor
  · intro h
    split at h
    · rename_i hword
      obtain rfl := Except.ok.inj h
      exact hword
    · split at h
      · rename_i hword
        obtain rfl := Except.ok.inj h
        exact hword
      · cases h
  · intro hword
    cases b with
    | true => exact if_pos hword
    | false =>
      rw [if_neg fun htrue => not_mem_falseWords _ htrue hword]
      exact if_pos hword

theorem boolean_eq_ok_iff {d : Datum} {b : Bool} : boolean d = .ok b ↔ StandsForBoolean d b := by
  constructor
  · intro h
    cases d with
    | bool c =>
      obtain rfl := Except.ok.inj h
      exact .bool c
    | int n =>
      rw [boolean] at h
      split at h
      · rw [booleanOfInteger_eq_ok_iff] at h
        exact h ▸ .int b
      · cases h
    | float x =>
      rw [boolean] at h
      split at h
      · rename_i n hx
        rw [booleanOfInteger_eq_ok_iff] at h
        exact .float (h ▸ (integerOfFloat_eq_ok_iff.mp hx).1)
      · cases h
    | text s => exact .text (booleanOfText_eq_ok_iff.mp h)
    | bytes b =>
      obtain ⟨s, rfl, hs⟩ := encodedText_bind_eq_ok_iff.mp h
      exact .bytes (booleanOfText_eq_ok_iff.mp hs)
    | other r => exact .other h
    | null => cases h
    | list items => cases h
    | mapping fields => cases h
  · intro h
    have hsize := natAbs_toInt_lt_integerLimit b
    cases h with
    | bool => rfl
    | int =>
      have hrange : (-(integerLimit : Int) ≤ b.toInt && b.toInt < integerLimit) = true := by
        rw [Bool.and_eq_true, decide_eq_true_eq, decide_eq_true_eq]
        omega
      rw [boolean, if_pos hrange, booleanOfInteger_eq_ok_iff]
    | float hvalue =>
      rw [boolean, integerOfFloat_eq_ok_iff.mpr ⟨hvalue, hsize⟩]
      exact booleanOfInteger_eq_ok_iff.mpr rfl
    | text hword => exact booleanOfText_eq_ok_iff.mpr hword
    | bytes hword =>
      exact encodedText_bind_eq_ok_iff.mpr ⟨_, rfl, booleanOfText_eq_ok_iff.mpr hword⟩
    | other h => exact h

theorem StandsForBoolean.unique {d : Datum} {b c : Bool} (hb : StandsForBoolean d b)
    (hc : StandsForBoolean d c) : b = c := by
  rw [← boolean_eq_ok_iff] at hb hc
  exact Except.ok.inj (hb.symm.trans hc)

/-! ## Scalars -/

/-- A value stands for a scalar: it is one, or the bytes of a text, or a value of
another kind that comes to one. -/
inductive StandsForScalar : Datum → Scalar → Prop
  | scalar (s : Scalar) : StandsForScalar s.toDatum s
  | bytes (s : String) : StandsForScalar (.bytes s.toUTF8) (.text s)
  | other {r : Readings} {s : Scalar} (h : r.scalar = .ok s) : StandsForScalar (.other r) s

theorem scalar_eq_ok_iff {d : Datum} {s : Scalar} : scalar d = .ok s ↔ StandsForScalar d s := by
  constructor
  · intro h
    cases d with
    | bytes b =>
      rw [scalar] at h
      rcases Text.Utf8.decode_cases b with ⟨t, rfl, hdecode⟩ | ⟨-, m, hdecode, -⟩
      · rw [hdecode] at h
        obtain rfl := Except.ok.inj h
        exact .bytes t
      · rw [hdecode] at h
        cases h
    | other r => exact .other h
    | null =>
      obtain rfl := Except.ok.inj h
      exact .scalar .null
    | bool b =>
      obtain rfl := Except.ok.inj h
      exact .scalar (.bool b)
    | int n =>
      obtain rfl := Except.ok.inj h
      exact .scalar (.int n)
    | float x =>
      obtain rfl := Except.ok.inj h
      exact .scalar (.float x)
    | text t =>
      obtain rfl := Except.ok.inj h
      exact .scalar (.text t)
    | list items => cases h
    | mapping fields => cases h
  · intro h
    cases h with
    | scalar => exact scalar_toDatum s
    | bytes t => rw [scalar, Text.Utf8.decode_toUTF8]
    | other h => exact h

/-! ## Checks put together -/

section

variable {α β : Type} {a : Checked α} {b : Checked β}

theorem at_eq_ok_iff {step : Step} {x : α} : at_ step a = .ok x ↔ a = .ok x := by
  cases a <;> simp [at_, Except.mapError]

theorem both_eq_ok_iff {x : α} {y : β} : both a b = .ok (x, y) ↔ a = .ok x ∧ b = .ok y := by
  cases a <;> cases b <;> simp [both]

theorem both_eq_error_iff :
    (∃ ps, both a b = .error ps) ↔ (∃ ps, a = .error ps) ∨ ∃ ps, b = .error ps := by
  cases a <;> cases b <;> simp [both]

end

end SyntaxCorpus.Validation
