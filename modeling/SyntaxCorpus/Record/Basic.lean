/-
SyntaxCorpus.Record.Basic — the labels of syntax trees, and records.

* `Label` — the type and the value of a node. `Label.isPlain` holds of the
  labels that grammars give: their value is text or absent.
* `RawLabel` — what a parser offers as a label; nothing is known of its two
  parts before they are checked.
* `Record` — one node of a flattened tree: its number, its label and the
  numbers of its children. A record is valid by itself; whether a list of
  records describes a tree is decided elsewhere.
* `Record.ofFields` — the record of named values, or every problem with them.
-/
import SyntaxCorpus.Number.Layout
import SyntaxCorpus.Tree.Basic
import SyntaxCorpus.Validation.Check

namespace SyntaxCorpus

open Validation (Checked Step Kind)

/-- The type and the value of a node. -/
structure Label where
  type : String
  value : Scalar := .null
  deriving DecidableEq

instance : Inhabited Label := ⟨⟨"", .null⟩⟩

/-- Whether the value is text or absent. -/
def Label.isPlain (l : Label) : Bool :=
  match l.value with
  | .null | .text _ => true
  | _ => false

/-- What a parser offers as the type and the value of a node. -/
structure RawLabel where
  type : Datum
  value : Datum

/-- A label among the raw ones. -/
def Label.toRaw (l : Label) : RawLabel := ⟨.text l.type, l.value.toDatum⟩

/-- Equality of raw labels by the equality of values. -/
def RawLabel.same (a b : RawLabel) : Bool :=
  a.type.same b.type && a.value.same b.value

/-- The label that a raw one stands for, if its type is text and its value a
scalar. -/
def RawLabel.check (l : RawLabel) : Checked Label :=
  (Validation.both (Validation.at_ (.field "type") (Validation.string l.type))
    (Validation.at_ (.field "value") (Validation.scalar l.value))).map
      fun (type, value) => ⟨type, value⟩

theorem RawLabel.check_toRaw (l : Label) : l.toRaw.check = .ok l := by
  cases l with
  | mk type value => cases value <;> rfl

/-- How floating-point numbers are written where a value is shown as text: by
position from 10⁻⁴ up to 10¹⁶, otherwise with an exponent of two digits or
more. -/
def valueLayout : FloatLayout where
  leastPositional := -4
  leastScientific := 16
  exponentWidth := 2
  nan := "nan"
  infinity := "inf"
  minusInfinity := "-inf"

/-- Whether a value can be written as text. -/
def Scalar.isWritable : Scalar → Bool
  | .int n => SyntaxCorpus.isWritable n
  | _ => true

/-- A value as text, where it can be written; an absent value stays absent. -/
def Scalar.textual : Scalar → Scalar
  | .null => .null
  | .bool b => .text (if b then "True" else "False")
  | .int n => .text (toString n)
  | .float x => .text (valueLayout.write x)
  | .text s => .text s

/-- A node of a flattened tree, with a value of any kind. The numbers of its
children are not restricted. -/
structure RecordWith (Value : Type) where
  id : Nat
  type : String
  value : Value
  children : List Int

/-- A node of a flattened tree. -/
abbrev Record := RecordWith Scalar

instance : DecidableEq Record := fun ⟨i, t, v, cs⟩ ⟨j, u, w, ds⟩ =>
  decidable_of_iff (i = j ∧ t = u ∧ v = w ∧ cs = ds) (by simp)

namespace Record

/-- The label of a record, with its value as text. -/
def label (r : Record) : Label := ⟨r.type, r.value.textual⟩

/-- Equality of records, their values compared as scalars. -/
def same (a b : Record) : Bool :=
  a.id == b.id && a.type == b.type && a.value.same b.value && a.children == b.children

/-- Equality of lists of records. -/
def sameAll : List Record → List Record → Bool
  | [], [] => true
  | a :: as, b :: bs => same a b && sameAll as bs
  | _, _ => false

/-- The value of a field; of several fields with one name the last one
counts. -/
def field? (name : String) (fields : List (String × Datum)) : Option Datum :=
  (fields.reverse.find? (·.1 == name)).map (·.2)

/-- A field that must be there. -/
def required {α : Type} (name : String) (check : Datum → Checked α)
    (fields : List (String × Datum)) : Checked α :=
  Validation.at_ (.field name) <|
    match field? name fields with
    | some d => check d
    | none => Validation.fail .missing

/-- A field that has a value when it is left out. -/
def optional {α : Type} (name : String) (absent : α) (check : Datum → Checked α)
    (fields : List (String × Datum)) : Checked α :=
  match field? name fields with
  | some d => Validation.at_ (.field name) (check d)
  | none => .ok absent

/-- The numbers of children. -/
def checkChildren (kind : Kind) : Datum → Checked (List Int)
  | .list items => Validation.eachFrom 0 Validation.integer items
  | _ => Validation.fail kind

/-- The record of named values. Fields of other names do not count; the value
and the children may be left out. `kind` is the problem with children that
are not a list. -/
def ofFields (kind : Kind) (fields : List (String × Datum)) : Checked Record :=
  (Validation.both (required "id" (Validation.atLeast 0) fields) <|
    Validation.both (required "type" Validation.string fields) <|
      Validation.both (optional "value" .null Validation.scalar fields)
        (optional "children" [] (checkChildren kind) fields)).map
    fun (id, type, value, children) => ⟨id.val, type, value, children⟩

end Record
end SyntaxCorpus
