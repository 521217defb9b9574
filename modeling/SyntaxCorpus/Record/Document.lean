/-
SyntaxCorpus.Record.Document — records as a JSON document of one line.

A document is an array with an object for every record, without spaces. The
fields come in a fixed order; an absent value has no field, and a
floating-point value without digits is written as `null`.

* `write` — the document of a list of records.
* `writePayloads` — the same for records whose values may be raw bytes, which
  have to be the encoding of a text, or code points, which have to be characters.
* `read`, `readBytes` — the records of a document, or every problem with it;
  `readWith` leaves open how long numbers may be.
-/
import SyntaxCorpus.Json.Reader
import SyntaxCorpus.Record.Basic
import SyntaxCorpus.Text.CodePoints
import SyntaxCorpus.Text.Utf8

namespace SyntaxCorpus

open Validation (Checked)

/-- Why records have no document. -/
inductive SerializationError
  /-- Raw bytes that are not the encoding of a text. -/
  | illFormed (part : Text.Utf8.Malformed)
  /-- Code points that are no text. -/
  | unencodable (part : Text.Unencodable)
  | other (detail : String)
  deriving DecidableEq

/-- The cause in words. -/
def SerializationError.message : SerializationError → String
  | illFormed m => s!"cannot serialize AST: Error serializing to JSON: {m.message}"
  | unencodable u =>
    "cannot serialize AST: Error serializing to JSON: UnicodeEncodeError: " ++ u.message
  | other detail => s!"cannot serialize AST: {detail}"

/-- A value that may be raw bytes, or a sequence of code points that need not be a
text. -/
inductive Payload
  | scalar (s : Scalar)
  | codePoints (ps : List Text.CodePoint)
  | bytes (b : ByteArray)

/-- The scalar of a value: code points stand for the text of these characters, and
bytes for the text that they encode. -/
def Payload.toScalar : Payload → Except SerializationError Scalar
  | .scalar s => .ok s
  | .codePoints ps => ((Text.ofCodePoints ps).map Scalar.text).mapError .unencodable
  | .bytes b => ((Text.Utf8.decode b).map Scalar.text).mapError .illFormed

namespace Document

/-- How floating-point numbers are written in a document: by position from
10⁻⁵ up to 10¹⁶, otherwise with an exponent of as few digits as possible. -/
def numberLayout : FloatLayout where
  leastPositional := -5
  leastScientific := 16
  exponentWidth := 1
  nan := "null"
  infinity := "null"
  minusInfinity := "null"

/-- A value; an absent one has no text. -/
def scalarText : Scalar → Option (List Char)
  | .null => none
  | .bool b => some (if b then "true" else "false").toList
  | .int n => some (toString n).toList
  | .float x => some (numberLayout.write x).toList
  | .text s => some (Json.escaped s)

/-- The parts of a list with commas between them. -/
def commaSeparated : List (List Char) → List Char
  | [] => []
  | [x] => x
  | x :: xs => x ++ ',' :: commaSeparated xs

/-- A list in brackets. -/
def arrayText (items : List (List Char)) : List Char :=
  '[' :: commaSeparated items ++ [']']

/-- A field of an object. -/
def fieldText (name : String) (value : List Char) : List Char :=
  Json.escaped name ++ ':' :: value

/-- A record as an object. -/
def recordText (r : Record) : List Char :=
  let fields :=
    [fieldText "id" (toString r.id).toList, fieldText "type" (Json.escaped r.type)]
      ++ ((scalarText r.value).map (fieldText "value")).toList
      ++ [fieldText "children" (arrayText (r.children.map fun c => (toString c).toList))]
  '\x7b' :: commaSeparated fields ++ ['\x7d']

/-- The document of a list of records. -/
def write (records : List Record) : String :=
  String.ofList (arrayText (records.map recordText))

/-- The document of a list of records whose values may be raw bytes or code points.
The first record with a value that is no text makes it fail. -/
def writePayloads (records : List (RecordWith Payload)) : Except SerializationError String :=
  (records.mapM fun r : RecordWith Payload =>
    r.value.toScalar.map fun v => { r with value := v }).map write

/-- The record that an object of a document describes. -/
def recordOf : Datum → Checked Record
  | .mapping fields => Record.ofFields .notArray fields
  | _ => Validation.fail .notObject

/-- The records that a value describes. -/
def recordsOf : Datum → Checked (List Record)
  | .list items => Validation.eachFrom 0 recordOf items
  | _ => Validation.fail .notArray

/-- The records of a document, for a reader that limits the length of a number
up to its point, or takes numbers of any length. -/
def readWith (limit : Option Nat) (text : String) : Checked (List Record) :=
  match Json.read limit text with
  | some d => recordsOf d
  | none => Validation.fail .malformedDocument

/-- The records of a document. -/
def read (text : String) : Checked (List Record) := readWith (some maxIntegerLength) text

/-- The records of a document in UTF-8. -/
def readBytes (bytes : ByteArray) : Checked (List Record) :=
  match Text.Utf8.decode bytes with
  | .ok text => read text
  | .error _ => Validation.fail .malformedDocument

end Document
end SyntaxCorpus
