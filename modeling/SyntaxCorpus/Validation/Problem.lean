/-
SyntaxCorpus.Validation.Problem — what can be wrong with a given value.

A problem has a kind and a location: the fields and list positions that lead
to the value. A check lists every problem it finds, in the order of the
fields; the text of a list of problems names each one with its location, its
wording and its tag.
-/
namespace SyntaxCorpus.Validation

/-- One step on the way to a value. -/
inductive Step
  | field (name : String)
  | item (index : Nat)
  deriving DecidableEq

/-- What can be wrong with a value. -/
inductive Kind
  | missing
  | notString
  | undecodableString
  | notInteger
  | unreadableInteger
  | integerTooLarge
  | fractionalNumber
  | infiniteNumber
  | belowMinimum (minimum : Nat)
  | notNumber
  | unreadableNumber
  | notBoolean
  | unreadableBoolean
  | notList
  | notArray
  | notObject
  | malformedDocument
  deriving DecidableEq

/-- A kind of problem in words. -/
def Kind.message : Kind → String
  | missing => "Field required"
  | notString => "Input should be a valid string"
  | undecodableString =>
    "Input should be a valid string, unable to parse raw data as a unicode string"
  | notInteger => "Input should be a valid integer"
  | unreadableInteger =>
    "Input should be a valid integer, unable to parse string as an integer"
  | integerTooLarge => "Unable to parse input string as an integer, exceeded maximum size"
  | fractionalNumber =>
    "Input should be a valid integer, got a number with a fractional part"
  | infiniteNumber => "Input should be a finite number"
  | belowMinimum n => s!"Input should be greater than or equal to {n}"
  | notNumber => "Input should be a valid number"
  | unreadableNumber => "Input should be a valid number, unable to parse string as a number"
  | notBoolean => "Input should be a valid boolean"
  | unreadableBoolean => "Input should be a valid boolean, unable to interpret input"
  | notList => "Input should be a valid list"
  | notArray => "Input should be a valid array"
  | notObject => "Input should be an object"
  | malformedDocument => "Invalid JSON"

/-- The tag of a kind of problem. -/
def Kind.tag : Kind → String
  | missing => "missing"
  | notString => "string_type"
  | undecodableString => "string_unicode"
  | notInteger => "int_type"
  | unreadableInteger => "int_parsing"
  | integerTooLarge => "int_parsing_size"
  | fractionalNumber => "int_from_float"
  | infiniteNumber => "finite_number"
  | belowMinimum _ => "greater_than_equal"
  | notNumber => "float_type"
  | unreadableNumber => "float_parsing"
  | notBoolean => "bool_type"
  | unreadableBoolean => "bool_parsing"
  | notList | notArray => "list_type"
  | notObject => "model_type"
  | malformedDocument => "json_invalid"

/-- A problem and where it is. -/
structure Problem where
  location : List Step
  kind : Kind
  deriving DecidableEq

/-- A step in words. -/
def Step.text : Step → String
  | field name => name
  | item index => toString index

/-- The steps to a value, joined by points. -/
def locationText (steps : List Step) : String :=
  String.intercalate "." (steps.map Step.text)

/-- A problem in words. A document that is not well-formed as a whole has no
location and no separator after it. -/
def Problem.text (p : Problem) : String :=
  match p.kind with
  | .malformedDocument => s!"{p.kind.message} [{p.kind.tag}]"
  | k => s!"{locationText p.location}: {k.message} [{k.tag}]"

/-- All problems in words. -/
def problemsText (ps : List Problem) : String :=
  String.intercalate "; " (ps.map Problem.text)

/-- The problem one step further away. -/
def Problem.below (step : Step) (p : Problem) : Problem :=
  { p with location := step :: p.location }

/-- The outcome of a check: the value, or every problem with it. -/
abbrev Checked (α : Type) := Except (List Problem) α

/-- A single problem at the value itself. -/
def fail {α : Type} (kind : Kind) : Checked α := .error [⟨[], kind⟩]

/-- A check of the value one step away. -/
def at_ {α : Type} (step : Step) (c : Checked α) : Checked α :=
  c.mapError (List.map (Problem.below step))

/-- Two checks made independently: the problems of both are listed. -/
def both {α β : Type} (a : Checked α) (b : Checked β) : Checked (α × β) :=
  match a, b with
  | .ok x, .ok y => .ok (x, y)
  | .ok _, .error q => .error q
  | .error p, .ok _ => .error p
  | .error p, .error q => .error (p ++ q)

/-- A check of every item of a list from position `index` on, listing the
problems of all of them. -/
def eachFrom {α β : Type} (index : Nat) (check : α → Checked β) : List α → Checked (List β)
  | [] => .ok []
  | x :: xs =>
    (both (at_ (.item index) (check x)) (eachFrom (index + 1) check xs)).map fun (y, ys) => y :: ys

end SyntaxCorpus.Validation
