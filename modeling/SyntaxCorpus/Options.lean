/-
SyntaxCorpus.Options — the options of a batch.

Each option is given for the run, or else by an environment variable that is
not blank, or else it has its default. A given value is checked even if it
comes from the environment, and a variable is not looked at when its option is
given for the run.

* `BatchOptions` — options that hold together.
* `Overrides` — the options given for a run.
* `BatchOptions.load` — the options of a run, or every problem with them.
-/
import SyntaxCorpus.Logging
import SyntaxCorpus.Text.Blank
import SyntaxCorpus.Validation.Check

namespace SyntaxCorpus

open Validation (Checked Problem Step)

/-- The options of a batch. -/
structure BatchOptions where
  /-- The least number of nodes of a tree that is taken. -/
  minNodes : Nat
  /-- The greatest number of nodes of a tree that is taken. -/
  maxNodes : Nat
  /-- Whether every file holds a single declaration. -/
  methodOnly : Bool
  /-- The language of all files; if there is none, their endings decide. -/
  language : Option String
  workers : Nat
  /-- How many files there are from one progress entry to the next. -/
  progressInterval : Nat
  minNodes_le_maxNodes : minNodes ≤ maxNodes
  workers_pos : 1 ≤ workers
  progressInterval_pos : 1 ≤ progressInterval

/-- The options given for a run; `null` stands for one that is not given. -/
structure Overrides where
  minNodes : Datum := .null
  maxNodes : Datum := .null
  methodOnly : Datum := .null
  language : Datum := .null
  workers : Datum := .null
  progressInterval : Datum := .null

/-- What is wrong with the options of a run. -/
inductive ConfigError
  | problems (ps : List Problem)
  | disordered (minNodes maxNodes : Nat)
  deriving DecidableEq

/-- The variables that options are taken from, by the names of the options. -/
def optionVariables : List (String × String) := [
  ("min_nodes", "ASTGEN_MIN_NODES"),
  ("max_nodes", "ASTGEN_MAX_NODES"),
  ("workers", "ASTGEN_WORKERS"),
  ("progress_interval", "ASTGEN_PROGRESS_INTERVAL")]

/-- An option as an error names it: with its variable, if it has one. -/
def optionLabel (location : List Step) : String :=
  let name := Validation.locationText location
  match optionVariables.find? (·.1 == name) with
  | some (_, setting) => s!"{name} ({setting})"
  | none => name

/-- The error in words. -/
def ConfigError.message : ConfigError → String
  | problems ps =>
    "invalid options: " ++ String.intercalate "; "
      (ps.map fun p => s!"{optionLabel p.location}: {p.kind.message}")
  | disordered least greatest =>
    "invalid options: Value error, " ++
      messageWith [least, greatest]
        s!"min_nodes ({least}) is greater than max_nodes ({greatest})"

namespace BatchOptions

/-- The least number of nodes, if none is given. -/
def defaultMinNodes : Nat := 20

/-- The greatest number of nodes, if none is given. -/
def defaultMaxNodes : Nat := 30000

/-- The distance of progress entries, if none is given. -/
def defaultProgressInterval : Nat := 1000

/-- One worker for each processor; one, if their number is unknown. -/
def defaultWorkers (processors : Option Nat) : Nat := max 1 (processors.getD 1)

/-- The value of an option in the environment. -/
def environmentValue? (env : Environment) (name : String) : Option Datum := do
  let (_, setting) ← optionVariables.find? (·.1 == name)
  let value ← env.value? setting
  let value := Text.strip value
  if value.isEmpty then none else some (.text value)

/-- The value of an option: the given one, or the one in the environment. -/
def effective? (env : Environment) (name : String) : Datum → Option Datum
  | .null => environmentValue? env name
  | d => some d

/-- An option, checked where it has a value. -/
def option {α : Type} (env : Environment) (name : String) (given : Datum)
    (check : Datum → Checked α) (default : α) : Checked α :=
  match effective? env name given with
  | some d => Validation.at_ (.field name) (check d)
  | none => .ok default

/-- The options of a run. `processors` is their number, where it is known. -/
def load (env : Environment) (processors : Option Nat) (given : Overrides) :
    Except ConfigError BatchOptions :=
  let checkedOptions :=
    Validation.both
      (option env "min_nodes" given.minNodes (Validation.atLeast 0)
        ⟨defaultMinNodes, Nat.zero_le _⟩) <|
    Validation.both
      (option env "max_nodes" given.maxNodes (Validation.atLeast 0)
        ⟨defaultMaxNodes, Nat.zero_le _⟩) <|
    Validation.both (option env "method_only" given.methodOnly Validation.boolean false) <|
    Validation.both
      (option env "language" given.language
        (fun d => (Validation.string d).map some) none) <|
    Validation.both
      (option env "workers" given.workers (Validation.atLeast 1)
        ⟨defaultWorkers processors, Nat.le_max_left ..⟩)
      (option env "progress_interval" given.progressInterval (Validation.atLeast 1)
        ⟨defaultProgressInterval, by decide⟩)
  match checkedOptions with
  | .error ps => .error (.problems ps)
  | .ok (least, greatest, methodOnly, language, workers, interval) =>
    if h : least.val ≤ greatest.val then
      .ok ⟨least, greatest, methodOnly, language, workers, interval, h, workers.property,
        interval.property⟩
    else .error (.disordered least greatest)

end BatchOptions
end SyntaxCorpus
