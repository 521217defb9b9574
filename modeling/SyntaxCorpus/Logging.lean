/-
SyntaxCorpus.Logging — log entries, and which of them are shown.

* `Level`, `LogEntry` — an entry says which thread made it, because the
  workers of a batch log beside its main thread.
* `Environment` — environment variables, which may ask for debug logging.
* `Level.ofSettings` — the least level that is shown.
-/
import SyntaxCorpus.Text.LowerCase

namespace SyntaxCorpus

/-- The variables of an environment, with their values. -/
abbrev Environment := List (String × String)

/-- The value of a variable that is set. -/
def Environment.value? (env : Environment) (name : String) : Option String :=
  (env.find? (·.1 == name)).map (·.2)

/-- How grave a log entry is. -/
inductive Level
  | debug
  | info
  | warning
  | error
  deriving DecidableEq

/-- The name of a level. -/
def Level.name : Level → String
  | debug => "DEBUG"
  | info => "INFO"
  | warning => "WARNING"
  | error => "ERROR"

/-- The place of a level among all levels, the gravest one last. -/
def Level.rank : Level → Nat
  | debug => 0
  | info => 1
  | warning => 2
  | error => 3

/-- The thread that made an entry. -/
inductive Origin
  | main
  | worker
  deriving DecidableEq

/-- A log entry. -/
structure LogEntry where
  level : Level
  message : String
  origin : Origin := .main
  deriving DecidableEq

/-- An entry as a line: its level and its message. -/
def LogEntry.line (e : LogEntry) : String := s!"{e.level.name} {e.message}"

/-- Whether an entry is shown where `least` is the least level. -/
def LogEntry.isShown (least : Level) (e : LogEntry) : Bool := least.rank ≤ e.level.rank

/-- The variable that asks for debug logging. -/
def debugVariable : String := "ASTGEN_DEBUG"

/-- The name of the logger that all entries go to. -/
def loggerName : String := "astgen"

/-- Whether the value of the variable, if it has one, asks for debug logging:
`true`, `1` or `yes`, in any case. -/
def asksForDebug (value : Option String) : Bool :=
  match value with
  | some s => ["true", "1", "yes"].contains (Text.lower s)
  | none => false

/-- The least level that is shown: debug entries if `debug` says so, or, if it
says nothing, the environment; otherwise information if the user wants to hear
more, and warnings if not. -/
def Level.ofSettings (verbose : Bool) (debug : Option Bool) (env : Environment) : Level :=
  if debug.getD (asksForDebug (env.value? debugVariable)) then .debug
  else if verbose then .info
  else .warning

end SyntaxCorpus
