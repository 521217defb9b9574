/-
SyntaxCorpus.Batch.Tally — how many files of a batch were taken.

* `Tally` — the numbers of files.
* `Tally.count` — one more file, with the progress entry that is due.
-/
import SyntaxCorpus.Logging

namespace SyntaxCorpus

/-- The numbers of files of a batch: all of them, those taken so far, and
those rejected so far. -/
structure Tally where
  total : Nat := 0
  accepted : Nat := 0
  rejected : Nat := 0
  deriving DecidableEq

namespace Tally

/-- The number of files that are done. -/
def processed (t : Tally) : Nat := t.accepted + t.rejected

/-- The tally with one more file done. -/
def add (t : Tally) (accepted : Bool) : Tally :=
  if accepted then { t with accepted := t.accepted + 1 }
  else { t with rejected := t.rejected + 1 }

/-- The progress entry that is due at a tally, after every `interval` files. -/
def progress (t : Tally) (interval : Nat) : List LogEntry :=
  if t.processed % interval == 0 then
    [{ level := .info, message := s!"progress: {t.processed}/{t.total}" }]
  else []

/-- One more file done: the new tally, and the progress entry that is due. -/
def count (t : Tally) (interval : Nat) (accepted : Bool) : Tally × List LogEntry :=
  let t := t.add accepted
  (t, t.progress interval)

end Tally
end SyntaxCorpus
