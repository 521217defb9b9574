import SyntaxCorpus.Main
import SyntaxCorpus.Record.Rebuild
import SyntaxCorpus.Proofs.Tree.Preorder
import SyntaxCorpus.Proofs.Tree.Address
import SyntaxCorpus.Proofs.Tree.Assemble
import SyntaxCorpus.Proofs.Record.Flatten
import SyntaxCorpus.Proofs.Record.Describe
import SyntaxCorpus.Proofs.Record.Rebuild
import SyntaxCorpus.Proofs.Record.RoundTrip
import SyntaxCorpus.Proofs.Record.Preorder
import SyntaxCorpus.Proofs.Grammar.Answer
import SyntaxCorpus.Proofs.Grammar.Convert
import SyntaxCorpus.Proofs.Grammar.Normalise
import SyntaxCorpus.Proofs.Grammar.Extras
import SyntaxCorpus.Proofs.Grammar.Fragment
import SyntaxCorpus.Proofs.Number.Rounding
import SyntaxCorpus.Proofs.Number.Shortest
import SyntaxCorpus.Proofs.Number.DecimalText
import SyntaxCorpus.Proofs.Json.Text
import SyntaxCorpus.Proofs.Json.Token
import SyntaxCorpus.Proofs.Record.Document
import SyntaxCorpus.Proofs.Record.Renumber
import SyntaxCorpus.Proofs.Batch.Sink
import SyntaxCorpus.Proofs.Batch.Sinks
import SyntaxCorpus.Proofs.Batch.Step
import SyntaxCorpus.Proofs.Batch.Dispatch
import SyntaxCorpus.Proofs.Batch.Workers
import SyntaxCorpus.Proofs.Batch.Log
import SyntaxCorpus.Proofs.Batch.Progress
import SyntaxCorpus.Proofs.Text.Split
import SyntaxCorpus.Proofs.Path.Basic
import SyntaxCorpus.Proofs.Parser.File
import SyntaxCorpus.Proofs.Batch.FailureLine
import SyntaxCorpus.Proofs.Discovery
import SyntaxCorpus.Proofs.Batch.Outcome
import SyntaxCorpus.Proofs.Batch.Run
import SyntaxCorpus.Proofs.Batch.Calls
import SyntaxCorpus.Proofs.Batch.Outputs
import SyntaxCorpus.Proofs.Batch.Pairing
import SyntaxCorpus.Proofs.Batch.FailureLog
import SyntaxCorpus.Proofs.Batch.Isolation
import SyntaxCorpus.Proofs.Batch.Tally
import SyntaxCorpus.Proofs.Grammar.Session
import SyntaxCorpus.Proofs.Batch.Order
import SyntaxCorpus.Proofs.Batch.Interrupt
import SyntaxCorpus.Proofs.Export
import SyntaxCorpus.Proofs.Batch.SingleFile
import SyntaxCorpus.Proofs.Text.Utf8
import SyntaxCorpus.Proofs.Record.ReadBack
import SyntaxCorpus.Proofs.Export.Atomic
import SyntaxCorpus.Proofs.FileSystem.Opening
import SyntaxCorpus.Proofs.Batch.Fatal
import SyntaxCorpus.Proofs.Console.Line
import SyntaxCorpus.Proofs.CommandLine.Run
import SyntaxCorpus.Proofs.Discovery.Escape
import SyntaxCorpus.Proofs.Discovery.Matching
import SyntaxCorpus.Proofs.Path.Relative
import SyntaxCorpus.Proofs.Text.Malformed
import SyntaxCorpus.Proofs.Traversal
import SyntaxCorpus.Proofs.Text.CodePoints
import SyntaxCorpus.Proofs.Record.Payload
import SyntaxCorpus.Proofs.Path.Suffix
import SyntaxCorpus.Proofs.Language.Resolve
import SyntaxCorpus.Proofs.Text.Blank
import SyntaxCorpus.Proofs.Text.LowerCase
import SyntaxCorpus.Proofs.Validation.Check
import SyntaxCorpus.Proofs.Options
import SyntaxCorpus.Proofs.Text.Words
import SyntaxCorpus.Proofs.Batch.SinkPaths
