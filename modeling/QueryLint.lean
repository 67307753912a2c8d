import QueryLint.Fingerprint.Seen
import QueryLint.Issue.Reading
import QueryLint.Main
import QueryLint.Host.FileTree
import QueryLint.Proofs.Registry.Run
import QueryLint.Proofs.Registry.Sequential
import QueryLint.Proofs.Registry.Evolution
import QueryLint.Proofs.Registry.Lifecycle
import QueryLint.Proofs.Registry.Effects
import QueryLint.Proofs.Registry.Provenance
import QueryLint.Proofs.Fingerprint.Seen
import QueryLint.Proofs.Fingerprint.Replacements
import QueryLint.Proofs.Fingerprint.Templates
import QueryLint.Proofs.Registry.Deduplication
import QueryLint.Proofs.Registry.Conduct
import QueryLint.Proofs.Registry.Agreement
import QueryLint.Proofs.Analysis.Parts
import QueryLint.Proofs.Analysis.Walk
import QueryLint.Proofs.Analysis.Chain
import QueryLint.Proofs.Analysis.Signals
import QueryLint.Proofs.Analysis.Flags
import QueryLint.Proofs.Sql.Parts
import QueryLint.Proofs.Sql.Passages
import QueryLint.Proofs.Outline.Members
import QueryLint.Proofs.Outline.Lowering
import QueryLint.Proofs.Registry.Isolation
import QueryLint.Proofs.Analysis.Limits
import QueryLint.Proofs.Analysis.Places
import QueryLint.Proofs.Outline.Levels
import QueryLint.Proofs.Analysis.Readers
import QueryLint.Proofs.Registry.Identifiers
import QueryLint.Proofs.Analysis.Conjunctions
import QueryLint.Proofs.Outline.Conjunctions
import QueryLint.Proofs.Outline.Tables
import QueryLint.Proofs.Analysis.Tables
import QueryLint.Proofs.Checker.Spellings
import QueryLint.Proofs.Whitelist
import QueryLint.Proofs.Outline.Limits
import QueryLint.Proofs.Outline.Compound
import QueryLint.Proofs.Json.Reader
import QueryLint.Proofs.Issue.RoundTrip
import QueryLint.Proofs.Host.FileTree
import QueryLint.Proofs.Replay.Batches
import QueryLint.Proofs.Results
import QueryLint.Proofs.Report
import QueryLint.Proofs.IssueLog
import QueryLint.Proofs.Replay.Check
import QueryLint.Proofs.Replay.Enabling
import QueryLint.Proofs.Checker.Attribution
import QueryLint.Proofs.Checker.Qualifiers
import QueryLint.Proofs.Checker.Proposals
import QueryLint.Proofs.Checker.Registered
import QueryLint.Proofs.Outline.Sources
import QueryLint.Proofs.Outline.Heights
import QueryLint.Proofs.Outline.Counter
import QueryLint.Proofs.Outline.Statements
import QueryLint.Proofs.Sql.Wrappers
import QueryLint.Proofs.Outline.Wrappers
import QueryLint.Proofs.Analysis.Regrouping
import QueryLint.Proofs.Registry.Collisions
import QueryLint.Proofs.Fingerprint.Spellings
import QueryLint.Proofs.Registry.Shutdown
import QueryLint.Proofs.Registry.Entries
import QueryLint.Proofs.Registry.Mirroring
import QueryLint.Proofs.Registry.Installing
import QueryLint.Proofs.Analysis.Passes
import QueryLint.Proofs.Fingerprint.Forgetting
import QueryLint.Proofs.LowerCase
import QueryLint.Proofs.Fingerprint.Settled
import QueryLint.Proofs.Fingerprint.NormalForms
import QueryLint.Proofs.Registry.Checks
import QueryLint.Proofs.Report.Escapes
import QueryLint.Proofs.Text.Search
import QueryLint.Proofs.Error
import QueryLint.Proofs.Config.Settings
import QueryLint.Proofs.Config.Loading
import QueryLint.Proofs.Outline.Contents
import QueryLint.Proofs.Analysis.Joins
