import TrigramSearch.CommandLine.FileTree
import TrigramSearch.Main
import TrigramSearch.Proofs.Bloom.Bits
import TrigramSearch.Proofs.Bloom.Contents
import TrigramSearch.Proofs.Collection.Actions
import TrigramSearch.Proofs.Collection.Versions
import TrigramSearch.Proofs.Index.Build
import TrigramSearch.Proofs.Index.Freshness
import TrigramSearch.Proofs.Index.Lifetime
import TrigramSearch.Proofs.Pattern.Escapes
import TrigramSearch.Proofs.Pattern.Legible
import TrigramSearch.Proofs.Pattern.Mandatory
import TrigramSearch.Proofs.Pattern.Scanning
import TrigramSearch.Proofs.Pattern.Skipping
import TrigramSearch.Proofs.Regex.Bounds
import TrigramSearch.Proofs.Regex.ClassSteps
import TrigramSearch.Proofs.Regex.Matcher
import TrigramSearch.Proofs.Regex.Spans
import TrigramSearch.Proofs.Regex.Steps
import TrigramSearch.Proofs.Search.Candidates
import TrigramSearch.Proofs.Search.Accounting
import TrigramSearch.Proofs.Search.Reuse
import TrigramSearch.Proofs.Search.Session
import TrigramSearch.Proofs.Search.Soundness
import TrigramSearch.Proofs.Text.Occurrence
import TrigramSearch.Proofs.Trigram.Windows
import TrigramSearch.Search.Engine
import TrigramSearch.Settings.File
import TrigramSearch.Settings.Json
import TrigramSearch.Proofs.Bloom.Answers
import TrigramSearch.Proofs.Search.Assertion
import TrigramSearch.Proofs.Search.CandidateSet
import TrigramSearch.Proofs.Search.Substring
import TrigramSearch.Proofs.Pattern.Quoting
import TrigramSearch.Proofs.Search.Explanation
import TrigramSearch.Proofs.Search.Results
import TrigramSearch.Proofs.Settings.Changes
import TrigramSearch.Proofs.Number.Rounding
import TrigramSearch.Proofs.Number.Shortest
import TrigramSearch.Proofs.Number.Positional
import TrigramSearch.Proofs.Toml.Scalars
import TrigramSearch.Proofs.Toml.Strings
import TrigramSearch.Proofs.Toml.Documents
import TrigramSearch.Proofs.Settings.RoundTrip
import TrigramSearch.Proofs.Pattern.Flat
import TrigramSearch.Proofs.Pattern.Appending
import TrigramSearch.Proofs.Regex.Single
import TrigramSearch.Proofs.CommandLine.Repetition
import TrigramSearch.Proofs.Pattern.Brackets
import TrigramSearch.Proofs.Search.SharedIdentity
import TrigramSearch.Proofs.Search.FilterSize
import TrigramSearch.Proofs.Search.Narrowing
import TrigramSearch.Proofs.Trigram.CaseVariants
import TrigramSearch.Proofs.Pattern.IgnoringCase
import TrigramSearch.Proofs.Pattern.Provenance
import TrigramSearch.Proofs.Pattern.Verdict
import TrigramSearch.Proofs.Document.Paths
import TrigramSearch.Proofs.Search.Recording
import TrigramSearch.Proofs.Bloom.Updates
import TrigramSearch.Proofs.Index.Interleaving
import TrigramSearch.Proofs.Json.Numbers
import TrigramSearch.Proofs.Json.Strings
import TrigramSearch.Proofs.Json.Grammar
import TrigramSearch.Proofs.Json.Texts
import TrigramSearch.Proofs.CommandLine.Lines
import TrigramSearch.Proofs.CommandLine.Loading
import TrigramSearch.Proofs.Bloom.Addresses
import TrigramSearch.Proofs.Search.Verification
import TrigramSearch.Proofs.Pattern.Positions
import TrigramSearch.Proofs.Pattern.Termination
import TrigramSearch.Proofs.CommandLine.Reporting
