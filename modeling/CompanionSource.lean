import CompanionSource.CommandLine.Request
import CompanionSource.CommandLine.Run
import CompanionSource.CommandLine.Usage
import CompanionSource.Declared.Annotation
import CompanionSource.Declared.Declaration
import CompanionSource.Declared.Type
import CompanionSource.Directive
import CompanionSource.Document.Fields
import CompanionSource.Document.Notation
import CompanionSource.Document.Value
import CompanionSource.Files.Emitter
import CompanionSource.Files.Path
import CompanionSource.Files.Tree
import CompanionSource.Json.Reader
import CompanionSource.Main
import CompanionSource.Moment.Basic
import CompanionSource.Moment.Calendar
import CompanionSource.Moment.Reader
import CompanionSource.Name
import CompanionSource.Number.Binary64
import CompanionSource.Number.Shortest
import CompanionSource.Provenance
import CompanionSource.Round.Basic
import CompanionSource.Round.Batch
import CompanionSource.Round.Diagnostic
import CompanionSource.Round.Emitter
import CompanionSource.Round.Plan
import CompanionSource.Settings
import CompanionSource.Snapshot.Basic
import CompanionSource.Snapshot.Issue
import CompanionSource.Snapshot.Loading
import CompanionSource.Source.Annotation
import CompanionSource.Source.Expr
import CompanionSource.Source.File
import CompanionSource.Source.Imports
import CompanionSource.Source.Literal
import CompanionSource.Source.Member
import CompanionSource.Source.Modifier
import CompanionSource.Source.Page
import CompanionSource.SourceUnit
import CompanionSource.Synthesis.Context
import CompanionSource.Synthesis.Copy
import CompanionSource.Synthesis.Eligibility
import CompanionSource.Synthesis.FreshName
import CompanionSource.Synthesis.NiceString
import CompanionSource.Synthesis.Refusal
import CompanionSource.Synthesis.Wrapper
import CompanionSource.Text.Letter
import CompanionSource.Text.Pieces
import CompanionSource.Text.Ranges
import CompanionSource.Toml.Layout
import CompanionSource.Toml.Lexeme
import CompanionSource.Toml.Reader
import CompanionSource.Toml.Scalar
import CompanionSource.TypeExpr.Basic
import CompanionSource.TypeExpr.Parser
import CompanionSource.Written.Annotation
import CompanionSource.Written.Conversion
import CompanionSource.Written.Entry
import CompanionSource.Written.Reader
import CompanionSource.Proofs.Arguments
import CompanionSource.Proofs.Copies
import CompanionSource.Proofs.Dependence
import CompanionSource.Proofs.Eligibility
import CompanionSource.Proofs.Execution
import CompanionSource.Proofs.FreshName
import CompanionSource.Proofs.Name
import CompanionSource.Proofs.NiceString.Basic
import CompanionSource.Proofs.NiceString.Rendering
import CompanionSource.Proofs.NiceString.Visibility
import CompanionSource.Proofs.Round.Absence
import CompanionSource.Proofs.Round.Accounting
import CompanionSource.Proofs.Round.Bookkeeping
import CompanionSource.Proofs.Round.Collision
import CompanionSource.Proofs.Round.Grouping
import CompanionSource.Proofs.Round.Ledger
import CompanionSource.Proofs.Round.Performance
import CompanionSource.Proofs.Round.Record
import CompanionSource.Proofs.Round.Reordering
import CompanionSource.Proofs.Round.Spelling
import CompanionSource.Proofs.Round.Truncation
import CompanionSource.Proofs.Snapshot.DeclaredNames
import CompanionSource.Proofs.Snapshot.Exactness
import CompanionSource.Proofs.Snapshot.Names
import CompanionSource.Proofs.Snapshot.Selection
import CompanionSource.Proofs.Snapshot.Soundness
import CompanionSource.Proofs.Snapshot.Spelling
import CompanionSource.Proofs.Source.Documentation
import CompanionSource.Proofs.Source.LiteralReading
import CompanionSource.Proofs.Source.Template
import CompanionSource.Proofs.Source.TemplateReading
import CompanionSource.Proofs.Text
import CompanionSource.Proofs.Traversal
import CompanionSource.Proofs.TypeExpr.Grammar
import CompanionSource.Proofs.TypeExpr.Projection
import CompanionSource.Proofs.TypeExpr.Reading
import CompanionSource.Proofs.TypeExpr.RoundTrip
import CompanionSource.Proofs.Wrapper.Basic
import CompanionSource.Proofs.Wrapper.Capture
import CompanionSource.Proofs.Wrapper.Completeness
import CompanionSource.Proofs.Wrapper.Forwarding
import CompanionSource.Proofs.Wrapper.LogLine
import CompanionSource.Proofs.Source.Dates
import CompanionSource.Proofs.Round.Dates
import CompanionSource.Proofs.Files
import CompanionSource.Proofs.Files.Path
import CompanionSource.Proofs.Files.Containment
import CompanionSource.Proofs.Files.Tree
import CompanionSource.Proofs.Files.Agreement
import CompanionSource.Proofs.Round.DeclaredNames
import CompanionSource.Proofs.TypeExpr.Parts
import CompanionSource.Proofs.Source.DistinctTypes
import CompanionSource.Proofs.Source.Shortening
import CompanionSource.Proofs.Source.Types
import CompanionSource.Proofs.Round.Types
import CompanionSource.Proofs.Round.Shortening
import CompanionSource.Proofs.Snapshot.Resolution
import CompanionSource.Proofs.Round.Receivers
import CompanionSource.Proofs.Round.FirstClaimant
import CompanionSource.Proofs.NiceString.TypeParameters
import CompanionSource.Proofs.TypeExpr.Trimming
import CompanionSource.Proofs.Written.Conversion
import CompanionSource.Proofs.TypeExpr.Stopping
import CompanionSource.Proofs.TypeExpr.Lookahead
import CompanionSource.Proofs.TypeExpr.FirstFault
import CompanionSource.Proofs.Written.Image
import CompanionSource.Proofs.Written.FirstFault
import CompanionSource.Proofs.Round.Batching
import CompanionSource.Proofs.Source.Indentation
import CompanionSource.Proofs.Source.Rendering
import CompanionSource.Proofs.Wrapper.ResultName
import CompanionSource.Proofs.Source.Chunking
import CompanionSource.Proofs.Source.TypePrinting
import CompanionSource.Proofs.Source.Nesting
import CompanionSource.Proofs.Source.TypeVariableReading
import CompanionSource.Proofs.DottedIdentifier
import CompanionSource.Proofs.Settings
