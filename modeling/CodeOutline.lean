import CodeOutline.Analyzer.Answer
import CodeOutline.Analyzer.Basic
import CodeOutline.Archive
import CodeOutline.CommandLine.Parameter
import CodeOutline.CommandLine.Request
import CodeOutline.CommandLine.Run
import CodeOutline.CommandLine.Session
import CodeOutline.Config
import CodeOutline.Declaration
import CodeOutline.Disk
import CodeOutline.Error
import CodeOutline.Glob.Basic
import CodeOutline.Glob.Parser
import CodeOutline.Index.Basic
import CodeOutline.Language
import CodeOutline.Main
import CodeOutline.Matching.Expr
import CodeOutline.Members
import CodeOutline.Notice
import CodeOutline.Outline.Basic
import CodeOutline.Outline.Definition
import CodeOutline.Outline.Extract
import CodeOutline.Path
import CodeOutline.Polyglot.Answer
import CodeOutline.Polyglot.Basic
import CodeOutline.Profile
import CodeOutline.Project
import CodeOutline.Query
import CodeOutline.Report.Basic
import CodeOutline.Report.Value
import CodeOutline.Rules.Basic
import CodeOutline.Rules.Check
import CodeOutline.Rules.Go
import CodeOutline.Rules.Java
import CodeOutline.Rules.JavaScript
import CodeOutline.Rules.Python
import CodeOutline.Rules.Registry
import CodeOutline.Rules.Rust
import CodeOutline.Rules.Script
import CodeOutline.Rules.TypeScript
import CodeOutline.Search.Basic
import CodeOutline.Search.CharSet
import CodeOutline.Search.Parser
import CodeOutline.Signature.Lead
import CodeOutline.Signature.Render
import CodeOutline.Skeleton
import CodeOutline.Span
import CodeOutline.Table
import CodeOutline.Text.Blank
import CodeOutline.Text.Case
import CodeOutline.Text.Fold
import CodeOutline.Text.Letter
import CodeOutline.Text.Lowercase
import CodeOutline.Text.Number
import CodeOutline.Text.Quoted
import CodeOutline.Text.Run
import CodeOutline.Text.Script
import CodeOutline.Text.Slice
import CodeOutline.Text.Unprintable
import CodeOutline.Tree.Basic
import CodeOutline.Tree.Pattern
import CodeOutline.Tree.Place
import CodeOutline.Yaml.Glyph
import CodeOutline.Yaml.Node
import CodeOutline.Yaml.Scalar
import CodeOutline.Yaml.Token
import CodeOutline.Proofs.Table.Lookup
import CodeOutline.Proofs.Index.Slots
import CodeOutline.Proofs.Index.Contents
import CodeOutline.Proofs.Index.Answers
import CodeOutline.Proofs.Index.History
import CodeOutline.Proofs.Outline.Extraction
import CodeOutline.Proofs.Path.Plain
import CodeOutline.Proofs.Disk.Places
import CodeOutline.Proofs.Project.Listing
import CodeOutline.Proofs.Index.Agreement
import CodeOutline.Proofs.Analyzer.Refresh
import CodeOutline.Proofs.Analyzer.Rebuild
import CodeOutline.Proofs.Polyglot.Engines
import CodeOutline.Proofs.Skeleton.Lines
import CodeOutline.Proofs.CommandLine.Skeletons
import CodeOutline.Proofs.Index.Stored
import CodeOutline.Proofs.Index.Kinds
import CodeOutline.Proofs.Index.Orders
import CodeOutline.Proofs.Index.Packages
import CodeOutline.Proofs.Index.Nesting
import CodeOutline.Proofs.Analyzer.Integrity
import CodeOutline.Proofs.Outline.Precedence
import CodeOutline.Proofs.Outline.Ownership
import CodeOutline.Proofs.Outline.Lexical
import CodeOutline.Proofs.Skeleton.Blocks
import CodeOutline.Proofs.Analyzer.Build
import CodeOutline.Proofs.Analyzer.Skeletons
import CodeOutline.Proofs.Signature.Bodies
import CodeOutline.Proofs.Polyglot.Hearing
import CodeOutline.Proofs.Polyglot.Changes
import CodeOutline.Proofs.Polyglot.Lookups
import CodeOutline.Proofs.Polyglot.Failures
import CodeOutline.Proofs.Polyglot.Files
import CodeOutline.Proofs.Analyzer.Locations
import CodeOutline.Proofs.CommandLine.Classes
import CodeOutline.Proofs.Text.Boundaries
import CodeOutline.Proofs.Tree.Fitting
import CodeOutline.Proofs.Outline.Redeclarations
import CodeOutline.Proofs.Analyzer.SourceText
import CodeOutline.Proofs.Skeleton.Visiting
import CodeOutline.Proofs.Signature.Modifiers
import CodeOutline.Proofs.Index.Settled
import CodeOutline.Proofs.Index.Lockstep
import CodeOutline.Proofs.Project.Spellings
import CodeOutline.Proofs.Analyzer.Repetition
import CodeOutline.Proofs.Analyzer.Respellings
import CodeOutline.Proofs.Analyzer.Schedules
import CodeOutline.Proofs.Analyzer.Contests
import CodeOutline.Proofs.Declaration.Components
import CodeOutline.Proofs.Declaration.Parts
import CodeOutline.Proofs.Members.Levels
import CodeOutline.Proofs.Analyzer.FileListing
import CodeOutline.Proofs.Project.Confinement
import CodeOutline.Proofs.Outline.Methods
import CodeOutline.Proofs.Members.Closure
import CodeOutline.Proofs.Analyzer.Symbols
import CodeOutline.Proofs.Analyzer.Enclosing
import CodeOutline.Proofs.Matching.Semantics
import CodeOutline.Proofs.Text.Folding
import CodeOutline.Proofs.Search.Escaping
import CodeOutline.Proofs.Search.Plain
import CodeOutline.Proofs.Distinct
import CodeOutline.Proofs.Polyglot.CallGraphs
import CodeOutline.Proofs.Outline.Collection
import CodeOutline.Proofs.Outline.Modules
import CodeOutline.Proofs.Signature.Exports
import CodeOutline.Proofs.Outline.Copies
import CodeOutline.Proofs.Signature.LeadingWords
