import ReactiveProps.Analysis.AnalysisError
import ReactiveProps.Analysis.Analyze
import ReactiveProps.Analysis.Directory
import ReactiveProps.Analysis.ErrorDesk
import ReactiveProps.Analysis.ErrorView
import ReactiveProps.Analysis.Grammar
import ReactiveProps.Analysis.ParseCache
import ReactiveProps.Analysis.Session
import ReactiveProps.Collector
import ReactiveProps.CommandLine.Arguments
import ReactiveProps.CommandLine.Command
import ReactiveProps.CommandLine.Console
import ReactiveProps.CommandLine.Help
import ReactiveProps.CommandLine.LogLevel
import ReactiveProps.CommandLine.Run
import ReactiveProps.Diagnostic
import ReactiveProps.Digest
import ReactiveProps.Element.Discovery
import ReactiveProps.Event
import ReactiveProps.Files.FileSystem
import ReactiveProps.Files.SourceFile
import ReactiveProps.Json
import ReactiveProps.Main
import ReactiveProps.Module
import ReactiveProps.OrderedMap
import ReactiveProps.Proofs.Accounting
import ReactiveProps.Proofs.Alignment
import ReactiveProps.Proofs.BaseClasses
import ReactiveProps.Proofs.Classification
import ReactiveProps.Proofs.Comments
import ReactiveProps.Proofs.Concatenation
import ReactiveProps.Proofs.Content
import ReactiveProps.Proofs.DeclarationStyles
import ReactiveProps.Proofs.ExitStatus
import ReactiveProps.Proofs.Extraction
import ReactiveProps.Proofs.Findings
import ReactiveProps.Proofs.Hints
import ReactiveProps.Proofs.Merge
import ReactiveProps.Proofs.MethodBodies
import ReactiveProps.Proofs.OrderedMap
import ReactiveProps.Proofs.Ownership
import ReactiveProps.Proofs.PairedAnalysis
import ReactiveProps.Proofs.PairedProperties
import ReactiveProps.Proofs.PairedReadings
import ReactiveProps.Proofs.PairedSites
import ReactiveProps.Proofs.PairedTypes
import ReactiveProps.Proofs.Pairing
import ReactiveProps.Proofs.ParseCache
import ReactiveProps.Proofs.Paths
import ReactiveProps.Proofs.Rejection
import ReactiveProps.Proofs.Report
import ReactiveProps.Proofs.Runs
import ReactiveProps.Proofs.Sessions
import ReactiveProps.Proofs.Strictness
import ReactiveProps.Proofs.Surroundings
import ReactiveProps.Proofs.Writes
import ReactiveProps.Property.ClassError
import ReactiveProps.Property.Constructor
import ReactiveProps.Property.Decorator
import ReactiveProps.Property.Extraction
import ReactiveProps.Property.Members
import ReactiveProps.Property.Options
import ReactiveProps.Property.ReactiveProperty
import ReactiveProps.Property.StaticBlock
import ReactiveProps.Report
import ReactiveProps.Settings
import ReactiveProps.SyntaxTree.Kind
import ReactiveProps.SyntaxTree.Listing
import ReactiveProps.SyntaxTree.ListingText
import ReactiveProps.SyntaxTree.Node
import ReactiveProps.SyntaxTree.Part
import ReactiveProps.SyntaxTree.Shape
import ReactiveProps.SyntaxTree.Site
import ReactiveProps.SyntaxTree.Source
import ReactiveProps.Text.Blank
import ReactiveProps.Text.DecimalDigit
import ReactiveProps.Text.Encoding
import ReactiveProps.Text.Lowercase
import ReactiveProps.Text.Printable
import ReactiveProps.Text.Quoted
import ReactiveProps.Text.Ranges
import ReactiveProps.Text.Template
import ReactiveProps.Text.WordCharacter
import ReactiveProps.Text.Wrapping
import ReactiveProps.Typing.Evaluation
import ReactiveProps.Typing.Inference
import ReactiveProps.Typing.Resolver
import ReactiveProps.Value
import ReactiveProps.Proofs.LogRecords
import ReactiveProps.Proofs.CollectorRuns
import ReactiveProps.Proofs.SharedContexts
import ReactiveProps.Proofs.SourceFiles
import ReactiveProps.Analysis.FileSession
import ReactiveProps.Proofs.DirectoryRuns
import ReactiveProps.Proofs.Spots
import ReactiveProps.Proofs.MemberGroups
import ReactiveProps.Proofs.HintOrigins
import ReactiveProps.Proofs.Heritage
import ReactiveProps.Proofs.CommentedTypes
import ReactiveProps.Proofs.DecoratorOwners
import ReactiveProps.Proofs.ClosedExpressions
import ReactiveProps.Proofs.TagNames
import ReactiveProps.Proofs.Respacing
import ReactiveProps.Proofs.ArrayTypes
import ReactiveProps.Proofs.OptionEntries
import ReactiveProps.Proofs.RepeatedKeys
import ReactiveProps.Proofs.Positions
import ReactiveProps.Proofs.DiagnosticPlaces
import ReactiveProps.Proofs.Addresses
import ReactiveProps.Proofs.Traversal
