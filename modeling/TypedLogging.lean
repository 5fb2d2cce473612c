import TypedLogging.Text.Words
import TypedLogging.Text.Quoted
import TypedLogging.Text.Integer
import TypedLogging.Source.Lexer.Literal
import TypedLogging.Source.Token
import TypedLogging.Source.Lexer
import TypedLogging.Source.Reader
import TypedLogging.Source.Parse
import TypedLogging.Binding
import TypedLogging.Collection
import TypedLogging.Discovery
import TypedLogging.Failure
import TypedLogging.Emission
import TypedLogging.World
import TypedLogging.Generator
import TypedLogging.Validation
import TypedLogging.Expectation
import TypedLogging.Main
import TypedLogging.Proofs.Template.Scanning
import TypedLogging.Proofs.Template.Grammar
import TypedLogging.Proofs.Outcome
import TypedLogging.Proofs.Template.Layout
import TypedLogging.Proofs.Template.Rewriting
import TypedLogging.Proofs.Template.Rescanning
import TypedLogging.Proofs.Binding
import TypedLogging.Proofs.Emission.Format
import TypedLogging.Proofs.Emission.Escaping
import TypedLogging.Proofs.Emission.Helper
import TypedLogging.Proofs.Emission.Identifier
import TypedLogging.Proofs.Emission.Checked
import TypedLogging.Proofs.Emission.Scoping
import TypedLogging.Proofs.EventId
import TypedLogging.Proofs.Run
import TypedLogging.Proofs.Collection
import TypedLogging.Proofs.Binding.Lookups
import TypedLogging.Proofs.Validation
import TypedLogging.Proofs.Text.Integer
import TypedLogging.Proofs.Text.Words
import TypedLogging.Proofs.Text.Seams
import TypedLogging.Proofs.Source.Visibility
import TypedLogging.Proofs.Source.Identifiers
import TypedLogging.Proofs.Source.Lexing
import TypedLogging.Proofs.Source.Paths
import TypedLogging.Proofs.Emission.Constants
import TypedLogging.Proofs.Emission.ConstantNames
import TypedLogging.Proofs.Emission.Signatures
import TypedLogging.Proofs.Discovery
import TypedLogging.Proofs.Generation
import TypedLogging.Proofs.Files.Joined
import TypedLogging.Proofs.Files.Directories
import TypedLogging.Proofs.Emission.FileName
import TypedLogging.Proofs.Disk
import TypedLogging.Proofs.Writing
import TypedLogging.Proofs.Failing
import TypedLogging.Proofs.WriteOutcome
import TypedLogging.Proofs.Cancellation
import TypedLogging.Proofs.Sources
import TypedLogging.Proofs.Appending
import TypedLogging.Proofs.CommandLine
import TypedLogging.Proofs.Staleness
import TypedLogging.Proofs.MessageAttribute
import TypedLogging.Proofs.Binding.Entries
import TypedLogging.Proofs.Binding.Description
import TypedLogging.Proofs.Binding.Rearranging
import TypedLogging.Proofs.Resolution
import TypedLogging.Proofs.Discovery.Imports
import TypedLogging.Proofs.Discovery.Modules
import TypedLogging.Proofs.Discovery.RelativePaths
import TypedLogging.Proofs.Discovery.UseTrees
import TypedLogging.Proofs.FileNameClashes
import TypedLogging.Proofs.Source.Numerals
import TypedLogging.Proofs.EventIdValue
import TypedLogging.Proofs.Emission.FreeName
import TypedLogging.Proofs.LinePattern
import TypedLogging.Proofs.Source.Grammar.Level
import TypedLogging.Proofs.Emission.TypeName
