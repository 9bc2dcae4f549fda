import RouteBindings.Bindings.Emission
import RouteBindings.Bindings.Generation
import RouteBindings.Bindings.RequestHelper
import RouteBindings.Bindings.Sources
import RouteBindings.CommandLine.Arguments
import RouteBindings.CommandLine.Listing
import RouteBindings.CommandLine.Plan
import RouteBindings.CommandLine.Run
import RouteBindings.Document.Fault
import RouteBindings.Document.PatternTree
import RouteBindings.Document.Reader
import RouteBindings.Document.Routes
import RouteBindings.Document.Signatures
import RouteBindings.Document.TypeTree
import RouteBindings.Error
import RouteBindings.Files.Fault
import RouteBindings.Files.Glob
import RouteBindings.Files.Path
import RouteBindings.Files.Tree
import RouteBindings.Files.View
import RouteBindings.Files.Wildcard
import RouteBindings.Json.Draft
import RouteBindings.Json.Scan
import RouteBindings.Json.Text
import RouteBindings.Json.Value
import RouteBindings.Log
import RouteBindings.Main
import RouteBindings.Names
import RouteBindings.Number.Double
import RouteBindings.Number.Layout
import RouteBindings.Number.Power
import RouteBindings.Number.Reading
import RouteBindings.Number.Shortest
import RouteBindings.Pattern.Evaluation
import RouteBindings.Pattern.Expression
import RouteBindings.Pattern.Fault
import RouteBindings.Pattern.Lexeme
import RouteBindings.Pattern.Operand
import RouteBindings.Pattern.Printed
import RouteBindings.Pattern.Reading
import RouteBindings.Pattern.Tree
import RouteBindings.Proofs.Bindings.Aliases
import RouteBindings.Proofs.Bindings.Declarations
import RouteBindings.Proofs.Bindings.Failure
import RouteBindings.Proofs.Bindings.Isolation
import RouteBindings.Proofs.Bindings.Logging
import RouteBindings.Proofs.Bindings.Lookup
import RouteBindings.Proofs.Bindings.SourceOrder
import RouteBindings.Proofs.Bindings.Sources
import RouteBindings.Proofs.Bindings.VerbKeys
import RouteBindings.Proofs.CommandLine.DryRun
import RouteBindings.Proofs.CommandLine.Shared
import RouteBindings.Proofs.Document.Misfits
import RouteBindings.Proofs.Document.PatternTree
import RouteBindings.Proofs.Document.Reading
import RouteBindings.Proofs.Document.Reloading
import RouteBindings.Proofs.Document.RouteTables
import RouteBindings.Proofs.Document.Signatures
import RouteBindings.Proofs.Document.TypeTree
import RouteBindings.Proofs.Error
import RouteBindings.Proofs.Files.GlobOrder
import RouteBindings.Proofs.Files.Paths
import RouteBindings.Proofs.Json.Context
import RouteBindings.Proofs.Json.Numerals
import RouteBindings.Proofs.Json.Text
import RouteBindings.Proofs.Log
import RouteBindings.Proofs.Names.Boundaries
import RouteBindings.Proofs.Names.ClassNames
import RouteBindings.Proofs.Names.Underscored
import RouteBindings.Proofs.Names.Words
import RouteBindings.Proofs.Number.Rounding
import RouteBindings.Proofs.Number.ScriptNumeral
import RouteBindings.Proofs.Number.ScriptText
import RouteBindings.Proofs.Number.Shortest
import RouteBindings.Proofs.Number.Value
import RouteBindings.Proofs.Number.Whole
import RouteBindings.Proofs.Pattern.Canonical
import RouteBindings.Proofs.Pattern.Chains
import RouteBindings.Proofs.Pattern.Clean
import RouteBindings.Proofs.Pattern.Descent
import RouteBindings.Proofs.Pattern.Emission
import RouteBindings.Proofs.Pattern.Faults
import RouteBindings.Proofs.Pattern.Grammar
import RouteBindings.Proofs.Pattern.Parsing
import RouteBindings.Proofs.Pattern.Pieces
import RouteBindings.Proofs.Pattern.PrintedForm
import RouteBindings.Proofs.Pattern.Reprinting
import RouteBindings.Proofs.Pattern.Required
import RouteBindings.Proofs.Pattern.Scope
import RouteBindings.Proofs.Pattern.Script
import RouteBindings.Proofs.Pattern.ScriptMeaning
import RouteBindings.Proofs.Pattern.Substitution
import RouteBindings.Proofs.Pattern.TextWord
import RouteBindings.Proofs.Pattern.WordUnion
import RouteBindings.Proofs.Route.Groups
import RouteBindings.Proofs.Route.Inheritance
import RouteBindings.Proofs.Route.Invisible
import RouteBindings.Proofs.Route.PrintedForm
import RouteBindings.Proofs.Route.Resource
import RouteBindings.Proofs.Route.VerbBinding
import RouteBindings.Proofs.Signature.ArraySuffix
import RouteBindings.Proofs.Signature.Collection
import RouteBindings.Proofs.Signature.Merging
import RouteBindings.Proofs.Signature.Normal
import RouteBindings.Proofs.Signature.Plain
import RouteBindings.Proofs.Signature.Reader
import RouteBindings.Proofs.Signature.Recoverable
import RouteBindings.Proofs.Signature.Replacement
import RouteBindings.Proofs.Signature.Separators
import RouteBindings.Proofs.Signature.SignatureTable
import RouteBindings.Proofs.Signature.Supported
import RouteBindings.Proofs.Signature.Unambiguous
import RouteBindings.Proofs.Signature.Vocabulary
import RouteBindings.Proofs.Table.Puts
import RouteBindings.Proofs.Text.LetterCase
import RouteBindings.Proofs.Text.Order
import RouteBindings.Proofs.Text.Property
import RouteBindings.Proofs.Text.Quoted
import RouteBindings.Proofs.Text.Span
import RouteBindings.Proofs.Text.Token
import RouteBindings.Route.Record
import RouteBindings.Route.Resource
import RouteBindings.Signature.Collection
import RouteBindings.Signature.Construct
import RouteBindings.Signature.Environment
import RouteBindings.Signature.Projection
import RouteBindings.Signature.Type
import RouteBindings.Signature.TypeText
import RouteBindings.Signature.Vocabulary
import RouteBindings.Table
import RouteBindings.Text.Blank
import RouteBindings.Text.DecimalDigit
import RouteBindings.Text.Escaped
import RouteBindings.Text.Escaped.Table
import RouteBindings.Text.Join
import RouteBindings.Text.LetterCase
import RouteBindings.Text.LetterCase.Table
import RouteBindings.Text.Order
import RouteBindings.Text.Quoted
