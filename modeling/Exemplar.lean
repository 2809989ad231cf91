import Exemplar.Command.Action
import Exemplar.Command.Arguments
import Exemplar.Command.Documents
import Exemplar.Command.Run
import Exemplar.Decimal.Shortest
import Exemplar.Declaration.CSharp
import Exemplar.Declaration.Cycle
import Exemplar.Declaration.File
import Exemplar.Declaration.Rust
import Exemplar.Dict
import Exemplar.Files.Path
import Exemplar.Files.Tree
import Exemplar.Filter.Access
import Exemplar.Filter.Arithmetic
import Exemplar.Filter.Builtin
import Exemplar.Filter.Datum
import Exemplar.Filter.Evaluate
import Exemplar.Filter.Fault
import Exemplar.Filter.Grammar
import Exemplar.Filter.Outputs
import Exemplar.Filter.Reading
import Exemplar.Filter.Scope
import Exemplar.Filter.Selection
import Exemplar.Filter.Standard
import Exemplar.Filter.Term
import Exemplar.Filter.Token
import Exemplar.Glob.Expansion
import Exemplar.Glob.Pattern
import Exemplar.Inference.Session
import Exemplar.Inference.Shape
import Exemplar.Json.Document
import Exemplar.Json.Error
import Exemplar.Json.Lexeme
import Exemplar.Json.Numeral
import Exemplar.Json.Pointer
import Exemplar.Json.Printer
import Exemplar.Json.Value
import Exemplar.Main
import Exemplar.Model
import Exemplar.Naming.Convention
import Exemplar.Naming.Identifier
import Exemplar.Naming.Singular
import Exemplar.Naming.Words
import Exemplar.Unicode.Alphabetic
import Exemplar.Unicode.Boundaries
import Exemplar.Unicode.CaseMapping
import Exemplar.Unicode.GraphemeExtend
import Exemplar.Unicode.Lowercase
import Exemplar.Unicode.Numeric
import Exemplar.Unicode.Printable
import Exemplar.Unicode.Uppercase
import Exemplar.Unicode.WhiteSpace
import Exemplar.Proofs.Sample
import Exemplar.Proofs.Growth
import Exemplar.Proofs.Trace
import Exemplar.Proofs.Coverage
import Exemplar.Proofs.History
import Exemplar.Proofs.Visit
import Exemplar.Proofs.FirstSample
import Exemplar.Proofs.ClassGraph
import Exemplar.Proofs.Walk
import Exemplar.Proofs.Declared
import Exemplar.Proofs.Warnings
import Exemplar.Proofs.Conformance
import Exemplar.Proofs.Absorption
import Exemplar.Proofs.Rearrangement
import Exemplar.Proofs.OrderIndependence
import Exemplar.Proofs.DistinctNames
import Exemplar.Proofs.LeastNumbers
import Exemplar.Proofs.Escaping
import Exemplar.Proofs.MemberNames
import Exemplar.Proofs.UpperCase
import Exemplar.Proofs.PascalCase
import Exemplar.Proofs.ClassNames
import Exemplar.Proofs.TypeNames
import Exemplar.Proofs.CycleSearch
import Exemplar.Proofs.FiniteSize
import Exemplar.Proofs.Boxing
import Exemplar.Proofs.Construction
import Exemplar.Proofs.EnclosingType
import Exemplar.Proofs.WellFormed
import Exemplar.Proofs.SameShape
import Exemplar.Proofs.ItemOrder
import Exemplar.Proofs.Literals
import Exemplar.Proofs.Annotations
import Exemplar.Proofs.StructLines
import Exemplar.Proofs.FailingRun
import Exemplar.Proofs.TrueWarnings
import Exemplar.Proofs.BuiltinTypes
import Exemplar.Proofs.ReservedWords
import Exemplar.Proofs.LeadingNumerals
import Exemplar.Proofs.IdentifierForm
import Exemplar.Proofs.Batching
import Exemplar.Proofs.Solving
import Exemplar.Proofs.JsonView
import Exemplar.Proofs.StableNames
import Exemplar.Proofs.Ascii
import Exemplar.Proofs.SinglePass
import Exemplar.Proofs.SnakeWords
import Exemplar.Proofs.Underscores
import Exemplar.Proofs.LastWord
import Exemplar.Proofs.SingularCase
