import Overloads.Ambient.OrderPolicy
import Overloads.Ambient.Scope
import Overloads.Ambient.Sorting
import Overloads.Class.Annotation
import Overloads.Class.Binding
import Overloads.Class.Definition
import Overloads.Class.Description
import Overloads.Class.Layout
import Overloads.Class.Name
import Overloads.Class.Names
import Overloads.Class.Native
import Overloads.Class.Reference
import Overloads.Class.Shape
import Overloads.Class.Special
import Overloads.Class.Testing
import Overloads.Class.World
import Overloads.CommandLine.Arguments
import Overloads.CommandLine.Plan
import Overloads.CommandLine.Run
import Overloads.Dependency.Coordinate
import Overloads.Dependency.Installation
import Overloads.Document.Datum
import Overloads.Document.Moment
import Overloads.Document.Outline
import Overloads.Document.Reader
import Overloads.Failure
import Overloads.Hook.Basic
import Overloads.Hook.Recording
import Overloads.Installed.Classes
import Overloads.Installed.Modules
import Overloads.Instance.Construction
import Overloads.Instance.Invocation
import Overloads.Instance.Store
import Overloads.Instance.Testing
import Overloads.Log.Event
import Overloads.Log.Level
import Overloads.Main
import Overloads.Member.Basic
import Overloads.Member.Filter
import Overloads.Member.Reflection
import Overloads.Member.Selection
import Overloads.Native.Arguments
import Overloads.Native.ByteFunctions
import Overloads.Native.Call
import Overloads.Native.ContainerFunctions
import Overloads.Native.Encoding
import Overloads.Native.Making
import Overloads.Native.NumberFunctions
import Overloads.Native.TextFunctions
import Overloads.Number.Binary64
import Overloads.Number.Conversion
import Overloads.Number.Hexadecimal
import Overloads.Number.Loose
import Overloads.Number.Numeral
import Overloads.Number.Power
import Overloads.Number.Radix
import Overloads.Number.Reading
import Overloads.Number.Shortest
import Overloads.Pattern.Cursor
import Overloads.Pattern.Escape
import Overloads.Pattern.Folding
import Overloads.Pattern.Matching
import Overloads.Pattern.Reading
import Overloads.Pattern.Search
import Overloads.Pattern.Syntax
import Overloads.Proofs.Routine.Grouping
import Overloads.Routine.Assembly
import Overloads.Routine.Clause
import Overloads.Routine.Dispatch
import Overloads.Routine.Documentation
import Overloads.Routine.Grouping
import Overloads.Routine.Namespace
import Overloads.Routine.Verification
import Overloads.Settings.File
import Overloads.Settings.Logging
import Overloads.Settings.Problem
import Overloads.Settings.Reading
import Overloads.Settings.Wrapping
import Overloads.Source.Basic
import Overloads.Source.Printer
import Overloads.Text.Blank
import Overloads.Text.Capitalization
import Overloads.Text.CharacterName
import Overloads.Text.Digit
import Overloads.Text.Excerpt
import Overloads.Text.Identifier
import Overloads.Text.Kebab
import Overloads.Text.Letter
import Overloads.Text.Lines
import Overloads.Text.LowerCase
import Overloads.Text.Naming
import Overloads.Text.Numeral
import Overloads.Text.Printable
import Overloads.Text.Quoted
import Overloads.Text.Ranges
import Overloads.Text.Splitting
import Overloads.Text.Units
import Overloads.Text.UpperCase
import Overloads.Text.Utf8
import Overloads.Text.Word
import Overloads.Text.Wrap
import Overloads.Value
import Overloads.Value.Items
import Overloads.Value.Mapping
import Overloads.Value.Order
import Overloads.Value.Recipe
import Overloads.Proofs.Routine.Layout
import Overloads.Proofs.Routine.Assembly
import Overloads.Proofs.Routine.FirstTaker
import Overloads.Proofs.Routine.Delivery
import Overloads.Proofs.Class.Testability
import Overloads.Proofs.Member.Testability
import Overloads.Proofs.Routine.Guards
import Overloads.Proofs.Class.Name
import Overloads.Proofs.Class.Boxes
import Overloads.Proofs.Source.Meaning
import Overloads.Proofs.Source.Simulation
import Overloads.Proofs.Text.Quoted
import Overloads.Proofs.Source.Reading
import Overloads.Proofs.Source.Agreement
import Overloads.Proofs.Native.Making
import Overloads.Proofs.Instance.Conversion
import Overloads.Proofs.Instance.Testing
import Overloads.Proofs.Routine.Permutation
import Overloads.Proofs.Class.Counting
import Overloads.Proofs.Routine.ProofMode
import Overloads.Proofs.Class.WellFormed
import Overloads.Proofs.Class.NamesOnce
import Overloads.Proofs.Member.Attributes
import Overloads.Proofs.Member.Nearest
import Overloads.Proofs.Routine.SingleSignature
import Overloads.Proofs.Class.Binding
import Overloads.Proofs.Class.Special
import Overloads.Proofs.Member.Arity
import Overloads.Proofs.Routine.Insertion
import Overloads.Proofs.Text.Naming
import Overloads.Proofs.Routine.Namespace
import Overloads.Proofs.Member.Descriptor
import Overloads.Proofs.Member.Order
import Overloads.Proofs.Routine.Canonical
import Overloads.Proofs.Source.Shadowing
import Overloads.Proofs.Member.Selection
import Overloads.Proofs.Routine.Listing
import Overloads.Proofs.CommandLine.Independence
import Overloads.Proofs.CommandLine.Arguments
import Overloads.Proofs.CommandLine.Plan
import Overloads.Proofs.CommandLine.Handles
import Overloads.Proofs.Class.Resolution
import Overloads.Proofs.CommandLine.Unresolved
import Overloads.Proofs.CommandLine.Refusals
import Overloads.Proofs.Number.Rounding
import Overloads.Proofs.Hook.Widening
import Overloads.Proofs.Text.Utf8
import Overloads.Proofs.Document.Faults
import Overloads.Proofs.Document.Limits
import Overloads.Proofs.Settings.Loading
import Overloads.Proofs.Dependency.ImportPath
import Overloads.Proofs.Class.OwnName
import Overloads.Proofs.Class.CallablePath
import Overloads.Proofs.Pattern.Embedding
import Overloads.Proofs.Pattern.Readers
import Overloads.Proofs.Pattern.Following
import Overloads.Proofs.Pattern.Joining
import Overloads.Proofs.Pattern.Union
import Overloads.Proofs.Text.LowerCase
import Overloads.Proofs.Text.Kebab
import Overloads.Proofs.Dependency.Coordinate
import Overloads.Proofs.Routine.Verification
import Overloads.Proofs.Routine.Arities
import Overloads.Proofs.Routine.Filtering
import Overloads.Proofs.Source.References
import Overloads.Proofs.Source.Imports
import Overloads.Proofs.Number.Truncation
import Overloads.Proofs.Hook.Narrowing
import Overloads.Proofs.Routine.Blame
import Overloads.Proofs.Text.Wrap
import Overloads.Proofs.Source.Documentation
import Overloads.Proofs.Ambient.Blocks
import Overloads.Proofs.Class.Annotation
