import CallableLookup.CommandLine.Arguments
import CallableLookup.CommandLine.Run
import CallableLookup.Decimal.Shortest
import CallableLookup.Extraction.Reader
import CallableLookup.Files.Path
import CallableLookup.Files.Tree
import CallableLookup.Grammar.Classes
import CallableLookup.Grammar.Flow
import CallableLookup.Grammar.Functions
import CallableLookup.Grammar.Markup
import CallableLookup.Grammar.ModuleItems
import CallableLookup.Grammar.Names
import CallableLookup.Grammar.Operands
import CallableLookup.Grammar.Operators
import CallableLookup.Grammar.Patterns
import CallableLookup.Grammar.Postfix
import CallableLookup.Grammar.Program
import CallableLookup.Grammar.State
import CallableLookup.Grammar.TypeDecls
import CallableLookup.Grammar.Types
import CallableLookup.Json.Cause
import CallableLookup.Json.Reader
import CallableLookup.Json.Value
import CallableLookup.Lookup.File
import CallableLookup.Lookup.Search
import CallableLookup.Main
import CallableLookup.Proofs.CommandLine.Formats
import CallableLookup.Proofs.Extraction.RoundTrip
import CallableLookup.Proofs.Files.Dialects
import CallableLookup.Proofs.Files.Parts
import CallableLookup.Proofs.Grammar.Items
import CallableLookup.Proofs.Json.Containers
import CallableLookup.Proofs.Json.Documents
import CallableLookup.Proofs.Json.Lexemes
import CallableLookup.Proofs.Json.Members
import CallableLookup.Proofs.Json.Reading
import CallableLookup.Proofs.Json.Scalars
import CallableLookup.Proofs.Json.Settling
import CallableLookup.Proofs.Json.Values
import CallableLookup.Proofs.Lookup.Bodies
import CallableLookup.Proofs.Lookup.Covering
import CallableLookup.Proofs.Lookup.Decorators
import CallableLookup.Proofs.Lookup.Extents
import CallableLookup.Proofs.Lookup.FirstLeast
import CallableLookup.Proofs.Lookup.Located
import CallableLookup.Proofs.Lookup.Occurrences
import CallableLookup.Proofs.Lookup.OpenStatements
import CallableLookup.Proofs.Lookup.Parentheses
import CallableLookup.Proofs.Lookup.Placed
import CallableLookup.Proofs.Lookup.Renaming
import CallableLookup.Proofs.Lookup.TextOrder
import CallableLookup.Proofs.Lookup.TopLevel
import CallableLookup.Proofs.Lookup.Verbatim
import CallableLookup.Proofs.Lookup.Widening
import CallableLookup.Proofs.Lookup.Wrapping
import CallableLookup.Proofs.Settings.Deciding
import CallableLookup.Proofs.Settings.Loaders
import CallableLookup.Proofs.Settings.Spelling
import CallableLookup.Proofs.Settings.Streaming
import CallableLookup.Proofs.Text.Columns
import CallableLookup.Proofs.Text.Cuts
import CallableLookup.Proofs.Text.LineTable
import CallableLookup.Proofs.Text.Order
import CallableLookup.Proofs.Text.Pieces
import CallableLookup.Proofs.Text.Positions
import CallableLookup.Proofs.Text.Slices
import CallableLookup.Settings.Discovery
import CallableLookup.Settings.Reader
import CallableLookup.Span
import CallableLookup.SyntaxError
import CallableLookup.Text.Characters
import CallableLookup.Text.NameTable
import CallableLookup.Text.Position
import CallableLookup.Text.UnseenTable
import CallableLookup.Token.Basic
import CallableLookup.Token.Escape
import CallableLookup.Token.Literal
import CallableLookup.Token.Scan
import CallableLookup.Tree.Node
