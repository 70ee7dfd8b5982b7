import TableQuery.Address
import TableQuery.Address.Form
import TableQuery.Address.Host
import TableQuery.Address.Url
import TableQuery.Catalogue
import TableQuery.Connection.Postgres
import TableQuery.Connection.Sqlite
import TableQuery.Database
import TableQuery.Database.Cell
import TableQuery.Database.Like
import TableQuery.Database.Number
import TableQuery.Database.Query
import TableQuery.Database.Reader
import TableQuery.Decimal.Dyadic
import TableQuery.Decimal.Layout
import TableQuery.Decimal.Reading
import TableQuery.Decimal.Shortest
import TableQuery.Decimal.Wide
import TableQuery.Descriptor
import TableQuery.Disk
import TableQuery.Error
import TableQuery.Event
import TableQuery.Execution
import TableQuery.Fault
import TableQuery.Folder
import TableQuery.Identifier
import TableQuery.Json
import TableQuery.Json.Printer
import TableQuery.Keyed
import TableQuery.Kind
import TableQuery.Log
import TableQuery.Log.Filter
import TableQuery.Log.Line
import TableQuery.Mapping
import TableQuery.Operator
import TableQuery.Plan
import TableQuery.Request
import TableQuery.Row
import TableQuery.Settings.Basic
import TableQuery.Settings.Environment
import TableQuery.Settings.Loading
import TableQuery.Settings.Reading
import TableQuery.Settings.Tree
import TableQuery.Shape
import TableQuery.Shape.Refusal
import TableQuery.Statement.Binding
import TableQuery.Statement.Lexical
import TableQuery.Table
import TableQuery.Text.Alphanumeric
import TableQuery.Text.Blank
import TableQuery.Text.Encoded
import TableQuery.Text.Pattern
import TableQuery.Text.Quoted
import TableQuery.Text.Shown
import TableQuery.Text.Split
import TableQuery.Toml.Document
import TableQuery.Toml.Node
import TableQuery.Toml.Quoted
import TableQuery.Toml.Scalar
import TableQuery.Traced
import TableQuery.Value
import TableQuery.Proofs.Statement.Filling
import TableQuery.Proofs.Plan.Clauses
import TableQuery.Proofs.Plan.Paging
import TableQuery.Proofs.Plan.Noninterference
import TableQuery.Proofs.Statement.Tokens
import TableQuery.Proofs.Operators
import TableQuery.Proofs.Plan.Conditions
import TableQuery.Proofs.Plan.Placement
import TableQuery.Proofs.Plan.Outline
import TableQuery.Proofs.Execution.Questions
import TableQuery.Proofs.Execution.Results
import TableQuery.Proofs.Request.Changes
import TableQuery.Proofs.Request.Interleaving
import TableQuery.Proofs.Keyed
import TableQuery.Proofs.Text.Blank
import TableQuery.Proofs.Text.Bytes
import TableQuery.Proofs.Window
import TableQuery.Proofs.Plan.Refusal
import TableQuery.Proofs.Execution.Logging
import TableQuery.Proofs.Catalogue
import TableQuery.Proofs.Request.Filters
import TableQuery.Proofs.Request.Buildable
import TableQuery.Proofs.Request.Grammar
import TableQuery.Proofs.Request.Collected
import TableQuery.Proofs.Request.Meaning
import TableQuery.Proofs.Database.Pattern
import TableQuery.Proofs.Database.Substring
import TableQuery.Proofs.Statement.Placeholders
import TableQuery.Proofs.Statement.Separators
import TableQuery.Proofs.Statement.Joining
import TableQuery.Proofs.Plan.Wrapping
import TableQuery.Proofs.Statement.Rebinding
import TableQuery.Proofs.Statement.Scalars
import TableQuery.Proofs.Plan.Operands
import TableQuery.Proofs.Request.Blanks
import TableQuery.Proofs.Kind.Shapes
import TableQuery.Proofs.Mapping.Fields
import TableQuery.Proofs.Mapping.Layout
import TableQuery.Proofs.Decimal.Exact
import TableQuery.Proofs.Kind.Integers
import TableQuery.Proofs.Catalogue.Positions
import TableQuery.Proofs.Catalogue.QueryFiles
import TableQuery.Proofs.Catalogue.Registrations
import TableQuery.Proofs.Decimal.Numerals
import TableQuery.Proofs.Kind.Texts
import TableQuery.Proofs.Decimal.Finite
import TableQuery.Proofs.Mapping.Absent
import TableQuery.Proofs.Plan.Lists
import TableQuery.Proofs.Request.Lists
import TableQuery.Proofs.Plan.Suffix
import TableQuery.Proofs.Value
import TableQuery.Proofs.Address.Passwords
import TableQuery.Proofs.Text.Cuts
import TableQuery.Proofs.Text.Slices
import TableQuery.Proofs.Address.Authority
import TableQuery.Proofs.Registry
import TableQuery.Proofs.Plan.Orders
import TableQuery.Proofs.Statement.Names
import TableQuery.Proofs.Statement.Bytewise
import TableQuery.Proofs.Settings.Documents
import TableQuery.Proofs.Settings.Files
import TableQuery.Proofs.Settings.Layers
