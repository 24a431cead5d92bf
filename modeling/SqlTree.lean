import SqlTree.Build.Cte
import SqlTree.Build.Delete
import SqlTree.Build.Insert
import SqlTree.Build.Select
import SqlTree.Build.Setting
import SqlTree.Build.Update
import SqlTree.Bytes.BigEndian
import SqlTree.Catalog
import SqlTree.Dialect
import SqlTree.Error
import SqlTree.Fault
import SqlTree.Grouping
import SqlTree.Ident
import SqlTree.Json.Basic
import SqlTree.Json.Number
import SqlTree.Json.Reader
import SqlTree.Json.Written
import SqlTree.Log.Event
import SqlTree.Log.ParamText
import SqlTree.Log.Truncation
import SqlTree.Number.Binary
import SqlTree.Number.Double
import SqlTree.Number.Shortest
import SqlTree.Postgres.Binary
import SqlTree.Postgres.Client
import SqlTree.Postgres.Column
import SqlTree.Postgres.Parameter
import SqlTree.Proofs.Build.Clauses
import SqlTree.Proofs.Condition.Composition
import SqlTree.Proofs.Condition.Joined
import SqlTree.Proofs.Condition.Meaning
import SqlTree.Proofs.Condition.Operands
import SqlTree.Proofs.Condition.Phrases
import SqlTree.Proofs.Condition.Reading
import SqlTree.Proofs.Condition.Simplifying
import SqlTree.Proofs.Condition.Spelling
import SqlTree.Proofs.Grouping.Refusals
import SqlTree.Proofs.Grouping.Runs
import SqlTree.Proofs.Insert.Given
import SqlTree.Proofs.Insert.Rows
import SqlTree.Proofs.Insert.Settings
import SqlTree.Proofs.Log.Truncation
import SqlTree.Proofs.Postgres.Integers
import SqlTree.Proofs.Renderer.Congruence
import SqlTree.Proofs.Renderer.Lists
import SqlTree.Proofs.Renderer.Marks
import SqlTree.Proofs.Renderer.Numbering
import SqlTree.Proofs.Renderer.Reuse
import SqlTree.Proofs.Renderer.Scanning
import SqlTree.Proofs.Renderer.Splicing
import SqlTree.Proofs.Renderer.Templates
import SqlTree.Proofs.Renderer.WithHeads
import SqlTree.Proofs.Renderer.Written
import SqlTree.Proofs.Row.Likeness
import SqlTree.Proofs.Row.Lookup
import SqlTree.Proofs.Row.Registration
import SqlTree.Proofs.Run.Discretion
import SqlTree.Proofs.Run.Executing
import SqlTree.Proofs.Run.Fetching
import SqlTree.Proofs.Run.Request
import SqlTree.Proofs.Statement.Conditions
import SqlTree.Proofs.Statement.Dialects
import SqlTree.Proofs.Statement.Extension
import SqlTree.Proofs.Statement.Guard
import SqlTree.Proofs.Statement.Lexical
import SqlTree.Proofs.Statement.Malformed
import SqlTree.Proofs.Statement.Placeholders
import SqlTree.Proofs.Statement.Positional
import SqlTree.Proofs.Statement.Qualifiers
import SqlTree.Proofs.Statement.Recursion
import SqlTree.Proofs.Statement.RecursiveBody
import SqlTree.Proofs.Statement.References
import SqlTree.Proofs.Statement.Width
import SqlTree.Proofs.Steps
import SqlTree.Proofs.Text.Identifiers
import SqlTree.Proofs.Text.Items
import SqlTree.Proofs.Text.Occurrences
import SqlTree.Proofs.Text.Sections
import SqlTree.Proofs.Text.Tokens
import SqlTree.Proofs.Tree.Adjacency
import SqlTree.Proofs.Tree.Agreement
import SqlTree.Proofs.Tree.Blank
import SqlTree.Proofs.Tree.Closed
import SqlTree.Proofs.Tree.Correspondence
import SqlTree.Proofs.Tree.Induction
import SqlTree.Proofs.Tree.Items
import SqlTree.Proofs.Tree.Layout
import SqlTree.Proofs.Tree.Legible
import SqlTree.Proofs.Tree.Numeric
import SqlTree.Proofs.Tree.Parts
import SqlTree.Proofs.Tree.Rendering
import SqlTree.Proofs.Tree.Sameness
import SqlTree.Proofs.Tree.Signs
import SqlTree.Proofs.Tree.Unqualified
import SqlTree.Proofs.Tree.Values
import SqlTree.Proofs.Tree.WithHeads
import SqlTree.Proofs.Tree.WithLists
import SqlTree.Proofs.Tree.Wordless
import SqlTree.Proofs.Value.Equality
import SqlTree.Renderer
import SqlTree.Row.Cursor
import SqlTree.Row.Decoder
import SqlTree.Run.Database
import SqlTree.Run.Fetch
import SqlTree.Run.Issue
import SqlTree.Script
import SqlTree.Statement
import SqlTree.Text.Blank
import SqlTree.Text.Combining
import SqlTree.Text.Hex
import SqlTree.Text.Integer
import SqlTree.Text.Quoted
import SqlTree.Text.Unprintable
import SqlTree.Text.Utf8
import SqlTree.Time.Calendar
import SqlTree.Time.Instant
import SqlTree.Time.Reading
import SqlTree.Time.Span
import SqlTree.Tree.Basic
import SqlTree.Tree.Clauses
import SqlTree.Tree.Emptiness
import SqlTree.Tree.Equality
import SqlTree.Tree.Fields
import SqlTree.Tree.Naming
import SqlTree.Tree.Rendering
import SqlTree.Tree.Script
import SqlTree.Tree.Width
import SqlTree.Uuid
import SqlTree.Value
