import DataMapper.Declaration.Derived
import DataMapper.Postgres.Call
import DataMapper.Session.Command
import DataMapper.Proofs.Query.Expansion
import DataMapper.Proofs.Query.RawText
import DataMapper.Proofs.Sql.StringLiterals
import DataMapper.Proofs.Session.Outcomes
import DataMapper.Proofs.Session.Effects
import DataMapper.Proofs.Session.Actions
import DataMapper.Proofs.Session.Accounts
import DataMapper.Proofs.Session.Shapes
import DataMapper.Proofs.Session.Turns
import DataMapper.Proofs.Session.Books
import DataMapper.Proofs.Session.Interleaving
import DataMapper.Proofs.Session.Rollbacks
import DataMapper.Proofs.Session.Commands
import DataMapper.Proofs.Session.Transactions
import DataMapper.Proofs.Session.Retries
import DataMapper.Proofs.Session.Recovery
import DataMapper.Proofs.Session.Refusals
import DataMapper.Proofs.Session.Abandonment
import DataMapper.Proofs.Field.Maps
import DataMapper.Proofs.Query.Placeholders
import DataMapper.Proofs.Sql.Division
import DataMapper.Proofs.Sql.ByteScan
import DataMapper.Proofs.Field.Assignment
import DataMapper.Proofs.Record.Reading
import DataMapper.Proofs.Sql.CommonTables
import DataMapper.Proofs.Monitor.Counts
import DataMapper.Proofs.Session.Statements
import DataMapper.Proofs.Session.Composition
import DataMapper.Proofs.Session.Validation
import DataMapper.Proofs.Session.Monitoring
import DataMapper.Proofs.Field.Holding
import DataMapper.Proofs.Record.Rereading
import DataMapper.Proofs.Session.Leases
import DataMapper.Proofs.Session.Writers
import DataMapper.Proofs.Session.Storing
import DataMapper.Proofs.Sql.Numbering
import DataMapper.Proofs.Session.Activity
import DataMapper.Proofs.Calendar.DayNumbers
import DataMapper.Proofs.Number.Rounding
import DataMapper.Proofs.Json.Printing
import DataMapper.Proofs.Postgres.Numerics
import DataMapper.Proofs.Postgres.Cells
import DataMapper.Proofs.Field.Columns
import DataMapper.Proofs.Field.Sharing
import DataMapper.Proofs.Field.Lineage
import DataMapper.Proofs.Record.Writing
import DataMapper.Proofs.Query.Conjunctions
import DataMapper.Proofs.Sql.Formulas
import DataMapper.Proofs.Query.Search
import DataMapper.Proofs.Text.Patterns
import DataMapper.Proofs.Calendar.Order
import DataMapper.Proofs.Query.DayRanges
import DataMapper.Proofs.Query.Correlation
import DataMapper.Proofs.Field.WholeNumbers
import DataMapper.Proofs.Number.Digits
import DataMapper.Proofs.Calendar.WrittenForms
import DataMapper.Proofs.Text.Hexadecimal
import DataMapper.Proofs.Field.Kinds
import DataMapper.Proofs.Field.Literals
import DataMapper.Proofs.Field.Replacement
import DataMapper.Proofs.Record.Overwriting
import DataMapper.Proofs.Results
import DataMapper.Proofs.Record.Lookup
import DataMapper.Proofs.Record.PartialUpdates
import DataMapper.Proofs.Declaration.StoredNames
import DataMapper.Proofs.Session.Savepoints
import DataMapper.Proofs.Session.Steadiness
import DataMapper.Proofs.Session.Nesting
import DataMapper.Proofs.Text.PairLines
import DataMapper.Proofs.Postgres.Integers
import DataMapper.Proofs.Sql.Leads
import DataMapper.Proofs.Monitor.Statistics
import DataMapper.Proofs.Sql.LiteralPieces
import DataMapper.Proofs.Monitor.Shortening
