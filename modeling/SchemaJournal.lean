import SchemaJournal.Migration.Build
import SchemaJournal.Schema.Codec
import SchemaJournal.Schema.Example
import SchemaJournal.Schema.Validation
import SchemaJournal.Database.Store
import SchemaJournal.Database.Rehearsal
import SchemaJournal.Database.Postgres
import SchemaJournal.Files.Tree
import SchemaJournal.Schema.Editor
import SchemaJournal.Migration.Runner
import SchemaJournal.Connection.Server
import SchemaJournal.CommandLine.Run
import SchemaJournal.Main
import SchemaJournal.Proofs.Transaction.Discipline
import SchemaJournal.Proofs.Migration.References
import SchemaJournal.Proofs.Store.Effect
import SchemaJournal.Proofs.Store.Query
import SchemaJournal.Proofs.Store.Session
import SchemaJournal.Proofs.Runner.Prefix
import SchemaJournal.Proofs.Journal.Stem
import SchemaJournal.Proofs.Runner.Alternation
import SchemaJournal.Proofs.Order.Complete
import SchemaJournal.Proofs.Journal.Chronology
import SchemaJournal.Proofs.Store.Latest
import SchemaJournal.Proofs.Store.Progress
import SchemaJournal.Proofs.Runner.Contents
import SchemaJournal.Proofs.Runner.Reversal
import SchemaJournal.Proofs.Runner.Resumption
import SchemaJournal.Proofs.Json.Numeral
import SchemaJournal.Proofs.Json.Spelling
import SchemaJournal.Proofs.Json.Document
import SchemaJournal.Proofs.Migration.Document
import SchemaJournal.Proofs.Files.Tree
import SchemaJournal.Proofs.Journal.Saved
import SchemaJournal.Proofs.Store.Tables
import SchemaJournal.Proofs.Runner.Restoration
import SchemaJournal.Proofs.Runner.Prediction
import SchemaJournal.Proofs.Json.Layout
import SchemaJournal.Proofs.Json.Fit
import SchemaJournal.Proofs.Json.Codec
import SchemaJournal.Proofs.Schema.Document
import SchemaJournal.Proofs.Schema.Editing
import SchemaJournal.Proofs.Schema.Saving
import SchemaJournal.Proofs.Runner.Removal
import SchemaJournal.Proofs.Ddl.Relations
import SchemaJournal.Proofs.Text.Lexing
import SchemaJournal.Proofs.Ddl.Structure
import SchemaJournal.Proofs.Files.Growth
import SchemaJournal.Proofs.Journal.Durability
import SchemaJournal.Proofs.Ddl.Columns
import SchemaJournal.Proofs.Journal.AppendOnly
import SchemaJournal.Proofs.Store.Atomicity
import SchemaJournal.Proofs.Text.Percent
import SchemaJournal.Proofs.Connection.Address
import SchemaJournal.Proofs.Connection.Url
import SchemaJournal.Proofs.Connection.Credentials
import SchemaJournal.Proofs.Order.Reach
import SchemaJournal.Proofs.Order.Stability
import SchemaJournal.Proofs.Journal.Listing
import SchemaJournal.Proofs.Connection.Host
import SchemaJournal.Proofs.Journal.Lookup
import SchemaJournal.Proofs.Runner.Standstill
import SchemaJournal.Proofs.Runner.Clearing
import SchemaJournal.Proofs.Ddl.Defaults
import SchemaJournal.Proofs.Ddl.Preview
import SchemaJournal.Proofs.Json.Members
import SchemaJournal.Proofs.Schema.Columns
import SchemaJournal.Proofs.Schema.Wording
import SchemaJournal.Proofs.Schema.Failure
import SchemaJournal.Proofs.Order.Search
import SchemaJournal.Proofs.Migration.Identity
import SchemaJournal.Proofs.Files.Directories
import SchemaJournal.Proofs.Journal.Duplicates
