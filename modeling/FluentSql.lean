import FluentSql.Query.Draft
import FluentSql.Script.Command
import FluentSql.Script.Conditions
import FluentSql.Script.Edits
import FluentSql.Proofs.Text.Filling
import FluentSql.Proofs.Text.Joining
import FluentSql.Proofs.Identifier.Characters
import FluentSql.Proofs.Query.Alignment
import FluentSql.Proofs.Step.Triple
import FluentSql.Proofs.Heap.Drains
import FluentSql.Proofs.Connection.Steps
import FluentSql.Proofs.Connection.Marks
import FluentSql.Proofs.Record.Scope
import FluentSql.Proofs.Record.Conditions
import FluentSql.Proofs.Record.Balance
import FluentSql.Proofs.Connection.Ledger
import FluentSql.Proofs.Record.Saving
import FluentSql.Proofs.Record.Insertions
import FluentSql.Proofs.Literal.Reading
import FluentSql.Proofs.Query.Reading
import FluentSql.Proofs.Record.Statements
import FluentSql.Proofs.Query.Spelling
import FluentSql.Proofs.Query.Window
import FluentSql.Proofs.Record.Key
import FluentSql.Proofs.Record.Building
import FluentSql.Proofs.Record.Reading
import FluentSql.Proofs.Text.Json
import FluentSql.Proofs.Value.Quoted
import FluentSql.Proofs.Cache.KeyText
import FluentSql.Proofs.Cache.Store
import FluentSql.Proofs.Record.Addressing
import FluentSql.Proofs.Connection.CachedReads
import FluentSql.Proofs.Connection.WatchedReads
import FluentSql.Proofs.Connection.Deduplication
import FluentSql.Proofs.Connection.Looks
import FluentSql.Proofs.Record.Frame
import FluentSql.Proofs.Database.Machine
import FluentSql.Proofs.Database.Current
import FluentSql.Proofs.Database.Readings
import FluentSql.Proofs.Condition.Lexemes
import FluentSql.Proofs.Condition.Precedence
import FluentSql.Proofs.Condition.Meaning
import FluentSql.Proofs.Condition.Calls
import FluentSql.Proofs.Record.Makeup
import FluentSql.Proofs.Operation
import FluentSql.Proofs.Operation.Upkeep
import FluentSql.Proofs.Operation.Detection
import FluentSql.Proofs.Step.Mirror
import FluentSql.Proofs.Connection.Registering
import FluentSql.Proofs.Connection.Options
import FluentSql.Proofs.Connection.Mirror
import FluentSql.Proofs.Connection.Apart
import FluentSql.Proofs.Operation.Isolation
import FluentSql.Proofs.Changes.Alike
import FluentSql.Proofs.Record.Alike
import FluentSql.Proofs.Record.AlikeBuilding
import FluentSql.Proofs.Record.AlikeEdits
import FluentSql.Proofs.Record.AlikeStatements
import FluentSql.Proofs.Record.Independence
import FluentSql.Proofs.Connection.Consulting
import FluentSql.Proofs.Record.Looks
import FluentSql.Proofs.Record.Refusals
import FluentSql.Proofs.Connection.Quiet
import FluentSql.Proofs.Connection.Journal
import FluentSql.Proofs.Record.Submissions
import FluentSql.Proofs.Operation.Logging
import FluentSql.Proofs.Connection.Wire
import FluentSql.Proofs.Changes.Consistency
import FluentSql.Proofs.Changes.Agreement
import FluentSql.Proofs.Connection.Failures
import FluentSql.Proofs.Connection.Executing
import FluentSql.Proofs.Record.NullKey
import FluentSql.Proofs.Record.NullRefusals
import FluentSql.Proofs.Record.FilledKey
import FluentSql.Proofs.Record.Protocol
import FluentSql.Proofs.Connection.Sources
import FluentSql.Proofs.Connection.Replacing
import FluentSql.Proofs.Heap.Within
import FluentSql.Proofs.Heap.Confined
import FluentSql.Proofs.Connection.Manner
import FluentSql.Proofs.Record.Beside
import FluentSql.Proofs.Record.ConfinedCalls
import FluentSql.Proofs.Record.Interleaving
import FluentSql.Proofs.Changes.History
import FluentSql.Proofs.Record.History
import FluentSql.Proofs.Identifier.Reading
import FluentSql.Proofs.Literal.Replacing
import FluentSql.Proofs.Literal.Placeholders
import FluentSql.Proofs.Connection.Translation
import FluentSql.Proofs.Literal.Scanning
import FluentSql.Proofs.Literal.Display
import FluentSql.Proofs.Number.Rounding
import FluentSql.Proofs.Number.Spelling
import FluentSql.Proofs.Aggregate
import FluentSql.Proofs.Connection.Detached
import FluentSql.Proofs.Connection.Naming
import FluentSql.Proofs.Record.Aggregates
import FluentSql.Proofs.Operation.Drivers
import FluentSql.Proofs.Record.TerminalReads
import FluentSql.Proofs.Condition.Alternatives
import FluentSql.Proofs.Condition.Keys
import FluentSql.Proofs.Connection.Pairing
import FluentSql.Proofs.Operation.Pairing
import FluentSql.Proofs.Connection.PluggedCache
import FluentSql.Proofs.Operation.PluggedCache
