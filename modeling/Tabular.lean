import Tabular.Cell
import Tabular.Condition.Basic
import Tabular.Condition.Parser
import Tabular.Config
import Tabular.Connection
import Tabular.Console
import Tabular.Error
import Tabular.Main
import Tabular.Number.Binary64
import Tabular.Number.Decimal
import Tabular.Number.Integer
import Tabular.Session.Answer
import Tabular.Session.Basic
import Tabular.Session.Execution
import Tabular.SortedMap
import Tabular.Statement.Basic
import Tabular.Statement.Parser
import Tabular.Storage.Basic
import Tabular.Storage.Fault
import Tabular.Storage.Faulty
import Tabular.Storage.FileTree
import Tabular.Storage.Files
import Tabular.Storage.IdMarks
import Tabular.Storage.Memory
import Tabular.Table
import Tabular.Text.Blank
import Tabular.Text.CaseTables
import Tabular.Text.Caseless
import Tabular.Text.Lines
import Tabular.Text.LowerCase
import Tabular.Text.Occurrence
import Tabular.Text.UpperCase
import Tabular.Text.Utf8
import Tabular.Text.Utf8.RoundTrip
import Tabular.Token.Basic
import Tabular.Token.Keyword
import Tabular.Token.Operator
import Tabular.Token.Scan
import Tabular.Token.Tokenize
import Tabular.Proofs.Condition.Accepted
import Tabular.Proofs.Condition.Caseless
import Tabular.Proofs.Condition.Grammar
import Tabular.Proofs.Condition.Steps
import Tabular.Proofs.Connection.Framing
import Tabular.Proofs.Connection.Received
import Tabular.Proofs.Connection.Replies
import Tabular.Proofs.Connection.Responses
import Tabular.Proofs.Connection.Scans
import Tabular.Proofs.Console.Splicing
import Tabular.Proofs.Number.Decimals
import Tabular.Proofs.Number.Digits
import Tabular.Proofs.Number.Rounding
import Tabular.Proofs.Number.Spellings
import Tabular.Proofs.Number.Words
import Tabular.Proofs.Outcomes
import Tabular.Proofs.PairedOutcomes
import Tabular.Proofs.Session.AddedRows
import Tabular.Proofs.Session.Agreement
import Tabular.Proofs.Session.Alike
import Tabular.Proofs.Session.AlteredTables
import Tabular.Proofs.Session.Calls
import Tabular.Proofs.Session.Checked
import Tabular.Proofs.Session.Complaints
import Tabular.Proofs.Session.Confined
import Tabular.Proofs.Session.ContainedTexts
import Tabular.Proofs.Session.DroppedDatabases
import Tabular.Proofs.Session.Effect
import Tabular.Proofs.Session.Failures
import Tabular.Proofs.Session.FileSessions
import Tabular.Proofs.Session.FileStatements
import Tabular.Proofs.Session.Frames
import Tabular.Proofs.Session.FreshIds
import Tabular.Proofs.Session.JoinedTables
import Tabular.Proofs.Session.LiteralRoundTrip
import Tabular.Proofs.Session.LoadedIds
import Tabular.Proofs.Session.Logic
import Tabular.Proofs.Session.Lookups
import Tabular.Proofs.Session.MarkChanges
import Tabular.Proofs.Session.MatchedRows
import Tabular.Proofs.Session.Matching
import Tabular.Proofs.Session.NewTables
import Tabular.Proofs.Session.Refusals
import Tabular.Proofs.Session.Regular
import Tabular.Proofs.Session.Reload
import Tabular.Proofs.Session.Run
import Tabular.Proofs.Session.Settled
import Tabular.Proofs.Session.Spared
import Tabular.Proofs.Session.StoredTables
import Tabular.Proofs.Session.StoredValues
import Tabular.Proofs.Session.Success
import Tabular.Proofs.Session.WholeTables
import Tabular.Proofs.Statement.Accepted
import Tabular.Proofs.Statement.Caseless
import Tabular.Proofs.Statement.Checked
import Tabular.Proofs.Statement.Grammar
import Tabular.Proofs.Statement.Plain
import Tabular.Proofs.Statement.Readers
import Tabular.Proofs.Statement.Reading
import Tabular.Proofs.Statement.ReservedWords
import Tabular.Proofs.Statement.Writing
import Tabular.Proofs.Storage.Finding
import Tabular.Proofs.Storage.Image
import Tabular.Proofs.Storage.ImageChanges
import Tabular.Proofs.Storage.LinesCodec
import Tabular.Proofs.Storage.MarksCodec
import Tabular.Proofs.Storage.Paths
import Tabular.Proofs.Storage.PlainNames
import Tabular.Proofs.Storage.StoredLines
import Tabular.Proofs.Storage.StoredMarks
import Tabular.Proofs.Storage.StoredNames
import Tabular.Proofs.Storage.View
import Tabular.Proofs.Table.Assignments
import Tabular.Proofs.Table.CellEquality
import Tabular.Proofs.Table.CellOrder
import Tabular.Proofs.Table.Changes
import Tabular.Proofs.Table.Checked
import Tabular.Proofs.Table.Codec
import Tabular.Proofs.Table.Columns
import Tabular.Proofs.Table.HighestIds
import Tabular.Proofs.Table.Joining
import Tabular.Proofs.Table.KeyEquality
import Tabular.Proofs.Table.Lookup
import Tabular.Proofs.Table.RowIds
import Tabular.Proofs.Table.WellFormed
import Tabular.Proofs.Text.Lossy
import Tabular.Proofs.Text.LowerCase
import Tabular.Proofs.Text.Messages
import Tabular.Proofs.Text.Trimming
import Tabular.Proofs.Token.Breaks
import Tabular.Proofs.Token.Caseless
import Tabular.Proofs.Token.Kinds
import Tabular.Proofs.Token.Layout
import Tabular.Proofs.Token.Lexemes
import Tabular.Proofs.Token.Names
import Tabular.Proofs.Token.Plain
import Tabular.Proofs.Token.Scanning
import Tabular.Proofs.Token.Spelling
