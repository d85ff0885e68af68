import Ledger.Decimal
import Ledger.Decimal.Read
import Ledger.Json
import Ledger.Json.Scan
import Ledger.Time
import Ledger.Time.Read
import Ledger.Text.Base64
import Ledger.Text.Utf8
import Ledger.Amount
import Ledger.Audit
import Ledger.Account
import Ledger.Entry
import Ledger.Cursor
import Ledger.Fault
import Ledger.Failure
import Ledger.Text.Case
import Ledger.Text.Printable
import Ledger.Text.Unicode
import Ledger.Text.Numeral
import Ledger.Config
import Ledger.Request
import Ledger.Posting
import Ledger.Books
import Ledger.Event
import Ledger.Office
import Ledger.Office.Chart
import Ledger.Office.Journal
import Ledger.Office.Reports
import Ledger.Transaction
import Ledger.Protocol.Bind
import Ledger.Protocol.Decode
import Ledger.Protocol.Step
import Ledger.Protocol.Encode
import Ledger.Api.Address
import Ledger.Api.Url
import Ledger.Api.Head
import Ledger.Api.Route
import Ledger.Api.Limit
import Ledger.Api.Query
import Ledger.Api.Serve
import Ledger.Protocol.Session
import Ledger.Protocol.Pure
import Ledger.Protocol.Answer
import Ledger.Main
import Ledger.Proofs.Value
import Ledger.Proofs.Store
import Ledger.Proofs.Posting
import Ledger.Proofs.Numbers
import Ledger.Proofs.Run
import Ledger.Proofs.Wellformed
import Ledger.Proofs.Atomicity
import Ledger.Proofs.Balance
import Ledger.Proofs.TrialBalance
import Ledger.Proofs.Reversal
import Ledger.Proofs.History
import Ledger.Proofs.Commits
import Ledger.Proofs.Replay
import Ledger.Proofs.Statement
import Ledger.Proofs.Bytes
import Ledger.Proofs.Timestamps
import Ledger.Proofs.Paging
import Ledger.Proofs.Tenants
import Ledger.Proofs.TenantCharts
import Ledger.Proofs.TenantJournals
import Ledger.Proofs.Refusals
import Ledger.Proofs.Numbering
import Ledger.Proofs.EntryForm
import Ledger.Proofs.Identifiers
import Ledger.Proofs.Hierarchy
import Ledger.Proofs.Moves
import Ledger.Proofs.TenantWrites
import Ledger.Proofs.Isolation
import Ledger.Proofs.Announcements
import Ledger.Proofs.Indexes
import Ledger.Proofs.Reparenting
import Ledger.Proofs.Transactions
import Ledger.Proofs.Commit
import Ledger.Proofs.Services
import Ledger.Proofs.PostingOrder
import Ledger.Proofs.HeldAccounts
import Ledger.Proofs.PostingOutcome
import Ledger.Proofs.ReversalOutcome
import Ledger.Proofs.FieldRules
import Ledger.Proofs.DraftAdmission
import Ledger.Proofs.AccountOpening
import Ledger.Proofs.PageTokens
import Ledger.Proofs.AmountText
import Ledger.Proofs.PrintedAmounts
import Ledger.Proofs.Classified
