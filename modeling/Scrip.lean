import Scrip.Account
import Scrip.Admin
import Scrip.Admin.Arguments
import Scrip.Admin.Help
import Scrip.Admin.Report
import Scrip.Credential.Password
import Scrip.Credential.Username
import Scrip.Crypt.Bcrypt
import Scrip.Crypt.Blowfish
import Scrip.Crypt.Pi
import Scrip.Dialogue
import Scrip.Engine.Basic
import Scrip.Engine.Catalog
import Scrip.Engine.Command
import Scrip.Engine.Movement
import Scrip.Engine.SignIn
import Scrip.Engine.Statement
import Scrip.Error
import Scrip.History
import Scrip.Holding
import Scrip.Http.Credentials
import Scrip.Http.Extraction
import Scrip.Http.MediaType
import Scrip.Http.Request
import Scrip.Http.Response
import Scrip.Http.Route
import Scrip.Http.Server
import Scrip.Item
import Scrip.Json.Reader
import Scrip.Json.Record
import Scrip.Json.Shape
import Scrip.Json.Skip
import Scrip.Json.Text
import Scrip.Ledger
import Scrip.Main
import Scrip.Number.Floating
import Scrip.Number.Numeral
import Scrip.Number.Rounding
import Scrip.Program
import Scrip.Proofs.Admin.Registration
import Scrip.Proofs.Concurrency.Deadline
import Scrip.Proofs.Concurrency.Draining
import Scrip.Proofs.Concurrency.Episode
import Scrip.Proofs.Concurrency.Locking
import Scrip.Proofs.Concurrency.Orderly
import Scrip.Proofs.Concurrency.Serial
import Scrip.Proofs.Concurrency.Shared
import Scrip.Proofs.Concurrency.SignIn
import Scrip.Proofs.Concurrency.Snapshot
import Scrip.Proofs.Concurrency.Timed
import Scrip.Proofs.Concurrency.Troubled
import Scrip.Proofs.Concurrency.Whole
import Scrip.Proofs.Credential.Key
import Scrip.Proofs.Credential.Password
import Scrip.Proofs.Credential.Username
import Scrip.Proofs.Engine.Bodies
import Scrip.Proofs.Engine.Bracketed
import Scrip.Proofs.Engine.Complies
import Scrip.Proofs.Engine.Creation
import Scrip.Proofs.Engine.Discreet
import Scrip.Proofs.Engine.Effect
import Scrip.Proofs.Engine.Indistinct
import Scrip.Proofs.Engine.Job
import Scrip.Proofs.Engine.Keeps
import Scrip.Proofs.Engine.Locks
import Scrip.Proofs.Engine.Look
import Scrip.Proofs.Engine.Lookups
import Scrip.Proofs.Engine.Movement
import Scrip.Proofs.Engine.Names
import Scrip.Proofs.Engine.Passwords
import Scrip.Proofs.Engine.Perform
import Scrip.Proofs.Engine.SignIn
import Scrip.Proofs.Engine.SignedIn
import Scrip.Proofs.Engine.Veiled
import Scrip.Proofs.Engine.Work
import Scrip.Proofs.Framework.Alone
import Scrip.Proofs.Framework.Answers
import Scrip.Proofs.Framework.Bracketed
import Scrip.Proofs.Framework.Complies
import Scrip.Proofs.Framework.Composed
import Scrip.Proofs.Framework.Discreet
import Scrip.Proofs.Framework.Faults
import Scrip.Proofs.Framework.Heeds
import Scrip.Proofs.Framework.InTurn
import Scrip.Proofs.Framework.Lawful
import Scrip.Proofs.Framework.Leads
import Scrip.Proofs.Framework.Paired
import Scrip.Proofs.Framework.Passage
import Scrip.Proofs.Framework.Proper
import Scrip.Proofs.Framework.Replies
import Scrip.Proofs.Framework.Respectful
import Scrip.Proofs.Framework.Ruled
import Scrip.Proofs.Framework.Steady
import Scrip.Proofs.Framework.Terms
import Scrip.Proofs.Framework.Units
import Scrip.Proofs.Framework.Wp
import Scrip.Proofs.Http.Credentials
import Scrip.Proofs.Http.Extraction
import Scrip.Proofs.Http.Keeps
import Scrip.Proofs.Http.Ownership
import Scrip.Proofs.Http.Refusal
import Scrip.Proofs.Http.SignIn
import Scrip.Proofs.Http.Veiled
import Scrip.Proofs.Json.Scalar
import Scrip.Proofs.Json.Shape
import Scrip.Proofs.Json.Skip
import Scrip.Proofs.Ledger.Catalog
import Scrip.Proofs.Ledger.Growth
import Scrip.Proofs.Ledger.History
import Scrip.Proofs.Ledger.Inventory
import Scrip.Proofs.Ledger.Names
import Scrip.Proofs.Ledger.Numbering
import Scrip.Proofs.Ledger.Order
import Scrip.Proofs.Ledger.Permanent
import Scrip.Proofs.Ledger.Projection
import Scrip.Proofs.Ledger.Purchase
import Scrip.Proofs.Ledger.Reconciled
import Scrip.Proofs.Ledger.Solvency
import Scrip.Proofs.Ledger.Spending
import Scrip.Proofs.Ledger.Statement
import Scrip.Proofs.Ledger.Transfer
import Scrip.Proofs.Ledger.WellFormed
import Scrip.Proofs.Store.Agreement
import Scrip.Proofs.Store.Backend
import Scrip.Proofs.Store.Image
import Scrip.Proofs.Store.Migration
import Scrip.Proofs.Store.Storable
import Scrip.Proofs.Store.Veiled
import Scrip.Proofs.Terminal.Prompt
import Scrip.Proofs.Text.Base64
import Scrip.Proofs.Text.Decomposition
import Scrip.Proofs.Text.Nfc
import Scrip.Proofs.Text.Order
import Scrip.Proofs.Text.Trimmed
import Scrip.Proofs.Time.Calendar
import Scrip.Proofs.Time.Digits
import Scrip.Proofs.Time.Stored
import Scrip.Proofs.Wire.RoundTrip
import Scrip.Session
import Scrip.Settings
import Scrip.Settings.Path
import Scrip.Settings.Value
import Scrip.Store.Books
import Scrip.Store.Edit
import Scrip.Store.Migration
import Scrip.Store.Request
import Scrip.Store.Scripted
import Scrip.Store.Storage
import Scrip.Store.Tables
import Scrip.Store.Unit
import Scrip.Terminal.Event
import Scrip.Terminal.Prompt
import Scrip.Text.Base64
import Scrip.Text.Blank
import Scrip.Text.Normal
import Scrip.Text.Normal.CombiningClass
import Scrip.Text.Normal.Composite
import Scrip.Text.Normal.Decomposition
import Scrip.Text.Quoted
import Scrip.Text.Visible
import Scrip.Time.Instant
import Scrip.Time.Reading
import Scrip.Time.Rfc3339
import Scrip.Toml.Document
import Scrip.Toml.Scalar
import Scrip.Wire.Message
import Scrip.Wire.Read
