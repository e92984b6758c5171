import AccessGrants.Acl
import AccessGrants.Address.Basic
import AccessGrants.Address.Host
import AccessGrants.Address.Reader
import AccessGrants.Collection.SortedSet
import AccessGrants.Collection.Table
import AccessGrants.CommandLine.Reader
import AccessGrants.CommandLine.Syntax
import AccessGrants.Database.Reading
import AccessGrants.Database.Record
import AccessGrants.Database.Schema
import AccessGrants.Database.Scope
import AccessGrants.Database.Writing
import AccessGrants.Decimal.Binary64
import AccessGrants.Decimal.Shortest
import AccessGrants.Diagnosis
import AccessGrants.Dialogue
import AccessGrants.Error
import AccessGrants.Evaluator
import AccessGrants.Evaluator.Direct
import AccessGrants.Evaluator.General
import AccessGrants.Event
import AccessGrants.Id
import AccessGrants.Inquiry
import AccessGrants.Json.Printer
import AccessGrants.Json.Reader
import AccessGrants.Json.Target
import AccessGrants.Json.Value
import AccessGrants.Main
import AccessGrants.Model
import AccessGrants.Policy
import AccessGrants.Principal.Resolution
import AccessGrants.Principal.Resolver
import AccessGrants.Principal.Token
import AccessGrants.Program
import AccessGrants.Scope
import AccessGrants.Service
import AccessGrants.Session
import AccessGrants.Settings.Basic
import AccessGrants.Settings.Decoding
import AccessGrants.Settings.Directory
import AccessGrants.Settings.Loading
import AccessGrants.Sql.Conversation
import AccessGrants.Sql.Endpoint
import AccessGrants.Sql.Exchange
import AccessGrants.Sql.Expr
import AccessGrants.Sql.Row
import AccessGrants.Sql.Statement
import AccessGrants.Sql.Value
import AccessGrants.Store.Reading
import AccessGrants.Store.Request
import AccessGrants.Store.State
import AccessGrants.Store.Writing
import AccessGrants.Target
import AccessGrants.Text.Blank
import AccessGrants.Text.Invisible
import AccessGrants.Text.Numeral
import AccessGrants.Text.Percent
import AccessGrants.Text.Quoted
import AccessGrants.Text.Reading
import AccessGrants.Text.Utf8
import AccessGrants.Toml.Document
import AccessGrants.Toml.Moment
import AccessGrants.Toml.Numeral
import AccessGrants.Toml.Quotation
import AccessGrants.Toml.Reader
import AccessGrants.Toml.Value
import AccessGrants.Visibility
import AccessGrants.Proofs.Collection.SortedSet
import AccessGrants.Proofs.Collection.Table
import AccessGrants.Proofs.Store.Consultation
import AccessGrants.Proofs.Store.Holding
import AccessGrants.Proofs.Store.Change
import AccessGrants.Proofs.Store.Refusal
import AccessGrants.Proofs.Store.Integrity
import AccessGrants.Proofs.Principal.Token
import AccessGrants.Proofs.Principal.Resolution
import AccessGrants.Proofs.Acl
import AccessGrants.Proofs.Evaluator.General
import AccessGrants.Proofs.Service
import AccessGrants.Proofs.Evaluator.Agreement
import AccessGrants.Proofs.Decision
import AccessGrants.Proofs.Privilege
import AccessGrants.Proofs.Activation
import AccessGrants.Proofs.Store.Frame
import AccessGrants.Proofs.Store.Growth
import AccessGrants.Proofs.Evaluator.Widening
import AccessGrants.Proofs.Influence
import AccessGrants.Proofs.AuditTrail
import AccessGrants.Proofs.Evaluator.Motion
import AccessGrants.Proofs.Accrual
import AccessGrants.Proofs.Dialogue
import AccessGrants.Proofs.Inquiry
import AccessGrants.Proofs.Service.Transcript
import AccessGrants.Proofs.Snapshot
import AccessGrants.Proofs.Session
import AccessGrants.Proofs.Store.Allocation
import AccessGrants.Proofs.Likeness
import AccessGrants.Proofs.Sql.Meaning
import AccessGrants.Proofs.Database.Tables
import AccessGrants.Proofs.Database.Scope
import AccessGrants.Proofs.Database.Reading
import AccessGrants.Proofs.Database.Replies
import AccessGrants.Proofs.Database.Backends
import AccessGrants.Proofs.Store.Provisioning
import AccessGrants.Proofs.Endowment
import AccessGrants.Proofs.Database.Provisioning
import AccessGrants.Proofs.Database.Transaction
import AccessGrants.Proofs.Sql.Constraint
import AccessGrants.Proofs.Sql.Concurrency
import AccessGrants.Proofs.Database.Slot
import AccessGrants.Proofs.Database.Listing
import AccessGrants.Proofs.Database.Statements
import AccessGrants.Proofs.Database.Overlap
import AccessGrants.Proofs.Database.Race
import AccessGrants.Proofs.Database.Contention
import AccessGrants.Proofs.Database.Concurrent
import AccessGrants.Proofs.Sql.Grammar
import AccessGrants.Proofs.Database.Columns
import AccessGrants.Proofs.Database.Binding
import AccessGrants.Proofs.Sql.Client
import AccessGrants.Proofs.Database.Key
import AccessGrants.Proofs.Database.Creation
import AccessGrants.Proofs.Database.Alone
import AccessGrants.Proofs.Database.Twins
import AccessGrants.Proofs.Database.Unowned
import AccessGrants.Proofs.Store.Enumeration
import AccessGrants.Proofs.Sql.Multiplicity
import AccessGrants.Proofs.Database.Enumeration
import AccessGrants.Proofs.Store.Existence
import AccessGrants.Proofs.Inquiry.Run
import AccessGrants.Proofs.Principal.Enumeration
import AccessGrants.Proofs.Evaluator.FirstMatch
import AccessGrants.Proofs.Coverage
import AccessGrants.Proofs.Target.Text
import AccessGrants.Proofs.Target.Json
import AccessGrants.Proofs.Database.Upkeep
import AccessGrants.Proofs.Database.States
import AccessGrants.Proofs.Principal.Gathering
import AccessGrants.Proofs.Store.Linking
import AccessGrants.Proofs.Settings.Layering
import AccessGrants.Proofs.Database.Decoding
import AccessGrants.Proofs.Program.Check
