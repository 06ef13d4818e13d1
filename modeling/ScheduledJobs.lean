import ScheduledJobs.Address
import ScheduledJobs.Address.DomainName
import ScheduledJobs.Address.DomainName.Replacement
import ScheduledJobs.Address.DomainName.Table
import ScheduledJobs.Address.Host
import ScheduledJobs.Binary64
import ScheduledJobs.CommandLine.Arguments
import ScheduledJobs.CommandLine.Failure
import ScheduledJobs.CommandLine.Program
import ScheduledJobs.CommandLine.Session
import ScheduledJobs.Definition.Basic
import ScheduledJobs.Definition.Reading
import ScheduledJobs.Definition.Secrets
import ScheduledJobs.Definition.Writing
import ScheduledJobs.Directory
import ScheduledJobs.Document.Atoms
import ScheduledJobs.Document.Form
import ScheduledJobs.Document.Json.Parser
import ScheduledJobs.Document.Json.Printer
import ScheduledJobs.Document.Number
import ScheduledJobs.Document.Toml.Lexical
import ScheduledJobs.Document.Toml.Parser
import ScheduledJobs.Document.Toml.Reading
import ScheduledJobs.Document.Toml.Scalar
import ScheduledJobs.Document.Toml.Tree
import ScheduledJobs.Document.Value
import ScheduledJobs.Environment
import ScheduledJobs.Exchange.Incoming
import ScheduledJobs.Exchange.Outgoing
import ScheduledJobs.FileTree
import ScheduledJobs.Fingerprint
import ScheduledJobs.IdentitySet
import ScheduledJobs.Instant.Basic
import ScheduledJobs.Instant.Text
import ScheduledJobs.Job.Basic
import ScheduledJobs.Job.Reading
import ScheduledJobs.Job.Schedule
import ScheduledJobs.Job.Url
import ScheduledJobs.Job.Validation
import ScheduledJobs.Job.Writing
import ScheduledJobs.JobId
import ScheduledJobs.Loading
import ScheduledJobs.Main
import ScheduledJobs.Path
import ScheduledJobs.Presence
import ScheduledJobs.Proofs.CommandLine.Confined
import ScheduledJobs.Proofs.CommandLine.History
import ScheduledJobs.Proofs.CommandLine.InStep
import ScheduledJobs.Proofs.CommandLine.Isolation
import ScheduledJobs.Proofs.CommandLine.Plan
import ScheduledJobs.Proofs.CommandLine.Records
import ScheduledJobs.Proofs.Definition.Plain
import ScheduledJobs.Proofs.Definition.Reading
import ScheduledJobs.Proofs.Definition.Redaction
import ScheduledJobs.Proofs.Definition.RoundTrip
import ScheduledJobs.Proofs.Definition.Secrets
import ScheduledJobs.Proofs.Definition.Spelling
import ScheduledJobs.Proofs.Directory
import ScheduledJobs.Proofs.Document.FormAgreement
import ScheduledJobs.Proofs.Document.FormReading
import ScheduledJobs.Proofs.Document.FormResults
import ScheduledJobs.Proofs.Document.Json.Cycle
import ScheduledJobs.Proofs.Document.Json.Numbers
import ScheduledJobs.Proofs.Document.Json.RoundTrip
import ScheduledJobs.Proofs.Document.Json.Strings
import ScheduledJobs.Proofs.Document.Plain
import ScheduledJobs.Proofs.Exchange.Collections
import ScheduledJobs.Proofs.Exchange.Requests
import ScheduledJobs.Proofs.Exchange.Returned
import ScheduledJobs.Proofs.Exchange.Settled
import ScheduledJobs.Proofs.Exchange.Timetables
import ScheduledJobs.Proofs.Exchange.WellFormed
import ScheduledJobs.Proofs.FileTree
import ScheduledJobs.Proofs.Fingerprint
import ScheduledJobs.Proofs.History
import ScheduledJobs.Proofs.IdentitySet
import ScheduledJobs.Proofs.IdentitySet.Keys
import ScheduledJobs.Proofs.IdentitySet.Order
import ScheduledJobs.Proofs.Instant.RoundTrip
import ScheduledJobs.Proofs.Job.Cycle
import ScheduledJobs.Proofs.Job.DistinctDays
import ScheduledJobs.Proofs.Job.Domain
import ScheduledJobs.Proofs.Job.Equality
import ScheduledJobs.Proofs.Job.Identity
import ScheduledJobs.Proofs.Job.Occurrences
import ScheduledJobs.Proofs.Job.Order
import ScheduledJobs.Proofs.Job.Plain
import ScheduledJobs.Proofs.Job.Reading
import ScheduledJobs.Proofs.Job.Reports
import ScheduledJobs.Proofs.Job.RoundTrip
import ScheduledJobs.Proofs.Job.Rules
import ScheduledJobs.Proofs.Job.Schemes
import ScheduledJobs.Proofs.Job.Secrets
import ScheduledJobs.Proofs.Job.Url
import ScheduledJobs.Proofs.Job.Validation
import ScheduledJobs.Proofs.JobId
import ScheduledJobs.Proofs.JobId.Grammar
import ScheduledJobs.Proofs.JobId.Path
import ScheduledJobs.Proofs.Results
import ScheduledJobs.Proofs.Service.Announced
import ScheduledJobs.Proofs.Service.Answer
import ScheduledJobs.Proofs.Service.Contents
import ScheduledJobs.Proofs.Service.Cycle
import ScheduledJobs.Proofs.Service.Days
import ScheduledJobs.Proofs.Service.Emulator
import ScheduledJobs.Proofs.Service.Logged
import ScheduledJobs.Proofs.Service.ResourceManager
import ScheduledJobs.Proofs.Service.Responses
import ScheduledJobs.Proofs.Service.Restored
import ScheduledJobs.Proofs.Service.Secrets
import ScheduledJobs.Proofs.Service.Stable
import ScheduledJobs.Proofs.SortedMap
import ScheduledJobs.Proofs.Store.Basic
import ScheduledJobs.Proofs.Store.Confined
import ScheduledJobs.Proofs.Store.Contents
import ScheduledJobs.Proofs.Store.Interrupted
import ScheduledJobs.Proofs.Store.Observed
import ScheduledJobs.Proofs.Store.Record
import ScheduledJobs.Proofs.Synchronizer.Answer
import ScheduledJobs.Proofs.Synchronizer.Conduct
import ScheduledJobs.Proofs.Synchronizer.Confined
import ScheduledJobs.Proofs.Synchronizer.Emulated
import ScheduledJobs.Proofs.Synchronizer.Faithful
import ScheduledJobs.Proofs.Synchronizer.Held
import ScheduledJobs.Proofs.Synchronizer.Refinement
import ScheduledJobs.Proofs.Synchronizer.Runs
import ScheduledJobs.Proofs.Synchronizer.Secrets
import ScheduledJobs.Proofs.Synchronizer.Sent
import ScheduledJobs.Proofs.Synchronizer.Stable
import ScheduledJobs.Proofs.Text.LowerCase
import ScheduledJobs.Proofs.Text.Numerals
import ScheduledJobs.Proofs.Text.Octets
import ScheduledJobs.Proofs.Text.Segments
import ScheduledJobs.Service.Basic
import ScheduledJobs.Service.Emulator
import ScheduledJobs.Service.ResourceManager
import ScheduledJobs.Service.Script
import ScheduledJobs.Settings.Basic
import ScheduledJobs.Settings.Location
import ScheduledJobs.SortedMap
import ScheduledJobs.Store.Basic
import ScheduledJobs.Store.Record
import ScheduledJobs.Synchronizer
import ScheduledJobs.Text.Blank
import ScheduledJobs.Text.Caseless
import ScheduledJobs.Text.CodePoint
import ScheduledJobs.Text.Composition
import ScheduledJobs.Text.Composition.Table
import ScheduledJobs.Text.Decimal
import ScheduledJobs.Text.Hexadecimal
import ScheduledJobs.Text.Listing
import ScheduledJobs.Text.LowerCase
import ScheduledJobs.Text.LowerCase.Table
import ScheduledJobs.Text.Percent
import ScheduledJobs.Text.Punycode
import ScheduledJobs.Text.Quoted
import ScheduledJobs.Text.Quoted.Table
import ScheduledJobs.Text.Segments
import ScheduledJobs.Text.Utf8
import ScheduledJobs.Verbosity
