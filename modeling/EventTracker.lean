import EventTracker.Calendar.Date
import EventTracker.Calendar.DateTime
import EventTracker.Config
import EventTracker.Double.Basic
import EventTracker.Double.Reading
import EventTracker.Double.Rounding
import EventTracker.Double.Shortest
import EventTracker.Double.Text
import EventTracker.Environment.Basic
import EventTracker.Environment.UserAgent
import EventTracker.Error
import EventTracker.Event.Basic
import EventTracker.Json.Encoding
import EventTracker.Json.Parser
import EventTracker.Json.Printer
import EventTracker.Json.Text
import EventTracker.Log
import EventTracker.Profile.Mutation
import EventTracker.Proofs.Calendar.Date
import EventTracker.Proofs.Calendar.Stamp
import EventTracker.Proofs.Config.Changes
import EventTracker.Proofs.Config.Timeout
import EventTracker.Proofs.Double.Decimals
import EventTracker.Proofs.Double.Integers
import EventTracker.Proofs.Double.Rounding
import EventTracker.Proofs.Double.Shortest
import EventTracker.Proofs.Environment.Version
import EventTracker.Proofs.Json.Controls
import EventTracker.Proofs.Json.Document
import EventTracker.Proofs.Json.Grammar
import EventTracker.Proofs.Json.Number
import EventTracker.Proofs.Json.Parsing
import EventTracker.Proofs.Json.Printing
import EventTracker.Proofs.Json.RoundTrip
import EventTracker.Proofs.Json.Surrogates
import EventTracker.Proofs.Json.Text
import EventTracker.Proofs.Profile.Mutation
import EventTracker.Proofs.Profile.WireForm
import EventTracker.Proofs.Schema.Container
import EventTracker.Proofs.Storage.Accesses
import EventTracker.Proofs.Storage.Confinement
import EventTracker.Proofs.Storage.FileTree
import EventTracker.Proofs.Storage.Folder
import EventTracker.Proofs.Storage.Interruption
import EventTracker.Proofs.Storage.Memory
import EventTracker.Proofs.Storage.ReadBack
import EventTracker.Proofs.Storage.Reliability
import EventTracker.Proofs.Storage.SameFiles
import EventTracker.Proofs.Storage.Sharing
import EventTracker.Proofs.Storage.Ways
import EventTracker.Proofs.Store.Absence
import EventTracker.Proofs.Store.Basic
import EventTracker.Proofs.Store.Changes
import EventTracker.Proofs.Store.Composition
import EventTracker.Proofs.Store.Disks
import EventTracker.Proofs.Store.Durability
import EventTracker.Proofs.Store.Folders
import EventTracker.Proofs.Store.Identified
import EventTracker.Proofs.Store.Ids
import EventTracker.Proofs.Store.Layers
import EventTracker.Proofs.Store.Loading
import EventTracker.Proofs.Store.Lockstep
import EventTracker.Proofs.Store.Logging
import EventTracker.Proofs.Store.Partition
import EventTracker.Proofs.Store.Resumption
import EventTracker.Proofs.Store.Sharing
import EventTracker.Proofs.Store.StartUp
import EventTracker.Proofs.Store.Texts
import EventTracker.Proofs.Text.CodePoint
import EventTracker.Proofs.Text.Digits
import EventTracker.Proofs.Text.Padded
import EventTracker.Proofs.Tracker.Actions
import EventTracker.Proofs.Tracker.Alike
import EventTracker.Proofs.Tracker.Amounts
import EventTracker.Proofs.Tracker.Anonymity
import EventTracker.Proofs.Tracker.Bags
import EventTracker.Proofs.Tracker.Blindness
import EventTracker.Proofs.Tracker.Calls
import EventTracker.Proofs.Tracker.Charges
import EventTracker.Proofs.Tracker.Clock
import EventTracker.Proofs.Tracker.Courses
import EventTracker.Proofs.Tracker.Documents
import EventTracker.Proofs.Tracker.Draining
import EventTracker.Proofs.Tracker.Effects
import EventTracker.Proofs.Tracker.Handling
import EventTracker.Proofs.Tracker.Hosts
import EventTracker.Proofs.Tracker.Ids
import EventTracker.Proofs.Tracker.Increments
import EventTracker.Proofs.Tracker.Lasting
import EventTracker.Proofs.Tracker.Lifecycle
import EventTracker.Proofs.Tracker.Links
import EventTracker.Proofs.Tracker.Moves
import EventTracker.Proofs.Tracker.Opening
import EventTracker.Proofs.Tracker.Outcomes
import EventTracker.Proofs.Tracker.Requests
import EventTracker.Proofs.Tracker.Responses
import EventTracker.Proofs.Tracker.Restart
import EventTracker.Proofs.Tracker.Returns
import EventTracker.Proofs.Tracker.Runs
import EventTracker.Proofs.Tracker.Serving
import EventTracker.Proofs.Tracker.Sessions
import EventTracker.Proofs.Tracker.Shapes
import EventTracker.Proofs.Tracker.Snapshots
import EventTracker.Proofs.Tracker.Tokens
import EventTracker.Proofs.Value.Entries
import EventTracker.Proofs.Value.Finite
import EventTracker.Proofs.Value.Induction
import EventTracker.Proofs.Value.Key
import EventTracker.Proofs.Value.NormalForm
import EventTracker.Proofs.Value.SameBut
import EventTracker.Proofs.Wire.Depth
import EventTracker.Proofs.Wire.Finite
import EventTracker.Proofs.Wire.Payload
import EventTracker.Proofs.Wire.Redaction
import EventTracker.Proofs.Wire.RoundTrip
import EventTracker.Proofs.Wire.Tokens
import EventTracker.Proofs.Wire.Truncation
import EventTracker.Schema.Container
import EventTracker.Schema.Flaw
import EventTracker.Schema.IntegerText
import EventTracker.Schema.Record
import EventTracker.Schema.Scalar
import EventTracker.Storage.Basic
import EventTracker.Storage.FileTree
import EventTracker.Store.Basic
import EventTracker.Store.Composition
import EventTracker.Store.Identity
import EventTracker.Store.SuperProperties
import EventTracker.Store.Surroundings
import EventTracker.Text.Base64
import EventTracker.Text.Blank
import EventTracker.Text.CodePoint
import EventTracker.Text.DecimalDigit
import EventTracker.Text.Hex
import EventTracker.Text.Padded
import EventTracker.Text.Percent
import EventTracker.Text.Printable
import EventTracker.Text.Quoted
import EventTracker.Tracker.Basic
import EventTracker.Tracker.EventLoop
import EventTracker.Tracker.Profile
import EventTracker.Tracker.Request
import EventTracker.Tracker.Transport
import EventTracker.Tracker.World
import EventTracker.Value.Basic
import EventTracker.Value.Depth
import EventTracker.Value.Entries
import EventTracker.Value.Key
import EventTracker.Value.Mapping
import EventTracker.Value.Shown
import EventTracker.Wire.Body
import EventTracker.Wire.Truncation
import EventTracker.Wire.Utf8
