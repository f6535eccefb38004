import ReplicatedStore.Address
import ReplicatedStore.Change
import ReplicatedStore.Change.Encoding
import ReplicatedStore.Command.Basic
import ReplicatedStore.Command.Error
import ReplicatedStore.Command.Parser
import ReplicatedStore.Command.Query
import ReplicatedStore.Command.Verb
import ReplicatedStore.CommandLine
import ReplicatedStore.Config
import ReplicatedStore.Directory
import ReplicatedStore.Encoding.Checksum
import ReplicatedStore.Encoding.FormatError
import ReplicatedStore.Encoding.Layout
import ReplicatedStore.Main
import ReplicatedStore.Node.Basic
import ReplicatedStore.Node.Connection
import ReplicatedStore.Node.Dispatch
import ReplicatedStore.Node.Info
import ReplicatedStore.Node.Replication
import ReplicatedStore.Node.Run
import ReplicatedStore.Pattern.Glob
import ReplicatedStore.Pattern.Regex
import ReplicatedStore.Pattern.Regex.Build
import ReplicatedStore.Pattern.Regex.Class
import ReplicatedStore.Pattern.Regex.Compile
import ReplicatedStore.Pattern.Regex.Parser
import ReplicatedStore.Pattern.Regex.Property
import ReplicatedStore.Pattern.Regex.Size
import ReplicatedStore.Pattern.Regex.Syntax
import ReplicatedStore.Reply
import ReplicatedStore.Reply.Encoding
import ReplicatedStore.Request
import ReplicatedStore.Request.Encoding
import ReplicatedStore.Seed
import ReplicatedStore.Session
import ReplicatedStore.Snapshot
import ReplicatedStore.Snapshot.Encoding
import ReplicatedStore.Store.Agenda
import ReplicatedStore.Store.Basic
import ReplicatedStore.Store.Error
import ReplicatedStore.Store.Keys
import ReplicatedStore.Store.Lists
import ReplicatedStore.Store.Operation
import ReplicatedStore.Store.Patterns
import ReplicatedStore.Store.Persistence
import ReplicatedStore.Store.Sets
import ReplicatedStore.Store.Sort
import ReplicatedStore.Store.Strings
import ReplicatedStore.Text.Blank
import ReplicatedStore.Text.Bytes
import ReplicatedStore.Text.CharSet
import ReplicatedStore.Text.Decimal
import ReplicatedStore.Text.Hexadecimal
import ReplicatedStore.Text.Line
import ReplicatedStore.Text.LowerCase
import ReplicatedStore.Text.OctetRanges
import ReplicatedStore.Text.Property.Age
import ReplicatedStore.Text.Property.CaseChanges
import ReplicatedStore.Text.Property.CaseFolding
import ReplicatedStore.Text.Property.CaseRuns
import ReplicatedStore.Text.Property.Category
import ReplicatedStore.Text.Property.CategoryRuns
import ReplicatedStore.Text.Property.Format
import ReplicatedStore.Text.Property.GraphemeBreaks
import ReplicatedStore.Text.Property.Identifiers
import ReplicatedStore.Text.Property.Letters
import ReplicatedStore.Text.Property.LowerCase
import ReplicatedStore.Text.Property.Marks
import ReplicatedStore.Text.Property.Recent
import ReplicatedStore.Text.Property.Script
import ReplicatedStore.Text.Property.ScriptExtensions
import ReplicatedStore.Text.Property.SentenceBreaks
import ReplicatedStore.Text.Property.Symbols
import ReplicatedStore.Text.Property.WordBreaks
import ReplicatedStore.Text.Split
import ReplicatedStore.Toml
import ReplicatedStore.Toml.Bare
import ReplicatedStore.Toml.Line
import ReplicatedStore.Toml.Quoted
import ReplicatedStore.Toml.Value
import ReplicatedStore.Value
import ReplicatedStore.Weight
import ReplicatedStore.Proofs.Store.Contents
import ReplicatedStore.Proofs.Store.Edit
import ReplicatedStore.Proofs.Replication.Coordination
import ReplicatedStore.Proofs.Store.Deadlines
import ReplicatedStore.Proofs.Change.Encoding
import ReplicatedStore.Proofs.Command.Recorded
import ReplicatedStore.Proofs.Node.Replaying
import ReplicatedStore.Proofs.Replication.Convergence
import ReplicatedStore.Proofs.Replication.PastStates
import ReplicatedStore.Proofs.Snapshot.RoundTrip
import ReplicatedStore.Proofs.Store.Saving
import ReplicatedStore.Proofs.Store.Lockstep
import ReplicatedStore.Proofs.Node.Served
import ReplicatedStore.Proofs.Node.WriteGate
import ReplicatedStore.Proofs.Store.Refusal
import ReplicatedStore.Proofs.Store.Alike
import ReplicatedStore.Proofs.Replication.Relay
import ReplicatedStore.Proofs.Text.Line
import ReplicatedStore.Proofs.Reply.RoundTrip
import ReplicatedStore.Proofs.Command.Quoted
import ReplicatedStore.Proofs.Node.Replies
import ReplicatedStore.Proofs.Node.Turns
import ReplicatedStore.Proofs.Replication.Tracking
import ReplicatedStore.Proofs.Replication.Downstream
import ReplicatedStore.Proofs.Reply.Stream
import ReplicatedStore.Proofs.Request.Encoding
import ReplicatedStore.Proofs.Request.Stream
import ReplicatedStore.Proofs.Node.Connection
import ReplicatedStore.Proofs.Store.Frame
import ReplicatedStore.Proofs.Command.Asked
import ReplicatedStore.Proofs.Store.Types
import ReplicatedStore.Proofs.Node.Errors
import ReplicatedStore.Proofs.Node.Types
import ReplicatedStore.Proofs.Node.Secrecy
import ReplicatedStore.Proofs.Encoding.Checksum
import ReplicatedStore.Proofs.Encoding.Damage
import ReplicatedStore.Proofs.Change.RoundTrip
import ReplicatedStore.Proofs.Node.ReplayGate
import ReplicatedStore.Proofs.Node.FailedChange
import ReplicatedStore.Proofs.Encoding.Backing
import ReplicatedStore.Proofs.Snapshot.NormalForm
import ReplicatedStore.Proofs.Request.Grammar
import ReplicatedStore.Proofs.Store.Pass
import ReplicatedStore.Proofs.Store.Lifetime
import ReplicatedStore.Proofs.Store.Lists
import ReplicatedStore.Proofs.Store.SetAlgebra
import ReplicatedStore.Proofs.Store.Moves
import ReplicatedStore.Proofs.Node.Counters
import ReplicatedStore.Proofs.Store.Sort
import ReplicatedStore.Proofs.Store.SortKeys
import ReplicatedStore.Proofs.Command.SortOptions
import ReplicatedStore.Proofs.Text.Split
import ReplicatedStore.Proofs.Store.Seeding
import ReplicatedStore.Proofs.Store.Unsaved
import ReplicatedStore.Proofs.Seed.Includes
import ReplicatedStore.Proofs.Seed.Cycles
import ReplicatedStore.Proofs.Pattern.Anchored
