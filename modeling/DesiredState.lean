import DesiredState.CommandLine.Arguments
import DesiredState.CommandLine.Help
import DesiredState.CommandLine.Run
import DesiredState.Cycle.Basic
import DesiredState.Cycle.Error
import DesiredState.Document
import DesiredState.Http.Basic
import DesiredState.Http.Offline
import DesiredState.Http.Url
import DesiredState.Json.Basic
import DesiredState.Json.Parse
import DesiredState.Json.Print
import DesiredState.Load
import DesiredState.Main
import DesiredState.Members
import DesiredState.Notice
import DesiredState.Number.Binary64
import DesiredState.ParameterError
import DesiredState.ParameterFile
import DesiredState.Parameters.Basic
import DesiredState.Parameters.Json
import DesiredState.Parameters.Read
import DesiredState.Parameters.Settings
import DesiredState.Patch.Diff
import DesiredState.Patch.Engine
import DesiredState.Patch.Ignore
import DesiredState.Patch.Merge
import DesiredState.Patch.Snapshot
import DesiredState.Proofs.Cycle.Authorship
import DesiredState.Proofs.Cycle.Basic
import DesiredState.Proofs.Cycle.Defaulted
import DesiredState.Proofs.Cycle.Dropped
import DesiredState.Proofs.Cycle.Idempotence
import DesiredState.Proofs.Cycle.Interleaving
import DesiredState.Proofs.Cycle.Isolation
import DesiredState.Proofs.Cycle.LostUpdate
import DesiredState.Proofs.Cycle.Prepared
import DesiredState.Proofs.Cycle.Projection
import DesiredState.Proofs.Cycle.Protocol
import DesiredState.Proofs.Cycle.Readback
import DesiredState.Proofs.Cycle.Recorded
import DesiredState.Proofs.Cycle.Remote
import DesiredState.Proofs.Cycle.Replacement
import DesiredState.Proofs.Cycle.Retained
import DesiredState.Proofs.Cycle.Session
import DesiredState.Proofs.Cycle.Submission
import DesiredState.Proofs.Except
import DesiredState.Proofs.Json.Basic
import DesiredState.Proofs.Json.Content
import DesiredState.Proofs.Json.Floatless
import DesiredState.Proofs.Json.NumberReading
import DesiredState.Proofs.Json.NumberText
import DesiredState.Proofs.Json.Range
import DesiredState.Proofs.Json.Readable
import DesiredState.Proofs.Json.Reading
import DesiredState.Proofs.Json.Roundtrip
import DesiredState.Proofs.Json.Shape
import DesiredState.Proofs.Json.StringText
import DesiredState.Proofs.Members
import DesiredState.Proofs.Number.Rounding
import DesiredState.Proofs.Number.Shortest
import DesiredState.Proofs.Parameters.Filling
import DesiredState.Proofs.Parameters.Roundtrip
import DesiredState.Proofs.Patch.Agreement
import DesiredState.Proofs.Patch.Authored
import DesiredState.Proofs.Patch.Compared
import DesiredState.Proofs.Patch.Convergence
import DesiredState.Proofs.Patch.Diff
import DesiredState.Proofs.Patch.Frame
import DesiredState.Proofs.Patch.Ignore
import DesiredState.Proofs.Patch.Ignored
import DesiredState.Proofs.Patch.Known
import DesiredState.Proofs.Patch.Merge
import DesiredState.Proofs.Patch.Path
import DesiredState.Proofs.Patch.Removal
import DesiredState.Proofs.Patch.Roundtrip
import DesiredState.Proofs.Patch.Settled
import DesiredState.Proofs.Patch.Snapshot
import DesiredState.Proofs.Patch.Within
import DesiredState.Proofs.Quantity.Canonical
import DesiredState.Proofs.Quantity.Exact
import DesiredState.Proofs.Quantity.Respelling
import DesiredState.Proofs.Quantity.Written
import DesiredState.Proofs.Schema.Json
import DesiredState.Proofs.Schema.Kept
import DesiredState.Proofs.Schema.Map
import DesiredState.Proofs.Schema.Readable
import DesiredState.Proofs.Schema.Roundtrip
import DesiredState.Proofs.Store.Defaults
import DesiredState.Proofs.Store.Exchange
import DesiredState.Proofs.Store.Filled
import DesiredState.Proofs.Store.Generation
import DesiredState.Proofs.Store.Memory
import DesiredState.Proofs.Store.Requests
import DesiredState.Proofs.Store.Versions
import DesiredState.Proofs.Synthesis
import DesiredState.Proofs.Synthesis.Mounts
import DesiredState.Proofs.Synthesis.Owners
import DesiredState.Proofs.Synthesis.Refusal
import DesiredState.Proofs.Text.Blank
import DesiredState.Proofs.Timestamp.Calendar
import DesiredState.Proofs.Timestamp.Text
import DesiredState.Quantity.Basic
import DesiredState.Quantity.Parse
import DesiredState.ResourceKey
import DesiredState.Schema.Datum
import DesiredState.Schema.Kind
import DesiredState.Schema.Read
import DesiredState.Schema.Record
import DesiredState.Schema.Table
import DesiredState.Schema.Typing
import DesiredState.StatefulSet
import DesiredState.Store.Basic
import DesiredState.Store.Defaults
import DesiredState.Store.Memory
import DesiredState.Store.Remote
import DesiredState.Synthesis
import DesiredState.Text.Blank
import DesiredState.Text.Digits
import DesiredState.Text.Lowercase
import DesiredState.Text.Printable
import DesiredState.Text.Shown
import DesiredState.Timestamp.Basic
import DesiredState.Timestamp.Calendar
import DesiredState.Yaml.Chars
import DesiredState.Yaml.Linked
import DesiredState.Yaml.Meaning
import DesiredState.Yaml.Plain
import DesiredState.Yaml.Print
import DesiredState.Yaml.Token.Basic
import DesiredState.Yaml.Token.Block
import DesiredState.Yaml.Token.Gap
import DesiredState.Yaml.Token.Layout
import DesiredState.Yaml.Token.Quoted
import DesiredState.Yaml.Token.Tag
import DesiredState.Yaml.Token.Word
import DesiredState.Yaml.Tree
