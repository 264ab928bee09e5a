import HostBridge.Allocator
import HostBridge.Binary
import HostBridge.Bridge
import HostBridge.Buffer
import HostBridge.Bytes
import HostBridge.Descriptor
import HostBridge.Event
import HostBridge.Event.Filter
import HostBridge.Fault
import HostBridge.Handle.Arrays
import HostBridge.Handle.Buffers
import HostBridge.Handle.Status
import HostBridge.Handle.Store
import HostBridge.Host.Arena
import HostBridge.Host.Interface
import HostBridge.Host.Object
import HostBridge.Host.Ref
import HostBridge.Kind
import HostBridge.Lifecycle
import HostBridge.Marshal.Array
import HostBridge.Marshal.Basic
import HostBridge.Marshal.Scalar
import HostBridge.Numeral
import HostBridge.Place
import HostBridge.Proofs.Arena.Bookkeeping
import HostBridge.Proofs.Arena.Creation
import HostBridge.Proofs.Arena.Invariant
import HostBridge.Proofs.Arena.Ledger
import HostBridge.Proofs.Arena.Refinement
import HostBridge.Proofs.Arena.Storage
import HostBridge.Proofs.Binary
import HostBridge.Proofs.Binary.Integer
import HostBridge.Proofs.Buffer.Capacity
import HostBridge.Proofs.Buffer.Course
import HostBridge.Proofs.Buffer.Doubling
import HostBridge.Proofs.Buffer.Edit
import HostBridge.Proofs.Buffer.Elements
import HostBridge.Proofs.Buffer.Invariant
import HostBridge.Proofs.Buffer.Refinement
import HostBridge.Proofs.Buffer.Representation
import HostBridge.Proofs.Buffer.Typed
import HostBridge.Proofs.Layout.Access
import HostBridge.Proofs.Layout.Basic
import HostBridge.Proofs.Layout.Dense
import HostBridge.Proofs.Layout.Density
import HostBridge.Proofs.Layout.Fit
import HostBridge.Proofs.Layout.Metadata
import HostBridge.Proofs.Layout.Walk
import HostBridge.Proofs.Marshal.Acceptance
import HostBridge.Proofs.Marshal.Array
import HostBridge.Proofs.Marshal.Conversion
import HostBridge.Proofs.Marshal.Exceptions
import HostBridge.Proofs.Marshal.Gather
import HostBridge.Proofs.Marshal.Introspection
import HostBridge.Proofs.Marshal.Memory
import HostBridge.Proofs.Marshal.RoundTrip
import HostBridge.Proofs.Marshal.Scalar
import HostBridge.Proofs.Marshal.ScalarRoundTrip
import HostBridge.Proofs.Marshal.Statistics
import HostBridge.Proofs.Memory.Account
import HostBridge.Proofs.Memory.Blocks
import HostBridge.Proofs.Session.Action
import HostBridge.Proofs.Session.Aliasing
import HostBridge.Proofs.Session.Books
import HostBridge.Proofs.Session.BufferView
import HostBridge.Proofs.Session.FiniteMap
import HostBridge.Proofs.Session.Growth
import HostBridge.Proofs.Session.LastError
import HostBridge.Proofs.Session.Memory
import HostBridge.Proofs.Session.Process
import HostBridge.Proofs.Session.Request
import HostBridge.Proofs.Session.SelfAliasing
import HostBridge.Proofs.Session.Settings
import HostBridge.Proofs.Slots
import HostBridge.Proofs.TypeString
import HostBridge.Proofs.Value
import HostBridge.Settings.Basic
import HostBridge.Settings.Document
import HostBridge.Shape
import HostBridge.Text.Alphanumeric
import HostBridge.Text.Blank
import HostBridge.Text.Cased
import HostBridge.Text.Extending
import HostBridge.Text.Ignorable
import HostBridge.Text.Lowercase
import HostBridge.Text.Quoted
import HostBridge.Text.Range
import HostBridge.Text.Unprintable
import HostBridge.Toml.Document
import HostBridge.Toml.Node
import HostBridge.Toml.Scalar
import HostBridge.Toml.Scan
import HostBridge.Traced
import HostBridge.Value
import HostBridge.Word
