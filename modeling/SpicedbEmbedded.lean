import SpicedbEmbedded.Machine.Run
import SpicedbEmbedded.Shared.Library
import SpicedbEmbedded.Machine.Life
import SpicedbEmbedded.Shared.Registry
import SpicedbEmbedded.Shared.Handles
import SpicedbEmbedded.Shared.RegistrySafe
import SpicedbEmbedded.Shared.Sockets
import SpicedbEmbedded.Shared.Copies
import SpicedbEmbedded.Machine.Projection
import SpicedbEmbedded.Shared.Slice
import SpicedbEmbedded.Shared.Confined
import SpicedbEmbedded.Shared.Isolation
import SpicedbEmbedded.Shared.Lock
import SpicedbEmbedded.Lifecycle.Process
import SpicedbEmbedded.Lifecycle.Tracing
import SpicedbEmbedded.Lifecycle.Shutdown
import SpicedbEmbedded.Ffi.Rpc
import SpicedbEmbedded.Ffi.Bindings
import SpicedbEmbedded.Ffi.CopyOut
import SpicedbEmbedded.Ffi.Buffers
import SpicedbEmbedded.Ffi.Transparent
import SpicedbEmbedded.Headers.Interceptors
import SpicedbEmbedded.Ffi.Agreement
import SpicedbEmbedded.Proxy.Forward
import SpicedbEmbedded.Clients.Loader
import SpicedbEmbedded.Clients.Close
import SpicedbEmbedded.Headers.RustCalls
import SpicedbEmbedded.Text.Runes
import SpicedbEmbedded.Json.Scanner
import SpicedbEmbedded.Json.Printer
import SpicedbEmbedded.Shared.Decode
import SpicedbEmbedded.Clients.Options
import SpicedbEmbedded.Lifecycle.Settings
import SpicedbEmbedded.Lifecycle.OptionsString
import SpicedbEmbedded.Clients.Start
import SpicedbEmbedded.Clients.Course
import SpicedbEmbedded.Clients.Bootstrap
import SpicedbEmbedded.Clients.Unary
import SpicedbEmbedded.Headers.Forwarding
import SpicedbEmbedded.Machine.Program
import SpicedbEmbedded.Lifecycle.Calls
import SpicedbEmbedded.Lifecycle.Relevant
import SpicedbEmbedded.Text.HostPort
import SpicedbEmbedded.Text.Uri
import SpicedbEmbedded.Clients.Dial
import SpicedbEmbedded.Machine.Plan
import SpicedbEmbedded.Build.Copy
import SpicedbEmbedded.Build.Source
import SpicedbEmbedded.Machine.History
import SpicedbEmbedded.Shared.Store
import SpicedbEmbedded.Shared.Phases
import SpicedbEmbedded.Shared.Effects
import SpicedbEmbedded.Shared.Atomic
import SpicedbEmbedded.Json.Writer
import SpicedbEmbedded.Json.Reader
import SpicedbEmbedded.Shared.Replies
import SpicedbEmbedded.Ffi.Replies
import SpicedbEmbedded.Ffi.Session
import SpicedbEmbedded.Lifecycle.Quiet
import SpicedbEmbedded.Lifecycle.Accounting
import SpicedbEmbedded.Shared.Progress
import SpicedbEmbedded.Clients.JavaLibrary
import SpicedbEmbedded.Headers.Calls
import SpicedbEmbedded.Build.Script
import SpicedbEmbedded.Build.Outcome
import SpicedbEmbedded.Clients.Accounts
import SpicedbEmbedded.Clients.Reach
import SpicedbEmbedded.Lifecycle.Refinement
