/-
**The five bindings at the C boundary.**

What the Rust, Python, Java, C# and Node packages do with `spicedb_rpc`, `spicedb_start` and
`spicedb_dispose`: the conversions on the way in, the out cells, the copies and the releases, as
programs on the shared memory. A program ends in a fault where the native code would be undefined (a
block read or released that is not there, a copy past its end, the wrong free function) or panics.

What a language's runtime does is a `Host`: its JSON library, the longest array it allocates, how koffi
passes a number as an `int` and shows a pointer. Texts are Unicode; what is read of a C string ends at
its first NUL.
-/

import SpicedbEmbedded.Ffi.Rpc

namespace SpicedbEmbedded.Ffi

open Machine Prog

/-! ### The library as a binding has it loaded -/

/-- The library, with what `spicedb_start` and `spicedb_dispose` reply. -/
structure Native (Conn Msg : Type) extends Library Conn Msg where
  startReply : Option String → String
  disposeReply : UInt64 → String

/-- A program of a binding; what it raises is the text of the exception. -/
abbrev Foreign (A : Type) : Type := Prog Memory String A

/-- Reads a C string up to its NUL. -/
def readString (p : Nat) : Foreign String := fun m =>
  match m.heap.live p with
  | some (.str text) => .ok (.ok (cut text), m)
  | _ => .error .misuse

/-- Reads so many bytes at a pointer. -/
def readBytes (p : Option Nat) (len : Nat) : Foreign (List UInt8) := fun m =>
  match p.bind m.heap.live with
  | some (.bytes bytes) => if len ≤ bytes.length then .ok (.ok (bytes.take len), m) else .error .misuse
  | _ => .error .misuse

/-- `spicedb_free`. -/
def spicedbFree (p : Nat) : Foreign Unit := fun m =>
  match m.heap.live p with
  | some (.str _) => .ok (.ok (), { m with heap := m.heap.free p })
  | _ => .error .misuse

/-- `spicedb_free_bytes`. -/
def spicedbFreeBytes (p : Option Nat) : Foreign Unit := fun m =>
  match p with
  | none => .ok (.ok (), m)
  | some p =>
    match m.heap.live p with
    | some (.bytes _) => .ok (.ok (), { m with heap := m.heap.free p })
    | _ => .error .misuse

/-- The strings of a trace context, as a call carries them. -/
structure Trace where
  traceparent : Option String := none
  tracestate : Option String := none

/-- What a binding hands to `spicedb_rpc` besides the handle and the method: the strings of the trace
context, the buffer with the request, and the request's length as a C int. -/
structure Arguments where
  trace : Trace
  buffer : List UInt8
  len : Int

namespace Native

variable {Conn Msg : Type} (native : Native Conn Msg)

/-- A call of `spicedb_rpc` with cells of its own. -/
def rpc (handle : UInt64) (method : Method) (args : Arguments) : Foreign Cells := fun m =>
  match native.spicedbRpc handle (some method.fullName) args.trace.traceparent args.trace.tracestate
    args.buffer args.len ⟨none, 0, none⟩ m with
  | some (cells, after) => .ok (.ok cells, after)
  | none => .error .aborted

/-- A reply: a new C string. -/
def reply (text : String) : Foreign (Option Nat) := fun m =>
  .ok (.ok (some m.heap.next), { m with heap := m.heap.alloc (.str text) })

/-- A call of `spicedb_start`. -/
def start (optionsJson : Option String) : Foreign (Option Nat) := reply (native.startReply optionsJson)

/-- A call of `spicedb_dispose`. -/
def dispose (handle : UInt64) : Foreign (Option Nat) := reply (native.disposeReply handle)

end Native

/-! ### The runtimes -/

/-- The JSON reply of the library, as a binding finds it. -/
structure Reply where
  success : Option Bool
  error : Option String
  handle : Option UInt64
  streamingAddress : Option String
  streamingTransport : Option String

/-- What a start returns. -/
structure Started where
  handle : UInt64
  streamingAddress : String
  streamingTransport : String

/-- How koffi shows the pointer in an out cell; an external one is mapped by `koffi.view`, which may
throw. -/
inductive KoffiPointer
  | buffer
  | uint8Array
  | arrayBufferView
  | external (mappable : Bool)
  deriving DecidableEq

/-- What a binding relies on at run time: its JSON library, the channel Java builds, the texts of its
language's own exceptions, the longest array it allocates, and koffi. -/
structure Host where
  parse : String → Except String Reply
  connect : Started → Except String Unit
  debug : String → String
  encodeError : String → String
  missing : String
  outOfMemory : String
  maxArray : Nat
  koffiInt : Nat → Except String Int
  koffiPointer : KoffiPointer

variable {Conn Msg : Type} (native : Native Conn Msg) (host : Host)

/-! ### Rust -/

/-- `c_int::try_from` with its error. -/
def rustCInt (len : Nat) : Except String Int :=
  if len < 2 ^ 31 then .ok len else .error "request too large for FFI (exceeds c_int::MAX)"

/-- `c_string`. -/
def rustCString (value : String) : Except String String :=
  if '\x00' ∈ value.toList then .error ("contains a NUL byte: " ++ host.debug value) else .ok value

/-- `c_string_or_null`. -/
def rustCStringOrNull : Option String → Except String (Option String)
  | none => .ok none
  | some value => (rustCString host value).map some

/-- The conversions `raw_call` begins with. -/
def rustArguments (trace : Trace) (request : List UInt8) : Except String Arguments := do
  let len ← rustCInt request.length
  let traceparent ← rustCStringOrNull host trace.traceparent
  let tracestate ← rustCStringOrNull host trace.tracestate
  pure ⟨⟨traceparent, tracestate⟩, request, len⟩

/-- The end of `raw_call`. -/
def rustCopyOut (out : Cells) : Foreign (List UInt8) :=
  match out.outError with
  | some p => do
    let s ← readString p
    spicedbFree p
    raise s
  | none =>
    if out.outResponseLen < 0 then
      raise ("FFI returned negative response length: " ++ toString out.outResponseLen)
    else do
      let len := out.outResponseLen.toNat
      let bytes ← if len = 0 then pure [] else readBytes out.outResponseBytes len
      spicedbFreeBytes out.outResponseBytes
      pure bytes

/-- `raw_call`. -/
def rustRawCall (handle : UInt64) (method : Method) (trace : Trace) (request : List UInt8) :
    Foreign (List UInt8) := do
  let args ← ofExcept (rustArguments host trace request)
  let out ← native.rpc handle method args
  rustCopyOut out

/-- `start`: the JSON reply, for the caller to parse. -/
def rustStart (optionsJson : Option String) : Foreign String :=
  match optionsJson with
  | some s =>
    if '\x00' ∈ s.toList then
      raise ("options contain null byte: nul byte found in provided data at position: "
        ++ toString (cut s).utf8ByteSize)
    else call
  | none => call
where
  call : Foreign String := do
    match ← native.start optionsJson with
    | none => raise "null response from C library"
    | some ptr =>
      let s ← readString ptr
      spicedbFree ptr
      pure s

/-- `dispose`. -/
def rustDispose (handle : UInt64) : Foreign String := do
  match ← native.dispose handle with
  | none => pure "\x7b\x7d"
  | some ptr =>
    let s ← readString ptr
    spicedbFree ptr
    pure s

/-! ### Python -/

/-- `_encode`: ASCII only. -/
def pythonEncode (value : Option String) : Except String (Option String) :=
  match value with
  | none => .ok none
  | some text =>
    if text.toList.all (·.toNat < 128) then .ok (some text) else .error (host.encodeError text)

/-- The arguments of `_call_rpc`: the buffer has a NUL after the request, and ctypes makes a C int of
the request's length without a check. -/
def pythonArguments (trace : Trace) (request : List UInt8) : Except String Arguments := do
  let traceparent ← pythonEncode host trace.traceparent
  let tracestate ← pythonEncode host trace.tracestate
  pure ⟨⟨traceparent, tracestate⟩, request ++ [0], cInt request.length⟩

/-- The end of `_call_rpc`. -/
def pythonCopyOut (out : Cells) : Foreign (List UInt8) :=
  match out.outError with
  | some p => tryFinally (do let text ← readString p; raise text) (spicedbFree p)
  | none =>
    if out.outResponseLen ≤ 0 ∨ out.outResponseBytes = none then pure []
    else
      tryFinally (readBytes out.outResponseBytes out.outResponseLen.toNat)
        (spicedbFreeBytes out.outResponseBytes)

/-- `_call_rpc`. -/
def pythonCallRpc (handle : UInt64) (method : Method) (trace : Trace) (request : List UInt8) :
    Foreign (List UInt8) := do
  let args ← ofExcept (pythonArguments host trace request)
  let out ← native.rpc handle method args
  pythonCopyOut out

/-- The fields `spicedb_start` returns. -/
def pythonStarted (reply : Reply) : Except String Started :=
  match reply.streamingAddress, reply.streamingTransport with
  | some address, some transport =>
    match reply.handle with
    | some handle => .ok ⟨handle, address, transport⟩
    | none => .error host.missing
  | _, _ => .error "Missing streaming_address or streaming_transport in C library response"

/-- `spicedb_start`. -/
def pythonStart (optionsJson : Option String) : Foreign Started := do
  match ← native.start optionsJson with
  | none => raise "Null response from C library"
  | some ptr =>
    let raw ← tryFinally (readString ptr) (spicedbFree ptr)
    let data ← ofExcept (host.parse raw)
    if data.success.getD false then ofExcept (pythonStarted host data)
    else raise (data.error.getD "Unknown error")

/-- `spicedb_dispose`. -/
def pythonDispose (handle : UInt64) : Foreign Unit := do
  match ← native.dispose handle with
  | none => pure ()
  | some ptr =>
    tryFinally
      (do
        let raw ← readString ptr
        let doc ← ofExcept (host.parse raw)
        if doc.success.getD true then pure () else raise (doc.error.getD "Unknown error"))
      (spicedbFree ptr)

/-! ### Java and C# -/

/-- The arguments of `callRpc` and of `Rpc`. -/
def managedArguments (trace : Trace) (request : List UInt8) : Except String Arguments :=
  .ok ⟨trace, request, request.length⟩

/-- The end of `callRpc`, and `CopyResponseAndFree`: a managed array is made for the copy, and the
buffer is released after it. -/
def managedCopy (out : Cells) : Foreign (List UInt8) :=
  match out.outError with
  | some p => tryFinally (do let text ← readString p; raise text) (spicedbFree p)
  | none =>
    if out.outResponseLen ≤ 0 ∨ out.outResponseBytes = none then pure []
    else if host.maxArray < out.outResponseLen.toNat then raise host.outOfMemory
    else do
      let copy ← readBytes out.outResponseBytes out.outResponseLen.toNat
      spicedbFreeBytes out.outResponseBytes
      pure copy

/-- The shape the two share. -/
def managedRpc (handle : UInt64) (method : Method) (trace : Trace) (request : List UInt8) :
    Foreign (List UInt8) := do
  let args ← ofExcept (managedArguments trace request)
  let out ← native.rpc handle method args
  managedCopy host out

/-- `callRpc` of Java. -/
def javaCallRpc := managedRpc native host

/-- `Rpc` of C#. -/
def csharpRpc := managedRpc native host

/-- The fields `startInstance` takes from the reply. -/
def javaStarted (reply : Reply) : Except String Started :=
  match reply.handle, reply.streamingAddress, reply.streamingTransport with
  | some handle, some address, some transport => .ok ⟨handle, address, transport⟩
  | _, _, _ => .error host.missing

/-- `close`. -/
def javaClose (handle : UInt64) : Foreign Unit := do
  match ← native.dispose handle with
  | none => pure ()
  | some result => spicedbFree result

/-- `startInstance`: an instance whose channel cannot be built is disposed of. -/
def javaStartInstance (optionsJson : Option String) : Foreign Started := do
  match ← native.start optionsJson with
  | none => raise "Null response from C library"
  | some result =>
    let json ← readString result
    spicedbFree result
    let parsed ← ofExcept (host.parse json)
    if parsed.success = some true then
      let data ← ofExcept (javaStarted host parsed)
      match host.connect data with
      | .ok () => pure data
      | .error err =>
        javaClose native data.handle
        raise ("Failed to connect to streaming proxy: " ++ err)
    else raise ("Failed to start SpiceDB: " ++ parsed.error.getD "Unknown error")

/-- The fields `Start` takes from the reply. -/
def csharpStarted (reply : Reply) : Except String Started :=
  match reply.handle, reply.streamingAddress, reply.streamingTransport with
  | some handle, some address, some transport => .ok ⟨handle, address, transport⟩
  | none, _, _ => .error host.missing
  | _, none, _ => .error "Missing streaming_address in response"
  | _, _, none => .error "Missing streaming_transport in response"

/-- `Start`. -/
def csharpStart (optionsJson : Option String) : Foreign Started := do
  match ← native.start optionsJson with
  | none => raise "Null response from C library"
  | some ptr =>
    tryFinally
      (do
        let jsonResp ← readString ptr
        let root ← ofExcept (host.parse jsonResp)
        if root.success = some true then ofExcept (csharpStarted host root)
        else raise (root.error.getD "Unknown error"))
      (spicedbFree ptr)

/-- What `Dispose` makes of the reply. -/
def csharpDisposed (json : String) : Except String Unit := do
  if json = "" then pure ()
  else
    let doc ← host.parse json
    if doc.success = some false then
      match doc.error with
      | none => pure ()
      | some err => .error err
    else pure ()

/-- `Dispose`. -/
def csharpDispose (handle : UInt64) : Foreign Unit := do
  match ← native.dispose handle with
  | none => pure ()
  | some ptr =>
    tryFinally (do let json ← readString ptr; ofExcept (csharpDisposed host json)) (spicedbFree ptr)

/-! ### Node -/

/-- A `HeapStr` result: koffi decodes it and calls `spicedb_free` on it. -/
def nodeHeapStr : Option Nat → Foreign (Option String)
  | none => pure none
  | some ptr => do
    let raw ← readString ptr
    spicedbFree ptr
    pure (some raw)

/-- The arguments of `callRpc`. -/
def nodeArguments (trace : Trace) (request : List UInt8) : Except String Arguments := do
  let len ← host.koffiInt request.length
  pure ⟨trace, request, len⟩

/-- The copy of `copyOutAndFree`: a pointer that cannot be mapped is copied as zeros. -/
def nodeCopy (ptr : Option Nat) (len : Nat) : Foreign (List UInt8) :=
  match host.koffiPointer with
  | .buffer => readBytes ptr len
  | .uint8Array => readBytes ptr len
  | .arrayBufferView => readBytes ptr len
  | .external true => readBytes ptr len
  | .external false => pure (List.replicate len 0)

/-- `copyOutAndFree`. -/
def nodeCopyOutAndFree (ptr : Option Nat) (len : Int) : Foreign (List UInt8) :=
  if len ≤ 0 then pure []
  else if ptr = none then pure []
  else do
    let copy ← nodeCopy host ptr len.toNat
    spicedbFreeBytes ptr
    pure copy

/-- The end of `callRpc`: koffi has decoded the `char**` out parameter, and leaves the C string as it
is. -/
def nodeCopyOut (out : Cells) : Foreign (List UInt8) :=
  match out.outError with
  | none => nodeCopyOutAndFree host out.outResponseBytes out.outResponseLen
  | some p => do
    let errMsg ← readString p
    if errMsg = "" then nodeCopyOutAndFree host out.outResponseBytes out.outResponseLen
    else raise errMsg

/-- `callRpc`. -/
def nodeCallRpc (handle : UInt64) (method : Method) (trace : Trace) (request : List UInt8) :
    Foreign (List UInt8) := do
  let args ← ofExcept (nodeArguments host trace request)
  let out ← native.rpc handle method args
  nodeCopyOut host out

/-- The fields `spicedb_start` returns: the handle is not checked. -/
def nodeStarted (reply : Reply) : Except String Started :=
  match reply.streamingAddress.filter (· ≠ ""), reply.streamingTransport.filter (· ≠ "") with
  | some address, some transport => .ok ⟨reply.handle.getD 0, address, transport⟩
  | _, _ => .error "Missing streaming_address or streaming_transport in C library response"

/-- `spicedb_start`. -/
def nodeStart (optionsJson : Option String) : Foreign Started := do
  let ptr ← native.start optionsJson
  match ← nodeHeapStr ptr with
  | none => raise "Null response from C library"
  | some raw =>
    if raw = "" then raise "Null response from C library"
    else
      let data ← ofExcept (host.parse raw)
      if data.success = some true then ofExcept (nodeStarted data)
      else raise (data.error.getD "Unknown error")

/-- `spicedb_dispose`. -/
def nodeDispose (handle : UInt64) : Foreign Unit := do
  let ptr ← native.dispose handle
  let raw ← nodeHeapStr ptr
  let data ← ofExcept (host.parse (raw.getD "null"))
  if data.success = some true then pure () else raise (data.error.getD "Unknown error")

/-! ### All five -/

/-- The bindings. -/
inductive Binding
  | rust
  | python
  | java
  | csharp
  | node
  deriving DecidableEq

namespace Binding

/-- Java and C# arrays have an `int` length. -/
def Managed : Binding → Prop
  | .java | .csharp => True
  | .rust | .python | .node => False

instance (b : Binding) : Decidable b.Managed := by
  cases b <;> unfold Managed <;> infer_instance

/-- The byte strings of the language. -/
def Bytes (b : Binding) : Type := { bytes : List UInt8 // b.Managed → bytes.length < 2 ^ 31 }

/-- The conversions on the way in. -/
def arguments (host : Host) : Binding → Trace → List UInt8 → Except String Arguments
  | .rust => rustArguments host
  | .python => pythonArguments host
  | .java | .csharp => managedArguments
  | .node => nodeArguments host

/-- What is made of the out cells. -/
def copyOut (host : Host) : Binding → Cells → Foreign (List UInt8)
  | .rust => rustCopyOut
  | .python => pythonCopyOut
  | .java | .csharp => managedCopy host
  | .node => nodeCopyOut host

/-- The raw call of a binding. -/
def rawCall (b : Binding) (handle : UInt64) (method : Method) (trace : Trace) (request : b.Bytes) :
    Foreign (List UInt8) :=
  match b with
  | .rust => rustRawCall native host handle method trace request.val
  | .python => pythonCallRpc native host handle method trace request.val
  | .java => javaCallRpc native host handle method trace request.val
  | .csharp => csharpRpc native host handle method trace request.val
  | .node => nodeCallRpc native host handle method trace request.val

/-- All raw calls go through the same steps. -/
theorem rawCall_eq (b : Binding) (handle : UInt64) (method : Method) (trace : Trace)
    (request : b.Bytes) :
    b.rawCall native host handle method trace request = (do
      let args ← ofExcept (b.arguments host trace request.val)
      let out ← native.rpc handle method args
      b.copyOut host out) := by
  cases b <;> rfl

end Binding

/-! ### One library and one runtime -/

/-- A library with one instance that answers every request with itself. -/
def echoNative : Native Unit (List UInt8) where
  toLibrary := echoLibrary
  startReply _ := "\x7b\"success\":true\x7d"
  disposeReply _ := "\x7b\"success\":true\x7d"

/-- A runtime whose limits are out of reach and that maps every pointer. -/
def plainHost : Host where
  parse _ := .ok ⟨some true, none, some 1, some "/tmp/spicedb.sock", some "unix"⟩
  connect _ := .ok ()
  debug value := value
  encodeError value := value
  missing := "missing"
  outOfMemory := "out of memory"
  maxArray := 2 ^ 31 - 1
  koffiInt n := .ok n
  koffiPointer := .external true

end SpicedbEmbedded.Ffi
