/-
**`spicedb_rpc` and the per-method exports.**

The table-driven export and the seven it replaced, over a backend with a state of its own, which a call
may read and change in any way: what is sent to the backend, under which metadata and deadline and with
which response message, is what the backend's state can tell. Each per-method export names its own
request message and its own method of the generated client.

* `runRPCWith_fst` — the result of a run is that of `runRPC` with the backend as it stands.
* **`spicedbRpc_agrees`** — under the full name of a method and without a trace context `spicedb_rpc`
  is the method's own export.
-/

import SpicedbEmbedded.Ffi.Rpc

namespace SpicedbEmbedded.Ffi

variable {Conn Msg S : Type}

/-- `conn.Invoke` of a backend with a state: the context, the connection, the method's full name, the
response message and the request. -/
abbrev Backend (Conn Msg S : Type) : Type :=
  Context → Conn → String → MessageType → Msg → S → Except String Msg × S

/-- A method of the generated client: it invokes its full name, for a fresh response of its own type. -/
def Backend.client (backend : Backend Conn Msg S) (method : Method) :
    Context → Conn → Msg → S → Except String Msg × S :=
  fun ctx conn req => backend ctx conn method.fullName (.response method) req

/-- The deadline of an RPC put on its context: `context.WithTimeout`. -/
def Context.withTimeout (parent : Context) (seconds : Nat) : Context :=
  { parent with timeout := some seconds }

namespace Library

variable (lib : Library Conn Msg)

/-- `runRPC` over a backend with a state. -/
def runRPCWith (parent : Context) (handle : UInt64) (reqBytes : List UInt8)
    (unmarshalReq : List UInt8 → Except String Msg)
    (callRPC : Context → Conn → Msg → S → Except String Msg × S) (cells : Cells) (m : Memory)
    (s : S) : (Cells × Memory) × S :=
  let cells := ((cells.setResponseBytes none).setResponseLen 0).setError none
  match lib.instances handle with
  | none | some none => (cells.fail m ("invalid handle: " ++ toString handle.toNat), s)
  | some (some inst) =>
    match inst.clientConn with
    | none => (cells.fail m "instance not available for FFI RPCs", s)
    | some conn =>
      match unmarshalReq reqBytes with
      | .error err => (cells.fail m err, s)
      | .ok req =>
        match callRPC (parent.withTimeout 30) conn req s with
        | (.error err, s) => (cells.fail m err, s)
        | (.ok resp, s) =>
          match lib.marshal resp with
          | .error err => (cells.fail m ("failed to marshal response: " ++ err), s)
          | .ok respBytes =>
            let cells := cells.setResponseLen (cInt respBytes.length)
            if 0 < respBytes.length then
              ((cells.setResponseBytes (some m.heap.next),
                { m with heap := m.heap.alloc (.bytes respBytes) }), s)
            else ((cells, m), s)

/-- **A run comes to what `runRPC` comes to** with the backend as it stands. -/
theorem runRPCWith_fst (parent : Context) (handle : UInt64) (reqBytes : List UInt8)
    (unmarshalReq : List UInt8 → Except String Msg)
    (callRPC : Context → Conn → Msg → S → Except String Msg × S) (cells : Cells) (m : Memory)
    (s : S) :
    (lib.runRPCWith parent handle reqBytes unmarshalReq callRPC cells m s).1 =
      lib.runRPC parent handle reqBytes unmarshalReq
        (fun ctx conn req => (callRPC ctx conn req s).1) cells m := by
  unfold runRPCWith runRPC Context.withTimeout
  rcases lib.instances handle with _ | _ | ⟨_ | conn⟩
  · rfl
  · rfl
  · rfl
  cases unmarshalReq reqBytes with
  | error err => rfl
  | ok req =>
    rcases answered : callRPC { parent with timeout := some 30 } conn req s with ⟨err | resp, after⟩
    · simp only [answered]
    · simp only [answered]
      cases lib.marshal resp with
      | error err => rfl
      | ok respBytes =>
        by_cases some_ : 0 < respBytes.length
        · simp only [if_pos some_]
        · simp only [if_neg some_]

variable (backend : Backend Conn Msg S)

/-- `spicedb_rpc` over a backend with a state. -/
def spicedbRpcWith (handle : UInt64) (method traceparent tracestate : Option String)
    (requestBytes : List UInt8) (requestLen : Int) (cells : Cells) (m : Memory) (s : S) :
    Option ((Cells × Memory) × S) :=
  let name := goString method
  match rpcMessages.lookup name with
  | none =>
    some (((cells.setResponseBytes none).setResponseLen 0).fail m ("unsupported method: " ++ name), s)
  | some (req, resp) =>
    let parent := traceContext {} (goString traceparent) (goString tracestate)
    (goBytes requestBytes requestLen).map fun reqBytes =>
      lib.runRPCWith parent handle reqBytes (lib.unmarshal req)
        (fun ctx conn msg => backend ctx conn name resp msg) cells (m.receive reqBytes) s

/-- The shape of a per-method export: its request message and its method of the client. -/
def perMethodWith (request : MessageType)
    (callRPC : Context → Conn → Msg → S → Except String Msg × S) (handle : UInt64)
    (requestBytes : List UInt8) (requestLen : Int) (cells : Cells) (m : Memory) (s : S) :
    Option ((Cells × Memory) × S) :=
  (goBytes requestBytes requestLen).map fun reqBytes =>
    lib.runRPCWith {} handle reqBytes (lib.unmarshal request) callRPC cells (m.receive reqBytes) s

/-- The seven exports. -/
def exportWith : Method → UInt64 → List UInt8 → Int → Cells → Memory → S →
    Option ((Cells × Memory) × S)
  | .checkBulkPermissions =>
    lib.perMethodWith (.request .checkBulkPermissions) (backend.client .checkBulkPermissions)
  | .checkPermission =>
    lib.perMethodWith (.request .checkPermission) (backend.client .checkPermission)
  | .deleteRelationships =>
    lib.perMethodWith (.request .deleteRelationships) (backend.client .deleteRelationships)
  | .expandPermissionTree =>
    lib.perMethodWith (.request .expandPermissionTree) (backend.client .expandPermissionTree)
  | .writeRelationships =>
    lib.perMethodWith (.request .writeRelationships) (backend.client .writeRelationships)
  | .readSchema => lib.perMethodWith (.request .readSchema) (backend.client .readSchema)
  | .writeSchema => lib.perMethodWith (.request .writeSchema) (backend.client .writeSchema)

/-- The exports are those of the pure model, on the backend as it stands. -/
theorem exportWith_fst (method : Method) (handle : UInt64) (request : List UInt8) (len : Int)
    (cells : Cells) (m : Memory) (s : S) :
    (lib.exportWith backend method handle request len cells m s).map Prod.fst =
      { lib with invoke := fun ctx conn name resp msg =>
          (backend ctx conn name resp msg s).1 }.perMethod method handle request len cells m := by
  have shape : (lib.exportWith backend method handle request len cells m s).map Prod.fst =
      (goBytes request len).map fun reqBytes =>
        (lib.runRPCWith {} handle reqBytes (lib.unmarshal (.request method)) (backend.client method)
          cells (m.receive reqBytes) s).1 := by
    cases method <;> exact Option.map_map ..
  rw [shape, perMethod]
  congr 1
  funext reqBytes
  exact lib.runRPCWith_fst ..

/-- The same of `spicedb_rpc`. -/
theorem spicedbRpcWith_fst (handle : UInt64) (method traceparent tracestate : Option String)
    (request : List UInt8) (len : Int) (cells : Cells) (m : Memory) (s : S) :
    (lib.spicedbRpcWith backend handle method traceparent tracestate request len cells m s).map
        Prod.fst =
      { lib with invoke := fun ctx conn name resp msg =>
          (backend ctx conn name resp msg s).1 }.spicedbRpc handle method traceparent tracestate
        request len cells m := by
  unfold spicedbRpcWith spicedbRpc
  cases known : rpcMessages.lookup (goString method) with
  | none => simp only [known, Option.map_some]
  | some messages =>
    simp only [known, Option.map_map]
    congr 1
    funext reqBytes
    exact lib.runRPCWith_fst ..

end Library

/-- **`spicedb_rpc` under the full name of a method, without a trace context, does what the method's own
export does**: on every backend it leaves the same state, and the same cells and memory. -/
theorem spicedbRpc_agrees (lib : Library Conn Msg) (backend : Backend Conn Msg S) (method : Method)
    (handle : UInt64) (request : List UInt8) (len : Int) (cells : Cells) (m : Memory) (s : S) :
    lib.spicedbRpcWith backend handle (some method.fullName) none none request len cells m s =
      lib.exportWith backend method handle request len cells m s := by
  have untraced : traceContext {} (goString none) (goString none) = {} := by decide
  have listed := rpcMessages_fullName method
  unfold Library.spicedbRpcWith
  simp only [goString_fullName, listed, untraced]
  cases method <;> rfl

end SpicedbEmbedded.Ffi
