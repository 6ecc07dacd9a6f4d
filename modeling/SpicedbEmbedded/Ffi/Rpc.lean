/-
**The RPC exports of the library.**

`shared/c/rpc.go`: `runRPC`, `spicedb_rpc` and the seven per-method exports, as functions on the C heap
and on the three cells of the caller they write to. Two levels:

* `Library.answer` — what a unary call answers: the bytes of the marshalled response, or a text. This
  is the purpose of the code, with nothing of cells or buffers in it.
* `Library.runRPC` — what the code does, statement by statement.

`runRPC_eq` connects them. **`exports_disciplined`** — every export, whatever its caller's cells hold,
leaves them in exactly one of two states, error or success, and hands out at most one allocation.

The registry, the message codec and the call on a client connection are given: a `Library`.
-/

import Mathlib.Data.Int.ModEq
import Mathlib.Data.List.TakeWhile
import SpicedbEmbedded.Machine.Heap

namespace SpicedbEmbedded.Ffi

open Machine

/-! ### C -/

/-- What the library allocates: a C string, by `C.CString`, or a byte buffer, by `C.CBytes`. -/
inductive Block
  | str (text : String)
  | bytes (bytes : List UInt8)
  deriving DecidableEq

/-- The memory the library shares with its callers, and the requests it has copied out of theirs. -/
structure Memory where
  heap : Heap Block
  received : List (List UInt8)

/-- The caller's three out cells; `none` is `NULL`. -/
structure Cells where
  outResponseBytes : Option Nat
  outResponseLen : Int
  outError : Option Nat
  deriving DecidableEq

/-- `C.int(n)`: the low 32 bits, read as a signed number. -/
@[irreducible] def cInt (n : Nat) : Int := Int.bmod n (2 ^ 32)

/-- The part of a C string before its first NUL. -/
def cut (text : String) : String := String.ofList (text.toList.takeWhile (· ≠ '\x00'))

/-- `C.GoString`: a `NULL` pointer is the empty string. -/
def goString (text : Option String) : String := cut (text.getD "")

theorem cut_eq_self {text : String} : cut text = text ↔ '\x00' ∉ text.toList := by
  rw [cut, ← String.toList_inj, String.toList_ofList, List.takeWhile_eq_self_iff]
  constructor
  · intro all nul
    simpa using all _ nul
  · intro none c inside
    have other : c ≠ '\x00' := by
      rintro rfl
      exact none inside
    simpa using other

/-- A C string without a NUL, by its characters. -/
theorem cut_ofList {text : List Char} (whole : '\x00' ∉ text) :
    cut (String.ofList text) = String.ofList text :=
  cut_eq_self.mpr (by rwa [String.toList_ofList])

/-- `C.GoBytes`: it panics on a negative length. No buffer holds more than it holds. -/
def goBytes (buffer : List UInt8) (len : Int) : Option (List UInt8) :=
  if 0 ≤ len ∧ len ≤ buffer.length then some (buffer.take len.toNat) else none

/-! ### The unary methods -/

/-- The unary RPCs of the library. -/
inductive Method
  | checkPermission
  | checkBulkPermissions
  | writeRelationships
  | deleteRelationships
  | expandPermissionTree
  | readSchema
  | writeSchema
  deriving DecidableEq

/-- A protobuf message type: `CheckPermissionRequest`, `CheckPermissionResponse` and so on. -/
inductive MessageType
  | request (method : Method)
  | response (method : Method)
  deriving DecidableEq

/-- The generated `FullMethodName` constants. -/
def Method.fullName : Method → String
  | .checkPermission => "/authzed.api.v1.PermissionsService/CheckPermission"
  | .checkBulkPermissions => "/authzed.api.v1.PermissionsService/CheckBulkPermissions"
  | .writeRelationships => "/authzed.api.v1.PermissionsService/WriteRelationships"
  | .deleteRelationships => "/authzed.api.v1.PermissionsService/DeleteRelationships"
  | .expandPermissionTree => "/authzed.api.v1.PermissionsService/ExpandPermissionTree"
  | .readSchema => "/authzed.api.v1.SchemaService/ReadSchema"
  | .writeSchema => "/authzed.api.v1.SchemaService/WriteSchema"

/-- `rpcMessages`: the request and the response message of each method `spicedb_rpc` accepts. -/
def rpcMessages : List (String × MessageType × MessageType) :=
  [(Method.checkPermission.fullName, .request .checkPermission, .response .checkPermission),
    (Method.checkBulkPermissions.fullName,
      .request .checkBulkPermissions, .response .checkBulkPermissions),
    (Method.writeRelationships.fullName,
      .request .writeRelationships, .response .writeRelationships),
    (Method.deleteRelationships.fullName,
      .request .deleteRelationships, .response .deleteRelationships),
    (Method.expandPermissionTree.fullName,
      .request .expandPermissionTree, .response .expandPermissionTree),
    (Method.readSchema.fullName, .request .readSchema, .response .readSchema),
    (Method.writeSchema.fullName, .request .writeSchema, .response .writeSchema)]

/-- A full name comes back from a C string as it is. -/
theorem goString_fullName (method : Method) : goString (some method.fullName) = method.fullName := by
  cases method <;> exact cut_ofList (by decide)

/-- Every method is in the table, under its own messages. -/
theorem rpcMessages_fullName (method : Method) :
    rpcMessages.lookup method.fullName = some (.request method, .response method) := by
  cases method <;> decide

/-! ### The library -/

/-- A call's context: its outgoing metadata, and its timeout in seconds. -/
structure Context where
  metadata : List (String × String) := []
  timeout : Option Nat := none
  deriving DecidableEq

/-- `traceContext`: the parent with a trace context in its metadata; an empty `traceparent` leaves it
unchanged. -/
def traceContext (parent : Context) (traceparent tracestate : String) : Context :=
  if traceparent = "" then parent
  else
    { parent with metadata :=
        ("traceparent", traceparent) :: if tracestate = "" then [] else [("tracestate", tracestate)] }

/-- The field of `Instance` an RPC reads. -/
structure Instance (Conn : Type) where
  clientConn : Option Conn

/-- The library as an RPC finds it: the registry, whose entries may be nil pointers, the protobuf
codec, and the backend behind a client connection. -/
structure Library (Conn Msg : Type) where
  instances : UInt64 → Option (Option (Instance Conn))
  unmarshal : MessageType → List UInt8 → Except String Msg
  marshal : Msg → Except String (List UInt8)
  invoke : Context → Conn → String → MessageType → Msg → Except String Msg

variable {Conn Msg : Type}

namespace Library

variable (lib : Library Conn Msg)

/-! ### What a call answers -/

/-- The client connection of a handle. -/
def connection (handle : UInt64) : Except String Conn :=
  match lib.instances handle with
  | some (some inst) =>
    match inst.clientConn with
    | some conn => .ok conn
    | none => .error "instance not available for FFI RPCs"
  | _ => .error ("invalid handle: " ++ toString handle.toNat)

/-- **What a unary call answers**: the marshalled response of the backend, or the text of the first
step that fails. -/
def answer (parent : Context) (handle : UInt64) (request : List UInt8)
    (unmarshalReq : List UInt8 → Except String Msg)
    (callRPC : Context → Conn → Msg → Except String Msg) : Except String (List UInt8) := do
  let conn ← lib.connection handle
  let req ← unmarshalReq request
  let resp ← callRPC { parent with timeout := some 30 } conn req
  (lib.marshal resp).mapError fun err => "failed to marshal response: " ++ err

/-! ### What the code does -/

end Library

namespace Cells

variable (cells : Cells)

/-- `*outResp = p`. -/
def setResponseBytes (p : Option Nat) : Cells := { cells with outResponseBytes := p }

/-- `*outLen = n`. -/
def setResponseLen (n : Int) : Cells := { cells with outResponseLen := n }

/-- `*outErr = p`. -/
def setError (p : Option Nat) : Cells := { cells with outError := p }

/-- `*outErr = C.CString(text)`. -/
def fail (m : Memory) (text : String) : Cells × Memory :=
  (cells.setError (some m.heap.next), { m with heap := m.heap.alloc (.str text) })

end Cells

/-- `C.GoBytes` of a request: the library has it from here on. -/
def Memory.receive (m : Memory) (request : List UInt8) : Memory :=
  { m with received := m.received ++ [request] }

namespace Library

variable (lib : Library Conn Msg)

/-- `runRPC`. -/
def runRPC (parent : Context) (handle : UInt64) (reqBytes : List UInt8)
    (unmarshalReq : List UInt8 → Except String Msg)
    (callRPC : Context → Conn → Msg → Except String Msg) (cells : Cells) (m : Memory) :
    Cells × Memory :=
  let cells := ((cells.setResponseBytes none).setResponseLen 0).setError none
  match lib.instances handle with
  | none | some none => cells.fail m ("invalid handle: " ++ toString handle.toNat)
  | some (some inst) =>
    match inst.clientConn with
    | none => cells.fail m "instance not available for FFI RPCs"
    | some conn =>
      match unmarshalReq reqBytes with
      | .error err => cells.fail m err
      | .ok req =>
        match callRPC { parent with timeout := some 30 } conn req with
        | .error err => cells.fail m err
        | .ok resp =>
          match lib.marshal resp with
          | .error err => cells.fail m ("failed to marshal response: " ++ err)
          | .ok respBytes =>
            let cells := cells.setResponseLen (cInt respBytes.length)
            if 0 < respBytes.length then
              (cells.setResponseBytes (some m.heap.next),
                { m with heap := m.heap.alloc (.bytes respBytes) })
            else (cells, m)

/-- `spicedb_rpc`. -/
def spicedbRpc (handle : UInt64) (method traceparent tracestate : Option String)
    (requestBytes : List UInt8) (requestLen : Int) (cells : Cells) (m : Memory) :
    Option (Cells × Memory) :=
  let name := goString method
  match rpcMessages.lookup name with
  | none =>
    some (((cells.setResponseBytes none).setResponseLen 0).fail m ("unsupported method: " ++ name))
  | some (req, resp) =>
    let parent := traceContext {} (goString traceparent) (goString tracestate)
    (goBytes requestBytes requestLen).map fun reqBytes =>
      lib.runRPC parent handle reqBytes (lib.unmarshal req)
        (fun ctx conn msg => lib.invoke ctx conn name resp msg) cells (m.receive reqBytes)

/-- The shape the per-method exports share: a background context, and the generated client of the
method, which invokes it by its full name. -/
def perMethod (method : Method) (handle : UInt64) (requestBytes : List UInt8) (requestLen : Int)
    (cells : Cells) (m : Memory) : Option (Cells × Memory) :=
  (goBytes requestBytes requestLen).map fun reqBytes =>
    lib.runRPC {} handle reqBytes (lib.unmarshal (.request method))
      (fun ctx conn msg => lib.invoke ctx conn method.fullName (.response method) msg) cells
      (m.receive reqBytes)

def spicedbPermissionsCheckBulkPermissions := lib.perMethod .checkBulkPermissions

def spicedbPermissionsCheckPermission := lib.perMethod .checkPermission

def spicedbPermissionsDeleteRelationships := lib.perMethod .deleteRelationships

def spicedbPermissionsExpandPermissionTree := lib.perMethod .expandPermissionTree

def spicedbPermissionsWriteRelationships := lib.perMethod .writeRelationships

def spicedbSchemaReadSchema := lib.perMethod .readSchema

def spicedbSchemaWriteSchema := lib.perMethod .writeSchema

end Library

/-- The eight exports, with the strings `spicedb_rpc` takes besides the request. -/
inductive Export
  | rpc (method traceparent tracestate : Option String)
  | perMethod (method : Method)

namespace Library

variable (lib : Library Conn Msg)

/-- The call of an export. -/
def call : Export → UInt64 → List UInt8 → Int → Cells → Memory → Option (Cells × Memory)
  | .rpc method traceparent tracestate => fun handle =>
    lib.spicedbRpc handle method traceparent tracestate
  | .perMethod .checkBulkPermissions => lib.spicedbPermissionsCheckBulkPermissions
  | .perMethod .checkPermission => lib.spicedbPermissionsCheckPermission
  | .perMethod .deleteRelationships => lib.spicedbPermissionsDeleteRelationships
  | .perMethod .expandPermissionTree => lib.spicedbPermissionsExpandPermissionTree
  | .perMethod .writeRelationships => lib.spicedbPermissionsWriteRelationships
  | .perMethod .readSchema => lib.spicedbSchemaReadSchema
  | .perMethod .writeSchema => lib.spicedbSchemaWriteSchema

/-- What a call of a method answers under a parent context. -/
def answerMethod (parent : Context) (method : Method) (handle : UInt64) (request : List UInt8) :
    Except String (List UInt8) :=
  lib.answer parent handle request (lib.unmarshal (.request method))
    fun ctx conn msg => lib.invoke ctx conn method.fullName (.response method) msg

/-- What an export answers. -/
def answerExport (handle : UInt64) (request : List UInt8) : Export → Except String (List UInt8)
  | .rpc method traceparent tracestate =>
    match rpcMessages.lookup (goString method) with
    | none => .error ("unsupported method: " ++ goString method)
    | some (req, resp) =>
      lib.answer (traceContext {} (goString traceparent) (goString tracestate)) handle request
        (lib.unmarshal req) fun ctx conn msg => lib.invoke ctx conn (goString method) resp msg
  | .perMethod method => lib.answerMethod {} method handle request

end Library

/-! ### Refinement -/

/-- How an answer is handed out: the cells and the buffer a caller finds. -/
def deliver (answer : Except String (List UInt8)) (m : Memory) : Cells × Memory :=
  match answer with
  | .error text => (⟨none, 0, some m.heap.next⟩, { m with heap := m.heap.alloc (.str text) })
  | .ok bytes =>
    if 0 < bytes.length then
      (⟨some m.heap.next, cInt bytes.length, none⟩, { m with heap := m.heap.alloc (.bytes bytes) })
    else (⟨none, cInt bytes.length, none⟩, m)

section Refinement

variable (lib : Library Conn Msg)

/-- **`runRPC` delivers the answer of the call**, whatever the cells held. -/
theorem runRPC_eq (parent : Context) (handle : UInt64) (request : List UInt8)
    (unmarshalReq : List UInt8 → Except String Msg)
    (callRPC : Context → Conn → Msg → Except String Msg) (cells : Cells) (m : Memory) :
    lib.runRPC parent handle request unmarshalReq callRPC cells m =
      deliver (lib.answer parent handle request unmarshalReq callRPC) m := by
  unfold Library.runRPC Library.answer Library.connection
  rcases lib.instances handle with _ | _ | ⟨_ | conn⟩
  · rfl
  · rfl
  · rfl
  show (match unmarshalReq request with
    | .error err => _
    | .ok req => _) = deliver (unmarshalReq request >>= _) m
  cases unmarshalReq request with
  | error err => rfl
  | ok req =>
    show (match callRPC { parent with timeout := some 30 } conn req with
      | .error err => _
      | .ok resp => _) = deliver (callRPC { parent with timeout := some 30 } conn req >>= _) m
    cases callRPC { parent with timeout := some 30 } conn req with
    | error err => rfl
    | ok resp =>
      show (match lib.marshal resp with
        | .error err => _
        | .ok respBytes => _) = deliver ((lib.marshal resp).mapError _) m
      cases lib.marshal resp <;> rfl

theorem goBytes_self (request : List UInt8) : goBytes request request.length = some request := by
  simp [goBytes]

theorem perMethod_eq (method : Method) (handle : UInt64) (request : List UInt8) (len : Int)
    (cells : Cells) (m : Memory) :
    lib.perMethod method handle request len cells m =
      (goBytes request len).map fun reqBytes =>
        deliver (lib.answerMethod {} method handle reqBytes) (m.receive reqBytes) := by
  unfold Library.perMethod
  congr 1
  funext reqBytes
  exact runRPC_eq lib ..

/-- `spicedb_rpc` on a method it accepts. -/
theorem spicedbRpc_eq {method : Option String} {req resp : MessageType}
    (known : rpcMessages.lookup (goString method) = some (req, resp)) (handle : UInt64)
    (traceparent tracestate : Option String) (request : List UInt8) (len : Int) (cells : Cells)
    (m : Memory) :
    lib.spicedbRpc handle method traceparent tracestate request len cells m =
      (goBytes request len).map fun reqBytes =>
        deliver (lib.answerExport handle reqBytes (.rpc method traceparent tracestate))
          (m.receive reqBytes) := by
  simp only [Library.spicedbRpc, known]
  congr 1
  funext reqBytes
  rw [Library.answerExport, known]
  exact runRPC_eq lib ..

/-- Every export delivers what it answers, to every caller alike. -/
theorem call_eq (e : Export) (handle : UInt64) (request : List UInt8) (m : Memory) :
    ∃ n : Memory, n.heap = m.heap ∧ ∀ cells, lib.call e handle request request.length cells m =
      some (deliver (lib.answerExport handle request e) n) := by
  cases e with
  | rpc method traceparent tracestate =>
    cases known : rpcMessages.lookup (goString method) with
    | none =>
      refine ⟨m, rfl, fun cells => ?_⟩
      show lib.spicedbRpc handle method traceparent tracestate request request.length cells m = _
      simp only [Library.spicedbRpc, Library.answerExport, known]
      rfl
    | some messages =>
      refine ⟨m.receive request, rfl, fun cells => ?_⟩
      show lib.spicedbRpc handle method traceparent tracestate request request.length cells m = _
      rw [spicedbRpc_eq lib known, goBytes_self]
      rfl
  | perMethod method =>
    have same : lib.call (.perMethod method) = lib.perMethod method := by cases method <;> rfl
    refine ⟨m.receive request, rfl, fun cells => ?_⟩
    rw [same, perMethod_eq, goBytes_self]
    rfl

end Refinement

/-! ### The discipline of the out cells -/

/-- How the cells are left by a call with this answer: in the error state or in the success state,
with at most one new allocation, which is handed out. -/
structure Disciplined (answer : Except String (List UInt8)) (heap : Heap Block) (cells : Cells)
    (after : Heap Block) : Prop where
  error : ∀ text, answer = .error text →
    (∃ p, cells.outError = some p ∧ after.live p = some (.str text)) ∧
      cells.outResponseBytes = none ∧ cells.outResponseLen = 0
  success : ∀ bytes, answer = .ok bytes →
    cells.outError = none ∧ cells.outResponseLen = bytes.length ∧
      (cells.outResponseBytes ≠ none ↔ 0 < bytes.length) ∧
      ∀ p, cells.outResponseBytes = some p → after.live p = some (.bytes bytes)
  once : after.next ≤ heap.next + 1
  handed : ∀ p, after.live p ≠ heap.live p →
    cells.outError = some p ∨ cells.outResponseBytes = some p

/-- A length that fits in a C int is kept. -/
theorem cInt_of_lt {n : Nat} (small : n < 2 ^ 31) : cInt n = n := by
  unfold cInt
  rw [Int.bmod_def]
  split <;> omega

theorem deliver_disciplined {answer : Except String (List UInt8)}
    (small : ∀ bytes, answer = .ok bytes → bytes.length < 2 ^ 31) (m : Memory) :
    Disciplined answer m.heap (deliver answer m).1 (deliver answer m).2.heap := by
  have elsewhere : ∀ block p, (m.heap.alloc block).live p ≠ m.heap.live p → p = m.heap.next := by
    intro block p changed
    by_contra other
    exact changed (m.heap.alloc_live_of_ne block other)
  cases answer with
  | error text =>
    refine ⟨?_, nofun, Nat.le_refl _, fun p changed => ?_⟩
    · rintro _ ⟨⟩
      exact ⟨⟨m.heap.next, rfl, m.heap.alloc_live_self _⟩, rfl, rfl⟩
    · exact Or.inl (congrArg some (elsewhere _ p changed).symm)
  | ok bytes =>
    have exact_length := cInt_of_lt (small bytes rfl)
    unfold deliver
    by_cases some_ : 0 < bytes.length
    · simp only [some_, if_true]
      refine ⟨nofun, ?_, Nat.le_refl _, fun p changed => ?_⟩
      · rintro _ ⟨⟩
        refine ⟨rfl, exact_length, iff_of_true nofun some_, ?_⟩
        rintro p ⟨⟩
        exact m.heap.alloc_live_self _
      · exact Or.inr (congrArg some (elsewhere _ p changed).symm)
    · simp only [some_, if_false]
      refine ⟨nofun, ?_, Nat.le_succ _, fun p changed => absurd rfl changed⟩
      rintro _ ⟨⟩
      exact ⟨rfl, exact_length, iff_of_false (fun h => h rfl) some_, nofun⟩

/-- **Every export leaves its caller's out cells in the error state or in the success state**, whatever
they held, and hands out at most one allocation, for every handle, registry, method, request and
answer of the backend below 2^31 bytes. -/
theorem exports_disciplined (lib : Library Conn Msg) (e : Export) (handle : UInt64)
    (request : List UInt8) (m : Memory)
    (small : ∀ bytes, lib.answerExport handle request e = .ok bytes → bytes.length < 2 ^ 31) :
    ∃ (cells : Cells) (after : Memory),
      (∀ before : Cells, lib.call e handle request request.length before m = some (cells, after)) ∧
      Disciplined (lib.answerExport handle request e) m.heap cells after.heap := by
  obtain ⟨n, same, delivers⟩ := call_eq lib e handle request m
  refine ⟨(deliver (lib.answerExport handle request e) n).1,
    (deliver (lib.answerExport handle request e) n).2, delivers, ?_⟩
  rw [← same]
  exact deliver_disciplined small n

/-- A library with one instance, whose backend answers every request with itself. -/
def echoLibrary : Library Unit (List UInt8) where
  instances handle := if handle = 1 then some (some ⟨some ()⟩) else none
  unmarshal _ bytes := .ok bytes
  marshal msg := .ok msg
  invoke _ _ _ _ msg := .ok msg

/-- A `spicedb_rpc` on that instance, for a caller whose cells hold anything. -/
theorem exports_disciplined_echo :
    ∃ (cells : Cells) (after : Memory),
      (∀ before : Cells, echoLibrary.call (.rpc (some Method.readSchema.fullName) none none) 1 [7] 1
        before ⟨.empty, []⟩ = some (cells, after)) ∧
      Disciplined (.ok [7]) .empty cells after.heap :=
  exports_disciplined echoLibrary (.rpc (some Method.readSchema.fullName) none none) 1 [7]
    ⟨.empty, []⟩ (by
      intro bytes answered
      cases (show (Except.ok [7] : Except String (List UInt8)) = .ok bytes from answered)
      decide)

end SpicedbEmbedded.Ffi
