/-
**Node's unary calls.**

`permissions()` and `schema()` of `embedded.ts` put seven wrappers in place of the generated client's
unary methods, and seven promise forms over them. A wrapper binds its arguments by position, marshals
the request, makes the native call, decodes the reply, and schedules the callback it was given, if it
was given one in the fourth place.

* `Answered` — the caller's callback is invoked once, with the decoded response or an error, and the
  promise form settles in the same way.
* **`answered_iff`** — so it is exactly for the shape with all four arguments and a request that can be
  marshalled.
-/

import SpicedbEmbedded.Ffi.Rpc

namespace SpicedbEmbedded.Clients.Unary

open Ffi

/-! ### Call shapes -/

/-- An argument of a unary call, after the input. -/
inductive Argument
  | metadata
  | options
  | callback
  deriving DecidableEq

/-- The call shapes of the generated client. -/
inductive Shape
  | inputCallback
  | inputMetadataCallback
  | inputOptionsCallback
  | inputMetadataOptionsCallback
  deriving DecidableEq

/-- What a caller passes after the input. -/
def Shape.arguments : Shape → List Argument
  | .inputCallback => [.callback]
  | .inputMetadataCallback => [.metadata, .callback]
  | .inputOptionsCallback => [.options, .callback]
  | .inputMetadataOptionsCallback => [.metadata, .options, .callback]

/-! ### The wrappers -/

/-- What the wrappers use: the generated codecs of each method's messages, and the native call with what
it returns or raises. -/
structure Client (Req Resp : Method → Type) where
  toBinary : (method : Method) → Req method → Except String (List UInt8)
  fromBinary : (method : Method) → List UInt8 → Except String (Resp method)
  native : Method → List UInt8 → Except String (List UInt8)

/-- What has come of a call once the event loop has run what it scheduled: what it raised itself, and the
invocations of the caller's callback. -/
structure Outcome (A : Type) where
  raised : Option String
  answers : List (Except String A)

variable {Req Resp : Method → Type} (client : Client Req Resp)

/-- The body the seven wrappers share, with the parameters they declare: the callback is the fourth. -/
def unary (method : Method) (input : Req method) (_metadata _options callback : Option Argument) :
    Outcome (Resp method) :=
  match client.toBinary method input with
  | .error err => ⟨some err, []⟩
  | .ok bytes =>
    -- the `try` block: a response that was decoded, or what was caught
    let answer := (client.native method bytes).bind (client.fromBinary method)
    match callback with
    | some _ => ⟨none, [answer]⟩
    | none => ⟨none, []⟩

def unaryCheckPermission := unary client .checkPermission

def unaryWriteRelationships := unary client .writeRelationships

def unaryDeleteRelationships := unary client .deleteRelationships

def unaryCheckBulkPermissions := unary client .checkBulkPermissions

def unaryExpandPermissionTree := unary client .expandPermissionTree

def unaryReadSchema := unary client .readSchema

def unaryWriteSchema := unary client .writeSchema

/-- The wrapper of a method. -/
def wrapper : (method : Method) → Req method → Option Argument → Option Argument →
    Option Argument → Outcome (Resp method)
  | .checkPermission => unaryCheckPermission client
  | .writeRelationships => unaryWriteRelationships client
  | .deleteRelationships => unaryDeleteRelationships client
  | .checkBulkPermissions => unaryCheckBulkPermissions client
  | .expandPermissionTree => unaryExpandPermissionTree client
  | .readSchema => unaryReadSchema client
  | .writeSchema => unaryWriteSchema client

/-- The two objects that override methods. -/
inductive Service
  | permissions
  | schema
  deriving DecidableEq

/-- The overrides of the two proxies; any other property is the streaming client's. -/
def Service.get : Service → String → Option Method
  | .permissions, "checkPermission" => some .checkPermission
  | .permissions, "writeRelationships" => some .writeRelationships
  | .permissions, "deleteRelationships" => some .deleteRelationships
  | .permissions, "checkBulkPermissions" => some .checkBulkPermissions
  | .permissions, "expandPermissionTree" => some .expandPermissionTree
  | .schema, "readSchema" => some .readSchema
  | .schema, "writeSchema" => some .writeSchema
  | _, _ => none

/-- A call in a shape: its arguments are bound by position. -/
def call (method : Method) (input : Req method) (shape : Shape) : Outcome (Resp method) :=
  wrapper client method input shape.arguments[0]? shape.arguments[1]? shape.arguments[2]?

/-- The promise form: a wrapper with a callback of its own, which rejects with an error and resolves with
a value. What the executor raises rejects the promise, and it settles once. -/
def promise (method : Method) (input : Req method) : Option (Except String (Resp method)) :=
  let outcome := wrapper client method input none none (some .callback)
  match outcome.raised with
  | some err => some (.error err)
  | none => outcome.answers.head?

/-! ### The property -/

/-- The answer a call should give. -/
def answer (method : Method) (input : Req method) : Except String (Resp method) := do
  let bytes ← client.toBinary method input
  let out ← client.native method bytes
  client.fromBinary method out

/-- A response like the other, or an error like the other. -/
def Agrees {A : Type} : Except String A → Except String A → Prop
  | .ok value, .ok other => value = other
  | .error _, .error _ => True
  | .ok _, .error _ | .error _, .ok _ => False

/-- The caller's callback is invoked once, with the response or with an error, and the promise form
settles accordingly. -/
structure Answered (method : Method) (input : Req method) (shape : Shape) : Prop where
  callback : ∃ given, (call client method input shape).answers = [given] ∧
    Agrees given (answer client method input)
  settled : ∃ given, promise client method input = some given ∧
    Agrees given (answer client method input)

/-! ### The wrappers are one -/

theorem wrapper_eq (method : Method) : wrapper client method = unary client method := by
  cases method <;> rfl

/-- Every method is overridden by one of the two objects. -/
theorem overridden (method : Method) : ∃ service prop, Service.get service prop = some method := by
  cases method with
  | checkPermission => exact ⟨.permissions, "checkPermission", rfl⟩
  | checkBulkPermissions => exact ⟨.permissions, "checkBulkPermissions", rfl⟩
  | writeRelationships => exact ⟨.permissions, "writeRelationships", rfl⟩
  | deleteRelationships => exact ⟨.permissions, "deleteRelationships", rfl⟩
  | expandPermissionTree => exact ⟨.permissions, "expandPermissionTree", rfl⟩
  | readSchema => exact ⟨.schema, "readSchema", rfl⟩
  | writeSchema => exact ⟨.schema, "writeSchema", rfl⟩

theorem Agrees.refl {A : Type} (given : Except String A) : Agrees given given := by
  cases given <;> trivial

section Wrappers

variable (method : Method) (input : Req method)

/-- A wrapper of a request that cannot be marshalled raises, and answers nobody. -/
theorem unary_unmarshalled {err : String} (refused : client.toBinary method input = .error err)
    (metadata options callback : Option Argument) :
    unary client method input metadata options callback = ⟨some err, []⟩ := by
  simp only [unary, refused]

/-- A wrapper with a callback answers it. -/
theorem unary_called {bytes : List UInt8} (marshalled : client.toBinary method input = .ok bytes)
    (metadata options : Option Argument) (given : Argument) :
    unary client method input metadata options (some given) =
      ⟨none, [answer client method input]⟩ := by
  simp only [unary, answer, marshalled]
  rfl

/-- A wrapper without one answers nobody. -/
theorem unary_uncalled (metadata options : Option Argument) :
    (unary client method input metadata options none).answers = [] := by
  unfold unary
  cases client.toBinary method input <;> rfl

/-- The promise form always settles as it should. -/
theorem promise_settles : ∃ given, promise client method input = some given ∧
    Agrees given (answer client method input) := by
  unfold promise
  rw [wrapper_eq]
  cases marshalled : client.toBinary method input with
  | error err =>
    rw [unary_unmarshalled client method input marshalled]
    refine ⟨.error err, rfl, ?_⟩
    simp only [answer, marshalled]
    trivial
  | ok bytes =>
    rw [unary_called client method input marshalled]
    exact ⟨_, rfl, Agrees.refl _⟩

/-- **A call is answered exactly when it comes with all four arguments and its request can be
marshalled.** -/
theorem answered_iff (shape : Shape) :
    Answered client method input shape ↔
      shape = .inputMetadataOptionsCallback ∧ (client.toBinary method input).isOk = true := by
  have bound : ∀ shape, call client method input shape =
      unary client method input shape.arguments[0]? shape.arguments[1]? shape.arguments[2]? := by
    intro shape
    rw [call, wrapper_eq]
  have unheard : ∀ {shape}, shape.arguments[2]? = none → ¬ Answered client method input shape := by
    intro shape fewer answered
    obtain ⟨given, answers, _⟩ := answered.callback
    rw [bound, fewer, unary_uncalled] at answers
    cases answers
  cases shape with
  | inputCallback => exact iff_of_false (unheard rfl) nofun
  | inputMetadataCallback => exact iff_of_false (unheard rfl) nofun
  | inputOptionsCallback => exact iff_of_false (unheard rfl) nofun
  | inputMetadataOptionsCallback =>
    rw [and_iff_right rfl]
    cases marshalled : client.toBinary method input with
    | error err =>
      refine iff_of_false (fun answered => ?_) nofun
      obtain ⟨given, answers, _⟩ := answered.callback
      rw [bound, unary_unmarshalled client method input marshalled] at answers
      cases answers
    | ok bytes =>
      refine iff_of_true ⟨⟨_, ?_, Agrees.refl _⟩, promise_settles client method input⟩ rfl
      rw [bound]
      exact congrArg Outcome.answers (unary_called client method input marshalled _ _ _)

end Wrappers

/-- A client whose every request is empty, and every native call succeeds. -/
def plainClient : Client (fun _ => Unit) (fun _ => Unit) where
  toBinary _ _ := .ok []
  fromBinary _ _ := .ok ()
  native _ bytes := .ok bytes

/-- The callback of the shortest shape is taken for the metadata, and never invoked. -/
theorem inputCallback_unanswered :
    ¬ ∀ (client : Client (fun _ => Unit) (fun _ => Unit)) (method : Method) (shape : Shape),
      Answered client method () shape := by
  intro answered
  obtain ⟨given, answers, _⟩ := (answered plainClient .checkPermission .inputCallback).callback
  cases answers

end SpicedbEmbedded.Clients.Unary
