/-
**Sessions of typed calls.**

The clients of the five bindings take a request of their language, marshal it, make the raw call and
decode what comes back. A session is any sequence of such calls, from any of the bindings, on a backend
with a state of its own.

* `Codec` — the protobuf messages of a language, and what they are to the library.
* `answerWith` — what a call answers, and what becomes of the backend; `runRPCWith_eq` — the library
  delivers that.
* `Served` — no call of a session sends or receives what its binding garbles.
* **`session_served`** — a served session gives every caller what the backend would, called directly and
  in the same order, and leaves the backend in the same state.
-/

import SpicedbEmbedded.Ffi.Agreement
import SpicedbEmbedded.Ffi.Transparent

namespace SpicedbEmbedded.Ffi

open Machine Prog

variable {Conn Msg S : Type}

/-! ### A backend with a state -/

namespace Library

variable (lib : Library Conn Msg)

/-- What a call answers, and the state it leaves the backend in. -/
def answerWith (parent : Context) (handle : UInt64) (request : List UInt8)
    (unmarshalReq : List UInt8 → Except String Msg)
    (callRPC : Context → Conn → Msg → S → Except String Msg × S) (s : S) :
    Except String (List UInt8) × S :=
  match lib.connection handle with
  | .error err => (.error err, s)
  | .ok conn =>
    match unmarshalReq request with
    | .error err => (.error err, s)
    | .ok req =>
      match callRPC (parent.withTimeout 30) conn req s with
      | (.error err, s) => (.error err, s)
      | (.ok resp, s) =>
        ((lib.marshal resp).mapError fun err => "failed to marshal response: " ++ err, s)

/-- **A run delivers the answer of the call, and leaves the backend's state.** -/
theorem runRPCWith_eq (parent : Context) (handle : UInt64) (request : List UInt8)
    (unmarshalReq : List UInt8 → Except String Msg)
    (callRPC : Context → Conn → Msg → S → Except String Msg × S) (cells : Cells) (m : Memory)
    (s : S) :
    lib.runRPCWith parent handle request unmarshalReq callRPC cells m s =
      (deliver (lib.answerWith parent handle request unmarshalReq callRPC s).1 m,
        (lib.answerWith parent handle request unmarshalReq callRPC s).2) := by
  unfold runRPCWith answerWith connection
  rcases lib.instances handle with _ | _ | ⟨_ | conn⟩
  · rfl
  · rfl
  · rfl
  cases unmarshalReq request with
  | error err => rfl
  | ok req =>
    rcases answered : callRPC (parent.withTimeout 30) conn req s with ⟨err | resp, after⟩
    · simp only [answered]
      rfl
    · simp only [answered]
      cases lib.marshal resp with
      | error err => rfl
      | ok respBytes =>
        by_cases some_ : 0 < respBytes.length
        · simp only [if_pos some_, Except.mapError, deliver]
          rfl
        · simp only [if_neg some_, Except.mapError, deliver]
          rfl

/-- What a call of `spicedb_rpc` answers. -/
def answerRpc (backend : Backend Conn Msg S) (handle : UInt64) (method : Method) (trace : Trace)
    (request : List UInt8) (s : S) : Except String (List UInt8) × S :=
  lib.answerWith (traceContext {} (goString trace.traceparent) (goString trace.tracestate)) handle
    request (lib.unmarshal (.request method)) (backend.client method) s

theorem spicedbRpcWith_eq (backend : Backend Conn Msg S) (handle : UInt64) (method : Method)
    (trace : Trace) (request : List UInt8) (len : Int) (cells : Cells) (m : Memory) (s : S) :
    lib.spicedbRpcWith backend handle (some method.fullName) trace.traceparent trace.tracestate
        request len cells m s =
      (goBytes request len).map fun received =>
        (deliver (lib.answerRpc backend handle method trace received s).1 (m.receive received),
          (lib.answerRpc backend handle method trace received s).2) := by
  simp only [spicedbRpcWith, goString_fullName, rpcMessages_fullName]
  congr 1
  funext received
  exact lib.runRPCWith_eq ..

end Library

/-! ### Raw calls -/

variable (lib : Library Conn Msg) (backend : Backend Conn Msg S) (host : Host)

/-- A raw call on a backend with a state. -/
def Binding.rawCallWith (b : Binding) (handle : UInt64) (method : Method) (trace : Trace)
    (request : b.Bytes) (m : Memory) (s : S) :
    Except Fault ((Except String (List UInt8) × Memory) × S) :=
  match b.arguments host trace request.val with
  | .error err => .ok ((.error err, m), s)
  | .ok args =>
    match lib.spicedbRpcWith backend handle (some method.fullName) args.trace.traceparent
      args.trace.tracestate args.buffer args.len ⟨none, 0, none⟩ m s with
    | none => .error .aborted
    | some ((cells, m), s) => (b.copyOut host cells m).map fun out => (out, s)

/-- A raw call is the one on the backend as it stands. -/
theorem Binding.rawCallWith_fst (native : Native Conn Msg) (b : Binding) (handle : UInt64)
    (method : Method) (trace : Trace) (request : b.Bytes) (m : Memory) (s : S) :
    (b.rawCallWith native.toLibrary backend host handle method trace request m s).map Prod.fst =
      b.rawCall { native with invoke := fun ctx conn name resp msg =>
        (backend ctx conn name resp msg s).1 } host handle method trace request m := by
  rw [Binding.rawCall_eq]
  unfold Binding.rawCallWith
  cases b.arguments host trace request.val with
  | error err => rfl
  | ok args =>
    have pure := native.toLibrary.spicedbRpcWith_fst backend handle (some method.fullName)
      args.trace.traceparent args.trace.tracestate args.buffer args.len ⟨none, 0, none⟩ m s
    rcases ran : native.toLibrary.spicedbRpcWith backend handle (some method.fullName)
      args.trace.traceparent args.trace.tracestate args.buffer args.len ⟨none, 0, none⟩ m s with
      _ | ⟨⟨cells, n⟩, after⟩
    · rw [ran] at pure
      simp only [bind_apply, ofExcept_apply, Native.rpc, ← pure, Option.map_none, ran]
      rfl
    · rw [ran] at pure
      simp only [bind_apply, ofExcept_apply, Native.rpc, ← pure, Option.map_some, ran]
      cases b.copyOut host cells n <;> rfl

/-- The request and the answer of a call that its binding does not refuse come through. -/
def Binding.Serves (b : Binding) (handle : UInt64) (method : Method) (trace : Trace)
    (request : b.Bytes) (s : S) : Prop :=
  ¬ b.Refuses host trace request.val.length →
    b.PassesLength host request.val.length ∧
      b.Keeps host (lib.answerRpc backend handle method trace request.val s).1

/-- A raw call that is served: one its binding refuses raises, and leaves the backend alone; any other
returns the answer, and leaves the backend as the answer does. -/
theorem rawCallWith_served {b : Binding} {handle : UInt64} {method : Method} {trace : Trace}
    {request : b.Bytes} {s : S} (serves : b.Serves lib backend host handle method trace request s)
    (m : Memory) :
    ∃ n, b.rawCallWith lib backend host handle method trace request m s =
      .ok (match b.arguments host trace request.val with
        | .error err => ((.error err, n), s)
        | .ok _ => (((lib.answerRpc backend handle method trace request.val s).1, n),
          (lib.answerRpc backend handle method trace request.val s).2)) := by
  unfold Binding.rawCallWith
  rcases arguments_cases host b trace request.val with
    ⟨refused, err, raised⟩ | ⟨goes, args, converted, passed⟩
  · rw [raised]
    exact ⟨m, rfl⟩
  obtain ⟨length, keeps⟩ := serves goes
  have copied := passed.goBytes_iff.mpr length
  obtain ⟨n, ran, _, _⟩ := copyOut_comesTo host b
    (lib.answerRpc backend handle method trace request.val s).1 (m.receive request.val)
  rw [(result_eq_iff host b _).mpr keeps] at ran
  refine ⟨n, ?_⟩
  simp only [converted, passed.trace, lib.spicedbRpcWith_eq, copied, Option.map_some, ran]
  rfl

/-! ### Typed calls -/

/-- The protobuf messages of a language: how it marshals a request and decodes a response, and which
message of the library each stands for. The library reads what the language writes, and the language
what the library writes of a response of the method. -/
structure Codec (lib : Library Conn Msg) (IsOf : MessageType → Msg → Prop) (b : Binding) where
  Req : Method → Type
  Resp : Method → Type
  encode : (method : Method) → Req method → b.Bytes
  decode : (method : Method) → List UInt8 → Except String (Resp method)
  sent : (method : Method) → Req method → Msg
  received : (method : Method) → Msg → Resp method
  requests : ∀ method req,
    lib.unmarshal (.request method) (encode method req).val = .ok (sent method req)
  responses : ∀ method msg bytes, IsOf (.response method) msg → lib.marshal msg = .ok bytes →
    decode method bytes = .ok (received method msg)

variable {lib} {IsOf : MessageType → Msg → Prop} (codec : (b : Binding) → Codec lib IsOf b)

/-- A call of a client: of a method, under a trace context, on a handle. -/
structure TypedCall where
  binding : Binding
  method : Method
  handle : UInt64
  trace : Trace
  request : (codec binding).Req method

namespace TypedCall

variable {codec} (call : TypedCall codec)

/-- What a call returns or raises. -/
abbrev Answer : Type := Except String ((codec call.binding).Resp call.method)

/-- The request as it is marshalled. -/
def bytes : call.binding.Bytes := (codec call.binding).encode call.method call.request

/-- A call of a client: the request is marshalled, and what comes back is decoded. -/
def run (m : Memory) (s : S) : Except Fault ((call.Answer × Memory) × S) :=
  (call.binding.rawCallWith lib backend host call.handle call.method call.trace call.bytes m s).map
    fun out => ((out.1.1.bind ((codec call.binding).decode call.method), out.1.2), out.2)

/-- The call as it is meant: the binding may refuse it; the backend is called with the message the
request stands for, and the caller gets what the response stands for. -/
def direct (s : S) : call.Answer × S :=
  match call.binding.arguments host call.trace call.bytes.val with
  | .error err => (.error err, s)
  | .ok _ =>
    match lib.connection call.handle with
    | .error err => (.error err, s)
    | .ok conn =>
      match backend.client call.method
        ((traceContext {} (goString call.trace.traceparent)
          (goString call.trace.tracestate)).withTimeout 30) conn
        ((codec call.binding).sent call.method call.request) s with
      | (.error err, s) => (.error err, s)
      | (.ok resp, s) =>
        match lib.marshal resp with
        | .error err => (.error ("failed to marshal response: " ++ err), s)
        | .ok _ => (.ok ((codec call.binding).received call.method resp), s)

/-- The call comes through its binding. -/
def Serves (s : S) : Prop :=
  call.binding.Serves lib backend host call.handle call.method call.trace call.bytes s

end TypedCall

/-- The backend answers every call with a response of its method. -/
def Backend.Answers (IsOf : MessageType → Msg → Prop) (backend : Backend Conn Msg S) : Prop :=
  ∀ ctx conn name resp msg s reply after,
    backend ctx conn name resp msg s = (.ok reply, after) → IsOf resp reply

/-- What the library answers, decoded, is what the call is meant to give. -/
theorem decoded_answer {backend : Backend Conn Msg S} (typed : Backend.Answers IsOf backend)
    (call : TypedCall codec) {args : Arguments}
    (passed : call.binding.arguments host call.trace call.bytes.val = .ok args) (s : S) :
    ((lib.answerRpc backend call.handle call.method call.trace call.bytes.val s).1.bind
        ((codec call.binding).decode call.method),
      (lib.answerRpc backend call.handle call.method call.trace call.bytes.val s).2) =
      call.direct backend host s := by
  have read : lib.unmarshal (.request call.method) call.bytes.val =
      .ok ((codec call.binding).sent call.method call.request) :=
    (codec call.binding).requests call.method call.request
  unfold TypedCall.direct Library.answerRpc Library.answerWith
  simp only [passed, read]
  cases lib.connection call.handle with
  | error err => rfl
  | ok conn =>
    rcases answered : backend.client call.method
        ((traceContext {} (goString call.trace.traceparent)
          (goString call.trace.tracestate)).withTimeout 30) conn
        ((codec call.binding).sent call.method call.request) s with ⟨err | resp, after⟩
    · simp only [answered]
      rfl
    · simp only [answered]
      cases marshalled : lib.marshal resp with
      | error err => rfl
      | ok bytes =>
        have whole := (codec call.binding).responses call.method resp bytes
          (typed _ _ _ _ _ _ _ _ answered) marshalled
        exact Prod.ext whole rfl

/-- **A call that is served is what it is meant to be.** -/
theorem run_served {backend : Backend Conn Msg S} (typed : Backend.Answers IsOf backend)
    {call : TypedCall codec} {s : S} (serves : call.Serves backend host s) (m : Memory) :
    ∃ n, call.run backend host m s =
      .ok (((call.direct backend host s).1, n), (call.direct backend host s).2) := by
  obtain ⟨n, ran⟩ := rawCallWith_served lib backend host serves m
  refine ⟨n, ?_⟩
  rw [TypedCall.run, ran]
  cases passed : call.binding.arguments host call.trace call.bytes.val with
  | error err =>
    have refused : call.direct backend host s = (.error err, s) := by
      unfold TypedCall.direct
      simp only [passed]
    rw [refused]
    rfl
  | ok args =>
    rw [← decoded_answer host codec typed call passed s]
    rfl

/-! ### Sessions -/

/-- The calls of a session, one after the other, on one memory and one backend. -/
def session : List (TypedCall codec) → Memory → S →
    Except Fault (List (Σ call : TypedCall codec, call.Answer) × Memory × S)
  | [], m, s => .ok ([], m, s)
  | call :: calls, m, s =>
    (call.run backend host m s).bind fun out =>
      (session calls out.1.2 out.2).map fun rest => (⟨call, out.1.1⟩ :: rest.1, rest.2)

/-- The session as it is meant. -/
def directSession : List (TypedCall codec) → S →
    List (Σ call : TypedCall codec, call.Answer) × S
  | [], s => ([], s)
  | call :: calls, s =>
    let out := call.direct backend host s
    let rest := directSession calls out.2
    (⟨call, out.1⟩ :: rest.1, rest.2)

/-- Every call of the session is served, on the backend as it finds it. -/
def Served : List (TypedCall codec) → S → Prop
  | [], _ => True
  | call :: calls, s => call.Serves backend host s ∧ Served calls (call.direct backend host s).2

/-- **A session is what it is meant to be.** Whatever bindings the calls come from, and whatever the
backend does with its state, a session in which every call is served gives each caller what the backend
answers to the same calls, made directly and in the same order, and leaves the backend in the same
state; no call is undefined or takes the process down. -/
theorem session_served {backend : Backend Conn Msg S} (typed : Backend.Answers IsOf backend) :
    ∀ (calls : List (TypedCall codec)) (m : Memory) (s : S), Served backend host codec calls s →
      ∃ n, session backend host codec calls m s =
        .ok ((directSession backend host codec calls s).1, n,
          (directSession backend host codec calls s).2) := by
  intro calls
  induction calls with
  | nil => exact fun m s _ => ⟨m, rfl⟩
  | cons call calls later =>
    rintro m s ⟨serves, rest⟩
    obtain ⟨n, ran⟩ := run_served host codec typed serves m
    obtain ⟨k, went⟩ := later n _ rest
    refine ⟨k, ?_⟩
    rw [session, ran]
    show (session backend host codec calls n _).map _ = _
    rw [went]
    rfl

/-! ### One session -/

/-- Messages that are their own bytes, in every language. -/
def echoCodec (b : Binding) : Codec echoLibrary (fun _ _ => True) b where
  Req _ := b.Bytes
  Resp _ := List UInt8
  encode _ request := request
  decode _ bytes := .ok bytes
  sent _ request := request.val
  received _ msg := msg
  requests _ _ := rfl
  responses _ _ _ _ marshalled := by
    cases marshalled
    rfl

/-- A backend that answers a request with itself, and counts the calls. -/
def countingBackend : Backend Unit (List UInt8) Nat := fun _ _ _ _ msg s => (.ok msg, s + 1)

/-- A call of a binding with one byte. -/
def byteCall (b : Binding) (byte : UInt8) : TypedCall echoCodec :=
  ⟨b, .readSchema, 1, {}, (⟨[byte], fun _ => (by decide : 1 < 2 ^ 31)⟩ : b.Bytes)⟩

theorem byteCall_serves (b : Binding) (byte : UInt8) (s : Nat) :
    (byteCall b byte).Serves countingBackend plainHost s := by
  refine fun _ => ⟨?_, (by decide : 1 < 2 ^ 31), fun _ => (by decide : 1 ≤ 2 ^ 31 - 1), ?_⟩
  · cases b with
    | python => exact (by decide : 1 < 2 ^ 31)
    | rust | java | csharp => trivial
    | node => rfl
  · intro _ lost
    cases lost

/-- Python and Node call the same instance, one after the other. -/
theorem session_served_twoCalls :
    ∃ n, session countingBackend plainHost echoCodec [byteCall .python 7, byteCall .node 8]
        ⟨.empty, []⟩ 0 =
      .ok ([⟨byteCall .python 7, .ok [7]⟩, ⟨byteCall .node 8, .ok [8]⟩], n, 2) :=
  session_served plainHost echoCodec (fun _ _ _ _ _ _ _ _ _ => trivial)
    [byteCall .python 7, byteCall .node 8] ⟨.empty, []⟩ 0
    ⟨byteCall_serves .python 7 0, byteCall_serves .node 8 _, trivial⟩

end SpicedbEmbedded.Ffi
