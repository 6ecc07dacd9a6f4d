/-
**One loaded copy of the library, step by step.**

`shared/c` as a machine: any number of `spicedb_start`, `spicedb_dispose`, RPC and streaming calls
run against the package variables `nextID`, `instances` and `instanceMu`, and each step of a call is
one action. A call is named by an element of `C`; an `Instance` is a heap object, named by the start
call that allocated it, and so is the client connection that start dials.

* `spicedb_start` — `take` (the checked options and the `AddUint64`), one step per external stage,
  `os.Remove` and `net.Listen` as two steps, the write lock, the insert.
* `spicedb_dispose` — the write lock, the lookup with the delete, then `cancel` with
  `clientConn.Close`, the proxy's `GracefulStop` with the listener's `Close`, and the rest.
* `runRPC` — the read lock, the lookup, the call on the instance's connection.
* a streaming call — a dial of the address the handle was returned with, the call through the proxy
  that is bound there.

A critical section is two actions, acquiring the lock and the map operation with the release, so
that a call can be suspended while it holds the lock. What the code leaves to SpiceDB, gRPC and the
operating system comes from the `Service` (what a server answers is a function of the history of its
datastore) and from the outcome in the action (whether an external stage succeeds).

`step_sound` inverts the step function: `Step` has one constructor for each thing a step can do.
-/

import Mathlib.Logic.Function.Basic
import SpicedbEmbedded.Machine.Run
import SpicedbEmbedded.Shared.Options

namespace SpicedbEmbedded.Shared

/-! ### The surroundings of the library -/

/-- What the library relies on: the wire codecs, the text a closed connection fails with, the
servers' answers, the streaming address of a handle, and the text `spicedb_rpc` refuses a request
with before it looks at the registry. -/
structure Service (Req Msg : Type) where
  refuse : Req → Option String
  unmarshal : Req → Except String Msg
  marshal : Msg → Except String (List UInt8)
  answer : List Msg → Msg → Except String Msg
  answerStream : List Msg → Msg → Except String (List Msg)
  closing : String
  unreachable : String
  streamingProxyAddr : UInt64 → String

/-- A service that answers every message with the number of messages before it. -/
def countingService : Service Nat Nat where
  refuse _ := none
  unmarshal req := .ok req
  marshal msg := .ok [UInt8.ofNat msg]
  answer history _ := .ok history.length
  answerStream history _ := .ok [history.length]
  closing := "grpc: the client connection is closing"
  unreachable := "connection error"
  streamingProxyAddr h := "spicedb-streaming-" ++ toString h.toNat ++ ".sock"

/-- The text of `net.Listen` on an address that is bound already. -/
def addressInUse : String := "address already in use"

/-- The text of a lookup that misses, in `runRPC` and in `spicedb_dispose`. -/
def invalidHandle (handle : UInt64) : String := "invalid handle: " ++ toString handle.toNat

/-- The datastore behind a server: the in-memory engine makes a new one for each start, a remote
engine reaches the one its URI names. -/
inductive DatastoreRef (C : Type)
  | own (start : C)
  | shared (engine uri : String)
  deriving DecidableEq

/-- The datastore `newDatastoreFromOpts` reaches. -/
def DatastoreRef.ofOpts {C : Type} (start : C) (opts : StartOptions) : DatastoreRef C :=
  if opts.engine = memoryEngine then .own start else .shared opts.engine opts.datastoreURI

/-- The fields of `Instance` that calls read through the pointer. -/
structure Instance (C : Type) where
  datastore : DatastoreRef C
  clientConn : Option C
  streamingAddr : String
  metricsAddr : Option String

/-- `sync.RWMutex`. -/
inductive RWMutex (C : Type)
  | written (writer : C)
  | readBy (readers : List C)

/-- The unlocked `instanceMu`. -/
def RWMutex.free {C : Type} : RWMutex C := .readBy []

/-- What a call returns on success. -/
inductive Response (Msg : Type)
  | started (handle : UInt64) (streamingAddress : String)
  | disposed
  | bytes (bytes : List UInt8)
  | messages (messages : List Msg)

/-- The exported function a call runs. -/
inductive Kind
  | start
  | dispose
  | rpc
  | stream
  deriving DecidableEq

/-- Where a call is in its function. -/
inductive Pc (C Req Msg : Type)
  | building (opts : StartOptions) (left : List Stage)
  | binding
  | built
  | inserting
  | disposing
  | deleting
  | found (inst : C)
  | closed (inst : C)
  | stopped (inst : C)
  | looking (req : Req)
  | reading (req : Req)
  | calling (req : Req) (inst : C)
  | dialing (req : Req)
  | streaming (req : Req) (inst : C)
  | returned (result : Except String (Response Msg))

/-- A call: its function, the handle it works on (none for a start refused before it takes one), and
where it is. -/
structure Call (C Req Msg : Type) where
  kind : Kind
  handle : Option UInt64
  pc : Pc C Req Msg

/-- The steps of `spicedb_dispose` on the instance it has taken out of the map. -/
inductive CleanupOp
  | close
  | stop
  | finish
  deriving DecidableEq

/-- A cleanup step on record: the dispose that ran it, and the instance it touched. -/
structure Cleanup (C : Type) where
  dispose : C
  inst : C
  op : CleanupOp
  deriving DecidableEq

/-- The state of one loaded copy, with the files and ports it shares with its surroundings.
`cleanups` and `uses` only record what the calls have done: the cleanup steps, and which connection
an RPC was made on. -/
structure State (C Req Msg : Type) where
  nextID : UInt64
  instanceMu : RWMutex C
  instances : UInt64 → Option C
  objects : C → Instance C
  connOpen : C → Bool
  histories : DatastoreRef C → List Msg
  sockets : String → Option C
  metricsAddrs : String → Option C
  calls : C → Option (Call C Req Msg)
  cleanups : List (Cleanup C)
  uses : List (C × C)

/-- A copy that has just been loaded. -/
def State.init {C Req Msg : Type} : State C Req Msg where
  nextID := 0
  instanceMu := .free
  instances _ := none
  objects c := ⟨.own c, none, "", none⟩
  connOpen _ := false
  histories _ := []
  sockets _ := none
  metricsAddrs _ := none
  calls _ := none
  cleanups := []
  uses := []

/-- The operations on a handle other than the start that makes it. -/
inductive Op (Req : Type)
  | dispose
  | rpc (req : Req)
  | stream (req : Req)

/-- One step of one call. `advance` names the handle the call works on and how the external step, if
it takes one, comes out. -/
inductive Action (C Req : Type)
  | reject (call : C) (opts : StartOptions)
  | take (call : C) (opts : StartOptions) (id : UInt64)
  | begin (call : C) (handle : UInt64) (op : Op Req)
  | advance (call : C) (handle : UInt64) (outcome : Except String Unit)

/-- The call an action belongs to. -/
def Action.call {C Req : Type} : Action C Req → C
  | .reject call _ => call
  | .take call _ _ => call
  | .begin call _ _ => call
  | .advance call _ _ => call

/-- A number of steps of one call whose external steps succeed. -/
def Action.advances {C Req : Type} (call : C) (handle : UInt64) (n : Nat) : List (Action C Req) :=
  List.replicate n (.advance call handle (.ok ()))

/-- The handle an action works on. -/
def Action.handle {C Req : Type} : Action C Req → Option UInt64
  | .reject _ _ => none
  | .take _ _ id => some id
  | .begin _ handle _ => some handle
  | .advance _ handle _ => some handle

/-! ### The effect of a step -/

variable {C Req Msg : Type} [DecidableEq C]

namespace State

variable (s : State C Req Msg)

/-- Moves a call on. -/
def goto (c : C) (kind : Kind) (h : UInt64) (pc : Pc C Req Msg) : State C Req Msg :=
  { s with calls := Function.update s.calls c (some ⟨kind, some h, pc⟩) }

/-- A start that is refused before it draws a handle. -/
def refuse (c : C) (text : String) : State C Req Msg :=
  { s with calls := Function.update s.calls c (some ⟨.start, none, .returned (.error text)⟩) }

/-- Leaves `instanceMu` as given. -/
def withMu (mu : RWMutex C) : State C Req Msg := { s with instanceMu := mu }

/-- Leaves `instances[h]` as given. -/
def setInstance (h : UInt64) (inst : Option C) : State C Req Msg :=
  { s with instances := Function.update s.instances h inst }

/-- Writes the fields of an instance. -/
def setObject (c : C) (object : Instance C) : State C Req Msg :=
  { s with objects := Function.update s.objects c object }

/-- Removes the socket file at a path, if there is one. -/
def unlink (path : String) : State C Req Msg :=
  { s with sockets := Function.update s.sockets path none }

/-- `cleanupObservability`, as far as other starts can tell: the metrics port is free again. -/
def cleanupObservability (inst : C) : State C Req Msg :=
  match (s.objects inst).metricsAddr with
  | none => s
  | some addr => { s with metricsAddrs := Function.update s.metricsAddrs addr none }

/-- `instance.clientConn.Close()`, when there is a connection. -/
def closeConn (inst : C) : State C Req Msg :=
  match (s.objects inst).clientConn with
  | none => s
  | some conn => { s with connOpen := Function.update s.connOpen conn false }

/-- Puts a cleanup step on record. -/
def record (dispose inst : C) (op : CleanupOp) : State C Req Msg :=
  { s with cleanups := s.cleanups ++ [⟨dispose, inst, op⟩] }

/-- An error return of `spicedb_start` after the `AddUint64`. -/
def failStart (c : C) (h : UInt64) (text : String) : State C Req Msg :=
  (s.cleanupObservability c).goto c .start h (.returned (.error text))

/-- An external stage other than the proxy, at its given outcome. -/
def runStage (c : C) (h : UInt64) (opts : StartOptions) (stage : Stage) (left : List Stage) :
    Except String Unit → State C Req Msg
  | .error err => s.failStart c h (stage.failure err)
  | .ok () =>
    match stage with
    | .datastore =>
      (s.setObject c { s.objects c with datastore := DatastoreRef.ofOpts c opts }).goto
        c .start h (.building opts left)
    | .metrics =>
      match s.metricsAddrs opts.metricsAddr with
      | some _ => s.failStart c h (Stage.failure addressInUse .metrics)
      | none =>
        ({ s with metricsAddrs := Function.update s.metricsAddrs opts.metricsAddr (some c) }.setObject
          c { s.objects c with metricsAddr := some opts.metricsAddr }).goto
            c .start h (.building opts left)
    | .client =>
      ({ s with connOpen := Function.update s.connOpen c true }.setObject
        c { s.objects c with clientConn := some c }).goto c .start h (.building opts left)
    | .server => s.goto c .start h (.building opts left)
    | .tracing => s.goto c .start h (.building opts left)
    | .proxy => s.goto c .start h (.building opts left)

/-- `net.Listen` on the path of the handle. -/
def listen (path : String) (c : C) (h : UInt64) : Except String Unit → State C Req Msg
  | .error err => s.failStart c h (Stage.failure err .proxy)
  | .ok () =>
    match s.sockets path with
    | some _ => s.failStart c h (Stage.failure addressInUse .proxy)
    | none =>
      ({ s with sockets := Function.update s.sockets path (some c) }.setObject
        c { s.objects c with streamingAddr := path }).goto c .start h .built

/-- The request on a client connection: the server it leads to answers from the history of its
datastore, and a closed connection fails. -/
def invoke {Answer : Type} (closing : String) (answer : List Msg → Msg → Except String Answer)
    (conn : C) (msg : Msg) : Except String Answer × State C Req Msg :=
  if s.connOpen conn then
    let ref := (s.objects conn).datastore
    (answer (s.histories ref) msg,
      { s with histories := Function.update s.histories ref (s.histories ref ++ [msg]) })
  else (.error closing, s)

end State

variable (svc : Service Req Msg)

/-- The end of `runRPC`: what it returns for the answer of the call. -/
def respond : Except String Msg → Except String (Response Msg)
  | .error err => .error err
  | .ok resp =>
    match svc.marshal resp with
    | .error err => .error ("failed to marshal response: " ++ err)
    | .ok bytes => .ok (.bytes bytes)

/-- `runRPC` after the lookup: the connection, the decoding, the call, the encoding. -/
def callRPC (s : State C Req Msg) (c inst : C) (req : Req) :
    Except String (Response Msg) × State C Req Msg :=
  match (s.objects inst).clientConn with
  | none => (.error "instance not available for FFI RPCs", s)
  | some conn =>
    match svc.unmarshal req with
    | .error err => (.error err, s)
    | .ok msg =>
      let called := s.invoke svc.closing svc.answer conn msg
      (respond svc called.1, { called.2 with uses := called.2.uses ++ [(c, conn)] })

/-- A streaming call at the proxy of an instance: the proxy's clients use the instance's
connection. -/
def callStream (s : State C Req Msg) (inst : C) (req : Req) :
    Except String (Response Msg) × State C Req Msg :=
  match (s.objects inst).clientConn with
  | none => (.error svc.closing, s)
  | some conn =>
    match svc.unmarshal req with
    | .error err => (.error err, s)
    | .ok msg =>
      let called := s.invoke svc.closing svc.answerStream conn msg
      (called.1.map .messages, called.2)

/-- The next step of a call that is at `pc`. -/
def advance (s : State C Req Msg) (c : C) (kind : Kind) (h : UInt64)
    (outcome : Except String Unit) : Pc C Req Msg → Option (State C Req Msg)
  | .building _ [] => none
  | .building opts (stage :: left) =>
    if stage = .proxy then some ((s.unlink (svc.streamingProxyAddr h)).goto c kind h .binding)
    else some (s.runStage c h opts stage left outcome)
  | .binding => some (s.listen (svc.streamingProxyAddr h) c h outcome)
  | .built =>
    match s.instanceMu with
    | .readBy [] => some ((s.withMu (.written c)).goto c kind h .inserting)
    | _ => none
  | .inserting =>
    some (((s.setInstance h (some c)).withMu .free).goto c kind h
      (.returned (.ok (.started h (s.objects c).streamingAddr))))
  | .disposing =>
    match s.instanceMu with
    | .readBy [] => some ((s.withMu (.written c)).goto c kind h .deleting)
    | _ => none
  | .deleting =>
    match s.instances h with
    | none => some ((s.withMu .free).goto c kind h (.returned (.error (invalidHandle h))))
    | some inst => some (((s.setInstance h none).withMu .free).goto c kind h (.found inst))
  | .found inst => some (((s.closeConn inst).record c inst .close).goto c kind h (.closed inst))
  | .closed inst =>
    some (((s.unlink (s.objects inst).streamingAddr).record c inst .stop).goto c kind h
      (.stopped inst))
  | .stopped inst =>
    some ((((s.cleanupObservability inst).unlink (s.objects inst).streamingAddr).record
      c inst .finish).goto c kind h (.returned (.ok .disposed)))
  | .looking req =>
    match s.instanceMu with
    | .readBy readers =>
      some ((s.withMu (.readBy (c :: readers))).goto c kind h (.reading req))
    | .written _ => none
  | .reading req =>
    match s.instanceMu, s.instances h with
    | .readBy readers, none => some ((s.withMu (.readBy (readers.erase c))).goto c kind h
        (.returned (.error (invalidHandle h))))
    | .readBy readers, some inst => some ((s.withMu (.readBy (readers.erase c))).goto c kind h
        (.calling req inst))
    | .written _, _ => none
  | .calling req inst =>
    let called := callRPC svc s c inst req
    some (called.2.goto c kind h (.returned called.1))
  | .dialing req =>
    match s.sockets (svc.streamingProxyAddr h) with
    | none => some (s.goto c kind h (.returned (.error svc.unreachable)))
    | some inst => some (s.goto c kind h (.streaming req inst))
  | .streaming req inst =>
    let called := callStream svc s inst req
    some (called.2.goto c kind h (.returned called.1))
  | .returned _ => none

/-- Where an operation on a handle begins. -/
def Op.begin (C : Type) : Op Req → Kind × Pc C Req Msg
  | .dispose => (.dispose, .disposing)
  | .rpc req =>
    match svc.refuse req with
    | some text => (.rpc, .returned (.error text))
    | none => (.rpc, .looking req)
  | .stream req => (.stream, .dialing req)

/-- One step of the library. -/
def step (s : State C Req Msg) : Action C Req → Option (State C Req Msg)
  | .reject c opts =>
    match s.calls c, opts.validate with
    | none, .error text =>
      some (s.refuse c text)
    | _, _ => none
  | .take c opts id =>
    match s.calls c, opts.validate with
    | none, .ok () =>
      if id = s.nextID + 1 then
        some ({ s with nextID := id }.goto c .start id (.building opts opts.stages))
      else none
    | _, _ => none
  | .begin c h op =>
    match s.calls c with
    | none => some (s.goto c (op.begin svc C).1 h (op.begin svc C).2)
    | some _ => none
  | .advance c h outcome =>
    match s.calls c with
    | some ⟨kind, some handle, pc⟩ =>
      if handle = h then advance svc s c kind h outcome pc else none
    | _ => none

/-! ### The steps, inverted -/

/-- Everything the next step of a call can do. -/
inductive Advance (s : State C Req Msg) (c : C) (kind : Kind) (h : UInt64)
    (outcome : Except String Unit) : Pc C Req Msg → State C Req Msg → Prop
  | unlinked (opts : StartOptions) (left : List Stage) :
      Advance s c kind h outcome (.building opts (.proxy :: left))
        ((s.unlink (svc.streamingProxyAddr h)).goto c kind h .binding)
  | staged (opts : StartOptions) (stage : Stage) (left : List Stage) (other : stage ≠ .proxy) :
      Advance s c kind h outcome (.building opts (stage :: left))
        (s.runStage c h opts stage left outcome)
  | listened :
      Advance s c kind h outcome .binding (s.listen (svc.streamingProxyAddr h) c h outcome)
  | locksToInsert (unlocked : s.instanceMu = .free) :
      Advance s c kind h outcome .built ((s.withMu (.written c)).goto c kind h .inserting)
  | inserts :
      Advance s c kind h outcome .inserting
        (((s.setInstance h (some c)).withMu .free).goto c kind h
          (.returned (.ok (.started h (s.objects c).streamingAddr))))
  | locksToDelete (unlocked : s.instanceMu = .free) :
      Advance s c kind h outcome .disposing ((s.withMu (.written c)).goto c kind h .deleting)
  | misses (absent : s.instances h = none) :
      Advance s c kind h outcome .deleting
        ((s.withMu .free).goto c kind h (.returned (.error (invalidHandle h))))
  | removes (inst : C) (present : s.instances h = some inst) :
      Advance s c kind h outcome .deleting
        (((s.setInstance h none).withMu .free).goto c kind h (.found inst))
  | closes (inst : C) :
      Advance s c kind h outcome (.found inst)
        (((s.closeConn inst).record c inst .close).goto c kind h (.closed inst))
  | stops (inst : C) :
      Advance s c kind h outcome (.closed inst)
        (((s.unlink (s.objects inst).streamingAddr).record c inst .stop).goto c kind h
          (.stopped inst))
  | finishes (inst : C) :
      Advance s c kind h outcome (.stopped inst)
        ((((s.cleanupObservability inst).unlink (s.objects inst).streamingAddr).record
          c inst .finish).goto c kind h (.returned (.ok .disposed)))
  | locksToRead (req : Req) (readers : List C) (shared : s.instanceMu = .readBy readers) :
      Advance s c kind h outcome (.looking req)
        ((s.withMu (.readBy (c :: readers))).goto c kind h (.reading req))
  | readMisses (req : Req) (readers : List C) (shared : s.instanceMu = .readBy readers)
      (absent : s.instances h = none) :
      Advance s c kind h outcome (.reading req)
        ((s.withMu (.readBy (readers.erase c))).goto c kind h
          (.returned (.error (invalidHandle h))))
  | finds (req : Req) (readers : List C) (shared : s.instanceMu = .readBy readers) (inst : C)
      (present : s.instances h = some inst) :
      Advance s c kind h outcome (.reading req)
        ((s.withMu (.readBy (readers.erase c))).goto c kind h (.calling req inst))
  | calls (req : Req) (inst : C) :
      Advance s c kind h outcome (.calling req inst)
        ((callRPC svc s c inst req).2.goto c kind h (.returned (callRPC svc s c inst req).1))
  | dialMisses (req : Req) (absent : s.sockets (svc.streamingProxyAddr h) = none) :
      Advance s c kind h outcome (.dialing req)
        (s.goto c kind h (.returned (.error svc.unreachable)))
  | dials (req : Req) (inst : C) (present : s.sockets (svc.streamingProxyAddr h) = some inst) :
      Advance s c kind h outcome (.dialing req) (s.goto c kind h (.streaming req inst))
  | streams (req : Req) (inst : C) :
      Advance s c kind h outcome (.streaming req inst)
        ((callStream svc s inst req).2.goto c kind h (.returned (callStream svc s inst req).1))

/-- Everything an action can do. -/
inductive Step (s : State C Req Msg) : Action C Req → State C Req Msg → Prop
  | reject (c : C) (opts : StartOptions) (text : String) (fresh : s.calls c = none)
      (invalid : opts.validate = .error text) :
      Step s (.reject c opts) (s.refuse c text)
  | take (c : C) (opts : StartOptions) (fresh : s.calls c = none) (valid : opts.validate = .ok ()) :
      Step s (.take c opts (s.nextID + 1))
        ({ s with nextID := s.nextID + 1 }.goto c .start (s.nextID + 1) (.building opts opts.stages))
  | begin (c : C) (h : UInt64) (op : Op Req) (fresh : s.calls c = none) :
      Step s (.begin c h op) (s.goto c (op.begin svc C).1 h (op.begin svc C).2)
  | advance (c : C) (kind : Kind) (h : UInt64) (outcome : Except String Unit) (pc : Pc C Req Msg)
      (t : State C Req Msg) (here : s.calls c = some ⟨kind, some h, pc⟩)
      (next : Advance svc s c kind h outcome pc t) : Step s (.advance c h outcome) t

variable {svc}

theorem advance_sound {s t : State C Req Msg} {c : C} {kind : Kind} {h : UInt64}
    {outcome : Except String Unit} {pc : Pc C Req Msg}
    (taken : advance svc s c kind h outcome pc = some t) : Advance svc s c kind h outcome pc t := by
  cases pc with
  | building opts left =>
    cases left with
    | nil => cases taken
    | cons stage left =>
      simp only [advance] at taken
      split at taken
      · rename_i proxied
        subst proxied
        cases taken
        exact .unlinked opts left
      · rename_i other
        cases taken
        exact .staged opts stage left other
  | binding => cases taken; exact .listened
  | built =>
    simp only [advance] at taken
    split at taken
    · cases taken; exact .locksToInsert ‹_›
    · cases taken
  | inserting => cases taken; exact .inserts
  | disposing =>
    simp only [advance] at taken
    split at taken
    · cases taken; exact .locksToDelete ‹_›
    · cases taken
  | deleting =>
    simp only [advance] at taken
    split at taken
    · cases taken; exact .misses ‹_›
    · cases taken; exact .removes _ ‹_›
  | found inst => cases taken; exact .closes inst
  | closed inst => cases taken; exact .stops inst
  | stopped inst => cases taken; exact .finishes inst
  | looking req =>
    simp only [advance] at taken
    split at taken
    · cases taken; exact .locksToRead req _ ‹_›
    · cases taken
  | reading req =>
    simp only [advance] at taken
    split at taken
    · cases taken; exact .readMisses req _ ‹_› ‹_›
    · cases taken; exact .finds req _ ‹_› _ ‹_›
    · cases taken
  | calling req inst => cases taken; exact .calls req inst
  | dialing req =>
    simp only [advance] at taken
    split at taken
    · cases taken; exact .dialMisses req ‹_›
    · cases taken; exact .dials req _ ‹_›
  | streaming req inst => cases taken; exact .streams req inst
  | returned result => cases taken

/-- **The step function, inverted.** -/
theorem step_sound {s t : State C Req Msg} {action : Action C Req}
    (taken : step svc s action = some t) : Step svc s action t := by
  cases action with
  | reject c opts =>
    simp only [step] at taken
    split at taken
    · cases taken; exact .reject c opts _ ‹_› ‹_›
    · cases taken
  | take c opts id =>
    simp only [step] at taken
    split at taken
    · split at taken
      · rename_i next
        subst next
        cases taken
        exact .take c opts ‹_› ‹_›
      · cases taken
    · cases taken
  | begin c h op =>
    simp only [step] at taken
    split at taken
    · cases taken; exact .begin c h op ‹_›
    · cases taken
  | advance c h outcome =>
    simp only [step] at taken
    split at taken
    · split at taken
      · rename_i handle pc here same
        subst same
        exact .advance c _ _ outcome _ t ‹_› (advance_sound taken)
      · cases taken
    · cases taken

end SpicedbEmbedded.Shared
