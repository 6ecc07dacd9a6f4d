/-
**The library as an atomic store.**

What `shared/c` is to its callers, with no locks, no program counters and no heap: a handle goes
through the phases of a `Slot`, a datastore is the list of the messages it has been sent, and every
call takes effect at once. `Store.Step` is this specification. One event is one effect:

* a start `took` its handle, `bound` its streaming address, and `opened` the handle as it returned;
* a dispose `deleted` the handle, `closed` its connection, and then returned, or `missed` it;
* an RPC or a streaming call is `answered` or `streamed` with a result.

While a dispose is between its delete and its close the handle is `draining`: a call that comes
then is served or turned away. Before the delete every call is served, and after the close none is.

`event` reads the event of a step off the machine of `Shared.Library`.
-/

import SpicedbEmbedded.Machine.History
import SpicedbEmbedded.Shared.RegistrySafe

set_option linter.unusedSectionVars false

namespace SpicedbEmbedded.Shared

open Machine

variable {C Req Msg : Type}

/-! ### The store -/

/-- What a handle is to its callers. -/
inductive Slot (C : Type)
  | unissued
  | starting (datastore : DatastoreRef C)
  | failed
  | bound (datastore : DatastoreRef C)
  | opened (datastore : DatastoreRef C)
  | draining (datastore : DatastoreRef C)
  | closed

/-- An RPC on the handle is served. -/
def Slot.Serves : Slot C → DatastoreRef C → Prop
  | .opened here, ref => here = ref
  | .draining here, ref => here = ref
  | _, _ => False

/-- A streaming call at the address of the handle is served: the proxy listens before the start
returns. -/
def Slot.Streams : Slot C → DatastoreRef C → Prop
  | .bound here, ref => here = ref
  | slot, ref => slot.Serves ref

/-- The handles and the datastores. -/
structure Store (C Msg : Type) where
  slots : UInt64 → Slot C
  histories : DatastoreRef C → List Msg

/-- Nothing has been started. -/
def Store.init : Store C Msg where
  slots _ := .unissued
  histories _ := []

/-- One effect of a call. -/
inductive Event (C Req Msg : Type)
  | rejected (call : C) (opts : StartOptions) (text : String)
  | took (call : C) (handle : UInt64) (opts : StartOptions)
  | failed (call : C) (handle : UInt64) (text : String)
  | bound (call : C) (handle : UInt64)
  | opened (call : C) (handle : UInt64) (streamingAddress : String)
  | deleted (call : C) (handle : UInt64)
  | closed (call : C) (handle : UInt64)
  | disposed (call : C) (handle : UInt64)
  | missed (call : C) (handle : UInt64)
  | answered (call : C) (handle : UInt64) (req : Req) (result : Except String (Response Msg))
  | streamed (call : C) (handle : UInt64) (req : Req) (result : Except String (Response Msg))

/-- The call an event belongs to. -/
def Event.call : Event C Req Msg → C
  | .rejected call _ _ => call
  | .took call _ _ => call
  | .failed call _ _ => call
  | .bound call _ => call
  | .opened call _ _ => call
  | .deleted call _ => call
  | .closed call _ => call
  | .disposed call _ => call
  | .missed call _ => call
  | .answered call _ _ _ => call
  | .streamed call _ _ _ => call

/-- What the call returns with the event: the function, the handle and the result. -/
def Event.returned :
    Event C Req Msg → Option (C × Kind × Option UInt64 × Except String (Response Msg))
  | .rejected call _ text => some (call, .start, none, .error text)
  | .failed call handle text => some (call, .start, some handle, .error text)
  | .opened call handle addr => some (call, .start, some handle, .ok (.started handle addr))
  | .disposed call handle => some (call, .dispose, some handle, .ok .disposed)
  | .missed call handle => some (call, .dispose, some handle, .error (invalidHandle handle))
  | .answered call handle _ result => some (call, .rpc, some handle, result)
  | .streamed call handle _ result => some (call, .stream, some handle, result)
  | _ => none

variable [DecidableEq C] (svc : Service Req Msg)

namespace Store

variable (x : Store C Msg)

/-- Leaves a handle as given. -/
def setSlot (h : UInt64) (slot : Slot C) : Store C Msg :=
  { x with slots := Function.update x.slots h slot }

@[simp] theorem setSlot_self (h : UInt64) (slot : Slot C) : (x.setSlot h slot).slots h = slot :=
  Function.update_self ..

theorem setSlot_of_ne {h k : UInt64} (other : k ≠ h) (slot : Slot C) :
    (x.setSlot h slot).slots k = x.slots k := Function.update_of_ne other ..

/-- A request to a datastore: the server answers from the messages before it. -/
def serve {Answer : Type} (answer : List Msg → Msg → Except String Answer) (ref : DatastoreRef C)
    (req : Req) : Except String Answer × Store C Msg :=
  match svc.unmarshal req with
  | .error err => (.error err, x)
  | .ok msg => (answer (x.histories ref) msg,
      { x with histories := Function.update x.histories ref (x.histories ref ++ [msg]) })

/-- A request on a connection that has been closed. -/
def refuse {Answer : Type} (req : Req) : Except String Answer :=
  match svc.unmarshal req with
  | .error err => .error err
  | .ok _ => .error svc.closing

/-- **The specification.** What each event may be, and what it does to the store. -/
inductive Step : Store C Msg → Event C Req Msg → Store C Msg → Prop
  | rejected (x : Store C Msg) (c : C) (opts : StartOptions) (text : String)
      (invalid : opts.validate = .error text) : Step x (.rejected c opts text) x
  | took (x : Store C Msg) (c : C) (h : UInt64) (opts : StartOptions)
      (valid : opts.validate = .ok ()) (fresh : x.slots h = .unissued) :
      Step x (.took c h opts) (x.setSlot h (.starting (.ofOpts c opts)))
  | failed (x : Store C Msg) (c : C) (h : UInt64) (text : String) (ref : DatastoreRef C)
      (starting : x.slots h = .starting ref) : Step x (.failed c h text) (x.setSlot h .failed)
  | bound (x : Store C Msg) (c : C) (h : UInt64) (ref : DatastoreRef C)
      (starting : x.slots h = .starting ref) : Step x (.bound c h) (x.setSlot h (.bound ref))
  | opened (x : Store C Msg) (c : C) (h : UInt64) (ref : DatastoreRef C)
      (bound : x.slots h = .bound ref) :
      Step x (.opened c h (svc.streamingProxyAddr h)) (x.setSlot h (.opened ref))
  | deleted (x : Store C Msg) (c : C) (h : UInt64) (ref : DatastoreRef C)
      (opened : x.slots h = .opened ref) : Step x (.deleted c h) (x.setSlot h (.draining ref))
  | closed (x : Store C Msg) (c : C) (h : UInt64) (ref : DatastoreRef C)
      (draining : x.slots h = .draining ref) : Step x (.closed c h) (x.setSlot h .closed)
  | disposed (x : Store C Msg) (c : C) (h : UInt64) (closed : x.slots h = .closed) :
      Step x (.disposed c h) x
  | missed (x : Store C Msg) (c : C) (h : UInt64) (shut : ∀ ref, x.slots h ≠ .opened ref) :
      Step x (.missed c h) x
  | refused (x : Store C Msg) (c : C) (h : UInt64) (req : Req) (text : String)
      (refused : svc.refuse req = some text) : Step x (.answered c h req (.error text)) x
  | absent (x : Store C Msg) (c : C) (h : UInt64) (req : Req)
      (shut : ∀ ref, x.slots h ≠ .opened ref) :
      Step x (.answered c h req (.error (invalidHandle h))) x
  | answered (x : Store C Msg) (c : C) (h : UInt64) (req : Req) (ref : DatastoreRef C)
      (serves : (x.slots h).Serves ref) :
      Step x (.answered c h req (respond svc (x.serve svc svc.answer ref req).1))
        (x.serve svc svc.answer ref req).2
  | cut (x : Store C Msg) (c : C) (h : UInt64) (req : Req) (closed : x.slots h = .closed) :
      Step x (.answered c h req (refuse svc req)) x
  | unreachable (x : Store C Msg) (c : C) (h : UInt64) (req : Req)
      (shut : ∀ ref, ¬ (x.slots h).Streams ref) :
      Step x (.streamed c h req (.error svc.unreachable)) x
  | streamed (x : Store C Msg) (c : C) (h : UInt64) (req : Req) (ref : DatastoreRef C)
      (streams : (x.slots h).Streams ref) :
      Step x (.streamed c h req ((x.serve svc svc.answerStream ref req).1.map .messages))
        (x.serve svc svc.answerStream ref req).2
  | streamCut (x : Store C Msg) (c : C) (h : UInt64) (req : Req) (closed : x.slots h = .closed) :
      Step x (.streamed c h req (refuse svc req)) x

end Store

/-! ### The events of the machine -/

/-- The event of a call that moves from one place to another. -/
def Pc.event (c : C) (h : UInt64) : Pc C Req Msg → Pc C Req Msg → Option (Event C Req Msg)
  | .building _ _, .returned (.error text) => some (.failed c h text)
  | .binding, .returned (.error text) => some (.failed c h text)
  | .binding, .built => some (.bound c h)
  | .inserting, .returned (.ok (.started _ addr)) => some (.opened c h addr)
  | .deleting, .found _ => some (.deleted c h)
  | .deleting, .returned _ => some (.missed c h)
  | .found _, .closed _ => some (.closed c h)
  | .stopped _, .returned _ => some (.disposed c h)
  | .reading req, .returned result => some (.answered c h req result)
  | .calling req _, .returned result => some (.answered c h req result)
  | .dialing req, .returned result => some (.streamed c h req result)
  | .streaming req _, .returned result => some (.streamed c h req result)
  | _, _ => none

/-- The event of a step of the library. -/
def event (s : State C Req Msg) (action : Action C Req) (t : State C Req Msg) :
    Option (Event C Req Msg) :=
  match action with
  | .reject c opts =>
    match opts.validate with
    | .error text => some (.rejected c opts text)
    | .ok () => none
  | .take c opts id => some (.took c id opts)
  | .begin c h (.rpc req) => (svc.refuse req).map fun text => .answered c h req (.error text)
  | .begin _ _ _ => none
  | .advance c h _ =>
    match s.calls c, t.calls c with
    | some before, some after => before.pc.event c h after.pc
    | _, _ => none

end SpicedbEmbedded.Shared
