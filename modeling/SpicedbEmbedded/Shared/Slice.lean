/-
**The slice of the library that belongs to one handle.**

What an instance with an in-memory datastore and without metrics is for its callers, stated on its
own: a machine that knows the calls on one handle, the entry and the socket of the handle, and the
instances that its own starts have built. There is no registry, no lock and no other handle in it
(`Slice.step`).

`State.slice svc h s` reads the slice of the handle `h` off a state of the library. The lemmas below
say what each operation on the state does to the slice of its own handle, and that it leaves the
slices of all other handles alone.
-/

import SpicedbEmbedded.Shared.Sockets

set_option linter.unusedSectionVars false

namespace SpicedbEmbedded.Shared

variable {C Req Msg : Type}

/-- An instance with what is behind it: its connection and the history of its own datastore. -/
structure Body (C Msg : Type) where
  object : Instance C
  connOpen : Bool
  history : List Msg

/-- An instance that has not been built yet. -/
def Body.fresh (c : C) : Body C Msg := ⟨⟨.own c, none, "", none⟩, false, []⟩

/-- The state of one handle. -/
@[ext]
structure Slice (C Req Msg : Type) where
  calls : C → Option (Call C Req Msg)
  inst : Option C
  socket : Option C
  bodies : C → Option (Body C Msg)

/-! ### The machine of one handle -/

/-- A message on the connection of an instance. -/
def Body.invoke {Answer : Type} (closing : String) (answer : List Msg → Msg → Except String Answer)
    (body : Body C Msg) (msg : Msg) : Except String Answer × Body C Msg :=
  if body.connOpen then (answer body.history msg, { body with history := body.history ++ [msg] })
  else (.error closing, body)

/-- A request at an instance: without a connection it fails with `absent`. -/
def Body.ask {Answer : Type} (svc : Service Req Msg) (answer : List Msg → Msg → Except String Answer)
    (absent : String) (body : Body C Msg) (req : Req) : Except String Answer × Body C Msg :=
  match body.object.clientConn with
  | none => (.error absent, body)
  | some _ =>
    match svc.unmarshal req with
    | .error err => (.error err, body)
    | .ok msg => body.invoke svc.closing answer msg

namespace Slice

variable [DecidableEq C]

/-- A handle nobody has drawn. -/
def init : Slice C Req Msg where
  calls _ := none
  inst := none
  socket := none
  bodies _ := none

variable (v : Slice C Req Msg)

/-- Moves a call on. -/
def goto (c : C) (kind : Kind) (h : UInt64) (pc : Pc C Req Msg) : Slice C Req Msg :=
  { v with calls := Function.update v.calls c (some ⟨kind, some h, pc⟩) }

/-- Leaves the entry of the handle as given. -/
def setInst (inst : Option C) : Slice C Req Msg := { v with inst := inst }

/-- Leaves the socket of the handle as given. -/
def setSocket (socket : Option C) : Slice C Req Msg := { v with socket := socket }

/-- Leaves an instance as given. -/
def setBody (c : C) (body : Body C Msg) : Slice C Req Msg :=
  { v with bodies := Function.update v.bodies c (some body) }

/-- An external stage of a start that has succeeded. -/
def stage (c : C) (h : UInt64) (opts : StartOptions) (left : List Stage) (body : Body C Msg) :
    Stage → Option (Slice C Req Msg)
  | .datastore =>
    some ((v.setBody c { body with object := { body.object with datastore := .own c } }).goto
      c .start h (.building opts left))
  | .client =>
    some ((v.setBody c
      { body with connOpen := true, object := { body.object with clientConn := some c } }).goto
        c .start h (.building opts left))
  | .server => some (v.goto c .start h (.building opts left))
  | .tracing => some (v.goto c .start h (.building opts left))
  | .metrics => none
  | .proxy => none

/-- `instance.clientConn.Close()`, when there is a connection. -/
def closeConn (inst : C) : Option (Slice C Req Msg) :=
  (v.bodies inst).map fun body =>
    if body.object.clientConn = none then v else v.setBody inst { body with connOpen := false }

@[simp] theorem goto_bodies (c : C) (kind : Kind) (h : UInt64) (pc : Pc C Req Msg) :
    (v.goto c kind h pc).bodies = v.bodies := rfl

@[simp] theorem setBody_self (c : C) (body : Body C Msg) :
    (v.setBody c body).bodies c = some body := Function.update_self ..

theorem setBody_of_ne {c d : C} (other : d ≠ c) (body : Body C Msg) :
    (v.setBody c body).bodies d = v.bodies d := Function.update_of_ne other ..

variable (svc : Service Req Msg)

/-- The next step of a call that is at `pc`. -/
def advance (c : C) (kind : Kind) (h : UInt64) (outcome : Except String Unit) :
    Pc C Req Msg → Option (Slice C Req Msg)
  | .building _ [] => none
  | .building opts (next :: left) =>
    if next = .proxy then some ((v.setSocket none).goto c kind h .binding)
    else
      match outcome with
      | .error err => some (v.goto c .start h (.returned (.error (next.failure err))))
      | .ok () => (v.bodies c).bind fun body => v.stage c h opts left body next
  | .binding =>
    match outcome, v.socket with
    | .error err, _ => some (v.goto c .start h (.returned (.error (Stage.failure err .proxy))))
    | .ok (), some _ =>
      some (v.goto c .start h (.returned (.error (Stage.failure addressInUse .proxy))))
    | .ok (), none =>
      (v.bodies c).map fun body =>
        ((v.setSocket (some c)).setBody c { body with
          object := { body.object with streamingAddr := svc.streamingProxyAddr h } }).goto
            c .start h .built
  | .built => some (v.goto c kind h .inserting)
  | .inserting =>
    (v.bodies c).map fun body =>
      (v.setInst (some c)).goto c kind h
        (.returned (.ok (.started h body.object.streamingAddr)))
  | .disposing => some (v.goto c kind h .deleting)
  | .deleting =>
    match v.inst with
    | none => some (v.goto c kind h (.returned (.error (invalidHandle h))))
    | some inst => some ((v.setInst none).goto c kind h (.found inst))
  | .found inst => (v.closeConn inst).map fun closed => closed.goto c kind h (.closed inst)
  | .closed inst => some ((v.setSocket none).goto c kind h (.stopped inst))
  | .stopped _ => some ((v.setSocket none).goto c kind h (.returned (.ok .disposed)))
  | .looking req => some (v.goto c kind h (.reading req))
  | .reading req =>
    match v.inst with
    | none => some (v.goto c kind h (.returned (.error (invalidHandle h))))
    | some inst => some (v.goto c kind h (.calling req inst))
  | .calling req inst =>
    (v.bodies inst).map fun body =>
      let asked := body.ask svc svc.answer "instance not available for FFI RPCs" req
      (v.setBody inst asked.2).goto c kind h (.returned (respond svc asked.1))
  | .dialing req =>
    match v.socket with
    | none => some (v.goto c kind h (.returned (.error svc.unreachable)))
    | some inst => some (v.goto c kind h (.streaming req inst))
  | .streaming req inst =>
    (v.bodies inst).map fun body =>
      let asked := body.ask svc svc.answerStream svc.closing req
      (v.setBody inst asked.2).goto c kind h (.returned (asked.1.map .messages))
  | .returned _ => none

/-- One step of the handle. -/
def step : Action C Req → Option (Slice C Req Msg)
  | .reject _ _ => none
  | .take c opts id =>
    some ((v.setBody c (.fresh c)).goto c .start id (.building opts opts.stages))
  | .begin c h op => some (v.goto c (op.begin svc C).1 h (op.begin svc C).2)
  | .advance c h outcome =>
    (v.calls c).bind fun call => v.advance svc c call.kind h outcome call.pc

end Slice

/-! ### The slice of a state -/

/-- The call works on the handle. -/
def Call.on (h : UInt64) (call : Call C Req Msg) : Bool := call.handle == some h

/-- The call is a start that has drawn the handle. -/
def Call.starts (h : UInt64) (call : Call C Req Msg) : Bool :=
  call.kind == .start && call.handle == some h

namespace State

variable (s : State C Req Msg)

/-- An instance with what is behind it. -/
def body (c : C) : Body C Msg := ⟨s.objects c, s.connOpen c, s.histories (.own c)⟩

/-- The start has drawn the handle. -/
def StartOf (c : C) (h : UInt64) : Prop := (s.calls c).any (Call.starts h) = true

/-- The slice of a handle. -/
def slice (svc : Service Req Msg) (h : UInt64) : Slice C Req Msg where
  calls c := (s.calls c).filter (Call.on h)
  inst := s.instances h
  socket := s.sockets (svc.streamingProxyAddr h)
  bodies c := if (s.calls c).any (Call.starts h) then some (s.body c) else none

end State

section Bodies

variable {svc : Service Req Msg} {s : State C Req Msg} {h : UInt64} {c : C}

theorem slice_start (start : s.StartOf c h) : (s.slice svc h).bodies c = some (s.body c) :=
  if_pos start

theorem slice_off (off : ¬ s.StartOf c h) : (s.slice svc h).bodies c = none := if_neg off

end Bodies

/-! ### Operations on the handle of the slice -/

section Own

variable [DecidableEq C] {svc : Service Req Msg} {s t : State C Req Msg} {h : UInt64} {c : C}

/-- A call on the handle moves on, or begins. -/
theorem slice_goto {kind : Kind} (known : (s.calls c).any (Call.starts h) = (kind == .start))
    (pc : Pc C Req Msg) :
    (s.goto c kind h pc).slice svc h = (s.slice svc h).goto c kind h pc := by
  apply Slice.ext
  · funext d
    by_cases here : d = c
    · subst here
      simp [State.slice, State.goto, Slice.goto, Call.on]
    · simp [State.slice, State.goto, Slice.goto, Function.update_of_ne here]
  · rfl
  · rfl
  · funext d
    by_cases here : d = c
    · subst here
      simp only [State.slice, State.goto, Slice.goto, Function.update_self, known]
      simp [Call.starts, State.body]
    · simp only [State.slice, State.goto, Slice.goto, Function.update_of_ne here]
      rfl

theorem starts_of_here {kind : Kind} {pc : Pc C Req Msg}
    (here : s.calls c = some ⟨kind, some h, pc⟩) :
    (s.calls c).any (Call.starts h) = (kind == .start) := by
  simp [here, Call.starts]

theorem slice_setInstance (inst : Option C) :
    (s.setInstance h inst).slice svc h = (s.slice svc h).setInst inst := by
  apply Slice.ext
  · rfl
  · exact Function.update_self ..
  · rfl
  · rfl

variable (svc) in
theorem slice_unlink {path : String} (own : path = svc.streamingProxyAddr h) :
    (s.unlink path).slice svc h = (s.slice svc h).setSocket none := by
  subst own
  apply Slice.ext
  · rfl
  · rfl
  · exact Function.update_self ..
  · rfl

variable (svc) in
/-- A change to one instance of the handle. -/
theorem slice_body (start : s.StartOf c h) (calls : t.calls = s.calls)
    (instances : t.instances = s.instances)
    (socket : t.sockets (svc.streamingProxyAddr h) = s.sockets (svc.streamingProxyAddr h))
    (others : ∀ a, a ≠ c → t.body a = s.body a) :
    t.slice svc h = (s.slice svc h).setBody c (t.body c) := by
  apply Slice.ext
  · funext d
    show (t.calls d).filter _ = (s.calls d).filter _
    rw [calls]
  · exact congrFun instances h
  · exact socket
  · funext d
    have same : t.StartOf d h ↔ s.StartOf d h := by rw [State.StartOf, State.StartOf, calls]
    by_cases here : d = c
    · subst here
      rw [Slice.setBody_self, slice_start (same.mpr start)]
    · rw [Slice.setBody_of_ne _ here]
      by_cases starts : s.StartOf d h
      · rw [slice_start starts, slice_start (same.mpr starts), others d here]
      · rw [slice_off starts, slice_off (starts ∘ same.mp)]

end Own

/-! ### Operations elsewhere -/

section Elsewhere

variable [DecidableEq C] {svc : Service Req Msg} {s t : State C Req Msg} {h : UInt64} {c : C}

/-- The slice is made of the calls on the handle, its entry, its socket and its instances. -/
theorem slice_same (calls : ∀ d, (t.calls d).filter (Call.on h) = (s.calls d).filter (Call.on h))
    (starts : ∀ d, (t.calls d).any (Call.starts h) = (s.calls d).any (Call.starts h))
    (entry : t.instances h = s.instances h)
    (socket : t.sockets (svc.streamingProxyAddr h) = s.sockets (svc.streamingProxyAddr h))
    (bodies : ∀ a, s.StartOf a h → t.body a = s.body a) : t.slice svc h = s.slice svc h := by
  apply Slice.ext
  · exact funext calls
  · exact entry
  · exact socket
  · funext d
    have same : t.StartOf d h ↔ s.StartOf d h := by rw [State.StartOf, State.StartOf, starts d]
    by_cases start : s.StartOf d h
    · rw [slice_start start, slice_start (same.mpr start), bodies d start]
    · rw [slice_off start, slice_off (start ∘ same.mp)]

/-- A call that is not on the handle is no start of it. -/
theorem starts_of_off {call : Option (Call C Req Msg)} (off : call.any (Call.on h) = false) :
    call.filter (Call.on h) = none ∧ call.any (Call.starts h) = false := by
  cases call with
  | none => exact ⟨rfl, rfl⟩
  | some call =>
    have other : Call.on h call = false := off
    refine ⟨by rw [Option.filter_some, if_neg (by rw [other]; decide)], ?_⟩
    unfold Call.on at other
    simp [Call.starts, other]

/-- The step of a call that is not on the handle and stays so. -/
theorem slice_elsewhere {new : Call C Req Msg}
    (calls : t.calls = Function.update s.calls c (some new))
    (before : (s.calls c).any (Call.on h) = false) (after : Call.on h new = false)
    (entry : t.instances h = s.instances h)
    (socket : t.sockets (svc.streamingProxyAddr h) = s.sockets (svc.streamingProxyAddr h))
    (bodies : ∀ a, s.StartOf a h → t.body a = s.body a) : t.slice svc h = s.slice svc h := by
  obtain ⟨filterBefore, startsBefore⟩ := starts_of_off before
  obtain ⟨filterAfter, startsAfter⟩ :=
    starts_of_off (show (some new).any (Call.on h) = false from after)
  refine slice_same (fun d => ?_) (fun d => ?_) entry socket bodies
  · rw [calls]
    by_cases here : d = c
    · subst here
      rw [Function.update_self, filterBefore, filterAfter]
    · rw [Function.update_of_ne here]
  · rw [calls]
    by_cases here : d = c
    · subst here
      rw [Function.update_self, startsBefore, startsAfter]
    · rw [Function.update_of_ne here]

end Elsewhere

end SpicedbEmbedded.Shared
