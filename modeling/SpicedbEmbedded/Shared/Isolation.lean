/-
**Instances are isolated.**

For a handle whose start takes an in-memory datastore and no metrics, the library is no more than the
slice of that handle (`Slice.step`), whatever else runs in it.

* `advance_slice` — a step of a call on the handle is the step of the slice.
* `slice_other` — a step of any other call leaves the slice alone.
* **`instances_isolated`** — two runs with the same steps on the handle leave every call on it in the
  same place, with the same result, and in neither run can a call be kept waiting for the registry.
-/

import SpicedbEmbedded.Machine.Projection
import SpicedbEmbedded.Shared.Confined
import SpicedbEmbedded.Shared.Lock

set_option linter.unusedSectionVars false

namespace SpicedbEmbedded.Shared

open Machine

variable {C Req Msg : Type} [DecidableEq C] {svc : Service Req Msg} {s t : State C Req Msg}

/-! ### Handles with a datastore of their own -/

/-- The starts of the handle have asked for an in-memory datastore and for no metrics. -/
def AsksPrivate (h : UInt64) (action : Action C Req) : Prop :=
  ∀ c opts, action = .take c opts h → opts.engine = memoryEngine ∧ opts.metricsEnabled = false

/-- The starts of the handle go through no metrics stage, and get a datastore of their own. -/
structure Private (s : State C Req Msg) (h : UInt64) : Prop where
  staged : ∀ c opts left, s.calls c = some ⟨.start, some h, .building opts left⟩ →
    opts.engine = memoryEngine ∧ Stage.metrics ∉ left
  own : ∀ c, s.StartOf c h → (s.objects c).datastore = .own c

theorem init_private (h : UInt64) : Private (State.init : State C Req Msg) h where
  staged c opts left known := by cases known
  own c start := by cases start

/-- A call on a handle is a start of it exactly when it runs `spicedb_start`. -/
theorem startOf_iff {c : C} {kind : Kind} {k : UInt64} {pc : Pc C Req Msg}
    (here : s.calls c = some ⟨kind, some k, pc⟩) {h : UInt64} :
    s.StartOf c h ↔ kind = .start ∧ k = h := by
  rw [State.StartOf, here]
  simp [Call.starts]

/-- A start draws one handle. -/
theorem startOf_unique {c : C} {h k : UInt64} (one : s.StartOf c h) (two : s.StartOf c k) :
    h = k := by
  unfold State.StartOf at one two
  cases here : s.calls c with
  | none => rw [here] at one; cases one
  | some call =>
    rw [here] at one two
    simp only [Option.any_some, Call.starts, Bool.and_eq_true, beq_iff_eq] at one two
    exact Option.some.inj (one.2.symm.trans two.2)

/-- A step of a call that has begun starts nothing new. -/
theorem startOf_advance {h k : UInt64} {c : C} {kind : Kind} {pc after : Pc C Req Msg}
    (here : s.calls c = some ⟨kind, some k, pc⟩)
    (calls : t.calls = Function.update s.calls c (some ⟨kind, some k, after⟩)) {d : C}
    (start : t.StartOf d h) : s.StartOf d h := by
  rw [State.StartOf, calls] at start
  by_cases same : d = c
  · subst same
    rw [Function.update_self] at start
    rw [State.StartOf, here]
    exact start
  · rw [Function.update_of_ne same] at start
    exact start

/-- A start on a private handle takes a datastore of its own. -/
theorem own_advance {h k : UInt64} {c : C} {kind : Kind} {pc : Pc C Req Msg}
    {outcome : Except String Unit} (priv : Private s h)
    (here : s.calls c = some ⟨kind, some k, pc⟩) (next : Advance svc s c kind k outcome pc t) {d : C}
    (before : s.StartOf d h) : (t.objects d).datastore = .own d := by
  rcases advance_objects next with same | ⟨object, objects, written⟩
  · rw [same]
    exact priv.own d before
  · rw [objects]
    by_cases same : d = c
    · subst same
      rw [Function.update_self]
      rcases written.datastore with kept | ⟨opts, left, building, made⟩
      · rw [kept]
        exact priv.own d before
      · obtain ⟨rfl, rfl⟩ := (startOf_iff here).mp before
        subst building
        rw [made, DatastoreRef.ofOpts, if_pos (priv.staged d opts left here).1]
    · rw [Function.update_of_ne same]
      exact priv.own d before

/-- **Every step keeps a handle private.** -/
theorem private_step {h : UInt64} {action : Action C Req} (confined : Confined svc s)
    (priv : Private s h) (asks : AsksPrivate h action) (next : Step svc s action t) :
    Private t h := by
  have kept : ∀ {c new}, t.calls = Function.update s.calls c (some new) →
      (∀ opts left, new = ⟨.start, some h, .building opts left⟩ →
        opts.engine = memoryEngine ∧ Stage.metrics ∉ left) →
      ∀ d opts left, t.calls d = some ⟨.start, some h, .building opts left⟩ →
        opts.engine = memoryEngine ∧ Stage.metrics ∉ left := by
    intro c new calls builds d opts left known
    rw [calls, Function.update_apply] at known
    split at known
    · exact builds opts left (Option.some.inj known)
    · exact priv.staged d opts left known
  -- an instance that has been built by its start keeps its datastore
  have owns : ∀ {c new}, s.calls c = none → t.calls = Function.update s.calls c (some new) →
      t.objects = s.objects → ∀ d, t.StartOf d h → (t.objects d).datastore = .own d := by
    intro c new fresh calls objects d start
    rw [objects]
    by_cases same : d = c
    · subst same
      exact congrArg (fun body : Body C Msg => body.object.datastore) (confined.fresh d fresh)
    · rw [State.StartOf, calls, Function.update_of_ne same] at start
      exact priv.own d start
  cases next with
  | reject c opts text fresh invalid =>
    exact ⟨kept rfl fun _ _ same => (by cases same), owns fresh rfl rfl⟩
  | begin c k op fresh =>
    refine ⟨kept rfl fun _ _ same => ?_, owns fresh rfl rfl⟩
    cases op with
    | dispose => cases same
    | stream req => cases same
    | rpc req =>
      simp only [Op.begin] at same
      split at same <;> cases same
  | take c opts fresh valid =>
    refine ⟨kept rfl fun _ _ same => ?_, owns fresh rfl rfl⟩
    cases same
    obtain ⟨memory, disabled⟩ := asks c opts rfl
    refine ⟨memory, ?_⟩
    rw [StartOptions.stages_of_not_metricsEnabled disabled]
    decide
  | advance c kind k outcome pc _ here next =>
    obtain ⟨after, calls, _, stages⟩ := advance_call (confined.formed.fits c _ here) next
    refine ⟨kept calls fun opts left same => ?_, fun d start =>
      own_advance priv here next (startOf_advance here calls start)⟩
    cases same
    obtain ⟨stage, before⟩ := stages opts left rfl
    subst before
    obtain ⟨memory, clear⟩ := priv.staged c opts (stage :: left) here
    exact ⟨memory, fun inside => clear (List.mem_cons_of_mem stage inside)⟩

/-! ### Steps elsewhere -/

/-- A step leaves the entry and the socket of every handle but its own alone. -/
theorem step_entry (distinct : Function.Injective svc.streamingProxyAddr)
    (confined : Confined svc s) {action : Action C Req} (next : Step svc s action t) {h : UInt64}
    (other : action.handle ≠ some h) :
    t.instances h = s.instances h ∧
      t.sockets (svc.streamingProxyAddr h) = s.sockets (svc.streamingProxyAddr h) := by
  have apart : ∀ {k}, action.handle = some k →
      h ≠ k ∧ svc.streamingProxyAddr h ≠ svc.streamingProxyAddr k := by
    intro k own
    have different : h ≠ k := by
      rintro rfl
      exact other own
    exact ⟨different, fun same => different (distinct same)⟩
  obtain ⟨new, calls, change⟩ := step_sockets confined.formed confined.addressed next
  cases change with
  | quiet idle opening listens frame => rw [frame.instances, frame.sockets]; exact ⟨rfl, rfl⟩
  | remove k own removing opening listens sockets addresses instances =>
    rw [instances, sockets, Function.update_of_ne (apart own).2]
    exact ⟨rfl, rfl⟩
  | bind k own idle shut opening free sockets address addresses instances =>
    rw [instances, sockets, Function.update_of_ne (apart own).2]
    exact ⟨rfl, rfl⟩
  | insert k own idle before opening listens sockets addresses instances =>
    rw [instances, sockets, Function.update_of_ne (apart own).1]
    exact ⟨rfl, rfl⟩
  | delete k own idle opening listens sockets addresses instances =>
    rw [instances, sockets, Function.update_of_ne (apart own).1]
    exact ⟨rfl, rfl⟩

/-- **A step elsewhere leaves the slice of a handle alone.** -/
theorem slice_other (distinct : Function.Injective svc.streamingProxyAddr)
    (confined : Confined svc s) {action : Action C Req} (next : Step svc s action t) {h : UInt64}
    (other : action.handle ≠ some h) : t.slice svc h = s.slice svc h := by
  obtain ⟨entry, socket⟩ := step_entry distinct confined next other
  have off : ∀ {k : UInt64}, k ≠ h → (some k == some h) = false := by simp
  cases next with
  | reject c opts text fresh invalid =>
    exact slice_elsewhere (c := c) rfl (by rw [fresh]; rfl) rfl entry socket fun _ _ => rfl
  | take c opts fresh valid =>
    exact slice_elsewhere (c := c) rfl (by rw [fresh]; rfl)
      (off fun same => other (congrArg some same)) entry socket fun _ _ => rfl
  | begin c k op fresh =>
    exact slice_elsewhere (c := c) rfl (by rw [fresh]; rfl)
      (off fun same => other (congrArg some same)) entry socket fun _ _ => rfl
  | advance c kind k outcome pc _ here next =>
    have different : k ≠ h := fun same => other (congrArg some same)
    obtain ⟨after, calls, _, _⟩ := advance_call (confined.formed.fits c _ here) next
    refine slice_elsewhere (c := c) calls (by rw [here]; exact off different) (off different) entry
      socket fun a start => ?_
    refine advance_bodies confined.formed confined.datastores next ?_ fun works => ?_
    · rintro rfl
      exact different ((startOf_iff here).mp start).2
    · exact different (startOf_unique (confined.working c kind k pc a here works) start)

/-! ### Steps on the handle -/

section Own

variable {h : UInt64} {c inst : C} {kind : Kind} {pc : Pc C Req Msg}

/-- A call on the handle that moves on after an operation. -/
theorem slice_moved {v : Slice C Req Msg} (operated : t.slice svc h = v) (calls : t.calls = s.calls)
    (here : s.calls c = some ⟨kind, some h, pc⟩) (after : Pc C Req Msg) :
    some (v.goto c kind h after) = some ((t.goto c kind h after).slice svc h) := by
  rw [slice_goto (starts_of_here (calls ▸ here)), operated]

/-- `cleanupObservability` touches neither the calls nor anything of the handle. -/
theorem slice_cleanupObservability (a : C) :
    (s.cleanupObservability a).slice svc h = s.slice svc h := by
  unfold State.cleanupObservability
  split <;> rfl

/-- A start that fails leaves its slice with the call returned. -/
theorem slice_failStart (here : s.calls c = some ⟨.start, some h, pc⟩) (text : String) :
    (s.failStart c h text).slice svc h =
      (s.slice svc h).goto c .start h (.returned (.error text)) := by
  exact Option.some.inj (slice_moved (slice_cleanupObservability c)
    (s.cleanupObservability_calls c) here _).symm

theorem slice_bindSocket (c : C) :
    ({ s with sockets := Function.update s.sockets (svc.streamingProxyAddr h) (some c) } :
      State C Req Msg).slice svc h = (s.slice svc h).setSocket (some c) := by
  apply Slice.ext
  · rfl
  · rfl
  · exact Function.update_self ..
  · rfl

variable (svc) in
/-- The fields of an instance and its connection, written together. -/
theorem slice_written (start : s.StartOf c h) {object : Instance C} {connOpen : Bool}
    (calls : t.calls = s.calls) (instances : t.instances = s.instances)
    (sockets : t.sockets = s.sockets) (histories : t.histories = s.histories)
    (objects : t.objects = Function.update s.objects c object)
    (conns : t.connOpen = Function.update s.connOpen c connOpen) :
    t.slice svc h = (s.slice svc h).setBody c ⟨object, connOpen, s.histories (.own c)⟩ := by
  have here : t.body c = ⟨object, connOpen, s.histories (.own c)⟩ := by
    simp [State.body, objects, conns, histories]
  rw [← here]
  refine slice_body svc start calls instances (by rw [sockets]) fun a other => ?_
  simp [State.body, objects, conns, histories, Function.update_of_ne other]

/-- Writing an instance as it is changes nothing. -/
theorem slice_setBody_self (start : s.StartOf c h) :
    (s.slice svc h).setBody c (s.body c) = s.slice svc h := by
  have unchanged := slice_body svc start rfl rfl rfl fun _ _ => (rfl : s.body _ = s.body _)
  exact unchanged.symm

/-- A stage of a private start. -/
theorem stage_slice (priv : Private s h) {opts : StartOptions}
    {stage : Stage} {left : List Stage}
    (here : s.calls c = some ⟨.start, some h, .building opts (stage :: left)⟩)
    (other : stage ≠ .proxy) (outcome : Except String Unit) :
    (s.slice svc h).advance svc c .start h outcome (.building opts (stage :: left)) =
      some ((s.runStage c h opts stage left outcome).slice svc h) := by
  have start : s.StartOf c h := (startOf_iff here).mpr ⟨rfl, rfl⟩
  obtain ⟨memory, noMetrics⟩ := priv.staged c opts (stage :: left) here
  have made : DatastoreRef.ofOpts c opts = .own c := if_pos memory
  simp only [Slice.advance, if_neg other]
  cases outcome with
  | error err => exact congrArg some (slice_failStart here _).symm
  | ok _ =>
    simp only [slice_start start, Option.bind_some]
    cases stage with
    | proxy => exact absurd rfl other
    | metrics => exact absurd List.mem_cons_self noMetrics
    | server => exact slice_moved rfl rfl here _
    | tracing => exact slice_moved rfl rfl here _
    | datastore =>
      have written := slice_written svc start (t := s.setObject c
        { s.objects c with datastore := .own c }) rfl rfl rfl rfl rfl
        (Function.update_eq_self c s.connOpen).symm
      simp only [State.runStage, Slice.stage, made]
      exact slice_moved written rfl here _
    | client =>
      have written := slice_written svc start
        (t := { s with connOpen := Function.update s.connOpen c true }.setObject c
          { s.objects c with clientConn := some c }) rfl rfl rfl rfl rfl rfl
      exact slice_moved written rfl here _

/-- `net.Listen` of a start. -/
theorem listen_slice (here : s.calls c = some ⟨.start, some h, .binding⟩)
    (outcome : Except String Unit) :
    (s.slice svc h).advance svc c .start h outcome .binding =
      some ((s.listen (svc.streamingProxyAddr h) c h outcome).slice svc h) := by
  have start : s.StartOf c h := (startOf_iff here).mpr ⟨rfl, rfl⟩
  have socket : (s.slice svc h).socket = s.sockets (svc.streamingProxyAddr h) := rfl
  cases outcome with
  | error err => exact congrArg some (slice_failStart here _).symm
  | ok _ =>
    cases bound : s.sockets (svc.streamingProxyAddr h) with
    | some other =>
      rw [bound] at socket
      simp only [Slice.advance, socket, State.listen, bound]
      exact congrArg some (slice_failStart here _).symm
    | none =>
      rw [bound] at socket
      simp only [Slice.advance, socket, slice_start start, Option.map_some, State.listen, bound]
      have written := slice_written svc (c := c) (h := h)
        (s := { s with sockets := Function.update s.sockets (svc.streamingProxyAddr h) (some c) })
        (t := { s with
          sockets := Function.update s.sockets (svc.streamingProxyAddr h) (some c) }.setObject c
            { s.objects c with streamingAddr := svc.streamingProxyAddr h }) start rfl rfl rfl rfl rfl
        (Function.update_eq_self c s.connOpen).symm
      rw [slice_bindSocket] at written
      exact slice_moved written rfl here _

/-- `clientConn.Close()` of a dispose. -/
theorem closeConn_slice (own : OwnConns s) (start : s.StartOf inst h) :
    (s.slice svc h).closeConn inst = some ((s.closeConn inst).slice svc h) := by
  simp only [Slice.closeConn, slice_start start, Option.map_some]
  unfold State.closeConn
  cases dialed : (s.objects inst).clientConn with
  | none => rw [if_pos (show (s.body inst).object.clientConn = none from dialed)]
  | some conn =>
    have absent : (s.body inst).object.clientConn ≠ none := fun none =>
      absurd (dialed.symm.trans none) (by simp)
    cases own inst conn dialed
    rw [if_neg absent]
    have written := slice_written svc start
      (t := { s with connOpen := Function.update s.connOpen inst false }) rfl rfl rfl rfl
      (Function.update_eq_self inst s.objects).symm rfl
    exact congrArg some written.symm

variable (svc) in
/-- A message on the connection of an instance with a datastore of its own. -/
theorem invoke_slice {Answer : Type} (closing : String)
    (answer : List Msg → Msg → Except String Answer) (start : s.StartOf inst h)
    (own : (s.objects inst).datastore = .own inst) (msg : Msg) :
    (s.invoke closing answer inst msg).1 = ((s.body inst).invoke closing answer msg).1 ∧
      (s.invoke closing answer inst msg).2.slice svc h =
        (s.slice svc h).setBody inst ((s.body inst).invoke closing answer msg).2 := by
  unfold State.invoke Body.invoke
  by_cases dialed : s.connOpen inst = true
  · have open_body : (s.body inst).connOpen = true := dialed
    let longer := Function.update s.histories (.own inst) (s.histories (.own inst) ++ [msg])
    have changed := slice_body svc start (t := { s with histories := longer }) rfl rfl rfl
    rw [if_pos dialed, if_pos open_body, own]
    refine ⟨rfl, ?_⟩
    rw [changed]
    · simp [State.body, longer]
    · intro a other
      have elsewhere : DatastoreRef.own a ≠ .own inst := fun same => other (DatastoreRef.own.inj same)
      simp [State.body, longer, Function.update_of_ne elsewhere]
  · have shut : ¬ (s.body inst).connOpen = true := dialed
    rw [if_neg dialed, if_neg shut]
    exact ⟨rfl, (slice_setBody_self start).symm⟩

/-- **An RPC past its lookup** is the request at the instance of its handle. -/
theorem callRPC_slice (formed : WellFormed s) (start : s.StartOf inst h)
    (own : (s.objects inst).datastore = .own inst) (c : C) (req : Req) :
    let asked := (s.body inst).ask svc svc.answer "instance not available for FFI RPCs" req
    (callRPC svc s c inst req).1 = respond svc asked.1 ∧
      (callRPC svc s c inst req).2.slice svc h = (s.slice svc h).setBody inst asked.2 := by
  have object : (s.body inst).object.clientConn = (s.objects inst).clientConn := rfl
  cases dialed : (s.objects inst).clientConn with
  | none =>
    rw [dialed] at object
    simp only [callRPC, Body.ask, dialed, object]
    exact ⟨rfl, (slice_setBody_self start).symm⟩
  | some conn =>
    rw [dialed] at object
    cases formed.own inst conn dialed
    cases decoded : svc.unmarshal req with
    | error err =>
      simp only [callRPC, Body.ask, dialed, object, decoded]
      exact ⟨rfl, (slice_setBody_self start).symm⟩
    | ok msg =>
      obtain ⟨answered, after⟩ := invoke_slice svc svc.closing svc.answer start own msg
      simp only [callRPC, Body.ask, dialed, object, decoded]
      exact ⟨congrArg (respond svc) answered, after⟩

/-- A streaming call at the proxy is the request at the instance that is bound there. -/
theorem callStream_slice (formed : WellFormed s) (start : s.StartOf inst h)
    (own : (s.objects inst).datastore = .own inst) (req : Req) :
    let asked := (s.body inst).ask svc svc.answerStream svc.closing req
    (callStream svc s inst req).1 = asked.1.map .messages ∧
      (callStream svc s inst req).2.slice svc h = (s.slice svc h).setBody inst asked.2 := by
  have object : (s.body inst).object.clientConn = (s.objects inst).clientConn := rfl
  cases dialed : (s.objects inst).clientConn with
  | none =>
    rw [dialed] at object
    simp only [callStream, Body.ask, dialed, object]
    exact ⟨rfl, (slice_setBody_self start).symm⟩
  | some conn =>
    rw [dialed] at object
    cases formed.own inst conn dialed
    cases decoded : svc.unmarshal req with
    | error err =>
      simp only [callStream, Body.ask, dialed, object, decoded]
      exact ⟨rfl, (slice_setBody_self start).symm⟩
    | ok msg =>
      obtain ⟨answered, after⟩ := invoke_slice svc svc.closing svc.answerStream start own msg
      simp only [callStream, Body.ask, dialed, object, decoded]
      exact ⟨congrArg (Except.map Response.messages) answered, after⟩

/-- **A step of a call on the handle is the step of its slice.** -/
theorem advance_slice (confined : Confined svc s) (priv : Private s h)
    (here : s.calls c = some ⟨kind, some h, pc⟩) {outcome : Except String Unit}
    (next : Advance svc s c kind h outcome pc t) :
    (s.slice svc h).advance svc c kind h outcome pc = some (t.slice svc h) := by
  have fit := confined.formed.fits c _ here
  have entry : (s.slice svc h).inst = s.instances h := rfl
  have socket : (s.slice svc h).socket = s.sockets (svc.streamingProxyAddr h) := rfl
  have works : ∀ {inst}, pc.inst = some inst → s.StartOf inst h :=
    confined.working c kind h pc _ here
  have address : ∀ inst, (role (s.calls c)).holds = some (h, inst) →
      (s.objects inst).streamingAddr = svc.streamingProxyAddr h := fun _ holds =>
    confined.addressed.address _ h (confined.addressed.held c h _ holds)
  cases next with
  | unlinked opts left =>
    simp only [Slice.advance, if_true]
    exact slice_moved (slice_unlink svc rfl) rfl here _
  | staged opts stage left other =>
    cases (fit : kind = .start)
    exact stage_slice priv here other outcome
  | listened =>
    cases (fit : kind = .start)
    exact listen_slice here outcome
  | locksToInsert unlocked => exact slice_moved rfl rfl here _
  | inserts =>
    cases (fit : kind = .start)
    have start : s.StartOf c h := (startOf_iff here).mpr ⟨rfl, rfl⟩
    simp only [Slice.advance, slice_start start, Option.map_some]
    exact slice_moved (slice_setInstance (s := s) (some c)) rfl here _
  | locksToDelete unlocked => exact slice_moved rfl rfl here _
  | misses absent =>
    simp only [Slice.advance, entry, absent]
    exact slice_moved rfl rfl here _
  | removes inst present =>
    simp only [Slice.advance, entry, present]
    exact slice_moved (slice_setInstance (s := s) none) rfl here _
  | closes inst =>
    simp only [Slice.advance, closeConn_slice confined.formed.own (works rfl), Option.map_some]
    exact slice_moved rfl (s.closeConn_calls inst) here _
  | stops inst =>
    cases (fit : kind = .dispose)
    exact slice_moved (slice_unlink svc (address inst (by rw [here]; rfl))) rfl here _
  | finishes inst =>
    cases (fit : kind = .dispose)
    have cleaned := slice_unlink svc (s := s.cleanupObservability inst)
      (address inst (by rw [here]; rfl))
    rw [slice_cleanupObservability] at cleaned
    exact slice_moved cleaned (s.cleanupObservability_calls inst) here _
  | locksToRead req readers shared => exact slice_moved rfl rfl here _
  | readMisses req readers shared absent =>
    simp only [Slice.advance, entry, absent]
    exact slice_moved rfl rfl here _
  | finds req readers shared inst present =>
    simp only [Slice.advance, entry, present]
    exact slice_moved rfl rfl here _
  | calls req inst =>
    obtain ⟨answered, after⟩ := callRPC_slice confined.formed (works rfl)
      (priv.own inst (works rfl)) c req
    simp only [Slice.advance, slice_start (works rfl), Option.map_some]
    rw [answered]
    exact slice_moved after (callRPC_spec svc s c inst req).1 here _
  | dialMisses req absent =>
    simp only [Slice.advance, socket, absent]
    exact slice_moved rfl rfl here _
  | dials req inst present =>
    simp only [Slice.advance, socket, present]
    exact slice_moved rfl rfl here _
  | streams req inst =>
    obtain ⟨answered, after⟩ := callStream_slice confined.formed (works rfl)
      (priv.own inst (works rfl)) req
    simp only [Slice.advance, slice_start (works rfl), Option.map_some]
    rw [answered]
    exact slice_moved after (callStream_spec svc s inst req).2.1 here _

end Own

/-- **A step on the handle is a step of its slice.** -/
theorem step_slice {h : UInt64} {action : Action C Req} (confined : Confined svc s)
    (priv : Private s h) (own : action.handle = some h) (next : Step svc s action t) :
    (s.slice svc h).step svc action = some (t.slice svc h) := by
  cases next with
  | reject => cases own
  | take c opts fresh valid =>
    cases own
    refine congrArg some ?_
    symm
    apply Slice.ext
    · funext d
      by_cases here : d = c
      · subst here
        simp [State.slice, State.goto, Slice.goto, Call.on]
      · simp [State.slice, State.goto, Slice.goto, Slice.setBody, Function.update_of_ne here]
    · rfl
    · rfl
    · funext d
      by_cases here : d = c
      · subst here
        rw [Slice.goto_bodies, Slice.setBody_self, ← confined.fresh d fresh]
        exact slice_start (by simp [State.StartOf, Call.starts])
      · rw [Slice.goto_bodies, Slice.setBody_of_ne _ here]
        simp only [State.slice, State.goto, Function.update_of_ne here]
        rfl
  | begin c k op fresh =>
    cases own
    refine congrArg some (slice_goto ?_ _).symm
    rw [fresh]
    cases op with
    | dispose => rfl
    | stream req => rfl
    | rpc req =>
      simp only [Op.begin]
      split <;> rfl
  | advance c kind k outcome pc _ here next =>
    cases own
    have there : (s.slice svc h).calls c = some ⟨kind, some h, pc⟩ := by
      simp [State.slice, here, Call.on]
    simp only [Slice.step, there, Option.bind_some]
    exact advance_slice confined priv here next

/-! ### Two histories -/

/-- What a run keeps of a private handle. -/
theorem isolated_step (distinct : Function.Injective svc.streamingProxyAddr) {h : UInt64}
    {action : Action C Req} (asks : AsksPrivate h action)
    (inv : Confined svc s ∧ Private s h) (taken : step svc s action = some t) :
    Confined svc t ∧ Private t h :=
  ⟨confined_step distinct inv.1 (step_sound taken),
    private_step inv.1 inv.2 asks (step_sound taken)⟩

/-- **Instances are isolated.** Take a handle whose starts ask for an in-memory datastore and no
metrics, and two runs that take the same steps on it, while everything else may differ. Then every
call on the handle is at the same place in both, in particular it has returned the same result or
error; and in both the registry lock can be freed by the calls that hold it, so none of the others
can keep a call on the handle waiting. -/
theorem instances_isolated (base : Service Req Msg) (tempDir : String) (pid : Nat) {h : UInt64}
    {actions others : List (Action C Req)} {s t : State C Req Msg}
    (run : exec (step (unixService base tempDir pid)) .init actions = some s)
    (other : exec (step (unixService base tempDir pid)) .init others = some t)
    (same : actions.filter (fun action => action.handle == some h) =
      others.filter fun action => action.handle == some h)
    (asks : ∀ c opts, .take c opts h ∈ actions →
      opts.engine = memoryEngine ∧ opts.metricsEnabled = false) :
    (∀ c kind pc, s.calls c = some ⟨kind, some h, pc⟩ ↔ t.calls c = some ⟨kind, some h, pc⟩) ∧
      s.Frees (unixService base tempDir pid) ∧ t.Frees (unixService base tempDir pid) := by
  have distinct := unixService_distinct base tempDir pid
  have asksOthers : ∀ c opts, .take c opts h ∈ others →
      opts.engine = memoryEngine ∧ opts.metricsEnabled = false := by
    intro c opts inside
    have kept : .take c opts h ∈ others.filter (fun action => action.handle == some h) :=
      List.mem_filter.mpr ⟨inside, beq_self_eq_true (some h)⟩
    rw [← same] at kept
    exact asks c opts (List.mem_filter.mp kept).1
  have admits : ∀ {run : List (Action C Req)}, (∀ c opts, .take c opts h ∈ run →
      opts.engine = memoryEngine ∧ opts.metricsEnabled = false) →
        ∀ action ∈ run, AsksPrivate h action := fun asks action inside c opts same =>
    asks c opts (same ▸ inside)
  have slices : s.slice (unixService base tempDir pid) h = t.slice (unixService base tempDir pid) h :=
    @views_agree _ _ _ _ (fun v action => v.step (unixService base tempDir pid) action) _ _
      (AsksPrivate h) (fun s => Confined (unixService base tempDir pid) s ∧ Private s h)
      (fun _ _ _ asks inv taken => isolated_step distinct asks inv taken)
      (fun _ _ _ inv elsewhere taken => slice_other distinct inv.1 (step_sound taken)
        fun own => absurd (beq_iff_eq.mpr own) (by rw [elsewhere]; decide))
      (fun _ _ _ _ inv seen taken => step_slice inv.1 inv.2 (beq_iff_eq.mp seen) (step_sound taken))
      _ _ _ _ _ ⟨init_confined _, init_private h⟩ (admits asks) (admits asksOthers) same run other
  refine ⟨fun c kind pc => ?_, lock_freed run, lock_freed other⟩
  have calls : (s.calls c).filter (Call.on h) = (t.calls c).filter (Call.on h) :=
    congrArg (fun v : Slice C Req Msg => v.calls c) slices
  have on : Call.on h (⟨kind, some h, pc⟩ : Call C Req Msg) = true := beq_self_eq_true (some h)
  constructor
  · intro here
    rw [here, Option.filter_some_pos on] at calls
    exact (Option.filter_eq_some_iff.mp calls.symm).1
  · intro here
    rw [here, Option.filter_some_pos on] at calls
    exact (Option.filter_eq_some_iff.mp calls).1

/-- A start and an RPC on the handle 2, after another start that succeeds. -/
def besideInstance : List (Action Nat Nat) :=
  [.take 10 {} 1] ++ Action.advances 10 1 7
    ++ [.take 0 {} 2] ++ Action.advances 0 2 7
    ++ [.begin 1 2 (.rpc 5)] ++ Action.advances 1 2 3

/-- The same start and RPC, among a start that fails, a dispose of its handle and an RPC that never
returns. -/
def besideFailure : List (Action Nat Nat) :=
  [.take 20 {} 1, .advance 20 1 (.error "no space left on device")]
    ++ [.take 0 {} 2, .begin 21 1 .dispose] ++ Action.advances 0 2 5
    ++ Action.advances 21 1 2 ++ Action.advances 0 2 2
    ++ [.begin 22 1 (.rpc 7)] ++ Action.advances 22 1 1
    ++ [.begin 1 2 (.rpc 5)] ++ Action.advances 1 2 3

theorem instances_isolated_beside :
    ∃ s t, exec (step (unixService countingService "/tmp" 42)) .init besideInstance = some s ∧
      exec (step (unixService countingService "/tmp" 42)) .init besideFailure = some t ∧
      (∀ c kind pc, s.calls c = some ⟨kind, some 2, pc⟩ ↔ t.calls c = some ⟨kind, some 2, pc⟩) ∧
        s.Frees (unixService countingService "/tmp" 42) ∧
        t.Frees (unixService countingService "/tmp" 42) := by
  have enabled : (exec (step (unixService countingService "/tmp" 42)) .init
      besideInstance).isSome = true := by decide
  have enabledOther : (exec (step (unixService countingService "/tmp" 42)) .init
      besideFailure).isSome = true := by decide
  obtain ⟨s, run⟩ := Option.isSome_iff_exists.mp enabled
  obtain ⟨t, other⟩ := Option.isSome_iff_exists.mp enabledOther
  refine ⟨s, t, run, other, instances_isolated countingService "/tmp" 42 run other rfl ?_⟩
  intro c opts inside
  have asked : opts = {} := by
    simp [besideInstance, Action.advances] at inside
    exact inside.2
  rw [asked]
  decide

end SpicedbEmbedded.Shared
