/-
**The streaming sockets of one loaded copy.**

On Unix a start listens at `streamingProxyAddr`, a path in the temp directory made of the process id
and the handle. (Where there are abstract sockets, a temp directory that begins with `@` makes it the
name of one, as `Clients.Dial` has it: it leaves no file, and removing one does nothing. The sockets here
are those with a file.)

* **`streamingProxyAddr_inj`** — in one temp directory the path determines the process and the handle.
* `State.Live s c h` — the start `c` has its listener on behalf of the handle `h` and no dispose has
  taken it out of the registry yet.
* `Addressed` is the invariant that every such instance carries the address of its handle;
  `addressed_step` keeps it.
* `step_sockets` inverts the step function for the sockets: a step binds the path of its handle,
  removes the file at the path of its handle, or leaves the sockets alone.
-/

import Mathlib.Logic.Function.Basic
import SpicedbEmbedded.Shared.Registry
import SpicedbEmbedded.Text.Path

set_option linter.unusedSectionVars false

namespace SpicedbEmbedded.Shared

open Text

/-! ### The address of a handle -/

/-- The name of the socket file. -/
def socketName (pid id : Nat) : String :=
  "spicedb-streaming-" ++ toString pid ++ "-" ++ toString id ++ ".sock"

/-- `streamingProxyAddr` on Unix, for `os.TempDir()` and `os.Getpid()`. -/
def streamingProxyAddr (tempDir : String) (pid : Nat) (id : UInt64) : String :=
  String.ofList (join tempDir.toList (socketName pid id.toNat).toList)

theorem socketName_toList (pid id : Nat) :
    (socketName pid id).toList = "spicedb-streaming-".toList ++
      (Nat.toDigits 10 pid ++ '-' :: (Nat.toDigits 10 id ++ ".sock".toList)) := by
  have hyphen : "-".toList = ['-'] := by decide
  unfold socketName
  rw [String.toList_append, String.toList_append, String.toList_append, String.toList_append,
    toList_toString, toList_toString, hyphen, List.append_assoc, List.append_assoc,
    List.append_assoc, List.singleton_append]

theorem socketName_plain (pid id : Nat) : Plain (socketName pid id).toList := by
  have slash : ∀ k, '/' ∉ Nat.toDigits 10 k := not_mem_toDigits (by decide)
  have front : '/' ∉ "spicedb-streaming-".toList := by decide
  have back : '/' ∉ ".sock".toList := by decide
  have first : ∃ rest, (socketName pid id).toList = 's' :: rest := by
    rw [socketName_toList]
    exact ⟨_, rfl⟩
  obtain ⟨rest, starts⟩ := first
  refine ⟨?_, ?_, ?_, ?_⟩
  · rw [starts]; exact List.cons_ne_nil _ _
  · rw [starts]; exact fun same => absurd (List.cons.inj same).1 (by decide)
  · rw [starts]; exact fun same => absurd (List.cons.inj same).1 (by decide)
  · rw [socketName_toList]
    simp only [List.mem_append, List.mem_cons, not_or]
    exact ⟨front, slash pid, by decide, slash id, back⟩

/-- **The path determines the process and the handle.** -/
theorem streamingProxyAddr_inj {tempDir : String} {pid pid' : Nat} {id id' : UInt64}
    (same : streamingProxyAddr tempDir pid id = streamingProxyAddr tempDir pid' id') :
    pid = pid' ∧ id = id' := by
  have paths := String.ofList_injective same
  have names := join_plain_inj _ (socketName_plain pid id.toNat) (socketName_plain pid' id'.toNat)
    paths
  rw [socketName_toList, socketName_toList] at names
  obtain ⟨pids, ids⟩ := numbered_inj _ _ names
  exact ⟨pids, UInt64.toNat_inj.mp ids⟩

variable {C Req Msg : Type}

/-- The service of a copy of the library in a process on Unix. -/
def unixService (base : Service Req Msg) (tempDir : String) (pid : Nat) : Service Req Msg :=
  { base with streamingProxyAddr := streamingProxyAddr tempDir pid }

theorem unixService_distinct (base : Service Req Msg) (tempDir : String) (pid : Nat) :
    Function.Injective (unixService base tempDir pid).streamingProxyAddr :=
  fun _ _ same => (streamingProxyAddr_inj same).2

/-! ### Instances with a listener -/

/-- The handle of a start that has its listener. -/
def Call.listens : Call C Req Msg → Option UInt64
  | ⟨.start, handle, .built⟩ => handle
  | ⟨.start, handle, .inserting⟩ => handle
  | ⟨.start, handle, .returned (.ok _)⟩ => handle
  | _ => none

/-- The handle of a start that has its listener and is not in the registry yet. -/
def Call.opening : Call C Req Msg → Option UInt64
  | ⟨.start, handle, .built⟩ => handle
  | ⟨.start, handle, .inserting⟩ => handle
  | _ => none

/-- The places where a call removes the socket file of its handle. -/
def Pc.removes : Pc C Req Msg → Bool
  | .building _ (.proxy :: _) => true
  | .closed _ => true
  | .stopped _ => true
  | _ => false

namespace State

variable (s : State C Req Msg)

/-- The handle whose socket file the action removes. -/
def removes : Action C Req → Option UInt64
  | .advance c h _ => (s.calls c).bind fun call => if call.pc.removes then some h else none
  | _ => none

/-- The start has its listener on behalf of the handle. -/
def Listens (c : C) (h : UInt64) : Prop := (s.calls c).bind Call.listens = some h

/-- The instance of the start is live: it has its listener, and no dispose has taken it out. -/
def Live (c : C) (h : UInt64) : Prop :=
  (s.calls c).bind Call.opening = some h ∨ s.instances h = some c

end State

theorem Call.listens_of_opening {call : Call C Req Msg} {h : UInt64} (open_now : call.opening = some h) :
    call.listens = some h := by
  unfold Call.opening at open_now
  split at open_now
  · exact open_now
  · exact open_now
  · cases open_now

variable [DecidableEq C]

/-- **Every instance with a listener carries the address of its handle**, the ones in the registry
and the ones calls work with have listeners. -/
structure Addressed (svc : Service Req Msg) (s : State C Req Msg) : Prop where
  address : ∀ c h, s.Listens c h → (s.objects c).streamingAddr = svc.streamingProxyAddr h
  inserted : ∀ c h, s.instances h = some c → s.Listens c h
  held : ∀ c h inst, (role (s.calls c)).holds = some (h, inst) → s.Listens inst h

theorem init_addressed (svc : Service Req Msg) : Addressed svc (State.init : State C Req Msg) where
  address c h known := by cases known
  inserted c h known := by cases known
  held c h inst known := by cases known

/-- A live instance carries the address of its handle. -/
theorem Addressed.live {svc : Service Req Msg} {s : State C Req Msg} (addressed : Addressed svc s)
    {c : C} {h : UInt64} (live : s.Live c h) :
    (s.objects c).streamingAddr = svc.streamingProxyAddr h := by
  rcases live with opening | inserted
  · obtain ⟨call, here, open_now⟩ := Option.bind_eq_some_iff.mp opening
    exact addressed.address c h
      (Option.bind_eq_some_iff.mpr ⟨call, here, Call.listens_of_opening open_now⟩)
  · exact addressed.address c h (addressed.inserted c h inserted)

/-! ### What leaves the sockets alone -/

/-- The sockets, the addresses and the registry are the same. -/
structure SameSockets (s t : State C Req Msg) : Prop where
  sockets : t.sockets = s.sockets
  addresses : ∀ a, (t.objects a).streamingAddr = (s.objects a).streamingAddr
  instances : t.instances = s.instances

namespace State

variable (s : State C Req Msg)

theorem cleanupObservability_sockets (inst : C) : SameSockets s (s.cleanupObservability inst) := by
  unfold cleanupObservability
  split <;> exact ⟨rfl, fun _ => rfl, rfl⟩

theorem closeConn_sockets (inst : C) : SameSockets s (s.closeConn inst) := by
  unfold closeConn
  split <;> exact ⟨rfl, fun _ => rfl, rfl⟩

theorem failStart_sockets (c : C) (h : UInt64) (text : String) :
    SameSockets s (s.failStart c h text) := by
  obtain ⟨sockets, addresses, instances⟩ := s.cleanupObservability_sockets c
  exact ⟨sockets, addresses, instances⟩

/-- Writing the fields of an instance other than its address. -/
theorem setObject_sockets {t : State C Req Msg} {c : C} {object : Instance C}
    (sockets : t.sockets = s.sockets) (instances : t.instances = s.instances)
    (objects : t.objects = Function.update s.objects c object)
    (kept : object.streamingAddr = (s.objects c).streamingAddr) : SameSockets s t := by
  refine ⟨sockets, fun a => ?_, instances⟩
  rw [objects]
  by_cases same : a = c
  · subst same
    rw [Function.update_self, kept]
  · rw [Function.update_of_ne same]

theorem runStage_sockets (c : C) (h : UInt64) (opts : StartOptions) (stage : Stage)
    (left : List Stage) (outcome : Except String Unit) :
    SameSockets s (s.runStage c h opts stage left outcome) := by
  cases outcome with
  | error err => exact s.failStart_sockets c h _
  | ok _ =>
    cases stage with
    | datastore => exact s.setObject_sockets rfl rfl rfl rfl
    | client => exact s.setObject_sockets rfl rfl rfl rfl
    | metrics =>
      simp only [runStage]
      split
      · exact s.failStart_sockets c h _
      · exact s.setObject_sockets rfl rfl rfl rfl
    | server => exact ⟨rfl, fun _ => rfl, rfl⟩
    | tracing => exact ⟨rfl, fun _ => rfl, rfl⟩
    | proxy => exact ⟨rfl, fun _ => rfl, rfl⟩

theorem invoke_sockets {Answer : Type} (closing : String)
    (answer : List Msg → Msg → Except String Answer) (conn : C) (msg : Msg) :
    SameSockets s (s.invoke closing answer conn msg).2 := by
  unfold invoke
  split <;> exact ⟨rfl, fun _ => rfl, rfl⟩

end State

theorem callRPC_sockets (svc : Service Req Msg) (s : State C Req Msg) (c inst : C) (req : Req) :
    SameSockets s (callRPC svc s c inst req).2 := by
  unfold callRPC
  split
  · exact ⟨rfl, fun _ => rfl, rfl⟩
  · split
    · exact ⟨rfl, fun _ => rfl, rfl⟩
    · rename_i conn _ _ msg _
      obtain ⟨sockets, addresses, instances⟩ := s.invoke_sockets svc.closing svc.answer conn msg
      exact ⟨sockets, addresses, instances⟩

theorem callStream_sockets (svc : Service Req Msg) (s : State C Req Msg) (inst : C) (req : Req) :
    SameSockets s (callStream svc s inst req).2 := by
  unfold callStream
  split
  · exact ⟨rfl, fun _ => rfl, rfl⟩
  · split
    · exact ⟨rfl, fun _ => rfl, rfl⟩
    · exact s.invoke_sockets svc.closing svc.answerStream _ _

/-! ### What a step does to the sockets -/

/-- What one step, which leaves its call at `new`, does to the sockets, the addresses and the
registry. -/
inductive SocketStep (svc : Service Req Msg) (s t : State C Req Msg) (action : Action C Req)
    (new : Call C Req Msg) : Prop
  | quiet (idle : s.removes action = none)
      (opening : new.opening = (s.calls action.call).bind Call.opening)
      (listens : new.listens = (s.calls action.call).bind Call.listens) (frame : SameSockets s t)
  | remove (h : UInt64) (own : action.handle = some h) (removing : s.removes action = some h)
      (opening : new.opening = (s.calls action.call).bind Call.opening)
      (listens : new.listens = (s.calls action.call).bind Call.listens)
      (sockets : t.sockets = Function.update s.sockets (svc.streamingProxyAddr h) none)
      (addresses : ∀ a, (t.objects a).streamingAddr = (s.objects a).streamingAddr)
      (instances : t.instances = s.instances)
  | bind (h : UInt64) (own : action.handle = some h) (idle : s.removes action = none)
      (shut : (s.calls action.call).bind Call.listens = none) (opening : new.opening = some h)
      (free : s.sockets (svc.streamingProxyAddr h) = none)
      (sockets : t.sockets =
        Function.update s.sockets (svc.streamingProxyAddr h) (some action.call))
      (address : (t.objects action.call).streamingAddr = svc.streamingProxyAddr h)
      (addresses : ∀ a, a ≠ action.call →
        (t.objects a).streamingAddr = (s.objects a).streamingAddr)
      (instances : t.instances = s.instances)
  | insert (h : UInt64) (own : action.handle = some h) (idle : s.removes action = none)
      (before : (s.calls action.call).bind Call.opening = some h) (opening : new.opening = none)
      (listens : new.listens = some h) (sockets : t.sockets = s.sockets)
      (addresses : ∀ a, (t.objects a).streamingAddr = (s.objects a).streamingAddr)
      (instances : t.instances = Function.update s.instances h (some action.call))
  | delete (h : UInt64) (own : action.handle = some h) (idle : s.removes action = none)
      (opening : new.opening = (s.calls action.call).bind Call.opening)
      (listens : new.listens = (s.calls action.call).bind Call.listens)
      (sockets : t.sockets = s.sockets)
      (addresses : ∀ a, (t.objects a).streamingAddr = (s.objects a).streamingAddr)
      (instances : t.instances = Function.update s.instances h none)

variable {svc : Service Req Msg}

section Here

variable {s : State C Req Msg} {c : C} {kind : Kind} {h : UInt64} {pc : Pc C Req Msg}
  (here : s.calls c = some ⟨kind, some h, pc⟩)

include here

theorem removes_of_here (outcome : Except String Unit) :
    s.removes (.advance c h outcome) = if pc.removes then some h else none := by
  simp [State.removes, here]

theorem opening_of_here :
    (s.calls c).bind Call.opening = (⟨kind, some h, pc⟩ : Call C Req Msg).opening := by
  rw [here]; rfl

theorem listens_of_here :
    (s.calls c).bind Call.listens = (⟨kind, some h, pc⟩ : Call C Req Msg).listens := by
  rw [here]; rfl

end Here

/-- A start that listens binds its socket, or fails and leaves the sockets as they were. -/
theorem listen_socketStep {s : State C Req Msg} {c : C} {h : UInt64}
    (here : s.calls c = some ⟨.start, some h, .binding⟩) (outcome : Except String Unit) :
    ∃ new, (s.listen (svc.streamingProxyAddr h) c h outcome).calls =
        Function.update s.calls c (some new) ∧
      SocketStep svc s (s.listen (svc.streamingProxyAddr h) c h outcome) (.advance c h outcome) new := by
  have removes := removes_of_here here outcome
  have opening := opening_of_here here
  have listens := listens_of_here here
  cases outcome with
  | error err =>
    exact ⟨_, s.failStart_calls c h _, .quiet removes opening.symm listens.symm
      (s.failStart_sockets c h _)⟩
  | ok _ =>
    cases bound : s.sockets (svc.streamingProxyAddr h) with
    | some other =>
      simp only [State.listen, bound]
      exact ⟨_, s.failStart_calls c h _, .quiet removes opening.symm listens.symm
        (s.failStart_sockets c h _)⟩
    | none =>
      simp only [State.listen, bound]
      refine ⟨⟨.start, some h, .built⟩, rfl, .bind h rfl removes listens rfl bound rfl ?_ ?_ rfl⟩
      · show (Function.update s.objects c _ c).streamingAddr = _
        rw [Function.update_self]
      · intro a other
        show (Function.update s.objects c _ a).streamingAddr = _
        rw [Function.update_of_ne (show a ≠ c from other)]

/-- The step of a call that has begun. -/
theorem advance_sockets {s t : State C Req Msg} {c : C} {kind : Kind} {h : UInt64}
    {pc : Pc C Req Msg} {outcome : Except String Unit} (formed : WellFormed s)
    (addressed : Addressed svc s) (here : s.calls c = some ⟨kind, some h, pc⟩)
    (next : Advance svc s c kind h outcome pc t) :
    ∃ new, t.calls = Function.update s.calls c (some new) ∧
      SocketStep svc s t (.advance c h outcome) new := by
  have fit := formed.fits c _ here
  have removes := removes_of_here here outcome
  have opening := opening_of_here here
  have listens := listens_of_here here
  cases next with
  | unlinked opts left =>
    cases (fit : kind = .start)
    exact ⟨_, rfl, .remove h rfl removes opening.symm listens.symm rfl (fun _ => rfl) rfl⟩
  | staged opts stage left other =>
    cases (fit : kind = .start)
    have idle : s.removes (.advance c h outcome) = none := by
      rw [removes]
      cases stage with
      | proxy => exact absurd rfl other
      | _ => rfl
    obtain ⟨_, next, places, calls⟩ := s.runStage_spec c h opts stage left outcome
    have frame := s.runStage_sockets c h opts stage left outcome
    rcases places with rfl | ⟨text, rfl⟩
    · exact ⟨_, calls, .quiet idle opening.symm listens.symm frame⟩
    · exact ⟨_, calls, .quiet idle opening.symm listens.symm frame⟩
  | listened =>
    cases (fit : kind = .start)
    exact listen_socketStep here outcome
  | locksToInsert unlocked =>
    cases (fit : kind = .start)
    exact ⟨_, rfl, .quiet removes opening.symm listens.symm ⟨rfl, fun _ => rfl, rfl⟩⟩
  | inserts =>
    cases (fit : kind = .start)
    exact ⟨_, rfl, .insert h rfl removes opening rfl rfl rfl (fun _ => rfl) rfl⟩
  | locksToDelete unlocked =>
    cases (fit : kind = .dispose)
    exact ⟨_, rfl, .quiet removes opening.symm listens.symm ⟨rfl, fun _ => rfl, rfl⟩⟩
  | misses absent =>
    cases (fit : kind = .dispose)
    exact ⟨_, rfl, .quiet removes opening.symm listens.symm ⟨rfl, fun _ => rfl, rfl⟩⟩
  | removes inst present =>
    cases (fit : kind = .dispose)
    exact ⟨_, rfl, .delete h rfl removes opening.symm listens.symm rfl (fun _ => rfl) rfl⟩
  | closes inst =>
    cases (fit : kind = .dispose)
    obtain ⟨sockets, addresses, instances⟩ := s.closeConn_sockets inst
    exact ⟨⟨.dispose, some h, .closed inst⟩, by simp [State.record],
      .quiet removes opening.symm listens.symm ⟨sockets, addresses, instances⟩⟩
  | stops inst =>
    cases (fit : kind = .dispose)
    have address := addressed.address inst h (addressed.held c h inst (by rw [here]; rfl))
    exact ⟨_, rfl, .remove h rfl removes opening.symm listens.symm
      (congrArg (Function.update s.sockets · none) address) (fun _ => rfl) rfl⟩
  | finishes inst =>
    cases (fit : kind = .dispose)
    have address := addressed.address inst h (addressed.held c h inst (by rw [here]; rfl))
    obtain ⟨sockets, addresses, instances⟩ := s.cleanupObservability_sockets inst
    refine ⟨⟨.dispose, some h, .returned (.ok .disposed)⟩, by simp [State.record, State.unlink],
      .remove h rfl removes opening.symm listens.symm ?_ addresses instances⟩
    show Function.update (s.cleanupObservability inst).sockets (s.objects inst).streamingAddr none = _
    rw [sockets, address]
  | locksToRead req readers shared =>
    cases (fit : kind = .rpc)
    exact ⟨_, rfl, .quiet removes opening.symm listens.symm ⟨rfl, fun _ => rfl, rfl⟩⟩
  | readMisses req readers shared absent =>
    cases (fit : kind = .rpc)
    exact ⟨_, rfl, .quiet removes opening.symm listens.symm ⟨rfl, fun _ => rfl, rfl⟩⟩
  | finds req readers shared inst present =>
    cases (fit : kind = .rpc)
    exact ⟨_, rfl, .quiet removes opening.symm listens.symm ⟨rfl, fun _ => rfl, rfl⟩⟩
  | calls req inst =>
    cases (fit : kind = .rpc)
    obtain ⟨sockets, addresses, instances⟩ := callRPC_sockets svc s c inst req
    exact ⟨_, congrArg (Function.update · c _) (callRPC_spec svc s c inst req).1,
      .quiet removes opening.symm listens.symm ⟨sockets, addresses, instances⟩⟩
  | dialMisses req absent =>
    cases (fit : kind = .stream)
    exact ⟨_, rfl, .quiet removes opening.symm listens.symm ⟨rfl, fun _ => rfl, rfl⟩⟩
  | dials req inst present =>
    cases (fit : kind = .stream)
    exact ⟨_, rfl, .quiet removes opening.symm listens.symm ⟨rfl, fun _ => rfl, rfl⟩⟩
  | streams req inst =>
    cases (fit : kind = .stream)
    obtain ⟨sockets, addresses, instances⟩ := callStream_sockets svc s inst req
    exact ⟨_, congrArg (Function.update · c _) (callStream_spec svc s inst req).2.1,
      .quiet removes opening.symm listens.symm ⟨sockets, addresses, instances⟩⟩

/-- **What a step does to the sockets.** -/
theorem step_sockets {s t : State C Req Msg} {action : Action C Req} (formed : WellFormed s)
    (addressed : Addressed svc s) (next : Step svc s action t) :
    ∃ new, t.calls = Function.update s.calls action.call (some new) ∧
      SocketStep svc s t action new := by
  cases next with
  | reject c opts text fresh invalid =>
    refine ⟨_, rfl, .quiet rfl ?_ ?_ ⟨rfl, fun _ => rfl, rfl⟩⟩ <;> rw [Action.call, fresh] <;> rfl
  | take c opts fresh valid =>
    refine ⟨_, rfl, .quiet rfl ?_ ?_ ⟨rfl, fun _ => rfl, rfl⟩⟩ <;> rw [Action.call, fresh] <;> rfl
  | begin c h op fresh =>
    have opening : (s.calls c).bind Call.opening = none := by rw [fresh]; rfl
    have listens : (s.calls c).bind Call.listens = none := by rw [fresh]; rfl
    cases op with
    | dispose => exact ⟨_, rfl, .quiet rfl opening.symm listens.symm ⟨rfl, fun _ => rfl, rfl⟩⟩
    | stream req => exact ⟨_, rfl, .quiet rfl opening.symm listens.symm ⟨rfl, fun _ => rfl, rfl⟩⟩
    | rpc req =>
      simp only [Op.begin]
      split
      · exact ⟨_, rfl, .quiet rfl opening.symm listens.symm ⟨rfl, fun _ => rfl, rfl⟩⟩
      · exact ⟨_, rfl, .quiet rfl opening.symm listens.symm ⟨rfl, fun _ => rfl, rfl⟩⟩
  | advance c kind h outcome pc t here next => exact advance_sockets formed addressed here next

/-! ### Listeners and live instances after a step -/

section After

variable {s t : State C Req Msg} {action : Action C Req} {new : Call C Req Msg}

/-- A part of the calls that the step of one call leaves alone. -/
theorem call_kept {A : Type} (calls : t.calls = Function.update s.calls action.call (some new))
    (part : Call C Req Msg → Option A) (same : part new = (s.calls action.call).bind part) (d : C) :
    (t.calls d).bind part = (s.calls d).bind part := by
  rw [calls]
  by_cases here : d = action.call
  · subst here
    rw [Function.update_self]
    exact same
  · rw [Function.update_of_ne here]

theorem live_same (calls : t.calls = Function.update s.calls action.call (some new))
    (opening : new.opening = (s.calls action.call).bind Call.opening)
    (instances : t.instances = s.instances) (c : C) (h : UInt64) : t.Live c h ↔ s.Live c h := by
  unfold State.Live
  rw [call_kept calls Call.opening opening, instances]

/-- Only a start that binds its socket makes an instance live. -/
theorem live_before (calls : t.calls = Function.update s.calls action.call (some new))
    (change : SocketStep svc s t action new) {c : C} {h : UInt64} (live : t.Live c h) :
    s.Live c h ∨ c = action.call ∧ new.opening = some h ∧
      (s.calls action.call).bind Call.listens = none := by
  cases change with
  | quiet idle opening listens frame =>
    exact Or.inl ((live_same calls opening frame.instances c h).mp live)
  | remove k own removing opening listens sockets addresses instances =>
    exact Or.inl ((live_same calls opening instances c h).mp live)
  | bind k own idle shut opening free sockets address addresses instances =>
    rcases live with opened | inserted
    · by_cases here : c = action.call
      · subst here
        rw [calls, Function.update_self] at opened
        exact Or.inr ⟨rfl, opened, shut⟩
      · rw [calls, Function.update_of_ne here] at opened
        exact Or.inl (Or.inl opened)
    · exact Or.inl (Or.inr (instances ▸ inserted))
  | insert k own idle before opening listens sockets addresses instances =>
    refine Or.inl ?_
    rcases live with opened | inserted
    · by_cases here : c = action.call
      · subst here
        rw [calls, Function.update_self] at opened
        exact absurd (opening.symm.trans opened) (by simp)
      · rw [calls, Function.update_of_ne here] at opened
        exact Or.inl opened
    · rw [instances, Function.update_apply] at inserted
      split at inserted
      · rename_i same
        cases inserted
        exact Or.inl (same ▸ before)
      · exact Or.inr inserted
  | delete k own idle opening listens sockets addresses instances =>
    refine Or.inl ?_
    rcases live with opened | inserted
    · rw [call_kept calls Call.opening opening] at opened
      exact Or.inl opened
    · rw [instances, Function.update_apply] at inserted
      split at inserted
      · cases inserted
      · exact Or.inr inserted

/-- A listener stays with its start. -/
theorem listens_step (calls : t.calls = Function.update s.calls action.call (some new))
    (change : SocketStep svc s t action new) {c : C} {h : UInt64} (listens : s.Listens c h) :
    t.Listens c h := by
  have same : new.listens = (s.calls action.call).bind Call.listens → t.Listens c h := fun kept => by
    rw [State.Listens, call_kept calls Call.listens kept c]
    exact listens
  cases change with
  | quiet idle opening kept frame => exact same kept
  | remove k own removing opening kept => exact same kept
  | delete k own idle opening kept => exact same kept
  | insert k own idle before opening kept =>
    obtain ⟨call, here, open_now⟩ := Option.bind_eq_some_iff.mp before
    refine same ?_
    rw [kept, here]
    exact (Call.listens_of_opening open_now).symm
  | bind k own idle shut =>
    have other : c ≠ action.call := fun here => by
      rw [State.Listens, here, shut] at listens
      cases listens
    rw [State.Listens, calls, Function.update_of_ne other]
    exact listens

/-- A listener that is not new was there before. -/
theorem listens_before (calls : t.calls = Function.update s.calls action.call (some new))
    (change : SocketStep svc s t action new) {c : C} {h : UInt64} (listens : t.Listens c h) :
    s.Listens c h ∧ (t.objects c).streamingAddr = (s.objects c).streamingAddr ∨
      c = action.call ∧ new.opening = some h ∧
        (t.objects c).streamingAddr = svc.streamingProxyAddr h := by
  have same : new.listens = (s.calls action.call).bind Call.listens → s.Listens c h := fun kept => by
    rw [State.Listens, call_kept calls Call.listens kept c] at listens
    exact listens
  cases change with
  | quiet idle opening kept frame => exact Or.inl ⟨same kept, frame.addresses c⟩
  | remove k own removing opening kept sockets addresses => exact Or.inl ⟨same kept, addresses c⟩
  | delete k own idle opening kept sockets addresses => exact Or.inl ⟨same kept, addresses c⟩
  | insert k own idle before opening kept sockets addresses =>
    obtain ⟨call, here, open_now⟩ := Option.bind_eq_some_iff.mp before
    refine Or.inl ⟨same ?_, addresses c⟩
    rw [kept, here]
    exact (Call.listens_of_opening open_now).symm
  | bind k own idle shut opening free sockets address addresses =>
    by_cases here : c = action.call
    · subst here
      rw [State.Listens, calls, Function.update_self] at listens
      have same := Option.some.inj ((Call.listens_of_opening opening).symm.trans listens)
      exact Or.inr ⟨rfl, same ▸ opening, same ▸ address⟩
    · rw [State.Listens, calls, Function.update_of_ne here] at listens
      exact Or.inl ⟨listens, addresses c here⟩

end After

/-- **Every step keeps the addresses.** -/
theorem addressed_step {s t : State C Req Msg} {action : Action C Req} (formed : WellFormed s)
    (addressed : Addressed svc s) (next : Step svc s action t) : Addressed svc t := by
  obtain ⟨new, calls, change⟩ := step_sockets formed addressed next
  have stays : ∀ {c h}, s.Listens c h → t.Listens c h := listens_step calls change
  refine ⟨fun c h listens => ?_, fun c h inserted => ?_, fun c h inst known => ?_⟩
  · rcases listens_before calls change listens with ⟨before, kept⟩ | ⟨_, _, address⟩
    · rw [kept, addressed.address c h before]
    · exact address
  · cases change with
    | quiet idle opening kept frame =>
      exact stays (addressed.inserted c h (frame.instances ▸ inserted))
    | remove k own removing opening kept sockets addresses instances =>
      exact stays (addressed.inserted c h (instances ▸ inserted))
    | bind k own idle shut opening free sockets address addresses instances =>
      exact stays (addressed.inserted c h (instances ▸ inserted))
    | insert k own idle before opening listens sockets addresses instances =>
      rw [instances, Function.update_apply] at inserted
      split at inserted
      · rename_i same
        cases inserted
        rw [State.Listens, calls, Function.update_self, same]
        exact listens
      · exact stays (addressed.inserted c h inserted)
    | delete k own idle opening kept sockets addresses instances =>
      rw [instances, Function.update_apply] at inserted
      split at inserted
      · cases inserted
      · exact stays (addressed.inserted c h inserted)
  · obtain ⟨new, calls, _, change⟩ := step_registry formed.fits next
    by_cases same : c = action.call
    · subst same
      rw [role_here calls] at known
      cases change with
      | quiet same frame => exact stays (addressed.held action.call h inst (same ▸ known))
      | enter k before after => rw [after] at known; cases known
      | take before after => rw [after] at known; cases known
      | insert k before after => rw [after] at known; cases known
      | call k held before after => rw [after] at known; cases known
      | remove k held found before after =>
        rw [after] at known
        cases known
        exact stays (addressed.inserted inst h found)
      | find k held found before after =>
        rw [after] at known
        cases known
        exact stays (addressed.inserted inst h found)
      | clean k held op done holds still before after =>
        rw [after] at known
        cases still (h, inst) known
        exact stays (addressed.held action.call h inst (congrArg Role.holds before))
    · rw [role_other calls same] at known
      exact stays (addressed.held c h inst known)

end SpicedbEmbedded.Shared
