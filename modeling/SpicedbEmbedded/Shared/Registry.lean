/-
**The handle registry: what each step does to it.**

`spicedb_start`, `spicedb_dispose` and the RPCs meet in `nextID` and `instances`. Seen from there a
call is only its `Role`: the handle it has drawn, opened, taken out of the map, or works on.

* `step_registry` inverts the step function for the registry: every step is one of the eight kinds
  of `RegistryStep`, and most are `quiet`.
* `WellFormed` is what holds of the calls and the connections on every run, whatever its length.
-/

import SpicedbEmbedded.Shared.Library

set_option linter.unusedSectionVars false

namespace SpicedbEmbedded.Shared

open Machine (exec exec_invariant)

variable {C Req Msg : Type}

/-! ### The calls in their own functions -/

/-- The result is one the function can return for the handle. -/
def Kind.Returns (kind : Kind) (h : UInt64) : Except String (Response Msg) → Prop
  | .ok (.started handle _) => kind = .start ∧ handle = h
  | .ok .disposed => kind = .dispose
  | .ok (.bytes _) => kind = .rpc
  | .ok (.messages _) => kind = .stream
  | .error text => kind = .dispose → text = invalidHandle h

/-- Any error text can come from a function other than `spicedb_dispose`. -/
theorem Kind.returns_error (kind : Kind) (other : kind ≠ .dispose) (h : UInt64) (text : String) :
    kind.Returns h (.error text : Except String (Response Msg)) := fun same => absurd same other

/-- The call is at a place of its own function. -/
def Call.Fits (call : Call C Req Msg) : Prop :=
  match call.handle, call.pc with
  | none, .returned (.error _) => call.kind = .start
  | none, _ => False
  | some _, .building _ _ => call.kind = .start
  | some _, .binding => call.kind = .start
  | some _, .built => call.kind = .start
  | some _, .inserting => call.kind = .start
  | some _, .disposing => call.kind = .dispose
  | some _, .deleting => call.kind = .dispose
  | some _, .found _ => call.kind = .dispose
  | some _, .closed _ => call.kind = .dispose
  | some _, .stopped _ => call.kind = .dispose
  | some _, .looking _ => call.kind = .rpc
  | some _, .reading _ => call.kind = .rpc
  | some _, .calling _ _ => call.kind = .rpc
  | some _, .dialing _ => call.kind = .stream
  | some _, .streaming _ _ => call.kind = .stream
  | some h, .returned result => call.kind.Returns h result

/-! ### The role of a call -/

/-- What a call is to the registry: the handle it has drawn, opened or taken out, the handle of an
RPC, the instance it works with under its handle, and the cleanup steps it has run. -/
structure Role (C : Type) where
  starts : Option UInt64 := none
  started : Option UInt64 := none
  took : Option UInt64 := none
  rpc : Option UInt64 := none
  holds : Option (UInt64 × C) := none
  done : List CleanupOp := []

/-- The role of a call; a call that has not begun has none. -/
def role : Option (Call C Req Msg) → Role C
  | some ⟨.start, some h, .returned (.ok _)⟩ => { starts := some h, started := some h }
  | some ⟨.start, some h, _⟩ => { starts := some h }
  | some ⟨.dispose, some h, .found inst⟩ => { took := some h, holds := some (h, inst) }
  | some ⟨.dispose, some h, .closed inst⟩ =>
    { took := some h, holds := some (h, inst), done := [.close] }
  | some ⟨.dispose, some h, .stopped inst⟩ =>
    { took := some h, holds := some (h, inst), done := [.close, .stop] }
  | some ⟨.dispose, some h, .returned (.ok _)⟩ =>
    { took := some h, done := [.close, .stop, .finish] }
  | some ⟨.rpc, some h, .calling _ inst⟩ => { rpc := some h, holds := some (h, inst) }
  | some ⟨.rpc, some h, _⟩ => { rpc := some h }
  | _ => {}

/-- A cleanup step belongs to a dispose that has taken its handle out. -/
theorem role_done {call : Option (Call C Req Msg)} (none_taken : (role call).took = none) :
    (role call).done = [] := by
  unfold role at none_taken ⊢
  split at none_taken <;> simp_all

variable [DecidableEq C]

/-! ### What a step leaves alone -/

/-- The parts of the state the registry consists of, the calls apart, are the same. -/
structure SameRegistry (s t : State C Req Msg) : Prop where
  nextID : t.nextID = s.nextID
  instances : t.instances = s.instances
  cleanups : t.cleanups = s.cleanups
  uses : t.uses = s.uses

namespace State

variable (s : State C Req Msg)

@[simp] theorem goto_calls (c : C) (kind : Kind) (h : UInt64) (pc : Pc C Req Msg) :
    (s.goto c kind h pc).calls = Function.update s.calls c (some ⟨kind, some h, pc⟩) := rfl

@[simp] theorem cleanupObservability_calls (inst : C) :
    (s.cleanupObservability inst).calls = s.calls := by
  unfold cleanupObservability
  split <;> rfl

theorem cleanupObservability_same (inst : C) : SameRegistry s (s.cleanupObservability inst) := by
  unfold cleanupObservability
  split <;> exact ⟨rfl, rfl, rfl, rfl⟩

@[simp] theorem closeConn_calls (inst : C) : (s.closeConn inst).calls = s.calls := by
  unfold closeConn
  split <;> rfl

theorem closeConn_same (inst : C) : SameRegistry s (s.closeConn inst) := by
  unfold closeConn
  split <;> exact ⟨rfl, rfl, rfl, rfl⟩

theorem failStart_same (c : C) (h : UInt64) (text : String) :
    SameRegistry s (s.failStart c h text) := by
  obtain ⟨a, b, d, e⟩ := s.cleanupObservability_same c
  exact ⟨a, b, d, e⟩

@[simp] theorem failStart_calls (c : C) (h : UInt64) (text : String) :
    (s.failStart c h text).calls =
      Function.update s.calls c (some ⟨.start, some h, .returned (.error text)⟩) := by
  rw [failStart, goto_calls, cleanupObservability_calls]

/-- A stage leaves the start at its next stage or at an error return, and the registry alone. -/
theorem runStage_spec (c : C) (h : UInt64) (opts : StartOptions) (stage : Stage)
    (left : List Stage) (outcome : Except String Unit) :
    SameRegistry s (s.runStage c h opts stage left outcome) ∧
      ∃ pc, (pc = .building opts left ∨ ∃ text, pc = .returned (.error text)) ∧
        (s.runStage c h opts stage left outcome).calls =
          Function.update s.calls c (some ⟨.start, some h, pc⟩) := by
  cases outcome with
  | error err =>
    exact ⟨s.failStart_same c h _, _, Or.inr ⟨_, rfl⟩, s.failStart_calls c h _⟩
  | ok _ =>
    cases stage with
    | metrics =>
      simp only [runStage]
      split
      · exact ⟨s.failStart_same c h _, _, Or.inr ⟨_, rfl⟩, s.failStart_calls c h _⟩
      · exact ⟨⟨rfl, rfl, rfl, rfl⟩, _, Or.inl rfl, rfl⟩
    | _ => exact ⟨⟨rfl, rfl, rfl, rfl⟩, _, Or.inl rfl, rfl⟩

/-- `net.Listen` leaves the start built or at an error return, and the registry alone. -/
theorem listen_spec (path : String) (c : C) (h : UInt64) (outcome : Except String Unit) :
    SameRegistry s (s.listen path c h outcome) ∧
      ∃ pc, (pc = .built ∨ ∃ text, pc = .returned (.error text)) ∧
        (s.listen path c h outcome).calls =
          Function.update s.calls c (some ⟨.start, some h, pc⟩) := by
  cases outcome with
  | error err =>
    exact ⟨s.failStart_same c h _, _, Or.inr ⟨_, rfl⟩, s.failStart_calls c h _⟩
  | ok _ =>
    simp only [listen]
    split
    · exact ⟨s.failStart_same c h _, _, Or.inr ⟨_, rfl⟩, s.failStart_calls c h _⟩
    · exact ⟨⟨rfl, rfl, rfl, rfl⟩, _, Or.inl rfl, rfl⟩

theorem invoke_same {Answer : Type} (closing : String)
    (answer : List Msg → Msg → Except String Answer) (conn : C) (msg : Msg) :
    SameRegistry s (s.invoke closing answer conn msg).2 ∧
      (s.invoke closing answer conn msg).2.calls = s.calls := by
  unfold invoke
  split <;> exact ⟨⟨rfl, rfl, rfl, rfl⟩, rfl⟩

end State

variable (svc : Service Req Msg)

theorem respond_returns (answer : Except String Msg) (h : UInt64) :
    Kind.rpc.Returns h (respond svc answer) := by
  unfold respond
  split
  · exact Kind.returns_error .rpc (by decide) h _
  · split
    · exact Kind.returns_error .rpc (by decide) h _
    · exact rfl

theorem messages_returns (answer : Except String (List Msg)) (h : UInt64) :
    Kind.stream.Returns h (answer.map .messages) := by
  cases answer with
  | error err => exact Kind.returns_error .stream (by decide) h err
  | ok messages => exact rfl

/-- An RPC past its lookup changes of the registry at most the record of connections, and there only
by the connection of the instance it has found. -/
theorem callRPC_spec (s : State C Req Msg) (c inst : C) (req : Req) :
    (callRPC svc s c inst req).2.calls = s.calls ∧
      (callRPC svc s c inst req).2.nextID = s.nextID ∧
      (callRPC svc s c inst req).2.instances = s.instances ∧
      (callRPC svc s c inst req).2.cleanups = s.cleanups ∧
      ((callRPC svc s c inst req).2.uses = s.uses ∨
        ∃ conn, (s.objects inst).clientConn = some conn ∧
          (callRPC svc s c inst req).2.uses = s.uses ++ [(c, conn)]) ∧
      ∀ h, Kind.rpc.Returns h (callRPC svc s c inst req).1 := by
  unfold callRPC
  split
  · exact ⟨rfl, rfl, rfl, rfl, Or.inl rfl, fun h => Kind.returns_error .rpc (by decide) h _⟩
  · rename_i conn dialed
    split
    · exact ⟨rfl, rfl, rfl, rfl, Or.inl rfl, fun h => Kind.returns_error .rpc (by decide) h _⟩
    · rename_i msg decoded
      obtain ⟨same, calls⟩ := s.invoke_same svc.closing svc.answer conn msg
      exact ⟨calls, same.nextID, same.instances, same.cleanups,
        Or.inr ⟨conn, dialed, congrArg (· ++ [(c, conn)]) same.uses⟩, respond_returns svc _⟩

/-- A streaming call leaves the registry alone. -/
theorem callStream_spec (s : State C Req Msg) (inst : C) (req : Req) :
    SameRegistry s (callStream svc s inst req).2 ∧
      (callStream svc s inst req).2.calls = s.calls ∧
      ∀ h, Kind.stream.Returns h (callStream svc s inst req).1 := by
  unfold callStream
  split
  · exact ⟨⟨rfl, rfl, rfl, rfl⟩, rfl, fun h => Kind.returns_error .stream (by decide) h _⟩
  · rename_i conn dialed
    split
    · exact ⟨⟨rfl, rfl, rfl, rfl⟩, rfl, fun h => Kind.returns_error .stream (by decide) h _⟩
    · rename_i msg decoded
      obtain ⟨same, calls⟩ := s.invoke_same svc.closing svc.answerStream conn msg
      exact ⟨same, calls, messages_returns _⟩

/-! ### What a step does to the registry -/

/-- What one step of the call `c`, which leaves it at `new`, does to the registry. -/
inductive RegistryStep (s t : State C Req Msg) (c : C) (new : Call C Req Msg) : Prop
  | quiet (same : role (some new) = role (s.calls c)) (frame : SameRegistry s t)
  | enter (h : UInt64) (before : role (s.calls c) = {}) (after : role (some new) = { rpc := some h })
      (frame : SameRegistry s t)
  | take (before : role (s.calls c) = {}) (after : role (some new) = { starts := some t.nextID })
      (nextID : t.nextID = s.nextID + 1) (instances : t.instances = s.instances)
      (cleanups : t.cleanups = s.cleanups) (uses : t.uses = s.uses)
  | insert (h : UInt64) (before : role (s.calls c) = { starts := some h })
      (after : role (some new) = { starts := some h, started := some h })
      (instances : t.instances = Function.update s.instances h (some c))
      (nextID : t.nextID = s.nextID) (cleanups : t.cleanups = s.cleanups) (uses : t.uses = s.uses)
  | remove (h : UInt64) (inst : C) (found : s.instances h = some inst)
      (before : role (s.calls c) = {})
      (after : role (some new) = { took := some h, holds := some (h, inst) })
      (instances : t.instances = Function.update s.instances h none)
      (nextID : t.nextID = s.nextID) (cleanups : t.cleanups = s.cleanups) (uses : t.uses = s.uses)
  | clean (h : UInt64) (inst : C) (op : CleanupOp) (done : List CleanupOp)
      (holds : Option (UInt64 × C)) (still : ∀ held, holds = some held → held = (h, inst))
      (before : role (s.calls c) = { took := some h, holds := some (h, inst), done := done })
      (after : role (some new) = { took := some h, holds := holds, done := done ++ [op] })
      (cleanups : t.cleanups = s.cleanups ++ [⟨c, inst, op⟩])
      (nextID : t.nextID = s.nextID) (instances : t.instances = s.instances) (uses : t.uses = s.uses)
  | find (h : UInt64) (inst : C) (found : s.instances h = some inst)
      (before : role (s.calls c) = { rpc := some h })
      (after : role (some new) = { rpc := some h, holds := some (h, inst) })
      (frame : SameRegistry s t)
  | call (h : UInt64) (inst : C)
      (before : role (s.calls c) = { rpc := some h, holds := some (h, inst) })
      (after : role (some new) = { rpc := some h })
      (uses : t.uses = s.uses ∨ ∃ conn, (s.objects inst).clientConn = some conn ∧
        t.uses = s.uses ++ [(c, conn)])
      (nextID : t.nextID = s.nextID) (instances : t.instances = s.instances)
      (cleanups : t.cleanups = s.cleanups)

variable {svc}

/-- The step of a call that has begun. -/
theorem advance_registry {s t : State C Req Msg} {c : C} {kind : Kind} {h : UInt64}
    {pc : Pc C Req Msg} {outcome : Except String Unit} (here : s.calls c = some ⟨kind, some h, pc⟩)
    (fit : (⟨kind, some h, pc⟩ : Call C Req Msg).Fits)
    (next : Advance svc s c kind h outcome pc t) :
    ∃ new, t.calls = Function.update s.calls c (some new) ∧ new.Fits ∧ RegistryStep s t c new := by
  have startsError : ∀ text, (⟨.start, some h, .returned (.error text)⟩ : Call C Req Msg).Fits :=
    fun text => @Kind.returns_error Msg .start (by decide) h text
  cases next with
  | unlinked opts left =>
    cases (fit : kind = .start)
    exact ⟨_, rfl, rfl, .quiet (by rw [here]; rfl) ⟨rfl, rfl, rfl, rfl⟩⟩
  | staged opts stage left other =>
    cases (fit : kind = .start)
    obtain ⟨frame, next, places, calls⟩ := s.runStage_spec c h opts stage left outcome
    rcases places with rfl | ⟨text, rfl⟩
    · exact ⟨_, calls, rfl, .quiet (by rw [here]; rfl) frame⟩
    · exact ⟨_, calls, startsError text, .quiet (by rw [here]; rfl) frame⟩
  | listened =>
    cases (fit : kind = .start)
    obtain ⟨frame, next, places, calls⟩ :=
      s.listen_spec (svc.streamingProxyAddr h) c h outcome
    rcases places with rfl | ⟨text, rfl⟩
    · exact ⟨_, calls, rfl, .quiet (by rw [here]; rfl) frame⟩
    · exact ⟨_, calls, startsError text, .quiet (by rw [here]; rfl) frame⟩
  | locksToInsert unlocked =>
    cases (fit : kind = .start)
    exact ⟨_, rfl, rfl, .quiet (by rw [here]; rfl) ⟨rfl, rfl, rfl, rfl⟩⟩
  | inserts =>
    cases (fit : kind = .start)
    exact ⟨_, rfl, ⟨rfl, rfl⟩, .insert h (by rw [here]; rfl) rfl rfl rfl rfl rfl⟩
  | locksToDelete unlocked =>
    cases (fit : kind = .dispose)
    exact ⟨_, rfl, rfl, .quiet (by rw [here]; rfl) ⟨rfl, rfl, rfl, rfl⟩⟩
  | misses absent =>
    cases (fit : kind = .dispose)
    exact ⟨_, rfl, fun _ => rfl, .quiet (by rw [here]; rfl) ⟨rfl, rfl, rfl, rfl⟩⟩
  | removes inst present =>
    cases (fit : kind = .dispose)
    exact ⟨_, rfl, rfl, .remove h inst present (by rw [here]; rfl) rfl rfl rfl rfl rfl⟩
  | closes inst =>
    cases (fit : kind = .dispose)
    obtain ⟨nextID, instances, cleanups, uses⟩ := s.closeConn_same inst
    exact ⟨⟨.dispose, some h, .closed inst⟩, by simp [State.record], rfl,
      .clean h inst .close [] (some (h, inst)) (fun held same => (Option.some.inj same).symm)
        (by rw [here]; rfl) rfl (congrArg (· ++ [_]) cleanups) nextID instances uses⟩
  | stops inst =>
    cases (fit : kind = .dispose)
    exact ⟨_, rfl, rfl, .clean h inst .stop [.close] (some (h, inst))
      (fun held same => (Option.some.inj same).symm) (by rw [here]; rfl) rfl rfl rfl rfl rfl⟩
  | finishes inst =>
    cases (fit : kind = .dispose)
    obtain ⟨nextID, instances, cleanups, uses⟩ := s.cleanupObservability_same inst
    exact ⟨⟨.dispose, some h, .returned (.ok .disposed)⟩, by simp [State.record, State.unlink], rfl,
      .clean h inst .finish [.close, .stop] none (fun held same => by cases same)
        (by rw [here]; rfl) rfl (congrArg (· ++ [_]) cleanups) nextID instances uses⟩
  | locksToRead req readers shared =>
    cases (fit : kind = .rpc)
    exact ⟨_, rfl, rfl, .quiet (by rw [here]; rfl) ⟨rfl, rfl, rfl, rfl⟩⟩
  | readMisses req readers shared absent =>
    cases (fit : kind = .rpc)
    exact ⟨_, rfl, @Kind.returns_error Msg .rpc (by decide) h _,
      .quiet (by rw [here]; rfl) ⟨rfl, rfl, rfl, rfl⟩⟩
  | finds req readers shared inst present =>
    cases (fit : kind = .rpc)
    exact ⟨_, rfl, rfl, .find h inst present (by rw [here]; rfl) rfl ⟨rfl, rfl, rfl, rfl⟩⟩
  | calls req inst =>
    cases (fit : kind = .rpc)
    obtain ⟨calls, nextID, instances, cleanups, uses, returns⟩ := callRPC_spec svc s c inst req
    exact ⟨_, congrArg (Function.update · c _) calls, returns h,
      .call h inst (by rw [here]; rfl) rfl uses nextID instances cleanups⟩
  | dialMisses req absent =>
    cases (fit : kind = .stream)
    exact ⟨_, rfl, @Kind.returns_error Msg .stream (by decide) h _,
      .quiet (by rw [here]; rfl) ⟨rfl, rfl, rfl, rfl⟩⟩
  | dials req inst present =>
    cases (fit : kind = .stream)
    exact ⟨_, rfl, rfl, .quiet (by rw [here]; rfl) ⟨rfl, rfl, rfl, rfl⟩⟩
  | streams req inst =>
    cases (fit : kind = .stream)
    obtain ⟨frame, calls, returns⟩ := callStream_spec svc s inst req
    exact ⟨_, congrArg (Function.update · c _) calls, returns h,
      .quiet (by rw [here]; rfl) ⟨frame.nextID, frame.instances, frame.cleanups, frame.uses⟩⟩

/-- **What a step does to the registry.** It moves one call on within its own function, and does one
of the eight things of `RegistryStep`. -/
theorem step_registry {s t : State C Req Msg} {action : Action C Req}
    (fits : ∀ c call, s.calls c = some call → call.Fits) (next : Step svc s action t) :
    ∃ new, t.calls = Function.update s.calls action.call (some new) ∧ new.Fits ∧
      RegistryStep s t action.call new := by
  cases next with
  | reject c opts text fresh invalid =>
    exact ⟨_, rfl, rfl, .quiet (by rw [Action.call, fresh]; rfl) ⟨rfl, rfl, rfl, rfl⟩⟩
  | take c opts fresh valid =>
    exact ⟨_, rfl, rfl, .take (by rw [Action.call, fresh]; rfl) rfl rfl rfl rfl rfl⟩
  | begin c h op fresh =>
    have before : role (s.calls c) = {} := by rw [fresh]; rfl
    cases op with
    | dispose => exact ⟨_, rfl, rfl, .quiet before.symm ⟨rfl, rfl, rfl, rfl⟩⟩
    | stream req => exact ⟨_, rfl, rfl, .quiet before.symm ⟨rfl, rfl, rfl, rfl⟩⟩
    | rpc req =>
      simp only [Op.begin]
      split
      · exact ⟨_, rfl, @Kind.returns_error Msg .rpc (by decide) h _,
          .enter h before rfl ⟨rfl, rfl, rfl, rfl⟩⟩
      · exact ⟨_, rfl, rfl, .enter h before rfl ⟨rfl, rfl, rfl, rfl⟩⟩
  | advance c kind h outcome pc t here next => exact advance_registry here (fits c _ here) next

/-! ### The roles after a step -/

section Roles

variable {s t : State C Req Msg} {c : C} {new : Call C Req Msg}

theorem role_here (calls : t.calls = Function.update s.calls c (some new)) :
    role (t.calls c) = role (some new) := by
  rw [calls, Function.update_self]

theorem role_other (calls : t.calls = Function.update s.calls c (some new)) {d : C} (other : d ≠ c) :
    role (t.calls d) = role (s.calls d) := by
  rw [calls, Function.update_of_ne other]

/-- A part of the roles that the step of one call leaves alone. -/
theorem part_kept {A : Type} (calls : t.calls = Function.update s.calls c (some new))
    (part : Role C → A) (same : part (role (some new)) = part (role (s.calls c))) (d : C) :
    part (role (t.calls d)) = part (role (s.calls d)) := by
  by_cases here : d = c
  · subst here
    rw [role_here calls, same]
  · rw [role_other calls here]

end Roles

/-! ### Client connections -/

/-- The connection of an instance is the one its own start has dialed. -/
def OwnConns (s : State C Req Msg) : Prop :=
  ∀ inst conn, (s.objects inst).clientConn = some conn → conn = inst

/-- Writing the fields of one instance that keeps its connection, or gets its own. -/
theorem ownConns_setObject {s t : State C Req Msg} (own : OwnConns s) {c : C}
    {object : Instance C} (objects : t.objects = Function.update s.objects c object)
    (kept : object.clientConn = (s.objects c).clientConn ∨ object.clientConn = some c) :
    OwnConns t := by
  intro inst conn known
  rw [objects, Function.update_apply] at known
  split at known
  · rename_i same
    subst same
    rcases kept with kept | kept
    · exact own inst conn (kept ▸ known)
    · exact (Option.some.inj (kept.symm.trans known)).symm
  · exact own inst conn known

theorem cleanupObservability_objects (s : State C Req Msg) (inst : C) :
    (s.cleanupObservability inst).objects = s.objects := by
  unfold State.cleanupObservability
  split <;> rfl

theorem closeConn_objects (s : State C Req Msg) (inst : C) :
    (s.closeConn inst).objects = s.objects := by
  unfold State.closeConn
  split <;> rfl

theorem invoke_objects {Answer : Type} (s : State C Req Msg) (closing : String)
    (answer : List Msg → Msg → Except String Answer) (conn : C) (msg : Msg) :
    (s.invoke closing answer conn msg).2.objects = s.objects := by
  unfold State.invoke
  split <;> rfl

theorem callRPC_objects (s : State C Req Msg) (c inst : C) (req : Req) :
    (callRPC svc s c inst req).2.objects = s.objects := by
  unfold callRPC
  split
  · rfl
  · split
    · rfl
    · exact invoke_objects s _ _ _ _

theorem callStream_objects (s : State C Req Msg) (inst : C) (req : Req) :
    (callStream svc s inst req).2.objects = s.objects := by
  unfold callStream
  split
  · rfl
  · split
    · rfl
    · exact invoke_objects s _ _ _ _

/-- What a step of the start `c`, at `pc`, may leave as the fields of its instance. -/
structure Written (c : C) (pc : Pc C Req Msg) (before after : Instance C) : Prop where
  clientConn : after.clientConn = before.clientConn ∨ after.clientConn = some c
  datastore : after.datastore = before.datastore ∨
    ∃ opts left, pc = .building opts left ∧ after.datastore = .ofOpts c opts

/-- **Where the fields of instances are written**: by a stage or by `net.Listen`, and of the
instance that is being built. -/
theorem advance_objects {s t : State C Req Msg} {c : C} {kind : Kind} {h : UInt64}
    {pc : Pc C Req Msg} {outcome : Except String Unit}
    (next : Advance svc s c kind h outcome pc t) :
    t.objects = s.objects ∨ ∃ object, t.objects = Function.update s.objects c object ∧
      Written c pc (s.objects c) object := by
  cases next with
  | staged opts stage left other =>
    cases outcome with
    | error err => exact Or.inl (cleanupObservability_objects s c)
    | ok _ =>
      cases stage with
      | datastore => exact Or.inr ⟨_, rfl, Or.inl rfl, Or.inr ⟨opts, _, rfl, rfl⟩⟩
      | client => exact Or.inr ⟨_, rfl, Or.inr rfl, Or.inl rfl⟩
      | metrics =>
        simp only [State.runStage]
        split
        · exact Or.inl (cleanupObservability_objects s c)
        · exact Or.inr ⟨_, rfl, Or.inl rfl, Or.inl rfl⟩
      | server => exact Or.inl rfl
      | tracing => exact Or.inl rfl
      | proxy => exact Or.inl rfl
  | listened =>
    cases outcome with
    | error err => exact Or.inl (cleanupObservability_objects s c)
    | ok _ =>
      simp only [State.listen]
      split
      · exact Or.inl (cleanupObservability_objects s c)
      · exact Or.inr ⟨_, rfl, Or.inl rfl, Or.inl rfl⟩
  | closes inst => exact Or.inl (closeConn_objects s inst)
  | finishes inst => exact Or.inl (cleanupObservability_objects s inst)
  | calls req inst => exact Or.inl (callRPC_objects s c inst req)
  | streams req inst => exact Or.inl (callStream_objects s inst req)
  | _ => exact Or.inl rfl

/-- Every step leaves each instance with its own connection. -/
theorem step_ownConns {s t : State C Req Msg} {action : Action C Req} (own : OwnConns s)
    (next : Step svc s action t) : OwnConns t := by
  cases next with
  | reject => exact own
  | take => exact own
  | begin => exact own
  | advance c kind h outcome pc t here next =>
    rcases advance_objects next with same | ⟨object, objects, written⟩
    · exact fun inst conn known => own inst conn (same ▸ known)
    · exact ownConns_setObject own objects written.clientConn

/-! ### Well-formed states -/

/-- Every call is within its function, and every instance has its own connection. -/
structure WellFormed (s : State C Req Msg) : Prop where
  fits : ∀ c call, s.calls c = some call → call.Fits
  own : OwnConns s

theorem init_wellFormed : WellFormed (State.init : State C Req Msg) where
  fits c call known := by cases known
  own inst conn known := by cases known

theorem step_wellFormed {s t : State C Req Msg} {action : Action C Req} (formed : WellFormed s)
    (next : Step svc s action t) : WellFormed t where
  fits := by
    obtain ⟨new, calls, fit, _⟩ := step_registry formed.fits next
    intro c call known
    rw [calls, Function.update_apply] at known
    split at known
    · exact Option.some.inj known ▸ fit
    · exact formed.fits c call known
  own := step_ownConns formed.own next

/-- Every run from a fresh copy stays well formed. -/
theorem exec_wellFormed {s : State C Req Msg} {actions : List (Action C Req)}
    (run : exec (step svc) .init actions = some s) : WellFormed s :=
  exec_invariant (fun _ _ _ formed taken => step_wellFormed formed (step_sound taken)) run
    init_wellFormed

end SpicedbEmbedded.Shared
