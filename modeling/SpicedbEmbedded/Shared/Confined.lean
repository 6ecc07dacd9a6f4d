/-
**What a call reaches.**

A call reaches the instance it builds or has looked up, and through it one connection and one
datastore.

* `advance_bodies` — a step leaves every instance alone but the one the call builds and the one it
  works with.
* `Confined` is the invariant behind it: instances are built by the starts that name them, the own
  datastores are theirs, sockets are bound to starts of their handle, and every call works with an
  instance of its own handle. `confined_step` keeps it.
-/

import SpicedbEmbedded.Shared.Slice

set_option linter.unusedSectionVars false

namespace SpicedbEmbedded.Shared

open Machine (exec)

variable {C Req Msg : Type}

/-- The instance a call works with. -/
def Pc.inst : Pc C Req Msg → Option C
  | .found inst => some inst
  | .closed inst => some inst
  | .stopped inst => some inst
  | .calling _ inst => some inst
  | .streaming _ inst => some inst
  | _ => none

variable [DecidableEq C]

/-! ### The instances a step leaves alone -/

/-- A datastore of its own belongs to the instance whose start made it. -/
def OwnDatastores (s : State C Req Msg) : Prop :=
  ∀ c d, (s.objects c).datastore = .own d → d = c

namespace State

variable (s : State C Req Msg)

theorem cleanupObservability_body (inst a : C) : (s.cleanupObservability inst).body a = s.body a := by
  unfold cleanupObservability
  split <;> rfl

theorem failStart_body (c : C) (h : UInt64) (text : String) (a : C) :
    (s.failStart c h text).body a = s.body a := s.cleanupObservability_body c a

theorem closeConn_body (own : OwnConns s) {inst a : C} (other : a ≠ inst) :
    (s.closeConn inst).body a = s.body a := by
  unfold closeConn
  split
  · rfl
  · rename_i conn dialed
    cases own inst conn dialed
    simp [body, Function.update_of_ne other]

theorem runStage_body {c a : C} (other : a ≠ c) (h : UInt64) (opts : StartOptions) (stage : Stage)
    (left : List Stage) (outcome : Except String Unit) :
    (s.runStage c h opts stage left outcome).body a = s.body a := by
  cases outcome with
  | error err => exact s.failStart_body c h _ a
  | ok _ =>
    cases stage with
    | datastore => simp [runStage, body, goto, setObject, Function.update_of_ne other]
    | client => simp [runStage, body, goto, setObject, Function.update_of_ne other]
    | metrics =>
      simp only [runStage]
      split
      · exact s.failStart_body c h _ a
      · simp [body, goto, setObject, Function.update_of_ne other]
    | server => rfl
    | tracing => rfl
    | proxy => rfl

theorem listen_body (path : String) {c a : C} (other : a ≠ c) (h : UInt64)
    (outcome : Except String Unit) : (s.listen path c h outcome).body a = s.body a := by
  cases outcome with
  | error err => exact s.failStart_body c h _ a
  | ok _ =>
    simp only [listen]
    split
    · exact s.failStart_body c h _ a
    · simp [body, goto, setObject, Function.update_of_ne other]

theorem invoke_body {Answer : Type} (own : OwnDatastores s) (closing : String)
    (answer : List Msg → Msg → Except String Answer) {conn a : C} (other : a ≠ conn) (msg : Msg) :
    (s.invoke closing answer conn msg).2.body a = s.body a := by
  unfold invoke
  split
  · have elsewhere : DatastoreRef.own a ≠ (s.objects conn).datastore :=
      fun same => other (own conn a same.symm)
    simp [body, Function.update_of_ne elsewhere]
  · rfl

end State

variable {svc : Service Req Msg} {s t : State C Req Msg}

theorem callRPC_body (formed : WellFormed s) (own : OwnDatastores s) (c : C) {inst a : C}
    (other : a ≠ inst) (req : Req) : (callRPC svc s c inst req).2.body a = s.body a := by
  unfold callRPC
  split
  · rfl
  · rename_i conn dialed
    cases formed.own inst conn dialed
    split
    · rfl
    · exact s.invoke_body own svc.closing svc.answer other _

theorem callStream_body (formed : WellFormed s) (own : OwnDatastores s) {inst a : C}
    (other : a ≠ inst) (req : Req) : (callStream svc s inst req).2.body a = s.body a := by
  unfold callStream
  split
  · rfl
  · rename_i conn dialed
    cases formed.own inst conn dialed
    split
    · rfl
    · exact s.invoke_body own svc.closing svc.answerStream other _

/-- **A step leaves every other instance alone.** -/
theorem advance_bodies (formed : WellFormed s) (own : OwnDatastores s) {c : C} {kind : Kind}
    {h : UInt64} {pc : Pc C Req Msg} {outcome : Except String Unit}
    (next : Advance svc s c kind h outcome pc t) {a : C} (other : a ≠ c)
    (apart : pc.inst ≠ some a) : t.body a = s.body a := by
  have elsewhere : ∀ {inst}, pc.inst = some inst → a ≠ inst :=
    fun works same => apart (same ▸ works)
  cases next with
  | staged opts stage left _ => exact s.runStage_body other h opts stage left outcome
  | listened => exact s.listen_body _ other h outcome
  | closes inst => exact s.closeConn_body formed.own (elsewhere rfl)
  | finishes inst => exact s.cleanupObservability_body inst a
  | calls req inst => exact callRPC_body formed own c (elsewhere rfl) req
  | streams req inst => exact callStream_body formed own (elsewhere rfl) req
  | _ => rfl

/-! ### The call that takes the step -/

/-- **The call moves on in its own function, on its own handle.** The instance it works with is the
one it had, or the one under its handle, or the one bound at its socket, and a start has the stages
left that it had before, or fewer. -/
theorem advance_call {c : C} {kind : Kind} {h : UInt64} {pc : Pc C Req Msg}
    {outcome : Except String Unit} (fit : (⟨kind, some h, pc⟩ : Call C Req Msg).Fits)
    (next : Advance svc s c kind h outcome pc t) :
    ∃ after, t.calls = Function.update s.calls c (some ⟨kind, some h, after⟩) ∧
      (∀ inst, after.inst = some inst → pc.inst = some inst ∨ s.instances h = some inst ∨
        s.sockets (svc.streamingProxyAddr h) = some inst) ∧
      ∀ opts left, after = .building opts left → ∃ stage, pc = .building opts (stage :: left) := by
  cases next with
  | staged opts stage left other =>
    cases (fit : kind = .start)
    obtain ⟨_, after, places, calls⟩ := s.runStage_spec c h opts stage left outcome
    rcases places with rfl | ⟨text, rfl⟩
    · exact ⟨_, calls, fun inst works => (by cases works), fun _ _ same => by cases same; exact ⟨stage, rfl⟩⟩
    · exact ⟨_, calls, fun inst works => (by cases works), fun _ _ same => by cases same⟩
  | listened =>
    cases (fit : kind = .start)
    obtain ⟨_, after, places, calls⟩ := s.listen_spec (svc.streamingProxyAddr h) c h outcome
    rcases places with rfl | ⟨text, rfl⟩
    · exact ⟨_, calls, fun inst works => (by cases works), fun _ _ same => by cases same⟩
    · exact ⟨_, calls, fun inst works => (by cases works), fun _ _ same => by cases same⟩
  | closes inst =>
    exact ⟨.closed inst, by simp [State.record], fun _ works => Or.inl works,
      fun _ _ same => by cases same⟩
  | stops inst => exact ⟨_, rfl, fun _ works => Or.inl works, fun _ _ same => by cases same⟩
  | finishes inst =>
    exact ⟨.returned (.ok .disposed), by simp [State.record, State.unlink],
      fun _ works => (by cases works), fun _ _ same => by cases same⟩
  | removes inst present =>
    exact ⟨_, rfl, fun _ works => Or.inr (Or.inl (works ▸ present)), fun _ _ same => by cases same⟩
  | finds req readers shared inst present =>
    exact ⟨_, rfl, fun _ works => Or.inr (Or.inl (works ▸ present)), fun _ _ same => by cases same⟩
  | dials req inst present =>
    exact ⟨_, rfl, fun _ works => Or.inr (Or.inr (works ▸ present)), fun _ _ same => by cases same⟩
  | calls req inst =>
    exact ⟨_, congrArg (Function.update · c _) (callRPC_spec svc s c inst req).1,
      fun _ works => (by cases works), fun _ _ same => by cases same⟩
  | streams req inst =>
    exact ⟨_, congrArg (Function.update · c _) (callStream_spec svc s inst req).2.1,
      fun _ works => (by cases works), fun _ _ same => by cases same⟩
  | _ => exact ⟨_, rfl, fun _ works => (by cases works), fun _ _ same => by cases same⟩

/-! ### The invariant -/

/-- **Every call is confined to what belongs to its handle.** -/
structure Confined (svc : Service Req Msg) (s : State C Req Msg) : Prop where
  formed : WellFormed s
  addressed : Addressed svc s
  fresh : ∀ c, s.calls c = none → s.body c = .fresh c
  datastores : OwnDatastores s
  bound : ∀ h c, s.sockets (svc.streamingProxyAddr h) = some c → s.StartOf c h
  working : ∀ c kind h pc inst, s.calls c = some ⟨kind, some h, pc⟩ → pc.inst = some inst →
    s.StartOf inst h

theorem init_confined (svc : Service Req Msg) : Confined svc (State.init : State C Req Msg) where
  formed := init_wellFormed
  addressed := init_addressed svc
  fresh c _ := rfl
  datastores c d known := (DatastoreRef.own.inj known).symm
  bound h c known := by cases known
  working c kind h pc inst known := by cases known

theorem Call.starts_of_opening {call : Call C Req Msg} {h : UInt64} (opening : call.opening = some h) :
    Call.starts h call = true := by
  unfold Call.opening at opening
  split at opening
  · cases opening; simp [Call.starts]
  · cases opening; simp [Call.starts]
  · cases opening

/-- A start with a listener has drawn its handle. -/
theorem startOf_of_listens {c : C} {h : UInt64} (listens : s.Listens c h) : s.StartOf c h := by
  obtain ⟨call, here, listening⟩ := Option.bind_eq_some_iff.mp listens
  unfold State.StartOf
  rw [here]
  unfold Call.listens at listening
  split at listening
  · cases listening; simp [Call.starts]
  · cases listening; simp [Call.starts]
  · cases listening; simp [Call.starts]
  · cases listening

/-- A start stays the start of its handle. -/
theorem startOf_step {action : Action C Req} (formed : WellFormed s) (next : Step svc s action t)
    {a : C} {h : UInt64} (start : s.StartOf a h) : t.StartOf a h := by
  have other : ∀ {c new}, s.calls c = none → t.calls = Function.update s.calls c (some new) →
      t.StartOf a h := by
    intro c new fresh calls
    have different : a ≠ c := by
      rintro rfl
      rw [State.StartOf, fresh] at start
      cases start
    rw [State.StartOf, calls, Function.update_of_ne different]
    exact start
  cases next with
  | reject c opts text fresh invalid => exact other fresh rfl
  | take c opts fresh valid => exact other fresh rfl
  | begin c k op fresh => exact other fresh rfl
  | advance c kind k outcome pc _ here next =>
    obtain ⟨after, calls, _, _⟩ := advance_call (formed.fits c _ here) next
    rw [State.StartOf, calls]
    by_cases same : a = c
    · subst same
      rw [Function.update_self]
      rw [State.StartOf, here] at start
      exact start
    · rw [Function.update_of_ne same]
      exact start

/-- A step of a confined state leaves an instance that is not built yet as it is. -/
theorem fresh_step {action : Action C Req} (confined : Confined svc s)
    (next : Step svc s action t) {a : C} (unbuilt : t.calls a = none) : t.body a = .fresh a := by
  obtain ⟨new, calls, _, _⟩ := step_registry confined.formed.fits next
  have other : a ≠ action.call := by
    rintro rfl
    rw [calls, Function.update_self] at unbuilt
    cases unbuilt
  have before : s.calls a = none := by
    rw [calls, Function.update_of_ne other] at unbuilt
    exact unbuilt
  rw [← confined.fresh a before]
  cases next with
  | reject => rfl
  | take => rfl
  | begin => rfl
  | advance c kind h outcome pc _ here next =>
    refine advance_bodies confined.formed confined.datastores next other fun works => ?_
    have start := confined.working c kind h pc a here works
    rw [State.StartOf, before] at start
    cases start

theorem ownDatastores_step {action : Action C Req} (own : OwnDatastores s)
    (next : Step svc s action t) : OwnDatastores t := by
  cases next with
  | reject => exact own
  | take => exact own
  | begin => exact own
  | advance c kind h outcome pc _ here next =>
    rcases advance_objects next with same | ⟨object, objects, written⟩
    · exact fun a d known => own a d (same ▸ known)
    · intro a d known
      rw [objects, Function.update_apply] at known
      split at known
      · rename_i here
        subst here
        rcases written.datastore with kept | ⟨opts, left, _, made⟩
        · exact own a d (kept ▸ known)
        · rw [made, DatastoreRef.ofOpts] at known
          split at known
          · exact (DatastoreRef.own.inj known).symm
          · cases known
      · exact own a d known

/-- A socket that is bound after a step is one of a start on its handle. -/
theorem bound_step (distinct : Function.Injective svc.streamingProxyAddr) {action : Action C Req}
    (confined : Confined svc s) (next : Step svc s action t) {h : UInt64} {c : C}
    (known : t.sockets (svc.streamingProxyAddr h) = some c) : t.StartOf c h := by
  have stays : ∀ {a h}, s.StartOf a h → t.StartOf a h := startOf_step confined.formed next
  obtain ⟨new, calls, change⟩ := step_sockets confined.formed confined.addressed next
  cases change with
  | quiet idle opening listens frame => exact stays (confined.bound h c (frame.sockets ▸ known))
  | insert k own idle before opening listens sockets =>
    exact stays (confined.bound h c (sockets ▸ known))
  | delete k own idle opening listens sockets => exact stays (confined.bound h c (sockets ▸ known))
  | remove k own removing opening listens sockets =>
    rw [sockets, Function.update_apply] at known
    split at known
    · cases known
    · exact stays (confined.bound h c known)
  | bind k own idle shut opening free sockets =>
    rw [sockets, Function.update_apply] at known
    split at known
    · rename_i same
      cases known
      rw [State.StartOf, calls, Function.update_self, distinct same]
      exact Call.starts_of_opening opening
    · exact stays (confined.bound h c known)

/-- An instance that a call works on after a step is one of a start on the call's handle. -/
theorem working_step {action : Action C Req} (confined : Confined svc s)
    (next : Step svc s action t) {c inst : C} {kind : Kind} {h : UInt64} {pc : Pc C Req Msg}
    (known : t.calls c = some ⟨kind, some h, pc⟩) (works : pc.inst = some inst) :
    t.StartOf inst h := by
  have stays : ∀ {a h}, s.StartOf a h → t.StartOf a h := startOf_step confined.formed next
  have idle : ∀ {d} {call : Call C Req Msg}, call.pc.inst = none →
      t.calls = Function.update s.calls d (some call) → t.StartOf inst h := by
    intro d call alone calls
    rw [calls, Function.update_apply] at known
    split at known
    · cases known
      rw [alone] at works
      cases works
    · exact stays (confined.working c kind h pc inst known works)
  cases next with
  | reject d opts text fresh invalid => exact idle rfl rfl
  | take d opts fresh valid => exact idle rfl rfl
  | begin d k op fresh =>
    refine idle ?_ rfl
    cases op with
    | dispose => rfl
    | stream req => rfl
    | rpc req =>
      simp only [Op.begin]
      split <;> rfl
  | advance d kind' k outcome pc' _ here next =>
    obtain ⟨after, calls, sources, _⟩ := advance_call (confined.formed.fits d _ here) next
    rw [calls, Function.update_apply] at known
    split at known
    · cases known
      rcases sources inst works with before | entry | socket
      · exact stays (confined.working d kind h pc' inst here before)
      · exact stays (startOf_of_listens (confined.addressed.inserted inst h entry))
      · exact stays (confined.bound h inst socket)
    · exact stays (confined.working c kind h pc inst known works)

/-- **Every step keeps the calls confined**, when different handles have different addresses. -/
theorem confined_step (distinct : Function.Injective svc.streamingProxyAddr) {action : Action C Req}
    (confined : Confined svc s) (next : Step svc s action t) : Confined svc t where
  formed := step_wellFormed confined.formed next
  addressed := addressed_step confined.formed confined.addressed next
  fresh _ unbuilt := fresh_step confined next unbuilt
  datastores := ownDatastores_step confined.datastores next
  bound _ _ known := bound_step distinct confined next known
  working _ _ _ _ _ known works := working_step confined next known works

end SpicedbEmbedded.Shared
