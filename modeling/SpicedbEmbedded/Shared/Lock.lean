/-
**The registry lock.**

`instanceMu` is held over single map operations only: no call waits for anything, or calls anything,
while it holds the lock.

* `LockSound` — the lock is held by calls that are about to use the map, and by each of them once.
* `lock_let_go` — a call that holds the lock can take its next step whatever the others do, and has
  let go of the lock after it.
* **`lock_freed`** — so in every reachable state the calls that hold the lock can free it by themselves.
-/

import Mathlib.Data.List.Nodup
import SpicedbEmbedded.Shared.Registry

set_option linter.unusedSectionVars false

namespace SpicedbEmbedded.Shared

open Machine

variable {C Req Msg : Type} [DecidableEq C] {svc : Service Req Msg} {s t : State C Req Msg}

/-- The call holds `instanceMu`. -/
def State.Locks (s : State C Req Msg) (c : C) : Prop :=
  match s.instanceMu with
  | .written writer => writer = c
  | .readBy readers => c ∈ readers

/-- **The lock is held by calls that are about to use the map**, and by each of them once. -/
structure LockSound (s : State C Req Msg) : Prop where
  writer : ∀ c, s.instanceMu = .written c → ∃ kind h pc,
    s.calls c = some ⟨kind, some h, pc⟩ ∧ (pc = .inserting ∨ pc = .deleting)
  readers : ∀ cs, s.instanceMu = .readBy cs →
    cs.Nodup ∧ ∀ c ∈ cs, ∃ h req, s.calls c = some ⟨.rpc, some h, .reading req⟩

theorem lockSound_of_free (freed : s.instanceMu = .free) : LockSound s where
  writer c held := by rw [freed] at held; cases held
  readers cs held := by
    rw [freed] at held
    cases held
    exact ⟨List.nodup_nil, fun c inside => absurd inside List.not_mem_nil⟩

/-! ### Steps -/

namespace State

theorem cleanupObservability_mu (s : State C Req Msg) (inst : C) :
    (s.cleanupObservability inst).instanceMu = s.instanceMu := by
  unfold cleanupObservability
  split <;> rfl

theorem closeConn_mu (s : State C Req Msg) (inst : C) :
    (s.closeConn inst).instanceMu = s.instanceMu := by
  unfold closeConn
  split <;> rfl

theorem runStage_mu (s : State C Req Msg) (c : C) (h : UInt64) (opts : StartOptions)
    (stage : Stage) (left : List Stage) (outcome : Except String Unit) :
    (s.runStage c h opts stage left outcome).instanceMu = s.instanceMu := by
  cases outcome with
  | error err => exact s.cleanupObservability_mu c
  | ok _ =>
    cases stage with
    | metrics =>
      simp only [runStage]
      split
      · exact s.cleanupObservability_mu c
      · rfl
    | _ => rfl

theorem listen_mu (s : State C Req Msg) (path : String) (c : C) (h : UInt64)
    (outcome : Except String Unit) : (s.listen path c h outcome).instanceMu = s.instanceMu := by
  cases outcome with
  | error err => exact s.cleanupObservability_mu c
  | ok _ =>
    simp only [listen]
    split
    · exact s.cleanupObservability_mu c
    · rfl

theorem invoke_mu {Answer : Type} (s : State C Req Msg) (closing : String)
    (answer : List Msg → Msg → Except String Answer) (conn : C) (msg : Msg) :
    (s.invoke closing answer conn msg).2.instanceMu = s.instanceMu := by
  unfold invoke
  split <;> rfl

end State

theorem callRPC_mu (c inst : C) (req : Req) :
    (callRPC svc s c inst req).2.instanceMu = s.instanceMu := by
  unfold callRPC
  split
  · rfl
  · split
    · rfl
    · exact s.invoke_mu _ _ _ _

theorem callStream_mu (inst : C) (req : Req) :
    (callStream svc s inst req).2.instanceMu = s.instanceMu := by
  unfold callStream
  split
  · rfl
  · split
    · rfl
    · exact s.invoke_mu _ _ _ _

/-- What a step of a call does to the lock. -/
inductive LockStep (s t : State C Req Msg) (c : C) : Prop
  | quiet (outside : ∀ kind h pc, s.calls c = some ⟨kind, some h, pc⟩ →
      pc ≠ .inserting ∧ pc ≠ .deleting ∧ ∀ req, pc ≠ .reading req)
      (kept : t.instanceMu = s.instanceMu)
  | write (locked : t.instanceMu = .written c) (inside : ∃ kind h pc,
      t.calls c = some ⟨kind, some h, pc⟩ ∧ (pc = .inserting ∨ pc = .deleting))
  | read (readers : List C) (before : s.instanceMu = .readBy readers)
      (outside : ∀ h req, s.calls c ≠ some ⟨.rpc, some h, .reading req⟩)
      (locked : t.instanceMu = .readBy (c :: readers))
      (inside : ∃ h req, t.calls c = some ⟨.rpc, some h, .reading req⟩)
  | release (freed : t.instanceMu = .free)
  | leave (readers : List C) (before : s.instanceMu = .readBy readers)
      (left : t.instanceMu = .readBy (readers.erase c))

/-- The step of a call that has begun. -/
theorem advance_lock {c : C} {kind : Kind} {h : UInt64} {pc : Pc C Req Msg}
    {outcome : Except String Unit} (here : s.calls c = some ⟨kind, some h, pc⟩)
    (fit : (⟨kind, some h, pc⟩ : Call C Req Msg).Fits)
    (next : Advance svc s c kind h outcome pc t) : LockStep s t c := by
  have quiet : (pc ≠ .inserting ∧ pc ≠ .deleting ∧ ∀ req, pc ≠ .reading req) →
      t.instanceMu = s.instanceMu → LockStep s t c := fun outside kept =>
    .quiet (fun kind' h' pc' there => by rw [here] at there; cases there; exact outside) kept
  cases next with
  | unlinked => exact quiet (by simp) rfl
  | staged opts stage left => exact quiet (by simp) (s.runStage_mu c h opts stage left outcome)
  | listened => exact quiet (by simp) (s.listen_mu _ c h outcome)
  | locksToInsert => exact .write rfl ⟨_, _, _, Function.update_self .., Or.inl rfl⟩
  | inserts => exact .release rfl
  | locksToDelete => exact .write rfl ⟨_, _, _, Function.update_self .., Or.inr rfl⟩
  | misses => exact .release rfl
  | removes => exact .release rfl
  | closes inst => exact quiet (by simp) (s.closeConn_mu inst)
  | stops => exact quiet (by simp) rfl
  | finishes inst => exact quiet (by simp) (s.cleanupObservability_mu inst)
  | locksToRead req readers shared =>
    cases (fit : kind = .rpc)
    refine .read readers shared (fun k r there => ?_) rfl ⟨_, _, Function.update_self ..⟩
    rw [here] at there
    cases there
  | readMisses req readers shared => exact .leave readers shared rfl
  | finds req readers shared => exact .leave readers shared rfl
  | calls req inst => exact quiet (by simp) (callRPC_mu c inst req)
  | dialMisses => exact quiet (by simp) rfl
  | dials => exact quiet (by simp) rfl
  | streams req inst => exact quiet (by simp) (callStream_mu inst req)

theorem step_lock {action : Action C Req} (formed : WellFormed s) (next : Step svc s action t) :
    LockStep s t action.call := by
  have begins : s.calls action.call = none → t.instanceMu = s.instanceMu →
      LockStep s t action.call := fun fresh kept =>
    .quiet (fun kind h pc there => by rw [fresh] at there; cases there) kept
  cases next with
  | reject c opts text fresh => exact begins fresh rfl
  | take c opts fresh => exact begins fresh rfl
  | begin c h op fresh => exact begins fresh rfl
  | advance c kind h outcome pc t here next => exact advance_lock here (formed.fits c _ here) next

/-- **Every step keeps the lock sound.** -/
theorem lockSound_step {action : Action C Req} (formed : WellFormed s) (sound : LockSound s)
    (next : Step svc s action t) : LockSound t := by
  obtain ⟨new, calls, _, _⟩ := step_registry formed.fits next
  have others : ∀ d, d ≠ action.call → t.calls d = s.calls d := fun d other => by
    rw [calls, Function.update_of_ne other]
  cases step_lock formed next with
  | quiet outside kept =>
    refine ⟨fun c held => ?_, fun cs held => ?_⟩
    · obtain ⟨kind, h, pc, here, place⟩ := sound.writer c (kept ▸ held)
      have other : c ≠ action.call := by
        rintro rfl
        obtain ⟨notInserting, notDeleting, _⟩ := outside kind h pc here
        exact place.elim notInserting notDeleting
      exact ⟨kind, h, pc, (others c other).trans here, place⟩
    · obtain ⟨nodup, reading⟩ := sound.readers cs (kept ▸ held)
      refine ⟨nodup, fun c inside => ?_⟩
      obtain ⟨h, req, here⟩ := reading c inside
      have other : c ≠ action.call := by
        rintro rfl
        exact (outside _ h _ here).2.2 req rfl
      exact ⟨h, req, (others c other).trans here⟩
  | write locked inside =>
    refine ⟨fun c held => ?_, fun cs held => ?_⟩
    · cases locked.symm.trans held
      exact inside
    · cases locked.symm.trans held
  | read readers before outside locked inside =>
    obtain ⟨nodup, reading⟩ := sound.readers readers before
    refine ⟨fun c held => (by cases locked.symm.trans held), fun cs held => ?_⟩
    cases locked.symm.trans held
    have absent : action.call ∉ readers := fun among => by
      obtain ⟨h, req, here⟩ := reading _ among
      exact outside h req here
    refine ⟨List.nodup_cons.mpr ⟨absent, nodup⟩, fun c among => ?_⟩
    rcases List.mem_cons.mp among with rfl | among
    · exact inside
    · obtain ⟨h, req, here⟩ := reading c among
      exact ⟨h, req, (others c fun same => absent (same ▸ among)).trans here⟩
  | release freed => exact lockSound_of_free freed
  | leave readers before left =>
    obtain ⟨nodup, reading⟩ := sound.readers readers before
    refine ⟨fun c held => (by cases left.symm.trans held), fun cs held => ?_⟩
    cases left.symm.trans held
    refine ⟨nodup.erase action.call, fun c among => ?_⟩
    obtain ⟨other, among⟩ := (List.Nodup.mem_erase_iff nodup).mp among
    obtain ⟨h, req, here⟩ := reading c among
    exact ⟨h, req, (others c other).trans here⟩

/-- The lock is sound in every run. -/
theorem exec_lockSound {actions : List (Action C Req)}
    (run : exec (step svc) .init actions = some s) : LockSound s :=
  (@exec_invariant _ _ _ (fun s => WellFormed s ∧ LockSound s)
    (fun _ _ _ inv taken => ⟨step_wellFormed inv.1 (step_sound taken),
      lockSound_step inv.1 inv.2 (step_sound taken)⟩) _ _ _ run
    ⟨init_wellFormed, lockSound_of_free rfl⟩).2

/-! ### Letting go -/

/-- The lock after a call that held it has let go. -/
def RWMutex.without (c : C) : RWMutex C → RWMutex C
  | .written _ => .free
  | .readBy readers => .readBy (readers.erase c)

theorem step_advance (svc : Service Req Msg) {c : C} {kind : Kind} {h : UInt64} {pc : Pc C Req Msg}
    (here : s.calls c = some ⟨kind, some h, pc⟩) (outcome : Except String Unit) :
    step svc s (.advance c h outcome) = advance svc s c kind h outcome pc := by
  simp only [step, here, if_true]

/-- **A call that holds the lock is never kept waiting**: whatever the others do it can take its next
step, and has let go of the lock after it. -/
theorem lock_let_go (svc : Service Req Msg) (sound : LockSound s) {c : C} (locks : s.Locks c) :
    ∃ h, ∀ outcome, ∃ t, step svc s (.advance c h outcome) = some t ∧
      t.instanceMu = s.instanceMu.without c := by
  unfold State.Locks at locks
  cases held : s.instanceMu with
  | written writer =>
    rw [held] at locks
    cases locks
    obtain ⟨kind, h, pc, here, rfl | rfl⟩ := sound.writer c held
    · exact ⟨h, fun outcome => ⟨_, step_advance svc here outcome, rfl⟩⟩
    · refine ⟨h, fun outcome => ?_⟩
      cases entry : s.instances h with
      | none =>
        simp only [step_advance svc here, advance, entry]
        exact ⟨_, rfl, rfl⟩
      | some inst =>
        simp only [step_advance svc here, advance, entry]
        exact ⟨_, rfl, rfl⟩
  | readBy readers =>
    rw [held] at locks
    obtain ⟨h, req, here⟩ := (sound.readers readers held).2 c locks
    refine ⟨h, fun outcome => ?_⟩
    cases entry : s.instances h with
    | none =>
      simp only [step_advance svc here, advance, held, entry]
      exact ⟨_, rfl, rfl⟩
    | some inst =>
      simp only [step_advance svc here, advance, held, entry]
      exact ⟨_, rfl, rfl⟩

/-- The calls that hold the lock can free it by steps of their own. -/
def State.Frees (svc : Service Req Msg) (s : State C Req Msg) : Prop :=
  ∃ releases t, (∀ action ∈ releases, s.Locks action.call) ∧
    exec (step svc) s releases = some t ∧ t.instanceMu = .free

/-- Readers let go one after the other. -/
theorem readers_let_go (svc : Service Req Msg) :
    ∀ (readers : List C) (s : State C Req Msg), WellFormed s → LockSound s →
      s.instanceMu = .readBy readers → ∃ releases t, (∀ action ∈ releases, action.call ∈ readers) ∧
        exec (step svc) s releases = some t ∧ t.instanceMu = .free := by
  intro readers
  induction readers with
  | nil => exact fun s _ _ held => ⟨[], s, fun _ inside => (by cases inside), rfl, held⟩
  | cons c readers ih =>
    intro s formed sound held
    have locks : s.Locks c := by
      rw [State.Locks, held]
      exact List.mem_cons_self
    obtain ⟨h, lets⟩ := lock_let_go svc sound locks
    obtain ⟨next, taken, left⟩ := lets (.ok ())
    rw [held, RWMutex.without, List.erase_cons_head] at left
    obtain ⟨releases, t, inside, run, freed⟩ := ih next (step_wellFormed formed (step_sound taken))
      (lockSound_step formed sound (step_sound taken)) left
    refine ⟨.advance c h (.ok ()) :: releases, t, fun action among => ?_,
      (exec_cons_some _).mpr ⟨next, taken, run⟩, freed⟩
    rcases List.mem_cons.mp among with rfl | among
    · exact List.mem_cons_self
    · exact List.mem_cons_of_mem c (inside action among)

/-- **The registry lock can always be freed by the calls that hold it**, in every reachable state. -/
theorem lock_freed {actions : List (Action C Req)} (run : exec (step svc) .init actions = some s) :
    s.Frees svc := by
  have formed := exec_wellFormed run
  have sound := exec_lockSound run
  cases held : s.instanceMu with
  | readBy readers =>
    obtain ⟨releases, t, inside, released, freed⟩ := readers_let_go svc readers s formed sound held
    refine ⟨releases, t, fun action among => ?_, released, freed⟩
    rw [State.Locks, held]
    exact inside action among
  | written writer =>
    have locks : s.Locks writer := by rw [State.Locks, held]
    obtain ⟨h, lets⟩ := lock_let_go svc sound locks
    obtain ⟨t, taken, freed⟩ := lets (.ok ())
    rw [held] at freed
    refine ⟨[.advance writer h (.ok ())], t, fun action among => ?_,
      (exec_singleton _ _ _).trans taken, freed⟩
    rw [List.mem_singleton.mp among]
    exact locks

end SpicedbEmbedded.Shared
