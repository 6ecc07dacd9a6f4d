/-
**Turns at the registry.**

The calls of one loaded copy wait for each other at `instanceMu` only. A call may be kept for good
outside, by SpiceDB, a stream or the operating system; it does not hold the lock there, so the other
calls get their turns at the registry all the same.

* `Pc.left` — how many steps a call has still to take, at most.
* `Orderly` — a call at a map operation holds the lock for it, and a start has its proxy to come.
* `step_left` — a step of a call leaves it fewer steps, and the others as many.
* `Pc.turns` — the steps a call has still to take at the registry: the lock, and the map operation.
* **`turns_taken`** — no call takes more than ten steps; a call that holds the lock lets go of it with its
  next step, which nothing can keep from it; and while a call is at the registry, some call there has its
  turn.
-/

import Mathlib.Algebra.Order.BigOperators.Group.List
import Mathlib.Algebra.Order.Group.Nat
import SpicedbEmbedded.Shared.Lock

set_option linter.unusedSectionVars false

namespace SpicedbEmbedded.Shared

open Machine

variable {C Req Msg : Type} [DecidableEq C] {svc : Service Req Msg} {s t : State C Req Msg}

/-! ### Places -/

/-- How a call holds `instanceMu`. -/
inductive Hold
  | out
  | reads
  | writes

namespace Pc

/-- How a call that is there holds the lock. -/
def hold : Pc C Req Msg → Hold
  | .reading _ => .reads
  | .inserting | .deleting => .writes
  | .building _ _ | .binding | .built | .disposing | .found _ | .closed _ | .stopped _ | .looking _
  | .calling _ _ | .dialing _ | .streaming _ _ | .returned _ => .out

/-- The steps a call that is there still takes, at most. -/
def left : Pc C Req Msg → Nat
  | .building _ stages => stages.length + 3
  | .binding | .found _ | .looking _ => 3
  | .built | .closed _ | .reading _ | .dialing _ => 2
  | .inserting | .stopped _ | .calling _ _ | .streaming _ _ => 1
  | .disposing => 5
  | .deleting => 4
  | .returned _ => 0

/-- A start has the streaming proxy still to come. -/
def Onward : Pc C Req Msg → Prop
  | .building _ stages => stages.getLast? = some .proxy
  | _ => True

end Pc

/-- The steps a call still takes, at most; it takes its first with nine more to come. -/
def State.left (s : State C Req Msg) (c : C) : Nat :=
  match s.calls c with
  | none => 10
  | some call => call.pc.left

/-- How a call holds the lock. -/
def State.hold (s : State C Req Msg) (c : C) : Hold :=
  match s.calls c with
  | none => .out
  | some call => call.pc.hold

/-! ### Steps -/

/-- What a step of a call does to the lock, by how the call holds it before and after. -/
inductive Handover (s t : State C Req Msg) (c : C) : Hold → Hold → Prop
  | quiet (kept : t.instanceMu = s.instanceMu) : Handover s t c .out .out
  | locks (before : s.instanceMu = .free) (after : t.instanceMu = .written c) :
      Handover s t c .out .writes
  | unlocks (after : t.instanceMu = .free) : Handover s t c .writes .out
  | joins (readers : List C) (before : s.instanceMu = .readBy readers)
      (after : t.instanceMu = .readBy (c :: readers)) : Handover s t c .out .reads
  | leaves (readers : List C) (before : s.instanceMu = .readBy readers)
      (after : t.instanceMu = .readBy (readers.erase c)) : Handover s t c .reads .out

/-- What a step leaves of its call: a place nearer the end. -/
structure Moves (s t : State C Req Msg) (c : C) (before : Hold) (steps : Nat)
    (new : Call C Req Msg) : Prop where
  calls : t.calls = Function.update s.calls c (some new)
  fewer : new.pc.left < steps
  onward : new.pc.Onward
  handover : Handover s t c before new.pc.hold

/-- A step that moves its call on, and no other. -/
theorem moves_goto {r : State C Req Msg} {c : C} {kind : Kind} {h : UInt64} {pc new : Pc C Req Msg}
    (calls : r.calls = s.calls) (fewer : new.left < pc.left) (onward : new.Onward)
    (handover : Handover s (r.goto c kind h new) c pc.hold new.hold) :
    ∃ call, Moves s (r.goto c kind h new) c pc.hold pc.left call := by
  refine ⟨⟨kind, some h, new⟩, ?_, fewer, onward, handover⟩
  rw [State.goto_calls, calls]

/-- The step of a call that has begun. -/
theorem advance_moves {c : C} {kind : Kind} {h : UInt64} {pc : Pc C Req Msg}
    {outcome : Except String Unit} (onward : pc.Onward)
    (next : Advance svc s c kind h outcome pc t) : ∃ new, Moves s t c pc.hold pc.left new := by
  cases next with
  | unlinked opts left => exact moves_goto rfl (by simp [Pc.left]) trivial (.quiet rfl)
  | staged opts stage left other =>
    obtain ⟨-, new, place, calls⟩ := State.runStage_spec s c h opts stage left outcome
    have quiet := s.runStage_mu c h opts stage left outcome
    rcases place with rfl | ⟨text, rfl⟩
    · have later : left.getLast? = some .proxy := by
        cases left with
        | nil => exact absurd (Option.some.inj onward) other
        | cons first rest => rwa [Pc.Onward, List.getLast?_cons_cons] at onward
      exact ⟨_, calls, by simp [Pc.left], later, .quiet quiet⟩
    · exact ⟨_, calls, by simp [Pc.left], trivial, .quiet quiet⟩
  | listened =>
    obtain ⟨-, new, place, calls⟩ := State.listen_spec s (svc.streamingProxyAddr h) c h outcome
    have quiet := s.listen_mu (svc.streamingProxyAddr h) c h outcome
    rcases place with rfl | ⟨text, rfl⟩
    · exact ⟨_, calls, by simp [Pc.left], trivial, .quiet quiet⟩
    · exact ⟨_, calls, by simp [Pc.left], trivial, .quiet quiet⟩
  | locksToInsert unlocked => exact moves_goto rfl (by simp [Pc.left]) trivial (.locks unlocked rfl)
  | locksToDelete unlocked => exact moves_goto rfl (by simp [Pc.left]) trivial (.locks unlocked rfl)
  | inserts => exact moves_goto rfl (by simp [Pc.left]) trivial (.unlocks rfl)
  | misses absent => exact moves_goto rfl (by simp [Pc.left]) trivial (.unlocks rfl)
  | removes inst present => exact moves_goto rfl (by simp [Pc.left]) trivial (.unlocks rfl)
  | closes inst =>
    exact moves_goto (s.closeConn_calls inst) (by simp [Pc.left]) trivial
      (.quiet (s.closeConn_mu inst))
  | stops inst => exact moves_goto rfl (by simp [Pc.left]) trivial (.quiet rfl)
  | finishes inst =>
    exact moves_goto (s.cleanupObservability_calls inst) (by simp [Pc.left]) trivial
      (.quiet (s.cleanupObservability_mu inst))
  | locksToRead req readers shared =>
    exact moves_goto rfl (by simp [Pc.left]) trivial (.joins readers shared rfl)
  | readMisses req readers shared absent =>
    exact moves_goto rfl (by simp [Pc.left]) trivial (.leaves readers shared rfl)
  | finds req readers shared inst present =>
    exact moves_goto rfl (by simp [Pc.left]) trivial (.leaves readers shared rfl)
  | calls req inst =>
    exact moves_goto (callRPC_spec svc s c inst req).1 (by simp [Pc.left]) trivial
      (.quiet (callRPC_mu c inst req))
  | dialMisses req absent => exact moves_goto rfl (by simp [Pc.left]) trivial (.quiet rfl)
  | dials req inst present => exact moves_goto rfl (by simp [Pc.left]) trivial (.quiet rfl)
  | streams req inst =>
    exact moves_goto (callStream_spec svc s inst req).2.1 (by simp [Pc.left]) trivial
      (.quiet (callStream_mu inst req))

/-- A call begins with at most nine steps to come. -/
theorem stages_left (opts : StartOptions) :
    (Pc.building opts opts.stages : Pc C Req Msg).left ≤ 9 := by
  simp only [Pc.left, StartOptions.stages]
  split <;> split <;> simp

theorem stages_onward (opts : StartOptions) :
    (Pc.building opts opts.stages : Pc C Req Msg).Onward := by
  rw [Pc.Onward, StartOptions.stages, List.getLast?_append]
  rfl

/-- An operation on a handle begins with at most five steps to come. -/
theorem begin_left (svc : Service Req Msg) (op : Op Req) :
    (op.begin svc C).2.left ≤ 5 ∧ (op.begin svc C).2.Onward ∧ (op.begin svc C).2.hold = .out := by
  cases op with
  | dispose => exact ⟨Nat.le_refl _, trivial, rfl⟩
  | stream req => exact ⟨by simp [Op.begin, Pc.left], trivial, rfl⟩
  | rpc req =>
    simp only [Op.begin]
    split
    · exact ⟨Nat.zero_le _, trivial, rfl⟩
    · exact ⟨by simp [Pc.left], trivial, rfl⟩

/-- **What any step leaves of its call.** -/
theorem step_moves {action : Action C Req}
    (onward : ∀ c call, s.calls c = some call → call.pc.Onward) (next : Step svc s action t) :
    ∃ new, Moves s t action.call (s.hold action.call) (s.left action.call) new := by
  cases next with
  | reject c opts text fresh invalid =>
    refine ⟨_, rfl, ?_, trivial, ?_⟩ <;> rw [Action.call]
    · rw [State.left, fresh]
      simp [Pc.left]
    · rw [State.hold, fresh]
      exact .quiet rfl
  | take c opts fresh valid =>
    refine ⟨_, rfl, ?_, stages_onward opts, ?_⟩ <;> rw [Action.call]
    · rw [State.left, fresh]
      exact Nat.lt_succ_of_le (stages_left opts)
    · rw [State.hold, fresh]
      exact .quiet rfl
  | begin c h op fresh =>
    obtain ⟨few, forward, out⟩ := begin_left (C := C) svc op
    refine ⟨_, rfl, ?_, forward, ?_⟩ <;> rw [Action.call]
    · rw [State.left, fresh]
      exact Nat.lt_of_le_of_lt few (show 5 < 10 by decide)
    · rw [State.hold, fresh, out]
      exact .quiet rfl
  | advance c kind h outcome pc t here next =>
    rw [Action.call, State.hold, State.left, here]
    exact advance_moves (onward c _ here) next

/-! ### The lock -/

/-- A call at a map operation holds the lock for it, and a start has its proxy still to come. -/
structure Orderly (s : State C Req Msg) : Prop where
  onward : ∀ c call, s.calls c = some call → call.pc.Onward
  writes : ∀ c, s.hold c = .writes → s.instanceMu = .written c
  reads : ∀ c, s.hold c = .reads → ∃ readers, s.instanceMu = .readBy readers ∧ c ∈ readers

theorem init_orderly : Orderly (State.init : State C Req Msg) where
  onward c call known := by cases known
  writes c held := by cases held
  reads c held := by cases held

/-- **Every step keeps the calls orderly.** -/
theorem orderly_step {action : Action C Req} (orderly : Orderly s) (next : Step svc s action t) :
    Orderly t := by
  obtain ⟨new, calls, -, onward, handover⟩ := step_moves orderly.onward next
  have own : t.hold action.call = new.pc.hold := by
    rw [State.hold, calls, Function.update_self]
  have others : ∀ {c}, c ≠ action.call → t.hold c = s.hold c := by
    intro c other
    rw [State.hold, calls, Function.update_of_ne other, State.hold]
  -- what holds of this call by the handover, and of any other as before
  have split : ∀ {hold} {P : C → Prop}, (t.hold action.call = hold → P action.call) →
      (∀ c, c ≠ action.call → s.hold c = hold → P c) → ∀ c, t.hold c = hold → P c := by
    intro hold P here there c held
    by_cases same : c = action.call
    · exact same ▸ here (same ▸ held)
    · exact there c same ((others same).symm.trans held)
  refine ⟨fun c call known => ?_, ?_, ?_⟩
  · rw [calls, Function.update_apply] at known
    split at known
    · exact Option.some.inj known ▸ onward
    · exact orderly.onward c call known
  all_goals
    rw [own] at split
    generalize new.pc.hold = after at handover own split
    generalize before : s.hold action.call = held at handover
  · cases handover with
    | quiet kept => exact split nofun fun c _ held => kept.trans (orderly.writes c held)
    | locks free locked =>
      refine split (fun _ => locked) fun c _ held => ?_
      cases free.symm.trans (orderly.writes c held)
    | unlocks freed =>
      refine split nofun fun c other held => ?_
      cases (orderly.writes _ before).symm.trans (orderly.writes c held)
      exact absurd rfl other
    | joins readers shared joined | leaves readers shared left =>
      refine split nofun fun c _ held => ?_
      cases shared.symm.trans (orderly.writes c held)
  · cases handover with
    | quiet kept =>
      refine split nofun fun c _ held => ?_
      rw [kept]
      exact orderly.reads c held
    | locks free locked =>
      refine split nofun fun c _ held => ?_
      obtain ⟨readers, shared, inside⟩ := orderly.reads c held
      cases free.symm.trans shared
      cases inside
    | unlocks freed =>
      refine split nofun fun c _ held => ?_
      obtain ⟨readers, shared, -⟩ := orderly.reads c held
      cases (orderly.writes _ before).symm.trans shared
    | joins readers shared joined =>
      refine split (fun _ => ⟨_, joined, List.mem_cons_self⟩) fun c _ held => ?_
      obtain ⟨others, same, inside⟩ := orderly.reads c held
      cases shared.symm.trans same
      exact ⟨_, joined, List.mem_cons_of_mem _ inside⟩
    | leaves readers shared left =>
      refine split nofun fun c other held => ?_
      obtain ⟨others, same, inside⟩ := orderly.reads c held
      cases shared.symm.trans same
      exact ⟨_, left, (List.mem_erase_of_ne other).mpr inside⟩

/-! ### Steps to come -/

/-- **A step leaves its call fewer steps to come**, and the other calls as many. -/
theorem step_left {action : Action C Req} (orderly : Orderly s) (next : Step svc s action t) :
    t.left action.call < s.left action.call ∧ ∀ c, c ≠ action.call → t.left c = s.left c := by
  obtain ⟨new, calls, fewer, -, -⟩ := step_moves orderly.onward next
  constructor
  · rwa [State.left, calls, Function.update_self]
  · intro c other
    rw [State.left, calls, Function.update_of_ne other, State.left]

/-- The steps of a call in a run. -/
def steps (c : C) (actions : List (Action C Req)) : Nat :=
  actions.countP fun action => action.call = c

/-- A call takes its first step with nine more to come. -/
theorem steps_bound {actions : List (Action C Req)}
    (run : exec (step svc) .init actions = some s) :
    Orderly s ∧ ∀ c, steps c actions + s.left c ≤ 10 := by
  refine exec_induction (fun actions (s : State C Req Msg) =>
    Orderly s ∧ ∀ c, steps c actions + s.left c ≤ 10) ⟨init_orderly, fun c => Nat.le_refl _⟩ ?_
    actions s run
  rintro actions action middle t - ⟨orderly, bound⟩ taken
  have next := step_sound taken
  obtain ⟨fewer, others⟩ := step_left orderly next
  refine ⟨orderly_step orderly next, fun c => ?_⟩
  rw [steps, List.countP_append, List.countP_singleton]
  have before : actions.countP (fun action => action.call = c) + middle.left c ≤ 10 := bound c
  by_cases same : action.call = c
  · rw [← same] at before ⊢
    simp only [decide_true, if_true]
    omega
  · rw [others c (Ne.symm same)]
    simp only [same, decide_false, Bool.false_eq_true, if_false]
    omega

/-! ### Turns at the registry -/

namespace Pc

/-- The steps a call that is there has still to take at the registry: it locks, and uses the map. -/
def turns : Pc C Req Msg → Nat
  | .built | .disposing | .looking _ => 2
  | .inserting | .deleting | .reading _ => 1
  | .building _ _ | .binding | .found _ | .closed _ | .stopped _ | .calling _ _ | .dialing _
  | .streaming _ _ | .returned _ => 0

end Pc

/-- The steps a call has still to take at the registry, where it is there. -/
def State.turns (s : State C Req Msg) (c : C) : Nat :=
  match s.calls c with
  | none => 0
  | some call => call.pc.turns

/-- A step at the registry. -/
def turnStep (svc : Service Req Msg) (s : State C Req Msg) (action : Action C Req) :
    Option (State C Req Msg) :=
  if s.turns action.call = 0 then none else step svc s action

theorem turnStep_some {action : Action C Req} :
    turnStep svc s action = some t ↔ 0 < s.turns action.call ∧ step svc s action = some t := by
  rw [turnStep]
  split
  · next none => exact iff_of_false nofun fun both => Nat.lt_irrefl 0 (none ▸ both.1)
  · next turn => exact ⟨fun taken => ⟨Nat.pos_of_ne_zero turn, taken⟩, And.right⟩

theorem turns_eq {c : C} {call : Call C Req Msg} (known : s.calls c = some call) :
    s.turns c = call.pc.turns := by
  rw [State.turns, known]

/-- A call that has a turn to take has begun. -/
theorem turns_pos {c : C} (here : 0 < s.turns c) :
    ∃ call, s.calls c = some call ∧ 0 < call.pc.turns := by
  cases known : s.calls c with
  | none =>
    rw [State.turns, known] at here
    cases here
  | some call =>
    rw [turns_eq known] at here
    exact ⟨call, rfl, here⟩

/-- The step of a call at the registry leaves it fewer turns. -/
theorem advance_turns {c : C} {kind : Kind} {h : UInt64} {pc : Pc C Req Msg}
    {outcome : Except String Unit} (next : Advance svc s c kind h outcome pc t) (here : 0 < pc.turns) :
    t.turns c < pc.turns := by
  cases next with
  | locksToInsert | locksToDelete | inserts | misses | removes | locksToRead | readMisses | finds =>
    rw [State.turns, State.goto_calls, Function.update_self]
    simp [Pc.turns]
  | _ => cases here

/-- A step at the registry leaves its call fewer turns, and the other calls where they are. -/
theorem turnStep_turns {action : Action C Req} (orderly : Orderly s)
    (taken : turnStep svc s action = some t) :
    t.turns action.call < s.turns action.call ∧
      ∀ c, c ≠ action.call → t.calls c = s.calls c := by
  obtain ⟨here, taken⟩ := turnStep_some.mp taken
  have next := step_sound taken
  obtain ⟨new, calls, -⟩ := step_moves orderly.onward next
  refine ⟨?_, fun c other => by rw [calls, Function.update_of_ne other]⟩
  obtain ⟨call, known, turn⟩ := turns_pos here
  cases next with
  | reject c opts text fresh | take c opts fresh | begin c h op fresh =>
    cases known.symm.trans fresh
  | advance c kind h outcome pc t begun next =>
    have fewer := advance_turns next (by cases known.symm.trans begun; exact turn)
    rw [Action.call, turns_eq begun]
    exact fewer

theorem free_or_locked (s : State C Req Msg) :
    s.instanceMu = .free ∨ ∃ holder, s.Locks holder := by
  unfold State.Locks
  cases s.instanceMu with
  | written writer => exact Or.inr ⟨writer, rfl⟩
  | readBy readers =>
    cases readers with
    | nil => exact Or.inl rfl
    | cons first rest => exact Or.inr ⟨first, List.mem_cons_self⟩

/-- What every run keeps of the calls. -/
structure Sound (s : State C Req Msg) : Prop where
  formed : WellFormed s
  lock : LockSound s
  orderly : Orderly s

theorem sound_step {action : Action C Req} (sound : Sound s) (taken : step svc s action = some t) :
    Sound t where
  formed := step_wellFormed sound.formed (step_sound taken)
  lock := lockSound_step sound.formed sound.lock (step_sound taken)
  orderly := orderly_step sound.orderly (step_sound taken)

/-- The calls of a run have begun in it. -/
theorem sound_exec {actions : List (Action C Req)} (run : exec (step svc) .init actions = some s) :
    Sound s ∧ ∀ c, s.calls c ≠ none → c ∈ actions.map Action.call := by
  refine exec_induction (fun actions (s : State C Req Msg) =>
    Sound s ∧ ∀ c, s.calls c ≠ none → c ∈ actions.map Action.call)
    ⟨⟨init_wellFormed, lockSound_of_free rfl, init_orderly⟩, fun c begun => absurd rfl begun⟩ ?_
    actions s run
  rintro actions action middle t - ⟨sound, among⟩ taken
  refine ⟨sound_step sound taken, fun c begun => ?_⟩
  rw [List.map_append]
  obtain ⟨new, calls, -⟩ := step_moves sound.orderly.onward (step_sound taken)
  by_cases same : c = action.call
  · rw [same]
    exact List.mem_append_right _ List.mem_cons_self
  · rw [calls, Function.update_of_ne same] at begun
    exact List.mem_append_left _ (among c begun)

/-- A call that holds the lock is at a map operation. -/
theorem Sound.turns_of_locks (sound : Sound s) {c : C} (locks : s.Locks c) : 0 < s.turns c := by
  unfold State.Locks at locks
  rw [State.turns]
  cases held : s.instanceMu with
  | written writer =>
    rw [held] at locks
    cases locks
    obtain ⟨kind, h, pc, here, rfl | rfl⟩ := sound.lock.writer c held <;> simp [here, Pc.turns]
  | readBy readers =>
    rw [held] at locks
    obtain ⟨h, req, here⟩ := (sound.lock.readers readers held).2 c locks
    simp [here, Pc.turns]

/-- **A call that holds the lock lets go of it with its next step**, which it can take whatever the other
calls do and however what they wait for comes out. -/
theorem lets_go (svc : Service Req Msg) (sound : Sound s) {c : C} (locks : s.Locks c) :
    ∃ h, ∀ outcome, ∃ t, step svc s (.advance c h outcome) = some t ∧ ¬ t.Locks c := by
  obtain ⟨h, lets⟩ := lock_let_go svc sound.lock locks
  refine ⟨h, fun outcome => ?_⟩
  obtain ⟨t, taken, left⟩ := lets outcome
  refine ⟨t, taken, fun still => ?_⟩
  unfold State.Locks at still
  rw [left] at still
  cases held : s.instanceMu with
  | written writer =>
    rw [held] at still
    cases still
  | readBy readers =>
    rw [held] at still
    exact (sound.lock.readers readers held).1.not_mem_erase still

/-- **While a call has a turn to take, some call can take one**: it waits for the lock only, and what
holds the lock is at a map operation. -/
theorem some_turn (svc : Service Req Msg) (sound : Sound s) {c : C} (here : 0 < s.turns c) :
    ∃ action t, turnStep svc s action = some t := by
  have locked : (∃ holder, s.Locks holder) → ∃ action t, turnStep svc s action = some t := by
    rintro ⟨holder, locks⟩
    obtain ⟨h, lets⟩ := lets_go svc sound locks
    obtain ⟨t, taken, -⟩ := lets (.ok ())
    exact ⟨.advance holder h (.ok ()), t, turnStep_some.mpr ⟨sound.turns_of_locks locks, taken⟩⟩
  obtain ⟨⟨kind, handle, pc⟩, known, turn⟩ := turns_pos here
  rcases free_or_locked s with free | holder
  · have fits := sound.formed.fits c _ known
    cases handle with
    | none =>
      cases pc with
      | returned result => cases turn
      | _ => cases fits
    | some h =>
      have goes : (∃ t, advance svc s c kind h (.ok ()) pc = some t) →
          ∃ action t, turnStep svc s action = some t := fun ⟨t, moved⟩ =>
        ⟨.advance c h (.ok ()), t, turnStep_some.mpr ⟨here, (step_advance svc known _).trans moved⟩⟩
      cases pc with
      | built | disposing | looking =>
        refine goes ?_
        rw [advance, free]
        exact ⟨_, rfl⟩
      | inserting | deleting =>
        have writes := sound.orderly.writes c (by rw [State.hold, known]; rfl)
        cases free.symm.trans writes
      | reading =>
        obtain ⟨readers, shared, inside⟩ := sound.orderly.reads c (by rw [State.hold, known]; rfl)
        cases free.symm.trans shared
        cases inside
      | _ => cases turn
  · exact locked holder

/-! ### Every call gets its turn -/

/-- What steps at the registry keep: the calls that have a turn to take are among the given ones, and
those that had none are where they were. -/
structure Taking (cs : List C) (s t : State C Req Msg) : Prop where
  sound : Sound t
  among : ∀ c, 0 < t.turns c → c ∈ cs
  aside : ∀ c, s.turns c = 0 → t.calls c = s.calls c

theorem taking_step {cs : List C} {m : State C Req Msg} {action : Action C Req}
    (taking : Taking cs s m) (taken : turnStep svc m action = some t) : Taking cs s t := by
  obtain ⟨fewer, others⟩ := turnStep_turns taking.sound.orderly taken
  obtain ⟨here, next⟩ := turnStep_some.mp taken
  refine ⟨sound_step taking.sound next, fun c turn => ?_, fun c none => ?_⟩
  · by_cases same : c = action.call
    · exact same ▸ taking.among _ here
    · rw [State.turns, others c same] at turn
      exact taking.among c turn
  · by_cases same : c = action.call
    · rw [← same, State.turns, taking.aside c none] at here
      rw [State.turns] at none
      rw [none] at here
      cases here
    · rw [others c same, taking.aside c none]

/-- **The calls at the registry get their turns.** In any order of steps, no call takes more than ten; a
call that holds the lock can take its next step, however what the others wait for comes out, and lets go
of the lock with it; while a call is at the registry, some call there can take its next step; and by such
steps alone they can all get past it, while the others stay where they are. -/
theorem turns_taken {actions : List (Action C Req)} (run : exec (step svc) .init actions = some s) :
    (∀ c, steps c actions ≤ 10) ∧
    (∀ c, s.Locks c →
      ∃ h, ∀ outcome, ∃ t, step svc s (.advance c h outcome) = some t ∧ ¬ t.Locks c) ∧
    (∀ c, 0 < s.turns c → ∃ action t, turnStep svc s action = some t) ∧
    ∃ more t, exec (turnStep svc) s more = some t ∧ (∀ c, t.turns c = 0) ∧
      ∀ c, s.turns c = 0 → t.calls c = s.calls c := by
  obtain ⟨-, bound⟩ := steps_bound run
  obtain ⟨sound, begun⟩ := sound_exec run
  refine ⟨fun c => Nat.le_of_add_right_le (bound c), fun c => lets_go svc sound,
    fun c => some_turn svc sound, ?_⟩
  let cs := actions.map Action.call
  have start : Taking cs s s := by
    refine ⟨sound, fun c here => begun c fun none => ?_, fun _ _ => rfl⟩
    obtain ⟨call, known, -⟩ := turns_pos here
    cases none.symm.trans known
  let total (m : State C Req Msg) : Nat := (cs.map m.turns).sum
  have falls : ∀ m action t, True → Taking cs s m → turnStep svc m action = some t →
      total t < total m := by
    intro m action t _ taking taken
    obtain ⟨fewer, others⟩ := turnStep_turns taking.sound.orderly taken
    refine List.sum_lt_sum _ _ (fun c _ => ?_)
      ⟨_, taking.among _ (turnStep_some.mp taken).1, fewer⟩
    by_cases same : c = action.call
    · exact same ▸ Nat.le_of_lt fewer
    · exact Nat.le_of_eq (by rw [State.turns, others c same, State.turns])
  obtain ⟨more, t, -, rest, taking, ended⟩ :=
    exists_rest total (fun _ _ _ _ taking taken => taking_step taking taken) falls s start
  refine ⟨more, t, rest, fun c => Nat.eq_zero_of_not_pos fun here => ?_, taking.aside⟩
  obtain ⟨action, next, taken⟩ := some_turn svc taking.sound here
  rw [ended action trivial] at taken
  cases taken

/-- A dispose holds the lock at its lookup, and an RPC begins. -/
def heldLock : List (Action Nat Nat) :=
  [.begin 0 1 .dispose, .advance 0 1 (.ok ()), .begin 1 1 (.rpc 5)]

/-- The RPC has to wait; the dispose lets go, and the RPC gets its turn. -/
theorem turns_taken_heldLock :
    ∃ s, exec (step countingService) .init heldLock = some s ∧
      step countingService s (.advance 1 1 (.ok ())) = none ∧
      ∃ more t, exec (turnStep countingService) s more = some t ∧ ∀ c, t.turns c = 0 := by
  obtain ⟨s, run⟩ : ∃ s, exec (step countingService) .init heldLock = some s := ⟨_, rfl⟩
  obtain ⟨more, t, taken, past, -⟩ := (turns_taken run).2.2.2
  refine ⟨s, run, ?_, more, t, taken, past⟩
  cases run
  rfl

end SpicedbEmbedded.Shared
