/-
**Closing an instance.**

`close` of Python, Java and Node and `Dispose` of C#, as the statements they are made of: the check of
the flag, the native dispose, which reports an error for a handle that is no longer registered, the
closing of the streaming channel, and the setting of the flag. They differ in the order, and in whether
an error of the native dispose gets out.

* `Settled` — what a sequence of closes on one object should come to; `Closes` — when it does.
* `Ready` — how far the one Dispose that does the work has come, for any number of threads.
* **`closing_iff`** — a sequence of closes comes to what it should exactly under its condition, and
  threads that dispose of a C# object are sound when each gets past the check alone.
-/

import Mathlib.Logic.Function.Basic
import SpicedbEmbedded.Machine.Run

namespace SpicedbEmbedded.Clients.Close

open Machine

/-! ### Statements -/

/-- The bindings whose object has a close. -/
inductive Binding
  | python
  | java
  | csharp
  | node
  deriving DecidableEq

/-- A statement of a close. -/
inductive Statement
  /-- `if (_closed) return` -/
  | guard
  /-- `spicedb_dispose`, an error of which is raised -/
  | dispose
  /-- `spicedb_dispose`, the reply of which is released unread -/
  | disposeUnread
  | closeChannel
  | setFlag
  deriving DecidableEq

/-- An object: whether its handle is registered with the library and its streaming channel open, its
flag, and how often a native dispose of it has taken effect. -/
structure Object where
  registered : Bool
  channelOpen : Bool
  flag : Bool
  disposals : Nat
  deriving DecidableEq

/-- An object as its start leaves it; its handle may have been disposed of by other means since. -/
def Object.started (registered : Bool) : Object := ⟨registered, true, false, 0⟩

/-- `spicedb_dispose`: it takes effect once, and is an error from then on. -/
def Object.nativeDispose (o : Object) : Object × Bool :=
  if o.registered then ({ o with registered := false, disposals := o.disposals + 1 }, true)
  else (o, false)

/-- One statement: the call may end, normally or with an error. -/
def Statement.run (o : Object) : Statement → Object × Option Bool
  | .guard => (o, if o.flag then some true else none)
  | .dispose => (o.nativeDispose.1, if o.nativeDispose.2 then none else some false)
  | .disposeUnread => (o.nativeDispose.1, none)
  | .closeChannel => ({ o with channelOpen := false }, none)
  | .setFlag => ({ o with flag := true }, none)

/-! ### The closes of the bindings -/

/-- `close` of Python, and `__exit__`. -/
def pythonClose : List Statement := [.dispose, .closeChannel]

/-- `close` of Java. -/
def javaClose : List Statement := [.disposeUnread, .closeChannel]

/-- `Dispose` of C#. -/
def csharpDispose : List Statement := [.guard, .dispose, .closeChannel, .setFlag]

/-- `close` of Node. -/
def nodeClose : List Statement := [.guard, .setFlag, .closeChannel, .dispose]

/-- The close of a binding. -/
def Binding.close : Binding → List Statement
  | .python => pythonClose
  | .java => javaClose
  | .csharp => csharpDispose
  | .node => nodeClose

/-! ### One close after the other -/

/-- A call that runs to its end. -/
def call : List Statement → Object → Object × Bool
  | [], o => (o, true)
  | statement :: rest, o =>
    match statement.run o with
    | (after, some result) => (after, result)
    | (after, none) => call rest after

/-- The object after so many closes. -/
def after (b : Binding) (registered : Bool) : Nat → Object
  | 0 => .started registered
  | n + 1 => (call b.close (after b registered n)).1

/-- How the close after so many others ends. -/
def result (b : Binding) (registered : Bool) (n : Nat) : Bool :=
  (call b.close (after b registered n)).2

/-- What a sequence of closes should come to: from the first on the native dispose has taken effect once
and the channel is closed, and later closes return normally and change nothing. -/
def Settled (b : Binding) (registered : Bool) (closes : Nat) : Prop :=
  ∀ n < closes, (after b registered (n + 1)).channelOpen = false ∧
    (after b registered (n + 1)).disposals = (if registered then 1 else 0) ∧
    (0 < n → result b registered n = true ∧ after b registered (n + 1) = after b registered n)

/-- The condition: in Python one close at most, in Python and C# of a handle that is registered. -/
def Closes (registered : Bool) (closes : Nat) : Binding → Prop
  | .java | .node => True
  | .csharp => closes = 0 ∨ registered = true
  | .python => closes = 0 ∨ (closes = 1 ∧ registered = true)

/-- An object that a close leaves as it is stays so. -/
theorem after_fixed {b : Binding} {registered : Bool} {o : Object}
    (first : after b registered 1 = o) (fixed : (call b.close o).1 = o) (n : Nat) :
    after b registered (n + 1) = o := by
  induction n with
  | zero => exact first
  | succ n ih =>
    show (call b.close (after b registered (n + 1))).1 = o
    rw [ih]
    exact fixed

/-- A binding whose first close does the work, and whose next ones do nothing. -/
theorem settled_of_fixed {b : Binding} {registered : Bool} {o : Object}
    (first : after b registered 1 = o) (fixed : call b.close o = (o, true))
    (shut : o.channelOpen = false) (once : o.disposals = if registered then 1 else 0)
    (closes : Nat) : Settled b registered closes := by
  have later := after_fixed first (congrArg Prod.fst fixed)
  intro n _
  rw [later n]
  refine ⟨shut, once, fun positive => ?_⟩
  obtain ⟨before, rfl⟩ := Nat.exists_eq_succ_of_ne_zero (Nat.pos_iff_ne_zero.mp positive)
  rw [result, later before, fixed]
  exact ⟨rfl, rfl⟩

/-- **A sequence of closes settles exactly under the condition of its binding.** -/
theorem settled_iff (b : Binding) (registered : Bool) (closes : Nat) :
    Settled b registered closes ↔ Closes registered closes b := by
  cases b with
  | java =>
    refine iff_of_true ?_ trivial
    cases registered
    · exact settled_of_fixed (o := ⟨false, false, false, 0⟩) rfl rfl rfl rfl closes
    · exact settled_of_fixed (o := ⟨false, false, false, 1⟩) rfl rfl rfl rfl closes
  | node =>
    refine iff_of_true ?_ trivial
    cases registered
    · exact settled_of_fixed (o := ⟨false, false, true, 0⟩) rfl rfl rfl rfl closes
    · exact settled_of_fixed (o := ⟨false, false, true, 1⟩) rfl rfl rfl rfl closes
  | csharp =>
    cases registered with
    | true =>
      refine iff_of_true ?_ (Or.inr rfl)
      exact settled_of_fixed (o := ⟨false, false, true, 1⟩) rfl rfl rfl rfl closes
    | false =>
      constructor
      · intro settled
        left
        by_contra some_
        cases (settled 0 (Nat.pos_of_ne_zero some_)).1
      · rintro (rfl | registered)
        · exact fun n below => absurd below (Nat.not_lt_zero n)
        · cases registered
  | python =>
    constructor
    · intro settled
      by_cases none : closes = 0
      · exact Or.inl none
      · right
        cases registered with
        | false => cases (settled 0 (Nat.pos_of_ne_zero none)).1
        | true =>
          refine ⟨?_, rfl⟩
          by_contra many
          cases ((settled 1 (by omega)).2.2 Nat.one_pos).1
    · rintro (rfl | ⟨rfl, rfl⟩)
      · exact fun n below => absurd below (Nat.not_lt_zero n)
      · intro n below
        obtain rfl : n = 0 := by omega
        exact ⟨rfl, rfl, fun positive => absurd positive (Nat.not_lt_zero 0)⟩

/-! ### C# from several threads -/

/-- An object, what each thread has left of its call (`none` outside of one), and how the calls that are
over have ended, in order. -/
structure Shared (T : Type) where
  object : Object
  left : T → Option (List Statement)
  results : List Bool

/-- What happens next: a thread calls Dispose, or runs its next statement. -/
inductive Action (T : Type)
  | enter (t : T)
  | run (t : T)

variable {T : Type} [DecidableEq T]

/-- A thread's call ends. -/
def Shared.finish (s : Shared T) (t : T) (ok : Bool) : Shared T :=
  { s with left := Function.update s.left t none, results := s.results ++ [ok] }

/-- One statement of a thread. -/
def step (s : Shared T) : Action T → Option (Shared T)
  | .enter t =>
    if s.left t = none then some { s with left := Function.update s.left t (some csharpDispose) }
    else none
  | .run t =>
    match s.left t with
    | none => none
    | some [] => some (s.finish t true)
    | some (statement :: rest) =>
      match statement.run s.object with
      | (object, some ok) => some ({ s with object := object }.finish t ok)
      | (object, none) =>
        some { s with object := object, left := Function.update s.left t (some rest) }

/-- A new object, which no thread is closing. -/
def Shared.init (registered : Bool) : Shared T := ⟨.started registered, fun _ => none, []⟩

/-- What Disposes of an object should come to at every moment: the native dispose has taken effect once
at most; of a handle that was registered, every call that is over has returned normally; and once one
is over the handle and the channel are closed for good. -/
structure Sound (registered : Bool) (s : Shared T) : Prop where
  once : s.object.disposals ≤ 1
  normal : registered = true → ∀ ok ∈ s.results, ok = true
  closed : s.results ≠ [] → s.object.registered = false ∧ s.object.channelOpen = false ∧
    s.object.disposals = if registered then 1 else 0

/-- A thread gets past the check of the flag only alone, and with the handle registered. -/
def Alone (s : Shared T) : Action T → Prop
  | .enter _ => True
  | .run t =>
    s.left t = some csharpDispose → s.object.flag = false →
      s.object.registered = true ∧ ∀ u, u ≠ t → s.left u = none ∨ s.left u = some csharpDispose

/-- How far the Dispose that does the work has come. -/
inductive Stage
  | fresh
  | called
  | disposed
  | shut
  | done
  deriving DecidableEq

/-- The object at a stage. -/
def Stage.object (registered : Bool) : Stage → Object
  | .fresh | .called => .started registered
  | .disposed => ⟨false, true, false, 1⟩
  | .shut => ⟨false, false, false, 1⟩
  | .done => ⟨false, false, true, 1⟩

/-- What the thread that does the work has left. -/
def Stage.left : Stage → Option (List Statement)
  | .fresh => none
  | .called => some [.dispose, .closeChannel, .setFlag]
  | .disposed => some [.closeChannel, .setFlag]
  | .shut => some [.setFlag]
  | .done => some []

/-- A thread outside of the work. -/
def Outside (left : Option (List Statement)) : Prop := left = none ∨ left = some csharpDispose

/-- One thread is at work, at a stage, and every other is outside. -/
structure At (registered : Bool) (stage : Stage) (s : Shared T) : Prop where
  object : s.object = stage.object registered
  registered : stage ≠ .fresh → registered = true
  results : stage ≠ .done → s.results = []
  normal : ∀ ok ∈ s.results, ok = true
  places : ∀ t, Outside (s.left t) ∨ (s.left t = stage.left ∧ ∀ u, u ≠ t → Outside (s.left u))
  worker : stage ≠ .fresh → stage ≠ .done → ∃ t, s.left t = stage.left

/-- The state is at some stage. -/
def Ready (registered : Bool) (s : Shared T) : Prop := ∃ stage, At registered stage s

omit [DecidableEq T] in
theorem Ready.sound {registered : Bool} {s : Shared T} (ready : Ready registered s) :
    Sound registered s := by
  obtain ⟨stage, here⟩ := ready
  refine ⟨?_, fun _ => here.normal, fun late => ?_⟩
  · rw [here.object]
    cases stage <;> simp [Stage.object, Object.started]
  · have done : stage = .done := by
      by_contra other
      exact late (here.results other)
    subst done
    rw [here.object, here.registered nofun]
    exact ⟨rfl, rfl, rfl⟩

omit [DecidableEq T] in
theorem init_ready (registered : Bool) : Ready registered (Shared.init registered : Shared T) :=
  ⟨.fresh, rfl, fun other => absurd rfl other, fun _ => rfl, nofun, fun _ => Or.inl (Or.inl rfl),
    fun other => absurd rfl other⟩

/-- Nothing that is left of the work looks like a call that has not begun it. -/
theorem Stage.left_ne (stage : Stage) : stage.left ≠ some csharpDispose := by
  cases stage <;> decide

omit [DecidableEq T] in
theorem Stage.inside {stage : Stage} (begun : stage ≠ .fresh) : ¬ Outside stage.left := by
  rintro (none | whole)
  · cases stage <;> first | exact begun rfl | cases none
  · exact stage.left_ne whole

/-- A thread that moves outside of the work leaves the stage as it is. -/
theorem At.aside {registered : Bool} {stage : Stage} {s after : Shared T} (here : At registered stage s)
    {t : T} {left : Option (List Statement)} (before : Outside (s.left t)) (outside : Outside left)
    (moved : after.left = Function.update s.left t left) (object : after.object = s.object)
    (results : stage ≠ .done → after.results = []) (normal : ∀ ok ∈ after.results, ok = true) :
    At registered stage after := by
  refine ⟨object.trans here.object, here.registered, results, normal, fun u => ?_, fun begun undone => ?_⟩
  · rw [moved]
    by_cases same : u = t
    · rw [same, Function.update_self]
      exact Or.inl outside
    · rw [Function.update_of_ne same]
      refine (here.places u).imp_right fun inside => ⟨inside.1, fun v differ => ?_⟩
      by_cases mine : v = t
      · rw [mine, Function.update_self]
        exact outside
      · rw [Function.update_of_ne mine]
        exact inside.2 v differ
  · obtain ⟨u, works⟩ := here.worker begun undone
    have differ : u ≠ t := by
      rintro rfl
      rw [works] at before
      exact Stage.inside begun before
    refine ⟨u, ?_⟩
    rw [moved, Function.update_of_ne differ]
    exact works

/-- A thread that comes to the next stage, all others being outside. -/
theorem at_work {registered : Bool} {stage : Stage} {s after : Shared T} {t : T}
    (others : ∀ u, u ≠ t → Outside (s.left u))
    (moved : after.left = Function.update s.left t stage.left)
    (object : after.object = stage.object registered) (was : registered = true)
    (results : stage ≠ .done → after.results = []) (normal : ∀ ok ∈ after.results, ok = true) :
    At registered stage after := by
  have mine : after.left t = stage.left := by rw [moved, Function.update_self]
  have theirs : ∀ u, u ≠ t → Outside (after.left u) := fun u differ => by
    rw [moved, Function.update_of_ne differ]
    exact others u differ
  refine ⟨object, fun _ => was, results, normal, fun u => ?_, fun _ _ => ⟨t, mine⟩⟩
  by_cases same : u = t
  · rw [same]
    exact Or.inr ⟨mine, theirs⟩
  · exact Or.inl (theirs u same)

omit [DecidableEq T] in
/-- A call that ends well after others that did. -/
theorem At.normal_concat {registered : Bool} {stage : Stage} {s : Shared T}
    (here : At registered stage s) : ∀ ok ∈ s.results ++ [true], ok = true := by
  intro ok inside
  rcases List.mem_append.mp inside with before | last
  · exact here.normal ok before
  · exact List.mem_singleton.mp last

omit [DecidableEq T] in
/-- A thread at work is at the stage, and alone. -/
theorem At.working {registered : Bool} {stage : Stage} {s : Shared T} (here : At registered stage s)
    {t : T} (inside : ¬ Outside (s.left t)) :
    s.left t = stage.left ∧ ∀ u, u ≠ t → Outside (s.left u) :=
  (here.places t).resolve_left inside

omit [DecidableEq T] in
/-- The handle is registered before the native dispose only. -/
theorem At.early {registered : Bool} {stage : Stage} {s : Shared T} (here : At registered stage s)
    (live : s.object.registered = true) : (stage = .fresh ∨ stage = .called) ∧ registered = true := by
  rw [here.object] at live
  cases stage with
  | fresh => exact ⟨Or.inl rfl, live⟩
  | called => exact ⟨Or.inr rfl, live⟩
  | disposed | shut | done => cases live

/-- A thread that finds the flag unset goes on to the native dispose. -/
theorem passes_check {s after : Shared T} {t : T} (calls : s.left t = some csharpDispose)
    (unset : s.object.flag = false) (next : step s (.run t) = some after) :
    after.left = Function.update s.left t Stage.called.left ∧ after.object = s.object ∧
      after.results = s.results := by
  simp only [step, calls, csharpDispose, Statement.run, unset, Bool.false_eq_true, if_false] at next
  cases next
  exact ⟨rfl, rfl, rfl⟩

/-- A thread that finds the flag set returns, and keeps the state ready. -/
theorem ready_late {registered : Bool} {s after : Shared T} (ready : Ready registered s) {t : T}
    (calls : s.left t = some csharpDispose) (set : s.object.flag = true)
    (next : step s (.run t) = some after) : Ready registered after := by
  obtain ⟨stage, here⟩ := ready
  simp only [step, calls, csharpDispose, Statement.run, set, if_true] at next
  cases next
  refine ⟨stage, here.aside (Or.inr calls) (Or.inl rfl) rfl rfl (fun undone => ?_)
    here.normal_concat⟩
  rw [here.object] at set
  cases stage with
  | done => exact absurd rfl undone
  | fresh | called | disposed | shut => cases set

/-- A thread that goes on to the native dispose in a state that stays ready is alone. -/
theorem alone_of_ready {registered : Bool} {s after : Shared T} (ready : Ready registered after) {t : T}
    (calls : s.left t = some csharpDispose) (unset : s.object.flag = false)
    (next : step s (.run t) = some after) : Alone s (.run t) := by
  obtain ⟨stage, there⟩ := ready
  obtain ⟨moved, object, -⟩ := passes_check calls unset next
  have mine : after.left t = Stage.called.left := by rw [moved, Function.update_self]
  have inside : ¬ Outside (after.left t) := by
    rw [mine]
    exact Stage.inside nofun
  obtain ⟨same, alone⟩ := there.working inside
  obtain rfl : stage = .called := by
    rw [mine] at same
    cases stage with
    | called => rfl
    | fresh | disposed | shut | done => cases same
  refine fun _ _ => ⟨?_, fun u differ => ?_⟩
  · rw [← object, there.object]
    exact there.registered nofun
  · have theirs := alone u differ
    rw [moved, Function.update_of_ne differ] at theirs
    exact theirs

/-- A thread that goes on to the native dispose alone keeps the state ready. -/
theorem ready_of_alone {registered : Bool} {s after : Shared T} (ready : Ready registered s) {t : T}
    (calls : s.left t = some csharpDispose) (unset : s.object.flag = false)
    (next : step s (.run t) = some after) (alone : Alone s (.run t)) : Ready registered after := by
  obtain ⟨stage, here⟩ := ready
  obtain ⟨moved, object, results⟩ := passes_check calls unset next
  obtain ⟨live, others⟩ := alone calls unset
  obtain ⟨rfl | rfl, was⟩ := here.early live
  · refine ⟨.called, at_work others moved (object.trans here.object) was (fun _ => ?_) ?_⟩
    · rw [results]
      exact here.results nofun
    · rw [results]
      exact here.normal
  · -- somebody is at work already
    obtain ⟨u, works⟩ := here.worker nofun nofun
    have differ : u ≠ t := by
      rintro rfl
      rw [calls] at works
      cases works
    have theirs := others u differ
    rw [works] at theirs
    exact absurd theirs (Stage.inside nofun)

/-- The check of the flag keeps the state ready exactly when the thread is alone. -/
theorem ready_guard {registered : Bool} {s after : Shared T} (ready : Ready registered s) {t : T}
    (calls : s.left t = some csharpDispose) (next : step s (.run t) = some after) :
    Ready registered after ↔ Alone s (.run t) := by
  cases flag : s.object.flag with
  | true =>
    refine iff_of_true (ready_late ready calls flag next) fun _ unset => ?_
    rw [flag] at unset
    cases unset
  | false =>
    exact ⟨fun readyAfter => alone_of_ready readyAfter calls flag next,
      ready_of_alone ready calls flag next⟩

/-- Every other statement keeps the state ready. -/
theorem ready_other {registered : Bool} {s after : Shared T} (ready : Ready registered s)
    {action : Action T} (other : ∀ t, action = .run t → s.left t ≠ some csharpDispose)
    (next : step s action = some after) : Ready registered after := by
  obtain ⟨stage, here⟩ := ready
  cases action with
  | enter t =>
    simp only [step] at next
    split at next
    · rename_i idle
      cases next
      exact ⟨stage, here.aside (Or.inl idle) (Or.inr rfl) rfl rfl here.results here.normal⟩
    · cases next
  | run t =>
    cases mine : s.left t with
    | none =>
      simp only [step, mine] at next
      cases next
    | some rest =>
      have inside : ¬ Outside (s.left t) := by
        rintro (none | whole)
        · rw [mine] at none
          cases none
        · exact other t rfl whole
      obtain ⟨same, others⟩ := here.working inside
      have begun : stage ≠ .fresh := by
        rintro rfl
        rw [mine] at same
        cases same
      have was := here.registered begun
      subst was
      rw [mine] at same
      cases stage with
      | fresh => exact absurd rfl begun
      | called =>
        cases same
        simp only [step, mine, Statement.run, here.object] at next
        cases next
        exact ⟨.disposed, at_work others rfl rfl rfl (fun _ => here.results nofun) here.normal⟩
      | disposed =>
        cases same
        simp only [step, mine, Statement.run, here.object] at next
        cases next
        exact ⟨.shut, at_work others rfl rfl rfl (fun _ => here.results nofun) here.normal⟩
      | shut =>
        cases same
        simp only [step, mine, Statement.run, here.object] at next
        cases next
        refine ⟨.done, at_work others rfl rfl rfl (fun undone => absurd rfl undone) here.normal⟩
      | done =>
        cases same
        simp only [step, mine] at next
        cases next
        refine ⟨.done, here.object, here.registered, fun undone => absurd rfl undone,
          here.normal_concat, fun u => Or.inl ?_, fun _ undone => absurd rfl undone⟩
        by_cases this : u = t
        · rw [this]
          exact Or.inl (Function.update_self ..)
        · show Outside (Function.update s.left t none u)
          rw [Function.update_of_ne this]
          exact others u this

/-- **One statement keeps the state ready exactly when it is no check, or one made alone.** -/
theorem ready_step {registered : Bool} (s : Shared T) (action : Action T) (after : Shared T)
    (ready : Ready registered s) (next : step s action = some after) :
    Ready registered after ↔ Alone s action := by
  by_cases checks : ∃ t, action = .run t ∧ s.left t = some csharpDispose
  · obtain ⟨t, rfl, calls⟩ := checks
    exact ready_guard ready calls next
  · have other : ∀ t, action = .run t → s.left t ≠ some csharpDispose := fun t same calls =>
      checks ⟨t, same, calls⟩
    refine iff_of_true (ready_other ready other next) ?_
    cases action with
    | enter t => trivial
    | run t => exact fun calls _ => absurd calls (other t rfl)

/-- A native dispose of a handle that is gone ends the call with an error. -/
theorem dispose_fails {s : Shared T} {t : T} (calls : s.left t = Stage.called.left)
    (gone : s.object.registered = false) : step s (.run t) = some (s.finish t false) := by
  simp only [step, calls, Stage.left, Statement.run, Object.nativeDispose, gone,
    Bool.false_eq_true, if_false]

omit [DecidableEq T] in
/-- A call that has ended with an error is not sound, if the handle was registered. -/
theorem failed_unsound {registered : Bool} {s : Shared T} (was : registered = true)
    (failed : false ∈ s.results) : ¬ Sound registered s := fun sound => by
  cases sound.normal was false failed

/-- A native dispose of a handle that is gone leads to an unsound state. -/
theorem gone_unsound {registered : Bool} {stage : Stage} {s after : Shared T} {t : T}
    (here : At registered stage s) (gone : s.object.registered = false)
    (kept : after.object = s.object) (mine : after.left t = Stage.called.left) :
    ∃ more u, exec step after more = some u ∧ ¬ Sound registered u := by
  refine ⟨[.run t], after.finish t false, ?_, ?_⟩
  · rw [exec_singleton]
    exact dispose_fails mine (by rw [kept]; exact gone)
  · cases registered with
    | true => exact failed_unsound rfl (List.mem_append_right _ List.mem_cons_self)
    | false =>
      have fresh : stage = .fresh := by
        by_contra begun
        cases here.registered begun
      intro sound
      have shut : after.object.channelOpen = false := (sound.closed (by simp [Shared.finish])).2.1
      rw [kept, here.object, fresh] at shut
      cases shut

/-- Two threads that both go on to the native dispose come to an unsound state: one of them finds the
handle gone. -/
theorem race_unsound {s : Shared T} {t u : T} (differ : u ≠ t) (live : s.object.registered = true)
    (mine : s.left t = Stage.called.left) (theirs : s.left u = Stage.called.left) :
    ∃ more x, exec step s more = some x ∧ ¬ Sound true x := by
  let middle : Shared T := { s with
    object := s.object.nativeDispose.1
    left := Function.update s.left u (some [.closeChannel, .setFlag]) }
  have first : step s (.run u) = some middle := by
    have taken : s.object.nativeDispose.2 = true := by rw [Object.nativeDispose, if_pos live]
    simp only [step, theirs, Stage.left, Statement.run, taken, if_true]
    rfl
  have gone : middle.object.registered = false := by
    show s.object.nativeDispose.1.registered = false
    rw [Object.nativeDispose, if_pos live]
  have still : middle.left t = Stage.called.left := by
    show Function.update s.left u _ t = _
    rw [Function.update_of_ne differ.symm]
    exact mine
  refine ⟨[.run u, .run t], middle.finish t false, (exec_cons_some step).mpr ⟨middle, first, ?_⟩,
    failed_unsound rfl (List.mem_append_right _ List.mem_cons_self)⟩
  rw [exec_singleton]
  exact dispose_fails still gone

/-- **A check that is not made alone leads to an unsound state**, if the threads go on so. -/
theorem unalone_unsound {registered : Bool} {s after : Shared T} (ready : Ready registered s)
    {action : Action T} (next : step s action = some after) (crowded : ¬ Alone s action) :
    ∃ more t, exec step after more = some t ∧ ¬ Sound registered t := by
  obtain ⟨stage, here⟩ := ready
  cases action with
  | enter t => exact absurd trivial crowded
  | run t =>
    obtain ⟨calls, unset, crowd⟩ : s.left t = some csharpDispose ∧ s.object.flag = false ∧
        ¬ (s.object.registered = true ∧
          ∀ u, u ≠ t → s.left u = none ∨ s.left u = some csharpDispose) := by
      simpa only [Alone, not_forall, exists_prop] using crowded
    obtain ⟨moved, object, -⟩ := passes_check calls unset next
    have mine : after.left t = Stage.called.left := by rw [moved, Function.update_self]
    cases live : s.object.registered with
    | false => exact gone_unsound here live object mine
    | true =>
      obtain ⟨u, differ, inside⟩ : ∃ u, u ≠ t ∧ ¬ Outside (s.left u) := by
        by_contra none
        refine crowd ⟨live, fun u differ => ?_⟩
        by_contra inside
        exact none ⟨u, differ, inside⟩
      obtain ⟨works, -⟩ := here.working inside
      obtain ⟨rfl | rfl, rfl⟩ := here.early live
      · rw [works] at inside
        exact absurd (Or.inl rfl) inside
      · refine race_unsound differ (by rw [object]; exact live) mine ?_
        rw [moved, Function.update_of_ne differ]
        exact works

/-! ### Every sequence, and every run -/

/-- **When closing is idempotent and complete.** A sequence of closes on an object of any binding settles
exactly under the condition of the binding. Disposes of a C# object from any number of threads are
sound throughout when each gets past the check alone and with the handle registered; from any run in
which one does not, the threads can go on to an unsound state. -/
theorem closing_iff (registered : Bool) (actions : List (Action T)) :
    (∀ (b : Binding) (closes : Nat), Settled b registered closes ↔ Closes registered closes b) ∧
      (Meets step Alone (Shared.init registered) actions →
        ∀ s, Passes step (Shared.init registered) actions s → Sound registered s) ∧
      (¬ Meets step Alone (Shared.init registered) actions →
        ∃ s, Passes step (Shared.init registered) actions s ∧
          ∃ more t, exec step s more = some t ∧ ¬ Sound registered t) := by
  have exact_run : ∀ actions : List (Action T),
      (∀ s, Passes step (Shared.init registered) actions s → Ready registered s) ↔
        Meets step Alone (Shared.init registered) actions := fun actions =>
    @passes_iff_meets _ _ step (fun _ => True) (Ready registered) Alone (fun _ _ _ _ _ => trivial)
      (fun s action t _ ready next => ready_step s action t ready next) actions _ trivial
      (init_ready registered)
  refine ⟨fun b closes => settled_iff b registered closes, ?_, ?_⟩
  · intro alone s through
    exact ((exact_run actions).mpr alone s through).sound
  · intro crowded
    obtain ⟨before, action, m, t, inside, reached, alone, last, breach⟩ :=
      exists_breach actions (Shared.init registered) crowded
    have ready := (exact_run before).mpr alone m (passes_end step reached)
    exact ⟨t, ⟨before ++ [action], inside, (exec_concat_some step).mpr ⟨m, reached, last⟩⟩,
      unalone_unsound ready last breach⟩

/-- A Python object is closed twice, as when `close` is called inside its `with` block: the second close
raises. -/
theorem pythonTwice_raises :
    ¬ ∀ (b : Binding) (registered : Bool) (closes : Nat), Settled b registered closes := by
  intro settled
  have again := ((settled .python true 2) 1 Nat.one_lt_two).2.2 Nat.one_pos
  cases again.1

end SpicedbEmbedded.Clients.Close
