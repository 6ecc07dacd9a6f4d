/-
**Python's library loader under threads.**

`_get_lib` of `spicedb_embedded/ffi.py`, and the native calls its three callers make through what it
returns, for any number of threads and statement by statement, as the interpreter lock lets them
interleave. The module's `_lib` is read anew by every assignment to it, and by the `return`.

* `Ready` — one thread loads at most, before which nothing is published, and every thread past its
  check finds, when it calls, the settings of the functions it calls.
* **`loader_safe`** — a run whose checks are all made in a `Quiet` moment makes no native call through
  a library without the function's settings, and hands out one library; from any other run the threads
  can go on to a run that does one of the two.
-/

import Mathlib.Logic.Function.Basic
import SpicedbEmbedded.Machine.Run

namespace SpicedbEmbedded.Clients.Loader

open Machine

/-! ### Statements -/

/-- The functions of the library. -/
inductive Func
  | start
  | dispose
  | free
  | freeBytes
  | rpc
  deriving DecidableEq

/-- An attribute of a function of the library that `_get_lib` assigns. -/
inductive Setting
  | restype (function : Func)
  | argtypes (function : Func)
  deriving DecidableEq

/-- The assignments of `_get_lib`, in order. -/
def assignments : List Setting :=
  [.restype .start, .argtypes .start, .restype .dispose, .argtypes .dispose, .argtypes .free,
    .argtypes .freeBytes, .restype .rpc, .argtypes .rpc]

/-- The settings that a call of a function has to find: how its result is read, and how its arguments
are passed. Nothing reads a result of the functions that free. -/
def Func.settings : Func → List Setting
  | .start => [.restype .start, .argtypes .start]
  | .dispose => [.restype .dispose, .argtypes .dispose]
  | .free => [.argtypes .free]
  | .freeBytes => [.argtypes .freeBytes]
  | .rpc => [.restype .rpc, .argtypes .rpc]

/-- `_get_lib` makes every one of them. -/
theorem settings_assigned (function : Func) :
    ∀ setting ∈ function.settings, setting ∈ assignments := by
  cases function <;> decide

/-- The native calls of `spicedb_start`, `spicedb_dispose` and `_call_rpc`. -/
def entries : List (List Func) :=
  [[.start], [.start, .free], [.dispose], [.dispose, .free], [.rpc], [.rpc, .free], [.rpc, .freeBytes]]

/-- Where a thread is; it knows the native calls it is going to make. -/
inductive Pc
  | idle
  /-- `if _lib is None` -/
  | check (calls : List Func)
  /-- in `_load_lib` -/
  | load (calls : List Func)
  /-- `_lib = ...` -/
  | publish (loaded : Nat) (calls : List Func)
  /-- the assignments that are left, and then the `return` -/
  | assign (left : List Setting) (calls : List Func)
  /-- the native calls that are left -/
  | calling (lib : Nat) (calls : List Func)
  deriving DecidableEq

/-- The module, the libraries loaded so far with the settings made on each, the threads, the libraries
`_get_lib` has returned, and whether a native call has been made without its settings. -/
structure State (T : Type) where
  lib : Option Nat
  next : Nat
  made : Nat → List Setting
  pc : T → Pc
  returned : List Nat
  premature : Bool

variable {T : Type}

/-- Nothing loaded, all threads idle. -/
def State.init : State T := ⟨none, 0, fun _ => [], fun _ => .idle, [], false⟩

/-- What a thread does next; `_load_lib` may raise. -/
inductive Action (T : Type)
  | enter (t : T) (calls : List Func)
  | run (t : T)
  | loadFails (t : T)

variable [DecidableEq T]

/-- Moves a thread. -/
def State.goto (s : State T) (t : T) (pc : Pc) : State T := { s with pc := Function.update s.pc t pc }

/-- One statement of a thread. -/
def step (s : State T) : Action T → Option (State T)
  | .enter t calls =>
    if s.pc t = .idle ∧ calls ∈ entries then some (s.goto t (.check calls)) else none
  | .loadFails t =>
    match s.pc t with
    | .load _ => some (s.goto t .idle)
    | _ => none
  | .run t =>
    match s.pc t with
    | .idle => none
    | .check calls =>
      match s.lib with
      | none => some (s.goto t (.load calls))
      | some _ => some (s.goto t (.assign [] calls))
    | .load calls => some ({ s with next := s.next + 1 }.goto t (.publish s.next calls))
    | .publish loaded calls => some ({ s with lib := some loaded }.goto t (.assign assignments calls))
    | .assign (setting :: left) calls =>
      s.lib.map fun lib =>
        { s with made := Function.update s.made lib (setting :: s.made lib) }.goto t (.assign left calls)
    | .assign [] calls =>
      s.lib.map fun lib => { s with returned := lib :: s.returned }.goto t (.calling lib calls)
    | .calling _ [] => some (s.goto t .idle)
    | .calling lib (function :: calls) =>
      some ({ s with premature :=
        s.premature || !function.settings.all (· ∈ s.made lib) }.goto t (.calling lib calls))

/-! ### The property, and the condition -/

/-- No native call has been made without its settings, and one library has been handed out. -/
def Safe (s : State T) : Prop :=
  s.premature = false ∧ ∀ first ∈ s.returned, ∀ second ∈ s.returned, first = second

/-- A thread is between its check and the publishing of what it loads. -/
def Pc.Loading : Pc → Prop
  | .load _ | .publish _ _ => True
  | .idle | .check _ | .assign _ _ | .calling _ _ => False

/-- A thread's check is made in a quiet moment: no other thread is loading, and a library that is
published already has the settings of the functions the thread is going to call. -/
def Quiet (s : State T) : Action T → Prop
  | .run t =>
    match s.pc t with
    | .check calls =>
      (∀ other, other ≠ t → ¬ (s.pc other).Loading) ∧
        ∀ lib, s.lib = some lib → ∀ function ∈ calls, ∀ setting ∈ function.settings,
          setting ∈ s.made lib
    | _ => True
  | .enter _ _ | .loadFails _ => True

/-! ### What a quiet run keeps -/

/-- The settings of these calls are on the library, or among those left to make. -/
def Covered (s : State T) (left : List Setting) (calls : List Func) : Prop :=
  ∃ lib, s.lib = some lib ∧ ∀ function ∈ calls, ∀ setting ∈ function.settings,
    setting ∈ left ∨ setting ∈ s.made lib

/-- What a thread may rely on where it is. -/
def Placed (s : State T) : Pc → Prop
  | .idle | .check _ => True
  | .load _ => s.lib = none
  | .publish loaded _ => s.lib = none ∧ loaded < s.next
  | .assign left calls => Covered s left calls
  | .calling lib calls => s.lib = some lib ∧ Covered s [] calls

/-- One thread loads at most, and every thread can rely on its place. -/
structure Ready (s : State T) : Prop where
  placed : ∀ t, Placed s (s.pc t)
  alone : ∀ t u, (s.pc t).Loading → (s.pc u).Loading → t = u
  returned : ∀ lib ∈ s.returned, s.lib = some lib
  punctual : s.premature = false

omit [DecidableEq T] in
theorem Ready.safe {s : State T} (ready : Ready s) : Safe s := by
  refine ⟨ready.punctual, fun first inFirst second inSecond => ?_⟩
  have same := (ready.returned first inFirst).symm.trans (ready.returned second inSecond)
  exact Option.some.inj same

omit [DecidableEq T] in
theorem init_ready : Ready (State.init : State T) :=
  ⟨fun _ => trivial, fun _ _ loading => absurd loading id, nofun, rfl⟩

/-! ### One statement -/

omit [DecidableEq T] in
/-- A place stays good when settings are added and libraries loaded. -/
theorem Placed.mono {s t : State T} {pc : Pc} (placed : Placed s pc) (lib : t.lib = s.lib)
    (next : s.next ≤ t.next) (made : ∀ lib, ∀ setting ∈ s.made lib, setting ∈ t.made lib) :
    Placed t pc := by
  have covered : ∀ {left calls}, Covered s left calls → Covered t left calls := by
    rintro left calls ⟨here, published, all⟩
    refine ⟨here, lib.trans published, fun function inside setting needed => ?_⟩
    exact (all function inside setting needed).imp_right (made here setting)
  cases pc with
  | idle | check => trivial
  | load calls => exact lib.trans placed
  | publish loaded calls => exact ⟨lib.trans placed.1, Nat.lt_of_lt_of_le placed.2 next⟩
  | assign left calls => exact covered placed
  | calling here calls => exact ⟨lib.trans placed.1, covered placed.2⟩

omit [DecidableEq T] in
/-- A thread that is loading finds nothing published. -/
theorem Placed.unpublished {s : State T} {pc : Pc} (placed : Placed s pc) (loading : pc.Loading) :
    s.lib = none := by
  cases pc with
  | load calls => exact placed
  | publish loaded calls => exact placed.1
  | idle | check | assign | calling => cases loading

omit [DecidableEq T] in
/-- The other threads keep their places when settings are added and libraries loaded. -/
theorem Ready.aside {s after : State T} (ready : Ready s) {t : T} (lib : after.lib = s.lib)
    (next : s.next ≤ after.next) (made : ∀ lib, ∀ setting ∈ s.made lib, setting ∈ after.made lib) :
    ∀ u, u ≠ t → Placed after (s.pc u) :=
  fun u _ => (ready.placed u).mono lib next made

/-- A thread that moves to a place it can rely on, loading alone if it loads, keeps the state ready. -/
theorem Ready.goto {s : State T} (ready : Ready s) {after : State T} {t : T} (pc : Pc)
    (others : ∀ u, u ≠ t → Placed after (s.pc u)) (here : Placed after pc)
    (alone : pc.Loading → ∀ u, u ≠ t → ¬ (s.pc u).Loading)
    (returned : ∀ lib ∈ after.returned, after.lib = some lib) (punctual : after.premature = false)
    (moved : after.pc = Function.update s.pc t pc) : Ready after := by
  refine ⟨fun u => ?_, fun u v loadingU loadingV => ?_, returned, punctual⟩
  · rw [moved]
    by_cases same : u = t
    · rw [same, Function.update_self]
      exact here
    · rw [Function.update_of_ne same]
      exact others u same
  · rw [moved] at loadingU loadingV
    by_cases sameU : u = t
    · by_cases sameV : v = t
      · exact sameU.trans sameV.symm
      · rw [sameU, Function.update_self] at loadingU
        rw [Function.update_of_ne sameV] at loadingV
        exact absurd loadingV (alone loadingU v sameV)
    · rw [Function.update_of_ne sameU] at loadingU
      by_cases sameV : v = t
      · rw [sameV, Function.update_self] at loadingV
        exact absurd loadingU (alone loadingV u sameU)
      · rw [Function.update_of_ne sameV] at loadingV
        exact ready.alone u v loadingU loadingV

/-- A thread's move that changes nothing else. -/
theorem Ready.move {s : State T} (ready : Ready s) {t : T} {pc : Pc} (here : Placed s pc)
    (alone : pc.Loading → ∀ u, u ≠ t → ¬ (s.pc u).Loading) : Ready (s.goto t pc) := by
  refine ready.goto pc (ready.aside rfl (Nat.le_refl _) fun _ _ inside => inside) ?_ alone
    ready.returned ready.punctual rfl
  exact here.mono rfl (Nat.le_refl _) fun _ _ inside => inside

/-- A check keeps the state ready exactly in a quiet moment. -/
theorem ready_check {s : State T} (ready : Ready s) {t : T} {calls : List Func}
    (here : s.pc t = .check calls) {after : State T} (next : step s (.run t) = some after) :
    Ready after ↔ Quiet s (.run t) := by
  simp only [step, here] at next
  simp only [Quiet, here]
  cases published : s.lib with
  | none =>
    simp only [published] at next
    cases next
    constructor
    · intro readyAfter
      refine ⟨fun other differ loading => ?_, nofun⟩
      refine differ (readyAfter.alone other t ?_ ?_)
      · show (Function.update s.pc t _ other).Loading
        rw [Function.update_of_ne differ]
        exact loading
      · show (Function.update s.pc t _ t).Loading
        rw [Function.update_self]
        trivial
    · intro quiet
      exact ready.move published fun _ => quiet.1
  | some lib =>
    simp only [published] at next
    cases next
    constructor
    · intro readyAfter
      refine ⟨fun other _ loading => ?_, ?_⟩
      · rw [(ready.placed other).unpublished loading] at published
        cases published
      · rintro _ ⟨⟩ function inside setting needed
        have placed := readyAfter.placed t
        rw [show (s.goto t (.assign [] calls)).pc t = .assign [] calls from
          Function.update_self ..] at placed
        obtain ⟨other, same, all⟩ := placed
        rw [show (s.goto t (.assign [] calls)).lib = some lib from published] at same
        cases same
        exact (all function inside setting needed).resolve_left List.not_mem_nil
    · intro quiet
      refine ready.move ⟨lib, published, fun function inside setting needed => Or.inr ?_⟩ nofun
      exact quiet.2 lib rfl function inside setting needed

/-- A thread that loads a library is still the only one loading. -/
theorem ready_load {s : State T} (ready : Ready s) {t : T} {calls : List Func}
    (place : s.pc t = .load calls) :
    Ready ({ s with next := s.next + 1 }.goto t (.publish s.next calls)) := by
  have here : s.lib = none := by
    have placed := ready.placed t
    rw [place] at placed
    exact placed
  have loading : (s.pc t).Loading := by
    rw [place]
    trivial
  refine ready.goto (.publish s.next calls) (ready.aside rfl (Nat.le_succ _) fun _ _ inside => inside)
    ⟨here, Nat.lt_succ_self _⟩ (fun _ u differ other => ?_) ready.returned ready.punctual rfl
  exact differ (ready.alone u t other loading)

/-- A thread that publishes has found nothing published, so no thread relies on a library. -/
theorem ready_publish {s : State T} (ready : Ready s) {t : T} {loaded : Nat} {calls : List Func}
    (place : s.pc t = .publish loaded calls) :
    Ready ({ s with lib := some loaded }.goto t (.assign assignments calls)) := by
  have here : s.lib = none := by
    have placed := ready.placed t
    rw [place] at placed
    exact placed.1
  have unpublished : ∀ {lib}, s.lib ≠ some lib := by
    intro lib published
    rw [here] at published
    cases published
  refine ready.goto (.assign assignments calls) (fun u differ => ?_) ?_ nofun
    (fun lib inside => absurd (ready.returned lib inside) unpublished) ready.punctual rfl
  · have placed := ready.placed u
    cases elsewhere : s.pc u with
    | idle | check => trivial
    | load | publish =>
      exact absurd (ready.alone u t (by rw [elsewhere]; trivial) (by rw [place]; trivial)) differ
    | assign left calls =>
      rw [elsewhere] at placed
      obtain ⟨lib, published, -⟩ := placed
      exact absurd published unpublished
    | calling lib calls =>
      rw [elsewhere] at placed
      exact absurd placed.1 unpublished
  · exact ⟨loaded, rfl, fun function _ setting needed =>
      Or.inl (settings_assigned function setting needed)⟩

/-- A thread that is through with its assignments returns the library that is published. -/
theorem ready_return {s : State T} (ready : Ready s) {t : T} {lib : Nat} {calls : List Func}
    (published : s.lib = some lib) (covered : Covered s [] calls) :
    Ready ({ s with returned := lib :: s.returned }.goto t (.calling lib calls)) := by
  refine ready.goto (.calling lib calls)
    (ready.aside rfl (Nat.le_refl _) fun _ _ inside => inside) ⟨published, covered⟩ nofun
    (fun other inside => ?_) ready.punctual rfl
  rcases List.mem_cons.mp inside with rfl | before
  · exact published
  · exact ready.returned other before

omit [DecidableEq T] in
/-- An assignment adds to the settings. -/
theorem made_grows (s : State T) (lib : Nat) (setting : Setting) (other : Nat) :
    ∀ old ∈ s.made other, old ∈ Function.update s.made lib (setting :: s.made lib) other := by
  intro old inside
  by_cases same : other = lib
  · rw [same, Function.update_self]
    rw [same] at inside
    exact List.mem_cons_of_mem _ inside
  · rw [Function.update_of_ne same]
    exact inside

/-- A thread that makes an assignment has it among the settings made. -/
theorem ready_assign {s : State T} (ready : Ready s) {t : T} {lib : Nat} {setting : Setting}
    {left : List Setting} {calls : List Func} (published : s.lib = some lib)
    (covered : Covered s (setting :: left) calls) :
    Ready ({ s with made := Function.update s.made lib (setting :: s.made lib) }.goto t
      (.assign left calls)) := by
  obtain ⟨found, same, all⟩ := covered
  rw [published] at same
  cases same
  refine ready.goto (.assign left calls)
    (ready.aside rfl (Nat.le_refl _) fun other => made_grows s lib setting other)
    ⟨lib, published, fun function inside wanted needed => ?_⟩ nofun ready.returned ready.punctual rfl
  rcases all function inside wanted needed with ahead | done
  · rcases List.mem_cons.mp ahead with rfl | later
    · refine Or.inr ?_
      show wanted ∈ Function.update s.made lib (wanted :: s.made lib) lib
      rw [Function.update_self]
      exact List.mem_cons_self
    · exact Or.inl later
  · exact Or.inr (made_grows s lib setting lib wanted done)

/-- A native call finds its settings made. -/
theorem ready_call {s : State T} (ready : Ready s) {t : T} {lib : Nat} {function : Func}
    {calls : List Func} (published : s.lib = some lib) (covered : Covered s [] (function :: calls)) :
    Ready ({ s with premature :=
      s.premature || !function.settings.all (· ∈ s.made lib) }.goto t (.calling lib calls)) := by
  obtain ⟨found, same, all⟩ := covered
  rw [published] at same
  cases same
  have settled : function.settings.all (· ∈ s.made lib) = true := by
    rw [List.all_eq_true]
    intro setting needed
    exact decide_eq_true
      ((all function List.mem_cons_self setting needed).resolve_left List.not_mem_nil)
  refine ready.goto (.calling lib calls)
    (ready.aside rfl (Nat.le_refl _) fun _ _ inside => inside)
    ⟨published, lib, published, fun other inside => ?_⟩ nofun ready.returned ?_ rfl
  · exact all other (List.mem_cons_of_mem _ inside)
  · show (s.premature || !function.settings.all (· ∈ s.made lib)) = false
    rw [settled, ready.punctual]
    rfl

/-- Every statement that is no check keeps the state ready. -/
theorem ready_other {s : State T} (ready : Ready s) {action : Action T}
    (other : ∀ t calls, action = .run t → s.pc t ≠ .check calls) {after : State T}
    (next : step s action = some after) : Ready after := by
  cases action with
  | enter t calls =>
    simp only [step] at next
    split at next
    · cases next
      exact ready.move trivial nofun
    · cases next
  | loadFails t =>
    simp only [step] at next
    split at next
    · cases next
      exact ready.move trivial nofun
    · cases next
  | run t =>
    have here := ready.placed t
    cases place : s.pc t with
    | idle =>
      simp only [step, place] at next
      cases next
    | check calls => exact absurd place (other t calls rfl)
    | load calls =>
      simp only [step, place] at next
      cases next
      exact ready_load ready place
    | publish loaded calls =>
      simp only [step, place] at next
      cases next
      exact ready_publish ready place
    | assign left calls =>
      rw [place] at here
      cases left with
      | nil =>
        simp only [step, place] at next
        obtain ⟨lib, published, rfl⟩ := Option.map_eq_some_iff.mp next
        exact ready_return ready published here
      | cons setting left =>
        simp only [step, place] at next
        obtain ⟨lib, published, rfl⟩ := Option.map_eq_some_iff.mp next
        exact ready_assign ready published here
    | calling lib calls =>
      rw [place] at here
      cases calls with
      | nil =>
        simp only [step, place] at next
        cases next
        exact ready.move trivial nofun
      | cons function calls =>
        simp only [step, place] at next
        cases next
        exact ready_call ready here.1 here.2

/-- **One statement keeps the state ready exactly when it is no check, or one in a quiet moment.** -/
theorem ready_step (s : State T) (action : Action T) (after : State T) (ready : Ready s)
    (next : step s action = some after) : Ready after ↔ Quiet s action := by
  by_cases checks : ∃ t calls, action = .run t ∧ s.pc t = .check calls
  · obtain ⟨t, calls, rfl, here⟩ := checks
    exact ready_check ready here next
  · have other : ∀ t calls, action = .run t → s.pc t ≠ .check calls := fun t calls same here =>
      checks ⟨t, calls, same, here⟩
    refine iff_of_true (ready_other ready other next) ?_
    cases action with
    | enter | loadFails => trivial
    | run t =>
      simp only [Quiet]
      cases here : s.pc t with
      | check calls => exact absurd here (other t calls rfl)
      | idle | load | publish | assign | calling => trivial

/-! ### What a check in another moment leads to -/

theorem exec_run {s middle t : State T} {u : T} {more : List (Action T)}
    (first : step s (.run u) = some middle) (rest : exec step middle more = some t) :
    exec step s (.run u :: more) = some t :=
  (exec_cons_some step).mpr ⟨middle, first, rest⟩

/-- A thread with assignments left makes them and returns what is published. -/
theorem assigns {calls : List Func} {u : T} {lib : Nat} :
    ∀ (left : List Setting) (s : State T), s.pc u = .assign left calls → s.lib = some lib →
      ∃ more t, exec step s more = some t ∧ t.returned = lib :: s.returned ∧ t.next = s.next ∧
        ∀ v, v ≠ u → t.pc v = s.pc v := by
  intro left
  induction left with
  | nil =>
    intro s here published
    refine ⟨[.run u], { s with returned := lib :: s.returned }.goto u (.calling lib calls),
      exec_run ?_ rfl, rfl, rfl, fun v differ => Function.update_of_ne differ ..⟩
    simp only [step, here]
    exact congrArg _ published
  | cons setting left ih =>
    intro s here published
    let middle := { s with made := Function.update s.made lib (setting :: s.made lib) }.goto u
      (.assign left calls)
    obtain ⟨more, t, run, returned, next, others⟩ :=
      ih middle (Function.update_self ..) published
    refine ⟨.run u :: more, t, exec_run ?_ run, returned, next, fun v differ => ?_⟩
    · simp only [step, here]
      exact Option.map_eq_some_iff.mpr ⟨lib, published, rfl⟩
    · rw [others v differ]
      exact Function.update_of_ne differ ..

/-- A thread that is publishing goes on to return what it has loaded. -/
theorem publishes {s : State T} {u : T} {loaded : Nat} {calls : List Func}
    (here : s.pc u = .publish loaded calls) :
    ∃ more t, exec step s more = some t ∧ t.returned = loaded :: s.returned ∧ t.next = s.next ∧
      ∀ v, v ≠ u → t.pc v = s.pc v := by
  let middle := { s with lib := some loaded }.goto u (.assign assignments calls)
  obtain ⟨more, t, run, returned, next, others⟩ :=
    assigns assignments middle (Function.update_self ..) rfl
  refine ⟨.run u :: more, t, exec_run ?_ run, returned, next, fun v differ => ?_⟩
  · simp only [step, here]
    rfl
  · rw [others v differ]
    exact Function.update_of_ne differ ..

/-- A thread that is loading goes on to return a new library. -/
theorem loads {s : State T} {u : T} {calls : List Func} (here : s.pc u = .load calls) :
    ∃ more t, exec step s more = some t ∧ t.returned = s.next :: s.returned ∧
      t.next = s.next + 1 ∧ ∀ v, v ≠ u → t.pc v = s.pc v := by
  let middle := { s with next := s.next + 1 }.goto u (.publish s.next calls)
  obtain ⟨more, t, run, returned, next, others⟩ :=
    @publishes _ _ middle u s.next calls (Function.update_self ..)
  refine ⟨.run u :: more, t, exec_run ?_ run, returned, next, fun v differ => ?_⟩
  · simp only [step, here]
    rfl
  · rw [others v differ]
    exact Function.update_of_ne differ ..

/-- A thread with a call left whose settings are not all made goes on to make it without. -/
theorem calls_early {u : T} {lib : Nat} {function : Func} {setting : Setting}
    (needed : setting ∈ function.settings) :
    ∀ (calls : List Func) (s : State T), s.pc u = .calling lib calls → function ∈ calls →
      setting ∉ s.made lib → ∃ more t, exec step s more = some t ∧ t.premature = true := by
  intro calls
  induction calls with
  | nil => exact fun s _ inside => absurd inside List.not_mem_nil
  | cons first calls ih =>
    intro s here inside unmade
    let middle := { s with premature :=
      s.premature || !first.settings.all (· ∈ s.made lib) }.goto u (.calling lib calls)
    have taken : step s (.run u) = some middle := by
      simp only [step, here]
      rfl
    rcases List.mem_cons.mp inside with rfl | later
    · refine ⟨[.run u], middle, exec_run taken rfl, ?_⟩
      have missing : function.settings.all (· ∈ s.made lib) = false := by
        rw [List.all_eq_false]
        exact ⟨setting, needed, by simpa using unmade⟩
      show (s.premature || !function.settings.all (· ∈ s.made lib)) = true
      rw [missing]
      simp
    · obtain ⟨more, t, run, early⟩ := ih middle (Function.update_self ..) later unmade
      exact ⟨.run u :: more, t, exec_run taken run, early⟩

/-- A thread that is loading, or publishing what it has loaded, goes on to return a library that is not
the next one to be loaded. -/
theorem returns {s : State T} {u : T} (loading : (s.pc u).Loading) (placed : Placed s (s.pc u)) :
    ∃ lib more t, exec step s more = some t ∧ t.returned = lib :: s.returned ∧ lib < t.next ∧
      ∀ v, v ≠ u → t.pc v = s.pc v := by
  cases place : s.pc u with
  | load calls =>
    obtain ⟨more, t, run, returned, counted, others⟩ := loads place
    refine ⟨s.next, more, t, run, returned, ?_, others⟩
    rw [counted]
    exact Nat.lt_succ_self _
  | publish loaded calls =>
    rw [place] at placed
    obtain ⟨more, t, run, returned, counted, others⟩ := publishes place
    refine ⟨loaded, more, t, run, returned, ?_, others⟩
    rw [counted]
    exact placed.2
  | idle | check | assign | calling =>
    rw [place] at loading
    cases loading

/-- Two threads that are both loading go on to return two libraries. -/
theorem both_loading_unsafe {s : State T} {t u : T} {calls : List Func} (differ : u ≠ t)
    (mine : s.pc t = .load calls) (loading : (s.pc u).Loading) (placed : Placed s (s.pc u)) :
    ∃ more x, exec step s more = some x ∧ ¬ Safe x := by
  obtain ⟨lib, more, x, run, returned, earlier, others⟩ := returns loading placed
  obtain ⟨rest, y, goes, both, -, -⟩ := loads ((others t differ.symm).trans mine)
  refine ⟨more ++ rest, y, ?_, fun safe => ?_⟩
  · rw [exec_append, run]
    exact goes
  · rw [returned] at both
    have newer : x.next ∈ y.returned := by
      rw [both]
      exact List.mem_cons_self
    have older : lib ∈ y.returned := by
      rw [both]
      exact List.mem_cons_of_mem _ List.mem_cons_self
    exact absurd (safe.2 lib older x.next newer) (Nat.ne_of_lt earlier)

/-- A thread that is handed a library without the settings of its calls goes on to call it so. -/
theorem unsettled_unsafe {s : State T} {t : T} {lib : Nat} {calls : List Func} {function : Func}
    {setting : Setting} (mine : s.pc t = .assign [] calls) (published : s.lib = some lib)
    (inside : function ∈ calls) (needed : setting ∈ function.settings)
    (unmade : setting ∉ s.made lib) : ∃ more x, exec step s more = some x ∧ ¬ Safe x := by
  let middle := { s with returned := lib :: s.returned }.goto t (.calling lib calls)
  have taken : step s (.run t) = some middle := by
    simp only [step, mine]
    exact congrArg _ published
  obtain ⟨more, x, run, early⟩ :=
    calls_early needed calls middle (Function.update_self ..) inside unmade
  refine ⟨.run t :: more, x, exec_run taken run, fun safe => ?_⟩
  rw [safe.1] at early
  cases early

/-- **A check in a moment that is not quiet leads to an unsafe state**, if the threads go on so. -/
theorem unquiet_unsafe {s after : State T} {action : Action T} (ready : Ready s)
    (next : step s action = some after) (loud : ¬ Quiet s action) :
    ∃ more t, exec step after more = some t ∧ ¬ Safe t := by
  cases action with
  | enter | loadFails => exact absurd trivial loud
  | run t =>
    cases here : s.pc t with
    | idle | load | publish | assign | calling =>
      refine absurd ?_ loud
      simp only [Quiet, here]
    | check calls =>
      simp only [Quiet, here] at loud
      simp only [step, here] at next
      cases published : s.lib with
      | none =>
        simp only [published] at next
        cases next
        obtain ⟨other, differ, loading⟩ : ∃ other, other ≠ t ∧ (s.pc other).Loading := by
          by_contra alone
          refine loud ⟨fun other differ loading => alone ⟨other, differ, loading⟩, fun lib same => ?_⟩
          rw [published] at same
          cases same
        have kept : (s.goto t (.load calls)).pc other = s.pc other := Function.update_of_ne differ ..
        refine both_loading_unsafe differ (Function.update_self ..) ?_ ?_
        · rw [kept]
          exact loading
        · rw [kept]
          exact (ready.placed other).mono rfl (Nat.le_refl _) fun _ _ inside => inside
      | some lib =>
        simp only [published] at next
        cases next
        obtain ⟨function, inside, setting, needed, unmade⟩ : ∃ function ∈ calls,
            ∃ setting ∈ function.settings, setting ∉ s.made lib := by
          by_contra settled
          refine loud ⟨fun other _ loading => ?_, fun other same => ?_⟩
          · rw [(ready.placed other).unpublished loading] at published
            cases published
          · rw [published] at same
            cases same
            intro function inside setting needed
            by_contra unmade
            exact settled ⟨function, inside, setting, needed, unmade⟩
        exact unsettled_unsafe (s := s.goto t (.assign [] calls)) (Function.update_self ..) published
          inside needed unmade

/-! ### Every run -/

/-- **When the loader is safe.** A run whose checks are all made in quiet moments is safe throughout;
a run with another check, stopped there, can go on to an unsafe state. -/
theorem loader_safe (actions : List (Action T)) :
    (Meets step Quiet State.init actions → ∀ s, Passes step State.init actions s → Safe s) ∧
      (¬ Meets step Quiet State.init actions → ∃ s, Passes step State.init actions s ∧
        ∃ more t, exec step s more = some t ∧ ¬ Safe t) := by
  have exact_run : ∀ actions, (∀ s : State T, Passes step State.init actions s → Ready s) ↔
      Meets step Quiet State.init actions := fun actions =>
    @passes_iff_meets _ _ step (fun _ => True) Ready Quiet (fun _ _ _ _ _ => trivial)
      (fun s action t _ ready next => ready_step s action t ready next) actions State.init trivial
      init_ready
  constructor
  · intro quiet s through
    exact ((exact_run actions).mpr quiet s through).safe
  · intro loud
    obtain ⟨before, action, m, t, inside, reached, quiet, last, breach⟩ :=
      exists_breach actions State.init loud
    have ready := (exact_run before).mpr quiet m (passes_end step reached)
    exact ⟨t, ⟨before ++ [action], inside, (exec_concat_some step).mpr ⟨m, reached, last⟩⟩,
      unquiet_unsafe ready last breach⟩

/-- Two threads make their first call at once: the second finds the library published, and returns it,
before the first has set anything. -/
def firstUse : List (Action Bool) :=
  [.enter true [.start], .enter false [.start], .run true, .run true, .run true, .run false,
    .run false, .run false]

/-- Its native call is made without a `restype`, which truncates the pointer it returns. -/
theorem firstUse_unsafe :
    ¬ ∀ (actions : List (Action Bool)) (s : State Bool),
      Passes step State.init actions s → Safe s := by
  intro safe
  obtain ⟨s, run, early⟩ : ∃ s, exec step State.init firstUse = some s ∧ s.premature = true :=
    ⟨_, rfl, rfl⟩
  have late := (safe firstUse s (passes_end step run)).1
  rw [early] at late
  cases late

end SpicedbEmbedded.Clients.Loader
