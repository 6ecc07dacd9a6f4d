/-
**Where the streams of a client end up.**

The copies of the library and the bindings together: a copy binds the socket of each handle that it
starts, another copy may remove a file, a client dials what `spicedb_start` told it, and whoever is
bound at the endpoint answers.

* `accepts` — the instance that answers at an endpoint.
* `Held` — an instance is bound to no socket but its own; every step of the copies keeps this.
* **`streams_reach`** — with one copy in each process, in every interleaving, the client of a live
  instance is answered by that instance exactly where its binding dials as it should; and never by
  another one where the binding takes the path as it is.
-/

import SpicedbEmbedded.Clients.Dial
import SpicedbEmbedded.Shared.Copies

namespace SpicedbEmbedded.Clients

open Machine Shared
open Ffi (Binding)

variable {K C Req Msg : Type}

/-! ### Who answers -/

/-- The address a socket is bound by. -/
def Endpoint.address (abstractSockets : Bool) : Endpoint → Option (List Char)
  | .socket path =>
    if abstractSockets = true ∧ path.head? = some '@' then none else some path
  | .abstract name => if abstractSockets then some ('@' :: name) else none
  | .tcp _ _ => none

/-- The instance that answers at an endpoint. -/
def accepts (abstractSockets : Bool) (w : World K C Req Msg) (endpoint : Endpoint) : Option (K × C) :=
  (endpoint.address abstractSockets).bind fun address => w.sockets (String.ofList address)

/-- Only the socket of a handle has the address of the handle. -/
theorem address_eq_iff (abstractSockets : Bool) (tempDir : String) (pid : Nat) (id : UInt64)
    (endpoint : Endpoint) :
    endpoint.address abstractSockets = some (streamingProxyAddr tempDir pid id).toList ↔
      endpoint = (Listener.unix tempDir pid id).bound abstractSockets := by
  rw [Listener.bound]
  generalize (streamingProxyAddr tempDir pid id).toList = path
  split
  · next name =>
    cases abstractSockets with
    | true =>
      cases endpoint with
      | socket path =>
        refine iff_of_false ?_ (fun same => by cases same)
        simp only [Endpoint.address, true_and, Option.ite_none_left_eq_some, Option.some.injEq, not_and]
        rintro plain rfl
        exact plain rfl
      | abstract found => simp [Endpoint.address]
      | tcp host port => simp [Endpoint.address]
    | false => cases endpoint <;> simp [Endpoint.address]
  · next other =>
    have plain : path.head? ≠ some '@' := fun first => by
      obtain ⟨name, same⟩ := List.head?_eq_some_iff.mp first
      exact other name same
    cases endpoint with
    | socket found =>
      simp only [Endpoint.address, Option.ite_none_left_eq_some, Option.some.injEq,
        Endpoint.socket.injEq, and_iff_right_iff_imp]
      rintro rfl both
      exact plain both.2
    | abstract name =>
      simp only [Endpoint.address, Option.ite_none_right_eq_some, Option.some.injEq, reduceCtorEq,
        iff_false, not_and]
      exact fun _ same => other name same.symm
    | tcp host port => simp [Endpoint.address]

/-- What each binding dials of a Unix socket. -/
theorem dials_unix_iff (naming : Naming) {files : List Char → Bool} {abstractSockets : Bool}
    {tempDir : String} {pid : Nat} {id : UInt64}
    (present : Present files abstractSockets (.unix tempDir pid id)) (b : Binding) :
    dial naming files (streamingProxyAddr tempDir pid id) "unix" b =
        some ((Listener.unix tempDir pid id).bound abstractSockets) ↔
      Reached naming abstractSockets (.unix tempDir pid id) b := by
  rw [dial_unix]
  cases b with
  | node | python => exact target_iff naming tempDir pid id
  | rust | csharp => exact path_iff tempDir pid id
  | java =>
    by_cases there : files (streamingProxyAddr tempDir pid id).toList = true
    · dsimp only
      rw [if_pos there]
      exact path_iff tempDir pid id
    · dsimp only
      rw [if_neg there]
      refine iff_of_false (Option.some_ne_none _).symm fun plain => ?_
      -- Without its file the socket is a name, and the condition says that it is none.
      rcases bound_unix abstractSockets tempDir pid id with ⟨bound, -⟩ | ⟨-, on, named⟩
      · exact there (present _ bound)
      · exact plain on named

/-! ### Sockets and their instances -/

/-- An instance that is bound to a socket has a listener, and the socket is the one of its address.
-/
def Held (w : World K C Req Msg) : Prop :=
  ∀ address c, w.sockets address = some c →
    (∃ h, (w.see c.1).Listens c h) ∧ w.address c = address

theorem held_init : Held (World.init : World K C Req Msg) := by
  intro address c bound
  cases bound

variable [DecidableEq K] [DecidableEq C]

section Step

variable {svc : K → Service Req Msg} {w : World K C Req Msg} {t : State (K × C) Req Msg}
  {action : Action (K × C) Req} {new : Call (K × C) Req Msg}

/-- A step leaves an instance with a listener its listener, and its address unless it is the step's.
-/
theorem held_stays (calls : t.calls = Function.update (w.see action.call.1).calls action.call (some new))
    (change : SocketStep (svc action.call.1) (w.see action.call.1) t action new) {c : K × C} {h : UInt64}
    (listens : (w.see c.1).Listens c h)
    (same : (t.objects c).streamingAddr = ((w.see action.call.1).objects c).streamingAddr) :
    ((w.put action.call.1 t).see c.1).Listens c h ∧
      (w.put action.call.1 t).address c = w.address c := by
  unfold World.address
  by_cases own : c.1 = action.call.1
  · rw [own] at listens ⊢
    rw [see_put_self]
    exact ⟨listens_step calls change listens, same⟩
  · rw [see_put_other w own]
    exact ⟨listens, rfl⟩

/-- A step that binds nothing. -/
theorem held_kept (held : Held w)
    (calls : t.calls = Function.update (w.see action.call.1).calls action.call (some new))
    (change : SocketStep (svc action.call.1) (w.see action.call.1) t action new)
    (fewer : ∀ address c, t.sockets address = some c → w.sockets address = some c)
    (addresses : ∀ c, (t.objects c).streamingAddr = ((w.see action.call.1).objects c).streamingAddr) :
    Held (w.put action.call.1 t) := by
  intro address c bound
  obtain ⟨⟨h, listens⟩, same⟩ := held address c (fewer address c bound)
  obtain ⟨still, kept⟩ := held_stays calls change listens (addresses c)
  exact ⟨⟨h, still⟩, kept.trans same⟩

end Step

/-- **A step binds an instance to its own socket only.** -/
theorem held_step {svc : K → Service Req Msg} {w next : World K C Req Msg}
    {action : Action (K × C) Req} (sound : CopiesSound svc w) (held : Held w)
    (taken : w.step svc action = some next) : Held next := by
  obtain ⟨t, stepped, rfl⟩ := World.step_some taken
  obtain ⟨formed, addressed⟩ := sound action.call.1
  obtain ⟨new, calls, change⟩ := step_sockets formed addressed stepped
  have kept := held_kept held calls change
  have stays := fun c h => held_stays calls change (c := c) (h := h)
  cases change with
  | quiet idle opening listens frame =>
    exact kept (fun place c bound => (congrFun frame.sockets place).symm.trans bound) frame.addresses
  | insert h own idle before opening listens sockets addresses =>
    exact kept (fun place c bound => (congrFun sockets place).symm.trans bound) addresses
  | delete h own idle opening listens sockets addresses =>
    exact kept (fun place c bound => (congrFun sockets place).symm.trans bound) addresses
  | remove h own removing opening listens sockets addresses =>
    refine kept (fun place c bound => ?_) addresses
    rw [sockets, Function.update_apply] at bound
    split at bound
    · cases bound
    · exact bound
  | bind h own idle shut opening free sockets address addresses =>
    intro place c bound
    have listener : t.sockets place = some c := bound
    rw [sockets, Function.update_apply] at listener
    split at listener
    · next here =>
      cases listener
      unfold World.address
      rw [see_put_self, here]
      refine ⟨⟨h, ?_⟩, address⟩
      rw [State.Listens, calls, Function.update_self]
      exact Call.listens_of_opening opening
    · obtain ⟨⟨k, listens⟩, same⟩ := held place c listener
      have other : c ≠ action.call := by
        rintro rfl
        rw [State.Listens, shut] at listens
        cases listens
      obtain ⟨still, stays⟩ := stays c k listens (addresses c other)
      exact ⟨⟨k, still⟩, stays.trans same⟩

/-- What every run of the copies keeps. -/
theorem held_exec {svc : K → Service Req Msg} {w : World K C Req Msg}
    {actions : List (Action (K × C) Req)} (run : exec (World.step svc) .init actions = some w) :
    CopiesSound svc w ∧ Held w :=
  @exec_invariant _ _ _ (fun w => CopiesSound svc w ∧ Held w)
    (fun _ _ _ inv taken => ⟨copiesSound_step inv.1 taken, held_step inv.1 inv.2 taken⟩) _ _ _ run
    ⟨copiesSound_init svc, held_init⟩

/-! ### Streams -/

/-- **The client of a live instance is answered by that instance exactly where its binding dials as
it should**, in every interleaving of the copies, with one in each process and a temp directory that is
text. A binding that takes the path as it is reaches no other instance. -/
theorem streams_reach {base : Service Req Msg} {tempDir : String} {pid : K → Nat}
    (distinct : Function.Injective pid) {actions : List (Action (K × C) Req)}
    (few : ∀ k, startsOf k actions < 2 ^ 64) {m : World K C Req Msg}
    (through : Passes (World.step (copyServices base tempDir pid)) .init actions m) {c : K × C}
    {h : UInt64} (live : m.Live c h) (naming : Naming) {files : List Char → Bool}
    {abstractSockets : Bool}
    (present : ∀ path, accepts abstractSockets m (.socket path) ≠ none → files path = true)
    (b : Binding) :
    ((dial naming files (m.address c) "unix" b).bind (accepts abstractSockets m) = some c ↔
        Reached naming abstractSockets (.unix tempDir (pid c.1) h) b) ∧
      (b ≠ .node → b ≠ .python → ∀ d,
        (dial naming files (m.address c) "unix" b).bind (accepts abstractSockets m) = some d →
          d = c) := by
  have owned := (sockets_owned_of_distinct_pids distinct few through).bound c h live
  obtain ⟨before, _, reached⟩ := through
  obtain ⟨sound, held⟩ := held_exec reached
  have address : m.address c = streamingProxyAddr tempDir (pid c.1) h := (sound c.1).2.live live
  have answers : accepts abstractSockets m ((Listener.unix tempDir (pid c.1) h).bound abstractSockets) =
      some c := by
    rw [accepts, (address_eq_iff abstractSockets tempDir (pid c.1) h _).mpr rfl, Option.bind_some,
      String.ofList_toList, ← address]
    exact owned
  have there : Present files abstractSockets (.unix tempDir (pid c.1) h) := by
    intro path bound
    rw [bound] at answers
    exact present path (answers ▸ Option.some_ne_none c)
  -- What the instance answers at has its address.
  have only : ∀ endpoint, accepts abstractSockets m endpoint = some c →
      endpoint = (Listener.unix tempDir (pid c.1) h).bound abstractSockets := by
    intro endpoint answered
    obtain ⟨place, named, bound⟩ := Option.bind_eq_some_iff.mp answered
    have same := (held _ c bound).2
    rw [address] at same
    rw [← address_eq_iff, named, same, String.toList_ofList]
  rw [address]
  refine ⟨?_, fun notNode notPython d answered => ?_⟩
  · rw [← dials_unix_iff naming there b, Option.bind_eq_some_iff]
    constructor
    · rintro ⟨endpoint, dialed, answered⟩
      rw [dialed, only endpoint answered]
    · exact fun dialed => ⟨_, dialed, answers⟩
  · obtain ⟨endpoint, dialed, met⟩ := Option.bind_eq_some_iff.mp answered
    have straight : endpoint = .socket (streamingProxyAddr tempDir (pid c.1) h).toList := by
      rw [dial_unix] at dialed
      cases b with
      | node => exact absurd rfl notNode
      | python => exact absurd rfl notPython
      | rust | csharp => exact (Option.some.inj dialed).symm
      | java =>
        dsimp only at dialed
        split at dialed
        · exact (Option.some.inj dialed).symm
        · cases dialed
    obtain ⟨place, named, bound⟩ := Option.bind_eq_some_iff.mp met
    rw [straight, Endpoint.address, Option.ite_none_left_eq_some, Option.some.injEq] at named
    rw [← named.2, String.ofList_toList, ← address, owned] at bound
    exact (Option.some.inj bound).symm

/-- The processes of two copies. -/
def twoProcesses (k : Bool) : Nat := if k then 7 else 8

/-- Each has started an instance, and Python dials the second one. -/
theorem streams_reach_twoProcesses :
    ∃ m, exec (World.step (copyServices countingService "/tmp" twoProcesses)) .init twoCopies = some m ∧
      (dial coreNaming (fun _ => true) (m.address (true, 0)) "unix" .python).bind (accepts true m) =
        some (true, 0) := by
  have shape : (exec (World.step (copyServices countingService "/tmp" twoProcesses)) .init
      twoCopies).map (fun m => (m.see true).instances 1) = some (some (true, 0)) := by decide
  obtain ⟨m, run, inserted⟩ := Option.map_eq_some_iff.mp shape
  have distinct : ∀ k j, twoProcesses k = twoProcesses j → k = j := by decide
  have few : ∀ k, startsOf k twoCopies < 2 ^ 64 := by decide
  have live : m.Live (true, 0) 1 := .inr inserted
  have plain : (streamingProxyAddr "/tmp" 7 1).toList.all Text.pathChar = true := by decide
  have reached : Reached coreNaming true (.unix "/tmp" (twoProcesses true) 1) .python :=
    ⟨by decide, (Text.readPath_eq_self_iff _).mpr plain⟩
  exact ⟨m, run, (streams_reach distinct few (passes_end _ run) live coreNaming (fun _ _ => rfl)
    .python).1.mpr reached⟩

end SpicedbEmbedded.Clients
