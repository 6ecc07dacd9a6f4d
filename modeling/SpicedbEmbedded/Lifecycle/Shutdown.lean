/-
**Shutting down with streams open.**

One instance, its streaming proxy and the handlers of the streams open on it: the forward loops of
`shared/c/streaming_proxy.go` and `spicedb_dispose` of `shared/c/main.go`, statement by statement. The
parties are the thread in `spicedb_dispose`, one handler a stream, the goroutines of `server.Run` and
`srv.Serve`, and the clients of the proxy, who may do nothing at all.

What they rely on is gRPC: a closed client connection makes every pending `Recv` fail, `GracefulStop`
returns once every handler has, and `Send` waits while the client's window is full and the stream's
context live.

* `Stuck` — a dispose has begun and has not returned, and no step of the library is enabled.
* `Orderly` — what a dispose that has come so far has done; `Clear` — it leaves no handler blocked.
* **`dispose_stuck_free`** — a run is free of a stuck dispose when none begins with a handler blocked
  in `Send` and no handler takes a message for a full window once one has begun; and from any run that
  does one of these, steps of the library alone lead to a stuck dispose.
-/

import Mathlib.Algebra.BigOperators.Group.List.Basic
import Mathlib.Algebra.Ring.Nat
import SpicedbEmbedded.Machine.Run

namespace SpicedbEmbedded.Lifecycle.Shutdown

open Machine

/-! ### Streams -/

/-- The RPCs the proxy serves. -/
inductive Rpc
  | readRelationships
  | lookupResources
  | lookupSubjects
  | watch
  deriving DecidableEq

/-- Where a handler of the proxy is: in the call that opens the stream to the backend, in
`stream.Recv`, in `srv.Send`, or done. -/
inductive Phase
  | opening
  | receiving
  | sending
  | returned
  deriving DecidableEq

/-- A stream open on the proxy. The window is what its client has room for; the stream is live until
its client cancels it. -/
structure Stream where
  rpc : Rpc
  phase : Phase := .opening
  window : Nat
  live : Bool := true
  deriving DecidableEq

/-- How the call a handler is in comes back. -/
inductive Event
  | opened
  | message
  /-- the end of the backend's stream, or an error of it -/
  | ended
  /-- the connection is closed or the stream cancelled -/
  | cut
  | sent
  | sendFailed
  deriving DecidableEq

namespace Stream

/-- The forward loop, which is the same for the four RPCs: `Recv` and `Send` in turn until one of them
ends it. -/
def forward (connOpen : Bool) (stream : Stream) : Event → Option Stream
  | .opened =>
    if stream.phase = .opening ∧ connOpen then some { stream with phase := .receiving } else none
  | .message =>
    if stream.phase = .receiving ∧ connOpen then some { stream with phase := .sending } else none
  | .ended =>
    if (stream.phase = .opening ∨ stream.phase = .receiving) ∧ connOpen then
      some { stream with phase := .returned }
    else none
  | .cut =>
    if (stream.phase = .opening ∨ stream.phase = .receiving) ∧ ¬ (connOpen ∧ stream.live) then
      some { stream with phase := .returned }
    else none
  | .sent =>
    if stream.phase = .sending ∧ stream.live ∧ 0 < stream.window then
      some { stream with phase := .receiving, window := stream.window - 1 }
    else none
  | .sendFailed =>
    if stream.phase = .sending ∧ ¬ stream.live then some { stream with phase := .returned }
    else none

variable (stream : Stream)

/-- The client has no room, and has not cancelled. -/
def Full : Prop := stream.window = 0 ∧ stream.live = true

/-- The handler is in a `Send` that waits for its client. -/
def Blocked : Prop := stream.phase = .sending ∧ stream.Full

instance : Decidable stream.Full := inferInstanceAs (Decidable (_ ∧ _))

instance : Decidable stream.Blocked := inferInstanceAs (Decidable (_ ∧ _))

/-- How many events a handler has before it at most, until its client makes room. -/
def ahead : Nat :=
  match stream.phase with
  | .opening => 2 * stream.window + 3
  | .receiving => 2 * stream.window + 2
  | .sending => 2 * stream.window + 1
  | .returned => 0

end Stream

/-! ### The instance -/

/-- The statement of `spicedb_dispose` that comes next, after it has taken the instance out of the
registry. -/
inductive Pc
  | uncalled
  | cancelling
  | closing
  | stopping
  /-- in `GracefulStop`, which has refused new streams and waits for the handlers -/
  | draining
  | unlistening
  | waiting
  | cleaning
  | returned
  deriving DecidableEq

/-- How far the dispose has come. -/
def Pc.rank : Pc → Nat
  | .uncalled => 0
  | .cancelling => 1
  | .closing => 2
  | .stopping => 3
  | .draining => 4
  | .unlistening => 5
  | .waiting => 6
  | .cleaning => 7
  | .returned => 8

/-- An instance with its proxy. `running` and `serving` are the two goroutines of its wait group. -/
structure State where
  pc : Pc
  cancelled : Bool
  connOpen : Bool
  accepting : Bool
  stopped : Bool
  listening : Bool
  running : Bool
  serving : Bool
  streams : List Stream

/-- The instance as its start leaves it. -/
def State.init : State where
  pc := .uncalled
  cancelled := false
  connOpen := true
  accepting := true
  stopped := false
  listening := true
  running := true
  serving := true
  streams := []

inductive Action
  /-- a client opens a stream -/
  | opens (rpc : Rpc) (window : Nat)
  /-- a client reads, and so makes room -/
  | reads (i : Nat) (room : Nat)
  /-- a client cancels a stream -/
  | cancels (i : Nat)
  /-- a binding calls `spicedb_dispose` -/
  | dispose
  | forward (i : Nat) (event : Event)
  | runEnds
  | serveEnds
  | proceed

/-- The steps of the library side. -/
def Action.Library : Action → Prop
  | .forward _ _ | .runEnds | .serveEnds | .proceed => True
  | .opens _ _ | .reads _ _ | .cancels _ | .dispose => False

/-- The steps of the library side that take no further message from the backend. -/
def Action.Winding : Action → Prop
  | .forward _ event => event ≠ .message
  | .runEnds | .serveEnds | .proceed => True
  | .opens _ _ | .reads _ _ | .cancels _ | .dispose => False

namespace State

variable (s : State)

/-- Every handler has returned. -/
def Drained : Prop := ∀ stream ∈ s.streams, stream.phase = .returned

instance : Decidable s.Drained := inferInstanceAs (Decidable (∀ _ ∈ _, _))

/-- The next statement of `spicedb_dispose`. -/
def proceed : Option State :=
  match s.pc with
  | .uncalled => none
  | .cancelling => some { s with pc := .closing, cancelled := true }
  | .closing => some { s with pc := .stopping, connOpen := false }
  | .stopping => some { s with pc := .draining, accepting := false }
  | .draining => if s.Drained then some { s with pc := .unlistening, stopped := true } else none
  | .unlistening => some { s with pc := .waiting, listening := false }
  | .waiting => if ¬ s.running ∧ ¬ s.serving then some { s with pc := .cleaning } else none
  | .cleaning => some { s with pc := .returned }
  | .returned => none

/-- Leaves stream `i` as `f` makes it, where `f` can. -/
def setStream (i : Nat) (f : Stream → Option Stream) : Option State :=
  (s.streams[i]?.bind f).map fun stream => { s with streams := s.streams.set i stream }

end State

/-- One step of one party. -/
def step (s : State) : Action → Option State
  | .opens rpc window =>
    if s.accepting ∧ s.listening then
      some { s with streams := s.streams ++ [{ rpc := rpc, window := window }] }
    else none
  | .reads i room =>
    s.setStream i fun stream => some { stream with window := stream.window + room }
  | .cancels i => s.setStream i fun stream => some { stream with live := false }
  | .dispose => if s.pc = .uncalled then some { s with pc := .cancelling } else none
  | .forward i event => s.setStream i fun stream => stream.forward s.connOpen event
  | .runEnds => if s.running ∧ s.cancelled then some { s with running := false } else none
  | .serveEnds =>
    if s.serving ∧ (s.stopped ∨ ¬ s.listening) then some { s with serving := false } else none
  | .proceed => s.proceed

/-! ### Stuck -/

/-- A dispose is under way. -/
def State.Disposing (s : State) : Prop := s.pc ≠ .uncalled ∧ s.pc ≠ .returned

/-- A dispose is under way, and no step of the library side is enabled. -/
def Stuck (s : State) : Prop :=
  s.Disposing ∧ ∀ action : Action, action.Library → step s action = none

/-- No handler is left blocked by a dispose: none is when it begins, and none takes a message for a
full window afterwards. -/
def Unblocked (s : State) : Action → Prop
  | .dispose => ∀ stream ∈ s.streams, ¬ stream.Blocked
  | .forward i .message => s.pc ≠ .uncalled → ∀ stream, s.streams[i]? = some stream → ¬ stream.Full
  | _ => True

/-! ### What a handler does -/

namespace Stream

variable {conn : Bool} {stream new : Stream} {event : Event}

/-- Every event brings a handler nearer to its end. -/
theorem forward_ahead (next : stream.forward conn event = some new) : new.ahead < stream.ahead := by
  cases event <;> simp only [forward] at next <;> split at next <;> cases next
  case opened now => simp [ahead, now.1]
  case message now => simp [ahead, now.1]
  case ended now => rcases now.1 with at_ | at_ <;> simp [ahead, at_]
  case cut now => rcases now.1 with at_ | at_ <;> simp [ahead, at_]
  case sent now =>
    simp only [ahead, now.1]
    omega
  case sendFailed now => simp [ahead, now.1]

/-- A handler comes to be blocked by taking a message for a full window, and by nothing else. -/
theorem forward_blocked (next : stream.forward conn event = some new) :
    new.Blocked ↔ event = .message ∧ stream.Full := by
  cases event <;> simp only [forward] at next <;> split at next <;> cases next <;>
    simp [Blocked, Full]

theorem forward_not_returned (next : stream.forward conn event = some new) :
    stream.phase ≠ .returned := by
  intro done
  cases event <;> simp [forward, done] at next

/-- A blocked handler waits for its client. -/
theorem forward_of_blocked (blocked : stream.Blocked) : stream.forward conn event = none := by
  obtain ⟨sending, empty, live⟩ := blocked
  cases event <;> simp [forward, sending, empty, live]

/-- On a closed connection every handler that is not blocked has a way on, and it is not a message. -/
theorem forward_enabled (left : stream.phase ≠ .returned) (free : ¬ stream.Blocked) :
    ∃ event, event ≠ .message ∧ stream.forward false event ≠ none := by
  cases at_ : stream.phase with
  | opening => exact ⟨.cut, nofun, by simp [forward, at_]⟩
  | receiving => exact ⟨.cut, nofun, by simp [forward, at_]⟩
  | sending =>
    cases live : stream.live with
    | false => exact ⟨.sendFailed, nofun, by simp [forward, at_, live]⟩
    | true =>
      have room : 0 < stream.window := by
        by_contra none
        exact free ⟨at_, by omega, live⟩
      exact ⟨.sent, nofun, by simp [forward, at_, live, room]⟩
  | returned => exact absurd at_ left

end Stream

/-! ### The order of a shutdown -/

theorem setStream_some {s t : State} {i : Nat} {f : Stream → Option Stream} :
    s.setStream i f = some t ↔ ∃ old new, s.streams[i]? = some old ∧ f old = some new ∧
      t = { s with streams := s.streams.set i new } := by
  constructor
  · intro next
    obtain ⟨new, made, rfl⟩ := Option.map_eq_some_iff.mp next
    obtain ⟨old, here, changed⟩ := Option.bind_eq_some_iff.mp made
    exact ⟨old, new, here, changed, rfl⟩
  · rintro ⟨old, new, here, made, rfl⟩
    simp [State.setStream, here, made]

theorem disposing_iff {s : State} :
    s.Disposing ↔ 1 ≤ s.pc.rank ∧ s.pc.rank ≤ 7 := by
  cases at_ : s.pc <;> simp [State.Disposing, at_, Pc.rank]

theorem called_iff {pc : Pc} : pc ≠ .uncalled ↔ 1 ≤ pc.rank := by
  cases pc <;> simp [Pc.rank]

/-- What a dispose that has come so far has done. -/
structure Orderly (s : State) : Prop where
  cancelled : 2 ≤ s.pc.rank → s.cancelled = true
  closed : 3 ≤ s.pc.rank → s.connOpen = false
  refuses : 4 ≤ s.pc.rank → s.accepting = false
  drained : 5 ≤ s.pc.rank → s.Drained
  stopped : 5 ≤ s.pc.rank → s.stopped = true

theorem init_orderly : Orderly State.init := by
  constructor <;> intro far <;> cases far

/-- A stream is changed in place: what held of all of them still does if it holds of the new one. -/
theorem Orderly.setStream {s : State} (orderly : Orderly s) {i : Nat} {old new : Stream}
    (here : s.streams[i]? = some old) (done : old.phase = .returned → new.phase = .returned) :
    Orderly { s with streams := s.streams.set i new } where
  cancelled := orderly.cancelled
  closed := orderly.closed
  refuses := orderly.refuses
  drained far := by
    intro stream inside
    rcases List.mem_or_eq_of_mem_set inside with before | rfl
    · exact orderly.drained far stream before
    · exact done (orderly.drained far old (List.mem_of_getElem? here))
  stopped := orderly.stopped

/-- What one statement of `spicedb_dispose` does, by how far it has come. -/
structure Proceeded (s t : State) : Prop where
  called : 1 ≤ s.pc.rank
  rank : t.pc.rank = s.pc.rank + 1
  cancelled : t.cancelled = if s.pc.rank = 1 then true else s.cancelled
  connOpen : t.connOpen = if s.pc.rank = 2 then false else s.connOpen
  accepting : t.accepting = if s.pc.rank = 3 then false else s.accepting
  stopped : t.stopped = if s.pc.rank = 4 then true else s.stopped
  drained : s.pc.rank = 4 → s.Drained
  running : t.running = s.running
  serving : t.serving = s.serving
  streams : t.streams = s.streams

theorem proceeded {s t : State} (next : s.proceed = some t) : Proceeded s t := by
  unfold State.proceed at next
  cases at_ : s.pc <;> simp only [at_] at next
  case uncalled | returned => cases next
  case draining =>
    split at next
    next all =>
      cases next
      constructor <;> simp [at_, Pc.rank, all]
    next => cases next
  case waiting =>
    split at next
    · cases next
      constructor <;> simp [at_, Pc.rank]
    · cases next
  all_goals
    cases next
    constructor <;> simp [at_, Pc.rank]

theorem proceed_orderly {s t : State} (orderly : Orderly s) (next : s.proceed = some t) :
    Orderly t := by
  have p := proceeded next
  have rank := p.rank
  refine ⟨fun far => ?_, fun far => ?_, fun far => ?_, fun far => ?_, fun far => ?_⟩
  · rw [p.cancelled]
    split
    · rfl
    · exact orderly.cancelled (by omega)
  · rw [p.connOpen]
    split
    · rfl
    · exact orderly.closed (by omega)
  · rw [p.accepting]
    split
    · rfl
    · exact orderly.refuses (by omega)
  · rw [State.Drained, p.streams]
    by_cases last : s.pc.rank = 4
    · exact p.drained last
    · exact orderly.drained (by omega)
  · rw [p.stopped]
    split
    · rfl
    · exact orderly.stopped (by omega)

theorem step_orderly (s : State) (action : Action) (t : State) (orderly : Orderly s)
    (next : step s action = some t) : Orderly t := by
  cases action with
  | opens rpc window =>
    simp only [step] at next
    split at next
    next open_ =>
      cases next
      refine ⟨orderly.cancelled, orderly.closed, orderly.refuses, fun far => ?_, orderly.stopped⟩
      have refused := orderly.refuses (Nat.le_of_succ_le far)
      rw [refused] at open_
      cases open_.1
    next => cases next
  | reads i room =>
    obtain ⟨old, new, here, made, rfl⟩ := setStream_some.mp next
    cases made
    exact orderly.setStream here id
  | cancels i =>
    obtain ⟨old, new, here, made, rfl⟩ := setStream_some.mp next
    cases made
    exact orderly.setStream here id
  | dispose =>
    simp only [step] at next
    split at next
    · cases next
      constructor <;> simp [Pc.rank]
    · cases next
  | forward i event =>
    obtain ⟨old, new, here, made, rfl⟩ := setStream_some.mp next
    exact orderly.setStream here fun done => absurd done (Stream.forward_not_returned made)
  | runEnds | serveEnds =>
    simp only [step] at next
    split at next <;> cases next
    exact ⟨orderly.cancelled, orderly.closed, orderly.refuses, orderly.drained, orderly.stopped⟩
  | proceed => exact proceed_orderly orderly next

/-! ### No handler left blocked -/

/-- Once a dispose has begun, no handler is blocked. -/
def Clear (s : State) : Prop := s.pc ≠ .uncalled → ∀ stream ∈ s.streams, ¬ stream.Blocked

theorem init_clear : Clear State.init := fun called => absurd rfl called

/-- A stream changed in place keeps the handlers clear exactly when its own handler is not blocked. -/
theorem clear_setStream {s : State} (clear : Clear s) {i : Nat} {old new : Stream}
    (here : s.streams[i]? = some old) :
    Clear { s with streams := s.streams.set i new } ↔ (s.pc ≠ .uncalled → ¬ new.Blocked) := by
  obtain ⟨inside, _⟩ := List.getElem?_eq_some_iff.mp here
  constructor
  · exact fun after called => after called new (List.mem_set inside new)
  · intro free called stream known
    rcases List.mem_or_eq_of_mem_set known with before | rfl
    · exact clear called stream before
    · exact free called

/-- **One step keeps the handlers clear exactly under the condition.** -/
theorem clear_step (s : State) (action : Action) (t : State) (clear : Clear s)
    (next : step s action = some t) : Clear t ↔ Unblocked s action := by
  cases action with
  | opens rpc window =>
    simp only [step] at next
    split at next <;> cases next
    refine iff_of_true (fun called stream known => ?_) trivial
    rcases List.mem_append.mp known with before | new
    · exact clear called stream before
    · cases List.mem_singleton.mp new
      rintro ⟨sending, _⟩
      cases sending
  | reads i room =>
    obtain ⟨old, new, here, made, rfl⟩ := setStream_some.mp next
    cases made
    refine iff_of_true ((clear_setStream clear here).mpr fun called blocked => ?_) trivial
    obtain ⟨sending, empty, live⟩ := blocked
    exact clear called old (List.mem_of_getElem? here) ⟨sending, Nat.eq_zero_of_add_eq_zero_right empty, live⟩
  | cancels i =>
    obtain ⟨old, new, here, made, rfl⟩ := setStream_some.mp next
    cases made
    refine iff_of_true ((clear_setStream clear here).mpr fun _ blocked => ?_) trivial
    cases blocked.2.2
  | dispose =>
    simp only [step] at next
    split at next <;> cases next
    exact ⟨fun after => after nofun, fun free _ => free⟩
  | forward i event =>
    obtain ⟨old, new, here, made, rfl⟩ := setStream_some.mp next
    rw [clear_setStream clear here, Stream.forward_blocked made]
    cases event <;> simp [Unblocked, here]
  | runEnds | serveEnds =>
    simp only [step] at next
    split at next <;> cases next
    exact iff_of_true clear trivial
  | proceed =>
    have p := proceeded next
    refine iff_of_true (fun _ => ?_) trivial
    rw [p.streams]
    exact clear (called_iff.mpr p.called)

/-! ### A way on -/

theorem Action.Winding.library {action : Action} (winding : action.Winding) : action.Library := by
  cases action <;> trivial

/-- **A dispose that leaves no handler blocked has a way on**, whatever the backend does. -/
theorem way_on {s : State} (orderly : Orderly s) (clear : Clear s) (disposing : s.Disposing) :
    ∃ action : Action, action.Winding ∧ step s action ≠ none := by
  by_contra nowhere
  have still : ∀ action : Action, action.Winding → step s action = none := by
    intro action winding
    by_contra enabled
    exact nowhere ⟨action, winding, enabled⟩
  have called : s.pc ≠ .uncalled := disposing.1
  have proceeds : s.proceed = none := still .proceed trivial
  unfold State.proceed at proceeds
  cases at_ : s.pc <;> simp only [at_] at proceeds
  case uncalled => exact called at_
  case returned => exact disposing.2 at_
  case cancelling | closing | stopping | unlistening | cleaning => cases proceeds
  case draining =>
    -- some handler has not returned, and its call comes back
    have closed : s.connOpen = false := orderly.closed (by rw [at_]; decide)
    split at proceeds
    · cases proceeds
    next left =>
      simp only [State.Drained, not_forall] at left
      obtain ⟨stream, known, left⟩ := left
      obtain ⟨event, other, moves⟩ := Stream.forward_enabled left (clear called stream known)
      obtain ⟨i, inside, rfl⟩ := List.getElem_of_mem known
      refine moves ?_
      have none := still (.forward i event) other
      simpa [step, State.setStream, closed, inside] using none
  case waiting =>
    -- one of the two goroutines is running, and it ends
    have cancelled : s.cancelled = true := orderly.cancelled (by rw [at_]; decide)
    have stopped : s.stopped = true := orderly.stopped (by rw [at_]; decide)
    have ran := still .runEnds trivial
    have served := still .serveEnds trivial
    simp only [step, cancelled, stopped] at ran served
    cases running : s.running <;> cases serving : s.serving <;> simp_all

theorem not_stuck {s : State} (orderly : Orderly s) (clear : Clear s) : ¬ Stuck s := by
  rintro ⟨disposing, still⟩
  obtain ⟨action, winding, enabled⟩ := way_on orderly clear disposing
  exact enabled (still action winding.library)

/-! ### The library side comes to rest -/

/-- How many steps the library side has before it at most, while its clients do nothing. -/
def ahead (s : State) : Nat :=
  (s.streams.map Stream.ahead).sum + (8 - s.pc.rank) + s.running.toNat + s.serving.toNat

theorem sum_set_lt {f : Stream → Nat} {new : Stream} :
    ∀ {streams : List Stream} {i : Nat} {old : Stream}, streams[i]? = some old → f new < f old →
      ((streams.set i new).map f).sum < (streams.map f).sum := by
  intro streams
  induction streams with
  | nil => exact fun here => by cases here
  | cons first streams ih =>
    intro i old here less
    cases i with
    | zero =>
      cases here
      simpa using less
    | succ i =>
      have fewer := ih (i := i) here less
      simpa using fewer

theorem ahead_falls (s : State) (action : Action) (t : State) (library : action.Library)
    (next : step s action = some t) : ahead t < ahead s := by
  cases action with
  | opens | reads | cancels | dispose => cases library
  | forward i event =>
    obtain ⟨old, new, known, made, rfl⟩ := setStream_some.mp next
    have fewer := sum_set_lt known (Stream.forward_ahead made)
    simp only [ahead]
    omega
  | runEnds =>
    simp only [step] at next
    split at next
    next now =>
      cases next
      simp [ahead, now.1]
    next => cases next
  | serveEnds =>
    simp only [step] at next
    split at next
    next now =>
      cases next
      simp [ahead, now.1]
    next => cases next
  | proceed =>
    have p := proceeded next
    have rank := p.rank
    have last : t.pc.rank ≤ 8 := by cases t.pc <;> decide
    simp only [ahead, p.streams, p.running, p.serving]
    omega

theorem unblocked_of_winding {s : State} {action : Action} (winding : action.Winding) :
    Unblocked s action := by
  cases action with
  | forward i event =>
    cases event with
    | message => exact absurd rfl winding
    | opened | ended | cut | sent | sendFailed => trivial
  | dispose => cases winding
  | opens | reads | cancels | runEnds | serveEnds | proceed => trivial

/-- A dispose that has been called stays called. -/
theorem called_step {s t : State} {action : Action} (library : action.Library)
    (called : 1 ≤ s.pc.rank) (next : step s action = some t) : 1 ≤ t.pc.rank := by
  cases action with
  | opens | reads | cancels | dispose => cases library
  | forward i event =>
    obtain ⟨_, _, _, _, rfl⟩ := setStream_some.mp next
    exact called
  | runEnds | serveEnds =>
    simp only [step] at next
    split at next <;> cases next
    exact called
  | proceed =>
    have rank := (proceeded next).rank
    omega

/-- **A dispose that leaves no handler blocked returns**, with steps of the library alone. -/
theorem clear_returns {s : State} (orderly : Orderly s) (clear : Clear s) (disposing : s.Disposing) :
    ∃ actions t, (∀ action ∈ actions, action.Library) ∧ exec step s actions = some t ∧
      t.pc = .returned := by
  obtain ⟨actions, t, winding, run, ⟨called, order, free⟩, still⟩ :=
    @exists_rest _ _ step Action.Winding (fun t => 1 ≤ t.pc.rank ∧ Orderly t ∧ Clear t) ahead
      (fun s action t winding inv next =>
        ⟨called_step winding.library inv.1 next, step_orderly s action t inv.2.1 next,
          (clear_step s action t inv.2.2 next).mpr (unblocked_of_winding winding)⟩)
      (fun s action t winding _ next => ahead_falls s action t winding.library next) s
      ⟨called_iff.mp disposing.1, orderly, clear⟩
  refine ⟨actions, t, fun action inside => (winding action inside).library, run, ?_⟩
  by_contra left
  obtain ⟨action, mine, enabled⟩ := way_on order free ⟨called_iff.mpr called, left⟩
  exact enabled (still action mine)

/-! ### No way on -/

/-- The handler of stream `i` is blocked, and a dispose has begun that has yet to wait for it. -/
structure Doomed (i : Nat) (s : State) : Prop where
  orderly : Orderly s
  called : 1 ≤ s.pc.rank
  blocked : ∃ stream, s.streams[i]? = some stream ∧ stream.Blocked

/-- The dispose still waits for it. -/
theorem Doomed.waits {i : Nat} {s : State} (doomed : Doomed i s) : s.pc.rank ≤ 4 := by
  by_contra far
  obtain ⟨stream, here, sending, _⟩ := doomed.blocked
  have done := doomed.orderly.drained (by omega) stream (List.mem_of_getElem? here)
  rw [done] at sending
  cases sending

theorem doomed_step {i : Nat} (s : State) (action : Action) (t : State) (library : action.Library)
    (doomed : Doomed i s) (next : step s action = some t) : Doomed i t := by
  refine ⟨step_orderly s action t doomed.orderly next, called_step library doomed.called next, ?_⟩
  obtain ⟨stream, here, blocked⟩ := doomed.blocked
  cases action with
  | opens | reads | cancels | dispose => cases library
  | forward j event =>
    obtain ⟨old, new, known, made, rfl⟩ := setStream_some.mp next
    have other : i ≠ j := by
      rintro rfl
      rw [here] at known
      cases known
      rw [Stream.forward_of_blocked blocked] at made
      cases made
    exact ⟨stream, by rw [List.getElem?_set_ne other.symm, here], blocked⟩
  | runEnds | serveEnds =>
    simp only [step] at next
    split at next <;> cases next
    exact ⟨stream, here, blocked⟩
  | proceed => exact ⟨stream, by rw [(proceeded next).streams, here], blocked⟩

/-- **A dispose that leaves a handler blocked gets stuck**, unless a client acts. -/
theorem doomed_stuck {i : Nat} {s : State} (doomed : Doomed i s) :
    ∃ actions t, (∀ action ∈ actions, action.Library) ∧ exec step s actions = some t ∧ Stuck t := by
  obtain ⟨actions, t, library, run, after, still⟩ :=
    @exists_rest _ _ step Action.Library (Doomed i) ahead doomed_step
      (fun s action t library _ next => ahead_falls s action t library next) s doomed
  refine ⟨actions, t, library, run, disposing_iff.mpr ⟨after.called, ?_⟩, still⟩
  have waits := after.waits
  omega

/-! ### Every run -/

/-- **When a dispose gets stuck.** In a run that leaves no handler blocked, no state is stuck, and from
each the library side alone brings the dispose to its return. From any other run, it alone brings it
to a stuck state. -/
theorem dispose_stuck_free (actions : List Action) :
    (Meets step Unblocked State.init actions → ∀ s, Passes step State.init actions s →
      ¬ Stuck s ∧ (s.Disposing → ∃ more t, (∀ action ∈ more, action.Library) ∧
        exec step s more = some t ∧ t.pc = .returned)) ∧
    (¬ Meets step Unblocked State.init actions → ∃ s, Passes step State.init actions s ∧
      ∃ more t, (∀ action ∈ more, action.Library) ∧ exec step s more = some t ∧ Stuck t) := by
  have orderly : ∀ s, Passes step State.init actions s → Orderly s := by
    rintro s ⟨before, _, run⟩
    exact exec_invariant step_orderly run init_orderly
  have exact_run : (∀ s, Passes step State.init actions s → Clear s) ↔
      Meets step Unblocked State.init actions :=
    @passes_iff_meets _ _ step (fun _ => True) Clear Unblocked (fun _ _ _ _ _ => trivial)
      (fun s action t _ clear next => clear_step s action t clear next) actions State.init trivial
      init_clear
  rw [← exact_run]
  constructor
  · intro clear s through
    exact ⟨not_stuck (orderly s through) (clear s through),
      clear_returns (orderly s through) (clear s through)⟩
  · intro unclear
    obtain ⟨s, through, blocked⟩ : ∃ s, Passes step State.init actions s ∧ ¬ Clear s := by
      by_contra none
      exact unclear fun s through => by_contra fun blocked => none ⟨s, through, blocked⟩
    obtain ⟨called, stream, known, waits⟩ : s.pc ≠ .uncalled ∧
        ∃ stream ∈ s.streams, stream.Blocked := by
      simpa [Clear] using blocked
    obtain ⟨i, inside, rfl⟩ := List.getElem_of_mem known
    exact ⟨s, through, doomed_stuck
      ⟨orderly s through, called_iff.mp called, _, List.getElem?_eq_getElem inside, waits⟩⟩

/-- A watch whose client has room for nothing and neither reads nor cancels: its handler takes one
message, and the instance is disposed. -/
def abandonedWatch : List Action :=
  [.opens .watch 0, .forward 0 .opened, .forward 0 .message, .dispose, .proceed, .proceed, .proceed,
    .runEnds]

/-- The dispose waits in `GracefulStop` for a handler that waits for the client. -/
theorem abandonedWatch_stuck :
    ¬ ∀ (actions : List Action) (s : State), Passes step State.init actions s → ¬ Stuck s := by
  intro free
  refine free abandonedWatch _ (passes_end step rfl) ⟨⟨nofun, nofun⟩, fun action library => ?_⟩
  cases action with
  | opens | reads | cancels | dispose => cases library
  | forward i event => cases i <;> cases event <;> rfl
  | runEnds | serveEnds | proceed => rfl

end SpicedbEmbedded.Lifecycle.Shutdown
