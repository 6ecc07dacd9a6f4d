/-
**The library side after a dispose.**

What is left of an instance once `spicedb_dispose` has returned, over every run of `Shutdown`: the
streams, the server and its goroutines, and whatever the clients do.

* `Wound` — a dispose that has come so far has ended the listener, and both goroutines.
* `quiet_step` — where nothing is left, nothing but a client moves, and nothing comes back.
* **`dispose_quiets`** — when a dispose has returned, everything is closed, every handler has returned,
  and no step of the library is ever taken again.
-/

import SpicedbEmbedded.Lifecycle.Shutdown

namespace SpicedbEmbedded.Lifecycle.Shutdown

open Machine

/-! ### What is left -/

/-- What a dispose that has come so far has also ended. -/
structure Wound (s : State) : Prop where
  orderly : Orderly s
  unlistened : 6 ≤ s.pc.rank → s.listening = false
  ended : 7 ≤ s.pc.rank → s.running = false ∧ s.serving = false

theorem init_wound : Wound State.init := ⟨init_orderly, nofun, nofun⟩

/-- A dispose that has not closed the listener has ended nothing. -/
theorem early {pc : Pc} (few : pc.rank ≤ 5) {unlistened ended : Prop} :
    (6 ≤ pc.rank → unlistened) ∧ (7 ≤ pc.rank → ended) :=
  ⟨fun far => by omega, fun far => by omega⟩

/-- A statement of `spicedb_dispose` ends the listener, or waits for the goroutines. -/
theorem proceed_wound {s t : State} (wound : Wound s) (next : s.proceed = some t) :
    (6 ≤ t.pc.rank → t.listening = false) ∧
      (7 ≤ t.pc.rank → t.running = false ∧ t.serving = false) := by
  unfold State.proceed at next
  cases at_ : s.pc <;> simp only [at_] at next
  case uncalled | returned => cases next
  case cancelling | closing | stopping =>
    cases next
    exact early (Nat.le_of_ble_eq_true rfl)
  case draining =>
    split at next <;> cases next
    exact early (Nat.le_of_ble_eq_true rfl)
  case unlistening =>
    cases next
    exact ⟨fun _ => rfl, fun far => absurd far (by decide : ¬ 7 ≤ Pc.waiting.rank)⟩
  case waiting =>
    have unlistened := wound.unlistened (by rw [at_]; decide)
    split at next
    next done =>
      cases next
      exact ⟨fun _ => unlistened, fun _ =>
        ⟨Bool.eq_false_iff.mpr done.1, Bool.eq_false_iff.mpr done.2⟩⟩
    next => cases next
  case cleaning =>
    have unlistened := wound.unlistened (by rw [at_]; decide)
    have ended := wound.ended (by rw [at_]; decide)
    cases next
    exact ⟨fun _ => unlistened, fun _ => ended⟩

theorem step_wound (s : State) (action : Action) (t : State) (wound : Wound s)
    (next : step s action = some t) : Wound t := by
  have orderly := step_orderly s action t wound.orderly next
  cases action with
  | opens rpc window =>
    simp only [step] at next
    split at next <;> cases next
    exact ⟨orderly, wound.unlistened, wound.ended⟩
  | reads i room | cancels i | forward i event =>
    obtain ⟨_, _, _, _, rfl⟩ := setStream_some.mp next
    exact ⟨orderly, wound.unlistened, wound.ended⟩
  | dispose =>
    simp only [step] at next
    split at next <;> cases next
    obtain ⟨unlistened, ended⟩ : (6 ≤ Pc.cancelling.rank → s.listening = false) ∧
        (7 ≤ Pc.cancelling.rank → s.running = false ∧ s.serving = false) := early (by decide)
    exact ⟨orderly, unlistened, ended⟩
  | runEnds =>
    simp only [step] at next
    split at next <;> cases next
    exact ⟨orderly, wound.unlistened, fun far => ⟨rfl, (wound.ended far).2⟩⟩
  | serveEnds =>
    simp only [step] at next
    split at next <;> cases next
    exact ⟨orderly, wound.unlistened, fun far => ⟨(wound.ended far).1, rfl⟩⟩
  | proceed =>
    obtain ⟨unlistened, ended⟩ := proceed_wound wound next
    exact ⟨orderly, unlistened, ended⟩

/-- Nothing of the instance is left. -/
structure Quiet (s : State) : Prop where
  returned : s.pc = .returned
  closed : s.connOpen = false
  refuses : s.accepting = false
  unlistened : s.listening = false
  ended : s.running = false ∧ s.serving = false
  drained : s.Drained

theorem Wound.quiet {s : State} (wound : Wound s) (returned : s.pc = .returned) : Quiet s := by
  have far : s.pc.rank = 8 := by rw [returned]; rfl
  exact ⟨returned, wound.orderly.closed (by omega), wound.orderly.refuses (by omega),
    wound.unlistened (by omega), wound.ended (by omega), wound.orderly.drained (by omega)⟩

/-- The steps that are left to a client: it reads what it has, and cancels what has ended. -/
def Action.Idle : Action → Prop
  | .reads _ _ | .cancels _ => True
  | .opens _ _ | .dispose | .forward _ _ | .runEnds | .serveEnds | .proceed => False

/-- A quiet instance stays quiet, and its clients alone move. -/
theorem quiet_step (s : State) (action : Action) (t : State) (quiet : Quiet s)
    (next : step s action = some t) : action.Idle ∧ Quiet t := by
  have kept : ∀ {i : Nat} {old new : Stream}, s.streams[i]? = some old → new.phase = old.phase →
      Quiet { s with streams := s.streams.set i new } := by
    intro i old new here same
    refine ⟨quiet.returned, quiet.closed, quiet.refuses, quiet.unlistened, quiet.ended, ?_⟩
    intro stream inside
    rcases List.mem_or_eq_of_mem_set inside with before | rfl
    · exact quiet.drained stream before
    · rw [same]
      exact quiet.drained old (List.mem_of_getElem? here)
  cases action with
  | opens rpc window => simp [step, quiet.refuses] at next
  | reads i room | cancels i =>
    obtain ⟨old, new, here, made, rfl⟩ := setStream_some.mp next
    cases made
    exact ⟨trivial, kept here rfl⟩
  | dispose => simp [step, quiet.returned] at next
  | forward i event =>
    obtain ⟨old, new, here, made, rfl⟩ := setStream_some.mp next
    have done := quiet.drained old (List.mem_of_getElem? here)
    exact absurd done (Stream.forward_not_returned made)
  | runEnds => simp [step, quiet.ended.1] at next
  | serveEnds => simp [step, quiet.ended.2] at next
  | proceed => simp [step, State.proceed, quiet.returned] at next

/-- **A dispose leaves the library side quiet.** Once it has returned, the client connection and the
listener are closed, the server accepts no stream, both goroutines have ended and every handler has
returned; and whatever happens then, nothing but a client takes a step, and it stays so. -/
theorem dispose_quiets {actions : List Action} {s : State}
    (run : exec step State.init actions = some s) (returned : s.pc = .returned) :
    Quiet s ∧ ∀ more t, exec step s more = some t → (∀ action ∈ more, action.Idle) ∧ Quiet t := by
  have wound : Wound s := exec_invariant step_wound run init_wound
  refine ⟨wound.quiet returned, ?_⟩
  refine exec_induction (fun (more : List Action) t =>
    (∀ action ∈ more, action.Idle) ∧ Quiet t) ⟨nofun, wound.quiet returned⟩ ?_
  intro more action middle t _ before last
  obtain ⟨idle, quiet⟩ := quiet_step middle action t before.2 last
  refine ⟨fun other inside => ?_, quiet⟩
  rcases List.mem_append.mp inside with earlier | here
  · exact before.1 other earlier
  · obtain rfl := List.mem_singleton.mp here
    exact idle

/-- A dispose finds a handler with a message in hand; the handler sends it on, the stream is cut, and the
dispose returns. -/
def heldMessage : List Action :=
  [.opens .watch 1, .forward 0 .opened, .forward 0 .message, .dispose, .proceed, .proceed, .proceed,
    .forward 0 .sent, .forward 0 .cut, .proceed, .proceed, .runEnds, .serveEnds, .proceed, .proceed]

/-- The client reads what it has, and nothing else goes on. -/
theorem dispose_quiets_heldMessage :
    ∃ s t, exec step State.init heldMessage = some s ∧ exec step s [.reads 0 1] = some t ∧
      Quiet s ∧ Quiet t := by
  obtain ⟨s, run⟩ := Option.isSome_iff_exists.mp
    (show (exec step State.init heldMessage).isSome = true by decide)
  obtain ⟨t, whole⟩ := Option.isSome_iff_exists.mp
    (show (exec step State.init (heldMessage ++ [.reads 0 1])).isSome = true by decide)
  have later : exec step s [.reads 0 1] = some t := by
    rw [exec_append, run] at whole
    exact whole
  have returned : s.pc = .returned := by
    have all : (exec step State.init heldMessage).all (·.pc = .returned) = true := by decide
    rw [run] at all
    exact of_decide_eq_true all
  obtain ⟨quiet, stays⟩ := dispose_quiets run returned
  exact ⟨s, t, run, later, quiet, (stays _ t later).2⟩

end SpicedbEmbedded.Lifecycle.Shutdown
