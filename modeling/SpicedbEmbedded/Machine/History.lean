/-
**The history of a run, and runs that refine a specification.**

Some steps of a machine are events: `event s action t` is the event of the step from `s` to `t`, if
it is one. `history step event s actions` lists the events of a run. Every action belongs to a party,
and so does every event.

* `Runs Spec x events y` — the events, one after the other, lead the specification from `x` to `y`.
* **`exists_runs`** — a simulation that lets silent steps stutter makes the history of every run a
  run of the specification.
* `history_append` cuts a history where its run is cut; `forall_history_of_rest` and
  `forall_history_of_idle` say that a party has no event after it has come to rest, and none before
  it has begun. Together they say that the history orders the parties as real time does.
* `mem_history_iff` — a record that grows by the events alone is the list of the events.
-/

import SpicedbEmbedded.Machine.Run

namespace SpicedbEmbedded.Machine

variable {State Action Event Party Abs : Type*}

/-! ### Runs of a specification -/

/-- The events lead the specification from one state to the other. -/
inductive Runs (Spec : Abs → Event → Abs → Prop) : Abs → List Event → Abs → Prop
  | nil (x : Abs) : Runs Spec x [] x
  | cons {x y z : Abs} {e : Event} {events : List Event} (first : Spec x e y)
      (rest : Runs Spec y events z) : Runs Spec x (e :: events) z

/-! ### Histories -/

variable (step : State → Action → Option State) (event : State → Action → State → Option Event)

/-- The events of a run, in order. -/
def history : State → List Action → List Event
  | _, [] => []
  | s, action :: actions =>
    match step s action with
    | none => []
    | some t => (event s action t).toList ++ history t actions

theorem history_cons {s t : State} {action : Action} (taken : step s action = some t)
    (actions : List Action) : history step event s (action :: actions) =
      (event s action t).toList ++ history step event t actions := by
  simp only [history, taken]

/-- The history of a run is cut where the run is cut. -/
theorem history_append : ∀ {before : List Action} {s m : State}, exec step s before = some m →
    ∀ after, history step event s (before ++ after) =
      history step event s before ++ history step event m after := by
  intro before
  induction before with
  | nil =>
    intro s m run after
    cases run
    rfl
  | cons action before ih =>
    intro s m run after
    obtain ⟨next, taken, rest⟩ := (exec_cons_some step).mp run
    rw [List.cons_append, history_cons step event taken, history_cons step event taken,
      ih rest after, List.append_assoc]

theorem history_concat {s m t : State} {before : List Action} {action : Action}
    (run : exec step s before = some m) (taken : step m action = some t) :
    history step event s (before ++ [action]) =
      history step event s before ++ (event m action t).toList := by
  rw [history_append step event run, history_cons step event taken]
  exact congrArg _ (List.append_nil _)

variable {step event}

/-- **A simulation that lets silent steps stutter.** Steps are matched where `ok` holds of them, and
`ok` holds of every step of the run; then the history of the run is a run of the specification. -/
theorem exists_runs {Spec : Abs → Event → Abs → Prop} {R : State → Abs → Prop}
    {ok : State → Action → State → Prop}
    (silent : ∀ s action t x, R s x → step s action = some t → ok s action t →
      event s action t = none → R t x)
    (visible : ∀ s action t x e, R s x → step s action = some t → ok s action t →
      event s action t = some e → ∃ y, Spec x e y ∧ R t y) :
    ∀ (actions : List Action) (s t : State) (x : Abs), R s x → exec step s actions = some t →
      (∀ before action m u, before ++ [action] <+: actions → exec step s before = some m →
        step m action = some u → ok m action u) →
      ∃ y, Runs Spec x (history step event s actions) y ∧ R t y := by
  intro actions
  induction actions with
  | nil =>
    intro s t x related run _
    cases run
    exact ⟨x, .nil x, related⟩
  | cons action actions ih =>
    intro s t x related run everywhere
    obtain ⟨next, taken, rest⟩ := (exec_cons_some step).mp run
    have now : ok s action next :=
      everywhere [] action s next (List.prefix_append [action] actions) rfl taken
    have later : ∀ before other m u, before ++ [other] <+: actions →
        exec step next before = some m → step m other = some u → ok m other u :=
      fun before other m u inside reached last =>
        everywhere (action :: before) other m u ((List.prefix_cons_inj action).mpr inside)
          ((exec_cons_some step).mpr ⟨next, taken, reached⟩) last
    rw [history_cons step event taken]
    cases seen : event s action next with
    | none => exact ih next t x (silent s action next x related taken now seen) rest later
    | some e =>
      obtain ⟨y, first, kept⟩ := visible s action next x e related taken now seen
      obtain ⟨z, runs, final⟩ := ih next t y kept rest later
      exact ⟨z, .cons first runs, final⟩

/-! ### Parties and their events -/

section Parties

variable {party : Action → Party} {who : Event → Party}
  (own : ∀ s action t e, event s action t = some e → who e = party action)

include own

/-- **A party at rest has no further event.** -/
theorem forall_history_of_rest {p : Party} {Rest : State → Prop}
    (rests : ∀ s action t, Rest s → step s action = some t → party action ≠ p ∧ Rest t) :
    ∀ (actions : List Action) (s : State), Rest s →
      ∀ e ∈ history step event s actions, who e ≠ p := by
  intro actions
  induction actions with
  | nil => exact fun s _ e inside => absurd inside List.not_mem_nil
  | cons action actions ih =>
    intro s rest e inside
    cases taken : step s action with
    | none =>
      simp only [history, taken] at inside
      exact absurd inside List.not_mem_nil
    | some t =>
      obtain ⟨other, still⟩ := rests s action t rest taken
      rw [history_cons step event taken] at inside
      rcases List.mem_append.mp inside with here | later
      · rw [own s action t e (Option.mem_toList.mp here)]
        exact other
      · exact ih t still e later

/-- **A party that is idle in the end has had no event.** -/
theorem forall_history_of_idle {p : Party} {Inv Idle : State → Prop}
    (preserved : ∀ s action t, Inv s → step s action = some t → Inv t)
    (begins : ∀ s action t, Inv s → step s action = some t → Idle t →
      party action ≠ p ∧ Idle s) :
    ∀ (actions : List Action) (s t : State), Inv s → exec step s actions = some t → Idle t →
      ∀ e ∈ history step event s actions, who e ≠ p := by
  intro actions s t inv run
  refine exec_induction (fun actions t => Idle t → ∀ e ∈ history step event s actions, who e ≠ p)
    (fun _ e inside => absurd inside List.not_mem_nil) ?_ actions t run
  intro actions action middle t before ih last idle e inside
  obtain ⟨other, still⟩ := begins middle action t (exec_invariant preserved before inv) last idle
  rw [history_concat step event before last] at inside
  rcases List.mem_append.mp inside with earlier | here
  · exact ih still e earlier
  · rw [own middle action t e (Option.mem_toList.mp here)]
    exact other

end Parties

/-- **A record that grows by the events alone**: where every step adds to what the state records just
what its event says, the state records what the history says. -/
theorem mem_history_iff {Record : Type*} {Inv : State → Prop} {records : State → Record → Prop}
    {record : Event → Option Record}
    (preserved : ∀ s action t, Inv s → step s action = some t → Inv t)
    (grows : ∀ s action t, Inv s → step s action = some t → ∀ r, records t r ↔
      records s r ∨ (event s action t).bind record = some r) :
    ∀ (actions : List Action) (s t : State), Inv s → exec step s actions = some t → ∀ r,
      records t r ↔ records s r ∨ r ∈ (history step event s actions).filterMap record := by
  intro actions s t inv run
  refine exec_induction (fun actions t => ∀ r, records t r ↔
    records s r ∨ r ∈ (history step event s actions).filterMap record) ?_ ?_ actions t run
  · intro r
    simp [history]
  · intro actions action middle t before ih last r
    have added : r ∈ (event middle action t).toList.filterMap record ↔
        (event middle action t).bind record = some r := by
      cases event middle action t with
      | none => simp
      | some e => cases known : record e <;> simp [known, eq_comm]
    rw [grows middle action t (exec_invariant preserved before inv) last r, ih r,
      history_concat step event before last, List.filterMap_append, List.mem_append, added,
      or_assoc]

end SpicedbEmbedded.Machine
