/-
**Runs of a machine given by a partial step function.**

A machine is a function `step : State → Action → Option State`; `none` says that the action is not
enabled in the state. Everything here is about an arbitrary such function.

* `exec step s actions` runs the actions in order.
* `exec_induction` is the run rule: what holds of the empty run and survives one more action holds
  of every run. `exec_invariant` is its special case for a property of the state alone.
* `Passes step s actions m` says that the run goes through the state `m`, and `Meets step cond s
  actions` that every step it takes is taken under the condition `cond`.
* `exists_rest` — when a measure falls with every action of one party, that party left alone comes to
  rest.
* **`passes_iff_meets`** — when one step keeps a property exactly under a condition, a whole run
  keeps it exactly when all its steps are taken under that condition.
-/

import Mathlib.Data.List.Induction
import Mathlib.Tactic.TypeStar

namespace SpicedbEmbedded.Machine

variable {State Action : Type*}

section Exec

variable (step : State → Action → Option State)

/-- Runs the actions in order, and is `none` as soon as one of them is not enabled. -/
def exec : State → List Action → Option State
  | s, [] => some s
  | s, action :: actions => (step s action).bind fun next => exec next actions

@[simp] theorem exec_nil (s : State) : exec step s [] = some s := rfl

theorem exec_cons (s : State) (action : Action) (actions : List Action) :
    exec step s (action :: actions) = (step s action).bind fun next => exec step next actions := rfl

theorem exec_append (actions others : List Action) :
    ∀ s, exec step s (actions ++ others) =
      (exec step s actions).bind fun middle => exec step middle others := by
  induction actions with
  | nil => exact fun s => rfl
  | cons action actions ih =>
    intro s
    rw [List.cons_append, exec_cons, exec_cons, Option.bind_assoc]
    exact congrArg _ (funext ih)

theorem exec_singleton (s : State) (action : Action) : exec step s [action] = step s action := by
  rw [exec_cons]
  exact Option.bind_fun_some _

theorem exec_cons_some {s t : State} {action : Action} {actions : List Action} :
    exec step s (action :: actions) = some t ↔
      ∃ next, step s action = some next ∧ exec step next actions = some t :=
  Option.bind_eq_some_iff

theorem exec_concat_some {s t : State} {actions : List Action} {action : Action} :
    exec step s (actions ++ [action]) = some t ↔
      ∃ middle, exec step s actions = some middle ∧ step middle action = some t := by
  rw [exec_append]
  simp only [exec_singleton]
  exact Option.bind_eq_some_iff

variable {step}

/-- **The run rule.** A statement about a run and the state it ends in holds of every run when it
holds of the empty one and one more action keeps it. -/
theorem exec_induction {s : State} (motive : List Action → State → Prop) (start : motive [] s)
    (next : ∀ actions action middle t, exec step s actions = some middle → motive actions middle →
      step middle action = some t → motive (actions ++ [action]) t) :
    ∀ actions t, exec step s actions = some t → motive actions t := by
  intro actions
  induction actions using List.reverseRecOn with
  | nil =>
    intro t run
    cases run
    exact start
  | append_singleton actions action ih =>
    intro t run
    obtain ⟨middle, before, last⟩ := (exec_concat_some step).mp run
    exact next actions action middle t before (ih middle before) last

/-- What every step preserves, every run preserves. -/
theorem exec_invariant {Inv : State → Prop}
    (preserved : ∀ s action t, Inv s → step s action = some t → Inv t) {s t : State}
    {actions : List Action} (run : exec step s actions = some t) (start : Inv s) : Inv t :=
  exec_induction (fun _ reached => Inv reached) start
    (fun _ action middle t _ holds last => preserved middle action t holds last) actions t run

/-- **A party left alone comes to rest.** Where every action of the party keeps the invariant and
makes the measure smaller, actions of the party lead from any good state to one where it has none
left. -/
theorem exists_rest {own : Action → Prop} {Inv : State → Prop} (measure : State → Nat)
    (preserved : ∀ s action t, own action → Inv s → step s action = some t → Inv t)
    (falls : ∀ s action t, own action → Inv s → step s action = some t → measure t < measure s) :
    ∀ s, Inv s → ∃ actions t, (∀ action ∈ actions, own action) ∧ exec step s actions = some t ∧
      Inv t ∧ ∀ action, own action → step t action = none := by
  suffices ∀ n s, measure s < n → Inv s → ∃ actions t, (∀ action ∈ actions, own action) ∧
      exec step s actions = some t ∧ Inv t ∧ ∀ action, own action → step t action = none from
    fun s => this (measure s + 1) s (Nat.lt_succ_self _)
  intro n
  induction n with
  | zero => exact fun s small => absurd small (Nat.not_lt_zero _)
  | succ n ih =>
    intro s small inv
    by_cases rest : ∀ action, own action → step s action = none
    · exact ⟨[], s, fun _ inside => absurd inside List.not_mem_nil, rfl, inv, rest⟩
    · obtain ⟨action, moves⟩ := not_forall.mp rest
      obtain ⟨mine, enabled⟩ := not_forall.mp moves
      obtain ⟨next, taken⟩ := Option.ne_none_iff_exists'.mp enabled
      have less := falls s action next mine inv taken
      obtain ⟨actions, t, all, run, good, ended⟩ :=
        ih next (by omega) (preserved s action next mine inv taken)
      exact ⟨action :: actions, t, List.forall_mem_cons.mpr ⟨mine, all⟩,
        (exec_cons_some step).mpr ⟨next, taken, run⟩, good, ended⟩

end Exec

/-! ### The states a run goes through, and the condition its steps are taken under -/

section Along

variable (step : State → Action → Option State)

/-- The run of the actions from `s` goes through `m`. -/
def Passes (s : State) (actions : List Action) (m : State) : Prop :=
  ∃ before, before <+: actions ∧ exec step s before = some m

/-- Every step the run takes is taken under `cond`. -/
def Meets (cond : State → Action → Prop) : State → List Action → Prop
  | _, [] => True
  | s, action :: actions =>
      ∀ t, step s action = some t → cond s action ∧ Meets cond t actions

theorem passes_start (s : State) (actions : List Action) : Passes step s actions s :=
  ⟨[], List.nil_prefix, rfl⟩

theorem passes_end {s t : State} {actions : List Action} (run : exec step s actions = some t) :
    Passes step s actions t :=
  ⟨actions, List.prefix_refl _, run⟩

theorem passes_nil {s m : State} : Passes step s [] m ↔ m = s := by
  constructor
  · rintro ⟨before, inside, run⟩
    rw [List.prefix_nil.mp inside] at run
    exact (Option.some.inj run).symm
  · rintro rfl
    exact passes_start step m []

theorem passes_cons {s m : State} {action : Action} {actions : List Action} :
    Passes step s (action :: actions) m ↔
      m = s ∨ ∃ t, step s action = some t ∧ Passes step t actions m := by
  constructor
  · rintro ⟨before, inside, run⟩
    rcases List.prefix_cons_iff.mp inside with rfl | ⟨rest, rfl, restInside⟩
    · exact Or.inl (Option.some.inj run).symm
    · obtain ⟨t, first, later⟩ := (exec_cons_some step).mp run
      exact Or.inr ⟨t, first, rest, restInside, later⟩
  · rintro (rfl | ⟨t, first, before, inside, run⟩)
    · exact passes_start step m _
    · exact ⟨action :: before, (List.prefix_cons_inj action).mpr inside,
        (exec_cons_some step).mpr ⟨t, first, run⟩⟩

variable {step}

/-- A condition that holds wherever the run takes a step. -/
theorem meets_of_forall {cond : State → Action → Prop} :
    ∀ (actions : List Action) (s : State),
      (∀ before action m t, before ++ [action] <+: actions → exec step s before = some m →
        step m action = some t → cond m action) → Meets step cond s actions := by
  intro actions
  induction actions with
  | nil => exact fun s _ => trivial
  | cons first actions ih =>
    intro s everywhere t taken
    refine ⟨everywhere [] first s t (List.prefix_append [first] actions) rfl taken, ih t ?_⟩
    intro before action m u inside reached last
    exact everywhere (first :: before) action m u ((List.prefix_cons_inj first).mpr inside)
      ((exec_cons_some step).mpr ⟨t, taken, reached⟩) last

/-- A run that does not meet a condition takes a first step that breaks it. -/
theorem exists_breach {cond : State → Action → Prop} :
    ∀ (actions : List Action) (s : State), ¬ Meets step cond s actions →
      ∃ before action m t, before ++ [action] <+: actions ∧ exec step s before = some m ∧
        Meets step cond s before ∧ step m action = some t ∧ ¬ cond m action := by
  intro actions
  induction actions with
  | nil => exact fun s broken => absurd trivial broken
  | cons first actions ih =>
    intro s broken
    obtain ⟨t, taken, fails⟩ : ∃ t, step s first = some t ∧
        ¬ (cond s first ∧ Meets step cond t actions) := by
      simpa [Meets] using broken
    by_cases now : cond s first
    · obtain ⟨before, action, m, u, inside, reached, meets, last, breach⟩ :=
        ih t fun rest => fails ⟨now, rest⟩
      refine ⟨first :: before, action, m, u, (List.prefix_cons_inj first).mpr inside,
        (exec_cons_some step).mpr ⟨t, taken, reached⟩, ?_, last, breach⟩
      intro other same
      rw [taken] at same
      cases same
      exact ⟨now, meets⟩
    · exact ⟨[], first, s, t, List.prefix_append [first] actions, rfl, trivial, taken, now⟩

/-- **The exact condition of a run.** Where one step from a good state keeps `P` exactly under
`cond`, a run keeps `P` throughout exactly when all its steps are taken under `cond`. -/
theorem passes_iff_meets {Inv P : State → Prop} {cond : State → Action → Prop}
    (preserved : ∀ s action t, Inv s → step s action = some t → Inv t)
    (exact_step : ∀ s action t, Inv s → P s → step s action = some t → (P t ↔ cond s action)) :
    ∀ (actions : List Action) (s : State), Inv s → P s →
      ((∀ m, Passes step s actions m → P m) ↔ Meets step cond s actions) := by
  intro actions
  induction actions with
  | nil =>
    intro s _ holds
    refine ⟨fun _ => trivial, fun _ m through => ?_⟩
    rw [(passes_nil step).mp through]
    exact holds
  | cons action actions ih =>
    intro s inv holds
    constructor
    · intro throughout t first
      have later : ∀ m, Passes step t actions m → P m := fun m through =>
        throughout m ((passes_cons step).mpr (Or.inr ⟨t, first, through⟩))
      have holdsNext : P t := later t (passes_start step t actions)
      exact ⟨(exact_step s action t inv holds first).mp holdsNext,
        (ih t (preserved s action t inv first) holdsNext).mp later⟩
    · intro meets m through
      rcases (passes_cons step).mp through with rfl | ⟨t, first, later⟩
      · exact holds
      · obtain ⟨now, rest⟩ := meets t first
        have holdsNext : P t := (exact_step s action t inv holds first).mpr now
        exact (ih t (preserved s action t inv first) holdsNext).mpr rest m later

end Along

end SpicedbEmbedded.Machine
