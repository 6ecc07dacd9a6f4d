/-
**Projecting the runs of a machine onto one of its parts.**

A part of a machine has its own states (`view`), its own step function, and the actions it `sees`.
When the steps it does not see leave its view alone and the others are steps of its own, every run of
the machine projects to a run of the part (`exec_project`). Two runs with the same actions for the
part then leave it in the same state (`views_agree`): what happens elsewhere cannot be told from
inside.
-/

import SpicedbEmbedded.Machine.Run

namespace SpicedbEmbedded.Machine

variable {State Action Local : Type*} {step : State → Action → Option State}
  {stepLocal : Local → Action → Option Local} {view : State → Local} {sees : Action → Bool}
  {Admits : Action → Prop} {Inv : State → Prop}

/-- **A run of the machine is a run of the part**, on the actions the part sees. -/
theorem exec_project
    (preserved : ∀ s action t, Admits action → Inv s → step s action = some t → Inv t)
    (stutters : ∀ s action t, Inv s → sees action = false → step s action = some t →
      view t = view s)
    (simulates : ∀ s action t, Admits action → Inv s → sees action = true →
      step s action = some t → stepLocal (view s) action = some (view t)) :
    ∀ (actions : List Action) (s t : State), (∀ action ∈ actions, Admits action) → Inv s →
      exec step s actions = some t →
        exec stepLocal (view s) (actions.filter sees) = some (view t) ∧ Inv t := by
  intro actions
  induction actions with
  | nil =>
    intro s t _ inv run
    cases run
    exact ⟨rfl, inv⟩
  | cons action actions ih =>
    intro s t admits inv run
    obtain ⟨next, first, rest⟩ := (exec_cons_some step).mp run
    have admitted := admits action List.mem_cons_self
    obtain ⟨projected, after⟩ := ih next t (fun other member => admits other (List.mem_cons_of_mem _ member))
      (preserved s action next admitted inv first) rest
    refine ⟨?_, after⟩
    by_cases seen : sees action = true
    · rw [List.filter_cons_of_pos seen]
      exact (exec_cons_some stepLocal).mpr
        ⟨view next, simulates s action next admitted inv seen first, projected⟩
    · rw [List.filter_cons_of_neg seen,
        ← stutters s action next inv (Bool.eq_false_iff.mpr seen) first]
      exact projected

/-- **Runs that agree on the actions the part sees agree on the part.** -/
theorem views_agree
    (preserved : ∀ s action t, Admits action → Inv s → step s action = some t → Inv t)
    (stutters : ∀ s action t, Inv s → sees action = false → step s action = some t →
      view t = view s)
    (simulates : ∀ s action t, Admits action → Inv s → sees action = true →
      step s action = some t → stepLocal (view s) action = some (view t))
    {s t u : State} {actions others : List Action} (inv : Inv s)
    (admits : ∀ action ∈ actions, Admits action) (admitsOthers : ∀ action ∈ others, Admits action)
    (same : actions.filter sees = others.filter sees) (run : exec step s actions = some t)
    (other : exec step s others = some u) : view t = view u := by
  obtain ⟨left, _⟩ := exec_project preserved stutters simulates actions s t admits inv run
  obtain ⟨right, _⟩ := exec_project preserved stutters simulates others s u admitsOthers inv other
  rw [same] at left
  exact Option.some.inj (left.symm.trans right)

end SpicedbEmbedded.Machine
