/-
**Slots that are issued, opened and closed at most once.**

The life of one slot of a table whose keys are never used twice: unissued, issued to an owner,
opened by that owner, and closed by some closer. `Life.Moves` is one step of that life. What has
been fixed stays fixed: the owner, the fact that it opened, and the closer (`Moves.owner`,
`Moves.opened`, `Moves.closer`), so over any number of steps a slot has at most one of each.

`Paired f g` says that two partial functions are inverse to each other, as the one that gives a
party its slot and the one that gives a slot its party are; `Paired.extend` adds a new pair.
-/

import Mathlib.Logic.Relation

namespace SpicedbEmbedded.Machine

/-- The life of one slot. -/
inductive Life (O : Type)
  | unissued
  | issued (owner : O)
  | live (owner : O)
  | gone (owner closer : O)

namespace Life

variable {O : Type}

/-- Whom the slot was issued to. -/
def owner : Life O → Option O
  | .unissued => none
  | .issued owner => some owner
  | .live owner => some owner
  | .gone owner _ => some owner

/-- The owner, once it has opened the slot. -/
def opened : Life O → Option O
  | .unissued => none
  | .issued _ => none
  | .live owner => some owner
  | .gone owner _ => some owner

/-- Who closed the slot. -/
def closer : Life O → Option O
  | .unissued => none
  | .issued _ => none
  | .live _ => none
  | .gone _ closer => some closer

/-- The owner, while the slot is open. -/
def present : Life O → Option O
  | .unissued => none
  | .issued _ => none
  | .live owner => some owner
  | .gone _ _ => none

/-- One step of a slot's life, or none. -/
inductive Moves : Life O → Life O → Prop
  | stay (life : Life O) : Moves life life
  | issue (owner : O) : Moves .unissued (.issued owner)
  | opening (owner : O) : Moves (.issued owner) (.live owner)
  | close (owner closer : O) : Moves (.live owner) (.gone owner closer)

theorem Moves.owner {life next : Life O} (moves : Moves life next) {o : O}
    (known : life.owner = some o) : next.owner = some o := by
  cases moves with
  | stay => exact known
  | issue => cases known
  | opening => exact known
  | close => exact known

theorem Moves.opened {life next : Life O} (moves : Moves life next) {o : O}
    (known : life.opened = some o) : next.opened = some o := by
  cases moves with
  | stay => exact known
  | issue => cases known
  | opening => cases known
  | close => exact known

theorem Moves.closer {life next : Life O} (moves : Moves life next) {o : O}
    (known : life.closer = some o) : next.closer = some o := by
  cases moves with
  | stay => exact known
  | issue => cases known
  | opening => cases known
  | close => cases known

theorem owner_of_opened {life : Life O} {o : O} (known : life.opened = some o) :
    life.owner = some o := by
  cases life with
  | unissued => cases known
  | issued => cases known
  | live => exact known
  | gone => exact known

/-- A slot is open for its owner exactly when it has been opened and not closed. -/
theorem present_eq_some {life : Life O} {o : O} :
    life.present = some o ↔ life.opened = some o ∧ life.closer = none := by
  cases life with
  | unissued => simp [present, opened]
  | issued owner => simp [present, opened]
  | live owner => simp [present, opened, closer]
  | gone owner closer => simp [present, Life.closer]

theorem eq_live {life : Life O} {o : O} (known : life.present = some o) : life = .live o := by
  cases life with
  | unissued => cases known
  | issued => cases known
  | live owner => exact congrArg Life.live (Option.some.inj known)
  | gone => cases known

/-- A closed slot had been opened. -/
theorem opened_of_closer {life : Life O} {c : O} (known : life.closer = some c) :
    ∃ o, life.opened = some o := by
  cases life with
  | unissued => cases known
  | issued => cases known
  | live => cases known
  | gone owner closer => exact ⟨owner, rfl⟩

/-- An issued slot that its owner has not opened is only issued. -/
theorem eq_issued {life : Life O} {o : O} (known : life.owner = some o)
    (shut : life.opened ≠ some o) : life = .issued o := by
  cases life with
  | unissued => cases known
  | issued owner => exact congrArg Life.issued (Option.some.inj known)
  | live => exact absurd known shut
  | gone => exact absurd known shut

end Life

/-! ### Parties and their slots -/

/-- The partial functions are inverse to each other. -/
def Paired {P K : Type} (f : P → Option K) (g : K → Option P) : Prop :=
  ∀ k p, f p = some k ↔ g k = some p

namespace Paired

variable {P K : Type} {f f' : P → Option K} {g g' : K → Option P}

theorem congr (paired : Paired f g) (left : ∀ p, f' p = f p) (right : ∀ k, g' k = g k) :
    Paired f' g' := fun k p => by
  rw [left p, right k]
  exact paired k p

/-- **A new pair** of a party without a slot and a slot without a party. -/
theorem extend (paired : Paired f g) {p : P} {k : K} (single : f p = none) (open_slot : g k = none)
    (left : f' p = some k) (right : g' k = some p) (others : ∀ q, q ≠ p → f' q = f q)
    (rest : ∀ j, j ≠ k → g' j = g j) : Paired f' g' := by
  intro j q
  by_cases party : q = p
  · subst party
    rw [left]
    by_cases slot : j = k
    · subst slot
      exact ⟨fun _ => right, fun _ => rfl⟩
    · rw [rest j slot]
      refine ⟨fun same => absurd (Option.some.inj same).symm slot, fun known => ?_⟩
      rw [← paired j q, single] at known
      cases known
  · rw [others q party]
    by_cases slot : j = k
    · subst slot
      rw [right]
      refine ⟨fun known => ?_, fun same => absurd (Option.some.inj same).symm party⟩
      rw [paired j q, open_slot] at known
      cases known
    · rw [rest j slot]
      exact paired j q

end Paired

end SpicedbEmbedded.Machine
