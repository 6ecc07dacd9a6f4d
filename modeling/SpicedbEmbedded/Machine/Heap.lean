/-
**A heap, and programs that run on it.**

* `Heap` — blocks that are allocated and released by hand. An address is given out once, so that what
  is read or released after its release is seen to be.
* `Prog` — a program on some state that returns a value or raises an error, unless it ends in a `Fault`
  instead: it misuses the memory, or takes the process down.
* `tryFinally` — a cleanup that runs however the body ends.

Everything here is about arbitrary blocks, states, errors and values.
-/

import Mathlib.Logic.Function.Basic
import Mathlib.Tactic.TypeStar

namespace SpicedbEmbedded.Machine

/-! ### The heap -/

/-- A heap: what is live at each address. Addresses from `next` on have not been given out. -/
structure Heap (B : Type*) where
  next : Nat
  live : Nat → Option B
  fresh : ∀ p, next ≤ p → live p = none

namespace Heap

variable {B : Type*}

/-- The heap nothing has been allocated on. -/
def empty : Heap B where
  next := 0
  live _ := none
  fresh _ _ := rfl

/-- Allocates a block, at `next`. -/
def alloc (heap : Heap B) (block : B) : Heap B where
  next := heap.next + 1
  live := Function.update heap.live heap.next (some block)
  fresh p above := by
    rw [Function.update_of_ne (by omega)]
    exact heap.fresh p (by omega)

/-- Releases what is live at an address. -/
def free (heap : Heap B) (p : Nat) : Heap B where
  next := heap.next
  live := Function.update heap.live p none
  fresh q above := by
    by_cases same : q = p
    · rw [same, Function.update_self]
    · rw [Function.update_of_ne same]
      exact heap.fresh q above

variable (heap : Heap B) (block : B)

@[simp] theorem alloc_next : (heap.alloc block).next = heap.next + 1 := rfl

@[simp] theorem free_next (p : Nat) : (heap.free p).next = heap.next := rfl

@[simp] theorem alloc_live_self : (heap.alloc block).live heap.next = some block :=
  Function.update_self ..

theorem alloc_live_of_ne {p : Nat} (other : p ≠ heap.next) :
    (heap.alloc block).live p = heap.live p :=
  Function.update_of_ne other ..

/-- An allocation that is released leaves what was live. -/
@[simp] theorem free_alloc_live : ((heap.alloc block).free heap.next).live = heap.live := by
  funext p
  by_cases same : p = heap.next
  · rw [same, heap.fresh _ (Nat.le_refl _)]
    exact Function.update_self ..
  · show Function.update (heap.alloc block).live heap.next none p = heap.live p
    rw [Function.update_of_ne same, alloc_live_of_ne heap block same]

/-- An allocation that is not released is left over. -/
theorem alloc_live_ne : (heap.alloc block).live ≠ heap.live := by
  intro same
  have here := congrFun same heap.next
  rw [alloc_live_self, heap.fresh _ (Nat.le_refl _)] at here
  cases here

end Heap

/-! ### Programs -/

/-- How a program can end without returning or raising: it reads, or releases, memory that is not there
for it, or the process ends. -/
inductive Fault
  | misuse
  | aborted
  deriving DecidableEq

/-- A program on the state `S` that returns an `A` or raises an `E`. -/
def Prog (S E A : Type) : Type := S → Except Fault (Except E A × S)

namespace Prog

variable {S E A B : Type}

instance : Monad (Prog S E) where
  pure a := fun s => .ok (.ok a, s)
  bind x f := fun s =>
    match x s with
    | .error fault => .error fault
    | .ok (.error err, t) => .ok (.error err, t)
    | .ok (.ok a, t) => f a t

instance : LawfulMonad (Prog S E) := LawfulMonad.mk' _
  (fun x => by
    funext s
    show (match x s with
      | .error fault => .error fault
      | .ok (.error err, t) => .ok (.error err, t)
      | .ok (.ok a, t) => .ok (.ok a, t)) = x s
    rcases x s with fault | ⟨err | a, t⟩ <;> rfl)
  (fun _ _ => rfl)
  (fun x f g => by
    funext s
    simp only [bind]
    rcases x s with fault | ⟨err | a, t⟩ <;> rfl)

/-- Raises an error. -/
def raise (err : E) : Prog S E A := fun s => .ok (.error err, s)

/-- Ends in a fault. -/
def fail (fault : Fault) : Prog S E A := fun _ => .error fault

/-- Returns or raises, as a result says. -/
def ofExcept (result : Except E A) : Prog S E A := fun s => .ok (result, s)

/-- Runs the cleanup after the body, whether that returns or raises; an error the cleanup raises
takes the place of the body's result. -/
def tryFinally (body : Prog S E A) (cleanup : Prog S E Unit) : Prog S E A := fun s =>
  match body s with
  | .error fault => .error fault
  | .ok (result, t) =>
    match cleanup t with
    | .error fault => .error fault
    | .ok (.error err, u) => .ok (.error err, u)
    | .ok (.ok (), u) => .ok (result, u)

/-- Runs the body, and the handler on an error it raises. -/
def tryCatch (body : Prog S E A) (handler : E → Prog S E A) : Prog S E A := fun s =>
  match body s with
  | .error fault => .error fault
  | .ok (.error err, t) => handler err t
  | .ok (.ok a, t) => .ok (.ok a, t)

@[simp] theorem pure_apply (a : A) (s : S) : (pure a : Prog S E A) s = .ok (.ok a, s) := rfl

@[simp] theorem raise_apply (err : E) (s : S) : (raise err : Prog S E A) s = .ok (.error err, s) :=
  rfl

@[simp] theorem fail_apply (fault : Fault) (s : S) : (fail fault : Prog S E A) s = .error fault :=
  rfl

@[simp] theorem ofExcept_apply (result : Except E A) (s : S) :
    (ofExcept result : Prog S E A) s = .ok (result, s) := rfl

/-- What comes after a program depends on how it came out. -/
theorem bind_apply (x : Prog S E A) (f : A → Prog S E B) (s : S) :
    (x >>= f) s =
      match x s with
      | .error fault => .error fault
      | .ok (.error err, t) => .ok (.error err, t)
      | .ok (.ok a, t) => f a t :=
  rfl

/-- Nothing comes after a program that raises. -/
theorem bind_error {x : Prog S E A} {s t : S} {err : E} (ran : x s = .ok (.error err, t))
    (f : A → Prog S E B) : (x >>= f) s = .ok (.error err, t) := by
  rw [bind_apply, ran]

theorem tryCatch_ok {body : Prog S E A} {handler : E → Prog S E A} {s t : S} {a : A}
    (ran : body s = .ok (.ok a, t)) : tryCatch body handler s = .ok (.ok a, t) := by
  simp only [tryCatch, ran]

theorem tryCatch_error {body : Prog S E A} {handler : E → Prog S E A} {s t : S} {err : E}
    (ran : body s = .ok (.error err, t)) : tryCatch body handler s = handler err t := by
  simp only [tryCatch, ran]

/-- A program that leaves the state as it is, and neither misuses nor aborts. -/
def Still (x : Prog S E A) : Prop := ∀ s, ∃ result, x s = .ok (result, s)

theorem still_pure (a : A) : Still (pure a : Prog S E A) := fun _ => ⟨.ok a, rfl⟩

theorem still_raise (err : E) : Still (raise err : Prog S E A) := fun _ => ⟨.error err, rfl⟩

theorem still_ofExcept (result : Except E A) : Still (ofExcept result : Prog S E A) :=
  fun _ => ⟨result, rfl⟩

theorem still_bind {x : Prog S E A} {f : A → Prog S E B} (first : Still x)
    (later : ∀ a, Still (f a)) : Still (x >>= f) := by
  intro s
  obtain ⟨result, ran⟩ := first s
  rw [bind_apply, ran]
  cases result with
  | error err => exact ⟨.error err, rfl⟩
  | ok a => exact later a s

theorem still_ite {c : Prop} [Decidable c] {x y : Prog S E A} (yes : Still x) (no : Still y) :
    Still (if c then x else y) := by
  split
  · exact yes
  · exact no

/-- Nothing a still program does keeps its cleanup from running. -/
theorem tryFinally_apply {body : Prog S E A} {cleanup : Prog S E Unit} {s t u : S}
    {result : Except E A} (ran : body s = .ok (result, t)) (cleaned : cleanup t = .ok (.ok (), u)) :
    tryFinally body cleanup s = .ok (result, u) := by
  simp only [tryFinally, ran, cleaned]

end Prog

end SpicedbEmbedded.Machine
