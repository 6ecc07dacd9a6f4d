/-
**Plans of steps that may fail, on a store.**

A step writes to one place of a store, or to none. What an attempt at it does depends on that place alone
and changes that place alone; an attempt that succeeds leaves the step's value there, one that fails may
leave anything. A plan is followed step by step, up to the first that fails.

* `follow_written` — where the places differ, the steps before the first that cannot succeed leave their
  values, that one leaves what a failed attempt leaves, and all else is as it was.
* **`follow_reaches_iff`** — so a plan leads to exactly its values where no other place was filled and
  what is left undone is in place already.
* `follow_again` — where an attempt at what an attempt left does the same, following a plan again changes
  nothing.
-/

import Mathlib.Data.List.TakeWhile
import Mathlib.Logic.Function.Basic

namespace SpicedbEmbedded.Machine

/-- What is stored where. -/
abbrev Store (Key Value : Type) : Type := Key → Option Value

/-- A program that works on a store, and ends well or at a step. -/
abbrev Doing (Step Key Value : Type) : Type → Type := ExceptT Step (StateM (Store Key Value))

/-- What each step is to store and where, and what an attempt at it does to that place. -/
structure Actions (Step Key Value : Type) where
  target : Step → Option (Key × Value)
  attempt : Step → Option Value → Bool × Option Value
  sets : ∀ {step key value} (cell : Option Value), target step = some (key, value) →
    (attempt step cell).1 = true → (attempt step cell).2 = some value

variable {Step Key Value : Type}

/-! ### How programs end -/

/-- How a program ends, and the store it leaves. -/
def outcome (program : Doing Step Key Value Unit) (store : Store Key Value) :
    Except Step Unit × Store Key Value :=
  Id.run (StateT.run (ExceptT.run program) store)

section Outcome

variable {store after : Store Key Value} {first : Doing Step Key Value Unit}

theorem outcome_bind_ok (next : Unit → Doing Step Key Value Unit)
    (done : outcome first store = (.ok (), after)) :
    outcome (first >>= next) store = outcome (next ()) after := by
  unfold outcome at *
  rw [ExceptT.run_bind, StateT.run_bind, Id.run_bind, done]

theorem outcome_bind_error {step : Step} (next : Unit → Doing Step Key Value Unit)
    (failed : outcome first store = (.error step, after)) :
    outcome (first >>= next) store = (.error step, after) := by
  unfold outcome at *
  rw [ExceptT.run_bind, StateT.run_bind, Id.run_bind, failed]
  rfl

end Outcome

namespace Actions

variable (actions : Actions Step Key Value)

/-! ### What a step finds -/

/-- Where a step writes. -/
def place (step : Step) : Option Key := (actions.target step).map Prod.fst

/-- What a step finds in its place. -/
def cell (store : Store Key Value) (step : Step) : Option Value := (actions.place step).bind store

/-- Whether a step succeeds. -/
def passes (store : Store Key Value) (step : Step) : Bool :=
  (actions.attempt step (actions.cell store step)).1

/-- The two steps write to different places. -/
def Apart (first second : Step) : Prop :=
  ∀ key, actions.place first = some key → actions.place second ≠ some key

/-- The steps before the first that cannot succeed. -/
def finished (store : Store Key Value) (steps : List Step) : List Step :=
  steps.takeWhile (actions.passes store)

/-- The steps from the first that cannot succeed on. -/
def pending (store : Store Key Value) (steps : List Step) : List Step :=
  steps.dropWhile (actions.passes store)

/-- The steps have left their values, and all else is as it was. -/
structure Written (steps : List Step) (store after : Store Key Value) : Prop where
  target : ∀ step ∈ steps, ∀ key value, actions.target step = some (key, value) →
    after key = some value
  other : ∀ key, (∀ step ∈ steps, actions.place step ≠ some key) → after key = store key

section Finds

variable {actions} {store after : Store Key Value} {first second step : Step} {steps : List Step}

theorem place_of_target {key : Key} {value : Value}
    (writes : actions.target step = some (key, value)) : actions.place step = some key := by
  rw [place, writes, Option.map_some]

theorem exists_target_of_place {key : Key} (own : actions.place step = some key) :
    ∃ value, actions.target step = some (key, value) := by
  obtain ⟨⟨_, value⟩, writes, rfl⟩ := Option.map_eq_some_iff.mp own
  exact ⟨value, writes⟩

theorem cell_congr (same : ∀ key, actions.place step = some key → after key = store key) :
    actions.cell after step = actions.cell store step := by
  unfold cell
  cases place : actions.place step with
  | none => rfl
  | some key => exact same key place

theorem passes_congr (same : ∀ key, actions.place step = some key → after key = store key) :
    actions.passes after step = actions.passes store step := by
  rw [passes, passes, cell_congr same]

theorem Written.eq_none_iff (written : actions.Written steps store after) (key : Key) :
    after key = none ↔ (∀ step ∈ steps, actions.place step ≠ some key) ∧ store key = none := by
  constructor
  · intro missing
    have clear : ∀ step ∈ steps, actions.place step ≠ some key := by
      intro step inside own
      obtain ⟨value, writes⟩ := exists_target_of_place own
      rw [written.target step inside key value writes] at missing
      cases missing
    exact ⟨clear, (written.other key clear).symm.trans missing⟩
  · rintro ⟨clear, missing⟩
    exact (written.other key clear).trans missing

theorem finished_append_pending (actions : Actions Step Key Value) (store : Store Key Value)
    (steps : List Step) : actions.finished store steps ++ actions.pending store steps = steps :=
  List.takeWhile_append_dropWhile

theorem passes_of_finished (done : step ∈ actions.finished store steps) :
    actions.passes store step = true :=
  List.all_eq_true.mp List.all_takeWhile step done

theorem mem_pending_of_fails (inside : step ∈ steps) (fails : ¬actions.passes store step = true) :
    step ∈ actions.pending store steps := by
  rw [← finished_append_pending actions store steps] at inside
  rcases List.mem_append.mp inside with done | left
  · exact absurd (passes_of_finished done) fails
  · exact left

theorem pending_eq_nil (passing : ∀ step ∈ steps, actions.passes store step = true) :
    actions.pending store steps = [] :=
  List.dropWhile_eq_nil_iff.mpr passing

theorem fails_of_pending {rest : List Step} (left : actions.pending store steps = step :: rest) :
    actions.passes store step = false := by
  have fails := List.head?_dropWhile_not (actions.passes store) steps
  rw [pending] at left
  rw [left] at fails
  exact fails

theorem apart_of_finished (apart : steps.Pairwise actions.Apart)
    (done : first ∈ actions.finished store steps) (left : second ∈ actions.pending store steps) :
    actions.Apart first second := by
  rw [← finished_append_pending actions store steps] at apart
  exact (List.pairwise_append.mp apart).2.2 first done second left

end Finds

/-! ### What a step leaves -/

variable [DecidableEq Key]

/-- The store an attempt at a step leaves. -/
def leaves (store : Store Key Value) (step : Step) : Store Key Value :=
  match actions.place step with
  | none => store
  | some key => Function.update store key (actions.attempt step (actions.cell store step)).2

/-- Taking a step. -/
def take (step : Step) : Doing Step Key Value Unit :=
  ExceptT.mk fun store =>
    (if actions.passes store step then .ok () else .error step, actions.leaves store step)

/-- Following a plan. -/
def follow (steps : List Step) : Doing Step Key Value Unit := steps.forM actions.take

/-- The store with what the first step that cannot succeed leaves. -/
def leftover (store : Store Key Value) (steps : List Step) : Store Key Value :=
  match actions.pending store steps with
  | [] => store
  | step :: _ => actions.leaves store step

variable {actions} {store after : Store Key Value} {first second step : Step} {steps : List Step}

theorem leaves_of_ne {key : Key} (other : actions.place step ≠ some key) :
    actions.leaves store step key = store key := by
  unfold leaves
  cases own : actions.place step with
  | none => rfl
  | some ownKey =>
    refine Function.update_of_ne ?_ _ _
    rintro rfl
    exact other own

theorem leaves_of_target_none (writes : actions.target step = none) :
    actions.leaves store step = store := by
  rw [leaves, place, writes, Option.map_none]

theorem leaves_at {key : Key} (own : actions.place step = some key) :
    actions.leaves store step key = (actions.attempt step (actions.cell store step)).2 := by
  unfold leaves
  rw [own]
  exact Function.update_self _ _ _

theorem leaves_target {key : Key} {value : Value} (passes : actions.passes store step = true)
    (writes : actions.target step = some (key, value)) :
    actions.leaves store step key = some value := by
  rw [leaves_at (place_of_target writes)]
  exact actions.sets _ writes passes

theorem passes_leaves (apart : actions.Apart first second) :
    actions.passes (actions.leaves store first) second = actions.passes store second :=
  passes_congr fun key own => leaves_of_ne fun taken => apart key taken own

theorem outcome_take (store : Store Key Value) (step : Step) :
    outcome (actions.take step) store =
      (if actions.passes store step then .ok () else .error step, actions.leaves store step) := rfl

/-! ### Whole plans -/

theorem follow_cons (step : Step) (rest : List Step) :
    actions.follow (step :: rest) = actions.take step >>= fun _ => actions.follow rest := rfl

theorem follow_append (steps rest : List Step) :
    actions.follow (steps ++ rest) = actions.follow steps >>= fun _ => actions.follow rest :=
  List.forM_append

/-- What holds after a step, and after the rest where the step succeeds, holds after both. -/
theorem follow_cons_keeps (holds : Store Key Value → Prop) {rest : List Step}
    (first : holds (actions.leaves store step))
    (next : actions.passes store step = true →
      holds (outcome (actions.follow rest) (actions.leaves store step)).2) :
    holds (outcome (actions.follow (step :: rest)) store).2 := by
  rw [follow_cons]
  by_cases passes : actions.passes store step = true
  · have done : outcome (actions.take step) store = (.ok (), actions.leaves store step) := by
      rw [outcome_take, if_pos passes]
    rw [outcome_bind_ok _ done]
    exact next passes
  · have failed : outcome (actions.take step) store = (.error step, actions.leaves store step) := by
      rw [outcome_take, if_neg passes]
    rw [outcome_bind_error _ failed]
    exact first

/-- What every step keeps, a plan keeps, wherever it stops. -/
theorem follow_keeps (holds : Store Key Value → Prop)
    (each : ∀ store step, holds store → holds (actions.leaves store step)) (steps : List Step)
    (start : holds store) : holds (outcome (actions.follow steps) store).2 := by
  induction steps generalizing store with
  | nil => exact start
  | cons step rest ih =>
    have next : holds (actions.leaves store step) := each store step start
    exact follow_cons_keeps holds next fun _ => ih next

theorem follow_append_keeps (holds : Store Key Value → Prop) {rest : List Step}
    (first : holds (outcome (actions.follow steps) store).2)
    (next : holds (outcome (actions.follow rest) (outcome (actions.follow steps) store).2).2) :
    holds (outcome (actions.follow (steps ++ rest)) store).2 := by
  rw [follow_append]
  rcases ended : outcome (actions.follow steps) store with ⟨_ | _, after⟩
  · rw [outcome_bind_error _ ended]
    rw [ended] at first
    exact first
  · rw [outcome_bind_ok _ ended]
    rw [ended] at next
    exact next

/-- Steps that can all succeed, do. -/
theorem follow_passing (apart : steps.Pairwise actions.Apart)
    (passing : ∀ step ∈ steps, actions.passes store step = true) :
    ∃ after, outcome (actions.follow steps) store = (.ok (), after) ∧
      actions.Written steps store after := by
  induction steps generalizing store with
  | nil => exact ⟨store, rfl, fun _ inside => (List.not_mem_nil inside).elim, fun _ _ => rfl⟩
  | cons head rest ih =>
    obtain ⟨headApart, restApart⟩ := List.pairwise_cons.mp apart
    have headPasses := passing head List.mem_cons_self
    have restPassing : ∀ step ∈ rest, actions.passes (actions.leaves store head) step = true := by
      intro step inside
      rw [passes_leaves (headApart step inside)]
      exact passing step (List.mem_cons_of_mem _ inside)
    obtain ⟨after, done, written⟩ := ih restApart restPassing
    have headDone : outcome (actions.take head) store = (.ok (), actions.leaves store head) := by
      rw [outcome_take, if_pos headPasses]
    refine ⟨after, ?_, ?_, ?_⟩
    · rw [follow_cons, outcome_bind_ok _ headDone, done]
    · intro step inside key value writes
      rcases List.mem_cons.mp inside with rfl | later
      · have own := place_of_target writes
        rw [written.other key fun other later => headApart other later key own]
        exact leaves_target headPasses writes
      · exact written.target step later key value writes
    · intro key clear
      rw [written.other key fun step later => clear step (List.mem_cons_of_mem _ later)]
      exact leaves_of_ne (clear head List.mem_cons_self)

/-- **What a plan leaves**, whether or not it fails on the way. -/
theorem follow_written (store : Store Key Value) (apart : steps.Pairwise actions.Apart) :
    actions.Written (actions.finished store steps) (actions.leftover store steps)
      (outcome (actions.follow steps) store).2 := by
  have firstApart : (actions.finished store steps).Pairwise actions.Apart :=
    apart.sublist (List.takeWhile_sublist _)
  obtain ⟨after, done, written⟩ := follow_passing firstApart fun step => passes_of_finished
  have split : actions.follow steps = actions.follow (actions.finished store steps) >>=
      fun _ => actions.follow (actions.pending store steps) := by
    rw [← follow_append, finished_append_pending]
  rw [split, outcome_bind_ok _ done, leftover]
  cases left : actions.pending store steps with
  | nil => exact written
  | cons head rest =>
    have headApart : ∀ step ∈ actions.finished store steps, actions.Apart step head :=
      fun step inside => apart_of_finished apart inside (left ▸ List.mem_cons_self)
    -- The steps before have not touched the place of the first that cannot succeed.
    have untouched : ∀ key, actions.place head = some key → after key = store key :=
      fun key own => written.other key fun step inside taken => headApart step inside key taken own
    have headFails : ¬actions.passes store head = true := by
      rw [fails_of_pending left]
      exact Bool.false_ne_true
    have headStops :
        outcome (actions.take head) after = (.error head, actions.leaves after head) := by
      rw [outcome_take, passes_congr untouched, if_neg headFails]
    rw [follow_cons, outcome_bind_error _ headStops]
    refine ⟨?_, ?_⟩
    · intro step inside key value writes
      show actions.leaves after head key = some value
      rw [leaves_of_ne fun own => headApart step inside key (place_of_target writes) own]
      exact written.target step inside key value writes
    · intro key clear
      show actions.leaves after head key = actions.leaves store head key
      by_cases own : actions.place head = some key
      · rw [leaves_at own, leaves_at own, cell_congr untouched]
      · rw [leaves_of_ne own, leaves_of_ne own]
        exact written.other key clear

theorem leftover_of_pending {rest : List Step} (left : actions.pending store steps = step :: rest) :
    actions.leftover store steps = actions.leaves store step := by
  rw [leftover, left]

variable (actions) in
/-- Where the plan stops, a place is as it was or as the attempt that failed there left it. -/
theorem leftover_cases (store : Store Key Value) (steps : List Step) (key : Key) :
    actions.leftover store steps key = store key ∨
      ∃ step ∈ steps, actions.passes store step = false ∧ actions.place step = some key ∧
        actions.leftover store steps key = (actions.attempt step (store key)).2 := by
  unfold leftover
  cases left : actions.pending store steps with
  | nil => exact .inl rfl
  | cons head rest =>
    show actions.leaves store head key = _ ∨ ∃ step ∈ steps, _ ∧ _ ∧ actions.leaves store head key = _
    by_cases own : actions.place head = some key
    · have inside : head ∈ steps := by
        rw [← finished_append_pending actions store steps, left]
        exact List.mem_append_right _ List.mem_cons_self
      refine .inr ⟨head, inside, fails_of_pending left, own, ?_⟩
      rw [leaves_at own, cell, own, Option.bind_some]
    · exact .inl (leaves_of_ne own)

theorem leftover_of_ne {key : Key} (clear : ∀ step ∈ steps, actions.place step ≠ some key) :
    actions.leftover store steps key = store key := by
  rcases leftover_cases actions store steps key with kept | ⟨step, inside, _, own, _⟩
  · exact kept
  · exact absurd own (clear step inside)

/-- **A plan leads to exactly its values** where no other place was filled and what is left undone is in
place already. -/
theorem follow_reaches_iff {goal : Store Key Value} (apart : steps.Pairwise actions.Apart)
    (covers : ∀ key value, goal key = some value ↔
      ∃ step ∈ steps, actions.target step = some (key, value)) :
    (outcome (actions.follow steps) store).2 = goal ↔
      (∀ key, store key ≠ none → goal key ≠ none) ∧
        ∀ step ∈ actions.pending store steps, ∀ key value,
          actions.target step = some (key, value) →
            actions.leftover store steps key = some value := by
  have written := follow_written store apart
  have among : ∀ {step}, step ∈ steps ↔
      step ∈ actions.finished store steps ∨ step ∈ actions.pending store steps := by
    intro step
    rw [← List.mem_append, finished_append_pending]
  have clear : ∀ {key}, goal key = none → ∀ step ∈ steps, actions.place step ≠ some key := by
    intro key missing step inside own
    obtain ⟨value, writes⟩ := exists_target_of_place own
    cases missing.symm.trans ((covers key value).mpr ⟨step, inside, writes⟩)
  constructor
  · intro reached
    rw [reached] at written
    constructor
    · intro key filled missing
      have kept := written.other key fun step done => clear missing step (among.mpr (.inl done))
      rw [leftover_of_ne (clear missing)] at kept
      exact filled (kept.symm.trans missing)
    · intro step inside key value writes
      have there := (covers key value).mpr ⟨step, among.mpr (.inr inside), writes⟩
      rw [← written.other key fun other done taken =>
        apart_of_finished apart done inside key taken (place_of_target writes)]
      exact there
  · rintro ⟨stale, undone⟩
    funext key
    by_cases taken : ∃ step ∈ actions.finished store steps, actions.place step = some key
    · obtain ⟨step, inside, own⟩ := taken
      obtain ⟨value, writes⟩ := exists_target_of_place own
      rw [written.target step inside key value writes]
      exact ((covers key value).mpr ⟨step, among.mpr (.inl inside), writes⟩).symm
    · rw [written.other key fun step inside own => taken ⟨step, inside, own⟩]
      cases wanted : goal key with
      | none =>
        rw [leftover_of_ne (clear wanted)]
        exact not_not.mp fun filled => stale key filled wanted
      | some value =>
        obtain ⟨step, inside, writes⟩ := (covers key value).mp wanted
        rcases among.mp inside with done | left
        · exact absurd ⟨step, done, place_of_target writes⟩ taken
        · exact undone step left key value writes

/-! ### Following a plan again -/

/-- A plan leaves alone what none of its steps writes to. -/
theorem follow_other (apart : steps.Pairwise actions.Apart) {key : Key}
    (clear : ∀ step ∈ steps, actions.place step ≠ some key) :
    (outcome (actions.follow steps) store).2 key = store key := by
  have written := follow_written store apart
  rw [written.other key fun step done => clear step ((List.takeWhile_sublist _).subset done)]
  exact leftover_of_ne clear

/-- A step that finds in its place what it has left there does the same again, and changes nothing. -/
theorem take_again (settles : ∀ step found,
      actions.attempt step (actions.attempt step found).2 = actions.attempt step found)
    (same : ∀ key, actions.place step = some key → after key = actions.leaves store step key) :
    actions.passes after step = actions.passes store step ∧ actions.leaves after step = after := by
  cases own : actions.place step with
  | none =>
    have alike : actions.cell after step = actions.cell store step := by
      rw [cell, cell, own, Option.bind_none, Option.bind_none]
    refine ⟨by rw [passes, passes, alike], ?_⟩
    rw [leaves, own]
  | some key =>
    have found : actions.cell after step = (actions.attempt step (actions.cell store step)).2 := by
      rw [cell, own, Option.bind_some, same key own, leaves_at own]
    refine ⟨by rw [passes, passes, found, settles], ?_⟩
    rw [leaves, own]
    show Function.update after key (actions.attempt step (actions.cell after step)).2 = after
    rw [found, settles, ← leaves_at own, ← same key own, Function.update_eq_self]

/-- **A plan followed again ends as it did, and changes nothing**, where each step settles. -/
theorem follow_again (settles : ∀ step found,
      actions.attempt step (actions.attempt step found).2 = actions.attempt step found)
    (apart : steps.Pairwise actions.Apart) :
    outcome (actions.follow steps) (outcome (actions.follow steps) store).2 =
      outcome (actions.follow steps) store := by
  induction steps generalizing store with
  | nil => rfl
  | cons head rest ih =>
    obtain ⟨headApart, restApart⟩ := List.pairwise_cons.mp apart
    rw [follow_cons]
    by_cases passes : actions.passes store head = true
    · have done : outcome (actions.take head) store = (.ok (), actions.leaves store head) := by
        rw [outcome_take, if_pos passes]
      rw [outcome_bind_ok _ done]
      -- The rest has left the place of the first step as that one did.
      obtain ⟨passesAgain, leavesAgain⟩ := take_again settles fun key own =>
        follow_other restApart fun step later => headApart step later key own
      have doneAgain : outcome (actions.take head)
          (outcome (actions.follow rest) (actions.leaves store head)).2 =
            (.ok (), (outcome (actions.follow rest) (actions.leaves store head)).2) := by
        rw [outcome_take, passesAgain, if_pos passes, leavesAgain]
      rw [outcome_bind_ok _ doneAgain]
      exact ih restApart
    · have failed : outcome (actions.take head) store = (.error head, actions.leaves store head) := by
        rw [outcome_take, if_neg passes]
      rw [outcome_bind_error _ failed]
      obtain ⟨passesAgain, leavesAgain⟩ :
          actions.passes (actions.leaves store head) head = actions.passes store head ∧
            actions.leaves (actions.leaves store head) head = actions.leaves store head :=
        take_again settles fun _ _ => rfl
      have failedAgain : outcome (actions.take head) (actions.leaves store head) =
          (.error head, actions.leaves store head) := by
        rw [outcome_take, passesAgain, if_neg passes, leavesAgain]
      exact outcome_bind_error _ failedAgain

end Actions

end SpicedbEmbedded.Machine
