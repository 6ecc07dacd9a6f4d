/-
**Programs that call out.**

A program ends with a result, or calls an operation of its surroundings and goes on with the answer.
An environment answers each call in view of the calls before it, so a program and an environment
have one run: the calls made, in order, and the result. A program that may fail is one over
`ExceptT`.

* `Follows t f p q` — the second program makes the translated calls of the first and ends with the
  translated result, as long as it gets the translated answers.
* **`Follows.run_eq`** — in environments that answer alike, its run is the translated run of the
  first.
* `Obeys allowed post p` — whatever it is answered, the program makes only allowed calls and ends
  with a result as said; **`Obeys.run`** — so does every run.
* `Shows see seen p` — of the calls that `see` looks at, a run of the program that succeeds has made
  these; **`Shows.bind`** — part by part.
* `Program.runOn act` — a program in surroundings with a state; **`Program.runOn_eq`** — it is the
  run in the environment that answers as they do. `Program.among` — where there are more operations
  it runs as it does by itself.
-/

import Mathlib.Data.List.Basic

namespace SpicedbEmbedded.Machine

/-- A program over some operations, each with a type of answers. -/
inductive Program (Op : Type) (Answer : Op → Type) (α : Type) : Type
  | done (result : α)
  | call (op : Op) (next : Answer op → Program Op Answer α)

/-- What answers the calls of a program, in view of those before. -/
abbrev Environment (Op : Type) (Answer : Op → Type) : Type := List Op → (op : Op) → Answer op

/-- The calls a program made, in order, and its result. -/
structure Run (Op α : Type) where
  calls : List Op
  result : α

variable {Op Op' : Type} {Answer : Op → Type} {Answer' : Op' → Type} {α β γ δ : Type}

namespace Program

/-- One program after another. -/
def andThen : Program Op Answer α → (α → Program Op Answer β) → Program Op Answer β
  | done result, after => after result
  | call op next, after => call op fun answer => (next answer).andThen after

instance : Monad (Program Op Answer) where
  pure := done
  bind := andThen

/-- The run of a program behind some calls. -/
def run (env : Environment Op Answer) : List Op → Program Op Answer α → Run Op α
  | _, done result => ⟨[], result⟩
  | past, call op next =>
    let rest := run env (past ++ [op]) (next (env past op))
    ⟨op :: rest.calls, rest.result⟩

variable (env : Environment Op Answer)

theorem run_call (past : List Op) (op : Op) (next : Answer op → Program Op Answer α) :
    run env past (call op next) =
      ⟨op :: (run env (past ++ [op]) (next (env past op))).calls,
        (run env (past ++ [op]) (next (env past op))).result⟩ := rfl

/-- The run of one program after another. -/
theorem run_bind (p : Program Op Answer α) (after : α → Program Op Answer β) (past : List Op) :
    (p >>= after).run env past =
      ⟨(p.run env past).calls ++
          ((after (p.run env past).result).run env (past ++ (p.run env past).calls)).calls,
        ((after (p.run env past).result).run env (past ++ (p.run env past).calls)).result⟩ := by
  induction p generalizing past with
  | done result =>
    show (after result).run env past = ⟨[] ++ ((after result).run env (past ++ [])).calls,
      ((after result).run env (past ++ [])).result⟩
    rw [List.append_nil]
    rfl
  | call op next ih =>
    have later := ih (env past op) (past ++ [op])
    rw [List.append_assoc] at later
    show run env past (call op fun answer => next answer >>= after) = _
    rw [run_call, later]
    rfl

end Program

/-! ### Translated programs -/

/-- The operations and their answers, from one set of operations to another. -/
structure Translation (Op : Type) (Answer : Op → Type) (Op' : Type) (Answer' : Op' → Type) where
  op : Op → Op'
  answer : ∀ call, Answer call → Answer' (op call)

/-- A run with its calls and its result translated. -/
def Run.map (onCalls : Op → Op') (onResult : α → β) (r : Run Op α) : Run Op' β :=
  ⟨r.calls.map onCalls, onResult r.result⟩

/-- The second program is the first, translated. -/
inductive Follows (t : Translation Op Answer Op' Answer') (f : α → β) :
    Program Op Answer α → Program Op' Answer' β → Prop
  | done (result : α) : Follows t f (.done result) (.done (f result))
  | call (op : Op) {next : Answer op → Program Op Answer α}
      {next' : Answer' (t.op op) → Program Op' Answer' β}
      (rest : ∀ answer, Follows t f (next answer) (next' (t.answer op answer))) :
      Follows t f (.call op next) (.call (t.op op) next')

namespace Follows

variable {t : Translation Op Answer Op' Answer'} {f : α → β} {g : γ → δ}

/-- Programs that follow one another part by part. -/
theorem bind {p : Program Op Answer α} {p' : Program Op' Answer' β}
    {after : α → Program Op Answer γ} {after' : β → Program Op' Answer' δ} (first : Follows t f p p')
    (rest : ∀ result, Follows t g (after result) (after' (f result))) :
    Follows t g (p >>= after) (p' >>= after') := by
  induction first with
  | done result => exact rest result
  | call op _ ih => exact call op ih

/-- The same for programs that may fail, with the same errors. -/
theorem bindExcept {ε : Type} {p : ExceptT ε (Program Op Answer) α}
    {p' : ExceptT ε (Program Op' Answer') β} {after : α → ExceptT ε (Program Op Answer) γ}
    {after' : β → ExceptT ε (Program Op' Answer') δ}
    (first : Follows t (Except.map f) p.run p'.run)
    (rest : ∀ result, Follows t (Except.map g) (after result).run (after' (f result)).run) :
    Follows t (Except.map g) (p >>= after).run (p' >>= after').run := by
  show Follows t (Except.map g) (p.run >>= ExceptT.bindCont after) (p'.run >>= ExceptT.bindCont after')
  refine bind first ?_
  intro result
  cases result with
  | error err => exact done (Except.error err)
  | ok value => exact rest value

/-- The same where the first parts have the same results. -/
theorem bindSame {ε : Type} {p : ExceptT ε (Program Op Answer) α}
    {p' : ExceptT ε (Program Op' Answer') α} {after : α → ExceptT ε (Program Op Answer) γ}
    {after' : α → ExceptT ε (Program Op' Answer') δ} (first : Follows t id p.run p'.run)
    (rest : ∀ result, Follows t (Except.map g) (after result).run (after' result).run) :
    Follows t (Except.map g) (p >>= after).run (p' >>= after').run := by
  have mapped : Follows t (Except.map id) p.run p'.run := by rwa [Except.map_id]
  exact bindExcept mapped rest

/-- **In environments that answer alike, a translated program has the translated run.** -/
theorem run_eq {p : Program Op Answer α} {p' : Program Op' Answer' β} (follows : Follows t f p p')
    {env : Environment Op Answer} {env' : Environment Op' Answer'}
    (alike : ∀ past op, env' (past.map t.op) (t.op op) = t.answer op (env past op))
    (past : List Op) : p'.run env' (past.map t.op) = (p.run env past).map t.op f := by
  induction follows generalizing past with
  | done result => rfl
  | call op _ ih =>
    have later := ih (env past op) (past ++ [op])
    rw [List.map_append, List.map_singleton] at later
    rw [Program.run_call, Program.run_call, alike, later]
    rfl

end Follows

/-! ### What every run does -/

/-- Whatever is answered, only allowed calls are made, and the result is as said. -/
inductive Obeys (allowed : Op → Prop) (post : α → Prop) : Program Op Answer α → Prop
  | done {result : α} (holds : post result) : Obeys allowed post (.done result)
  | call {op : Op} {next : Answer op → Program Op Answer α} (fine : allowed op)
      (rest : ∀ answer, Obeys allowed post (next answer)) : Obeys allowed post (.call op next)

/-- A value or an error as said. -/
def Ends {ε : Type} (good : α → Prop) (bad : ε → Prop) : Except ε α → Prop
  | .ok value => good value
  | .error err => bad err

namespace Obeys

variable {allowed : Op → Prop} {mid : α → Prop} {post : β → Prop}

theorem bind {p : Program Op Answer α} {after : α → Program Op Answer β} (first : Obeys allowed mid p)
    (rest : ∀ result, mid result → Obeys allowed post (after result)) :
    Obeys allowed post (p >>= after) := by
  induction first with
  | done holds => exact rest _ holds
  | call fine _ ih => exact call fine ih

theorem bindExcept {ε : Type} {bad : ε → Prop} {p : ExceptT ε (Program Op Answer) α}
    {after : α → ExceptT ε (Program Op Answer) β} (first : Obeys allowed (Ends mid bad) p.run)
    (rest : ∀ result, mid result → Obeys allowed (Ends post bad) (after result).run) :
    Obeys allowed (Ends post bad) (p >>= after).run := by
  show Obeys allowed (Ends post bad) (p.run >>= ExceptT.bindCont after)
  refine bind first ?_
  intro result holds
  cases result with
  | error err => exact done holds
  | ok value => exact rest value holds

/-- Every program makes calls and ends. -/
theorem any (p : Program Op Answer α) : Obeys (fun _ => True) (fun _ => True) p := by
  induction p with
  | done result => exact done True.intro
  | call op next ih => exact call True.intro ih

/-- **Every run is as said.** -/
theorem run {p : Program Op Answer β} (obeys : Obeys allowed post p) (env : Environment Op Answer)
    (past : List Op) : (∀ op ∈ (p.run env past).calls, allowed op) ∧ post (p.run env past).result := by
  induction obeys generalizing past with
  | done holds =>
    refine ⟨fun op inside => ?_, holds⟩
    cases inside
  | @call op _ fine _ ih =>
    obtain ⟨later, holds⟩ := ih (env past op) (past ++ [op])
    refine ⟨fun made inside => ?_, holds⟩
    cases inside with
    | head => exact fine
    | tail _ behind => exact later made behind

end Obeys

/-- Only allowed calls are made. -/
abbrev Only (allowed : Op → Prop) (p : Program Op Answer α) : Prop := Obeys allowed (fun _ => True) p

/-- Programs that may fail, one after the other. -/
theorem Only.bindExcept {ε : Type} {allowed : Op → Prop} {p : ExceptT ε (Program Op Answer) α}
    {after : α → ExceptT ε (Program Op Answer) β} (first : Only allowed p.run)
    (rest : ∀ result, Only allowed (after result).run) : Only allowed (p >>= after).run := by
  show Only allowed (p.run >>= ExceptT.bindCont after)
  refine Obeys.bind first ?_
  intro result _
  cases result with
  | error err => exact Obeys.done trivial
  | ok value => exact rest value

/-! ### What a run that succeeds has called -/

section Shows

variable {ε Seen : Type} {see : Op → Option Seen}

/-- Of the calls that are looked at, a run that ends with a value has made these. -/
def Shows (see : Op → Option Seen) (seen : List Seen) (p : ExceptT ε (Program Op Answer) α) : Prop :=
  ∀ env past value, (p.run.run env past).result = .ok value →
    (p.run.run env past).calls.filterMap see = seen

namespace Shows

/-- A program whose calls do not depend on the answers. -/
theorem of_calls {seen : List Seen} {p : ExceptT ε (Program Op Answer) α}
    (calls : ∀ env past, (p.run.run env past).calls.filterMap see = seen) : Shows see seen p :=
  fun env past _ _ => calls env past

theorem pure (value : α) : Shows see [] (pure value : ExceptT ε (Program Op Answer) α) :=
  of_calls fun _ _ => rfl

/-- One program after another shows what both show. -/
theorem bind (seen : List Seen) {later : List Seen} {p : ExceptT ε (Program Op Answer) α}
    {after : α → ExceptT ε (Program Op Answer) β} (first : Shows see seen p)
    (rest : ∀ value, Shows see later (after value)) : Shows see (seen ++ later) (p >>= after) := by
  intro env past value
  show ((p.run >>= ExceptT.bindCont after).run env past).result = _ → _
  rw [show (p >>= after).run = p.run >>= ExceptT.bindCont after from rfl, Program.run_bind]
  have shown := first env past
  cases ended : (p.run.run env past).result with
  | error err =>
    intro failed
    cases failed
  | ok middle =>
    intro returned
    rw [List.filterMap_append, shown middle ended]
    exact congrArg (seen ++ ·) (rest middle env _ value returned)

end Shows

end Shows

/-! ### Surroundings with a state -/

section Surroundings

variable {State : Type} (act : (op : Op) → State → Answer op × State)

/-- A program in surroundings that answer each call from their state, and change it. -/
def Program.runOn : Program Op Answer α → State → α × State
  | .done result, s => (result, s)
  | .call op next, s => (next (act op s).1).runOn (act op s).2

/-- The state that calls lead to. -/
def replay (past : List Op) (s : State) : State := past.foldl (fun s op => (act op s).2) s

/-- The environment that answers as the surroundings do. -/
def answers (s : State) : Environment Op Answer := fun past op => (act op (replay act past s)).1

theorem replay_append (past later : List Op) (s : State) :
    replay act (past ++ later) s = replay act later (replay act past s) :=
  List.foldl_append

theorem Program.runOn_bind (p : Program Op Answer α) (after : α → Program Op Answer β) (s : State) :
    (p >>= after).runOn act s = (after (p.runOn act s).1).runOn act (p.runOn act s).2 := by
  induction p generalizing s with
  | done result => rfl
  | call op next ih => exact ih (act op s).1 (act op s).2

/-- The same for programs that may fail. -/
theorem Program.runOn_bindExcept {ε : Type} (p : ExceptT ε (Program Op Answer) α)
    (after : α → ExceptT ε (Program Op Answer) β) (s : State) :
    (p >>= after).run.runOn act s =
      match p.run.runOn act s with
      | (.error err, t) => (.error err, t)
      | (.ok value, t) => (after value).run.runOn act t := by
  show (p.run >>= ExceptT.bindCont after).runOn act s = _
  rw [Program.runOn_bind]
  rcases p.run.runOn act s with ⟨err | value, t⟩ <;> rfl

/-- A program where there are more operations. -/
def Program.among (op : Op → Op') (answer : ∀ call, Answer' (op call) → Answer call) :
    Program Op Answer α → Program Op' Answer' α
  | .done result => .done result
  | .call made next => .call (op made) fun given => (next (answer made given)).among op answer

/-- It runs there as it does by itself. -/
theorem Program.runOn_among {op : Op → Op'} {answer : ∀ call, Answer' (op call) → Answer call}
    {act' : (call : Op') → State → Answer' call × State}
    (alike : ∀ call s, (answer call (act' (op call) s).1, (act' (op call) s).2) = act call s)
    (p : Program Op Answer α) (s : State) : (p.among op answer).runOn act' s = p.runOn act s := by
  induction p generalizing s with
  | done result => rfl
  | call made next ih =>
    show ((next (answer made (act' (op made) s).1)).among op answer).runOn act' (act' (op made) s).2 = _
    rw [ih, Program.runOn, ← alike]

/-- **In surroundings with a state a program has the run that it has in the environment they are.**
-/
theorem Program.runOn_eq (p : Program Op Answer α) (past : List Op) (s : State) :
    p.runOn act (replay act past s) = ((p.run (answers act s) past).result,
      replay act (past ++ (p.run (answers act s) past).calls) s) := by
  induction p generalizing past with
  | done result => exact congrArg (result, replay act · s) (List.append_nil past).symm
  | call op next ih =>
    have step : (act op (replay act past s)).2 = replay act (past ++ [op]) s := by
      rw [replay_append]
      rfl
    rw [Program.run_call, Program.runOn, step]
    have later := ih (act op (replay act past s)).1 (past ++ [op])
    rw [List.append_assoc] at later
    exact later

end Surroundings

end SpicedbEmbedded.Machine
