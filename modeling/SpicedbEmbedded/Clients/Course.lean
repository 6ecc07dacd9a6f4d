/-
**The course of a start.**

* `Course` — how a start goes after the native start: the first step that fails, and the writes it
  issues. Writes are issued in their order, up to the first that fails.
* `armed` — the steps a binding has a cleanup for.
* **`start_apply`** — the programs of the five bindings take their courses.
-/

import SpicedbEmbedded.Clients.Start

namespace SpicedbEmbedded.Clients.Start

open Machine Prog
open Ffi (Binding)

variable {D R : Type}

/-! ### The course of a start -/

/-- The steps after the native start at which a start can fail. -/
inductive Step
  | decode
  | prepare
  | channel
  | bootstrap
  deriving DecidableEq

/-- The steps a binding takes before the bootstrap. The Rust client builds no channel. -/
def openings (b : Binding) : List Step :=
  match b with
  | .rust => [.decode]
  | _ => [.decode, .prepare, .channel]

/-- How a step before the bootstrap comes out. -/
def Steps.outcome (steps : Steps D R) : Step → Except Thrown Unit
  | .decode => steps.decode
  | .prepare => steps.prepare
  | .channel => steps.channel
  | .bootstrap => .ok ()

/-- The first step before the bootstrap that fails, and what it raises. -/
def opening (b : Binding) (steps : Steps D R) : Option (Step × Thrown) :=
  (openings b).findSome? fun step =>
    match steps.outcome step with
    | .error err => some (step, err)
    | .ok () => none

/-- How writes that follow one another go. -/
structure Issue (D R : Type) where
  result : Except Thrown Unit
  store : D
  issued : List (Write R)

/-- Writes are issued in their order, up to the first that fails. -/
def issue (steps : Steps D R) (store : D) : List (Write R) → Issue D R
  | [] => ⟨.ok (), store, []⟩
  | w :: rest =>
    match steps.write store w with
    | (after, .error err) => ⟨.error err, after, [w]⟩
    | (after, .ok ()) =>
      let later := issue steps after rest
      ⟨later.result, later.store, w :: later.issued⟩

/-- The write of the relationships, if there are any. -/
def relationshipWrites (relationships : List R) : List (Write R) :=
  if relationships = [] then [] else [.relationships (touches relationships)]

/-- The writes of a binding for a schema and relationships. Rust leaves out an empty schema. -/
def bootstrapWrites (b : Binding) (schema : String) (relationships : List R) : List (Write R) :=
  (if b = .rust ∧ schema = "" then [] else [.schema schema]) ++ relationshipWrites relationships

/-- What a binding raises for relationships without a schema, if it does not ignore them. -/
def noSchema : Binding → Thrown
  | .java => ⟨"NullPointerException", false⟩
  | _ => ⟨"ArgumentNullException", false⟩

/-- The writes a start has to make, or what keeps it from making them. -/
def bootstrap {b : Binding} (args : Arguments R b) : Except Thrown (List (Write R)) :=
  match args.schema with
  | some schema => .ok (bootstrapWrites b schema (args.relationships.getD []))
  | none =>
    if (b = .java ∨ b = .csharp) ∧ args.relationships ≠ none then .error (noSchema b) else .ok []

/-- How a start goes after the native start: the step that fails, the datastore it leaves, and the
writes it issues. -/
structure Course (D R : Type) where
  failure : Option (Step × Thrown)
  store : D
  issued : List (Write R)

/-- The course of writes. -/
def Issue.course (i : Issue D R) : Course D R :=
  match i.result with
  | .ok () => ⟨none, i.store, i.issued⟩
  | .error err => ⟨some (.bootstrap, err), i.store, i.issued⟩

/-- The course of a start on a datastore. -/
def course {b : Binding} (steps : Steps D R) (args : Arguments R b) (store : D) : Course D R :=
  match opening b steps with
  | some failure => ⟨some failure, store, []⟩
  | none =>
    match bootstrap args with
    | .error err => ⟨some (.bootstrap, err), store, []⟩
    | .ok writes => (issue steps store writes).course

/-- Whether a binding disposes of the instance when a step raises. -/
def armed (b : Binding) (step : Step) (err : Thrown) : Bool :=
  match b with
  | .rust => step = .bootstrap
  | .python => step = .bootstrap ∧ err.fatal = false
  | .java => step ≠ .decode ∧ err.fatal = false
  | .csharp => step = .channel ∨ step = .bootstrap
  | .node => step = .bootstrap

/-- What the error of a cleanup begins with. -/
def heading : Step → String
  | .bootstrap => "Failed to bootstrap: "
  | _ => "Failed to connect to streaming proxy: "

/-- What a start raises when a step does. -/
def reported (b : Binding) (step : Step) (err : Thrown) : Thrown :=
  if armed b step err = true ∧ b ≠ .rust then ⟨heading step ++ err.text, false⟩ else err

/-- What a program with a course returns or raises, before any handler. -/
def Course.raised {A : Type} (c : Course D R) (a : A) : Except Thrown A :=
  match c.failure with
  | none => .ok a
  | some (_, err) => .error err

/-- What a program with a course returns or raises. -/
def Course.result {A : Type} (c : Course D R) (b : Binding) (a : A) : Except Thrown A :=
  match c.failure with
  | none => .ok a
  | some (step, err) => .error (reported b step err)

/-- The world when the steps of a course have been taken, before any cleanup. -/
def Course.reached (c : Course D R) (s : World D R) : World D R :=
  s.opened.wrote s.next c.store c.issued

/-- The new instance is registered until a cleanup disposes of it. -/
theorem Course.reached_live (c : Course D R) (s : World D R) : s.next ∈ (c.reached s).live :=
  List.mem_cons_self

/-- What is left when a step has raised and the cleanup for it, if there is one, has run. -/
def World.cleaned (s : World D R) (b : Binding) (step : Step) (err : Thrown) (handle : Nat)
    (live : handle ∈ s.live) : World D R :=
  if armed b step err = true then s.dropped handle live else s

/-- The world a start with a course ends in. -/
def Course.world (c : Course D R) (b : Binding) (s : World D R) : World D R :=
  match c.failure with
  | none => c.reached s
  | some (step, err) => (c.reached s).cleaned b step err s.next (c.reached_live s)

/-! ### The programs follow it -/

theorem write_apply (steps : Steps D R) (handle : Nat) (w : Write R) (s : World D R) :
    write steps handle w s =
      .ok ((steps.write s.store w).2, s.wrote handle (steps.write s.store w).1 [w]) :=
  rfl

/-- Makes writes in their order. -/
def writeAll (steps : Steps D R) (handle : Nat) : List (Write R) → Starting D R Unit
  | [] => pure ()
  | w :: rest => do
    write steps handle w
    writeAll steps handle rest

theorem writeAll_one (steps : Steps D R) (handle : Nat) (w : Write R) :
    writeAll steps handle [w] = write steps handle w :=
  bind_pure_unit

/-- Writes that are made are those issued. -/
theorem writeAll_apply (steps : Steps D R) (handle : Nat) (writes : List (Write R))
    (s : World D R) :
    writeAll steps handle writes s =
      .ok ((issue steps s.store writes).result,
        s.wrote handle (issue steps s.store writes).store (issue steps s.store writes).issued) := by
  induction writes generalizing s with
  | nil =>
    rw [issue, World.wrote_nil]
    rfl
  | cons w rest later =>
    rw [writeAll, bind_apply, write_apply, issue]
    rcases steps.write s.store w with ⟨after, err | done⟩
    · rfl
    · show writeAll steps handle rest (s.wrote handle after [w]) = _
      rw [later, World.wrote_wrote]
      rfl

/-- A registered instance can be disposed of, quietly or not. -/
theorem nativeDispose_apply {handle : Nat} {s : World D R} (live : handle ∈ s.live) :
    nativeDispose handle s = .ok (.ok (), s.dropped handle live) :=
  dif_pos live

theorem disposeQuietly_apply {handle : Nat} {s : World D R} (live : handle ∈ s.live) :
    disposeQuietly handle s = .ok (.ok (), s.dropped handle live) :=
  tryCatch_ok (nativeDispose_apply live)

theorem nativeStart_apply {steps : Steps D R} (started : steps.native = .ok ()) (s : World D R) :
    nativeStart steps s = .ok (.ok s.next, s.opened) := by
  rw [nativeStart, started]

theorem relationships_writeAll (steps : Steps D R) (handle : Nat) (relationships : List R) :
    (if relationships ≠ [] then write steps handle (.relationships (touches relationships))
      else pure ()) = writeAll steps handle (relationshipWrites relationships) := by
  rw [relationshipWrites]
  by_cases empty : relationships = []
  · rw [if_neg (not_not_intro empty), if_pos empty]
    rfl
  · rw [if_pos empty, if_neg empty, writeAll_one]

/-- The bootstrap of Python makes the writes due. -/
theorem pythonBootstrap_eq (steps : Steps D R) (handle : Nat) (schema : String)
    (relationships : List R) :
    pythonBootstrap steps handle schema relationships =
      writeAll steps handle (bootstrapWrites .python schema relationships) := by
  rw [pythonBootstrap, relationships_writeAll]
  rfl

theorem opened_wrote_nil (s : World D R) (handle : Nat) :
    s.opened.wrote handle s.store [] = s.opened :=
  s.opened.wrote_nil handle

section
variable {b : Binding} {steps : Steps D R} {err : Thrown}

theorem opening_decode (decoded : steps.decode = .error err) :
    opening b steps = some (.decode, err) := by
  cases b <;> simp only [opening, openings, List.findSome?_cons, Steps.outcome, decoded]

theorem opening_prepare (other : b ≠ .rust) (decoded : steps.decode = .ok ())
    (prepared : steps.prepare = .error err) : opening b steps = some (.prepare, err) := by
  cases b
  · exact absurd rfl other
  all_goals simp only [opening, openings, List.findSome?_cons, Steps.outcome, decoded, prepared]

theorem opening_channel (other : b ≠ .rust) (decoded : steps.decode = .ok ())
    (prepared : steps.prepare = .ok ()) (connected : steps.channel = .error err) :
    opening b steps = some (.channel, err) := by
  cases b
  · exact absurd rfl other
  all_goals
    simp only [opening, openings, List.findSome?_cons, Steps.outcome, decoded, prepared, connected]

theorem opening_passed (decoded : steps.decode = .ok ()) (prepared : steps.prepare = .ok ())
    (connected : steps.channel = .ok ()) : opening b steps = none := by
  cases b <;>
    simp only [opening, openings, List.findSome?_cons, List.findSome?_nil, Steps.outcome, decoded,
      prepared, connected]

end

/-- An error before the bootstrap ends the course. -/
theorem course_failed {b : Binding} {steps : Steps D R} {failure : Step × Thrown}
    (failed : opening b steps = some failure) (args : Arguments R b) (store : D) :
    course steps args store = ⟨some failure, store, []⟩ := by
  rw [course, failed]

/-- A bootstrap that is refused ends the course. -/
theorem course_refused {b : Binding} {steps : Steps D R} {args : Arguments R b} {err : Thrown}
    (passed : opening b steps = none) (refused : bootstrap args = .error err) (store : D) :
    course steps args store = ⟨some (.bootstrap, err), store, []⟩ := by
  rw [course, passed, refused]

/-- The course of a start that gets to its writes is theirs. -/
theorem course_issue {b : Binding} {steps : Steps D R} {args : Arguments R b}
    {writes : List (Write R)} (passed : opening b steps = none) (due : bootstrap args = .ok writes)
    (store : D) : course steps args store = (issue steps store writes).course := by
  rw [course, passed, due]

/-- Makes the writes due, or raises what keeps it from making them. -/
def make (steps : Steps D R) (handle : Nat) : Except Thrown (List (Write R)) → Starting D R Unit
  | .ok writes => writeAll steps handle writes
  | .error err => raise err

/-- A bootstrap takes its course. -/
theorem make_apply {b : Binding} {steps : Steps D R} (passed : opening b steps = none)
    (args : Arguments R b) (s : World D R) :
    make steps s.next (bootstrap args) s.opened =
      .ok ((course steps args s.store).raised (), (course steps args s.store).reached s) := by
  rcases due : bootstrap args with err | writes
  · rw [course_refused passed due, Course.reached, opened_wrote_nil]
    rfl
  · rw [course_issue passed due, make, writeAll_apply, World.opened_store]
    rcases issue steps s.store writes with ⟨err | done, after, issued⟩ <;> rfl

/-- After the opening steps, it is the bootstrap that fails. -/
theorem course_late {b : Binding} {steps : Steps D R} (passed : opening b steps = none)
    (args : Arguments R b) (store : D) {step : Step} {err : Thrown}
    (failed : (course steps args store).failure = some (step, err)) : step = .bootstrap := by
  rcases due : bootstrap args with refusal | writes
  · rw [course_refused passed due] at failed
    cases failed
    rfl
  · rw [course_issue passed due, Issue.course] at failed
    generalize issue steps store writes = made at failed
    rcases made with ⟨raised | done, after, issued⟩
    · cases failed
      rfl
    · cases failed

/-- A handler that does what a binding owes when a step raises. -/
def Cleans {A : Type} (b : Binding) (step : Step) (handle : Nat)
    (handler : Thrown → Starting D R A) : Prop :=
  ∀ err (t : World D R) (live : handle ∈ t.live),
    handler err t = .ok (.error (reported b step err), t.cleaned b step err handle live)

theorem tryCatch_cleans {A : Type} {b : Binding} {step : Step} {handle : Nat}
    {body : Starting D R A} {handler : Thrown → Starting D R A} {s t : World D R} {err : Thrown}
    (cleans : Cleans b step handle handler) (ran : body s = .ok (.error err, t))
    (live : handle ∈ t.live) :
    tryCatch body handler s =
      .ok (.error (reported b step err), t.cleaned b step err handle live) := by
  rw [tryCatch_error ran, cleans err t live]

/-- A bootstrap that is run under such a handler ends as its course says. -/
theorem tryCatch_course {A : Type} {b : Binding} {steps : Steps D R} {args : Arguments R b}
    {s : World D R} {body : Starting D R A} {handler : Thrown → Starting D R A} {a : A}
    (passed : opening b steps = none)
    (ran : body s.opened =
      .ok ((course steps args s.store).raised a, (course steps args s.store).reached s))
    (cleans : Cleans b .bootstrap s.next handler) :
    tryCatch body handler s.opened =
      .ok ((course steps args s.store).result b a, (course steps args s.store).world b s) := by
  rcases failed : (course steps args s.store).failure with none | ⟨step, err⟩
  · rw [Course.raised, failed] at ran
    rw [tryCatch_ok ran, Course.result, Course.world, failed]
  · obtain rfl := course_late passed args s.store failed
    rw [Course.raised, failed] at ran
    rw [tryCatch_cleans cleans ran (Course.reached_live _ s), Course.result, Course.world, failed]

/-- What a program returns may be replaced. -/
theorem replaced_apply {A B : Type} {c : Course D R} {b : Binding} {x : Starting D R A}
    {s t : World D R} {a : A} (ran : x s = .ok (c.result b a, t)) (value : B) :
    (x >>= fun _ => pure value) s = .ok (c.result b value, t) := by
  rw [bind_apply, ran, Course.result, Course.result]
  rcases c.failure with none | ⟨step, err⟩ <;> rfl

theorem raised_apply {A B : Type} {c : Course D R} {x : Starting D R A}
    {s t : World D R} {a : A} (ran : x s = .ok (c.raised a, t)) (value : B) :
    (x >>= fun _ => pure value) s = .ok (c.raised value, t) := by
  rw [bind_apply, ran, Course.raised, Course.raised]
  rcases c.failure with none | ⟨step, err⟩ <;> rfl

/-- What a start returns or raises by its opening steps, and leaves. -/
def opened {A : Type} (b : Binding) (steps : Steps D R) (s : World D R) (a : A) :
    Except Fault (Except Thrown A × World D R) :=
  match opening b steps with
  | none => .ok (.ok a, s.opened)
  | some (step, err) =>
    .ok (.error (reported b step err), s.opened.cleaned b step err s.next List.mem_cons_self)

/-- A start that fails in its opening steps takes its course. -/
theorem opened_failed {A : Type} {b : Binding} {steps : Steps D R} {step : Step} {err : Thrown}
    (failed : opening b steps = some (step, err)) (args : Arguments R b) (s : World D R) (a : A) :
    (.ok (.error (reported b step err), s.opened.cleaned b step err s.next List.mem_cons_self) :
        Except Fault (Except Thrown A × World D R)) =
      .ok ((course steps args s.store).result b a, (course steps args s.store).world b s) := by
  rw [course_failed failed]
  simp only [Course.result, Course.world, Course.reached, opened_wrote_nil]

/-- A start that makes no write takes its course. -/
theorem opened_passed {A : Type} {b : Binding} {steps : Steps D R} {args : Arguments R b}
    (passed : opening b steps = none) (idle : bootstrap args = .ok []) (s : World D R) (a : A) :
    (.ok (.ok a, s.opened) : Except Fault (Except Thrown A × World D R)) =
      .ok ((course steps args s.store).result b a, (course steps args s.store).world b s) := by
  rw [course_issue passed idle]
  simp only [issue, Issue.course, Course.result, Course.world, Course.reached, opened_wrote_nil]

theorem reported_armed {b : Binding} {step : Step} {err : Thrown}
    (isArmed : armed b step err = true) (other : b ≠ .rust) :
    reported b step err = ⟨heading step ++ err.text, false⟩ :=
  if_pos ⟨isArmed, other⟩

/-- A handler cleans up if it disposes of the instance when it is armed, and else passes the error
on. -/
theorem cleans_of {A : Type} {b : Binding} {step : Step} {handle : Nat}
    {handler : Thrown → Starting D R A} {dispose : Starting D R Unit}
    (disposes : ∀ (t : World D R) (live : handle ∈ t.live),
      dispose t = .ok (.ok (), t.dropped handle live))
    (fires : ∀ err, armed b step err = true →
      handler err = do dispose; raise (reported b step err))
    (passes : ∀ err, armed b step err = false → handler err = raise err) :
    Cleans b step handle handler := by
  intro err t live
  rw [World.cleaned]
  by_cases isArmed : armed b step err = true
  · rw [fires err isArmed, if_pos isArmed, bind_apply, disposes t live]
    rfl
  · have off := Bool.eq_false_iff.mpr isArmed
    rw [passes err off, if_neg isArmed, raise_apply, reported, if_neg fun on => isArmed on.1]

/-- Without a schema, Python, Node and Rust have nothing to write. -/
theorem bootstrap_none {b : Binding} {args : Arguments R b} (absent : args.schema = none)
    (ignores : b ≠ .java ∧ b ≠ .csharp) : bootstrap args = .ok [] := by
  rw [bootstrap, absent]
  exact if_neg fun refuses => refuses.1.elim ignores.1 ignores.2

theorem bootstrap_some {b : Binding} {args : Arguments R b} {schema : String}
    (given : args.schema = some schema) :
    bootstrap args = .ok (bootstrapWrites b schema (args.relationships.getD [])) := by
  rw [bootstrap, given]

/-! ### Rust -/

theorem rustStart_apply {steps : Steps D R} (started : steps.native = .ok ()) (s : World D R) :
    rustStart steps s = opened .rust steps s ⟨s.next⟩ := by
  simp only [rustStart, opened, opening, openings, List.findSome?_cons, Steps.outcome, bind_apply,
    nativeStart_apply started, ofExcept_apply]
  rcases steps.decode with err | done <;> rfl

/-- The object that is dropped disposes of its handle. -/
theorem rust_cleans {A : Type} (handle : Nat) :
    Cleans (D := D) (R := R) (A := A) .rust .bootstrap handle (fun err => do
      disposeQuietly handle
      raise err) := by
  apply cleans_of fun t live => disposeQuietly_apply live
  · intro err isArmed
    rw [reported, if_neg fun both => both.2 rfl]
  · intro err off
    cases off

/-- `start_with_schema` makes the writes due. -/
theorem rustStartWithSchema_eq (steps : Steps D R) (schema : String) (relationships : List R) :
    rustStartWithSchema steps schema relationships = (do
      let db ← rustStart steps
      tryCatch (writeAll steps db.handle (bootstrapWrites .rust schema relationships) >>=
          fun _ => pure db) (fun err => do
        disposeQuietly db.handle
        raise err)) := by
  rw [rustStartWithSchema]
  refine bind_congr fun db => congrArg (tryCatch · _) ?_
  rw [bootstrapWrites, relationshipWrites]
  by_cases noText : schema = "" <;> by_cases none : relationships = [] <;>
    simp [noText, none, writeAll]

theorem rust_apply {steps : Steps D R} (args : Arguments R .rust) {schema : String}
    (given : args.schema = some schema) (started : steps.native = .ok ()) (s : World D R) :
    rustStartWithSchema steps schema (args.relationships.getD []) s =
      .ok ((course steps args s.store).result .rust ⟨s.next⟩,
        (course steps args s.store).world .rust s) := by
  rw [rustStartWithSchema_eq, bind_apply, rustStart_apply started, opened]
  rcases passed : opening .rust steps with none | ⟨step, err⟩
  · have ran := make_apply passed args s
    rw [bootstrap_some given, make] at ran
    exact tryCatch_course passed (raised_apply ran _) (rust_cleans s.next)
  · exact opened_failed passed args s _

/-! ### Python and Node -/

/-- Python, and Node, have no cleanup for their opening steps. -/
theorem pythonInit_apply {b : Binding} {steps : Steps D R} (plain : b = .python ∨ b = .node)
    (started : steps.native = .ok ()) (s : World D R) :
    pythonInit steps s = opened b steps s s.next := by
  rw [opened]
  rcases decoded : steps.decode with err | done
  · rw [opening_decode decoded]
    simp only [pythonInit, bind_apply, nativeStart_apply started, ofExcept_apply, decoded]
    rcases plain with rfl | rfl <;> rfl
  have other : b ≠ .rust := by rcases plain with rfl | rfl <;> exact nofun
  rcases prepared : steps.prepare with err | done
  · rw [opening_prepare other decoded prepared]
    simp only [pythonInit, bind_apply, nativeStart_apply started, ofExcept_apply, decoded, prepared]
    rcases plain with rfl | rfl <;> rfl
  rcases connected : steps.channel with err | done
  · rw [opening_channel other decoded prepared connected]
    simp only [pythonInit, bind_apply, nativeStart_apply started, ofExcept_apply, decoded, prepared,
      connected]
    rcases plain with rfl | rfl <;> rfl
  · rw [opening_passed decoded prepared connected]
    simp only [pythonInit, bind_apply, nativeStart_apply started, ofExcept_apply, decoded, prepared,
      connected, pure_apply]

/-- The handler of Python lets what is fatal through. -/
theorem python_cleans {A : Type} (handle : Nat) :
    Cleans (D := D) (R := R) (A := A) .python .bootstrap handle (fun err =>
      if err.fatal then raise err
      else do
        nativeDispose handle
        raise ⟨"Failed to bootstrap: " ++ err.text, false⟩) := by
  apply cleans_of fun t live => nativeDispose_apply live
  · intro err isArmed
    have mild : ¬ err.fatal = true := by simpa [armed] using isArmed
    rw [reported_armed isArmed nofun, if_neg mild]
    rfl
  · intro err off
    have fatal : err.fatal = true := by simpa [armed] using off
    rw [if_pos fatal]

theorem node_cleans {A : Type} (handle : Nat) :
    Cleans (D := D) (R := R) (A := A) .node .bootstrap handle (fun err => do
      nativeDispose handle
      raise ⟨"Failed to bootstrap: " ++ err.text, false⟩) := by
  apply cleans_of fun t live => nativeDispose_apply live
  · intro err isArmed
    rw [reported_armed isArmed nofun]
    rfl
  · intro err off
    cases off

theorem python_apply {steps : Steps D R} (args : Arguments R .python)
    (started : steps.native = .ok ()) (s : World D R) :
    pythonStart steps args.schema args.relationships s =
      .ok ((course steps args s.store).result .python ⟨s.next⟩,
        (course steps args s.store).world .python s) := by
  rw [pythonStart, bind_apply, pythonInit_apply (b := .python) (.inl rfl) started, opened]
  rcases passed : opening .python steps with none | ⟨step, err⟩
  · rcases given : args.schema with none | schema
    · exact opened_passed passed (bootstrap_none given ⟨nofun, nofun⟩) s _
    · have ran := make_apply passed args s
      rw [bootstrap_some given, make, ← pythonBootstrap_eq] at ran
      exact replaced_apply (tryCatch_course passed ran (python_cleans s.next)) _
  · exact opened_failed passed args s _

/-- Node opens as Python does, and its bootstrap is Python's. -/
theorem nodeStart_eq (steps : Steps D R) (schema : Option String)
    (relationships : Option (List R)) :
    nodeStart steps schema relationships = (do
      let handle ← pythonInit steps
      match schema with
      | none => pure ⟨handle⟩
      | some schema => do
        tryCatch (nodeBootstrap steps handle schema (relationships.getD [])) (fun err => do
          nativeDispose handle
          raise ⟨"Failed to bootstrap: " ++ err.text, false⟩)
        pure ⟨handle⟩) := by
  cases schema <;>
    simp only [nodeStart, pythonInit, bind_assoc, pure_bind, Option.isSome_some, if_true]

theorem nodeBootstrap_eq (steps : Steps D R) (handle : Nat) (schema : String)
    (relationships : List R) :
    nodeBootstrap steps handle schema relationships =
      writeAll steps handle (bootstrapWrites .node schema relationships) := by
  simp only [nodeBootstrap, List.length_pos_iff, relationships_writeAll]
  rfl

theorem node_apply {steps : Steps D R} (args : Arguments R .node)
    (started : steps.native = .ok ()) (s : World D R) :
    nodeStart steps args.schema args.relationships s =
      .ok ((course steps args s.store).result .node ⟨s.next⟩,
        (course steps args s.store).world .node s) := by
  rw [nodeStart_eq, bind_apply, pythonInit_apply (b := .node) (.inr rfl) started, opened]
  rcases passed : opening .node steps with none | ⟨step, err⟩
  · rcases given : args.schema with none | schema
    · exact opened_passed passed (bootstrap_none given ⟨nofun, nofun⟩) s _
    · have ran := make_apply passed args s
      rw [bootstrap_some given, make, ← nodeBootstrap_eq] at ran
      exact replaced_apply (tryCatch_course passed ran (node_cleans s.next)) _
  · exact opened_failed passed args s _

/-! ### Java and C# -/

/-- The handlers of Java let what is fatal through. -/
theorem java_cleans {A : Type} (handle : Nat) {step : Step} (text : String) (late : step ≠ .decode)
    (headed : heading step = text) :
    Cleans (D := D) (R := R) (A := A) .java step handle (fun err =>
      if err.fatal then raise err
      else do
        disposeQuietly handle
        raise ⟨text ++ err.text, false⟩) := by
  apply cleans_of fun t live => disposeQuietly_apply live
  · intro err isArmed
    have mild : ¬ err.fatal = true := by simpa [armed, late] using isArmed
    rw [reported_armed isArmed nofun, if_neg mild, headed]
  · intro err off
    have fatal : err.fatal = true := by simpa [armed, late] using off
    rw [if_pos fatal]

theorem csharp_cleans {A : Type} (handle : Nat) {step : Step} (text : String)
    (late : step = .channel ∨ step = .bootstrap) (headed : heading step = text)
    {dispose : Starting D R Unit} (disposes : ∀ (t : World D R) (live : handle ∈ t.live),
      dispose t = .ok (.ok (), t.dropped handle live)) :
    Cleans (D := D) (R := R) (A := A) .csharp step handle (fun err => do
      dispose
      raise ⟨text ++ err.text, false⟩) := by
  apply cleans_of disposes
  · intro err isArmed
    rw [reported_armed isArmed nofun, headed]
  · intro err off
    have on : armed .csharp step err = true := decide_eq_true late
    rw [on] at off
    cases off

theorem javaStartInstance_apply {steps : Steps D R} (started : steps.native = .ok ())
    (s : World D R) : javaStartInstance steps s = opened .java steps s ⟨s.next⟩ := by
  have caught (step : Step) (late : step ≠ .decode) (headed : heading step = _) :=
    java_cleans (D := D) (R := R) (A := Unit) s.next "Failed to connect to streaming proxy: " late
      headed
  rw [opened]
  rcases decoded : steps.decode with err | done
  · rw [opening_decode decoded]
    simp only [javaStartInstance, bind_apply, nativeStart_apply started, ofExcept_apply, decoded]
    rfl
  rcases prepared : steps.prepare with err | done
  · rw [opening_prepare (b := .java) (by decide) decoded prepared]
    simp only [javaStartInstance, bind_apply, nativeStart_apply started, ofExcept_apply, decoded,
      prepared]
    rw [tryCatch_cleans (caught .prepare (by decide) rfl) (t := s.opened) rfl List.mem_cons_self]
  rcases connected : steps.channel with err | done
  · rw [opening_channel (b := .java) (by decide) decoded prepared connected]
    simp only [javaStartInstance, bind_apply, nativeStart_apply started, ofExcept_apply, decoded,
      prepared, connected]
    rw [tryCatch_cleans (caught .channel (by decide) rfl) (t := s.opened) rfl List.mem_cons_self]
  · rw [opening_passed decoded prepared connected]
    simp only [javaStartInstance, bind_apply, nativeStart_apply started, ofExcept_apply, decoded,
      prepared, connected]
    rfl

theorem csharpStartInstance_apply {steps : Steps D R} (started : steps.native = .ok ())
    (s : World D R) : csharpStartInstance steps s = opened .csharp steps s ⟨s.next⟩ := by
  have caught := csharp_cleans (D := D) (R := R) (A := Unit) s.next
    "Failed to connect to streaming proxy: " (.inl rfl) rfl fun t live => disposeQuietly_apply live
  rw [opened]
  rcases decoded : steps.decode with err | done
  · rw [opening_decode decoded]
    simp only [csharpStartInstance, bind_apply, nativeStart_apply started, ofExcept_apply, decoded]
    rfl
  rcases prepared : steps.prepare with err | done
  · rw [opening_prepare (b := .csharp) nofun decoded prepared]
    simp only [csharpStartInstance, bind_apply, nativeStart_apply started, ofExcept_apply, decoded,
      prepared]
    rfl
  rcases connected : steps.channel with err | done
  · rw [opening_channel (b := .csharp) nofun decoded prepared connected]
    simp only [csharpStartInstance, bind_apply, nativeStart_apply started, ofExcept_apply, decoded,
      prepared, connected]
    rw [tryCatch_cleans caught (t := s.opened) rfl List.mem_cons_self]
  · rw [opening_passed decoded prepared connected]
    simp only [csharpStartInstance, bind_apply, nativeStart_apply started, ofExcept_apply, decoded,
      prepared, connected]
    rfl

/-- What Java does with a schema, or without, is its bootstrap. -/
theorem javaBody_eq (steps : Steps D R) (handle : Nat) (args : Arguments R .java)
    (given : args.schema ≠ none ∨ args.relationships ≠ none) :
    (match args.schema with
      | none => raise ⟨"NullPointerException", false⟩
      | some schema => do
        write steps handle (.schema schema)
        match args.relationships with
        | none => pure ()
        | some relationships =>
          if relationships ≠ [] then write steps handle (.relationships (touches relationships))
          else pure () : Starting D R Unit) =
      make steps handle (bootstrap args) := by
  rcases schema : args.schema with none | text
  · have other := given.resolve_left (not_not_intro schema)
    rw [bootstrap, schema]
    simp only [other, ne_eq, not_false_eq_true, true_or, and_self, if_true]
    rfl
  · rw [bootstrap_some schema]
    rcases args.relationships with none | relationships
    · rfl
    · simp only [relationships_writeAll]
      rfl

theorem java_apply {steps : Steps D R} (args : Arguments R .java)
    (given : args.schema ≠ none ∨ args.relationships ≠ none) (started : steps.native = .ok ())
    (s : World D R) :
    javaStart steps args.schema args.relationships s =
      .ok ((course steps args s.store).result .java ⟨s.next⟩,
        (course steps args s.store).world .java s) := by
  rw [javaStart, bind_apply, javaStartInstance_apply started, opened]
  rcases passed : opening .java steps with none | ⟨step, err⟩
  · have ran := make_apply passed args s
    rw [← javaBody_eq steps s.next args given] at ran
    exact replaced_apply (tryCatch_course passed ran
      (java_cleans s.next "Failed to bootstrap: " nofun rfl)) _
  · exact opened_failed passed args s _

theorem csharpBootstrap_eq (steps : Steps D R) (handle : Nat) (args : Arguments R .csharp)
    (given : args.schema ≠ none ∨ args.relationships ≠ none) :
    csharpBootstrap steps handle args.schema (args.relationships.getD []) =
      make steps handle (bootstrap args) := by
  rcases schema : args.schema with none | text
  · have other := given.resolve_left (not_not_intro schema)
    rw [bootstrap, schema]
    simp only [other, ne_eq, not_false_eq_true, or_true, and_self, if_true]
    rfl
  · rw [bootstrap_some schema]
    simp only [csharpBootstrap, List.length_pos_iff, relationships_writeAll]
    rfl

theorem csharp_apply {steps : Steps D R} (args : Arguments R .csharp)
    (given : args.schema ≠ none ∨ args.relationships ≠ none) (started : steps.native = .ok ())
    (s : World D R) :
    csharpStart steps args.schema args.relationships s =
      .ok ((course steps args s.store).result .csharp ⟨s.next⟩,
        (course steps args s.store).world .csharp s) := by
  rw [csharpStart, bind_apply, csharpStartInstance_apply started, opened]
  rcases passed : opening .csharp steps with none | ⟨step, err⟩
  · have ran := make_apply passed args s
    rw [← csharpBootstrap_eq steps s.next args given] at ran
    exact replaced_apply (tryCatch_course passed ran (csharp_cleans s.next "Failed to bootstrap: "
      (.inr rfl) rfl fun t live => nativeDispose_apply live)) _
  · exact opened_failed passed args s _

/-! ### All five -/

theorem bootstrap_nothing {b : Binding} {args : Arguments R b} (noSchema : args.schema = none)
    (noRelationships : args.relationships = none) : bootstrap args = .ok [] := by
  rw [bootstrap, noSchema]
  exact if_neg fun refuses => refuses.2 noRelationships

/-- A start that is given nothing takes the course of its opening steps. -/
theorem opened_nothing {b : Binding} {steps : Steps D R} {args : Arguments R b}
    (idle : bootstrap args = .ok []) (s : World D R) :
    opened b steps s (⟨s.next⟩ : Instance) =
      .ok ((course steps args s.store).result b ⟨s.next⟩,
        (course steps args s.store).world b s) := by
  rw [opened]
  rcases passed : opening b steps with none | ⟨step, err⟩
  · exact opened_passed passed idle s _
  · exact opened_failed passed args s _

/-- **The programs of the five bindings take their courses.** -/
theorem start_apply {b : Binding} {steps : Steps D R} (args : Arguments R b)
    (started : steps.native = .ok ()) (s : World D R) :
    start b steps args s =
      .ok ((course steps args s.store).result b ⟨s.next⟩,
        (course steps args s.store).world b s) := by
  cases b with
  | rust =>
    rw [start]
    rcases given : args.schema with none | schema
    · rw [← opened_nothing (bootstrap_none given ⟨nofun, nofun⟩)]
      exact rustStart_apply started s
    · exact rust_apply args given started s
  | python => exact python_apply args started s
  | java =>
    rcases args with ⟨none | schema, none | relationships, typed⟩
    · rw [← opened_nothing (bootstrap_nothing rfl rfl)]
      exact javaStartInstance_apply started s
    · exact java_apply ⟨none, some relationships, typed⟩ (.inr nofun) started s
    · exact java_apply ⟨some schema, none, typed⟩ (.inl nofun) started s
    · exact java_apply ⟨some schema, some relationships, typed⟩ (.inl nofun) started s
  | csharp =>
    rcases args with ⟨none | schema, none | relationships, typed⟩
    · rw [← opened_nothing (bootstrap_nothing rfl rfl)]
      exact csharpStartInstance_apply started s
    · exact csharp_apply ⟨none, some relationships, typed⟩ (.inr nofun) started s
    · exact csharp_apply ⟨some schema, none, typed⟩ (.inl nofun) started s
    · exact csharp_apply ⟨some schema, some relationships, typed⟩ (.inl nofun) started s
  | node => exact node_apply args started s

/-- A start whose native start fails does nothing. -/
theorem start_refused {b : Binding} {steps : Steps D R} {err : Thrown} (args : Arguments R b)
    (refused : steps.native = .error err) (s : World D R) :
    start b steps args s = .ok (.error err, s) := by
  have native : nativeStart steps s = .ok (.error err, s) := by rw [nativeStart, refused]
  cases b with
  | rust =>
    rcases args with ⟨none | schema, relationships, typed⟩
    · exact bind_error native _
    · exact bind_error (bind_error native _) _
  | python => exact bind_error (bind_error native _) _
  | java =>
    rcases args with ⟨none | schema, none | relationships, typed⟩
    · exact bind_error native _
    all_goals exact bind_error (bind_error native _) _
  | csharp =>
    rcases args with ⟨none | schema, none | relationships, typed⟩
    · exact bind_error native _
    all_goals exact bind_error (bind_error native _) _
  | node => exact bind_error native _

end SpicedbEmbedded.Clients.Start
