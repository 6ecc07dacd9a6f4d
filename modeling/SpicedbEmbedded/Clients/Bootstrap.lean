/-
**What a start leaves behind.**

* **`start_leakless_iff`** — a start leaks no instance exactly when the step that fails, if one does,
  is one the binding has a cleanup for.
* **`start_bootstraps`** — what a start writes, and when it drops no relationship. Rust leaves out an
  empty schema; Python and Node do not look at relationships that come without a schema.
-/

import SpicedbEmbedded.Clients.Course

namespace SpicedbEmbedded.Clients.Start

open Machine Prog
open Ffi (Binding)

variable {D R : Type}

/-! ### Leaks -/

/-- A start that returns owns a live handle; one that raises after the native start has succeeded
has disposed of the handle once, and the library knows it no more. -/
def Leakless (b : Binding) (steps : Steps D R) (args : Arguments R b) (s : World D R) : Prop :=
  ∃ result t, start b steps args s = .ok (result, t) ∧
    match result with
    | .ok db => db.handle = s.next ∧ db.handle ∈ t.live ∧ db.handle ∉ t.disposed
    | .error _ => steps.native = .ok () → s.next ∉ t.live ∧ t.disposed.count s.next = 1

/-- A handle that is new and is disposed of has been disposed of once, and is gone. -/
theorem dropped_gone (c : Course D R) (s : World D R) :
    s.next ∉ ((c.reached s).dropped s.next (c.reached_live s)).live ∧
      ((c.reached s).dropped s.next (c.reached_live s)).disposed.count s.next = 1 := by
  rw [World.dropped_live, World.dropped_disposed, Course.reached, World.wrote_live,
    World.wrote_disposed, World.opened_live, World.opened_disposed, List.erase_cons_head,
    List.count_append, List.count_singleton_self,
    List.count_eq_zero_of_not_mem s.next_unknown.2]
  exact ⟨s.next_unknown.1, rfl⟩

/-- **A start leaks no instance exactly when the step that fails, if one does, is one the binding has
a cleanup for.** -/
theorem start_leakless_iff (b : Binding) (steps : Steps D R) (args : Arguments R b)
    (s : World D R) :
    Leakless b steps args s ↔
      (steps.native = .ok () → ∀ step err, (course steps args s.store).failure = some (step, err) →
        armed b step err = true) := by
  rcases started : steps.native with refusal | done
  · refine ⟨fun _ impossible => ?_, fun _ => ⟨_, s, start_refused args started s, ?_⟩⟩
    · cases impossible
    · intro impossible
      rw [started] at impossible
      cases impossible
  have ran := start_apply args started s
  rcases failed : (course steps args s.store).failure with none | ⟨step, err⟩
  · simp only [Course.result, Course.world, failed] at ran
    refine ⟨fun _ _ _ _ impossible => ?_, fun _ => ?_⟩
    · cases impossible
    · exact ⟨_, _, ran, rfl, List.mem_cons_self, s.next_unknown.2⟩
  simp only [Course.result, Course.world, failed] at ran
  by_cases isArmed : armed b step err = true
  · simp only [World.cleaned, if_pos isArmed] at ran
    refine ⟨fun _ _ step' err' same => ?_, fun _ => ⟨_, _, ran, fun _ => dropped_gone _ s⟩⟩
    obtain ⟨rfl, rfl⟩ := Prod.mk.inj (Option.some.inj same)
    exact isArmed
  · simp only [World.cleaned, if_neg isArmed] at ran
    constructor
    · rintro ⟨result, t, other, kept⟩
      obtain ⟨rfl, rfl⟩ := Prod.mk.inj (Except.ok.inj (ran.symm.trans other))
      exact absurd (Course.reached_live _ s) (kept started).1
    · exact fun all => absurd (all rfl step err rfl) isArmed

/-- The world before anything has been started. -/
def World.initial : World Unit Unit where
  next := 1
  live := []
  disposed := []
  store := ()
  writes := []
  fresh _ known := nomatch known

/-- Every step comes out well but the channel. -/
def channelless : Steps Unit Unit where
  native := .ok ()
  decode := .ok ()
  prepare := .ok ()
  channel := .error ⟨"channel", false⟩
  write _ _ := ((), .ok ())

/-- Python leaves an instance behind whose channel cannot be built. -/
theorem python_leaks : ¬ Leakless .python channelless ⟨none, none, nofun⟩ .initial := by
  rintro ⟨result, t, ran, kept⟩
  have raised : start .python channelless ⟨none, none, nofun⟩ .initial =
      .ok (.error ⟨"channel", false⟩, World.initial.opened) := rfl
  obtain ⟨rfl, rfl⟩ := Prod.mk.inj (Except.ok.inj (ran.symm.trans raised))
  exact (kept rfl).1 List.mem_cons_self

/-! ### The bootstrap -/

/-- The writes a schema and relationships call for. -/
def due (schema : String) (relationships : List R) : List (Write R) :=
  .schema schema :: relationshipWrites relationships

/-- A start that succeeds has written each relationship it was given, as a touch. -/
def Keeps (b : Binding) (steps : Steps D R) (args : Arguments R b) (s : World D R) : Prop :=
  ∀ db t, start b steps args s = .ok (.ok db, t) → ∀ r ∈ args.relationships.getD [],
    ∃ updates, (db.handle, Write.relationships updates) ∈ t.writes ∧ (.touch, r) ∈ updates

/-- The writes of a start that gets to its bootstrap are those of a list, up to the first that
fails. -/
def Issues (b : Binding) (steps : Steps D R) (args : Arguments R b) (s : World D R)
    (writes : List (Write R)) : Prop :=
  steps.native = .ok () → opening b steps = none → ∃ result t,
    start b steps args s = .ok (result, t) ∧
      t.writes = s.writes ++ (issue steps s.store writes).issued.map (s.next, ·)

/-- Writes that all succeed are all issued. -/
theorem issue_all (steps : Steps D R) (store : D) (writes : List (Write R))
    (well : (issue steps store writes).result = .ok ()) :
    (issue steps store writes).issued = writes := by
  induction writes generalizing store with
  | nil => rfl
  | cons w rest later =>
    rw [issue] at well ⊢
    rcases made : steps.write store w with ⟨after, err | done⟩
    · rw [made] at well
      cases well
    · rw [made] at well
      exact congrArg (w :: ·) (later after well)

/-- What a start that succeeds has passed: its opening steps, and each of the writes due. -/
theorem course_succeeded {b : Binding} {steps : Steps D R} {args : Arguments R b} {store : D}
    (well : (course steps args store).failure = none) :
    opening b steps = none ∧ bootstrap args = .ok (course steps args store).issued := by
  rcases passed : opening b steps with none | failure
  · rcases due : bootstrap args with refusal | writes
    · rw [course_refused passed due] at well
      cases well
    · rw [course_issue passed due, Issue.course] at well ⊢
      have all := issue_all steps store writes
      generalize issue steps store writes = made at well all ⊢
      rcases made with ⟨raised | done, after, issued⟩
      · cases well
      · exact ⟨rfl, congrArg _ (all rfl).symm⟩
  · rw [course_failed passed] at well
    cases well

/-- A start that succeeds has taken a course with no failure. -/
theorem start_succeeded {b : Binding} {steps : Steps D R} {args : Arguments R b}
    {s t : World D R} {db : Instance} (ran : start b steps args s = .ok (.ok db, t)) :
    (course steps args s.store).failure = none ∧ db = ⟨s.next⟩ ∧
      t = (course steps args s.store).reached s := by
  rcases started : steps.native with refusal | done
  · rw [start_refused args started s] at ran
    cases ran
  rw [start_apply args started s] at ran
  rcases failed : (course steps args s.store).failure with none | ⟨step, err⟩
  · simp only [Course.result, Course.world, failed] at ran
    cases ran
    exact ⟨rfl, rfl, rfl⟩
  · simp only [Course.result, failed] at ran
    cases ran

/-- The writes of a start that gets to its bootstrap, in the world it ends in. -/
theorem start_writes {b : Binding} {steps : Steps D R} (args : Arguments R b)
    (started : steps.native = .ok ()) (s : World D R) :
    ∃ result t, start b steps args s = .ok (result, t) ∧
      t.writes = s.writes ++ (course steps args s.store).issued.map (s.next, ·) := by
  refine ⟨_, _, start_apply args started s, ?_⟩
  rw [Course.world]
  rcases (course steps args s.store).failure with none | ⟨step, err⟩
  · rfl
  · show (((course steps args s.store).reached s).cleaned b step err s.next _).writes = _
    rw [World.cleaned]
    split <;> rfl

theorem issue_course (steps : Steps D R) (store : D) (writes : List (Write R)) :
    (issue steps store writes).course.issued = (issue steps store writes).issued := by
  rw [Issue.course]
  rcases issue steps store writes with ⟨err | done, after, issued⟩ <;> rfl

/-- A start with a schema issues the writes of its binding for it. -/
theorem start_issues {b : Binding} (steps : Steps D R) {args : Arguments R b} {schema : String}
    (given : args.schema = some schema) (s : World D R) :
    Issues b steps args s (bootstrapWrites b schema (args.relationships.getD [])) := by
  intro started passed
  obtain ⟨result, t, ran, wrote⟩ := start_writes args started s
  refine ⟨result, t, ran, ?_⟩
  rw [wrote, course_issue passed (bootstrap_some given), issue_course]

/-- A relationship that is due for a schema is in the write of the relationships. -/
theorem mem_bootstrapWrites {b : Binding} {schema : String} {relationships : List R} {r : R}
    (member : r ∈ relationships) :
    Write.relationships (touches relationships) ∈ bootstrapWrites b schema relationships := by
  rw [bootstrapWrites, relationshipWrites, if_neg (List.ne_nil_of_mem member)]
  exact List.mem_append_right _ List.mem_cons_self

/-- A start loses no relationship, unless it is Python's or Node's, without a schema. -/
theorem start_keeps {b : Binding} (steps : Steps D R) {args : Arguments R b}
    (looked : args.schema = none → b ≠ .python ∧ b ≠ .node) (s : World D R) :
    Keeps b steps args s := by
  intro db t ran r member
  obtain ⟨well, rfl, rfl⟩ := start_succeeded ran
  have passed := (course_succeeded well).2
  rcases given : args.schema with none | schema
  · have brought : args.relationships ≠ none := fun absent => by
      rw [absent] at member
      cases member
    cases b with
    | rust => exact absurd (args.typed rfl given) brought
    | python => exact absurd rfl (looked given).1
    | node => exact absurd rfl (looked given).2
    | java | csharp =>
      rw [bootstrap, given] at passed
      simp only [ne_eq, brought, not_false_eq_true, true_or, or_true, and_self, if_true] at passed
      cases passed
  · rw [bootstrap_some given] at passed
    refine ⟨touches (args.relationships.getD []), ?_, List.mem_map_of_mem member⟩
    rw [Course.reached, World.wrote_writes, ← Except.ok.inj passed]
    exact List.mem_append_right _ (List.mem_map_of_mem (mem_bootstrapWrites member))

/-- A start without a schema that succeeds has written nothing. -/
theorem start_idle {b : Binding} {steps : Steps D R} {args : Arguments R b}
    (absent : args.schema = none) {s t : World D R} {db : Instance}
    (ran : start b steps args s = .ok (.ok db, t)) : t.writes = s.writes := by
  obtain ⟨well, rfl, rfl⟩ := start_succeeded ran
  have passed := (course_succeeded well).2
  simp only [bootstrap, absent] at passed
  by_cases refuses : (b = .java ∨ b = .csharp) ∧ args.relationships ≠ none
  · rw [if_pos refuses] at passed
    cases passed
  · rw [if_neg refuses] at passed
    rw [Course.reached, World.wrote_writes, ← Except.ok.inj passed]
    exact List.append_nil _

/-- The bootstrap of a start is the same in every language: what the schema and the relationships
call for is written, and no relationship is dropped. -/
structure Alike (b : Binding) (steps : Steps D R) (args : Arguments R b) (s : World D R) :
    Prop where
  issues : ∀ schema, args.schema = some schema →
    Issues b steps args s (due schema (args.relationships.getD []))
  keeps : Keeps b steps args s

/-- The bootstrap of a start, language by language: Rust leaves out the write of an empty schema, and
a start without a schema writes nothing, which in Python and Node may drop relationships. -/
structure Bootstraps (b : Binding) (steps : Steps D R) (args : Arguments R b) (s : World D R) :
    Prop where
  issues : ∀ schema, args.schema = some schema →
    Issues b steps args s
      (if b = .rust ∧ schema = "" then relationshipWrites (args.relationships.getD [])
        else due schema (args.relationships.getD []))
  keeps : (args.schema = none → b ≠ .python ∧ b ≠ .node) → Keeps b steps args s
  idle : args.schema = none → ∀ db t, start b steps args s = .ok (.ok db, t) → t.writes = s.writes

/-- **The bootstrap of every binding**, for every schema, relationships and datastore. -/
theorem start_bootstraps (b : Binding) (steps : Steps D R) (args : Arguments R b)
    (s : World D R) : Bootstraps b steps args s where
  issues schema given := by
    have wrote := start_issues steps given s
    rw [bootstrapWrites] at wrote
    split
    · next skips =>
      rw [if_pos skips] at wrote
      exact wrote
    · next writes =>
      rw [if_neg writes] at wrote
      exact wrote
  keeps looked := start_keeps steps looked s
  idle absent _ _ ran := start_idle absent ran

/-- Every step comes out well. -/
def quick : Steps Unit Unit where
  native := .ok ()
  decode := .ok ()
  prepare := .ok ()
  channel := .ok ()
  write _ _ := ((), .ok ())

/-- Rust does not write an empty schema, and Python drops a relationship that comes without one. -/
theorem bootstraps_differ :
    ¬ Alike .rust quick ⟨some "", none, nofun⟩ .initial ∧
      ¬ Alike .python quick ⟨none, some [()], nofun⟩ .initial := by
  have started : quick.native = .ok () := rfl
  constructor
  · intro alike
    obtain ⟨result, t, ran, wrote⟩ := alike.issues "" rfl rfl rfl
    obtain ⟨other, u, same, nothing⟩ :=
      start_writes (b := .rust) ⟨some "", none, nofun⟩ started .initial
    obtain ⟨-, rfl⟩ := Prod.mk.inj (Except.ok.inj (ran.symm.trans same))
    cases wrote.symm.trans nothing
  · intro alike
    have ran := start_apply (b := .python) ⟨none, some [()], nofun⟩ started .initial
    obtain ⟨updates, member, -⟩ := alike.keeps _ _ ran () List.mem_cons_self
    cases member

end SpicedbEmbedded.Clients.Start
