/-
**Java's library loader under threads.**

`SpiceDB.load` and `SpiceDBLibraryPath.getLibraryPath`, for any number of threads and statement by
statement. `load` reads a field of `Holder`, whose class initializer one thread runs while the
others wait for it; `getLibraryPath` reads a volatile field, and again under a monitor before it
copies the library out of the JAR. A statement in its `try` may throw, and then the method returns
`null`.

* `Ready` — one thread is in the monitor, nothing is published while it copies, and every thread can
  rely on its place.
* **`library_shared`** — every path into the JAR's library that is handed out is the published one
  and its file is whole, every `load` hands out the same library, and no file is made but the first
  unless a statement has thrown since the last.
* **`load_unblocked`** — while a thread is in a call, some thread can take its next step.
-/

import Mathlib.Data.List.Infix
import Mathlib.Logic.Function.Basic
import SpicedbEmbedded.Machine.Run

namespace SpicedbEmbedded.Clients.JavaLibrary

open Machine

/-! ### The platform -/

/-- `String.contains`. -/
def contains (text part : String) : Bool := decide (part.toList <:+: text.toList)

/-- `libName`; `os` is in lower case. -/
def libName (os : String) : Option String :=
  if contains os "mac" then some "libspicedb.dylib"
  else if contains os "linux" then some "libspicedb.so"
  else if contains os "win" then some "spicedb.dll"
  else none

/-- `platformKey` -/
def platformKey (os arch : String) : Option String :=
  let x86_64 := arch = "amd64" ∨ arch = "x86_64"
  let aarch_64 := arch = "aarch64" ∨ arch = "arm64"
  if contains os "linux" ∧ x86_64 then some "linux-x86_64"
  else if contains os "linux" ∧ aarch_64 then some "linux-aarch_64"
  else if contains os "mac" ∧ aarch_64 then some "osx-aarch_64"
  else if contains os "mac" ∧ x86_64 then some "osx-x86_64"
  else if contains os "win" ∧ x86_64 then some "windows-x86_64"
  else none

/-- What the JVM runs on: `os.name` and `os.arch` in lower case, how a file in a directory is named,
and the entries of the JAR. -/
structure Host where
  os : String
  arch : String
  /-- `Paths.get(explicit).toAbsolutePath().normalize().resolve(libName)`; `none` where it throws.
  -/
  resolve : String → String → Option String
  getResource : String → Option (List UInt8)

/-- `resource`: the bundled library of the platform, if there is one. -/
def Host.resource (host : Host) : Option (List UInt8) :=
  (platformKey host.os host.arch).bind fun key =>
    host.getResource ("natives/" ++ key ++ "/" ++ (libName host.os).getD "null")

/-! ### Statements -/

/-- A path `getLibraryPath` can return: of the library in the directory of `spicedb.library.path`,
or of a temporary file. -/
inductive LibPath
  | explicit (path : String)
  | temp (file : Nat)
  deriving DecidableEq

/-- Where a thread is in `getLibraryPath`; `tmp` is its temporary file. -/
inductive Place
  /-- before the look at `spicedb.library.path` -/
  | explicit
  /-- `String cached = cachedJarLibPath` -/
  | cached
  /-- `synchronized` -/
  | enter
  /-- `if (cachedJarLibPath != null)` -/
  | check
  /-- the `return` after it -/
  | again
  /-- `getResourceAsStream` -/
  | getResource
  /-- `Files.createTempFile` -/
  | createTempFile
  /-- `deleteOnExit` -/
  | deleteOnExit (tmp : Nat)
  /-- `Files.copy` is about to delete what is there -/
  | replace (tmp : Nat)
  /-- and to create the file again -/
  | create (tmp : Nat)
  /-- the bytes that are left to copy -/
  | copy (tmp : Nat) (left : List UInt8)
  /-- `cachedJarLibPath = ...` -/
  | publish (tmp : Nat)
  /-- the `return` after it -/
  | result
  /-- the end of the `try`: the stream is closed -/
  | close (path : Option LibPath)
  /-- the end of the block -/
  | leave (path : Option LibPath)
  deriving DecidableEq

/-- Who called `getLibraryPath`. -/
inductive Caller
  | direct
  | holder
  deriving DecidableEq

/-- Where a thread is. -/
inductive Pc
  | idle
  /-- at `Holder.INSTANCE` -/
  | load
  | path (caller : Caller) (place : Place)
  /-- `Native.load` -/
  | native (path : Option LibPath)
  deriving DecidableEq

/-- The class `Holder`. -/
inductive Holder (T : Type)
  | unloaded
  | initializing (t : T)
  | loaded (lib : Nat)
  | erroneous

/-- The two classes, the temporary files with the number of those made so far, the threads, the
paths `getLibraryPath` has returned, what `Native.load` has loaded, and the libraries `load` has
returned. -/
structure State (T : Type) where
  cachedJarLibPath : Option Nat
  monitor : Option T
  files : Nat → Option (List UInt8)
  next : Nat
  holder : Holder T
  pc : T → Pc
  returned : List (Option LibPath)
  natives : List (Option LibPath)
  instances : List Nat

variable {T : Type}

/-- Nothing loaded, all threads idle. -/
def State.init : State T :=
  ⟨none, none, fun _ => none, 0, .unloaded, fun _ => .idle, [], [], []⟩

/-- What a thread does next. -/
inductive Action (T : Type)
  /-- calls `getLibraryPath` -/
  | call (t : T)
  /-- calls `load` -/
  | load (t : T)
  /-- looks for the library in the directory `spicedb.library.path` has just then -/
  | find (t : T) (explicit : Option String) (isRegularFile : String → Bool)
  /-- takes its next statement -/
  | run (t : T)
  /-- copies some bytes -/
  | transfer (t : T) (bytes : Nat)
  /-- takes its next statement, which throws an `Exception` -/
  | throws (t : T)

variable [DecidableEq T]

namespace State

variable (s : State T)

/-- Moves a thread. -/
def goto (t : T) (pc : Pc) : State T := { s with pc := Function.update s.pc t pc }

/-- Leaves a file as given. -/
def setFile (tmp : Nat) (bytes : Option (List UInt8)) : State T :=
  { s with files := Function.update s.files tmp bytes }

/-- `getLibraryPath` returns. -/
def finish (t : T) (caller : Caller) (path : Option LibPath) : State T :=
  { s with returned := path :: s.returned }.goto t
    (match caller with
      | .direct => .idle
      | .holder => .native path)

/-- An exception leaves `getLibraryPath`: a class initializer that throws makes its class erroneous.
-/
def raise (t : T) : Caller → State T
  | .direct => s.goto t .idle
  | .holder => { s with holder := .erroneous }.goto t .idle

end State

variable (host : Host)

/-- The first half of `getLibraryPath`. -/
def find (s : State T) (t : T) (caller : Caller) (explicit : Option String)
    (isRegularFile : String → Bool) : State T :=
  let bundled : State T :=
    if (platformKey host.os host.arch).isSome then s.goto t (.path caller .cached)
    else s.finish t caller none
  match explicit, libName host.os with
  | some dir, some name =>
    match host.resolve dir name with
    | none => s.raise t caller
    | some lib => if isRegularFile lib then s.finish t caller (some (.explicit lib)) else bundled
  | _, _ => bundled

/-- A statement of `getLibraryPath`. -/
def advance (s : State T) (t : T) (caller : Caller) : Place → Option (State T)
  | .explicit => none
  | .cached =>
    match s.cachedJarLibPath with
    | some tmp => some (s.finish t caller (some (.temp tmp)))
    | none => some (s.goto t (.path caller .enter))
  | .enter =>
    match s.monitor with
    | none => some ({ s with monitor := some t }.goto t (.path caller .check))
    | some _ => none
  | .check =>
    match s.cachedJarLibPath with
    | some _ => some (s.goto t (.path caller .again))
    | none => some (s.goto t (.path caller .getResource))
  | .again => some (s.goto t (.path caller (.leave (s.cachedJarLibPath.map .temp))))
  | .getResource =>
    match host.resource with
    | none => some (s.goto t (.path caller (.leave none)))
    | some _ => some (s.goto t (.path caller .createTempFile))
  | .createTempFile =>
    some (({ s with next := s.next + 1 }.setFile s.next (some [])).goto t
      (.path caller (.deleteOnExit s.next)))
  | .deleteOnExit tmp => some (s.goto t (.path caller (.replace tmp)))
  | .replace tmp => some ((s.setFile tmp none).goto t (.path caller (.create tmp)))
  | .create tmp =>
    some ((s.setFile tmp (some [])).goto t (.path caller (.copy tmp (host.resource.getD []))))
  | .copy tmp [] => some (s.goto t (.path caller (.publish tmp)))
  | .copy _ (_ :: _) => none
  | .publish tmp => some ({ s with cachedJarLibPath := some tmp }.goto t (.path caller .result))
  | .result => some (s.goto t (.path caller (.close (s.cachedJarLibPath.map .temp))))
  | .close path => some (s.goto t (.path caller (.leave path)))
  | .leave path => some ({ s with monitor := none }.finish t caller path)

/-- Where a thread goes on in `getLibraryPath` after a statement that throws. -/
def Place.caught : Place → Option Place
  | .getResource | .close _ => some (.leave none)
  | .createTempFile | .deleteOnExit _ | .replace _ | .create _ | .copy _ _ | .publish _ =>
    some (.close none)
  | .explicit | .cached | .enter | .check | .again | .result | .leave _ => none

/-- One statement of a thread. -/
def step (s : State T) : Action T → Option (State T)
  | .call t => if s.pc t = .idle then some (s.goto t (.path .direct .explicit)) else none
  | .load t => if s.pc t = .idle then some (s.goto t .load) else none
  | .find t explicit isRegularFile =>
    match s.pc t with
    | .path caller .explicit => some (find host s t caller explicit isRegularFile)
    | _ => none
  | .run t =>
    match s.pc t with
    | .idle => none
    | .load =>
      match s.holder with
      | .unloaded =>
        some ({ s with holder := .initializing t }.goto t (.path .holder .explicit))
      | .initializing _ => none
      | .loaded lib => some ({ s with instances := lib :: s.instances }.goto t .idle)
      | .erroneous => some (s.goto t .idle)
    | .path caller place => advance host s t caller place
    | .native path =>
      some ({ s with
        holder := .loaded s.natives.length
        natives := path :: s.natives
        instances := s.natives.length :: s.instances }.goto t .idle)
  | .transfer t bytes =>
    match s.pc t with
    | .path caller (.copy tmp left) =>
      if left ≠ [] ∧ 0 < bytes then
        some ((s.setFile tmp ((s.files tmp).map (· ++ left.take bytes))).goto t
          (.path caller (.copy tmp (left.drop bytes))))
      else none
    | _ => none
  | .throws t =>
    match s.pc t with
    | .path caller place => place.caught.map fun after => s.goto t (.path caller after)
    | .native _ => some ({ s with holder := .erroneous }.goto t .idle)
    | _ => none

/-! ### What every run keeps -/

/-- The thread is in the monitor. -/
def Pc.inside : Pc → Bool
  | .idle | .load | .native _ | .path _ .explicit | .path _ .cached | .path _ .enter => false
  | .path _ _ => true

/-- The thread runs the class initializer of `Holder`. -/
def Pc.initializing : Pc → Bool
  | .path .holder _ | .native _ => true
  | .idle | .load | .path .direct _ => false

/-- The temporary file the thread is working on. -/
def Pc.tmp : Pc → Option Nat
  | .path _ (.deleteOnExit tmp) | .path _ (.replace tmp) | .path _ (.create tmp)
  | .path _ (.copy tmp _) | .path _ (.publish tmp) => some tmp
  | _ => none

/-- The file holds the whole library. -/
def Whole (s : State T) (tmp : Nat) : Prop :=
  ∃ bytes, host.resource = some bytes ∧ s.files tmp = some bytes

/-- If the path is that of a temporary file, it is the published one. -/
def Handed (s : State T) (path : Option LibPath) : Prop :=
  ∀ tmp, path = some (.temp tmp) → s.cachedJarLibPath = some tmp

/-- What a thread may rely on where it is. -/
def Relies (s : State T) : Pc → Prop
  | .native path | .path _ (.close path) | .path _ (.leave path) => Handed s path
  | .path _ .getResource => s.cachedJarLibPath = none
  | .path _ .createTempFile | .path _ (.deleteOnExit _) | .path _ (.replace _)
  | .path _ (.create _) => s.cachedJarLibPath = none ∧ host.resource ≠ none
  | .path _ (.copy tmp left) =>
    s.cachedJarLibPath = none ∧
      ∃ done, s.files tmp = some done ∧ host.resource = some (done ++ left)
  | .path _ (.publish tmp) => s.cachedJarLibPath = none ∧ Whole host s tmp
  | .idle | .load | .path _ .explicit | .path _ .cached | .path _ .enter | .path _ .check
  | .path _ .again | .path _ .result => True

/-- One thread is in the monitor and one in the class initializer, what is published is whole, and
every thread can rely on its place. -/
structure Ready (s : State T) : Prop where
  monitor : ∀ t, s.monitor = some t ↔ (s.pc t).inside = true
  holder : ∀ t, s.holder = .initializing t ↔ (s.pc t).initializing = true
  relies : ∀ t, Relies host s (s.pc t)
  published : ∀ tmp, s.cachedJarLibPath = some tmp → Whole host s tmp
  returned : ∀ path ∈ s.returned, Handed s path
  natives : (∃ lib, s.holder = .loaded lib ∧ s.natives.length = 1) ∨ s.natives = []
  instances : ∀ lib ∈ s.instances, s.holder = .loaded lib

section Ready

variable {host : Host} {s after : State T} {t : T} {pc new : Pc}

omit [DecidableEq T] in
theorem init_ready : Ready host (State.init : State T) where
  monitor t := by simp [State.init, Pc.inside]
  holder t := by simp [State.init, Pc.initializing]
  relies t := trivial
  published tmp published := by cases published
  returned path inside := by cases inside
  natives := Or.inr rfl
  instances lib inside := by cases inside

/-- What is published stays published. -/
def Extends (s after : State T) : Prop :=
  ∀ tmp, s.cachedJarLibPath = some tmp → after.cachedJarLibPath = some tmp

omit [DecidableEq T] in
theorem Handed.mono {path : Option LibPath} (handed : Handed s path) (kept : Extends s after) :
    Handed after path := fun tmp same => kept tmp (handed tmp same)

omit [DecidableEq T] in
theorem handed_none : Handed s none := fun tmp same => by cases same

omit [DecidableEq T] in
theorem handed_explicit (path : String) : Handed s (some (.explicit path)) := fun tmp same => by
  cases same

omit [DecidableEq T] in
theorem handed_cached : Handed s (s.cachedJarLibPath.map .temp) := fun tmp same => by
  obtain ⟨other, published, named⟩ := Option.map_eq_some_iff.mp same
  cases named
  exact published

omit [DecidableEq T] in
/-- A thread outside the monitor relies on what is published alone. -/
theorem relies_outside (relies : Relies host s pc) (outside : pc.inside = false)
    (kept : Extends s after) : Relies host after pc := by
  cases pc with
  | idle | load => trivial
  | native path => exact Handed.mono relies kept
  | path caller place =>
    cases place with
    | explicit | cached | enter => trivial
    | _ => cases outside

omit [DecidableEq T] in
/-- A thread relies on the field and the files alone. -/
theorem relies_congr (relies : Relies host s pc)
    (cached : after.cachedJarLibPath = s.cachedJarLibPath) (files : after.files = s.files) :
    Relies host after pc := by
  cases pc with
  | idle | load => trivial
  | native path => exact Handed.mono relies fun tmp => cached.trans
  | path caller place =>
    cases place with
    | explicit | cached | enter | check | again | result => trivial
    | close path | leave path => exact Handed.mono relies fun tmp => cached.trans
    | getResource => exact cached.trans relies
    | createTempFile | deleteOnExit tmp | replace tmp | create tmp =>
      exact ⟨cached.trans relies.1, relies.2⟩
    | copy tmp left =>
      obtain ⟨unpublished, done, held, whole⟩ := relies
      exact ⟨cached.trans unpublished, done, files ▸ held, whole⟩
    | publish tmp =>
      obtain ⟨unpublished, bytes, whole, held⟩ := relies
      exact ⟨cached.trans unpublished, bytes, whole, files ▸ held⟩

/-! ### Moves -/

/-- What a thread's move has to keep. -/
structure Kept (host : Host) (s after : State T) (t : T) (new : Pc) : Prop where
  pc : after.pc = Function.update s.pc t new
  monitor : ∀ u, u ≠ t → (after.monitor = some u ↔ s.monitor = some u)
  inside : after.monitor = some t ↔ new.inside = true
  holder : ∀ u, u ≠ t → (after.holder = .initializing u ↔ s.holder = .initializing u)
  initializing : after.holder = .initializing t ↔ new.initializing = true
  others : ∀ u, u ≠ t → Relies host after (s.pc u)
  here : Relies host after new
  published : ∀ tmp, after.cachedJarLibPath = some tmp → Whole host after tmp
  returned : ∀ path ∈ after.returned, Handed after path
  natives : (∃ lib, after.holder = .loaded lib ∧ after.natives.length = 1) ∨ after.natives = []
  instances : ∀ lib ∈ after.instances, after.holder = .loaded lib

theorem Ready.moved (ready : Ready host s) (kept : Kept host s after t new) : Ready host after := by
  have own : after.pc t = new := by rw [kept.pc, Function.update_self]
  have other : ∀ {u}, u ≠ t → after.pc u = s.pc u := fun differ => by
    rw [kept.pc, Function.update_of_ne differ]
  refine ⟨fun u => ?_, fun u => ?_, fun u => ?_, kept.published, kept.returned, kept.natives,
    kept.instances⟩
  all_goals by_cases same : u = t
  · subst same
    rw [own]
    exact kept.inside
  · rw [other same, kept.monitor u same]
    exact ready.monitor u
  · subst same
    rw [own]
    exact kept.initializing
  · rw [other same, kept.holder u same]
    exact ready.holder u
  · subst same
    rw [own]
    exact kept.here
  · rw [other same]
    exact kept.others u same

omit [DecidableEq T] in
/-- The other threads are outside while one is in the monitor. -/
theorem Ready.outside (ready : Ready host s) (mine : (s.pc t).inside = true) {u : T}
    (differ : u ≠ t) : (s.pc u).inside = false := by
  refine Bool.eq_false_iff.mpr fun theirs => differ ?_
  exact Option.some.inj (((ready.monitor u).mpr theirs).symm.trans ((ready.monitor t).mpr mine))

/-- **A move that changes the files alone**, of a thread that stays in the monitor, or that changes
nothing. -/
theorem Ready.goto (ready : Ready host s) (files : Nat → Option (List UInt8)) (next : Nat)
    (inside : new.inside = (s.pc t).inside)
    (initializing : new.initializing = (s.pc t).initializing)
    (working : files = s.files ∨ (s.cachedJarLibPath = none ∧ (s.pc t).inside = true))
    (here : Relies host { s with files, next } new) :
    Ready host ({ s with files, next }.goto t new) := by
  refine ready.moved (t := t) ⟨rfl, fun u _ => Iff.rfl, ?_, fun u _ => Iff.rfl, ?_,
    fun u differ => ?_, ?_, ?_, ready.returned, ready.natives, ready.instances⟩
  · rw [inside]
    exact ready.monitor t
  · rw [initializing]
    exact ready.holder t
  · rcases working with rfl | ⟨-, mine⟩
    · exact relies_congr (ready.relies u) rfl rfl
    · exact relies_outside (ready.relies u) (ready.outside mine differ)
        fun tmp published => published
  · exact relies_congr here rfl rfl
  · intro tmp published
    rcases working with rfl | ⟨unpublished, -⟩
    · exact ready.published tmp published
    · rw [show s.cachedJarLibPath = some tmp from published] at unpublished
      cases unpublished

/-- A move that changes nothing else. -/
theorem Ready.aside (ready : Ready host s) (here : s.pc t = pc) (inside : new.inside = pc.inside)
    (initializing : new.initializing = pc.initializing) (relies : Relies host s new) :
    Ready host (s.goto t new) :=
  ready.goto s.files s.next (inside.trans (congrArg _ here.symm))
    (initializing.trans (congrArg _ here.symm)) (.inl rfl) relies

/-- A thread that takes the monitor, or leaves it with what `getLibraryPath` returns. -/
theorem Ready.finish (ready : Ready host s) {caller : Caller} {place : Place}
    (here : s.pc t = .path caller place) {path : Option LibPath} (handed : Handed s path)
    {monitor : Option T} (left : ∀ u, monitor = some u ↔ u ≠ t ∧ s.monitor = some u) :
    Ready host ({ s with monitor }.finish t caller path) := by
  have grown : ∀ other ∈ path :: s.returned, Handed s other := by
    intro other inside
    rcases List.mem_cons.mp inside with rfl | before
    · exact handed
    · exact ready.returned other before
  have initializing := ready.holder t
  rw [here] at initializing
  refine ready.moved (t := t) ⟨rfl, fun u differ => ?_, ?_, fun u _ => Iff.rfl, ?_,
    fun u _ => ?_, ?_, ready.published, grown, ready.natives, ready.instances⟩
  · exact (left u).trans (and_iff_right differ)
  · have gone : ¬ monitor = some t := fun mine => ((left t).mp mine).1 rfl
    cases caller <;> exact iff_of_false gone Bool.false_ne_true
  · cases caller <;> exact initializing
  · exact relies_congr (ready.relies u) rfl rfl
  · cases caller with
    | direct => trivial
    | holder => exact handed

omit [DecidableEq T] in
/-- A thread outside the monitor holds it no more when it is left alone. -/
theorem Ready.left_outside (ready : Ready host s) (outside : (s.pc t).inside = false) (u : T) :
    s.monitor = some u ↔ u ≠ t ∧ s.monitor = some u := by
  refine (and_iff_right_of_imp ?_).symm
  rintro held rfl
  have mine := (ready.monitor u).mp held
  rw [outside] at mine
  cases mine

/-- A move that changes the class `Holder` alone. -/
theorem Ready.reclass (ready : Ready host s) (here : s.pc t = pc) (new : Pc)
    (inside : new.inside = pc.inside) {holder : Holder T} {natives : List (Option LibPath)}
    {instances : List Nat}
    (others : ∀ u, u ≠ t → (holder = .initializing u ↔ s.holder = .initializing u))
    (initializing : holder = .initializing t ↔ new.initializing = true)
    (loaded : (∃ lib, holder = .loaded lib ∧ natives.length = 1) ∨ natives = [])
    (given : ∀ lib ∈ instances, holder = .loaded lib) (relies : Relies host s new) :
    Ready host ({ s with holder, natives, instances }.goto t new) := by
  refine ready.moved (t := t) ⟨rfl, fun u _ => Iff.rfl, ?_, others, initializing,
    fun u _ => relies_congr (ready.relies u) rfl rfl, relies_congr relies rfl rfl, ready.published,
    ready.returned, loaded, given⟩
  rw [inside, ← here]
  exact ready.monitor t

omit [DecidableEq T] in
/-- While a thread runs the class initializer, nothing is loaded or handed out. -/
theorem Ready.empty (ready : Ready host s) (unloaded : ∀ lib, s.holder ≠ .loaded lib) :
    s.natives = [] ∧ s.instances = [] := by
  constructor
  · rcases ready.natives with ⟨lib, loaded, -⟩ | empty
    · exact absurd loaded (unloaded lib)
    · exact empty
  · refine List.eq_nil_iff_forall_not_mem.mpr fun lib inside => ?_
    exact unloaded lib (ready.instances lib inside)

/-- The class initializer throws. -/
theorem Ready.fails (ready : Ready host s) (here : s.pc t = pc) (outside : pc.inside = false)
    (initializing : pc.initializing = true) :
    Ready host ({ s with holder := .erroneous }.goto t .idle) := by
  have mine : s.holder = .initializing t := (ready.holder t).mpr (here ▸ initializing)
  obtain ⟨natives, instances⟩ := ready.empty fun lib loaded => by
    rw [mine] at loaded
    cases loaded
  refine ready.reclass here .idle outside.symm (fun u differ => ?_) ?_ (.inr natives)
    (fun lib inside => ?_) trivial
  · refine iff_of_false nofun fun theirs => differ ?_
    cases mine.symm.trans theirs
    rfl
  · exact iff_of_false nofun Bool.false_ne_true
  · rw [instances] at inside
    cases inside

/-- An exception leaves `getLibraryPath` before the monitor. -/
theorem Ready.raise (ready : Ready host s) {caller : Caller}
    (here : s.pc t = .path caller .explicit) : Ready host (s.raise t caller) := by
  cases caller with
  | direct => exact ready.aside here rfl rfl trivial
  | holder => exact ready.fails here rfl rfl

/-! ### Statements, one by one -/

theorem ready_find (ready : Ready host s) {caller : Caller} (here : s.pc t = .path caller .explicit)
    (explicit : Option String) (isRegularFile : String → Bool) :
    Ready host (find host s t caller explicit isRegularFile) := by
  have outside : (s.pc t).inside = false := by rw [here]; rfl
  have bundled : Ready host (if (platformKey host.os host.arch).isSome then
      s.goto t (.path caller .cached) else s.finish t caller none) := by
    split
    · exact ready.aside here rfl (by cases caller <;> rfl) trivial
    · exact ready.finish here handed_none (ready.left_outside outside)
  simp only [find]
  split
  · split
    · exact ready.raise here
    · split
      · exact ready.finish here (handed_explicit _) (ready.left_outside outside)
      · exact bundled
  · exact bundled

theorem ready_load (ready : Ready host s) (here : s.pc t = .load)
    (next : step host s (.run t) = some after) : Ready host after := by
  simp only [step, here] at next
  have mine : ¬ s.holder = .initializing t := fun own => by
    have held := (ready.holder t).mp own
    rw [here] at held
    cases held
  cases class_ : s.holder with
  | unloaded =>
    simp only [class_, Option.some.injEq] at next
    subst next
    obtain ⟨natives, instances⟩ := ready.empty fun lib loaded => by
      rw [class_] at loaded
      cases loaded
    refine ready.reclass here (.path .holder .explicit) rfl (fun u differ => ?_)
      (iff_of_true rfl rfl) (.inr natives) (fun lib inside => ?_) trivial
    · refine iff_of_false (fun same => ?_) fun same => ?_
      · cases same
        exact differ rfl
      · cases class_.symm.trans same
    · rw [instances] at inside
      cases inside
  | initializing u =>
    simp only [class_] at next
    cases next
  | loaded lib =>
    simp only [class_, Option.some.injEq] at next
    subst next
    have given : ∀ other ∈ lib :: s.instances, s.holder = .loaded other := by
      intro other inside
      rcases List.mem_cons.mp inside with rfl | before
      · exact class_
      · exact ready.instances other before
    rw [← class_]
    exact ready.reclass here .idle rfl (fun u _ => Iff.rfl) (iff_of_false mine Bool.false_ne_true)
      ready.natives given trivial
  | erroneous =>
    simp only [class_, Option.some.injEq] at next
    subst next
    exact ready.aside here rfl rfl trivial

theorem ready_native (ready : Ready host s) {path : Option LibPath} (here : s.pc t = .native path) :
    Ready host ({ s with
      holder := .loaded s.natives.length
      natives := path :: s.natives
      instances := s.natives.length :: s.instances }.goto t .idle) := by
  have mine : s.holder = .initializing t := (ready.holder t).mpr (by rw [here]; rfl)
  obtain ⟨natives, instances⟩ := ready.empty fun lib loaded => by
    rw [mine] at loaded
    cases loaded
  refine ready.reclass here .idle rfl (fun u differ => ?_) (iff_of_false nofun Bool.false_ne_true)
    (.inl ⟨_, rfl, ?_⟩) (fun lib inside => ?_) trivial
  · refine iff_of_false nofun fun theirs => differ ?_
    cases mine.symm.trans theirs
    rfl
  · rw [natives]
    rfl
  · rw [instances] at inside
    cases List.mem_singleton.mp inside
    rfl

theorem ready_enter (ready : Ready host s) {caller : Caller} (here : s.pc t = .path caller .enter)
    (free : s.monitor = none) :
    Ready host ({ s with monitor := some t }.goto t (.path caller .check)) := by
  refine ready.moved (t := t) ⟨rfl, fun u differ => ?_, iff_of_true rfl rfl, fun u _ => Iff.rfl, ?_,
    fun u _ => relies_congr (ready.relies u) rfl rfl, trivial, ready.published, ready.returned,
    ready.natives, ready.instances⟩
  · refine iff_of_false (fun same => differ (Option.some.inj same).symm) fun theirs => ?_
    rw [free] at theirs
    cases theirs
  · have initializing := ready.holder t
    rw [here] at initializing
    cases caller <;> exact initializing

theorem ready_publish (ready : Ready host s) {caller : Caller} {tmp : Nat}
    (here : s.pc t = .path caller (.publish tmp)) :
    Ready host ({ s with cachedJarLibPath := some tmp }.goto t (.path caller .result)) := by
  have relies := ready.relies t
  rw [here] at relies
  obtain ⟨unpublished, whole⟩ := relies
  have kept : Extends s ({ s with cachedJarLibPath := some tmp }.goto t (.path caller .result)) :=
    fun other published => by
      rw [unpublished] at published
      cases published
  have mine : (s.pc t).inside = true := by rw [here]; rfl
  refine ready.moved (t := t) ⟨rfl, fun u _ => Iff.rfl, ?_, fun u _ => Iff.rfl, ?_,
    fun u differ => relies_outside (ready.relies u) (ready.outside mine differ) kept, trivial,
    fun other published => ?_, fun path inside => (ready.returned path inside).mono kept,
    ready.natives, ready.instances⟩
  · have monitor := ready.monitor t
    rw [here] at monitor
    exact monitor
  · have initializing := ready.holder t
    rw [here] at initializing
    cases caller <;> exact initializing
  · cases published
    exact whole

/-- **A statement of `getLibraryPath`.** -/
theorem ready_advance (ready : Ready host s) {caller : Caller} {place : Place}
    (here : s.pc t = .path caller place) (next : advance host s t caller place = some after) :
    Ready host after := by
  have relies := ready.relies t
  rw [here] at relies
  have same : ∀ next : Place,
      (Pc.path caller next).initializing = (Pc.path caller place).initializing :=
    fun next => by cases caller <;> rfl
  cases place with
  | explicit => cases next
  | cached =>
    simp only [advance] at next
    split at next <;> cases next
    · next tmp published =>
      refine ready.finish here (fun other named => ?_) (ready.left_outside (by rw [here]; rfl))
      cases named
      exact published
    · exact ready.aside here rfl (same _) trivial
  | enter =>
    simp only [advance] at next
    split at next <;> cases next
    exact ready_enter ready here ‹_›
  | check =>
    simp only [advance] at next
    split at next <;> cases next
    · exact ready.aside here rfl (same _) trivial
    · next unpublished => exact ready.aside here rfl (same _) unpublished
  | again =>
    cases next
    exact ready.aside here rfl (same _) handed_cached
  | getResource =>
    simp only [advance] at next
    split at next <;> cases next
    · exact ready.aside here rfl (same _) handed_none
    · next bytes bundled =>
      refine ready.aside here rfl (same _) ⟨relies, ?_⟩
      rw [bundled]
      exact Option.some_ne_none bytes
  | createTempFile =>
    cases next
    exact ready.goto _ _ (by rw [here]; rfl) (by rw [here]; exact same _)
      (.inr ⟨relies.1, by rw [here]; rfl⟩) relies
  | deleteOnExit tmp =>
    cases next
    exact ready.aside here rfl (same _) relies
  | replace tmp =>
    cases next
    exact ready.goto _ s.next (by rw [here]; rfl) (by rw [here]; exact same _)
      (.inr ⟨relies.1, by rw [here]; rfl⟩) relies
  | create tmp =>
    cases next
    obtain ⟨bytes, bundled⟩ := Option.ne_none_iff_exists'.mp relies.2
    refine ready.goto _ s.next (by rw [here]; rfl) (by rw [here]; exact same _)
      (.inr ⟨relies.1, by rw [here]; rfl⟩) ⟨relies.1, [], Function.update_self .., ?_⟩
    rw [bundled]
    rfl
  | copy tmp left =>
    cases left with
    | cons => cases next
    | nil =>
      cases next
      obtain ⟨unpublished, done, held, whole⟩ := relies
      rw [List.append_nil] at whole
      exact ready.aside here rfl (same _) ⟨unpublished, done, whole, held⟩
  | publish tmp =>
    cases next
    exact ready_publish ready here
  | result =>
    cases next
    exact ready.aside here rfl (same _) handed_cached
  | close path =>
    cases next
    exact ready.aside here rfl (same _) relies
  | leave path =>
    cases next
    refine ready.finish here relies fun u => iff_of_false nofun ?_
    rintro ⟨differ, theirs⟩
    have mine := (ready.monitor t).mpr (by rw [here]; rfl)
    exact differ (Option.some.inj (theirs.symm.trans mine))

/-- A statement that throws. -/
theorem ready_throws (ready : Ready host s) {caller : Caller} {place caught : Place}
    (here : s.pc t = .path caller place) (goesOn : place.caught = some caught) :
    Ready host (s.goto t (.path caller caught)) := by
  have same : ∀ next : Place,
      (Pc.path caller next).initializing = (Pc.path caller place).initializing :=
    fun next => by cases caller <;> rfl
  cases place <;> cases goesOn <;> exact ready.aside here rfl (same _) handed_none

/-- **Every step keeps the threads ready.** -/
theorem ready_step {action : Action T} (ready : Ready host s)
    (next : step host s action = some after) : Ready host after := by
  cases action with
  | call t | load t =>
    simp only [step] at next
    split at next <;> cases next
    next here => exact ready.aside here rfl rfl trivial
  | find t explicit isRegularFile =>
    simp only [step] at next
    split at next <;> cases next
    next caller here => exact ready_find ready here explicit isRegularFile
  | run t =>
    cases here : s.pc t with
    | idle => simp only [step, here] at next; cases next
    | load => exact ready_load ready here next
    | path caller place =>
      simp only [step, here] at next
      exact ready_advance ready here next
    | native path =>
      simp only [step, here] at next
      cases next
      exact ready_native ready here
  | transfer t bytes =>
    simp only [step] at next
    split at next
    · next caller tmp left here =>
      split at next <;> cases next
      have relies := ready.relies t
      rw [here] at relies
      obtain ⟨unpublished, done, held, whole⟩ := relies
      refine ready.goto _ s.next (by rw [here]; rfl) (by rw [here]; cases caller <;> rfl)
        (.inr ⟨unpublished, by rw [here]; rfl⟩) ⟨unpublished, done ++ left.take bytes, ?_, ?_⟩
      · show Function.update s.files tmp _ tmp = _
        rw [Function.update_self, held]
        rfl
      · rw [List.append_assoc, List.take_append_drop]
        exact whole
    · cases next
  | throws t =>
    cases here : s.pc t with
    | idle => simp only [step, here] at next; cases next
    | load => simp only [step, here] at next; cases next
    | path caller place =>
      simp only [step, here] at next
      obtain ⟨caught, goesOn, rfl⟩ := Option.map_eq_some_iff.mp next
      exact ready_throws ready here goesOn
    | native path =>
      simp only [step, here] at next
      cases next
      exact ready.fails here rfl rfl

/-! ### The files that are made -/

/-- The statements of a run that throw. -/
def thrown (actions : List (Action T)) : Nat :=
  actions.countP fun
    | .throws _ => true
    | _ => false

/-- With no file published or under way there are no more files than statements that threw, and one
more at most otherwise. -/
structure Made (n : Nat) (s : State T) : Prop where
  few : s.next ≤ n + 1
  fewer : s.cachedJarLibPath = none → (∀ t, (s.pc t).tmp = none) → s.next ≤ n

/-- A thread outside the monitor works on no file. -/
theorem tmp_outside (outside : pc.inside = false) : pc.tmp = none := by
  cases pc with
  | idle | load | native path => rfl
  | path caller place =>
    cases place with
    | explicit | cached | enter => rfl
    | _ => cases outside

theorem goto_self : (s.goto t new).pc t = new := Function.update_self ..

/-- A move that makes no file, and gives none up unpublished. -/
theorem Made.move {n : Nat} (made : Made n s) (next : after.next = s.next)
    (moved : after.pc = Function.update s.pc t new)
    (kept : after.cachedJarLibPath = none → new.tmp = none →
      s.cachedJarLibPath = none ∧ (s.pc t).tmp = none) : Made n after := by
  refine ⟨next ▸ made.few, fun unpublished idle => next ▸ ?_⟩
  have mine := idle t
  rw [moved, Function.update_self] at mine
  obtain ⟨before, own⟩ := kept unpublished mine
  refine made.fewer before fun u => ?_
  by_cases same : u = t
  · exact same ▸ own
  · have theirs := idle u
    rwa [moved, Function.update_of_ne same] at theirs

theorem Made.finish {n : Nat} (made : Made n s) (caller : Caller) (path : Option LibPath)
    (monitor : Option T) (own : (s.pc t).tmp = none) :
    Made n ({ s with monitor }.finish t caller path) :=
  made.move (t := t) rfl rfl fun unpublished _ => ⟨unpublished, own⟩

theorem made_find {n : Nat} (made : Made n s) {caller : Caller} (explicit : Option String)
    (isRegularFile : String → Bool) (own : (s.pc t).tmp = none) :
    Made n (find host s t caller explicit isRegularFile) := by
  have bundled : Made n (if (platformKey host.os host.arch).isSome then
      s.goto t (.path caller .cached) else s.finish t caller none) := by
    split
    · exact made.move (t := t) rfl rfl fun unpublished _ => ⟨unpublished, own⟩
    · exact made.finish caller none s.monitor own
  simp only [find]
  split
  · split
    · cases caller <;> exact made.move (t := t) rfl rfl fun unpublished _ => ⟨unpublished, own⟩
    · split
      · exact made.finish caller _ s.monitor own
      · exact bundled
  · exact bundled

theorem made_advance {n : Nat} (ready : Ready host s) (made : Made n s) {caller : Caller}
    {place : Place} (here : s.pc t = .path caller place)
    (next : advance host s t caller place = some after) : Made n after := by
  have relies := ready.relies t
  rw [here] at relies
  have goes : ∀ {shared : State T} {new : Pc}, shared.next = s.next → shared.pc = s.pc →
      shared.cachedJarLibPath = s.cachedJarLibPath →
      (new.tmp = none → (Pc.path caller place).tmp = none) → Made n (shared.goto t new) :=
    fun {shared new} same threads cached kept =>
      made.move (t := t) same (by rw [State.goto, threads]) fun unpublished own =>
        ⟨cached.symm.trans unpublished, by rw [here]; exact kept own⟩
  cases place with
  | explicit => cases next
  | cached =>
    simp only [advance] at next
    split at next <;> cases next
    · exact made.finish caller _ s.monitor (by rw [here]; rfl)
    · exact goes rfl rfl rfl fun _ => rfl
  | enter | check | getResource =>
    simp only [advance] at next
    split at next <;> cases next <;> exact goes rfl rfl rfl fun _ => rfl
  | createTempFile =>
    cases next
    -- no other thread is in the monitor, so no other works on a file
    have before : s.next ≤ n := by
      refine made.fewer relies.1 fun u => ?_
      by_cases same : u = t
      · rw [same, here]
        rfl
      · exact tmp_outside (ready.outside (by rw [here]; rfl) same)
    refine ⟨Nat.succ_le_succ before, fun _ idle => ?_⟩
    have mine := idle t
    rw [goto_self] at mine
    cases mine
  | again | result | close path =>
    cases next
    exact goes rfl rfl rfl fun _ => rfl
  | deleteOnExit tmp | replace tmp | create tmp =>
    cases next
    exact goes rfl rfl rfl fun own => own
  | copy tmp left =>
    cases left with
    | cons => cases next
    | nil =>
      cases next
      exact goes rfl rfl rfl fun own => own
  | publish tmp =>
    cases next
    exact made.move (t := t) rfl rfl fun unpublished _ => by cases unpublished
  | leave path =>
    cases next
    exact made.finish caller path none (by rw [here]; rfl)

theorem made_step {n : Nat} {action : Action T} (ready : Ready host s) (made : Made n s)
    (next : step host s action = some after) : Made (n + thrown [action]) after := by
  cases action with
  | call t | load t =>
    simp only [step] at next
    split at next <;> cases next
    next here =>
      exact made.move (t := t) rfl rfl fun unpublished _ => ⟨unpublished, by rw [here]; rfl⟩
  | find t explicit isRegularFile =>
    simp only [step] at next
    split at next <;> cases next
    next caller here => exact made_find made explicit isRegularFile (by rw [here]; rfl)
  | run t =>
    cases here : s.pc t with
    | idle => simp only [step, here] at next; cases next
    | load =>
      simp only [step, here] at next
      split at next <;> cases next <;>
        exact made.move (t := t) rfl rfl fun unpublished _ => ⟨unpublished, by rw [here]; rfl⟩
    | path caller place =>
      simp only [step, here] at next
      exact made_advance ready made here next
    | native path =>
      simp only [step, here] at next
      cases next
      exact made.move (t := t) rfl rfl fun unpublished _ => ⟨unpublished, by rw [here]; rfl⟩
  | transfer t bytes =>
    simp only [step] at next
    split at next
    · next caller tmp left here =>
      split at next <;> cases next
      exact made.move (t := t) rfl rfl fun unpublished own => by cases own
    · cases next
  | throws t =>
    have grown : after.next = s.next := by
      simp only [step] at next
      split at next
      · obtain ⟨caught, -, rfl⟩ := Option.map_eq_some_iff.mp next
        rfl
      · cases next
        rfl
      · cases next
    have few : after.next ≤ n + 1 := grown ▸ made.few
    exact ⟨Nat.le_succ_of_le few, fun _ _ => few⟩

end Ready

/-! ### Every run -/

variable {host : Host}

theorem exec_ready {actions : List (Action T)} {s : State T}
    (run : exec (step host) .init actions = some s) : Ready host s ∧ Made (thrown actions) s := by
  refine exec_induction (fun actions (s : State T) => Ready host s ∧ Made (thrown actions) s)
    ⟨init_ready, ⟨Nat.zero_le _, fun _ _ => Nat.zero_le _⟩⟩ ?_ actions s run
  rintro actions action middle t - ⟨ready, made⟩ next
  refine ⟨ready_step ready next, ?_⟩
  rw [thrown, List.countP_append]
  exact made_step ready made next

/-- **All threads share one library.** Over every run of any threads: a path of a temporary file
that `getLibraryPath` returns is the one published, and the file holds the whole bundled library;
every `load` that returns gives the same library, which is the only one loaded; and there is at most
one temporary file more than statements that threw. -/
theorem library_shared {actions : List (Action T)} {s : State T}
    (run : exec (step host) .init actions = some s) :
    (∀ tmp, some (.temp tmp) ∈ s.returned → s.cachedJarLibPath = some tmp ∧ Whole host s tmp) ∧
      (∀ lib ∈ s.instances, ∀ other ∈ s.instances, lib = other) ∧ s.natives.length ≤ 1 ∧
        s.next ≤ thrown actions + 1 := by
  obtain ⟨ready, made⟩ := exec_ready run
  refine ⟨fun tmp inside => ?_, fun lib mine other theirs => ?_, ?_, made.few⟩
  · have published := ready.returned _ inside tmp rfl
    exact ⟨published, ready.published tmp published⟩
  · cases (ready.instances lib mine).symm.trans (ready.instances other theirs)
    rfl
  · rcases ready.natives with ⟨lib, -, one⟩ | empty
    · exact Nat.le_of_eq one
    · rw [empty]
      exact Nat.zero_le _

/-- Linux, with a library of four bytes in the JAR. -/
def linuxHost : Host where
  os := "linux"
  arch := "amd64"
  resolve dir name := some (dir ++ "/" ++ name)
  getResource entry :=
    if entry = "natives/linux-x86_64/libspicedb.so" then some [127, 69, 76, 70] else none

/-- A `load` and a `getLibraryPath` that both find nothing; the first copies, the second waits. -/
def race : List (Action Nat) :=
  [.load 0, .run 0, .call 1, .find 0 none fun _ => false, .find 1 none fun _ => false, .run 0,
      .run 1]
    ++ List.replicate 7 (.run 0) ++ [.transfer 0 3, .transfer 0 9] ++ List.replicate 5 (.run 0)
    ++ List.replicate 4 (.run 1) ++ [.run 0]

/-- Both have the one file. -/
theorem library_shared_race : ∃ s, exec (step linuxHost) .init race = some s ∧
    s.returned = [some (.temp 0), some (.temp 0)] ∧ s.instances = [0] ∧
      s.cachedJarLibPath = some 0 ∧ Whole linuxHost s 0 := by
  obtain ⟨s, run⟩ : ∃ s, exec (step linuxHost) .init race = some s := ⟨_, rfl⟩
  have returned : s.returned = [some (.temp 0), some (.temp 0)] := by
    cases run
    rfl
  have instances : s.instances = [0] := by
    cases run
    rfl
  refine ⟨s, run, returned, instances, (library_shared run).1 0 ?_⟩
  rw [returned]
  exact List.mem_cons_self

/-! ### Threads that wait -/

/-- The thread can take its next statement: the look at the property whatever is found, the copy of
any bytes, or any other. -/
def Enabled (host : Host) (s : State T) (t : T) : Prop :=
  (∃ after, step host s (.run t) = some after) ∨
    (∀ explicit isRegularFile, ∃ after, step host s (.find t explicit isRegularFile) = some after) ∨
    ∀ bytes, 0 < bytes → ∃ after, step host s (.transfer t bytes) = some after

section Waiting

variable {s : State T} {t : T}

/-- A thread in `getLibraryPath` waits for the monitor at its entry alone. -/
theorem path_enabled {caller : Caller} {place : Place} (here : s.pc t = .path caller place)
    (free : place = .enter → s.monitor = none) : Enabled host s t := by
  have runs : (∃ after, advance host s t caller place = some after) → Enabled host s t := by
    rintro ⟨after, next⟩
    refine Or.inl ⟨after, ?_⟩
    rw [step, here]
    exact next
  cases place with
  | explicit =>
    refine Or.inr (Or.inl fun explicit isRegularFile => ?_)
    rw [step, here]
    exact ⟨_, rfl⟩
  | enter =>
    refine runs ?_
    rw [advance, free rfl]
    exact ⟨_, rfl⟩
  | copy tmp left =>
    cases left with
    | nil => exact runs ⟨_, rfl⟩
    | cons byte left =>
      refine Or.inr (Or.inr fun bytes some_ => ?_)
      simp only [step, here]
      rw [if_pos ⟨List.cons_ne_nil _ _, some_⟩]
      exact ⟨_, rfl⟩
  | cached | check | getResource =>
    refine runs ?_
    simp only [advance]
    split <;> exact ⟨_, rfl⟩
  | again | createTempFile | deleteOnExit tmp | replace tmp | create tmp | publish tmp | result
  | close path | leave path => exact runs ⟨_, rfl⟩

/-- The thread in the monitor can go on. -/
theorem inside_enabled (inside : (s.pc t).inside = true) : Enabled host s t := by
  cases here : s.pc t with
  | idle | load | native path => rw [here] at inside; cases inside
  | path caller place =>
    refine path_enabled here fun entry => ?_
    rw [here, entry] at inside
    cases inside

/-- A thread in `getLibraryPath` can go on, or the one in the monitor can. -/
theorem path_unblocked (ready : Ready host s) {caller : Caller} {place : Place}
    (here : s.pc t = .path caller place) : ∃ u, Enabled host s u := by
  by_cases free : s.monitor = none
  · exact ⟨t, path_enabled here fun _ => free⟩
  · obtain ⟨u, held⟩ := Option.ne_none_iff_exists'.mp free
    exact ⟨u, inside_enabled ((ready.monitor u).mp held)⟩

/-- **No thread waits for ever.** Over every run of any threads, while a thread is in a call some
thread can take its next statement: the one that waits at `Holder` waits for the class initializer,
which may wait for the monitor, whose thread waits for nothing. -/
theorem load_unblocked {actions : List (Action T)} (run : exec (step host) .init actions = some s)
    (busy : s.pc t ≠ .idle) : ∃ u, Enabled host s u := by
  obtain ⟨ready, -⟩ := exec_ready run
  cases here : s.pc t with
  | idle => exact absurd here busy
  | path caller place => exact path_unblocked ready here
  | native path =>
    refine ⟨t, Or.inl ?_⟩
    rw [step, here]
    exact ⟨_, rfl⟩
  | load =>
    cases class_ : s.holder with
    | initializing u =>
      have theirs := (ready.holder u).mp class_
      cases there : s.pc u with
      | idle | load => rw [there] at theirs; cases theirs
      | path caller place => exact path_unblocked ready there
      | native path =>
        refine ⟨u, Or.inl ?_⟩
        rw [step, there]
        exact ⟨_, rfl⟩
    | unloaded | loaded lib | erroneous =>
      refine ⟨t, Or.inl ?_⟩
      simp only [step, here, class_]
      exact ⟨_, rfl⟩

end Waiting

/-- While the first copies, the second cannot take its next statement, and the first can. -/
theorem load_unblocked_race : ∃ s, exec (step linuxHost) .init (race.take 14) = some s ∧
    step linuxHost s (.run 1) = none ∧ ∃ u, Enabled linuxHost s u := by
  obtain ⟨s, run⟩ : ∃ s, exec (step linuxHost) .init (race.take 14) = some s := ⟨_, rfl⟩
  have waits : step linuxHost s (.run 1) = none ∧ s.pc 1 ≠ .idle := by
    cases run
    exact ⟨rfl, by decide⟩
  exact ⟨s, run, waits.1, load_unblocked run waits.2⟩

end SpicedbEmbedded.Clients.JavaLibrary
