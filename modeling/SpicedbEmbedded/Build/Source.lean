/-
**The build of the library from its Go source.**

The build script of the `-sys` crate first copies the repository's `shared/c` over what the crate holds
there, then takes a staged library, builds one from the copy, or gets a released one. It never empties the
copy's destination, and an error of the copy is only printed.

* `run_source_iff` — a library built from source is built from what the copy leaves, whatever that is.
* **`compilesRepository_iff`** — so what is compiled is the repository's tree exactly where the crate held
  no path the tree lacks and what the copy leaves undone is in place, or where there is no `go.mod` to
  build from.
* `not_compilesRepository_of_torn` — a file that a failed copy left half written is compiled.
* `compilesRepository_again_iff` — in a second build without errors: exactly where no path of the first is
  gone or has become a file from a directory or the other way.
* `builds_ne_none`, `builds_rooted` — over any builds: what the crate once held stays, and it holds a tree.
-/

import SpicedbEmbedded.Build.Copy

namespace SpicedbEmbedded.Build

open Machine (outcome Actions)

/-! ### The build script -/

/-- `MIN_LIB_SIZE_BYTES` -/
def minLibSizeBytes : Nat := 1_000_000

/-- `file_size_at_least`, given the size of the file, if it is there. -/
def fileSizeAtLeast (size : Option Nat) (minBytes : Nat) : Bool :=
  match size with
  | some bytes => minBytes ≤ bytes
  | none => false

/-- The file whose presence makes a directory a Go module. -/
def goMod : Path := ["go.mod"]

/-- How `go build` ends on a tree: with an error, or with a library of some size in place. -/
inductive GoBuild
  | failed
  | success (library : Option Nat)

/-- What the build script meets. -/
structure Surroundings where
  /-- The repository's `shared/c`, if the crate is in a repository. -/
  repo : Option SourceTree
  /-- The crate's own `shared/c`, as earlier builds left it. -/
  crate : Contents
  /-- The errors of the file system while copying. -/
  faults : Faults
  /-- The size of the staged library, if there is one. -/
  prebuild : Option Nat
  goBuild : Contents → GoBuild

/-- `ensure_go_source_in_crate`: what is in the crate's `shared/c` afterwards. -/
def ensureGoSourceInCrate (repo : Option SourceTree) (faults : Faults) (crate : Contents) : Contents :=
  match repo with
  | none => crate
  | some tree =>
    if (tree.contents goMod).isNone then crate
    -- The error is printed; what was copied by then stays.
    else (outcome (copyDirRecursive faults [] tree.entries) crate).2

/-- `try_build_from_source` -/
def tryBuildFromSource (goBuild : Contents → GoBuild) (sharedC : Contents) : Bool :=
  if (sharedC goMod).isNone then false
  else
    match goBuild sharedC with
    | .failed => false
    | .success library => fileSizeAtLeast library minLibSizeBytes

/-- Where the library comes from, and of which tree it was compiled; a released one may still be missing. -/
inductive Library
  | prebuild
  | source (compiled : Contents)
  | release

/-- `run`: which library the build script takes. -/
def run (met : Surroundings) : Library :=
  let sharedC := ensureGoSourceInCrate met.repo met.faults met.crate
  if fileSizeAtLeast met.prebuild minLibSizeBytes then .prebuild
  else if tryBuildFromSource met.goBuild sharedC then .source sharedC
  else .release

/-- What is built from source is what the copy left. -/
theorem run_source_iff (met : Surroundings) (compiled : Contents) :
    run met = .source compiled ↔
      fileSizeAtLeast met.prebuild minLibSizeBytes = false ∧
        tryBuildFromSource met.goBuild compiled = true ∧
          ensureGoSourceInCrate met.repo met.faults met.crate = compiled := by
  simp only [run]
  generalize ensureGoSourceInCrate met.repo met.faults met.crate = sharedC
  by_cases staged : fileSizeAtLeast met.prebuild minLibSizeBytes = true
  · rw [if_pos staged, staged]
    constructor
    · intro taken
      cases taken
    · rintro ⟨unstaged, _⟩
      cases unstaged
  · rw [if_neg staged, Bool.eq_false_iff.mpr staged]
    by_cases built : tryBuildFromSource met.goBuild sharedC = true
    · rw [if_pos built]
      constructor
      · intro taken
        cases taken
        exact ⟨rfl, built, rfl⟩
      · rintro ⟨_, _, rfl⟩
        rfl
    · rw [if_neg built]
      constructor
      · intro taken
        cases taken
      · rintro ⟨_, succeeded, rfl⟩
        exact absurd succeeded built

/-! ### What is compiled -/

section Compiled

variable (tree : SourceTree) (crate : Contents) (faults : Faults)

/-- Whatever library is staged and whatever `go build` does, a library built from source is compiled of
the repository's tree. -/
def CompilesRepository : Prop :=
  ∀ prebuild goBuild compiled,
    run ⟨some tree, crate, faults, prebuild, goBuild⟩ = .source compiled → compiled = tree.contents

/-- The calls of the copy from the first that cannot succeed on. -/
def undone : List Step := (calls faults).pending crate (plan [] tree.entries)

/-- What the crate held, with what the first call that cannot succeed has written. -/
def stopped : Contents := (calls faults).leftover crate (plan [] tree.entries)

/-- The crate held no path the tree lacks, and what is left undone is in place already. -/
structure Exact : Prop where
  noStale : ∀ path, crate path ≠ none → tree.contents path ≠ none
  inPlace : ∀ step ∈ undone tree crate faults, ∀ path entry,
    step.target = some (path, entry) → stopped tree crate faults path = some entry

/-- The copy stops before `go.mod`, and the crate held none. -/
structure Unbuildable : Prop where
  notCopied : ∃ step ∈ undone tree crate faults, ∃ entry, step.target = some (goMod, entry)
  notHeld : stopped tree crate faults goMod = none

end Compiled

section Proofs

variable {tree : SourceTree} {crate : Contents} {faults : Faults}

/-- The copy, as the plan of its calls. -/
theorem ensureGoSourceInCrate_some (isModule : tree.contents goMod ≠ none) :
    ensureGoSourceInCrate (some tree) faults crate =
      (outcome ((calls faults).follow (plan [] tree.entries)) crate).2 := by
  have present : ¬(tree.contents goMod).isNone = true := fun missing =>
    isModule (Option.isNone_iff_eq_none.mp missing)
  rw [ensureGoSourceInCrate, if_neg present, copyDirRecursive_eq_follow]

theorem ensureGoSourceInCrate_of_none (missing : tree.contents goMod = none) :
    ensureGoSourceInCrate (some tree) faults crate = crate := by
  rw [ensureGoSourceInCrate, if_pos (Option.isNone_iff_eq_none.mpr missing)]

/-- A source build may succeed wherever there is a `go.mod`, so the copy decides. -/
theorem compilesRepository_iff_copied (tree : SourceTree) (crate : Contents) (faults : Faults) :
    CompilesRepository tree crate faults ↔
      ensureGoSourceInCrate (some tree) faults crate goMod = none ∨
        ensureGoSourceInCrate (some tree) faults crate = tree.contents := by
  constructor
  · intro compiles
    refine or_iff_not_imp_left.mpr fun held => ?_
    refine compiles none (fun _ => .success (some minLibSizeBytes)) _ ?_
    refine (run_source_iff _ _).mpr ⟨rfl, ?_, rfl⟩
    rw [tryBuildFromSource, if_neg fun missing => held (Option.isNone_iff_eq_none.mp missing)]
    show decide (minLibSizeBytes ≤ minLibSizeBytes) = true
    exact decide_eq_true (Nat.le_refl _)
  · rintro copied prebuild goBuild compiled built
    obtain ⟨_, succeeded, rfl⟩ := (run_source_iff _ _).mp built
    rcases copied with missing | same
    · rw [tryBuildFromSource, if_pos (Option.isNone_iff_eq_none.mpr missing)] at succeeded
      cases succeeded
    · exact same

theorem copied_eq_contents_iff (isModule : tree.contents goMod ≠ none) :
    ensureGoSourceInCrate (some tree) faults crate = tree.contents ↔ Exact tree crate faults := by
  rw [ensureGoSourceInCrate_some isModule,
    Actions.follow_reaches_iff (plan_apart tree.distinct) (contents_iff tree)]
  exact ⟨fun both => ⟨both.1, both.2⟩, fun fits => ⟨fits.noStale, fits.inPlace⟩⟩

theorem copied_goMod_eq_none_iff (isModule : tree.contents goMod ≠ none) :
    ensureGoSourceInCrate (some tree) faults crate goMod = none ↔
      Unbuildable tree crate faults := by
  have apart : (plan [] tree.entries).Pairwise (calls faults).Apart := plan_apart tree.distinct
  rw [ensureGoSourceInCrate_some isModule, (Actions.follow_written crate apart).eq_none_iff]
  constructor
  · rintro ⟨notCopied, notHeld⟩
    obtain ⟨entry, held⟩ := Option.ne_none_iff_exists'.mp isModule
    obtain ⟨step, inside, writes⟩ := (contents_iff tree goMod entry).mp held
    rw [← Actions.finished_append_pending (calls faults) crate (plan [] tree.entries)] at inside
    refine ⟨⟨step, ?_, entry, writes⟩, notHeld⟩
    rcases List.mem_append.mp inside with done | left
    · exact absurd (Actions.place_of_target writes) (notCopied step done)
    · exact left
  · rintro ⟨⟨step, left, entry, writes⟩, notHeld⟩
    refine ⟨fun other done taken => ?_, notHeld⟩
    exact Actions.apart_of_finished apart done left goMod taken (Actions.place_of_target writes)

/-- **What is built from source is the repository's tree exactly where** the crate held no path the tree
lacks and what the copy leaves undone is in place, or where the copy leaves no `go.mod`. -/
theorem compilesRepository_iff (isModule : tree.contents goMod ≠ none) :
    CompilesRepository tree crate faults ↔
      Exact tree crate faults ∨ Unbuildable tree crate faults := by
  rw [compilesRepository_iff_copied, copied_goMod_eq_none_iff isModule,
    copied_eq_contents_iff isModule, or_comm]

/-- A Go module of two files. -/
def goModule : SourceTree where
  entries := .file "go.mod" [109, 111, 100] (.file "main.go" [103, 111] .nil)
  distinct := by decide

/-- The module before a file was removed from it. -/
def goModuleBefore : SourceTree where
  entries := .file "go.mod" [109, 111, 100] (.file "main.go" [103, 111] (.file "removed.go" [103] .nil))
  distinct := by decide

/-- In a clean checkout the module itself is compiled. -/
theorem cleanCheckout_compiles : CompilesRepository goModule (fun _ => none) (fun _ => none) := by
  refine (compilesRepository_iff (by decide)).mpr (.inl ⟨?_, ?_⟩)
  · intro path held
    exact absurd rfl held
  · intro step left
    have all : undone goModule (fun _ => none) (fun _ => none) = [] := by decide
    rw [all] at left
    cases left

/-- **A file removed from the repository is compiled** all the same, though no call fails. -/
theorem removedFile_compiled : goModule.contents goMod ≠ none ∧
    ¬CompilesRepository goModule goModuleBefore.contents (fun _ => none) := by
  refine ⟨by decide, fun compiles => ?_⟩
  have same := compiles none (fun _ => .success (some minLibSizeBytes)) _
    ((run_source_iff _ _).mpr ⟨rfl, by decide, rfl⟩)
  have found := congrFun same ["removed.go"]
  revert found
  decide

/-! ### Later builds -/

/-- Whatever fails, the copy removes nothing. -/
theorem stopped_ne_none {path : Path} (held : crate path ≠ none) :
    stopped tree crate faults path ≠ none := by
  rcases Actions.leftover_cases (calls faults) crate (plan [] tree.entries) path with
    kept | ⟨step, _, _, _, failed⟩
  · rw [stopped, kept]
    exact held
  · rw [stopped, failed]
    exact attempt_ne_none held

/-- **A copy cut short is compiled**, once the crate holds a `go.mod`. -/
theorem not_compilesRepository_of_torn (isModule : tree.contents goMod ≠ none)
    (held : crate goMod ≠ none) {path : Path} {bytes : List UInt8} {written : Nat} {rest : List Step}
    (stops : undone tree crate faults = .copy path bytes :: rest) (clear : crate path ≠ some .dir)
    (error : faults (.copy path bytes) = some (.late written)) (short : written < bytes.length) :
    ¬CompilesRepository tree crate faults := by
  rw [compilesRepository_iff_copied, copied_goMod_eq_none_iff isModule,
    copied_eq_contents_iff isModule, or_iff_right fun missing => stopped_ne_none held missing.notHeld]
  intro fits
  have whole : stopped tree crate faults path = some (.file bytes) :=
    fits.inPlace (.copy path bytes) (stops ▸ List.mem_cons_self) path (.file bytes) rfl
  have torn : stopped tree crate faults path = some (.file (bytes.take written)) := by
    rw [stopped, Actions.leftover_of_pending stops, Actions.leaves_at rfl]
    show (writeFile bytes (faults (.copy path bytes)) (crate path)).2 = _
    rw [error]
    exact writeFile_late bytes written clear
  have same : bytes.take written = bytes := Entry.file.inj (Option.some.inj (torn.symm.trans whole))
  have size := congrArg List.length same
  rw [List.length_take, Nat.min_eq_left short.le] at size
  omega

/-- Where no error is given, what cannot succeed changes nothing. -/
theorem stopped_of_faultless : stopped tree crate (fun _ => none) = crate := by
  funext path
  rcases Actions.leftover_cases (calls fun _ => none) crate (plan [] tree.entries) path with
    kept | ⟨step, _, fails, own, failed⟩
  · exact kept
  · rw [stopped, failed]
    refine attempt_of_failed ?_
    rw [Actions.passes, Actions.cell, own] at fails
    exact fails

/-- **A second build compiles the repository's tree exactly where** every path of the first is still there
and still a directory or a file as it was. -/
theorem compilesRepository_again_iff {earlier : SourceTree} (before : earlier.contents goMod ≠ none)
    (isModule : tree.contents goMod ≠ none) :
    CompilesRepository tree earlier.contents (fun _ => none) ↔
      ∀ path, earlier.contents path ≠ none → tree.contents path ≠ none ∧
        (earlier.contents path = some .dir ↔ tree.contents path = some .dir) := by
  rw [compilesRepository_iff_copied, copied_goMod_eq_none_iff isModule, copied_eq_contents_iff isModule,
    or_iff_right fun missing => stopped_ne_none before missing.notHeld]
  constructor
  · rintro ⟨noStale, inPlace⟩ path held
    refine ⟨noStale path held, ?_⟩
    obtain ⟨entry, there⟩ := Option.ne_none_iff_exists'.mp (noStale path held)
    obtain ⟨step, inside, writes⟩ := (contents_iff tree path entry).mp there
    rw [there, Option.some.injEq]
    by_cases passes : (calls fun _ => none).passes earlier.contents step = true
    · exact (passes_of_faultless_iff writes).mp passes held
    · have left : step ∈ undone tree earlier.contents fun _ => none :=
        Actions.mem_pending_of_fails inside passes
      have same := inPlace step left path entry writes
      rw [stopped_of_faultless] at same
      rw [same, Option.some.injEq]
  · intro kept
    refine ⟨fun path held => (kept path held).1, ?_⟩
    have done : undone tree earlier.contents (fun _ => none) = [] := by
      refine Actions.pending_eq_nil fun step inside => ?_
      cases writes : step.target with
      | none => exact passes_of_target_none writes
      | some target =>
        refine (passes_of_faultless_iff writes).mpr fun held => ?_
        have there := (contents_iff tree target.1 target.2).mpr ⟨step, inside, writes⟩
        rw [(kept target.1 held).2, there, Option.some.injEq]
    intro step left
    rw [done] at left
    cases left

/-! ### Builds one after another -/

/-- What the crate holds after builds, each of a tree and with errors of its own. -/
def builds (crate : Contents) (runs : List (Option SourceTree × Faults)) : Contents :=
  runs.foldl (fun held build => ensureGoSourceInCrate build.1 build.2 held) crate

section Keep

variable {holds : Contents → Prop}
  (copies : ∀ (tree : SourceTree) (faults : Faults) (crate : Contents), holds crate →
    holds (outcome (copyDirRecursive faults [] tree.entries) crate).2)

include copies

/-- What every copy keeps, a build keeps. -/
theorem ensureGoSourceInCrate_keeps (repo : Option SourceTree) (start : holds crate) :
    holds (ensureGoSourceInCrate repo faults crate) := by
  cases repo with
  | none => exact start
  | some tree =>
    by_cases missing : tree.contents goMod = none
    · rw [ensureGoSourceInCrate_of_none missing]
      exact start
    · rw [ensureGoSourceInCrate_some missing, ← copyDirRecursive_eq_follow]
      exact copies tree faults crate start

/-- What every copy keeps, builds keep. -/
theorem builds_keep (runs : List (Option SourceTree × Faults)) (start : holds crate) :
    holds (builds crate runs) := by
  induction runs generalizing crate with
  | nil => exact start
  | cons build rest ih => exact ih (ensureGoSourceInCrate_keeps copies build.1 start)

end Keep

/-- **What the crate once held, every later build finds there.** -/
theorem builds_ne_none (runs : List (Option SourceTree × Faults)) {path : Path}
    (held : crate path ≠ none) : builds crate runs path ≠ none :=
  builds_keep (fun tree _ crate (held : crate path ≠ none) =>
    copyDirRecursive_ne_none tree.entries held) runs held

/-- The crate holds a tree after any builds. -/
theorem builds_rooted (runs : List (Option SourceTree × Faults)) (rooted : Rooted crate) :
    Rooted (builds crate runs) :=
  builds_keep (fun tree _ _ rooted => copyDirRecursive_rooted tree.entries rooted) runs rooted

end Proofs

end SpicedbEmbedded.Build
