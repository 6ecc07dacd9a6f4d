/-
**What the build script leaves.**

* `Origin` — the library of a run, by where it comes from: staged, of the crate's source, or of a release;
  in this order, and in the last case what the archive lacks is taken as an attempt at a build, or an
  earlier run, left it.
* `runCopied_eq` — the order is that of `Build.run`.
* **`main_leaves_iff`** — the script ends well with a library exactly where the library has such an origin.
* `reruns_keep` — whatever the script meets, run after run, no path of the crate's source is gone.
* **`main_again`** — run once more, and meeting the same, it ends well again, with the same library and
  the same crate.
-/

import SpicedbEmbedded.Build.Script

namespace SpicedbEmbedded.Build.Script

open Machine (Actions outcome)

/-! ### Where a library comes from -/

section Origin

variable (cargo : Cargo) (met : Met) (rid version : String) (world : World)

/-- A staged library. -/
def stagedPath : Path := prebuildDir cargo rid ++ [libArtifactName rid]

/-- The library a run leaves in `OUT_DIR`, from what was there before and what its commands do. -/
inductive Origin : List UInt8 → Prop
  | staged {bytes : List UInt8} (there : world.files (stagedPath cargo rid) = some bytes)
      (enough : large (some bytes) = true)
      (copied : stagedPath cargo rid = libPath cargo (libArtifactName rid) ∨
        met.copyFaults (libPath cargo (libArtifactName rid)) = none)
      (imports : Imports cargo met (world.files (prebuildDir cargo rid ++ ["spicedb.def"]))) :
      Origin bytes
  | built {bytes : List UInt8} (unstaged : large (world.files (stagedPath cargo rid)) = false)
      (builds : Builds met world.crate bytes)
      (imports : Imports cargo met ((defWrites cargo met (libArtifactName rid) world.crate).or
        (world.files (cargo.outDir ++ ["spicedb.def"])))) :
      Origin bytes
  | released {bytes zip : List UInt8} {wrote : Files}
      (unstaged : large (world.files (stagedPath cargo rid)) = false)
      (unbuilt : ¬∃ bytes, Builds met world.crate bytes) (valid : validReleaseVersion version = true)
      (fetches : Fetches met rid version zip wrote)
      (found : (wrote [libArtifactName rid]).or ((goWrites met world.crate).or
        (world.files (libPath cargo (libArtifactName rid)))) = some bytes)
      (enough : large (some bytes) = true)
      (imports : Imports cargo met ((wrote ["spicedb.def"]).or
        ((defWrites cargo met (libArtifactName rid) world.crate).or
          (world.files (cargo.outDir ++ ["spicedb.def"]))))) :
      Origin bytes

end Origin

/-! ### The three ways of a run -/

section Ways

variable (cargo : Cargo) {met : Met} {rid version : String} {world : World} {files : Files}

/-- The files after an attempt at a build. -/
def attempted (met : Met) (rid : String) (world : World) : Files :=
  put (put world.files (libPath cargo (libArtifactName rid)) (goWrites met world.crate))
    (cargo.outDir ++ ["spicedb.def"]) (defWrites cargo met (libArtifactName rid) world.crate)

theorem attempted_lib : attempted cargo met rid world (libPath cargo (libArtifactName rid)) =
    (goWrites met world.crate).or (world.files (libPath cargo (libArtifactName rid))) := by
  have apart : libPath cargo (libArtifactName rid) ≠ cargo.outDir ++ ["spicedb.def"] :=
    last_ne (libArtifactName_ne rid).1
  rw [attempted, put_of_ne apart, put_self]

theorem attempted_def : attempted cargo met rid world (cargo.outDir ++ ["spicedb.def"]) =
    (defWrites cargo met (libArtifactName rid) world.crate).or
      (world.files (cargo.outDir ++ ["spicedb.def"])) := by
  have apart : cargo.outDir ++ ["spicedb.def"] ≠ libPath cargo (libArtifactName rid) :=
    last_ne (libArtifactName_ne rid).1.symm
  rw [attempted, put_self, put_of_ne apart]

theorem attempted_outside {path : Path} (outside : ¬cargo.outDir <+: path) :
    attempted cargo met rid world path = world.files path := by
  have apart : ∀ name, path ≠ cargo.outDir ++ [name] := by
    rintro name rfl
    exact outside (List.prefix_append _ _)
  rw [attempted, put_of_ne (apart _), libPath, put_of_ne (apart _)]

/-- The library of a build that goes well is the one `go` wrote. -/
theorem goWrites_of_builds {crate : Contents} {bytes : List UInt8} (builds : Builds met crate bytes) :
    goWrites met crate = some bytes := by
  rw [goWrites, if_neg fun missing => builds.1 (Option.isNone_iff_eq_none.mp missing), builds.2.1]

theorem runCopied_staged (staged : large (world.files (stagedPath cargo rid)) = true)
    (releaseVersion : Option String) :
    runCopied cargo met rid releaseVersion world =
      deliver cargo met (libArtifactName rid) (stagedPath cargo rid) (prebuildDir cargo rid)
        world.files := if_pos staged

theorem runCopied_built (writes : Writes met)
    (unstaged : large (world.files (stagedPath cargo rid)) = false) {bytes : List UInt8}
    (builds : Builds met world.crate bytes) (releaseVersion : Option String) :
    runCopied cargo met rid releaseVersion world =
      deliver cargo met (libArtifactName rid) (libPath cargo (libArtifactName rid)) cargo.outDir
        (attempted cargo met rid world) := by
  obtain ⟨succeeds, left⟩ := tryBuildFromSource_spec cargo writes rid world
  have there : (attempted cargo met rid world (libPath cargo (libArtifactName rid))).isNone = false := by
    rw [attempted_lib, goWrites_of_builds builds]
    rfl
  rw [stagedPath] at unstaged
  rw [runCopied, unstaged, if_neg Bool.false_ne_true]
  rcases ended : tryBuildFromSource cargo met (libArtifactName rid) world with ⟨_ | _, after⟩
  · rw [ended] at succeeds
    cases succeeds.mpr ⟨bytes, builds⟩
  · rw [ended] at left
    dsimp only at left ⊢
    rw [left]
    exact if_neg (there ▸ Bool.false_ne_true)

theorem runCopied_released (writes : Writes met)
    (unstaged : large (world.files (stagedPath cargo rid)) = false)
    (unbuilt : ¬∃ bytes, Builds met world.crate bytes) (releaseVersion : Option String) :
    runCopied cargo met rid releaseVersion world =
      release cargo met rid releaseVersion (attempted cargo met rid world) := by
  obtain ⟨succeeds, left⟩ := tryBuildFromSource_spec cargo writes rid world
  rw [stagedPath] at unstaged
  rw [runCopied, unstaged, if_neg Bool.false_ne_true]
  rcases ended : tryBuildFromSource cargo met (libArtifactName rid) world with ⟨_ | _, after⟩
  · rw [ended] at left
    exact congrArg (release cargo met rid releaseVersion) left
  · rw [ended] at succeeds
    exact absurd (succeeds.mp rfl) unbuilt

/-- A release that is fetched, with a library that is large enough, is delivered. -/
theorem release_fetched (valid : validReleaseVersion version = true) {zip : List UInt8} {wrote : Files}
    (fetches : Fetches met rid version zip wrote)
    (enough : large (unpacked cargo zip wrote files (libPath cargo (libArtifactName rid))) = true) :
    release cargo met rid (some version) files =
      deliver cargo met (libArtifactName rid) (libPath cargo (libArtifactName rid)) cargo.outDir
        (unpacked cargo zip wrote files) := by
  have there : ¬(unpacked cargo zip wrote files (libPath cargo (libArtifactName rid))).isNone = true :=
    fun missing => ne_none_of_large enough (Option.isNone_iff_eq_none.mp missing)
  have downloaded : downloadFromRelease cargo met rid version files =
      (.ok (), unpacked cargo zip wrote files) := by
    rw [downloadFromRelease_fetched cargo fetches, if_neg there, if_pos enough]
  rw [release]
  dsimp only [Option.some_or]
  rw [if_pos valid, downloaded]
  exact if_neg there

/-- A release that goes well has a version that is one, and is fetched. -/
theorem fetched_of_release (writes : Writes met)
    (ok : (release cargo met rid (some version) files).1 = .ok ()) :
    validReleaseVersion version = true ∧ ∃ zip wrote, Fetches met rid version zip wrote ∧
      large (unpacked cargo zip wrote files (libPath cargo (libArtifactName rid))) = true := by
  rw [release] at ok
  dsimp only [Option.some_or] at ok
  split at ok
  · next valid =>
    refine ⟨valid, (downloadFromRelease_ok_iff cargo writes).mp ?_⟩
    rcases ended : downloadFromRelease cargo met rid version files with ⟨panic | _, after⟩
    · rw [ended] at ok
      exact absurd ok (error_ne_ok _)
    · rfl
  · exact absurd ok (error_ne_ok _)

variable (met rid world) in
/-- What an archive leaves as the library and as the `.def` file, after an attempt at a build. -/
theorem unpacked_attempted (zip : List UInt8) (wrote : Files) :
    unpacked cargo zip wrote (attempted cargo met rid world) (libPath cargo (libArtifactName rid)) =
        (wrote [libArtifactName rid]).or ((goWrites met world.crate).or
          (world.files (libPath cargo (libArtifactName rid)))) ∧
      unpacked cargo zip wrote (attempted cargo met rid world) (cargo.outDir ++ ["spicedb.def"]) =
        (wrote ["spicedb.def"]).or ((defWrites cargo met (libArtifactName rid) world.crate).or
          (world.files (cargo.outDir ++ ["spicedb.def"]))) := by
  constructor
  · rw [libPath, unpacked_apply cargo zip wrote (libArtifactName_ne rid).2.2, ← libPath, attempted_lib]
  · rw [unpacked_apply cargo zip wrote (by decide), attempted_def]

/-- **A run that ends well leaves a library, and the library has an origin.** -/
theorem exists_origin (writes : Writes met)
    (ok : (runCopied cargo met rid (some version) world).1 = .ok ()) :
    ∃ bytes, Origin cargo met rid version world bytes := by
  cases staged : large (world.files (stagedPath cargo rid)) with
  | true =>
    rw [runCopied_staged cargo staged] at ok
    obtain ⟨_, copied, imports⟩ := (deliver_spec cargo met _ _ _ rid).1.mp ok
    obtain ⟨bytes, there⟩ := Option.ne_none_iff_exists'.mp (ne_none_of_large staged)
    exact ⟨bytes, .staged there (there ▸ staged) copied imports⟩
  | false =>
    by_cases builds : ∃ bytes, Builds met world.crate bytes
    · obtain ⟨bytes, builds⟩ := builds
      rw [runCopied_built cargo writes staged builds] at ok
      have imports := ((deliver_spec cargo met _ _ _ rid).1.mp ok).2.2
      rw [attempted_def] at imports
      exact ⟨bytes, .built staged builds imports⟩
    · rw [runCopied_released cargo writes staged builds] at ok
      obtain ⟨valid, zip, wrote, fetches, enough⟩ := fetched_of_release cargo writes ok
      rw [release_fetched cargo valid fetches enough] at ok
      have imports := ((deliver_spec cargo met _ _ _ rid).1.mp ok).2.2
      obtain ⟨library, definition⟩ := unpacked_attempted cargo met rid world zip wrote
      rw [definition] at imports
      obtain ⟨bytes, there⟩ := Option.ne_none_iff_exists'.mp (ne_none_of_large enough)
      exact ⟨bytes, .released staged builds valid fetches (library.symm.trans there) (there ▸ enough)
        imports⟩

/-- **A library that has an origin is left by the run.** -/
theorem runCopied_of_origin (writes : Writes met) {bytes : List UInt8}
    (origin : Origin cargo met rid version world bytes) :
    (runCopied cargo met rid (some version) world).1 = .ok () ∧
      (runCopied cargo met rid (some version) world).2 (libPath cargo (libArtifactName rid)) =
        some bytes := by
  cases origin with
  | staged there enough copied imports =>
    obtain ⟨delivers, delivered⟩ := deliver_spec cargo met world.files (stagedPath cargo rid)
      (prebuildDir cargo rid) rid
    rw [runCopied_staged cargo (there ▸ enough)]
    have ok := delivers.mpr ⟨there ▸ enough, copied, imports⟩
    exact ⟨ok, (delivered ok).trans there⟩
  | built unstaged builds imports =>
    obtain ⟨delivers, delivered⟩ := deliver_spec cargo met (attempted cargo met rid world)
      (libPath cargo (libArtifactName rid)) cargo.outDir rid
    have made : attempted cargo met rid world (libPath cargo (libArtifactName rid)) = some bytes := by
      rw [attempted_lib, goWrites_of_builds builds, Option.some_or]
    rw [made, attempted_def] at delivers
    rw [runCopied_built cargo writes unstaged builds]
    have ok := delivers.mpr ⟨builds.2.2, .inl rfl, imports⟩
    exact ⟨ok, (delivered ok).trans made⟩
  | @released zip wrote unstaged unbuilt valid fetches found enough imports =>
    obtain ⟨library, definition⟩ := unpacked_attempted cargo met rid world zip wrote
    have there := library.trans found
    obtain ⟨delivers, delivered⟩ := deliver_spec cargo met
      (unpacked cargo zip wrote (attempted cargo met rid world)) (libPath cargo (libArtifactName rid))
      cargo.outDir rid
    rw [there, definition] at delivers
    rw [runCopied_released cargo writes unstaged unbuilt,
      release_fetched cargo valid fetches (there ▸ enough)]
    have ok := delivers.mpr ⟨enough, .inl rfl, imports⟩
    exact ⟨ok, (delivered ok).trans there⟩

end Ways

/-! ### What a run leaves elsewhere -/

section Elsewhere

variable (cargo : Cargo) {met : Met} {rid version : String} {world : World} {files : Files}

theorem deliver_outside {lib : String} {prebuild defDir path : Path} (outside : ¬cargo.outDir <+: path)
    (notTarget : path ≠ targetPath cargo lib) :
    (deliver cargo met lib prebuild defDir files).2 path = files path := by
  have apart : ∀ name, path ≠ cargo.outDir ++ [name] := by
    rintro name rfl
    exact outside (List.prefix_append _ _)
  exact deliver_of_ne cargo met (apart _) (apart _) fun _ => notTarget

/-- The end of a run leaves the `.def` file in `OUT_DIR` alone. -/
theorem deliver_def {prebuild defDir : Path} (rid : String) :
    (deliver cargo met (libArtifactName rid) prebuild defDir files).2 (cargo.outDir ++ ["spicedb.def"]) =
      files (cargo.outDir ++ ["spicedb.def"]) :=
  deliver_of_ne cargo met (last_ne (libArtifactName_ne rid).1.symm) (last_ne (by decide))
    fun deep => targetPath_ne deep _ _

theorem release_outside {path : Path} (outside : ¬cargo.outDir <+: path)
    (notTarget : path ≠ targetPath cargo (libArtifactName rid)) :
    (release cargo met rid (some version) files).2 path = files path := by
  have downloaded : (downloadFromRelease cargo met rid version files).2 path = files path :=
    downloadFromRelease_outside cargo outside
  rw [release]
  dsimp only [Option.some_or]
  split
  · rcases ended : downloadFromRelease cargo met rid version files with ⟨panic | _, after⟩
    · rw [ended] at downloaded
      exact downloaded
    · rw [ended] at downloaded
      dsimp only at downloaded ⊢
      split
      · exact downloaded
      · exact (deliver_outside cargo outside notTarget).trans downloaded
  · rfl

/-- **A run writes only to `OUT_DIR`** and to the copy of the library next to the target. -/
theorem runCopied_outside (writes : Writes met) {path : Path} (outside : ¬cargo.outDir <+: path)
    (notTarget : path ≠ targetPath cargo (libArtifactName rid)) :
    (runCopied cargo met rid (some version) world).2 path = world.files path := by
  cases staged : large (world.files (stagedPath cargo rid)) with
  | true =>
    rw [runCopied_staged cargo staged]
    exact deliver_outside cargo outside notTarget
  | false =>
    have tried : attempted cargo met rid world path = world.files path :=
      attempted_outside cargo outside
    by_cases builds : ∃ bytes, Builds met world.crate bytes
    · obtain ⟨bytes, builds⟩ := builds
      rw [runCopied_built cargo writes staged builds]
      exact (deliver_outside cargo outside notTarget).trans tried
    · rw [runCopied_released cargo writes staged builds]
      exact (release_outside cargo outside notTarget).trans tried

end Elsewhere

/-! ### The crate -/

section Crate

variable (cargo : Cargo) {met : Met} {rid : String} {world : World}

/-- `go build`, as `Build.run` takes it. -/
def goBuild (met : Met) (rid : String) (files : Files) (tree : Contents) : GoBuild :=
  match met.go tree with
  | .ran true wrote =>
    .success ((wrote.or (files (libPath cargo (libArtifactName rid)))).map List.length)
  | _ => .failed

/-- What the script compiles is what `Build.run` says. -/
theorem run_source_iff_builds (writes : Writes met) (compiled : Contents) :
    Build.run ⟨met.repo, world.crate, met.faults,
        (world.files (stagedPath cargo rid)).map List.length, goBuild cargo met rid world.files⟩ =
        .source compiled ↔
      large (world.files (stagedPath cargo rid)) = false ∧ (∃ bytes, Builds met compiled bytes) ∧
        ensureGoSourceInCrate met.repo met.faults world.crate = compiled := by
  rw [run_source_iff]
  refine and_congr Iff.rfl (and_congr ?_ Iff.rfl)
  show Build.tryBuildFromSource (goBuild cargo met rid world.files) compiled = true ↔ _
  unfold Build.tryBuildFromSource goBuild
  by_cases missing : (compiled goMod).isNone = true
  · rw [if_pos missing]
    refine iff_of_false Bool.false_ne_true ?_
    rintro ⟨bytes, isModule, _⟩
    exact isModule (Option.isNone_iff_eq_none.mp missing)
  have isModule : compiled goMod ≠ none := fun none => missing (Option.isNone_iff_eq_none.mpr none)
  rw [if_neg missing]
  cases ran : met.go compiled with
  | notRun =>
    refine iff_of_false Bool.false_ne_true ?_
    rintro ⟨bytes, _, built, _⟩
    cases ran.symm.trans built
  | ran success wrote =>
    cases success with
    | false =>
      refine iff_of_false Bool.false_ne_true ?_
      rintro ⟨bytes, _, built, _⟩
      cases ran.symm.trans built
    | true =>
      cases wrote with
      | none => exact absurd ran (writes.go _)
      | some bytes =>
        constructor
        · exact fun enough => ⟨bytes, isModule, ran, enough⟩
        · rintro ⟨other, _, built, enough⟩
          cases ran.symm.trans built
          exact enough

/-- A call of the copy on what it left does the same. -/
theorem attempt_again (faults : Faults) (step : Step) (found : Option Entry) :
    step.attempt faults (step.attempt faults found).2 = step.attempt faults found := by
  cases step with
  | createDirAll dest =>
    simp only [Step.attempt]
    rcases faults (.createDirAll dest) with _ | _ <;> rcases found with _ | _ | _ <;> rfl
  | copy path bytes =>
    simp only [Step.attempt]
    rcases faults (.copy path bytes) with _ | _ | _ <;> rcases found with _ | _ | _ <;> rfl
  | readDir src => rfl
  | entry src => rfl
  | fileType src => rfl
  | finish src => rfl

/-- **The copy made again changes nothing**, whatever failed. -/
theorem ensureGoSourceInCrate_again (repo : Option SourceTree) (faults : Faults) (crate : Contents) :
    ensureGoSourceInCrate repo faults (ensureGoSourceInCrate repo faults crate) =
      ensureGoSourceInCrate repo faults crate := by
  cases repo with
  | none => rfl
  | some tree =>
    by_cases missing : tree.contents goMod = none
    · rw [ensureGoSourceInCrate_of_none missing, ensureGoSourceInCrate_of_none missing]
    · rw [ensureGoSourceInCrate_some missing, ensureGoSourceInCrate_some missing,
        Actions.follow_again (attempt_again faults) (plan_apart tree.distinct)]

end Crate

/-! ### The script -/

section Main

variable (cargo : Cargo) (met : Met) {rid : String}

theorem main_building (building : cargo.docsRs = false)
    (supported : targetRid cargo.targetOs cargo.targetArch = .ok rid) (world : World) :
    main cargo met world = run cargo met rid (some cargo.packageVersion) world := by
  rw [main, building, supported]
  rfl

/-- The script leaves a library that has an origin. -/
theorem main_of_origin (world : World) (building : cargo.docsRs = false)
    (supported : targetRid cargo.targetOs cargo.targetArch = .ok rid) (writes : Writes met)
    {bytes : List UInt8} (origin : Origin cargo met rid cargo.packageVersion
      ⟨ensureGoSourceInCrate met.repo met.faults world.crate, world.files⟩ bytes) :
    (main cargo met world).1 = .ok () ∧
      (main cargo met world).2.files (libPath cargo (libArtifactName rid)) = some bytes := by
  rw [main_building cargo met building supported]
  exact runCopied_of_origin cargo writes origin

/-- **The script ends well with a library exactly where the library has an origin**: it is the staged one
if that is large enough, else the one `go` builds of the crate as the copy leaves it, else the one of the
release of the crate's own version. -/
theorem main_leaves_iff (world : World) (building : cargo.docsRs = false)
    (supported : targetRid cargo.targetOs cargo.targetArch = .ok rid) (writes : Writes met)
    (bytes : List UInt8) :
    ((main cargo met world).1 = .ok () ∧
        (main cargo met world).2.files (libPath cargo (libArtifactName rid)) = some bytes) ↔
      Origin cargo met rid cargo.packageVersion
        ⟨ensureGoSourceInCrate met.repo met.faults world.crate, world.files⟩ bytes := by
  refine ⟨?_, main_of_origin cargo met world building supported writes⟩
  rw [main_building cargo met building supported]
  rintro ⟨ok, there⟩
  obtain ⟨library, origin⟩ := exists_origin cargo writes ok
  obtain ⟨_, left⟩ := runCopied_of_origin cargo writes origin
  cases left.symm.trans there
  exact origin

/-- The script run again and again, each time with what it meets then. -/
def reruns (world : World) (runs : List Met) : World :=
  runs.foldl (fun world met => (main cargo met world).2) world

/-- What the script does to the crate is the copy of the source. -/
theorem reruns_crate (building : cargo.docsRs = false)
    (supported : targetRid cargo.targetOs cargo.targetArch = .ok rid) (runs : List Met) (world : World) :
    (reruns cargo world runs).crate =
      builds world.crate (runs.map fun met => (met.repo, met.faults)) := by
  induction runs generalizing world with
  | nil => rfl
  | cons met rest later =>
    show (reruns cargo (main cargo met world).2 rest).crate = _
    rw [later, main_building cargo met building supported]
    rfl

/-- **Whatever the script meets, run after run, no path of the crate's source is gone**, and the source
stays a tree. -/
theorem reruns_keep (supported : targetRid cargo.targetOs cargo.targetArch = .ok rid) (runs : List Met)
    (world : World) :
    (∀ path, world.crate path ≠ none → (reruns cargo world runs).crate path ≠ none) ∧
      (Rooted world.crate → Rooted (reruns cargo world runs).crate) := by
  by_cases building : cargo.docsRs = false
  · rw [reruns_crate cargo building supported]
    exact ⟨fun _ => builds_ne_none _, builds_rooted _⟩
  · have skipped : ∀ met world, (main cargo met world).2 = world := fun met world =>
      congrArg Prod.snd (if_pos (by simpa using building))
    have still : reruns cargo world runs = world := by
      induction runs with
      | nil => rfl
      | cons met rest later =>
        show reruns cargo (main cargo met world).2 rest = world
        rw [skipped, later]
    rw [still]
    exact ⟨fun _ => id, id⟩

/-- A build for Linux. -/
def linuxCargo : Cargo where
  docsRs := false
  targetOs := "linux"
  targetArch := "x86_64"
  outDir := ["work", "target", "debug", "build", "sys", "out"]
  manifestDir := ["work", "sys"]
  packageVersion := "0.6.0"

/-- A library that is just large enough. -/
def enoughBytes : List UInt8 := List.replicate minLibSizeBytes 0

/-- A machine whose `go` builds that library of any source, with nothing else to be had. -/
def goMet : Met where
  repo := none
  faults _ := none
  copyFaults _ := none
  envVersion := none
  go _ := .ran true (some enoughBytes)
  curl _ := .notRun
  tar _ := .notRun
  msvcLib _ := none
  opens := true

theorem goMet_writes : Writes goMet where
  go tree same := by cases same
  curl url same := by cases same

/-- The crate, in a clean checkout. -/
def cleanWorld : World := ⟨goModule.contents, fun _ => none⟩

theorem cleanWorld_origin :
    Origin linuxCargo goMet "linux-x64" "0.6.0" cleanWorld enoughBytes := by
  have enough : large (some enoughBytes) = true := by
    rw [large, enoughBytes, Option.map_some, List.length_replicate, fileSizeAtLeast]
    exact decide_eq_true (Nat.le_refl _)
  have noDef : ("linux" : String) ≠ "windows" := by decide
  exact .built rfl ⟨by decide, rfl, enough⟩ fun windows => absurd windows noDef

/-- There the script leaves what `go` wrote. -/
theorem main_leaves_built : (main linuxCargo goMet cleanWorld).1 = .ok () ∧
    (main linuxCargo goMet cleanWorld).2.files (libPath linuxCargo (libArtifactName "linux-x64")) =
      some enoughBytes := by
  have building : linuxCargo.docsRs = false := rfl
  have supported : targetRid linuxCargo.targetOs linuxCargo.targetArch = .ok "linux-x64" := rfl
  refine (main_leaves_iff linuxCargo goMet cleanWorld building supported goMet_writes _).mpr ?_
  exact cleanWorld_origin

/-- `OUT_DIR` and the target's directory hold no staged library. -/
structure Apart (rid : String) : Prop where
  outDir : ∀ name, ¬cargo.outDir <+: prebuildDir cargo rid ++ [name]
  target : cargo.outDir.take (cargo.outDir.length - 3) ≠ prebuildDir cargo rid

theorem Apart.targetPath_ne {cargo : Cargo} (apart : Apart cargo rid) (lib name : String) :
    prebuildDir cargo rid ++ [name] ≠ targetPath cargo lib := fun same =>
  apart.target (List.append_inj' same rfl).1.symm

/-- What is put over what it was put over already. -/
theorem or_again {A : Type} (first second third : Option A) :
    first.or (second.or (first.or (second.or third))) = first.or (second.or third) := by
  cases first with
  | none => cases second <;> rfl
  | some value => rfl

variable {cargo met}

/-- **What a run leaves has the same origin again.** -/
theorem Origin.again (writes : Writes met) (apart : Apart cargo rid) {version : String}
    {world : World} {bytes : List UInt8} (origin : Origin cargo met rid version world bytes) :
    Origin cargo met rid version
      ⟨world.crate, (runCopied cargo met rid (some version) world).2⟩ bytes := by
  have left := (runCopied_of_origin cargo writes origin).2
  have kept : ∀ name, (runCopied cargo met rid (some version) world).2
      (prebuildDir cargo rid ++ [name]) = world.files (prebuildDir cargo rid ++ [name]) := fun name =>
    runCopied_outside cargo writes (apart.outDir name) (apart.targetPath_ne _ name)
  cases origin with
  | staged there enough copied imports =>
    exact .staged ((kept _).trans there) enough copied
      ((congrArg (Imports cargo met) (kept _)).mpr imports)
  | built unstaged builds imports =>
    refine .built ((congrArg large (kept _)).trans unstaged) builds ?_
    dsimp only
    rw [runCopied_built cargo writes unstaged builds, deliver_def, attempted_def]
    have same := or_again none (defWrites cargo met (libArtifactName rid) world.crate)
      (world.files (cargo.outDir ++ ["spicedb.def"]))
    rw [Option.none_or, Option.none_or] at same
    rw [same]
    exact imports
  | @released zip wrote unstaged unbuilt valid fetches found enough imports =>
    obtain ⟨library, definition⟩ := unpacked_attempted cargo met rid world zip wrote
    refine .released ((congrArg large (kept _)).trans unstaged) unbuilt valid fetches ?_ enough ?_
    · dsimp only
      rw [left, ← found]
      exact or_again _ _ _
    · dsimp only
      rw [runCopied_released cargo writes unstaged unbuilt,
        release_fetched cargo valid fetches ((library.trans found).symm ▸ enough), deliver_def,
        definition, or_again]
      exact imports

/-- **A script that ended well, run once more, ends well again**, with the same library and the same source
in the crate, whatever OUT_DIR held and whichever way the library came. It meets the same again: the
commands answer as before, and the same errors stop the same copies. Runs that meet anything else leave
every path of the source in its place, and a tree a tree. -/
theorem main_again (world : World) (supported : targetRid cargo.targetOs cargo.targetArch = .ok rid)
    (writes : Writes met) (apart : Apart cargo rid) (ok : (main cargo met world).1 = .ok ()) :
    (main cargo met (main cargo met world).2).1 = .ok () ∧
      (main cargo met (main cargo met world).2).2.files (libPath cargo (libArtifactName rid)) =
        (main cargo met world).2.files (libPath cargo (libArtifactName rid)) ∧
      (main cargo met (main cargo met world).2).2.crate = (main cargo met world).2.crate ∧
      ∀ others : List Met,
        (∀ path, (main cargo met world).2.crate path ≠ none →
          (reruns cargo (main cargo met world).2 others).crate path ≠ none) ∧
        (Rooted world.crate → Rooted (reruns cargo (main cargo met world).2 others).crate) := by
  have once : Rooted world.crate → Rooted (main cargo met world).2.crate :=
    (reruns_keep cargo supported [met] world).2
  have onward (others : List Met) := reruns_keep cargo supported others (main cargo met world).2
  by_cases building : cargo.docsRs = false
  · simp only [main_building cargo met building supported] at ok once onward ⊢
    obtain ⟨bytes, origin⟩ := exists_origin cargo writes ok
    obtain ⟨_, left⟩ := runCopied_of_origin cargo writes origin
    have copied := ensureGoSourceInCrate_again met.repo met.faults world.crate
    simp only [run, copied] at ok once onward ⊢
    obtain ⟨again, same⟩ := runCopied_of_origin cargo writes (origin.again writes apart)
    exact ⟨again, same.trans left.symm, trivial, fun others =>
      ⟨(onward others).1, fun tree => (onward others).2 (once tree)⟩⟩
  · have skipped : ∀ other, main cargo met other = (.ok (), other) := fun other =>
      if_pos (by simpa using building)
    rw [skipped] at once onward ⊢
    rw [skipped]
    exact ⟨rfl, rfl, rfl, onward⟩

/-- After the build from source, again; the source is a tree. -/
theorem main_again_built :
    (main linuxCargo goMet (main linuxCargo goMet cleanWorld).2).1 = .ok () ∧
      (main linuxCargo goMet (main linuxCargo goMet cleanWorld).2).2.files
          (libPath linuxCargo (libArtifactName "linux-x64")) =
        (main linuxCargo goMet cleanWorld).2.files (libPath linuxCargo (libArtifactName "linux-x64")) ∧
      (main linuxCargo goMet (main linuxCargo goMet cleanWorld).2).2.crate =
        (main linuxCargo goMet cleanWorld).2.crate ∧
      Rooted (reruns linuxCargo (main linuxCargo goMet cleanWorld).2 [goMet]).crate := by
  have apart : Apart linuxCargo "linux-x64" := by
    refine ⟨fun name below => ?_, by decide⟩
    have second := (List.cons_prefix_cons.mp (List.cons_prefix_cons.mp below).2).1
    exact absurd second (by decide)
  have building : linuxCargo.docsRs = false := rfl
  have supported : targetRid linuxCargo.targetOs linuxCargo.targetArch = .ok "linux-x64" := rfl
  have ok : (main linuxCargo goMet cleanWorld).1 = .ok () :=
    (main_of_origin linuxCargo goMet cleanWorld building supported goMet_writes
      cleanWorld_origin).1
  obtain ⟨again, library, source, onward⟩ := main_again cleanWorld supported goMet_writes apart ok
  exact ⟨again, library, source, (onward [goMet]).2 (contents_rooted goModule)⟩

end Main

end SpicedbEmbedded.Build.Script
