/-
**The build script of the `-sys` crate.**

`main` of `build.rs` on the files of a machine. The library it leaves in `OUT_DIR` is a staged one, one
that `go` builds of the crate's own `shared/c`, or one out of a release archive; every way to end without
one is a panic. What `go`, `curl`, `tar` and `lib.exe` do is given, and what each writes goes to `OUT_DIR`.

* `main` — the script, with the checks it makes on the way.
* `deliver_spec` — when its end goes well, and what it then leaves in `OUT_DIR`.
* `tryBuildFromSource_spec`, `downloadFromRelease_ok_iff` — the same of a build from source and of a
  download; `_of_ne`, `_outside` — what each leaves alone.
-/

import SpicedbEmbedded.Build.Source

namespace SpicedbEmbedded.Build.Script

open Machine (Store)

/-! ### The machine -/

/-- The files of the machine, by absolute path. -/
abbrev Files : Type := Store Path (List UInt8)

/-- How a command ends, and what it leaves. -/
inductive Command (Wrote : Type)
  | notRun
  | ran (success : Bool) (wrote : Wrote)

/-- What the script works on: the crate's own `shared/c`, and all other files. -/
structure World where
  crate : Contents
  files : Files

/-- What Cargo sets. -/
structure Cargo where
  docsRs : Bool
  targetOs : String
  targetArch : String
  outDir : Path
  manifestDir : Path
  packageVersion : String

/-- What the script meets. -/
structure Met where
  /-- The repository's `shared/c`, if the crate is in a repository. -/
  repo : Option SourceTree
  /-- The errors of the file system while copying it. -/
  faults : Faults
  /-- The errors of the other copies, by where they are to. -/
  copyFaults : Path → Option Fault
  /-- `SPICEDB_EMBEDDED_RELEASE_VERSION` -/
  envVersion : Option String
  /-- `go build` on a tree, and the library it writes. -/
  go : Contents → Command (Option (List UInt8))
  /-- `curl` of a URL, and the file it writes. -/
  curl : String → Command (Option (List UInt8))
  /-- `tar` of an archive, and the files it writes, by their paths from `OUT_DIR`. -/
  tar : List UInt8 → Command Files
  /-- The import library that `lib.exe` makes of a `.def` file, if it is found and succeeds. -/
  msvcLib : List UInt8 → Option (List UInt8)
  /-- A downloaded file can be opened and read. -/
  opens : Bool

/-- The ways the script ends without a library. -/
inductive Panic
  | unsupportedTarget
  | notFoundAfterBuild
  | invalidVersion
  | curlNotRun
  | curlFailed
  | archiveNotFound
  | notGzip
  | tarNotRun
  | tarFailed
  | notExtracted
  | extractedTooSmall
  | notFoundAfterDownload
  | prebuildNotFound
  | expectedPrebuilt
  | copyPrebuild
  | tooSmall
  | importLib
  deriving DecidableEq

/-- A file is written, or not. -/
def put (files : Files) (path : Path) (wrote : Option (List UInt8)) : Files :=
  Function.update files path (wrote.or (files path))

/-- What was written below a directory goes over what was there. -/
def extract (files : Files) (dir : Path) (wrote : Files) : Files := fun path =>
  (if dir.isPrefixOf path then wrote (path.drop dir.length) else none).or (files path)

/-- What a copy with or without an error writes, and whether it succeeds. -/
def copies (fault : Option Fault) (bytes : List UInt8) : Bool × Option (List UInt8) :=
  match fault with
  | some .early => (false, none)
  | some (.late written) => (false, some (bytes.take written))
  | none => (true, some bytes)

/-- `fs::copy`, and whether it succeeds; a file that is copied onto itself is cut first. -/
def copyFile (copyFaults : Path → Option Fault) (src dest : Path) (files : Files) : Bool × Files :=
  match files src with
  | none => (false, files)
  | some bytes =>
    let copied := copies (copyFaults dest) (if src = dest then [] else bytes)
    (copied.1, put files dest copied.2)

/-- A file that is there with `MIN_LIB_SIZE_BYTES` or more. -/
def large (found : Option (List UInt8)) : Bool :=
  fileSizeAtLeast (found.map List.length) minLibSizeBytes

/-! ### The script -/

/-- `target_rid` -/
def targetRid (os arch : String) : Except Panic String :=
  match os, arch with
  | "linux", "x86_64" => .ok "linux-x64"
  | "linux", "aarch64" => .ok "linux-arm64"
  | "macos", "aarch64" => .ok "osx-arm64"
  | "windows", "x86_64" => .ok "win-x64"
  | _, _ => .error .unsupportedTarget

/-- The file name of `lib_artifact_name_and_path`. -/
def libArtifactName (rid : String) : String :=
  if "osx-".toList.isPrefixOf rid.toList then "libspicedb.dylib"
  else if "win-".toList.isPrefixOf rid.toList then "spicedb.dll"
  else "libspicedb.so"

/-- `validate_release_version` -/
def validReleaseVersion (version : String) : Bool :=
  !version.toList.isEmpty && version.toList.all fun c => c.isAlphanum || c = '.' || c = '-'

/-- The URL of `download_from_release`. -/
def releaseUrl (version rid : String) : String :=
  "https://github.com/borkfork/spicedb-embedded/releases/download/v" ++ version ++ "/libspicedb-" ++
    rid ++ ".tar.gz"

/-- The archive in `OUT_DIR`. -/
def archiveName : String := "libspicedb.tar.gz"

/-- A file that looks like a gzip archive. -/
def looksLikeGzip (bytes : List UInt8) : Bool := 100 ≤ bytes.length && bytes.take 2 == [0x1f, 0x8b]

section Script

variable (cargo : Cargo) (met : Met)

/-- The library in `OUT_DIR`. -/
def libPath (lib : String) : Path := cargo.outDir ++ [lib]

/-- The directory of a staged library. -/
def prebuildDir (rid : String) : Path := cargo.manifestDir ++ ["prebuilds", rid]

/-- What is copied of `spicedb.def` beside a library that was built; errors are ignored. -/
def defCopy (lib : String) (crate : Contents) : Option (List UInt8) :=
  match ".dll".toList.isSuffixOf lib.toList, crate ["spicedb.def"] with
  | true, some (.file bytes) => (copies (met.copyFaults (cargo.outDir ++ ["spicedb.def"])) bytes).2
  | _, _ => none

/-- `try_build_from_source` -/
def tryBuildFromSource (lib : String) (world : World) : Bool × Files :=
  if (world.crate goMod).isNone then (false, world.files)
  else
    match met.go world.crate with
    | .notRun => (false, world.files)
    | .ran false wrote => (false, put world.files (libPath cargo lib) wrote)
    | .ran true wrote =>
      let files := put (put world.files (libPath cargo lib) wrote) (cargo.outDir ++ ["spicedb.def"])
        (defCopy cargo met lib world.crate)
      (large (files (libPath cargo lib)), files)

/-- `download_from_release` -/
def downloadFromRelease (rid version : String) (files : Files) : Except Panic Unit × Files :=
  let archive := cargo.outDir ++ [archiveName]
  match met.curl (releaseUrl version rid) with
  | .notRun => (.error .curlNotRun, files)
  | .ran false wrote => (.error .curlFailed, put files archive wrote)
  | .ran true wrote =>
    let files := put files archive wrote
    match files archive with
    | none => (.error .archiveNotFound, files)
    | some bytes =>
      if met.opens && looksLikeGzip bytes then
        match met.tar bytes with
        | .notRun => (.error .tarNotRun, files)
        | .ran false wrote => (.error .tarFailed, extract files cargo.outDir wrote)
        | .ran true wrote =>
          let files := Function.update (extract files cargo.outDir wrote) archive none
          let library := files (libPath cargo (libArtifactName rid))
          if library.isNone then (.error .notExtracted, files)
          else if large library then (.ok (), files)
          else (.error .extractedTooSmall, files)
      else (.error .notGzip, Function.update files archive none)

/-- `generate_import_lib_windows` -/
def generateImportLibWindows (defDir : Path) (files : Files) : Except Panic Unit × Files :=
  match files (defDir ++ ["spicedb.def"]) with
  | none => (.ok (), files)
  | some bytes =>
    match met.msvcLib bytes with
    | none => (.error .importLib, files)
    | some made => (.ok (), put files (cargo.outDir ++ ["spicedb.lib"]) (some made))

/-- The library next to the target, three directories above `OUT_DIR`. -/
def targetPath (lib : String) : Path := cargo.outDir.take (cargo.outDir.length - 3) ++ [lib]

/-- `copy_lib_to_target`: its errors are ignored. -/
def copyLibToTarget (lib : String) (files : Files) : Files :=
  if 3 ≤ cargo.outDir.length then
    (copyFile met.copyFaults (libPath cargo lib) (targetPath cargo lib) files).2
  else files

/-- The copy of the library to `OUT_DIR`: a file that is there already is not copied onto itself. -/
def copyPrebuild (lib : String) (prebuild : Path) (files : Files) : Bool × Files :=
  if prebuild ≠ libPath cargo lib then copyFile met.copyFaults prebuild (libPath cargo lib) files
  else (true, files)

/-- The import library, for Windows. -/
def importLib (defDir : Path) (files : Files) : Except Panic Unit × Files :=
  if cargo.targetOs = "windows" then generateImportLibWindows cargo met defDir files else (.ok (), files)

/-- The end of `run`, once there is a library at `prebuild`. -/
def deliver (lib : String) (prebuild defDir : Path) (files : Files) : Except Panic Unit × Files :=
  if (files prebuild).isNone then (.error .expectedPrebuilt, files)
  else
    match copyPrebuild cargo met lib prebuild files with
    | (false, files) => (.error .copyPrebuild, files)
    | (true, files) =>
      if large (files (libPath cargo lib)) then
        match importLib cargo met defDir files with
        | (.error panic, files) => (.error panic, files)
        | (.ok (), files) => (.ok (), copyLibToTarget cargo met lib files)
      else (.error .tooSmall, files)

/-- The library of a release, where there is neither a staged one nor one built from source. -/
def release (rid : String) (releaseVersion : Option String) (files : Files) :
    Except Panic Unit × Files :=
  let lib := libArtifactName rid
  match releaseVersion.or met.envVersion with
  | none => (.error .prebuildNotFound, files)
  | some version =>
    if validReleaseVersion version then
      match downloadFromRelease cargo met rid version files with
      | (.error panic, files) => (.error panic, files)
      | (.ok (), files) =>
        if (files (libPath cargo lib)).isNone then (.error .notFoundAfterDownload, files)
        else deliver cargo met lib (libPath cargo lib) cargo.outDir files
    else (.error .invalidVersion, files)

/-- `run`, on the crate as `ensure_go_source_in_crate` leaves it. -/
def runCopied (rid : String) (releaseVersion : Option String) (world : World) :
    Except Panic Unit × Files :=
  let lib := libArtifactName rid
  let prebuildCrate := prebuildDir cargo rid ++ [lib]
  if large (world.files prebuildCrate) then
    deliver cargo met lib prebuildCrate (prebuildDir cargo rid) world.files
  else
    match tryBuildFromSource cargo met lib world with
    | (true, files) =>
      if (files (libPath cargo lib)).isNone then (.error .notFoundAfterBuild, files)
      else deliver cargo met lib (libPath cargo lib) cargo.outDir files
    | (false, files) => release cargo met rid releaseVersion files

/-- `run` -/
def run (rid : String) (releaseVersion : Option String) (world : World) :
    Except Panic Unit × World :=
  let crate := ensureGoSourceInCrate met.repo met.faults world.crate
  let ended := runCopied cargo met rid releaseVersion ⟨crate, world.files⟩
  (ended.1, ⟨crate, ended.2⟩)

/-- `main` -/
def main (world : World) : Except Panic Unit × World :=
  if cargo.docsRs then (.ok (), world)
  else
    match targetRid cargo.targetOs cargo.targetArch with
    | .error panic => (.error panic, world)
    | .ok rid => run cargo met rid (some cargo.packageVersion) world

end Script

/-! ### Where files are -/

section Files

variable {files : Files} {path other dir : Path} {wrote : Option (List UInt8)}

@[simp] theorem put_self : put files path wrote path = wrote.or (files path) :=
  Function.update_self _ _ _

theorem put_of_ne (differ : other ≠ path) : put files path wrote other = files other :=
  Function.update_of_ne differ _ _

theorem put_none : put files path none = files := Function.update_eq_self _ _

theorem extract_below (dir : Path) (written : Files) (inside : Path) :
    extract files dir written (dir ++ inside) = (written inside).or (files (dir ++ inside)) := by
  rw [extract, if_pos (List.isPrefixOf_iff_prefix.mpr (List.prefix_append dir inside)), List.drop_left]

theorem extract_outside {written : Files} (outside : ¬dir <+: path) :
    extract files dir written path = files path := by
  rw [extract, if_neg fun below => outside (List.isPrefixOf_iff_prefix.mp below), Option.none_or]

/-- A whole copy. -/
theorem copies_eq_true_iff {fault : Option Fault} {bytes : List UInt8} :
    (copies fault bytes).1 = true ↔ fault = none := by
  rcases fault with _ | _ | _
  · exact iff_of_true rfl rfl
  · exact iff_of_false Bool.false_ne_true nofun
  · exact iff_of_false Bool.false_ne_true nofun

/-- A copy writes where it is to, and nowhere else. -/
theorem copyFile_of_ne {copyFaults : Path → Option Fault} {src dest : Path} (differ : other ≠ dest) :
    (copyFile copyFaults src dest files).2 other = files other := by
  unfold copyFile
  cases files src with
  | none => rfl
  | some bytes => exact put_of_ne differ

/-- A copy to another place succeeds where there is a file and no error, and then the file is there. -/
theorem copyFile_apart (copyFaults : Path → Option Fault) {src dest : Path} (differ : src ≠ dest)
    {bytes : List UInt8} (there : files src = some bytes) :
    ((copyFile copyFaults src dest files).1 = true ↔ copyFaults dest = none) ∧
      (copyFaults dest = none → (copyFile copyFaults src dest files).2 dest = some bytes) := by
  unfold copyFile
  rw [there]
  dsimp only
  rw [if_neg differ]
  refine ⟨copies_eq_true_iff, fun clear => ?_⟩
  rw [clear, put_self]
  rfl

theorem error_ne_ok (panic : Panic) : (Except.error panic : Except Panic Unit) ≠ .ok () := by
  intro same
  cases same

/-- What is large is there. -/
theorem ne_none_of_large {found : Option (List UInt8)} (enough : large found = true) : found ≠ none := by
  rintro rfl
  cases enough

end Files

section Names

variable {cargo : Cargo}

theorem libArtifactName_cases (rid : String) :
    libArtifactName rid = "libspicedb.dylib" ∨ libArtifactName rid = "spicedb.dll" ∨
      libArtifactName rid = "libspicedb.so" := by
  unfold libArtifactName
  split
  · exact .inl rfl
  · split
    · exact .inr (.inl rfl)
    · exact .inr (.inr rfl)

/-- The library has a name of its own. -/
theorem libArtifactName_ne (rid : String) :
    libArtifactName rid ≠ "spicedb.def" ∧ libArtifactName rid ≠ "spicedb.lib" ∧
      libArtifactName rid ≠ archiveName := by
  rcases libArtifactName_cases rid with same | same | same <;> rw [same] <;> decide

/-- Paths that end differently are different. -/
theorem last_ne {dir elsewhere : Path} {name other : String} (differ : name ≠ other) :
    dir ++ [name] ≠ elsewhere ++ [other] := fun same =>
  differ (List.cons.inj (List.append_inj' same rfl).2).1

/-- The copy next to the target is not in `OUT_DIR`. -/
theorem targetPath_ne (deep : 3 ≤ cargo.outDir.length) (lib name : String) :
    cargo.outDir ++ [name] ≠ targetPath cargo lib := by
  intro same
  have sizes := congrArg List.length same
  rw [targetPath, List.length_append, List.length_append, List.length_take, List.length_singleton,
    List.length_singleton] at sizes
  omega

end Names

/-! ### The end of a run -/

section Deliver

variable (cargo : Cargo) (met : Met) {rid : String} {files : Files} {prebuild defDir : Path}

/-- Where an import library is needed, it can be made. -/
def Imports (definition : Option (List UInt8)) : Prop :=
  cargo.targetOs = "windows" → ∀ bytes ∈ definition, met.msvcLib bytes ≠ none

theorem copyLibToTarget_outDir (lib name : String) :
    copyLibToTarget cargo met lib files (cargo.outDir ++ [name]) = files (cargo.outDir ++ [name]) := by
  unfold copyLibToTarget
  split
  · next deep => exact copyFile_of_ne (targetPath_ne deep lib name)
  · rfl

theorem generateImportLibWindows_of_ne {path : Path}
    (differ : path ≠ cargo.outDir ++ ["spicedb.lib"]) :
    (generateImportLibWindows cargo met defDir files).2 path = files path := by
  unfold generateImportLibWindows
  split
  · rfl
  · split
    · rfl
    · exact put_of_ne differ

theorem generateImportLibWindows_ok_iff :
    (generateImportLibWindows cargo met defDir files).1 = .ok () ↔
      ∀ bytes ∈ files (defDir ++ ["spicedb.def"]), met.msvcLib bytes ≠ none := by
  unfold generateImportLibWindows
  rcases files (defDir ++ ["spicedb.def"]) with _ | bytes
  · exact iff_of_true rfl fun bytes there => by cases there
  · dsimp only
    cases made : met.msvcLib bytes with
    | none => exact iff_of_false (fun ok => by cases ok) fun all => all bytes rfl made
    | some library =>
      refine iff_of_true rfl ?_
      rintro _ ⟨⟩
      rw [made]
      exact Option.some_ne_none _

theorem importLib_of_ne {path : Path} (differ : path ≠ cargo.outDir ++ ["spicedb.lib"]) :
    (importLib cargo met defDir files).2 path = files path := by
  unfold importLib
  split
  · exact generateImportLibWindows_of_ne cargo met differ
  · rfl

theorem importLib_ok_iff :
    (importLib cargo met defDir files).1 = .ok () ↔
      Imports cargo met (files (defDir ++ ["spicedb.def"])) := by
  unfold importLib Imports
  split
  · next windows =>
    rw [generateImportLibWindows_ok_iff]
    exact ⟨fun all _ => all, fun all => all windows⟩
  · next other => exact iff_of_true rfl fun windows => absurd windows other

theorem copyPrebuild_of_ne {lib : String} {path : Path} (differ : path ≠ libPath cargo lib) :
    (copyPrebuild cargo met lib prebuild files).2 path = files path := by
  unfold copyPrebuild
  split
  · exact copyFile_of_ne differ
  · rfl

/-- The copy succeeds where the library is in `OUT_DIR` already, or without an error. -/
theorem copyPrebuild_iff (lib : String) {bytes : List UInt8} (there : files prebuild = some bytes) :
    ((copyPrebuild cargo met lib prebuild files).1 = true ↔
        prebuild = libPath cargo lib ∨ met.copyFaults (libPath cargo lib) = none) ∧
      ((copyPrebuild cargo met lib prebuild files).1 = true →
        (copyPrebuild cargo met lib prebuild files).2 (libPath cargo lib) = some bytes) := by
  unfold copyPrebuild
  by_cases same : prebuild = libPath cargo lib
  · rw [if_neg (not_not.mpr same)]
    exact ⟨iff_of_true rfl (.inl same), fun _ => same ▸ there⟩
  · rw [if_pos same]
    obtain ⟨succeeds, copied⟩ := copyFile_apart met.copyFaults same there
    exact ⟨succeeds.trans (or_iff_right same).symm, fun done => copied (succeeds.mp done)⟩

variable (files prebuild defDir) in
/-- **The end of a run goes well exactly where** there is a library, large enough, that can be copied to
`OUT_DIR`, and an import library can be made if it is needed; then the library is there. -/
theorem deliver_spec (rid : String) :
    ((deliver cargo met (libArtifactName rid) prebuild defDir files).1 = .ok () ↔
        large (files prebuild) = true ∧ (prebuild = libPath cargo (libArtifactName rid) ∨
          met.copyFaults (libPath cargo (libArtifactName rid)) = none) ∧
        Imports cargo met (files (defDir ++ ["spicedb.def"]))) ∧
      ((deliver cargo met (libArtifactName rid) prebuild defDir files).1 = .ok () →
        (deliver cargo met (libArtifactName rid) prebuild defDir files).2
          (libPath cargo (libArtifactName rid)) = files prebuild) := by
  obtain ⟨notDef, notLib, _⟩ := libArtifactName_ne rid
  unfold deliver
  cases there : files prebuild with
  | none =>
    refine ⟨iff_of_false (error_ne_ok _) fun all => ?_, fun ok => absurd ok (error_ne_ok _)⟩
    exact ne_none_of_large all.1 rfl
  | some bytes =>
    rw [if_neg (by simp)]
    obtain ⟨succeeds, copied⟩ := copyPrebuild_iff cargo met (libArtifactName rid) there
    have kept : (copyPrebuild cargo met (libArtifactName rid) prebuild files).2
        (defDir ++ ["spicedb.def"]) = files (defDir ++ ["spicedb.def"]) :=
      copyPrebuild_of_ne cargo met (last_ne notDef.symm)
    rcases ended : copyPrebuild cargo met (libArtifactName rid) prebuild files with ⟨_ | _, after⟩
    · rw [ended] at succeeds
      refine ⟨iff_of_false (error_ne_ok _) fun all => ?_, fun ok => absurd ok (error_ne_ok _)⟩
      exact Bool.false_ne_true (succeeds.mpr all.2.1)
    · rw [ended] at succeeds copied kept
      dsimp only at kept ⊢
      have library : after (libPath cargo (libArtifactName rid)) = some bytes := copied rfl
      rw [library]
      by_cases enough : large (some bytes) = true
      · rw [if_pos enough, and_iff_right enough, and_iff_right (succeeds.mp rfl), ← kept,
          ← importLib_ok_iff]
        have delivered : (importLib cargo met defDir after).2 (libPath cargo (libArtifactName rid)) =
            after (libPath cargo (libArtifactName rid)) :=
          importLib_of_ne cargo met (last_ne notLib)
        rcases imports : importLib cargo met defDir after with ⟨panic | _, imported⟩
        · exact ⟨Iff.rfl, fun ok => absurd ok (error_ne_ok _)⟩
        · rw [imports] at delivered
          refine ⟨Iff.rfl, fun _ => ?_⟩
          show copyLibToTarget cargo met _ imported (libPath cargo (libArtifactName rid)) = _
          rw [libPath, copyLibToTarget_outDir]
          exact delivered.trans library
      · rw [if_neg enough]
        exact ⟨iff_of_false (error_ne_ok _) fun all => enough all.1,
          fun ok => absurd ok (error_ne_ok _)⟩

/-- What the end of a run leaves elsewhere. -/
theorem deliver_of_ne {lib : String} {path : Path} (notLib : path ≠ libPath cargo lib)
    (notImport : path ≠ cargo.outDir ++ ["spicedb.lib"])
    (notTarget : 3 ≤ cargo.outDir.length → path ≠ targetPath cargo lib) :
    (deliver cargo met lib prebuild defDir files).2 path = files path := by
  have copied : (copyPrebuild cargo met lib prebuild files).2 path = files path :=
    copyPrebuild_of_ne cargo met notLib
  unfold deliver
  split
  · rfl
  · rcases ended : copyPrebuild cargo met lib prebuild files with ⟨_ | _, after⟩
    · rw [ended] at copied
      exact copied
    · rw [ended] at copied
      dsimp only at copied ⊢
      split
      · have made : (importLib cargo met defDir after).2 path = after path :=
          importLib_of_ne cargo met notImport
        rcases imports : importLib cargo met defDir after with ⟨panic | _, imported⟩
        · rw [imports] at made
          exact made.trans copied
        · rw [imports] at made
          show copyLibToTarget cargo met lib imported path = _
          unfold copyLibToTarget
          split
          · next deep => exact (copyFile_of_ne (notTarget deep)).trans (made.trans copied)
          · exact made.trans copied
      · exact copied

end Deliver

/-! ### A build from source -/

section Source

variable (cargo : Cargo) (met : Met)

/-- `go build -o` and `curl -o` that succeed have written the file they were told. -/
structure Writes : Prop where
  go : ∀ tree, met.go tree ≠ .ran true none
  curl : ∀ url, met.curl url ≠ .ran true none

/-- The crate's source is a module of which `go` builds a library that is large enough. -/
def Builds (crate : Contents) (bytes : List UInt8) : Prop :=
  crate goMod ≠ none ∧ met.go crate = .ran true (some bytes) ∧ large (some bytes) = true

/-- What an attempt at a build writes as the library. -/
def goWrites (crate : Contents) : Option (List UInt8) :=
  if (crate goMod).isNone then none
  else
    match met.go crate with
    | .notRun => none
    | .ran _ wrote => wrote

/-- What it writes as the `.def` file. -/
def defWrites (lib : String) (crate : Contents) : Option (List UInt8) :=
  if (crate goMod).isNone then none
  else
    match met.go crate with
    | .ran true _ => defCopy cargo met lib crate
    | _ => none

variable {met}

/-- **A build from source goes well exactly where `go` writes a library that is large enough**; whatever
comes of it, it writes the library and the `.def` file and nothing else. -/
theorem tryBuildFromSource_spec (writes : Writes met) (rid : String) (world : World) :
    ((tryBuildFromSource cargo met (libArtifactName rid) world).1 = true ↔
        ∃ bytes, Builds met world.crate bytes) ∧
      (tryBuildFromSource cargo met (libArtifactName rid) world).2 =
        put (put world.files (libPath cargo (libArtifactName rid)) (goWrites met world.crate))
          (cargo.outDir ++ ["spicedb.def"])
          (defWrites cargo met (libArtifactName rid) world.crate) := by
  obtain ⟨notDef, _, _⟩ := libArtifactName_ne rid
  by_cases missing : (world.crate goMod).isNone = true
  · have nothing : goWrites met world.crate = none := if_pos missing
    have noDef : defWrites cargo met (libArtifactName rid) world.crate = none := if_pos missing
    rw [nothing, noDef, put_none, put_none, tryBuildFromSource, if_pos missing]
    refine ⟨iff_of_false Bool.false_ne_true ?_, rfl⟩
    rintro ⟨bytes, isModule, _⟩
    exact isModule (Option.isNone_iff_eq_none.mp missing)
  have isModule : world.crate goMod ≠ none := fun none => missing (Option.isNone_iff_eq_none.mpr none)
  rw [tryBuildFromSource, goWrites, if_neg missing, if_neg missing]
  cases ran : met.go world.crate with
  | notRun =>
    have noDef : defWrites cargo met (libArtifactName rid) world.crate = none := by
      rw [defWrites, if_neg missing, ran]
    rw [noDef, put_none, put_none]
    refine ⟨iff_of_false Bool.false_ne_true ?_, rfl⟩
    rintro ⟨bytes, _, built, _⟩
    cases ran.symm.trans built
  | ran success wrote =>
    cases success with
    | false =>
      have noDef : defWrites cargo met (libArtifactName rid) world.crate = none := by
        rw [defWrites, if_neg missing, ran]
      rw [noDef, put_none]
      refine ⟨iff_of_false Bool.false_ne_true ?_, rfl⟩
      rintro ⟨bytes, _, built, _⟩
      cases ran.symm.trans built
    | true =>
      have withDef : defWrites cargo met (libArtifactName rid) world.crate =
          defCopy cargo met (libArtifactName rid) world.crate := by
        rw [defWrites, if_neg missing, ran]
      rw [withDef]
      refine ⟨?_, rfl⟩
      cases wrote with
      | none => exact absurd ran (writes.go _)
      | some bytes =>
        dsimp only
        rw [libPath, put_of_ne (last_ne notDef), put_self, Option.some_or]
        constructor
        · exact fun enough => ⟨bytes, isModule, ran, enough⟩
        · rintro ⟨other, _, built, enough⟩
          cases ran.symm.trans built
          exact enough

end Source

/-! ### A release -/

section Release

variable (cargo : Cargo) (met : Met)

/-- The archive of a release is fetched, and what `tar` takes out of it. -/
structure Fetches (rid version : String) (zip : List UInt8) (wrote : Files) : Prop where
  curl : met.curl (releaseUrl version rid) = .ran true (some zip)
  opens : met.opens = true
  gzip : looksLikeGzip zip = true
  tar : met.tar zip = .ran true wrote

variable {met} {rid version : String} {files : Files}

/-- The files after an archive is taken apart and removed. -/
def unpacked (zip : List UInt8) (wrote : Files) (files : Files) : Files :=
  Function.update (extract (put files (cargo.outDir ++ [archiveName]) (some zip)) cargo.outDir wrote)
    (cargo.outDir ++ [archiveName]) none

/-- What the archive does not hold stays. -/
theorem unpacked_apply (zip : List UInt8) (wrote : Files) {name : String} (other : name ≠ archiveName) :
    unpacked cargo zip wrote files (cargo.outDir ++ [name]) =
      (wrote [name]).or (files (cargo.outDir ++ [name])) := by
  rw [unpacked, Function.update_of_ne (last_ne other), extract_below, put_of_ne (last_ne other)]

theorem downloadFromRelease_fetched {zip : List UInt8} {wrote : Files}
    (fetches : Fetches met rid version zip wrote) :
    downloadFromRelease cargo met rid version files =
      if (unpacked cargo zip wrote files (libPath cargo (libArtifactName rid))).isNone then
        (.error .notExtracted, unpacked cargo zip wrote files)
      else if large (unpacked cargo zip wrote files (libPath cargo (libArtifactName rid))) then
        (.ok (), unpacked cargo zip wrote files)
      else (.error .extractedTooSmall, unpacked cargo zip wrote files) := by
  have reads : (met.opens && looksLikeGzip zip) = true := by rw [fetches.opens, fetches.gzip]; rfl
  rw [downloadFromRelease, fetches.curl]
  dsimp only
  rw [put_self, Option.some_or]
  dsimp only
  rw [if_pos reads, fetches.tar]
  rfl

/-- A download without an archive panics. -/
theorem downloadFromRelease_unfetched (writes : Writes met)
    (unfetched : ∀ zip wrote, ¬Fetches met rid version zip wrote) :
    (downloadFromRelease cargo met rid version files).1 ≠ .ok () := by
  rw [downloadFromRelease]
  cases got : met.curl (releaseUrl version rid) with
  | notRun => exact error_ne_ok _
  | ran success wrote =>
    cases success with
    | false => exact error_ne_ok _
    | true =>
      cases wrote with
      | none => exact absurd got (writes.curl _)
      | some zip =>
        dsimp only
        rw [put_self, Option.some_or]
        dsimp only
        split
        · next reads =>
          obtain ⟨opens, gzip⟩ := Bool.and_eq_true_iff.mp reads
          cases taken : met.tar zip with
          | notRun => exact error_ne_ok _
          | ran success wrote =>
            cases success with
            | false => exact error_ne_ok _
            | true => exact absurd ⟨got, opens, gzip, taken⟩ (unfetched zip wrote)
        · exact error_ne_ok _

/-- **A download goes well exactly where** an archive is fetched after which there is a library that is
large enough. -/
theorem downloadFromRelease_ok_iff (writes : Writes met) :
    (downloadFromRelease cargo met rid version files).1 = .ok () ↔
      ∃ zip wrote, Fetches met rid version zip wrote ∧
        large (unpacked cargo zip wrote files (libPath cargo (libArtifactName rid))) = true := by
  by_cases fetched : ∃ zip wrote, Fetches met rid version zip wrote
  · obtain ⟨zip, wrote, fetches⟩ := fetched
    have only : ∀ {other taken}, Fetches met rid version other taken → other = zip ∧ taken = wrote := by
      rintro other taken ⟨got, _, _, took⟩
      cases got.symm.trans fetches.curl
      cases took.symm.trans fetches.tar
      exact ⟨rfl, rfl⟩
    rw [downloadFromRelease_fetched cargo fetches]
    by_cases enough : large (unpacked cargo zip wrote files (libPath cargo (libArtifactName rid))) = true
    · have there := ne_none_of_large enough
      rw [if_neg fun missing => there (Option.isNone_iff_eq_none.mp missing), if_pos enough]
      exact iff_of_true rfl ⟨zip, wrote, fetches, enough⟩
    · refine iff_of_false ?_ ?_
      · rw [if_neg enough]
        split <;> exact error_ne_ok _
      · rintro ⟨other, taken, again, whole⟩
        obtain ⟨rfl, rfl⟩ := only again
        exact enough whole
  · refine iff_of_false (downloadFromRelease_unfetched cargo writes fun zip wrote fetches =>
      fetched ⟨zip, wrote, fetches⟩) ?_
    rintro ⟨zip, wrote, fetches, _⟩
    exact fetched ⟨zip, wrote, fetches⟩

/-- Whatever comes of a download, it stays in `OUT_DIR`. -/
theorem downloadFromRelease_outside {path : Path} (outside : ¬cargo.outDir <+: path) :
    (downloadFromRelease cargo met rid version files).2 path = files path := by
  have apart : path ≠ cargo.outDir ++ [archiveName] := by
    rintro rfl
    exact outside (List.prefix_append _ _)
  have fetched : ∀ wrote, put files (cargo.outDir ++ [archiveName]) wrote path = files path :=
    fun wrote => put_of_ne apart
  have taken : ∀ wrote written, extract (put files (cargo.outDir ++ [archiveName]) wrote)
      cargo.outDir written path = files path := fun wrote written =>
    (extract_outside outside).trans (fetched wrote)
  unfold downloadFromRelease
  dsimp only
  split
  · rfl
  · exact fetched _
  · split
    · exact fetched _
    · split
      · split
        · exact fetched _
        · exact taken _ _
        · split_ifs <;> exact (Function.update_of_ne apart _ _).trans (taken _ _)
      · exact (Function.update_of_ne apart _ _).trans (fetched _)

end Release

end SpicedbEmbedded.Build.Script
