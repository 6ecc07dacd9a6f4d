/-
**The recursive copy of a directory.**

What `copy_dir_recursive` does to the files at its destination. A directory is given by what `read_dir`
lists of it, in that order; paths start below the copied directory, so a path at the source and the path
it is copied to are the same. Every call on the file system may fail: `Faults` says which do, and what a
failing copy has written by then.

* `copyDirRecursive` — the copy itself: on the first error it stops, and it removes nothing.
* **`copyDirRecursive_eq_follow`** — it follows the `plan` of its calls.
* `plan_apart`, `contents_iff` — the calls of a plan write to different places, and what they are to
  write is the content of the copied tree.
* **`copyDirRecursive_clean`** — to an empty place, without errors, the copy gives the tree.
* `copyDirRecursive_rooted` — whatever fails, what is left over a tree is a tree, so a directory is
  always made in one that is there.
-/

import SpicedbEmbedded.Machine.Plan

namespace SpicedbEmbedded.Build

open Machine (Store Doing Actions outcome)

/-! ### Trees of files -/

/-- A path below the copied directory, by its components; the directory itself is at `[]`. -/
abbrev Path : Type := List String

/-- What is at a path: a file with its bytes, or a directory. -/
inductive Entry
  | file (bytes : List UInt8)
  | dir
  deriving DecidableEq

/-- What is at each path. -/
abbrev Contents : Type := Store Path Entry

/-- What `read_dir` lists of a directory, in its order. -/
inductive Listing
  | nil
  | file (name : String) (bytes : List UInt8) (rest : Listing)
  | dir (name : String) (inner rest : Listing)

namespace Listing

/-- The names in a directory. -/
def names : Listing → List String
  | nil => []
  | file name _ rest => name :: rest.names
  | dir name _ rest => name :: rest.names

/-- No directory has a name twice. -/
def Distinct : Listing → Prop
  | nil => True
  | file name _ rest => name ∉ rest.names ∧ rest.Distinct
  | dir name inner rest => name ∉ rest.names ∧ inner.Distinct ∧ rest.Distinct

instance decidableDistinct : (entries : Listing) → Decidable entries.Distinct
  | nil => .isTrue trivial
  | file name _ rest =>
    haveI := decidableDistinct rest
    inferInstanceAs (Decidable (name ∉ rest.names ∧ rest.Distinct))
  | dir name inner rest =>
    haveI := decidableDistinct inner
    haveI := decidableDistinct rest
    inferInstanceAs (Decidable (name ∉ rest.names ∧ inner.Distinct ∧ rest.Distinct))

/-- What is at a path below a directory. -/
def find : Listing → Path → Option Entry
  | _, [] => none
  | nil, _ :: _ => none
  | file name bytes rest, first :: inside =>
    if first = name then (if inside = [] then some (.file bytes) else none)
    else rest.find (first :: inside)
  | dir name inner rest, first :: inside =>
    if first = name then (if inside = [] then some .dir else inner.find inside)
    else rest.find (first :: inside)

end Listing

/-- A directory tree. -/
structure SourceTree where
  entries : Listing
  distinct : entries.Distinct

/-- What is at each path of a tree. -/
def SourceTree.contents (tree : SourceTree) : Contents
  | [] => some .dir
  | first :: inside => tree.entries.find (first :: inside)

/-! ### The calls -/

/-- The calls on the file system. -/
inductive Step
  | createDirAll (dest : Path)
  | readDir (src : Path)
  | entry (src : Path)
  | fileType (src : Path)
  | copy (path : Path) (bytes : List UInt8)
  | finish (src : Path)
  deriving DecidableEq

/-- An error: before anything was changed, or after so many bytes of a file were written. -/
inductive Fault
  | early
  | late (written : Nat)

/-- The errors the file system gives, and to which calls. -/
abbrev Faults : Type := Step → Option Fault

/-- What a call is to leave, and where. -/
def Step.target : Step → Option (Path × Entry)
  | createDirAll dest => some (dest, .dir)
  | copy path bytes => some (path, .file bytes)
  | _ => none

/-- `create_dir_all` in a directory: a directory that is there is kept, a file is in the way. -/
def makeDir (fault : Option Fault) (found : Option Entry) : Bool × Option Entry :=
  match fault, found with
  | some _, _ => (false, found)
  | none, some (.file _) => (false, found)
  | none, _ => (true, some .dir)

/-- `fs::copy`: a file that is there is cut and written again, a directory is in the way. -/
def writeFile (bytes : List UInt8) (fault : Option Fault) (found : Option Entry) :
    Bool × Option Entry :=
  match fault, found with
  | some .early, _ => (false, found)
  | _, some .dir => (false, found)
  | some (.late written), _ => (false, some (.file (bytes.take written)))
  | none, _ => (true, some (.file bytes))

/-- A call, given what is at its place. -/
def Step.attempt (faults : Faults) (step : Step) (found : Option Entry) : Bool × Option Entry :=
  match step with
  | createDirAll _ => makeDir (faults step) found
  | copy _ bytes => writeFile bytes (faults step) found
  | _ => ((faults step).isNone, found)

/-- Only making a directory and copying a file write. -/
theorem Step.target_cases {step : Step} {path : Path} {entry : Entry}
    (writes : step.target = some (path, entry)) :
    (step = .createDirAll path ∧ entry = .dir) ∨
      ∃ bytes, step = .copy path bytes ∧ entry = .file bytes := by
  cases step with
  | createDirAll dest =>
    cases writes
    exact .inl ⟨rfl, rfl⟩
  | copy dest bytes =>
    cases writes
    exact .inr ⟨bytes, rfl, rfl⟩
  | readDir src => cases writes
  | entry src => cases writes
  | fileType src => cases writes
  | finish src => cases writes

/-- A call that writes nothing leaves what it finds, and fails only on an error. -/
theorem attempt_of_target_none {faults : Faults} {step : Step} (writes : step.target = none)
    (found : Option Entry) : step.attempt faults found = ((faults step).isNone, found) := by
  cases step with
  | createDirAll dest => cases writes
  | copy path bytes => cases writes
  | readDir src => rfl
  | entry src => rfl
  | fileType src => rfl
  | finish src => rfl

theorem makeDir_sets {fault : Option Fault} {found : Option Entry}
    (made : (makeDir fault found).1 = true) : (makeDir fault found).2 = some .dir := by
  unfold makeDir at *
  split at made
  · cases made
  · cases made
  · rfl

theorem writeFile_sets {bytes : List UInt8} {fault : Option Fault} {found : Option Entry}
    (made : (writeFile bytes fault found).1 = true) :
    (writeFile bytes fault found).2 = some (.file bytes) := by
  unfold writeFile at *
  split at made
  · cases made
  · cases made
  · cases made
  · rfl

/-- The calls, where the file system gives these errors. -/
def calls (faults : Faults) : Actions Step Path Entry where
  target := Step.target
  attempt := Step.attempt faults
  sets := by
    intro step path entry found writes made
    obtain ⟨rfl, rfl⟩ | ⟨bytes, rfl, rfl⟩ := Step.target_cases writes
    · exact makeDir_sets made
    · exact writeFile_sets made

/-- No call removes what it finds. -/
theorem attempt_ne_none {faults : Faults} {step : Step} {found : Option Entry}
    (there : found ≠ none) : (step.attempt faults found).2 ≠ none := by
  cases writes : step.target with
  | none =>
    rw [attempt_of_target_none writes]
    exact there
  | some target =>
    obtain ⟨rfl, _⟩ | ⟨bytes, rfl, _⟩ := Step.target_cases writes
    · simp only [Step.attempt, makeDir]
      split
      · exact there
      · exact there
      · exact Option.some_ne_none _
    · simp only [Step.attempt, writeFile]
      split
      · exact there
      · exact Option.some_ne_none _
      · exact Option.some_ne_none _
      · exact Option.some_ne_none _

/-- No call changes a directory that is there. -/
theorem attempt_dir (faults : Faults) (step : Step) :
    (step.attempt faults (some .dir)).2 = some .dir := by
  cases writes : step.target with
  | none => rw [attempt_of_target_none writes]
  | some target =>
    obtain ⟨rfl, _⟩ | ⟨bytes, rfl, _⟩ := Step.target_cases writes
    · simp only [Step.attempt]
      rcases faults (.createDirAll target.1) with _ | _ <;> rfl
    · simp only [Step.attempt]
      rcases faults (.copy target.1 bytes) with _ | _ | _ <;> rfl

/-- A file cut short holds what was written of it. -/
theorem writeFile_late (bytes : List UInt8) (written : Nat) {found : Option Entry}
    (clear : found ≠ some .dir) :
    (writeFile bytes (some (.late written)) found).2 = some (.file (bytes.take written)) := by
  rcases found with _ | _ | _
  · rfl
  · rfl
  · exact absurd rfl clear

/-- A call that is given no error changes nothing where it fails. -/
theorem attempt_of_failed {step : Step} {found : Option Entry}
    (failed : (step.attempt (fun _ => none) found).1 = false) :
    (step.attempt (fun _ => none) found).2 = found := by
  cases writes : step.target with
  | none => rw [attempt_of_target_none writes]
  | some target =>
    obtain ⟨rfl, _⟩ | ⟨bytes, rfl, _⟩ := Step.target_cases writes
    · rcases found with _ | _ | _
      · cases failed
      · rfl
      · cases failed
    · rcases found with _ | _ | _
      · cases failed
      · cases failed
      · rfl

/-- Given no error, a call fails only where the other kind is in the way. -/
theorem attempt_passes_iff {step : Step} {path : Path} {entry : Entry} {found : Option Entry}
    (writes : step.target = some (path, entry)) :
    (step.attempt (fun _ => none) found).1 = true ↔
      found ≠ none → (found = some .dir ↔ entry = .dir) := by
  obtain ⟨rfl, rfl⟩ | ⟨bytes, rfl, rfl⟩ := Step.target_cases writes
  · rcases found with _ | _ | _ <;> simp [Step.attempt, makeDir]
  · rcases found with _ | _ | _ <;> simp [Step.attempt, writeFile]

/-! ### The copy -/

section Copy

variable (faults : Faults)

/-- A call on the file system. -/
def perform (step : Step) : Doing Step Path Entry Unit := (calls faults).take step

/-- The loop of `copy_dir_recursive` over what is listed of a directory. -/
def copyEntries (here : Path) : Listing → Doing Step Path Entry Unit
  | .nil => perform faults (.finish here)
  | .file name bytes rest => do
    perform faults (.entry (here ++ [name]))
    perform faults (.fileType (here ++ [name]))
    perform faults (.copy (here ++ [name]) bytes)
    copyEntries here rest
  | .dir name inner rest => do
    perform faults (.entry (here ++ [name]))
    perform faults (.fileType (here ++ [name]))
    -- `copy_dir_recursive(&src_path, &dest_path)`; see `copyEntries_dir`.
    perform faults (.createDirAll (here ++ [name]))
    perform faults (.readDir (here ++ [name]))
    copyEntries (here ++ [name]) inner
    copyEntries here rest

/-- `copy_dir_recursive` -/
def copyDirRecursive (here : Path) (entries : Listing) : Doing Step Path Entry Unit := do
  perform faults (.createDirAll here)
  perform faults (.readDir here)
  copyEntries faults here entries

/-- A directory in a directory is copied by a call of the function itself. -/
theorem copyEntries_dir (here : Path) (name : String) (inner rest : Listing) :
    copyEntries faults here (.dir name inner rest) = (do
      perform faults (.entry (here ++ [name]))
      perform faults (.fileType (here ++ [name]))
      copyDirRecursive faults (here ++ [name]) inner
      copyEntries faults here rest) := by
  simp only [copyEntries, copyDirRecursive, bind_assoc]

/-! ### The calls as a plan -/

/-- The calls of the loop, when none fails. -/
def entriesPlan (here : Path) : Listing → List Step
  | .nil => [.finish here]
  | .file name bytes rest =>
    .entry (here ++ [name]) :: .fileType (here ++ [name]) :: .copy (here ++ [name]) bytes ::
      entriesPlan here rest
  | .dir name inner rest =>
    .entry (here ++ [name]) :: .fileType (here ++ [name]) ::
      .createDirAll (here ++ [name]) :: .readDir (here ++ [name]) ::
        (entriesPlan (here ++ [name]) inner ++ entriesPlan here rest)

/-- The calls of a copy, when none fails. -/
def plan (here : Path) (entries : Listing) : List Step :=
  .createDirAll here :: .readDir here :: entriesPlan here entries

theorem copyEntries_eq_follow (here : Path) (entries : Listing) :
    copyEntries faults here entries = (calls faults).follow (entriesPlan here entries) := by
  induction entries generalizing here with
  | nil =>
    rw [entriesPlan, Actions.follow_cons]
    exact bind_pure_unit.symm
  | file name bytes rest ih =>
    simp only [copyEntries, entriesPlan, Actions.follow_cons, perform, ih here]
  | dir name inner rest innerIh restIh =>
    rw [copyEntries_dir, copyDirRecursive, entriesPlan, innerIh, restIh]
    simp only [Actions.follow_cons, Actions.follow_append, perform, bind_assoc]

/-- **The recursion follows its plan.** -/
theorem copyDirRecursive_eq_follow (here : Path) (entries : Listing) :
    copyDirRecursive faults here entries = (calls faults).follow (plan here entries) := by
  simp only [copyDirRecursive, plan, Actions.follow_cons, perform, copyEntries_eq_follow]

end Copy

/-! ### What a plan writes -/

section Plan

variable {faults : Faults} {here path : Path} {entry : Entry}

/-- The loop writes below its directory, to the names listed there. -/
theorem below_of_mem_entriesPlan {entries : Listing} {step : Step}
    (inside : step ∈ entriesPlan here entries) (writes : step.target = some (path, entry)) :
    ∃ first ∈ entries.names, ∃ rest, path = here ++ first :: rest := by
  induction entries generalizing here with
  | nil =>
    rcases List.mem_singleton.mp inside with rfl
    cases writes
  | file name bytes rest ih =>
    simp only [entriesPlan, List.mem_cons] at inside
    rcases inside with rfl | rfl | rfl | later
    · cases writes
    · cases writes
    · cases writes
      exact ⟨name, List.mem_cons_self, [], rfl⟩
    · obtain ⟨first, listed, below⟩ := ih later
      exact ⟨first, List.mem_cons_of_mem _ listed, below⟩
  | dir name inner rest innerIh restIh =>
    simp only [entriesPlan, List.mem_cons, List.mem_append] at inside
    rcases inside with rfl | rfl | rfl | rfl | deeper | later
    · cases writes
    · cases writes
    · cases writes
      exact ⟨name, List.mem_cons_self, [], rfl⟩
    · cases writes
    · obtain ⟨first, _, below, rfl⟩ := innerIh deeper
      exact ⟨name, List.mem_cons_self, first :: below, by rw [List.append_assoc]; rfl⟩
    · obtain ⟨first, listed, below⟩ := restIh later
      exact ⟨first, List.mem_cons_of_mem _ listed, below⟩

theorem exists_mem_entriesPlan_file {name : String} {bytes : List UInt8} {rest : Listing} :
    (∃ step ∈ entriesPlan here (.file name bytes rest), step.target = some (path, entry)) ↔
      (here ++ [name] = path ∧ .file bytes = entry) ∨
        ∃ step ∈ entriesPlan here rest, step.target = some (path, entry) := by
  simp [entriesPlan, Step.target]

theorem exists_mem_entriesPlan_dir {name : String} {inner rest : Listing} :
    (∃ step ∈ entriesPlan here (.dir name inner rest), step.target = some (path, entry)) ↔
      (here ++ [name] = path ∧ .dir = entry) ∨
        (∃ step ∈ entriesPlan (here ++ [name]) inner, step.target = some (path, entry)) ∨
          ∃ step ∈ entriesPlan here rest, step.target = some (path, entry) := by
  simp [entriesPlan, Step.target, or_and_right, exists_or]

theorem not_writes_here {entries : Listing} :
    ¬∃ step ∈ entriesPlan here entries, step.target = some (here, entry) := by
  rintro ⟨step, inside, writes⟩
  obtain ⟨first, _, rest, same⟩ := below_of_mem_entriesPlan inside writes
  exact List.cons_ne_nil first rest (List.self_eq_append_right.mp same)

theorem not_writes_other {entries : Listing} {first : String} (unlisted : first ∉ entries.names)
    (below : Path) :
    ¬∃ step ∈ entriesPlan here entries, step.target = some (here ++ first :: below, entry) := by
  rintro ⟨step, inside, writes⟩
  obtain ⟨name, listed, rest, same⟩ := below_of_mem_entriesPlan inside writes
  obtain ⟨rfl, _⟩ := List.cons.inj (List.append_cancel_left same)
  exact unlisted listed

theorem not_writes_beside {inner : Listing} {name first : String} (beside : first ≠ name)
    (below : Path) :
    ¬∃ step ∈ entriesPlan (here ++ [name]) inner,
      step.target = some (here ++ first :: below, entry) := by
  rintro ⟨step, inside, writes⟩
  obtain ⟨next, _, rest, same⟩ := below_of_mem_entriesPlan inside writes
  rw [List.append_assoc] at same
  exact beside (List.cons.inj (List.append_cancel_left same)).1

/-- **The calls of the loop are to write what is in the directory.** -/
theorem find_iff {entries : Listing} (distinct : entries.Distinct) {first : String} {below : Path} :
    entries.find (first :: below) = some entry ↔
      ∃ step ∈ entriesPlan here entries, step.target = some (here ++ first :: below, entry) := by
  induction entries generalizing here first below with
  | nil =>
    constructor
    · intro found
      cases found
    · intro written
      exact absurd written (not_writes_other List.not_mem_nil below)
  | file name bytes rest ih =>
    rw [exists_mem_entriesPlan_file, Listing.find]
    by_cases same : first = name
    · subst same
      have clear : ¬∃ step ∈ entriesPlan here rest,
          step.target = some (here ++ first :: below, entry) := not_writes_other distinct.1 below
      rw [if_pos rfl, or_iff_left clear, List.append_right_inj]
      by_cases last : below = []
      · simp [last]
      · simp [last, Ne.symm last]
    · have beside : here ++ [name] ≠ here ++ first :: below := fun named =>
        same (List.cons.inj (List.append_cancel_left named)).1.symm
      rw [if_neg same, ih distinct.2, or_iff_right fun written => beside written.1]
  | dir name inner rest innerIh restIh =>
    rw [exists_mem_entriesPlan_dir, Listing.find]
    by_cases same : first = name
    · subst same
      have clear : ¬∃ step ∈ entriesPlan here rest,
          step.target = some (here ++ first :: below, entry) := not_writes_other distinct.1 below
      rw [if_pos rfl, or_iff_left clear]
      cases below with
      | nil =>
        have notInner : ¬∃ step ∈ entriesPlan (here ++ [first]) inner,
            step.target = some (here ++ [first], entry) := not_writes_here
        rw [or_iff_left notInner]
        simp
      | cons next deeper =>
        have further : inner.find (next :: deeper) = some entry ↔
            ∃ step ∈ entriesPlan (here ++ [first]) inner,
              step.target = some (here ++ [first] ++ next :: deeper, entry) := innerIh distinct.2.1
        rw [List.append_assoc] at further
        simpa using further
    · have beside : here ++ [name] ≠ here ++ first :: below := fun named =>
        same (List.cons.inj (List.append_cancel_left named)).1.symm
      rw [if_neg same, restIh distinct.2.2, or_iff_right fun written => beside written.1,
        or_iff_right (not_writes_beside same below)]

/-- **The calls of a copy are to write the tree.** -/
theorem contents_iff (tree : SourceTree) (path : Path) (entry : Entry) :
    tree.contents path = some entry ↔
      ∃ step ∈ plan [] tree.entries, step.target = some (path, entry) := by
  have calls : (∃ step ∈ plan [] tree.entries, step.target = some (path, entry)) ↔
      ([] = path ∧ .dir = entry) ∨
        ∃ step ∈ entriesPlan [] tree.entries, step.target = some (path, entry) := by
    simp [plan, Step.target]
  rw [calls]
  cases path with
  | nil =>
    rw [or_iff_left not_writes_here]
    simp [SourceTree.contents]
  | cons first below =>
    rw [SourceTree.contents, or_iff_right fun root => List.cons_ne_nil first below root.1.symm]
    exact find_iff tree.distinct

theorem apart_of_target_none {first second : Step} (writes : first.target = none) :
    (calls faults).Apart first second := by
  intro key own
  obtain ⟨value, target⟩ := Actions.exists_target_of_place own
  cases writes.symm.trans target

theorem apart_of_not_writes {first : Step} {steps : List Step}
    (writes : first.target = some (path, entry))
    (clear : ∀ other, ¬∃ step ∈ steps, step.target = some (path, other)) :
    ∀ second ∈ steps, (calls faults).Apart first second := by
  intro second inside key own taken
  obtain ⟨_, mine⟩ := Actions.exists_target_of_place own
  obtain ⟨other, target⟩ := Actions.exists_target_of_place taken
  cases writes.symm.trans mine
  exact clear other ⟨second, inside, target⟩

theorem entriesPlan_apart {entries : Listing} (distinct : entries.Distinct) :
    (entriesPlan here entries).Pairwise (calls faults).Apart := by
  induction entries generalizing here with
  | nil => exact List.pairwise_singleton _ _
  | file name bytes rest ih =>
    refine .cons (fun _ _ => apart_of_target_none rfl)
      (.cons (fun _ _ => apart_of_target_none rfl) (.cons ?_ (ih distinct.2)))
    exact apart_of_not_writes rfl fun other => not_writes_other distinct.1 []
  | dir name inner rest innerIh restIh =>
    refine .cons (fun _ _ => apart_of_target_none rfl)
      (.cons (fun _ _ => apart_of_target_none rfl)
        (.cons ?_ (.cons (fun _ _ => apart_of_target_none rfl) ?_)))
    · refine apart_of_not_writes rfl fun other => ?_
      rintro ⟨step, inside, writes⟩
      rcases List.mem_cons.mp inside with rfl | inside
      · cases writes
      rcases List.mem_append.mp inside with deeper | later
      · exact not_writes_here ⟨step, deeper, writes⟩
      · exact not_writes_other distinct.1 [] ⟨step, later, writes⟩
    · refine List.pairwise_append.mpr ⟨innerIh distinct.2.1, restIh distinct.2.2, ?_⟩
      intro first deeper second later key own taken
      obtain ⟨_, mine⟩ := Actions.exists_target_of_place own
      obtain ⟨_, target⟩ := Actions.exists_target_of_place taken
      obtain ⟨next, _, below, rfl⟩ := below_of_mem_entriesPlan deeper mine
      rw [List.append_assoc] at target
      exact not_writes_other distinct.1 (next :: below) ⟨second, later, target⟩

/-- **The calls of a copy write to different places.** -/
theorem plan_apart {entries : Listing} (distinct : entries.Distinct) :
    (plan here entries).Pairwise (calls faults).Apart := by
  refine .cons ?_ (.cons (fun _ _ => apart_of_target_none rfl) (entriesPlan_apart distinct))
  refine apart_of_not_writes rfl fun other => ?_
  rintro ⟨step, inside, writes⟩
  rcases List.mem_cons.mp inside with rfl | inside
  · cases writes
  · exact not_writes_here ⟨step, inside, writes⟩

/-! ### Where no error is given -/

variable {store : Contents} {step : Step}

/-- Where no error is given, a call succeeds unless the other kind is in the way. -/
theorem passes_of_faultless_iff
    (writes : step.target = some (path, entry)) :
    (calls fun _ => none).passes store step = true ↔
      store path ≠ none → (store path = some .dir ↔ entry = .dir) := by
  have own : (calls fun _ => none).place step = some path := Actions.place_of_target writes
  rw [Actions.passes, Actions.cell, own]
  exact attempt_passes_iff writes

theorem passes_of_target_none (writes : step.target = none) :
    (calls fun _ => none).passes store step = true :=
  congrArg Prod.fst (attempt_of_target_none writes _)

/-- **A copy to an empty place, without errors, gives the tree.** -/
theorem copyDirRecursive_clean (tree : SourceTree) :
    (outcome (copyDirRecursive (fun _ => none) [] tree.entries) fun _ => none).2 =
      tree.contents := by
  rw [copyDirRecursive_eq_follow,
    Actions.follow_reaches_iff (plan_apart tree.distinct) (contents_iff tree)]
  refine ⟨fun path held => absurd rfl held, ?_⟩
  have done : (calls fun _ => none).pending (fun _ => none) (plan [] tree.entries) = [] := by
    refine Actions.pending_eq_nil fun step _ => ?_
    cases writes : step.target with
    | none => exact passes_of_target_none writes
    | some target => exact (passes_of_faultless_iff writes).mpr fun held => absurd rfl held
  rw [done]
  intro step left
  cases left

end Plan

/-! ### What is left is a tree -/

/-- Whatever is somewhere is in a directory. -/
def Rooted (contents : Contents) : Prop :=
  ∀ path name, contents (path ++ [name]) ≠ none → contents path = some .dir

section Rooted

variable {faults : Faults} {here : Path} {step : Step} {store : Contents}

/-- A directory that is there stays. -/
theorem leaves_dir {path : Path} (made : store path = some .dir) :
    (calls faults).leaves store step path = some .dir := by
  by_cases own : (calls faults).place step = some path
  · rw [Actions.leaves_at own, Actions.cell, own, Option.bind_some, made]
    exact attempt_dir faults step
  · rw [Actions.leaves_of_ne own]
    exact made

theorem follow_dir (steps : List Step) {path : Path} (made : store path = some .dir) :
    (outcome ((calls faults).follow steps) store).2 path = some .dir :=
  Actions.follow_keeps (fun after : Contents => after path = some .dir) (fun _ _ => leaves_dir) steps
    made

theorem leaves_ne_none {path : Path} (held : store path ≠ none) :
    (calls faults).leaves store step path ≠ none := by
  by_cases own : (calls faults).place step = some path
  · rw [Actions.leaves_at own, Actions.cell, own]
    exact attempt_ne_none held
  · rw [Actions.leaves_of_ne own]
    exact held

/-- Whatever fails, the copy removes nothing. -/
theorem copyDirRecursive_ne_none (entries : Listing) {path : Path} (held : store path ≠ none) :
    (outcome (copyDirRecursive faults [] entries) store).2 path ≠ none := by
  rw [copyDirRecursive_eq_follow]
  exact Actions.follow_keeps (fun after : Contents => after path ≠ none) (fun _ _ => leaves_ne_none) _
    held

/-- A call that writes to a directory that is there leaves a tree. -/
theorem leaves_rooted (rooted : Rooted store)
    (parent : ∀ path name, (calls faults).place step = some (path ++ [name]) →
      store path = some .dir) :
    Rooted ((calls faults).leaves store step) := by
  intro path name held
  refine leaves_dir ?_
  by_cases own : (calls faults).place step = some (path ++ [name])
  · exact parent path name own
  · rw [Actions.leaves_of_ne own] at held
    exact rooted path name held

theorem parent_of_place (parent : store here = some .dir) {name : String}
    (own : (calls faults).place step = some (here ++ [name])) (path : Path) (other : String)
    (place : (calls faults).place step = some (path ++ [other])) : store path = some .dir := by
  have same : here ++ [name] = path ++ [other] := Option.some.inj (own.symm.trans place)
  rw [← (List.append_inj' same rfl).1]
  exact parent

/-- A call that writes nothing goes on with the same store. -/
theorem follow_cons_rooted {rest : List Step} (writes : step.target = none) (rooted : Rooted store)
    (next : Rooted (outcome ((calls faults).follow rest) store).2) :
    Rooted (outcome ((calls faults).follow (step :: rest)) store).2 := by
  have same : (calls faults).leaves store step = store := Actions.leaves_of_target_none writes
  refine Actions.follow_cons_keeps Rooted ?_ fun _ => ?_
  · rw [same]
    exact rooted
  · rw [same]
    exact next

theorem entriesPlan_rooted (entries : Listing) (rooted : Rooted store)
    (parent : store here = some .dir) :
    Rooted (outcome ((calls faults).follow (entriesPlan here entries)) store).2 := by
  induction entries generalizing here store with
  | nil => exact follow_cons_rooted rfl rooted rooted
  | file name bytes rest ih =>
    have copied : Rooted ((calls faults).leaves store (.copy (here ++ [name]) bytes)) :=
      leaves_rooted rooted (parent_of_place parent rfl)
    refine follow_cons_rooted rfl rooted (follow_cons_rooted rfl rooted ?_)
    exact Actions.follow_cons_keeps Rooted copied fun _ => ih copied (leaves_dir parent)
  | dir name inner rest innerIh restIh =>
    have made : Rooted ((calls faults).leaves store (.createDirAll (here ++ [name]))) :=
      leaves_rooted rooted (parent_of_place parent rfl)
    refine follow_cons_rooted rfl rooted (follow_cons_rooted rfl rooted ?_)
    refine Actions.follow_cons_keeps Rooted made fun passes => follow_cons_rooted rfl made ?_
    have own : (calls faults).leaves store (.createDirAll (here ++ [name])) (here ++ [name]) =
        some .dir := Actions.leaves_target passes rfl
    exact Actions.follow_append_keeps Rooted (innerIh made own)
      (restIh (innerIh made own) (follow_dir _ (leaves_dir parent)))

/-- **Whatever fails, the copy over a tree leaves a tree.** -/
theorem copyDirRecursive_rooted (entries : Listing) (rooted : Rooted store) :
    Rooted (outcome (copyDirRecursive faults [] entries) store).2 := by
  rw [copyDirRecursive_eq_follow]
  have made : Rooted ((calls faults).leaves store (.createDirAll [])) := by
    refine leaves_rooted rooted fun path name own => ?_
    exact absurd (Option.some.inj own).symm (List.append_ne_nil_of_right_ne_nil _ (List.cons_ne_nil _ _))
  refine Actions.follow_cons_keeps Rooted made fun passes => follow_cons_rooted rfl made ?_
  exact entriesPlan_rooted entries made (Actions.leaves_target passes rfl)

theorem rooted_empty : Rooted fun _ => none := fun _ _ held => absurd rfl held

/-- A tree of files is one: it is what the copy makes of it. -/
theorem contents_rooted (tree : SourceTree) : Rooted tree.contents := by
  rw [← copyDirRecursive_clean tree]
  exact copyDirRecursive_rooted tree.entries rooted_empty

end Rooted

end SpicedbEmbedded.Build
