/-
**Starting an instance.**

`EmbeddedSpiceDB::start` and `start_with_schema` of Rust, and `start` of Python, Java, C# and Node,
from the native start to the object they return: the decoding of the reply, the channel to the
streaming proxy, the writes of schema and relationships, and what each binding does when one of
these fails.

* `World` — the registry of the library, the datastore and the writes issued.
* `Steps` — how the steps of a start come out.
* `start` — the start of a binding.
-/

import SpicedbEmbedded.Ffi.Bindings

namespace SpicedbEmbedded.Clients.Start

open Machine Prog
open Ffi (Binding)

/-! ### The world of a start -/

/-- The operation of a relationship update. -/
inductive Operation
  | create
  | touch
  | delete
  deriving DecidableEq

/-- A write of the bootstrap: `WriteSchema` or `WriteRelationships`. -/
inductive Write (R : Type)
  | schema (text : String)
  | relationships (updates : List (Operation × R))

/-- What a step raises; a fatal one is no exception to the handlers of Python and Java (a
`BaseException`, an `Error`). -/
structure Thrown where
  text : String
  fatal : Bool := false

/-- The library's counter and registry, the disposes that have taken effect, the datastore, and the
writes issued, each with its handle. Handles from `next` on have not been given out. -/
structure World (D R : Type) where
  next : Nat
  live : List Nat
  disposed : List Nat
  store : D
  writes : List (Nat × Write R)
  fresh : ∀ handle, handle ∈ live ∨ handle ∈ disposed → handle < next

/-- How the steps of a start come out: the native start, the decoding of its reply, what goes before
the channel is built, the channel, and each write on the datastore as it is. -/
structure Steps (D R : Type) where
  native : Except Thrown Unit
  decode : Except Thrown Unit
  prepare : Except Thrown Unit
  channel : Except Thrown Unit
  write : D → Write R → D × Except Thrown Unit

/-- What a start is given. Rust takes relationships with a schema only. -/
structure Arguments (R : Type) (b : Binding) where
  schema : Option String := none
  relationships : Option (List R) := none
  typed : b = .rust → schema = none → relationships = none

/-- The object a start returns. -/
structure Instance where
  handle : Nat
  deriving DecidableEq

variable {D R : Type}

namespace World

/-- An instance is registered under the next handle. -/
def opened (s : World D R) : World D R where
  next := s.next + 1
  live := s.next :: s.live
  disposed := s.disposed
  store := s.store
  writes := s.writes
  fresh handle known := by
    rw [List.mem_cons, or_assoc] at known
    rcases known with same | before
    · omega
    · exact Nat.lt_succ_of_lt (s.fresh handle before)

/-- A registered instance is disposed of. -/
def dropped (s : World D R) (handle : Nat) (live : handle ∈ s.live) : World D R where
  next := s.next
  live := s.live.erase handle
  disposed := s.disposed ++ [handle]
  store := s.store
  writes := s.writes
  fresh other known := by
    rw [List.mem_append, List.mem_singleton] at known
    rcases known with kept | before | same
    · exact s.fresh other (.inl (List.mem_of_mem_erase kept))
    · exact s.fresh other (.inr before)
    · exact same ▸ s.fresh handle (.inl live)

/-- Writes are issued through a handle, and leave the datastore as given. -/
def wrote (s : World D R) (handle : Nat) (store : D) (issued : List (Write R)) : World D R :=
  { s with store := store, writes := s.writes ++ issued.map (handle, ·) }

variable (s : World D R)

@[simp] theorem opened_live : s.opened.live = s.next :: s.live := rfl

@[simp] theorem opened_disposed : s.opened.disposed = s.disposed := rfl

@[simp] theorem opened_store : s.opened.store = s.store := rfl

@[simp] theorem opened_writes : s.opened.writes = s.writes := rfl

@[simp] theorem dropped_live (handle : Nat) (live : handle ∈ s.live) :
    (s.dropped handle live).live = s.live.erase handle := rfl

@[simp] theorem dropped_disposed (handle : Nat) (live : handle ∈ s.live) :
    (s.dropped handle live).disposed = s.disposed ++ [handle] := rfl

@[simp] theorem dropped_writes (handle : Nat) (live : handle ∈ s.live) :
    (s.dropped handle live).writes = s.writes := rfl

@[simp] theorem wrote_live (handle : Nat) (store : D) (issued : List (Write R)) :
    (s.wrote handle store issued).live = s.live := rfl

@[simp] theorem wrote_disposed (handle : Nat) (store : D) (issued : List (Write R)) :
    (s.wrote handle store issued).disposed = s.disposed := rfl

@[simp] theorem wrote_store (handle : Nat) (store : D) (issued : List (Write R)) :
    (s.wrote handle store issued).store = store := rfl

@[simp] theorem wrote_writes (handle : Nat) (store : D) (issued : List (Write R)) :
    (s.wrote handle store issued).writes = s.writes ++ issued.map (handle, ·) := rfl

/-- Writing nothing changes nothing. -/
theorem wrote_nil (handle : Nat) : s.wrote handle s.store [] = s := by
  simp only [wrote, List.map_nil, List.append_nil]

/-- Writes after writes. -/
theorem wrote_wrote (handle : Nat) (first last : D) (earlier later : List (Write R)) :
    (s.wrote handle first earlier).wrote handle last later =
      s.wrote handle last (earlier ++ later) := by
  simp only [wrote, List.map_append, List.append_assoc]

/-- The next handle has neither been registered nor disposed of. -/
theorem next_unknown : s.next ∉ s.live ∧ s.next ∉ s.disposed :=
  ⟨fun live => (Nat.lt_irrefl _) (s.fresh _ (.inl live)),
    fun gone => (Nat.lt_irrefl _) (s.fresh _ (.inr gone))⟩

end World

/-- A program of a start. -/
abbrev Starting (D R A : Type) : Type := Prog (World D R) Thrown A

/-- `spicedb_start`: a new handle is registered, unless it fails. -/
def nativeStart (steps : Steps D R) : Starting D R Nat := fun s =>
  match steps.native with
  | .error err => .ok (.error err, s)
  | .ok () => .ok (.ok s.next, s.opened)

/-- `spicedb_dispose`. -/
def nativeDispose (handle : Nat) : Starting D R Unit := fun s =>
  if live : handle ∈ s.live then .ok (.ok (), s.dropped handle live)
  else .ok (.error ⟨"invalid handle: " ++ toString handle, false⟩, s)

/-- A dispose whose error is ignored. -/
def disposeQuietly (handle : Nat) : Starting D R Unit :=
  tryCatch (nativeDispose handle) fun _ => pure ()

/-- A write RPC. -/
def write (steps : Steps D R) (handle : Nat) (w : Write R) : Starting D R Unit := fun s =>
  .ok ((steps.write s.store w).2, s.wrote handle (steps.write s.store w).1 [w])

/-- The update of a relationship. -/
def touches (relationships : List R) : List (Operation × R) :=
  relationships.map fun r => (.touch, r)

/-! ### Rust -/

/-- `start`. -/
def rustStart (steps : Steps D R) : Starting D R Instance := do
  let handle ← nativeStart steps
  ofExcept steps.decode
  pure ⟨handle⟩

/-- `start_with_schema`: an error drops the object, which disposes of its handle. -/
def rustStartWithSchema (steps : Steps D R) (schema : String) (relationships : List R) :
    Starting D R Instance := do
  let db ← rustStart steps
  tryCatch
    (do
      if schema ≠ "" then write steps db.handle (.schema schema) else pure ()
      if relationships ≠ [] then write steps db.handle (.relationships (touches relationships))
        else pure ()
      pure db)
    fun err => do
      disposeQuietly db.handle
      raise err

/-! ### Python -/

/-- `_bootstrap`. -/
def pythonBootstrap (steps : Steps D R) (handle : Nat) (schema : String) (relationships : List R) :
    Starting D R Unit := do
  write steps handle (.schema schema)
  if relationships ≠ [] then write steps handle (.relationships (touches relationships))
  else pure ()

/-- `_init_ffi`. -/
def pythonInit (steps : Steps D R) : Starting D R Nat := do
  let handle ← nativeStart steps
  ofExcept steps.decode
  ofExcept steps.prepare
  ofExcept steps.channel
  pure handle

/-- `start`. -/
def pythonStart (steps : Steps D R) (schema : Option String) (relationships : Option (List R)) :
    Starting D R Instance := do
  let handle ← pythonInit steps
  match schema with
  | none => pure ⟨handle⟩
  | some schema => do
    tryCatch (pythonBootstrap steps handle schema (relationships.getD [])) fun err =>
      if err.fatal then raise err
      else do
        nativeDispose handle
        raise ⟨"Failed to bootstrap: " ++ err.text, false⟩
    pure ⟨handle⟩

/-! ### Java -/

/-- `startInstance`. -/
def javaStartInstance (steps : Steps D R) : Starting D R Instance := do
  let handle ← nativeStart steps
  ofExcept steps.decode
  tryCatch (do ofExcept steps.prepare; ofExcept steps.channel) fun err =>
    if err.fatal then raise err
    else do
      disposeQuietly handle
      raise ⟨"Failed to connect to streaming proxy: " ++ err.text, false⟩
  pure ⟨handle⟩

/-- `start` with a schema, which may be null: then the builder of the request throws. -/
def javaStart (steps : Steps D R) (schema : Option String) (relationships : Option (List R)) :
    Starting D R Instance := do
  let db ← javaStartInstance steps
  tryCatch
    (match schema with
    | none => raise ⟨"NullPointerException", false⟩
    | some schema => do
      write steps db.handle (.schema schema)
      match relationships with
      | none => pure ()
      | some relationships =>
        if relationships ≠ [] then write steps db.handle (.relationships (touches relationships))
        else pure ())
    fun err =>
      if err.fatal then raise err
      else do
        disposeQuietly db.handle
        raise ⟨"Failed to bootstrap: " ++ err.text, false⟩
  pure db

/-! ### C# -/

/-- `Bootstrap`; a null schema is refused by the request's setter. -/
def csharpBootstrap (steps : Steps D R) (handle : Nat) (schema : Option String)
    (relationships : List R) : Starting D R Unit :=
  match schema with
  | none => raise ⟨"ArgumentNullException", false⟩
  | some schema => do
    write steps handle (.schema schema)
    if 0 < relationships.length then write steps handle (.relationships (touches relationships))
    else pure ()

/-- `StartInstance`. -/
def csharpStartInstance (steps : Steps D R) : Starting D R Instance := do
  let handle ← nativeStart steps
  ofExcept steps.decode
  ofExcept steps.prepare
  tryCatch (ofExcept steps.channel) fun err => do
    disposeQuietly handle
    raise ⟨"Failed to connect to streaming proxy: " ++ err.text, false⟩
  pure ⟨handle⟩

/-- `Start` with a schema. -/
def csharpStart (steps : Steps D R) (schema : Option String) (relationships : Option (List R)) :
    Starting D R Instance := do
  let db ← csharpStartInstance steps
  tryCatch (csharpBootstrap steps db.handle schema (relationships.getD [])) fun err => do
    nativeDispose db.handle
    raise ⟨"Failed to bootstrap: " ++ err.text, false⟩
  pure db

/-! ### Node -/

/-- `bootstrap`. -/
def nodeBootstrap (steps : Steps D R) (handle : Nat) (schema : String) (relationships : List R) :
    Starting D R Unit := do
  write steps handle (.schema schema)
  if 0 < relationships.length then write steps handle (.relationships (touches relationships))
  else pure ()

/-- `start`: the relationships of a call whose first argument is no string are not looked at. -/
def nodeStart (steps : Steps D R) (schema : Option String) (relationships : Option (List R)) :
    Starting D R Instance := do
  let rels := if schema.isSome then relationships.getD [] else []
  let handle ← nativeStart steps
  ofExcept steps.decode
  ofExcept steps.prepare
  ofExcept steps.channel
  match schema with
  | none => pure ⟨handle⟩
  | some schema => do
    tryCatch (nodeBootstrap steps handle schema rels) fun err => do
      nativeDispose handle
      raise ⟨"Failed to bootstrap: " ++ err.text, false⟩
    pure ⟨handle⟩

/-! ### All five -/

/-- The start of a binding; in Rust, Java and C# one without schema and relationships is a function
of its own. -/
def start (b : Binding) (steps : Steps D R) (args : Arguments R b) : Starting D R Instance :=
  match b with
  | .rust =>
    match args.schema with
    | none => rustStart steps
    | some schema => rustStartWithSchema steps schema (args.relationships.getD [])
  | .python => pythonStart steps args.schema args.relationships
  | .java =>
    match args.schema, args.relationships with
    | none, none => javaStartInstance steps
    | schema, relationships => javaStart steps schema relationships
  | .csharp =>
    match args.schema, args.relationships with
    | none, none => csharpStartInstance steps
    | schema, relationships => csharpStart steps schema relationships
  | .node => nodeStart steps args.schema args.relationships

end SpicedbEmbedded.Clients.Start
