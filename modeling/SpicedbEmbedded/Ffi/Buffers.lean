/-
**Every buffer the library hands out, released once.**

A run of one binding: starts, RPCs and disposes in any order, each with its own state of the library
and of the runtime. The library allocates a C string for every reply and every error, and a byte buffer
for every response that is not empty.

* `Balanced` — nothing the library has allocated is live, and no call has read or released anything it
  must not: what was allocated has been released once, with its own function.
* **`buffers_released_iff`** — that holds after every call of a run exactly when every RPC in it that
  enters the library is answered so that the binding `Releases` the answer: not with an error in Node,
  and not with a response whose length the binding takes for a non-positive C int.
-/

import SpicedbEmbedded.Ffi.CopyOut
import SpicedbEmbedded.Machine.Run

namespace SpicedbEmbedded.Ffi

open Machine Prog

/-! ### Programs that leave nothing allocated -/

/-- A program that releases all that is allocated while it runs, and no more. -/
def Tidy {A : Type} (x : Foreign A) : Prop :=
  ∀ m, ∃ result n, x m = .ok (result, n) ∧ n.heap.live = m.heap.live

section Tidy

variable {A B : Type} {x : Foreign A} {f : A → Foreign B}

theorem tidy_still (still : Still x) : Tidy x := by
  intro m
  obtain ⟨result, ran⟩ := still m
  exact ⟨result, m, ran, rfl⟩

theorem tidy_bind (first : Tidy x) (later : ∀ a, Tidy (f a)) : Tidy (x >>= f) := by
  intro m
  obtain ⟨result, n, ran, kept⟩ := first m
  cases result with
  | error err => exact ⟨.error err, n, by rw [bind_apply, ran], kept⟩
  | ok a =>
    obtain ⟨last, k, went, same⟩ := later a n
    exact ⟨last, k, by rw [bind_apply, ran]; exact went, same.trans kept⟩

theorem tidy_ite {c : Prop} [Decidable c] {y : Foreign A} (yes : Tidy x) (no : Tidy y) :
    Tidy (if c then x else y) := by
  split
  · exact yes
  · exact no

/-- A program that is given a C string and releases it, besides being tidy. -/
def Consumes (p : Nat) (x : Foreign A) : Prop :=
  ∀ m text, m.heap.live p = some (.str text) →
    ∃ result n, x m = .ok (result, n) ∧ n.heap.live = (m.heap.free p).live

/-- A reply is consumed by what comes after it. -/
theorem tidy_reply {text : String} {f : Option Nat → Foreign A}
    (consumes : ∀ p, Consumes p (f (some p))) : Tidy (Native.reply text >>= f) := by
  intro m
  obtain ⟨result, n, ran, kept⟩ := consumes m.heap.next
    { m with heap := m.heap.alloc (.str text) } text (m.heap.alloc_live_self _)
  exact ⟨result, n, ran, kept.trans (m.heap.free_alloc_live _)⟩

/-- A string read, released and then used. -/
theorem consumes_readFree {p : Nat} {k : String → Foreign A} (later : ∀ text, Tidy (k text)) :
    Consumes p (do let text ← readString p; spicedbFree p; k text) := by
  intro m text here
  obtain ⟨result, n, ran, kept⟩ := later (cut text) { m with heap := m.heap.free p }
  refine ⟨result, n, ?_, kept⟩
  simp only [bind_apply, readString_apply here, spicedbFree_apply here]
  exact ran

theorem consumes_free {p : Nat} : Consumes p (spicedbFree p) := fun _ _ here =>
  ⟨_, _, spicedbFree_apply here, rfl⟩

/-- A string read and used, and released at the end whatever comes of it. -/
theorem consumes_finally {p : Nat} {k : String → Foreign A} (still : ∀ text, Still (k text)) :
    Consumes p (tryFinally (do let text ← readString p; k text) (spicedbFree p)) := by
  intro m text here
  obtain ⟨result, ran⟩ := still (cut text) m
  refine ⟨result, _, tryFinally_apply ?_ (spicedbFree_apply here), rfl⟩
  simp only [bind_apply, readString_apply here]
  exact ran

theorem consumes_bind {p : Nat} (first : Consumes p x) (later : ∀ a, Tidy (f a)) :
    Consumes p (x >>= f) := by
  intro m text here
  obtain ⟨result, n, ran, kept⟩ := first m text here
  cases result with
  | error err => exact ⟨.error err, n, by rw [bind_apply, ran], kept⟩
  | ok a =>
    obtain ⟨last, k, went, same⟩ := later a n
    exact ⟨last, k, by rw [bind_apply, ran]; exact went, same.trans kept⟩

end Tidy

/-! ### Starts and disposes -/

section Lifecycle

variable {Conn Msg : Type} (native : Native Conn Msg) (host : Host)

theorem rustStart_tidy (optionsJson : Option String) : Tidy (rustStart native optionsJson) := by
  have call : Tidy (rustStart.call native optionsJson) := tidy_reply fun p =>
    consumes_readFree fun text => tidy_still (still_pure text)
  unfold rustStart
  split
  · exact tidy_ite (tidy_still (still_raise _)) call
  · exact call

theorem rustDispose_tidy (handle : UInt64) : Tidy (rustDispose native handle) :=
  tidy_reply fun _ => consumes_readFree fun text => tidy_still (still_pure text)

theorem pythonStart_tidy (optionsJson : Option String) :
    Tidy (pythonStart native host optionsJson) := by
  have read : ∀ p, Consumes p (tryFinally (readString p) (spicedbFree p)) := fun p m text here =>
    ⟨_, _, tryFinally_apply (readString_apply here) (spicedbFree_apply here), rfl⟩
  refine tidy_reply fun p => consumes_bind (read p) fun raw => tidy_still ?_
  exact still_bind (still_ofExcept _) fun data => still_ite (still_ofExcept _) (still_raise _)

theorem pythonDispose_tidy (handle : UInt64) : Tidy (pythonDispose native host handle) :=
  tidy_reply fun _ => consumes_finally fun _ =>
    still_bind (still_ofExcept _) fun _ => still_ite (still_pure ()) (still_raise _)

theorem javaClose_tidy (handle : UInt64) : Tidy (javaClose native handle) :=
  tidy_reply fun _ => consumes_free

theorem javaStartInstance_tidy (optionsJson : Option String) :
    Tidy (javaStartInstance native host optionsJson) := by
  refine tidy_reply fun p => consumes_readFree fun json => ?_
  refine tidy_bind (tidy_still (still_ofExcept _)) fun parsed => ?_
  refine tidy_ite (tidy_bind (tidy_still (still_ofExcept _)) fun data => ?_)
    (tidy_still (still_raise _))
  cases host.connect data with
  | ok => exact tidy_still (still_pure data)
  | error err =>
    exact tidy_bind (javaClose_tidy native data.handle) fun _ => tidy_still (still_raise _)

theorem csharpStart_tidy (optionsJson : Option String) :
    Tidy (csharpStart native host optionsJson) :=
  tidy_reply fun _ => consumes_finally fun _ =>
    still_bind (still_ofExcept _) fun _ => still_ite (still_ofExcept _) (still_raise _)

theorem csharpDispose_tidy (handle : UInt64) : Tidy (csharpDispose native host handle) :=
  tidy_reply fun _ => consumes_finally fun _ => still_ofExcept _

/-- A `HeapStr` reply is released as it is decoded. -/
theorem consumes_nodeHeapStr (p : Nat) : Consumes p (nodeHeapStr (some p)) :=
  consumes_readFree fun text => tidy_still (still_pure (some text))

theorem nodeStart_tidy (optionsJson : Option String) :
    Tidy (nodeStart native host optionsJson) := by
  refine tidy_reply fun p => consumes_bind (consumes_nodeHeapStr p) fun raw => tidy_still ?_
  cases raw with
  | none => exact still_raise _
  | some raw =>
    exact still_ite (still_raise _) (still_bind (still_ofExcept _) fun data =>
      still_ite (still_ofExcept _) (still_raise _))

theorem nodeDispose_tidy (handle : UInt64) : Tidy (nodeDispose native host handle) :=
  tidy_reply fun p => consumes_bind (consumes_nodeHeapStr p) fun _ => tidy_still
    (still_bind (still_ofExcept _) fun _ => still_ite (still_pure ()) (still_raise _))

end Lifecycle

/-! ### Runs -/

/-- A call of a binding. -/
inductive Call (b : Binding)
  | rpc (handle : UInt64) (method : Method) (trace : Trace) (request : b.Bytes)
  | start (optionsJson : Option String)
  | dispose (handle : UInt64)

/-- A call, with the library and the runtime as it finds them. -/
structure Occurrence (Conn Msg : Type) (b : Binding) where
  native : Native Conn Msg
  host : Host
  call : Call b

/-- The memory, and whether a call has misused it. -/
structure Ledger where
  memory : Memory
  misused : Bool

/-- Nothing allocated, nothing misused. -/
def Ledger.init : Ledger := ⟨⟨.empty, []⟩, false⟩

variable {Conn Msg : Type} {b : Binding}

/-- Runs a program for what it does. -/
def discard {A : Type} (x : Foreign A) : Foreign Unit := do
  let _ ← x
  pure ()

/-- What a binding runs for a call. -/
def Occurrence.run (o : Occurrence Conn Msg b) : Foreign Unit :=
  match o.call with
  | .rpc handle method trace request =>
    discard (b.rawCall o.native o.host handle method trace request)
  | .start optionsJson =>
    match b with
    | .rust => discard (rustStart o.native optionsJson)
    | .python => discard (pythonStart o.native o.host optionsJson)
    | .java => discard (javaStartInstance o.native o.host optionsJson)
    | .csharp => discard (csharpStart o.native o.host optionsJson)
    | .node => discard (nodeStart o.native o.host optionsJson)
  | .dispose handle =>
    match b with
    | .rust => discard (rustDispose o.native handle)
    | .python => pythonDispose o.native o.host handle
    | .java => javaClose o.native handle
    | .csharp => csharpDispose o.native o.host handle
    | .node => nodeDispose o.native o.host handle

/-- A call that returns or raises, or misuses the memory; there is no state after one that takes the
process down. -/
def step (s : Ledger) (o : Occurrence Conn Msg b) : Option Ledger :=
  match o.run s.memory with
  | .ok (_, m) => some { s with memory := m }
  | .error .misuse => some { s with misused := true }
  | .error .aborted => none

/-- All that the library has handed out has been released once, and was not used otherwise after. -/
structure Balanced (s : Ledger) : Prop where
  sound : s.misused = false
  released : ∀ p, s.memory.heap.live p = none

/-- An RPC that enters the library is answered so that the binding releases the answer. -/
def Occurrence.Releases (o : Occurrence Conn Msg b) : Prop :=
  match o.call with
  | .rpc handle method trace request =>
    ∀ args received, b.arguments o.host trace request.val = .ok args →
      goBytes args.buffer args.len = some received →
      b.Releases o.host (o.native.answer handle method args.trace received)
  | .start _ => True
  | .dispose _ => True

theorem discard_tidy {A : Type} {x : Foreign A} (tidy : Tidy x) : Tidy (discard x) :=
  tidy_bind tidy fun _ => tidy_still (still_pure ())

theorem tidy_of_lifecycle {o : Occurrence Conn Msg b}
    (other : ∀ handle method trace request, o.call ≠ .rpc handle method trace request) :
    Tidy o.run := by
  obtain ⟨native, host, call⟩ := o
  cases call with
  | rpc handle method trace request => exact absurd rfl (other handle method trace request)
  | start optionsJson =>
    cases b with
    | rust => exact discard_tidy (rustStart_tidy native optionsJson)
    | python => exact discard_tidy (pythonStart_tidy native host optionsJson)
    | java => exact discard_tidy (javaStartInstance_tidy native host optionsJson)
    | csharp => exact discard_tidy (csharpStart_tidy native host optionsJson)
    | node => exact discard_tidy (nodeStart_tidy native host optionsJson)
  | dispose handle =>
    cases b with
    | rust => exact discard_tidy (rustDispose_tidy native handle)
    | python => exact pythonDispose_tidy native host handle
    | java => exact javaClose_tidy native handle
    | csharp => exact csharpDispose_tidy native host handle
    | node => exact nodeDispose_tidy native host handle

/-- An RPC whose request is received releases what its answer calls for. -/
theorem rpc_releases_iff {native : Native Conn Msg} {host : Host} {handle : UInt64} {method : Method}
    {trace : Trace} {request : b.Bytes} {args : Arguments} {received : List UInt8}
    (passed : b.arguments host trace request.val = .ok args)
    (copied : goBytes args.buffer args.len = some received) :
    (⟨native, host, .rpc handle method trace request⟩ : Occurrence Conn Msg b).Releases ↔
      b.Releases host (native.answer handle method args.trace received) := by
  constructor
  · exact fun all => all args received passed copied
  · intro released other again same copiedToo
    rw [passed] at same
    cases same
    rw [copied] at copiedToo
    cases copiedToo
    exact released

/-- An RPC is refused, takes the process down, or leaves what was live exactly under its condition. -/
theorem rpc_releases (native : Native Conn Msg) (host : Host) (handle : UInt64) (method : Method)
    (trace : Trace) (request : b.Bytes) (m : Memory) :
    discard (b.rawCall native host handle method trace request) m = .error .aborted ∨
      ∃ result n, discard (b.rawCall native host handle method trace request) m = .ok (result, n) ∧
        (n.heap.live = m.heap.live ↔
          (⟨native, host, .rpc handle method trace request⟩ : Occurrence Conn Msg b).Releases) := by
  cases passed : b.arguments host trace request.val with
  | error err =>
    refine Or.inr ⟨.error err, m, ?_, iff_of_true rfl fun args _ other => ?_⟩
    · rw [discard, bind_apply, rawCall_raises passed]
    · rw [passed] at other
      cases other
  | ok args =>
    cases copied : goBytes args.buffer args.len with
    | none =>
      left
      rw [discard, bind_apply, rawCall_aborts passed copied]
    | some received =>
      obtain ⟨n, ran, _, releases⟩ :=
        @rawCall_apply _ _ native host b handle method trace request args passed received copied m
      right
      rw [rpc_releases_iff passed copied, ← releases]
      cases answered : b.result host (native.answer handle method args.trace received) with
      | error err =>
        refine ⟨.error err, n, ?_, Iff.rfl⟩
        rw [discard, bind_apply, ran, answered]
      | ok bytes =>
        refine ⟨.ok (), n, ?_, Iff.rfl⟩
        rw [discard, bind_apply, ran, answered]
        rfl

/-- **Every call that does not take the process down returns or raises**, misusing nothing, and leaves
what was live as it was exactly under its condition. -/
theorem run_releases (o : Occurrence Conn Msg b) (m : Memory) :
    o.run m = .error .aborted ∨
      ∃ result n, o.run m = .ok (result, n) ∧ (n.heap.live = m.heap.live ↔ o.Releases) := by
  obtain ⟨native, host, call⟩ := o
  cases call with
  | start optionsJson =>
    obtain ⟨result, n, ran, kept⟩ :=
      tidy_of_lifecycle (o := ⟨native, host, .start optionsJson⟩) (by simp) m
    exact Or.inr ⟨result, n, ran, iff_of_true kept trivial⟩
  | dispose handle =>
    obtain ⟨result, n, ran, kept⟩ :=
      tidy_of_lifecycle (o := ⟨native, host, .dispose handle⟩) (by simp) m
    exact Or.inr ⟨result, n, ran, iff_of_true kept trivial⟩
  | rpc handle method trace request => exact rpc_releases native host handle method trace request m

theorem init_balanced : Balanced Ledger.init := ⟨rfl, fun _ => rfl⟩

/-- **One call keeps the buffers balanced exactly under its condition.** -/
theorem balanced_step (s : Ledger) (o : Occurrence Conn Msg b) (t : Ledger) (balanced : Balanced s)
    (next : step s o = some t) : Balanced t ↔ o.Releases := by
  unfold step at next
  rcases run_releases o s.memory with aborted | ⟨result, n, ran, releases⟩
  · rw [aborted] at next
    cases next
  · rw [ran] at next
    cases next
    rw [← releases]
    constructor
    · intro after
      funext p
      rw [balanced.released p]
      exact after.released p
    · intro same
      refine ⟨balanced.sound, fun p => ?_⟩
      show n.heap.live p = none
      rw [same]
      exact balanced.released p

/-- **Every buffer is released once, throughout a run, exactly when every RPC of the run is answered so
that its binding releases the answer.** -/
theorem buffers_released_iff (b : Binding) (calls : List (Occurrence Conn Msg b)) :
    (∀ s, Passes step Ledger.init calls s → Balanced s) ↔
      Meets step (fun _ o => o.Releases) Ledger.init calls :=
  @passes_iff_meets _ _ step (fun _ => True) Balanced (fun _ o => o.Releases)
    (fun _ _ _ _ _ => trivial) (fun s o t _ => balanced_step s o t) calls Ledger.init trivial
    init_balanced

/-- A Node RPC on a handle that is not there. -/
def strayRpc : Occurrence Unit (List UInt8) .node :=
  ⟨echoNative, plainHost, .rpc 5 .readSchema {} ⟨[], nofun⟩⟩

/-- Its error text is raised, and never released. -/
theorem strayRpc_leaks :
    ¬ ∀ (b : Binding) (calls : List (Occurrence Unit (List UInt8) b)) (s : Ledger),
      Passes step Ledger.init calls s → Balanced s := by
  intro balanced
  obtain ⟨n, ran, _, releases⟩ := @rawCall_apply Unit (List UInt8) echoNative plainHost .node 5
    .readSchema {} ⟨[], nofun⟩ ⟨{}, [], 0⟩ rfl [] rfl Ledger.init.memory
  have run : strayRpc.run Ledger.init.memory = .ok (.error "invalid handle: 5", n) := by
    show discard (Binding.node.rawCall echoNative plainHost 5 .readSchema {} ⟨[], nofun⟩)
      Ledger.init.memory = _
    rw [discard, bind_apply, ran]
    rfl
  have taken : step Ledger.init strayRpc = some ⟨n, false⟩ := by rw [step, run]; rfl
  have after : Balanced ⟨n, false⟩ := balanced .node [strayRpc] _
    (passes_end step ((exec_singleton step _ _).trans taken))
  exact releases.mp (funext after.released) rfl

end SpicedbEmbedded.Ffi
