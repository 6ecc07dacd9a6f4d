/-
**The life of an instance, and what it holds.**

`spicedb_start` and `spicedb_dispose` of `shared/c/main.go` as functions on the process they run in:
its live resources, its registry and its global tracer provider. An instance acquires seven kinds of
resources, one stage after another; each error return releases what its hand-written list says
(`abandon`).

What the functions rely on is an outcome for each external step. A completed server and its datastore
are released by `server.Run` when its context is cancelled, and by nothing else; a `Complete` that
fails releases the datastore it was given; a client connection is released by `Close`.

* `reach_eq`, `failedAt_eq`, `disposeInstance_eq` — what a start that succeeds, a start that fails at
  a stage and a dispose make of the process, each as one equation.
* **`start_clean_iff`** — a start that fails leaves nothing behind exactly when it does not fail at the
  tracing, the metrics or the proxy stage.
-/

import Mathlib.Data.List.Basic
import Mathlib.Logic.Function.Basic
import SpicedbEmbedded.Shared.Options

namespace SpicedbEmbedded.Lifecycle

open Shared (StartOptions Stage)

/-! ### The process -/

/-- What an instance can hold. -/
inductive ResourceKind
  | datastore
  | server
  | goroutine
  | tracerProvider
  | metricsServer
  | clientConn
  | streamingListener
  deriving DecidableEq

/-- A resource of the instance with the given number. -/
structure Resource where
  kind : ResourceKind
  owner : Nat
  deriving DecidableEq

/-- The global `TracerProvider`: the one installed before the library was used, or the one an
instance has made. -/
inductive TracerProvider
  | installed
  | own (owner : Nat)
  deriving DecidableEq

/-- The fields of `Instance` that the lifecycle reads; a flag says that a pointer is not `nil`. -/
structure Instance where
  owner : Nat
  clientConn : Bool := false
  streamingListener : Bool := false
  tracerProvider : Bool := false
  prevTracerProvider : TracerProvider := .installed
  metricsServer : Bool := false

/-- The process the library is loaded in. Instances are numbered in the order they are allocated. -/
structure Process where
  nextID : UInt64
  allocated : Nat
  live : List Resource
  instances : UInt64 → Option Instance
  tracerProvider : TracerProvider

namespace Process

/-- The process before its first start. -/
def init : Process where
  nextID := 0
  allocated := 0
  live := []
  instances _ := none
  tracerProvider := .installed

variable (p : Process)

def acquire (kind : ResourceKind) (owner : Nat) : Process :=
  { p with live := ⟨kind, owner⟩ :: p.live }

def release (kind : ResourceKind) (owner : Nat) : Process :=
  { p with live := p.live.erase ⟨kind, owner⟩ }

/-- `otel.SetTracerProvider`. -/
def setTracerProvider (tp : TracerProvider) : Process := { p with tracerProvider := tp }

/-- Leaves `instances[id]` as given. -/
def setInstance (id : UInt64) (inst : Option Instance) : Process :=
  { p with instances := Function.update p.instances id inst }

/-- `cancel()` with `wg.Wait()`: `server.Run` ends, and with it the server and its datastore. -/
def awaitRun (owner : Nat) : Process :=
  ((p.release .goroutine owner).release .server owner).release .datastore owner

end Process

/-! ### The stages of a start -/

/-- `setupOTelTracing` and the two assignments after it. -/
def setupOTelTracing (inst : Instance) (p : Process) : Instance × Process :=
  ({ inst with tracerProvider := true, prevTracerProvider := p.tracerProvider },
    (p.acquire .tracerProvider inst.owner).setTracerProvider (.own inst.owner))

/-- The metrics server is shut down, if there is one. -/
def shutdownMetrics (inst : Instance) (p : Process) : Process :=
  if inst.metricsServer then p.release .metricsServer inst.owner else p

/-- The tracer provider is shut down, if there is one, and the previous one restored. -/
def shutdownTracing (inst : Instance) (p : Process) : Process :=
  if inst.tracerProvider then
    (p.release .tracerProvider inst.owner).setTracerProvider inst.prevTracerProvider
  else p

/-- `cleanupObservability`. -/
def cleanupObservability (inst : Instance) (p : Process) : Process :=
  shutdownTracing inst (shutdownMetrics inst p)

/-- What `spicedb_start` does on the way to a stage: `server.Run` is under way before the client is
made. -/
def enter (inst : Instance) (p : Process) : Stage → Process
  | .client => p.acquire .goroutine inst.owner
  | _ => p

/-- A stage whose external step succeeds. -/
def succeed (inst : Instance) (p : Process) : Stage → Instance × Process
  | .datastore => (inst, p.acquire .datastore inst.owner)
  | .server => (inst, p.acquire .server inst.owner)
  | .tracing => setupOTelTracing inst p
  | .metrics => ({ inst with metricsServer := true }, p.acquire .metricsServer inst.owner)
  | .client => ({ inst with clientConn := true }, p.acquire .clientConn inst.owner)
  | .proxy => ({ inst with streamingListener := true }, p.acquire .streamingListener inst.owner)

/-- The cleanup before the error return of a stage. -/
def abandon (inst : Instance) (p : Process) : Stage → Process
  | .datastore => p
  -- a `Complete` that fails has released what it was given
  | .server => p.release .datastore inst.owner
  | .tracing => p
  | .metrics => cleanupObservability inst p
  | .client => cleanupObservability inst (p.awaitRun inst.owner)
  | .proxy => cleanupObservability inst (p.awaitRun inst.owner)

/-- How each external step of a start comes out. -/
abbrev Outcomes := Stage → Except String Unit

/-- The stages, one after the other, up to the first that fails. -/
def runStages (env : Outcomes) : List Stage → Instance → Process → Except String Instance × Process
  | [], inst, p => (.ok inst, p)
  | stage :: left, inst, p =>
    match env stage with
    | .error err => (.error (stage.failure err), abandon inst (enter inst p stage) stage)
    | .ok () =>
      runStages env left (succeed inst (enter inst p stage) stage).1
        (succeed inst (enter inst p stage) stage).2

/-- `spicedb_start`. -/
def spicedbStart (env : Outcomes) (opts : StartOptions) (p : Process) :
    Except String UInt64 × Process :=
  match opts.validate with
  | .error text => (.error text, p)
  | .ok () =>
    let id := p.nextID + 1
    match runStages env opts.stages { owner := p.allocated }
      { p with nextID := id, allocated := p.allocated + 1 } with
    | (.error text, q) => (.error text, q)
    | (.ok inst, q) => (.ok id, q.setInstance id (some inst))

/-! ### Dispose -/

/-- The cleanup of an instance that has been taken out of the registry. -/
def disposeInstance (inst : Instance) (p : Process) : Process :=
  let closed := if inst.clientConn then p.release .clientConn inst.owner else p
  let stopped := if inst.streamingListener then closed.release .streamingListener inst.owner
    else closed
  cleanupObservability inst (stopped.awaitRun inst.owner)

/-- `spicedb_dispose`. -/
def spicedbDispose (id : UInt64) (p : Process) : Except String Unit × Process :=
  match p.instances id with
  | none => (.error ("invalid handle: " ++ toString id.toNat), p)
  | some inst => (.ok (), disposeInstance inst (p.setInstance id none))

/-- What a dispose releases, in its order. -/
def releases (inst : Instance) : List Resource :=
  (if inst.clientConn then [⟨.clientConn, inst.owner⟩] else [])
    ++ (if inst.streamingListener then [⟨.streamingListener, inst.owner⟩] else [])
    ++ [⟨.goroutine, inst.owner⟩, ⟨.server, inst.owner⟩, ⟨.datastore, inst.owner⟩]
    ++ (if inst.metricsServer then [⟨.metricsServer, inst.owner⟩] else [])
    ++ (if inst.tracerProvider then [⟨.tracerProvider, inst.owner⟩] else [])

/-- **A dispose, as a whole.** -/
theorem disposeInstance_eq (inst : Instance) (p : Process) :
    disposeInstance inst p =
      { p with
        live := p.live.diff (releases inst)
        tracerProvider :=
          if inst.tracerProvider then inst.prevTracerProvider else p.tracerProvider } := by
  cases conn : inst.clientConn <;> cases listener : inst.streamingListener <;>
    cases metrics : inst.metricsServer <;> cases tracing : inst.tracerProvider <;>
    simp [disposeInstance, conn, listener, metrics, tracing, cleanupObservability, shutdownTracing,
      shutdownMetrics, Process.awaitRun, Process.release, Process.setTracerProvider, releases]

/-! ### A start, stage by stage -/

/-- The instance and the process once the given stages have succeeded. -/
def reach : List Stage → Instance → Process → Instance × Process
  | [], inst, p => (inst, p)
  | stage :: left, inst, p =>
    reach left (succeed inst (enter inst p stage) stage).1
      (succeed inst (enter inst p stage) stage).2

/-- The process after a start that got as far as the given stage and failed there. -/
def failedAt (inst : Instance) (p : Process) (stages : List Stage) (stage : Stage) : Process :=
  let reached := reach (stages.takeWhile fun before => before != stage) inst p
  abandon reached.1 (enter reached.1 reached.2 stage) stage

/-- The external step of a stage fails. -/
def Outcomes.fails (env : Outcomes) (stage : Stage) : Bool := !(env stage).isOk

/-- The stages of a start either all succeed, or the start returns from the first that fails. -/
theorem runStages_spec (env : Outcomes) :
    ∀ (stages : List Stage) (inst : Instance) (p : Process),
      match stages.find? env.fails with
      | none => runStages env stages inst p = (.ok (reach stages inst p).1, (reach stages inst p).2)
      | some stage =>
        ∃ text, runStages env stages inst p = (.error text, failedAt inst p stages stage) := by
  intro stages
  induction stages with
  | nil => exact fun inst p => rfl
  | cons stage left ih =>
    intro inst p
    cases outcome : env stage with
    | error err =>
      have fails : env.fails stage = true := by rw [Outcomes.fails, outcome]; rfl
      rw [List.find?_cons_of_pos fails]
      refine ⟨stage.failure err, ?_⟩
      rw [runStages, outcome, failedAt, List.takeWhile_cons]
      simp [reach]
    | ok =>
      have succeeds : env.fails stage ≠ true := by
        rw [Outcomes.fails, outcome]
        exact Bool.false_ne_true
      rw [List.find?_cons_of_neg succeeds, runStages, outcome]
      have later := ih (succeed inst (enter inst p stage) stage).1
        (succeed inst (enter inst p stage) stage).2
      cases first : left.find? env.fails with
      | none =>
        rw [first] at later
        exact later
      | some failed =>
        rw [first] at later
        obtain ⟨text, result⟩ := later
        have other : stage ≠ failed := by
          rintro rfl
          exact succeeds (List.find?_some first)
        refine ⟨text, ?_⟩
        show runStages env left _ _ = _
        rw [result, failedAt, failedAt,
          List.takeWhile_cons_of_pos (p := fun before => before != failed) (bne_iff_ne.mpr other)]
        rfl

/-! ### Starts that succeed -/

/-- What an instance with these options holds. -/
def held (owner : Nat) (opts : StartOptions) : List Resource :=
  [⟨.streamingListener, owner⟩, ⟨.clientConn, owner⟩, ⟨.goroutine, owner⟩]
    ++ (if opts.metrics then [⟨.metricsServer, owner⟩] else [])
    ++ (if opts.tracing then [⟨.tracerProvider, owner⟩] else [])
    ++ [⟨.server, owner⟩, ⟨.datastore, owner⟩]

/-- The instance a start makes while the given provider is the global one. -/
def started (owner : Nat) (opts : StartOptions) (prev : TracerProvider) : Instance where
  owner := owner
  clientConn := true
  streamingListener := true
  tracerProvider := opts.tracing
  prevTracerProvider := if opts.tracing then prev else .installed
  metricsServer := opts.metrics

/-- The global tracer provider after that start. -/
def current (owner : Nat) (opts : StartOptions) (prev : TracerProvider) : TracerProvider :=
  if opts.tracing then .own owner else prev

/-- **A start with no failure, as a whole.** -/
theorem reach_eq (opts : StartOptions) (n : Nat) (p : Process) :
    reach opts.stages { owner := n } p =
      (started n opts p.tracerProvider,
        { p with
          live := held n opts ++ p.live
          tracerProvider := current n opts p.tracerProvider }) := by
  cases tracing : opts.tracing <;> cases metrics : opts.metrics <;>
    simp [StartOptions.stages, tracing, metrics, reach, succeed, enter, setupOTelTracing,
      Process.acquire, Process.setTracerProvider, held, started, current]

/-! ### Failed starts -/

/-- What a start that fails at a stage has acquired and does not release. -/
def leftBehind (owner : Nat) : Stage → List Resource
  | .tracing | .metrics => [⟨.server, owner⟩, ⟨.datastore, owner⟩]
  | .proxy => [⟨.clientConn, owner⟩]
  | .datastore | .server | .client => []

/-- **A failed start, as a whole.** The cleanup lists restore the process, tracer provider included,
but for what they leave behind. -/
theorem failedAt_eq (opts : StartOptions) {stage : Stage} (known : stage ∈ opts.stages) (n : Nat)
    (p : Process) :
    failedAt { owner := n } p opts.stages stage =
      { p with live := leftBehind n stage ++ p.live } := by
  have here : stage = .tracing → opts.tracing = true := by
    rintro rfl
    simpa [StartOptions.stages] using known
  have there : stage = .metrics → opts.metrics = true := by
    rintro rfl
    simpa [StartOptions.stages] using known
  -- each cleanup list against the prefix of stages it has to undo
  cases stage <;> cases tracing : opts.tracing <;> cases metrics : opts.metrics <;>
    simp_all [failedAt, StartOptions.stages, reach, succeed, enter, abandon, setupOTelTracing,
      Process.acquire, Process.release, Process.setTracerProvider, Process.awaitRun,
      cleanupObservability, shutdownTracing, shutdownMetrics, leftBehind]

/-- The first stage whose external step fails, of a start that is not refused at once. -/
def failing (env : Outcomes) (opts : StartOptions) : Option Stage :=
  match opts.validate with
  | .error _ => none
  | .ok () => opts.stages.find? env.fails

/-- Nothing of the call is left: the live resources and the registry are as before. -/
def Clean (p q : Process) : Prop := q.live = p.live ∧ q.instances = p.instances

/-- The process while a start is under way: it has drawn its id and has a number. -/
def drawn (p : Process) : Process :=
  { p with nextID := p.nextID + 1, allocated := p.allocated + 1 }

/-- What a start returns, and the process it leaves. -/
theorem spicedbStart_spec (env : Outcomes) (opts : StartOptions) (p : Process) :
    (∃ text, opts.validate = .error text ∧ spicedbStart env opts p = (.error text, p)) ∨
    (∃ stage text, failing env opts = some stage ∧ spicedbStart env opts p =
      (.error text, { drawn p with live := leftBehind p.allocated stage ++ p.live })) ∨
    (failing env opts = none ∧ spicedbStart env opts p =
      (.ok (p.nextID + 1), { drawn p with
        live := held p.allocated opts ++ p.live
        instances := Function.update p.instances (p.nextID + 1)
          (some (started p.allocated opts p.tracerProvider))
        tracerProvider := current p.allocated opts p.tracerProvider })) := by
  cases valid : opts.validate with
  | error text => exact Or.inl ⟨text, rfl, by rw [spicedbStart, valid]⟩
  | ok =>
    right
    have same : failing env opts = opts.stages.find? env.fails := by rw [failing, valid]
    have run := runStages_spec env opts.stages { owner := p.allocated } (drawn p)
    rw [← same] at run
    have unfolded : spicedbStart env opts p =
        match runStages env opts.stages { owner := p.allocated } (drawn p) with
        | (.error text, q) => (.error text, q)
        | (.ok inst, q) => (.ok (p.nextID + 1), q.setInstance (p.nextID + 1) (some inst)) := by
      rw [spicedbStart, valid]
      rfl
    cases first : failing env opts with
    | none =>
      rw [first] at run
      refine Or.inr ⟨rfl, ?_⟩
      rw [unfolded, run, reach_eq]
      rfl
    | some stage =>
      rw [first] at run
      obtain ⟨text, result⟩ := run
      have known : stage ∈ opts.stages := List.mem_of_find?_eq_some (same.symm.trans first)
      rw [failedAt_eq opts known] at result
      refine Or.inl ⟨stage, text, rfl, ?_⟩
      rw [unfolded, result]
      rfl

/-- **A start that fails leaves nothing behind exactly when it does not fail at the tracing, the
metrics or the proxy stage.** At the first two the completed server is never run, so nothing releases
it; at the third the client connection is never closed. -/
theorem start_clean_iff (env : Outcomes) (opts : StartOptions) (p : Process) :
    ((∃ text, (spicedbStart env opts p).1 = .error text) →
        Clean p (spicedbStart env opts p).2) ↔
      ∀ stage, failing env opts = some stage →
        stage ≠ .tracing ∧ stage ≠ .metrics ∧ stage ≠ .proxy := by
  rcases spicedbStart_spec env opts p with ⟨text, invalid, result⟩ |
    ⟨stage, text, first, result⟩ | ⟨first, result⟩
  · have none : failing env opts = none := by rw [failing, invalid]
    simp [result, none, Clean]
  · have clean : Clean p (spicedbStart env opts p).2 ↔ leftBehind p.allocated stage = [] := by
      rw [result]
      simp [Clean, drawn]
    have fails : ∃ text, (spicedbStart env opts p).1 = .error text := ⟨text, by rw [result]⟩
    rw [forall_prop_of_true fails, clean, first]
    cases stage <;> simp [leftBehind]
  · simp [result, first]

/-- A start whose metrics port is taken: the metrics listener is the stage that fails. -/
def portTaken : Outcomes
  | .metrics => .error "binding metrics port 9090: address already in use"
  | _ => .ok ()

/-- Its server and its datastore stay live. -/
theorem portTaken_leaks :
    ¬ ∀ (env : Outcomes) (opts : StartOptions) (p : Process),
      (∃ text, (spicedbStart env opts p).1 = .error text) →
        Clean p (spicedbStart env opts p).2 := by
  intro clean
  have same : (spicedbStart portTaken { metricsEnabled := true, metricsPort := 9090 }
      Process.init).2.live = [] := (clean _ _ _ ⟨_, rfl⟩).1
  revert same
  decide

end SpicedbEmbedded.Lifecycle
