/-
**The external calls of a start.**

`spicedb_start` as a program that calls out: to the datastore and server packages of SpiceDB, to
OpenTelemetry, to the network and the file system, and to the library's own shared state. Objects that
the calls hand back (a datastore, a server, a listener) are values the program only passes on.

* **`calls_unobserved`** — without `metrics_enabled` no call of tracing or of the metrics server is made.
* **`spicedbStart_process`** — what the program returns is what `spicedbStart` on the process returns,
  for some outcomes of the stages.
-/

import SpicedbEmbedded.Lifecycle.Process
import SpicedbEmbedded.Machine.Program

namespace SpicedbEmbedded.Lifecycle.Calls

open Shared (StartOptions DatastoreOption Stage)
open Machine

/-! ### The calls -/

/-- Where a start listens: on a host and port, or on the socket that `streamingProxyAddr` gives a
handle. -/
inductive Address
  | tcp (hostPort : String)
  | socket (handle : UInt64)
  deriving DecidableEq

/-- `util.GRPCServerConfig.Network`. -/
inductive Network
  | buffered
  | unix
  | tcp
  deriving DecidableEq

/-- `util.GRPCServerConfig`. -/
structure GRPCServerConfig where
  enabled : Bool
  network : Network
  address : String
  bufferSize : Nat
  deriving DecidableEq

/-- `server.CacheConfig`. -/
structure CacheConfig where
  enabled : Bool
  metrics : Bool
  deriving DecidableEq

/-- The server configuration of `newSpiceDBServerFromDatastore`. -/
structure ServerConfig (Obj : Type) where
  grpcServer : GRPCServerConfig
  httpGateway : Bool
  metricsAPI : Bool
  dispatchCache : CacheConfig
  namespaceCache : CacheConfig
  clusterDispatchCache : CacheConfig
  datastore : Obj

/-- The fields of `Instance` as a start leaves them in the registry. -/
structure Instance (Obj : Type) where
  server : Obj
  transport : String
  clientConn : Obj
  streamingAddr : Address
  streamingListener : Obj
  /-- `prevTracerProvider` and `tracerProvider`. -/
  tracing : Option (Obj × Obj)
  metricsServer : Option Obj

/-- An external call with its arguments. -/
inductive Call (Obj : Type)
  | addNextID
  | newDatastore (opts : List DatastoreOption)
  | complete (config : ServerConfig Obj)
  | newExporter (endpoint : String) (secure : Bool)
  | mergeResource (serviceName : String)
  | getTracerProvider
  | newTracerProvider (exporter resource : Obj)
  | setTracerProvider (provider : Obj)
  | setTextMapPropagator
  | listen (addr : Address)
  | listenerAddr (listener : Obj)
  | serveMetrics (listener : Obj) (addr : String)
  | run (server : Obj)
  | newClient (server : Obj)
  | remove (addr : Address)
  | serveProxy (listener conn : Obj) (id : UInt64)
  | register (id : UInt64) (inst : Instance Obj)
  | cancel
  | wait
  | shutdownMetrics (listener : Obj)
  | shutdownTracing (provider : Obj)

/-- What a call answers. -/
def Call.Answer {Obj : Type} : Call Obj → Type
  | .addNextID => UInt64
  | .newDatastore _ | .complete _ | .newExporter _ _ | .mergeResource _ | .listen _ | .newClient _ =>
    Except String Obj
  | .getTracerProvider | .newTracerProvider _ _ => Obj
  | .listenerAddr _ => String
  | .setTracerProvider _ | .setTextMapPropagator | .serveMetrics _ _ | .run _ | .remove _
  | .serveProxy _ _ _ | .register _ _ | .cancel | .wait | .shutdownMetrics _ | .shutdownTracing _ =>
    Unit

/-- The data of a successful answer. -/
structure Started where
  handle : UInt64
  grpcTransport : String
  streamingAddress : Address
  streamingTransport : String
  deriving DecidableEq

/-! ### The program -/

section Program

variable {Obj α : Type}

/-- A program over the calls that may return an error. -/
abbrev Fallible (Obj α : Type) : Type := ExceptT String (Program (Call Obj) Call.Answer) α

/-- A call by itself. -/
def perform (call : Call Obj) : Program (Call Obj) Call.Answer call.Answer := .call call .done

/-- A call that cannot fail. -/
def ask (call : Call Obj) : Fallible Obj call.Answer :=
  ExceptT.mk (.call call fun answer => .done (.ok answer))

/-- `if err != nil`: the cleanup, and the error with a text around it. -/
def orReturn (text : String → String) (cleanup : Program (Call Obj) Call.Answer Unit)
    (step : Fallible Obj α) : Fallible Obj α :=
  ExceptT.mk (step.run >>= fun
    | .error err => cleanup >>= fun _ => .done (.error (text err))
    | .ok value => .done (.ok value))

/-- `newDatastoreFromOpts`. -/
def newDatastoreFromOpts (opts : StartOptions) : Fallible Obj Obj :=
  ExceptT.mk (perform (.newDatastore opts.datastoreOpts))

/-- `newSpiceDBServerFromDatastore`. -/
def newSpiceDBServerFromDatastore (addr transport : String) (ds : Obj) (cacheMetricsEnabled : Bool) :
    Fallible Obj Obj :=
  let grpcConfig : GRPCServerConfig :=
    if transport = "memory" then ⟨true, .buffered, "", 1024 * 1024⟩
    else ⟨true, if transport = "tcp" then .tcp else .unix, addr, 0⟩
  let cache : CacheConfig := ⟨false, cacheMetricsEnabled⟩
  ExceptT.mk (perform (.complete ⟨grpcConfig, false, false, cache, cache, cache, ds⟩))

/-- `setupOTelTracing`: the previous tracer provider and the new one. -/
def setupOTelTracing (endpoint serviceName : String) : Fallible Obj (Obj × Obj) := do
  let exporter ← orReturn ("creating OTLP gRPC exporter: " ++ ·) (pure ())
    (ExceptT.mk (perform (.newExporter endpoint false)))
  let res ← orReturn ("building trace resource: " ++ ·) (pure ())
    (ExceptT.mk (perform (.mergeResource serviceName)))
  let prev ← ask .getTracerProvider
  let tp ← ask (.newTracerProvider exporter res)
  ask (.setTracerProvider tp)
  ask .setTextMapPropagator
  pure (prev, tp)

/-- `startMetricsServer`. -/
def startMetricsServer (addr : String) (port : Int) : Fallible Obj Obj := do
  let ln ← orReturn (fun err => "binding metrics port " ++ toString port ++ ": " ++ err) (pure ())
    (ExceptT.mk (perform (.listen (.tcp addr))))
  ask (.serveMetrics ln addr)
  pure ln

/-- `cleanupObservability`. -/
def cleanupObservability (metricsServer : Option Obj) (tracing : Option (Obj × Obj)) :
    Program (Call Obj) Call.Answer Unit := do
  match metricsServer with
  | none => pure ()
  | some server => perform (.shutdownMetrics server)
  match tracing with
  | none => pure ()
  | some (prev, tp) =>
    perform (.shutdownTracing tp)
    perform (.setTracerProvider prev)

/-- `startStreamingProxy`: the listener and its address. -/
def startStreamingProxy (windows : Bool) (conn : Obj) (id : UInt64) : Fallible Obj (Obj × Address) := do
  let (lis, addr) ←
    if windows then do
      let lis ← ExceptT.mk (perform (.listen (.tcp "127.0.0.1:0")))
      let addr ← ask (.listenerAddr lis)
      pure (lis, Address.tcp addr)
    else do
      ask (.remove (.socket id))
      let lis ← ExceptT.mk (perform (.listen (.socket id)))
      pure (lis, Address.socket id)
  ask (.serveProxy lis conn id)
  pure (lis, addr)

/-- The tracing stage of `spicedb_start`. -/
def configureTracing (opts : StartOptions) : Fallible Obj (Option (Obj × Obj)) :=
  if opts.tracing then do
    let tracing ← orReturn (Stage.failure · .tracing) (perform .cancel)
      (setupOTelTracing opts.otlpEndpoint opts.serviceName)
    pure (some tracing)
  else pure none

/-- The metrics stage of `spicedb_start`. -/
def configureMetrics (opts : StartOptions) (tracing : Option (Obj × Obj)) :
    Fallible Obj (Option Obj) :=
  if opts.metrics then do
    let metricsServer ← orReturn (Stage.failure · .metrics)
      (do perform .cancel; cleanupObservability none tracing)
      (startMetricsServer opts.metricsAddr opts.metricsPort)
    pure (some metricsServer)
  else pure none

/-- `spicedb_start`, once it has an id for its instance. -/
def startInstance (windows : Bool) (opts : StartOptions) (id : UInt64) : Fallible Obj Started := do
  let ds ← orReturn (Stage.failure · .datastore) (perform .cancel) (newDatastoreFromOpts opts)
  let srv ← orReturn (Stage.failure · .server) (perform .cancel)
    (newSpiceDBServerFromDatastore "" "memory" ds opts.cacheMetrics)
  let tracing ← configureTracing opts
  let metricsServer ← configureMetrics opts tracing
  let abandon := do perform .cancel; perform .wait; cleanupObservability metricsServer tracing
  ask (.run srv)
  let conn ← orReturn (Stage.failure · .client) abandon (ExceptT.mk (perform (.newClient srv)))
  let (lis, addr) ← orReturn (Stage.failure · .proxy) abandon (startStreamingProxy windows conn id)
  ask (.register id ⟨srv, "memory", conn, addr, lis, tracing, metricsServer⟩)
  pure ⟨id, "memory", addr, if windows then "tcp" else "unix"⟩

/-- `spicedb_start`, once its options have been read. -/
def spicedbStart (windows : Bool) (opts : StartOptions) : Fallible Obj Started := do
  ExceptT.mk (pure opts.validate)
  let id ← ask .addNextID
  startInstance windows opts id

/-- The run of a start. -/
def start (env : Environment (Call Obj) Call.Answer) (windows : Bool) (opts : StartOptions) :
    Run (Call Obj) (Except String Started) :=
  (spicedbStart windows opts).run.run env []

end Program

/-! ### The calls of each function -/

section Only

variable {Obj α : Type} {allowed : Call Obj → Prop}

theorem only_perform (call : Call Obj) (fine : allowed call) : Only allowed (perform call) :=
  Obeys.call fine fun _ => Obeys.done trivial

theorem only_ask (call : Call Obj) (fine : allowed call) : Only allowed (ask call).run :=
  Obeys.call fine fun _ => Obeys.done trivial

theorem only_pure (value : α) : Only allowed (pure value : Fallible Obj α).run :=
  Obeys.done trivial

theorem only_orReturn (text : String → String) {cleanup : Program (Call Obj) Call.Answer Unit}
    {step : Fallible Obj α} (clean : Only allowed cleanup) (fine : Only allowed step.run) :
    Only allowed (orReturn text cleanup step).run := by
  refine Obeys.bind fine ?_
  intro result _
  cases result with
  | error err => exact Obeys.bind clean fun _ _ => Obeys.done trivial
  | ok value => exact Obeys.done trivial
end Only

/-! ### Observability that is off -/

/-- The call sets up or uses nothing of observability. -/
def Call.Unobserved {Obj : Type} : Call Obj → Prop
  | .newDatastore opts => DatastoreOption.enableDatastoreMetrics true ∉ opts
  | .complete config => config.dispatchCache.metrics = false ∧ config.namespaceCache.metrics = false ∧
    config.clusterDispatchCache.metrics = false
  | .newExporter _ _ | .mergeResource _ | .getTracerProvider | .newTracerProvider _ _
  | .setTracerProvider _ | .setTextMapPropagator | .serveMetrics _ _ | .shutdownMetrics _
  | .shutdownTracing _ => False
  -- the only port bound is the streaming proxy's
  | .listen (.tcp hostPort) => hostPort = "127.0.0.1:0"
  | _ => True

section Unobserved

variable {Obj : Type} {opts : StartOptions}

theorem unobserved_startStreamingProxy (windows : Bool) (conn : Obj) (id : UInt64) :
    Only Call.Unobserved (startStreamingProxy windows conn id).run := by
  have serve : ∀ bound : Obj × Address, Only Call.Unobserved
      (do ask (.serveProxy bound.1 conn id); pure bound : Fallible Obj (Obj × Address)).run :=
    fun bound => Only.bindExcept (only_ask _ trivial) fun _ => only_pure bound
  cases windows with
  | true =>
    refine Only.bindExcept (only_perform (.listen (.tcp "127.0.0.1:0")) rfl) fun lis => ?_
    refine Only.bindExcept (only_ask (.listenerAddr lis) trivial) fun addr => ?_
    exact serve (lis, .tcp addr)
  | false =>
    refine Only.bindExcept (only_ask (.remove (.socket id)) trivial) fun _ => ?_
    refine Only.bindExcept (only_perform (.listen (.socket id)) trivial) fun lis => ?_
    exact serve (lis, .socket id)

theorem unobserved_datastoreOpts (off : opts.metricsEnabled = false) :
    DatastoreOption.enableDatastoreMetrics true ∉ opts.datastoreOpts := by
  rw [StartOptions.datastoreOpts, off]
  simp [apply_ite (DatastoreOption.enableDatastoreMetrics true ∈ ·)]

theorem unobserved_spicedbStart (windows : Bool) (off : opts.metricsEnabled = false) :
    Only Call.Unobserved (spicedbStart windows opts : Fallible Obj Started).run := by
  have cancel : Only Call.Unobserved (perform .cancel : Program (Call Obj) Call.Answer _) :=
    only_perform .cancel trivial
  have caches : opts.cacheMetrics = false := by rw [StartOptions.cacheMetrics, off, Bool.false_and]
  have untraced : (configureTracing opts : Fallible Obj (Option (Obj × Obj))) = pure none := by
    rw [configureTracing, StartOptions.tracing, off]
    rfl
  have unmetered : (configureMetrics opts none : Fallible Obj (Option Obj)) = pure none := by
    rw [configureMetrics, StartOptions.metrics, off]
    rfl
  have abandon : Only Call.Unobserved (do
      perform .cancel; perform .wait; cleanupObservability none none :
        Program (Call Obj) Call.Answer Unit) :=
    Obeys.bind cancel fun _ _ => Obeys.bind (only_perform .wait trivial) fun _ _ => Obeys.done trivial
  refine Only.bindExcept (Obeys.done trivial) fun _ => ?_
  refine Only.bindExcept (only_ask .addNextID trivial) fun id => ?_
  refine Only.bindExcept (only_orReturn _ cancel (only_perform (.newDatastore _)
    (unobserved_datastoreOpts off))) fun ds => ?_
  refine Only.bindExcept (only_orReturn _ cancel (only_perform (.complete _)
    ⟨caches, caches, caches⟩)) fun srv => ?_
  rw [untraced]
  show Only Call.Unobserved (configureMetrics opts none >>= _ : Fallible Obj Started).run
  rw [unmetered]
  show Only Call.Unobserved (ask (.run srv) >>= _ : Fallible Obj Started).run
  refine Only.bindExcept (only_ask (.run srv) trivial) fun _ => ?_
  refine Only.bindExcept (only_orReturn _ abandon (only_perform (.newClient srv) trivial))
    fun conn => ?_
  refine Only.bindExcept (only_orReturn _ abandon
    (unobserved_startStreamingProxy windows conn id)) fun bound => ?_
  exact Only.bindExcept (only_ask (.register id _) trivial) fun _ => only_pure _

/-- **Without `metrics_enabled` a start touches nothing of observability**, whatever else is set. -/
theorem calls_unobserved (env : Environment (Call Obj) Call.Answer) (windows : Bool)
    (off : opts.metricsEnabled = false) : ∀ call ∈ (start env windows opts).calls, call.Unobserved :=
  ((unobserved_spicedbStart windows off).run env []).1

end Unobserved

/-! ### The process behind the calls -/

section Process

variable {Obj α : Type} {opts : StartOptions}

/-- The text is that of a stage of the start. -/
def FailsAtStage (opts : StartOptions) (text : String) : Prop :=
  ∃ stage ∈ opts.stages, ∃ err, text = stage.failure err

theorem ends_orReturn {stage : Stage} (known : stage ∈ opts.stages)
    (cleanup : Program (Call Obj) Call.Answer Unit) (step : Fallible Obj α) :
    Obeys (fun _ => True) (Ends (fun _ => True) (FailsAtStage opts))
      (orReturn (Stage.failure · stage) cleanup step).run := by
  refine Obeys.bind (Obeys.any step.run) ?_
  intro result _
  cases result with
  | error err =>
    have failed : FailsAtStage opts (stage.failure err) := ⟨stage, known, err, rfl⟩
    exact Obeys.bind (Obeys.any cleanup) fun _ _ => Obeys.done failed
  | ok value => exact Obeys.done trivial

theorem ends_ask (call : Call Obj) (bad : String → Prop) :
    Obeys (fun _ => True) (Ends (fun _ => True) bad) (ask call).run :=
  Obeys.call trivial fun _ => Obeys.done trivial

theorem ends_configureTracing :
    Obeys (fun _ => True) (Ends (fun _ => True) (FailsAtStage opts))
      (configureTracing opts : Fallible Obj (Option (Obj × Obj))).run := by
  rw [configureTracing]
  split
  · next on =>
    have known : Stage.tracing ∈ opts.stages := by simp [StartOptions.stages, on]
    exact Obeys.bindExcept (ends_orReturn known _ _) fun tracing _ => Obeys.done trivial
  · exact Obeys.done trivial

theorem ends_configureMetrics (tracing : Option (Obj × Obj)) :
    Obeys (fun _ => True) (Ends (fun _ => True) (FailsAtStage opts))
      (configureMetrics opts tracing).run := by
  rw [configureMetrics]
  split
  · next on =>
    have known : Stage.metrics ∈ opts.stages := by simp [StartOptions.stages, on]
    exact Obeys.bindExcept (ends_orReturn known _ _) fun server _ => Obeys.done trivial
  · exact Obeys.done trivial

/-- A start that has drawn its id returns it, or fails at one of its stages. -/
theorem ends_startInstance (windows : Bool) (id : UInt64) :
    Obeys (fun _ => True) (Ends (fun started => started.handle = id) (FailsAtStage opts))
      (startInstance windows opts id : Fallible Obj Started).run := by
  have always : ∀ stage ∈ [Stage.datastore, .server, .client, .proxy], stage ∈ opts.stages := by
    simp [StartOptions.stages]
  refine Obeys.bindExcept (ends_orReturn (always .datastore (by decide)) _ _) fun ds _ => ?_
  refine Obeys.bindExcept (ends_orReturn (always .server (by decide)) _ _) fun srv _ => ?_
  refine Obeys.bindExcept ends_configureTracing fun tracing _ => ?_
  refine Obeys.bindExcept (ends_configureMetrics tracing) fun metricsServer _ => ?_
  refine Obeys.bindExcept (ends_ask (.run srv) _) fun _ _ => ?_
  refine Obeys.bindExcept (ends_orReturn (always .client (by decide)) _ _) fun conn _ => ?_
  refine Obeys.bindExcept (ends_orReturn (always .proxy (by decide)) _ _) fun bound _ => ?_
  refine Obeys.bindExcept (ends_ask (.register id _) _) fun _ _ => ?_
  exact Obeys.done rfl

/-- The outcomes where a single stage fails. -/
def failOnly (failed : Stage) (err : String) : Outcomes := fun stage =>
  if stage = failed then .error err else .ok ()

theorem runStages_failOnly {failed : Stage} (err : String) :
    ∀ (stages : List Stage) (inst : Lifecycle.Instance) (p : Process), failed ∈ stages →
      (runStages (failOnly failed err) stages inst p).1 = .error (failed.failure err) := by
  intro stages
  induction stages with
  | nil => exact fun inst p known => absurd known (List.not_mem_nil)
  | cons stage left ih =>
    intro inst p known
    by_cases here : stage = failed
    · have outcome : failOnly failed err stage = .error err := if_pos here
      rw [runStages, outcome, here]
    · have outcome : failOnly failed err stage = .ok () := if_neg here
      rw [runStages, outcome]
      exact ih _ _ ((List.mem_cons.mp known).resolve_left fun same => here same.symm)

theorem spicedbStart_failOnly {failed : Stage} (valid : opts.validate = .ok ())
    (known : failed ∈ opts.stages) (err : String) (p : Process) :
    (Lifecycle.spicedbStart (failOnly failed err) opts p).1 = .error (failed.failure err) := by
  have stopped := runStages_failOnly err opts.stages { owner := p.allocated }
    { p with nextID := p.nextID + 1, allocated := p.allocated + 1 } known
  rw [Lifecycle.spicedbStart, valid]
  dsimp only
  split
  · next text q run =>
    rw [run] at stopped
    exact congrArg Except.error (Except.error.inj stopped)
  · next inst q run =>
    rw [run] at stopped
    cases stopped

/-- With outcomes that are all well a start returns the id it draws. -/
theorem spicedbStart_allWell {opts : StartOptions} (valid : opts.validate = .ok ()) (p : Process) :
    (Lifecycle.spicedbStart (fun _ => .ok ()) opts p).1 = .ok (p.nextID + 1) := by
  have none : failing (fun _ => .ok ()) opts = none := by
    rw [failing, valid]
    exact List.find?_eq_none.mpr fun stage _ => by simp [Outcomes.fails, Except.isOk, Except.toBool]
  rcases spicedbStart_spec (fun _ => .ok ()) opts p with ⟨text, invalid, -⟩ |
    ⟨stage, text, first, -⟩ | ⟨-, run⟩
  · rw [valid] at invalid
    cases invalid
  · rw [none] at first
    cases first
  · rw [run]

/-- **What a start returns is what `spicedbStart` on the process returns**, for some outcomes of its
stages, where the process hands out the id that the environment hands out. -/
theorem spicedbStart_process (env : Environment (Call Obj) Call.Answer) (windows : Bool)
    (opts : StartOptions) :
    ∃ outcomes : Outcomes, ∀ p : Process, p.nextID + 1 = env [] .addNextID →
      (Lifecycle.spicedbStart outcomes opts p).1 =
        (start env windows opts).result.map Started.handle := by
  cases valid : opts.validate with
  | error text =>
    refine ⟨fun _ => .ok (), fun p drawn => ?_⟩
    rw [Lifecycle.spicedbStart, start, spicedbStart, valid]
    rfl
  | ok =>
    have result : (start env windows opts).result =
        ((startInstance windows opts (env [] .addNextID)).run.run env [.addNextID]).result := by
      rw [start, spicedbStart, valid]
      rfl
    have ends : Ends (fun started => started.handle = env [] .addNextID) (FailsAtStage opts)
        ((startInstance windows opts (env [] .addNextID)).run.run env [.addNextID]).result :=
      ((ends_startInstance windows _).run env _).2
    rw [result]
    cases returned : ((startInstance windows opts (env [] .addNextID)).run.run env
        [.addNextID]).result with
    | error text =>
      rw [returned] at ends
      obtain ⟨stage, known, err, rfl⟩ := ends
      refine ⟨failOnly stage err, fun p drawn => ?_⟩
      exact spicedbStart_failOnly valid known err p
    | ok started =>
      rw [returned] at ends
      have handle : started.handle = env [] .addNextID := ends
      refine ⟨fun _ => .ok (), fun p drawn => ?_⟩
      rw [spicedbStart_allWell valid]
      exact congrArg Except.ok (drawn.trans handle.symm)

end Process

end SpicedbEmbedded.Lifecycle.Calls
