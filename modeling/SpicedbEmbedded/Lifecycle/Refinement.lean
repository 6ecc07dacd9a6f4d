/-
**The calls of a start and a dispose, on the process.**

`spicedb_start` and `spicedb_dispose`, call by call, in surroundings that are the process itself:
each call acquires or releases what it says, sets the global tracer provider, or changes the
registry.

* `Host` — the process, with the objects that the registry holds; `Host.act`, `Host.finish` — what a
  call of a start and of a dispose does to it; `spicedbDispose` — the dispose as a program.
* `Simulates` — a stage of the start, and its calls; `Continues` — what is left of the start.
* `runOn_start` — the start on the host is the start in the environment that the host is.
* `start_ends`, `dispose_refines` — one start and one dispose.
* **`host_refines`** — any starts and disposes, call by call, return and leave what those of
  `Lifecycle.step` do, stage by stage, for the outcomes of their stages.
-/

import SpicedbEmbedded.Lifecycle.Calls
import SpicedbEmbedded.Lifecycle.Tracing
import SpicedbEmbedded.Machine.History

namespace SpicedbEmbedded.Lifecycle.Calls

open Shared (StartOptions Stage)
open Machine

/-! ### The host -/

/-- What the external calls hand back. -/
inductive Object
  | resource (r : Resource)
  | listener (owner : Nat)
  | provider (tp : TracerProvider)
  | part

/-- The instance an object belongs to. -/
def Object.owner : Object → Nat
  | .resource r => r.owner
  | .listener owner | .provider (.own owner) => owner
  | .provider .installed | .part => 0

/-- The tracer provider that an object is. -/
def Object.tracerProvider : Object → TracerProvider
  | .provider tp => tp
  | _ => .installed

/-- The fields the lifecycle reads of an instance in the registry. -/
def Instance.fields (inst : Instance Object) : Lifecycle.Instance where
  owner := inst.server.owner
  clientConn := true
  streamingListener := true
  tracerProvider := inst.tracing.isSome
  prevTracerProvider := (inst.tracing.map fun pair => pair.1.tracerProvider).getD .installed
  metricsServer := inst.metricsServer.isSome

/-- The process, and the objects in its registry. -/
structure Host where
  process : Process
  registry : UInt64 → Option (Instance Object)

/-- The host after something has happened to the process. -/
def Host.on (h : Host) (p : Process) : Host := { h with process := p }

/-- How the calls that can fail come out, and the address of a listener on a port. -/
structure Outside where
  outcome : Call Object → Except String Unit
  listenerAddr : String

/-- A call that can fail. -/
def Outside.attempt (out : Outside) (call : Call Object) (object : Object) (made failed : Host) :
    Except String Object × Host :=
  match out.outcome call with
  | .error err => (.error err, failed)
  | .ok () => (.ok object, made)

/-- The number of the instance that is being started. -/
def Host.current (h : Host) : Nat := h.process.allocated - 1

/-- What a call does. A listener counts as held from the moment it is served; a `Complete` that
fails releases its datastore; `cancel` takes effect where `server.Run` is waited for. -/
def Host.act (out : Outside) : (call : Call Object) → Host → call.Answer × Host
  | .addNextID, h => (h.process.nextID + 1, h.on
      { h.process with nextID := h.process.nextID + 1, allocated := h.process.allocated + 1 })
  | .newDatastore opts, h => out.attempt (.newDatastore opts) (.resource ⟨.datastore, h.current⟩)
      (h.on (h.process.acquire .datastore h.current)) h
  | .complete config, h => out.attempt (.complete config)
      (.resource ⟨.server, config.datastore.owner⟩)
      (h.on (h.process.acquire .server config.datastore.owner))
      (h.on (h.process.release .datastore config.datastore.owner))
  | .newExporter endpoint secure, h => out.attempt (.newExporter endpoint secure) .part h h
  | .mergeResource serviceName, h => out.attempt (.mergeResource serviceName) .part h h
  | .getTracerProvider, h => (.provider h.process.tracerProvider, h)
  | .newTracerProvider _ _, h =>
    (.provider (.own h.current), h.on (h.process.acquire .tracerProvider h.current))
  | .setTracerProvider tp, h => ((), h.on (h.process.setTracerProvider tp.tracerProvider))
  | .setTextMapPropagator, h => ((), h)
  | .listen addr, h => out.attempt (.listen addr) (.listener h.current) h h
  | .listenerAddr _, h => (out.listenerAddr, h)
  | .serveMetrics listener _, h => ((), h.on (h.process.acquire .metricsServer listener.owner))
  | .run server, h => ((), h.on (h.process.acquire .goroutine server.owner))
  | .newClient server, h => out.attempt (.newClient server)
      (.resource ⟨.clientConn, server.owner⟩) (h.on (h.process.acquire .clientConn server.owner)) h
  | .remove _, h => ((), h)
  | .serveProxy listener _ _, h =>
    ((), h.on (h.process.acquire .streamingListener listener.owner))
  | .register id inst, h => ((), ⟨h.process.setInstance id (some inst.fields),
      Function.update h.registry id (some inst)⟩)
  | .cancel, h => ((), h)
  | .wait, h => ((), h.on (h.process.awaitRun h.current))
  | .shutdownMetrics listener, h =>
    ((), h.on (h.process.release .metricsServer listener.owner))
  | .shutdownTracing provider, h =>
    ((), h.on (h.process.release .tracerProvider provider.owner))

/-! ### The outcomes of the stages -/

/-- The configuration of a server behind the in-memory transport. -/
def memoryConfig (opts : StartOptions) (ds : Object) : ServerConfig Object :=
  let cache : CacheConfig := ⟨false, opts.cacheMetrics⟩
  ⟨⟨true, .buffered, "", 1024 * 1024⟩, false, false, cache, cache, cache, ds⟩

/-- An error with a text around it. -/
def within (text : String → String) : Except String Unit → Except String Unit
  | .error err => .error (text err)
  | .ok () => .ok ()

/-- How a stage of a start comes out. -/
def Outside.stage (out : Outside) (windows : Bool) (opts : StartOptions) (owner : Nat)
    (id : UInt64) : Outcomes
  | .datastore => out.outcome (.newDatastore opts.datastoreOpts)
  | .server => out.outcome (.complete (memoryConfig opts (.resource ⟨.datastore, owner⟩)))
  | .tracing =>
    match within ("creating OTLP gRPC exporter: " ++ ·)
        (out.outcome (.newExporter opts.otlpEndpoint false)) with
    | .error err => .error err
    | .ok () => within ("building trace resource: " ++ ·)
        (out.outcome (.mergeResource opts.serviceName))
  | .metrics =>
    within (fun err => "binding metrics port " ++ toString opts.metricsPort ++ ": " ++ err)
      (out.outcome (.listen (.tcp opts.metricsAddr)))
  | .client => out.outcome (.newClient (.resource ⟨.server, owner⟩))
  | .proxy => out.outcome (.listen (if windows then .tcp "127.0.0.1:0" else .socket id))

/-! ### Stages -/

/-- What an instance holds of the tracing and the metrics stage. -/
def tracingOf (inst : Lifecycle.Instance) : Option (Object × Object) :=
  if inst.tracerProvider then
    some (.provider inst.prevTracerProvider, .provider (.own inst.owner))
  else none

def metricsOf (inst : Lifecycle.Instance) : Option Object :=
  if inst.metricsServer then some (.listener inst.owner) else none

/-- The other objects of an instance. -/
def datastoreOf (inst : Lifecycle.Instance) : Object := .resource ⟨.datastore, inst.owner⟩

def serverOf (inst : Lifecycle.Instance) : Object := .resource ⟨.server, inst.owner⟩

def connOf (inst : Lifecycle.Instance) : Object := .resource ⟨.clientConn, inst.owner⟩

/-- The instance as it is registered. -/
def registered (inst : Lifecycle.Instance) (addr : Address) : Instance Object :=
  ⟨serverOf inst, "memory", connOf inst, addr, .listener inst.owner, tracingOf inst, metricsOf inst⟩

theorem fields_registered {inst : Lifecycle.Instance} (conn : inst.clientConn = true)
    (listener : inst.streamingListener = true)
    (untraced : inst.tracerProvider = false → inst.prevTracerProvider = .installed)
    (addr : Address) : (registered inst addr).fields = inst := by
  obtain ⟨owner, clientConn, streamingListener, tracerProvider, prev, metricsServer⟩ := inst
  simp only at conn listener untraced
  subst conn listener
  cases tracerProvider with
  | true => cases metricsServer <;> rfl
  | false =>
    rw [untraced rfl]
    cases metricsServer <;> rfl

section Stages

variable {out : Outside} {env : Outcomes} {α : Type}

/-- The calls of a stage do to the host what the stage does to the process. -/
def Simulates (out : Outside) (env : Outcomes) (stage : Stage) (inst : Lifecycle.Instance)
    (step : Fallible Object α) (value : Lifecycle.Instance → α) : Prop :=
  ∀ h : Host, h.process.allocated = inst.owner + 1 →
    step.run.runOn (Host.act out) h =
      match env stage with
      | .error err => (.error (stage.failure err),
          h.on (abandon inst (enter inst h.process stage) stage))
      | .ok () => (.ok (value (succeed inst (enter inst h.process stage) stage).1),
          h.on (succeed inst (enter inst h.process stage) stage).2)

/-- The rest of a start does to the host what the stages left do to the process. -/
def Continues (out : Outside) (env : Outcomes) (id : UInt64) (stages : List Stage)
    (inst : Lifecycle.Instance) (rest : Fallible Object Started) : Prop :=
  ∀ h : Host, h.process.allocated = inst.owner + 1 →
    match runStages env stages inst h.process with
    | (.error text, p) => rest.run.runOn (Host.act out) h = (.error text, h.on p)
    | (.ok last, p) => ∃ started addr, (registered last addr).fields = last ∧ started.handle = id ∧
        rest.run.runOn (Host.act out) h = (.ok started,
          ⟨p.setInstance id (some last),
            Function.update h.registry id (some (registered last addr))⟩)

theorem succeed_allocated (inst : Lifecycle.Instance) (p : Process) (stage : Stage) :
    (succeed inst (enter inst p stage) stage).1.owner = inst.owner ∧
      (succeed inst (enter inst p stage) stage).2.allocated = p.allocated := by
  cases stage <;> exact ⟨rfl, rfl⟩

/-- **A stage, and what is left after it.** -/
theorem Continues.stage {id : UInt64} {stage : Stage} {left : List Stage}
    {inst : Lifecycle.Instance} {step : Fallible Object α} {value : Lifecycle.Instance → α}
    {rest : α → Fallible Object Started} (first : Simulates out env stage inst step value)
    (later : ∀ p, Continues out env id left (succeed inst (enter inst p stage) stage).1
      (rest (value (succeed inst (enter inst p stage) stage).1))) :
    Continues out env id (stage :: left) inst (step >>= rest) := by
  intro h allocated
  rw [runStages, Program.runOn_bindExcept, first h allocated]
  cases env stage with
  | error err => rfl
  | ok =>
    obtain ⟨owner, same⟩ := succeed_allocated inst h.process stage
    exact later h.process (h.on _) (same.trans (allocated.trans (owner ▸ rfl)))

/-- A step whose error is returned after a cleanup. -/
theorem runOn_orReturn (text : String → String) (cleanup : Program (Call Object) Call.Answer Unit)
    (step : Fallible Object α) (h : Host) :
    (orReturn text cleanup step).run.runOn (Host.act out) h =
      match step.run.runOn (Host.act out) h with
      | (.error err, t) => (.error (text err), (cleanup.runOn (Host.act out) t).2)
      | (.ok value, t) => (.ok value, t) := by
  show (step.run >>= _).runOn (Host.act out) h = _
  rw [Program.runOn_bind]
  rcases step.run.runOn (Host.act out) h with ⟨err | value, t⟩
  · exact Program.runOn_bind ..
  · rfl

/-- A call that can fail, whose error gets a text around it. -/
theorem runOn_orReturn_attempt (text : String → String) {step : Fallible Object Object}
    {call : Call Object} {object : Object} {h made failed : Host}
    (called : step.run.runOn (Host.act out) h = out.attempt call object made failed) :
    (orReturn text (pure ()) step).run.runOn (Host.act out) h =
      match within text (out.outcome call) with
      | .error err => (.error err, failed)
      | .ok () => (.ok object, made) := by
  rw [runOn_orReturn, called, Outside.attempt]
  cases out.outcome call <;> rfl

/-- **The cleanup of what an instance has of observability.** -/
theorem runOn_cleanupObservability (inst : Lifecycle.Instance) (h : Host) :
    (cleanupObservability (metricsOf inst) (tracingOf inst)).runOn (Host.act out) h =
      ((), h.on (Lifecycle.cleanupObservability inst h.process)) := by
  unfold Lifecycle.cleanupObservability shutdownMetrics shutdownTracing metricsOf tracingOf
  cases inst.metricsServer <;> cases inst.tracerProvider <;> rfl

/-- What a stage returns may be wrapped. -/
theorem Simulates.map {β : Type} {stage : Stage} {inst : Lifecycle.Instance}
    {step : Fallible Object α} {value : Lifecycle.Instance → α} {wrapped : Lifecycle.Instance → β}
    (f : α → β) (first : Simulates out env stage inst step value)
    (same : ∀ p, f (value (succeed inst (enter inst p stage) stage).1) =
      wrapped (succeed inst (enter inst p stage) stage).1) :
    Simulates out env stage inst (step >>= fun result => pure (f result)) wrapped := by
  intro h allocated
  rw [Program.runOn_bindExcept, first h allocated]
  cases env stage with
  | error err => rfl
  | ok => exact congrArg (Except.ok ·, h.on _) (same h.process)

/-- A stage by what its step does, where it fails and where it does not. -/
theorem Simulates.orReturn {stage : Stage} {inst : Lifecycle.Instance} {step : Fallible Object α}
    {cleanup : Program (Call Object) Call.Answer Unit} {value : Lifecycle.Instance → α}
    (ran : ∀ h : Host, h.process.allocated = inst.owner + 1 →
      match env stage with
      | .error err => ∃ t, step.run.runOn (Host.act out) h = (.error err, t) ∧
          (cleanup.runOn (Host.act out) t).2 =
            h.on (abandon inst (enter inst h.process stage) stage)
      | .ok () => step.run.runOn (Host.act out) h =
          (.ok (value (succeed inst (enter inst h.process stage) stage).1),
            h.on (succeed inst (enter inst h.process stage) stage).2)) :
    Simulates out env stage inst (orReturn (Stage.failure · stage) cleanup step) value := by
  intro h allocated
  have here := ran h allocated
  rw [runOn_orReturn]
  cases ended : env stage with
  | error err =>
    rw [ended] at here
    obtain ⟨t, failed, left⟩ := here
    rw [failed]
    exact congrArg (Except.error (stage.failure err), ·) left
  | ok =>
    rw [ended] at here
    rw [here]

end Stages

/-! ### The stages of a start -/

section Start

variable (out : Outside) (windows : Bool) (opts : StartOptions) (id : UInt64)
  (inst : Lifecycle.Instance)

variable {inst} in
theorem current_eq {h : Host} (allocated : h.process.allocated = inst.owner + 1) :
    h.current = inst.owner := by
  rw [Host.current, allocated, Nat.add_sub_cancel]

theorem simulates_datastore : Simulates out (out.stage windows opts inst.owner id) .datastore inst
    (orReturn (Stage.failure · .datastore) (perform .cancel) (newDatastoreFromOpts opts))
    datastoreOf := by
  refine .orReturn fun h allocated => ?_
  have ran : (newDatastoreFromOpts opts : Fallible Object Object).run.runOn (Host.act out) h =
      out.attempt (.newDatastore opts.datastoreOpts) (datastoreOf inst)
        (h.on (h.process.acquire .datastore inst.owner)) h := by
    rw [datastoreOf, ← current_eq allocated]
    rfl
  rw [ran, Outside.attempt, Outside.stage]
  cases out.outcome (.newDatastore opts.datastoreOpts) with
  | error err => exact ⟨h, rfl, rfl⟩
  | ok => rfl

theorem simulates_server : Simulates out (out.stage windows opts inst.owner id) .server inst
    (orReturn (Stage.failure · .server) (perform .cancel)
      (newSpiceDBServerFromDatastore "" "memory" (datastoreOf inst) opts.cacheMetrics))
    serverOf := by
  refine .orReturn fun h _ => ?_
  have ran : (newSpiceDBServerFromDatastore "" "memory" (datastoreOf inst)
      opts.cacheMetrics).run.runOn (Host.act out) h =
        out.attempt (.complete (memoryConfig opts (datastoreOf inst))) (serverOf inst)
          (h.on (h.process.acquire .server inst.owner))
          (h.on (h.process.release .datastore inst.owner)) := rfl
  rw [ran, Outside.attempt, Outside.stage]
  show match out.outcome (.complete (memoryConfig opts (datastoreOf inst))) with
    | .error _ => _ | .ok () => _
  cases out.outcome (.complete (memoryConfig opts (datastoreOf inst))) with
  | error err => exact ⟨_, rfl, rfl⟩
  | ok => rfl

/-- Setting up tracing. -/
theorem runOn_setupOTelTracing (h : Host) :
    (setupOTelTracing opts.otlpEndpoint opts.serviceName).run.runOn (Host.act out) h =
      match out.stage windows opts inst.owner id .tracing with
      | .error err => (.error err, h)
      | .ok () => (.ok (.provider h.process.tracerProvider, .provider (.own h.current)),
          h.on ((h.process.acquire .tracerProvider h.current).setTracerProvider
            (.own h.current))) := by
  have exporter : (orReturn ("creating OTLP gRPC exporter: " ++ ·) (pure ())
      (ExceptT.mk (perform (.newExporter opts.otlpEndpoint false)))).run.runOn (Host.act out) h =
        match within ("creating OTLP gRPC exporter: " ++ ·)
          (out.outcome (.newExporter opts.otlpEndpoint false)) with
        | .error err => (.error err, h)
        | .ok () => (.ok .part, h) := runOn_orReturn_attempt _ rfl
  have merged : (orReturn ("building trace resource: " ++ ·) (pure ())
      (ExceptT.mk (perform (.mergeResource opts.serviceName)))).run.runOn (Host.act out) h =
        match within ("building trace resource: " ++ ·)
          (out.outcome (.mergeResource opts.serviceName)) with
        | .error err => (.error err, h)
        | .ok () => (.ok .part, h) := runOn_orReturn_attempt _ rfl
  rw [setupOTelTracing, Program.runOn_bindExcept, exporter, Outside.stage]
  cases within ("creating OTLP gRPC exporter: " ++ ·)
      (out.outcome (.newExporter opts.otlpEndpoint false)) with
  | error err => rfl
  | ok =>
    dsimp only
    rw [Program.runOn_bindExcept, merged]
    cases within ("building trace resource: " ++ ·)
      (out.outcome (.mergeResource opts.serviceName)) with
    | error err => rfl
    | ok => rfl

theorem simulates_tracing (on : opts.tracing = true) :
    Simulates out (out.stage windows opts inst.owner id) .tracing inst (configureTracing opts)
      tracingOf := by
  have setUp : Simulates out (out.stage windows opts inst.owner id) .tracing inst
      (orReturn (Stage.failure · .tracing) (perform .cancel)
        (setupOTelTracing opts.otlpEndpoint opts.serviceName))
      fun inst => (Object.provider inst.prevTracerProvider, Object.provider (.own inst.owner)) := by
    refine .orReturn fun h allocated => ?_
    rw [runOn_setupOTelTracing out windows opts id inst, current_eq allocated]
    cases out.stage windows opts inst.owner id .tracing with
    | error err => exact ⟨h, rfl, rfl⟩
    | ok => rfl
  rw [configureTracing, if_pos on]
  exact setUp.map some fun p => rfl

variable {inst} in
/-- Starting the metrics server. -/
theorem runOn_startMetricsServer {h : Host} (allocated : h.process.allocated = inst.owner + 1) :
    (startMetricsServer opts.metricsAddr opts.metricsPort).run.runOn (Host.act out) h =
      match out.stage windows opts inst.owner id .metrics with
      | .error err => (.error err, h)
      | .ok () => (.ok (.listener inst.owner),
          h.on (h.process.acquire .metricsServer inst.owner)) := by
  have called : (ExceptT.mk (perform (.listen (.tcp opts.metricsAddr))) :
      Fallible Object Object).run.runOn (Host.act out) h =
        out.attempt (.listen (.tcp opts.metricsAddr)) (.listener h.current) h h := rfl
  rw [startMetricsServer, Program.runOn_bindExcept, runOn_orReturn_attempt _ called, Outside.stage,
    current_eq allocated]
  cases out.outcome (.listen (.tcp opts.metricsAddr)) <;> rfl

theorem simulates_metrics (on : opts.metrics = true) (fresh : inst.metricsServer = false) :
    Simulates out (out.stage windows opts inst.owner id) .metrics inst
      (configureMetrics opts (tracingOf inst)) metricsOf := by
  have setUp : Simulates out (out.stage windows opts inst.owner id) .metrics inst
      (orReturn (Stage.failure · .metrics)
        (do perform .cancel; cleanupObservability none (tracingOf inst))
        (startMetricsServer opts.metricsAddr opts.metricsPort))
      fun inst => Object.listener inst.owner := by
    refine .orReturn fun h allocated => ?_
    rw [runOn_startMetricsServer out windows opts id allocated]
    cases out.stage windows opts inst.owner id .metrics with
    | error err =>
      have off : metricsOf inst = none := by rw [metricsOf, fresh]; rfl
      have cleaned : (cleanupObservability none (tracingOf inst)).runOn (Host.act out) h =
          ((), h.on (Lifecycle.cleanupObservability inst h.process)) := by
        rw [← off]
        exact runOn_cleanupObservability inst h
      exact ⟨h, rfl, congrArg Prod.snd cleaned⟩
    | ok => rfl
  rw [configureMetrics, if_pos on]
  exact setUp.map some fun p => rfl

/-- What is done once `server.Run` is under way and the start fails. -/
def giveUp (metricsServer : Option Object) (tracing : Option (Object × Object)) :
    Program (Call Object) Call.Answer Unit := do
  perform .cancel
  perform .wait
  cleanupObservability metricsServer tracing

variable {inst} in
theorem runOn_giveUp {h : Host} (allocated : h.process.allocated = inst.owner + 1) :
    (giveUp (metricsOf inst) (tracingOf inst)).runOn (Host.act out) h =
      ((), h.on (Lifecycle.cleanupObservability inst (h.process.awaitRun inst.owner))) := by
  rw [← current_eq allocated]
  exact runOn_cleanupObservability inst (h.on (h.process.awaitRun h.current))

/-- `server.Run` is started, and a client made. -/
def makeClient (srv : Object) (tracing : Option (Object × Object)) (metricsServer : Option Object) :
    Fallible Object Object := do
  ask (.run srv)
  orReturn (Stage.failure · .client) (giveUp metricsServer tracing)
    (ExceptT.mk (perform (.newClient srv)))

theorem simulates_client : Simulates out (out.stage windows opts inst.owner id) .client inst
    (makeClient (serverOf inst) (tracingOf inst) (metricsOf inst)) connOf := by
  intro h allocated
  have called : (ExceptT.mk (perform (.newClient (serverOf inst))) :
      Fallible Object Object).run.runOn (Host.act out)
        (h.on (h.process.acquire .goroutine inst.owner)) =
        out.attempt (.newClient (serverOf inst)) (connOf inst)
          (h.on ((h.process.acquire .goroutine inst.owner).acquire .clientConn inst.owner))
          (h.on (h.process.acquire .goroutine inst.owner)) := rfl
  show (orReturn _ _ _).run.runOn (Host.act out)
    (h.on (h.process.acquire .goroutine inst.owner)) = _
  rw [runOn_orReturn, called, Outside.attempt]
  have stage : out.stage windows opts inst.owner id .client =
      out.outcome (.newClient (serverOf inst)) := rfl
  rw [stage]
  cases out.outcome (.newClient (serverOf inst)) with
  | error err =>
    have undone := congrArg Prod.snd
      (runOn_giveUp out (h := h.on (enter inst h.process .client)) allocated)
    exact congrArg (Except.error (Stage.failure err .client), ·) undone
  | ok => rfl

/-- The address of a streaming proxy. -/
def proxyAddr : Address := if windows then .tcp out.listenerAddr else .socket id

variable {inst} in
/-- Starting the streaming proxy. -/
theorem runOn_startStreamingProxy {h : Host} (allocated : h.process.allocated = inst.owner + 1) :
    (startStreamingProxy windows (connOf inst) id).run.runOn (Host.act out) h =
      match out.stage windows opts inst.owner id .proxy with
      | .error err => (.error err, h)
      | .ok () => (.ok (.listener inst.owner, proxyAddr out windows id),
          h.on (h.process.acquire .streamingListener inst.owner)) := by
  rw [startStreamingProxy, Outside.stage, proxyAddr, ← current_eq allocated]
  cases windows with
  | true =>
    have called : (ExceptT.mk (perform (.listen (.tcp "127.0.0.1:0"))) :
        Fallible Object Object).run.runOn (Host.act out) h =
          out.attempt (.listen (.tcp "127.0.0.1:0")) (.listener h.current) h h := rfl
    simp only [if_true, Program.runOn_bindExcept, called, Outside.attempt]
    cases out.outcome (.listen (.tcp "127.0.0.1:0")) <;> rfl
  | false =>
    have called : (ExceptT.mk (perform (.listen (.socket id))) :
        Fallible Object Object).run.runOn (Host.act out) h =
          out.attempt (.listen (.socket id)) (.listener h.current) h h := rfl
    rw [if_neg Bool.false_ne_true, if_neg Bool.false_ne_true, if_neg Bool.false_ne_true]
    -- the socket of an earlier process is removed first, which leaves the host as it is
    show (ExceptT.mk (perform (.listen (.socket id))) >>= _ :
      Fallible Object (Object × Address)).run.runOn (Host.act out) h = _
    rw [Program.runOn_bindExcept, called, Outside.attempt]
    cases out.outcome (.listen (.socket id)) <;> rfl

theorem simulates_proxy : Simulates out (out.stage windows opts inst.owner id) .proxy inst
    (orReturn (Stage.failure · .proxy) (giveUp (metricsOf inst) (tracingOf inst))
      (startStreamingProxy windows (connOf inst) id))
    fun inst => (.listener inst.owner, proxyAddr out windows id) := by
  refine .orReturn fun h allocated => ?_
  rw [runOn_startStreamingProxy out windows opts id allocated]
  cases out.stage windows opts inst.owner id .proxy with
  | error err => exact ⟨h, rfl, congrArg Prod.snd (runOn_giveUp out allocated)⟩
  | ok => rfl

/-- The end of a start: its instance is registered, and the answer made. -/
def finish (srv conn : Object) (tracing : Option (Object × Object)) (metricsServer : Option Object)
    (bound : Object × Address) : Fallible Object Started := do
  ask (.register id ⟨srv, "memory", conn, bound.2, bound.1, tracing, metricsServer⟩)
  pure ⟨id, "memory", bound.2, if windows then "tcp" else "unix"⟩

/-- What a start does once its observability is set up. -/
def serve (srv : Object) (tracing : Option (Object × Object)) (metricsServer : Option Object) :
    Fallible Object Started := do
  let conn ← makeClient srv tracing metricsServer
  let bound ← orReturn (Stage.failure · .proxy) (giveUp metricsServer tracing)
    (startStreamingProxy windows conn id)
  finish windows id srv conn tracing metricsServer bound

/-- The client and the proxy stage. -/
theorem continues_serve
    (untraced : inst.tracerProvider = false → inst.prevTracerProvider = .installed) :
    Continues out (out.stage windows opts inst.owner id) id [.client, .proxy] inst
      (serve windows id (serverOf inst) (tracingOf inst) (metricsOf inst)) := by
  refine Continues.stage (simulates_client out windows opts id inst) fun p => ?_
  refine Continues.stage (simulates_proxy out windows opts id
    { inst with clientConn := true }) fun p => ?_
  intro h _
  let last : Lifecycle.Instance := { inst with clientConn := true, streamingListener := true }
  have still : last.tracerProvider = false → last.prevTracerProvider = .installed := untraced
  have fields : (registered last (proxyAddr out windows id)).fields = last :=
    fields_registered rfl rfl still _
  refine ⟨⟨id, "memory", proxyAddr out windows id, if windows then "tcp" else "unix"⟩,
    proxyAddr out windows id, fields, rfl, ?_⟩
  refine congrArg (Except.ok _, ·) ?_
  show (⟨h.process.setInstance id (some (registered last _).fields), _⟩ : Host) = _
  rw [fields]
  rfl

/-- The metrics stage, and what is left after it. -/
theorem continues_metrics (fresh : inst.metricsServer = false)
    (untraced : inst.tracerProvider = false → inst.prevTracerProvider = .installed) :
    Continues out (out.stage windows opts inst.owner id) id
      ((if opts.metrics then [.metrics] else []) ++ [.client, .proxy]) inst
      (configureMetrics opts (tracingOf inst) >>=
        serve windows id (serverOf inst) (tracingOf inst)) := by
  cases on : opts.metrics with
  | true =>
    refine Continues.stage (simulates_metrics out windows opts id inst on fresh) fun p => ?_
    exact continues_serve out windows opts id { inst with metricsServer := true } untraced
  | false =>
    have off : metricsOf inst = none := by rw [metricsOf, fresh]; rfl
    have serving := continues_serve out windows opts id inst untraced
    rw [off] at serving
    rw [configureMetrics, on]
    exact serving

/-- The tracing stage, and what is left after it. -/
theorem continues_tracing (owner : Nat) :
    Continues out (out.stage windows opts owner id) id
      ((if opts.tracing then [.tracing] else []) ++ (if opts.metrics then [.metrics] else []) ++
        [.client, .proxy]) { owner := owner } (do
      let tracing ← configureTracing opts
      let metricsServer ← configureMetrics opts tracing
      serve windows id (serverOf { owner := owner }) tracing metricsServer) := by
  cases on : opts.tracing with
  | true =>
    refine Continues.stage (simulates_tracing out windows opts id { owner := owner } on) fun p => ?_
    exact continues_metrics out windows opts id
      (Lifecycle.setupOTelTracing { owner := owner } p).1 rfl
      fun off => absurd off.symm Bool.false_ne_true
  | false =>
    rw [configureTracing, on]
    exact continues_metrics out windows opts id { owner := owner } rfl fun _ => rfl

/-- **A start, once it has an id, stage by stage.** -/
theorem continues_startInstance (owner : Nat) :
    Continues out (out.stage windows opts owner id) id opts.stages { owner := owner }
      (startInstance windows opts id) := by
  refine Continues.stage (simulates_datastore out windows opts id { owner := owner }) fun p => ?_
  refine Continues.stage (simulates_server out windows opts id { owner := owner }) fun p => ?_
  exact continues_tracing out windows opts id owner

end Start

/-! ### A start and a dispose -/

/-- The two registries agree, and what is registered is as a start has made it. -/
structure Host.Tied (h : Host) : Prop where
  fields : ∀ id, h.process.instances id = (h.registry id).map Instance.fields
  made : ∀ id inst, h.registry id = some inst → ∃ addr, inst = registered inst.fields addr

/-- The stages leave the registry as it is. -/
theorem runStages_instances (env : Outcomes) :
    ∀ (stages : List Stage) (inst : Lifecycle.Instance) (p : Process),
      (runStages env stages inst p).2.instances = p.instances := by
  intro stages
  induction stages with
  | nil => exact fun inst p => rfl
  | cons stage left ih =>
    intro inst p
    rw [runStages]
    cases env stage with
    | error err =>
      obtain ⟨owner, conn, listener, tracing, prev, metrics⟩ := inst
      cases stage <;> cases tracing <;> cases metrics <;> rfl
    | ok =>
      refine (ih _ _).trans ?_
      cases stage <;> rfl

/-- An entry that is changed in both registries. -/
theorem Host.Tied.update {h : Host} (tied : h.Tied) {p : Process}
    (same : p.instances = h.process.instances) (id : UInt64) (entry : Option (Instance Object))
    (made : ∀ inst, entry = some inst → ∃ addr, inst = registered inst.fields addr) :
    Host.Tied ⟨p.setInstance id (entry.map Instance.fields),
      Function.update h.registry id entry⟩ := by
  constructor
  · intro other
    show Function.update p.instances id _ other = (Function.update h.registry id entry other).map _
    by_cases here : other = id
    · rw [here, Function.update_self, Function.update_self]
    · rw [Function.update_of_ne here, Function.update_of_ne here, same, tied.fields]
  · intro other inst known
    have known : Function.update h.registry id entry other = some inst := known
    by_cases here : other = id
    · rw [here, Function.update_self] at known
      exact made inst known
    · rw [Function.update_of_ne here] at known
      exact tied.made other inst known

/-- A start on the host is the start in the environment that the host is. -/
theorem runOn_start (out : Outside) (windows : Bool) (opts : StartOptions) (h : Host) :
    (spicedbStart windows opts).run.runOn (Host.act out) h =
      ((start (answers (Host.act out) h) windows opts).result,
        replay (Host.act out) (start (answers (Host.act out) h) windows opts).calls h) :=
  Program.runOn_eq (Host.act out) _ [] h

/-- What a start leaves in the registries: its instance, or what was there. -/
inductive Entered (h : Host) : Except String Started → Host → Prop
  | failed (text : String) (t : Host) (instances : t.process.instances = h.process.instances)
      (registry : t.registry = h.registry) : Entered h (.error text) t
  | made (started : Started) (p : Process) (last : Lifecycle.Instance) (addr : Address)
      (instances : p.instances = h.process.instances)
      (fields : (registered last addr).fields = last) :
      Entered h (.ok started) ⟨p.setInstance started.handle (some last),
        Function.update h.registry started.handle (some (registered last addr))⟩

theorem Entered.tied {h t : Host} {result : Except String Started} (entered : Entered h result t)
    (tied : h.Tied) : t.Tied := by
  cases entered with
  | failed text t instances registry =>
    refine ⟨fun id => ?_, fun id inst => ?_⟩
    · rw [instances, registry]
      exact tied.fields id
    · rw [registry]
      exact tied.made id inst
  | made started p last addr instances fields =>
    have entered := tied.update instances started.handle (some (registered last addr))
      fun inst same => ⟨addr, by cases same; rw [fields]⟩
    rwa [Option.map_some, fields] at entered

/-- **A start, call by call, is a start stage by stage.** -/
theorem start_ends (out : Outside) (windows : Bool) (opts : StartOptions) (h : Host) :
    ∃ result t, (spicedbStart windows opts).run.runOn (Host.act out) h = (result, t) ∧
      Lifecycle.spicedbStart (out.stage windows opts h.process.allocated (h.process.nextID + 1))
        opts h.process = (result.map Started.handle, t.process) ∧ Entered h result t := by
  cases valid : opts.validate with
  | error text =>
    refine ⟨.error text, h, ?_, ?_, .failed text h rfl rfl⟩
    · rw [spicedbStart, valid]
      rfl
    · rw [Lifecycle.spicedbStart, valid]
      rfl
  | ok =>
    let id := h.process.nextID + 1
    let drawn := h.on { h.process with nextID := id, allocated := h.process.allocated + 1 }
    have begun : (spicedbStart windows opts).run.runOn (Host.act out) h =
        (startInstance windows opts id).run.runOn (Host.act out) drawn := by
      rw [spicedbStart, valid]
      rfl
    have goes := continues_startInstance out windows opts id h.process.allocated drawn rfl
    have unfolded : Lifecycle.spicedbStart (out.stage windows opts h.process.allocated id) opts
        h.process = match runStages (out.stage windows opts h.process.allocated id) opts.stages
            { owner := h.process.allocated } drawn.process with
          | (.error text, q) => (.error text, q)
          | (.ok inst, q) => (.ok id, q.setInstance id (some inst)) := by
      rw [Lifecycle.spicedbStart, valid]
      rfl
    have kept : (runStages (out.stage windows opts h.process.allocated id) opts.stages
        { owner := h.process.allocated } drawn.process).2.instances = h.process.instances :=
      runStages_instances _ _ _ _
    rw [begun, unfolded]
    generalize runStages (out.stage windows opts h.process.allocated id) opts.stages
      { owner := h.process.allocated } drawn.process = ended at goes kept ⊢
    obtain ⟨text | last, p⟩ := ended
    · exact ⟨.error text, drawn.on p, goes, rfl, .failed text _ kept rfl⟩
    · obtain ⟨started, addr, fields, handle, ran⟩ := goes
      have entered : Entered h (.ok started) _ := .made started p last addr kept fields
      rw [handle] at entered
      exact ⟨.ok started, _, ran, by rw [← handle]; rfl, entered⟩

/-! ### A dispose, call by call -/

/-- An external call of a dispose with its arguments, which may be one that a start makes, too. -/
inductive Ending (Obj : Type)
  | takeOut (id : UInt64)
  | closeConn (conn : Obj)
  | gracefulStop (listener : Obj)
  | closeListener (listener : Obj)
  | waitFor (server : Obj)
  | shared (call : Call Obj)

/-- What it answers. -/
def Ending.Answer {Obj : Type} : Ending Obj → Type
  | .takeOut _ => Option (Instance Obj)
  | .shared call => call.Answer
  | _ => Unit

section Dispose

variable {Obj α : Type}

/-- A call by itself. -/
def Ending.perform (call : Ending Obj) : Program (Ending Obj) Ending.Answer call.Answer :=
  .call call .done

/-- The calls of a start among those of a dispose. -/
def shared (p : Program (Call Obj) Call.Answer α) : Program (Ending Obj) Ending.Answer α :=
  p.among .shared fun _ answer => answer

/-- `spicedb_dispose`, once its instance has been taken out of the registry. -/
def disposeInstance (windows : Bool) (inst : Instance Obj) :
    Program (Ending Obj) Ending.Answer Unit := do
  shared (perform .cancel)
  Ending.perform (.closeConn inst.clientConn)
  Ending.perform (.gracefulStop inst.streamingListener)
  Ending.perform (.closeListener inst.streamingListener)
  Ending.perform (.waitFor inst.server)
  shared (cleanupObservability inst.metricsServer inst.tracing)
  if windows then pure () else shared (perform (.remove inst.streamingAddr))

/-- `spicedb_dispose`. -/
def spicedbDispose (windows : Bool) (id : UInt64) :
    Program (Ending Obj) Ending.Answer (Except String Unit) := do
  match ← Ending.perform (.takeOut id) with
  | none => pure (.error ("invalid handle: " ++ toString id.toNat))
  | some inst => do
    disposeInstance windows inst
    pure (.ok ())

end Dispose

/-- What a call of a dispose does. A listener counts as held until it is closed, and `server.Run` as
running until it is waited for. -/
def Host.finish (out : Outside) : (call : Ending Object) → Host → call.Answer × Host
  | .takeOut id, h =>
    match h.registry id with
    | none => (none, h)
    | some inst => (some inst,
        ⟨h.process.setInstance id none, Function.update h.registry id none⟩)
  | .closeConn conn, h => ((), h.on (h.process.release .clientConn conn.owner))
  | .gracefulStop _, h => ((), h)
  | .closeListener listener, h => ((), h.on (h.process.release .streamingListener listener.owner))
  | .waitFor server, h => ((), h.on (h.process.awaitRun server.owner))
  | .shared call, h => Host.act out call h

section Disposed

variable (out : Outside) (windows : Bool)

theorem runOn_shared {α : Type} (p : Program (Call Object) Call.Answer α) (h : Host) :
    (shared p).runOn (Host.finish out) h = p.runOn (Host.act out) h :=
  Program.runOn_among (Host.act out) (fun _ _ => rfl) p h

theorem runOn_disposeInstance {inst : Instance Object} {addr : Address}
    (made : inst = registered inst.fields addr) (h : Host) :
    (disposeInstance windows inst).runOn (Host.finish out) h =
      ((), h.on (Lifecycle.disposeInstance inst.fields h.process)) := by
  let last := inst.fields
  let stopped := ((h.process.release .clientConn last.owner).release .streamingListener
    last.owner).awaitRun last.owner
  have begun : (disposeInstance windows inst).runOn (Host.finish out) h =
      (do shared (cleanupObservability (metricsOf last) (tracingOf last))
          if windows then pure () else shared (perform (.remove inst.streamingAddr))).runOn
        (Host.finish out) (h.on stopped) := by
    rw [made]
    rfl
  have cleaned := runOn_shared out (cleanupObservability (metricsOf last) (tracingOf last))
    (h.on stopped)
  rw [runOn_cleanupObservability] at cleaned
  rw [begun, Program.runOn_bind, cleaned]
  cases windows <;> rfl

/-- **A dispose, call by call, is a dispose in one.** -/
theorem dispose_refines (id : UInt64) {h : Host} (tied : h.Tied) :
    ∃ result t, (spicedbDispose windows id).runOn (Host.finish out) h = (result, t) ∧
      Lifecycle.spicedbDispose id h.process = (result, t.process) ∧ t.Tied := by
  have known := tied.fields id
  rw [spicedbDispose, Lifecycle.spicedbDispose, known, Program.runOn_bind]
  cases there : h.registry id with
  | none =>
    have taken : (Ending.perform (.takeOut id)).runOn (Host.finish out) h = (none, h) := by
      rw [Ending.perform, Program.runOn, Program.runOn, Host.finish, there]
      rfl
    rw [taken]
    exact ⟨_, h, rfl, rfl, tied⟩
  | some inst =>
    let left : Host := ⟨h.process.setInstance id none, Function.update h.registry id none⟩
    have taken : (Ending.perform (.takeOut id)).runOn (Host.finish out) h = (some inst, left) := by
      rw [Ending.perform, Program.runOn, Program.runOn, Host.finish, there]
      rfl
    obtain ⟨addr, made⟩ := tied.made id inst there
    have ended := runOn_disposeInstance out windows made left
    rw [taken]
    dsimp only
    rw [Program.runOn_bind, ended]
    refine ⟨.ok (), left.on (Lifecycle.disposeInstance inst.fields left.process), rfl, rfl, ?_⟩
    have gone : left.Tied := tied.update rfl id none fun _ same => by cases same
    rw [disposeInstance_eq]
    exact ⟨gone.fields, gone.made⟩

end Disposed

/-! ### Runs -/

/-- A call of the library, with how what it calls comes out. -/
inductive Request
  | start (out : Outside) (opts : StartOptions)
  | dispose (out : Outside) (id : UInt64)

/-- What a call returns: the handle of a start, and nothing of a dispose. -/
abbrev Reply := Except String (Option UInt64)

/-- A call of the library on the host. -/
def Host.perform (windows : Bool) (h : Host) : Request → Reply × Host
  | .start out opts =>
    let ended := (spicedbStart windows opts).run.runOn (Host.act out) h
    (ended.1.map fun started => some started.handle, ended.2)
  | .dispose out id =>
    let ended := (spicedbDispose windows id).runOn (Host.finish out) h
    (ended.1.map fun _ => none, ended.2)

/-- The call, stage by stage. -/
def Host.call (windows : Bool) (h : Host) : Request → Lifecycle.Call
  | .start out opts =>
    .start (out.stage windows opts h.process.allocated (h.process.nextID + 1)) opts
  | .dispose _ id => .dispose id

/-- A call on the process, with what it returns. -/
def respond (p : Process) : Lifecycle.Call → Reply × Process
  | .start env opts =>
    ((Lifecycle.spicedbStart env opts p).1.map some, (Lifecycle.spicedbStart env opts p).2)
  | .dispose id =>
    ((Lifecycle.spicedbDispose id p).1.map fun _ => none, (Lifecycle.spicedbDispose id p).2)

theorem step_respond (p : Process) (call : Lifecycle.Call) :
    Lifecycle.step p call = some (respond p call).2 := by
  cases call <;> rfl

/-- The host before its first start. -/
def Host.init : Host := ⟨Process.init, fun _ => none⟩

theorem init_tied : Host.init.Tied := ⟨fun _ => rfl, fun _ _ known => by cases known⟩

/-- **One call.** -/
theorem perform_refines (windows : Bool) {h : Host} (tied : h.Tied) (request : Request) :
    respond h.process (h.call windows request) =
        ((h.perform windows request).1, (h.perform windows request).2.process) ∧
      (h.perform windows request).2.Tied := by
  cases request with
  | start out opts =>
    obtain ⟨result, t, ran, same, entered⟩ := start_ends out windows opts h
    rw [Host.call, Host.perform, respond, ran, same]
    refine ⟨?_, entered.tied tied⟩
    cases result <;> rfl
  | dispose out id =>
    obtain ⟨result, t, ran, same, still⟩ := dispose_refines out windows id tied
    rw [Host.call, Host.perform, respond, ran, same]
    exact ⟨rfl, still⟩

/-- A step of the host, and what is seen of it. -/
def Host.step (windows : Bool) (h : Host) (request : Request) : Option Host :=
  some (h.perform windows request).2

def Host.event (windows : Bool) (h : Host) (request : Request) (_ : Host) :
    Option (Lifecycle.Call × Reply) :=
  some (h.call windows request, (h.perform windows request).1)

/-- The reply is the one that the call has on the process. -/
def Replies (p : Process) (seen : Lifecycle.Call × Reply) (q : Process) : Prop :=
  respond p seen.1 = (seen.2, q)

/-- Calls with their replies are a run of the lifecycle. -/
theorem exec_of_replies {p q : Process} {seen : List (Lifecycle.Call × Reply)}
    (runs : Runs Replies p seen q) : exec Lifecycle.step p (seen.map Prod.fst) = some q := by
  induction runs with
  | nil => rfl
  | @cons p q r e _ first _ ih =>
    rw [List.map_cons, exec_cons, step_respond, first]
    exact ih

/-- **Starts and disposes, call by call, are those of the lifecycle.** Whatever the calls of a
program are and however what they call comes out, they return what the same calls return stage by
stage, for the outcomes of their stages, and leave the process the same. -/
theorem host_refines (windows : Bool) (requests : List Request) :
    ∃ h, exec (Host.step windows) Host.init requests = some h ∧ h.Tied ∧
      Runs Replies Process.init
        (history (Host.step windows) (Host.event windows) Host.init requests) h.process ∧
      exec Lifecycle.step Process.init
        ((history (Host.step windows) (Host.event windows) Host.init requests).map Prod.fst) =
          some h.process := by
  suffices ∀ h : Host, h.Tied → ∃ t, exec (Host.step windows) h requests = some t ∧ t.Tied ∧
      Runs Replies h.process (history (Host.step windows) (Host.event windows) h requests)
        t.process by
    obtain ⟨t, run, tied, runs⟩ := this Host.init init_tied
    exact ⟨t, run, tied, runs, exec_of_replies runs⟩
  induction requests with
  | nil => exact fun h tied => ⟨h, rfl, tied, .nil _⟩
  | cons request requests ih =>
    intro h tied
    obtain ⟨same, still⟩ := perform_refines windows tied request
    obtain ⟨t, run, ended, runs⟩ := ih (h.perform windows request).2 still
    exact ⟨t, run, ended, .cons same runs⟩

end SpicedbEmbedded.Lifecycle.Calls
