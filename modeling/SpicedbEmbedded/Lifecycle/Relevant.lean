/-
**The options that matter to a start.**

Which options of a start are relevant depends on the engine and on the switches of the observability
stages.

* `Agree` — two options values with the same relevant options.
* `follows_spicedbStart` — a start makes the calls of the handle it draws, whichever that is.
* **`spicedbStart_indistinguishable`** — options that agree make the same calls with the same arguments
  and return the same, whatever the environment answers, up to the handle drawn.
-/

import SpicedbEmbedded.Lifecycle.Calls

namespace SpicedbEmbedded.Lifecycle.Calls

open Shared (StartOptions DatastoreOption Stage)
open Machine

/-! ### Relevant options -/

/-- The same observability options, as far as `metrics_enabled` makes them relevant. -/
structure Observed (a b : StartOptions) : Prop where
  /-- An option that is not set is on. -/
  datastoreMetrics : a.datastoreMetricsEnabled = some false ↔ b.datastoreMetricsEnabled = some false
  cacheMetrics : a.cacheMetricsEnabled = some false ↔ b.cacheMetricsEnabled = some false
  otlpEndpoint : a.otlpEndpoint = b.otlpEndpoint
  otlpServiceName : a.otlpEndpoint ≠ "" → a.otlpServiceName = b.otlpServiceName
  metricsPort : a.metricsPort = b.metricsPort
  metricsHost : 0 < a.metricsPort → a.metricsHost = b.metricsHost

/-- The same relevant options. -/
structure Agree (a b : StartOptions) : Prop where
  datastore : a.datastore = b.datastore
  datastoreURI : a.datastoreURI = b.datastoreURI
  metricsEnabled : a.metricsEnabled = b.metricsEnabled
  spanner : a.datastore = "spanner" → a.spannerCredentialsFile = b.spannerCredentialsFile ∧
    a.spannerEmulatorHost = b.spannerEmulatorHost
  mysql : a.datastore = "mysql" → a.mySQLTablePrefix = b.mySQLTablePrefix
  observability : a.metricsEnabled = true → Observed a b

/-- Only an engine that is named is in use, but for the in-memory one. -/
theorem engine_eq_iff (opts : StartOptions) {name : String} (other : name ≠ Shared.memoryEngine)
    (named : name ≠ "") : opts.engine = name ↔ opts.datastore = name := by
  rw [StartOptions.engine]
  by_cases empty : opts.datastore = ""
  · rw [if_pos empty, empty]
    exact iff_of_false other.symm named.symm
  · rw [if_neg empty]

/-- An optional boolean is on unless it is set to `false`. -/
theorem boolPtrOrDefault_true (b : Option Bool) :
    Shared.boolPtrOrDefault b true = !decide (b = some false) := by
  cases b with
  | none => rfl
  | some set => cases set <;> rfl

theorem boolPtrOrDefault_congr {a b : Option Bool} (off : a = some false ↔ b = some false) :
    Shared.boolPtrOrDefault a true = Shared.boolPtrOrDefault b true := by
  rw [boolPtrOrDefault_true, boolPtrOrDefault_true, decide_eq_decide.mpr off]

namespace Agree

variable {a b : StartOptions} (agree : Agree a b)

include agree

theorem engine : a.engine = b.engine := by
  rw [StartOptions.engine, StartOptions.engine, agree.datastore]

theorem validate : a.validate = b.validate := by
  rw [StartOptions.validate, StartOptions.validate, agree.engine, agree.datastoreURI]

/-- A switch under `metrics_enabled` is relevant only there. -/
theorem switched {f g : StartOptions → Bool}
    (same : Observed a b → f a = f b) (whole : ∀ opts, g opts = (opts.metricsEnabled && f opts)) :
    g a = g b := by
  rw [whole, whole, ← agree.metricsEnabled]
  cases enabled : a.metricsEnabled with
  | false => rfl
  | true => rw [same (agree.observability enabled)]

theorem cacheMetrics : a.cacheMetrics = b.cacheMetrics :=
  agree.switched (f := fun opts => Shared.boolPtrOrDefault opts.cacheMetricsEnabled true)
    (fun observed => boolPtrOrDefault_congr observed.cacheMetrics) fun _ => rfl

theorem datastoreMetrics :
    (a.metricsEnabled && Shared.boolPtrOrDefault a.datastoreMetricsEnabled true) =
      (b.metricsEnabled && Shared.boolPtrOrDefault b.datastoreMetricsEnabled true) :=
  agree.switched (f := fun opts => Shared.boolPtrOrDefault opts.datastoreMetricsEnabled true)
    (g := fun opts =>
      opts.metricsEnabled && Shared.boolPtrOrDefault opts.datastoreMetricsEnabled true)
    (fun observed => boolPtrOrDefault_congr observed.datastoreMetrics) fun _ => rfl

theorem tracing : a.tracing = b.tracing :=
  agree.switched (f := fun opts => opts.otlpEndpoint != "")
    (fun observed => by rw [observed.otlpEndpoint]) fun _ => rfl

theorem metrics : a.metrics = b.metrics :=
  agree.switched (f := fun opts => decide (0 < opts.metricsPort))
    (fun observed => by rw [observed.metricsPort]) fun _ => rfl

/-- The options of the datastore are those of the engine in use. -/
theorem datastoreOpts : a.datastoreOpts = b.datastoreOpts := by
  have spanner : a.engine = "spanner" ↔ a.datastore = "spanner" :=
    engine_eq_iff a (by decide) (by decide)
  have mysql : a.engine = "mysql" ↔ a.datastore = "mysql" := engine_eq_iff a (by decide) (by decide)
  rw [StartOptions.datastoreOpts, StartOptions.datastoreOpts, agree.datastoreMetrics,
    agree.datastoreURI, ← agree.engine]
  by_cases onSpanner : a.engine = "spanner"
  · obtain ⟨credentials, emulator⟩ := agree.spanner (spanner.mp onSpanner)
    have notMysql : ∀ table : String, ¬(a.engine = "mysql" ∧ table ≠ "") := by
      rw [onSpanner]
      exact fun table both => absurd both.1 (by decide)
    rw [credentials, emulator, if_neg (notMysql _), if_neg (notMysql _)]
  · rw [if_neg onSpanner, if_neg onSpanner]
    by_cases onMysql : a.engine = "mysql"
    · rw [agree.mysql (mysql.mp onMysql)]
    · have notMysql : ∀ table : String, ¬(a.engine = "mysql" ∧ table ≠ "") :=
        fun table both => onMysql both.1
      rw [if_neg (notMysql _), if_neg (notMysql _)]

end Agree

/-- The same tracing stage: its endpoint and its service name matter only where it is set up. -/
theorem configureTracing_congr {Obj : Type} {a b : StartOptions} (agree : Agree a b) :
    (configureTracing a : Fallible Obj (Option (Obj × Obj))) = configureTracing b := by
  rw [configureTracing, configureTracing, ← agree.tracing]
  cases on : a.tracing with
  | false => rfl
  | true =>
    obtain ⟨enabled, endpoint⟩ : a.metricsEnabled = true ∧ a.otlpEndpoint ≠ "" := by
      simpa [StartOptions.tracing] using on
    have observed := agree.observability enabled
    have serviceName : a.serviceName = b.serviceName := by
      rw [StartOptions.serviceName, StartOptions.serviceName, observed.otlpServiceName endpoint]
    rw [observed.otlpEndpoint, serviceName]

/-- The same metrics stage: its address matters only where there is a port. -/
theorem configureMetrics_congr {Obj : Type} {a b : StartOptions} (agree : Agree a b) :
    (configureMetrics a : Option (Obj × Obj) → Fallible Obj (Option Obj)) = configureMetrics b := by
  funext tracing
  rw [configureMetrics, configureMetrics, ← agree.metrics]
  cases on : a.metrics with
  | false => rfl
  | true =>
    obtain ⟨enabled, port⟩ : a.metricsEnabled = true ∧ 0 < a.metricsPort := by
      simpa [StartOptions.metrics] using on
    have observed := agree.observability enabled
    have addr : a.metricsAddr = b.metricsAddr := by
      rw [StartOptions.metricsAddr, StartOptions.metricsAddr, observed.metricsHost port,
        observed.metricsPort]
    rw [addr, observed.metricsPort]

/-- Options that agree make one program. -/
theorem spicedbStart_congr {Obj : Type} {a b : StartOptions} (agree : Agree a b) (windows : Bool) :
    (spicedbStart windows a : Fallible Obj Started) = spicedbStart windows b := by
  have body : (startInstance windows a : UInt64 → Fallible Obj Started) = startInstance windows b := by
    funext id
    rw [startInstance, startInstance, newDatastoreFromOpts, newDatastoreFromOpts,
      agree.datastoreOpts, agree.cacheMetrics, configureTracing_congr agree,
      configureMetrics_congr agree]
  rw [spicedbStart, spicedbStart, agree.validate, body]

/-! ### Another handle -/

def Address.rename (f : UInt64 → UInt64) : Address → Address
  | .tcp hostPort => .tcp hostPort
  | .socket handle => .socket (f handle)

def Started.rename (f : UInt64 → UInt64) (s : Started) : Started :=
  { s with handle := f s.handle, streamingAddress := s.streamingAddress.rename f }

section Rename

variable {Obj α β : Type} (f : UInt64 → UInt64)

/-- A call with another handle in its arguments. -/
def Call.rename : Call Obj → Call Obj
  | .listen addr => .listen (addr.rename f)
  | .remove addr => .remove (addr.rename f)
  | .serveProxy listener conn id => .serveProxy listener conn (f id)
  | .register id inst =>
    .register (f id) { inst with streamingAddr := inst.streamingAddr.rename f }
  | call => call

theorem Call.answer_rename (call : Call Obj) : call.Answer = (call.rename f).Answer := by
  cases call <;> rfl

/-- Only the answer of the counter is a handle. -/
def Call.renameAnswer : (call : Call Obj) → call.Answer → (call.rename f).Answer
  | .addNextID, id => f id
  | call, answer => cast (call.answer_rename f) answer

/-- The calls and answers of a start with another handle. -/
def otherHandle : Translation (Call Obj) Call.Answer (Call Obj) Call.Answer where
  op := Call.rename f
  answer := Call.renameAnswer f

/-- The two environments answer alike, but for the handle drawn. -/
def Alike (env env' : Environment (Call Obj) Call.Answer) : Prop :=
  ∀ (past : List (Call Obj)) (call : Call Obj),
    env' (past.map (Call.rename f)) (call.rename f) = call.renameAnswer f (env past call)

theorem follows_call {g : α → β} (call : Call Obj)
    {next : call.Answer → Program (Call Obj) Call.Answer α}
    {next' : (call.rename f).Answer → Program (Call Obj) Call.Answer β}
    (rest : ∀ answer, Follows (otherHandle f) g (next answer) (next' (call.renameAnswer f answer))) :
    Follows (otherHandle f) g (.call call next) (.call (call.rename f) next') :=
  Follows.call call rest

theorem follows_ask (call : Call Obj) :
    Follows (otherHandle f) (Except.map (call.renameAnswer f)) (ask call).run (ask (call.rename f)).run :=
  follows_call f call fun answer => Follows.done (Except.ok answer)

theorem follows_orReturn {g : α → β} (text : String → String)
    {cleanup : Program (Call Obj) Call.Answer Unit} {step : Fallible Obj α} {step' : Fallible Obj β}
    (clean : Follows (otherHandle f) id cleanup cleanup)
    (same : Follows (otherHandle f) (Except.map g) step.run step'.run) :
    Follows (otherHandle f) (Except.map g) (orReturn text cleanup step).run
      (orReturn text cleanup step').run := by
  refine Follows.bind same ?_
  intro result
  cases result with
  | error err => exact Follows.bind clean fun _ => Follows.done (Except.error (text err))
  | ok value => exact Follows.done (Except.ok value)

/-- The call has no handle in its arguments or its answer. -/
def Call.Handleless : Call Obj → Prop
  | .addNextID | .listen (.socket _) | .remove (.socket _) | .serveProxy _ _ _ | .register _ _ => False
  | _ => True

/-- Calls without a handle are the same with another handle. -/
theorem follows_of_only {p : Program (Call Obj) Call.Answer α} (only : Only Call.Handleless p) :
    Follows (otherHandle f) id p p := by
  induction only with
  | @done result => exact Follows.done result
  | @call op next fine _ ih =>
    cases op with
    | addNextID | serveProxy | register => exact fine.elim
    | listen addr | remove addr =>
      cases addr with
      | tcp hostPort => exact follows_call f _ ih
      | socket handle => exact fine.elim
    | _ => exact follows_call f _ ih

end Rename

/-! ### Calls without a handle -/

section Handleless

variable {Obj : Type}

theorem only_newDatastoreFromOpts (opts : StartOptions) :
    Only Call.Handleless (newDatastoreFromOpts opts : Fallible Obj Obj).run :=
  only_perform (.newDatastore opts.datastoreOpts) trivial

theorem only_newSpiceDBServer (addr transport : String) (ds : Obj) (cacheMetricsEnabled : Bool) :
    Only Call.Handleless
      (newSpiceDBServerFromDatastore addr transport ds cacheMetricsEnabled).run :=
  only_perform (.complete _) trivial

theorem only_setupOTelTracing (endpoint serviceName : String) :
    Only Call.Handleless (setupOTelTracing endpoint serviceName : Fallible Obj (Obj × Obj)).run := by
  refine Only.bindExcept (only_orReturn _ (Obeys.done trivial)
    (only_perform (.newExporter endpoint false) trivial)) fun exporter => ?_
  refine Only.bindExcept (only_orReturn _ (Obeys.done trivial)
    (only_perform (.mergeResource serviceName) trivial)) fun res => ?_
  refine Only.bindExcept (only_ask _ trivial) fun prev => ?_
  refine Only.bindExcept (only_ask _ trivial) fun tp => ?_
  refine Only.bindExcept (only_ask _ trivial) fun _ => ?_
  refine Only.bindExcept (only_ask _ trivial) fun _ => ?_
  exact only_pure _

theorem only_startMetricsServer (addr : String) (port : Int) :
    Only Call.Handleless (startMetricsServer addr port : Fallible Obj Obj).run := by
  refine Only.bindExcept (only_orReturn _ (Obeys.done trivial)
    (only_perform (.listen (.tcp addr)) trivial)) fun ln => ?_
  refine Only.bindExcept (only_ask _ trivial) fun _ => ?_
  exact only_pure _

theorem only_cleanupObservability (metricsServer : Option Obj) (tracing : Option (Obj × Obj)) :
    Only Call.Handleless (cleanupObservability metricsServer tracing) := by
  have rest : Only Call.Handleless (cleanupObservability none tracing) := by
    cases tracing with
    | none => exact Obeys.done trivial
    | some pair =>
      exact Obeys.bind (only_perform (.shutdownTracing pair.2) trivial) fun _ _ =>
        only_perform (.setTracerProvider pair.1) trivial
  cases metricsServer with
  | none => exact rest
  | some server => exact Obeys.call trivial fun _ => rest

theorem only_configureTracing (opts : StartOptions) :
    Only Call.Handleless (configureTracing opts : Fallible Obj (Option (Obj × Obj))).run := by
  rw [configureTracing]
  split
  · refine Only.bindExcept (only_orReturn _ (only_perform .cancel trivial)
      (only_setupOTelTracing _ _)) fun tracing => ?_
    exact only_pure _
  · exact only_pure _

theorem only_configureMetrics (opts : StartOptions) (tracing : Option (Obj × Obj)) :
    Only Call.Handleless (configureMetrics opts tracing).run := by
  rw [configureMetrics]
  split
  · refine Only.bindExcept (only_orReturn _ (Obeys.bind (only_perform .cancel trivial)
      fun _ _ => only_cleanupObservability none tracing) (only_startMetricsServer _ _)) fun server => ?_
    exact only_pure _
  · exact only_pure _

end Handleless

/-! ### A start with another handle -/

section Rename

variable {Obj : Type} (f : UInt64 → UInt64)

theorem follows_startStreamingProxy (windows : Bool) (conn : Obj) (handle : UInt64) :
    Follows (otherHandle f) (Except.map (Prod.map id (Address.rename f)))
      (startStreamingProxy windows conn handle).run
      (startStreamingProxy windows conn (f handle)).run := by
  have serve : ∀ bound : Obj × Address,
      Follows (otherHandle f) (Except.map (Prod.map id (Address.rename f)))
        (do ask (.serveProxy bound.1 conn handle); pure bound : Fallible Obj (Obj × Address)).run
        (do
          ask (.serveProxy bound.1 conn (f handle))
          pure (bound.1, bound.2.rename f) : Fallible Obj (Obj × Address)).run :=
    fun bound => follows_call f (.serveProxy bound.1 conn handle) fun _ =>
      Follows.done (Except.ok bound)
  cases windows with
  | true =>
    refine Follows.bindSame (follows_of_only f (only_perform (.listen (.tcp "127.0.0.1:0")) trivial))
      fun lis => ?_
    refine Follows.bindSame (follows_of_only f (only_ask (.listenerAddr lis) trivial)) fun addr => ?_
    exact serve (lis, .tcp addr)
  | false =>
    refine Follows.bindSame (follows_call f (.remove (.socket handle)) fun _ => Follows.done _)
      fun _ => ?_
    refine Follows.bindSame (follows_call f (.listen (.socket handle)) fun answer =>
      Follows.done answer) fun lis => ?_
    exact serve (lis, .socket handle)

theorem follows_startInstance (windows : Bool) (opts : StartOptions) (handle : UInt64) :
    Follows (otherHandle f) (Except.map (Started.rename f))
      (startInstance windows opts handle : Fallible Obj Started).run
      (startInstance windows opts (f handle)).run := by
  have cancel : Only Call.Handleless (perform .cancel : Program (Call Obj) Call.Answer _) :=
    only_perform .cancel trivial
  refine Follows.bindSame (follows_of_only f (only_orReturn _ cancel
    (only_newDatastoreFromOpts opts))) fun ds => ?_
  refine Follows.bindSame (follows_of_only f (only_orReturn _ cancel
    (only_newSpiceDBServer _ _ ds _))) fun srv => ?_
  refine Follows.bindSame (follows_of_only f (only_configureTracing opts)) fun tracing => ?_
  refine Follows.bindSame (follows_of_only f (only_configureMetrics opts tracing))
    fun metricsServer => ?_
  have abandon : Only Call.Handleless (do
      perform .cancel; perform .wait; cleanupObservability metricsServer tracing) :=
    Obeys.bind cancel fun _ _ => Obeys.bind (only_perform .wait trivial) fun _ _ =>
      only_cleanupObservability metricsServer tracing
  refine Follows.bindSame (follows_of_only f (only_ask _ trivial)) fun _ => ?_
  refine Follows.bindSame (follows_of_only f (only_orReturn _ abandon
    (only_perform (.newClient srv) trivial))) fun conn => ?_
  refine Follows.bindExcept (follows_orReturn f _ (follows_of_only f abandon)
    (follows_startStreamingProxy f windows conn handle)) fun bound => ?_
  refine Follows.bindSame (follows_call f (.register handle _) fun _ => Follows.done _) fun _ => ?_
  exact Follows.done (Except.ok _)

/-- A start makes the calls of the handle it draws. -/
theorem follows_spicedbStart (windows : Bool) (opts : StartOptions) :
    Follows (otherHandle f) (Except.map (Started.rename f))
      (spicedbStart windows opts : Fallible Obj Started).run (spicedbStart windows opts).run := by
  refine Follows.bindSame (Follows.done opts.validate) fun _ => ?_
  refine Follows.bindExcept (follows_ask f .addNextID) fun handle => ?_
  exact follows_startInstance f windows opts handle

end Rename

/-- **Irrelevant options cannot influence a start**: in every environment the same calls are made with
the same arguments, and the same is returned; and where the environment only hands out another handle,
the same but for the handle. -/
theorem spicedbStart_indistinguishable {Obj : Type} (windows : Bool) {a b : StartOptions}
    (agree : Agree a b) :
    (∀ env : Environment (Call Obj) Call.Answer, start env windows b = start env windows a) ∧
      ∀ (f : UInt64 → UInt64) (env env' : Environment (Call Obj) Call.Answer), Alike f env env' →
        start env' windows b =
          (start env windows a).map (Call.rename f) (Except.map (Started.rename f)) := by
  have program : (spicedbStart windows b : Fallible Obj Started) = spicedbStart windows a :=
    (spicedbStart_congr agree windows).symm
  constructor
  · intro env
    rw [start, start, program]
  · intro f env env' alike
    rw [start, start, program]
    exact (follows_spicedbStart f windows a).run_eq alike []

/-- An environment where every call succeeds. -/
def succeeding (handle : UInt64) : Environment (Call Unit) Call.Answer := fun _ call =>
  match call with
  | .addNextID => handle
  | .newDatastore _ | .complete _ | .newExporter _ _ | .mergeResource _ | .listen _ | .newClient _ =>
    .ok ()
  | .listenerAddr _ => "127.0.0.1:50151"
  | .getTracerProvider | .newTracerProvider _ _ | .setTracerProvider _ | .setTextMapPropagator
  | .serveMetrics _ _ | .run _ | .remove _ | .serveProxy _ _ _ | .register _ _ | .cancel | .wait
  | .shutdownMetrics _ | .shutdownTracing _ => ()

/-- Options of another engine and of observability that is switched off, against no options at all. -/
theorem noise_indistinguishable :
    (start (succeeding 7) false { mySQLTablePrefix := "t_", otlpEndpoint := "collector:4317" }).result =
        .ok ⟨7, "memory", .socket 7, "unix"⟩ ∧
      start (succeeding 8) false {} =
        (start (succeeding 7) false
          { mySQLTablePrefix := "t_", otlpEndpoint := "collector:4317" }).map
          (Call.rename fun _ => 8) (Except.map (Started.rename fun _ => 8)) := by
  have agree : Agree { mySQLTablePrefix := "t_", otlpEndpoint := "collector:4317" } {} :=
    ⟨rfl, rfl, rfl, fun _ => ⟨rfl, rfl⟩, fun engine => absurd engine (by decide),
      fun enabled => absurd enabled (by decide)⟩
  have alike : Alike (fun _ => 8) (succeeding 7) (succeeding 8) := by
    intro past call
    cases call <;> rfl
  exact ⟨rfl, (spicedbStart_indistinguishable false agree).2 _ _ _ alike⟩

end SpicedbEmbedded.Lifecycle.Calls
