/-
**What a start runs with.**

The settings that the calls of a start carry: the datastore configuration, the cache metrics, the
OTLP exporter and its service name, and the address of the metrics server.

* `RunsWith` — the settings are those of some option values, option by option.
* `settings` — the settings of a start, in the order of its calls.
* **`start_runsWith`** — a start that succeeds runs with its options, whatever its calls are
  answered.
-/

import SpicedbEmbedded.Lifecycle.Calls

namespace SpicedbEmbedded.Lifecycle.Calls

open Shared (StartOptions DatastoreOption Stage)
open Machine

/-! ### Settings -/

/-- A setting that a call carries. -/
inductive Setting
  | datastore (config : List DatastoreOption)
  | cacheMetrics (dispatch namespaces clusterDispatch : Bool)
  | exporter (endpoint : String) (secure : Bool)
  | serviceName (name : String)
  | tracer
  | metricsServer (addr : String)
  deriving DecidableEq

/-- The setting of a call, if it carries one. -/
def Call.setting {Obj : Type} : Call Obj → Option Setting
  | .newDatastore opts => some (.datastore opts)
  | .complete config => some (.cacheMetrics config.dispatchCache.metrics
      config.namespaceCache.metrics config.clusterDispatchCache.metrics)
  | .newExporter endpoint secure => some (.exporter endpoint secure)
  | .mergeResource serviceName => some (.serviceName serviceName)
  | .setTracerProvider _ => some .tracer
  | .serveMetrics _ addr => some (.metricsServer addr)
  | _ => none

/-- A datastore configuration with these option values: the engine, the URI, and what the engine has
of its own. -/
structure ConfiguredWith (opts : StartOptions) (config : List DatastoreOption) : Prop where
  engine : ∀ engine, .engine engine ∈ config ↔
    engine = if opts.datastore = "" then "memory" else opts.datastore
  uri : ∀ uri, .uri uri ∈ config ↔ uri = opts.datastoreURI ∧ uri ≠ ""
  credentialsFile : ∀ path, .spannerCredentialsFile path ∈ config ↔
    opts.datastore = "spanner" ∧ path = opts.spannerCredentialsFile ∧ path ≠ ""
  emulatorHost : ∀ host, .spannerEmulatorHost host ∈ config ↔
    opts.datastore = "spanner" ∧ host = opts.spannerEmulatorHost ∧ host ≠ ""
  tablePrefix : ∀ text, .tablePrefix text ∈ config ↔
    opts.datastore = "mysql" ∧ text = opts.mySQLTablePrefix ∧ text ≠ ""
  metrics : ∀ enabled, .enableDatastoreMetrics enabled ∈ config ↔
    enabled = (opts.metricsEnabled && opts.datastoreMetricsEnabled.getD true)

/-- Settings with these option values. Without `metrics_enabled` the observability options are off,
and the two optional ones are on with it unless they say otherwise. -/
structure RunsWith (opts : StartOptions) (made : List Setting) : Prop where
  datastore : ∃ config, (∀ other, .datastore other ∈ made ↔ other = config) ∧
    ConfiguredWith opts config
  cacheMetrics : ∀ dispatch namespaces clusterDispatch,
    .cacheMetrics dispatch namespaces clusterDispatch ∈ made ↔
      ∀ enabled ∈ [dispatch, namespaces, clusterDispatch],
        enabled = (opts.metricsEnabled && opts.cacheMetricsEnabled.getD true)
  tracer : .tracer ∈ made ↔ opts.metricsEnabled = true ∧ opts.otlpEndpoint ≠ ""
  exporter : ∀ endpoint secure, .exporter endpoint secure ∈ made ↔
    opts.metricsEnabled = true ∧ endpoint = opts.otlpEndpoint ∧ endpoint ≠ "" ∧ secure = false
  serviceName : ∀ name, .serviceName name ∈ made ↔
    opts.metricsEnabled = true ∧ opts.otlpEndpoint ≠ "" ∧
      name = if opts.otlpServiceName = "" then "spicedb" else opts.otlpServiceName
  metricsServer : ∀ addr, .metricsServer addr ∈ made ↔
    opts.metricsEnabled = true ∧ 0 < opts.metricsPort ∧
      addr = (if opts.metricsHost = "" then "0.0.0.0" else opts.metricsHost) ++ ":" ++
        toString opts.metricsPort

/-! ### The settings of a start -/

/-- The settings of a start, in the order of its calls. -/
def settings (opts : StartOptions) : List Setting :=
  [.datastore opts.datastoreOpts,
      .cacheMetrics opts.cacheMetrics opts.cacheMetrics opts.cacheMetrics]
    ++ ((if opts.tracing then
          [.exporter opts.otlpEndpoint false, .serviceName opts.serviceName, .tracer] else [])
      ++ (if opts.metrics then [.metricsServer opts.metricsAddr] else []))

section Shows

variable {Obj α : Type} {opts : StartOptions}

/-- A step whose error is returned shows what it shows without. -/
theorem shows_orReturn (text : String → String) (cleanup : Program (Call Obj) Call.Answer Unit)
    {seen : List Setting} {step : Fallible Obj α} (shown : Shows Call.setting seen step) :
    Shows Call.setting seen (orReturn text cleanup step) := by
  intro env past value
  have first := shown env past
  show ((step.run >>= _).run env past).result = _ → ((step.run >>= _).run env past).calls.filterMap _ = _
  rw [Program.run_bind]
  cases ended : (step.run.run env past).result with
  | error err =>
    dsimp only
    rw [Program.run_bind]
    intro failed
    cases failed
  | ok middle =>
    intro returned
    show ((step.run.run env past).calls ++ []).filterMap _ = _
    rw [List.append_nil]
    exact first middle ended

theorem shows_newDatastoreFromOpts : Shows Call.setting [.datastore opts.datastoreOpts]
    (newDatastoreFromOpts opts : Fallible Obj Obj) := .of_calls fun _ _ => rfl

theorem shows_newSpiceDBServerFromDatastore (ds : Obj) (metrics : Bool) :
    Shows Call.setting [.cacheMetrics metrics metrics metrics]
      (newSpiceDBServerFromDatastore "" "memory" ds metrics) := .of_calls fun _ _ => rfl

theorem shows_setupOTelTracing (endpoint serviceName : String) :
    Shows Call.setting [.exporter endpoint false, .serviceName serviceName, .tracer]
      (setupOTelTracing endpoint serviceName : Fallible Obj (Obj × Obj)) := by
  refine Shows.bind [Setting.exporter endpoint false]
    (shows_orReturn _ _ (.of_calls fun _ _ => rfl)) fun exporter => ?_
  refine Shows.bind [Setting.serviceName serviceName]
    (shows_orReturn _ _ (.of_calls fun _ _ => rfl)) fun res => ?_
  refine Shows.bind [] (.of_calls fun _ _ => rfl) fun prev => ?_
  refine Shows.bind [] (.of_calls fun _ _ => rfl) fun tp => ?_
  refine Shows.bind [Setting.tracer] (.of_calls fun _ _ => rfl) fun _ => ?_
  exact Shows.bind [] (.of_calls fun _ _ => rfl) fun _ => Shows.pure _

theorem shows_startMetricsServer (addr : String) (port : Int) :
    Shows Call.setting [.metricsServer addr] (startMetricsServer addr port : Fallible Obj Obj) := by
  refine Shows.bind [] (shows_orReturn _ _ (.of_calls fun _ _ => rfl)) fun ln => ?_
  exact Shows.bind [Setting.metricsServer addr] (.of_calls fun _ _ => rfl) fun _ => Shows.pure _

theorem shows_startStreamingProxy (windows : Bool) (conn : Obj) (id : UInt64) :
    Shows Call.setting [] (startStreamingProxy windows conn id) := by
  have served : ∀ bound : Obj × Address, Shows Call.setting []
      (do ask (.serveProxy bound.1 conn id); pure bound : Fallible Obj (Obj × Address)) :=
    fun bound => Shows.bind [] (.of_calls fun _ _ => rfl) fun _ => Shows.pure bound
  cases windows with
  | true =>
    refine Shows.bind [] (.of_calls fun _ _ => rfl) fun lis => ?_
    exact Shows.bind [] (.of_calls fun _ _ => rfl) fun addr => served (lis, .tcp addr)
  | false =>
    refine Shows.bind [] (.of_calls fun _ _ => rfl) fun _ => ?_
    exact Shows.bind [] (.of_calls fun _ _ => rfl) fun lis => served (lis, .socket id)

theorem shows_configureTracing :
    Shows Call.setting (if opts.tracing then
        [.exporter opts.otlpEndpoint false, .serviceName opts.serviceName, .tracer] else [])
      (configureTracing opts : Fallible Obj (Option (Obj × Obj))) := by
  rw [configureTracing]
  cases opts.tracing with
  | true =>
    exact Shows.bind [.exporter opts.otlpEndpoint false, .serviceName opts.serviceName, .tracer]
      (shows_orReturn _ _ (shows_setupOTelTracing _ _)) fun _ => Shows.pure _
  | false => exact Shows.pure none

theorem shows_configureMetrics (tracing : Option (Obj × Obj)) :
    Shows Call.setting (if opts.metrics then [.metricsServer opts.metricsAddr] else [])
      (configureMetrics opts tracing) := by
  rw [configureMetrics]
  cases opts.metrics with
  | true =>
    exact Shows.bind [.metricsServer opts.metricsAddr]
      (shows_orReturn _ _ (shows_startMetricsServer _ _)) fun _ => Shows.pure _
  | false => exact Shows.pure none

/-- **A start that succeeds has called with its settings.** -/
theorem shows_spicedbStart (windows : Bool) :
    Shows Call.setting (settings opts) (spicedbStart windows opts : Fallible Obj Started) := by
  refine Shows.bind [] (.of_calls fun _ _ => rfl) fun _ => ?_
  refine Shows.bind [] (.of_calls fun _ _ => rfl) fun id => ?_
  refine Shows.bind _ (shows_orReturn _ _ shows_newDatastoreFromOpts) fun ds => ?_
  refine Shows.bind _ (shows_orReturn _ _ (shows_newSpiceDBServerFromDatastore ds _)) fun srv => ?_
  refine Shows.bind _ shows_configureTracing fun tracing => ?_
  rw [← List.append_nil (if opts.metrics then _ else _)]
  refine Shows.bind _ (shows_configureMetrics tracing) fun metricsServer => ?_
  refine Shows.bind [] (.of_calls fun _ _ => rfl) fun _ => ?_
  refine Shows.bind [] (shows_orReturn _ _ (.of_calls fun _ _ => rfl)) fun conn => ?_
  refine Shows.bind [] (shows_orReturn _ _ (shows_startStreamingProxy windows conn id))
    fun bound => ?_
  exact Shows.bind [] (.of_calls fun _ _ => rfl) fun _ => Shows.pure _

end Shows

/-! ### The settings are those of the options -/

section Runs

variable {Obj : Type} (opts : StartOptions)

/-- Only an empty name stands for another engine, the in-memory one. -/
theorem engine_iff (name : String) (remote : name ≠ "memory") (named : name ≠ "") :
    opts.engine = name ↔ opts.datastore = name := by
  rw [StartOptions.engine]
  split
  · next empty =>
    rw [empty]
    exact iff_of_false (fun same => remote same.symm) fun same => named same.symm
  · exact Iff.rfl

theorem datastoreOpts_configuredWith : ConfiguredWith opts opts.datastoreOpts := by
  have spanner := engine_iff opts "spanner" (by decide) (by decide)
  have mysql := engine_iff opts "mysql" (by decide) (by decide)
  rw [StartOptions.datastoreOpts]
  constructor <;> intro value
  · grind [StartOptions.engine, Shared.memoryEngine]
  · grind
  · grind
  · grind
  · grind
  · simp [Shared.boolPtrOrDefault]

theorem settings_runsWith : RunsWith opts (settings opts) := by
  refine ⟨⟨opts.datastoreOpts, fun other => ?_, datastoreOpts_configuredWith opts⟩, ?_, ?_, ?_, ?_, ?_⟩
  · simp [settings]
  · intro dispatch namespaces clusterDispatch
    simp [settings, StartOptions.cacheMetrics, Shared.boolPtrOrDefault]
  · simp [settings, StartOptions.tracing]
  · intro endpoint secure
    grind [settings, StartOptions.tracing]
  · intro name
    grind [settings, StartOptions.tracing, StartOptions.serviceName]
  · intro addr
    grind [settings, StartOptions.metrics, StartOptions.metricsAddr]

/-- **A start that succeeds runs with its options**, whatever its calls are answered. -/
theorem start_runsWith {env : Environment (Call Obj) Call.Answer} {windows : Bool} {started : Started}
    (ok : (start env windows opts).result = .ok started) :
    RunsWith opts ((start env windows opts).calls.filterMap Call.setting) := by
  have shown : (start env windows opts).calls.filterMap Call.setting = settings opts :=
    shows_spicedbStart windows env [] started ok
  rw [shown]
  exact settings_runsWith opts

end Runs

end SpicedbEmbedded.Lifecycle.Calls
