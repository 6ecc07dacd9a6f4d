/-
**`StartOptions`, and what `spicedb_start` decides from them alone.**

The options of `shared/c/main.go`, as `spicedb_start` holds them after decoding, and the pure
decisions made on them before any external step: the engine, the check that a remote engine comes
with a URI (`validate`), the datastore configuration (`datastoreOpts`), the switches of the
observability stages, and the order of the stages a start goes through (`stages`).

The twelve fields keep their Go zero values as defaults; the two `*bool` fields are options, `nil`
being `none`.
-/

import Mathlib.Data.List.Basic

namespace SpicedbEmbedded.Shared

/-- `StartOptions`: the datastore and the observability settings of one start. -/
structure StartOptions where
  datastore : String := ""
  datastoreURI : String := ""
  spannerCredentialsFile : String := ""
  spannerEmulatorHost : String := ""
  mySQLTablePrefix : String := ""
  metricsEnabled : Bool := false
  datastoreMetricsEnabled : Option Bool := none
  cacheMetricsEnabled : Option Bool := none
  otlpEndpoint : String := ""
  otlpServiceName : String := ""
  metricsPort : Int := 0
  metricsHost : String := ""
  deriving Repr, DecidableEq

/-- `boolPtrOrDefault`: the value pointed to, or the default for `nil`. -/
def boolPtrOrDefault (b : Option Bool) (default : Bool) : Bool := b.getD default

/-- `datastore.MemoryEngine`. -/
def memoryEngine : String := "memory"

/-- `remoteEngines`. -/
def remoteEngines : List String := ["postgres", "cockroachdb", "spanner", "mysql"]

/-! ### The datastore -/

/-- One `datastore.ConfigOption` of `newDatastoreFromOpts`. -/
inductive DatastoreOption
  | defaults
  | engine (engine : String)
  | requestHedgingEnabled (enabled : Bool)
  | enableDatastoreMetrics (enabled : Bool)
  | uri (uri : String)
  | spannerCredentialsFile (path : String)
  | spannerEmulatorHost (host : String)
  | tablePrefix (tablePrefix : String)
  deriving Repr, DecidableEq

namespace StartOptions

variable (opts : StartOptions)

/-- The engine, an empty name meaning the in-memory one. -/
def engine : String := if opts.datastore = "" then memoryEngine else opts.datastore

/-- The first check of `spicedb_start`: a remote engine needs a URI. -/
def validate : Except String Unit :=
  if opts.engine ∈ remoteEngines ∧ opts.datastoreURI = "" then
    .error ("datastore_uri is required for " ++ opts.engine ++ " datastore")
  else .ok ()

/-- The options `newDatastoreFromOpts` passes to `datastore.NewDatastore`, in its order. -/
def datastoreOpts : List DatastoreOption :=
  let datastoreMetrics := opts.metricsEnabled && boolPtrOrDefault opts.datastoreMetricsEnabled true
  [.defaults, .engine opts.engine, .requestHedgingEnabled false,
    .enableDatastoreMetrics datastoreMetrics]
    ++ (if opts.datastoreURI ≠ "" then [.uri opts.datastoreURI] else [])
    ++ (if opts.engine = "spanner" then
          (if opts.spannerCredentialsFile ≠ "" then
            [.spannerCredentialsFile opts.spannerCredentialsFile] else [])
          ++ (if opts.spannerEmulatorHost ≠ "" then
            [.spannerEmulatorHost opts.spannerEmulatorHost] else [])
        else [])
    ++ (if opts.engine = "mysql" ∧ opts.mySQLTablePrefix ≠ "" then
          [.tablePrefix opts.mySQLTablePrefix] else [])

/-! ### Observability -/

/-- `cacheMetricsEnabled` as passed to `newSpiceDBServerFromDatastore`. -/
def cacheMetrics : Bool := opts.metricsEnabled && boolPtrOrDefault opts.cacheMetricsEnabled true

/-- Whether the start sets up OTLP tracing. -/
def tracing : Bool := opts.metricsEnabled && opts.otlpEndpoint != ""

/-- Whether the start opens a metrics listener. -/
def metrics : Bool := opts.metricsEnabled && decide (0 < opts.metricsPort)

/-- The service name on exported traces: `setupOTelTracing` fills in `spicedb`. -/
def serviceName : String := if opts.otlpServiceName = "" then "spicedb" else opts.otlpServiceName

/-- The `host:port` `startMetricsServer` binds. -/
def metricsAddr : String :=
  (if opts.metricsHost = "" then "0.0.0.0" else opts.metricsHost) ++ ":" ++ toString opts.metricsPort

end StartOptions

/-! ### The stages of a start -/

/-- An external step of `spicedb_start` that can fail. -/
inductive Stage
  | datastore
  | server
  | tracing
  | metrics
  | client
  | proxy
  deriving Repr, DecidableEq

/-- The text `spicedb_start` returns when the stage fails with `err`. -/
def Stage.failure (err : String) : Stage → String
  | .datastore => "failed to create datastore: " ++ err
  | .server => "failed to create server: " ++ err
  | .tracing => "failed to configure OTLP tracing: " ++ err
  | .metrics => "failed to start metrics server: " ++ err
  | .client => "failed to create in-memory client: " ++ err
  | .proxy => "failed to start streaming proxy: " ++ err

/-- The stages a start with these options goes through, in order. -/
def StartOptions.stages (opts : StartOptions) : List Stage :=
  [.datastore, .server]
    ++ (if opts.tracing then [.tracing] else [])
    ++ (if opts.metrics then [.metrics] else [])
    ++ [.client, .proxy]

/-- Without `metrics_enabled` a start never reaches the tracing or the metrics stage. -/
theorem StartOptions.stages_of_not_metricsEnabled {opts : StartOptions}
    (disabled : opts.metricsEnabled = false) :
    opts.stages = [.datastore, .server, .client, .proxy] := by
  simp [StartOptions.stages, StartOptions.tracing, StartOptions.metrics, disabled]

end SpicedbEmbedded.Shared
