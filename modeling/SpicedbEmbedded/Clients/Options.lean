/-
**The options of five languages, encoded and decoded.**

Each binding writes its `StartOptions` as a JSON object: serde of the Rust structure, Gson of the
annotated Java fields, `JsonSerializer` of the C# properties with a naming policy, `json.dumps` of the
dictionary of the Python data class, `JSON.stringify` of the Node object. The text goes to the library
as a C string.

* `members` — the object a binding writes: its keys by the naming rule of the binding, and what it does
  with options that are not set; a text has Unicode scalar values.
* `keys_eq` — the keys are the names of Go's fields.
* `Agrees` — the text reaches Go whole, and is decoded to the same options.
* **`agrees_iff`** — it does exactly when the metrics port is an integer of Go's `int` and, in Java, the
  encoding of the runtime carries the text.
-/

import SpicedbEmbedded.Ffi.Bindings
import SpicedbEmbedded.Json.Printer
import SpicedbEmbedded.Shared.Decode
import SpicedbEmbedded.Text.Path

namespace SpicedbEmbedded.Clients.Options

open Ffi (Binding)
open Json (Scalar Value Printer Style IsNumber decimal)
open Shared (Field IsInt goString goString_encode goString_terminated parseStartOptions)

/-! ### The options of a binding -/

/-- A Python `int`; a `bool` is one. -/
inductive PythonInt
  | int (n : Int)
  | bool (b : Bool)

/-- A JavaScript number, by what `JSON.stringify` makes of it: the digits of an integer, another number,
or `null` for what is not finite. The integer is the one that is printed, the shortest that is nearest to
the number: from `2 ** 53` on it need not be the number's own value (`2 ** 60` prints
1152921504606847000). -/
inductive JsNumber
  | integer (n : Int)
  | other (text : List Char) (valid : IsNumber text) (broken : ∀ n, text ≠ decimal n)
  | notFinite

/-- The type of the metrics port. -/
def Port : Binding → Type
  | .rust => UInt16
  | .java => Int32
  | .csharp => Int32
  | .python => PythonInt
  | .node => JsNumber

/-- A port as it is printed. -/
def Port.scalar : (b : Binding) → Port b → Scalar
  | .rust, (port : UInt16) => .integer port.toNat
  | .java, (port : Int32) => .integer port.toInt
  | .csharp, (port : Int32) => .integer port.toInt
  | .python, .int n => .integer n
  | .python, .bool b => .bool b
  | .node, .integer n => .integer n
  | .node, .other text valid _ => .number text valid
  | .node, .notFinite => .null

/-- The integer a port is, unless it is something else. -/
def Port.int? : (b : Binding) → Port b → Option Int
  | .rust, (port : UInt16) => some port.toNat
  | .java, (port : Int32) => some port.toInt
  | .csharp, (port : Int32) => some port.toInt
  | .python, .int n => some n
  | .python, .bool _ => none
  | .node, .integer n => some n
  | .node, .other _ _ _ => none
  | .node, .notFinite => none

/-- `StartOptions` of a binding: twelve options, each of which may be left out. -/
structure StartOptions (b : Binding) where
  datastore : Option String := none
  datastoreUri : Option String := none
  spannerCredentialsFile : Option String := none
  spannerEmulatorHost : Option String := none
  mysqlTablePrefix : Option String := none
  metricsEnabled : Option Bool := none
  datastoreMetricsEnabled : Option Bool := none
  cacheMetricsEnabled : Option Bool := none
  otlpEndpoint : Option String := none
  otlpServiceName : Option String := none
  metricsPort : Option (Port b) := none
  metricsHost : Option String := none

/-- A text as it is printed. -/
def text (s : String) : Scalar := .string s.toList

/-- The values of the options, in the order in which all five declare them. -/
def StartOptions.values {b : Binding} (opts : StartOptions b) : List (Option Scalar) :=
  [opts.datastore.map text, opts.datastoreUri.map text, opts.spannerCredentialsFile.map text,
    opts.spannerEmulatorHost.map text, opts.mysqlTablePrefix.map text,
    opts.metricsEnabled.map .bool, opts.datastoreMetricsEnabled.map .bool,
    opts.cacheMetricsEnabled.map .bool, opts.otlpEndpoint.map text, opts.otlpServiceName.map text,
    opts.metricsPort.map (Port.scalar b), opts.metricsHost.map text]

/-! ### Keys -/

/-- `SeparatorState`. -/
inductive SeparatorState
  | notStarted
  | uppercaseLetter
  | lowercaseLetterOrDigit
  | spaceSeparator
  deriving DecidableEq

/-- `JsonNamingPolicy.SnakeCaseLower`, from a state. -/
def snakeCaseLower : SeparatorState → List Char → List Char
  | _, [] => []
  | state, c :: rest =>
    if c.isUpper then
      (match state with
        | .notStarted => []
        | .lowercaseLetterOrDigit | .spaceSeparator => ['_']
        | .uppercaseLetter => if rest.head?.any Char.isLower then ['_'] else [])
        ++ c.toLower :: snakeCaseLower .uppercaseLetter rest
    else if c.isLower || c.isDigit then
      (if state = .spaceSeparator then ['_'] else [])
        ++ c :: snakeCaseLower .lowercaseLetterOrDigit rest
    else if c = ' ' then
      snakeCaseLower (if state = .notStarted then .notStarted else .spaceSeparator) rest
    else c :: snakeCaseLower .notStarted rest

/-- The fields of the Rust structure; `rename_all = "snake_case"` leaves them as they are. -/
def rustFields : List String :=
  ["datastore", "datastore_uri", "spanner_credentials_file", "spanner_emulator_host",
    "mysql_table_prefix", "metrics_enabled", "datastore_metrics_enabled", "cache_metrics_enabled",
    "otlp_endpoint", "otlp_service_name", "metrics_port", "metrics_host"]

/-- The Java fields, each with its `SerializedName`. -/
def javaFields : List (String × Option String) :=
  [("datastore", none), ("datastoreUri", "datastore_uri"),
    ("spannerCredentialsFile", "spanner_credentials_file"),
    ("spannerEmulatorHost", "spanner_emulator_host"), ("mysqlTablePrefix", "mysql_table_prefix"),
    ("metricsEnabled", "metrics_enabled"),
    ("datastoreMetricsEnabled", "datastore_metrics_enabled"),
    ("cacheMetricsEnabled", "cache_metrics_enabled"), ("otlpEndpoint", "otlp_endpoint"),
    ("otlpServiceName", "otlp_service_name"), ("metricsPort", "metrics_port"),
    ("metricsHost", "metrics_host")]

/-- The C# properties, each with its `JsonPropertyName`. -/
def csharpProperties : List (String × Option String) :=
  [("Datastore", none), ("DatastoreUri", none), ("SpannerCredentialsFile", none),
    ("SpannerEmulatorHost", none), ("MySqlTablePrefix", "mysql_table_prefix"),
    ("MetricsEnabled", none), ("DatastoreMetricsEnabled", "datastore_metrics_enabled"),
    ("CacheMetricsEnabled", "cache_metrics_enabled"), ("OtlpEndpoint", "otlp_endpoint"),
    ("OtlpServiceName", "otlp_service_name"), ("MetricsPort", "metrics_port"),
    ("MetricsHost", "metrics_host")]

/-- The fields of the Python data class, which are the keys of `asdict`. -/
def pythonFields : List String :=
  ["datastore", "datastore_uri", "spanner_credentials_file", "spanner_emulator_host",
    "mysql_table_prefix", "metrics_enabled", "datastore_metrics_enabled", "cache_metrics_enabled",
    "otlp_endpoint", "otlp_service_name", "metrics_port", "metrics_host"]

/-- The properties of the Node interface. -/
def nodeProperties : List String :=
  ["datastore", "datastore_uri", "spanner_credentials_file", "spanner_emulator_host",
    "mysql_table_prefix", "metrics_enabled", "datastore_metrics_enabled", "cache_metrics_enabled",
    "otlp_endpoint", "otlp_service_name", "metrics_port", "metrics_host"]

/-- The keys a binding writes. -/
def keys : Binding → List (List Char)
  | .rust => rustFields.map String.toList
  | .java => javaFields.map fun field => (field.2.getD field.1).toList
  | .csharp => csharpProperties.map fun property =>
    match property.2 with
    | some name => name.toList
    | none => snakeCaseLower .notStarted property.1.toList
  | .python => pythonFields.map String.toList
  | .node => nodeProperties.map String.toList

/-- The object a binding writes: C# writes `null` for an option that is not set, the others leave it
out. -/
def members (b : Binding) (opts : StartOptions b) : List (List Char × Scalar) :=
  match b with
  | .csharp => List.zipWith (fun key v => (key, v.getD .null)) (keys .csharp) opts.values
  | b => (List.zipWith (fun key v => v.map (key, ·)) (keys b) opts.values).filterMap id

/-- The keys are the names of Go's fields, in their order. -/
theorem keys_eq (b : Binding) : keys b = Field.all.map Field.jsonName := by
  cases b with
  | rust | java | python | node => rfl
  | csharp => decide

/-! ### What is written -/

/-- The value of the option for a field. -/
def StartOptions.value {b : Binding} (opts : StartOptions b) : Field → Option Scalar
  | .datastore => opts.datastore.map text
  | .datastoreURI => opts.datastoreUri.map text
  | .spannerCredentialsFile => opts.spannerCredentialsFile.map text
  | .spannerEmulatorHost => opts.spannerEmulatorHost.map text
  | .mySQLTablePrefix => opts.mysqlTablePrefix.map text
  | .metricsEnabled => opts.metricsEnabled.map .bool
  | .datastoreMetricsEnabled => opts.datastoreMetricsEnabled.map .bool
  | .cacheMetricsEnabled => opts.cacheMetricsEnabled.map .bool
  | .otlpEndpoint => opts.otlpEndpoint.map text
  | .otlpServiceName => opts.otlpServiceName.map text
  | .metricsPort => opts.metricsPort.map (Port.scalar b)
  | .metricsHost => opts.metricsHost.map text

theorem values_eq {b : Binding} (opts : StartOptions b) :
    opts.values = Field.all.map opts.value := rfl

/-- What a binding writes for a field. -/
def written {b : Binding} (opts : StartOptions b) (field : Field) : Option Scalar :=
  if b = .csharp then some ((opts.value field).getD .null) else opts.value field

/-- A binding writes one member for each field, or none. -/
theorem members_eq {b : Binding} (opts : StartOptions b) :
    members b opts = Field.all.filterMap fun field =>
      (written opts field).map (field.jsonName, ·) := by
  by_cases csharp : b = .csharp
  · subst csharp
    have nulls : members .csharp opts =
        List.zipWith (fun key v => (key, v.getD .null)) (keys .csharp) opts.values := rfl
    rw [nulls, keys_eq, values_eq, List.zipWith_map, List.zipWith_self, ← List.filterMap_eq_map]
    rfl
  · have plain : members b opts =
        (List.zipWith (fun key v => v.map (key, ·)) (keys b) opts.values).filterMap id := by
      cases b with
      | csharp => exact absurd rfl csharp
      | _ => rfl
    rw [plain, keys_eq, values_eq, List.zipWith_map, List.zipWith_self, List.filterMap_map]
    simp only [written, if_neg csharp]
    rfl

/-- The keys of the members that are kept are some of all the keys. -/
theorem kept_sublist {A K X : Type} (key : A → K) (kept : A → Option X) (l : List A) :
    ((l.filterMap fun a => (kept a).map (key a, ·)).map Prod.fst).Sublist (l.map key) := by
  induction l with
  | nil => exact List.Sublist.slnil
  | cons a rest later =>
    rw [List.filterMap_cons, List.map_cons]
    rcases kept a with _ | x
    · exact later.cons _
    · exact later.cons_cons _

/-- The keys of what is written are distinct. -/
theorem members_nodup {b : Binding} (opts : StartOptions b) :
    ((members b opts).map Prod.fst).Nodup := by
  have names : (Field.all.map Field.jsonName).Nodup := by decide
  rw [members_eq]
  exact names.sublist (kept_sublist ..)

/-- Of a list without repetitions, what is kept for one of its elements. -/
theorem filterMap_single {A B : Type} [DecidableEq A] {l : List A} (nodup : l.Nodup) {a : A}
    (member : a ∈ l) (x : Option B) :
    l.filterMap (fun other => if other = a then x else none) = x.toList := by
  induction l with
  | nil => cases member
  | cons other rest later =>
    obtain ⟨fresh, left⟩ := List.nodup_cons.mp nodup
    have absent : other = a → rest.filterMap (fun other => if other = a then x else none) = [] := by
      rintro rfl
      refine List.filterMap_eq_nil_iff.mpr fun b inside => if_neg ?_
      rintro rfl
      exact fresh inside
    rw [List.filterMap_cons]
    by_cases same : other = a
    · rw [if_pos same, absent same]
      cases x <;> rfl
    · rw [if_neg same]
      exact later left ((List.mem_cons.mp member).resolve_left (Ne.symm same))

/-- What the members say for a field is what is written for it. -/
theorem readings_members {b : Binding} (opts : StartOptions b) (field : Field) :
    Shared.readings field ((members b opts).map fun m => (m.1, m.2.value)) =
      ((written opts field).bind fun x => Shared.reading field.kind x.value).toList := by
  have all : Field.all.Nodup := by decide
  have known : field ∈ Field.all := by cases field <;> decide
  rw [Shared.readings, members_eq, List.filterMap_map, List.filterMap_filterMap,
    ← filterMap_single all known]
  refine List.filterMap_congr fun other _ => ?_
  rcases made : written opts other with _ | x
  · by_cases same : other = field
    · rw [if_pos same, ← same, made]
      rfl
    · rw [if_neg same]
      rfl
  · show (if Field.named other.jsonName = some field then Shared.reading field.kind x.value
      else none) = _
    rw [Field.named_jsonName]
    by_cases same : other = field
    · rw [if_pos (congrArg some same), if_pos same, ← same, made]
      rfl
    · rw [if_neg same, if_neg fun equal => same (Option.some.inj equal)]

/-! ### From a binding to Go -/

/-- What the bindings run on: their JSON libraries, and the encoding in which JNA passes strings, which
is that of the platform unless it is set. -/
structure Runtime where
  printer : Binding → Printer
  jnaEncode : List Char → List UInt8

/-- The text a binding writes. -/
def Runtime.json (runtime : Runtime) (b : Binding) (opts : StartOptions b) : List Char :=
  (runtime.printer b).print (members b opts)

/-- The C string a binding makes of a text. Rust refuses one with a zero character; Python and C# append
the zero byte themselves. -/
def Runtime.cString (runtime : Runtime) (b : Binding) (json : List Char) :
    Except String (List UInt8) :=
  match b with
  | .rust =>
    if '\x00' ∈ json then .error "options contain null byte" else .ok (Text.encode json)
  | .java => .ok (runtime.jnaEncode json)
  | .csharp => .ok (Text.encode (json ++ ['\x00']))
  | .python => .ok (Text.encode json ++ [0])
  | .node => .ok (Text.encode json)

/-- A port is the given integer, or is not set and the integer is zero. -/
def SamePort (b : Binding) (n : Int) : Option (Port b) → Prop
  | none => n = 0
  | some port => Port.int? b port = some n

/-- Every option that is set has its value in Go's options, and every other option its default. -/
structure Same {b : Binding} (opts : StartOptions b) (decoded : Shared.StartOptions) : Prop where
  datastore : decoded.datastore = opts.datastore.getD ""
  datastoreURI : decoded.datastoreURI = opts.datastoreUri.getD ""
  spannerCredentialsFile : decoded.spannerCredentialsFile = opts.spannerCredentialsFile.getD ""
  spannerEmulatorHost : decoded.spannerEmulatorHost = opts.spannerEmulatorHost.getD ""
  mySQLTablePrefix : decoded.mySQLTablePrefix = opts.mysqlTablePrefix.getD ""
  metricsEnabled : decoded.metricsEnabled = opts.metricsEnabled.getD false
  datastoreMetricsEnabled : decoded.datastoreMetricsEnabled = opts.datastoreMetricsEnabled
  cacheMetricsEnabled : decoded.cacheMetricsEnabled = opts.cacheMetricsEnabled
  otlpEndpoint : decoded.otlpEndpoint = opts.otlpEndpoint.getD ""
  otlpServiceName : decoded.otlpServiceName = opts.otlpServiceName.getD ""
  metricsPort : SamePort b decoded.metricsPort opts.metricsPort
  metricsHost : decoded.metricsHost = opts.metricsHost.getD ""

/-- The options of a binding reach Go: the text has no zero character, Go reads the text that was written,
and decodes it to the same options. -/
def Agrees (runtime : Runtime) {b : Binding} (opts : StartOptions b) : Prop :=
  '\x00' ∉ runtime.json b opts ∧
    ∃ bytes, runtime.cString b (runtime.json b opts) = .ok bytes ∧
      Text.runes (goString bytes) = runtime.json b opts ∧
      Same opts (parseStartOptions (some bytes))

/-- A port that Go's `int` can hold. -/
def Fits (b : Binding) (port : Port b) : Prop := ∃ n, Port.int? b port = some n ∧ IsInt n

/-- JNA passes a text so that Go reads it. -/
def Runtime.Carries (runtime : Runtime) (json : List Char) : Prop :=
  Text.runes (goString (runtime.jnaEncode json)) = json

/-- The text has no zero character. -/
theorem zero_not_mem (runtime : Runtime) {b : Binding} (opts : StartOptions b) :
    '\x00' ∉ runtime.json b opts := by
  intro zero
  have visible := (runtime.printer b).escapes _ _ zero
  revert visible
  decide

/-- All bindings but Java's pass the text so that Go reads it; JNA does if the encoding is right. -/
theorem cString_reads (runtime : Runtime) {b : Binding} {json : List Char}
    (whole : '\x00' ∉ json) (carries : b = .java → runtime.Carries json) :
    ∃ bytes, runtime.cString b json = .ok bytes ∧ Text.runes (goString bytes) = json := by
  have plain : Text.runes (goString (Text.encode json)) = json := by
    rw [goString_encode whole, Text.runes_encode]
  have ended : Text.runes (goString (Text.encode json ++ [0])) = json := by
    rw [goString_terminated whole, Text.runes_encode]
  cases b with
  | rust => exact ⟨_, if_neg whole, plain⟩
  | java => exact ⟨_, rfl, carries rfl⟩
  | csharp =>
    refine ⟨_, rfl, ?_⟩
    rw [Text.encode_append]
    exact ended
  | python => exact ⟨_, rfl, ended⟩
  | node => exact ⟨_, rfl, plain⟩

/-- A port that is an integer is printed as one. -/
theorem Port.scalar_of_int {b : Binding} {port : Port b} {n : Int}
    (integer : Port.int? b port = some n) : Port.scalar b port = .integer n := by
  cases b with
  | rust | java | csharp =>
    cases integer
    rfl
  | python =>
    rcases port with m | flag
    · cases integer
      rfl
    · cases integer
  | node =>
    rcases port with m | _ | _
    · cases integer
      rfl
    · cases integer
    · cases integer

/-- The value of an option is of its field's type. -/
theorem value_accepts {b : Binding} {opts : StartOptions b}
    (fits : ∀ port, opts.metricsPort = some port → Fits b port) {field : Field} {x : Scalar}
    (given : opts.value field = some x) : Shared.Accepts field.kind x.value := by
  cases field with
  | metricsPort =>
    obtain ⟨port, isPort, rfl⟩ := Option.map_eq_some_iff.mp given
    obtain ⟨n, integer, inside⟩ := fits port isPort
    rw [Port.scalar_of_int integer]
    exact .inr ⟨decimal n, n, rfl, Shared.parseInt_decimal inside⟩
  | _ =>
    obtain ⟨v, -, rfl⟩ := Option.map_eq_some_iff.mp given
    exact .inr ⟨_, rfl⟩

/-- So is what a binding writes for a field. -/
theorem written_accepts {b : Binding} {opts : StartOptions b}
    (fits : ∀ port, opts.metricsPort = some port → Fits b port) {field : Field} {x : Scalar}
    (made : written opts field = some x) : Shared.Accepts field.kind x.value := by
  rw [written] at made
  split at made
  · cases made
    rcases given : opts.value field with _ | y
    · exact .inl rfl
    · exact value_accepts fits given
  · exact value_accepts fits made

/-- The object a binding writes has values of the right types. -/
theorem members_typed {b : Binding} {opts : StartOptions b}
    (fits : ∀ port, opts.metricsPort = some port → Fits b port) :
    Shared.Typed ((members b opts).map fun m => (m.1, m.2.value)) := by
  intro m inside field named
  obtain ⟨n, member, rfl⟩ := List.mem_map.mp inside
  rw [members_eq, List.mem_filterMap] at member
  obtain ⟨other, -, kept⟩ := member
  obtain ⟨x, made, rfl⟩ := Option.map_eq_some_iff.mp kept
  rw [Field.named_jsonName] at named
  obtain rfl := Option.some.inj named
  exact written_accepts fits made

/-- What Go decodes of a text that reaches it: what is written for each field. -/
theorem decoded_get (runtime : Runtime) {b : Binding} {opts : StartOptions b}
    (fits : ∀ port, opts.metricsPort = some port → Fits b port) {bytes : List UInt8}
    (read : Text.runes (goString bytes) = runtime.json b opts) (field : Field) :
    field.get (parseStartOptions (some bytes)) =
      ((written opts field).bind fun x => Shared.reading field.kind x.value).getD
        field.kind.zero := by
  have parsed := (runtime.printer b).parses _ (members_nodup opts)
  have some : goString bytes ≠ [] := by
    intro none
    rw [none] at read
    rw [← Runtime.json, ← read] at parsed
    cases parsed
  have declared := (Shared.unmarshal_object parsed (members_typed fits)).2 field
  rw [parseStartOptions, if_neg some, read, Runtime.json, declared, readings_members]
  rcases ((written opts field).bind fun x => Shared.reading field.kind x.value) <;> rfl

/-! ### Values that are decoded -/

section
variable (c : Prop) [Decidable c]

theorem string_reads (o : Option String) :
    ((if c then some ((o.map text).getD .null) else o.map text).bind fun x =>
      Shared.reading .string x.value).getD "" = o.getD "" := by
  rcases o with _ | s
  · split <;> rfl
  · have same : String.ofList s.toList = s := String.ofList_toList
    split <;> exact same

theorem bool_reads (o : Option Bool) :
    ((if c then some ((o.map Scalar.bool).getD .null) else o.map .bool).bind fun x =>
      Shared.reading .bool x.value).getD false = o.getD false := by
  rcases o with _ | v <;> split <;> rfl

theorem boolPtr_reads (o : Option Bool) :
    ((if c then some ((o.map Scalar.bool).getD .null) else o.map .bool).bind fun x =>
      Shared.reading .boolPtr x.value).getD none = o := by
  rcases o with _ | v <;> split <;> rfl

theorem int_reads {b : Binding} {o : Option (Port b)}
    (fits : ∀ port, o = some port → Fits b port) {n : Int}
    (decoded : n = ((if c then some ((o.map (Port.scalar b)).getD .null)
      else o.map (Port.scalar b)).bind fun x => Shared.reading .int x.value).getD (0 : Int)) :
    SamePort b n o := by
  rcases o with _ | port
  · show n = 0
    rw [decoded]
    split <;> rfl
  · obtain ⟨m, integer, inside⟩ := fits port rfl
    have read : Shared.reading .int (Scalar.integer m).value = some m :=
      Shared.parseInt_decimal inside
    show Port.int? b port = some n
    rw [decoded, integer, Option.map_some, Port.scalar_of_int integer]
    split <;> exact congrArg some (congrArg (Option.getD · (0 : Int)) read).symm

end

/-- Options whose port fits are the same in Go. -/
theorem decoded_same (runtime : Runtime) {b : Binding} {opts : StartOptions b}
    (fits : ∀ port, opts.metricsPort = some port → Fits b port) {bytes : List UInt8}
    (read : Text.runes (goString bytes) = runtime.json b opts) :
    Same opts (parseStartOptions (some bytes)) where
  datastore := (decoded_get runtime fits read .datastore).trans (string_reads _ _)
  datastoreURI := (decoded_get runtime fits read .datastoreURI).trans (string_reads _ _)
  spannerCredentialsFile :=
    (decoded_get runtime fits read .spannerCredentialsFile).trans (string_reads _ _)
  spannerEmulatorHost :=
    (decoded_get runtime fits read .spannerEmulatorHost).trans (string_reads _ _)
  mySQLTablePrefix := (decoded_get runtime fits read .mySQLTablePrefix).trans (string_reads _ _)
  metricsEnabled := (decoded_get runtime fits read .metricsEnabled).trans (bool_reads _ _)
  datastoreMetricsEnabled :=
    (decoded_get runtime fits read .datastoreMetricsEnabled).trans (boolPtr_reads _ _)
  cacheMetricsEnabled :=
    (decoded_get runtime fits read .cacheMetricsEnabled).trans (boolPtr_reads _ _)
  otlpEndpoint := (decoded_get runtime fits read .otlpEndpoint).trans (string_reads _ _)
  otlpServiceName := (decoded_get runtime fits read .otlpServiceName).trans (string_reads _ _)
  metricsPort := int_reads _ fits (decoded_get runtime fits read .metricsPort)
  metricsHost := (decoded_get runtime fits read .metricsHost).trans (string_reads _ _)

/-- **A binding's options reach Go exactly when the metrics port is an integer of Go's `int` and, in
Java, the encoding of the runtime carries the text.** -/
theorem agrees_iff (runtime : Runtime) {b : Binding} (opts : StartOptions b) :
    Agrees runtime opts ↔
      (∀ port, opts.metricsPort = some port → Fits b port) ∧
        (b = .java → runtime.Carries (runtime.json b opts)) := by
  constructor
  · rintro ⟨-, bytes, passed, read, same⟩
    refine ⟨fun port given => ?_, ?_⟩
    · have decoded := same.metricsPort
      rw [given] at decoded
      exact ⟨_, decoded, Shared.parseStartOptions_isInt _⟩
    · rintro rfl
      cases passed
      exact read
  · rintro ⟨fits, carries⟩
    obtain ⟨bytes, passed, read⟩ := cString_reads runtime (zero_not_mem runtime opts) carries
    exact ⟨zero_not_mem runtime opts, bytes, passed, read, decoded_same runtime fits read⟩

/-- A JSON library with no liberties taken. -/
def plainStyle : Style where
  short _ := true
  byNumber _ := false
  upper := false
  blank := false

/-- A character in US-ASCII: what it lacks becomes a question mark. -/
def ascii (c : Char) : Char := if c.toNat < 128 then c else '?'

/-- A platform whose encoding is US-ASCII. -/
def asciiRuntime : Runtime where
  printer _ := plainStyle.printer
  jnaEncode json := Text.encode (json.map ascii)

/-- The digits of an integer have no decimal point. -/
theorem point_not_mem_decimal (n : Int) : '.' ∉ decimal n := by
  have digits (k : Nat) : '.' ∉ Nat.toDigits 10 k := Text.not_mem_toDigits (by decide) k
  cases n with
  | ofNat k => exact digits k
  | negSucc k => exact List.not_mem_cons_of_ne_of_not_mem (by decide) (digits (k + 1))

/-- Options of Node with a port that is no integer. -/
def fractionalPort : StartOptions .node :=
  { metricsPort := some (.other "9090.5".toList (by decide) fun n same =>
      point_not_mem_decimal n (same ▸ by decide)) }

/-- Options of Java with a character outside of ASCII. -/
def accentedUri : StartOptions .java := { datastoreUri := some "\u00e9" }

/-- The port is lost, and so is the character. -/
theorem options_lost : ¬ Agrees asciiRuntime fractionalPort ∧ ¬ Agrees asciiRuntime accentedUri := by
  constructor
  · rintro ⟨-, bytes, -, -, same⟩
    cases same.metricsPort
  · rintro ⟨whole, bytes, passed, read, -⟩
    cases passed
    have kept : '\x00' ∉ (asciiRuntime.json .java accentedUri).map ascii := by decide
    have changed : (asciiRuntime.json .java accentedUri).map ascii ≠
        asciiRuntime.json .java accentedUri := by decide
    refine changed (Eq.trans ?_ read)
    show _ = Text.runes (goString (Text.encode _))
    rw [goString_encode kept, Text.runes_encode]

end SpicedbEmbedded.Clients.Options
