/-
**`parseStartOptions`: the options string decoded.**

`json.Unmarshal` into `StartOptions`, as Go does it: a text that is no JSON leaves the options as they
are; a member goes to the field of its name, in any case; a value of another type is reported, and the
rest of the object is decoded all the same. `parseStartOptions` ignores what is reported.

* `Field`, `FieldKind` — the fields, and what the decoder stores in them.
* `unmarshal` — the decoder.
* `Accepts` — the values a field takes.
* `Declares` — the options an object declares: for each field, the last value for it.
* **`unmarshal_object`** — an object whose known options have values of their types is decoded to the
  options it declares.
* `unmarshal_well_iff` — no other text is decoded without an error, but for `null`.
-/

import Mathlib.Data.List.TakeWhile
import SpicedbEmbedded.Json.Printer
import SpicedbEmbedded.Shared.Options
import SpicedbEmbedded.Text.Runes

namespace SpicedbEmbedded.Shared

open Json (Value)

/-! ### Fields -/

/-- The types of the fields. -/
inductive FieldKind
  | string
  | bool
  | boolPtr
  | int
  deriving DecidableEq

/-- What a field of a kind holds. -/
def FieldKind.Type : FieldKind → Type
  | .string => String
  | .bool => Bool
  | .boolPtr => Option Bool
  | .int => Int

/-- The zero value of a kind. -/
def FieldKind.zero : (kind : FieldKind) → kind.Type
  | .string => ""
  | .bool => false
  | .boolPtr => none
  | .int => (0 : Int)

/-- The fields of `StartOptions`. -/
inductive Field
  | datastore
  | datastoreURI
  | spannerCredentialsFile
  | spannerEmulatorHost
  | mySQLTablePrefix
  | metricsEnabled
  | datastoreMetricsEnabled
  | cacheMetricsEnabled
  | otlpEndpoint
  | otlpServiceName
  | metricsPort
  | metricsHost
  deriving DecidableEq

namespace Field

/-- The fields, in their order. -/
def all : List Field :=
  [datastore, datastoreURI, spannerCredentialsFile, spannerEmulatorHost, mySQLTablePrefix,
    metricsEnabled, datastoreMetricsEnabled, cacheMetricsEnabled, otlpEndpoint, otlpServiceName,
    metricsPort, metricsHost]

/-- The name in the `json` tag. -/
def jsonName : Field → List Char
  | datastore => "datastore".toList
  | datastoreURI => "datastore_uri".toList
  | spannerCredentialsFile => "spanner_credentials_file".toList
  | spannerEmulatorHost => "spanner_emulator_host".toList
  | mySQLTablePrefix => "mysql_table_prefix".toList
  | metricsEnabled => "metrics_enabled".toList
  | datastoreMetricsEnabled => "datastore_metrics_enabled".toList
  | cacheMetricsEnabled => "cache_metrics_enabled".toList
  | otlpEndpoint => "otlp_endpoint".toList
  | otlpServiceName => "otlp_service_name".toList
  | metricsPort => "metrics_port".toList
  | metricsHost => "metrics_host".toList

def kind : Field → FieldKind
  | datastore | datastoreURI | spannerCredentialsFile | spannerEmulatorHost | mySQLTablePrefix
  | otlpEndpoint | otlpServiceName | metricsHost => .string
  | metricsEnabled => .bool
  | datastoreMetricsEnabled | cacheMetricsEnabled => .boolPtr
  | metricsPort => .int

/-- What the options hold in a field. -/
def get (opts : StartOptions) : (field : Field) → field.kind.Type
  | datastore => opts.datastore
  | datastoreURI => opts.datastoreURI
  | spannerCredentialsFile => opts.spannerCredentialsFile
  | spannerEmulatorHost => opts.spannerEmulatorHost
  | mySQLTablePrefix => opts.mySQLTablePrefix
  | metricsEnabled => opts.metricsEnabled
  | datastoreMetricsEnabled => opts.datastoreMetricsEnabled
  | cacheMetricsEnabled => opts.cacheMetricsEnabled
  | otlpEndpoint => opts.otlpEndpoint
  | otlpServiceName => opts.otlpServiceName
  | metricsPort => opts.metricsPort
  | metricsHost => opts.metricsHost

/-- The options with a value stored in a field. -/
def set (opts : StartOptions) : (field : Field) → field.kind.Type → StartOptions
  | datastore, v => { opts with datastore := v }
  | datastoreURI, v => { opts with datastoreURI := v }
  | spannerCredentialsFile, v => { opts with spannerCredentialsFile := v }
  | spannerEmulatorHost, v => { opts with spannerEmulatorHost := v }
  | mySQLTablePrefix, v => { opts with mySQLTablePrefix := v }
  | metricsEnabled, v => { opts with metricsEnabled := v }
  | datastoreMetricsEnabled, v => { opts with datastoreMetricsEnabled := v }
  | cacheMetricsEnabled, v => { opts with cacheMetricsEnabled := v }
  | otlpEndpoint, v => { opts with otlpEndpoint := v }
  | otlpServiceName, v => { opts with otlpServiceName := v }
  | metricsPort, v => { opts with metricsPort := v }
  | metricsHost, v => { opts with metricsHost := v }

@[simp] theorem get_set_self (opts : StartOptions) (field : Field) (v : field.kind.Type) :
    get (set opts field v) field = v := by
  cases field <;> rfl

theorem get_set_of_ne (opts : StartOptions) {field other : Field} (v : field.kind.Type)
    (distinct : other ≠ field) : get (set opts field v) other = get opts other := by
  cases field <;> cases other <;> first | rfl | exact absurd rfl distinct

end Field

/-! ### Names -/

/-- `foldName`, on the characters an ASCII name can match: the long s and the kelvin sign fold to
ASCII letters. -/
def fold (c : Char) : Char :=
  if c.isLower then c.toUpper else if c = '\u017F' then 'S' else if c = '\u212A' then 'K' else c

/-- The field a key names, if it names one: the case does not matter. -/
def Field.named (key : List Char) : Option Field :=
  Field.all.find? fun field => field.jsonName.map fold = key.map fold

/-- Each field is named by its name. -/
theorem Field.named_jsonName (field : Field) : Field.named field.jsonName = some field := by
  cases field <;> decide

/-! ### Values -/

/-- A run of digits. -/
def parseDigits (text : List Char) : Option Nat :=
  if text ≠ [] ∧ text.all Char.isDigit then some (Nat.ofDigitChars 10 text 0) else none

/-- The integer a text is, however large. -/
def parseInteger : List Char → Option Int
  | '-' :: rest => (parseDigits rest).map fun n => -(n : Int)
  | text => (parseDigits text).map Int.ofNat

/-- The integers of Go's `int`. -/
def IsInt (n : Int) : Prop := -9223372036854775808 ≤ n ∧ n ≤ 9223372036854775807

instance (n : Int) : Decidable (IsInt n) := inferInstanceAs (Decidable (_ ∧ _))

/-- `strconv.ParseInt` with base 10, for the text of a JSON number. -/
def parseInt (text : List Char) : Option Int := (parseInteger text).filter fun n => IsInt n

theorem parseDigits_toDigits (n : Nat) : parseDigits (Nat.toDigits 10 n) = some n := by
  have digits : (Nat.toDigits 10 n).all Char.isDigit = true :=
    List.all_eq_true.mpr fun c inside =>
      Nat.isDigit_of_mem_toDigits (by decide) (by decide) inside
  rw [parseDigits, if_pos ⟨Nat.toDigits_ne_nil, digits⟩, Nat.ofDigitChars_ten_toDigits]

/-- An integer is read as printed. -/
theorem parseInteger_decimal (n : Int) : parseInteger (Json.decimal n) = some n := by
  cases n with
  | ofNat n =>
    have unsigned : ∀ rest, Nat.toDigits 10 n ≠ '-' :: rest := fun rest same => by
      have digit : '-'.isDigit = true := Nat.isDigit_of_mem_toDigits (b := 10) (n := n)
        (by decide) (by decide) (same ▸ List.mem_cons_self)
      cases digit
    have plain : parseInteger (Nat.toDigits 10 n) =
        (parseDigits (Nat.toDigits 10 n)).map Int.ofNat := by
      rw [parseInteger]
      exact fun rest same => unsigned rest same
    rw [Json.decimal, plain, parseDigits_toDigits]
    rfl
  | negSucc n =>
    rw [Json.decimal, parseInteger, parseDigits_toDigits]
    rfl

/-- An integer of Go's `int` is read as printed, and no other is. -/
theorem parseInt_decimal {n : Int} (fits : IsInt n) : parseInt (Json.decimal n) = some n := by
  rw [parseInt, parseInteger_decimal]
  exact if_pos (decide_eq_true fits)

/-- What is read is an integer of Go's `int`. -/
theorem isInt_of_parseInt {text : List Char} {n : Int} (parsed : parseInt text = some n) :
    IsInt n := by
  obtain ⟨-, fits⟩ := Option.filter_eq_some_iff.mp parsed
  exact of_decide_eq_true fits

/-- What a field holds after a value has been decoded into it, and whether the value was of its type.
A pointer is allocated before the type is looked at. -/
def store : (kind : FieldKind) → kind.Type → Value → kind.Type × Bool
  | .string, old, v =>
    match v with
    | .string text => (String.ofList text, true)
    | .null => (old, true)
    | _ => (old, false)
  | .bool, old, v =>
    match v with
    | .bool b => (b, true)
    | .null => (old, true)
    | _ => (old, false)
  | .boolPtr, old, v =>
    match v with
    | .bool b => (some b, true)
    | .null => (none, true)
    | _ => (some (Option.getD old false), false)
  | .int, old, v =>
    match v with
    | .number text => ((parseInt text).getD old, (parseInt text).isSome)
    | .null => (old, true)
    | _ => (old, false)

/-! ### Objects -/

/-- What `json.Unmarshal` reports. -/
inductive UnmarshalError
  | syntaxError
  | type (key : List Char)
  deriving DecidableEq

/-- A member is decoded. One that names no field is skipped. -/
def assign (opts : StartOptions) (m : List Char × Value) : StartOptions × Option UnmarshalError :=
  match Field.named m.1 with
  | none => (opts, none)
  | some field =>
    let stored := store field.kind (field.get opts) m.2
    (field.set opts stored.1, if stored.2 then none else some (.type m.1))

/-- The members of an object are decoded; the first error is kept. -/
def assignAll (opts : StartOptions) :
    List (List Char × Value) → StartOptions × Option UnmarshalError
  | [] => (opts, none)
  | m :: rest =>
    let assigned := assign opts m
    let later := assignAll assigned.1 rest
    (later.1, assigned.2.or later.2)

/-- `json.Unmarshal` into options. -/
def unmarshal (text : List Char) (opts : StartOptions) : StartOptions × Option UnmarshalError :=
  match Json.parse text with
  | none => (opts, some .syntaxError)
  | some .null => (opts, none)
  | some (.object members) => assignAll opts members
  | some _ => (opts, some (.type []))

/-- `C.GoString`: the bytes before the first zero. -/
def goString (bytes : List UInt8) : List UInt8 := bytes.takeWhile (· ≠ 0)

/-- The bytes of a text without a zero character are not zero. -/
theorem encode_ne_zero {text : List Char} (whole : '\x00' ∉ text) :
    ∀ b ∈ Text.encode text, decide (b ≠ 0) = true := by
  intro b inside
  rw [decide_eq_true_iff]
  rintro rfl
  exact whole ((Text.zero_mem_encode_iff text).mp inside)

/-- A text without a zero character goes through whole. -/
theorem goString_encode {text : List Char} (whole : '\x00' ∉ text) :
    goString (Text.encode text) = Text.encode text :=
  List.takeWhile_eq_self_iff.mpr (encode_ne_zero whole)

/-- So it does with a zero byte after it. -/
theorem goString_terminated {text : List Char} (whole : '\x00' ∉ text) :
    goString (Text.encode text ++ [0]) = Text.encode text := by
  rw [goString, List.takeWhile_append_of_pos (encode_ne_zero whole)]
  exact List.append_nil _

/-- `parseStartOptions`. -/
def parseStartOptions (optionsJSON : Option (List UInt8)) : StartOptions :=
  match optionsJSON with
  | none => {}
  | some bytes =>
    if goString bytes = [] then {} else (unmarshal (Text.runes (goString bytes)) {}).1

/-! ### What an object declares -/

/-- The values a field takes: those of its type, and `null`. -/
def Accepts (kind : FieldKind) (v : Value) : Prop :=
  v = .null ∨
    match kind with
    | .string => ∃ text, v = .string text
    | .bool | .boolPtr => ∃ b, v = .bool b
    | .int => ∃ text n, v = .number text ∧ parseInt text = some n

/-- An object in which every known option has a value of its type. -/
def Typed (members : List (List Char × Value)) : Prop :=
  ∀ m ∈ members, ∀ field, Field.named m.1 = some field → Accepts field.kind m.2

/-- What a value says for a field: `null` resets a pointer, and says nothing for another field. -/
def reading : (kind : FieldKind) → Value → Option kind.Type
  | .string, v =>
    match v with
    | .string text => some (String.ofList text)
    | _ => none
  | .bool, v =>
    match v with
    | .bool b => some b
    | _ => none
  | .boolPtr, v =>
    match v with
    | .bool b => some (some b)
    | .null => some none
    | _ => none
  | .int, v =>
    match v with
    | .number text => parseInt text
    | _ => none

/-- What the members of an object say for a field. -/
def readings (field : Field) (members : List (List Char × Value)) : List field.kind.Type :=
  members.filterMap fun m => if Field.named m.1 = some field then reading field.kind m.2 else none

/-- The options an object declares: what its last member for each field says. -/
def Declares (members : List (List Char × Value)) (opts : StartOptions) : Prop :=
  ∀ field, field.get opts = ((readings field members).getLast?).getD field.kind.zero

theorem store_int (old : FieldKind.int.Type) (text : List Char) :
    store .int old (.number text) = ((parseInt text).getD old, (parseInt text).isSome) := rfl

theorem reading_int (text : List Char) : reading .int (.number text) = parseInt text := rfl

theorem readings_cons (field : Field) (m : List Char × Value) (rest : List (List Char × Value)) :
    readings field (m :: rest) =
      match if Field.named m.1 = some field then reading field.kind m.2 else none with
      | none => readings field rest
      | some v => v :: readings field rest := by
  rw [readings, List.filterMap_cons]
  rcases (if Field.named m.1 = some field then reading field.kind m.2 else none) <;> rfl

/-- A value of its type is stored as it reads, without an error. -/
theorem store_accepts {kind : FieldKind} {v : Value} (accepts : Accepts kind v)
    (old : kind.Type) : store kind old v = ((reading kind v).getD old, true) := by
  rcases accepts with rfl | typed
  · cases kind <;> rfl
  cases kind with
  | string =>
    obtain ⟨text, rfl⟩ := typed
    rfl
  | bool =>
    obtain ⟨b, rfl⟩ := typed
    rfl
  | boolPtr =>
    obtain ⟨b, rfl⟩ := typed
    rfl
  | int =>
    obtain ⟨text, n, rfl, parsed⟩ := typed
    rw [store_int, reading_int, parsed]
    rfl

/-- A value of another type is reported. -/
theorem store_rejects {kind : FieldKind} {v : Value} (rejects : ¬ Accepts kind v)
    (old : kind.Type) : (store kind old v).2 = false := by
  have other : v ≠ .null := fun null => rejects (.inl null)
  cases kind with
  | string =>
    cases v with
    | string text => exact absurd (.inr ⟨text, rfl⟩) rejects
    | null => exact absurd rfl other
    | _ => rfl
  | bool =>
    cases v with
    | bool b => exact absurd (.inr ⟨b, rfl⟩) rejects
    | null => exact absurd rfl other
    | _ => rfl
  | boolPtr =>
    cases v with
    | bool b => exact absurd (.inr ⟨b, rfl⟩) rejects
    | null => exact absurd rfl other
    | _ => rfl
  | int =>
    cases v with
    | number text =>
      rcases parsed : parseInt text with none | n
      · rw [store_int, parsed]
        rfl
      · exact absurd (.inr ⟨text, n, rfl, parsed⟩) rejects
    | null => exact absurd rfl other
    | _ => rfl

/-! ### The decoder -/

/-- What a field holds after a member of its type. -/
theorem assign_get {m : List Char × Value} (field : Field)
    (typed : ∀ named, Field.named m.1 = some named → Accepts named.kind m.2)
    (opts : StartOptions) :
    (assign opts m).2 = none ∧
      field.get (assign opts m).1 =
        ((if Field.named m.1 = some field then reading field.kind m.2 else none).getD
          (field.get opts)) := by
  rw [assign]
  rcases found : Field.named m.1 with _ | named
  · exact ⟨rfl, rfl⟩
  · have stored := store_accepts (typed named found) (named.get opts)
    show (if (store named.kind (named.get opts) m.2).2 then none else some _) = none ∧
      field.get (named.set opts (store named.kind (named.get opts) m.2).1) = _
    rw [stored]
    refine ⟨rfl, ?_⟩
    by_cases same : field = named
    · rw [same, if_pos rfl, Field.get_set_self]
    · rw [Field.get_set_of_ne opts _ same, if_neg fun named => same (Option.some.inj named).symm]
      rfl

/-- What the fields hold after members of their types: what the last one says, or what they held. -/
theorem assignAll_get {members : List (List Char × Value)} (typed : Typed members)
    (opts : StartOptions) (field : Field) :
    (assignAll opts members).2 = none ∧
      field.get (assignAll opts members).1 =
        ((readings field members).getLast?).getD (field.get opts) := by
  induction members generalizing opts with
  | nil => exact ⟨rfl, rfl⟩
  | cons m rest later =>
    obtain ⟨well, stored⟩ := assign_get field (typed m List.mem_cons_self) opts
    obtain ⟨restWell, left⟩ :=
      later (fun n inside => typed n (List.mem_cons_of_mem _ inside)) (assign opts m).1
    constructor
    · show ((assign opts m).2.or _) = none
      rw [well, restWell]
      rfl
    · show field.get (assignAll (assign opts m).1 rest).1 = _
      rw [left, stored, readings_cons]
      rcases (if Field.named m.1 = some field then reading field.kind m.2 else none) with _ | v
      · rfl
      · show ((readings field rest).getLast?).getD v = ((v :: readings field rest).getLast?).getD _
        rw [List.getLast?_cons]
        rfl

/-- A member of another type is reported. -/
theorem assignAll_rejects {members : List (List Char × Value)} (untyped : ¬ Typed members)
    (opts : StartOptions) : (assignAll opts members).2 ≠ none := by
  induction members generalizing opts with
  | nil => exact absurd (fun _ none => nomatch none) untyped
  | cons m rest later =>
    intro well
    obtain ⟨first, others⟩ := Option.or_eq_none_iff.mp well
    have accepted : ∀ field, Field.named m.1 = some field → Accepts field.kind m.2 := by
      intro field found
      by_contra rejects
      rw [assign, found] at first
      simp only [store_rejects rejects] at first
      cases first
    apply untyped
    intro n inside
    rcases List.mem_cons.mp inside with rfl | left
    · exact accepted
    · exact (not_not.mp fun other => later other _ others) n left

/-- **An object whose known options have values of their types is decoded to the options it
declares.** -/
theorem unmarshal_object {text : List Char} {members : List (List Char × Value)}
    (parsed : Json.parse text = some (.object members)) (typed : Typed members) :
    (unmarshal text {}).2 = none ∧ Declares members (unmarshal text {}).1 := by
  have decoded : unmarshal text {} = assignAll {} members := by rw [unmarshal, parsed]
  rw [decoded]
  refine ⟨(assignAll_get typed {} .datastore).1, fun field => ?_⟩
  rw [(assignAll_get typed {} field).2]
  cases field <;> rfl

/-- An integer field holds an integer of Go's `int`, whatever is decoded into it. -/
theorem store_isInt {old : FieldKind.int.Type} (fits : IsInt old) (v : Value) :
    IsInt (store .int old v).1 := by
  rcases v with _ | _ | text | _ | _ | _
  case number =>
    rw [store_int]
    rcases parsed : parseInt text with _ | n
    · exact fits
    · exact isInt_of_parseInt parsed
  all_goals exact fits

/-- The port of options that are decoded stays an integer of Go's `int`. -/
theorem assign_isInt {opts : StartOptions} (fits : IsInt opts.metricsPort)
    (m : List Char × Value) : IsInt (assign opts m).1.metricsPort := by
  rw [assign]
  rcases Field.named m.1 with _ | field
  · exact fits
  by_cases port : field = .metricsPort
  · rw [port]
    exact store_isInt fits m.2
  · show IsInt (Field.get (Field.set opts field (store field.kind (field.get opts) m.2).1)
      .metricsPort)
    rw [Field.get_set_of_ne opts _ (Ne.symm port)]
    exact fits

theorem assignAll_isInt {opts : StartOptions} (fits : IsInt opts.metricsPort)
    (members : List (List Char × Value)) : IsInt (assignAll opts members).1.metricsPort := by
  induction members generalizing opts with
  | nil => exact fits
  | cons m rest later => exact later (assign_isInt fits m)

theorem parseStartOptions_isInt (optionsJSON : Option (List UInt8)) :
    IsInt (parseStartOptions optionsJSON).metricsPort := by
  have zero : IsInt ({} : StartOptions).metricsPort := by decide
  rcases optionsJSON with _ | bytes
  · exact zero
  rw [parseStartOptions]
  split
  · exact zero
  rw [unmarshal]
  split
  · exact zero
  · exact zero
  · next members _ => exact assignAll_isInt zero members
  · exact zero

/-- The texts that are decoded without an error. -/
theorem unmarshal_well_iff (text : List Char) (opts : StartOptions) :
    (unmarshal text opts).2 = none ↔
      Json.parse text = some .null ∨
        ∃ members, Json.parse text = some (.object members) ∧ Typed members := by
  rw [unmarshal]
  split
  · next malformed => simp [malformed]
  · next null => simp [null]
  · next members object =>
    rw [object]
    constructor
    · intro well
      exact .inr ⟨members, rfl, by_contra fun untyped => assignAll_rejects untyped opts well⟩
    · rintro (null | ⟨others, same, typed⟩)
      · cases null
      · cases same
        exact (assignAll_get typed opts .datastore).1
  · next v notNull notObject other =>
    rw [other]
    constructor
    · exact nofun
    · rintro (null | ⟨members, object, -⟩)
      · exact absurd (Option.some.inj null) notNull
      · exact absurd (Option.some.inj object) (notObject members)

/-- A text that is no JSON leaves the options as they are. -/
theorem unmarshal_malformed {text : List Char} (malformed : Json.parse text = none)
    (opts : StartOptions) : unmarshal text opts = (opts, some .syntaxError) := by
  rw [unmarshal, malformed]

end SpicedbEmbedded.Shared
