/-
**A start on an options string.**

`spicedb_start` from the options string on: what the string says, what the start makes of it, and
when an option is lost on the way. The error of `json.Unmarshal` is ignored, so a string that is no
JSON is taken for one that names nothing; of the members of an object that name one option the last
one counts.

* `Says` — the options a string stands for, where every member has its say.
* `Lossless` — a start that succeeds has called with the options its string stands for, and one that
  fails registers no instance.
* **`lossless_iff`** — that is so exactly when the string is empty, or an object whose known options
  have values of their types, one value each, or the start fails for another reason.
* `malformed_default` — a string that is no JSON starts the in-memory datastore.
-/

import SpicedbEmbedded.Lifecycle.Refinement
import SpicedbEmbedded.Lifecycle.Settings
import SpicedbEmbedded.Shared.Decode

namespace SpicedbEmbedded.Lifecycle

open Machine
open Calls (Outside Host Object Started Call.setting RunsWith)
open Shared (StartOptions Field Typed Declares readings parseStartOptions goString goString_encode
  unmarshal_object unmarshal_malformed)
open Json (Value)

/-! ### What a string says -/

/-- There is no options string, or it is empty. -/
def Blank (optionsJSON : Option (List UInt8)) : Prop :=
  ∀ bytes, optionsJSON = some bytes → goString bytes = []

/-- The string is an object in which every known option has a value of its type. -/
def Names (optionsJSON : Option (List UInt8)) (members : List (List Char × Value)) : Prop :=
  ∃ bytes, optionsJSON = some bytes ∧ goString bytes ≠ [] ∧
    Json.parse (Text.runes (goString bytes)) = some (.object members) ∧ Typed members

/-- Each value that a member has for an option is the value of the option, and an option that no
member has a value for has none. -/
def Holds (members : List (List Char × Value)) (opts : StartOptions) : Prop :=
  ∀ field, (∀ v ∈ readings field members, field.get opts = v) ∧
    (readings field members = [] → field.get opts = field.kind.zero)

/-- The options a string stands for. -/
def Says (optionsJSON : Option (List UInt8)) (opts : StartOptions) : Prop :=
  Blank optionsJSON ∧ opts = {} ∨ ∃ members, Names optionsJSON members ∧ Holds members opts

/-- The members that name one option have one value. -/
def Agree (members : List (List Char × Value)) : Prop :=
  ∀ field, ∀ v ∈ readings field members, ∀ w ∈ readings field members, v = w

/-! ### A start -/

/-- `spicedb_start` on an options string, with the calls it makes on the host. -/
def startString (out : Outside) (windows : Bool) (optionsJSON : Option (List UInt8)) (h : Host) :
    Run (Calls.Call Object) (Except String Started) :=
  Calls.start (answers (Host.act out) h) windows (parseStartOptions optionsJSON)

/-- No option is lost: a start that succeeds has an instance registered and has called with the
options the string stands for, and one that fails leaves the registry as it is. -/
def Lossless (out : Outside) (windows : Bool) (optionsJSON : Option (List UInt8)) (h : Host) : Prop :=
  let run := startString out windows optionsJSON h
  let left := replay (Host.act out) run.calls h
  match run.result with
  | .ok started => (∃ inst, left.registry started.handle = some inst) ∧
      ∃ opts, Says optionsJSON opts ∧ RunsWith opts (run.calls.filterMap Call.setting)
  | .error _ => left.registry = h.registry

/-- A start with these options passes the check of the URI and each of its stages. -/
def Starts (env : Outcomes) (opts : StartOptions) : Prop :=
  opts.validate = .ok () ∧ ∀ stage ∈ opts.stages, env stage = .ok ()

/-- The outcomes of the stages of a start on the host. -/
def outcomes (out : Outside) (windows : Bool) (opts : StartOptions) (h : Host) : Outcomes :=
  out.stage windows opts h.process.allocated (h.process.nextID + 1)

/-- A start succeeds where nothing refuses it, and only there. -/
theorem spicedbStart_ok_iff (env : Outcomes) (opts : StartOptions) (p : Process) :
    (∃ id, (spicedbStart env opts p).1 = .ok id) ↔ Starts env opts := by
  rcases spicedbStart_spec env opts p with ⟨text, invalid, result⟩ |
    ⟨stage, text, first, result⟩ | ⟨first, result⟩
  · refine iff_of_false (fun ok => ?_) fun starts => ?_
    · obtain ⟨id, same⟩ := ok
      rw [result] at same
      cases same
    · cases invalid.symm.trans starts.1
  · refine iff_of_false (fun ok => ?_) fun starts => ?_
    · obtain ⟨id, same⟩ := ok
      rw [result] at same
      cases same
    · rw [failing, starts.1] at first
      have fails := List.find?_some first
      rw [Outcomes.fails, starts.2 stage (List.mem_of_find?_eq_some first)] at fails
      cases fails
  · refine iff_of_true ⟨_, by rw [result]⟩ ?_
    rcases valid : opts.validate with text | done
    · rw [spicedbStart, valid] at result
      cases result
    refine ⟨valid, fun stage known => ?_⟩
    rw [failing, valid] at first
    have well := List.find?_eq_none.mp first stage known
    rcases outcome : env stage with err | done
    · rw [Outcomes.fails, outcome] at well
      exact absurd rfl well
    · rfl

/-- What a start on a string does when nothing refuses it, and when something does. -/
theorem startString_cases (out : Outside) (windows : Bool) (optionsJSON : Option (List UInt8))
    (h : Host) :
    let opts := parseStartOptions optionsJSON
    let run := startString out windows optionsJSON h
    let left := replay (Host.act out) run.calls h
    (Starts (outcomes out windows opts h) opts ∧ ∃ started inst, run.result = .ok started ∧
        left.registry started.handle = some inst) ∨
      (¬ Starts (outcomes out windows opts h) opts ∧ ∃ text, run.result = .error text ∧
        left.registry = h.registry) := by
  intro opts run left
  obtain ⟨result, t, ran, same, entered⟩ := Calls.start_ends out windows opts h
  have here : (run.result, left) = (result, t) := (Calls.runOn_start out windows opts h).symm.trans ran
  obtain ⟨ended, reached⟩ := Prod.mk.inj here
  have starts := spicedbStart_ok_iff (outcomes out windows opts h) opts h.process
  rw [outcomes, same] at starts
  rw [ended, reached]
  cases entered with
  | failed text t instances registry =>
    refine .inr ⟨fun all => ?_, text, rfl, registry⟩
    obtain ⟨id, ok⟩ := starts.mpr all
    cases ok
  | made started p last addr instances fields =>
    exact .inl ⟨starts.mp ⟨_, rfl⟩, started, _, rfl, Function.update_self ..⟩

/-! ### The options of the start, and of the string -/

/-- An empty string says nothing. -/
theorem parseStartOptions_blank {optionsJSON : Option (List UInt8)} (blank : Blank optionsJSON) :
    parseStartOptions optionsJSON = {} := by
  rcases optionsJSON with _ | bytes
  · rfl
  · exact if_pos (blank bytes rfl)

/-- Of an object whose known options have values of their types the last one for each counts. -/
theorem parseStartOptions_names {optionsJSON : Option (List UInt8)}
    {members : List (List Char × Value)} (names : Names optionsJSON members) :
    Declares members (parseStartOptions optionsJSON) := by
  obtain ⟨bytes, rfl, some, parsed, typed⟩ := names
  rw [parseStartOptions, if_neg some]
  exact (unmarshal_object parsed typed).2

/-- Where the values for an option agree, the last one is each of them. -/
theorem holds_of_declares {members : List (List Char × Value)} {opts : StartOptions}
    (declares : Declares members opts) (agree : Agree members) : Holds members opts := by
  intro field
  constructor
  · intro v inside
    obtain ⟨last, found⟩ := List.getLast?_isSome.mpr (List.ne_nil_of_mem inside) |>
      Option.isSome_iff_exists.mp
    rw [declares field, found]
    exact agree field last (List.mem_of_getLast? found) v inside
  · intro none
    rw [declares field, none]
    rfl

/-- Values that are all that of one option agree. -/
theorem Holds.agree {members : List (List Char × Value)} {opts : StartOptions}
    (holds : Holds members opts) : Agree members :=
  fun field v inV w inW => ((holds field).1 v inV).symm.trans ((holds field).1 w inW)

/-- **A start keeps to what the string says exactly when the string is empty, or an object whose
known options have values of their types, one value each, or the start fails for another reason.**
-/
theorem lossless_iff (out : Outside) (windows : Bool) (optionsJSON : Option (List UInt8)) (h : Host) :
    Lossless out windows optionsJSON h ↔
      Blank optionsJSON ∨ (∃ members, Names optionsJSON members ∧ Agree members) ∨
        ¬ Starts (outcomes out windows (parseStartOptions optionsJSON) h)
          (parseStartOptions optionsJSON) := by
  rw [Lossless]
  rcases startString_cases out windows optionsJSON h with
    ⟨starts, started, inst, ended, entered⟩ | ⟨fails, text, ended, same⟩
  · have runs := Calls.start_runsWith (parseStartOptions optionsJSON) ended
    simp only [ended]
    constructor
    · rintro ⟨-, opts, ⟨blank, -⟩ | ⟨members, names, holds⟩, -⟩
      · exact .inl blank
      · exact .inr (.inl ⟨members, names, holds.agree⟩)
    · rintro (blank | ⟨members, names, agree⟩ | fails)
      · exact ⟨⟨inst, entered⟩, _, .inl ⟨blank, parseStartOptions_blank blank⟩, runs⟩
      · exact ⟨⟨inst, entered⟩, _,
          .inr ⟨members, names, holds_of_declares (parseStartOptions_names names) agree⟩, runs⟩
      · exact absurd starts fails
  · simp only [ended]
    exact iff_of_true same (.inr (.inr fails))

/-! ### A string that is no JSON -/

/-- A string that is no JSON is taken for one that says nothing. -/
theorem parseStartOptions_malformed {bytes : List UInt8}
    (malformed : Json.parse (Text.runes (goString bytes)) = none) :
    parseStartOptions (some bytes) = {} := by
  rw [parseStartOptions]
  split
  · rfl
  · rw [unmarshal_malformed malformed]

/-- It starts with the default options, on the in-memory datastore. -/
theorem malformed_default {bytes : List UInt8}
    (malformed : Json.parse (Text.runes (goString bytes)) = none) (out : Outside) (windows : Bool)
    (h : Host) :
    startString out windows (some bytes) h = startString out windows none h ∧
      (parseStartOptions (some bytes)).engine = Shared.memoryEngine := by
  rw [startString, startString, parseStartOptions_malformed malformed]
  exact ⟨rfl, rfl⟩

/-- An options string that has lost its last character. -/
def truncated : List Char :=
  "\x7b\"datastore\":\"postgres\",\"datastore_uri\":\"postgres://db/spicedb\"".toList

/-- Nothing fails. -/
def allWell : Outside := ⟨fun _ => .ok (), "127.0.0.1:50151"⟩

/-- It names a remote datastore, and an in-memory one is started. -/
theorem truncated_lost :
    ¬ Lossless allWell false (some (Text.encode truncated)) Host.init := by
  have malformed : (Json.parse truncated).isNone = true := by decide
  have whole : goString (Text.encode truncated) = Text.encode truncated :=
    goString_encode (by decide)
  have read : Json.parse (Text.runes (goString (Text.encode truncated))) = none := by
    rw [whole, Text.runes_encode]
    exact Option.isNone_iff_eq_none.mp malformed
  have some : Text.encode truncated ≠ [] := fun none => by
    have nothing : Text.runes (Text.encode truncated) = [] := congrArg Text.runes none
    rw [Text.runes_encode] at nothing
    cases nothing
  have starts : ∃ started, (startString allWell false none Host.init).result = .ok started :=
    ⟨_, rfl⟩
  obtain ⟨started, ended⟩ := starts
  rw [Lossless, (malformed_default read _ _ _).1]
  simp only [ended]
  rintro ⟨-, opts, ⟨blank, -⟩ | ⟨members, ⟨bytes, same, -, parsed, -⟩, -⟩, -⟩
  · exact some (whole.symm.trans (blank _ rfl))
  · obtain rfl := Option.some.inj same
    rw [read] at parsed
    cases parsed

end SpicedbEmbedded.Lifecycle
