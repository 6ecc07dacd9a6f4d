/-
**The trace of every call the Rust crate makes.**

A unary call of `MemoryPermissionsClient` and `MemorySchemaClient` goes through `call`, with the current
trace context as C strings; the two writes of `start_with_schema` go through the wrappers of the `-sys`
crate, with a trace context of their own; a streaming call goes through `interceptor` and the proxy.

* `outcome` — the pair a call of a route brings to SpiceDB, or the error it fails with.
* **`routes_agree_iff`** — all routes agree exactly when there is no current span.
* `carrying_agree_iff` — the two that carry the context agree exactly on a trace state that both a C
  string and a header can hold.
-/

import SpicedbEmbedded.Ffi.Transparent
import SpicedbEmbedded.Headers.Interceptors

namespace SpicedbEmbedded.Headers

open Ffi Machine Text

/-! ### Routes -/

/-- A marshalled request that `raw_call` takes. -/
abbrev Request : Type := { bytes : List UInt8 // bytes.length < 2 ^ 31 }

/-- Metadata without trace headers. -/
abbrev PlainMetadata : Type :=
  { md : Metadata // values md "traceparent" = [] ∧ values md "tracestate" = [] }

/-- A call the crate makes. -/
inductive Route
  /-- a method of one of the two clients -/
  | unary (method : Method) (request : Request)
  /-- the writes of `start_with_schema` -/
  | bootstrapSchema (request : Request)
  | bootstrapRelationships (request : Request)
  /-- a streaming call through `interceptor` -/
  | streaming (metadata : PlainMetadata)

/-- `memory_transport::call` under a trace context: the context `spicedb_rpc` runs the method under. -/
def transportCall (host : Host) (trace : Trace) (request : Request) : Except String Ffi.Context := do
  let args ← rustArguments host trace request.val
  pure (traceContext {} (goString args.trace.traceparent) (goString args.trace.tracestate))

/-- `call` of the clients: under the current trace context. -/
def rustCall (host : Host) (span : Option SpanContext) (request : Request) :
    Except String Ffi.Context :=
  transportCall host (rustCurrent span) request

/-- The pair a call brings to SpiceDB. -/
def outcome (host : Host) (tonic : Tonic) (span : Option SpanContext) : Route → Except String TracePair
  | .unary _ request => (rustCall host span request).map Context.pair
  -- `write_schema` and `write_relationships` of the `-sys` crate: `TraceContext::default()`
  | .bootstrapSchema request => (transportCall host {} request).map Context.pair
  | .bootstrapRelationships request => (transportCall host {} request).map Context.pair
  | .streaming metadata => .ok (delivered tonic .rust span metadata.val)

/-- Two calls both fail, or bring the same pair. -/
def Same : Except String TracePair → Except String TracePair → Prop
  | .ok first, .ok second => first = second
  | .error _, .error _ => True
  | .ok _, .error _ | .error _, .ok _ => False

/-! ### What each route brings -/

section Routes

variable (host : Host) (tonic : Tonic)

/-- A call under no trace context brings none. -/
theorem transportCall_idle (request : Request) :
    (transportCall host {} request).map Context.pair = .ok ⟨none, ""⟩ := by
  have fits : rustCInt request.val.length = .ok (request.val.length : Int) := if_pos request.2
  unfold transportCall rustArguments
  rw [fits]
  rfl

/-- A streaming call under a valid span carries its parent, and its state when that is a header. -/
theorem streaming_valid {current : SpanContext} (valid : current.IsValid) (metadata : PlainMetadata) :
    delivered tonic .rust (some current) metadata.val =
      ⟨some current.traceparent,
        if current.traceState ≠ "" ∧ tonic.tryFrom current.traceState then current.traceState else ""⟩ := by
  obtain ⟨parents, states⟩ := values_intercept tonic valid metadata.2.1 .rust
  rw [delivered, pair_forward]
  show (if (values (intercept tonic (some current) .rust metadata.val) "traceparent").headD "" = ""
    then _ else _) = _
  rw [parents, states, metadata.2.2]
  show (if current.traceparent = "" then _ else _) = _
  rw [if_neg (traceparent_ne current), statesAfter]
  by_cases taken : current.traceState ≠ "" ∧ tonic.tryFrom current.traceState = true
  · rw [if_pos taken, if_pos taken]
    rfl
  · rw [if_neg taken, if_neg taken]
    rfl

/-- A streaming call under no span carries nothing. -/
theorem streaming_idle {span : Option SpanContext} (idle : spanTrace span = {})
    (metadata : PlainMetadata) : delivered tonic .rust span metadata.val = ⟨none, ""⟩ := by
  rw [delivered, intercept_idle tonic span .rust idle, pair_forward, metadata.2.1]
  rfl

theorem nul_not_mem_traceparent (span : SpanContext) : '\x00' ∉ span.traceparent.toList := by
  intro inside
  have low := (traceparent_printable span _ inside).1
  exact absurd low (by decide)

/-- What the crate takes from a valid span: its parent, and its state unless that is empty. -/
theorem rustCurrent_valid {current : SpanContext} (valid : current.IsValid) :
    rustCurrent (some current) = ⟨some current.traceparent,
      if current.traceState = "" then none else some current.traceState⟩ :=
  spanTrace_valid valid

/-- A NUL in what the crate takes is one of the trace state. -/
theorem nul_mem_texts_iff {current : SpanContext} (valid : current.IsValid) :
    (∃ text ∈ (rustCurrent (some current)).texts, '\x00' ∈ text.toList) ↔
      '\x00' ∈ current.traceState.toList := by
  rw [rustCurrent_valid valid, Trace.texts]
  by_cases stateless : current.traceState = ""
  · rw [if_pos stateless, stateless]
    refine iff_of_false ?_ List.not_mem_nil
    rintro ⟨text, inside, nul⟩
    rw [List.mem_singleton.mp inside] at nul
    exact nul_not_mem_traceparent current nul
  · rw [if_neg stateless]
    constructor
    · rintro ⟨text, inside, nul⟩
      rcases List.mem_cons.mp inside with rfl | state
      · exact absurd nul (nul_not_mem_traceparent current)
      · rw [List.mem_singleton.mp state] at nul
        exact nul
    · exact fun nul => ⟨_, List.mem_cons_of_mem _ (List.mem_singleton_self _), nul⟩

/-- The library reads both strings of a span whose state has no NUL. -/
theorem pair_valid {current : SpanContext} (valid : current.IsValid)
    (tidy : '\x00' ∉ current.traceState.toList) :
    Context.pair (traceContext {} (goString (rustCurrent (some current)).traceparent)
      (goString (rustCurrent (some current)).tracestate)) =
        ⟨some current.traceparent, current.traceState⟩ := by
  have parent : goString (some current.traceparent) = current.traceparent :=
    cut_eq_self.mpr (nul_not_mem_traceparent current)
  have state : goString (if current.traceState = "" then none else some current.traceState) =
      current.traceState := by
    by_cases stateless : current.traceState = ""
    · rw [if_pos stateless, stateless]
      rfl
    · rw [if_neg stateless]
      exact cut_eq_self.mpr tidy
  rw [rustCurrent_valid valid]
  show Context.pair (traceContext {} (goString (some current.traceparent))
    (goString (if current.traceState = "" then none else some current.traceState))) = _
  rw [parent, state, traceContext, if_neg (traceparent_ne current)]
  by_cases stateless : current.traceState = ""
  · rw [if_pos stateless, stateless]
    rfl
  · rw [if_neg stateless]
    rfl

/-- A unary call under a valid span carries both strings, or fails on a trace state with a NUL. -/
theorem unary_valid {current : SpanContext} (valid : current.IsValid) (request : Request) :
    ('\x00' ∉ current.traceState.toList ∧ (rustCall host (some current) request).map Context.pair =
        .ok ⟨some current.traceparent, current.traceState⟩) ∨
      ('\x00' ∈ current.traceState.toList ∧
        ∃ err, (rustCall host (some current) request).map Context.pair = .error err) := by
  have fits : ¬ 2 ^ 31 ≤ request.val.length := Nat.not_le.mpr request.2
  rcases arguments_cases host .rust (rustCurrent (some current)) request.val with
    ⟨refused, err, raised⟩ | ⟨goes, args, converted, passed⟩
  · have dirty := (nul_mem_texts_iff valid).mp (refused.resolve_left fits)
    refine Or.inr ⟨dirty, err, ?_⟩
    show (rustArguments host (rustCurrent (some current)) request.val >>= _).map _ = _
    rw [show rustArguments host (rustCurrent (some current)) request.val = .error err from raised]
    rfl
  · have tidy : '\x00' ∉ current.traceState.toList := fun nul =>
      goes (Or.inr ((nul_mem_texts_iff valid).mpr nul))
    refine Or.inl ⟨tidy, ?_⟩
    show (rustArguments host (rustCurrent (some current)) request.val >>= _).map _ = _
    rw [show rustArguments host (rustCurrent (some current)) request.val = .ok args from converted]
    show Except.ok (Context.pair (traceContext {} (goString args.trace.traceparent)
      (goString args.trace.tracestate))) = _
    rw [passed.trace, pair_valid valid tidy]

/-- A unary call under no span carries nothing. -/
theorem unary_idle {span : Option SpanContext} (idle : spanTrace span = {}) (request : Request) :
    (rustCall host span request).map Context.pair = .ok ⟨none, ""⟩ := by
  rw [rustCall, rustCurrent, idle]
  exact transportCall_idle host request

/-! ### Agreement -/

/-- **The two routes that carry the current context agree exactly on a trace state that is empty, or that
holds no NUL and is a header value.** -/
theorem carrying_agree_iff {current : SpanContext} (valid : current.IsValid) (method : Method)
    (request : Request) (metadata : PlainMetadata) :
    Same (outcome host tonic (some current) (.unary method request))
        (outcome host tonic (some current) (.streaming metadata)) ↔
      current.traceState = "" ∨
        ('\x00' ∉ current.traceState.toList ∧ tonic.tryFrom current.traceState = true) := by
  show Same ((rustCall host (some current) request).map Context.pair)
    (.ok (delivered tonic .rust (some current) metadata.val)) ↔ _
  rw [streaming_valid tonic valid]
  rcases unary_valid host valid request with ⟨clean, carried⟩ | ⟨nul, err, failed⟩
  · rw [carried]
    simp only [Same, TracePair.mk.injEq, true_and]
    by_cases stateless : current.traceState = ""
    · rw [if_neg (fun both => both.1 stateless)]
      exact iff_of_true stateless (Or.inl stateless)
    · by_cases taken : tonic.tryFrom current.traceState = true
      · rw [if_pos ⟨stateless, taken⟩]
        exact iff_of_true rfl (Or.inr ⟨clean, taken⟩)
      · rw [if_neg (fun both => taken both.2)]
        exact iff_of_false stateless (fun either =>
          either.elim stateless fun both => taken both.2)
  · rw [failed]
    refine iff_of_false id ?_
    rintro (stateless | both)
    · rw [stateless] at nul
      cases nul
    · exact both.1 nul

/-- **All routes of the crate agree exactly when there is no valid current span.** -/
theorem routes_agree_iff (span : Option SpanContext) :
    (∀ first second : Route, Same (outcome host tonic span first) (outcome host tonic span second)) ↔
      ∀ current, span = some current → ¬ current.IsValid := by
  constructor
  · rintro agree current rfl valid
    let empty : Request := ⟨[], by decide⟩
    let plain : PlainMetadata := ⟨[], rfl, rfl⟩
    have differ : Same ((transportCall host {} empty).map Context.pair)
        (.ok (delivered tonic .rust (some current) plain.val)) :=
      agree (.bootstrapSchema empty) (.streaming plain)
    rw [transportCall_idle, streaming_valid tonic valid] at differ
    cases congrArg TracePair.traceparent differ
  · intro invalid
    have idle : spanTrace span = {} := by
      cases span with
      | none => rfl
      | some current => exact if_neg (invalid current rfl)
    have all : ∀ route, outcome host tonic span route = .ok ⟨none, ""⟩ := by
      intro route
      cases route with
      | unary method request => exact unary_idle host idle request
      | bootstrapSchema request => exact transportCall_idle host request
      | bootstrapRelationships request => exact transportCall_idle host request
      | streaming metadata => exact congrArg Except.ok (streaming_idle tonic idle metadata)
    intro first second
    rw [all first, all second]
    rfl

end Routes

/-- Under a current span the writes of `start_with_schema` carry no trace, and a client's do. -/
theorem bootstrap_untraced :
    ¬ ∀ (host : Host) (tonic : Tonic) (span : Option SpanContext) (first second : Route),
      Same (outcome host tonic span first) (outcome host tonic span second) := by
  intro agree
  obtain ⟨current, valid, clean⟩ : ∃ current : SpanContext,
      current.IsValid ∧ '\x00' ∉ current.traceState.toList :=
    ⟨⟨1, 1, 1, "vendor=value"⟩, by decide, by decide⟩
  let empty : Request := ⟨[], by decide⟩
  have differ : Same ((transportCall plainHost {} empty).map Context.pair)
      ((rustCall plainHost (some current) empty).map Context.pair) :=
    agree plainHost printableTonic (some current) (.bootstrapSchema empty) (.unary .writeSchema empty)
  rw [transportCall_idle] at differ
  rcases unary_valid plainHost valid empty with ⟨_, carried⟩ | ⟨nul, _⟩
  · rw [carried] at differ
    cases congrArg TracePair.traceparent differ
  · exact clean nul

end SpicedbEmbedded.Headers
