/-
**The trace of every call of every binding.**

A unary call hands the current trace context to `spicedb_rpc` as two C strings; a streaming call puts it on
its metadata, from where the proxy takes it. Each binding reads the context once for each of the two, in
its own shape.

* `unaryContext`, `streamContext` — the context under which SpiceDB is called, on either way.
* `answerRpc_of_unaryContext` — it is the one a raw call runs its method under.
* `carried_eq` — on both ways, in all bindings, it is `spanContext` of the current span.
* `spanContext_inj` — it tells the span: its ids, its flags and its trace state.
* **`carried_iff`** — so a call, of any binding and on either way, reaches SpiceDB under the context of a
  span exactly when it is made under that span.
-/

import Mathlib.Data.List.Basic
import SpicedbEmbedded.Ffi.Session
import SpicedbEmbedded.Headers.RustCalls

namespace SpicedbEmbedded.Headers

open Ffi Machine Text

/-! ### The two ways -/

/-- The strings a unary call takes of the current context: `call` of Rust, `_call_rpc` of Python, `callRpc`
of Java and of Node, `Rpc` of C#. -/
def unaryTrace (span : Option SpanContext) : Binding → Trace
  | .rust => rustCurrent span
  | .python => ⟨(pythonCurrent span).lookup "traceparent", (pythonCurrent span).lookup "tracestate"⟩
  | .java => ⟨(javaCurrent span).lookup "traceparent", (javaCurrent span).lookup "tracestate"⟩
  | .csharp => csharpCurrent span
  | .node => ⟨(nodeCurrent span).lookup "traceparent", (nodeCurrent span).lookup "tracestate"⟩

/-- The context `spicedb_rpc` makes of what a unary call hands over, or the error of the binding. -/
def unaryContext (host : Host) (b : Binding) (span : Option SpanContext) (request : b.Bytes) :
    Except String Ffi.Context := do
  let args ← b.arguments host (unaryTrace span b) request.val
  pure (traceContext {} (goString args.trace.traceparent) (goString args.trace.tracestate))

/-- The context the proxy makes of the metadata of a streaming call. -/
def streamContext (tonic : Tonic) (b : Binding) (span : Option SpanContext) (metadata : Metadata) :
    Ffi.Context :=
  forwardTraceContext (some (intercept tonic span b metadata)) {}

/-- A call of a binding, on one of the two ways. -/
inductive Way (b : Binding)
  | unary (request : b.Bytes)
  | streaming (metadata : PlainMetadata)

/-- The context a call reaches SpiceDB under. -/
def carried (host : Host) (tonic : Tonic) {b : Binding} (span : Option SpanContext) :
    Way b → Except String Ffi.Context
  | .unary request => unaryContext host b span request
  | .streaming metadata => .ok (streamContext tonic b span metadata.val)

/-- The binding takes the request: its length is not refused. -/
def Way.Taken (host : Host) {b : Binding} : Way b → Prop
  | .unary request => ¬ b.Refuses host {} request.val.length
  | .streaming _ => True

/-! ### What should be carried -/

/-- The context of the current span. -/
def spanContext (span : Option SpanContext) : Ffi.Context :=
  traceContext {} ((spanTrace span).traceparent.getD "") ((spanTrace span).tracestate.getD "")

/-- A trace state that is a header value, as OpenTelemetry makes them. -/
def Printable (span : Option SpanContext) : Prop :=
  ∀ current ∈ span, ∀ c ∈ current.traceState.toList, 32 ≤ c.toNat ∧ c.toNat ≤ 126

/-- The span a call is made under: an invalid one counts as none. -/
def underSpan (span : Option SpanContext) : Option SpanContext :=
  span.filter fun current => decide current.IsValid

theorem underSpan_valid {current : SpanContext} (valid : current.IsValid) :
    underSpan (some current) = some current := by
  rw [underSpan, Option.filter_some, if_pos (decide_eq_true valid)]

/-- A span counts for nothing, or it is a valid one. -/
theorem underSpan_cases (span : Option SpanContext) :
    (underSpan span = none ∧ spanTrace span = {}) ∨
      ∃ current, span = some current ∧ current.IsValid := by
  cases span with
  | none => exact Or.inl ⟨rfl, rfl⟩
  | some current =>
    by_cases valid : current.IsValid
    · exact Or.inr ⟨current, rfl, valid⟩
    · refine Or.inl ⟨?_, if_neg valid⟩
      rw [underSpan, Option.filter_some, if_neg (by simpa using valid)]

/-! ### Unary calls -/

/-- All bindings hand over the same strings. -/
theorem unaryTrace_eq (span : Option SpanContext) (b : Binding) : unaryTrace span b = spanTrace span := by
  have read : ∀ trace : Trace, (⟨(traceEntries trace).lookup "traceparent",
      (traceEntries trace).lookup "tracestate"⟩ : Trace) = trace := by
    rintro ⟨_ | parent, _ | state⟩ <;> rfl
  cases b with
  | rust | csharp => rfl
  | python | java | node => exact read (spanTrace span)

/-- The strings of a printable span are printable. -/
theorem printable_texts {span : Option SpanContext} (printable : Printable span) :
    ∀ text ∈ (spanTrace span).texts, ∀ c ∈ text.toList, 32 ≤ c.toNat ∧ c.toNat ≤ 126 := by
  intro text inside
  rcases underSpan_cases span with ⟨_, idle⟩ | ⟨current, rfl, valid⟩
  · rw [idle] at inside
    cases inside
  rw [spanTrace_valid valid, Trace.texts] at inside
  rcases List.mem_append.mp inside with parent | state
  · rw [Option.toList_some, List.mem_singleton] at parent
    rw [parent]
    exact traceparent_printable current
  · by_cases stateless : current.traceState = ""
    · rw [if_pos stateless] at state
      cases state
    · rw [if_neg stateless, Option.toList_some, List.mem_singleton] at state
      rw [state]
      exact printable current rfl

/-- No binding refuses a printable span. -/
theorem refuses_printable {host : Host} {span : Option SpanContext} (printable : Printable span)
    (length : Nat) {b : Binding} (taken : ¬ b.Refuses host {} length) :
    ¬ b.Refuses host (spanTrace span) length := by
  have texts := printable_texts printable
  cases b with
  | rust =>
    rintro (long | ⟨text, inside, nul⟩)
    · exact taken (Or.inl long)
    · exact absurd (texts text inside _ nul).1 (by decide)
  | python =>
    rintro ⟨text, inside, c, there, high⟩
    have low := (texts text inside c there).2
    omega
  | java | csharp => exact id
  | node => exact taken

/-- The library reads a printable string to its end. -/
theorem goString_printable {text : Option String}
    (printable : ∀ value ∈ text, ∀ c ∈ value.toList, 32 ≤ c.toNat ∧ c.toNat ≤ 126) :
    goString text = text.getD "" := by
  refine cut_eq_self.mpr fun nul => ?_
  cases text with
  | none => cases nul
  | some value => exact absurd (printable value rfl _ nul).1 (by decide)

theorem unaryContext_eq {host : Host} {span : Option SpanContext} (printable : Printable span)
    {b : Binding} {request : b.Bytes} (taken : ¬ b.Refuses host {} request.val.length) :
    unaryContext host b span request = .ok (spanContext span) := by
  have texts := printable_texts printable
  rw [unaryContext, unaryTrace_eq]
  rcases arguments_cases host b (spanTrace span) request.val with
    ⟨refused, _⟩ | ⟨_, args, converted, passed⟩
  · exact absurd refused (refuses_printable printable _ taken)
  rw [converted]
  show Except.ok _ = _
  rw [passed.trace, goString_printable fun value inside => texts value ?_,
    goString_printable fun value inside => texts value ?_]
  · rfl
  · exact List.mem_append_right _ (Option.mem_toList.mpr inside)
  · exact List.mem_append_left _ (Option.mem_toList.mpr inside)

/-- A raw call runs its method under the context of its way. -/
theorem answerRpc_of_unaryContext {Conn Msg S : Type} (lib : Library Conn Msg)
    (backend : Backend Conn Msg S) {host : Host} {span : Option SpanContext} {b : Binding}
    {request : b.Bytes} {parent : Ffi.Context}
    (context : unaryContext host b span request = .ok parent) (handle : UInt64) (method : Method)
    (s : S) :
    lib.answerRpc backend handle method (unaryTrace span b) request.val s =
      lib.answerWith parent handle request.val (lib.unmarshal (.request method))
        (backend.client method) s := by
  rw [unaryContext] at context
  rcases arguments_cases host b (unaryTrace span b) request.val with
    ⟨_, err, raised⟩ | ⟨_, args, converted, passed⟩
  · rw [raised] at context
    cases context
  · rw [converted] at context
    have same := Except.ok.inj context
    rw [passed.trace] at same
    rw [Library.answerRpc, same]

/-! ### Streaming calls -/

/-- Nothing disturbs a printable trace state on metadata without trace headers. -/
theorem undisturbed_plain (tonic : Tonic) {state : String}
    (printable : ∀ c ∈ state.toList, 32 ≤ c.toNat ∧ c.toNat ≤ 126) (b : Binding) :
    Binding.Undisturbed tonic state [] b := by
  cases b with
  | python | java | csharp =>
    show if state = "" then _ else _
    split
    · rfl
    · rfl
  | rust =>
    show if state ≠ "" ∧ tonic.tryFrom state then True else joinWith "," [] = state
    split
    · trivial
    · next untaken =>
      by_contra shown
      exact untaken ⟨fun empty => shown empty.symm, tonic.printable state printable⟩
  | node =>
    by_cases stateless : state = ""
    · exact Or.inr rfl
    · exact Or.inl stateless

theorem streamContext_eq (tonic : Tonic) {span : Option SpanContext} (printable : Printable span)
    (b : Binding) (metadata : PlainMetadata) :
    streamContext tonic b span metadata.val = spanContext span := by
  obtain ⟨parents, states⟩ := metadata.2
  rcases underSpan_cases span with ⟨_, idle⟩ | ⟨current, rfl, valid⟩
  · rw [streamContext, intercept_idle tonic span b idle, spanContext, idle]
    show traceContext {} ((values metadata.val "traceparent").headD "") _ = _
    rw [parents]
    rfl
  · obtain ⟨own, after⟩ := values_intercept tonic valid parents b
    have kept := (undisturbed_iff tonic current.traceState [] b).mpr
      (undisturbed_plain tonic (printable current rfl) b)
    show traceContext {} ((values (intercept tonic (some current) b metadata.val)
      "traceparent").headD "") (joinWith "," (values (intercept tonic (some current) b metadata.val)
        "tracestate")) = _
    rw [own, after, states, kept, spanContext, spanTrace_valid valid]
    by_cases stateless : current.traceState = ""
    · rw [if_pos stateless, stateless]
      rfl
    · rw [if_neg stateless]
      rfl

/-- **Every call carries the current span**, whatever binding makes it and whichever way it goes. -/
theorem carried_eq {host : Host} (tonic : Tonic) {span : Option SpanContext}
    (printable : Printable span) {b : Binding} {way : Way b} (taken : way.Taken host) :
    carried host tonic span way = .ok (spanContext span) := by
  cases way with
  | unary request => exact unaryContext_eq printable taken
  | streaming metadata => exact congrArg Except.ok (streamContext_eq tonic printable b metadata)

/-! ### One context, one span -/

theorem hex_length (width n : Nat) : (hex width n).length = width := by
  induction width generalizing n with
  | zero => rfl
  | succ width ih =>
    show (hex width (n / 16) ++ [Nat.digitChar (n % 16)]).length = width + 1
    rw [List.length_append, ih, List.length_singleton]

/-- Hexadecimal digits tell the numbers they are wide enough for apart. -/
theorem hex_inj {width m n : Nat} (low : m < 16 ^ width) (other : n < 16 ^ width)
    (same : hex width m = hex width n) : m = n := by
  induction width generalizing m n with
  | zero =>
    rw [Nat.pow_zero] at low other
    omega
  | succ width ih =>
    obtain ⟨front, last⟩ := List.append_inj' (show hex width (m / 16) ++ [Nat.digitChar (m % 16)] =
      hex width (n / 16) ++ [Nat.digitChar (n % 16)] from same) rfl
    have digits : ∀ d < 16, ∀ e < 16, Nat.digitChar d = Nat.digitChar e → d = e := by decide
    have units := digits _ (Nat.mod_lt m (by decide)) _ (Nat.mod_lt n (by decide))
      (List.cons.inj last).1
    rw [Nat.pow_succ] at low other
    have rest := ih (Nat.div_lt_of_lt_mul (by omega)) (Nat.div_lt_of_lt_mul (by omega)) front
    omega

/-- **A `traceparent` says which span it is of**: its ids and its flags. -/
theorem traceparent_inj {first second : SpanContext} (same : first.traceparent = second.traceparent) :
    first.traceId = second.traceId ∧ first.spanId = second.spanId ∧
      first.traceFlags = second.traceFlags := by
  have texts := String.ofList_injective same
  have after := (List.cons.inj (List.cons.inj (List.cons.inj texts).2).2).2
  obtain ⟨traces, rest⟩ := List.append_inj after (by rw [hex_length, hex_length])
  obtain ⟨spans, flags⟩ := List.append_inj (List.cons.inj rest).2 (by rw [hex_length, hex_length])
  refine ⟨BitVec.eq_of_toNat_eq ?_, BitVec.eq_of_toNat_eq ?_, UInt8.toNat_inj.mp ?_⟩
  · exact hex_inj first.traceId.isLt second.traceId.isLt traces
  · exact hex_inj first.spanId.isLt second.spanId.isLt spans
  · exact hex_inj first.traceFlags.toNat_lt second.traceFlags.toNat_lt (List.cons.inj flags).2

/-- The metadata of a valid span. -/
theorem spanContext_valid {current : SpanContext} (valid : current.IsValid) :
    (spanContext (some current)).metadata = ("traceparent", current.traceparent) ::
      if current.traceState = "" then [] else [("tracestate", current.traceState)] := by
  rw [spanContext, spanTrace_valid valid]
  show (traceContext {} current.traceparent _).metadata = _
  rw [traceContext, if_neg (traceparent_ne current)]
  by_cases stateless : current.traceState = ""
  · rw [if_pos stateless, if_pos stateless]
    rfl
  · rw [if_neg stateless, if_neg stateless]
    exact congrArg _ (if_neg stateless)

/-- **Spans that count are told apart by their contexts.** -/
theorem spanContext_inj {first second : Option SpanContext} :
    spanContext first = spanContext second ↔ underSpan first = underSpan second := by
  rcases underSpan_cases first with ⟨uncounted, idle⟩ | ⟨current, rfl, valid⟩ <;>
    rcases underSpan_cases second with ⟨nothing, quiet⟩ | ⟨other, rfl, proper⟩
  · rw [uncounted, nothing, spanContext, spanContext, idle, quiet]
    exact iff_of_true rfl rfl
  · refine iff_of_false (fun same => ?_) (by rw [uncounted, underSpan_valid proper]; nofun)
    have entries := congrArg Ffi.Context.metadata same
    rw [spanContext_valid proper, spanContext, idle] at entries
    cases entries
  · refine iff_of_false (fun same => ?_) (by rw [nothing, underSpan_valid valid]; nofun)
    have entries := congrArg Ffi.Context.metadata same
    rw [spanContext_valid valid, spanContext, quiet] at entries
    cases entries
  · rw [underSpan_valid valid, underSpan_valid proper]
    refine ⟨fun same => ?_, fun same => congrArg spanContext same⟩
    have entries := congrArg Ffi.Context.metadata same
    rw [spanContext_valid valid, spanContext_valid proper] at entries
    obtain ⟨traces, spans, flags⟩ :=
      traceparent_inj (Prod.mk.inj (List.cons.inj entries).1).2
    have states : current.traceState = other.traceState := by
      have rest := (List.cons.inj entries).2
      split at rest <;> split at rest
      · next stateless empty => rw [stateless, empty]
      · cases rest
      · cases rest
      · exact (Prod.mk.inj (List.cons.inj rest).1).2
    cases current
    cases other
    simp only at traces spans flags states
    rw [traces, spans, flags, states]

/-- **A call reaches SpiceDB under the context of a span exactly when it is made under that span**, whatever
binding makes it and whichever way it goes. -/
theorem carried_iff (host : Host) (tonic : Tonic) {span : Option SpanContext}
    (printable : Printable span) {b : Binding} {way : Way b} (taken : way.Taken host)
    (other : Option SpanContext) :
    carried host tonic span way = .ok (spanContext other) ↔ underSpan span = underSpan other := by
  rw [carried_eq tonic printable taken, ← spanContext_inj]
  exact ⟨fun same => Except.ok.inj same, congrArg _⟩

/-- A unary call of Python and a streaming call of Node under one span. -/
theorem carried_bothWays :
    carried plainHost printableTonic (some ⟨1, 1, 1, "vendor=value"⟩)
        (Way.unary (⟨[42], nofun⟩ : Binding.python.Bytes)) =
          .ok (spanContext (some ⟨1, 1, 1, "vendor=value"⟩)) ∧
      carried plainHost printableTonic (some ⟨1, 1, 1, "vendor=value"⟩)
        (Way.streaming ⟨[], rfl, rfl⟩ : Way .node) =
          .ok (spanContext (some ⟨1, 1, 1, "vendor=value"⟩)) := by
  have printable : Printable (some ⟨1, 1, 1, "vendor=value"⟩) := by
    have all : ("vendor=value".toList.all fun c => 32 ≤ c.toNat ∧ c.toNat ≤ 126) = true := by decide
    rintro current ⟨⟩ c inside
    exact of_decide_eq_true (List.all_eq_true.mp all c inside)
  have taken : (Way.unary (⟨[42], nofun⟩ : Binding.python.Bytes)).Taken plainHost := by
    rintro ⟨text, inside, _⟩
    cases inside
  have alsoTaken : (Way.streaming ⟨[], rfl, rfl⟩ : Way .node).Taken plainHost := trivial
  exact ⟨(carried_iff plainHost printableTonic printable taken _).mpr rfl,
    (carried_iff plainHost printableTonic printable alsoTaken _).mpr rfl⟩

end SpicedbEmbedded.Headers
