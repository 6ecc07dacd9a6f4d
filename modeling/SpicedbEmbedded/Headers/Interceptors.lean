/-
**Trace headers of a streaming call.**

The streaming interceptors of the five bindings put the current trace context on a call's metadata;
`forwardTraceContext` of the streaming proxy takes it from there to the call to SpiceDB. gRPC carries
the metadata between the two with the values of each key in order.

* `TracePair` — the pair a call to SpiceDB carries, and what it should be (`owedPair`).
* **`delivered_iff`** — for each binding, the metadata and contexts for which it is that pair: a
  `tracestate` that came without a `traceparent` must not get between.
* **`paired_iff`** — the same for all five, which then agree.
-/

import SpicedbEmbedded.Ffi.Bindings
import SpicedbEmbedded.Machine.Multimap
import SpicedbEmbedded.Text.Join

namespace SpicedbEmbedded.Headers

open Ffi Machine Text

/-! ### Current trace contexts -/

/-- The hexadecimal digits of a number, so many of them. -/
def hex : Nat → Nat → List Char
  | 0, _ => []
  | width + 1, n => hex width (n / 16) ++ [Nat.digitChar (n % 16)]

/-- A span context of OpenTelemetry; its trace state is the text of the header. -/
structure SpanContext where
  traceId : BitVec 128
  spanId : BitVec 64
  traceFlags : UInt8
  traceState : String
  deriving DecidableEq

namespace SpanContext

variable (span : SpanContext)

/-- Neither id is zero. -/
def IsValid : Prop := span.traceId ≠ 0 ∧ span.spanId ≠ 0

instance : Decidable span.IsValid := inferInstanceAs (Decidable (_ ∧ _))

/-- The `traceparent` of a span. -/
def traceparent : String :=
  String.ofList ('0' :: '0' :: '-' :: (hex 32 span.traceId.toNat ++
    '-' :: (hex 16 span.spanId.toNat ++ '-' :: hex 2 span.traceFlags.toNat)))

end SpanContext

/-- The trace context of a valid span: an empty trace state is left out. -/
def spanTrace (span : Option SpanContext) : Trace :=
  match span with
  | none => {}
  | some span =>
    if span.IsValid then
      ⟨some span.traceparent, if span.traceState = "" then none else some span.traceState⟩
    else {}

/-- The entries of a trace context, in order. -/
def traceEntries (trace : Trace) : List (String × String) :=
  trace.traceparent.toList.map (fun value => ("traceparent", value)) ++
    trace.tracestate.toList.map fun value => ("tracestate", value)

/-- `current` of Rust. -/
def rustCurrent (span : Option SpanContext) : Trace := spanTrace span

/-- `current` of Python: what the propagator writes into the dict. -/
def pythonCurrent (span : Option SpanContext) : List (String × String) := traceEntries (spanTrace span)

/-- `current` of Java: what the propagator writes into the map. -/
def javaCurrent (span : Option SpanContext) : List (String × String) := traceEntries (spanTrace span)

/-- `Current` of C#. -/
def csharpCurrent (span : Option SpanContext) : Trace := spanTrace span

/-- `currentTraceContext` of Node. -/
def nodeCurrent (span : Option SpanContext) : List (String × String) := traceEntries (spanTrace span)

/-! ### The interceptors -/

/-- The metadata of a call: entries with lower-case keys. -/
abbrev Metadata : Type := List (String × String)

/-- Which texts tonic takes as metadata values; the printable ASCII ones are among them. -/
structure Tonic where
  tryFrom : String → Bool
  printable : ∀ text, (∀ c ∈ text.toList, 32 ≤ c.toNat ∧ c.toNat ≤ 126) → tryFrom text = true

/-- The key is in the metadata. -/
def containsKey (metadata : Metadata) (key : String) : Bool := metadata.any (·.1 = key)

/-- One round of the loop of `interceptor`. -/
def rustInsert (tonic : Tonic) (metadata : Metadata) (key : String) : Option String → Metadata
  | none => metadata
  | some value => if tonic.tryFrom value then set metadata key value else metadata

/-- `interceptor` of Rust. -/
def rustInterceptor (tonic : Tonic) (span : Option SpanContext) (metadata : Metadata) : Metadata :=
  if containsKey metadata "traceparent" then metadata
  else
    let trace := rustCurrent span
    rustInsert tonic (rustInsert tonic metadata "traceparent" trace.traceparent) "tracestate"
      trace.tracestate

/-- `_details` of Python's `TraceContextInterceptor`. -/
def pythonDetails (span : Option SpanContext) (metadata : Metadata) : Metadata :=
  if containsKey metadata "traceparent" then metadata
  else
    let context := pythonCurrent span
    if containsKey context "traceparent" then metadata ++ context else metadata

/-- `start` of Java's `Interceptor`. -/
def javaInterceptor (span : Option SpanContext) (headers : Metadata) : Metadata :=
  let context := javaCurrent span
  match context.lookup "traceparent" with
  | none => headers
  | some traceparent =>
    if containsKey headers "traceparent" then headers
    else
      let headers := add headers "traceparent" traceparent
      match context.lookup "tracestate" with
      | none => headers
      | some tracestate => add headers "tracestate" tracestate

/-- `WithTraceContext` of C#. -/
def csharpWithTraceContext (span : Option SpanContext) (headers : Metadata) : Metadata :=
  if (values headers "traceparent").getLast?.isSome then headers
  else
    let trace := csharpCurrent span
    match trace.traceparent with
    | none => headers
    | some traceParent =>
      let withTrace := add headers "traceparent" traceParent
      match trace.tracestate with
      | none => withTrace
      | some traceState => add withTrace "tracestate" traceState

/-- `traceContextInterceptor` of Node. -/
def nodeInterceptor (span : Option SpanContext) (metadata : Metadata) : Metadata :=
  if (values metadata "traceparent").length = 0 then
    (nodeCurrent span).foldl (fun metadata entry => set metadata entry.1 entry.2) metadata
  else metadata

/-- The interceptor of a binding. -/
def intercept (tonic : Tonic) (span : Option SpanContext) : Binding → Metadata → Metadata
  | .rust => rustInterceptor tonic span
  | .python => pythonDetails span
  | .java => javaInterceptor span
  | .csharp => csharpWithTraceContext span
  | .node => nodeInterceptor span

/-! ### The proxy -/

/-- `forwardTraceContext`: the incoming metadata may not be there at all. -/
def forwardTraceContext (incoming : Option Metadata) (ctx : Context) : Context :=
  match incoming with
  | none => ctx
  | some md =>
    let traceparent := (values md "traceparent").headD ""
    let tracestate := joinWith "," (values md "tracestate")
    traceContext ctx traceparent tracestate

/-! ### The pair -/

/-- The pair on a call to SpiceDB; no `tracestate` is the empty one. -/
structure TracePair where
  traceparent : Option String
  tracestate : String
  deriving DecidableEq

/-- The pair a call carries. -/
def Context.pair (ctx : Ffi.Context) : TracePair :=
  ⟨(values ctx.metadata "traceparent").head?, joinWith "," (values ctx.metadata "tracestate")⟩

/-- The pair a binding's streaming call with this metadata brings to SpiceDB. -/
def delivered (tonic : Tonic) (b : Binding) (span : Option SpanContext) (metadata : Metadata) :
    TracePair :=
  Context.pair (forwardTraceContext (some (intercept tonic span b metadata)) {})

/-- The pair of the current context. -/
def currentPair (span : Option SpanContext) : TracePair :=
  ⟨(spanTrace span).traceparent, (spanTrace span).tracestate.getD ""⟩

/-- The pair that belongs on the call: the metadata's own if it has a `traceparent`, else the current
context's. -/
def owedPair (span : Option SpanContext) (metadata : Metadata) : TracePair :=
  match values metadata "traceparent" with
  | first :: _ => ⟨some first, joinWith "," (values metadata "tracestate")⟩
  | [] => currentPair span

/-- Every binding delivers the pair that belongs on the call, and all deliver the same. -/
def Paired (tonic : Tonic) (span : Option SpanContext) (metadata : Metadata) : Prop :=
  (∀ b, delivered tonic b span metadata = owedPair span metadata) ∧
    ∀ b c, delivered tonic b span metadata = delivered tonic c span metadata

/-- A binding puts its own trace state alone on metadata that has some already: in Python, Java and C#
by adding it to what must be nothing, in Rust and Node by replacing it. -/
def Binding.Undisturbed (tonic : Tonic) (state : String) (stray : List String) : Binding → Prop
  | .python | .java | .csharp => if state = "" then joinWith "," stray = "" else stray = []
  | .rust =>
    if state ≠ "" ∧ tonic.tryFrom state then True else joinWith "," stray = state
  | .node => state ≠ "" ∨ joinWith "," stray = ""

/-- The condition: a first `traceparent` that is not empty, or none and, when there is a current
context, trace states that do not disturb it. -/
def Delivers (tonic : Tonic) (b : Binding) (span : Option SpanContext) (metadata : Metadata) : Prop :=
  match values metadata "traceparent" with
  | first :: _ => first ≠ ""
  | [] => ∀ current, span = some current → current.IsValid →
    Binding.Undisturbed tonic current.traceState (values metadata "tracestate") b

/-! ### Texts of a `traceparent` -/

theorem hex_printable {c : Char} {width n : Nat} (inside : c ∈ hex width n) :
    32 ≤ c.toNat ∧ c.toNat ≤ 126 := by
  induction width generalizing n with
  | zero => cases inside
  | succ width ih =>
    rcases List.mem_append.mp inside with before | last
    · exact ih before
    · have digit : ∀ d < 16, 32 ≤ (Nat.digitChar d).toNat ∧ (Nat.digitChar d).toNat ≤ 126 := by
        decide
      rw [List.mem_singleton.mp last]
      exact digit _ (Nat.mod_lt n (by decide))

theorem traceparent_printable (span : SpanContext) :
    ∀ c ∈ span.traceparent.toList, 32 ≤ c.toNat ∧ c.toNat ≤ 126 := by
  intro c inside
  rw [SpanContext.traceparent, String.toList_ofList] at inside
  simp only [List.mem_cons, List.mem_append] at inside
  rcases inside with rfl | rfl | rfl | digit | rfl | digit | rfl | digit
  · decide
  · decide
  · decide
  · exact hex_printable digit
  · decide
  · exact hex_printable digit
  · decide
  · exact hex_printable digit

theorem traceparent_ne (span : SpanContext) : span.traceparent ≠ "" := by
  intro empty
  have none := congrArg String.toList empty
  rw [SpanContext.traceparent, String.toList_ofList] at none
  cases none

/-! ### What is delivered -/

/-- The proxy forwards the first `traceparent` with the joined trace states, unless it is empty. -/
theorem pair_forward (md : Metadata) :
    Context.pair (forwardTraceContext (some md) {}) =
      if (values md "traceparent").headD "" = "" then ⟨none, ""⟩
      else ⟨some ((values md "traceparent").headD ""), joinWith "," (values md "tracestate")⟩ := by
  show Context.pair (traceContext {} ((values md "traceparent").headD "")
    (joinWith "," (values md "tracestate"))) = _
  rw [traceContext]
  by_cases empty : (values md "traceparent").headD "" = ""
  · rw [if_pos empty, if_pos empty]
    rfl
  · rw [if_neg empty, if_neg empty]
    by_cases stateless : joinWith "," (values md "tracestate") = ""
    · rw [if_pos stateless, stateless]
      rfl
    · rw [if_neg stateless]
      rfl

section Intercept

variable (tonic : Tonic) (span : Option SpanContext) {md : Metadata}

theorem containsKey_iff {key : String} : containsKey md key = true ↔ values md key ≠ [] :=
  any_key_iff md

/-- Metadata with a `traceparent` is left as it is. -/
theorem intercept_kept (b : Binding) (own : values md "traceparent" ≠ []) :
    intercept tonic span b md = md := by
  have there := containsKey_iff.mpr own
  cases b with
  | rust => exact if_pos there
  | python => exact if_pos there
  | java =>
    show (match (javaCurrent span).lookup "traceparent" with | none => md | some traceparent => _) = md
    cases (javaCurrent span).lookup "traceparent" with
    | none => rfl
    | some traceparent => exact if_pos there
  | csharp => exact if_pos (by simpa using own)
  | node => exact if_neg (by simpa using own)

/-- Without a current context the metadata is left as it is. -/
theorem intercept_idle (b : Binding) (idle : spanTrace span = {}) : intercept tonic span b md = md := by
  by_cases own : values md "traceparent" = []
  · have absent : containsKey md "traceparent" ≠ true := fun there => containsKey_iff.mp there own
    cases b with
    | rust =>
      show (if _ then md else _) = md
      rw [if_neg absent, rustCurrent, idle]
      rfl
    | python =>
      show (if _ then md else _) = md
      rw [if_neg absent, pythonCurrent, idle]
      rfl
    | java =>
      show (match (javaCurrent span).lookup "traceparent" with | none => md | some traceparent => _) = md
      rw [javaCurrent, idle]
      rfl
    | csharp =>
      show (if _ then md else _) = md
      rw [own, csharpCurrent, idle]
      rfl
    | node =>
      show (if _ then _ else md) = md
      rw [own, nodeCurrent, idle]
      rfl
  · exact intercept_kept tonic span b own

/-- The trace states after a binding has put its own beside or in place of the stray ones. -/
def statesAfter (state : String) (stray : List String) : Binding → List String
  | .rust => if state ≠ "" ∧ tonic.tryFrom state then [state] else stray
  | .python | .java | .csharp => if state = "" then stray else stray ++ [state]
  | .node => if state = "" then stray else [state]

/-- The trace context of a valid span. -/
theorem spanTrace_valid {current : SpanContext} (valid : current.IsValid) :
    spanTrace (some current) = ⟨some current.traceparent,
      if current.traceState = "" then none else some current.traceState⟩ :=
  if_pos valid

/-- Its entries. -/
theorem traceEntries_valid {current : SpanContext} (valid : current.IsValid) :
    traceEntries (spanTrace (some current)) = ("traceparent", current.traceparent) ::
      if current.traceState = "" then [] else [("tracestate", current.traceState)] := by
  rw [spanTrace_valid valid, traceEntries]
  by_cases stateless : current.traceState = ""
  · rw [if_pos stateless, if_pos stateless]
    rfl
  · rw [if_neg stateless, if_neg stateless]
    rfl

/-- The three bindings that add come to the metadata followed by the entries of the context. -/
theorem intercept_append {current : SpanContext} (valid : current.IsValid)
    (own : values md "traceparent" = []) {b : Binding} (adds : b ≠ .rust ∧ b ≠ .node) :
    intercept tonic (some current) b md = md ++ traceEntries (spanTrace (some current)) := by
  have absent : containsKey md "traceparent" ≠ true := fun there => containsKey_iff.mp there own
  cases b with
  | rust => exact absurd rfl adds.1
  | node => exact absurd rfl adds.2
  | python =>
    have there : containsKey (pythonCurrent (some current)) "traceparent" = true := by
      rw [pythonCurrent, traceEntries_valid valid]
      rfl
    show (if _ then md else if containsKey (pythonCurrent (some current)) "traceparent" = true then _
      else md) = _
    rw [if_neg absent, if_pos there]
    rfl
  | java =>
    show (match (javaCurrent (some current)).lookup "traceparent" with
      | none => md
      | some traceparent => _) = _
    rw [javaCurrent, traceEntries_valid valid]
    by_cases stateless : current.traceState = ""
    · rw [if_pos stateless]
      show (if _ then md else _) = _
      rw [if_neg absent]
      rfl
    · rw [if_neg stateless]
      show (if _ then md else _) = _
      rw [if_neg absent]
      show (md ++ [_]) ++ [_] = _
      rw [List.append_assoc]
      rfl
  | csharp =>
    show (if _ then md else _) = _
    rw [own, csharpCurrent, traceEntries_valid valid, spanTrace_valid valid]
    by_cases stateless : current.traceState = ""
    · rw [if_pos stateless, if_pos stateless]
      rfl
    · rw [if_neg stateless, if_neg stateless]
      show (md ++ [_]) ++ [_] = _
      rw [List.append_assoc]
      rfl

theorem parent_ne_state : "traceparent" ≠ "tracestate" := by decide

/-- The values of both keys where a binding adds a valid context to metadata without a `traceparent`. -/
theorem values_added {current : SpanContext} (valid : current.IsValid)
    (own : values md "traceparent" = []) {b : Binding} (adds : b ≠ .rust ∧ b ≠ .node) :
    values (intercept tonic (some current) b md) "traceparent" = [current.traceparent] ∧
      values (intercept tonic (some current) b md) "tracestate" =
        if current.traceState = "" then values md "tracestate"
        else values md "tracestate" ++ [current.traceState] := by
  rw [intercept_append tonic valid own adds, traceEntries_valid valid, values_append,
    values_append, own, values_cons_self, values_cons_of_ne _ _ parent_ne_state]
  by_cases stateless : current.traceState = ""
  · rw [if_pos stateless, if_pos stateless, values_nil, values_nil, List.append_nil]
    exact ⟨rfl, rfl⟩
  · rw [if_neg stateless, if_neg stateless, values_cons_self, values_nil,
      values_cons_of_ne _ _ parent_ne_state.symm]
    exact ⟨rfl, rfl⟩

/-- The same in Rust, which replaces what there is, as far as the values are header values. -/
theorem values_rust {current : SpanContext} (valid : current.IsValid)
    (own : values md "traceparent" = []) :
    values (intercept tonic (some current) .rust md) "traceparent" = [current.traceparent] ∧
      values (intercept tonic (some current) .rust md) "tracestate" =
        statesAfter tonic current.traceState (values md "tracestate") .rust := by
  have absent : containsKey md "traceparent" ≠ true := fun there => containsKey_iff.mp there own
  have accepted := tonic.printable _ (traceparent_printable current)
  have run : intercept tonic (some current) .rust md =
      rustInsert tonic (set md "traceparent" current.traceparent) "tracestate"
        (if current.traceState = "" then none else some current.traceState) := by
    show (if _ then md else _) = _
    rw [if_neg absent, rustCurrent, spanTrace_valid valid]
    show rustInsert tonic (if _ then _ else _) _ _ = _
    rw [if_pos accepted]
  rw [run, statesAfter]
  by_cases stateless : current.traceState = ""
  · rw [if_pos stateless, if_neg (fun both => both.1 stateless)]
    exact ⟨values_set_self _ _, values_set_of_ne _ _ parent_ne_state⟩
  · rw [if_neg stateless, rustInsert]
    by_cases taken : tonic.tryFrom current.traceState = true
    · rw [if_pos taken, if_pos ⟨stateless, taken⟩, values_set_of_ne _ _ parent_ne_state.symm]
      exact ⟨values_set_self _ _, values_set_self _ _⟩
    · rw [if_neg taken, if_neg (fun both => taken both.2)]
      exact ⟨values_set_self _ _, values_set_of_ne _ _ parent_ne_state⟩

/-- The same in Node, which replaces what there is. -/
theorem values_node {current : SpanContext} (valid : current.IsValid)
    (own : values md "traceparent" = []) :
    values (intercept tonic (some current) .node md) "traceparent" = [current.traceparent] ∧
      values (intercept tonic (some current) .node md) "tracestate" =
        statesAfter tonic current.traceState (values md "tracestate") .node := by
  have run : intercept tonic (some current) .node md =
      (traceEntries (spanTrace (some current))).foldl
        (fun metadata entry => set metadata entry.1 entry.2) md := by
    show (if _ then _ else md) = _
    rw [own]
    rfl
  rw [run, traceEntries_valid valid, statesAfter]
  by_cases stateless : current.traceState = ""
  · rw [if_pos stateless, if_pos stateless]
    exact ⟨values_set_self _ _, values_set_of_ne _ _ parent_ne_state⟩
  · rw [if_neg stateless, if_neg stateless]
    refine ⟨?_, values_set_self _ _⟩
    show values (set (set md _ _) _ _) _ = _
    rw [values_set_of_ne _ _ parent_ne_state.symm]
    exact values_set_self _ _

/-- The values of both keys once a valid context has been put on metadata without a `traceparent`. -/
theorem values_intercept {current : SpanContext} (valid : current.IsValid)
    (own : values md "traceparent" = []) (b : Binding) :
    values (intercept tonic (some current) b md) "traceparent" = [current.traceparent] ∧
      values (intercept tonic (some current) b md) "tracestate" =
        statesAfter tonic current.traceState (values md "tracestate") b := by
  cases b with
  | python | java | csharp => exact values_added tonic valid own (by decide)
  | rust => exact values_rust tonic valid own
  | node => exact values_node tonic valid own

/-- The trace states are the context's own exactly when nothing disturbs them. -/
theorem undisturbed_iff (state : String) (stray : List String) (b : Binding) :
    joinWith "," (statesAfter tonic state stray b) = state ↔ Binding.Undisturbed tonic state stray b := by
  have adding : joinWith "," (if state = "" then stray else stray ++ [state]) = state ↔
      if state = "" then joinWith "," stray = "" else stray = [] := by
    by_cases stateless : state = ""
    · rw [if_pos stateless, if_pos stateless, stateless]
    · rw [if_neg stateless, if_neg stateless]
      exact joinWith_concat_eq_iff (by decide)
  cases b with
  | python | java | csharp => exact adding
  | rust =>
    rw [statesAfter, Binding.Undisturbed]
    by_cases taken : state ≠ "" ∧ tonic.tryFrom state = true
    · rw [if_pos taken, if_pos taken]
      exact iff_of_true rfl trivial
    · rw [if_neg taken, if_neg taken]
  | node =>
    rw [statesAfter, Binding.Undisturbed]
    by_cases stateless : state = ""
    · rw [if_pos stateless, stateless, or_iff_right (fun other => other rfl)]
    · rw [if_neg stateless]
      exact iff_of_true rfl (Or.inl stateless)

/-- **Each binding delivers the pair that belongs on the call exactly under its condition.** -/
theorem delivered_iff (b : Binding) (span : Option SpanContext) (md : Metadata) :
    delivered tonic b span md = owedPair span md ↔ Delivers tonic b span md := by
  unfold delivered owedPair Delivers
  rw [pair_forward]
  cases own : values md "traceparent" with
  | cons first rest =>
    rw [intercept_kept tonic span b (by rw [own]; nofun), own]
    show (if first = "" then _ else _) = _ ↔ first ≠ ""
    by_cases empty : first = ""
    · rw [if_pos empty]
      refine iff_of_false ?_ (fun other => other empty)
      nofun
    · rw [if_neg empty]
      exact iff_of_true rfl empty
  | nil =>
    by_cases idle : spanTrace span = {}
    · rw [intercept_idle tonic span b idle, own]
      refine iff_of_true ?_ ?_
      · rw [currentPair, idle]
        rfl
      · intro current same valid
        rw [same, spanTrace_valid valid] at idle
        cases idle
    · cases span with
      | none => exact absurd rfl idle
      | some current =>
        have valid : current.IsValid := by
          by_contra invalid
          exact idle (if_neg invalid)
        obtain ⟨parents, states⟩ := values_intercept tonic valid own b
        have pair : currentPair (some current) = ⟨some current.traceparent, current.traceState⟩ := by
          rw [currentPair, spanTrace_valid valid]
          by_cases stateless : current.traceState = ""
          · rw [if_pos stateless, stateless]
            rfl
          · rw [if_neg stateless]
            rfl
        have goal : (⟨some current.traceparent,
            joinWith "," (statesAfter tonic current.traceState (values md "tracestate") b)⟩ :
            TracePair) = ⟨some current.traceparent, current.traceState⟩ ↔
            Binding.Undisturbed tonic current.traceState (values md "tracestate") b := by
          rw [TracePair.mk.injEq, and_iff_right rfl]
          exact undisturbed_iff tonic _ _ b
        rw [parents, states]
        show (if current.traceparent = "" then _ else _) = currentPair (some current) ↔ _
        rw [if_neg (traceparent_ne current), pair]
        refine goal.trans ⟨fun kept other same _ => ?_, fun all => all current rfl valid⟩
        cases same
        exact kept

end Intercept

/-- **All five bindings deliver the pair that belongs on the call exactly when the condition of each is
met.** -/
theorem paired_iff (tonic : Tonic) (span : Option SpanContext) (metadata : Metadata) :
    Paired tonic span metadata ↔ ∀ b, Delivers tonic b span metadata := by
  constructor
  · intro paired b
    exact (delivered_iff tonic b span metadata).mp (paired.1 b)
  · intro all
    have owed := fun b => (delivered_iff tonic b span metadata).mpr (all b)
    exact ⟨owed, fun b c => (owed b).trans (owed c).symm⟩

/-- A tonic that takes printable ASCII texts only. -/
def printableTonic : Tonic where
  tryFrom text := text.toList.all fun c => 32 ≤ c.toNat && c.toNat ≤ 126
  printable text all := by simpa using all

/-- A call that comes with a trace state and no parent, under a current span with a trace state of its
own. -/
theorem strayState_joined :
    ¬ ∀ (tonic : Tonic) (span : Option SpanContext) (metadata : Metadata),
      Paired tonic span metadata := by
  intro paired
  have all := paired printableTonic (some ⟨1, 1, 1, "vendor=value"⟩) [("tracestate", "other=1")]
  have python := all.1 .python
  have differ : delivered printableTonic .python (some ⟨1, 1, 1, "vendor=value"⟩)
      [("tracestate", "other=1")] ≠
      owedPair (some ⟨1, 1, 1, "vendor=value"⟩) [("tracestate", "other=1")] := by decide
  exact differ python

end SpicedbEmbedded.Headers
