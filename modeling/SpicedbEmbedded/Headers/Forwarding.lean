/-
**What the streaming proxy keeps of a trace context.**

`forwardTraceContext` puts the trace headers of an incoming request on the call to SpiceDB. The header
`tracestate` is a list of members between commas, and may come in several values: the proxy joins them.

* `Forwarded` — the whole trace context, and nothing else.
* **`forwardTraceContext_forwarded`** — that is what the outgoing metadata holds, whatever came in.
* **`forwardTraceContext_again`** — a second proxy behind the first forwards the same.
-/

import SpicedbEmbedded.Headers.Interceptors

namespace SpicedbEmbedded.Headers

open Ffi Machine Text

/-! ### The trace context of a request -/

/-- The members of a list of `tracestate` values, in order. -/
def members (tracestates : List String) : List String := tracestates.flatMap (pieces ',')

/-- The metadata of a request that may have none. -/
def received (incoming : Option Metadata) : Metadata := incoming.getD []

/-- The first `traceparent` of a request; the empty text if it has none. -/
def parentOf (incoming : Option Metadata) : String := (values (received incoming) "traceparent").headD ""

/-- The whole trace context of a request on the outgoing call, and nothing else: its first
`traceparent` and every member of its `tracestate`. Without a `traceparent` nothing is added. -/
structure Forwarded (incoming : Option Metadata) (ctx out : Context) : Prop where
  timeout : out.timeout = ctx.timeout
  /-- The call has at most the two keys: what is put on it replaces other metadata, and the context of
  a handler has none to keep. -/
  keys : parentOf incoming ≠ "" ∨ ctx.metadata = [] →
    ∀ entry ∈ out.metadata, entry.1 = "traceparent" ∨ entry.1 = "tracestate"
  orphan : parentOf incoming = "" → out = ctx
  traceparent : parentOf incoming ≠ "" →
    values out.metadata "traceparent" = [parentOf incoming]
  tracestate : parentOf incoming ≠ "" →
    members (values out.metadata "tracestate") = members (values (received incoming) "tracestate")
  /-- `tracestate` is one value, or left out because there is no member. -/
  stated : parentOf incoming ≠ "" → (∃ value, values out.metadata "tracestate" = [value]) ∨
    values out.metadata "tracestate" = [] ∧ members (values (received incoming) "tracestate") = []

/-! ### The outgoing metadata -/

theorem members_joinWith (tracestates : List String) :
    pieces ',' (joinWith "," tracestates) = members tracestates :=
  pieces_joinWith ',' tracestates

/-- Metadata that is not there forwards as metadata without entries. -/
theorem forwardTraceContext_received (incoming : Option Metadata) (ctx : Context) :
    forwardTraceContext incoming ctx = traceContext ctx (parentOf incoming)
      (joinWith "," (values (received incoming) "tracestate")) := by
  cases incoming with
  | none => rfl
  | some md => rfl

/-- An empty `tracestate` is left out. -/
theorem traceContext_of_ne (ctx : Context) {traceparent : String} (tracestate : String)
    (parent : traceparent ≠ "") :
    traceContext ctx traceparent tracestate = { ctx with metadata :=
      ("traceparent", traceparent) ::
        if tracestate = "" then [] else [("tracestate", tracestate)] } :=
  if_neg parent

/-- The values of both keys once a trace context is on the call. -/
theorem values_traceContext (ctx : Context) {traceparent : String} (tracestate : String)
    (parent : traceparent ≠ "") :
    values (traceContext ctx traceparent tracestate).metadata "traceparent" = [traceparent] ∧
      values (traceContext ctx traceparent tracestate).metadata "tracestate" =
        if tracestate = "" then [] else [tracestate] := by
  rw [traceContext_of_ne ctx tracestate parent]
  by_cases stateless : tracestate = ""
  · rw [if_pos stateless, if_pos stateless, values_cons_self,
      values_cons_of_ne _ _ parent_ne_state]
    exact ⟨rfl, rfl⟩
  · rw [if_neg stateless, if_neg stateless, values_cons_self,
      values_cons_of_ne _ _ parent_ne_state, values_cons_self,
      values_cons_of_ne _ _ parent_ne_state.symm]
    exact ⟨rfl, rfl⟩

/-- No other key is on the call. -/
theorem traceContext_keys {ctx : Context} {traceparent : String} (tracestate : String)
    (clean : traceparent ≠ "" ∨ ctx.metadata = []) :
    ∀ entry ∈ (traceContext ctx traceparent tracestate).metadata,
      entry.1 = "traceparent" ∨ entry.1 = "tracestate" := by
  intro entry inside
  by_cases parent : traceparent = ""
  · rw [traceContext, if_pos parent, clean.resolve_left (fun other => other parent)] at inside
    cases inside
  · rw [traceContext_of_ne ctx tracestate parent] at inside
    by_cases stateless : tracestate = ""
    · rw [if_pos stateless] at inside
      cases inside with
      | head => exact Or.inl rfl
      | tail _ rest => cases rest
    · rw [if_neg stateless] at inside
      cases inside with
      | head => exact Or.inl rfl
      | tail _ rest =>
        cases rest with
        | head => exact Or.inr rfl
        | tail _ rest => cases rest

/-- **The outgoing call has the whole trace context of the request, and nothing else.** -/
theorem forwardTraceContext_forwarded (incoming : Option Metadata) (ctx : Context) :
    Forwarded incoming ctx (forwardTraceContext incoming ctx) := by
  rw [forwardTraceContext_received]
  have joined := members_joinWith (values (received incoming) "tracestate")
  refine ⟨?_, traceContext_keys _, fun orphan => if_pos orphan,
    fun parent => (values_traceContext ctx _ parent).1, fun parent => ?_, fun parent => ?_⟩
  · rw [traceContext]
    split <;> rfl
  · rw [(values_traceContext ctx _ parent).2, ← joined]
    by_cases stateless : joinWith "," (values (received incoming) "tracestate") = ""
    · rw [if_pos stateless, stateless]
      rfl
    · rw [if_neg stateless]
      exact List.append_nil _
  · rw [(values_traceContext ctx _ parent).2]
    by_cases stateless : joinWith "," (values (received incoming) "tracestate") = ""
    · rw [if_pos stateless]
      refine Or.inr ⟨rfl, ?_⟩
      rw [← joined, stateless]
      rfl
    · rw [if_neg stateless]
      exact Or.inl ⟨_, rfl⟩

/-- **A second proxy forwards what the first one did.** -/
theorem forwardTraceContext_again (incoming : Option Metadata) :
    forwardTraceContext (some (forwardTraceContext incoming {}).metadata) {} =
      forwardTraceContext incoming {} := by
  rw [forwardTraceContext_received (some _), forwardTraceContext_received incoming, parentOf, received,
    Option.getD_some]
  by_cases orphan : parentOf incoming = ""
  · have nothing : traceContext {} (parentOf incoming)
        (joinWith "," (values (received incoming) "tracestate")) = {} := if_pos orphan
    rw [nothing]
    rfl
  · obtain ⟨parents, states⟩ := values_traceContext {}
      (joinWith "," (values (received incoming) "tracestate")) orphan
    rw [parents, states]
    by_cases stateless : joinWith "," (values (received incoming) "tracestate") = ""
    · rw [if_pos stateless, stateless]
      rfl
    · rw [if_neg stateless]
      rfl

/-- Two values, one of them a list with an empty member, arrive as one value with the same members. -/
example : forwardTraceContext (some [("tracestate", "a=1,,b=2"), ("traceparent", "00-1"),
    ("tracestate", "c=3"), ("baggage", "x")]) {} =
    { metadata := [("traceparent", "00-1"), ("tracestate", "a=1,,b=2,c=3")] } := by decide

end SpicedbEmbedded.Headers
