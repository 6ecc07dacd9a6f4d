/-
**The forward loops of the streaming proxy.**

`ReadRelationships`, `LookupResources`, `LookupSubjects` and `Watch` of `shared/c/streaming_proxy.go`:
each opens the stream of its own RPC on the backend, under the caller's trace context, and then takes a
message and sends it on, until the backend ends the stream or a `Send` fails.

A backend's stream is any finite or unbounded sequence of messages, ended or not; a client answers its
`Send`s in any pattern. A call that does not come back leaves the handler where it is.

* `Follows` — what a handler has taken and sent, by where it stands.
* **`handlers_faithful`** — at every moment what is delivered is a prefix of the backend's messages, and
  the three exits return what they should.
-/

import Mathlib.Logic.Function.Iterate
import SpicedbEmbedded.Headers.Interceptors
import SpicedbEmbedded.Lifecycle.Shutdown

namespace SpicedbEmbedded.Proxy

open Headers

/-! ### The two ends -/

/-- How a stream that has no more messages goes on: `io.EOF`, an error, or not at all. -/
inductive Ending (E : Type)
  | eof
  | failed (err : E)
  | open

/-- The messages a backend sends. -/
inductive Messages (M E : Type)
  | finite (messages : List M) (ending : Ending E)
  | unbounded (message : Nat → M)

/-- What a `Recv` comes back with. -/
inductive Received (M E : Type)
  | message (msg : M)
  | eof
  | failed (err : E)
  | pending

/-- What a `Send` comes back with. -/
inductive Sent (E : Type)
  | ok
  | failed (err : E)
  | pending
  deriving DecidableEq

variable {M E : Type}

/-- `stream.Recv` after so many messages. -/
def Messages.recv : Messages M E → Nat → Received M E
  | .finite messages ending, n =>
    match messages[n]? with
    | some msg => .message msg
    | none =>
      match ending with
      | .eof => .eof
      | .failed err => .failed err
      | .open => .pending
  | .unbounded message, n => .message (message n)

/-- The first so many messages. -/
def Messages.first : Messages M E → Nat → List M
  | .finite messages _, n => messages.take n
  | .unbounded message, n => (List.range n).map message

/-- The backend sends that many messages at least. -/
def Messages.Has : Messages M E → Nat → Prop
  | .finite messages _, n => n ≤ messages.length
  | .unbounded _, _ => True

/-! ### The loop -/

/-- Where a handler is. -/
inductive Phase (M E : Type)
  | opening
  | receiving (stream : Messages M E)
  | sending (stream : Messages M E) (msg : M)
  | returned (err : Option E)

/-- A handler, the number of messages it has taken from the backend, and the messages its client has
been sent. -/
structure Handler (M E : Type) where
  phase : Phase M E
  taken : Nat
  delivered : List M

/-- A call of a handler. -/
def Handler.init : Handler M E := ⟨.opening, 0, []⟩

/-- The body of the four handlers, one call at a time: `opened` is what opening the backend's stream
comes back with, `client` what each `Send` does. -/
def forward (opened : Except E (Messages M E)) (client : Nat → Sent E) (h : Handler M E) : Handler M E :=
  match h.phase with
  | .opening =>
    match opened with
    | .error err => { h with phase := .returned (some err) }
    | .ok stream => { h with phase := .receiving stream }
  | .receiving stream =>
    match stream.recv h.taken with
    | .message msg => { h with phase := .sending stream msg, taken := h.taken + 1 }
    | .eof => { h with phase := .returned none }
    | .failed err => { h with phase := .returned (some err) }
    | .pending => h
  | .sending stream msg =>
    match client h.delivered.length with
    | .ok => { h with phase := .receiving stream, delivered := h.delivered ++ [msg] }
    | .failed err => { h with phase := .returned (some err) }
    | .pending => h
  | .returned _ => h

/-- The handler after so many calls. -/
def after (opened : Except E (Messages M E)) (client : Nat → Sent E) (n : Nat) : Handler M E :=
  (forward opened client)^[n] .init

/-! ### The four handlers -/

open Lifecycle.Shutdown (Rpc)

/-- The backend's side of a streaming call: the RPC, its context and its request. -/
abbrev Streams (Q M E : Type) : Type := Rpc → Ffi.Context → Q → Except E (Messages M E)

section Handlers

variable {Q : Type} (backend : Streams Q M E) (incoming : Option Metadata) (req : Q)
  (srv : Nat → Sent E)

/-- `ReadRelationships`. -/
def readRelationships : Nat → Handler M E :=
  after (backend .readRelationships (forwardTraceContext incoming {}) req) srv

/-- `LookupResources`. -/
def lookupResources : Nat → Handler M E :=
  after (backend .lookupResources (forwardTraceContext incoming {}) req) srv

/-- `LookupSubjects`. -/
def lookupSubjects : Nat → Handler M E :=
  after (backend .lookupSubjects (forwardTraceContext incoming {}) req) srv

/-- `Watch`. -/
def watch : Nat → Handler M E :=
  after (backend .watch (forwardTraceContext incoming {}) req) srv

/-- The handler of an RPC. -/
def handler : Rpc → Nat → Handler M E
  | .readRelationships => readRelationships backend incoming req srv
  | .lookupResources => lookupResources backend incoming req srv
  | .lookupSubjects => lookupSubjects backend incoming req srv
  | .watch => watch backend incoming req srv

end Handlers

/-! ### Messages -/

@[simp] theorem first_zero (stream : Messages M E) : stream.first 0 = [] := by
  cases stream <;> rfl

theorem length_first {stream : Messages M E} {n : Nat} (there : stream.Has n) :
    (stream.first n).length = n := by
  cases stream with
  | finite messages ending =>
    show (messages.take n).length = n
    rw [List.length_take]
    exact min_eq_left there
  | unbounded message =>
    show ((List.range n).map message).length = n
    rw [List.length_map, List.length_range]

/-- A `Recv` that gives a message gives the next one. -/
theorem recv_message {stream : Messages M E} {n : Nat} {msg : M}
    (got : stream.recv n = .message msg) :
    stream.Has (n + 1) ∧ stream.first (n + 1) = stream.first n ++ [msg] := by
  cases stream with
  | finite messages ending =>
    cases next : messages[n]? with
    | none =>
      cases ending <;> simp [Messages.recv, next] at got
    | some other =>
      have same : other = msg := by simpa [Messages.recv, next] using got
      subst same
      obtain ⟨inside, value⟩ := List.getElem?_eq_some_iff.mp next
      refine ⟨inside, ?_⟩
      show messages.take (n + 1) = messages.take n ++ [other]
      rw [List.take_add_one, next]
      rfl
  | unbounded message =>
    cases got
    refine ⟨trivial, ?_⟩
    show (List.range (n + 1)).map message = (List.range n).map message ++ [message n]
    rw [List.range_succ, List.map_append]
    rfl

/-- As long as there are messages, a `Recv` gives one. -/
theorem recv_has {stream : Messages M E} {n : Nat} (more : stream.Has (n + 1)) :
    ∃ msg, stream.recv n = .message msg := by
  cases stream with
  | finite messages ending =>
    have inside : n < messages.length := more
    refine ⟨messages[n], ?_⟩
    simp [Messages.recv, inside]
  | unbounded message => exact ⟨message n, rfl⟩

theorem Messages.Has.mono {stream : Messages M E} {n k : Nat} (there : stream.Has n) (less : k ≤ n) :
    stream.Has k := by
  cases stream with
  | finite messages ending => exact le_trans less there
  | unbounded message => trivial

/-- A `Recv` that gives `io.EOF` or an error has the whole stream behind it. -/
theorem recv_eof {stream : Messages M E} {n : Nat} (got : stream.recv n = .eof) :
    ∃ messages, stream = .finite messages .eof ∧ messages = stream.first n := by
  cases stream with
  | unbounded message => cases got
  | finite messages ending =>
    cases next : messages[n]? with
    | some msg => simp [Messages.recv, next] at got
    | none =>
      have past : messages.length ≤ n := List.getElem?_eq_none_iff.mp next
      cases ending with
      | eof => exact ⟨messages, rfl, (List.take_of_length_le past).symm⟩
      | failed err => simp [Messages.recv, next] at got
      | «open» => simp [Messages.recv, next] at got

theorem recv_failed {stream : Messages M E} {n : Nat} {err : E}
    (got : stream.recv n = .failed err) :
    ∃ messages, stream = .finite messages (.failed err) ∧ messages = stream.first n := by
  cases stream with
  | unbounded message => cases got
  | finite messages ending =>
    cases next : messages[n]? with
    | some msg => simp [Messages.recv, next] at got
    | none =>
      have past : messages.length ≤ n := List.getElem?_eq_none_iff.mp next
      cases ending with
      | eof => simp [Messages.recv, next] at got
      | failed other =>
        have same : other = err := by simpa [Messages.recv, next] using got
        subst same
        exact ⟨messages, rfl, (List.take_of_length_le past).symm⟩
      | «open» => simp [Messages.recv, next] at got

/-! ### What a handler has done -/

variable (opened : Except E (Messages M E)) (client : Nat → Sent E)

/-- So many `Send`s go through. -/
def Accepts (n : Nat) : Prop := ∀ i < n, client i = .ok

/-- So many messages have been taken, and all of them delivered. -/
structure Forwarded (stream : Messages M E) (n : Nat) (h : Handler M E) : Prop where
  opened : opened = .ok stream
  has : stream.Has n
  accepts : Accepts client n
  delivered : h.delivered = stream.first n

/-- Why a handler returns an error. -/
inductive Failed (err : E) (h : Handler M E) : Prop
  | opening (failed : opened = .error err) (idle : h.delivered = [])
  | backend (messages : List M) (ended : opened = .ok (.finite messages (.failed err)))
      (whole : h.delivered = messages)
  | client (stream : Messages M E) (n : Nat) (forwarded : Forwarded opened client stream n h)
      (more : stream.Has (n + 1)) (refused : client n = .failed err) (taken : h.taken = n + 1)

/-- What a handler has taken and sent, by where it stands. -/
def Follows (h : Handler M E) : Prop :=
  match h.phase with
  | .opening => h.taken = 0 ∧ h.delivered = []
  | .receiving stream => Forwarded opened client stream h.taken h
  | .sending stream msg =>
    ∃ n, h.taken = n + 1 ∧ Forwarded opened client stream n h ∧ stream.Has (n + 1) ∧
      stream.first (n + 1) = stream.first n ++ [msg]
  | .returned none =>
    ∃ messages, opened = .ok (.finite messages .eof) ∧ Accepts client messages.length ∧
      h.delivered = messages
  | .returned (some err) => Failed opened client err h

variable {opened client} {h : Handler M E}

/-- The next message, once it has gone through. -/
theorem Forwarded.next {stream : Messages M E} {n : Nat} {msg : M}
    (forwarded : Forwarded opened client stream n h) (has : stream.Has (n + 1))
    (last : stream.first (n + 1) = stream.first n ++ [msg]) (sent : client n = .ok) :
    Forwarded opened client stream (n + 1)
      { h with phase := .receiving stream, delivered := h.delivered ++ [msg] } := by
  refine ⟨forwarded.opened, has, fun i below => ?_, ?_⟩
  · rcases Nat.lt_succ_iff_lt_or_eq.mp below with before | rfl
    · exact forwarded.accepts i before
    · exact sent
  · rw [last, ← forwarded.delivered]

theorem Forwarded.length {stream : Messages M E} {n : Nat}
    (forwarded : Forwarded opened client stream n h) : h.delivered.length = n := by
  rw [forwarded.delivered]
  exact length_first forwarded.has

/-- Every call keeps a handler where it should be. -/
theorem follows_forward (follows : Follows opened client h) :
    Follows opened client (forward opened client h) := by
  obtain ⟨phase, taken, delivered⟩ := h
  cases phase with
  | opening =>
    obtain ⟨rfl, rfl⟩ : taken = 0 ∧ delivered = [] := follows
    cases result : opened with
    | error err => exact Failed.opening rfl rfl
    | ok stream =>
      refine ⟨rfl, ?_, fun i below => absurd below (Nat.not_lt_zero i), (first_zero stream).symm⟩
      cases stream with
      | finite messages ending => exact Nat.zero_le _
      | unbounded message => trivial
  | receiving stream =>
    have forwarded : Forwarded opened client stream taken ⟨.receiving stream, taken, delivered⟩ :=
      follows
    unfold forward
    cases got : stream.recv taken with
    | pending =>
      simp only [got]
      exact forwarded
    | message msg =>
      simp only [got]
      obtain ⟨has, last⟩ := recv_message got
      exact ⟨taken, rfl, ⟨forwarded.1, forwarded.2, forwarded.3, forwarded.4⟩, has, last⟩
    | eof =>
      simp only [got]
      obtain ⟨messages, rfl, whole⟩ := recv_eof got
      have all : messages.length = taken := by
        rw [whole]
        exact length_first forwarded.has
      refine ⟨messages, forwarded.opened, ?_, forwarded.delivered.trans whole.symm⟩
      rw [all]
      exact forwarded.accepts
    | failed err =>
      simp only [got]
      obtain ⟨messages, rfl, whole⟩ := recv_failed got
      exact Failed.backend messages forwarded.opened (forwarded.delivered.trans whole.symm)
  | sending stream msg =>
    obtain ⟨n, rfl, forwarded, has, last⟩ := follows
    have here : delivered.length = n := forwarded.length
    unfold forward
    cases sent : client delivered.length with
    | pending =>
      exact ⟨n, rfl, forwarded, has, last⟩
    | ok =>
      rw [here] at sent
      have next := forwarded.next has last sent
      exact ⟨next.1, next.2, next.3, next.4⟩
    | failed err =>
      rw [here] at sent
      exact Failed.client stream n ⟨forwarded.1, forwarded.2, forwarded.3, forwarded.4⟩ has sent rfl
  | returned err => exact follows

theorem after_succ (n : Nat) : after opened client (n + 1) = forward opened client (after opened client n) :=
  Function.iterate_succ_apply' _ _ _

/-- **Every handler follows its backend and its client**, at every moment. -/
theorem follows_after (n : Nat) : Follows opened client (after opened client n) := by
  induction n with
  | zero => exact ⟨rfl, rfl⟩
  | succ n ih =>
    rw [after_succ]
    exact follows_forward ih

/-! ### How far a handler gets -/

/-- A handler that has returned stays as it is. -/
theorem returned_stays {n : Nat} {err : Option E}
    (done : (after opened client n).phase = .returned err) (k : Nat) :
    after opened client (n + k) = after opened client n := by
  induction k with
  | zero => rfl
  | succ k ih =>
    rw [← Nat.add_assoc, after_succ, ih]
    unfold forward
    rw [done]

/-- Messages that are there and go through are forwarded, two calls each. -/
theorem after_forwarded {stream : Messages M E} (ready : opened = .ok stream) {n : Nat}
    (has : stream.Has n) (accepts : Accepts client n) :
    after opened client (2 * n + 1) = ⟨.receiving stream, n, stream.first n⟩ := by
  induction n with
  | zero =>
    rw [after_succ, first_zero]
    show forward opened client .init = _
    rw [ready]
    rfl
  | succ n ih =>
    have before := ih (has.mono (Nat.le_succ n)) fun i below => accepts i (Nat.lt_succ_of_lt below)
    obtain ⟨msg, got⟩ := recv_has has
    have last := (recv_message got).2
    have long : (stream.first n).length = n := length_first (has.mono (Nat.le_succ n))
    have taken : after opened client (2 * n + 2) = ⟨.sending stream msg, n + 1, stream.first n⟩ := by
      rw [after_succ, before]
      simp only [forward, got]
    have sent := accepts n (Nat.lt_succ_self n)
    show after opened client ((2 * n + 2) + 1) = _
    rw [after_succ, taken]
    simp only [forward, long, sent, last]

/-- One more message: the handler is in its `Send`. -/
theorem after_sending {stream : Messages M E} (ready : opened = .ok stream) {n : Nat}
    (has : stream.Has (n + 1)) (accepts : Accepts client n) :
    ∃ msg, after opened client (2 * n + 2) = ⟨.sending stream msg, n + 1, stream.first n⟩ := by
  obtain ⟨msg, got⟩ := recv_has has
  refine ⟨msg, ?_⟩
  rw [after_succ, after_forwarded ready (has.mono (Nat.le_succ n)) accepts]
  simp only [forward, got]

/-- Once a stream has been forwarded to its end, the handler returns what ended it. -/
theorem after_ended {messages : List M} {ending : Ending E}
    (ready : opened = .ok (.finite messages ending)) (accepts : Accepts client messages.length) :
    after opened client (2 * messages.length + 2) =
      match ending with
      | .eof => ⟨.returned none, messages.length, messages⟩
      | .failed err => ⟨.returned (some err), messages.length, messages⟩
      | .open => ⟨.receiving (.finite messages .open), messages.length, messages⟩ := by
  have whole : (Messages.finite messages ending).first messages.length = messages :=
    List.take_length
  rw [after_succ, after_forwarded ready (le_refl messages.length) accepts, whole]
  cases ending <;> simp [forward, Messages.recv]

/-! ### Faithful forwarding -/

/-- What a handler owes its two ends. -/
structure Faithful (opened : Except E (Messages M E)) (client : Nat → Sent E)
    (run : Nat → Handler M E) : Prop where
  /-- what is delivered is a prefix of the backend's messages -/
  inOrder : ∀ n, (run n).delivered = [] ∨
    ∃ stream, opened = .ok stream ∧ stream.Has (run n).delivered.length ∧
      (run n).delivered = stream.first (run n).delivered.length
  /-- and stays delivered -/
  grows : ∀ n, (run n).delivered <+: (run (n + 1)).delivered
  /-- at most one message is taken ahead -/
  keepsUp : ∀ n, (run n).taken ≤ (run n).delivered.length + 1
  /-- it returns nil exactly for a stream that ends and goes through whole -/
  nil : (∃ n, (run n).phase = .returned none) ↔
    ∃ messages, opened = .ok (.finite messages .eof) ∧ Accepts client messages.length
  /-- with all messages sent -/
  nilWhole : ∀ n, (run n).phase = .returned none →
    opened = .ok (.finite (run n).delivered .eof)
  /-- a backend that cannot be opened -/
  openFailed : ∀ err, opened = .error err →
    ∃ n, (run n).phase = .returned (some err) ∧ (run n).delivered = []
  /-- a backend that ends with an error -/
  backendFailed : ∀ messages err, opened = .ok (.finite messages (.failed err)) →
    Accepts client messages.length →
    ∃ n, run n = ⟨.returned (some err), messages.length, messages⟩
  /-- a `Send` that fails, with the earlier messages delivered and no further one taken -/
  sendFailed : ∀ stream n err, opened = .ok stream → stream.Has (n + 1) → Accepts client n →
    client n = .failed err →
    ∃ k, ∀ later, run (k + later) = ⟨.returned (some err), n + 1, stream.first n⟩
  /-- no error comes from anywhere else -/
  noOther : ∀ n err, (run n).phase = .returned (some err) → Failed opened client err (run n)

/-- A call takes nothing back. -/
theorem forward_grows (h : Handler M E) : h.delivered <+: (forward opened client h).delivered := by
  obtain ⟨phase, taken, delivered⟩ := h
  unfold forward
  cases phase with
  | opening => cases opened <;> exact List.prefix_refl _
  | receiving stream =>
    cases got : stream.recv taken <;> simp only [got] <;> exact List.prefix_refl _
  | sending stream msg =>
    cases sent : client delivered.length with
    | pending => exact List.prefix_refl _
    | ok => exact List.prefix_append _ _
    | failed err => exact List.prefix_refl _
  | returned err => exact List.prefix_refl _

/-- How far the messages taken are ahead of those delivered. -/
def Ahead (h : Handler M E) : Prop :=
  match h.phase with
  | .opening | .receiving _ => h.taken = h.delivered.length
  | .sending _ _ => h.taken = h.delivered.length + 1
  | .returned _ => h.taken ≤ h.delivered.length + 1

theorem ahead_forward {h : Handler M E} (ahead : Ahead h) : Ahead (forward opened client h) := by
  obtain ⟨phase, taken, delivered⟩ := h
  unfold forward
  cases phase with
  | opening =>
    obtain rfl : taken = delivered.length := ahead
    cases opened with
    | error err => exact Nat.le_succ _
    | ok stream => rfl
  | receiving stream =>
    obtain rfl : taken = delivered.length := ahead
    cases got : stream.recv delivered.length with
    | message msg => simp only [got]; rfl
    | eof => simp only [got]; exact Nat.le_succ _
    | failed err => simp only [got]; exact Nat.le_succ _
    | pending => simp only [got]; rfl
  | sending stream msg =>
    obtain rfl : taken = delivered.length + 1 := ahead
    cases sent : client delivered.length with
    | pending => rfl
    | ok =>
      show delivered.length + 1 = (delivered ++ [msg]).length
      rw [List.length_append]
      rfl
    | failed err => exact le_refl _
  | returned err => exact ahead

theorem ahead_after (n : Nat) : Ahead (after opened client n) := by
  induction n with
  | zero => rfl
  | succ n ih =>
    rw [after_succ]
    exact ahead_forward ih

/-- What has been delivered are first messages of the backend. -/
theorem Follows.delivered (follows : Follows opened client h) :
    h.delivered = [] ∨ ∃ stream n, opened = .ok stream ∧ stream.Has n ∧
      h.delivered = stream.first n := by
  obtain ⟨phase, taken, delivered⟩ := h
  have forwardedCase : ∀ {stream : Messages M E} {n : Nat},
      Forwarded opened client stream n ⟨phase, taken, delivered⟩ →
      ∃ stream n, opened = .ok stream ∧ stream.Has n ∧ delivered = stream.first n :=
    fun forwarded => ⟨_, _, forwarded.opened, forwarded.has, forwarded.delivered⟩
  cases phase with
  | opening => exact Or.inl follows.2
  | receiving stream => exact Or.inr (forwardedCase follows)
  | sending stream msg =>
    obtain ⟨n, _, forwarded, _⟩ := follows
    exact Or.inr (forwardedCase forwarded)
  | returned err =>
    cases err with
    | none =>
      obtain ⟨messages, ended, _, whole⟩ := follows
      refine Or.inr ⟨_, messages.length, ended, le_refl _, whole.trans ?_⟩
      exact List.take_length.symm
    | some err =>
      cases follows with
      | opening failed idle => exact Or.inl idle
      | backend messages ended whole =>
        refine Or.inr ⟨_, messages.length, ended, le_refl _, whole.trans ?_⟩
        exact List.take_length.symm
      | client stream n forwarded more refused taken => exact Or.inr (forwardedCase forwarded)

/-- Every run of the loop is faithful. -/
theorem after_faithful (opened : Except E (Messages M E)) (client : Nat → Sent E) :
    Faithful opened client (after opened client) where
  inOrder n := by
    have follows : Follows opened client (after opened client n) := follows_after n
    rcases follows.delivered with nothing | ⟨stream, k, ready, has, first⟩
    · exact Or.inl nothing
    · have long : (after opened client n).delivered.length = k := by
        rw [first]
        exact length_first has
      refine Or.inr ⟨stream, ready, ?_, ?_⟩
      · rw [long]
        exact has
      · rw [long]
        exact first
  grows n := by
    rw [after_succ]
    exact forward_grows _
  keepsUp n := by
    have ahead : Ahead (after opened client n) := ahead_after n
    unfold Ahead at ahead
    split at ahead <;> omega
  nil := by
    constructor
    · rintro ⟨n, done⟩
      have follows : Follows opened client (after opened client n) := follows_after n
      unfold Follows at follows
      rw [done] at follows
      obtain ⟨messages, ended, accepts, _⟩ := follows
      exact ⟨messages, ended, accepts⟩
    · rintro ⟨messages, ended, accepts⟩
      refine ⟨2 * messages.length + 2, ?_⟩
      rw [after_ended ended accepts]
  nilWhole n done := by
    have follows : Follows opened client (after opened client n) := follows_after n
    unfold Follows at follows
    rw [done] at follows
    obtain ⟨messages, ended, _, whole⟩ := follows
    rw [whole]
    exact ended
  openFailed err failed := by
    refine ⟨1, ?_⟩
    rw [after_succ, failed]
    exact ⟨rfl, rfl⟩
  backendFailed messages err ended accepts := ⟨_, after_ended ended accepts⟩
  sendFailed stream n err ready has accepts refused := by
    obtain ⟨msg, sending⟩ := after_sending ready has accepts
    have long : (stream.first n).length = n := length_first (has.mono (Nat.le_succ n))
    have done : after opened client (2 * n + 3) = ⟨.returned (some err), n + 1, stream.first n⟩ := by
      rw [after_succ, sending]
      simp only [forward, long, refused]
    refine ⟨2 * n + 3, fun later => ?_⟩
    have returned : (after opened client (2 * n + 3)).phase = .returned (some err) := by rw [done]
    rw [returned_stays returned later, done]
  noOther n err done := by
    have follows : Follows opened client (after opened client n) := follows_after n
    unfold Follows at follows
    rw [done] at follows
    exact follows

/-- **Each of the four handlers forwards its own stream faithfully**: the one the backend opens for its
RPC, under the forwarded trace context and with the request as it came. -/
theorem handlers_faithful {Q : Type} (backend : Streams Q M E) (incoming : Option Metadata) (req : Q)
    (srv : Nat → Sent E) (rpc : Rpc) :
    Faithful (backend rpc (forwardTraceContext incoming {}) req) srv
      (handler backend incoming req srv rpc) := by
  cases rpc <;> exact after_faithful _ _

end SpicedbEmbedded.Proxy
