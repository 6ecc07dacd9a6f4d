/-
**The boundary as a caller sees it.**

A raw call is `Transparent` when the library receives exactly the caller's request and the caller gets
exactly the library's answer, or when the binding raises before it enters the library.

* `Binding.Refuses`, `Binding.PassesLength` and `Binding.Keeps` — which calls a binding raises on by
  itself, whether the length of a request goes into the library as it is, and which answers come out of
  it as they are.
* **`transparent_iff`** — a raw call is transparent exactly when the binding refuses it, or passes its
  length and keeps its answer.
-/

import Mathlib.Data.List.TakeDrop
import Mathlib.Data.List.TakeWhile
import SpicedbEmbedded.Ffi.CopyOut

namespace SpicedbEmbedded.Ffi

open Machine Prog

/-! ### The property, and the condition -/

section Transparency

variable {Conn Msg : Type} (native : Native Conn Msg) (host : Host)

/-- The binding raises without entering the library, or the library receives the request and the caller
gets the answer. -/
def Transparent (b : Binding) (handle : UInt64) (method : Method) (trace : Trace)
    (request : b.Bytes) : Prop :=
  ∀ m : Memory, ∃ result n, b.rawCall native host handle method trace request m = .ok (result, n) ∧
    ((n.received = m.received ∧ ∃ text, result = .error text) ∨
      (n.received = m.received ++ [request.val] ∧
        result = native.answer handle method trace request.val))

/-- The strings of a trace context that are there. -/
def Trace.texts (trace : Trace) : List String :=
  trace.traceparent.toList ++ trace.tracestate.toList

/-- The conversions on the way in raise: on a request too long or a text with a NUL in Rust, on a text
that is not ASCII in Python, on a length koffi rejects in Node. -/
def Binding.Refuses (trace : Trace) (length : Nat) : Binding → Prop
  | .rust => 2 ^ 31 ≤ length ∨ ∃ text ∈ trace.texts, '\x00' ∈ text.toList
  | .python => ∃ text ∈ trace.texts, ∃ c ∈ text.toList, 128 ≤ c.toNat
  | .java | .csharp => False
  | .node => ∃ err, host.koffiInt length = .error err

/-- The C int the library is given is the length itself. -/
def Binding.PassesLength (length : Nat) : Binding → Prop
  | .rust | .java | .csharp => True
  | .python => length < 2 ^ 31
  | .node => host.koffiInt length = .ok length

/-- An answer the binding passes on as it is: a text without a NUL, in Node not empty either; a response
whose length is a C int, that the runtime can hold and, in Node, that can be mapped if it is not all
zeros. -/
def Binding.Keeps (b : Binding) : Except String (List UInt8) → Prop
  | .error text => '\x00' ∉ text.toList ∧ (b = .node → text ≠ "")
  | .ok bytes =>
    bytes.length < 2 ^ 31 ∧ (b.Managed → bytes.length ≤ host.maxArray) ∧
      (b = .node → host.koffiPointer = .external false → ∀ byte ∈ bytes, byte = 0)

end Transparency

/-! ### Texts and lengths -/

/-- A response is copied to its end exactly when its length is a C int. -/
theorem length_le_toNat_cInt {n : Nat} : n ≤ (cInt n).toNat ↔ n < 2 ^ 31 := by
  constructor
  · intro whole
    have bound := cInt_le n
    by_cases negative : cInt n < 0
    · have zero : n = 0 := by omega
      omega
    · exact cInt_eq_iff.mp (by omega)
  · intro small
    have same := cInt_of_lt small
    omega

theorem take_cInt {bytes : List UInt8} :
    bytes.take (cInt bytes.length).toNat = bytes ↔ bytes.length < 2 ^ 31 := by
  rw [List.take_eq_self_iff]
  exact length_le_toNat_cInt

theorem replicate_cInt {bytes : List UInt8} :
    List.replicate (cInt bytes.length).toNat 0 = bytes ↔
      bytes.length < 2 ^ 31 ∧ ∀ byte ∈ bytes, byte = 0 := by
  rw [eq_comm, List.eq_replicate_iff]
  refine and_congr_left fun _ => ?_
  rw [← length_le_toNat_cInt]
  have bound := toNat_cInt_le bytes.length
  omega

/-! ### Results -/

section Results

variable (host : Host)

theorem error_inj {text other : String} :
    (Except.error text : Except String (List UInt8)) = .error other ↔ text = other :=
  ⟨fun same => Except.error.inj same, congrArg _⟩

theorem ok_inj {bytes other : List UInt8} :
    (Except.ok bytes : Except String (List UInt8)) = .ok other ↔ bytes = other :=
  ⟨fun same => Except.ok.inj same, congrArg _⟩

/-- What keeping a response asks of the bindings other than Node. -/
theorem keeps_ok_iff {b : Binding} (other : b ≠ .node) {bytes : List UInt8} :
    b.Keeps host (.ok bytes) ↔ bytes.length < 2 ^ 31 ∧ (b.Managed → bytes.length ≤ host.maxArray) :=
  and_congr_right fun _ => and_iff_left fun node => absurd node other

theorem managed_result_eq_iff {b : Binding} (managed : b.Managed) (bytes : List UInt8) :
    b.result host (.ok bytes) = .ok bytes ↔ b.Keeps host (.ok bytes) := by
  have other : b ≠ .node := by
    rintro rfl
    exact managed
  have same : b.result host (.ok bytes) =
      if host.maxArray < (cInt bytes.length).toNat then .error host.outOfMemory
      else .ok (bytes.take (cInt bytes.length).toNat) := by
    cases b <;> first | rfl | cases managed
  rw [same, keeps_ok_iff host other, forall_prop_of_true managed]
  by_cases long : host.maxArray < (cInt bytes.length).toNat
  · rw [if_pos long]
    refine iff_of_false nofun fun kept => ?_
    have whole := length_le_toNat_cInt.mpr kept.1
    have bound := toNat_cInt_le bytes.length
    omega
  · rw [if_neg long, ok_inj, take_cInt]
    refine ⟨fun small => ⟨small, ?_⟩, And.left⟩
    have whole := length_le_toNat_cInt.mpr small
    omega

theorem node_result_eq_iff (bytes : List UInt8) :
    Binding.node.result host (.ok bytes) = .ok bytes ↔ Binding.node.Keeps host (.ok bytes) := by
  have kept : Binding.node.Keeps host (.ok bytes) ↔
      bytes.length < 2 ^ 31 ∧ (host.koffiPointer = .external false → ∀ byte ∈ bytes, byte = 0) :=
    and_congr_right fun _ => (and_iff_right nofun).trans (forall_prop_of_true rfl)
  rw [kept]
  show Except.ok (Binding.nodeBytes host bytes (cInt bytes.length).toNat) = .ok bytes ↔ _
  rw [ok_inj, Binding.nodeBytes]
  by_cases lost : host.koffiPointer = .external false
  · rw [if_pos lost, forall_prop_of_true lost]
    exact replicate_cInt
  · rw [if_neg lost, and_iff_left fun mapped => absurd mapped lost]
    exact take_cInt

/-- **The result of an answer is the answer exactly when the binding keeps it.** -/
theorem result_eq_iff (b : Binding) (answer : Except String (List UInt8)) :
    b.result host answer = answer ↔ b.Keeps host answer := by
  cases answer with
  | error text =>
    cases b with
    | rust | python | java | csharp =>
      rw [Binding.Keeps, and_iff_left nofun, ← cut_eq_self]
      exact error_inj
    | node =>
      rw [Binding.Keeps, forall_prop_of_true rfl, ← cut_eq_self]
      show (if cut text = "" then (Except.ok [] : Except String (List UInt8))
        else .error (cut text)) = .error text ↔ _
      by_cases blank : cut text = ""
      · rw [if_pos blank]
        refine iff_of_false nofun fun kept => kept.2 ?_
        rw [← kept.1, blank]
      · rw [if_neg blank, error_inj]
        exact ⟨fun same => ⟨same, fun empty => blank (same.trans empty)⟩, And.left⟩
  | ok bytes =>
    cases b with
    | rust =>
      rw [keeps_ok_iff (b := .rust) host nofun, and_iff_left nofun]
      show (if cInt bytes.length < 0 then Except.error ("FFI returned negative response length: " ++
          toString (cInt bytes.length)) else .ok (bytes.take (cInt bytes.length).toNat)) =
        .ok bytes ↔ _
      by_cases negative : cInt bytes.length < 0
      · rw [if_pos negative]
        refine iff_of_false nofun fun small => ?_
        have same := cInt_of_lt small
        omega
      · rw [if_neg negative, ok_inj]
        exact take_cInt
    | python =>
      rw [keeps_ok_iff (b := .python) host nofun, and_iff_left nofun]
      exact ok_inj.trans take_cInt
    | java => exact managed_result_eq_iff (b := .java) host trivial bytes
    | csharp => exact managed_result_eq_iff (b := .csharp) host trivial bytes
    | node => exact node_result_eq_iff host bytes

end Results

/-! ### Arguments -/

/-- A conversion of a string that is there or not: it raises on a bad one, and leaves any other as it
is. -/
def Screens (convert : Option String → Except String (Option String)) (bad : String → Prop) : Prop :=
  ∀ value, ((∃ text ∈ value, bad text) ∧ ∃ err, convert value = .error err) ∨
    ((∀ text ∈ value, ¬ bad text) ∧ convert value = .ok value)

section Arguments

variable (host : Host)

theorem rustCStringOrNull_screens :
    Screens (rustCStringOrNull host) fun text => '\x00' ∈ text.toList := by
  intro value
  cases value with
  | none => exact Or.inr ⟨nofun, rfl⟩
  | some text =>
    by_cases nul : '\x00' ∈ text.toList
    · refine Or.inl ⟨⟨text, rfl, nul⟩, "contains a NUL byte: " ++ host.debug text, ?_⟩
      rw [rustCStringOrNull, rustCString, if_pos nul]
      rfl
    · refine Or.inr ⟨by simpa using nul, ?_⟩
      rw [rustCStringOrNull, rustCString, if_neg nul]
      rfl

theorem pythonEncode_screens :
    Screens (pythonEncode host) fun text => ∃ c ∈ text.toList, 128 ≤ c.toNat := by
  intro value
  cases value with
  | none => exact Or.inr ⟨nofun, rfl⟩
  | some text =>
    by_cases ascii : text.toList.all (·.toNat < 128)
    · refine Or.inr ⟨by simpa using ascii, ?_⟩
      rw [pythonEncode, if_pos ascii]
    · refine Or.inl ⟨⟨text, rfl, by simpa using ascii⟩, host.encodeError text, ?_⟩
      rw [pythonEncode, if_neg ascii]

/-- Both strings of a trace context, one after the other. -/
theorem screens_trace {convert : Option String → Except String (Option String)} {bad : String → Prop}
    (screens : Screens convert bad) (trace : Trace) {A : Type} (k : Trace → A) :
    ((∃ text ∈ trace.texts, bad text) ∧ ∃ err, (do
        let traceparent ← convert trace.traceparent
        let tracestate ← convert trace.tracestate
        pure (k ⟨traceparent, tracestate⟩)) = .error err) ∨
      ((¬ ∃ text ∈ trace.texts, bad text) ∧ (do
        let traceparent ← convert trace.traceparent
        let tracestate ← convert trace.tracestate
        pure (k ⟨traceparent, tracestate⟩)) = .ok (k trace)) := by
  rcases screens trace.traceparent with ⟨⟨text, there, isBad⟩, err, raised⟩ | ⟨goodParent, first⟩
  · refine Or.inl ⟨⟨text, ?_, isBad⟩, err, by rw [raised]; rfl⟩
    exact List.mem_append_left _ (Option.mem_toList.mpr there)
  rcases screens trace.tracestate with ⟨⟨text, there, isBad⟩, err, raised⟩ | ⟨goodState, second⟩
  · refine Or.inl ⟨⟨text, ?_, isBad⟩, err, by rw [first, raised]; rfl⟩
    exact List.mem_append_right _ (Option.mem_toList.mpr there)
  · refine Or.inr ⟨?_, by rw [first, second]; rfl⟩
    rintro ⟨text, there, isBad⟩
    rcases List.mem_append.mp there with parent | state
    · exact goodParent text (Option.mem_toList.mp parent) isBad
    · exact goodState text (Option.mem_toList.mp state) isBad

/-- What the conversions of a binding come to for a request. -/
structure Passed (b : Binding) (trace : Trace) (request : List UInt8) (args : Arguments) : Prop where
  trace : args.trace = trace
  buffer : args.buffer = request ∨ args.buffer = request ++ [0]
  len : args.len = request.length ↔ b.PassesLength host request.length

/-- **The conversions raise exactly on what a binding refuses**, and leave the trace context and the
request as they are otherwise. -/
theorem arguments_cases (b : Binding) (trace : Trace) (request : List UInt8) :
    (b.Refuses host trace request.length ∧ ∃ err, b.arguments host trace request = .error err) ∨
      (¬ b.Refuses host trace request.length ∧
        ∃ args, b.arguments host trace request = .ok args ∧ Passed host b trace request args) := by
  cases b with
  | rust =>
    by_cases small : request.length < 2 ^ 31
    · have fits : rustCInt request.length = .ok (request.length : Int) := if_pos small
      rcases screens_trace (rustCStringOrNull_screens host) trace
        (fun trace => (⟨trace, request, request.length⟩ : Arguments)) with
        ⟨bad, err, raised⟩ | ⟨good, passed⟩
      · refine Or.inl ⟨Or.inr bad, err, ?_⟩
        show (rustCInt request.length >>= _) = _
        rw [fits]
        exact raised
      · refine Or.inr ⟨?_, ⟨trace, request, request.length⟩, ?_, rfl, Or.inl rfl,
          iff_of_true rfl trivial⟩
        · rintro (long | bad)
          · omega
          · exact good bad
        · show (rustCInt request.length >>= _) = _
          rw [fits]
          exact passed
    · refine Or.inl ⟨Or.inl (Nat.not_lt.mp small), "request too large for FFI (exceeds c_int::MAX)", ?_⟩
      show (rustCInt request.length >>= _) = _
      rw [rustCInt, if_neg small]
      rfl
  | python =>
    rcases screens_trace (pythonEncode_screens host) trace
      (fun trace => (⟨trace, request ++ [0], cInt request.length⟩ : Arguments)) with
      ⟨bad, err, raised⟩ | ⟨good, passed⟩
    · exact Or.inl ⟨bad, err, raised⟩
    · exact Or.inr ⟨good, _, passed, rfl, Or.inr rfl, cInt_eq_iff⟩
  | java | csharp =>
    exact Or.inr ⟨id, _, rfl, rfl, Or.inl rfl, iff_of_true rfl trivial⟩
  | node =>
    cases passed : host.koffiInt request.length with
    | error err =>
      refine Or.inl ⟨⟨err, passed⟩, err, ?_⟩
      show (host.koffiInt request.length >>= _) = _
      rw [passed]
      rfl
    | ok len =>
      refine Or.inr ⟨?_, ⟨trace, request, len⟩, ?_, rfl, Or.inl rfl, ?_⟩
      · rintro ⟨err, raised⟩
        rw [passed] at raised
        cases raised
      · show (host.koffiInt request.length >>= _) = _
        rw [passed]
        rfl
      · show len = _ ↔ host.koffiInt request.length = _
        rw [passed]
        exact ⟨congrArg _, fun same => Except.ok.inj same⟩

variable {host} {b : Binding} {trace : Trace} {request : List UInt8} {args : Arguments}

/-- The library copies the request out of the buffer exactly when it is given its length. -/
theorem Passed.goBytes_iff (passed : Passed host b trace request args) :
    goBytes args.buffer args.len = some request ↔ b.PassesLength host request.length := by
  rw [← passed.len]
  constructor
  · intro copied
    unfold goBytes at copied
    split at copied
    · rename_i inside
      have taken : (args.buffer.take args.len.toNat).length = request.length :=
        congrArg List.length (Option.some.inj copied)
      rw [List.length_take] at taken
      omega
    · cases copied
  · intro same
    rcases passed.buffer with exact' | ended
    · rw [exact', same, goBytes, if_pos ⟨by omega, le_refl _⟩]
      simp
    · rw [ended, same, goBytes, if_pos ⟨by omega, by simp⟩]
      simp

end Arguments

/-! ### The condition is exact -/

section Transparency

variable {Conn Msg : Type} (native : Native Conn Msg) (host : Host)

/-- **A raw call is transparent exactly when its binding refuses it, or passes the length of the request
and keeps the answer.** -/
theorem transparent_iff (b : Binding) (handle : UInt64) (method : Method) (trace : Trace)
    (request : b.Bytes) :
    Transparent native host b handle method trace request ↔
      b.Refuses host trace request.val.length ∨
        (b.PassesLength host request.val.length ∧
          b.Keeps host (native.answer handle method trace request.val)) := by
  rcases arguments_cases host b trace request.val with
    ⟨refused, err, raised⟩ | ⟨goes, args, converted, passed⟩
  · refine iff_of_true (fun m => ?_) (Or.inl refused)
    exact ⟨_, m, rawCall_raises raised m, Or.inl ⟨rfl, err, rfl⟩⟩
  obtain rfl := passed.trace
  rw [or_iff_right goes, ← passed.goBytes_iff, ← result_eq_iff]
  constructor
  · intro transparent
    obtain ⟨result, n, ran, seen⟩ := transparent ⟨.empty, []⟩
    cases copied : goBytes args.buffer args.len with
    | none =>
      rw [rawCall_aborts converted copied] at ran
      cases ran
    | some received =>
      obtain ⟨k, went, given, _⟩ :=
        @rawCall_apply _ _ native host b handle method args.trace request args converted received copied
          ⟨.empty, []⟩
      rw [went] at ran
      cases ran
      rcases seen with ⟨nothing, _⟩ | ⟨all, same⟩
      · rw [given] at nothing
        simp at nothing
      · rw [given] at all
        have whole : received = request.val := by simpa using all
        subst whole
        exact ⟨rfl, same⟩
  · rintro ⟨copied, kept⟩ m
    obtain ⟨n, ran, given, _⟩ :=
      @rawCall_apply _ _ native host b handle method args.trace request args converted _ copied m
    exact ⟨_, n, ran, Or.inr ⟨given, kept⟩⟩

end Transparency

/-- A runtime in which koffi shows the response as a pointer that it cannot map. -/
def unmappableHost : Host := { plainHost with koffiPointer := .external false }

/-- Node returns a zero in place of the byte the library answers. -/
theorem unmappable_zeros :
    ¬ ∀ (native : Native Unit (List UInt8)) (host : Host) (b : Binding) (handle : UInt64)
      (method : Method) (trace : Trace) (request : b.Bytes),
      Transparent native host b handle method trace request := by
  intro transparent
  let empty : Memory := ⟨.empty, []⟩
  obtain ⟨result, n, ran, seen⟩ :=
    transparent echoNative unmappableHost .node 1 .readSchema {} ⟨[42], nofun⟩ empty
  obtain ⟨k, went, given, _⟩ := @rawCall_apply Unit (List UInt8) echoNative unmappableHost .node 1
    .readSchema {} ⟨[42], nofun⟩ ⟨{}, [42], 1⟩ rfl [42] rfl empty
  rw [went] at ran
  cases ran
  rcases seen with ⟨nothing, _⟩ | ⟨_, same⟩
  · rw [given] at nothing
    cases nothing
  · have zero : unmappableHost.koffiPointer = .external false := rfl
    have answered : echoNative.answer 1 .readSchema {} [42] = .ok [42] := rfl
    have mistaken : Binding.node.result unmappableHost (.ok [42]) = .ok [42] := by
      rw [← answered]
      exact same
    have all := ((result_eq_iff unmappableHost .node (.ok [42])).mp mistaken).2.2 rfl zero 42
      (List.mem_singleton_self 42)
    cases all

end SpicedbEmbedded.Ffi
