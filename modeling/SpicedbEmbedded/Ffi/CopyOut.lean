/-
**What a raw call makes of an answer.**

The library hands out an answer in three cells and at most one buffer (`deliver`); each binding reads
them in its own way. `Binding.result` says what comes of an answer, and `Binding.Releases` when nothing
of it stays allocated, with no cells or buffers in either.

* **`copyOut_comesTo`** — the program of each binding comes to that result, releases what was handed
  out exactly under that condition, and never reads or releases what it must not.
* **`rawCall_apply`** — the same of a whole raw call, by how its arguments are converted.
-/

import Mathlib.Tactic.SplitIfs
import SpicedbEmbedded.Ffi.Bindings

namespace SpicedbEmbedded.Ffi

open Machine Prog

/-! ### Lengths -/

theorem cInt_le (n : Nat) : cInt n ≤ n := by
  unfold cInt
  rw [Int.bmod_def]
  split <;> omega

theorem toNat_cInt_le (n : Nat) : (cInt n).toNat ≤ n := by
  have bound := cInt_le n
  omega

@[simp] theorem cInt_zero : cInt 0 = 0 := cInt_of_lt (by decide)

/-- A length is kept by the conversion exactly when it fits. -/
theorem cInt_eq_iff {n : Nat} : cInt n = n ↔ n < 2 ^ 31 := by
  refine ⟨fun same => ?_, cInt_of_lt⟩
  unfold cInt at same
  rw [Int.bmod_def] at same
  split at same <;> omega

/-! ### The primitives on what is there -/

section Primitives

variable {m : Memory} {p : Nat}

theorem readString_apply {text : String} (here : m.heap.live p = some (.str text)) :
    readString p m = .ok (.ok (cut text), m) := by
  simp only [readString, here]

theorem spicedbFree_apply {text : String} (here : m.heap.live p = some (.str text)) :
    spicedbFree p m = .ok (.ok (), { m with heap := m.heap.free p }) := by
  simp only [spicedbFree, here]

theorem readBytes_apply {bytes : List UInt8} (here : m.heap.live p = some (.bytes bytes)) {len : Nat}
    (inside : len ≤ bytes.length) : readBytes (some p) len m = .ok (.ok (bytes.take len), m) := by
  simp only [readBytes, Option.bind_some, here, if_pos inside]

theorem spicedbFreeBytes_apply {bytes : List UInt8} (here : m.heap.live p = some (.bytes bytes)) :
    spicedbFreeBytes (some p) m = .ok (.ok (), { m with heap := m.heap.free p }) := by
  simp only [spicedbFreeBytes, here]

end Primitives

/-! ### Results -/

namespace Binding

variable (host : Host)

/-- The copy Node makes of a buffer. -/
def nodeBytes (bytes : List UInt8) (len : Nat) : List UInt8 :=
  if host.koffiPointer = .external false then List.replicate len 0 else bytes.take len

/-- What a raw call returns or raises for an answer. -/
def result (b : Binding) : Except String (List UInt8) → Except String (List UInt8)
  | .error text =>
    match b with
    | .rust | .python | .java | .csharp => .error (cut text)
    | .node => if cut text = "" then .ok [] else .error (cut text)
  | .ok bytes =>
    let len := cInt bytes.length
    match b with
    | .rust =>
      if len < 0 then .error ("FFI returned negative response length: " ++ toString len)
      else .ok (bytes.take len.toNat)
    | .python => .ok (bytes.take len.toNat)
    | .java | .csharp =>
      if host.maxArray < len.toNat then .error host.outOfMemory else .ok (bytes.take len.toNat)
    | .node => .ok (nodeBytes host bytes len.toNat)

/-- The binding gets to the release of a buffer whose length it is told. -/
def Copies (b : Binding) (len : Int) : Prop :=
  match b with
  | .rust => 0 ≤ len
  | .python | .node => 0 < len
  | .java | .csharp => 0 < len ∧ len ≤ host.maxArray

/-- Nothing of the answer stays allocated. -/
def Releases (b : Binding) : Except String (List UInt8) → Prop
  | .error _ => b ≠ .node
  | .ok bytes => bytes = [] ∨ b.Copies host (cInt bytes.length)

end Binding

/-- A program that, in a memory where an answer has just been delivered, comes to a result and leaves
nothing of the answer exactly under a condition. -/
def ComesTo (x : Cells → Foreign (List UInt8)) (answer : Except String (List UInt8))
    (result : Except String (List UInt8)) (releases : Prop) : Prop :=
  ∀ m : Memory, ∃ n, x (deliver answer m).1 (deliver answer m).2 = .ok (result, n) ∧
    n.received = m.received ∧ (n.heap.live = m.heap.live ↔ releases)

section ComesTo

variable {x : Cells → Foreign (List UInt8)} {result : Except String (List UInt8)}

/-- An error that is read and released. -/
theorem comesTo_error {text : String}
    (ran : ∀ (p : Nat) (m : Memory), m.heap.live p = some (.str text) →
      x ⟨none, 0, some p⟩ m = .ok (result, { m with heap := m.heap.free p })) :
    ComesTo x (.error text) result True := fun m =>
  ⟨_, ran m.heap.next _ (m.heap.alloc_live_self _), rfl,
    iff_of_true (m.heap.free_alloc_live _) trivial⟩

/-- An error that is not released. -/
theorem comesTo_error_left {text : String}
    (ran : ∀ (p : Nat) (m : Memory), m.heap.live p = some (.str text) →
      x ⟨none, 0, some p⟩ m = .ok (result, m)) :
    ComesTo x (.error text) result False := fun m =>
  ⟨_, ran m.heap.next _ (m.heap.alloc_live_self _), rfl,
    iff_of_false (m.heap.alloc_live_ne _) id⟩

/-- An empty response. -/
theorem comesTo_empty (ran : ∀ m : Memory, x ⟨none, 0, none⟩ m = .ok (result, m)) :
    ComesTo x (.ok []) result True := by
  intro m
  have delivered : deliver (.ok []) m = (⟨none, 0, none⟩, m) := by simp [deliver]
  rw [delivered]
  exact ⟨m, ran m, rfl, iff_of_true rfl trivial⟩

variable {bytes : List UInt8}

/-- A response that is copied and released. -/
theorem comesTo_bytes (given : bytes ≠ [])
    (ran : ∀ (p : Nat) (m : Memory), m.heap.live p = some (.bytes bytes) →
      x ⟨some p, cInt bytes.length, none⟩ m = .ok (result, { m with heap := m.heap.free p })) :
    ComesTo x (.ok bytes) result True := by
  intro m
  have long : 0 < bytes.length := List.length_pos_iff.mpr given
  simp only [deliver, if_pos long]
  exact ⟨_, ran m.heap.next _ (m.heap.alloc_live_self _), rfl,
    iff_of_true (m.heap.free_alloc_live _) trivial⟩

/-- A response that is not released. -/
theorem comesTo_bytes_left (given : bytes ≠ [])
    (ran : ∀ (p : Nat) (m : Memory), m.heap.live p = some (.bytes bytes) →
      x ⟨some p, cInt bytes.length, none⟩ m = .ok (result, m)) :
    ComesTo x (.ok bytes) result False := by
  intro m
  have long : 0 < bytes.length := List.length_pos_iff.mpr given
  simp only [deliver, if_pos long]
  exact ⟨_, ran m.heap.next _ (m.heap.alloc_live_self _), rfl,
    iff_of_false (m.heap.alloc_live_ne _) id⟩

theorem ComesTo.congr {answer : Except String (List UInt8)} {left right : Prop}
    (comes : ComesTo x answer result left) (same : left ↔ right) : ComesTo x answer result right :=
  fun m => by
    rw [← same]
    exact comes m

end ComesTo

/-! ### The five copies -/

section Copies

variable (host : Host) {m : Memory} {p : Nat}

/-- An error text that is read, released and raised, with the release last. -/
theorem raiseFinally_apply {text : String} (here : m.heap.live p = some (.str text)) :
    (tryFinally (do let text ← readString p; raise text) (spicedbFree p) : Foreign (List UInt8)) m =
      .ok (.error (cut text), { m with heap := m.heap.free p }) := by
  refine tryFinally_apply ?_ (spicedbFree_apply here)
  simp only [bind_apply, readString_apply here, raise_apply]

theorem rust_comesTo (answer : Except String (List UInt8)) :
    ComesTo rustCopyOut answer (Binding.rust.result host answer)
      (Binding.rust.Releases host answer) := by
  cases answer with
  | error text =>
    refine (comesTo_error fun p m here => ?_).congr (iff_of_true trivial nofun)
    simp only [rustCopyOut, bind_apply, readString_apply here, spicedbFree_apply here, raise_apply,
      Binding.result]
  | ok bytes =>
    by_cases empty : bytes = []
    · subst empty
      refine (comesTo_empty fun m => ?_).congr (iff_of_true trivial (Or.inl rfl))
      simp [rustCopyOut, Binding.result, bind_apply, spicedbFreeBytes, -bind_pure_comp]
    · by_cases negative : cInt bytes.length < 0
      · refine (comesTo_bytes_left empty fun p m here => ?_).congr (iff_of_false id ?_)
        · simp only [rustCopyOut, if_pos negative, raise_apply, Binding.result]
        · simp only [Binding.Releases, Binding.Copies, empty, false_or]
          omega
      · refine (comesTo_bytes empty fun p m here => ?_).congr (iff_of_true trivial (Or.inr ?_))
        · simp only [rustCopyOut, if_neg negative, Binding.result]
          by_cases zero : (cInt bytes.length).toNat = 0
          · simp only [zero, if_true, bind_apply, pure_apply, spicedbFreeBytes_apply here,
              List.take_zero]
          · simp only [if_neg zero, bind_apply, readBytes_apply here (toNat_cInt_le _),
              spicedbFreeBytes_apply here, pure_apply]
        · exact Int.not_lt.mp negative

theorem python_comesTo (answer : Except String (List UInt8)) :
    ComesTo pythonCopyOut answer (Binding.python.result host answer)
      (Binding.python.Releases host answer) := by
  cases answer with
  | error text =>
    exact (comesTo_error fun p m here => raiseFinally_apply here).congr (iff_of_true trivial nofun)
  | ok bytes =>
    by_cases empty : bytes = []
    · subst empty
      refine (comesTo_empty fun m => ?_).congr (iff_of_true trivial (Or.inl rfl))
      simp [pythonCopyOut, Binding.result]
    · by_cases short : cInt bytes.length ≤ 0
      · refine (comesTo_bytes_left empty fun p m here => ?_).congr (iff_of_false id ?_)
        · simp only [pythonCopyOut, short, true_or, if_true, pure_apply, Binding.result,
            Int.toNat_of_nonpos short, List.take_zero]
        · simp only [Binding.Releases, Binding.Copies, empty, false_or]
          omega
      · refine (comesTo_bytes empty fun p m here => ?_).congr (iff_of_true trivial (Or.inr ?_))
        · have goes : ¬ (cInt bytes.length ≤ 0 ∨ some p = none) := by simp [short]
          simp only [pythonCopyOut, if_neg goes]
          exact tryFinally_apply (readBytes_apply here (toNat_cInt_le _))
            (spicedbFreeBytes_apply here)
        · exact Int.not_le.mp short

theorem managed_comesTo (b : Binding) (managed : b.Managed) (answer : Except String (List UInt8)) :
    ComesTo (managedCopy host) answer (b.result host answer) (b.Releases host answer) := by
  cases answer with
  | error text =>
    have same : b.result host (.error text) = .error (cut text) := by
      cases b <;> first | rfl | cases managed
    rw [same]
    refine (comesTo_error fun p m here => raiseFinally_apply here).congr (iff_of_true trivial ?_)
    rintro rfl
    exact managed
  | ok bytes =>
    have same : b.result host (.ok bytes) =
        if host.maxArray < (cInt bytes.length).toNat then .error host.outOfMemory
        else .ok (bytes.take (cInt bytes.length).toNat) := by
      cases b <;> first | rfl | cases managed
    have releases : b.Releases host (.ok bytes) ↔
        bytes = [] ∨ 0 < cInt bytes.length ∧ cInt bytes.length ≤ host.maxArray := by
      cases b <;> first | exact Iff.rfl | cases managed
    rw [same]
    by_cases empty : bytes = []
    · subst empty
      refine (comesTo_empty fun m => ?_).congr (iff_of_true trivial (Or.inl rfl))
      simp [managedCopy]
    · by_cases short : cInt bytes.length ≤ 0
      · refine (comesTo_bytes_left empty fun p m here => ?_).congr (iff_of_false id ?_)
        · simp only [managedCopy, short, true_or, if_true, pure_apply, Int.toNat_of_nonpos short,
            Nat.not_lt_zero, if_false, List.take_zero]
        · rw [releases]
          simp only [empty, false_or]
          omega
      · by_cases long : host.maxArray < (cInt bytes.length).toNat
        · refine (comesTo_bytes_left empty fun p m here => ?_).congr (iff_of_false id ?_)
          · simp only [managedCopy, short, false_or, reduceCtorEq, if_false, if_pos long,
              raise_apply]
          · rw [releases]
            simp only [empty, false_or]
            omega
        · refine (comesTo_bytes empty fun p m here => ?_).congr (iff_of_true trivial ?_)
          · simp only [managedCopy, short, false_or, reduceCtorEq, if_false, if_neg long,
              bind_apply, readBytes_apply here (toNat_cInt_le _), spicedbFreeBytes_apply here,
              pure_apply]
          · rw [releases]
            right
            omega

theorem nodeCopy_apply {bytes : List UInt8} (here : m.heap.live p = some (.bytes bytes)) {len : Nat}
    (inside : len ≤ bytes.length) :
    nodeCopy host (some p) len m = .ok (.ok (Binding.nodeBytes host bytes len), m) := by
  unfold nodeCopy Binding.nodeBytes
  cases host.koffiPointer with
  | buffer | uint8Array | arrayBufferView =>
    rw [if_neg nofun]
    exact readBytes_apply here inside
  | external mappable =>
    cases mappable with
    | true =>
      rw [if_neg (by decide)]
      exact readBytes_apply here inside
    | false => rfl

theorem node_comesTo (answer : Except String (List UInt8)) :
    ComesTo (nodeCopyOut host) answer (Binding.node.result host answer)
      (Binding.node.Releases host answer) := by
  cases answer with
  | error text =>
    refine (comesTo_error_left fun p m here => ?_).congr (iff_of_false id fun h => h rfl)
    simp only [nodeCopyOut, bind_apply, readString_apply here, Binding.result]
    by_cases blank : cut text = ""
    · simp [blank, nodeCopyOutAndFree]
    · simp only [if_neg blank, raise_apply]
  | ok bytes =>
    by_cases empty : bytes = []
    · subst empty
      refine (comesTo_empty fun m => ?_).congr (iff_of_true trivial (Or.inl rfl))
      simp [nodeCopyOut, nodeCopyOutAndFree, Binding.result, Binding.nodeBytes]
    · by_cases short : cInt bytes.length ≤ 0
      · refine (comesTo_bytes_left empty fun p m here => ?_).congr (iff_of_false id ?_)
        · simp [nodeCopyOut, nodeCopyOutAndFree, Binding.result, Binding.nodeBytes, if_pos short,
            Int.toNat_of_nonpos short]
        · simp only [Binding.Releases, Binding.Copies, empty, false_or]
          omega
      · refine (comesTo_bytes empty fun p m here => ?_).congr (iff_of_true trivial (Or.inr ?_))
        · simp only [nodeCopyOut, nodeCopyOutAndFree, if_neg short, reduceCtorEq, if_false,
            bind_apply, nodeCopy_apply host here (toNat_cInt_le _), spicedbFreeBytes_apply here,
            pure_apply, Binding.result]
        · exact Int.not_le.mp short

/-- **Every binding brings an answer to its result**, and releases what was handed out exactly under
its condition. -/
theorem copyOut_comesTo (b : Binding) (answer : Except String (List UInt8)) :
    ComesTo (b.copyOut host) answer (b.result host answer) (b.Releases host answer) := by
  cases b with
  | rust => exact rust_comesTo host answer
  | python => exact python_comesTo host answer
  | java => exact managed_comesTo host .java trivial answer
  | csharp => exact managed_comesTo host .csharp trivial answer
  | node => exact node_comesTo host answer

end Copies

/-! ### Raw calls -/

section RawCall

variable {Conn Msg : Type} (native : Native Conn Msg) (host : Host)

/-- What the library answers to a binding. -/
def Native.answer (handle : UInt64) (method : Method) (trace : Trace) (request : List UInt8) :
    Except String (List UInt8) :=
  native.answerExport handle request (.rpc (some method.fullName) trace.traceparent trace.tracestate)

/-- `spicedb_rpc` accepts the method of a binding's call. -/
theorem accepted (method : Method) :
    rpcMessages.lookup (goString (some method.fullName)) =
      some (.request method, .response method) := by
  rw [goString_fullName]
  exact rpcMessages_fullName method

theorem rpc_apply (handle : UInt64) (method : Method) (args : Arguments) (m : Memory) :
    native.rpc handle method args m =
      match goBytes args.buffer args.len with
      | none => .error .aborted
      | some received =>
        let delivered := deliver (native.answer handle method args.trace received)
          (m.receive received)
        .ok (.ok delivered.1, delivered.2) := by
  simp only [Native.rpc, spicedbRpc_eq native.toLibrary (accepted method)]
  cases goBytes args.buffer args.len <;> rfl

variable {native host} {b : Binding} {handle : UInt64} {method : Method} {trace : Trace}
  {request : b.Bytes}

/-- A call whose arguments cannot be converted raises, and does not enter the library. -/
theorem rawCall_raises {err : String} (refused : b.arguments host trace request.val = .error err)
    (m : Memory) :
    b.rawCall native host handle method trace request m = .ok (.error err, m) := by
  rw [Binding.rawCall_eq, refused]
  rfl

/-- A call with a length that is no length of its buffer takes the process down. -/
theorem rawCall_aborts {args : Arguments} (passed : b.arguments host trace request.val = .ok args)
    (beyond : goBytes args.buffer args.len = none) (m : Memory) :
    b.rawCall native host handle method trace request m = .error .aborted := by
  rw [Binding.rawCall_eq, passed]
  show ((native.rpc handle method args) >>= fun out => b.copyOut host out) m = _
  rw [bind_apply, rpc_apply, beyond]

/-- **Any other call brings the library's answer to its result.** -/
theorem rawCall_apply {args : Arguments} (passed : b.arguments host trace request.val = .ok args)
    {received : List UInt8} (copied : goBytes args.buffer args.len = some received) (m : Memory) :
    ∃ n, b.rawCall native host handle method trace request m =
        .ok (b.result host (native.answer handle method args.trace received), n) ∧
      n.received = m.received ++ [received] ∧
      (n.heap.live = m.heap.live ↔
        b.Releases host (native.answer handle method args.trace received)) := by
  obtain ⟨n, ran, kept, releases⟩ :=
    copyOut_comesTo host b (native.answer handle method args.trace received) (m.receive received)
  refine ⟨n, ?_, kept, releases⟩
  rw [Binding.rawCall_eq, passed]
  show ((native.rpc handle method args) >>= fun out => b.copyOut host out) m = _
  rw [bind_apply, rpc_apply, copied]
  exact ran

end RawCall

end SpicedbEmbedded.Ffi
