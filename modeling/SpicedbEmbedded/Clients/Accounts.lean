/-
**The clients of a process.**

A program starts clients, in any of the five languages, and closes them, in any order and as often
as it likes; starts may fail anywhere, and leave an instance behind where the binding has no cleanup
for it.

* `Process` — the library and the objects; `step` — a start, or a close of an object.
* `leak` — the handle a start leaves behind.
* `Accounted` — every registered instance belongs to one object that is open, or is a leftover.
* **`clients_accounted`** — so it is after every program, and no instance has been disposed of
  twice. With all objects closed the instances left are those that starts have left behind.
-/

import Mathlib.Data.List.Nodup
import SpicedbEmbedded.Clients.Bootstrap
import SpicedbEmbedded.Clients.Close
import SpicedbEmbedded.Machine.History

namespace SpicedbEmbedded.Clients.Accounts

open Machine
open Ffi (Binding)
open Start (World Steps Arguments Course course armed)

/-! ### Lists with keys -/

section Keys

variable {A B : Type*} {key : A → B}

/-- What is in a list after the entry of a key is replaced. -/
theorem mem_set_iff {entry new : A} (same : key new = key entry) :
    ∀ {entries : List A} {i : Nat}, (entries.map key).Nodup → entries[i]? = some entry →
      ∀ other, other ∈ entries.set i new ↔ other = new ∨ other ∈ entries ∧ key other ≠ key entry := by
  intro entries
  induction entries with
  | nil => intro i _ found; cases found
  | cons first rest ih =>
    intro i distinct found other
    obtain ⟨new_first, distinct⟩ := List.nodup_cons.mp distinct
    cases i with
    | zero =>
      cases found
      have apart : other ∈ rest → key other ≠ key entry := fun inside alike =>
        new_first (alike ▸ List.mem_map_of_mem inside)
      simp only [List.set_cons_zero, List.mem_cons]
      constructor
      · rintro (new | inside)
        · exact .inl new
        · exact .inr ⟨.inr inside, apart inside⟩
      · rintro (new | ⟨rfl | inside, differ⟩)
        · exact .inl new
        · exact absurd rfl differ
        · exact .inr inside
    | succ i =>
      have inside : entry ∈ rest := List.mem_of_getElem? found
      have apart : key first ≠ key entry := fun alike =>
        new_first (alike ▸ List.mem_map_of_mem inside)
      simp only [List.set_cons_succ, List.mem_cons, ih distinct found other]
      constructor
      · rintro (rfl | new | ⟨later, differ⟩)
        · exact .inr ⟨.inl rfl, apart⟩
        · exact .inl new
        · exact .inr ⟨.inr later, differ⟩
      · rintro (new | ⟨first | later, differ⟩)
        · exact .inr (.inl new)
        · exact .inl first
        · exact .inr (.inr ⟨later, differ⟩)

/-- Its keys are the same. -/
theorem map_set {entry new : A} (same : key new = key entry) {entries : List A} {i : Nat}
    (found : entries[i]? = some entry) : (entries.set i new).map key = entries.map key := by
  obtain ⟨inside, rfl⟩ := List.getElem?_eq_some_iff.mp found
  rw [List.map_set, same, ← List.map_set, List.set_getElem_self]

end Keys

/-! ### Clients -/

/-- An object that a start has returned. -/
structure Client where
  binding : Binding
  handle : Nat
  channelOpen : Bool
  flag : Bool
  /-- It has been dropped, or a close of it has been called. -/
  closed : Bool

/-- A new object; the Rust client has no channel. -/
def Client.opened (b : Binding) (handle : Nat) : Client := ⟨b, handle, b ≠ .rust, false, false⟩

/-- The close of a binding's object; a Rust object is dropped. -/
def closing : Binding → List Close.Statement
  | .rust => [.disposeUnread]
  | .python => Close.pythonClose
  | .java => Close.javaClose
  | .csharp => Close.csharpDispose
  | .node => Close.nodeClose

variable {D R : Type}

/-- An object, as its close finds it. -/
def Client.object (client : Client) (w : World D R) : Close.Object :=
  ⟨client.handle ∈ w.live, client.channelOpen, client.flag, w.disposed.count client.handle⟩

/-- An object after its close. -/
def Client.after (client : Client) (o : Close.Object) : Client :=
  ⟨client.binding, client.handle, o.channelOpen, o.flag, true⟩

/-- The library after a close that leaves its object so. -/
def settled (w : World D R) (handle : Nat) (after : Close.Object) : World D R :=
  if live : handle ∈ w.live then if after.registered then w else w.dropped handle live else w

/-- The objects of a program, and the library. -/
structure Process (D R : Type) where
  world : World D R
  clients : List Client

/-- What a program does: it starts an instance, on a datastore, or closes an object. -/
inductive Action (D R : Type)
  | start (b : Binding) (store : D) (steps : Steps D R) (args : Arguments R b)
  | close (client : Nat)

theorem none_handed (handle : Nat)
    (known : handle ∈ ([] : List Nat) ∨ handle ∈ ([] : List Nat)) : handle < 1 :=
  known.elim (absurd · List.not_mem_nil) (absurd · List.not_mem_nil)

/-- Before anything has been started. -/
def Process.init (store : D) : Process D R where
  world := ⟨1, [], [], store, [], none_handed⟩
  clients := []

/-- The start of an instance on a datastore. -/
def Process.start (p : Process D R) (b : Binding) (store : D) (steps : Steps D R)
    (args : Arguments R b) : Option (Process D R) :=
  match Start.start b steps args { p.world with store := store } with
  | .ok (.ok db, w) => some ⟨w, p.clients ++ [.opened b db.handle]⟩
  | .ok (.error _, w) => some ⟨w, p.clients⟩
  | .error _ => none

/-- The close of an object. A Rust object is gone once it is dropped. -/
def Process.close (p : Process D R) (i : Nat) : Option (Process D R) :=
  match p.clients[i]? with
  | none => none
  | some client =>
    if client.binding = .rust ∧ client.closed then none
    else
      let after := (Close.call (closing client.binding) (client.object p.world)).1
      some ⟨settled p.world client.handle after,
        p.clients.set i (client.after after)⟩

/-- One step of a program. -/
def step (p : Process D R) : Action D R → Option (Process D R)
  | .start b store steps args => p.start b store steps args
  | .close client => p.close client

/-- The handle a start leaves behind: the native start has succeeded, and a step fails that the
binding has no cleanup for. -/
def leak (p : Process D R) (action : Action D R) (_ : Process D R) : Option Nat :=
  match action with
  | .start b store steps args =>
    match steps.native, (course steps args store).failure with
    | .ok (), some (step, err) => if armed b step err then none else some p.world.next
    | _, _ => none
  | .close _ => none

/-! ### One close -/

/-- The close of an object that is open disposes of its handle and closes its channel. -/
theorem call_registered (b : Binding) (o : Close.Object) (registered : o.registered = true)
    (unset : o.flag = false) (plain : b = .rust → o.channelOpen = false) :
    (Close.call (closing b) o).1.registered = false ∧
      (Close.call (closing b) o).1.channelOpen = false ∧
      (Close.call (closing b) o).1.disposals = o.disposals + 1 := by
  obtain ⟨_, channelOpen, _, disposals⟩ := o
  cases registered
  cases unset
  cases b with
  | rust => exact ⟨rfl, plain rfl, rfl⟩
  | python | java | csharp | node => exact ⟨rfl, rfl, rfl⟩

/-- A close of an object whose handle is not registered disposes of nothing. -/
theorem call_unregistered (statements : List Close.Statement) (o : Close.Object)
    (gone : o.registered = false) :
    (Close.call statements o).1.registered = false ∧
      (Close.call statements o).1.disposals = o.disposals ∧
      (o.channelOpen = false → (Close.call statements o).1.channelOpen = false) := by
  induction statements generalizing o with
  | nil => exact ⟨gone, rfl, id⟩
  | cons statement rest ih =>
    have same : o.nativeDispose = (o, false) := by
      rw [Close.Object.nativeDispose, gone, if_neg Bool.false_ne_true]
    rw [Close.call]
    cases statement with
    | guard =>
      rw [Close.Statement.run]
      by_cases flag : o.flag = true
      · rw [if_pos flag]
        exact ⟨gone, rfl, id⟩
      · rw [if_neg flag]
        exact ih o gone
    | dispose =>
      rw [Close.Statement.run, same, if_neg Bool.false_ne_true]
      exact ⟨gone, rfl, id⟩
    | disposeUnread =>
      rw [Close.Statement.run, same]
      exact ih o gone
    | closeChannel =>
      obtain ⟨kept, count, shut⟩ := ih { o with channelOpen := false } gone
      exact ⟨kept, count, fun _ => shut rfl⟩
    | setFlag => exact ih { o with flag := true } gone

/-- **What the library knows of an object after a close is what the close made of it.** -/
theorem object_settled (client : Client) {w : World D R} (single : w.live.Nodup) :
    (client.after (Close.call (closing client.binding) (client.object w)).1).object
        (settled w client.handle (Close.call (closing client.binding) (client.object w)).1) =
      (Close.call (closing client.binding) (client.object w)).1 := by
  by_cases live : client.handle ∈ w.live
  · have erased : client.handle ∉ w.live.erase client.handle := single.not_mem_erase
    have counted : (w.disposed ++ [client.handle]).count client.handle =
        w.disposed.count client.handle + 1 := by
      rw [List.count_append, List.count_singleton_self]
    obtain ⟨binding, handle, channelOpen, flag, closed⟩ := client
    cases binding <;> cases flag <;>
      simp [closing, Close.pythonClose, Close.javaClose, Close.csharpDispose, Close.nodeClose, Close.call,
        Close.Statement.run, Close.Object.nativeDispose, Client.object, Client.after, settled, live,
        erased, counted]
  · obtain ⟨gone, same, _⟩ := call_unregistered (closing client.binding) (client.object w)
      (decide_eq_false live)
    rw [settled, dif_neg live, Client.object]
    generalize (Close.call (closing client.binding) (client.object w)).1 = after at gone same ⊢
    obtain ⟨_, channelOpen, flag, disposals⟩ := after
    cases gone
    cases same
    exact congrArg (Close.Object.mk · channelOpen flag _) (decide_eq_false live)

/-! ### The books -/

/-- Every registered instance belongs to one object that is open, or has been left behind; an object
that is closed has had its instance disposed of, once. -/
structure Accounted (p : Process D R) (leaked : List Nat) : Prop where
  owners : (p.clients.map Client.handle ++ leaked).Nodup
  single : p.world.live.Nodup
  once : p.world.disposed.Nodup
  gone : ∀ handle ∈ p.world.live, handle ∉ p.world.disposed
  registered : ∀ handle, handle ∈ p.world.live ↔
    (∃ client ∈ p.clients, client.handle = handle ∧ client.closed = false) ∨ handle ∈ leaked
  closed : ∀ client ∈ p.clients, client.closed = true →
    client.handle ∈ p.world.disposed ∧ client.channelOpen = false
  opened : ∀ client ∈ p.clients, client.closed = false → client.flag = false
  plain : ∀ client ∈ p.clients, client.binding = .rust → client.channelOpen = false

theorem init_accounted (store : D) : Accounted (.init store : Process D R) [] where
  owners := List.nodup_nil
  single := List.nodup_nil
  once := List.nodup_nil
  gone _ inside := by cases inside
  registered handle := by simp [Process.init]
  closed _ inside := by cases inside
  opened _ inside := by cases inside
  plain _ inside := by cases inside

section Books

variable {p q : Process D R} {leaked : List Nat}

/-- The next handle is nobody's. -/
theorem Accounted.next_unowned (accounted : Accounted p leaked) :
    p.world.next ∉ p.clients.map Client.handle ++ leaked := by
  obtain ⟨notLive, notGone⟩ := p.world.next_unknown
  intro owned
  rcases List.mem_append.mp owned with object | left
  · obtain ⟨client, inside, same⟩ := List.mem_map.mp object
    cases shut : client.closed with
    | true => exact notGone (same ▸ (accounted.closed client inside shut).1)
    | false => exact notLive ((accounted.registered _).mpr (.inl ⟨client, inside, same, shut⟩))
  · exact notLive ((accounted.registered _).mpr (.inr left))

/-- A new instance that its object owns. -/
theorem Accounted.open (accounted : Accounted p leaked) (b : Binding) {w : World D R}
    (live : w.live = p.world.next :: p.world.live) (disposed : w.disposed = p.world.disposed) :
    Accounted ⟨w, p.clients ++ [.opened b p.world.next]⟩ leaked := by
  obtain ⟨notLive, notGone⟩ := p.world.next_unknown
  refine ⟨?_, ?_, disposed ▸ accounted.once, ?_, fun handle => ?_, ?_, ?_, ?_⟩
  · have same : (p.clients ++ [Client.opened b p.world.next]).map Client.handle ++ leaked =
        p.clients.map Client.handle ++ p.world.next :: leaked := by
      rw [List.map_append, List.append_assoc]
      rfl
    rw [same, List.nodup_middle]
    exact List.nodup_cons.mpr ⟨accounted.next_unowned, accounted.owners⟩
  · rw [live]
    exact List.nodup_cons.mpr ⟨notLive, accounted.single⟩
  · rw [live, disposed]
    exact List.forall_mem_cons.mpr ⟨notGone, accounted.gone⟩
  · rw [live, List.mem_cons, accounted.registered handle]
    constructor
    · rintro (rfl | ⟨client, inside, owned⟩ | left)
      · exact .inl ⟨_, List.mem_append_right _ List.mem_cons_self, rfl, rfl⟩
      · exact .inl ⟨client, List.mem_append_left _ inside, owned⟩
      · exact .inr left
    · rintro (⟨client, inside, owned, unclosed⟩ | left)
      · rcases List.mem_append.mp inside with before | new
        · exact .inr (.inl ⟨client, before, owned, unclosed⟩)
        · cases List.mem_singleton.mp new
          exact .inl owned.symm
      · exact .inr (.inr left)
  all_goals intro client inside
  all_goals rcases List.mem_append.mp inside with before | new
  · rw [disposed]
    exact accounted.closed client before
  · cases List.mem_singleton.mp new
    exact fun shut => by cases shut
  · exact accounted.opened client before
  · cases List.mem_singleton.mp new
    exact fun _ => rfl
  · exact accounted.plain client before
  · cases List.mem_singleton.mp new
    exact fun same => decide_eq_false (not_not.mpr same)

/-- A new instance that is left behind. -/
theorem Accounted.leave (accounted : Accounted p leaked) {w : World D R}
    (live : w.live = p.world.next :: p.world.live) (disposed : w.disposed = p.world.disposed) :
    Accounted ⟨w, p.clients⟩ (leaked ++ [p.world.next]) := by
  obtain ⟨notLive, notGone⟩ := p.world.next_unknown
  refine ⟨?_, ?_, disposed ▸ accounted.once, ?_, fun handle => ?_, ?_, accounted.opened,
    accounted.plain⟩
  · rw [← List.append_assoc]
    refine List.nodup_append_comm.mp ?_
    exact List.nodup_cons.mpr ⟨accounted.next_unowned, accounted.owners⟩
  · rw [live]
    exact List.nodup_cons.mpr ⟨notLive, accounted.single⟩
  · rw [live, disposed]
    exact List.forall_mem_cons.mpr ⟨notGone, accounted.gone⟩
  · rw [live, List.mem_cons, accounted.registered handle, List.mem_append, List.mem_singleton,
      or_comm, or_assoc]
  · rw [disposed]
    exact accounted.closed

/-- A new instance that has been disposed of again. -/
theorem Accounted.drop (accounted : Accounted p leaked) {w : World D R}
    (live : w.live = p.world.live) (disposed : w.disposed = p.world.disposed ++ [p.world.next]) :
    Accounted ⟨w, p.clients⟩ leaked := by
  obtain ⟨notLive, notGone⟩ := p.world.next_unknown
  refine ⟨accounted.owners, live ▸ accounted.single, ?_, ?_, ?_, ?_, accounted.opened,
    accounted.plain⟩
  · rw [disposed]
    refine List.nodup_append_comm.mp ?_
    exact List.nodup_cons.mpr ⟨notGone, accounted.once⟩
  · rw [live, disposed]
    intro handle inside gone
    rcases List.mem_append.mp gone with before | new
    · exact accounted.gone handle inside before
    · exact notLive (List.mem_singleton.mp new ▸ inside)
  · rw [live]
    exact accounted.registered
  · intro client inside shut
    obtain ⟨gone, unheld⟩ := accounted.closed client inside shut
    rw [disposed]
    exact ⟨List.mem_append_left _ gone, unheld⟩

/-- **A start keeps the books**, and what it leaves behind goes on them. -/
theorem start_accounted (accounted : Accounted p leaked) {b : Binding} {store : D} {steps : Steps D R}
    {args : Arguments R b} (taken : p.start b store steps args = some q) :
    Accounted q (leaked ++ (leak p (.start b store steps args) q).toList) := by
  rw [Process.start] at taken
  cases started : steps.native with
  | error err =>
    rw [Start.start_refused args started] at taken
    cases taken
    rw [leak, started, Option.toList_none, List.append_nil]
    exact ⟨accounted.owners, accounted.single, accounted.once, accounted.gone, accounted.registered,
      accounted.closed, accounted.opened, accounted.plain⟩
  | ok done =>
    rw [Start.start_apply args started] at taken
    rcases failed : (course steps args store).failure with _ | ⟨step, err⟩
    · simp only [Course.result, Course.world, failed] at taken
      cases taken
      simp only [leak, started, failed, Option.toList_none, List.append_nil]
      exact accounted.open b rfl rfl
    · simp only [Course.result, Course.world, failed, World.cleaned] at taken
      by_cases cleans : armed b step err = true
      · rw [if_pos cleans] at taken
        cases taken
        simp only [leak, started, failed, cleans, if_true, Option.toList_none, List.append_nil]
        exact accounted.drop (List.erase_cons_head ..) rfl
      · rw [if_neg cleans] at taken
        cases taken
        simp only [leak, started, failed, cleans]
        exact accounted.leave rfl rfl

/-- An object that has been closed is on the books as before. -/
theorem Accounted.shut (accounted : Accounted p leaked) {i : Nat} {client : Client}
    (found : p.clients[i]? = some client) {after : Close.Object} (shut : after.channelOpen = false)
    {w : World D R} (single : w.live.Nodup) (once : w.disposed.Nodup)
    (gone : ∀ handle ∈ w.live, handle ∉ w.disposed)
    (live : ∀ handle, handle ∈ w.live ↔ handle ∈ p.world.live ∧ handle ≠ client.handle)
    (disposed : client.handle ∈ w.disposed)
    (grows : ∀ handle ∈ p.world.disposed, handle ∈ w.disposed) :
    Accounted ⟨w, p.clients.set i (client.after after)⟩ leaked := by
  have inside : client ∈ p.clients := List.mem_of_getElem? found
  have same : (client.after after).handle = client.handle := rfl
  have changed := mem_set_iff same accounted.owners.of_append_left found
  have unleaked : client.handle ∉ leaked := fun left =>
    List.disjoint_of_nodup_append accounted.owners (List.mem_map_of_mem inside) left
  refine ⟨?_, single, once, gone, fun handle => ?_, ?_, ?_, ?_⟩
  · dsimp only
    rw [map_set same found]
    exact accounted.owners
  · rw [live, accounted.registered handle]
    constructor
    · rintro ⟨⟨other, among, rfl, unclosed⟩ | left, differs⟩
      · exact .inl ⟨other, (changed other).mpr (.inr ⟨among, differs⟩), rfl, unclosed⟩
      · exact .inr left
    · rintro (⟨other, among, rfl, unclosed⟩ | left)
      · rcases (changed other).mp among with rfl | ⟨before, differs⟩
        · cases unclosed
        · exact ⟨.inl ⟨other, before, rfl, unclosed⟩, differs⟩
      · exact ⟨.inr left, fun owned => unleaked (owned ▸ left)⟩
  all_goals intro other among
  all_goals rcases (changed other).mp among with rfl | ⟨before, _⟩
  · exact fun _ => ⟨disposed, shut⟩
  · exact fun closed => (accounted.closed other before closed).imp_left (grows _)
  · exact fun unclosed => by cases unclosed
  · exact accounted.opened other before
  · exact fun _ => shut
  · exact accounted.plain other before

/-- **A close keeps the books**: of an open object it disposes of the instance, of a closed one of
nothing. -/
theorem close_accounted (accounted : Accounted p leaked) {i : Nat} (taken : p.close i = some q) :
    Accounted q leaked := by
  unfold Process.close at taken
  split at taken
  · cases taken
  · next client found =>
    have inside : client ∈ p.clients := List.mem_of_getElem? found
    split at taken
    · cases taken
    cases taken
    unfold settled
    cases closed : client.closed with
    | true =>
      obtain ⟨gone, unheld⟩ := accounted.closed client inside closed
      have absent : client.handle ∉ p.world.live := fun live => accounted.gone _ live gone
      obtain ⟨_, _, shut⟩ := call_unregistered (closing client.binding) (client.object p.world)
        (decide_eq_false absent)
      rw [dif_neg absent]
      refine accounted.shut found (shut unheld) accounted.single accounted.once accounted.gone
        (fun handle => ?_) gone fun _ => id
      refine (and_iff_left_of_imp fun live => ?_).symm
      rintro rfl
      exact absent live
    | false =>
      have live : client.handle ∈ p.world.live :=
        (accounted.registered _).mpr (.inl ⟨client, inside, rfl, closed⟩)
      obtain ⟨unregistered, shut, _⟩ := call_registered client.binding (client.object p.world)
        (decide_eq_true live) (accounted.opened client inside closed) (accounted.plain client inside)
      rw [dif_pos live, if_neg (by rw [unregistered]; exact Bool.false_ne_true)]
      have kept : ∀ handle, handle ∈ p.world.live.erase client.handle ↔
          handle ∈ p.world.live ∧ handle ≠ client.handle := fun handle =>
        accounted.single.mem_erase_iff.trans and_comm
      refine accounted.shut found shut (accounted.single.erase _) ?_ (fun handle still disposed => ?_)
        kept (List.mem_append_right _ List.mem_cons_self) fun _ => List.mem_append_left _
      · refine List.nodup_append_comm.mp (List.nodup_cons.mpr ⟨?_, accounted.once⟩)
        exact accounted.gone client.handle live
      · obtain ⟨before, differs⟩ := (kept handle).mp still
        rcases List.mem_append.mp disposed with earlier | now
        · exact accounted.gone handle before earlier
        · exact differs (List.mem_singleton.mp now)

end Books

/-! ### Programs -/

/-- **The books of a program.** After any starts and closes the registered instances are those of
the open objects, one each, and those that starts have left behind; no instance has been disposed of
twice. With all objects closed, those left behind are all that is registered. -/
theorem clients_accounted (store : D) {actions : List (Action D R)} {p : Process D R}
    (run : exec step (.init store) actions = some p) :
    Accounted p (history step leak (.init store) actions) ∧
      ((∀ client ∈ p.clients, client.closed = true) →
        p.world.live.Perm (history step leak (.init store) actions)) := by
  have books : Accounted p (history step leak (.init store) actions) := by
    refine exec_induction
      (fun actions p => Accounted p (history step leak (.init store) actions))
      (init_accounted store) ?_ actions p run
    intro actions action middle next before accounted taken
    rw [history_concat step leak before taken]
    cases action with
    | start b store steps args => exact start_accounted accounted taken
    | close i =>
      rw [leak, Option.toList_none, List.append_nil]
      exact close_accounted accounted taken
  refine ⟨books, fun shut => ?_⟩
  refine (List.perm_ext_iff_of_nodup books.single books.owners.of_append_right).mpr fun handle => ?_
  rw [books.registered handle, or_iff_right]
  rintro ⟨client, inside, _, unclosed⟩
  cases (shut client inside).symm.trans unclosed

/-- Python leaves an instance behind, and Node closes its own. -/
def leakAndClose : List (Action Unit Unit) :=
  [.start .python () Start.channelless ⟨none, none, nofun⟩,
    .start .node () Start.quick ⟨none, none, nofun⟩, .close 0]

theorem clients_accounted_leakAndClose :
    ∃ p, exec step (.init ()) leakAndClose = some p ∧ p.world.live.Perm [1] := by
  have shape : (exec step (.init ()) leakAndClose).map (fun p => p.clients.map Client.closed) =
      some [true] := by decide
  obtain ⟨p, run, closed⟩ := Option.map_eq_some_iff.mp shape
  have left : history step leak (.init ()) leakAndClose = [1] := by decide
  refine ⟨p, run, left ▸ (clients_accounted () run).2 fun client inside => ?_⟩
  have among := List.mem_map_of_mem (f := Client.closed) inside
  rw [closed] at among
  exact List.mem_singleton.mp among

end SpicedbEmbedded.Clients.Accounts
