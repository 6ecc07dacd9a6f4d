/-
**The phases of a handle, as the machine shows them.**

`Phase svc s h c slot` says how a state of `Shared.Library` shows the phase of a handle: where its
start `c` is, what it has built, what is bound at its address, and where the dispose is that took the
handle out.

* `Phase.keep` — a step of a call that is neither the start nor the dispose of a handle leaves the
  phase of the handle alone.
* `Phase.of_building` to `Phase.of_cleaned` read the phase off the place of a call.
* `Listening` — what is bound at the address of a handle is its instance.
-/

import SpicedbEmbedded.Shared.Copies
import SpicedbEmbedded.Shared.Isolation
import SpicedbEmbedded.Shared.Store

set_option linter.unusedSectionVars false

namespace SpicedbEmbedded.Shared

open Machine

variable {C Req Msg : Type} [DecidableEq C]

/-! ### How the machine shows the phase of a handle -/

/-- The instance has its client connection, and the connection is open. -/
structure State.Connected (s : State C Req Msg) (c : C) : Prop where
  dialed : (s.objects c).clientConn = some c
  open_conn : s.connOpen c = true

/-- What a start has built by the time the stages are left. -/
structure State.Building (s : State C Req Msg) (c : C) (opts : StartOptions) (left : List Stage) :
    Prop where
  staged : left <:+ opts.stages
  datastore : Stage.datastore ∉ left → (s.objects c).datastore = .ofOpts c opts
  client : Stage.client ∉ left → s.Connected c

/-- **The phase of a handle** that the start `c` has drawn, as a state of the machine shows it. -/
inductive Phase (svc : Service Req Msg) (s : State C Req Msg) (h : UInt64) (c : C) : Slot C → Prop
  | starting (opts : StartOptions) (left : List Stage)
      (here : s.calls c = some ⟨.start, some h, .building opts left⟩)
      (building : s.Building c opts left) : Phase svc s h c (.starting (.ofOpts c opts))
  | binding (here : s.calls c = some ⟨.start, some h, .binding⟩) (connected : s.Connected c) :
      Phase svc s h c (.starting (s.objects c).datastore)
  | failed (text : String) (here : s.calls c = some ⟨.start, some h, .returned (.error text)⟩) :
      Phase svc s h c .failed
  | bound (pc : Pc C Req Msg) (here : s.calls c = some ⟨.start, some h, pc⟩)
      (place : pc = .built ∨ pc = .inserting) (connected : s.Connected c)
      (socket : s.sockets (svc.streamingProxyAddr h) = some c) :
      Phase svc s h c (.bound (s.objects c).datastore)
  | opened (started : s.Started c h) (entry : s.instances h = some c) (connected : s.Connected c)
      (socket : s.sockets (svc.streamingProxyAddr h) = some c) :
      Phase svc s h c (.opened (s.objects c).datastore)
  | draining (d : C) (started : s.Started c h)
      (here : s.calls d = some ⟨.dispose, some h, .found c⟩) (connected : s.Connected c)
      (socket : s.sockets (svc.streamingProxyAddr h) = some c) :
      Phase svc s h c (.draining (s.objects c).datastore)
  | closed (d : C) (pc : Pc C Req Msg) (started : s.Started c h)
      (here : s.calls d = some ⟨.dispose, some h, pc⟩) (deleted : pc.Deleted)
      (past : ∀ inst, pc ≠ .found inst) (dialed : (s.objects c).clientConn = some c)
      (shut : s.connOpen c = false) : Phase svc s h c .closed

/-- The phase of any handle: nobody has drawn it, or its start has brought it there. -/
inductive Shows (svc : Service Req Msg) (s : State C Req Msg) (h : UInt64) (slot : Slot C) : Prop
  | unissued (undrawn : ∀ c, ¬ s.StartOf c h) (still : slot = .unissued)
  | drawn (c : C) (phase : Phase svc s h c slot)

section Kept

variable {svc : Service Req Msg} {s t : State C Req Msg} {c : C} {new : Call C Req Msg} {h : UInt64}
  {slot : Slot C}

theorem startOf_here {a : C} {pc : Pc C Req Msg} (here : s.calls a = some ⟨.start, some h, pc⟩) :
    s.StartOf a h := (startOf_iff here).mpr ⟨rfl, rfl⟩

theorem startOf_of_started {a : C} (started : s.Started a h) : s.StartOf a h := by
  obtain ⟨addr, here⟩ := started
  exact startOf_here here

theorem Phase.startOf {a : C} (phase : Phase svc s h a slot) : s.StartOf a h := by
  cases phase with
  | starting opts left here => exact startOf_here here
  | binding here => exact startOf_here here
  | failed text here => exact startOf_here here
  | bound pc here => exact startOf_here here
  | opened started => exact startOf_of_started started
  | draining d started => exact startOf_of_started started
  | closed d pc started => exact startOf_of_started started

/-- **What leaves the phase of a handle alone**: a step of a call that is neither its start nor the
dispose that took it out, and that leaves its entry, its socket and its instance as they were. -/
theorem Phase.keep {a : C} (phase : Phase svc s h a slot)
    (calls : t.calls = Function.update s.calls c (some new)) (notStart : ¬ s.StartOf c h)
    (notTaker : ¬ s.TookOut c h) (entry : t.instances h = s.instances h)
    (socket : t.sockets (svc.streamingProxyAddr h) = s.sockets (svc.streamingProxyAddr h))
    (objects : t.objects a = s.objects a) (conns : t.connOpen a = s.connOpen a) :
    Phase svc t h a slot := by
  have kept : t.calls a = s.calls a := by
    have other : a ≠ c := fun same => notStart (same ▸ phase.startOf)
    rw [calls, Function.update_of_ne other]
  have keptStarted : s.Started a h → t.Started a h := fun ⟨addr, here⟩ => ⟨addr, kept.trans here⟩
  have keptTaker : ∀ {d pc}, s.calls d = some ⟨.dispose, some h, pc⟩ → pc.Deleted →
      t.calls d = some ⟨.dispose, some h, pc⟩ := fun {d pc} here deleted => by
    have other : d ≠ c := fun same => notTaker (same ▸ ⟨pc, here, deleted⟩)
    rw [calls, Function.update_of_ne other, here]
  have keptConnected : s.Connected a → t.Connected a := fun connected =>
    ⟨objects.symm ▸ connected.dialed, conns.symm ▸ connected.open_conn⟩
  cases phase with
  | starting opts left here building =>
    exact .starting opts left (kept.trans here) ⟨building.staged, objects ▸ building.datastore,
      fun done => keptConnected (building.client done)⟩
  | binding here connected =>
    rw [← objects]
    exact .binding (kept.trans here) (keptConnected connected)
  | failed text here => exact .failed text (kept.trans here)
  | bound pc here place connected bound =>
    rw [← objects]
    exact .bound pc (kept.trans here) place (keptConnected connected) (socket.trans bound)
  | opened started present connected bound =>
    rw [← objects]
    exact .opened (keptStarted started) (entry.trans present) (keptConnected connected)
      (socket.trans bound)
  | draining d started here connected bound =>
    rw [← objects]
    exact .draining d (keptStarted started) (keptTaker here (.found a)) (keptConnected connected)
      (socket.trans bound)
  | closed d pc started here deleted past dialed shut =>
    exact .closed d pc (keptStarted started) (keptTaker here deleted) deleted past
      (objects ▸ dialed) (conns.trans shut)

/-- The same for a handle that may not have been drawn. -/
theorem Shows.keep (shows : Shows svc s h slot)
    (calls : t.calls = Function.update s.calls c (some new)) (notStart : ¬ s.StartOf c h)
    (notStarted : new.starts h = false) (notTaker : ¬ s.TookOut c h)
    (entry : t.instances h = s.instances h)
    (socket : t.sockets (svc.streamingProxyAddr h) = s.sockets (svc.streamingProxyAddr h))
    (objects : ∀ a, s.StartOf a h → t.objects a = s.objects a)
    (conns : ∀ a, s.StartOf a h → t.connOpen a = s.connOpen a) : Shows svc t h slot := by
  cases shows with
  | unissued undrawn still =>
    refine .unissued (fun a start => ?_) still
    rw [State.StartOf, calls] at start
    by_cases same : a = c
    · rw [same, Function.update_self, Option.any_some, notStarted] at start
      cases start
    · rw [Function.update_of_ne same] at start
      exact undrawn a start
  | drawn a phase =>
    exact .drawn a (phase.keep calls notStart notTaker entry socket (objects a phase.startOf)
      (conns a phase.startOf))

end Kept

/-! ### Reading the phase off a call -/

section Read

variable {svc : Service Req Msg} {s : State C Req Msg} {life : UInt64 → Life C} {a b c d : C}
  {h : UInt64} {slot : Slot C}

theorem starts_of_startOf (start : s.StartOf a h) : (role (s.calls a)).starts = some h := by
  unfold State.StartOf at start
  cases here : s.calls a with
  | none => rw [here] at start; cases start
  | some call =>
    rw [here, Option.any_some] at start
    obtain ⟨kind, handle, pc⟩ := call
    obtain ⟨rfl, rfl⟩ : kind = .start ∧ handle = some h := by simpa [Call.starts] using start
    cases pc with
    | returned result => cases result <;> rfl
    | _ => rfl

/-- A handle is drawn by one start. -/
theorem startOf_one (tracks : Tracks s life) (one : s.StartOf a h) (two : s.StartOf b h) : a = b :=
  Option.some.inj (((tracks.slots.starts h a).mp (starts_of_startOf one)).symm.trans
    ((tracks.slots.starts h b).mp (starts_of_startOf two)))

/-- A handle is taken out by one dispose. -/
theorem tookOut_one (formed : WellFormed s) (tracks : Tracks s life) (one : s.TookOut c h)
    (two : s.TookOut d h) : c = d :=
  Option.some.inj (((tookOut_iff formed tracks).mp one).symm.trans ((tookOut_iff formed tracks).mp two))

/-- A handle that has been taken out has no entry. -/
theorem instances_of_tookOut (formed : WellFormed s) (tracks : Tracks s life)
    (took : s.TookOut d h) : s.instances h = none := by
  rw [tracks.slots.instances h]
  refine Option.eq_none_iff_forall_ne_some.mpr fun o present => ?_
  have shut := (Life.present_eq_some.mp present).2
  rw [(tookOut_iff formed tracks).mp took] at shut
  cases shut

theorem started_of_entry (formed : WellFormed s) (tracks : Tracks s life)
    (entry : s.instances h = some a) : s.Started a h :=
  (started_iff formed tracks).mpr
    (Life.present_eq_some.mp ((tracks.slots.instances h).symm.trans entry)).1

/-- The phase of a handle is the one of the start that has drawn it. -/
theorem Shows.phase (shows : Shows svc s h slot) (tracks : Tracks s life) (start : s.StartOf c h) :
    Phase svc s h c slot := by
  cases shows with
  | unissued undrawn => exact absurd start (undrawn c)
  | drawn a phase => exact startOf_one tracks phase.startOf start ▸ phase

/-- A start that has returned its handle is at no other place. -/
theorem not_started_of_here {pc : Pc C Req Msg} (here : s.calls a = some ⟨.start, some h, pc⟩)
    (early : ∀ result, pc ≠ .returned (.ok result)) : ¬ s.Started a h := by
  rintro ⟨addr, there⟩
  rw [here] at there
  cases there
  exact early _ rfl

/-- A start in its stages. -/
theorem Phase.of_building (phase : Phase svc s h c slot) {opts : StartOptions} {left : List Stage}
    (here : s.calls c = some ⟨.start, some h, .building opts left⟩) :
    slot = .starting (.ofOpts c opts) ∧ s.Building c opts left := by
  have early := not_started_of_here here (fun _ same => by cases same)
  cases phase with
  | starting opts' left' there building => rw [here] at there; cases there; exact ⟨rfl, building⟩
  | binding there => rw [here] at there; cases there
  | failed text there => rw [here] at there; cases there
  | bound pc there place =>
    rw [here] at there
    cases there
    rcases place with same | same <;> cases same
  | opened started => exact absurd started early
  | draining d started => exact absurd started early
  | closed d pc started => exact absurd started early

/-- A start that is about to listen. -/
theorem Phase.of_binding (phase : Phase svc s h c slot)
    (here : s.calls c = some ⟨.start, some h, .binding⟩) :
    slot = .starting (s.objects c).datastore ∧ s.Connected c := by
  have early := not_started_of_here here (fun _ same => by cases same)
  cases phase with
  | starting opts' left' there => rw [here] at there; cases there
  | binding there connected => exact ⟨rfl, connected⟩
  | failed text there => rw [here] at there; cases there
  | bound pc there place =>
    rw [here] at there
    cases there
    rcases place with same | same <;> cases same
  | opened started => exact absurd started early
  | draining d started => exact absurd started early
  | closed d pc started => exact absurd started early

/-- A start with its listener. -/
theorem Phase.of_bound (phase : Phase svc s h c slot) {pc : Pc C Req Msg}
    (here : s.calls c = some ⟨.start, some h, pc⟩) (place : pc = .built ∨ pc = .inserting) :
    slot = .bound (s.objects c).datastore ∧ s.Connected c ∧
      s.sockets (svc.streamingProxyAddr h) = some c := by
  have early := not_started_of_here here fun result same => by
    rcases place with there | there <;> cases same.symm.trans there
  have elsewhere : ∀ {other : Pc C Req Msg}, s.calls c = some ⟨.start, some h, other⟩ →
      other = .built ∨ other = .inserting := fun there => by
    rw [here] at there
    cases there
    exact place
  cases phase with
  | starting opts' left' there => rcases elsewhere there with same | same <;> cases same
  | binding there => rcases elsewhere there with same | same <;> cases same
  | failed text there => rcases elsewhere there with same | same <;> cases same
  | bound pc there place connected socket => exact ⟨rfl, connected, socket⟩
  | opened started => exact absurd started early
  | draining d started => exact absurd started early
  | closed d pc started => exact absurd started early

/-- A handle without an entry is not open. -/
theorem Shows.of_absent (shows : Shows svc s h slot) (absent : s.instances h = none)
    (ref : DatastoreRef C) : slot ≠ .opened ref := by
  rintro rfl
  cases shows with
  | unissued undrawn still => cases still
  | drawn c phase =>
    cases phase with
    | opened started entry =>
      rw [absent] at entry
      cases entry

/-- A handle with nothing bound at its address serves no streaming call. -/
theorem Shows.of_unbound (shows : Shows svc s h slot)
    (absent : s.sockets (svc.streamingProxyAddr h) = none) (ref : DatastoreRef C) :
    ¬ slot.Streams ref := by
  have unbound : ∀ {c}, s.sockets (svc.streamingProxyAddr h) ≠ some c := fun {c} bound => by
    rw [absent] at bound
    cases bound
  cases shows with
  | unissued undrawn still => exact still ▸ id
  | drawn c phase =>
    cases phase with
    | starting => exact id
    | binding => exact id
    | failed => exact id
    | bound pc here place connected socket => exact absurd socket unbound
    | opened started entry connected socket => exact absurd socket unbound
    | draining d started here connected socket => exact absurd socket unbound
    | closed => exact id

/-- A handle whose start has returned: it is served over an open connection, or it is closed. -/
theorem Phase.of_started (phase : Phase svc s h c slot) (started : s.Started c h) :
    (slot.Serves (s.objects c).datastore ∧ s.Connected c ∧
      s.sockets (svc.streamingProxyAddr h) = some c) ∨
    slot = .closed ∧ (s.objects c).clientConn = some c ∧ s.connOpen c = false := by
  have early : ∀ {pc : Pc C Req Msg}, s.calls c = some ⟨.start, some h, pc⟩ →
      (∀ result, pc ≠ .returned (.ok result)) → False := fun here early =>
    not_started_of_here here early started
  cases phase with
  | starting opts left here => exact (early here fun _ same => by cases same).elim
  | binding here => exact (early here fun _ same => by cases same).elim
  | failed text here => exact (early here fun _ same => by cases same).elim
  | bound pc here place =>
    rcases place with rfl | rfl
    · exact (early here fun _ same => by cases same).elim
    · exact (early here fun _ same => by cases same).elim
  | opened _ _ connected socket => exact Or.inl ⟨rfl, connected, socket⟩
  | draining d _ here connected socket => exact Or.inl ⟨rfl, connected, socket⟩
  | closed d pc _ here deleted past dialed shut => exact Or.inr ⟨rfl, dialed, shut⟩

/-- An instance in the registry. -/
theorem Phase.of_entry (phase : Phase svc s h c slot) (formed : WellFormed s)
    (tracks : Tracks s life) (entry : s.instances h = some c) :
    slot = .opened (s.objects c).datastore ∧ s.Connected c ∧
      s.sockets (svc.streamingProxyAddr h) = some c := by
  have present : ∀ {d}, ¬ s.TookOut d h := fun {d} took => by
    rw [instances_of_tookOut formed tracks took] at entry
    cases entry
  rcases phase.of_started (started_of_entry formed tracks entry) with ⟨serves, served⟩ | ⟨rfl, _, _⟩
  · cases phase with
    | opened => exact ⟨rfl, served⟩
    | draining d _ here => exact absurd ⟨_, here, .found c⟩ present
    | _ => cases serves
  · cases phase with
    | closed d pc _ here deleted => exact absurd ⟨_, here, deleted⟩ present

/-- A handle whose start has its listener: the same, for the streaming address. -/
theorem Phase.of_listens (phase : Phase svc s h c slot) (formed : WellFormed s)
    (listens : s.Listens c h) :
    (slot.Streams (s.objects c).datastore ∧ s.Connected c) ∨
    slot = .closed ∧ (s.objects c).clientConn = some c ∧ s.connOpen c = false := by
  have streams : s.Started c h → (slot.Streams (s.objects c).datastore ∧ s.Connected c) ∨
      slot = .closed ∧ (s.objects c).clientConn = some c ∧ s.connOpen c = false := by
    intro started
    rcases phase.of_started started with ⟨serves, connected, _⟩ | shut
    · refine Or.inl ⟨?_, connected⟩
      cases slot with
      | bound ref => cases serves
      | _ => exact serves
    · exact Or.inr shut
  obtain ⟨⟨kind, handle, pc⟩, here, listening⟩ := Option.bind_eq_some_iff.mp listens
  unfold Call.listens at listening
  split at listening
  · rename_i same
    cases same
    cases listening
    obtain ⟨rfl, connected, _⟩ := phase.of_bound here (Or.inl rfl)
    exact Or.inl ⟨rfl, connected⟩
  · rename_i same
    cases same
    cases listening
    obtain ⟨rfl, connected, _⟩ := phase.of_bound here (Or.inr rfl)
    exact Or.inl ⟨rfl, connected⟩
  · rename_i same
    cases same
    cases listening
    exact streams ((role_started (fun k known => formed.fits c k known)).mp (by rw [here]; rfl))
  · cases listening

/-- A dispose that has taken the handle out and not closed the connection yet. -/
theorem Phase.of_found (phase : Phase svc s h c slot) (formed : WellFormed s)
    (tracks : Tracks s life) (here : s.calls d = some ⟨.dispose, some h, .found c⟩) :
    slot = .draining (s.objects c).datastore ∧ s.Started c h ∧ s.Connected c := by
  have took : s.TookOut d h := ⟨_, here, .found c⟩
  have started : s.Started c h :=
    (started_iff formed tracks).mpr (tracks.works.holds d h c (by rw [here]; rfl))
  have absent := instances_of_tookOut formed tracks took
  rcases phase.of_started started with ⟨serves, connected, _⟩ | ⟨rfl, _, _⟩
  · refine ⟨?_, started, connected⟩
    cases slot with
    | opened ref => exact absurd rfl (Shows.of_absent (.drawn c phase) absent ref)
    | draining ref => exact congrArg Slot.draining serves
    | _ => cases serves
  · cases phase with
    | closed e pc _ there deleted past =>
      cases tookOut_one formed tracks took ⟨pc, there, deleted⟩
      rw [here] at there
      cases there
      exact absurd rfl (past c)

/-- A dispose that has closed the connection of the handle. -/
theorem Phase.of_cleaned (phase : Phase svc s h c slot) (formed : WellFormed s)
    (tracks : Tracks s life) {pc : Pc C Req Msg} (here : s.calls d = some ⟨.dispose, some h, pc⟩)
    (deleted : pc.Deleted) (past : ∀ inst, pc ≠ .found inst) (started : s.Started c h) :
    slot = .closed ∧ (s.objects c).clientConn = some c ∧ s.connOpen c = false := by
  have took : s.TookOut d h := ⟨pc, here, deleted⟩
  have absent := instances_of_tookOut formed tracks took
  rcases phase.of_started started with ⟨serves, connected, _⟩ | shut
  · cases phase with
    | opened _ entry =>
      rw [absent] at entry
      cases entry
    | draining e _ there =>
      cases tookOut_one formed tracks took ⟨_, there, .found c⟩
      rw [here] at there
      cases there
      exact absurd rfl (past c)
    | _ => cases serves
  · exact shut

end Read

/-! ### Listeners -/

section Listeners

variable {svc : Service Req Msg} {s t : State C Req Msg} {h : UInt64}

/-- A start keeps its listener. -/
theorem listens_kept {action : Action C Req} (confined : Confined svc s)
    (next : Step svc s action t) {a : C} (listens : s.Listens a h) : t.Listens a h := by
  obtain ⟨new, calls, change⟩ := step_sockets confined.formed confined.addressed next
  unfold State.Listens at listens ⊢
  by_cases same : a = action.call
  · subst same
    rw [calls, Function.update_self]
    cases change with
    | quiet idle opening still => exact still.trans listens
    | remove k own removing opening still => exact still.trans listens
    | delete k own idle opening still => exact still.trans listens
    | bind k own idle shut =>
      rw [shut] at listens
      cases listens
    | insert k own idle before opening still =>
      obtain ⟨call, here, open_now⟩ := Option.bind_eq_some_iff.mp before
      rw [here, Option.bind_some, Call.listens_of_opening open_now] at listens
      exact still.trans listens
  · rw [calls, Function.update_of_ne same]
    exact listens

/-- What is bound at the address of a handle listens on its behalf, and streaming calls have reached
a listener. -/
structure Listening (svc : Service Req Msg) (s : State C Req Msg) : Prop where
  bound : ∀ h a, s.sockets (svc.streamingProxyAddr h) = some a → s.Listens a h
  streaming : ∀ c h req a, s.calls c = some ⟨.stream, some h, .streaming req a⟩ → s.Listens a h

theorem init_listening (svc : Service Req Msg) : Listening svc (State.init : State C Req Msg) where
  bound h a known := by cases known
  streaming c h req a known := by cases known

/-- **Every step keeps the listeners.** -/
theorem listening_step (distinct : Function.Injective svc.streamingProxyAddr) {action : Action C Req}
    (confined : Confined svc s) (listening : Listening svc s) (next : Step svc s action t) :
    Listening svc t where
  bound h a known := by
    have stays : ∀ {a h}, s.Listens a h → t.Listens a h := listens_kept confined next
    obtain ⟨new, calls, change⟩ := step_sockets confined.formed confined.addressed next
    cases change with
    | quiet idle opening listens frame => exact stays (listening.bound h a (frame.sockets ▸ known))
    | insert k own idle before opening listens sockets =>
      exact stays (listening.bound h a (sockets ▸ known))
    | delete k own idle opening listens sockets =>
      exact stays (listening.bound h a (sockets ▸ known))
    | remove k own removing opening listens sockets =>
      rw [sockets, Function.update_apply] at known
      split at known
      · cases known
      · exact stays (listening.bound h a known)
    | bind k own idle shut opening free sockets =>
      rw [sockets, Function.update_apply] at known
      split at known
      · rename_i same
        cases known
        rw [distinct same, State.Listens, calls, Function.update_self]
        exact Call.listens_of_opening opening
      · exact stays (listening.bound h a known)
  streaming c h req a known := by
    have stays : ∀ {a h}, s.Listens a h → t.Listens a h := listens_kept confined next
    have before : ∀ {d new}, t.calls = Function.update s.calls d (some new) →
        (∀ req inst, new.pc ≠ .streaming req inst) → t.Listens a h := by
      intro d new calls idle
      rw [calls, Function.update_apply] at known
      split at known
      · cases known
        exact absurd rfl (idle req a)
      · exact stays (listening.streaming c h req a known)
    cases next with
    | reject d opts text fresh invalid => exact before rfl fun _ _ same => by cases same
    | take d opts fresh valid => exact before rfl fun _ _ same => by cases same
    | begin d k op fresh =>
      refine before rfl fun _ _ same => ?_
      cases op with
      | dispose => cases same
      | stream req => cases same
      | rpc req =>
        simp only [Op.begin] at same
        split at same <;> cases same
    | advance d kind k outcome pc _ here next =>
      obtain ⟨after, calls, sources, _⟩ := advance_call (confined.formed.fits d _ here) next
      rw [calls, Function.update_apply] at known
      split at known
      · cases known
        have fit := confined.formed.fits d _ here
        rcases sources a rfl with works | entry | socket
        · cases pc with
          | streaming _ inst =>
            cases works
            exact stays (listening.streaming d h _ a here)
          | calling => cases fit
          | found => cases fit
          | closed => cases fit
          | stopped => cases fit
          | _ => cases works
        · exact stays (confined.addressed.inserted a h entry)
        · exact stays (listening.bound h a socket)
      · exact stays (listening.streaming c h req a known)

end Listeners

end SpicedbEmbedded.Shared
