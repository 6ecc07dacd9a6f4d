/-
**Every step is an effect of the store, or none.**

`Pictures svc s x` says that the store `x` is what the state `s` shows. One step of the machine is
followed by the store: by the effect the step is seen as (`event`), or by no change at all.

* `shows_other` — a step of a call leaves the phases of all other handles alone.
* `staged_follows` to `streams_follows` — the steps that a handle or a datastore can feel, one by one.
* **`step_follows`** — every step is the event it is seen as, or leaves the store as it was.
-/

import SpicedbEmbedded.Shared.Phases

set_option linter.unusedSectionVars false

namespace SpicedbEmbedded.Shared

open Machine

variable {C Req Msg : Type} [DecidableEq C]

/-! ### One step of a call -/

/-- The store is what the state shows. -/
structure Pictures (svc : Service Req Msg) (s : State C Req Msg) (x : Store C Msg) : Prop where
  slots : ∀ h, Shows svc s h (x.slots h)
  histories : x.histories = s.histories

/-- The step to `t` is its event, or leaves the store as it was. -/
def Follows (svc : Service Req Msg) (x : Store C Msg) (t : State C Req Msg) :
    Option (Event C Req Msg) → Prop
  | none => Pictures svc t x
  | some e => ∃ y, Store.Step svc x e y ∧ Pictures svc t y

namespace State

variable (s : State C Req Msg)

theorem cleanupObservability_histories (inst : C) :
    (s.cleanupObservability inst).histories = s.histories := by
  unfold cleanupObservability
  split <;> rfl

theorem cleanupObservability_connOpen (inst : C) :
    (s.cleanupObservability inst).connOpen = s.connOpen := by
  unfold cleanupObservability
  split <;> rfl

theorem failStart_histories (c : C) (h : UInt64) (text : String) :
    (s.failStart c h text).histories = s.histories := s.cleanupObservability_histories c

end State

/-- The last stage of a start is the proxy. -/
theorem StartOptions.stages_proxy {opts : StartOptions} {left : List Stage}
    (staged : .proxy :: left <:+ opts.stages) : left = [] := by
  unfold StartOptions.stages at staged
  split at staged <;> split at staged <;> simpa [List.suffix_cons_iff] using staged

section Advance

variable {svc : Service Req Msg} {s t : State C Req Msg} {x : Store C Msg} {life : UInt64 → Life C}
  {c : C} {kind : Kind} {h : UInt64} {pc : Pc C Req Msg} {outcome : Except String Unit}

/-- A step of a call leaves the phases of all other handles alone. -/
theorem shows_other (distinct : Function.Injective svc.streamingProxyAddr)
    (confined : Confined svc s) (pictures : Pictures svc s x)
    (here : s.calls c = some ⟨kind, some h, pc⟩) (next : Advance svc s c kind h outcome pc t)
    {k : UInt64} (other : k ≠ h) : Shows svc t k (x.slots k) := by
  obtain ⟨after, calls, _, _⟩ := advance_call (confined.formed.fits c _ here) next
  obtain ⟨entry, socket⟩ := step_entry distinct confined (.advance c kind h outcome pc t here next)
    (h := k) fun same => other (Option.some.inj same).symm
  have notStart : ¬ s.StartOf c k := fun start => other ((startOf_iff here).mp start).2.symm
  have bodies : ∀ a, s.StartOf a k → t.body a = s.body a := fun a start =>
    advance_bodies confined.formed confined.datastores next (fun same => notStart (same ▸ start))
      fun works => other (startOf_unique start (confined.working c kind h pc a here works))
  refine (pictures.slots k).keep calls notStart ?_ ?_ entry socket ?_ ?_
  · simp [Call.starts, Ne.symm other]
  · rintro ⟨place, there, _⟩
    rw [here] at there
    cases there
    exact other rfl
  · exact fun a start => congrArg Body.object (bodies a start)
  · exact fun a start => congrArg Body.connOpen (bodies a start)

/-- A step of an operation that has not taken its handle out, with no effect on the handle. -/
theorem shows_own (pictures : Pictures svc s x) (here : s.calls c = some ⟨kind, some h, pc⟩)
    (operates : kind ≠ .start) (early : ¬ pc.Deleted) {after : Pc C Req Msg}
    (calls : t.calls = Function.update s.calls c (some ⟨kind, some h, after⟩))
    (instances : t.instances = s.instances) (sockets : t.sockets = s.sockets)
    (objects : t.objects = s.objects) (conns : t.connOpen = s.connOpen) :
    Shows svc t h (x.slots h) := by
  refine (pictures.slots h).keep calls ?_ ?_ ?_ (by rw [instances]) (by rw [sockets])
    (fun a _ => by rw [objects]) fun a _ => by rw [conns]
  · exact fun start => operates ((startOf_iff here).mp start).1
  · simp [Call.starts, operates]
  · rintro ⟨place, there, deleted⟩
    rw [here] at there
    cases there
    exact early deleted

section Builders

variable (others : ∀ k, k ≠ h → Shows svc t k (x.slots k)) (pictures : Pictures svc s x)
  (histories : t.histories = s.histories)

include others pictures histories

theorem pictures_same (own : Shows svc t h (x.slots h)) : Pictures svc t x where
  slots k := by
    by_cases same : k = h
    · exact same ▸ own
    · exact others k same
  histories := pictures.histories.trans histories.symm

theorem pictures_setSlot {slot : Slot C} (own : Shows svc t h slot) :
    Pictures svc t (x.setSlot h slot) where
  slots k := by
    by_cases same : k = h
    · subst same
      rw [Store.setSlot_self]
      exact own
    · rw [Store.setSlot_of_ne x same]
      exact others k same
  histories := pictures.histories.trans histories.symm

end Builders

/-! ### The steps of a start -/

/-- An error return of a start that has drawn its handle. -/
theorem fail_follows (pictures : Pictures svc s x) {ref : DatastoreRef C} {text : String}
    (starting : x.slots h = .starting ref)
    (others : ∀ k, k ≠ h → Shows svc (s.failStart c h text) k (x.slots k)) :
    Follows svc x (s.failStart c h text) (some (.failed c h text)) := by
  have here : (s.failStart c h text).calls c = some ⟨.start, some h, .returned (.error text)⟩ := by
    rw [s.failStart_calls, Function.update_self]
  exact ⟨_, .failed x c h text ref starting, pictures_setSlot others pictures
    (s.failStart_histories c h text) (.drawn c (.failed text here))⟩

/-- What a start has built, after one more stage. -/
theorem building_next {opts : StartOptions} {stage : Stage} {left : List Stage}
    (building : s.Building c opts (stage :: left))
    (datastore : stage = .datastore → (t.objects c).datastore = .ofOpts c opts)
    (keptDatastore : stage ≠ .datastore → (t.objects c).datastore = (s.objects c).datastore)
    (client : stage = .client → t.Connected c)
    (keptClient : stage ≠ .client → s.Connected c → t.Connected c) :
    t.Building c opts left where
  staged := List.IsSuffix.trans (List.suffix_cons stage left) building.staged
  datastore done := by
    by_cases now : stage = .datastore
    · exact datastore now
    · rw [keptDatastore now]
      refine building.datastore fun inside => ?_
      rcases List.mem_cons.mp inside with same | later
      · exact now same.symm
      · exact done later
  client done := by
    by_cases now : stage = .client
    · exact client now
    · refine keptClient now (building.client fun inside => ?_)
      rcases List.mem_cons.mp inside with same | later
      · exact now same.symm
      · exact done later

/-- An external stage of a start. -/
theorem staged_follows (pictures : Pictures svc s x) (tracks : Tracks s life) {opts : StartOptions}
    {stage : Stage} {left : List Stage}
    (here : s.calls c = some ⟨.start, some h, .building opts (stage :: left)⟩)
    (others : ∀ k, k ≠ h →
      Shows svc (s.runStage c h opts stage left outcome) k (x.slots k)) :
    ∃ after, (s.runStage c h opts stage left outcome).calls =
        Function.update s.calls c (some ⟨.start, some h, after⟩) ∧
      Follows svc x (s.runStage c h opts stage left outcome)
        (Pc.event c h (.building opts (stage :: left)) after) := by
  obtain ⟨starting, building⟩ :=
    ((pictures.slots h).phase tracks (startOf_here here)).of_building here
  have passes : ∀ {t : State C Req Msg}, (∀ k, k ≠ h → Shows svc t k (x.slots k)) →
      t.calls c = some ⟨.start, some h, .building opts left⟩ → t.histories = s.histories →
      t.Building c opts left → Pictures svc t x := fun others here histories building =>
    pictures_same others pictures histories
      (starting ▸ .drawn c (.starting opts left here building))
  cases outcome with
  | error err => exact ⟨_, s.failStart_calls c h _, fail_follows pictures starting others⟩
  | ok _ =>
    cases stage with
    | datastore =>
      refine ⟨.building opts left, rfl, passes others (Function.update_self ..) rfl
        (building_next building ?_ ?_ ?_ ?_)⟩
      · exact fun _ => by simp [State.runStage, State.setObject, State.goto]
      · exact fun other => absurd rfl other
      · exact fun same => by cases same
      · exact fun _ connected => ⟨by simp [State.runStage, State.setObject, State.goto,
          connected.dialed], connected.open_conn⟩
    | client =>
      refine ⟨.building opts left, rfl, passes others (Function.update_self ..) rfl
        (building_next building ?_ ?_ ?_ ?_)⟩
      · exact fun same => by cases same
      · exact fun _ => by simp [State.runStage, State.setObject, State.goto]
      · exact fun _ => ⟨by simp [State.runStage, State.setObject, State.goto],
          Function.update_self ..⟩
      · exact fun other => absurd rfl other
    | metrics =>
      cases used : s.metricsAddrs opts.metricsAddr with
      | some holder =>
        simp only [State.runStage, used] at others ⊢
        exact ⟨_, s.failStart_calls c h _, fail_follows pictures starting others⟩
      | none =>
        simp only [State.runStage, used] at others ⊢
        refine ⟨.building opts left, rfl, passes others (Function.update_self ..) rfl
          (building_next building ?_ ?_ ?_ ?_)⟩
        · exact fun same => by cases same
        · exact fun _ => by simp [State.setObject, State.goto]
        · exact fun same => by cases same
        · exact fun _ connected => ⟨by simp [State.setObject, State.goto, connected.dialed],
            connected.open_conn⟩
    | server =>
      exact ⟨.building opts left, rfl, passes others (Function.update_self ..) rfl
        (building_next building (fun same => by cases same) (fun _ => rfl)
          (fun same => by cases same) fun _ connected => ⟨connected.dialed, connected.open_conn⟩)⟩
    | tracing =>
      exact ⟨.building opts left, rfl, passes others (Function.update_self ..) rfl
        (building_next building (fun same => by cases same) (fun _ => rfl)
          (fun same => by cases same) fun _ connected => ⟨connected.dialed, connected.open_conn⟩)⟩
    | proxy =>
      exact ⟨.building opts left, rfl, passes others (Function.update_self ..) rfl
        (building_next building (fun same => by cases same) (fun _ => rfl)
          (fun same => by cases same) fun _ connected => ⟨connected.dialed, connected.open_conn⟩)⟩

/-- `os.Remove` before the proxy listens. -/
theorem unlinked_follows (pictures : Pictures svc s x) (tracks : Tracks s life)
    {opts : StartOptions} {left : List Stage}
    (here : s.calls c = some ⟨.start, some h, .building opts (.proxy :: left)⟩)
    (others : ∀ k, k ≠ h → Shows svc
      ((s.unlink (svc.streamingProxyAddr h)).goto c .start h .binding) k (x.slots k)) :
    Pictures svc ((s.unlink (svc.streamingProxyAddr h)).goto c .start h .binding) x := by
  obtain ⟨starting, building⟩ :=
    ((pictures.slots h).phase tracks (startOf_here here)).of_building here
  cases StartOptions.stages_proxy building.staged
  have connected := building.client (by decide)
  refine pictures_same others pictures rfl ?_
  rw [starting, ← building.datastore (by decide)]
  exact .drawn c (.binding (Function.update_self ..) ⟨connected.dialed, connected.open_conn⟩)

/-- A start that has its listener and goes on to the registry. -/
theorem Phase.bound_of {ref : DatastoreRef C}
    (here : t.calls c = some ⟨.start, some h, .built⟩)
    (datastore : (t.objects c).datastore = ref) (connected : t.Connected c)
    (socket : t.sockets (svc.streamingProxyAddr h) = some c) : Phase svc t h c (.bound ref) :=
  datastore ▸ .bound .built here (Or.inl rfl) connected socket

/-- `net.Listen` of the proxy. -/
theorem listened_follows (pictures : Pictures svc s x) (tracks : Tracks s life)
    (here : s.calls c = some ⟨.start, some h, .binding⟩)
    (others : ∀ k, k ≠ h →
      Shows svc (s.listen (svc.streamingProxyAddr h) c h outcome) k (x.slots k)) :
    ∃ after, (s.listen (svc.streamingProxyAddr h) c h outcome).calls =
        Function.update s.calls c (some ⟨.start, some h, after⟩) ∧
      Follows svc x (s.listen (svc.streamingProxyAddr h) c h outcome)
        (Pc.event c h .binding after) := by
  obtain ⟨starting, connected⟩ :=
    ((pictures.slots h).phase tracks (startOf_here here)).of_binding here
  cases outcome with
  | error err => exact ⟨_, s.failStart_calls c h _, fail_follows pictures starting others⟩
  | ok _ =>
    cases used : s.sockets (svc.streamingProxyAddr h) with
    | some holder =>
      simp only [State.listen, used] at others ⊢
      exact ⟨_, s.failStart_calls c h _, fail_follows pictures starting others⟩
    | none =>
      simp only [State.listen, used] at others ⊢
      refine ⟨.built, rfl, _, .bound x c h _ starting, pictures_setSlot others pictures rfl
        (.drawn c ?_)⟩
      refine Phase.bound_of (Function.update_self ..) ?_ ⟨?_, connected.open_conn⟩
        (Function.update_self ..)
      · simp [State.setObject, State.goto]
      · simp [State.setObject, State.goto, connected.dialed]

/-- A start with its listener enters its instance in the registry. -/
theorem inserts_follows (pictures : Pictures svc s x) (tracks : Tracks s life)
    (addressed : Addressed svc s) (here : s.calls c = some ⟨.start, some h, .inserting⟩)
    (others : ∀ k, k ≠ h → Shows svc (((s.setInstance h (some c)).withMu .free).goto c .start h
      (.returned (.ok (.started h (s.objects c).streamingAddr)))) k (x.slots k)) :
    Follows svc x (((s.setInstance h (some c)).withMu .free).goto c .start h
      (.returned (.ok (.started h (s.objects c).streamingAddr))))
      (some (.opened c h (s.objects c).streamingAddr)) := by
  obtain ⟨bound, connected, socket⟩ :=
    ((pictures.slots h).phase tracks (startOf_here here)).of_bound here (Or.inr rfl)
  have address : (s.objects c).streamingAddr = svc.streamingProxyAddr h :=
    addressed.address c h (by rw [State.Listens, here]; rfl)
  rw [address] at others ⊢
  exact ⟨_, .opened x c h _ bound, pictures_setSlot others pictures rfl (.drawn c
    (.opened ⟨_, Function.update_self ..⟩ (Function.update_self ..)
      ⟨connected.dialed, connected.open_conn⟩ socket))⟩

/-! ### The steps of a dispose -/

/-- A start that has returned its handle stays so when an operation takes a step. -/
theorem started_kept {a : C} (started : s.Started a h) (here : s.calls c = some ⟨kind, some h, pc⟩)
    (operates : kind ≠ .start) {new : Call C Req Msg}
    (calls : t.calls = Function.update s.calls c (some new)) : t.Started a h := by
  obtain ⟨addr, there⟩ := started
  have other : a ≠ c := by
    rintro rfl
    rw [here] at there
    cases there
    exact operates rfl
  exact ⟨addr, by rw [calls, Function.update_of_ne other, there]⟩

/-- The delete of an entry that is there. -/
theorem removes_follows (pictures : Pictures svc s x) (formed : WellFormed s)
    (tracks : Tracks s life) {inst : C} (present : s.instances h = some inst)
    (here : s.calls c = some ⟨.dispose, some h, .deleting⟩)
    (others : ∀ k, k ≠ h → Shows svc (((s.setInstance h none).withMu .free).goto c .dispose h
      (.found inst)) k (x.slots k)) :
    Follows svc x (((s.setInstance h none).withMu .free).goto c .dispose h (.found inst))
      (some (.deleted c h)) := by
  have started := started_of_entry formed tracks present
  obtain ⟨opened, connected, socket⟩ :=
    ((pictures.slots h).phase tracks (startOf_of_started started)).of_entry formed tracks present
  exact ⟨_, .deleted x c h _ opened, pictures_setSlot others pictures rfl (.drawn inst (.draining c
    (started_kept started here (by decide) rfl) (Function.update_self ..)
      ⟨connected.dialed, connected.open_conn⟩ socket))⟩

/-- `clientConn.Close()` of the dispose. -/
theorem closes_follows (pictures : Pictures svc s x) (formed : WellFormed s)
    (tracks : Tracks s life) {inst : C} (here : s.calls c = some ⟨.dispose, some h, .found inst⟩)
    (start : s.StartOf inst h)
    (others : ∀ k, k ≠ h → Shows svc (((s.closeConn inst).record c inst .close).goto c .dispose h
      (.closed inst)) k (x.slots k)) :
    Follows svc x (((s.closeConn inst).record c inst .close).goto c .dispose h (.closed inst))
      (some (.closed c h)) := by
  obtain ⟨draining, started, connected⟩ :=
    ((pictures.slots h).phase tracks start).of_found formed tracks here
  have closed : s.closeConn inst = { s with connOpen := Function.update s.connOpen inst false } := by
    rw [State.closeConn, connected.dialed]
  rw [closed] at others ⊢
  exact ⟨_, .closed x c h _ draining, pictures_setSlot others pictures rfl (.drawn inst (.closed c _
    (started_kept started here (by decide) rfl) (Function.update_self ..) (.closed inst)
      (fun _ same => by cases same) connected.dialed (Function.update_self ..)))⟩

/-- The steps of the dispose after the close. -/
theorem cleaned_shows (pictures : Pictures svc s x) (formed : WellFormed s) (tracks : Tracks s life)
    {inst : C} (here : s.calls c = some ⟨.dispose, some h, pc⟩) (deleted : pc.Deleted)
    (past : ∀ inst, pc ≠ .found inst) (holds : (role (s.calls c)).holds = some (h, inst))
    {after : Pc C Req Msg}
    (calls : t.calls = Function.update s.calls c (some ⟨.dispose, some h, after⟩))
    (deletedAfter : after.Deleted) (pastAfter : ∀ inst, after ≠ .found inst)
    (objects : t.objects = s.objects) (conns : t.connOpen = s.connOpen) :
    x.slots h = .closed ∧ Shows svc t h (x.slots h) := by
  have started : s.Started inst h :=
    (started_iff formed tracks).mpr (tracks.works.holds c h inst holds)
  obtain ⟨closed, dialed, shut⟩ := ((pictures.slots h).phase tracks
    (startOf_of_started started)).of_cleaned formed tracks here deleted past started
  refine ⟨closed, closed ▸ .drawn inst (.closed c after (started_kept started here (by decide) calls)
    (by rw [calls, Function.update_self]) deletedAfter pastAfter (by rw [objects, dialed])
    (by rw [conns, shut]))⟩

/-! ### The steps that reach a server -/

section Serve

variable {Answer : Type} {inst : C} {req : Req}

theorem serve_slots (answer : List Msg → Msg → Except String Answer) (ref : DatastoreRef C) :
    (x.serve svc answer ref req).2.slots = x.slots := by
  unfold Store.serve
  split <;> rfl

/-- An RPC over an open connection is served. -/
theorem callRPC_serve (histories : x.histories = s.histories) (connected : s.Connected inst) :
    (callRPC svc s c inst req).1 =
        respond svc (x.serve svc svc.answer (s.objects inst).datastore req).1 ∧
      (callRPC svc s c inst req).2.histories =
        (x.serve svc svc.answer (s.objects inst).datastore req).2.histories := by
  simp only [callRPC, Store.serve, connected.dialed]
  cases svc.unmarshal req with
  | error err => exact ⟨rfl, histories.symm⟩
  | ok msg =>
    simp only [State.invoke, if_pos connected.open_conn, histories]
    exact ⟨trivial, trivial⟩

/-- An RPC over a closed connection is refused. -/
theorem callRPC_refuse (dialed : (s.objects inst).clientConn = some inst)
    (shut : s.connOpen inst = false) :
    (callRPC svc s c inst req).1 = Store.refuse svc req ∧
      (callRPC svc s c inst req).2.histories = s.histories := by
  simp only [callRPC, Store.refuse, dialed]
  cases svc.unmarshal req with
  | error err => exact ⟨rfl, rfl⟩
  | ok msg =>
    simp only [State.invoke, shut, Bool.false_eq_true, if_false]
    exact ⟨rfl, trivial⟩

/-- A streaming call over an open connection is served. -/
theorem callStream_serve (histories : x.histories = s.histories) (connected : s.Connected inst) :
    (callStream svc s inst req).1 =
        (x.serve svc svc.answerStream (s.objects inst).datastore req).1.map .messages ∧
      (callStream svc s inst req).2.histories =
        (x.serve svc svc.answerStream (s.objects inst).datastore req).2.histories := by
  simp only [callStream, Store.serve, connected.dialed]
  cases svc.unmarshal req with
  | error err => exact ⟨rfl, histories.symm⟩
  | ok msg =>
    simp only [State.invoke, if_pos connected.open_conn, histories]
    exact ⟨trivial, trivial⟩

/-- A streaming call over a closed connection is refused. -/
theorem callStream_refuse (dialed : (s.objects inst).clientConn = some inst)
    (shut : s.connOpen inst = false) :
    (callStream svc s inst req).1 = Store.refuse svc req ∧
      (callStream svc s inst req).2.histories = s.histories := by
  simp only [callStream, Store.refuse, dialed]
  cases svc.unmarshal req with
  | error err => exact ⟨rfl, rfl⟩
  | ok msg =>
    simp only [State.invoke, shut, Bool.false_eq_true, if_false]
    exact ⟨rfl, trivial⟩

theorem invoke_connOpen (closing : String) (answer : List Msg → Msg → Except String Answer)
    (conn : C) (msg : Msg) : (s.invoke closing answer conn msg).2.connOpen = s.connOpen := by
  unfold State.invoke
  split <;> rfl

theorem callRPC_connOpen : (callRPC svc s c inst req).2.connOpen = s.connOpen := by
  unfold callRPC
  split
  · rfl
  · split
    · rfl
    · exact invoke_connOpen _ _ _ _

theorem callStream_connOpen : (callStream svc s inst req).2.connOpen = s.connOpen := by
  unfold callStream
  split
  · rfl
  · split
    · rfl
    · exact invoke_connOpen _ _ _ _

/-- An RPC that has found the instance of its handle. -/
theorem calls_follows (pictures : Pictures svc s x) (formed : WellFormed s)
    (tracks : Tracks s life) (here : s.calls c = some ⟨.rpc, some h, .calling req inst⟩)
    (shows : ∀ k, Shows svc ((callRPC svc s c inst req).2.goto c .rpc h
      (.returned (callRPC svc s c inst req).1)) k (x.slots k)) :
    Follows svc x ((callRPC svc s c inst req).2.goto c .rpc h
      (.returned (callRPC svc s c inst req).1))
        (some (.answered c h req (callRPC svc s c inst req).1)) := by
  have started : s.Started inst h :=
    (started_iff formed tracks).mpr (tracks.works.holds c h inst (by rw [here]; rfl))
  rcases ((pictures.slots h).phase tracks (startOf_of_started started)).of_started started with
    ⟨serves, connected, _⟩ | ⟨closed, dialed, shut⟩
  · obtain ⟨result, histories⟩ := @callRPC_serve _ _ _ _ svc s x c inst req pictures.histories connected
    rw [result] at shows ⊢
    exact ⟨_, .answered x c h req _ serves, fun k => by rw [serve_slots]; exact shows k,
      histories.symm⟩
  · obtain ⟨result, histories⟩ := @callRPC_refuse _ _ _ _ svc s c inst req dialed shut
    rw [result] at shows ⊢
    exact ⟨_, .cut x c h req closed, shows, pictures.histories.trans histories.symm⟩

/-- A streaming call at the proxy that listens for its handle. -/
theorem streams_follows (pictures : Pictures svc s x) (formed : WellFormed s)
    (tracks : Tracks s life) (listens : s.Listens inst h)
    (shows : ∀ k, Shows svc ((callStream svc s inst req).2.goto c .stream h
      (.returned (callStream svc s inst req).1)) k (x.slots k)) :
    Follows svc x ((callStream svc s inst req).2.goto c .stream h
      (.returned (callStream svc s inst req).1))
        (some (.streamed c h req (callStream svc s inst req).1)) := by
  rcases ((pictures.slots h).phase tracks (startOf_of_listens listens)).of_listens formed listens with
    ⟨streams, connected⟩ | ⟨closed, dialed, shut⟩
  · obtain ⟨result, histories⟩ := @callStream_serve _ _ _ _ svc s x inst req pictures.histories connected
    rw [result] at shows ⊢
    exact ⟨_, .streamed x c h req _ streams, fun k => by rw [serve_slots]; exact shows k,
      histories.symm⟩
  · obtain ⟨result, histories⟩ := @callStream_refuse _ _ _ _ svc s inst req dialed shut
    rw [result] at shows ⊢
    exact ⟨_, .streamCut x c h req closed, shows, pictures.histories.trans histories.symm⟩

end Serve

/-! ### Every step -/

/-- **A step of a call is the event it is seen as, or leaves the store as it was.** -/
theorem advance_follows (distinct : Function.Injective svc.streamingProxyAddr)
    (confined : Confined svc s) (tracks : Tracks s life) (listening : Listening svc s)
    (pictures : Pictures svc s x) (here : s.calls c = some ⟨kind, some h, pc⟩)
    (next : Advance svc s c kind h outcome pc t) :
    ∃ after, t.calls = Function.update s.calls c (some ⟨kind, some h, after⟩) ∧
      Follows svc x t (pc.event c h after) := by
  have formed := confined.formed
  have fit := formed.fits c _ here
  have others : ∀ k, k ≠ h → Shows svc t k (x.slots k) := fun k other =>
    shows_other distinct confined pictures here next other
  -- a step on the way of an operation, which the store does not see
  have silent : ∀ {after}, kind ≠ .start → ¬ pc.Deleted →
      t.calls = Function.update s.calls c (some ⟨kind, some h, after⟩) → t.instances = s.instances →
      t.sockets = s.sockets → t.objects = s.objects → t.connOpen = s.connOpen →
      t.histories = s.histories → Pictures svc t x :=
    fun operates early calls instances sockets objects conns histories =>
      pictures_same others pictures histories
        (shows_own pictures here operates early calls instances sockets objects conns)
  have reaches : ∀ {after}, kind ≠ .start → ¬ pc.Deleted →
      t.calls = Function.update s.calls c (some ⟨kind, some h, after⟩) → t.instances = s.instances →
      t.sockets = s.sockets → t.objects = s.objects → t.connOpen = s.connOpen →
      ∀ k, Shows svc t k (x.slots k) := by
    intro after operates early calls instances sockets objects conns k
    by_cases same : k = h
    · exact same ▸ shows_own pictures here operates early calls instances sockets objects conns
    · exact others k same
  cases next with
  | unlinked opts left =>
    cases (fit : kind = .start)
    exact ⟨_, rfl, unlinked_follows pictures tracks here others⟩
  | staged opts stage left other =>
    cases (fit : kind = .start)
    exact staged_follows pictures tracks here others
  | listened =>
    cases (fit : kind = .start)
    exact listened_follows pictures tracks here others
  | locksToInsert unlocked =>
    cases (fit : kind = .start)
    obtain ⟨bound, connected, socket⟩ :=
      ((pictures.slots h).phase tracks (startOf_here here)).of_bound here (Or.inl rfl)
    refine ⟨_, rfl, pictures_same others pictures rfl (bound ▸ .drawn c ?_)⟩
    exact .bound .inserting (Function.update_self ..) (Or.inr rfl)
      ⟨connected.dialed, connected.open_conn⟩ socket
  | inserts =>
    cases (fit : kind = .start)
    exact ⟨_, rfl, inserts_follows pictures tracks confined.addressed here others⟩
  | locksToDelete unlocked =>
    cases (fit : kind = .dispose)
    exact ⟨_, rfl, silent (by decide) (fun d => by cases d) rfl rfl rfl rfl rfl rfl⟩
  | misses absent =>
    cases (fit : kind = .dispose)
    exact ⟨_, rfl, x, .missed x c h fun ref => (pictures.slots h).of_absent absent ref,
      silent (by decide) (fun d => by cases d) rfl rfl rfl rfl rfl rfl⟩
  | removes inst present =>
    cases (fit : kind = .dispose)
    exact ⟨_, rfl, removes_follows pictures formed tracks present here others⟩
  | closes inst =>
    cases (fit : kind = .dispose)
    exact ⟨.closed inst, by simp [State.record], closes_follows pictures formed tracks here
      (confined.working c _ h _ inst here rfl) others⟩
  | stops inst =>
    cases (fit : kind = .dispose)
    obtain ⟨_, own⟩ := cleaned_shows pictures formed tracks here (.closed inst)
      (fun _ same => by cases same) (by rw [here]; rfl)
      (t := ((s.unlink (s.objects inst).streamingAddr).record c inst .stop).goto c .dispose h
        (.stopped inst)) rfl (.stopped inst) (fun _ same => by cases same) rfl rfl
    exact ⟨_, rfl, pictures_same others pictures rfl own⟩
  | finishes inst =>
    cases (fit : kind = .dispose)
    have calls : ((((s.cleanupObservability inst).unlink (s.objects inst).streamingAddr).record
        c inst .finish).goto c .dispose h (.returned (.ok .disposed))).calls =
          Function.update s.calls c (some ⟨.dispose, some h, .returned (.ok .disposed)⟩) := by
      simp [State.record, State.unlink]
    obtain ⟨closed, own⟩ := cleaned_shows pictures formed tracks here (.stopped inst)
      (fun _ same => by cases same) (by rw [here]; rfl) calls .returned
      (fun _ same => by cases same) (cleanupObservability_objects s inst)
      (s.cleanupObservability_connOpen inst)
    exact ⟨_, calls, x, .disposed x c h closed, pictures_same others pictures
      (s.cleanupObservability_histories inst) own⟩
  | locksToRead req readers shared =>
    cases (fit : kind = .rpc)
    exact ⟨_, rfl, silent (by decide) (fun d => by cases d) rfl rfl rfl rfl rfl rfl⟩
  | readMisses req readers shared absent =>
    cases (fit : kind = .rpc)
    exact ⟨_, rfl, x, .absent x c h req fun ref => (pictures.slots h).of_absent absent ref,
      silent (by decide) (fun d => by cases d) rfl rfl rfl rfl rfl rfl⟩
  | finds req readers shared inst present =>
    cases (fit : kind = .rpc)
    exact ⟨_, rfl, silent (by decide) (fun d => by cases d) rfl rfl rfl rfl rfl rfl⟩
  | calls req inst =>
    cases (fit : kind = .rpc)
    have calls := congrArg (Function.update · c (some
      ⟨.rpc, some h, .returned (callRPC svc s c inst req).1⟩)) (callRPC_spec svc s c inst req).1
    obtain ⟨sockets, _, instances⟩ := callRPC_sockets svc s c inst req
    exact ⟨_, calls, calls_follows pictures formed tracks here (reaches (by decide)
      (fun d => by cases d) calls instances sockets (callRPC_objects s c inst req)
      callRPC_connOpen)⟩
  | dialMisses req absent =>
    cases (fit : kind = .stream)
    exact ⟨_, rfl, x, .unreachable x c h req fun ref => (pictures.slots h).of_unbound absent ref,
      silent (by decide) (fun d => by cases d) rfl rfl rfl rfl rfl rfl⟩
  | dials req inst present =>
    cases (fit : kind = .stream)
    exact ⟨_, rfl, silent (by decide) (fun d => by cases d) rfl rfl rfl rfl rfl rfl⟩
  | streams req inst =>
    cases (fit : kind = .stream)
    have calls := congrArg (Function.update · c (some
      ⟨.stream, some h, .returned (callStream svc s inst req).1⟩)) (callStream_spec svc s inst req).2.1
    obtain ⟨sockets, _, instances⟩ := callStream_sockets svc s inst req
    exact ⟨_, calls, streams_follows pictures formed tracks (listening.streaming c h req inst here)
      (reaches (by decide) (fun d => by cases d) calls instances sockets
        (callStream_objects s inst req) callStream_connOpen)⟩

end Advance

section Step

variable {svc : Service Req Msg} {s t : State C Req Msg} {x : Store C Msg} {life : UInt64 → Life C}

/-- A step that begins a call is no step of any handle but the one the call draws. -/
theorem shows_begin {c : C} {new : Call C Req Msg} {k : UInt64} (pictures : Pictures svc s x)
    (fresh : s.calls c = none) (calls : t.calls = Function.update s.calls c (some new))
    (notStarted : new.starts k = false) (instances : t.instances = s.instances)
    (sockets : t.sockets = s.sockets) (objects : t.objects = s.objects)
    (conns : t.connOpen = s.connOpen) : Shows svc t k (x.slots k) := by
  refine (pictures.slots k).keep calls ?_ notStarted ?_ (by rw [instances]) (by rw [sockets])
    (fun a _ => by rw [objects]) fun a _ => by rw [conns]
  · intro start
    rw [State.StartOf, fresh] at start
    cases start
  · rintro ⟨pc, here, _⟩
    rw [fresh] at here
    cases here

/-- The number a start draws has not been drawn before. -/
theorem next_unissued (pictures : Pictures svc s x) (tracks : Tracks s life)
    (few : s.nextID.toNat + 1 < 2 ^ 64) : x.slots (s.nextID + 1) = .unissued := by
  cases pictures.slots (s.nextID + 1) with
  | unissued undrawn still => exact still
  | drawn a phase =>
    have owner : (life (s.nextID + 1)).owner = some a :=
      (tracks.slots.starts _ a).mp (starts_of_startOf phase.startOf)
    rw [tracks.slots.next_unissued few] at owner
    cases owner

/-- **A step of the library is the event it is seen as, or leaves the store as it was.** -/
theorem step_follows (distinct : Function.Injective svc.streamingProxyAddr) {action : Action C Req}
    (confined : Confined svc s) (tracks : Tracks s life) (listening : Listening svc s)
    (pictures : Pictures svc s x) (grows : s.nextID.toNat ≤ t.nextID.toNat)
    (next : Step svc s action t) : Follows svc x t (event svc s action t) := by
  have begins : ∀ {c new}, s.calls c = none → t.calls = Function.update s.calls c (some new) →
      (∀ k, new.starts k = false) → t.instances = s.instances → t.sockets = s.sockets →
      t.objects = s.objects → t.connOpen = s.connOpen → t.histories = s.histories →
      Pictures svc t x := fun fresh calls notStarted instances sockets objects conns histories =>
    ⟨fun k => shows_begin pictures fresh calls (notStarted k) instances sockets objects conns,
      pictures.histories.trans histories.symm⟩
  cases next with
  | reject c opts text fresh invalid =>
    simp only [event, invalid]
    exact ⟨x, .rejected x c opts text invalid,
      begins fresh rfl (fun k => rfl) rfl rfl rfl rfl rfl⟩
  | take c opts fresh valid =>
    have few : s.nextID.toNat + 1 < 2 ^ 64 := by
      have bound := s.nextID.toNat_lt
      have grown : s.nextID.toNat ≤ (s.nextID + 1).toNat := grows
      rw [UInt64.toNat_add, UInt64.toNat_one] at grown
      omega
    refine ⟨_, .took x c _ opts valid (next_unissued pictures tracks few),
      pictures_setSlot (fun k other => ?_) pictures ?_ (.drawn c ?_)⟩
    · have notStarted : (⟨.start, some (s.nextID + 1), .building opts opts.stages⟩ :
          Call C Req Msg).starts k = false := by simp [Call.starts, Ne.symm other]
      exact shows_begin pictures fresh rfl notStarted rfl rfl rfl rfl
    · rfl
    · refine Phase.starting opts opts.stages (Function.update_self ..) ⟨List.suffix_refl _,
        fun done => ?_, fun done => ?_⟩
      · exact absurd (by simp [StartOptions.stages]) done
      · exact absurd (by simp [StartOptions.stages]) done
  | begin c h op fresh =>
    cases op with
    | dispose => exact begins fresh rfl (fun k => rfl) rfl rfl rfl rfl rfl
    | stream req => exact begins fresh rfl (fun k => rfl) rfl rfl rfl rfl rfl
    | rpc req =>
      have begun : Pictures svc (s.goto c ((Op.rpc req).begin svc C).1 h ((Op.rpc req).begin svc C).2)
          x := by
        refine begins fresh rfl (fun k => ?_) rfl rfl rfl rfl rfl
        simp only [Op.begin]
        split <;> rfl
      cases refused : svc.refuse req with
      | none =>
        simp only [event, refused]
        exact begun
      | some text =>
        simp only [event, refused]
        exact ⟨x, .refused x c h req text refused, begun⟩
  | advance c kind h outcome pc _ here next =>
    obtain ⟨after, calls, follows⟩ :=
      advance_follows distinct confined tracks listening pictures here next
    have there : t.calls c = some ⟨kind, some h, after⟩ := by rw [calls, Function.update_self]
    simp only [event, here, there]
    exact follows

end Step

end SpicedbEmbedded.Shared
