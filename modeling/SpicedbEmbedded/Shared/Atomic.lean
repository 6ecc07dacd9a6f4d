/-
**The library is an atomic store.**

The events of a run of `Shared.Library` are its history. `Refines` relates a state of the machine to
a state of the `Store` for the length of a run.

* `advance_returned` — a call returns with its event.
* `exec_refines` — the history of every run is a run of the store.
* **`library_atomic`** — so are the effects of any interleaving of calls: in an order that respects
  real time, with the results the calls have returned.
-/

import SpicedbEmbedded.Shared.Effects

set_option linter.unusedSectionVars false

namespace SpicedbEmbedded.Shared

open Machine

variable {C Req Msg : Type} [DecidableEq C]

/-! ### What a call returns, and when -/

section Step

variable {svc : Service Req Msg} {s t : State C Req Msg}

theorem Pc.event_call {c : C} {h : UInt64} {pc after : Pc C Req Msg} {e : Event C Req Msg}
    (seen : pc.event c h after = some e) : e.call = c := by
  unfold Pc.event at seen
  split at seen
  all_goals cases seen
  all_goals rfl

/-- An event belongs to the call that takes the step. -/
theorem event_call {action : Action C Req} {e : Event C Req Msg}
    (seen : event svc s action t = some e) : e.call = action.call := by
  cases action with
  | reject c opts =>
    simp only [event] at seen
    split at seen
    · cases seen; rfl
    · cases seen
  | take c opts id => cases seen; rfl
  | begin c h op =>
    cases op with
    | dispose => cases seen
    | stream req => cases seen
    | rpc req =>
      obtain ⟨text, _, same⟩ := Option.map_eq_some_iff.mp seen
      rw [← same]
      rfl
  | advance c h outcome =>
    simp only [event] at seen
    split at seen
    · exact Pc.event_call seen
    · cases seen

/-- The result at a place, once the call has returned. -/
def Pc.result : Pc C Req Msg → Option (Except String (Response Msg))
  | .returned result => some result
  | _ => none

/-- The event of a step of a call is its return exactly when the call returns. -/
theorem advance_returned {c : C} {kind : Kind} {h : UInt64} {pc : Pc C Req Msg}
    {outcome : Except String Unit} (fit : (⟨kind, some h, pc⟩ : Call C Req Msg).Fits)
    (next : Advance svc s c kind h outcome pc t) :
    ∃ after, t.calls = Function.update s.calls c (some ⟨kind, some h, after⟩) ∧
      (pc.event c h after).bind Event.returned =
        after.result.map fun result => (c, kind, some h, result) := by
  cases next with
  | staged opts stage left other =>
    cases (fit : kind = .start)
    obtain ⟨_, after, places, calls⟩ := s.runStage_spec c h opts stage left outcome
    refine ⟨after, calls, ?_⟩
    rcases places with rfl | ⟨text, rfl⟩ <;> rfl
  | listened =>
    cases (fit : kind = .start)
    obtain ⟨_, after, places, calls⟩ := s.listen_spec (svc.streamingProxyAddr h) c h outcome
    refine ⟨after, calls, ?_⟩
    rcases places with rfl | ⟨text, rfl⟩ <;> rfl
  | inserts => cases (fit : kind = .start); exact ⟨_, rfl, rfl⟩
  | misses => cases (fit : kind = .dispose); exact ⟨_, rfl, rfl⟩
  | closes inst => exact ⟨.closed inst, by simp [State.record], rfl⟩
  | finishes inst =>
    cases (fit : kind = .dispose)
    exact ⟨.returned (.ok .disposed), by simp [State.record, State.unlink], rfl⟩
  | readMisses => cases (fit : kind = .rpc); exact ⟨_, rfl, rfl⟩
  | calls req inst =>
    cases (fit : kind = .rpc)
    exact ⟨_, congrArg (Function.update · c _) (callRPC_spec svc s c inst req).1, rfl⟩
  | dialMisses => cases (fit : kind = .stream); exact ⟨_, rfl, rfl⟩
  | streams req inst =>
    cases (fit : kind = .stream)
    exact ⟨_, congrArg (Function.update · c _) (callStream_spec svc s inst req).2.1, rfl⟩
  | _ => exact ⟨_, rfl, rfl⟩

end Step

/-! ### Whole runs -/

section Run

variable {svc : Service Req Msg} {s t : State C Req Msg}

/-- The store is what the state shows, and the state is a sound one. -/
def Refines (svc : Service Req Msg) (s : State C Req Msg) (x : Store C Msg) : Prop :=
  ∃ life, Confined svc s ∧ Tracks s life ∧ Listening svc s ∧ Pictures svc s x

theorem init_refines (svc : Service Req Msg) :
    Refines svc (State.init : State C Req Msg) Store.init :=
  ⟨_, init_confined svc, init_tracks, init_listening svc,
    fun h => .unissued (fun c start => by cases start) rfl, rfl⟩

/-- One step of the library, against the specification. -/
theorem refines_step (distinct : Function.Injective svc.streamingProxyAddr) {action : Action C Req}
    {x : Store C Msg} (refines : Refines svc s x) (taken : step svc s action = some t)
    (grows : s.nextID.toNat ≤ t.nextID.toNat) :
    match event svc s action t with
    | none => Refines svc t x
    | some e => ∃ y, Store.Step svc x e y ∧ Refines svc t y := by
  obtain ⟨life, confined, tracks, listening, pictures⟩ := refines
  have next := step_sound taken
  obtain ⟨later, _, tracked⟩ := tracks_step confined.formed tracks grows next
  have follows := step_follows distinct confined tracks listening pictures grows next
  have sound : ∀ {y}, Pictures svc t y → Refines svc t y := fun pictured =>
    ⟨later, confined_step distinct confined next, tracked,
      listening_step distinct confined listening next, pictured⟩
  cases seen : event svc s action t with
  | none =>
    rw [seen] at follows
    exact sound follows
  | some e =>
    rw [seen] at follows
    obtain ⟨y, legal, pictured⟩ := follows
    exact ⟨y, legal, sound pictured⟩

/-- The counter does not wrap around on the way. -/
theorem nextID_grows {actions before : List (Action C Req)} {action : Action C Req}
    (few : starts actions < 2 ^ 64) (inside : before ++ [action] <+: actions)
    (run : exec (step svc) .init before = some s) (taken : step svc s action = some t) :
    s.nextID.toNat ≤ t.nextID.toNat := by
  have fewer : starts (before ++ [action]) < 2 ^ 64 :=
    lt_of_le_of_lt (inside.sublist.countP_le (p := Action.isTake)) few
  rw [starts_append] at fewer
  have counted := exec_nextID run (by omega)
  rw [step_nextID (step_sound taken) counted fewer, counted]
  omega

/-- **The history of every run is a run of the store.** -/
theorem exec_refines (distinct : Function.Injective svc.streamingProxyAddr)
    {actions : List (Action C Req)} (run : exec (step svc) .init actions = some s)
    (few : starts actions < 2 ^ 64) :
    ∃ x, Runs (Store.Step svc) .init (history (step svc) (event svc) .init actions) x ∧
      Refines svc s x := by
  refine @exists_runs _ _ _ _ (step svc) (event svc) _ (Refines svc)
    (fun m _ u => m.nextID.toNat ≤ u.nextID.toNat) ?_ ?_ actions .init s .init (init_refines svc) run
    fun before action m u inside reached taken => nextID_grows few inside reached taken
  · intro m action u x refines taken grows silent
    have kept := refines_step distinct refines taken grows
    rw [silent] at kept
    exact kept
  · intro m action u x e refines taken grows seen
    have kept := refines_step distinct refines taken grows
    rw [seen] at kept
    exact kept

/-- The call has returned the result. -/
def State.Returned (s : State C Req Msg) (r : C × Kind × Option UInt64 × Except String (Response Msg)) :
    Prop := s.calls r.1 = some ⟨r.2.1, r.2.2.1, .returned r.2.2.2⟩

/-- A call that has returned takes no more steps, and stays as it is. -/
theorem returned_rests {r : C × Kind × Option UInt64 × Except String (Response Msg)}
    (formed : WellFormed s) (returned : s.Returned r) {action : Action C Req}
    (taken : step svc s action = some t) : action.call ≠ r.1 ∧ t.Returned r := by
  have other : r.1 ≠ action.call := step_returned (step_sound taken) returned
  obtain ⟨new, calls, _, _⟩ := step_registry formed.fits (step_sound taken)
  refine ⟨Ne.symm other, ?_⟩
  rw [State.Returned, calls, Function.update_of_ne other]
  exact returned

/-- A step is the return of a call exactly when the call has returned after it and not before. -/
theorem returned_step {action : Action C Req} (formed : WellFormed s)
    (taken : step svc s action = some t)
    (r : C × Kind × Option UInt64 × Except String (Response Msg)) :
    t.Returned r ↔ s.Returned r ∨ (event svc s action t).bind Event.returned = some r := by
  have next := step_sound taken
  -- a call that has begun has not returned before its step, and its event is its return
  have settles : ∀ {new : Call C Req Msg}, t.calls = Function.update s.calls action.call (some new) →
      (∀ r, s.Returned r → r.1 ≠ action.call) →
      (∀ kind handle result, new = ⟨kind, handle, .returned result⟩ ↔
        (event svc s action t).bind Event.returned = some (action.call, kind, handle, result)) →
      (t.Returned r ↔ s.Returned r ∨ (event svc s action t).bind Event.returned = some r) := by
    intro new calls running returns
    obtain ⟨c, kind, handle, result⟩ := r
    have seen : (event svc s action t).bind Event.returned = some (c, kind, handle, result) →
        c = action.call := fun same => by
      obtain ⟨e, here, gives⟩ := Option.bind_eq_some_iff.mp same
      rw [← event_call here]
      cases e <;> cases gives <;> rfl
    unfold State.Returned
    by_cases same : c = action.call
    · subst same
      rw [calls, Function.update_self, Option.some_inj, returns kind handle result]
      exact ⟨Or.inr, fun known => known.resolve_left fun before => running _ before rfl⟩
    · rw [calls, Function.update_of_ne same]
      exact ⟨Or.inl, fun known => known.resolve_right fun back => same (seen back)⟩
  have running : ∀ r, s.Returned r → r.1 ≠ action.call := fun r returned =>
    step_returned next returned
  cases next with
  | reject c opts text fresh invalid =>
    refine settles rfl running fun kind handle result => ?_
    simp [event, invalid, Event.returned, Action.call, eq_comm]
  | take c opts fresh valid =>
    refine settles rfl running fun kind handle result => ?_
    simp [event, Event.returned]
  | begin c h op fresh =>
    refine settles rfl running fun kind handle result => ?_
    cases op with
    | dispose => simp [event, Op.begin]
    | stream req => simp [event, Op.begin]
    | rpc req =>
      cases refused : svc.refuse req with
      | none => simp [event, Op.begin, refused]
      | some text => simp [event, Op.begin, refused, Event.returned, Action.call, eq_comm]
  | advance c kind h outcome pc _ here next =>
    obtain ⟨after, calls, returns⟩ := advance_returned (formed.fits c _ here) next
    refine settles calls running fun kind' handle result => ?_
    have there : t.calls c = some ⟨kind, some h, after⟩ := by rw [calls, Function.update_self]
    simp only [event, here, there]
    rw [returns]
    cases after <;> simp [Pc.result, Action.call, eq_comm]

/-- The events of a run of the library. -/
abbrev events (svc : Service Req Msg) (s : State C Req Msg) (actions : List (Action C Req)) :
    List (Event C Req Msg) := history (step svc) (event svc) s actions

/-- The calls that have returned are those whose return is in the history. -/
theorem returned_iff_mem {actions : List (Action C Req)}
    (run : exec (step svc) .init actions = some s)
    (r : C × Kind × Option UInt64 × Except String (Response Msg)) :
    s.Returned r ↔ r ∈ (events svc .init actions).filterMap Event.returned := by
  have recorded := @mem_history_iff _ _ _ (step svc) (event svc) _ WellFormed State.Returned
    Event.returned (fun _ _ _ formed taken => step_wellFormed formed (step_sound taken))
    (fun _ _ _ formed taken r => returned_step formed taken r) actions .init s init_wellFormed run r
  rw [recorded]
  exact or_iff_right fun known => by cases known

/-- No call returns twice. -/
theorem returned_once : ∀ (actions : List (Action C Req)) (s : State C Req Msg),
    exec (step svc) .init actions = some s →
      (((events svc .init actions).filterMap Event.returned).map Prod.fst).Nodup := by
  refine exec_induction (fun actions _ =>
    (((events svc .init actions).filterMap Event.returned).map Prod.fst).Nodup) List.nodup_nil ?_
  intro actions action middle t before ih last
  rw [events, history_concat (step svc) (event svc) before last, List.filterMap_append,
    List.map_append]
  refine List.nodup_append.mpr ⟨ih, ?_, ?_⟩
  · cases event svc middle action t with
    | none => exact List.nodup_nil
    | some e => cases known : e.returned <;> simp [known]
  · intro c earlier d now
    obtain ⟨r, inside, rfl⟩ := List.mem_map.mp earlier
    obtain ⟨r', later, rfl⟩ := List.mem_map.mp now
    obtain ⟨e, here, gives⟩ := List.mem_filterMap.mp later
    have returned := (returned_iff_mem before r).mpr inside
    have mine : r'.1 = action.call := by
      rw [← event_call (Option.mem_toList.mp here)]
      cases e <;> cases gives <;> rfl
    rw [mine]
    exact step_returned (step_sound last) returned

/-- **The events of a run, as the calls see them.**

* `legal`: they are a run of the atomic store.
* `histories`, `entries`: it ends with the messages the datastores hold, and with the handles open
  that have an instance in the registry.
* `results`, `once`: a call has returned a result exactly when the history says so, and once.
* `realTime`: wherever the run is cut, the calls that have not begun have no event before the cut,
  and the calls that have returned have none after it. -/
structure Atomic (svc : Service Req Msg) (actions : List (Action C Req)) (s : State C Req Msg)
    (x : Store C Msg) : Prop where
  legal : Runs (Store.Step svc) .init (events svc .init actions) x
  histories : x.histories = s.histories
  entries : ∀ h, (∃ ref, x.slots h = .opened ref) ↔ s.instances h ≠ none
  results : ∀ c kind handle result, s.calls c = some ⟨kind, handle, .returned result⟩ ↔
    (c, kind, handle, result) ∈ (events svc .init actions).filterMap Event.returned
  once : (((events svc .init actions).filterMap Event.returned).map Prod.fst).Nodup
  realTime : ∀ before after, actions = before ++ after → ∃ m,
    exec (step svc) .init before = some m ∧
      events svc .init actions = events svc .init before ++ events svc m after ∧
      (∀ e ∈ events svc .init before, m.calls e.call ≠ none) ∧
      ∀ e ∈ events svc m after, ∀ kind handle result,
        m.calls e.call ≠ some ⟨kind, handle, .returned result⟩

/-- Wherever a run is cut, its history orders the calls as real time does. -/
theorem events_realTime {actions before after : List (Action C Req)}
    (run : exec (step svc) .init actions = some s) (cut : actions = before ++ after) :
    ∃ m, exec (step svc) .init before = some m ∧
      events svc .init actions = events svc .init before ++ events svc m after ∧
      (∀ e ∈ events svc .init before, m.calls e.call ≠ none) ∧
      ∀ e ∈ events svc m after, ∀ kind handle result,
        m.calls e.call ≠ some ⟨kind, handle, .returned result⟩ := by
  subst cut
  rw [exec_append] at run
  obtain ⟨m, reached, _⟩ := Option.bind_eq_some_iff.mp run
  have preserved : ∀ (s : State C Req Msg) action t, WellFormed s → step svc s action = some t →
      WellFormed t := fun _ _ _ formed taken => step_wellFormed formed (step_sound taken)
  have own : ∀ (s : State C Req Msg) action t e, event svc s action t = some e →
      Event.call e = action.call := fun _ _ _ _ seen => event_call seen
  refine ⟨m, reached, history_append (step svc) (event svc) reached after, ?_, ?_⟩
  · intro e inside idle
    refine @forall_history_of_idle _ _ _ _ (step svc) (event svc) Action.call Event.call own e.call
      WellFormed (fun s => s.calls e.call = none) preserved ?_ before .init m init_wellFormed reached
      idle e inside rfl
    intro s action t formed taken unbegun
    obtain ⟨new, calls, _, _⟩ := step_registry formed.fits (step_sound taken)
    have other : action.call ≠ e.call := fun same => by
      rw [calls, ← same, Function.update_self] at unbegun
      cases unbegun
    rw [calls, Function.update_of_ne (Ne.symm other)] at unbegun
    exact ⟨other, unbegun⟩
  · intro e inside kind handle result returned
    refine @forall_history_of_rest _ _ _ _ (step svc) (event svc) Action.call Event.call own e.call
      (fun s => WellFormed s ∧ s.Returned (e.call, kind, handle, result)) ?_ after m
      ⟨exec_wellFormed reached, returned⟩ e inside rfl
    intro s action t kept taken
    obtain ⟨other, still⟩ := returned_rests kept.1 kept.2 taken
    exact ⟨other, preserved s action t kept.1 taken, still⟩

/-- **The library is an atomic store.** After any run of fewer than `2 ^ 64` starts from a fresh copy,
whatever the interleaving of its starts, disposes, RPCs and streaming calls, the effects of the calls
are a run of the atomic store that ends where the library does, gives every call the result it has
returned, and respects real time. -/
theorem library_atomic (base : Service Req Msg) (tempDir : String) (pid : Nat)
    {actions : List (Action C Req)} {s : State C Req Msg}
    (run : exec (step (unixService base tempDir pid)) .init actions = some s)
    (few : starts actions < 2 ^ 64) :
    ∃ x, Atomic (unixService base tempDir pid) actions s x := by
  obtain ⟨x, legal, life, confined, tracks, _, pictures⟩ :=
    exec_refines (unixService_distinct base tempDir pid) run few
  refine ⟨x, legal, pictures.histories, fun h => ⟨?_, ?_⟩,
    fun c kind handle result => returned_iff_mem run (c, kind, handle, result),
    returned_once actions s run, fun before after cut => events_realTime run cut⟩
  · rintro ⟨ref, opened⟩ absent
    exact (pictures.slots h).of_absent absent ref opened
  · intro present
    obtain ⟨inst, entry⟩ := Option.ne_none_iff_exists'.mp present
    have started := started_of_entry confined.formed tracks entry
    exact ⟨_, (((pictures.slots h).phase tracks (startOf_of_started started)).of_entry
      confined.formed tracks entry).1⟩

/-- A start with two RPCs, one of which is still calling when a dispose deletes the handle. -/
def drainedRpc : List (Action Nat Nat) :=
  [.take 0 {} 1] ++ Action.advances 0 1 7
    ++ [.begin 1 1 (.rpc 5), .begin 2 1 (.rpc 6)] ++ Action.advances 1 1 2
    ++ [.begin 3 1 .dispose] ++ Action.advances 3 1 2 ++ Action.advances 2 1 2
    ++ Action.advances 1 1 1 ++ Action.advances 3 1 3

theorem library_atomic_drainedRpc :
    ∃ s x, exec (step (unixService countingService "/tmp" 42)) .init drainedRpc = some s ∧
      Atomic (unixService countingService "/tmp" 42) drainedRpc s x := by
  have enabled : (exec (step (unixService countingService "/tmp" 42)) .init
      drainedRpc).isSome = true := by decide
  obtain ⟨s, run⟩ := Option.isSome_iff_exists.mp enabled
  obtain ⟨x, atomic⟩ := library_atomic countingService "/tmp" 42 run (by decide)
  exact ⟨s, x, run, atomic⟩

end Run

end SpicedbEmbedded.Shared
