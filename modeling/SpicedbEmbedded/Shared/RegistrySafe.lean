/-
**What the registry guarantees to its callers.**

`RegistrySafe` says it of the calls alone, without roles and lives: who gets a handle, who runs the
cleanup of an instance, what every other dispose does, what an RPC finds, and whose connection it
uses. `Lasts m s` says that what has happened by `m` has still happened in `s`.

* **`registry_safe`** — every run of fewer than `2 ^ 64` starts from a fresh copy ends in a
  `RegistrySafe` state, and everything that happened on the way lasts.
-/

import Mathlib.Data.List.Nodup
import SpicedbEmbedded.Shared.Handles

set_option linter.unusedSectionVars false

namespace SpicedbEmbedded.Shared

open Machine

variable {C Req Msg : Type}

/-! ### What has happened to a handle -/

/-- The start has returned the handle. -/
def State.Started (s : State C Req Msg) (c : C) (h : UInt64) : Prop :=
  ∃ addr, s.calls c = some ⟨.start, some h, .returned (.ok (.started h addr))⟩

/-- The places of a dispose after the delete of an entry that was there. -/
inductive Pc.Deleted : Pc C Req Msg → Prop
  | found (inst : C) : Deleted (.found inst)
  | closed (inst : C) : Deleted (.closed inst)
  | stopped (inst : C) : Deleted (.stopped inst)
  | returned : Deleted (.returned (.ok .disposed))

/-- The dispose has taken the handle out of the map. -/
def State.TookOut (s : State C Req Msg) (c : C) (h : UInt64) : Prop :=
  ∃ pc, s.calls c = some ⟨.dispose, some h, pc⟩ ∧ pc.Deleted

/-- The instances, their connections, datastores, sockets and ports are the same. -/
structure SameInstances (s t : State C Req Msg) : Prop where
  objects : t.objects = s.objects
  connOpen : t.connOpen = s.connOpen
  histories : t.histories = s.histories
  sockets : t.sockets = s.sockets
  metricsAddrs : t.metricsAddrs = s.metricsAddrs

variable [DecidableEq C]

/-- **What a state of the registry guarantees.**

* `handles`: two starts never return the same handle.
* `delete`: at most one dispose takes a handle out.
* `cleanup`, `once`, `complete`: only that dispose runs cleanup steps on the instance of the handle,
  none of them twice, and all of them by the time it returns.
* `other`, `silent`: every other dispose returns `invalid handle` and has run no cleanup step, and a
  step that is no cleanup step touches no instance.
* `lookup`: an RPC goes on exactly when its handle has been returned and not taken out.
* `calling`, `uses`: it works with the instance of its handle, on that instance's own connection. -/
structure RegistrySafe (svc : Service Req Msg) (s : State C Req Msg) : Prop where
  handles : ∀ a b h, s.Started a h → s.Started b h → a = b
  delete : ∀ d e h, s.TookOut d h → s.TookOut e h → d = e
  cleanup : ∀ cleanup ∈ s.cleanups, ∃ h, s.Started cleanup.inst h ∧ s.TookOut cleanup.dispose h
  once : s.cleanups.Nodup
  complete : ∀ a d h, s.Started a h →
    s.calls d = some ⟨.dispose, some h, .returned (.ok .disposed)⟩ →
      s.cleanups.filter (fun cleanup => cleanup.inst = a) =
        [⟨d, a, .close⟩, ⟨d, a, .stop⟩, ⟨d, a, .finish⟩]
  other : ∀ d h result, s.calls d = some ⟨.dispose, some h, .returned result⟩ →
    result = .ok .disposed ∨ result = .error (invalidHandle h) ∧
      ∀ cleanup ∈ s.cleanups, cleanup.dispose ≠ d
  silent : ∀ d h pc outcome t, s.calls d = some ⟨.dispose, some h, pc⟩ →
    step svc s (.advance d h outcome) = some t → t.cleanups = s.cleanups → SameInstances s t
  lookup : ∀ c h req outcome t, s.calls c = some ⟨.rpc, some h, .reading req⟩ →
    step svc s (.advance c h outcome) = some t →
      (∃ a, s.Started a h ∧ (∀ d, ¬ s.TookOut d h) ∧
        t.calls c = some ⟨.rpc, some h, .calling req a⟩) ∨
      ((∀ a, ¬ s.Started a h) ∨ ∃ d, s.TookOut d h) ∧ SameInstances s t ∧
        t.calls c = some ⟨.rpc, some h, .returned (.error (invalidHandle h))⟩
  calling : ∀ c h req inst, s.calls c = some ⟨.rpc, some h, .calling req inst⟩ →
    s.Started inst h ∧ ∀ conn, (s.objects inst).clientConn = some conn → conn = inst
  uses : ∀ c conn, (c, conn) ∈ s.uses →
    ∃ h pc, s.calls c = some ⟨.rpc, some h, pc⟩ ∧ s.Started conn h

/-- What has happened in `m` has happened in `s`: a call that has returned stays as it is, and a
handle that has been taken out stays taken out. -/
structure Lasts (m s : State C Req Msg) : Prop where
  returned : ∀ c kind handle result, m.calls c = some ⟨kind, handle, .returned result⟩ →
    s.calls c = some ⟨kind, handle, .returned result⟩
  tookOut : ∀ d h, m.TookOut d h → s.TookOut d h

/-! ### Roles, read as events -/

theorem role_started {call : Option (Call C Req Msg)} (fits : ∀ k, call = some k → k.Fits)
    {h : UInt64} : (role call).started = some h ↔
      ∃ addr, call = some ⟨.start, some h, .returned (.ok (.started h addr))⟩ := by
  constructor
  · intro known
    unfold role at known
    split at known
    · rename_i k response
      cases known
      have fit := fits _ rfl
      cases response with
      | started handle addr =>
        obtain ⟨_, same⟩ : Kind.start = .start ∧ handle = h := fit
        exact ⟨addr, by rw [same]⟩
      | disposed => cases (fit : Kind.start = .dispose)
      | bytes => cases (fit : Kind.start = .rpc)
      | messages => cases (fit : Kind.start = .stream)
    all_goals cases known
  · rintro ⟨addr, rfl⟩
    rfl

theorem role_took {call : Option (Call C Req Msg)} (fits : ∀ k, call = some k → k.Fits)
    {h : UInt64} : (role call).took = some h ↔
      ∃ pc, call = some ⟨.dispose, some h, pc⟩ ∧ pc.Deleted := by
  constructor
  · intro known
    unfold role at known
    split at known
    case h_6 k response =>
      cases known
      have fit := fits _ rfl
      cases response with
      | started => cases (fit : Kind.dispose = .start ∧ _).1
      | disposed => exact ⟨_, rfl, .returned⟩
      | bytes => cases (fit : Kind.dispose = .rpc)
      | messages => cases (fit : Kind.dispose = .stream)
    case h_3 k inst => cases known; exact ⟨_, rfl, .found inst⟩
    case h_4 k inst => cases known; exact ⟨_, rfl, .closed inst⟩
    case h_5 k inst => cases known; exact ⟨_, rfl, .stopped inst⟩
    all_goals cases known
  · rintro ⟨pc, rfl, deleted⟩
    cases deleted <;> rfl

theorem role_rpc {call : Option (Call C Req Msg)} {h : UInt64} (known : (role call).rpc = some h) :
    ∃ pc, call = some ⟨.rpc, some h, pc⟩ := by
  unfold role at known
  split at known
  case h_7 k req inst => cases known; exact ⟨_, rfl⟩
  case h_8 k pc other => cases known; exact ⟨_, rfl⟩
  all_goals cases known

/-- The cleanup steps a dispose has run are different ones. -/
theorem role_done_nodup (call : Option (Call C Req Msg)) : (role call).done.Nodup := by
  unfold role
  split <;> simp

/-! ### What tracked states guarantee -/

section Guarantees

variable {svc : Service Req Msg} {s t : State C Req Msg} {life : UInt64 → Life C}

theorem started_iff (formed : WellFormed s) (tracks : Tracks s life) {a : C} {h : UInt64} :
    s.Started a h ↔ (life h).opened = some a :=
  (role_started (formed.fits a)).symm.trans (tracks.slots.started h a)

theorem tookOut_iff (formed : WellFormed s) (tracks : Tracks s life) {d : C} {h : UInt64} :
    s.TookOut d h ↔ (life h).closer = some d :=
  (role_took (formed.fits d)).symm.trans (tracks.slots.took h d)

/-- A start returns one handle. -/
theorem started_unique {a : C} {h k : UInt64} (one : s.Started a h) (two : s.Started a k) :
    h = k := by
  obtain ⟨_, first⟩ := one
  obtain ⟨_, second⟩ := two
  rw [first] at second
  cases second
  rfl

/-- A cleanup step on record is of the dispose that took out the handle of the instance. -/
theorem cleanup_own (formed : WellFormed s) (tracks : Tracks s life) {cleanup : Cleanup C}
    (ran : cleanup ∈ s.cleanups) :
    ∃ h, s.Started cleanup.inst h ∧ s.TookOut cleanup.dispose h := by
  obtain ⟨inst, steps, known⟩ := tracks.works.cleans cleanup.dispose
  have inside : cleanup ∈ s.cleanups.filter fun other => other.dispose = cleanup.dispose :=
    List.mem_filter.mpr ⟨ran, decide_eq_true rfl⟩
  rw [steps] at inside
  obtain ⟨op, done, same⟩ := List.mem_map.mp inside
  cases took : (role (s.calls cleanup.dispose)).took with
  | none =>
    rw [role_done took] at done
    cases done
  | some h =>
    have opened := known h took
    rw [← same]
    exact ⟨h, (started_iff formed tracks).mpr opened,
      (role_took (formed.fits cleanup.dispose)).mp took⟩

/-- No cleanup step is run twice. -/
theorem cleanups_nodup (tracks : Tracks s life) : s.cleanups.Nodup := by
  rw [List.nodup_iff_count_le_one]
  intro cleanup
  obtain ⟨inst, steps, _⟩ := tracks.works.cleans cleanup.dispose
  have within : s.cleanups.count cleanup =
      (s.cleanups.filter fun other => other.dispose = cleanup.dispose).count cleanup := by
    rw [List.count_filter]
    exact decide_eq_true rfl
  rw [within, steps]
  refine List.nodup_iff_count_le_one.mp ((role_done_nodup _).map ?_) cleanup
  exact fun op other same => congrArg Cleanup.op same

/-- A dispose that has returned success has run every cleanup step on the instance of its handle. -/
theorem cleanups_complete (formed : WellFormed s) (tracks : Tracks s life) {a d : C} {h : UInt64}
    (started : s.Started a h)
    (disposed : s.calls d = some ⟨.dispose, some h, .returned (.ok .disposed)⟩) :
    s.cleanups.filter (fun cleanup => cleanup.inst = a) =
      [⟨d, a, .close⟩, ⟨d, a, .stop⟩, ⟨d, a, .finish⟩] := by
  have took : s.TookOut d h := ⟨_, disposed, .returned⟩
  have same : ∀ cleanup ∈ s.cleanups, cleanup.inst = a ↔ cleanup.dispose = d := by
    intro cleanup ran
    obtain ⟨k, opened, closed⟩ := cleanup_own formed tracks ran
    constructor
    · rintro rfl
      rw [started_unique opened started] at closed
      exact Option.some.inj (((tookOut_iff formed tracks).mp closed).symm.trans
        ((tookOut_iff formed tracks).mp took))
    · rintro rfl
      obtain ⟨pc, here, _⟩ := closed
      rw [disposed] at here
      cases here
      exact Option.some.inj (((started_iff formed tracks).mp opened).symm.trans
        ((started_iff formed tracks).mp started))
  obtain ⟨inst, steps, known⟩ := tracks.works.cleans d
  have opened := known h (by rw [disposed]; rfl)
  rw [(started_iff formed tracks).mp started] at opened
  cases opened
  rw [List.filter_congr (fun cleanup ran => decide_eq_decide.mpr (same cleanup ran)), steps,
    disposed]
  rfl

/-- A dispose that has returned either returned success or has found nothing. -/
theorem dispose_other (formed : WellFormed s) (tracks : Tracks s life) {d : C} {h : UInt64}
    {result : Except String (Response Msg)}
    (here : s.calls d = some ⟨.dispose, some h, .returned result⟩) :
    result = .ok .disposed ∨ result = .error (invalidHandle h) ∧
      ∀ cleanup ∈ s.cleanups, cleanup.dispose ≠ d := by
  have fit : Kind.dispose.Returns h result := formed.fits d _ here
  cases result with
  | error text =>
    refine Or.inr ⟨congrArg _ (fit rfl), ?_⟩
    rintro cleanup ran rfl
    obtain ⟨k, _, pc, place, deleted⟩ := cleanup_own formed tracks ran
    rw [here] at place
    cases place
    cases deleted
  | ok response =>
    cases response with
    | started handle addr => cases (fit : Kind.dispose = .start ∧ _).1
    | disposed => exact Or.inl rfl
    | bytes bytes => cases (fit : Kind.dispose = .rpc)
    | messages messages => cases (fit : Kind.dispose = .stream)

/-- A step of a dispose that puts nothing on record touches no instance. -/
theorem dispose_silent (formed : WellFormed s) {d : C} {h : UInt64} {pc : Pc C Req Msg}
    {outcome : Except String Unit} (here : s.calls d = some ⟨.dispose, some h, pc⟩)
    (taken : step svc s (.advance d h outcome) = some t) (quiet : t.cleanups = s.cleanups) :
    SameInstances s t := by
  have longer : ∀ cleanup, s.cleanups ++ [cleanup] ≠ s.cleanups := by simp
  have fit := formed.fits d _ here
  cases step_sound taken with
  | advance _ kind _ _ place _ there next =>
    rw [here] at there
    cases there
    cases next with
    | locksToDelete => exact ⟨rfl, rfl, rfl, rfl, rfl⟩
    | misses => exact ⟨rfl, rfl, rfl, rfl, rfl⟩
    | removes => exact ⟨rfl, rfl, rfl, rfl, rfl⟩
    | closes inst =>
      have recorded := congrArg (· ++ [(⟨d, inst, .close⟩ : Cleanup C)]) (s.closeConn_same inst).cleanups
      exact absurd (recorded.symm.trans quiet) (longer _)
    | stops inst => exact absurd quiet (longer ⟨d, inst, .stop⟩)
    | finishes inst =>
      have recorded := congrArg (· ++ [(⟨d, inst, .finish⟩ : Cleanup C)])
        (s.cleanupObservability_same inst).cleanups
      exact absurd (recorded.symm.trans quiet) (longer _)
    | _ => cases fit

/-- An RPC goes on exactly when its handle has been returned and not taken out. -/
theorem rpc_lookup (formed : WellFormed s) (tracks : Tracks s life) {c : C} {h : UInt64} {req : Req}
    {outcome : Except String Unit} (here : s.calls c = some ⟨.rpc, some h, .reading req⟩)
    (taken : step svc s (.advance c h outcome) = some t) :
    (∃ a, s.Started a h ∧ (∀ d, ¬ s.TookOut d h) ∧
      t.calls c = some ⟨.rpc, some h, .calling req a⟩) ∨
    ((∀ a, ¬ s.Started a h) ∨ ∃ d, s.TookOut d h) ∧ SameInstances s t ∧
      t.calls c = some ⟨.rpc, some h, .returned (.error (invalidHandle h))⟩ := by
  have slot := tracks.slots.instances h
  cases step_sound taken with
  | advance _ kind _ _ place _ there next =>
    rw [here] at there
    cases there
    cases next with
    | readMisses _ readers shared absent =>
      rw [absent] at slot
      refine Or.inr ⟨?_, ⟨rfl, rfl, rfl, rfl, rfl⟩, Function.update_self ..⟩
      by_cases closed : ∃ d, s.TookOut d h
      · exact Or.inr closed
      · refine Or.inl fun a started => ?_
        have opened := (started_iff formed tracks).mp started
        have open_still : (life h).closer = none := Option.eq_none_iff_forall_ne_some.mpr
          fun d taken => closed ⟨d, (tookOut_iff formed tracks).mpr taken⟩
        rw [Life.present_eq_some.mpr ⟨opened, open_still⟩] at slot
        cases slot
    | finds _ readers shared inst present =>
      rw [present] at slot
      obtain ⟨opened, open_still⟩ := Life.present_eq_some.mp slot.symm
      refine Or.inl ⟨inst, (started_iff formed tracks).mpr opened, fun d took => ?_,
        Function.update_self ..⟩
      rw [tookOut_iff formed tracks, open_still] at took
      cases took

/-- **A tracked state is safe.** -/
theorem registrySafe_of_tracks (formed : WellFormed s) (tracks : Tracks s life) :
    RegistrySafe svc s where
  handles a b h one two := Option.some.inj
    (((started_iff formed tracks).mp one).symm.trans ((started_iff formed tracks).mp two))
  delete d e h one two := Option.some.inj
    (((tookOut_iff formed tracks).mp one).symm.trans ((tookOut_iff formed tracks).mp two))
  cleanup _ ran := cleanup_own formed tracks ran
  once := cleanups_nodup tracks
  complete _ _ _ started disposed := cleanups_complete formed tracks started disposed
  other _ _ _ here := dispose_other formed tracks here
  silent _ _ _ _ _ here taken quiet := dispose_silent formed here taken quiet
  lookup _ _ _ _ _ here taken := rpc_lookup formed tracks here taken
  calling c h req inst here :=
    ⟨(started_iff formed tracks).mpr (tracks.works.holds c h inst (by rw [here]; rfl)),
      formed.own inst⟩
  uses c conn used := by
    obtain ⟨h, working, opened⟩ := tracks.works.uses c conn used
    obtain ⟨pc, here⟩ := role_rpc working
    exact ⟨h, pc, here, (started_iff formed tracks).mpr opened⟩

end Guarantees

/-! ### What lasts -/

section Lasting

variable {svc : Service Req Msg} {m s t : State C Req Msg}

theorem lasts_refl (s : State C Req Msg) : Lasts s s := ⟨fun _ _ _ _ here => here, fun _ _ took => took⟩

/-- A call that has returned takes no step. -/
theorem step_returned {action : Action C Req} (next : Step svc s action t) {c : C} {kind : Kind}
    {handle : Option UInt64} {result : Except String (Response Msg)}
    (here : s.calls c = some ⟨kind, handle, .returned result⟩) : c ≠ action.call := by
  rintro rfl
  cases next with
  | reject _ _ _ fresh => exact absurd (fresh.symm.trans here) (by simp)
  | take _ _ fresh => exact absurd (fresh.symm.trans here) (by simp)
  | begin _ _ _ fresh => exact absurd (fresh.symm.trans here) (by simp)
  | advance c kind h outcome pc t there next =>
    rw [Action.call, there] at here
    cases here
    cases next

/-- One step undoes nothing that has happened. -/
theorem lasts_step (formed : WellFormed s) (before : Lasts m s) {action : Action C Req}
    (next : Step svc s action t) : Lasts m t := by
  obtain ⟨new, calls, fit, change⟩ := step_registry formed.fits next
  refine ⟨fun c kind handle result here => ?_, fun d h took => ?_⟩
  · have there := before.returned c kind handle result here
    rw [calls, Function.update_of_ne (step_returned next there)]
    exact there
  · have taken : (role (s.calls d)).took = some h :=
      (role_took (formed.fits d)).mpr (before.tookOut d h took)
    refine (role_took ((step_wellFormed formed next).fits d)).mp ?_
    by_cases same : d = action.call
    · subst same
      rw [role_here calls]
      cases change with
      | quiet same frame => rw [same]; exact taken
      | clean k inst op done holds still before after =>
        rw [before] at taken
        rw [after]
        exact taken
      | enter k before after => rw [before] at taken; cases taken
      | take before after => rw [before] at taken; cases taken
      | insert k before after => rw [before] at taken; cases taken
      | remove k inst found before after => rw [before] at taken; cases taken
      | find k inst found before after => rw [before] at taken; cases taken
      | call k inst before after => rw [before] at taken; cases taken
    · rw [role_other calls same]
      exact taken

/-- What has happened at some point of a run has happened at its end. -/
theorem lasts_exec {actions : List (Action C Req)} (run : exec (step svc) .init actions = some s)
    (through : Passes (step svc) .init actions m) : Lasts m s := by
  obtain ⟨earlier, ⟨later, rfl⟩, reached⟩ := through
  rw [exec_append, reached] at run
  exact (@exec_invariant _ _ _ (fun s => WellFormed s ∧ Lasts m s)
    (fun _ _ _ inv taken => ⟨step_wellFormed inv.1 (step_sound taken),
      lasts_step inv.1 inv.2 (step_sound taken)⟩) _ _ _ run ⟨exec_wellFormed reached, lasts_refl m⟩).2

end Lasting

/-- **Every interleaving is safe.** After any run of fewer than `2 ^ 64` starts from a fresh copy the
registry guarantees `RegistrySafe`, and what happened on the way has not been undone. -/
theorem registry_safe (svc : Service Req Msg) {actions : List (Action C Req)}
    {s : State C Req Msg} (run : exec (step svc) .init actions = some s)
    (few : starts actions < 2 ^ 64) :
    RegistrySafe svc s ∧ ∀ m, Passes (step svc) .init actions m → Lasts m s := by
  obtain ⟨life, tracks⟩ := tracks_exec run few
  exact ⟨registrySafe_of_tracks (exec_wellFormed run) tracks, fun m through => lasts_exec run through⟩

/-- A start, an RPC, two racing disposes and an RPC that comes too late. -/
def racingDisposes : List (Action Nat Nat) :=
  [.take 0 {} 1] ++ Action.advances 0 1 7
    ++ [.begin 1 1 (.rpc 5)] ++ Action.advances 1 1 2
    ++ [.begin 2 1 .dispose, .begin 3 1 .dispose] ++ Action.advances 3 1 2
    ++ Action.advances 1 1 1 ++ Action.advances 2 1 2 ++ Action.advances 3 1 3
    ++ [.begin 4 1 (.rpc 6)] ++ Action.advances 4 1 2

theorem registry_safe_racingDisposes :
    ∃ s, exec (step countingService) .init racingDisposes = some s ∧
      starts racingDisposes < 2 ^ 64 ∧ RegistrySafe countingService s ∧
      ∀ m, Passes (step countingService) .init racingDisposes m → Lasts m s := by
  have enabled : (exec (step countingService) .init racingDisposes).isSome = true := by decide
  obtain ⟨s, run⟩ := Option.isSome_iff_exists.mp enabled
  have few : starts racingDisposes < 2 ^ 64 := by decide
  exact ⟨s, run, few, registry_safe countingService run few⟩

end SpicedbEmbedded.Shared
