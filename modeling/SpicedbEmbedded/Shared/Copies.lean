/-
**Several loaded copies of the library.**

Each copy has its own counter, registry and calls; the temp directory, the ports and the datastores
are one for all of them. A call is named by its copy and a name within it.

* `SocketsOwned` — live instances have different streaming addresses, and the socket file at each of
  them is bound to that instance.
* `Undisturbed` — the step removes no socket file of a handle that is live in a copy of the same
  process.
* **`sockets_owned_iff`** — in every interleaving the sockets are owned throughout exactly when every
  step is undisturbed.
* **`sockets_owned_of_distinct_pids`** — which they all are when no process has loaded two copies.
-/

import SpicedbEmbedded.Shared.Handles
import SpicedbEmbedded.Shared.Sockets

set_option linter.unusedSectionVars false

namespace SpicedbEmbedded.Shared

open Machine

/-- All loaded copies, with what they share. -/
structure World (K C Req Msg : Type) where
  copies : K → State (K × C) Req Msg
  sockets : String → Option (K × C)
  metricsAddrs : String → Option (K × C)
  histories : DatastoreRef (K × C) → List Msg

variable {K C Req Msg : Type}

namespace World

/-- The copies have just been loaded. -/
def init : World K C Req Msg where
  copies _ := .init
  sockets _ := none
  metricsAddrs _ := none
  histories _ := []

/-- What one copy sees. -/
def see (w : World K C Req Msg) (k : K) : State (K × C) Req Msg :=
  { w.copies k with
    sockets := w.sockets, metricsAddrs := w.metricsAddrs, histories := w.histories }

/-- The live instances of all copies. -/
def Live (w : World K C Req Msg) (c : K × C) (h : UInt64) : Prop := (w.see c.1).Live c h

/-- The streaming address of an instance. -/
def address (w : World K C Req Msg) (c : K × C) : String := ((w.see c.1).objects c).streamingAddr

variable [DecidableEq K]

/-- The world after a step of one copy. -/
def put (w : World K C Req Msg) (k : K) (t : State (K × C) Req Msg) : World K C Req Msg where
  copies := Function.update w.copies k t
  sockets := t.sockets
  metricsAddrs := t.metricsAddrs
  histories := t.histories

variable [DecidableEq C]

/-- One step of the copy a call belongs to. -/
def step (svc : K → Service Req Msg) (w : World K C Req Msg) (action : Action (K × C) Req) :
    Option (World K C Req Msg) :=
  (Shared.step (svc action.call.1) (w.see action.call.1) action).map (w.put action.call.1)

end World

/-- The copies in one temp directory, each with the id of the process that has loaded it. -/
def copyServices (base : Service Req Msg) (tempDir : String) (pid : K → Nat) (k : K) :
    Service Req Msg :=
  unixService base tempDir (pid k)

/-- **No instance has lost its socket**, and no two have the same address. -/
structure SocketsOwned (w : World K C Req Msg) : Prop where
  distinct : ∀ c h d j, w.Live c h → w.Live d j → c ≠ d → w.address c ≠ w.address d
  bound : ∀ c h, w.Live c h → w.sockets (w.address c) = some c

/-- The handle whose socket file the step removes is live in no copy of the same process. -/
def Undisturbed (pid : K → Nat) (w : World K C Req Msg) (action : Action (K × C) Req) : Prop :=
  ∀ h, (w.see action.call.1).removes action = some h →
    ∀ c, pid c.1 = pid action.call.1 → ¬ w.Live c h

/-! ### Steps of the copies -/

section Steps

variable [DecidableEq K]

theorem see_put_self (w : World K C Req Msg) (k : K) (t : State (K × C) Req Msg) :
    (w.put k t).see k = t := by
  simp [World.see, World.put]

theorem see_put_other (w : World K C Req Msg) {k j : K} (other : j ≠ k)
    (t : State (K × C) Req Msg) :
    (w.put k t).see j = { w.see j with
      sockets := t.sockets, metricsAddrs := t.metricsAddrs, histories := t.histories } := by
  simp [World.see, World.put, Function.update_of_ne other]

/-- A step changes the live instances of its own copy only. -/
theorem live_put_other (w : World K C Req Msg) {k : K} (t : State (K × C) Req Msg) {c : K × C}
    (other : c.1 ≠ k) (h : UInt64) : (w.put k t).Live c h ↔ w.Live c h := by
  unfold World.Live
  rw [see_put_other w other]
  exact Iff.rfl

theorem live_put_self (w : World K C Req Msg) {k : K} (t : State (K × C) Req Msg) {c : K × C}
    (own : c.1 = k) (h : UInt64) : (w.put k t).Live c h ↔ t.Live c h := by
  subst own
  unfold World.Live
  rw [see_put_self]

variable [DecidableEq C]

/-- Every copy is well formed, and its instances carry the addresses of their handles. -/
def CopiesSound (svc : K → Service Req Msg) (w : World K C Req Msg) : Prop :=
  ∀ k, WellFormed (w.see k) ∧ Addressed (svc k) (w.see k)

theorem copiesSound_init (svc : K → Service Req Msg) :
    CopiesSound svc (World.init : World K C Req Msg) :=
  fun k => ⟨init_wellFormed, init_addressed (svc k)⟩

theorem World.step_some {svc : K → Service Req Msg} {w next : World K C Req Msg}
    {action : Action (K × C) Req} (taken : w.step svc action = some next) :
    ∃ t, Step (svc action.call.1) (w.see action.call.1) action t ∧ next = w.put action.call.1 t := by
  obtain ⟨t, stepped, rfl⟩ := Option.map_eq_some_iff.mp taken
  exact ⟨t, step_sound stepped, rfl⟩

theorem copiesSound_step {svc : K → Service Req Msg} {w next : World K C Req Msg}
    {action : Action (K × C) Req} (sound : CopiesSound svc w)
    (taken : w.step svc action = some next) : CopiesSound svc next := by
  obtain ⟨t, stepped, rfl⟩ := World.step_some taken
  intro j
  by_cases own : j = action.call.1
  · subst own
    obtain ⟨formed, addressed⟩ := sound action.call.1
    rw [see_put_self]
    exact ⟨step_wellFormed formed stepped, addressed_step formed addressed stepped⟩
  · obtain ⟨formed, addressed⟩ := sound j
    rw [see_put_other w own]
    exact ⟨⟨formed.fits, formed.own⟩,
      ⟨addressed.address, addressed.inserted, addressed.held⟩⟩

/-- Owning the sockets, in terms of the addresses of the handles. -/
theorem socketsOwned_iff {svc : K → Service Req Msg} {w : World K C Req Msg}
    (sound : CopiesSound svc w) :
    SocketsOwned w ↔
      ∀ c h, w.Live c h → w.sockets ((svc c.1).streamingProxyAddr h) = some c := by
  have address : ∀ {c h}, w.Live c h → w.address c = (svc c.1).streamingProxyAddr h :=
    fun {c h} live => (sound c.1).2.live live
  constructor
  · intro owned c h live
    rw [← address live]
    exact owned.bound c h live
  · intro bound
    refine ⟨fun c h d j live other different same => ?_, fun c h live => ?_⟩
    · have one := bound c h live
      have two := bound d j other
      rw [← address live, same, address other, two] at one
      exact different (Option.some.inj one).symm
    · rw [address live]
      exact bound c h live

end Steps

/-! ### Undisturbed steps -/

section Undisturbed

variable [DecidableEq K] [DecidableEq C] {base : Service Req Msg} {tempDir : String} {pid : K → Nat}

section Change

variable {svc : K → Service Req Msg} {w : World K C Req Msg} {t : State (K × C) Req Msg}
  {action : Action (K × C) Req} {new : Call (K × C) Req Msg}
  (calls : t.calls = Function.update (w.see action.call.1).calls action.call (some new))
  (change : SocketStep (svc action.call.1) (w.see action.call.1) t action new)
include calls change

/-- Only a start that binds its socket makes an instance of the copies live. -/
theorem live_came {c : K × C} {h : UInt64} (live : (w.put action.call.1 t).Live c h) :
    w.Live c h ∨ c = action.call ∧ new.opening = some h ∧
      ((w.see action.call.1).calls action.call).bind Call.listens = none := by
  by_cases own : c.1 = action.call.1
  · rcases live_before calls change ((live_put_self w t own h).mp live) with before | fresh
    · exact Or.inl (show (w.see c.1).Live c h from own ▸ before)
    · exact Or.inr fresh
  · exact Or.inl ((live_put_other w t own h).mp live)

/-- A call that opens nothing new makes nothing live. -/
theorem live_old (kept : new.opening = ((w.see action.call.1).calls action.call).bind Call.opening ∨
    new.opening = none) {c : K × C} {h : UInt64} (live : (w.put action.call.1 t).Live c h) :
    w.Live c h := by
  rcases live_came calls change live with before | ⟨_, opened, shut⟩
  · exact before
  · rcases kept with kept | kept
    · obtain ⟨call, here, open_now⟩ := Option.bind_eq_some_iff.mp (kept.symm.trans opened)
      rw [here] at shut
      exact absurd ((Call.listens_of_opening open_now).symm.trans shut) (by simp)
    · exact absurd (opened.symm.trans kept) (by simp)

end Change

/-- A step that leaves the sockets alone and makes no instance live. -/
theorem quiet_owned {w : World K C Req Msg} {t : State (K × C) Req Msg}
    {action : Action (K × C) Req}
    (owned : ∀ c h, w.Live c h →
      w.sockets ((copyServices base tempDir pid c.1).streamingProxyAddr h) = some c)
    (idle : (w.see action.call.1).removes action = none) (sockets : t.sockets = w.sockets)
    (before : ∀ c h, (w.put action.call.1 t).Live c h → w.Live c h) :
    (∀ c h, (w.put action.call.1 t).Live c h → (w.put action.call.1 t).sockets
        ((copyServices base tempDir pid c.1).streamingProxyAddr h) = some c) ↔
      Undisturbed pid w action := by
  refine ⟨fun _ h removing => absurd (idle.symm.trans removing) (by simp), fun _ c h live => ?_⟩
  show t.sockets _ = _
  rw [sockets]
  exact owned c h (before c h live)

/-- **One step keeps the sockets owned exactly when it is undisturbed.** -/
theorem socketsOwned_step {w next : World K C Req Msg} {action : Action (K × C) Req}
    (sound : CopiesSound (copyServices base tempDir pid) w) (owned : SocketsOwned w)
    (taken : w.step (copyServices base tempDir pid) action = some next) :
    SocketsOwned next ↔ Undisturbed pid w action := by
  rw [socketsOwned_iff (copiesSound_step sound taken)]
  rw [socketsOwned_iff sound] at owned
  obtain ⟨t, stepped, rfl⟩ := World.step_some taken
  obtain ⟨formed, addressed⟩ := sound action.call.1
  obtain ⟨new, calls, change⟩ := step_sockets formed addressed stepped
  have came := fun c h (live : (w.put action.call.1 t).Live c h) => live_came calls change live
  have old := fun kept c h (live : (w.put action.call.1 t).Live c h) =>
    live_old calls change kept live
  cases change with
  | quiet idle opening listens frame =>
    exact quiet_owned owned idle frame.sockets (old (Or.inl opening))
  | insert h own idle before opening listens sockets =>
    exact quiet_owned owned idle sockets (old (Or.inr opening))
  | delete h own idle opening listens sockets =>
    exact quiet_owned owned idle sockets (old (Or.inl opening))
  | remove h own removing opening listens sockets addresses instances =>
    constructor
    · intro after k found c process live
      cases removing.symm.trans found
      have still : (w.put action.call.1 t).Live c h := by
        by_cases own : c.1 = action.call.1
        · have here : (w.see action.call.1).Live c h := own ▸ live
          exact (live_put_self w t own h).mpr ((live_same calls opening instances c h).mpr here)
        · exact (live_put_other w t own h).mpr live
      have bound : t.sockets (streamingProxyAddr tempDir (pid c.1) h) = some c := after c h still
      rw [sockets, process] at bound
      exact absurd ((Function.update_self ..).symm.trans bound) (by simp)
    · intro undisturbed c k live
      have before := old (Or.inl opening) c k live
      show t.sockets (streamingProxyAddr tempDir (pid c.1) k) = some c
      rw [sockets, Function.update_of_ne]
      · exact owned c k before
      · intro same
        obtain ⟨process, number⟩ := streamingProxyAddr_inj same
        exact undisturbed h removing c process (number ▸ before)
  | bind h own idle shut opening free sockets address addresses instances =>
    refine ⟨fun _ k removing => absurd (idle.symm.trans removing) (by simp), fun _ c k live => ?_⟩
    show t.sockets (streamingProxyAddr tempDir (pid c.1) k) = some c
    rcases came c k live with before | ⟨rfl, opened, _⟩
    · have bound := owned c k before
      rw [sockets, Function.update_of_ne]
      · exact bound
      · intro same
        have taken : w.sockets (streamingProxyAddr tempDir (pid c.1) k) = some c := bound
        rw [show streamingProxyAddr tempDir (pid c.1) k = _ from same] at taken
        exact absurd (free.symm.trans taken) (by simp)
    · cases opening.symm.trans opened
      rw [sockets]
      exact Function.update_self ..

end Undisturbed

/-- Nothing is live in the copies that have just been loaded. -/
theorem socketsOwned_init : SocketsOwned (World.init : World K C Req Msg) := by
  have none_live : ∀ c h, ¬ (World.init : World K C Req Msg).Live c h := by
    rintro c h (opening | inserted)
    · cases opening
    · cases inserted
  exact ⟨fun c h d j live => absurd live (none_live c h), fun c h live => absurd live (none_live c h)⟩

/-- **The sockets stay owned exactly when every step is undisturbed**, in every interleaving of any
number of copies. -/
theorem sockets_owned_iff [DecidableEq K] [DecidableEq C] (base : Service Req Msg)
    (tempDir : String) (pid : K → Nat) (actions : List (Action (K × C) Req)) :
    (∀ m, Passes (World.step (copyServices base tempDir pid)) .init actions m → SocketsOwned m) ↔
      Meets (World.step (copyServices base tempDir pid)) (Undisturbed pid) .init actions := by
  exact @passes_iff_meets _ _ _ (CopiesSound (copyServices base tempDir pid)) _ _
    (fun w action next sound taken => copiesSound_step sound taken)
    (fun w action next sound owned taken => socketsOwned_step sound owned taken)
    actions .init (copiesSound_init _) socketsOwned_init

/-- Two copies in one process: each makes one start. -/
def twoCopies : List (Action (Bool × Nat) Nat) :=
  [.take (false, 0) {} 1] ++ Action.advances (false, 0) 1 7
    ++ [.take (true, 0) {} 1] ++ Action.advances (true, 0) 1 7

/-- The second start takes over the socket of the first instance, which is still live. -/
theorem twoCopies_disturbed :
    ¬ ∀ m, Passes (World.step (copyServices countingService "/tmp" fun _ => 42)) .init twoCopies m →
      SocketsOwned m := by
  intro claimed
  have shape : (exec (World.step (copyServices countingService "/tmp" fun _ => 42)) .init
      twoCopies).map (fun m => ((m.see false).instances 1, m.sockets (m.address (false, 0)))) =
        some (some (false, 0), some (true, 0)) := by decide
  obtain ⟨m, run, values⟩ := Option.map_eq_some_iff.mp shape
  obtain ⟨live, taken⟩ := Prod.mk.inj values
  have bound := (claimed m (passes_end _ run)).bound (false, 0) 1 (Or.inr live)
  rw [taken] at bound
  exact absurd bound (by decide)

/-! ### One copy in each process -/

section DistinctProcesses

variable {svc : Service Req Msg} {s : State C Req Msg}

/-- A start with a listener that is not in the registry yet has drawn its handle and not opened it. -/
theorem role_of_opening {c : C} {h : UInt64} (opening : (s.calls c).bind Call.opening = some h) :
    role (s.calls c) = { starts := some h } := by
  obtain ⟨⟨kind, handle, pc⟩, here, open_now⟩ := Option.bind_eq_some_iff.mp opening
  rw [here]
  unfold Call.opening at open_now
  split at open_now
  · rename_i same
    cases same
    cases open_now
    rfl
  · rename_i same
    cases same
    cases open_now
    rfl
  · cases open_now

/-- A call that removes the socket file of its handle is the start that has drawn the handle, before
it has a listener, or the dispose that has taken it out. -/
theorem role_of_removes {kind : Kind} {h : UInt64} {pc : Pc C Req Msg}
    (fit : (⟨kind, some h, pc⟩ : Call C Req Msg).Fits) (removing : pc.removes = true) :
    (role (some ⟨kind, some h, pc⟩) = { starts := some h } ∧
      (⟨kind, some h, pc⟩ : Call C Req Msg).opening = none) ∨
    (role (some ⟨kind, some h, pc⟩)).took = some h := by
  unfold Pc.removes at removing
  split at removing
  · cases (fit : kind = .start)
    exact Or.inl ⟨rfl, rfl⟩
  · cases (fit : kind = .dispose)
    exact Or.inr rfl
  · cases (fit : kind = .dispose)
    exact Or.inr rfl
  · cases removing

variable [DecidableEq C]

/-- A step that removes a socket file is one of a call at such a place. -/
theorem step_removes {t : State C Req Msg} {action : Action C Req} (next : Step svc s action t)
    {h : UInt64} (removing : s.removes action = some h) :
    ∃ kind pc, s.calls action.call = some ⟨kind, some h, pc⟩ ∧ pc.removes = true := by
  cases next with
  | reject => cases removing
  | take => cases removing
  | begin => cases removing
  | advance d kind k outcome pc t here _ =>
    rw [State.removes, here] at removing
    by_cases removes : pc.removes = true
    · rw [Option.bind_some, if_pos removes] at removing
      cases removing
      exact ⟨kind, pc, here, removes⟩
    · rw [Option.bind_some, if_neg removes] at removing
      cases removing

/-- The handle of a call that removes its socket file is live in no instance of the same copy. -/
theorem not_live_of_removes {life : UInt64 → Life C} {c d : C} {kind : Kind} {h : UInt64}
    {pc : Pc C Req Msg} (formed : WellFormed s) (slots : Slots s life)
    (here : s.calls c = some ⟨kind, some h, pc⟩) (removing : pc.removes = true) : ¬ s.Live d h := by
  intro live
  have fit := formed.fits c _ here
  -- a live instance is owned by the start that has drawn the handle
  have owner : (life h).owner = some d := by
    rcases live with opening | inserted
    · exact (slots.starts h d).mp (congrArg Role.starts (role_of_opening opening))
    · exact Life.owner_of_opened (Life.present_eq_some.mp (slots.instances h ▸ inserted)).1
  rcases role_of_removes fit removing with ⟨starts, shut⟩ | took
  · have drawn : (life h).owner = some c :=
      (slots.starts h c).mp (by show (role (s.calls c)).starts = _; rw [here, starts])
    cases owner.symm.trans drawn
    rcases live with opening | inserted
    · rw [here] at opening
      exact absurd (shut.symm.trans opening) (by simp)
    · have opened := (Life.present_eq_some.mp (slots.instances h ▸ inserted)).1
      have started : (role (s.calls c)).started = some h := (slots.started h c).mpr opened
      rw [here, starts] at started
      cases started
  · have closed : (life h).closer = some c :=
      (slots.took h c).mp (by show (role (s.calls c)).took = _; rw [here, took])
    rcases live with opening | inserted
    · obtain ⟨o, opened⟩ := Life.opened_of_closer closed
      cases (Life.owner_of_opened opened).symm.trans owner
      have started : (role (s.calls d)).started = some h := (slots.started h d).mpr opened
      rw [role_of_opening opening] at started
      cases started
    · have open_still := (Life.present_eq_some.mp (slots.instances h ▸ inserted)).2
      exact absurd (open_still.symm.trans closed) (by simp)

end DistinctProcesses

section DistinctRuns

variable [DecidableEq K] [DecidableEq C]

/-- The number of starts one copy has made. -/
def startsOf (k : K) (actions : List (Action (K × C) Req)) : Nat :=
  starts (actions.filter fun action => action.call.1 = k)

theorem startsOf_concat (k : K) (actions : List (Action (K × C) Req))
    (action : Action (K × C) Req) :
    startsOf k (actions ++ [action]) =
      startsOf k actions + if action.call.1 = k then starts [action] else 0 := by
  unfold startsOf
  rw [List.filter_append, starts_append]
  by_cases own : action.call.1 = k
  · simp [own]
  · simp [own, starts]

/-- Every copy has counted its own starts, and shows the lives of its own handles. -/
def CopiesTracked (actions : List (Action (K × C) Req)) (w : World K C Req Msg) : Prop :=
  ∀ k, startsOf k actions < 2 ^ 64 →
    (w.see k).nextID.toNat = startsOf k actions ∧ ∃ life, Tracks (w.see k) life

theorem copies_exec {svc : K → Service Req Msg} {w : World K C Req Msg}
    {actions : List (Action (K × C) Req)} (run : exec (World.step svc) .init actions = some w) :
    CopiesSound svc w ∧ CopiesTracked actions w := by
  refine exec_induction (fun actions w => CopiesSound svc w ∧ CopiesTracked actions w)
    ⟨copiesSound_init svc, fun k _ => ⟨rfl, _, init_tracks⟩⟩ ?_ actions w run
  intro actions action middle next _ ih taken
  obtain ⟨sound, tracked⟩ := ih
  refine ⟨copiesSound_step sound taken, fun k few => ?_⟩
  obtain ⟨t, stepped, rfl⟩ := World.step_some taken
  rw [startsOf_concat] at few ⊢
  by_cases own : action.call.1 = k
  · subst own
    rw [if_pos rfl] at few ⊢
    rw [see_put_self]
    obtain ⟨counted, life, tracks⟩ := tracked action.call.1 (by omega)
    have counts := step_nextID stepped counted few
    obtain ⟨later, _, after⟩ :=
      tracks_step (sound action.call.1).1 tracks (by rw [counts, counted]; omega) stepped
    exact ⟨counts, later, after⟩
  · rw [if_neg own] at few ⊢
    rw [see_put_other middle (Ne.symm own)]
    obtain ⟨counted, life, slots, works⟩ := tracked k few
    exact ⟨counted, life,
      ⟨slots.starts, slots.started, slots.took, slots.instances, slots.numbered⟩,
      ⟨works.holds, works.cleans, works.uses⟩⟩

/-- **With one copy in each process the sockets are always owned.** -/
theorem sockets_owned_of_distinct_pids {base : Service Req Msg} {tempDir : String} {pid : K → Nat}
    (distinct : Function.Injective pid) {actions : List (Action (K × C) Req)}
    (few : ∀ k, startsOf k actions < 2 ^ 64) {m : World K C Req Msg}
    (through : Passes (World.step (copyServices base tempDir pid)) .init actions m) :
    SocketsOwned m := by
  refine (@passes_iff_meets _ _ _ (CopiesSound (copyServices base tempDir pid)) _ _
    (fun w action next sound taken => copiesSound_step sound taken)
    (fun w action next sound owned taken => socketsOwned_step sound owned taken)
    actions .init (copiesSound_init _) socketsOwned_init).mpr
    (meets_of_forall actions World.init ?_) m through
  intro before action w next inside reached taken h removing c process live
  obtain ⟨sound, tracked⟩ := copies_exec reached
  have fewBefore : startsOf action.call.1 before < 2 ^ 64 := by
    obtain ⟨rest, rfl⟩ := inside
    refine Nat.lt_of_le_of_lt ?_ (few action.call.1)
    unfold startsOf starts
    rw [List.append_assoc, List.filter_append, List.countP_append]
    exact Nat.le_add_right _ _
  obtain ⟨_, life, tracks⟩ := tracked action.call.1 fewBefore
  obtain ⟨t, stepped, _⟩ := World.step_some taken
  have own : c.1 = action.call.1 := distinct process
  obtain ⟨kind, pc, here, removes⟩ := step_removes stepped removing
  exact not_live_of_removes (sound action.call.1).1 tracks.slots here removes
    (show (w.see action.call.1).Live c h from own ▸ live)

end DistinctRuns

end SpicedbEmbedded.Shared
