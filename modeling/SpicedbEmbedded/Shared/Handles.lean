/-
**The life of a handle.**

`Tracks s life` relates a state of the library to the abstract lives of its handles
(`Machine.Life`): a handle is issued by the `AddUint64`, live from the insert, gone from the delete,
and the calls that did so are its owner and its closer. `Slots` is the part of it about the map and
the counter, `Works` the part about what the calls do with the instances.

* **`tracks_step`** — the machine refines the lives: one step moves every handle at most one step on.
* **`tracks_exec`** — after any run of fewer than `2 ^ 64` starts from a fresh copy, some lives track
  the state.
-/

import Mathlib.Algebra.Ring.Nat
import SpicedbEmbedded.Machine.Life
import SpicedbEmbedded.Shared.Registry

set_option linter.unusedSectionVars false

namespace SpicedbEmbedded.Shared

open Machine

variable {C Req Msg : Type} [DecidableEq C]

/-- The map and the counter show the lives of the handles. -/
structure Slots (s : State C Req Msg) (life : UInt64 → Life C) : Prop where
  starts : Paired (fun c => (role (s.calls c)).starts) fun h => (life h).owner
  started : Paired (fun c => (role (s.calls c)).started) fun h => (life h).opened
  took : Paired (fun c => (role (s.calls c)).took) fun h => (life h).closer
  instances : ∀ h, s.instances h = (life h).present
  numbered : ∀ h, life h ≠ .unissued → h.toNat ≤ s.nextID.toNat

/-- The cleanup steps on record of one dispose are those its place says it has run, on the instance
of the handle it took. -/
def Cleans (cleanups : List (Cleanup C)) (life : UInt64 → Life C) (d : C) (role : Role C) : Prop :=
  ∃ inst, (cleanups.filter fun cleanup => cleanup.dispose = d) =
      role.done.map (fun op => ⟨d, inst, op⟩) ∧
    ∀ h, role.took = some h → (life h).opened = some inst

/-- The calls work with the instances of their own handles. -/
structure Works (s : State C Req Msg) (life : UInt64 → Life C) : Prop where
  holds : ∀ c h inst, (role (s.calls c)).holds = some (h, inst) → (life h).opened = some inst
  cleans : ∀ d, Cleans s.cleanups life d (role (s.calls d))
  uses : ∀ c conn, (c, conn) ∈ s.uses →
    ∃ h, (role (s.calls c)).rpc = some h ∧ (life h).opened = some conn

/-- **The lives of the handles, as the state shows them.** -/
structure Tracks (s : State C Req Msg) (life : UInt64 → Life C) : Prop where
  slots : Slots s life
  works : Works s life

theorem init_tracks : Tracks (State.init : State C Req Msg) fun _ => .unissued where
  slots :=
    { starts := fun h c => by constructor <;> (intro known; cases known)
      started := fun h c => by constructor <;> (intro known; cases known)
      took := fun h c => by constructor <;> (intro known; cases known)
      instances := fun h => rfl
      numbered := fun h known => absurd rfl known }
  works :=
    { holds := fun c h inst known => by cases known
      cleans := fun d => ⟨d, rfl, fun h known => by cases known⟩
      uses := fun c conn used => by cases used }

/-! ### One step, and the slots -/

section Slots

variable {s t : State C Req Msg} {life : UInt64 → Life C} {c : C} {new : Call C Req Msg}

/-- A part of the lives that the new life of one handle leaves alone. -/
theorem life_kept {A : Type} {h : UInt64} {next : Life C} (part : Life C → A)
    (same : part next = part (life h)) (k : UInt64) :
    part (Function.update life h next k) = part (life k) := by
  by_cases here : k = h
  · subst here
    rw [Function.update_self, same]
  · rw [Function.update_of_ne here]

/-- A call and a handle that find each other in this step. -/
theorem pair_new {part : Role C → Option UInt64} {seen : Life C → Option C}
    (paired : Paired (fun d => part (role (s.calls d))) fun k => seen (life k))
    (calls : t.calls = Function.update s.calls c (some new)) {h : UInt64} {next : Life C}
    (single : part (role (s.calls c)) = none) (unseen : seen (life h) = none)
    (left : part (role (some new)) = some h) (right : seen next = some c) :
    Paired (fun d => part (role (t.calls d))) fun k => seen (Function.update life h next k) := by
  refine @Paired.extend C UInt64 _ _ _ _ paired c h single unseen ?_ ?_ ?_ ?_
  · show part (role (t.calls c)) = some h
    rw [role_here calls, left]
  · show seen (Function.update life h next h) = some c
    rw [Function.update_self, right]
  · intro d other
    show part (role (t.calls d)) = part (role (s.calls d))
    rw [role_other calls other]
  · intro k other
    show seen (Function.update life h next k) = seen (life k)
    rw [Function.update_of_ne other]

/-- A step that draws, opens and takes out no handle. -/
theorem Slots.keep (slots : Slots s life) (calls : t.calls = Function.update s.calls c (some new))
    (starts : (role (some new)).starts = (role (s.calls c)).starts)
    (started : (role (some new)).started = (role (s.calls c)).started)
    (took : (role (some new)).took = (role (s.calls c)).took)
    (nextID : t.nextID = s.nextID) (instances : t.instances = s.instances) : Slots t life where
  starts := slots.starts.congr (part_kept calls Role.starts starts) fun _ => rfl
  started := slots.started.congr (part_kept calls Role.started started) fun _ => rfl
  took := slots.took.congr (part_kept calls Role.took took) fun _ => rfl
  instances h := by rw [instances, slots.instances h]
  numbered h known := by rw [nextID]; exact slots.numbered h known

/-- The number after the last one drawn is new, as long as the counter does not wrap around. -/
theorem Slots.next_unissued (slots : Slots s life) (few : s.nextID.toNat + 1 < 2 ^ 64) :
    life (s.nextID + 1) = .unissued := by
  by_contra issued
  have bound := slots.numbered _ issued
  rw [UInt64.toNat_add, UInt64.toNat_one, Nat.mod_eq_of_lt few] at bound
  omega

/-- The `AddUint64` issues the next number to the start. -/
theorem Slots.take (slots : Slots s life) (few : s.nextID.toNat + 1 < 2 ^ 64)
    (calls : t.calls = Function.update s.calls c (some new)) (before : role (s.calls c) = {})
    (after : role (some new) = { starts := some t.nextID }) (nextID : t.nextID = s.nextID + 1)
    (instances : t.instances = s.instances) :
    Slots t (Function.update life t.nextID (.issued c)) := by
  have unissued : life t.nextID = .unissued := nextID ▸ slots.next_unissued few
  refine ⟨?_, ?_, ?_, ?_, ?_⟩
  · exact pair_new slots.starts calls (by rw [before]) (by rw [unissued]; rfl) (by rw [after]) rfl
  · exact slots.started.congr (part_kept calls Role.started (by rw [before, after]))
      (life_kept Life.opened (by rw [unissued]; rfl))
  · exact slots.took.congr (part_kept calls Role.took (by rw [before, after]))
      (life_kept Life.closer (by rw [unissued]; rfl))
  · intro h
    rw [instances, slots.instances h]
    exact (life_kept Life.present (by rw [unissued]; rfl) h).symm
  · intro h issued
    by_cases here : h = t.nextID
    · exact here ▸ Nat.le_refl _
    · rw [Function.update_of_ne here] at issued
      have bound := slots.numbered h issued
      rw [nextID, UInt64.toNat_add, UInt64.toNat_one, Nat.mod_eq_of_lt few]
      omega

/-- The map after a step that sets one entry, for lives that move at that handle. -/
theorem Slots.instances_update (slots : Slots s life) {h : UInt64} {inst : Option C} {next : Life C}
    (instances : t.instances = Function.update s.instances h inst) (same : next.present = inst)
    (k : UInt64) : t.instances k = (Function.update life h next k).present := by
  rw [instances]
  by_cases here : k = h
  · subst here
    rw [Function.update_self, Function.update_self, same]
  · rw [Function.update_of_ne here, Function.update_of_ne here, slots.instances k]

/-- A handle that moves on from an issued life keeps within the numbers drawn. -/
theorem Slots.numbered_update (slots : Slots s life) {h : UInt64} {next : Life C}
    (nextID : t.nextID = s.nextID) (issued : life h ≠ .unissued) (k : UInt64)
    (known : Function.update life h next k ≠ .unissued) : k.toNat ≤ t.nextID.toNat := by
  rw [nextID]
  by_cases here : k = h
  · exact here ▸ slots.numbered h issued
  · rw [Function.update_of_ne here] at known
    exact slots.numbered k known

/-- The insert opens the handle for the start that drew it. -/
theorem Slots.insert (slots : Slots s life)
    (calls : t.calls = Function.update s.calls c (some new)) {h : UInt64}
    (before : role (s.calls c) = { starts := some h })
    (after : role (some new) = { starts := some h, started := some h })
    (instances : t.instances = Function.update s.instances h (some c))
    (nextID : t.nextID = s.nextID) :
    life h = .issued c ∧ Slots t (Function.update life h (.live c)) := by
  have owner : (life h).owner = some c := (slots.starts h c).mp (congrArg Role.starts before)
  have shut : (life h).opened ≠ some c := fun known => by
    have opened : (role (s.calls c)).started = some h := (slots.started h c).mpr known
    rw [before] at opened
    cases opened
  have issued : life h = .issued c := Life.eq_issued owner shut
  refine ⟨issued, ?_, ?_, ?_, slots.instances_update instances rfl,
    slots.numbered_update nextID (by rw [issued]; exact fun same => by cases same)⟩
  · exact slots.starts.congr (part_kept calls Role.starts (by rw [before, after]))
      (life_kept Life.owner (by rw [issued]; rfl))
  · exact pair_new slots.started calls (by rw [before]) (by rw [issued]; rfl) (by rw [after]) rfl
  · exact slots.took.congr (part_kept calls Role.took (by rw [before, after]))
      (life_kept Life.closer (by rw [issued]; rfl))

/-- The delete closes the handle. -/
theorem Slots.remove (slots : Slots s life)
    (calls : t.calls = Function.update s.calls c (some new)) {h : UInt64} {inst : C}
    (found : s.instances h = some inst) (before : role (s.calls c) = {})
    (after : role (some new) = { took := some h, holds := some (h, inst) })
    (instances : t.instances = Function.update s.instances h none)
    (nextID : t.nextID = s.nextID) :
    life h = .live inst ∧ Slots t (Function.update life h (.gone inst c)) := by
  have live : life h = .live inst := Life.eq_live (slots.instances h ▸ found)
  refine ⟨live, ?_, ?_, ?_, slots.instances_update instances rfl,
    slots.numbered_update nextID (by rw [live]; exact fun same => by cases same)⟩
  · exact slots.starts.congr (part_kept calls Role.starts (by rw [before, after]))
      (life_kept Life.owner (by rw [live]; rfl))
  · exact slots.started.congr (part_kept calls Role.started (by rw [before, after]))
      (life_kept Life.opened (by rw [live]; rfl))
  · exact pair_new slots.took calls (by rw [before]) (by rw [live]; rfl) (by rw [after]) rfl

end Slots

/-! ### One step, and the work of the calls -/

section Works

variable {s t : State C Req Msg} {life : UInt64 → Life C} {c : C} {new : Call C Req Msg}

/-- What is known of the opened handles stays known as more of them open. -/
theorem Works.mono (works : Works s life) {later : UInt64 → Life C}
    (lasting : ∀ h o, (life h).opened = some o → (later h).opened = some o) : Works s later where
  holds d h inst known := lasting h inst (works.holds d h inst known)
  cleans d := by
    obtain ⟨inst, steps, took⟩ := works.cleans d
    exact ⟨inst, steps, fun h known => lasting h inst (took h known)⟩
  uses d conn used := by
    obtain ⟨h, working, opened⟩ := works.uses d conn used
    exact ⟨h, working, lasting h conn opened⟩

/-- A step moves one call, and only that call works. -/
theorem Works.move (works : Works s life) (calls : t.calls = Function.update s.calls c (some new))
    (holds : ∀ h inst, (role (some new)).holds = some (h, inst) → (life h).opened = some inst)
    (here : Cleans t.cleanups life c (role (some new)))
    (apart : ∀ d, d ≠ c → (t.cleanups.filter fun cleanup => cleanup.dispose = d) =
      s.cleanups.filter fun cleanup => cleanup.dispose = d)
    (working : ∀ h, (role (s.calls c)).rpc = some h → (role (some new)).rpc = some h)
    (uses : ∀ d conn, (d, conn) ∈ t.uses → (d, conn) ∈ s.uses ∨
      d = c ∧ ∃ h, (role (some new)).rpc = some h ∧ (life h).opened = some conn) :
    Works t life where
  holds d h inst known := by
    by_cases same : d = c
    · subst same
      exact holds h inst (role_here calls ▸ known)
    · exact works.holds d h inst (role_other calls same ▸ known)
  cleans d := by
    by_cases same : d = c
    · subst same
      rw [role_here calls]
      exact here
    · rw [role_other calls same, Cleans, apart d same]
      exact works.cleans d
  uses d conn used := by
    rcases uses d conn used with before | ⟨rfl, h, now, opened⟩
    · obtain ⟨h, rpc, opened⟩ := works.uses d conn before
      refine ⟨h, ?_, opened⟩
      by_cases same : d = c
      · subst same
        rw [role_here calls]
        exact working h rpc
      · rw [role_other calls same]
        exact rpc
    · exact ⟨h, role_here calls ▸ now, opened⟩

/-- A step that puts no cleanup step and no connection on record. -/
theorem Works.rest (works : Works s life) (calls : t.calls = Function.update s.calls c (some new))
    (holds : ∀ h inst, (role (some new)).holds = some (h, inst) → (life h).opened = some inst)
    (done : (role (some new)).done = (role (s.calls c)).done)
    (took : (role (some new)).took = (role (s.calls c)).took)
    (working : ∀ h, (role (s.calls c)).rpc = some h → (role (some new)).rpc = some h)
    (cleanups : t.cleanups = s.cleanups) (uses : t.uses = s.uses) : Works t life := by
  refine works.move calls holds ?_ (fun d _ => by rw [cleanups]) working
    fun d conn used => Or.inl (uses ▸ used)
  obtain ⟨inst, steps, known⟩ := works.cleans c
  exact ⟨inst, by rw [cleanups, steps, done], fun h taken => known h (took ▸ taken)⟩

/-- The delete: the dispose holds the instance it has found, and has run no cleanup step. -/
theorem Works.remove (works : Works s life) (calls : t.calls = Function.update s.calls c (some new))
    {h : UInt64} {inst : C} (opened : (life h).opened = some inst) (before : role (s.calls c) = {})
    (after : role (some new) = { took := some h, holds := some (h, inst) })
    (cleanups : t.cleanups = s.cleanups) (uses : t.uses = s.uses) : Works t life := by
  refine works.move calls ?_ ?_ (fun d _ => by rw [cleanups]) ?_
    fun d conn used => Or.inl (uses ▸ used)
  · intro k i known
    rw [after] at known
    cases known
    exact opened
  · obtain ⟨_, steps, _⟩ := works.cleans c
    rw [before] at steps
    refine ⟨inst, by rw [cleanups, steps, after]; rfl, fun k known => ?_⟩
    rw [after] at known
    cases known
    exact opened
  · intro k known
    rw [before] at known
    cases known

/-- A cleanup step of a dispose, on the instance it holds. -/
theorem Works.clean (works : Works s life) (calls : t.calls = Function.update s.calls c (some new))
    {h : UInt64} {inst : C} {op : CleanupOp} {done : List CleanupOp} {holds : Option (UInt64 × C)}
    (still : ∀ held, holds = some held → held = (h, inst))
    (before : role (s.calls c) = { took := some h, holds := some (h, inst), done := done })
    (after : role (some new) = { took := some h, holds := holds, done := done ++ [op] })
    (cleanups : t.cleanups = s.cleanups ++ [⟨c, inst, op⟩]) (uses : t.uses = s.uses) :
    Works t life := by
  have opened : (life h).opened = some inst := works.holds c h inst (by rw [before])
  refine works.move calls ?_ ?_ ?_ ?_ fun d conn used => Or.inl (uses ▸ used)
  · intro k i known
    rw [after] at known
    cases still (k, i) known
    exact opened
  · obtain ⟨i, steps, known⟩ := works.cleans c
    have same : i = inst :=
      Option.some.inj ((known h (congrArg Role.took before)).symm.trans opened)
    subst same
    refine ⟨i, ?_, fun k taken => known k (by rw [before]; rw [after] at taken; exact taken)⟩
    rw [cleanups, List.filter_append, steps, before, after, List.map_append]
    simp
  · intro d other
    rw [cleanups, List.filter_append]
    simp [Ne.symm other]
  · intro k known
    rw [before] at known
    cases known

end Works

/-! ### Whole runs -/

variable {svc : Service Req Msg}

/-- **The machine refines the lives of its handles**, as long as the counter does not wrap
around. -/
theorem tracks_step {s t : State C Req Msg} {action : Action C Req} {life : UInt64 → Life C}
    (formed : WellFormed s) (tracks : Tracks s life) (grows : s.nextID.toNat ≤ t.nextID.toNat)
    (next : Step svc s action t) :
    ∃ later, (∀ h, Life.Moves (life h) (later h)) ∧ Tracks t later := by
  obtain ⟨new, calls, _, change⟩ := step_registry formed.fits next
  obtain ⟨slots, works⟩ := tracks
  have moves : ∀ {h : UInt64} {after : Life C}, Life.Moves (life h) after →
      ∀ k, Life.Moves (life k) (Function.update life h after k) := by
    intro h after moved k
    by_cases here : k = h
    · subst here
      rw [Function.update_self]
      exact moved
    · rw [Function.update_of_ne here]
      exact .stay _
  cases change with
  | quiet same frame =>
    refine ⟨life, fun _ => .stay _, slots.keep calls (by rw [same]) (by rw [same]) (by rw [same])
      frame.nextID frame.instances, works.rest calls ?_ (by rw [same]) (by rw [same]) ?_
      frame.cleanups frame.uses⟩
    · exact fun h inst known => works.holds action.call h inst (same ▸ known)
    · exact fun h known => same ▸ known
  | enter h before after frame =>
    refine ⟨life, fun _ => .stay _, slots.keep calls (by rw [before, after]) (by rw [before, after])
      (by rw [before, after]) frame.nextID frame.instances, works.rest calls ?_
      (by rw [before, after]) (by rw [before, after]) ?_ frame.cleanups frame.uses⟩
    · exact fun k inst known => by rw [after] at known; cases known
    · exact fun k known => by rw [before] at known; cases known
  | take before after nextID instances cleanups uses =>
    have few : s.nextID.toNat + 1 < 2 ^ 64 := by
      rw [nextID, UInt64.toNat_add, UInt64.toNat_one] at grows
      have bound := s.nextID.toNat_lt
      omega
    have unissued : life t.nextID = .unissued := nextID ▸ slots.next_unissued few
    have moved := moves (h := t.nextID) (unissued ▸ Life.Moves.issue action.call)
    refine ⟨_, moved, slots.take few calls before after nextID instances,
      (works.mono fun k o known => (moved k).opened known).rest calls ?_
      (by rw [before, after]) (by rw [before, after]) ?_ cleanups uses⟩
    · exact fun k inst known => by rw [after] at known; cases known
    · exact fun k known => by rw [before] at known; cases known
  | insert h before after instances nextID cleanups uses =>
    obtain ⟨issued, slots⟩ := slots.insert calls before after instances nextID
    have moved := moves (h := h) (issued ▸ Life.Moves.opening action.call)
    refine ⟨_, moved, slots, (works.mono fun k o known => (moved k).opened known).rest calls ?_
      (by rw [before, after]) (by rw [before, after]) ?_ cleanups uses⟩
    · exact fun k inst known => by rw [after] at known; cases known
    · exact fun k known => by rw [before] at known; cases known
  | remove h inst found before after instances nextID cleanups uses =>
    obtain ⟨live, slots⟩ := slots.remove calls found before after instances nextID
    have moved := moves (h := h) (live ▸ Life.Moves.close inst action.call)
    exact ⟨_, moved, slots, (works.mono fun k o known => (moved k).opened known).remove calls
      ((moved h).opened (by rw [live]; rfl)) before after cleanups uses⟩
  | clean h inst op done holds still before after cleanups nextID instances uses =>
    exact ⟨life, fun _ => .stay _, slots.keep calls (by rw [before, after])
      (by rw [before, after]) (by rw [before, after]) nextID instances,
      works.clean calls still before after cleanups uses⟩
  | find h inst found before after frame =>
    refine ⟨life, fun _ => .stay _, slots.keep calls (by rw [before, after]) (by rw [before, after])
      (by rw [before, after]) frame.nextID frame.instances, works.rest calls ?_
      (by rw [before, after]) (by rw [before, after]) ?_ frame.cleanups frame.uses⟩
    · intro k i known
      rw [after] at known
      cases known
      exact (Life.present_eq_some.mp (slots.instances h ▸ found)).1
    · exact fun k known => by rw [before] at known; rw [after]; exact known
  | call h inst before after uses nextID instances cleanups =>
    have opened : (life h).opened = some inst :=
      works.holds action.call h inst (congrArg Role.holds before)
    have working : ∀ k, (role (s.calls action.call)).rpc = some k → (role (some new)).rpc = some k :=
      fun k known => by rw [before] at known; rw [after]; exact known
    have held : ∀ k i, (role (some new)).holds = some (k, i) → (life k).opened = some i :=
      fun k i known => by rw [after] at known; cases known
    refine ⟨life, fun _ => .stay _, slots.keep calls (by rw [before, after]) (by rw [before, after])
      (by rw [before, after]) nextID instances, ?_⟩
    rcases uses with same | ⟨conn, dialed, uses⟩
    · exact works.rest calls held (by rw [before, after]) (by rw [before, after]) working cleanups same
    · refine works.move calls held ?_ (fun d _ => by rw [cleanups]) working ?_
      · obtain ⟨i, steps, known⟩ := works.cleans action.call
        rw [before] at steps known
        exact ⟨i, by rw [cleanups, steps, after], fun k taken => by rw [after] at taken; cases taken⟩
      · intro d conn' used
        rw [uses, List.mem_append, List.mem_singleton] at used
        rcases used with old | same
        · exact Or.inl old
        · cases same
          exact Or.inr ⟨rfl, h, congrArg Role.rpc after, formed.own inst conn dialed ▸ opened⟩

/-- Whether the action is the `AddUint64` of a start. -/
def Action.isTake {C Req : Type} : Action C Req → Bool
  | .take _ _ _ => true
  | _ => false

/-- The number of starts a run of actions has made. -/
def starts {C Req : Type} (actions : List (Action C Req)) : Nat := actions.countP Action.isTake

/-- A call that has begun does not touch the counter. -/
theorem advance_nextID {s t : State C Req Msg} {c : C} {kind : Kind} {h : UInt64}
    {pc : Pc C Req Msg} {outcome : Except String Unit} (next : Advance svc s c kind h outcome pc t) :
    t.nextID = s.nextID := by
  cases next with
  | staged opts stage left other => exact (s.runStage_spec c h opts stage left outcome).1.nextID
  | listened => exact (s.listen_spec (svc.streamingProxyAddr h) c h outcome).1.nextID
  | closes inst => exact (s.closeConn_same inst).nextID
  | finishes inst => exact (s.cleanupObservability_same inst).nextID
  | calls req inst => exact (callRPC_spec svc s c inst req).2.1
  | streams req inst => exact (callStream_spec svc s inst req).1.nextID
  | _ => rfl

theorem starts_append {C Req : Type} (actions others : List (Action C Req)) :
    starts (actions ++ others) = starts actions + starts others := List.countP_append

/-- One step counts one more start, or none. -/
theorem step_nextID {s t : State C Req Msg} {action : Action C Req} (next : Step svc s action t)
    {n : Nat} (counted : s.nextID.toNat = n) (few : n + starts [action] < 2 ^ 64) :
    t.nextID.toNat = n + starts [action] := by
  cases next with
  | reject c opts text fresh invalid => exact counted
  | begin c h op fresh => exact counted
  | advance c kind h outcome pc t here next =>
    rw [advance_nextID next]
    exact counted
  | take c opts fresh valid =>
    have one : starts [(.take c opts (s.nextID + 1) : Action C Req)] = 1 := rfl
    rw [one] at few ⊢
    show (s.nextID + 1).toNat = n + 1
    rw [UInt64.toNat_add, UInt64.toNat_one, counted, Nat.mod_eq_of_lt few]

/-- The counter is the number of starts so far. -/
theorem exec_nextID {s : State C Req Msg} :
    ∀ {actions : List (Action C Req)}, exec (step svc) .init actions = some s →
      starts actions < 2 ^ 64 → s.nextID.toNat = starts actions := by
  intro actions run
  refine exec_induction
    (fun actions (s : State C Req Msg) => starts actions < 2 ^ 64 → s.nextID.toNat = starts actions)
    (fun _ => rfl) ?_ actions s run
  intro actions action middle t _ ih last few
  rw [starts_append] at few ⊢
  exact step_nextID (step_sound last) (ih (by omega)) few

/-- **After any run of fewer than `2 ^ 64` starts** from a fresh copy, the state shows the life of
every handle. -/
theorem tracks_exec {s : State C Req Msg} {actions : List (Action C Req)}
    (run : exec (step svc) .init actions = some s) (few : starts actions < 2 ^ 64) :
    ∃ life, Tracks s life := by
  revert few
  refine exec_induction
    (fun actions (s : State C Req Msg) => starts actions < 2 ^ 64 → ∃ life, Tracks s life)
    (fun _ => ⟨_, init_tracks⟩) ?_ actions s run
  intro actions action middle t before ih last few
  rw [starts_append] at few
  have fewBefore : starts actions < 2 ^ 64 := by omega
  have counted := exec_nextID before fewBefore
  have grows : middle.nextID.toNat ≤ t.nextID.toNat := by
    rw [step_nextID (step_sound last) counted few, counted]
    omega
  obtain ⟨life, tracks⟩ := ih fewBefore
  obtain ⟨later, _, tracked⟩ :=
    tracks_step (exec_wellFormed before) tracks grows (step_sound last)
  exact ⟨later, tracked⟩

end SpicedbEmbedded.Shared
