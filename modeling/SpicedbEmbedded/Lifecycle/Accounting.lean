/-
**What the process holds, over a run of starts and disposes.**

* `leftovers` — what the failed starts of a run have left behind, one after the other.
* `Accounted` — every live resource is held by one registered instance, or is a leftover.
* **`resources_accounted`** — so it is after every run of fewer than `2 ^ 64` starts, however their
  steps come out: no call releases what a registered instance holds, or leaves any of it after its
  dispose. Once no instance is registered, the process holds nothing exactly when no start of the run
  failed at the tracing, the metrics or the proxy stage.
-/

import Mathlib.Algebra.Ring.Nat
import SpicedbEmbedded.Lifecycle.Tracing

namespace SpicedbEmbedded.Lifecycle

open Machine
open Shared (StartOptions Stage)

/-! ### Leftovers -/

/-- What a call leaves behind. -/
def abandoned (p : Process) : Call → List Resource
  | .start env opts => ((failing env opts).map (leftBehind p.allocated)).getD []
  | .dispose _ => []

/-- What the calls of a run leave behind. -/
def leftovers : Process → List Call → List Resource
  | _, [] => []
  | p, call :: calls =>
    abandoned p call ++ ((step p call).map fun q => leftovers q calls).getD []

/-- How many starts there are in a run. -/
def starts (calls : List Call) : Nat :=
  calls.countP fun
    | .start _ _ => true
    | .dispose _ => false

/-- The start does not fail at a stage whose cleanup leaves something behind. -/
def Tidy : Call → Prop
  | .start env opts =>
    ∀ stage, failing env opts = some stage → stage ≠ .tracing ∧ stage ≠ .metrics ∧ stage ≠ .proxy
  | .dispose _ => True

theorem leftovers_concat {p q : Process} {calls : List Call} {call : Call}
    (run : exec step p calls = some q) :
    leftovers p (calls ++ [call]) = leftovers p calls ++ abandoned q call := by
  induction calls generalizing p with
  | nil =>
    cases run
    cases taken : step q call <;> simp [leftovers, taken]
  | cons first calls ih =>
    obtain ⟨next, taken, rest⟩ := (exec_cons_some step).mp run
    simp only [List.cons_append, leftovers, taken, Option.map_some, Option.getD_some]
    rw [ih rest, List.append_assoc]

/-- A start that is tidy leaves nothing behind, and no other does. -/
theorem abandoned_eq_nil_iff (p : Process) (call : Call) : abandoned p call = [] ↔ Tidy call := by
  cases call with
  | dispose id => exact iff_of_true rfl trivial
  | start env opts =>
    simp only [abandoned, Tidy]
    cases failing env opts with
    | none => simp
    | some stage => cases stage <;> simp [leftBehind]

/-! ### What an instance holds -/

/-- What an instance holds is what its dispose releases. -/
theorem mem_held_iff {r : Resource} {n : Nat} {opts : StartOptions} {prev : TracerProvider} :
    r ∈ held n opts ↔ r ∈ releases (started n opts prev) := by
  unfold held releases started
  cases opts.metrics <;> cases opts.tracing <;> simp <;> tauto

/-- What a dispose releases is the instance's own. -/
theorem owner_of_releases {r : Resource} {inst : Instance} (inside : r ∈ releases inst) :
    r.owner = inst.owner := by
  unfold releases at inside
  simp only [List.mem_append, List.mem_cons, List.not_mem_nil, or_false] at inside
  rcases inside with (((conn | listener) | rfl | rfl | rfl) | metrics) | tracing
  · split at conn <;> simp at conn
    rw [conn]
  · split at listener <;> simp at listener
    rw [listener]
  · rfl
  · rfl
  · rfl
  · split at metrics <;> simp at metrics
    rw [metrics]
  · split at tracing <;> simp at tracing
    rw [tracing]

/-! ### The books -/

/-- Every live resource is on the books: it is held by one registered instance, or is left over. -/
structure Accounted (p : Process) (left : List Resource) : Prop where
  numbered : Numbered p
  issued : ∀ id inst, p.instances id = some inst → id.toNat ≤ p.nextID.toNat
  apart : ∀ id other inst inst', p.instances id = some inst → p.instances other = some inst' →
    inst.owner = inst'.owner → id = other
  alone : ∀ r ∈ left, r.owner < p.allocated ∧
    ∀ id inst, p.instances id = some inst → inst.owner ≠ r.owner
  live : ∀ r, r ∈ p.live ↔ (∃ id inst, p.instances id = some inst ∧ r ∈ releases inst) ∨ r ∈ left

theorem init_accounted : Accounted Process.init [] where
  numbered := init_numbered
  issued _ _ known := by cases known
  apart _ _ _ _ known := by cases known
  alone _ inside := by cases inside
  live r := by simp [Process.init]

/-- A start keeps the books. -/
theorem start_accounted {p : Process} {left : List Resource} (accounted : Accounted p left)
    (env : Outcomes) (opts : StartOptions) (room : p.nextID.toNat + 1 < 2 ^ 64) :
    Accounted (spicedbStart env opts p).2 (left ++ abandoned p (.start env opts)) ∧
      (spicedbStart env opts p).2.nextID.toNat ≤ p.nextID.toNat + 1 := by
  have numbered := start_numbered accounted.numbered env opts
  have counted : (p.nextID + 1).toNat = p.nextID.toNat + 1 := by
    rw [UInt64.toNat_add]
    exact Nat.mod_eq_of_lt room
  rcases spicedbStart_spec env opts p with ⟨text, invalid, result⟩ |
    ⟨stage, text, first, result⟩ | ⟨first, result⟩
  · have none : failing env opts = none := by rw [failing, invalid]
    rw [result]
    refine ⟨?_, Nat.le_succ _⟩
    simp only [abandoned, none, Option.map_none, Option.getD_none, List.append_nil]
    exact accounted
  · rw [result] at numbered ⊢
    refine ⟨⟨numbered, fun id inst known => ?_, accounted.apart, ?_, fun r => ?_⟩,
      Nat.le_of_eq counted⟩
    · exact Nat.le_trans (accounted.issued id inst known) (by rw [drawn, counted]; omega)
    · intro r inside
      simp only [abandoned, first, Option.map_some, Option.getD_some, List.mem_append] at inside
      rcases inside with old | new
      · obtain ⟨before, others⟩ := accounted.alone r old
        exact ⟨Nat.lt_succ_of_lt before, others⟩
      · have own := (resources_leftBehind p.allocated stage).2 r new
        refine ⟨Nat.lt_of_le_of_lt (Nat.le_of_eq own) (Nat.lt_succ_self _),
          fun id inst known same => ?_⟩
        have earlier := accounted.numbered.registered id inst known
        omega
    · simp only [abandoned, first, Option.map_some, Option.getD_some, List.mem_append, drawn,
        accounted.live]
      exact or_comm.trans or_assoc
  · rw [result] at numbered ⊢
    -- the id is new, and so is the number of the instance
    have fresh : p.instances (p.nextID + 1) = none := by
      by_contra taken
      obtain ⟨inst, known⟩ := Option.ne_none_iff_exists'.mp taken
      have issued := accounted.issued _ inst known
      omega
    have cases_ : ∀ {id inst}, Function.update p.instances (p.nextID + 1)
        (some (started p.allocated opts p.tracerProvider)) id = some inst →
        (id = p.nextID + 1 ∧ inst = started p.allocated opts p.tracerProvider) ∨
          (id ≠ p.nextID + 1 ∧ p.instances id = some inst) := by
      intro id inst known
      rw [Function.update_apply] at known
      split at known
      · next same => exact Or.inl ⟨same, (Option.some.inj known).symm⟩
      · next other => exact Or.inr ⟨other, known⟩
    refine ⟨⟨numbered, ?_, ?_, ?_, fun r => ?_⟩, Nat.le_of_eq counted⟩
    · intro id inst known
      rcases cases_ known with ⟨rfl, -⟩ | ⟨-, known⟩
      · exact Nat.le_refl _
      · exact Nat.le_trans (accounted.issued id inst known) (by rw [drawn, counted]; omega)
    · intro id other inst inst' known known' same
      rcases cases_ known with ⟨rfl, rfl⟩ | ⟨-, known⟩ <;>
        rcases cases_ known' with ⟨rfl, rfl⟩ | ⟨-, known'⟩
      · rfl
      · have earlier := accounted.numbered.registered other inst' known'
        exact absurd same (Nat.ne_of_gt earlier)
      · have earlier := accounted.numbered.registered id inst known
        exact absurd same (Nat.ne_of_lt earlier)
      · exact accounted.apart id other inst inst' known known' same
    · intro r inside
      simp only [abandoned, first, Option.map_none, Option.getD_none, List.append_nil] at inside
      obtain ⟨before, others⟩ := accounted.alone r inside
      refine ⟨Nat.lt_succ_of_lt before, fun id inst known => ?_⟩
      rcases cases_ known with ⟨-, rfl⟩ | ⟨-, known⟩
      · exact Nat.ne_of_gt before
      · exact others id inst known
    · simp only [abandoned, first, Option.map_none, Option.getD_none, List.append_nil,
        List.mem_append, accounted.live]
      constructor
      · rintro (new | ⟨id, inst, known, inside⟩ | old)
        · exact Or.inl ⟨p.nextID + 1, _, Function.update_self .., mem_held_iff.mp new⟩
        · refine Or.inl ⟨id, inst, ?_, inside⟩
          rw [Function.update_of_ne, known]
          rintro rfl
          rw [fresh] at known
          cases known
        · exact Or.inr old
      · rintro (⟨id, inst, known, inside⟩ | old)
        · rcases cases_ known with ⟨rfl, rfl⟩ | ⟨-, known⟩
          · exact Or.inl (mem_held_iff.mpr inside)
          · exact Or.inr (Or.inl ⟨id, inst, known, inside⟩)
        · exact Or.inr (Or.inr old)

/-- A dispose keeps the books. -/
theorem dispose_accounted {p : Process} {left : List Resource} (accounted : Accounted p left)
    (id : UInt64) : Accounted (spicedbDispose id p).2 left ∧
      (spicedbDispose id p).2.nextID = p.nextID := by
  have numbered := dispose_numbered accounted.numbered id
  unfold spicedbDispose at numbered ⊢
  cases known : p.instances id with
  | none => exact ⟨accounted, rfl⟩
  | some inst =>
    rw [known] at numbered
    simp only [disposeInstance_eq] at numbered ⊢
    have still : ∀ {k other}, Function.update p.instances id none k = some other →
        k ≠ id ∧ p.instances k = some other := by
      intro k other here
      rw [Function.update_apply] at here
      split at here
      · cases here
      · next differ => exact ⟨differ, here⟩
    refine ⟨⟨numbered, fun k other here => accounted.issued k other (still here).2,
      fun k l a b here there => accounted.apart k l a b (still here).2 (still there).2,
      fun r inside => ?_, fun r => ?_⟩, rfl⟩
    · obtain ⟨before, others⟩ := accounted.alone r inside
      exact ⟨before, fun k other here => others k other (still here).2⟩
    · have gone : r ∈ p.live.diff (releases inst) ↔ r ∈ p.live ∧ r ∉ releases inst :=
        List.Nodup.mem_sdiff_iff accounted.numbered.nodup
      show r ∈ p.live.diff (releases inst) ↔ _
      rw [gone, accounted.live]
      constructor
      · rintro ⟨⟨k, other, here, inside⟩ | old, kept⟩
        · refine Or.inl ⟨k, other, ?_, inside⟩
          show Function.update p.instances id none k = some other
          rw [Function.update_of_ne, here]
          rintro rfl
          rw [known] at here
          cases here
          exact kept inside
        · exact Or.inr old
      · rintro (⟨k, other, here, inside⟩ | old)
        · obtain ⟨differ, there⟩ := still here
          refine ⟨Or.inl ⟨k, other, there, inside⟩, fun mine => differ ?_⟩
          refine accounted.apart k id other inst there known ?_
          rw [← owner_of_releases inside, owner_of_releases mine]
        · refine ⟨Or.inr old, fun mine => ?_⟩
          exact (accounted.alone r old).2 id inst known (owner_of_releases mine).symm

/-! ### Every run -/

theorem starts_append (calls others : List Call) :
    starts (calls ++ others) = starts calls + starts others := List.countP_append

/-- The books balance after every run of fewer than `2 ^ 64` starts: an id is drawn once. -/
theorem accounted_of_run : ∀ (calls : List Call) (p : Process),
    exec step Process.init calls = some p → starts calls < 2 ^ 64 →
      Accounted p (leftovers Process.init calls) ∧ p.nextID.toNat ≤ starts calls := by
  refine exec_induction (fun calls (p : Process) => starts calls < 2 ^ 64 →
    Accounted p (leftovers Process.init calls) ∧ p.nextID.toNat ≤ starts calls)
    (fun _ => ⟨init_accounted, Nat.le_refl _⟩) ?_
  intro calls call p q run ih last few
  rw [starts_append] at few
  obtain ⟨accounted, bound⟩ := ih (by omega)
  rw [leftovers_concat run, starts_append]
  cases call with
  | start env opts =>
    cases last
    have one : starts [Call.start env opts] = 1 := rfl
    obtain ⟨kept, grown⟩ := start_accounted accounted env opts (by omega)
    exact ⟨kept, by omega⟩
  | dispose id =>
    cases last
    obtain ⟨kept, same⟩ := dispose_accounted accounted id
    rw [same]
    refine ⟨?_, Nat.le_add_right_of_le bound⟩
    show Accounted _ (_ ++ [])
    rw [List.append_nil]
    exact kept

theorem leftovers_eq_nil_iff : ∀ (calls : List Call) (p : Process),
    leftovers p calls = [] ↔ ∀ call ∈ calls, Tidy call := by
  intro calls
  induction calls with
  | nil => exact fun p => iff_of_true rfl nofun
  | cons call calls ih =>
    intro p
    obtain ⟨q, taken⟩ : ∃ q, step p call = some q := by cases call <;> exact ⟨_, rfl⟩
    rw [leftovers, List.append_eq_nil_iff, abandoned_eq_nil_iff, taken, List.forall_mem_cons]
    exact and_congr_right fun _ => ih q

/-- **The books balance over every run.** After any run of fewer than `2 ^ 64` starts and any
disposes, however the external steps come out, the live resources are those of the registered
instances, each held by one of them, and what failed starts have left behind. So once no instance is registered, the
process holds nothing exactly when no start of the run failed at the tracing, the metrics or the
proxy stage. -/
theorem resources_accounted {calls : List Call} {p : Process}
    (run : exec step Process.init calls = some p) (few : starts calls < 2 ^ 64) :
    Accounted p (leftovers Process.init calls) ∧
      ((∀ id, p.instances id = none) → (p.live = [] ↔ ∀ call ∈ calls, Tidy call)) := by
  have accounted := (accounted_of_run calls p run few).1
  refine ⟨accounted, fun idle => ?_⟩
  rw [← leftovers_eq_nil_iff calls Process.init, List.eq_nil_iff_forall_not_mem,
    List.eq_nil_iff_forall_not_mem]
  refine forall_congr' fun r => not_congr ?_
  rw [accounted.live]
  refine or_iff_right ?_
  rintro ⟨id, inst, known, -⟩
  rw [idle id] at known
  cases known

/-- Two starts, the second with its metrics port taken, and the dispose of the first. -/
def portTakenBeside : List Call :=
  [.start (fun _ => .ok ()) {},
    .start portTaken { metricsEnabled := true, metricsPort := 9090 }, .dispose 1]

/-- No instance is left, and the server and the datastore of the second start are. -/
theorem resources_accounted_portTakenBeside :
    ∃ p, exec step Process.init portTakenBeside = some p ∧ (∀ id, p.instances id = none) ∧
      leftovers Process.init portTakenBeside = [⟨.server, 1⟩, ⟨.datastore, 1⟩] ∧
      Accounted p (leftovers Process.init portTakenBeside) := by
  refine ⟨_, rfl, fun id => ?_, by decide, (resources_accounted rfl (by decide)).1⟩
  by_cases same : id = 1
  · rw [same]
    rfl
  · exact (Function.update_of_ne same _ _).trans (Function.update_of_ne same _ _)

end SpicedbEmbedded.Lifecycle
