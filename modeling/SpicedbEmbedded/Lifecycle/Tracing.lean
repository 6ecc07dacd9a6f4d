/-
**The global tracer provider over a run of starts and disposes.**

A start with OTLP tracing saves the provider it finds and installs its own; `cleanupObservability`
shuts that down and puts the saved one back, whatever the global provider is by then.

* `TracingSound` — the global provider belongs to a live tracing instance if there is one, and is the
  one installed before the library was used otherwise.
* **`tracing_sound_iff`** — that holds throughout a run exactly when every dispose of a tracing
  instance `Restores`: the instance whose provider it saved is still live, or it saved the installed
  one and is the last to go. Failed starts are harmless at every stage.
-/

import Mathlib.Data.List.Nodup
import SpicedbEmbedded.Lifecycle.Process
import SpicedbEmbedded.Machine.Run

namespace SpicedbEmbedded.Lifecycle

open Machine
open Shared (StartOptions Stage)

/-! ### Calls -/

/-- A call of the library, a start together with how its external steps come out. -/
inductive Call
  | start (env : Outcomes) (opts : StartOptions)
  | dispose (id : UInt64)

/-- A completed call. -/
def step (p : Process) : Call → Option Process
  | .start env opts => some (spicedbStart env opts p).2
  | .dispose id => some (spicedbDispose id p).2

/-! ### The property, and the condition -/

/-- The tracer provider of the instance with this number is live: it has been installed and not been
shut down. -/
def Process.Traces (p : Process) (n : Nat) : Prop := ⟨.tracerProvider, n⟩ ∈ p.live

/-- The global tracer provider is one of a live tracing instance, if there is any. Of several it may be
any: a dispose puts back the provider that its instance found, not the one that was started last. -/
structure TracingSound (p : Process) : Prop where
  live : ∀ n, p.Traces n → ∃ m, p.Traces m ∧ p.tracerProvider = .own m
  idle : (∀ n, ¬ p.Traces n) → p.tracerProvider = .installed

/-- The provider that was current when the instance started can be put back in its place. -/
def Restorable (p : Process) (inst : Instance) : Prop :=
  match inst.prevTracerProvider with
  | .own n => p.Traces n
  | .installed => ∀ n, p.Traces n → n = inst.owner

/-- A dispose of a tracing instance is made while its previous provider is restorable. -/
def Restores (p : Process) : Call → Prop
  | .start _ _ => True
  | .dispose id => ∀ inst, p.instances id = some inst → inst.tracerProvider = true →
      Restorable p inst

/-- What a provider needs to be the global one. -/
theorem tracingSound_iff {p : Process} :
    TracingSound p ↔
      match p.tracerProvider with
      | .own m => p.Traces m
      | .installed => ∀ n, ¬ p.Traces n := by
  cases current : p.tracerProvider with
  | own m =>
    constructor
    · intro sound
      by_contra silent
      have none : ∀ n, ¬ p.Traces n := by
        intro n traces
        obtain ⟨k, known, same⟩ := sound.live n traces
        rw [current] at same
        cases same
        exact silent known
      have idle := sound.idle none
      rw [current] at idle
      cases idle
    · intro traces
      exact ⟨fun n _ => ⟨m, traces, current⟩, fun none => absurd traces (none m)⟩
  | installed =>
    constructor
    · intro sound n traces
      obtain ⟨m, _, same⟩ := sound.live n traces
      rw [current] at same
      cases same
    · exact fun none => ⟨fun n traces => absurd traces (none n), fun _ => current⟩

/-! ### The invariant -/

/-- Numbers are given out once: what is live, registered or saved has a number that was drawn, and
an instance saved the provider of an earlier one. -/
structure Numbered (p : Process) : Prop where
  nodup : p.live.Nodup
  drawn : ∀ r ∈ p.live, r.owner < p.allocated
  current : ∀ m, p.tracerProvider = .own m → m < p.allocated
  registered : ∀ id inst, p.instances id = some inst → inst.owner < p.allocated
  earlier : ∀ id inst m, p.instances id = some inst → inst.prevTracerProvider = .own m →
    m < inst.owner

theorem init_numbered : Numbered Process.init where
  nodup := List.nodup_nil
  drawn _ inside := by cases inside
  current _ same := by cases same
  registered _ _ known := by cases known
  earlier _ _ _ known := by cases known

theorem init_tracingSound : TracingSound Process.init := tracingSound_iff.mpr fun _ inside => by
  cases inside

/-! ### The resources of one call -/

theorem tracerProvider_held {n m : Nat} {opts : StartOptions} :
    ⟨.tracerProvider, n⟩ ∈ held m opts ↔ opts.tracing = true ∧ n = m := by
  unfold held
  split <;> split <;> simp [*]

theorem tracerProvider_leftBehind (n m : Nat) (stage : Stage) :
    ⟨.tracerProvider, n⟩ ∉ leftBehind m stage := by
  cases stage <;> simp [leftBehind]

theorem tracerProvider_releases {n : Nat} {inst : Instance} :
    ⟨.tracerProvider, n⟩ ∈ releases inst ↔ inst.tracerProvider = true ∧ n = inst.owner := by
  unfold releases
  split <;> split <;> split <;> split <;> simp [*]

/-- The resources of one instance, each listed once. -/
def Resources (owner : Nat) (resources : List Resource) : Prop :=
  resources.Nodup ∧ ∀ r ∈ resources, r.owner = owner

theorem resources_held (n : Nat) (opts : StartOptions) : Resources n (held n opts) := by
  unfold Resources held
  split <;> split <;> simp

theorem resources_leftBehind (n : Nat) (stage : Stage) : Resources n (leftBehind n stage) := by
  cases stage <;> simp [Resources, leftBehind]

/-- What a start adds is new: the live resources keep their numbers. -/
theorem Numbered.add {p : Process} (numbered : Numbered p) {added : List Resource}
    (own : Resources p.allocated added) :
    (added ++ p.live).Nodup ∧ ∀ r ∈ added ++ p.live, r.owner < p.allocated + 1 := by
  constructor
  · refine List.nodup_append.mpr ⟨own.1, numbered.nodup, fun r new r' old same => ?_⟩
    subst same
    have before := numbered.drawn r old
    have later := own.2 r new
    omega
  · intro r inside
    rcases List.mem_append.mp inside with new | old
    · have same := own.2 r new
      omega
    · have before := numbered.drawn r old
      omega

/-! ### One call -/

theorem start_numbered {p : Process} (numbered : Numbered p) (env : Outcomes)
    (opts : StartOptions) : Numbered (spicedbStart env opts p).2 := by
  have later : ∀ m, p.tracerProvider = .own m → m < p.allocated + 1 := fun m same =>
    Nat.lt_succ_of_lt (numbered.current m same)
  rcases spicedbStart_spec env opts p with ⟨text, _, result⟩ | ⟨stage, text, _, result⟩ |
    ⟨_, result⟩
  · rw [result]
    exact numbered
  · rw [result]
    obtain ⟨nodup, drawn⟩ := numbered.add (resources_leftBehind p.allocated stage)
    exact ⟨nodup, drawn, later,
      fun id inst known => Nat.lt_succ_of_lt (numbered.registered id inst known), numbered.earlier⟩
  · rw [result]
    obtain ⟨nodup, drawn⟩ := numbered.add (resources_held p.allocated opts)
    have before : ∀ id inst, Function.update p.instances (p.nextID + 1)
        (some (started p.allocated opts p.tracerProvider)) id = some inst →
        inst = started p.allocated opts p.tracerProvider ∨ p.instances id = some inst := by
      intro id inst known
      rw [Function.update_apply] at known
      split at known
      · exact Or.inl (Option.some.inj known).symm
      · exact Or.inr known
    refine ⟨nodup, drawn, fun m same => ?_, fun id inst known => ?_, fun id inst m known saved => ?_⟩
    · simp only [current] at same
      split at same
      · cases same
        exact Nat.lt_succ_self _
      · exact later m same
    · rcases before id inst known with rfl | known
      · exact Nat.lt_succ_self _
      · exact Nat.lt_succ_of_lt (numbered.registered id inst known)
    · rcases before id inst known with rfl | known
      · simp only [started] at saved
        split at saved
        · exact numbered.current m saved
        · cases saved
      · exact numbered.earlier id inst m known saved

theorem dispose_numbered {p : Process} (numbered : Numbered p) (id : UInt64) :
    Numbered (spicedbDispose id p).2 := by
  unfold spicedbDispose
  cases known : p.instances id with
  | none => exact numbered
  | some inst =>
    show Numbered (disposeInstance inst (p.setInstance id none))
    rw [disposeInstance_eq]
    have still : ∀ k other, Function.update p.instances id none k = some other →
        p.instances k = some other := by
      intro k other here
      rw [Function.update_apply] at here
      split at here
      · cases here
      · exact here
    refine ⟨List.Nodup.diff numbered.nodup, fun r inside => numbered.drawn r (List.diff_subset _ _ inside),
      fun m same => ?_, fun k other here => numbered.registered k other (still k other here),
      fun k other m here => numbered.earlier k other m (still k other here)⟩
    simp only [Process.setInstance] at same
    split at same
    · exact Nat.lt_trans (numbered.earlier id inst m known same) (numbered.registered id inst known)
    · exact numbered.current m same

theorem step_numbered (p : Process) (call : Call) (q : Process) (numbered : Numbered p)
    (next : step p call = some q) : Numbered q := by
  cases next' : call with
  | start env opts =>
    subst next'
    cases next
    exact start_numbered numbered env opts
  | dispose id =>
    subst next'
    cases next
    exact dispose_numbered numbered id

/-- A start leaves the global tracer provider sound, whatever becomes of it. -/
theorem start_tracingSound {p : Process} (sound : TracingSound p) (env : Outcomes)
    (opts : StartOptions) : TracingSound (spicedbStart env opts p).2 := by
  rw [tracingSound_iff] at sound ⊢
  rcases spicedbStart_spec env opts p with ⟨text, _, result⟩ | ⟨stage, text, _, result⟩ |
    ⟨_, result⟩
  · rw [result]
    exact sound
  · rw [result]
    simpa [Process.Traces, drawn, tracerProvider_leftBehind] using sound
  · rw [result]
    cases tracing : opts.tracing with
    | true => simp [Process.Traces, current, tracing, tracerProvider_held]
    | false => simpa [Process.Traces, current, tracing, drawn, tracerProvider_held] using sound

/-- **What a dispose makes of the global tracer provider.** -/
theorem dispose_tracingSound {p : Process} (numbered : Numbered p) (sound : TracingSound p)
    (id : UInt64) : TracingSound (spicedbDispose id p).2 ↔ Restores p (.dispose id) := by
  unfold spicedbDispose
  cases known : p.instances id with
  | none =>
    refine iff_of_true sound fun inst here => ?_
    rw [known] at here
    cases here
  | some inst =>
    have left : ∀ n, (disposeInstance inst (p.setInstance id none)).Traces n ↔
        p.Traces n ∧ ¬ (inst.tracerProvider = true ∧ n = inst.owner) := by
      intro n
      rw [disposeInstance_eq, Process.Traces, ← tracerProvider_releases]
      exact List.Nodup.mem_sdiff_iff numbered.nodup
    have after : (disposeInstance inst (p.setInstance id none)).tracerProvider =
        if inst.tracerProvider then inst.prevTracerProvider else p.tracerProvider := by
      rw [disposeInstance_eq]
      rfl
    have now : Restores p (.dispose id) ↔ (inst.tracerProvider = true → Restorable p inst) := by
      simp [Restores, known]
    rw [now, tracingSound_iff, after]
    cases tracing : inst.tracerProvider with
    | false =>
      refine iff_of_true ?_ nofun
      simpa [left, tracing] using tracingSound_iff.mp sound
    | true =>
      simp only [if_true, left, tracing, true_and, forall_const, Restorable]
      cases saved : inst.prevTracerProvider with
      | own m =>
        have before := numbered.earlier id inst m known saved
        exact and_iff_left (by omega)
      | installed => exact forall_congr' fun n => by rw [not_and_not_right]

/-! ### Every run -/

/-- **The global tracer provider is sound throughout a run exactly when every dispose of a tracing
instance is made while the provider it saved can be put back.** -/
theorem tracing_sound_iff (calls : List Call) :
    (∀ p, Passes step Process.init calls p → TracingSound p) ↔
      Meets step Restores Process.init calls := by
  refine passes_iff_meets step_numbered ?_ calls Process.init init_numbered init_tracingSound
  intro p call q numbered sound next
  cases call with
  | start env opts =>
    cases next
    exact iff_of_true (start_tracingSound sound env opts) trivial
  | dispose id =>
    cases next
    exact dispose_tracingSound numbered sound id

/-- Every external step of the start succeeds. -/
def allSucceed : Outcomes := fun _ => .ok ()

/-- Options that turn OTLP tracing on. -/
def traced : StartOptions := { metricsEnabled := true, otlpEndpoint := "localhost:4317" }

/-- Two tracing instances, and the first is disposed first. -/
def crossedDisposes : List Call := [.start allSucceed traced, .start allSucceed traced, .dispose 1]

/-- It takes tracing away from the second: the installed provider is global again. -/
theorem crossedDisposes_unsound :
    ¬ ∀ (calls : List Call) (p : Process), Passes step Process.init calls p → TracingSound p := by
  intro sound
  have here : TracingSound _ := sound crossedDisposes _ (passes_end step rfl)
  have silent : ∀ n, _ := tracingSound_iff.mp here
  exact silent 1 (List.mem_of_elem_eq_true (by decide))

end SpicedbEmbedded.Lifecycle
