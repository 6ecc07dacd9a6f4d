/-
**Lists of entries, read as multimaps.**

A list of key and value pairs holds any number of values for a key, in order. `values` reads them,
`add` puts an entry at the end, `set` replaces all the values of a key.
-/

import Mathlib.Data.List.Basic

namespace SpicedbEmbedded.Machine

variable {K V : Type} [DecidableEq K]

/-- The values of a key, in order. -/
def values (entries : List (K × V)) (key : K) : List V :=
  entries.filterMap fun entry => if entry.1 = key then some entry.2 else none

/-- Puts an entry at the end. -/
def add (entries : List (K × V)) (key : K) (value : V) : List (K × V) := entries ++ [(key, value)]

/-- Replaces the values of a key. -/
def set (entries : List (K × V)) (key : K) (value : V) : List (K × V) :=
  entries.filter (fun entry => entry.1 ≠ key) ++ [(key, value)]

variable (entries other : List (K × V)) {key wanted : K} (value : V)

@[simp] theorem values_nil : values ([] : List (K × V)) key = [] := rfl

@[simp] theorem values_cons_self :
    values ((key, value) :: entries) key = value :: values entries key := by
  rw [values, List.filterMap_cons, if_pos rfl]
  rfl

theorem values_cons_of_ne (differ : key ≠ wanted) :
    values ((key, value) :: entries) wanted = values entries wanted := by
  rw [values, List.filterMap_cons, if_neg differ]
  rfl

theorem values_append : values (entries ++ other) key = values entries key ++ values other key :=
  List.filterMap_append

@[simp] theorem values_add_self :
    values (add entries key value) key = values entries key ++ [value] := by
  rw [add, values_append, values_cons_self, values_nil]

theorem values_filter_ne : values (entries.filter fun entry => entry.1 ≠ key) key = [] := by
  induction entries with
  | nil => rfl
  | cons entry entries ih =>
    by_cases here : entry.1 = key
    · rw [List.filter_cons_of_neg (by simpa using here), ih]
    · rw [List.filter_cons_of_pos (by simpa using here), values_cons_of_ne _ _ here, ih]

theorem values_filter_of_ne (differ : key ≠ wanted) :
    values (entries.filter fun entry => entry.1 ≠ key) wanted = values entries wanted := by
  induction entries with
  | nil => rfl
  | cons entry entries ih =>
    obtain ⟨first, second⟩ := entry
    by_cases here : first = key
    · subst here
      rw [List.filter_cons_of_neg (by simp), ih, values_cons_of_ne _ _ differ]
    · rw [List.filter_cons_of_pos (by simpa using here)]
      by_cases asked : first = wanted
      · subst asked
        rw [values_cons_self, values_cons_self, ih]
      · rw [values_cons_of_ne _ _ asked, values_cons_of_ne _ _ asked, ih]

@[simp] theorem values_set_self : values (set entries key value) key = [value] := by
  rw [set, values_append, values_filter_ne, values_cons_self, values_nil, List.nil_append]

theorem values_set_of_ne (differ : key ≠ wanted) :
    values (set entries key value) wanted = values entries wanted := by
  rw [set, values_append, values_filter_of_ne _ differ, values_cons_of_ne _ _ differ, values_nil,
    List.append_nil]

/-- A key is there exactly when it has values. -/
theorem any_key_iff : entries.any (fun entry => entry.1 = key) = true ↔ values entries key ≠ [] := by
  induction entries with
  | nil => simp
  | cons entry entries ih =>
    obtain ⟨first, second⟩ := entry
    by_cases here : first = key
    · subst here
      rw [values_cons_self]
      simp
    · rw [values_cons_of_ne _ _ here, ← ih]
      simp [here]

end SpicedbEmbedded.Machine
