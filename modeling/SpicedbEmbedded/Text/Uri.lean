/-
**The parts of a URI that a target uses.**

The scheme of a URI is what stands before its first colon, and after `//` comes an authority, up to the
next slash. `readPath` reads a path the way URIs spell it: an escape stands for the character it spells,
a query or a fragment ends the path, and other reserved characters are not allowed.

* **`readPath_eq_self_iff`** — a path is read as it is written exactly when it has path characters only.
-/

import Mathlib.Data.List.Basic

namespace SpicedbEmbedded.Text

/-! ### Schemes -/

/-- A letter and then letters, digits, `+`, `-` and `.`. -/
def IsScheme (scheme : List Char) : Prop :=
  (scheme.head?.any Char.isAlpha && scheme.all fun c => c.isAlphanum || ['+', '-', '.'].contains c) =
    true

instance (scheme : List Char) : Decidable (IsScheme scheme) := inferInstanceAs (Decidable (_ = true))

/-- The scheme of a text, if it starts like a URI. -/
def schemeOf (text : List Char) : Option (List Char) :=
  if ':' ∈ text ∧ IsScheme (text.takeWhile (· ≠ ':')) then some (text.takeWhile (· ≠ ':')) else none

theorem schemeOf_append {scheme : List Char} (named : IsScheme scheme) (rest : List Char) :
    schemeOf (scheme ++ ':' :: rest) = some scheme := by
  have others := (Bool.and_eq_true_iff.mp named).2
  have clear : ∀ c ∈ scheme, decide (c ≠ ':') = true := by
    intro c inside
    have fine := List.all_eq_true.mp others c inside
    refine decide_eq_true ?_
    rintro rfl
    cases fine
  have before : (scheme ++ ':' :: rest).takeWhile (· ≠ ':') = scheme := by
    rw [List.takeWhile_append_of_pos clear]
    simp
  rw [schemeOf, before, if_pos ⟨List.mem_append_right _ List.mem_cons_self, named⟩]

/-- The authority after `//`, and what follows it. -/
def splitAuthority (text : List Char) : List Char × List Char :=
  (text.takeWhile (· ≠ '/'), text.dropWhile (· ≠ '/'))

/-! ### Paths -/

/-- A character that stands for itself in a path, or the slash between two segments. -/
def pathChar (c : Char) : Bool :=
  c.isAlphanum ||
    ['-', '.', '_', '~', '!', '$', '&', '\x27', '(', ')', '*', '+', ',', ';', '=', ':', '@', '/'].contains c

/-- The value of a hexadecimal digit. -/
def hexValue (c : Char) : Option Nat :=
  if c.isDigit then some (c.toNat - '0'.toNat)
  else if 'a'.toNat ≤ c.toNat ∧ c.toNat ≤ 'f'.toNat then some (c.toNat - 'a'.toNat + 10)
  else if 'A'.toNat ≤ c.toNat ∧ c.toNat ≤ 'F'.toNat then some (c.toNat - 'A'.toNat + 10)
  else none

/-- The byte an escape spells. -/
def escaped (high low : Char) : Option Char := do
  let h ← hexValue high
  let l ← hexValue low
  pure (Char.ofNat (16 * h + l))

/-- Reads the path of a URI. -/
def readPath : List Char → Option (List Char)
  | [] => some []
  | '%' :: high :: low :: rest => do
    let c ← escaped high low
    let path ← readPath rest
    pure (c :: path)
  | c :: rest =>
    if c = '?' ∨ c = '#' then some []
    else if pathChar c then (readPath rest).map (c :: ·)
    else none

/-- What is no escape is read one character at a time. -/
theorem readPath_of_ne {c : Char} (plain : c ≠ '%') (rest : List Char) :
    readPath (c :: rest) =
      if c = '?' ∨ c = '#' then some []
      else if pathChar c then (readPath rest).map (c :: ·)
      else none := by
  rw [readPath]
  exact fun high low rest same => absurd same plain

theorem readPath_cons {c : Char} (plain : pathChar c = true) (rest : List Char) :
    readPath (c :: rest) = (readPath rest).map (c :: ·) := by
  have differs : ∀ other, pathChar other = false → c ≠ other := by
    rintro other odd rfl
    rw [plain] at odd
    cases odd
  have noEnd : ¬(c = '?' ∨ c = '#') := by
    rintro (same | same)
    · exact differs '?' (by decide) same
    · exact differs '#' (by decide) same
  rw [readPath_of_ne (differs '%' (by decide)), if_neg noEnd, if_pos plain]

/-- A reading is no longer than the path, and shorter once a character is not read as itself. -/
theorem readPath_length {path read : List Char} (same : readPath path = some read) :
    read.length ≤ path.length ∧ (path.all pathChar = false → read.length < path.length) := by
  induction path using readPath.induct generalizing read with
  | case1 =>
    cases same
    exact ⟨Nat.le_refl _, fun odd => by cases odd⟩
  | case2 high low rest ih =>
    rw [readPath] at same
    obtain ⟨c, spelled, more⟩ := Option.bind_eq_some_iff.mp same
    obtain ⟨later, rest', done⟩ := Option.bind_eq_some_iff.mp more
    cases done
    have shorter := (ih rest').1
    simp only [List.length_cons]
    omega
  | case3 c rest _ ends =>
    have plain : c ≠ '%' := by
      rcases ends with rfl | rfl <;> decide
    rw [readPath_of_ne plain, if_pos ends] at same
    cases same
    simp
  | case4 c rest _ noEnd plain ih =>
    rw [readPath_cons plain] at same
    obtain ⟨later, rest', done⟩ := Option.map_eq_some_iff.mp same
    cases done
    obtain ⟨shorter, odd⟩ := ih rest'
    simp only [List.length_cons, List.all_cons, plain, Bool.true_and]
    exact ⟨by omega, fun other => by have := odd other; omega⟩
  | case5 c rest noEscape noEnd odd =>
    rw [readPath] at same
    · rw [if_neg noEnd, if_neg odd] at same
      cases same
    · exact noEscape

/-- A reading keeps the slash a path starts with. -/
theorem readPath_rooted {path read : List Char} (same : readPath ('/' :: path) = some read) :
    read.head? = some '/' := by
  rw [readPath_cons (by decide)] at same
  obtain ⟨later, _, done⟩ := Option.map_eq_some_iff.mp same
  cases done
  rfl

/-- **A path is read as it is written exactly when it has path characters only.** -/
theorem readPath_eq_self_iff (path : List Char) :
    readPath path = some path ↔ path.all pathChar = true := by
  constructor
  · intro same
    by_contra odd
    exact absurd ((readPath_length same).2 (by simpa using odd)) (Nat.lt_irrefl _)
  · intro plain
    induction path with
    | nil => rfl
    | cons c rest ih =>
      obtain ⟨first, others⟩ := Bool.and_eq_true_iff.mp plain
      rw [readPath_cons first, ih others]
      rfl

end SpicedbEmbedded.Text
