/-
**Lexical Unix paths, and numbers inside file names.**

`clean` is the lexical normal form of a slash-separated path (empty and `.` elements dropped, inner
`..` resolved, `.` for nothing), and `join` the joined and cleaned path of a directory and a name.

* **`join_plain`** — joining a fixed directory with a plain name only puts a fixed text in front of the
  name, whatever the directory looks like.
* **`join_rooted_iff`** — the joined path is absolute exactly when the directory is.
* **`numbered_inj`** — a text with two numbers in it, printed in decimal and separated by a hyphen,
  determines both.
-/

import Std.Data.String.ToNat
import Mathlib.Data.List.Basic

namespace SpicedbEmbedded.Text

/-! ### Lexical paths -/

/-- Takes one more path element onto the stack of the elements before it. -/
def pushElement (rooted : Bool) (stack : List (List Char)) (element : List Char) :
    List (List Char) :=
  if element = [] ∨ element = ['.'] then stack
  else if element = ['.', '.'] then
    match stack with
    | [] => if rooted then [] else [element]
    | top :: rest => if top = ['.', '.'] then element :: stack else rest
  else element :: stack

/-- The path with its elements resolved, without any access to files. -/
def clean (path : List Char) : List Char :=
  let rooted := path.head? == some '/'
  let stack := (path.splitOn '/').foldl (pushElement rooted) []
  let body := ['/'].intercalate stack.reverse
  if rooted then '/' :: body else if body = [] then ['.'] else body

/-- The path of `name` in `dir`. -/
def join (dir name : List Char) : List Char :=
  if dir ≠ [] then clean (dir ++ '/' :: name) else if name ≠ [] then clean name else []

/-- A file name: one path element that is none of the special ones. -/
structure Plain (name : List Char) : Prop where
  nonempty : name ≠ []
  notDot : name ≠ ['.']
  notDotDot : name ≠ ['.', '.']
  flat : '/' ∉ name

theorem pushElement_plain {name : List Char} (plain : Plain name) (rooted : Bool)
    (stack : List (List Char)) : pushElement rooted stack name = name :: stack := by
  unfold pushElement
  rw [if_neg, if_neg plain.notDotDot]
  rintro (empty | dot)
  · exact plain.nonempty empty
  · exact plain.notDot dot

/-- The last element of a separated list stands at its end. -/
theorem intercalate_concat (sep last : List Char) (elements : List (List Char)) :
    sep.intercalate (elements ++ [last]) = elements.flatMap (· ++ sep) ++ last := by
  induction elements with
  | nil => simp [List.intercalate]
  | cons element elements ih =>
    cases elements with
    | nil => simp [List.intercalate]
    | cons next rest =>
      have tail : sep.intercalate (element :: (next :: rest ++ [last])) =
          element ++ sep ++ sep.intercalate (next :: rest ++ [last]) := by
        simp [List.intercalate]
      rw [List.cons_append, tail, ih]
      simp [List.flatMap_cons]

/-- The text before a plain name in the directory. -/
def front (dir : List Char) : List Char :=
  if dir = [] then []
  else
    let rooted := dir.head? == some '/'
    let stack := (dir.splitOn '/').foldl (pushElement rooted) []
    (if rooted then ['/'] else []) ++ stack.reverse.flatMap (· ++ ['/'])

/-- **A plain name in a directory** is the name with a text in front that the directory fixes. -/
theorem join_plain (dir : List Char) {name : List Char} (plain : Plain name) :
    join dir name = front dir ++ name := by
  by_cases absent : dir = []
  · subst absent
    have alone : name.splitOn '/' = [name] := List.splitOn_eq_singleton plain.flat
    have unrooted : (name.head? == some '/') = false := by
      cases name with
      | nil => rfl
      | cons c rest =>
        have other : c ≠ '/' := fun same => plain.flat (same ▸ List.mem_cons_self)
        simpa using other
    simp only [join, front, clean, alone, unrooted, List.foldl_cons, List.foldl_nil,
      pushElement_plain plain]
    simp [plain.nonempty, List.intercalate]
  · have elements : (dir ++ '/' :: name).splitOn '/' = dir.splitOn '/' ++ [name] := by
      rw [List.splitOn_append_cons_self, List.splitOn_eq_singleton plain.flat]
    have sameRoot : (dir ++ '/' :: name).head? = dir.head? := by
      cases dir with
      | nil => exact absurd rfl absent
      | cons c rest => rfl
    simp only [join, front, clean, elements, sameRoot, List.foldl_append, List.foldl_cons,
      List.foldl_nil, pushElement_plain plain, List.reverse_cons, intercalate_concat]
    rw [if_pos absent, if_neg absent]
    by_cases rooted : (dir.head? == some '/') = true
    · rw [if_pos rooted, if_pos rooted]
      rfl
    · rw [if_neg rooted, if_neg rooted, if_neg (by simp [plain.nonempty])]
      rfl

/-- An element has no slash of its own. -/
theorem not_mem_of_mem_splitOn {c : Char} {text element : List Char}
    (inside : element ∈ text.splitOn c) : c ∉ element := by
  induction text generalizing element with
  | nil =>
    rw [List.splitOn_nil, List.mem_singleton] at inside
    rw [inside]
    exact List.not_mem_nil
  | cons x text ih =>
    rw [List.splitOn_cons_eq_if_modifyHead] at inside
    by_cases here : (x == c) = true
    · rw [if_pos here] at inside
      rcases List.mem_cons.mp inside with rfl | later
      · exact List.not_mem_nil
      · exact ih later
    · rw [if_neg here] at inside
      cases elements : text.splitOn c with
      | nil => exact absurd elements (List.splitOn_ne_nil c text)
      | cons first others =>
        rw [elements] at inside ih
        rcases List.mem_cons.mp inside with rfl | later
        · rintro (- | ⟨_, there⟩)
          · exact here (beq_self_eq_true _)
          · exact ih List.mem_cons_self there
        · exact ih (List.mem_cons_of_mem _ later)

/-- Only an element that is not empty is taken onto the stack. -/
theorem mem_pushElement {rooted : Bool} {stack : List (List Char)} {first element : List Char}
    (inside : element ∈ pushElement rooted stack first) :
    element ∈ stack ∨ element = first ∧ first ≠ [] := by
  unfold pushElement at inside
  split at inside
  · exact Or.inl inside
  · next taken =>
    have filled : first ≠ [] := fun empty => taken (Or.inl empty)
    have pushed : element ∈ first :: stack → element ∈ stack ∨ element = first ∧ first ≠ [] :=
      fun either => (List.mem_cons.mp either).elim (fun same => Or.inr ⟨same, filled⟩) Or.inl
    split at inside
    · cases stack with
      | nil =>
        cases rooted with
        | true => exact Or.inl inside
        | false => exact pushed inside
      | cons top rest =>
        dsimp only at inside
        split at inside
        · exact pushed inside
        · exact Or.inl (List.mem_cons_of_mem _ inside)
    · exact pushed inside

/-- What is on the stack are elements that are not empty. -/
theorem mem_foldl_pushElement {rooted : Bool} {elements stack : List (List Char)}
    {element : List Char} (inside : element ∈ elements.foldl (pushElement rooted) stack) :
    element ∈ stack ∨ element ∈ elements ∧ element ≠ [] := by
  induction elements generalizing stack with
  | nil => exact Or.inl inside
  | cons first others ih =>
    rcases ih inside with pushed | ⟨later, some⟩
    · rcases mem_pushElement pushed with before | ⟨rfl, filled⟩
      · exact Or.inl before
      · exact Or.inr ⟨List.mem_cons_self, filled⟩
    · exact Or.inr ⟨List.mem_cons_of_mem _ later, some⟩

/-- **A joined path is absolute exactly when its directory is.** -/
theorem join_rooted_iff (dir : List Char) {name : List Char} (plain : Plain name) :
    (join dir name).head? = some '/' ↔ dir.head? = some '/' := by
  have nameHead : name.head? ≠ some '/' := fun first => plain.flat (List.mem_of_mem_head? first)
  rw [join_plain dir plain, front]
  by_cases absent : dir = []
  · rw [if_pos absent, absent]
    exact iff_of_false nameHead (by decide)
  · rw [if_neg absent]
    by_cases rooted : dir.head? = some '/'
    · have yes : (dir.head? == some '/') = true := by rw [rooted]; rfl
      simp only [yes, if_true]
      exact iff_of_true rfl rooted
    · have no : (dir.head? == some '/') = false := by simpa using rooted
      simp only [no, if_false, Bool.false_eq_true]
      refine iff_of_false ?_ rooted
      cases elements : ((dir.splitOn '/').foldl (pushElement false) []).reverse with
      | nil => exact nameHead
      | cons first others =>
        have inside : first ∈ (dir.splitOn '/').foldl (pushElement false) [] := by
          rw [← List.mem_reverse, elements]
          exact List.mem_cons_self
        obtain ⟨known, filled⟩ := (mem_foldl_pushElement inside).resolve_left List.not_mem_nil
        have clear := not_mem_of_mem_splitOn known
        cases first with
        | nil => exact absurd rfl filled
        | cons c rest =>
          intro head
          exact clear (List.mem_cons.mpr (Or.inl (Option.some.inj head).symm))

theorem join_plain_inj (dir : List Char) {name other : List Char} (plain : Plain name)
    (plainOther : Plain other) (same : join dir name = join dir other) : name = other := by
  rw [join_plain dir plain, join_plain dir plainOther] at same
  exact List.append_cancel_left same

/-! ### Numbers in names -/

theorem toDigits_inj {m n : Nat} (same : Nat.toDigits 10 m = Nat.toDigits 10 n) : m = n := by
  rw [← Nat.ofDigitChars_ten_toDigits (n := m), same, Nat.ofDigitChars_ten_toDigits]

theorem toList_toString (n : Nat) : (toString n).toList = Nat.toDigits 10 n := by
  rw [Nat.toString_eq_ofList_toDigits, String.toList_ofList]

/-- No character that is not a digit occurs in a printed number. -/
theorem not_mem_toDigits {c : Char} (other : c.isDigit = false) (n : Nat) :
    c ∉ Nat.toDigits 10 n := fun inside => by
  rw [Nat.isDigit_of_mem_toDigits (by decide) (by decide) inside] at other
  cases other

/-- What precedes the first separator is determined. -/
theorem append_cons_inj {sep : Char} :
    ∀ {xs ys : List Char} {as bs : List Char}, sep ∉ xs → sep ∉ ys →
      xs ++ sep :: as = ys ++ sep :: bs → xs = ys ∧ as = bs := by
  intro xs
  induction xs with
  | nil =>
    intro ys as bs _ clear same
    cases ys with
    | nil => exact ⟨rfl, (List.cons.inj same).2⟩
    | cons y ys => exact absurd (List.mem_cons.mpr (Or.inl (List.cons.inj same).1)) clear
  | cons x xs ih =>
    intro ys as bs clearLeft clearRight same
    cases ys with
    | nil => exact absurd (List.mem_cons.mpr (Or.inl (List.cons.inj same).1.symm)) clearLeft
    | cons y ys =>
      obtain ⟨head, tail⟩ := List.cons.inj same
      obtain ⟨rest, after⟩ := ih (fun inside => clearLeft (List.mem_cons_of_mem x inside))
        (fun inside => clearRight (List.mem_cons_of_mem y inside)) tail
      exact ⟨by rw [head, rest], after⟩

/-- **Two numbers, a hyphen between them**, and any text after them that is fixed. -/
theorem numbered_inj (before after : List Char) {m n m' n' : Nat}
    (same : before ++ (Nat.toDigits 10 m ++ '-' :: (Nat.toDigits 10 n ++ after)) =
      before ++ (Nat.toDigits 10 m' ++ '-' :: (Nat.toDigits 10 n' ++ after))) :
    m = m' ∧ n = n' := by
  have hyphen : ∀ k, '-' ∉ Nat.toDigits 10 k := not_mem_toDigits (by decide)
  obtain ⟨first, rest⟩ := append_cons_inj (hyphen m) (hyphen m') (List.append_cancel_left same)
  exact ⟨toDigits_inj first, toDigits_inj (List.append_cancel_right rest)⟩

end SpicedbEmbedded.Text
