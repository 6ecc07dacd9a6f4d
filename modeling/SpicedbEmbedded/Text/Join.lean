/-
**Texts joined with a separator.**

`joinWith` is `strings.Join`, and `pieces` takes a text apart at a character.

* **`joinWith_concat_eq_iff`** — a joined list is its own last text only when there is nothing before it.
* **`pieces_joinWith`** — joining commutes with taking apart: the pieces of a joined list are those of
  its texts, in order.
-/

import Mathlib.Data.String.Basic

namespace SpicedbEmbedded.Text

/-- The texts, with the separator between each and the next. -/
def joinWith (sep : String) : List String → String
  | [] => ""
  | [text] => text
  | text :: next :: rest => text ++ sep ++ joinWith sep (next :: rest)

@[simp] theorem joinWith_nil (sep : String) : joinWith sep [] = "" := rfl

@[simp] theorem joinWith_singleton (sep text : String) : joinWith sep [text] = text := rfl

theorem joinWith_cons {sep text : String} {rest : List String} (more : rest ≠ []) :
    joinWith sep (text :: rest) = text ++ sep ++ joinWith sep rest := by
  cases rest with
  | nil => exact absurd rfl more
  | cons next rest => rfl

theorem length_le_joinWith_concat (sep last : String) (texts : List String) :
    last.length ≤ (joinWith sep (texts ++ [last])).length := by
  induction texts with
  | nil => exact le_refl _
  | cons text texts ih =>
    rw [List.cons_append, joinWith_cons (by simp), String.length_append]
    omega

/-- **A separator shows.** -/
theorem joinWith_concat_eq_iff {sep last : String} {texts : List String} (shown : sep ≠ "") :
    joinWith sep (texts ++ [last]) = last ↔ texts = [] := by
  constructor
  · intro same
    cases texts with
    | nil => rfl
    | cons text texts =>
      have inside := length_le_joinWith_concat sep last texts
      have some : 0 < sep.length := by
        rw [Nat.pos_iff_ne_zero]
        intro zero
        exact shown (String.length_eq_zero_iff.mp zero)
      have whole := congrArg String.length same
      rw [List.cons_append, joinWith_cons (by simp), String.length_append, String.length_append]
        at whole
      omega
  · rintro rfl
    rfl

/-! ### Pieces -/

/-- The pieces of a text between the separators, without the empty ones. -/
def pieces (sep : Char) (text : String) : List String :=
  ((text.toList.splitOn sep).filter (· ≠ [])).map String.ofList

@[simp] theorem pieces_empty (sep : Char) : pieces sep "" = [] := rfl

/-- A separator between two texts parts their pieces. -/
theorem pieces_append (sep : Char) (front back : String) :
    pieces sep (front ++ String.ofList [sep] ++ back) = pieces sep front ++ pieces sep back := by
  have parts : (front ++ String.ofList [sep] ++ back).toList.splitOn sep =
      front.toList.splitOn sep ++ back.toList.splitOn sep := by
    rw [String.toList_append, String.toList_append, String.toList_ofList, List.append_assoc,
      List.singleton_append, List.splitOn_append_cons_self]
  rw [pieces, parts, List.filter_append, List.map_append]
  rfl

/-- **The pieces of a joined list are the pieces of its texts, in order.** -/
theorem pieces_joinWith (sep : Char) (texts : List String) :
    pieces sep (joinWith (String.ofList [sep]) texts) = texts.flatMap (pieces sep) := by
  induction texts with
  | nil => rfl
  | cons text rest ih =>
    cases rest with
    | nil => rw [joinWith_singleton, List.flatMap_cons, List.flatMap_nil, List.append_nil]
    | cons next rest =>
      rw [joinWith_cons (List.cons_ne_nil next rest), pieces_append, ih]
      exact List.flatMap_cons.symm

end SpicedbEmbedded.Text
