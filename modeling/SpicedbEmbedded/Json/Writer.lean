/-
**Writers of nested JSON documents.**

* `Doc` — arrays and objects of leaves, to any depth.
* `Leaves` — how a leaf is written: a text that the scanner reads as its value, that begins with no
  space and has no control character.
* **`parse_write`** — a document that is nested no deeper than the scanner goes is read as its value.
* `write_visible` — it is written without control characters.
-/

import SpicedbEmbedded.Json.Printer

namespace SpicedbEmbedded.Json

/-! ### Documents -/

/-- A document: leaves in arrays and objects. -/
inductive Doc (L : Type)
  | leaf (x : L)
  | array (elements : List (Doc L))
  | object (members : List (List Char × Doc L))

/-- The scanner has read a value, once the next character or the end of the text shows that it has
ended. -/
structure Finished (s : Scanner) (v : Value) : Prop where
  next : ∀ c, c = ',' ∨ c = ']' ∨ c = '\x7d' → step s c = endValue v c s.stack
  last : s.stack = [] → eof s = some v

/-- A value is expected here, not a key. -/
def Inside (stack : List Frame) : Prop := ∀ done frames, stack ≠ .key done :: frames

/-- How the leaves of a document are written. -/
structure Leaves (L : Type) where
  write : L → List Char
  value : L → Value
  solid : ∀ x, ∃ c rest, write x = c :: rest ∧ isSpace c = false
  visible : ∀ x, ∀ c ∈ write x, isControl c = false
  reads : ∀ x stack, Inside stack →
    ∃ t, run ⟨stack, .value⟩ (write x) = some t ∧ t.stack = stack ∧ Finished t (value x)

/-- A value that has ended is finished. -/
theorem finished_ended (stack : List Frame) (v : Value) : Finished ⟨stack, .ended v⟩ v where
  next _ _ := rfl
  last outside := by
    cases outside
    rfl

/-- A string that has been read where a value is expected is a value. -/
theorem endString_inside {stack : List Frame} (inside : Inside stack) (text : List Char) :
    endString text stack = ⟨stack, .ended (.string text)⟩ := by
  rcases stack with _ | ⟨frame, frames⟩
  · rfl
  · cases frame with
    | key done => exact absurd rfl (inside done frames)
    | array done => rfl
    | value done key => rfl

/-- A number that may end is finished. -/
theorem finished_number (stack : List Frame) {part : NumberPart} (text : List Char)
    (complete : part.complete = true) : Finished ⟨stack, .number part text⟩ (.number text) where
  next := by
    have ended : ∀ c, c = ',' ∨ c = ']' ∨ c = '\x7d' → part.next c = none := by
      rintro c (rfl | rfl | rfl) <;> cases part <;> rfl
    intro c isEnd
    simp only [step, ended c isEnd, if_pos complete]
  last outside := by
    cases outside
    simp only [eof, if_pos complete]

/-- A scalar that has been written is read where a value is expected. -/
theorem scalar_reads (style : Style) (x : Scalar) (stack : List Frame) (inside : Inside stack) :
    ∃ t, run ⟨stack, .value⟩ (style.scalar x) = some t ∧ t.stack = stack ∧ Finished t x.value := by
  cases x with
  | null => exact ⟨_, rfl, rfl, finished_ended stack _⟩
  | bool b => cases b <;> exact ⟨_, rfl, rfl, finished_ended stack _⟩
  | string text =>
    refine ⟨_, ?_, rfl, finished_ended stack (.string text)⟩
    rw [← endString_inside inside]
    exact run_string style stack text
  | number text valid =>
    obtain ⟨last, scanned, complete⟩ := valid.scanned
    rcases text with _ | ⟨c, rest⟩
    · cases scanned
    obtain ⟨part, first, left⟩ := Option.bind_eq_some_iff.mp scanned
    refine ⟨_, ?_, rfl, finished_number stack (c :: rest) complete⟩
    show run _ (c :: rest) = _
    rw [run_cons_of (step_number _ first), run_number _ rest part last [c] left]
    rfl

/-- A scalar begins with a character that is no space. -/
theorem scalar_solid (style : Style) (x : Scalar) :
    ∃ c rest, style.scalar x = c :: rest ∧ isSpace c = false := by
  cases x with
  | null => exact ⟨_, _, rfl, rfl⟩
  | bool b => cases b <;> exact ⟨_, _, rfl, rfl⟩
  | string text => exact ⟨_, _, rfl, rfl⟩
  | number text valid =>
    obtain ⟨last, scanned, -⟩ := valid.scanned
    rcases text with _ | ⟨c, rest⟩
    · cases scanned
    obtain ⟨part, first, -⟩ := Option.bind_eq_some_iff.mp scanned
    refine ⟨c, rest, rfl, Bool.eq_false_iff.mpr fun space => ?_⟩
    -- no number begins with a space
    have blank : c = ' ' ∨ c = '\t' ∨ c = '\r' ∨ c = '\n' := of_decide_eq_true space
    rcases blank with rfl | rfl | rfl | rfl <;> cases first

namespace Doc

variable {L : Type}

/-! ### Depth and value -/

mutual

/-- How deep a document is nested. -/
def depth : Doc L → Nat
  | .leaf _ => 0
  | .array elements => elementsDepth elements + 1
  | .object members => membersDepth members + 1

def elementsDepth : List (Doc L) → Nat
  | [] => 0
  | d :: rest => max (depth d) (elementsDepth rest)

def membersDepth : List (List Char × Doc L) → Nat
  | [] => 0
  | (_, d) :: rest => max (depth d) (membersDepth rest)

end

variable (leaves : Leaves L)

mutual

/-- The value of a document. -/
def value : Doc L → Value
  | .leaf x => leaves.value x
  | .array elements => .array (elementsValue elements)
  | .object members => .object (membersValue members)

def elementsValue : List (Doc L) → List Value
  | [] => []
  | d :: rest => value d :: elementsValue rest

def membersValue : List (List Char × Doc L) → List (List Char × Value)
  | [] => []
  | (key, d) :: rest => (key, value d) :: membersValue rest

end

/-! ### Writing -/

variable (style : Style)

mutual

/-- A document as it is written. -/
def write : Doc L → List Char
  | .leaf x => leaves.write x
  | .array [] => ['[', ']']
  | .array (d :: rest) => '[' :: (write d ++ writeElements rest)
  | .object [] => ['\x7b', '\x7d']
  | .object ((key, d) :: rest) =>
    '\x7b' :: (style.string key ++ ':' :: (style.gap ++ write d) ++ writeMembers rest)

/-- What follows an element. -/
def writeElements : List (Doc L) → List Char
  | [] => [']']
  | d :: rest => ',' :: (style.gap ++ write d ++ writeElements rest)

/-- What follows a member. -/
def writeMembers : List (List Char × Doc L) → List Char
  | [] => ['\x7d']
  | (key, d) :: rest =>
    ',' :: (style.gap ++ (style.string key ++ ':' :: (style.gap ++ write d)) ++ writeMembers rest)

end

/-! ### Reading what is written -/

/-- A document begins with a character that is no space. -/
theorem write_solid (d : Doc L) :
    ∃ c rest, d.write leaves style = c :: rest ∧ isSpace c = false := by
  cases d with
  | leaf x => exact leaves.solid x
  | array elements => cases elements <;> exact ⟨_, _, rfl, rfl⟩
  | object members => rcases members with _ | ⟨⟨key, d⟩, rest⟩ <;> exact ⟨_, _, rfl, rfl⟩

/-- The first element of an array is read as any value. -/
theorem run_first {stack : List Frame} {text : List Char} {t : Scanner}
    (solid : ∃ c rest, text = c :: rest ∧ isSpace c = false)
    (ran : run ⟨stack, .value⟩ text = some t) : run ⟨stack, .valueOrEnd⟩ text = some t := by
  obtain ⟨c, rest, rfl, hard⟩ := solid
  have other : c ≠ ']' := by
    rintro rfl
    cases ran
  have same : step ⟨stack, .valueOrEnd⟩ c = step ⟨stack, .value⟩ c := by
    simp only [step, hard, if_neg other]
    rfl
  rw [run_cons, same]
  exact ran

/-- A key that has been written is read, up to its colon. -/
theorem run_key (key : List Char) (stack : List Frame) (done : List (List Char × Value))
    (mode : Mode) (opens : step ⟨.key done :: stack, mode⟩ '"' =
      some ⟨.key done :: stack, .string []⟩) (rest : List Char) :
    run ⟨.key done :: stack, mode⟩ (style.string key ++ ':' :: (style.gap ++ rest)) =
      run ⟨.value done key :: stack, .value⟩ rest := by
  have quoted : run ⟨.key done :: stack, mode⟩ (style.string key) =
      some ⟨.key done :: stack, .colon key⟩ := by
    rw [Style.string, run_cons_of opens]
    exact run_string style (.key done :: stack) key
  rw [run_append_of quoted, run_cons_of rfl, run_gap style rfl]

/-- Where a container may still be opened, its frame may be pushed. -/
theorem push_of_lt {stack : List Frame} (room : stack.length < maxNestingDepth) (frame : Frame)
    (mode : Mode) : push frame stack mode = some ⟨frame :: stack, mode⟩ := if_pos room

mutual

/-- **A document is read where a value is expected.** -/
theorem run_write : ∀ (d : Doc L) (stack : List Frame), Inside stack →
    stack.length + d.depth ≤ maxNestingDepth →
    ∃ t, run ⟨stack, .value⟩ (d.write leaves style) = some t ∧ t.stack = stack ∧
      Finished t (d.value leaves)
  | .leaf x, stack, inside, _ => leaves.reads x stack inside
  | .array elements, stack, _, room => by
    rw [depth] at room
    have deeper : stack.length < maxNestingDepth := by omega
    have opened : step ⟨stack, .value⟩ '[' = some ⟨.array [] :: stack, .valueOrEnd⟩ :=
      push_of_lt deeper _ _
    rcases elements with _ | ⟨d, rest⟩
    · refine ⟨⟨stack, .ended (.array [])⟩, ?_, rfl, finished_ended stack _⟩
      rw [write, run_cons_of opened]
      rfl
    rw [elementsDepth] at room
    obtain ⟨t, ran, stacked, finished⟩ := run_write d (.array [] :: stack)
      (fun _ _ same => by cases same) (by rw [List.length_cons]; omega)
    refine ⟨_, ?_, rfl, finished_ended stack (value leaves (.array (d :: rest)))⟩
    rw [write, run_cons_of opened,
      run_append_of (run_first (write_solid leaves style d) ran),
      run_elements rest stack [] (d.value leaves) t stacked finished (by omega), value, elementsValue]
    rfl
  | .object members, stack, _, room => by
    rw [depth] at room
    have deeper : stack.length < maxNestingDepth := by omega
    have opened : step ⟨stack, .value⟩ '\x7b' = some ⟨.key [] :: stack, .keyOrEnd⟩ :=
      push_of_lt deeper _ _
    rcases members with _ | ⟨⟨key, d⟩, rest⟩
    · refine ⟨⟨stack, .ended (.object [])⟩, ?_, rfl, finished_ended stack _⟩
      rw [write, run_cons_of opened]
      rfl
    rw [membersDepth] at room
    obtain ⟨t, ran, stacked, finished⟩ := run_write d (.value [] key :: stack)
      (fun _ _ same => by cases same) (by rw [List.length_cons]; omega)
    refine ⟨_, ?_, rfl, finished_ended stack (value leaves (.object ((key, d) :: rest)))⟩
    have first := run_key style key stack [] .keyOrEnd rfl (d.write leaves style)
    rw [ran] at first
    rw [write, run_cons_of opened, run_append_of first,
      run_members rest stack [] key (d.value leaves) t stacked finished (by omega), value,
      membersValue]
    rfl

/-- What follows an element is read, to the end of the array. -/
theorem run_elements : ∀ (rest : List (Doc L)) (stack : List Frame) (done : List Value) (v : Value)
    (s : Scanner), s.stack = .array done :: stack → Finished s v →
    stack.length + 1 + elementsDepth rest ≤ maxNestingDepth →
    run s (writeElements leaves style rest) =
      some ⟨stack, .ended (.array (done ++ v :: elementsValue leaves rest))⟩
  | [], stack, done, v, s, stacked, finished, _ => by
    have stepped := finished.next ']' (.inr (.inl rfl))
    rw [stacked] at stepped
    rw [writeElements, run_cons_of stepped]
    rfl
  | d :: rest, stack, done, v, s, stacked, finished, room => by
    have stepped := finished.next ',' (.inl rfl)
    rw [stacked] at stepped
    rw [elementsDepth] at room
    obtain ⟨t, ran, stacked', finished'⟩ := run_write d (.array (done ++ [v]) :: stack)
      (fun _ _ same => by cases same) (by rw [List.length_cons]; omega)
    rw [writeElements, run_cons_of stepped, List.append_assoc, run_gap style rfl, run_append_of ran,
      run_elements rest stack (done ++ [v]) (d.value leaves) t stacked' finished' (by omega),
      List.append_assoc, elementsValue]
    rfl

/-- What follows a member is read, to the end of the object. -/
theorem run_members : ∀ (rest : List (List Char × Doc L)) (stack : List Frame)
    (done : List (List Char × Value)) (key : List Char) (v : Value) (s : Scanner),
    s.stack = .value done key :: stack → Finished s v →
    stack.length + 1 + membersDepth rest ≤ maxNestingDepth →
    run s (writeMembers leaves style rest) =
      some ⟨stack, .ended (.object (done ++ (key, v) :: membersValue leaves rest))⟩
  | [], stack, done, key, v, s, stacked, finished, _ => by
    have stepped := finished.next '\x7d' (.inr (.inr rfl))
    rw [stacked] at stepped
    rw [writeMembers, run_cons_of stepped]
    rfl
  | (other, d) :: rest, stack, done, key, v, s, stacked, finished, room => by
    have stepped := finished.next ',' (.inl rfl)
    rw [stacked] at stepped
    rw [membersDepth] at room
    obtain ⟨t, ran, stacked', finished'⟩ := run_write d (.value (done ++ [(key, v)]) other :: stack)
      (fun _ _ same => by cases same) (by rw [List.length_cons]; omega)
    have member := run_key style other stack (done ++ [(key, v)]) .key rfl (d.write leaves style)
    rw [ran] at member
    rw [writeMembers, run_cons_of stepped, List.append_assoc, run_gap style rfl,
      run_append_of member,
      run_members rest stack (done ++ [(key, v)]) other (d.value leaves) t stacked' finished'
        (by omega),
      List.append_assoc, membersValue]
    rfl

end

mutual

/-- A document is written without control characters. -/
theorem write_visible : ∀ (d : Doc L), ∀ c ∈ d.write leaves style, isControl c = false
  | .leaf x => leaves.visible x
  | .array [] => all_visible rfl
  | .object [] => all_visible rfl
  | .array (d :: rest) => by
    intro c inside
    simp only [write, List.mem_cons, List.mem_append] at inside
    rcases inside with rfl | first | later
    · decide
    · exact write_visible d c first
    · exact writeElements_visible rest c later
  | .object ((key, d) :: rest) => by
    intro c inside
    simp only [write, List.mem_cons, List.mem_append] at inside
    rcases inside with rfl | (named | rfl | gap | first) | later
    · decide
    · exact string_visible style key c named
    · decide
    · exact gap_visible style c gap
    · exact write_visible d c first
    · exact writeMembers_visible rest c later

theorem writeElements_visible : ∀ (rest : List (Doc L)),
    ∀ c ∈ writeElements leaves style rest, isControl c = false
  | [] => all_visible rfl
  | d :: rest => by
    intro c inside
    simp only [writeElements, List.mem_cons, List.mem_append] at inside
    rcases inside with rfl | (gap | first) | later
    · decide
    · exact gap_visible style c gap
    · exact write_visible d c first
    · exact writeElements_visible rest c later

theorem writeMembers_visible : ∀ (rest : List (List Char × Doc L)),
    ∀ c ∈ writeMembers leaves style rest, isControl c = false
  | [] => all_visible rfl
  | (key, d) :: rest => by
    intro c inside
    simp only [writeMembers, List.mem_cons, List.mem_append] at inside
    rcases inside with rfl | (gap | named | rfl | gap | first) | later
    · decide
    · exact gap_visible style c gap
    · exact string_visible style key c named
    · decide
    · exact gap_visible style c gap
    · exact write_visible d c first
    · exact writeMembers_visible rest c later

end

end Doc

end SpicedbEmbedded.Json
