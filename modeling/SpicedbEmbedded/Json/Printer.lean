/-
**Printers of flat JSON objects.**

* `Printer` — a library that prints an object of scalars: parsing undoes printing, and control
  characters are escaped.
* `Style` — the liberties printers take: short escapes, characters that are escaped without need, the
  case of hexadecimal digits, and blanks.
* **`parse_print`** — in whatever style an object is printed, parsing it gives its members.
* `Style.printer` — so each style is a printer.
-/

import Mathlib.Data.List.Basic
import SpicedbEmbedded.Json.Scanner

namespace SpicedbEmbedded.Json

/-! ### Scalars -/

/-- The part a text of a number ends in, if it is one so far. -/
def scanNumber : List Char → Option NumberPart
  | [] => none
  | c :: rest =>
    (if c = '-' then some .sign else NumberPart.next c .sign).bind fun part =>
      rest.foldlM (fun part c => NumberPart.next c part) part

/-- A text that is a number. -/
def IsNumber (text : List Char) : Prop := (scanNumber text).any NumberPart.complete = true

instance (text : List Char) : Decidable (IsNumber text) := inferInstanceAs (Decidable (_ = _))

/-- A number is scanned to an end. -/
theorem IsNumber.scanned {text : List Char} (valid : IsNumber text) :
    ∃ last, scanNumber text = some last ∧ last.complete = true := by
  rw [IsNumber] at valid
  rcases scanned : scanNumber text with _ | last
  · rw [scanned] at valid
    cases valid
  · rw [scanned] at valid
    exact ⟨last, rfl, valid⟩

/-- A value that is no array and no object. -/
inductive Scalar
  | null
  | bool (b : Bool)
  | number (text : List Char) (valid : IsNumber text)
  | string (text : List Char)

/-- An integer as it is printed. -/
def decimal : Int → List Char
  | .ofNat n => Nat.toDigits 10 n
  | .negSucc n => '-' :: Nat.toDigits 10 (n + 1)

/-- A run of digits after a first one. -/
theorem foldlM_whole {rest : List Char} (digits : ∀ c ∈ rest, c.isDigit = true) :
    rest.foldlM (fun part c => NumberPart.next c part) .whole = some .whole := by
  induction rest with
  | nil => rfl
  | cons c left later =>
    have first : NumberPart.next c .whole = some .whole :=
      if_pos (digits c List.mem_cons_self)
    rw [List.foldlM_cons, first]
    exact later fun d inside => digits d (List.mem_cons_of_mem _ inside)

/-- The first digit of a positive number is not zero. -/
theorem toDigits_ne_zero_cons {n : Nat} (positive : 0 < n) (rest : List Char) :
    Nat.toDigits 10 n ≠ '0' :: rest := by
  induction n using Nat.strongRecOn generalizing rest with
  | ind n later =>
    by_cases small : n < 10
    · have all : ∀ n < 10, 0 < n → n.digitChar ≠ '0' := by decide
      rw [Nat.toDigits_of_lt_base small]
      exact fun same => all n small positive (List.cons.inj same).1
    · rw [Nat.toDigits_of_base_le (by decide) (by omega)]
      rcases digits : Nat.toDigits 10 (n / 10) with _ | ⟨c, left⟩
      · exact absurd digits Nat.toDigits_ne_nil
      · intro same
        rw [List.cons_append, List.cons.injEq] at same
        exact later (n / 10) (by omega) (by omega) left (by rw [digits, same.1])

/-- The digits of a natural number are scanned to an end. -/
theorem scan_toDigits (n : Nat) :
    ∃ c rest part last, Nat.toDigits 10 n = c :: rest ∧ c.isDigit = true ∧
      NumberPart.next c .sign = some part ∧
      rest.foldlM (fun part c => NumberPart.next c part) part = some last ∧
      last.complete = true := by
  by_cases zero : n = 0
  · rw [zero]
    exact ⟨'0', [], .zero, .zero, rfl, rfl, rfl, rfl, rfl⟩
  have digit : ∀ c ∈ Nat.toDigits 10 n, c.isDigit = true := fun c inside =>
    Nat.isDigit_of_mem_toDigits (by decide) (by decide) inside
  rcases digits : Nat.toDigits 10 n with _ | ⟨c, rest⟩
  · exact absurd digits Nat.toDigits_ne_nil
  rw [digits] at digit
  have first : c ≠ '0' := by
    rintro rfl
    exact toDigits_ne_zero_cons (Nat.pos_of_ne_zero zero) rest digits
  refine ⟨c, rest, .whole, .whole, rfl, digit c List.mem_cons_self, ?_,
    foldlM_whole fun d inside => digit d (List.mem_cons_of_mem _ inside), rfl⟩
  rw [NumberPart.next, if_neg first, if_pos (digit c List.mem_cons_self)]

theorem decimal_isNumber (n : Int) : IsNumber (decimal n) := by
  rw [IsNumber]
  cases n with
  | ofNat n =>
    obtain ⟨c, rest, part, last, digits, digit, first, left, complete⟩ := scan_toDigits n
    have unsigned : c ≠ '-' := by
      rintro rfl
      cases digit
    rw [decimal, digits, scanNumber, if_neg unsigned, first, Option.bind_some, left]
    exact complete
  | negSucc n =>
    obtain ⟨c, rest, part, last, digits, digit, first, left, complete⟩ := scan_toDigits (n + 1)
    rw [decimal, digits, scanNumber, if_pos rfl, Option.bind_some, List.foldlM_cons, first]
    show Option.any _ (rest.foldlM (fun part c => NumberPart.next c part) part) = true
    rw [left]
    exact complete

/-- An integer as a scalar. -/
def Scalar.integer (n : Int) : Scalar := .number (decimal n) (decimal_isNumber n)

/-- A scalar as a value. -/
def Scalar.value : Scalar → Value
  | .null => .null
  | .bool b => .bool b
  | .number text _ => .number text
  | .string text => .string text

/-- A printer of objects whose members are scalars with distinct keys. -/
structure Printer where
  print : List (List Char × Scalar) → List Char
  parses : ∀ members, (members.map Prod.fst).Nodup →
    parse (print members) = some (.object (members.map fun m => (m.1, m.2.value)))
  escapes : ∀ members c, c ∈ print members → isControl c = false

/-! ### Styles -/

/-- How a printer writes what it may write in more than one way. -/
structure Style where
  short : Char → Bool
  byNumber : Char → Bool
  upper : Bool
  blank : Bool

/-- The letter of a character's short escape. -/
def shortFor (c : Char) : Option Char :=
  if c = '\x08' then some 'b'
  else if c = '\x0c' then some 'f'
  else if c = '\n' then some 'n'
  else if c = '\r' then some 'r'
  else if c = '\t' then some 't'
  else if c = '\\' ∨ c = '"' then some c
  else none

/-- A hexadecimal digit. -/
def hexDigit (upper : Bool) (d : Nat) : Char :=
  if d < 10 then Char.ofNat ('0'.toNat + d)
  else Char.ofNat ((if upper then 'A' else 'a').toNat + (d - 10))

/-- A code unit by its number. -/
def hex4 (upper : Bool) (u : Nat) : List Char :=
  ['\\', 'u', hexDigit upper (u / 4096 % 16), hexDigit upper (u / 256 % 16),
    hexDigit upper (u / 16 % 16), hexDigit upper (u % 16)]

/-- The UTF-16 of a character. -/
def units (c : Char) : List Nat :=
  if c.toNat < 0x10000 then [c.toNat]
  else [0xD800 + (c.toNat - 0x10000) / 0x400, 0xDC00 + (c.toNat - 0x10000) % 0x400]

namespace Style

variable (style : Style)

/-- Whether a character is written by its number. -/
def numbered (c : Char) : Bool := style.byNumber c || isControl c || c = '"' || c = '\\'

/-- A character of a string. -/
def char (c : Char) : List Char :=
  match if style.short c then shortFor c else none with
  | some letter => ['\\', letter]
  | none => if style.numbered c then (units c).flatMap (hex4 style.upper) else [c]

/-- What a character is written as. -/
def pieces (c : Char) : List Piece :=
  match if style.short c then shortFor c else none with
  | some _ => [.char c]
  | none => if style.numbered c then (units c).map .unit else [.char c]

/-- A string. -/
def string (text : List Char) : List Char := '"' :: (text.flatMap style.char ++ ['"'])

/-- A scalar. -/
def scalar : Scalar → List Char
  | .null => ['n', 'u', 'l', 'l']
  | .bool true => ['t', 'r', 'u', 'e']
  | .bool false => ['f', 'a', 'l', 's', 'e']
  | .number text _ => text
  | .string text => style.string text

/-- The blank after a comma and after a colon. -/
def gap : List Char := if style.blank then [' '] else []

/-- A member of an object. -/
def member (m : List Char × Scalar) : List Char :=
  style.string m.1 ++ ':' :: (style.gap ++ style.scalar m.2)

/-- What follows a member. -/
def tail : List (List Char × Scalar) → List Char
  | [] => ['\x7d']
  | m :: rest => ',' :: (style.gap ++ style.member m ++ tail rest)

/-- An object. -/
def print : List (List Char × Scalar) → List Char
  | [] => ['\x7b', '\x7d']
  | m :: rest => '\x7b' :: (style.member m ++ style.tail rest)

end Style

/-! ### Characters -/

/-- A hexadecimal digit is read as its number. -/
theorem hexValue_hexDigit (upper : Bool) {d : Nat} (small : d < 16) :
    hexValue (hexDigit upper d) = some d := by
  have all : ∀ upper, ∀ d < 16, hexValue (hexDigit upper d) = some d := by decide
  exact all upper d small

section
variable (stack : List Frame) (before : List Piece)

theorem step_quote : step ⟨stack, .string before⟩ '"' = some (endString (resolve before) stack) :=
  rfl

theorem step_backslash : step ⟨stack, .string before⟩ '\\' = some ⟨stack, .escape before⟩ := rfl

/-- A character that needs no escape is read as itself. -/
theorem step_plain {c : Char} (plain : isControl c = false ∧ c ≠ '"' ∧ c ≠ '\\') :
    step ⟨stack, .string before⟩ c = some ⟨stack, .string (before ++ [.char c])⟩ := by
  simp only [step, plain.1, if_neg plain.2.1, if_neg plain.2.2]
  rfl

theorem step_unicode : step ⟨stack, .escape before⟩ 'u' = some ⟨stack, .hex before 3 0⟩ := rfl

/-- The letter of a short escape is read as its character. -/
theorem step_short {c letter : Char} (short : shortFor c = some letter) :
    step ⟨stack, .escape before⟩ letter = some ⟨stack, .string (before ++ [.char c])⟩ := by
  rw [shortFor] at short
  split_ifs at short with back feed newline ret tab self
  · cases short
    rw [back]
    rfl
  · cases short
    rw [feed]
    rfl
  · cases short
    rw [newline]
    rfl
  · cases short
    rw [ret]
    rfl
  · cases short
    rw [tab]
    rfl
  · cases short
    rcases self with same | same <;> rw [same] <;> rfl

theorem step_hex {c : Char} {d : Nat} (digit : hexValue c = some d) (left unit : Nat) :
    step ⟨stack, .hex before (left + 1) unit⟩ c = some ⟨stack, .hex before left (16 * unit + d)⟩ := by
  simp only [step, digit, Option.map_some]

theorem step_hex_last {c : Char} {d : Nat} (digit : hexValue c = some d) (unit : Nat) :
    step ⟨stack, .hex before 0 unit⟩ c =
      some ⟨stack, .string (before ++ [.unit (16 * unit + d)])⟩ := by
  simp only [step, digit, Option.map_some]

/-- A code unit that is written by its number is read. -/
theorem run_hex4 (upper : Bool) {u : Nat} (small : u < 0x10000) :
    run ⟨stack, .string before⟩ (hex4 upper u) = some ⟨stack, .string (before ++ [.unit u])⟩ := by
  have digit (d : Nat) : hexValue (hexDigit upper (d % 16)) = some (d % 16) :=
    hexValue_hexDigit upper (Nat.mod_lt _ (by decide))
  have sum : 16 * (16 * (16 * (16 * 0 + u / 4096 % 16) + u / 256 % 16) + u / 16 % 16) + u % 16
      = u := by
    omega
  rw [hex4, run_cons_of (step_backslash ..), run_cons_of (step_unicode ..),
    run_cons_of (step_hex _ _ (digit _) ..), run_cons_of (step_hex _ _ (digit _) ..),
    run_cons_of (step_hex _ _ (digit _) ..), run_cons_of (step_hex_last _ _ (digit _) _), sum,
    run_nil]

/-- Code units that are written by their numbers are read. -/
theorem run_units (upper : Bool) (us : List Nat) (small : ∀ u ∈ us, u < 0x10000) :
    run ⟨stack, .string before⟩ (us.flatMap (hex4 upper)) =
      some ⟨stack, .string (before ++ us.map .unit)⟩ := by
  induction us generalizing before with
  | nil => rw [List.map_nil, List.append_nil, List.flatMap_nil, run_nil]
  | cons u rest later =>
    rw [List.flatMap_cons,
      run_append_of (run_hex4 stack before upper (small u List.mem_cons_self)),
      later _ fun w member => small w (List.mem_cons_of_mem _ member), List.append_assoc]
    rfl

end

/-- A character is a number below `0x110000`, and no half of a pair. -/
theorem char_valid (c : Char) : c.toNat < 0xD800 ∨ 0xDFFF < c.toNat ∧ c.toNat < 0x110000 := c.valid

theorem units_small (c : Char) : ∀ u ∈ units c, u < 0x10000 := by
  intro u member
  have valid := char_valid c
  rw [units] at member
  split at member
  · simp only [List.mem_singleton] at member
    omega
  · simp only [List.mem_cons, List.not_mem_nil, or_false] at member
    omega

/-- A character is read as written. -/
theorem run_char (style : Style) (stack : List Frame) (before : List Piece) (c : Char) :
    run ⟨stack, .string before⟩ (style.char c) =
      some ⟨stack, .string (before ++ style.pieces c)⟩ := by
  rw [Style.char, Style.pieces]
  rcases short : (if style.short c = true then shortFor c else none) with _ | letter
  · by_cases numbered : style.numbered c = true
    · simp only [if_pos numbered]
      exact run_units stack before style.upper _ (units_small c)
    · simp only [if_neg numbered]
      obtain ⟨-, plain⟩ : style.byNumber c = false ∧ isControl c = false ∧ c ≠ '"' ∧ c ≠ '\\' := by
        simpa [Style.numbered, and_assoc] using numbered
      rw [run_cons_of (step_plain _ _ plain), run_nil]
  · have letterOf : shortFor c = some letter := by
      split at short
      · exact short
      · cases short
    rw [run_cons_of (step_backslash ..), run_cons_of (step_short _ _ letterOf), run_nil]

/-- Characters are read as written. -/
theorem run_chars (style : Style) (stack : List Frame) (before : List Piece) (text : List Char) :
    run ⟨stack, .string before⟩ (text.flatMap style.char) =
      some ⟨stack, .string (before ++ text.flatMap style.pieces)⟩ := by
  induction text generalizing before with
  | nil => rw [List.flatMap_nil, List.flatMap_nil, List.append_nil, run_nil]
  | cons c rest later =>
    rw [List.flatMap_cons, run_append_of (run_char style stack before c), later,
      List.flatMap_cons, List.append_assoc]

/-- A character of the first plane is its code unit. -/
theorem single_toNat {c : Char} : single c.toNat = c := by
  have valid := char_valid c
  rw [single, if_neg fun half => ?_, Char.ofNat_toNat]
  rcases half with high | low
  · have := high.1
    have := high.2
    omega
  · have := low.1
    have := low.2
    omega

/-- The two code units of a character of another plane. -/
theorem combine_units {c : Char} (other : ¬ c.toNat < 0x10000) :
    IsHigh (0xD800 + (c.toNat - 0x10000) / 0x400) ∧ IsLow (0xDC00 + (c.toNat - 0x10000) % 0x400) ∧
      combine (0xD800 + (c.toNat - 0x10000) / 0x400) (0xDC00 + (c.toNat - 0x10000) % 0x400) = c := by
  have valid := char_valid c
  refine ⟨⟨by omega, by omega⟩, ⟨by omega, by omega⟩, ?_⟩
  rw [combine, show 0x10000 + (0xD800 + (c.toNat - 0x10000) / 0x400 - 0xD800) * 0x400
    + (0xDC00 + (c.toNat - 0x10000) % 0x400 - 0xDC00) = c.toNat by omega, Char.ofNat_toNat]

/-- A code unit of the first plane stands for itself, whatever follows. -/
theorem resolve_unit (c : Char) (rest : List Piece) :
    resolve (.unit c.toNat :: rest) = c :: resolve rest := by
  have valid := char_valid c
  rcases rest with _ | ⟨d | u, rest⟩
  · show single c.toNat :: resolve [] = _
    rw [single_toNat]
  · show single c.toNat :: resolve (.char d :: rest) = _
    rw [single_toNat]
  · rw [resolve, if_neg fun pair => ?_, single_toNat]
    have := pair.1.1
    have := pair.1.2
    omega

/-- What a character is written as stands for it, whatever follows. -/
theorem resolve_pieces (style : Style) (c : Char) (rest : List Piece) :
    resolve (style.pieces c ++ rest) = c :: resolve rest := by
  rw [Style.pieces]
  split
  · rw [List.cons_append, List.nil_append, resolve]
  · split
    · rw [units]
      split
      · exact resolve_unit c rest
      · next other =>
        obtain ⟨high, low, same⟩ := combine_units other
        rw [List.map_cons, List.map_cons, List.map_nil, List.cons_append, List.cons_append,
          List.nil_append, resolve, if_pos ⟨high, low⟩, same]
    · rw [List.cons_append, List.nil_append, resolve]

/-- What a text is written as stands for it. -/
theorem resolve_text (style : Style) (text : List Char) :
    resolve (text.flatMap style.pieces) = text := by
  induction text with
  | nil => rfl
  | cons c rest later => rw [List.flatMap_cons, resolve_pieces, later]

/-- A string that has been written is read. -/
theorem run_string (style : Style) (stack : List Frame) (text : List Char) :
    run ⟨stack, .string []⟩ (text.flatMap style.char ++ ['"']) = some (endString text stack) := by
  rw [run_append_of (run_chars style stack [] text), run_cons_of (step_quote ..), run_nil,
    List.nil_append, resolve_text]

/-! ### Scalars and members -/

/-- The scanner has read a value, once the next character shows that it has ended. -/
def HasRead (s : Scanner) (v : Value) : Prop :=
  ∀ c, c = ',' ∨ c = '\x7d' → step s c = endValue v c s.stack

/-- The characters of a number. -/
theorem run_number (stack : List Frame) (rest : List Char) (part last : NumberPart)
    (before : List Char) (scanned : rest.foldlM (fun part c => NumberPart.next c part) part = some last) :
    run ⟨stack, .number part before⟩ rest = some ⟨stack, .number last (before ++ rest)⟩ := by
  induction rest generalizing part before with
  | nil =>
    cases scanned
    rw [List.append_nil, run_nil]
  | cons c rest later =>
    rw [List.foldlM_cons] at scanned
    obtain ⟨next, moved, left⟩ := Option.bind_eq_some_iff.mp scanned
    have stepped : step ⟨stack, .number part before⟩ c =
        some ⟨stack, .number next (before ++ [c])⟩ := by
      simp only [step, moved]
    rw [run_cons_of stepped, later next _ left, List.append_assoc]
    rfl

/-- The first character of a number. -/
theorem step_number (stack : List Frame) {c : Char} {part : NumberPart}
    (first : (if c = '-' then some .sign else NumberPart.next c .sign) = some part) :
    step ⟨stack, .value⟩ c = some ⟨stack, .number part [c]⟩ := by
  by_cases minus : c = '-'
  · rw [if_pos minus] at first
    cases first
    rw [minus]
    rfl
  rw [if_neg minus, NumberPart.next] at first
  by_cases zero : c = '0'
  · rw [if_pos zero] at first
    cases first
    rw [zero]
    rfl
  rw [if_neg zero] at first
  by_cases digit : c.isDigit = true
  · rw [if_pos digit] at first
    cases first
    have other : ∀ d : Char, d.isDigit = false → c ≠ d := by
      rintro d no rfl
      rw [no] at digit
      cases digit
    have solid : ¬ isSpace c = true := by
      simp [isSpace, other ' ' rfl, other '\t' rfl, other '\r' rfl, other '\n' rfl]
    simp only [step, beginValue, if_neg solid, if_neg (other '\x7b' rfl), if_neg (other '[' rfl),
      if_neg (other '"' rfl), if_neg minus, if_neg zero, if_neg (other 't' rfl),
      if_neg (other 'f' rfl), if_neg (other 'n' rfl), if_pos digit]
  · rw [if_neg digit] at first
    cases first

/-- A number that may end ends at what comes after a member. -/
theorem hasRead_number (stack : List Frame) {part : NumberPart} (text : List Char)
    (complete : part.complete = true) :
    HasRead ⟨stack, .number part text⟩ (.number text) := by
  have ended : ∀ c, c = ',' ∨ c = '\x7d' → part.next c = none := by
    rintro c (rfl | rfl) <;> cases part <;> rfl
  intro c isEnd
  simp only [step, ended c isEnd, if_pos complete]

/-- A scalar that has been written is read. -/
theorem run_scalar (style : Style) (frames : List Frame) (done : List (List Char × Value))
    (key : List Char) (x : Scalar) :
    ∃ t, run ⟨.value done key :: frames, .value⟩ (style.scalar x) = some t ∧
      t.stack = .value done key :: frames ∧ HasRead t x.value := by
  cases x with
  | null => exact ⟨_, rfl, rfl, fun _ _ => rfl⟩
  | bool b => cases b <;> exact ⟨_, rfl, rfl, fun _ _ => rfl⟩
  | string text =>
    exact ⟨_, run_string style (.value done key :: frames) text, rfl, fun _ _ => rfl⟩
  | number text valid =>
    obtain ⟨last, scanned, complete⟩ := valid.scanned
    rcases text with _ | ⟨c, rest⟩
    · cases scanned
    obtain ⟨part, first, left⟩ := Option.bind_eq_some_iff.mp scanned
    refine ⟨_, ?_, rfl, hasRead_number _ (c :: rest) complete⟩
    show run _ (c :: rest) = _
    rw [run_cons_of (step_number _ first), run_number _ rest part last [c] left]
    rfl

/-- White space before a value is passed over. -/
theorem run_gap (style : Style) {stack : List Frame} {mode : Mode}
    (passes : step ⟨stack, mode⟩ ' ' = some ⟨stack, mode⟩) (rest : List Char) :
    run ⟨stack, mode⟩ (style.gap ++ rest) = run ⟨stack, mode⟩ rest := by
  rw [Style.gap]
  split
  · exact run_cons_of passes rest
  · rfl

/-- A member that has been written is read. -/
theorem run_member (style : Style) (frames : List Frame) (done : List (List Char × Value))
    (m : List Char × Scalar) :
    ∃ t, run ⟨.key done :: frames, .key⟩ (style.member m) = some t ∧
      t.stack = .value done m.1 :: frames ∧ HasRead t m.2.value := by
  obtain ⟨t, ran, stacked, read⟩ := run_scalar style frames done m.1 m.2
  refine ⟨t, ?_, stacked, read⟩
  have quoted : run ⟨.key done :: frames, .key⟩ (style.string m.1) =
      some ⟨.key done :: frames, .colon m.1⟩ := run_string style _ m.1
  rw [Style.member, run_append_of quoted, run_cons_of rfl, run_gap style rfl, ran]

/-- What follows a member, to the end of the object. -/
theorem run_tail (style : Style) (rest : List (List Char × Scalar)) (frames : List Frame)
    (done : List (List Char × Value)) (key : List Char) (v : Value) (s : Scanner)
    (stacked : s.stack = .value done key :: frames) (read : HasRead s v) :
    run s (style.tail rest) =
      some ⟨frames, .ended (.object
        (done ++ (key, v) :: rest.map fun m => (m.1, m.2.value)))⟩ := by
  induction rest generalizing done key v s with
  | nil =>
    have stepped := read '\x7d' (.inr rfl)
    rw [stacked] at stepped
    exact run_cons_of stepped []
  | cons m rest later =>
    have stepped := read ',' (.inl rfl)
    rw [stacked] at stepped
    obtain ⟨t, ran, stacked', read'⟩ := run_member style frames (done ++ [(key, v)]) m
    rw [Style.tail, run_cons_of stepped, List.append_assoc, run_gap style rfl, run_append_of ran,
      later _ _ _ _ stacked' read', List.append_assoc]
    rfl

/-- **In whatever style an object is printed, parsing it gives its members.** -/
theorem parse_print (style : Style) (members : List (List Char × Scalar)) :
    parse (style.print members) =
      some (.object (members.map fun m => (m.1, m.2.value))) := by
  cases members with
  | nil => rfl
  | cons m rest =>
    obtain ⟨t, ran, stacked, read⟩ := run_member style [] [] m
    have opened : run ⟨[.key []], .keyOrEnd⟩ (style.member m) = some t := ran
    have entered : step ⟨[], .value⟩ '\x7b' = some ⟨[.key []], .keyOrEnd⟩ := rfl
    rw [parse, Style.print, run_cons_of entered, run_append_of opened,
      run_tail style rest [] [] m.1 m.2.value t stacked read]
    rfl

/-! ### No control characters -/

/-- Characters of which none is a control character. -/
theorem all_visible {text : List Char} (visible : text.any isControl = false) :
    ∀ d ∈ text, isControl d = false := by
  intro d inside
  rw [List.any_eq_false] at visible
  exact Bool.eq_false_iff.mpr (visible d inside)

theorem hexDigit_visible (upper : Bool) (d : Nat) : isControl (hexDigit upper (d % 16)) = false := by
  have all : ∀ upper, ∀ d < 16, isControl (hexDigit upper d) = false := by decide
  exact all upper _ (Nat.mod_lt _ (by decide))

/-- What a character is written as has no control character. -/
theorem char_visible (style : Style) (c : Char) : ∀ d ∈ style.char c, isControl d = false := by
  rw [Style.char]
  rcases short : (if style.short c = true then shortFor c else none) with _ | letter
  · by_cases numbered : style.numbered c = true
    · simp only [if_pos numbered, List.mem_flatMap]
      rintro d ⟨u, -, member⟩
      simp only [hex4, List.mem_cons, List.not_mem_nil, or_false] at member
      rcases member with rfl | rfl | rfl | rfl | rfl | rfl
      · decide
      · decide
      all_goals exact hexDigit_visible _ _
    · simp only [if_neg numbered, List.mem_singleton]
      rintro d rfl
      exact Bool.eq_false_iff.mpr fun low => numbered (by simp [Style.numbered, low])
  · have visible : isControl letter = false := by
      have letterOf : shortFor c = some letter := by
        split at short
        · exact short
        · cases short
      rw [shortFor] at letterOf
      split_ifs at letterOf with _ _ _ _ _ self <;> cases letterOf
      any_goals decide
      rcases self with same | same <;> rw [same] <;> decide
    simp only [List.mem_cons, List.not_mem_nil, or_false]
    rintro d (rfl | rfl)
    · decide
    · exact visible

theorem digit_visible {c : Char} (digit : c.isDigit = true) : isControl c = false := by
  have low : '0'.toNat ≤ c.toNat := by
    rw [Char.isDigit, Bool.and_eq_true, decide_eq_true_iff] at digit
    exact digit.1
  exact decide_eq_false (Nat.not_lt.mpr (Nat.le_trans (by decide) low))

/-- The characters of a number are no control characters. -/
theorem next_visible {part last : NumberPart} {c : Char} (moved : part.next c = some last) :
    isControl c = false := by
  by_contra hidden
  have other : ∀ d : Char, isControl d = false → c ≠ d := by
    rintro d visible rfl
    exact hidden visible
  have none : ¬ c.isDigit = true := fun digit => hidden (digit_visible digit)
  cases part <;>
    simp [NumberPart.next, none, other '0' (by decide), other '.' (by decide),
      other 'e' (by decide), other 'E' (by decide), other '+' (by decide),
      other '-' (by decide)] at moved

theorem number_visible {text : List Char} (valid : IsNumber text) :
    ∀ d ∈ text, isControl d = false := by
  obtain ⟨last, scanned, -⟩ := valid.scanned
  rcases text with _ | ⟨c, rest⟩
  · exact nofun
  obtain ⟨part, first, left⟩ := Option.bind_eq_some_iff.mp scanned
  have all : ∀ (rest : List Char) (part : NumberPart),
      rest.foldlM (fun part c => NumberPart.next c part) part = some last →
        ∀ d ∈ rest, isControl d = false := by
    intro rest
    induction rest with
    | nil => exact fun _ _ => nofun
    | cons d rest later =>
      intro part scanned e member
      rw [List.foldlM_cons] at scanned
      obtain ⟨next, moved, left⟩ := Option.bind_eq_some_iff.mp scanned
      rcases List.mem_cons.mp member with rfl | inside
      · exact next_visible moved
      · exact later next left e inside
  intro d member
  rcases List.mem_cons.mp member with rfl | inside
  · by_cases minus : d = '-'
    · rw [minus]
      decide
    · rw [if_neg minus] at first
      exact next_visible first
  · exact all rest part left d inside

theorem string_visible (style : Style) (text : List Char) :
    ∀ d ∈ style.string text, isControl d = false := by
  intro d member
  rw [Style.string, List.mem_cons, List.mem_append, List.mem_flatMap, List.mem_singleton] at member
  rcases member with rfl | ⟨c, -, inside⟩ | rfl
  · decide
  · exact char_visible style c d inside
  · decide

theorem scalar_visible (style : Style) (x : Scalar) : ∀ d ∈ style.scalar x, isControl d = false := by
  cases x with
  | null => exact all_visible rfl
  | bool b => cases b <;> exact all_visible rfl
  | number text valid => exact number_visible valid
  | string text => exact string_visible style text

theorem gap_visible (style : Style) : ∀ d ∈ style.gap, isControl d = false := by
  rw [Style.gap]
  split <;> exact all_visible rfl

theorem member_visible (style : Style) (m : List Char × Scalar) :
    ∀ d ∈ style.member m, isControl d = false := by
  intro d inside
  simp only [Style.member, List.mem_append, List.mem_cons] at inside
  rcases inside with key | rfl | gap | value
  · exact string_visible style m.1 d key
  · decide
  · exact gap_visible style d gap
  · exact scalar_visible style m.2 d value

theorem tail_visible (style : Style) (rest : List (List Char × Scalar)) :
    ∀ d ∈ style.tail rest, isControl d = false := by
  induction rest with
  | nil => exact all_visible rfl
  | cons m rest later =>
    intro d inside
    simp only [Style.tail, List.mem_append, List.mem_cons] at inside
    rcases inside with rfl | (gap | member) | tail
    · decide
    · exact gap_visible style d gap
    · exact member_visible style m d member
    · exact later d tail

/-- **Every style is a printer.** -/
def Style.printer (style : Style) : Printer where
  print := style.print
  parses members _ := parse_print style members
  escapes members d inside := by
    cases members with
    | nil => exact all_visible rfl d inside
    | cons m rest =>
      simp only [Style.print, List.mem_cons, List.mem_append] at inside
      rcases inside with rfl | member | tail
      · decide
      · exact member_visible style m d member
      · exact tail_visible style rest d tail

end SpicedbEmbedded.Json
