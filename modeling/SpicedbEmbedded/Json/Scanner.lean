/-
**A scanner of JSON texts.**

The scanner of Go's `encoding/json`: one step for each character, with a stack of what is open around
it. Here it keeps what it has read, so that a text it accepts comes out as a value.

* `Scanner`, `step` — the states of the scanner and its step.
* `run_append` — a run on a text that is put together.
* `parse` — what a text stands for, if it is well formed. Nothing may follow the value but white space.
-/

import Mathlib.Data.Option.Basic

namespace SpicedbEmbedded.Json

/-! ### Values -/

/-- A JSON value. A number is its text. -/
inductive Value
  | null
  | bool (b : Bool)
  | number (text : List Char)
  | string (text : List Char)
  | array (elements : List Value)
  | object (members : List (List Char × Value))

/-! ### The contents of a string -/

/-- What a string is made of: a character, itself or by a short escape, or a UTF-16 code unit by its
number. -/
inductive Piece
  | char (c : Char)
  | unit (u : Nat)
  deriving DecidableEq

/-- `utf16.IsSurrogate`, the first of a pair. -/
def IsHigh (u : Nat) : Prop := 0xD800 ≤ u ∧ u < 0xDC00

/-- `utf16.IsSurrogate`, the second of a pair. -/
def IsLow (u : Nat) : Prop := 0xDC00 ≤ u ∧ u < 0xE000

instance (u : Nat) : Decidable (IsHigh u) := inferInstanceAs (Decidable (_ ∧ _))

instance (u : Nat) : Decidable (IsLow u) := inferInstanceAs (Decidable (_ ∧ _))

/-- `utf16.DecodeRune` of a pair. -/
def combine (high low : Nat) : Char :=
  Char.ofNat (0x10000 + (high - 0xD800) * 0x400 + (low - 0xDC00))

/-- A code unit by itself; half of a pair is replaced. -/
def single (u : Nat) : Char := if IsHigh u ∨ IsLow u then '\uFFFD' else Char.ofNat u

/-- The characters of a string, its pairs put together. -/
def resolve : List Piece → List Char
  | [] => []
  | .char c :: rest => c :: resolve rest
  | .unit high :: .unit low :: rest =>
    if IsHigh high ∧ IsLow low then combine high low :: resolve rest
    else single high :: resolve (.unit low :: rest)
  | .unit u :: rest => single u :: resolve rest

/-! ### The scanner -/

/-- How far the text of a number has come. -/
inductive NumberPart
  | sign
  | zero
  | whole
  | point
  | fraction
  | exp
  | expSign
  | expDigits
  deriving DecidableEq

/-- Whether a number may end here. -/
def NumberPart.complete : NumberPart → Bool
  | .zero | .whole | .fraction | .expDigits => true
  | .sign | .point | .exp | .expSign => false

/-- The part of a number after one more character of it, if it can be one. -/
def NumberPart.next (c : Char) : NumberPart → Option NumberPart
  | .sign => if c = '0' then some .zero else if c.isDigit then some .whole else none
  | .zero => if c = '.' then some .point else if c = 'e' ∨ c = 'E' then some .exp else none
  | .whole =>
    if c.isDigit then some .whole
    else if c = '.' then some .point
    else if c = 'e' ∨ c = 'E' then some .exp
    else none
  | .point => if c.isDigit then some .fraction else none
  | .fraction =>
    if c.isDigit then some .fraction else if c = 'e' ∨ c = 'E' then some .exp else none
  | .exp =>
    if c = '+' ∨ c = '-' then some .expSign else if c.isDigit then some .expDigits else none
  | .expSign => if c.isDigit then some .expDigits else none
  | .expDigits => if c.isDigit then some .expDigits else none

/-- What is open around the scanner, with what has been read of it: an array; an object whose next key
is read; an object whose value for a key is read. -/
inductive Frame
  | array (done : List Value)
  | key (done : List (List Char × Value))
  | value (done : List (List Char × Value)) (key : List Char)

/-- What the scanner is reading. -/
inductive Mode
  | value
  | valueOrEnd
  | key
  | keyOrEnd
  | colon (key : List Char)
  | string (pieces : List Piece)
  | escape (pieces : List Piece)
  | hex (pieces : List Piece) (left : Nat) (unit : Nat)
  | literal (left : List Char) (v : Value)
  | number (part : NumberPart) (text : List Char)
  | ended (v : Value)

/-- The state of the scanner. -/
structure Scanner where
  stack : List Frame
  mode : Mode

/-- `isSpace`. -/
def isSpace (c : Char) : Bool := c = ' ' ∨ c = '\t' ∨ c = '\r' ∨ c = '\n'

/-- `maxNestingDepth`. -/
def maxNestingDepth : Nat := 10000

/-- `pushParseState`. -/
def push (frame : Frame) (stack : List Frame) (mode : Mode) : Option Scanner :=
  if stack.length < maxNestingDepth then some ⟨frame :: stack, mode⟩ else none

/-- `stateBeginValue`. -/
def beginValue (stack : List Frame) (c : Char) : Option Scanner :=
  if isSpace c then some ⟨stack, .value⟩
  else if c = '\x7b' then push (.key []) stack .keyOrEnd
  else if c = '[' then push (.array []) stack .valueOrEnd
  else if c = '"' then some ⟨stack, .string []⟩
  else if c = '-' then some ⟨stack, .number .sign [c]⟩
  else if c = '0' then some ⟨stack, .number .zero [c]⟩
  else if c = 't' then some ⟨stack, .literal ['r', 'u', 'e'] (.bool true)⟩
  else if c = 'f' then some ⟨stack, .literal ['a', 'l', 's', 'e'] (.bool false)⟩
  else if c = 'n' then some ⟨stack, .literal ['u', 'l', 'l'] .null⟩
  else if c.isDigit then some ⟨stack, .number .whole [c]⟩
  else none

/-- `stateEndValue`, after a value. -/
def endValue (v : Value) (c : Char) : List Frame → Option Scanner
  | [] => if isSpace c then some ⟨[], .ended v⟩ else none
  | .array done :: stack =>
    if isSpace c then some ⟨.array done :: stack, .ended v⟩
    else if c = ',' then some ⟨.array (done ++ [v]) :: stack, .value⟩
    else if c = ']' then some ⟨stack, .ended (.array (done ++ [v]))⟩
    else none
  | .value done key :: stack =>
    if isSpace c then some ⟨.value done key :: stack, .ended v⟩
    else if c = ',' then some ⟨.key (done ++ [(key, v)]) :: stack, .key⟩
    else if c = '\x7d' then some ⟨stack, .ended (.object (done ++ [(key, v)]))⟩
    else none
  | .key _ :: _ => none

/-- A string has ended: it was a key or a value. -/
def endString (text : List Char) : List Frame → Scanner
  | .key done :: stack => ⟨.key done :: stack, .colon text⟩
  | stack => ⟨stack, .ended (.string text)⟩

/-- `stateBeginString`. -/
def beginString (stack : List Frame) (c : Char) : Option Scanner :=
  if isSpace c then some ⟨stack, .key⟩
  else if c = '"' then some ⟨stack, .string []⟩
  else none

/-- The character of a short escape. -/
def shortEscape (c : Char) : Option Char :=
  if c = 'b' then some '\x08'
  else if c = 'f' then some '\x0c'
  else if c = 'n' then some '\n'
  else if c = 'r' then some '\r'
  else if c = 't' then some '\t'
  else if c = '\\' ∨ c = '/' ∨ c = '"' then some c
  else none

/-- The number of a hexadecimal digit. -/
def hexValue (c : Char) : Option Nat :=
  if c.isDigit then some (c.toNat - '0'.toNat)
  else if 'a'.toNat ≤ c.toNat ∧ c.toNat ≤ 'f'.toNat then some (c.toNat - 'a'.toNat + 10)
  else if 'A'.toNat ≤ c.toNat ∧ c.toNat ≤ 'F'.toNat then some (c.toNat - 'A'.toNat + 10)
  else none

/-- A character that may not stand in a string as it is. -/
def isControl (c : Char) : Bool := c.toNat < 0x20

/-- `step`: one character. -/
def step (s : Scanner) (c : Char) : Option Scanner :=
  match s.mode with
  | .value => beginValue s.stack c
  | .valueOrEnd =>
    if isSpace c then some s
    else if c = ']' then
      match s.stack with
      | .array done :: stack => some ⟨stack, .ended (.array done)⟩
      | _ => none
    else beginValue s.stack c
  | .key => beginString s.stack c
  | .keyOrEnd =>
    if isSpace c then some s
    else if c = '\x7d' then
      match s.stack with
      | .key done :: stack => some ⟨stack, .ended (.object done)⟩
      | _ => none
    else beginString s.stack c
  | .colon key =>
    if isSpace c then some s
    else if c = ':' then
      match s.stack with
      | .key done :: stack => some ⟨.value done key :: stack, .value⟩
      | _ => none
    else none
  | .string pieces =>
    if c = '"' then some (endString (resolve pieces) s.stack)
    else if c = '\\' then some ⟨s.stack, .escape pieces⟩
    else if isControl c then none
    else some ⟨s.stack, .string (pieces ++ [.char c])⟩
  | .escape pieces =>
    if c = 'u' then some ⟨s.stack, .hex pieces 3 0⟩
    else (shortEscape c).map fun d => ⟨s.stack, .string (pieces ++ [.char d])⟩
  | .hex pieces left unit =>
    (hexValue c).map fun d =>
      match left with
      | 0 => ⟨s.stack, .string (pieces ++ [.unit (16 * unit + d)])⟩
      | left + 1 => ⟨s.stack, .hex pieces left (16 * unit + d)⟩
  | .literal [] _ => none
  | .literal (expected :: left) v =>
    if c = expected then
      some ⟨s.stack, if left = [] then .ended v else .literal left v⟩
    else none
  | .number part text =>
    match part.next c with
    | some part => some ⟨s.stack, .number part (text ++ [c])⟩
    | none => if part.complete then endValue (.number text) c s.stack else none
  | .ended v => endValue v c s.stack

/-- The steps for the characters of a text. -/
def run (s : Scanner) : List Char → Option Scanner
  | [] => some s
  | c :: rest => (step s c).bind fun t => run t rest

/-- `eof`: the value that was read, if the text may end here. -/
def eof (s : Scanner) : Option Value :=
  match s.stack, s.mode with
  | [], .ended v => some v
  | [], .number part text => if part.complete then some (.number text) else none
  | _, _ => none

/-- What a text stands for, if it is well formed. -/
def parse (text : List Char) : Option Value := (run ⟨[], .value⟩ text).bind eof

/-! ### Runs -/

@[simp] theorem run_nil (s : Scanner) : run s [] = some s := rfl

theorem run_cons (s : Scanner) (c : Char) (rest : List Char) :
    run s (c :: rest) = (step s c).bind fun t => run t rest := rfl

/-- A run on a text that is put together. -/
theorem run_append (s : Scanner) (first rest : List Char) :
    run s (first ++ rest) = (run s first).bind fun t => run t rest := by
  induction first generalizing s with
  | nil => rfl
  | cons c left later =>
    rw [List.cons_append, run_cons, run_cons, Option.bind_assoc]
    exact congrArg _ (funext later)

/-- A run that is known is followed by the run on the rest. -/
theorem run_append_of {s t : Scanner} {first : List Char} (ran : run s first = some t)
    (rest : List Char) : run s (first ++ rest) = run t rest := by
  rw [run_append, ran, Option.bind_some]

theorem run_cons_of {s t : Scanner} {c : Char} (stepped : step s c = some t) (rest : List Char) :
    run s (c :: rest) = run t rest := by
  rw [run_cons, stepped, Option.bind_some]

end SpicedbEmbedded.Json
