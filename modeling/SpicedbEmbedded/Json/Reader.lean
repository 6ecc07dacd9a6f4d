/-
**JSON libraries, as far as they agree.**

JSON libraries differ in what they make of a repeated key, of a number that is large or no integer, and
of a deep nesting. `Readable` values have none of these.

* `Reader` — a library that reads the texts of readable values.
* `Value.member` — the value at a key of an object.
-/

import Mathlib.Algebra.Ring.Nat
import SpicedbEmbedded.Json.Printer

namespace SpicedbEmbedded.Json

/-- How deep every library goes. -/
def commonDepth : Nat := 16

/-- A value that is nested no deeper than so many levels, whose keys are distinct in every object and
whose numbers are natural numbers of 64 bits. -/
inductive Readable : Nat → Value → Prop
  | null (depth : Nat) : Readable depth .null
  | bool (depth : Nat) (b : Bool) : Readable depth (.bool b)
  | number (depth : Nat) {n : Nat} (small : n < 2 ^ 64) : Readable depth (.number (decimal n))
  | string (depth : Nat) (text : List Char) : Readable depth (.string text)
  | array {depth : Nat} {elements : List Value} (inner : ∀ v ∈ elements, Readable depth v) :
    Readable (depth + 1) (.array elements)
  | object {depth : Nat} {members : List (List Char × Value)}
    (distinct : (members.map Prod.fst).Nodup) (inner : ∀ m ∈ members, Readable depth m.2) :
    Readable (depth + 1) (.object members)

/-- A JSON library: it may read more than the texts of readable values, and in its own way. -/
structure Reader where
  read : List Char → Except String Value
  reads : ∀ text v, parse text = some v → Readable commonDepth v → read text = .ok v

namespace Value

/-- The value at a key. -/
def member (key : List Char) : Value → Option Value
  | .object members => members.lookup key
  | _ => none

def bool? : Value → Option Bool
  | .bool b => some b
  | _ => none

def string? : Value → Option String
  | .string text => some (String.ofList text)
  | _ => none

def number? : Value → Option (List Char)
  | .number text => some text
  | _ => none

end Value

end SpicedbEmbedded.Json
