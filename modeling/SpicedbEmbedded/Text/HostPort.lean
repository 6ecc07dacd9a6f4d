/-
**Hosts and ports in one text.**

`joinHostPort` writes a host and a port, the host in brackets if it has colons of its own;
`splitHostPort` reads them back (**`splitHostPort_joinHostPort`**). `indexOf` and `lastIndexOf` find
the first and the last place of a character, which is how such texts are read by hand.
-/

import Std.Data.String.ToNat
import Mathlib.Data.List.Basic

namespace SpicedbEmbedded.Text

/-! ### Places of a character -/

/-- The first place of a character. -/
def indexOf (c : Char) (text : List Char) : Option Nat := text.findIdx? (· = c)

/-- The last place of a character. -/
def lastIndexOf (c : Char) (text : List Char) : Option Nat :=
  (indexOf c text.reverse).map fun fromEnd => text.length - 1 - fromEnd

theorem indexOf_append {c : Char} {front : List Char} (clear : c ∉ front) (back : List Char) :
    indexOf c (front ++ c :: back) = some front.length := by
  have none : front.findIdx? (· = c) = none := by
    rw [List.findIdx?_eq_none_iff]
    intro other inside
    exact decide_eq_false fun same => clear (same ▸ inside)
  rw [indexOf, List.findIdx?_append, none, List.findIdx?_cons]
  simp

theorem lastIndexOf_append {c : Char} (front : List Char) {back : List Char} (clear : c ∉ back) :
    lastIndexOf c (front ++ c :: back) = some front.length := by
  have turned : (front ++ c :: back).reverse = back.reverse ++ c :: front.reverse := by simp
  rw [lastIndexOf, turned, indexOf_append (by simpa using clear)]
  simp only [Option.map_some, List.length_append, List.length_cons, List.length_reverse]
  congr 1
  omega

/-! ### Hosts -/

/-- A character of a host name, an IPv4 address or an IPv6 address with its zone. -/
def hostChar (c : Char) : Bool := c.isAlphanum || ['.', '-', '_', ':', '%'].contains c

/-- A host. -/
def Host (host : List Char) : Prop := host ≠ [] ∧ host.all hostChar = true

instance (host : List Char) : Decidable (Host host) := inferInstanceAs (Decidable (_ ∧ _))

/-- Characters that no host has. -/
theorem Host.not_mem {host : List Char} (plain : Host host) {c : Char} (other : hostChar c = false) :
    c ∉ host := fun inside => by
  have good := List.all_eq_true.mp plain.2 c inside
  rw [other] at good
  cases good

theorem Host.head {host : List Char} (plain : Host host) {c : Char} (other : hostChar c = false) :
    host.head? ≠ some c := fun first => plain.not_mem other (List.mem_of_mem_head? first)

/-! ### Printing and reading -/

/-- `net.JoinHostPort` with the port in decimal. -/
def joinHostPort (host : List Char) (port : Nat) : List Char :=
  if ':' ∈ host then '[' :: host ++ ']' :: ':' :: Nat.toDigits 10 port
  else host ++ ':' :: Nat.toDigits 10 port

/-- A port number. -/
def readPort (text : List Char) : Option Nat :=
  if text ≠ [] ∧ text.all Char.isDigit ∧ Nat.ofDigitChars 10 text 0 ≤ 65535 then
    some (Nat.ofDigitChars 10 text 0)
  else none

/-- The host and the port of a text; a host in brackets may have colons. -/
def splitHostPort (text : List Char) : Option (List Char × Nat) :=
  match text with
  | '[' :: rest =>
    match rest.dropWhile (· ≠ ']') with
    | ']' :: ':' :: port => (readPort port).map fun port => (rest.takeWhile (· ≠ ']'), port)
    | _ => none
  | text =>
    match text.dropWhile (· ≠ ':') with
    | ':' :: port => (readPort port).map fun port => (text.takeWhile (· ≠ ':'), port)
    | _ => none

theorem isDigit_of_mem_toDigits {c : Char} {n : Nat} (inside : c ∈ Nat.toDigits 10 n) :
    c.isDigit = true := Nat.isDigit_of_mem_toDigits (by decide) (by decide) inside

theorem readPort_toDigits {port : Nat} (small : port ≤ 65535) :
    readPort (Nat.toDigits 10 port) = some port := by
  have digits : (Nat.toDigits 10 port).all Char.isDigit = true :=
    List.all_eq_true.mpr fun c inside => isDigit_of_mem_toDigits inside
  rw [readPort, Nat.ofDigitChars_ten_toDigits, if_pos ⟨Nat.toDigits_ne_nil, digits, small⟩]

/-- A text up to a character it does not have. -/
theorem takeWhile_dropWhile_append {c : Char} {front : List Char} (clear : c ∉ front)
    (back : List Char) :
    (front ++ c :: back).takeWhile (· ≠ c) = front ∧
      (front ++ c :: back).dropWhile (· ≠ c) = c :: back := by
  have all : ∀ other ∈ front, decide (other ≠ c) = true := fun other inside =>
    decide_eq_true fun same => clear (same ▸ inside)
  constructor
  · rw [List.takeWhile_append_of_pos all]
    simp
  · rw [List.dropWhile_append_of_pos all]
    simp

/-- **A host and a port are read as printed.** -/
theorem splitHostPort_joinHostPort {host : List Char} (plain : Host host) {port : Nat}
    (small : port ≤ 65535) : splitHostPort (joinHostPort host port) = some (host, port) := by
  by_cases colons : ':' ∈ host
  · obtain ⟨before, after⟩ := takeWhile_dropWhile_append (plain.not_mem (c := ']') (by decide))
      (':' :: Nat.toDigits 10 port)
    rw [joinHostPort, if_pos colons, List.cons_append, splitHostPort, after, before]
    show (readPort (Nat.toDigits 10 port)).map _ = _
    rw [readPort_toDigits small]
    rfl
  · obtain ⟨before, after⟩ := takeWhile_dropWhile_append colons (Nat.toDigits 10 port)
    have unbracketed : ∀ rest, host ++ ':' :: Nat.toDigits 10 port ≠ '[' :: rest := by
      intro rest same
      cases host with
      | nil => exact plain.1 rfl
      | cons first others =>
        exact plain.head (c := '[') (by decide) (congrArg some (List.cons.inj same).1)
    rw [joinHostPort, if_neg colons, splitHostPort, after, before]
    · show (readPort (Nat.toDigits 10 port)).map _ = _
      rw [readPort_toDigits small]
      rfl
    · exact fun rest same => unbracketed rest same

end SpicedbEmbedded.Text
