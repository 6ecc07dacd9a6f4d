/-
**UTF-8, as Go reads it.**

* `encode` — the UTF-8 of a text.
* `runes` — the characters of a byte string. What is no UTF-8 is read as a replacement character, one
  byte at a time.
* `decoded` — the same with the places that are no UTF-8 left open.
* `runes_encode` — reading undoes encoding.
* `zero_mem_encode_iff` — a byte is zero only where a character is.
-/

import Mathlib.Data.List.Basic

namespace SpicedbEmbedded.Text

/-- The UTF-8 of a text. -/
def encode (text : List Char) : List UInt8 := text.flatMap String.utf8EncodeChar

/-- `utf8.DecodeRune`, again and again, after the bytes of a character that has been read. -/
def runesAfter : Nat → List UInt8 → List Char
  | _, [] => []
  | read + 1, _ :: rest => runesAfter read rest
  | 0, b :: rest =>
    match (b :: rest).toByteArray.utf8DecodeChar? 0 with
    | some c => c :: runesAfter (c.utf8Size - 1) rest
    | none => '\uFFFD' :: runesAfter 0 rest

/-- The characters of a byte string. -/
def runes (bytes : List UInt8) : List Char := runesAfter 0 bytes

/-- `utf8.DecodeRuneInString`, again and again, after the bytes of a character that has been read. A byte
that begins no character is a place without one. -/
def decodedAfter : Nat → List UInt8 → List (Option Char)
  | _, [] => []
  | read + 1, _ :: rest => decodedAfter read rest
  | 0, b :: rest =>
    match (b :: rest).toByteArray.utf8DecodeChar? 0 with
    | some c => some c :: decodedAfter (c.utf8Size - 1) rest
    | none => none :: decodedAfter 0 rest

/-- The characters of a byte string, and the places that have none. -/
def decoded (bytes : List UInt8) : List (Option Char) := decodedAfter 0 bytes

/-- Bytes have a character. -/
theorem runes_eq_nil_iff (bytes : List UInt8) : runes bytes = [] ↔ bytes = [] := by
  cases bytes with
  | nil => exact iff_of_true rfl rfl
  | cons b rest =>
    rw [runes, runesAfter]
    cases (b :: rest).toByteArray.utf8DecodeChar? 0 <;> simp

/-- What has no character is read as a replacement character. -/
theorem runes_eq_map (bytes : List UInt8) : runes bytes = (decoded bytes).map (·.getD '\uFFFD') := by
  have after : ∀ read, runesAfter read bytes = (decodedAfter read bytes).map (·.getD '\uFFFD') := by
    induction bytes with
    | nil => exact fun read => by cases read <;> rfl
    | cons b rest later =>
      intro read
      cases read with
      | succ read => exact later read
      | zero =>
        rw [runesAfter, decodedAfter]
        cases (b :: rest).toByteArray.utf8DecodeChar? 0 with
        | none => exact congrArg _ (later 0)
        | some c => exact congrArg _ (later (c.utf8Size - 1))
  exact after 0

theorem encode_cons (c : Char) (text : List Char) :
    encode (c :: text) = String.utf8EncodeChar c ++ encode text := rfl

theorem encode_append (first rest : List Char) :
    encode (first ++ rest) = encode first ++ encode rest := List.flatMap_append

/-- The bytes of a character that has been read are passed over. -/
theorem runesAfter_append (bytes rest : List UInt8) :
    runesAfter bytes.length (bytes ++ rest) = runes rest := by
  induction bytes with
  | nil => rfl
  | cons b left later => exact later

/-- A character is read from its bytes. -/
theorem runes_encodeChar (c : Char) (rest : List UInt8) :
    runes (String.utf8EncodeChar c ++ rest) = c :: runes rest := by
  have decoded : (String.utf8EncodeChar c ++ rest).toByteArray.utf8DecodeChar? 0 = some c := by
    rw [List.toByteArray_append]
    exact ByteArray.utf8DecodeChar?_utf8EncodeChar_append
  have size := String.length_utf8EncodeChar c
  rcases bytes : String.utf8EncodeChar c with _ | ⟨b, left⟩
  · exact absurd bytes String.utf8EncodeChar_ne_nil
  · rw [bytes] at decoded size
    rw [runes, List.cons_append, runesAfter, ← List.cons_append, decoded]
    show c :: runesAfter (c.utf8Size - 1) (left ++ rest) = c :: runes rest
    rw [← size, List.length_cons, Nat.add_sub_cancel, runesAfter_append]

/-- **Reading undoes encoding.** -/
theorem runes_encode (text : List Char) : runes (encode text) = text := by
  induction text with
  | nil => rfl
  | cons c rest later => rw [encode_cons, runes_encodeChar, later]

/-- A byte of a number below 256 is zero only if the number is. -/
theorem zero_eq_ofNat_iff {n : Nat} (small : n < 256) : (0 : UInt8) = UInt8.ofNat n ↔ n = 0 := by
  rw [← UInt8.toNat_inj, UInt8.toNat_ofNat_of_lt' small, eq_comm]
  rfl

/-- The bytes of a character other than the zero character carry a mark, or are the character. -/
theorem zero_mem_encodeChar_iff (c : Char) : 0 ∈ String.utf8EncodeChar c ↔ c = '\x00' := by
  have marked (n mark : Nat) (some : 0 < mark) (small : n + mark < 256) :
      (0 : UInt8) ≠ UInt8.ofNat (n + mark) := by
    rw [ne_eq, zero_eq_ofNat_iff small]
    omega
  rw [String.utf8EncodeChar]
  by_cases one : c.val.toNat ≤ 0x7f
  · rw [if_pos one, List.mem_singleton, zero_eq_ofNat_iff (by omega)]
    constructor
    · exact fun zero => Char.ext (UInt32.toNat_inj.mp zero)
    · rintro rfl
      rfl
  · have other : c ≠ '\x00' := by
      rintro rfl
      exact one (Nat.zero_le _)
    refine iff_of_false ?_ other
    rw [if_neg one]
    by_cases two : c.val.toNat ≤ 0x7ff
    · rw [if_pos two]
      simp only [List.mem_cons, List.not_mem_nil, or_false]
      rintro (zero | zero) <;> exact marked _ _ (by decide) (by omega) zero
    rw [if_neg two]
    by_cases three : c.val.toNat ≤ 0xffff
    · rw [if_pos three]
      simp only [List.mem_cons, List.not_mem_nil, or_false]
      rintro (zero | zero | zero) <;> exact marked _ _ (by decide) (by omega) zero
    · rw [if_neg three]
      simp only [List.mem_cons, List.not_mem_nil, or_false]
      rintro (zero | zero | zero | zero) <;> exact marked _ _ (by decide) (by omega) zero

/-- A byte is zero only where a character is. -/
theorem zero_mem_encode_iff (text : List Char) : 0 ∈ encode text ↔ '\x00' ∈ text := by
  rw [encode, List.mem_flatMap]
  constructor
  · rintro ⟨c, member, zero⟩
    exact (zero_mem_encodeChar_iff c).mp zero ▸ member
  · exact fun member => ⟨_, member, (zero_mem_encodeChar_iff _).mpr rfl⟩

end SpicedbEmbedded.Text
