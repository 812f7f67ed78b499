import Mathlib.Data.List.Lex
import Mathlib.Data.List.Sort
import RelaySettlement.Js.Number

/-!
# JSON values

The values that `JSON.parse` returns, and what programs read from them.  An object is the list of
its entries, whose keys are different.  Texts are the byte strings they are encoded as, but `sort`
compares the code units of UTF-16.
-/

open Evm

namespace Js

inductive Json where
  | null
  | bool (value : Bool)
  | number (value : Number)
  | string (text : Bytes)
  | array (elements : List Json)
  | object (entries : List (Bytes × Json))

/-! ## Reading -/

namespace Json

variable {α : Type}

def text : Json → Option Bytes
  | .string text => some text
  | _ => none

def flag : Json → Option Bool
  | .bool value => some value
  | _ => none

def numeric : Json → Option Number
  | .number value => some value
  | _ => none

def scalar : Json → Option Scalar
  | .number value => some (.number value)
  | .string text => some (.string text)
  | _ => none

def list (read : Json → Option α) : Json → Option (List α)
  | .array elements => elements.mapM read
  | _ => none

def get (key : String) : Json → Option Json
  | .object entries => entries.lookup (Abi.utf8 key)
  | _ => none

def field (key : String) (read : Json → Option α) (json : Json) : Option α := do
  read (← json.get key)

/-- A field that may be missing. -/
def optional (key : String) (read : Json → Option α) (json : Json) : Option (Option α) :=
  match json.get key with
  | none | some .null => some none
  | some value => (read value).map some

end Json

/-! ## Writing -/

/-- A character of a text in quotes. -/
def escape (character : UInt8) : Bytes :=
  if character = 34 ∨ character = 92 then [92, character]
  else if character = 8 then Abi.utf8 "\\b"
  else if character = 9 then Abi.utf8 "\\t"
  else if character = 10 then Abi.utf8 "\\n"
  else if character = 12 then Abi.utf8 "\\f"
  else if character = 13 then Abi.utf8 "\\r"
  else if character.toNat < 32 then Abi.utf8 "\\u00" ++ Text.hex [character]
  else [character]

/-- `JSON.stringify` of a text. -/
def quote (text : Bytes) : Bytes := [34] ++ text.flatMap escape ++ [34]

/-- `JSON.stringify` of a number: an infinite one is written as `null`. -/
def Number.stringify (number : Number) : Bytes :=
  if number.value.isSome then number.text else Abi.utf8 "null"

/-! ## Sorting keys -/

/-- The place of a byte in the order of UTF-16, where the surrogates, which the characters behind
`0xf0` are written with, come before the characters behind `0xee` and `0xef`. -/
def codeOrder (byte : UInt8) : ℕ :=
  if byte = 0xee ∨ byte = 0xef then byte.toNat + 256 else byte.toNat

/-- The first key is not behind the second one. -/
def KeyLe (first second : Bytes) : Prop := first.map codeOrder ≤ second.map codeOrder

instance : DecidableRel KeyLe := fun first second =>
  inferInstanceAs (Decidable (first.map codeOrder ≤ second.map codeOrder))

/-- Entries in the order of their keys. -/
def sortKeys {α : Type} (entries : List (Bytes × α)) : List (Bytes × α) :=
  entries.insertionSort fun first second => KeyLe first.1 second.1

end Js
