/-
Module: ClassOrder.Json.Decoder
Purpose: Reading typed values out of JSON documents. A decoder stops at the first fault, and the
  fault carries the path from the root of the document to the value at fault. Keys that nobody
  asks for are ignored.
Main exports: Json.Defect, Json.Fault, Json.Fault.describe, Json.Decoder, Json.decodeArray,
  Json.required, Json.optional, Json.defaulted
-/
import ClassOrder.Json

namespace ClassOrder.Json

/-! ### Faults -/

/-- The shapes that a decoder can ask for. -/
inductive Shape where
  | object
  | array
  | string
  | integer
  | boolean
deriving Repr, DecidableEq

/-- The name of a shape. -/
def Shape.name : Shape → String
  | object => "object"
  | array => "array"
  | string => "string"
  | integer => "integer"
  | boolean => "boolean"

/-- What is wrong with a value. The last two are refusals of a value that has the right shape. -/
inductive Defect where
  | missing
  | expected (shape : Shape)
  | unknownKind
  | columnOutOfRange
deriving Repr, DecidableEq

namespace Defect

/-- The reason for refusing a value of the right shape; none for other defects. -/
def refusal? : Defect → Option String
  | unknownKind => some "unknown member kind"
  | columnOutOfRange => some "column out of range"
  | _ => none

/-- The wording of a defect. -/
def message : Defect → String
  | missing => "missing value"
  | expected shape => "expected " ++ shape.name
  | unknownKind => "unknown member kind"
  | columnOutOfRange => "column out of range"

end Defect

/-- A defect and its place in the document. -/
structure Fault where
  path : List Segment
  defect : Defect
deriving Repr, DecidableEq

namespace Fault

/-- A defect of the whole value. -/
def here (defect : Defect) : Fault := { path := [], defect := defect }

/-- The same fault, seen from one step further out. -/
def inside (segment : Segment) (fault : Fault) : Fault :=
  { fault with path := segment :: fault.path }

/-- The wording of one step of a path. -/
def describeStep : Segment → String
  | .key name => "." ++ name
  | .index position => "[" ++ toString position ++ "]"

/-- The wording of a fault in the document called `root`, which may have no name. -/
def describe (root : String) (fault : Fault) : String :=
  fault.defect.message ++
    match fault.path with
    | [] => if root.isEmpty then "" else " when parsing " ++ root
    | path =>
        " at " ++ (if root.isEmpty then "(root)" else root) ++ String.join (path.map describeStep)

end Fault

/-! ### Decoders -/

/-- A reader of one value. -/
abbrev Decoder (α : Type) := Json → Except Fault α

/-- Report the faults of a part under the step that leads to it. -/
def under {α : Type} (segment : Segment) (result : Except Fault α) : Except Fault α :=
  result.mapError (Fault.inside segment)

/-- Read a text. -/
def decodeString : Decoder String
  | string value => .ok value
  | _ => .error (.here (.expected .string))

/-- Read a truth value. -/
def decodeBool : Decoder Bool
  | bool value => .ok value
  | _ => .error (.here (.expected .boolean))

/-- Read an integer of at most 64 bits. Its lower 32 bits are kept, as a signed number: an integer
that needs more of them is not refused, but is changed by a multiple of `2 ^ 32`. -/
def decodeInt32 : Decoder Int32
  | integer value =>
      if Int64.minValue.toInt ≤ value ∧ value ≤ Int64.maxValue.toInt then .ok (Int32.ofInt value)
      else .error (.here (.expected .integer))
  | _ => .error (.here (.expected .integer))

/-- Read the items of an array, the first of which has the given position. -/
def decodeItems {α : Type} (decode : Decoder α) (position : Nat) :
    List Json → Except Fault (List α)
  | [] => .ok []
  | item :: rest => do
      let value ← under (.index position) (decode item)
      let values ← decodeItems decode (position + 1) rest
      return value :: values

/-- Read an array whose items are all of one kind. -/
def decodeArray {α : Type} (decode : Decoder α) : Decoder (List α)
  | array items => decodeItems decode 0 items
  | _ => .error (.here (.expected .array))

/-- The entries of an object. -/
def decodeObject : Decoder (List (String × Json))
  | object entries => .ok entries
  | _ => .error (.here (.expected .object))

/-- Read the value of a key that has to be there. -/
def required {α : Type} (entries : List (String × Json)) (key : String) (decode : Decoder α) :
    Except Fault α :=
  match entries.lookup key with
  | some value => under (.key key) (decode value)
  | none => .error { path := [.key key], defect := .missing }

/-- Read the value of a key that may be left out. Null stands for a key that is left out. -/
def optional {α : Type} (entries : List (String × Json)) (key : String) (decode : Decoder α) :
    Except Fault (Option α) :=
  match entries.lookup key with
  | none | some .null => .ok none
  | some value => (under (.key key) (decode value)).map some

/-- Read the value of a key that has a default, which counts if the key is left out. Null is no
exception here: a key that is there has to have a value of the right shape. -/
def defaulted {α : Type} (entries : List (String × Json)) (key : String) (default : α)
    (decode : Decoder α) : Except Fault α :=
  match entries.lookup key with
  | none => .ok default
  | some value => under (.key key) (decode value)

end ClassOrder.Json
