/-
Module: ClassOrder.Json
Purpose: JSON documents as values, and the places inside a document.
Main exports: Json, Json.Segment, Json.at?
-/

namespace ClassOrder

/-- A JSON document. A number that equals an integer is that integer, however it is written; of
other numbers, the infinite ones among them, nothing more is kept. No key of an object is
repeated. -/
inductive Json where
  | null
  | bool (value : Bool)
  | integer (value : Int)
  | fraction
  | string (value : String)
  | array (items : List Json)
  | object (entries : List (String × Json))
deriving Repr, Inhabited

namespace Json

/-- One step from a document to a part of it: the value of a key, or an array item. -/
inductive Segment where
  | key (name : String)
  | index (position : Nat)
deriving Repr, DecidableEq

/-- The part that one step leads to. -/
def child? : Json → Segment → Option Json
  | object entries, .key name => entries.lookup name
  | array items, .index position => items[position]?
  | _, _ => none

/-- The part of a document at the end of a path. -/
def at? (document : Json) : List Segment → Option Json
  | [] => some document
  | segment :: rest => (document.child? segment).bind fun part => part.at? rest

end Json

end ClassOrder
