/-
Module: ClassOrder.Location
Purpose: Places in source text. Lines and columns count from one, so zero stands for a part that
  is not known. Lines are kept in 32 bits and columns in 16 bits.
Main exports: Location, Location.isValid, Location.nowhere
-/
import ClassOrder.Source

namespace ClassOrder

/-- A range of source text, from a start to an end position. The end column is the first column
after the range. -/
structure Location where
  source : Option Source := none
  startLine : Int32 := 0
  startColumn : Int16 := 0
  endLine : Int32 := 0
  endColumn : Int16 := 0
deriving Inhabited, DecidableEq

namespace Location

/-- The location of a thing that has no place: no source, and all positions zero. -/
def nowhere : Location := {}

/-- A location is valid when it refers to a position in some source. -/
def isValid (location : Location) : Bool :=
  location.source.isSome && decide (0 < location.startLine)

end Location

end ClassOrder
