/-
Module: ClassOrder.Bytes
Purpose: Text as files hold it and consoles receive it: bytes, which need not encode any
  characters. Names and messages are characters, and count by their encoding.
Main exports: Bytes, bytes, lineFeed
-/

namespace ClassOrder

/-- A text as its bytes. -/
abbrev Bytes := List UInt8

/-- The bytes of a text, in UTF-8. -/
def bytes (text : String) : Bytes :=
  text.toUTF8.data.toList

/-- The byte that ends a line. -/
def lineFeed : UInt8 := 0x0A

/-- The byte of a blank. -/
def blank : UInt8 := 0x20

/-- The byte of a caret. -/
def caret : UInt8 := 0x5E

/-- A text is known by its bytes. -/
theorem bytes_injective {first second : String} (same : bytes first = bytes second) :
    first = second := by
  have sameArray : first.toUTF8.data = second.toUTF8.data := Array.toList_inj.mp same
  exact String.toByteArray_inj.mp (ByteArray.ext sameArray)

end ClassOrder
