/-
Module: ClassOrder.Library
Purpose: What the program takes from elsewhere: reading JSON text, the words for faults in JSON
  documents, and rules for paths. The program is stated for any such library, and so is all that is
  said about it.
Main exports: Library, Library.standard
-/
import ClassOrder.Json.Decoder
import ClassOrder.Json.Parser
import ClassOrder.Path

namespace ClassOrder

/-- What the program does not decide by itself. -/
structure Library where
  /-- The document that a text holds, or what is wrong with the text. -/
  readJson : Bytes → Except String Json
  /-- The words for a fault in the document that has the given name. -/
  describeFault : String → Json.Fault → String
  /-- Whether a path leads to the same place from every directory. -/
  isAbsolutePath : String → Bool
  /-- The directory part of a path. -/
  parentPath : String → String
  /-- A path inside a directory. -/
  appendPath : String → String → String
  /-- A path without names that stay in place. -/
  removeDots : String → String

/-- The library of the command line. -/
def Library.standard : Library :=
  { readJson := Json.parse
    describeFault := Json.Fault.describe
    isAbsolutePath := Path.isAbsolute
    parentPath := Path.parent
    appendPath := Path.append
    removeDots := Path.removeDots }

end ClassOrder
