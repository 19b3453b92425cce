/-
Module: ClassOrder.Source
Purpose: Source text as messages quote it: a path to show and the lines of the text. The second
  part models a file whose lines are read on first use and then kept, so that later changes of
  the file are not seen.
Main exports: lines, Source, Source.line?, CachedFile, CachedFile.readLine, CachedFile.access
-/
import ClassOrder.Bytes

namespace ClassOrder

/-! ### Lines -/

/-- Put one byte in front of a text that is already split into lines. A line feed ends a line of
its own; any other byte joins the first line, or starts it. -/
def prependByte (byte : UInt8) (rest : List Bytes) : List Bytes :=
  if byte = lineFeed then [] :: rest
  else
    match rest with
    | [] => [[byte]]
    | first :: others => (byte :: first) :: others

/-- The lines of a text. Only the line feed divides lines, and it belongs to none; a last line
needs no line feed, but is there only if it has a byte. Every other byte is kept, whether or not it
is part of a character. -/
def lines (text : Bytes) : List Bytes :=
  text.foldr prependByte []

/-! ### Text held in memory -/

/-- The text of an analyzed file together with the path that messages show for it. -/
structure Source where
  path : String
  text : Bytes
deriving Repr, Inhabited, DecidableEq

/-- The line at a zero-based index, if the text has that many lines. -/
def Source.line? (source : Source) (index : Nat) : Option Bytes :=
  (lines source.text)[index]?

/-! ### Text read on first use -/

/-- A file that is read when its first line is asked for. `content` is what the file holds at
present, `none` while there is no such file; `cache` is filled by the first read and never
changes afterwards. -/
structure CachedFile where
  path : String
  content : Option Bytes
  cache : Option (List Bytes) := none
deriving Repr, Inhabited, DecidableEq

namespace CachedFile

/-- A text held in memory is a file whose lines are known from the start. -/
def ofSource (source : Source) : CachedFile :=
  { path := source.path, content := none, cache := some (lines source.text) }

/-- The lines that a read sees: the kept ones, or else those of the present content. A missing
file has no lines. -/
def visibleLines (file : CachedFile) : List Bytes :=
  file.cache.getD (lines (file.content.getD []))

/-- Ask for the line at a zero-based index. The first request fixes the lines for good. -/
def readLine (file : CachedFile) (index : UInt32) : Option Bytes × CachedFile :=
  (file.visibleLines[index.toNat]?, { file with cache := some file.visibleLines })

/-- Replace the content of the file, or remove the file. -/
def write (file : CachedFile) (content : Option Bytes) : CachedFile :=
  { file with content := content }

/-- One event in the life of a file: a request for a line, or a change by someone else. -/
inductive Access where
  | read (index : UInt32)
  | write (content : Option Bytes)
deriving Repr, DecidableEq

/-- What an access answers. A change answers nothing, a request answers the line if there is
one. -/
inductive Answer where
  | line (found : Option Bytes)
  | changed
deriving Repr, DecidableEq

/-- Perform one access. -/
def access (file : CachedFile) : Access → Answer × CachedFile
  | .read index =>
      let (found, file) := file.readLine index
      (.line found, file)
  | .write content => (.changed, file.write content)

/-- Perform accesses in order and collect their answers. -/
def answers (file : CachedFile) : List Access → List Answer
  | [] => []
  | next :: rest =>
      let (answer, file) := file.access next
      answer :: file.answers rest

end CachedFile

end ClassOrder
