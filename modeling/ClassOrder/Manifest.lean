/-
Module: ClassOrder.Manifest
Purpose: Member manifests: JSON documents that list the members of the classes in one source
  file. A manifest is decoded as it is written, and then expanded into an analyzed unit.
Main exports: Manifest, Manifest.decode, Manifest.expand, Manifest.parse, Manifest.load
-/
import ClassOrder.FileTree
import ClassOrder.Library
import ClassOrder.Member

namespace ClassOrder

/-! ### What a manifest says -/

/-- A place as a manifest writes it. -/
structure Manifest.Range where
  line : Int32
  column : Int32 := 0
  endLine : Option Int32 := none
  endColumn : Option Int32 := none
deriving DecidableEq

/-- A member declaration. A declaration of several variables lists their names. -/
structure Manifest.Declaration where
  kind : Kind
  name : Option String := none
  names : Option (List String) := none
  isPrivate : Option Bool := none
  annotations : List String := []
  range : Option Manifest.Range := none
deriving DecidableEq

/-- A class and its declarations. -/
structure Manifest.Body where
  name : String := ""
  range : Option Manifest.Range := none
  declarations : List Manifest.Declaration
deriving DecidableEq

/-- The classes of one source file. -/
structure Manifest where
  source : String
  bodies : List Manifest.Body
deriving DecidableEq

namespace Manifest

open Json

/-! ### Decoding -/

/-- Columns are kept in 16 bits and are not negative. -/
def isColumn (column : Int32) : Bool :=
  decide (0 ≤ column) && decide (column ≤ Int16.maxValue.toInt32)

/-- Refuse a column that is out of range. A column that is left out is in range. What is looked at
are the 32 bits that were kept of it. -/
def checkColumn (key : String) (column : Option Int32) : Except Fault Unit :=
  if column.all isColumn then .ok ()
  else .error { path := [.key key], defect := .columnOutOfRange }

/-- Read a place. The ranges of the columns are looked at after all keys have been read. -/
def Range.decode : Decoder Range := fun document => do
  let entries ← decodeObject document
  let line ← required entries "line" decodeInt32
  let column ← defaulted entries "column" 0 decodeInt32
  let endLine ← optional entries "endLine" decodeInt32
  let endColumn ← optional entries "endColumn" decodeInt32
  checkColumn "column" (some column)
  checkColumn "endColumn" endColumn
  return { line := line, column := column, endLine := endLine, endColumn := endColumn }

/-- Read the kind of a declaration. -/
def decodeKind : Decoder Kind := fun document => do
  let name ← decodeString document
  match Kind.ofName? name with
  | some kind => return kind
  | none => throw (.here .unknownKind)

/-- Read a declaration. The kind is looked at before any other key. -/
def Declaration.decode : Decoder Declaration := fun document => do
  let entries ← decodeObject document
  let kind ← required entries "kind" decodeKind
  let name ← optional entries "name" decodeString
  let names ← optional entries "names" (decodeArray decodeString)
  let isPrivate ← optional entries "private" decodeBool
  let annotations ← defaulted entries "annotations" [] (decodeArray decodeString)
  let range ← optional entries "location" Range.decode
  return {
    kind := kind
    name := name
    names := names
    isPrivate := isPrivate
    annotations := annotations
    range := range }

/-- Read a class. -/
def Body.decode : Decoder Body := fun document => do
  let entries ← decodeObject document
  let name ← defaulted entries "name" "" decodeString
  let range ← optional entries "location" Range.decode
  let declarations ← required entries "members" (decodeArray Declaration.decode)
  return { name := name, range := range, declarations := declarations }

/-- Read a manifest. -/
def decode : Decoder Manifest := fun document => do
  let entries ← decodeObject document
  let source ← required entries "source" decodeString
  let bodies ← required entries "types" (decodeArray Body.decode)
  return { source := source, bodies := bodies }

/-! ### Expansion -/

/-- The location of a place in a source. A missing end is the start. -/
def Range.toLocation (source : Source) (range : Range) : Location :=
  { source := some source
    startLine := range.line
    startColumn := range.column.toInt16
    endLine := range.endLine.getD range.line
    endColumn := (range.endColumn.getD range.column).toInt16 }

/-- The location of a place that may be left out. Without a place all positions are zero, but the
source is still known. -/
def location (source : Source) (range : Option Range) : Location :=
  match range with
  | some range => range.toLocation source
  | none => { source := some source }

namespace Declaration

/-- Whether an annotation decides the group of the declared members. -/
def isMarked (declaration : Declaration) : Bool :=
  declaration.annotations.any Marker.isRecognized

/-- The names that a declaration adds. Several variables are members of their own if they are
plain fields; otherwise the declaration is one member, named after its first variable. -/
def memberNames (declaration : Declaration) : List String :=
  match declaration.names with
  | some (first :: others) =>
      if declaration.kind = .field ∧ !declaration.isMarked then first :: others else [first]
  | _ => [declaration.name.getD ""]

/-- The member that a declaration adds under one name. -/
def member (declaration : Declaration) (source : Source) (name : String) : Member :=
  { kind := declaration.kind
    name := name
    isPrivate := declaration.isPrivate.getD (isUnderscored name)
    annotations := declaration.annotations
    location := location source declaration.range }

/-- The members that a declaration adds. -/
def members (declaration : Declaration) (source : Source) : List Member :=
  declaration.memberNames.map (declaration.member source)

end Declaration

/-- The class body that a class of a manifest describes. -/
def Body.expand (body : Body) (source : Source) : ClassBody :=
  { name := body.name
    location := location source body.range
    members := body.declarations.flatMap fun declaration => declaration.members source }

/-- The analyzed unit that a manifest describes, for a given text of its source file. -/
def expand (manifest : Manifest) (text : Bytes) : SourceUnit :=
  let source : Source := { path := manifest.source, text := text }
  { source := some source, bodies := manifest.bodies.map fun body => body.expand source }

/-! ### Reading -/

/-- Why a manifest cannot be used. -/
inductive ReadError where
  | unreadable (error : FileError)
  | malformed (error : String)
  | faulty (fault : Fault)
deriving Repr, DecidableEq

/-- The text that reports an unusable manifest. -/
def ReadError.message (library : Library) (path : String) : ReadError → String
  | unreadable error => "Cannot read manifest '" ++ path ++ "': " ++ error.message
  | malformed error => path ++ ": " ++ error
  | faulty fault => path ++ ": " ++ library.describeFault path fault

/-- Where the source file of a manifest is. Its path is relative to the base directory, unless it
is absolute or there is none. -/
def sourcePath (manifest : Manifest) (library : Library) (baseDirectory : String) : String :=
  library.removeDots
    (if library.isAbsolutePath manifest.source || baseDirectory.isEmpty then manifest.source
    else library.appendPath baseDirectory manifest.source)

/-- Read a manifest from its text. -/
def ofText (library : Library) (text : Bytes) : Except ReadError Manifest :=
  match library.readJson text with
  | .error error => .error (.malformed error)
  | .ok document => (decode document).mapError .faulty

/-- Read the unit that a manifest text describes. A source file that cannot be read has no
text. -/
def parse (library : Library) (files : Files) (baseDirectory : String) (text : Bytes) :
    Except ReadError SourceUnit :=
  (ofText library text).map fun manifest =>
    manifest.expand ((files (manifest.sourcePath library baseDirectory)).toOption.getD [])

/-- Read the unit that the manifest at a path describes. Its base directory is that of the
manifest. -/
def load (library : Library) (files : Files) (path : String) : Except ReadError SourceUnit :=
  match files path with
  | .error error => .error (.unreadable error)
  | .ok text => parse library files (library.parentPath path) text

end Manifest

end ClassOrder
