/-
Module: ClassOrder.Proofs.ManifestFormat
Purpose: The format of member manifests, and what a manifest describes. The format is stated on
  documents, key by key; the unit that a document describes is read off its values. The reader of
  manifests accepts the format and returns exactly that unit. It accepts some more documents, as it
  looks at what 32 bits keep of a column and not at the column.
Main exports: Manifest.ManifestFormat, Manifest.IsColumn, Manifest.ReadsAsColumn,
  Manifest.IsManifest, Manifest.MentionsColumn, Manifest.describedUnit, Manifest.reads_manifest,
  Manifest.manifestFormat_iff, Manifest.parse_accepts_format, Manifest.parse_accepts_wide_column
-/
import ClassOrder.Manifest
import ClassOrder.Proofs.Decoding

namespace ClassOrder.Manifest

open Json

/-! ### The format -/

/-- A column: an integer that is not negative and that 16 bits can hold. -/
def IsColumn (document : Json) : Prop :=
  ∃ value : Int, document = .integer value ∧ 0 ≤ value ∧ value ≤ 32767

/-- An integer that is read as a column: what is left of it in 32 bits is one. -/
def ReadsAsColumn (document : Json) : Prop :=
  document.IsInteger ∧ 0 ≤ narrowed document.number ∧ narrowed document.number ≤ 32767

def IsKindName (document : Json) : Prop :=
  ∃ name ∈ ["field", "constructor", "getter", "setter", "method"], document = .string name

section

variable (Column : Json → Prop)

/-- A place in source text, for a given format of its columns. -/
structure PlaceFormat (document : Json) : Prop where
  object : document.IsObject
  line : document.Requires "line" IsInteger
  column : document.AllowsStrictly "column" Column
  endLine : document.Allows "endLine" IsInteger
  endColumn : document.Allows "endColumn" Column

/-- An entry of a class: one declaration. -/
structure EntryFormat (document : Json) : Prop where
  object : document.IsObject
  kind : document.Requires "kind" IsKindName
  name : document.Allows "name" IsString
  names : document.Allows "names" (IsArrayOf IsString)
  isPrivate : document.Allows "private" IsBoolean
  annotations : document.AllowsStrictly "annotations" (IsArrayOf IsString)
  location : document.Allows "location" (PlaceFormat Column)

structure ClassFormat (document : Json) : Prop where
  object : document.IsObject
  name : document.AllowsStrictly "name" IsString
  location : document.Allows "location" (PlaceFormat Column)
  members : document.Requires "members" (IsArrayOf (EntryFormat Column))

/-- Keys that are not mentioned may be there, with any value. -/
structure ManifestFormat (document : Json) : Prop where
  object : document.IsObject
  source : document.Requires "source" IsString
  types : document.Requires "types" (IsArrayOf (ClassFormat Column))

end

/-- A place that can be read. -/
abbrev IsPlace : Json → Prop := PlaceFormat ReadsAsColumn

abbrev IsEntry : Json → Prop := EntryFormat ReadsAsColumn

abbrev IsClass : Json → Prop := ClassFormat ReadsAsColumn

/-- A manifest that can be read. -/
abbrev IsManifest : Json → Prop := ManifestFormat ReadsAsColumn

/-- A document has a place, of one of its classes or of an entry of a class. -/
def MentionsPlace (document place : Json) : Prop :=
  ∃ type ∈ (document.part "types").items,
    type.given? "location" = some place ∨
      ∃ entry ∈ (type.part "members").items, entry.given? "location" = some place

/-- A place has a column, where it starts or where it ends. -/
def HasColumn (place column : Json) : Prop :=
  place.part? "column" = some column ∨ place.given? "endColumn" = some column

/-- Some place of a document has a column. -/
def MentionsColumn (document column : Json) : Prop :=
  ∃ place, MentionsPlace document place ∧ HasColumn place column

/-! ### What a document describes -/

/-- A place that is left out has no positions, and a missing end is the start. Lines keep 32 bits
and columns 16 bits of their integers. -/
def describedLocation (source : Source) : Option Json → Location
  | none => { source := some source }
  | some place =>
      { source := some source
        startLine := Int32.ofInt (place.part "line").number
        startColumn := Int16.ofInt (place.part "column").number
        endLine := Int32.ofInt ((place.given? "endLine").getD (place.part "line")).number
        endColumn := Int16.ofInt ((place.given? "endColumn").getD (place.part "column")).number }

def describedAnnotations (entry : Json) : List String :=
  (entry.part "annotations").items.map text

/-- The names of the members that an entry adds: its one name, which may be left out, if it lists
no names; each of the listed names for a field that no annotation marks; and otherwise the first
of them. -/
def describedNames (entry : Json) : List String :=
  let names := (entry.part "names").items.map text
  if names = [] then [(entry.part "name").text]
  else if (entry.part "kind").text = "field" ∧
      ∀ annotation ∈ describedAnnotations entry, Marker.ofName? annotation = none then names
  else names.take 1

/-- The member that an entry adds under a name. Unless the entry says whether it is private, its
own name does. -/
def describedMember (source : Source) (entry : Json) (name : String) : Member :=
  { kind := (Kind.ofName? (entry.part "kind").text).getD .field
    name := name
    isPrivate := ((entry.given? "private").map flag).getD (isUnderscored name)
    annotations := describedAnnotations entry
    location := describedLocation source (entry.given? "location") }

def describedMembers (source : Source) (entry : Json) : List Member :=
  (describedNames entry).map (describedMember source entry)

def describedBody (source : Source) (type : Json) : ClassBody :=
  { name := (type.part "name").text
    location := describedLocation source (type.given? "location")
    members := (type.part "members").items.flatMap (describedMembers source) }

/-- The unit that a document describes, for a given text of its source file. -/
def describedUnit (document : Json) (sourceText : Bytes) : SourceUnit :=
  let source : Source := { path := (document.part "source").text, text := sourceText }
  { source := some source
    bodies := (document.part "types").items.map (describedBody source) }

/-- Where the source file of a document is: at its path if that is absolute or if there is no base
directory, and otherwise at its path in the base directory. -/
def describedPath (library : Library) (document : Json) (baseDirectory : String) : String :=
  let path := (document.part "source").text
  library.removeDots
    (if library.isAbsolutePath path = true ∨ baseDirectory = "" then path
    else library.appendPath baseDirectory path)

/-! ### Places -/

def rangeOf (document : Json) : Range :=
  { line := Int32.ofInt (document.part "line").number
    column := ((document.part? "column").map fun column => Int32.ofInt column.number).getD 0
    endLine := (document.given? "endLine").map fun line => Int32.ofInt line.number
    endColumn := (document.given? "endColumn").map fun column => Int32.ofInt column.number }

theorem checkColumn_eq_ok_iff (key : String) (column : Option Int32) (result : Unit) :
    checkColumn key column = .ok result ↔ column.all isColumn = true := by
  rw [checkColumn]
  split
  · next inRange => simp [inRange]
  · next outOfRange => simp [outOfRange]

theorem isColumn_iff (column : Int32) :
    isColumn column = true ↔ 0 ≤ column.toInt ∧ column.toInt ≤ 32767 := by
  have greatest : Int16.maxValue.toInt32.toInt = 32767 := by decide
  have least : (0 : Int32).toInt = 0 := by decide
  rw [isColumn, Bool.and_eq_true, decide_eq_true_iff, decide_eq_true_iff, Int32.le_iff_toInt_le,
    Int32.le_iff_toInt_le, greatest, least]

/-- A column that is in range is kept in 16 bits as it is. -/
theorem toInt_toInt16_of_isColumn {column : Int32} (inRange : isColumn column = true) :
    column.toInt16.toInt = column.toInt := by
  have bounds := (isColumn_iff column).mp inRange
  rw [Int32.toInt_toInt16]
  exact Int.bmod_eq_of_le (by omega) (by omega)

theorem IsColumn.readsAsColumn {document : Json} (isColumn : IsColumn document) :
    ReadsAsColumn document := by
  obtain ⟨value, rfl, low, high⟩ := isColumn
  have kept : narrowed value = value := (narrowed_eq_self_iff value).mpr ⟨by omega, by omega⟩
  rw [ReadsAsColumn, number, kept]
  exact ⟨⟨value, rfl, by omega, by omega⟩, low, high⟩

/-- What is read as a column is one exactly if it fits 32 bits. -/
theorem ReadsAsColumn.isColumn_iff {value : Int} (readsAs : ReadsAsColumn (.integer value)) :
    IsColumn (.integer value) ↔ -2147483648 ≤ value ∧ value ≤ 2147483647 := by
  rw [← narrowed_eq_self_iff]
  constructor
  · rintro ⟨_, same, low, high⟩
    cases same
    exact (narrowed_eq_self_iff value).mpr ⟨by omega, by omega⟩
  · intro kept
    have inRange := readsAs.2
    rw [number, kept] at inRange
    exact ⟨value, rfl, inRange⟩

/-- The check of a column's range, made after its key was read, is part of the format. -/
theorem forall_readsAsColumn_iff (found : Option Json) :
    (∀ part, found = some part → ReadsAsColumn part) ↔
      (∀ part, found = some part → part.IsInteger) ∧
        (found.map fun column => Int32.ofInt column.number).all isColumn = true := by
  cases found with
  | none => simp
  | some part =>
      simp only [Option.some.injEq, forall_eq', Option.map_some, Option.all_some,
        ReadsAsColumn, isColumn_iff, toInt_ofInt32]

/-- A column that is left out counts as one that is in range. -/
theorem checkColumn_getD (key : String) (column : Option Int32) :
    checkColumn key (some (column.getD 0)) = checkColumn key column := by
  cases column <;> rfl

theorem reads_range : Reads Range.decode IsPlace rangeOf := by
  intro document value
  simp only [Range.decode, bind_eq_ok_iff, decodeObject_eq_ok_iff, pure_eq_ok_iff,
    reads_int32.required_eq_ok_iff, reads_int32.optional_eq_ok_iff,
    reads_int32.defaulted_eq_ok_iff]
  constructor
  · intro read
    obtain ⟨entries, rfl, _, ⟨line, rfl⟩, _, ⟨column, rfl⟩, _, ⟨endLine, rfl⟩, _,
      ⟨endColumn, rfl⟩, _, columnChecked, _, endColumnChecked, rfl⟩ := read
    rw [checkColumn_getD, checkColumn_eq_ok_iff] at columnChecked
    rw [checkColumn_eq_ok_iff] at endColumnChecked
    exact
      ⟨⟨⟨entries, rfl⟩, line, (forall_readsAsColumn_iff _).mpr ⟨column, columnChecked⟩, endLine,
        (forall_readsAsColumn_iff _).mpr ⟨endColumn, endColumnChecked⟩⟩, rfl⟩
  · intro formatted
    obtain ⟨⟨⟨entries, rfl⟩, line, column, endLine, endColumn⟩, rfl⟩ := formatted
    obtain ⟨columnNumber, columnInRange⟩ := (forall_readsAsColumn_iff _).mp column
    obtain ⟨endColumnNumber, endColumnInRange⟩ := (forall_readsAsColumn_iff _).mp endColumn
    rw [← checkColumn_eq_ok_iff "column" _ (), ← checkColumn_getD] at columnInRange
    rw [← checkColumn_eq_ok_iff "endColumn" _ ()] at endColumnInRange
    exact
      ⟨entries, rfl, _, ⟨line, rfl⟩, _, ⟨columnNumber, rfl⟩, _, ⟨endLine, rfl⟩, _,
        ⟨endColumnNumber, rfl⟩, (), columnInRange, (), endColumnInRange, rfl⟩

/-! ### Entries, classes and manifests -/

theorem isKindName_string_iff (name : String) :
    IsKindName (.string name) ↔ ∃ kind, Kind.ofName? name = some kind := by
  simp only [Kind.ofName?_eq_some_iff]
  constructor
  · intro kindName
    obtain ⟨listed, isListed, same⟩ := kindName
    cases same
    have named : ∀ word ∈ ["field", "constructor", "getter", "setter", "method"],
        ∃ kind : Kind, kind.name = word := by
      simpa using ⟨⟨.field, rfl⟩, ⟨.constructor, rfl⟩, ⟨.getter, rfl⟩, ⟨.setter, rfl⟩,
        ⟨.method, rfl⟩⟩
    exact named name isListed
  · intro named
    obtain ⟨kind, rfl⟩ := named
    exact ⟨kind.name, by cases kind <;> decide, rfl⟩

def kindOf (document : Json) : Kind :=
  (Kind.ofName? document.text).getD .field

theorem reads_kind : Reads decodeKind IsKindName kindOf := by
  intro document kind
  cases document with
  | string name =>
      rw [isKindName_string_iff]
      cases found : Kind.ofName? name with
      | none => simp [decodeKind, decodeString, bind, Except.bind, found]
      | some known =>
          simp [decodeKind, decodeString, bind, Except.bind, pure, Except.pure, kindOf, text,
            found, eq_comm]
  | _ => simp [decodeKind, decodeString, IsKindName, bind, Except.bind]

def declarationOf (document : Json) : Declaration :=
  { kind := kindOf (document.part "kind")
    name := (document.given? "name").map text
    names := (document.given? "names").map fun names => names.items.map text
    isPrivate := (document.given? "private").map flag
    annotations :=
      ((document.part? "annotations").map fun names => names.items.map text).getD []
    range := (document.given? "location").map rangeOf }

theorem reads_declaration : Reads Declaration.decode IsEntry declarationOf := by
  intro document value
  simp only [Declaration.decode, bind_eq_ok_iff, decodeObject_eq_ok_iff, pure_eq_ok_iff,
    reads_kind.required_eq_ok_iff, reads_string.optional_eq_ok_iff,
    reads_string.array.optional_eq_ok_iff, reads_bool.optional_eq_ok_iff,
    reads_string.array.defaulted_eq_ok_iff, reads_range.optional_eq_ok_iff]
  constructor
  · intro read
    obtain ⟨entries, rfl, _, ⟨kind, rfl⟩, _, ⟨name, rfl⟩, _, ⟨names, rfl⟩, _,
      ⟨isPrivate, rfl⟩, _, ⟨annotations, rfl⟩, _, ⟨location, rfl⟩, rfl⟩ := read
    exact ⟨⟨⟨entries, rfl⟩, kind, name, names, isPrivate, annotations, location⟩, rfl⟩
  · intro formatted
    obtain ⟨⟨⟨entries, rfl⟩, kind, name, names, isPrivate, annotations, location⟩, rfl⟩ :=
      formatted
    exact
      ⟨entries, rfl, _, ⟨kind, rfl⟩, _, ⟨name, rfl⟩, _, ⟨names, rfl⟩, _, ⟨isPrivate, rfl⟩, _,
        ⟨annotations, rfl⟩, _, ⟨location, rfl⟩, rfl⟩

def bodyOf (document : Json) : Body :=
  { name := ((document.part? "name").map text).getD ""
    range := (document.given? "location").map rangeOf
    declarations := (document.part "members").items.map declarationOf }

theorem reads_body : Reads Body.decode IsClass bodyOf := by
  intro document value
  simp only [Body.decode, bind_eq_ok_iff, decodeObject_eq_ok_iff, pure_eq_ok_iff,
    reads_string.defaulted_eq_ok_iff, reads_range.optional_eq_ok_iff,
    reads_declaration.array.required_eq_ok_iff]
  constructor
  · intro read
    obtain ⟨entries, rfl, _, ⟨name, rfl⟩, _, ⟨location, rfl⟩, _, ⟨members, rfl⟩, rfl⟩ := read
    exact ⟨⟨⟨entries, rfl⟩, name, location, members⟩, rfl⟩
  · intro formatted
    obtain ⟨⟨⟨entries, rfl⟩, name, location, members⟩, rfl⟩ := formatted
    exact ⟨entries, rfl, _, ⟨name, rfl⟩, _, ⟨location, rfl⟩, _, ⟨members, rfl⟩, rfl⟩

def manifestOf (document : Json) : Manifest :=
  { source := (document.part "source").text
    bodies := (document.part "types").items.map bodyOf }

/-- A manifest is read if all of it has its format, at every depth. -/
theorem reads_manifest : Reads decode IsManifest manifestOf := by
  intro document value
  simp only [decode, bind_eq_ok_iff, decodeObject_eq_ok_iff, pure_eq_ok_iff,
    reads_string.required_eq_ok_iff, reads_body.array.required_eq_ok_iff]
  constructor
  · intro read
    obtain ⟨entries, rfl, _, ⟨source, rfl⟩, _, ⟨types, rfl⟩, rfl⟩ := read
    exact ⟨⟨⟨entries, rfl⟩, source, types⟩, rfl⟩
  · intro formatted
    obtain ⟨⟨⟨entries, rfl⟩, source, types⟩, rfl⟩ := formatted
    exact ⟨entries, rfl, _, ⟨source, rfl⟩, _, ⟨types, rfl⟩, rfl⟩

/-! ### Expansion -/

theorem location_rangeOf (source : Source) (place : Option Json) :
    location source (place.map rangeOf) = describedLocation source place := by
  cases place with
  | none => rfl
  | some place =>
      have column : (rangeOf place).column = Int32.ofInt (place.part "column").number :=
        content_part? (fun column => Int32.ofInt column.number) place "column"
      have endLine : (rangeOf place).endLine.getD (rangeOf place).line =
          Int32.ofInt ((place.given? "endLine").getD (place.part "line")).number := by
        rw [rangeOf]
        cases place.given? "endLine" <;> rfl
      have endColumn : (rangeOf place).endColumn.getD (rangeOf place).column =
          Int32.ofInt ((place.given? "endColumn").getD (place.part "column")).number := by
        rw [column, rangeOf]
        cases place.given? "endColumn" <;> rfl
      rw [Option.map_some, location, Range.toLocation, endColumn, endLine, column,
        Int32.toInt16_ofInt, Int32.toInt16_ofInt]
      rfl

theorem kindOf_eq_field_iff {document : Json} (kindName : IsKindName document) :
    kindOf document = .field ↔ document.text = "field" := by
  obtain ⟨name, listed, rfl⟩ := kindName
  obtain ⟨kind, known⟩ := (isKindName_string_iff name).mp ⟨name, listed, rfl⟩
  rw [kindOf, text, known, Option.getD_some, ← Kind.ofName?_eq_some_iff.mp known]
  cases kind <;> decide

theorem annotations_declarationOf (entry : Json) :
    (declarationOf entry).annotations = describedAnnotations entry :=
  content_part? (fun names => names.items.map text) entry "annotations"

theorem isMarked_declarationOf (entry : Json) :
    (declarationOf entry).isMarked = false ↔
      ∀ annotation ∈ describedAnnotations entry, Marker.ofName? annotation = none := by
  simp [Declaration.isMarked, annotations_declarationOf, Marker.isRecognized]

theorem memberNames_declarationOf {entry : Json} (isEntry : IsEntry entry) :
    (declarationOf entry).memberNames = describedNames entry := by
  have single : (declarationOf entry).name.getD "" = (entry.part "name").text :=
    content_given? text entry "name"
  have plain : (declarationOf entry).kind = .field ∧ !(declarationOf entry).isMarked ↔
      (entry.part "kind").text = "field" ∧
        ∀ annotation ∈ describedAnnotations entry, Marker.ofName? annotation = none := by
    rw [Bool.not_eq_true', isMarked_declarationOf]
    exact and_congr_left' (kindOf_eq_field_iff isEntry.kind.part)
  have listed : (entry.part "names").items.map text =
      (declarationOf entry).names.getD [] :=
    (content_given? (fun names => names.items.map text) entry "names").symm
  simp only [describedNames, listed, ← single, ← plain]
  rw [Declaration.memberNames]
  rcases (declarationOf entry).names with _ | _ | ⟨first, others⟩
  · simp
  · simp
  · simp

/-- A marked field is one member, however many variables it declares. -/
example :
    describedNames
        (.object
          [("kind", .string "field"), ("names", .array [.string "width", .string "_height"]),
            ("annotations", .array [.string "deprecated", .string "Input"])]) =
      ["width"] := by
  decide

theorem members_declarationOf (source : Source) {entry : Json} (isEntry : IsEntry entry) :
    (declarationOf entry).members source = describedMembers source entry := by
  have member (name : String) :
      (declarationOf entry).member source name = describedMember source entry name := by
    rw [Declaration.member, describedMember, annotations_declarationOf, ← location_rangeOf]
    rfl
  rw [Declaration.members, describedMembers, memberNames_declarationOf isEntry]
  exact List.map_congr_left fun name _ => member name

theorem expand_bodyOf (source : Source) {type : Json} (isClass : IsClass type) :
    (bodyOf type).expand source = describedBody source type := by
  have members : (bodyOf type).declarations.flatMap (·.members source) =
      (type.part "members").items.flatMap (describedMembers source) := by
    rw [bodyOf, List.flatMap_map]
    exact List.flatMap_congr fun entry listed =>
      members_declarationOf source (isClass.members.part.items entry listed)
  rw [Body.expand, describedBody, members, ← location_rangeOf, ← content_part? text]
  rfl

theorem expand_manifestOf {document : Json} (isManifest : IsManifest document)
    (sourceText : Bytes) :
    (manifestOf document).expand sourceText = describedUnit document sourceText := by
  rw [expand, describedUnit, manifestOf, List.map_map]
  congr 1
  exact List.map_congr_left fun type listed =>
    expand_bodyOf _ (isManifest.types.part.items type listed)

/-! ### Reading -/

theorem sourcePath_manifestOf (library : Library) (document : Json) (baseDirectory : String) :
    (manifestOf document).sourcePath library baseDirectory =
      describedPath library document baseDirectory := by
  simp [sourcePath, describedPath, manifestOf]

/-- The text of the source file may depend on what the manifest says. -/
theorem decode_expand_iff (document : Json) (textOf : Manifest → Bytes) (unit : SourceUnit) :
    (∃ manifest, decode document = .ok manifest ∧ unit = manifest.expand (textOf manifest)) ↔
      IsManifest document ∧ unit = describedUnit document (textOf (manifestOf document)) := by
  constructor
  · intro accepted
    obtain ⟨manifest, decoded, rfl⟩ := accepted
    obtain ⟨formatted, rfl⟩ := (reads_manifest document manifest).mp decoded
    exact ⟨formatted, expand_manifestOf formatted _⟩
  · intro described
    obtain ⟨formatted, rfl⟩ := described
    have decoded := (reads_manifest document _).mpr ⟨formatted, rfl⟩
    exact ⟨manifestOf document, decoded, (expand_manifestOf formatted _).symm⟩

theorem map_expand_eq_ok_iff (document : Json) (sourceText : Bytes) (unit : SourceUnit) :
    (decode document).map (·.expand sourceText) = .ok unit ↔
      IsManifest document ∧ unit = describedUnit document sourceText := by
  rw [← decode_expand_iff document fun _ => sourceText]
  cases decode document <;> simp [Except.map, eq_comm]

theorem parse_eq_ok_iff (library : Library) (files : Files) (baseDirectory : String)
    (text : Bytes) (unit : SourceUnit) :
    parse library files baseDirectory text = .ok unit ↔
      ∃ document, library.readJson text = .ok document ∧
        ∃ manifest, decode document = .ok manifest ∧
          unit = manifest.expand
            ((files (manifest.sourcePath library baseDirectory)).toOption.getD []) := by
  rw [parse, ofText]
  cases library.readJson text with
  | error error => simp [Except.map]
  | ok document =>
      cases decoded : decode document with
      | error fault => simp [Except.map, Except.mapError, decoded]
      | ok manifest => simp [Except.map, Except.mapError, decoded, eq_comm]

/-! ### Columns as they are written -/

section

variable {Column : Json → Prop} (readsAs : ∀ document, Column document → ReadsAsColumn document)

include readsAs

theorem placeFormat_iff (place : Json) :
    PlaceFormat Column place ↔ IsPlace place ∧ ∀ part, HasColumn place part → Column part := by
  constructor
  · intro format
    constructor
    · exact ⟨format.object, format.line, fun part found => readsAs part (format.column part found),
        format.endLine, fun part given => readsAs part (format.endColumn part given)⟩
    · rintro part (found | given)
      · exact format.column part found
      · exact format.endColumn part given
  · rintro ⟨isPlace, columns⟩
    exact ⟨isPlace.object, isPlace.line, fun part found => columns part (.inl found),
      isPlace.endLine, fun part given => columns part (.inr given)⟩

theorem entryFormat_iff (entry : Json) :
    EntryFormat Column entry ↔
      IsEntry entry ∧ ∀ place, entry.given? "location" = some place →
        ∀ part, HasColumn place part → Column part := by
  constructor
  · intro format
    have places := fun place given =>
      (placeFormat_iff readsAs place).mp (format.location place given)
    exact ⟨⟨format.object, format.kind, format.name, format.names, format.isPrivate,
      format.annotations, fun place given => (places place given).1⟩,
      fun place given => (places place given).2⟩
  · rintro ⟨isEntry, columns⟩
    exact ⟨isEntry.object, isEntry.kind, isEntry.name, isEntry.names, isEntry.isPrivate,
      isEntry.annotations, fun place given =>
        (placeFormat_iff readsAs place).mpr ⟨isEntry.location place given, columns place given⟩⟩

theorem classFormat_iff (type : Json) :
    ClassFormat Column type ↔
      IsClass type ∧
        (∀ place, type.given? "location" = some place →
          ∀ part, HasColumn place part → Column part) ∧
        ∀ entry ∈ (type.part "members").items, ∀ place, entry.given? "location" = some place →
          ∀ part, HasColumn place part → Column part := by
  constructor
  · intro format
    have places := fun place given =>
      (placeFormat_iff readsAs place).mp (format.location place given)
    have entries := fun entry listed =>
      (entryFormat_iff readsAs entry).mp (format.members.part.items entry listed)
    exact ⟨⟨format.object, format.name, fun place given => (places place given).1,
      format.members.of_items fun entry listed => (entries entry listed).1⟩,
      fun place given => (places place given).2, fun entry listed => (entries entry listed).2⟩
  · rintro ⟨isClass, columns, entryColumns⟩
    refine ⟨isClass.object, isClass.name, ?_, ?_⟩
    · intro place given
      exact (placeFormat_iff readsAs place).mpr ⟨isClass.location place given, columns place given⟩
    · apply isClass.members.of_items
      intro entry listed
      exact (entryFormat_iff readsAs entry).mpr
        ⟨isClass.members.part.items entry listed, entryColumns entry listed⟩

/-- A stricter format for columns is a matter of the columns that a document has. -/
theorem manifestFormat_iff (document : Json) :
    ManifestFormat Column document ↔
      IsManifest document ∧ ∀ part, MentionsColumn document part → Column part := by
  constructor
  · intro format
    have types := fun type listed =>
      (classFormat_iff readsAs type).mp (format.types.part.items type listed)
    refine ⟨⟨format.object, format.source,
      format.types.of_items fun type listed => (types type listed).1⟩, ?_⟩
    rintro part ⟨place, ⟨type, listed, given | ⟨entry, isEntry, given⟩⟩, isColumn⟩
    · exact (types type listed).2.1 place given part isColumn
    · exact (types type listed).2.2 entry isEntry place given part isColumn
  · rintro ⟨isManifest, columns⟩
    refine ⟨isManifest.object, isManifest.source, isManifest.types.of_items ?_⟩
    intro type listed
    refine (classFormat_iff readsAs type).mpr ⟨isManifest.types.part.items type listed, ?_, ?_⟩
    · intro place given part isColumn
      exact columns part ⟨place, ⟨type, listed, .inl given⟩, isColumn⟩
    · intro entry isEntry place given part isColumn
      exact columns part ⟨place, ⟨type, listed, .inr ⟨entry, isEntry, given⟩⟩, isColumn⟩

end

/-- All columns of a manifest that can be read are read as columns. -/
theorem readsAsColumn_of_mentions {document part : Json} (isManifest : IsManifest document)
    (mentioned : MentionsColumn document part) : ReadsAsColumn part :=
  ((manifestFormat_iff (fun _ => id) document).mp isManifest).2 part mentioned

/-- The columns of a manifest that can be read are columns exactly if they fit 32 bits. -/
theorem forall_isColumn_iff {document : Json} (isManifest : IsManifest document) :
    (∀ column, MentionsColumn document column → IsColumn column) ↔
      ∀ value, MentionsColumn document (.integer value) →
        -2147483648 ≤ value ∧ value ≤ 2147483647 := by
  constructor
  · intro columns value mentioned
    exact (readsAsColumn_of_mentions isManifest mentioned).isColumn_iff.mp (columns _ mentioned)
  · intro fit column mentioned
    have readsAs := readsAsColumn_of_mentions isManifest mentioned
    obtain ⟨value, rfl, _⟩ := readsAs.1
    exact readsAs.isColumn_iff.mpr (fit value mentioned)

end ClassOrder.Manifest
