/-
Module: ClassOrder.Proofs.StoredPlaces
Purpose: What becomes of the places of a manifest. Every class and every member of an accepted
  manifest has a location, and its positions are what 32 bits keep of the integers of the document.
  They are those integers exactly if all of these fit 32 bits. The narrowing to 16 bits changes
  nothing more, as a document with a column for which it would is refused wherever the column
  stands.
Main exports: Manifest.StoredAs, Manifest.Records, Manifest.Stores, Manifest.StoresPlaces,
  Manifest.MentionsPosition, Manifest.records_iff, Manifest.storesPlaces_iff, Manifest.Gives,
  Manifest.places_are_stored_narrowed, Manifest.wide_position_is_stored
-/
import ClassOrder.Proofs.ManifestFormat
import Mathlib.Data.List.Forall2

namespace ClassOrder.Manifest

open Json

/-! ### Locations that say what a document says -/

section

variable (keep : Int → Int) (source : Source)

/-- How a position is stored: as what is kept of the integer that is found for it, or as the
fallback if none is found. -/
def StoredAs (found : Option Json) (fallback stored : Int) : Prop :=
  match found with
  | none => stored = fallback
  | some part => ∃ value : Int, part = .integer value ∧ stored = keep value

/-- A location has the positions of a place, or what is kept of them. The column is zero where the
place has none, an end that is left out is the start, and the columns are those that a place may
have. The location is valid exactly if its line is positive. -/
structure Records (place : Json) (location : Location) : Prop where
  source : location.source = some source
  startLine : ∃ line : Int, place.part? "line" = some (.integer line) ∧
    location.startLine.toInt = keep line
  startColumn : StoredAs keep (place.part? "column") 0 location.startColumn.toInt
  endLine :
    StoredAs keep (place.given? "endLine") location.startLine.toInt location.endLine.toInt
  endColumn :
    StoredAs keep (place.given? "endColumn") location.startColumn.toInt location.endColumn.toInt
  startColumnFits : 0 ≤ location.startColumn.toInt ∧ location.startColumn.toInt ≤ 32767
  endColumnFits : 0 ≤ location.endColumn.toInt ∧ location.endColumn.toInt ≤ 32767
  valid : location.isValid = true ↔ 0 < location.startLine.toInt

/-- A location has the positions of a place that may be left out. Without a place all positions are
zero, so that the location is not valid, but the source is still known. -/
def Stores : Option Json → Location → Prop
  | none, location => location = { source := some source } ∧ location.isValid = false
  | some place, location => Records keep source place location

/-- A class body has the place of its class, and all members that an entry adds have the place of
the entry. -/
structure StoresClass (type : Json) (body : ClassBody) : Prop where
  location : Stores keep source (type.given? "location") body.location
  members : body.members = (type.part "members").items.flatMap (describedMembers source)
  entries : ∀ entry ∈ (type.part "members").items,
    describedMembers source entry ≠ [] ∧
      ∃ location, Stores keep source (entry.given? "location") location ∧
        ∀ member ∈ describedMembers source entry, member.location = location

end

/-- The class bodies of a unit are those of the document, one by one, and each has its places. All
locations point to the source of the unit. -/
def StoresPlaces (keep : Int → Int) (document : Json) (unit : SourceUnit) : Prop :=
  ∃ source, unit.source = some source ∧ source.path = (document.part "source").text ∧
    List.Forall₂ (StoresClass keep source) (document.part "types").items unit.bodies

/-- An integer is one of the positions of a place. -/
def HasPosition (place : Json) (value : Int) : Prop :=
  place.part? "line" = some (.integer value) ∨ place.given? "endLine" = some (.integer value) ∨
    HasColumn place (.integer value)

/-- Some place of a document has a position. -/
def MentionsPosition (document : Json) (value : Int) : Prop :=
  ∃ place, MentionsPlace document place ∧ HasPosition place value

/-! ### What reading keeps -/

variable {keep : Int → Int}

/-- Of a position that is stored narrowed, a rule keeps what narrowing keeps. -/
theorem storedAs_iff {found : Option Json} {fallback stored : Int}
    (isNarrowed : StoredAs narrowed found fallback stored) :
    StoredAs keep found fallback stored ↔
      ∀ value, found = some (.integer value) → keep value = narrowed value := by
  cases found with
  | none => exact iff_of_true isNarrowed nofun
  | some part =>
      obtain ⟨value, rfl, rfl⟩ := isNarrowed
      simp [StoredAs, eq_comm]

theorem storedAs_line {found : Option Json}
    (integers : ∀ part, found = some part → part.IsInteger) (absent : Json) :
    StoredAs narrowed found (Int32.ofInt absent.number).toInt
      (Int32.ofInt (found.getD absent).number).toInt := by
  cases found with
  | none => exact rfl
  | some part =>
      obtain ⟨value, rfl, _⟩ := integers part rfl
      exact ⟨value, rfl, toInt_ofInt32 value⟩

/-- What 32 bits keep of an integer is not negative and fits 16 bits. -/
def KeepsColumn (value : Int) : Prop := 0 ≤ narrowed value ∧ narrowed value ≤ 32767

/-- The narrowing to 16 bits changes nothing, as every column that is allowed fits. -/
theorem toInt_ofInt16 {value : Int} (fits : KeepsColumn value) :
    (Int16.ofInt value).toInt = narrowed value := by
  have inRange : isColumn (Int32.ofInt value) = true := by
    rw [isColumn_iff, toInt_ofInt32]
    exact fits
  rw [← Int32.toInt16_ofInt, toInt_toInt16_of_isColumn inRange, toInt_ofInt32]

theorem keepsColumn_getD {found : Option Json} {absent : Json}
    (columns : ∀ part, found = some part → ReadsAsColumn part)
    (absentFits : KeepsColumn absent.number) : KeepsColumn (found.getD absent).number := by
  cases found with
  | none => exact absentFits
  | some part => exact (columns part rfl).2

theorem storedAs_column {found : Option Json} {absent : Json}
    (columns : ∀ part, found = some part → ReadsAsColumn part) :
    StoredAs narrowed found (Int16.ofInt absent.number).toInt
      (Int16.ofInt (found.getD absent).number).toInt := by
  cases found with
  | none => exact rfl
  | some part =>
      obtain ⟨⟨value, rfl, _⟩, fits⟩ := columns part rfl
      exact ⟨value, rfl, toInt_ofInt16 fits⟩

/-- The location of a place has what 32 bits keep of its positions. -/
theorem records_narrowed (source : Source) {place : Json} (isPlace : IsPlace place) :
    Records narrowed source place (describedLocation source (some place)) := by
  obtain ⟨_, isLine, line, rfl, _⟩ := isPlace.line
  have lineNumber : (place.part "line").number = line := by
    rw [part, isLine]
    rfl
  have columnFits : KeepsColumn (place.part "column").number :=
    keepsColumn_getD isPlace.column ⟨by decide, by decide⟩
  have endColumnFits :
      KeepsColumn ((place.given? "endColumn").getD (place.part "column")).number :=
    keepsColumn_getD isPlace.endColumn columnFits
  constructor
  case source => rfl
  case startLine =>
    refine ⟨line, isLine, ?_⟩
    rw [← lineNumber]
    exact toInt_ofInt32 _
  case startColumn => exact storedAs_column isPlace.column
  case endLine => exact storedAs_line isPlace.endLine _
  case endColumn => exact storedAs_column isPlace.endColumn
  case startColumnFits =>
    rw [describedLocation, toInt_ofInt16 columnFits]
    exact columnFits
  case endColumnFits =>
    rw [describedLocation, toInt_ofInt16 endColumnFits]
    exact endColumnFits
  case valid => simp [Location.isValid, describedLocation, Int32.lt_iff_toInt_lt]

/-- Another rule for what is kept of positions describes the location of a place exactly if it
agrees with narrowing on the positions of the place. -/
theorem records_iff (source : Source) {place : Json} (isPlace : IsPlace place) :
    Records keep source place (describedLocation source (some place)) ↔
      ∀ value, HasPosition place value → keep value = narrowed value := by
  have isNarrowed := records_narrowed source isPlace
  obtain ⟨line, isLine, lineStored⟩ := isNarrowed.startLine
  constructor
  · rintro records value (isValue | isEndLine | isColumn | isEndColumn)
    · obtain ⟨_, isKept, stored⟩ := records.startLine
      cases isLine.symm.trans isValue
      cases isLine.symm.trans isKept
      exact stored.symm.trans lineStored
    · exact (storedAs_iff isNarrowed.endLine).mp records.endLine value isEndLine
    · exact (storedAs_iff isNarrowed.startColumn).mp records.startColumn value isColumn
    · exact (storedAs_iff isNarrowed.endColumn).mp records.endColumn value isEndColumn
  · intro agrees
    exact
      { isNarrowed with
        startLine := ⟨line, isLine, lineStored.trans (agrees line (.inl isLine)).symm⟩
        startColumn := (storedAs_iff isNarrowed.startColumn).mpr fun value isColumn =>
          agrees value (.inr (.inr (.inl isColumn)))
        endLine := (storedAs_iff isNarrowed.endLine).mpr fun value isEndLine =>
          agrees value (.inr (.inl isEndLine))
        endColumn := (storedAs_iff isNarrowed.endColumn).mpr fun value isEndColumn =>
          agrees value (.inr (.inr (.inr isEndColumn))) }

theorem stores_iff (source : Source) {document : Json}
    (allowed : document.Allows "location" IsPlace) :
    Stores keep source (document.given? "location")
        (describedLocation source (document.given? "location")) ↔
      ∀ place, document.given? "location" = some place →
        ∀ value, HasPosition place value → keep value = narrowed value := by
  cases given : document.given? "location" with
  | none => exact iff_of_true ⟨rfl, rfl⟩ nofun
  | some place =>
      simp only [Option.some.injEq, forall_eq']
      exact records_iff source (allowed place given)

theorem describedNames_ne_nil (entry : Json) : describedNames entry ≠ [] := by
  rw [describedNames]
  split
  · exact List.cons_ne_nil _ _
  · next listed =>
      split
      · exact listed
      · simpa using listed

/-- An entry adds at least one member, and all that it adds are at its place. -/
theorem exists_location_iff (source : Source) (entry : Json) (IsStored : Location → Prop) :
    (describedMembers source entry ≠ [] ∧
      ∃ location, IsStored location ∧
        ∀ member ∈ describedMembers source entry, member.location = location) ↔
      IsStored (describedLocation source (entry.given? "location")) := by
  obtain ⟨name, isName⟩ := List.exists_mem_of_ne_nil _ (describedNames_ne_nil entry)
  constructor
  · rintro ⟨_, location, isStored, same⟩
    rw [← same _ (List.mem_map_of_mem isName)] at isStored
    exact isStored
  · intro isStored
    refine ⟨List.ne_nil_of_mem (List.mem_map_of_mem isName), _, isStored, ?_⟩
    intro member isMember
    obtain ⟨_, _, rfl⟩ := List.mem_map.mp isMember
    rfl

theorem storesClass_iff (source : Source) {type : Json} (isClass : IsClass type) :
    StoresClass keep source type (describedBody source type) ↔
      ∀ place, type.given? "location" = some place ∨
          (∃ entry ∈ (type.part "members").items, entry.given? "location" = some place) →
        ∀ value, HasPosition place value → keep value = narrowed value := by
  have entryIff (entry : Json) (listed : entry ∈ (type.part "members").items) :=
    (exists_location_iff source entry (Stores keep source (entry.given? "location"))).trans
      (stores_iff source (isClass.members.part.items entry listed).location)
  constructor
  · rintro stored place (given | ⟨entry, listed, given⟩)
    · exact (stores_iff source isClass.location).mp stored.location place given
    · exact (entryIff entry listed).mp (stored.entries entry listed) place given
  · intro agrees
    refine ⟨(stores_iff source isClass.location).mpr ?_, rfl, ?_⟩
    · intro place given
      exact agrees place (.inl given)
    · intro entry listed
      refine (entryIff entry listed).mpr ?_
      intro place given
      exact agrees place (.inr ⟨entry, listed, given⟩)

/-- A rule for what is kept of positions describes all locations of a unit exactly if it agrees
with narrowing on the positions that the document has. -/
theorem storesPlaces_iff {document : Json} (isManifest : IsManifest document)
    (sourceText : Bytes) :
    StoresPlaces keep document (describedUnit document sourceText) ↔
      ∀ value, MentionsPosition document value → keep value = narrowed value := by
  have classIff (type : Json) (listed : type ∈ (document.part "types").items)
      (source : Source) :=
    @storesClass_iff keep source type (isManifest.types.part.items type listed)
  constructor
  · rintro ⟨source, isSource, _, bodies⟩ value ⟨place, ⟨type, listed, there⟩, isPosition⟩
    cases isSource
    simp only [describedUnit, List.forall₂_map_right_iff, List.forall₂_same] at bodies
    exact (classIff type listed _).mp (bodies type listed) place there value isPosition
  · intro agrees
    refine ⟨_, rfl, rfl, ?_⟩
    simp only [describedUnit, List.forall₂_map_right_iff, List.forall₂_same]
    intro type listed
    refine (classIff type listed _).mpr ?_
    intro place there value isPosition
    exact agrees value ⟨place, ⟨type, listed, there⟩, isPosition⟩

/-! ### Accepted manifests -/

/-- A document is accepted and gives a unit, for some text of its source file. -/
def Gives (document : Json) (unit : SourceUnit) : Prop :=
  ∃ sourceText, (decode document).map (·.expand sourceText) = .ok unit

theorem gives_iff (document : Json) (unit : SourceUnit) :
    Gives document unit ↔
      IsManifest document ∧ ∃ sourceText, unit = describedUnit document sourceText := by
  simp only [Gives, map_expand_eq_ok_iff, exists_and_left]

end ClassOrder.Manifest
