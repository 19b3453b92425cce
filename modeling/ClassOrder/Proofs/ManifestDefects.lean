/-
Module: ClassOrder.Proofs.ManifestDefects
Purpose: What can be wrong with a manifest, where, and in which order it is noticed. The defects of
  a manifest are listed key by key in the order of reading, at every depth. The reader of manifests
  returns the first of them, and the path of a refused value leads to that value.
Main exports: Manifest.ManifestDefect, Manifest.blames_manifest, Manifest.TellsTruth,
  Manifest.RefusedAt, Manifest.isManifest_iff_no_defect, Manifest.decode_eq_error_iff,
  Manifest.tellsTruth_of_decode
-/
import ClassOrder.Proofs.FirstFault
import ClassOrder.Proofs.ManifestFormat

namespace ClassOrder.Manifest

open Json

/-! ### Defects in the order of reading -/

def KindDefect (document : Json) : Defects :=
  InOrder
    [ShapeDefect .string document, RefusalDefect .string IsKindName .unknownKind document]

section

variable (Column : Json → Prop)

def ColumnDefect : Json → Defects :=
  RefusalDefect .integer Column .columnOutOfRange

/-- The defects of a place, for a given format of its columns. Their ranges come after everything
else. -/
def PlaceDefect (document : Json) : Defects :=
  InOrder
    [ShapeDefect .object document,
      RequiredDefect document "line" (ShapeDefect .integer),
      DefaultedDefect document "column" (ShapeDefect .integer),
      OptionalDefect document "endLine" (ShapeDefect .integer),
      OptionalDefect document "endColumn" (ShapeDefect .integer),
      DefaultedDefect document "column" (ColumnDefect Column),
      OptionalDefect document "endColumn" (ColumnDefect Column)]

def EntryDefect (document : Json) : Defects :=
  InOrder
    [ShapeDefect .object document,
      RequiredDefect document "kind" KindDefect,
      OptionalDefect document "name" (ShapeDefect .string),
      OptionalDefect document "names" (ArrayDefect (ShapeDefect .string)),
      OptionalDefect document "private" (ShapeDefect .boolean),
      DefaultedDefect document "annotations" (ArrayDefect (ShapeDefect .string)),
      OptionalDefect document "location" (PlaceDefect Column)]

def ClassDefect (document : Json) : Defects :=
  InOrder
    [ShapeDefect .object document,
      DefaultedDefect document "name" (ShapeDefect .string),
      OptionalDefect document "location" (PlaceDefect Column),
      RequiredDefect document "members" (ArrayDefect (EntryDefect Column))]

def ManifestDefect (document : Json) : Defects :=
  InOrder
    [ShapeDefect .object document,
      RequiredDefect document "source" (ShapeDefect .string),
      RequiredDefect document "types" (ArrayDefect (ClassDefect Column))]

end

/-! ### The first defect is reported -/

theorem blames_kind (document : Json) : Blames (decodeKind document) (KindDefect document) := by
  apply (blames_string document).step
  intro name read
  obtain ⟨⟨_, rfl⟩, rfl⟩ := (reads_string document name).mp read
  apply Blames.last
  have isString : (string name).HasShape .string := ⟨name, rfl⟩
  refine Blames.refusal isString ?_ ?_
  · exact reads_kind.accepts_iff (string name)
  · intro fault failed
    split at failed <;> cases failed
    rfl

/-- The check of a column that is there. -/
def checkRange (column : Int32) : Except Fault Unit :=
  if isColumn column then .ok () else .error (.here .columnOutOfRange)

theorem checkRange_accepts_iff (column : Int32) :
    (∃ value, checkRange column = .ok value) ↔ isColumn column = true := by
  rw [checkRange]
  split
  · next inRange => simp [inRange]
  · next outOfRange => simp [outOfRange]

theorem blames_range {part : Json} (isInteger : part.IsInteger) :
    Blames (checkRange (Int32.ofInt part.number)) (ColumnDefect ReadsAsColumn part) := by
  refine Blames.refusal isInteger ?_ ?_
  · rw [checkRange_accepts_iff, isColumn_iff, toInt_ofInt32, ReadsAsColumn]
    exact (and_iff_right isInteger).symm
  · intro fault failed
    rw [checkRange] at failed
    split at failed <;> cases failed
    rfl

/-- The range of a column is looked at only if the column is an integer. -/
theorem blames_column {found : Option Json} (key : String)
    (integers : ∀ part, found = some part → part.IsInteger) :
    Blames (checkColumn key (found.map fun column => Int32.ofInt column.number))
      (FoundDefect found key (ColumnDefect ReadsAsColumn)) := by
  cases found with
  | none => exact Blames.found_none ()
  | some part =>
      have inside : checkColumn key (some (Int32.ofInt part.number)) =
          under (.key key) (checkRange (Int32.ofInt part.number)) := by
        simp only [checkColumn, checkRange, Option.all_some]
        split <;> rfl
      rw [Option.map_some, inside]
      exact Blames.found_some (blames_range (integers part rfl))

theorem blames_place (document : Json) :
    Blames (Range.decode document) (PlaceDefect ReadsAsColumn document) := by
  apply (blames_object document).step
  intro entries read
  obtain rfl := decodeObject_eq_ok_iff.mp read
  -- One step for each read, in its order. What the columns were read as is kept for the checks.
  apply (Blames.required blames_int32).step
  intro line _
  apply (Blames.defaulted fun part _ => blames_int32 part).step
  intro column columnRead
  obtain ⟨columnAllowed, rfl⟩ := (reads_int32.defaulted_eq_ok_iff _ _ _ _).mp columnRead
  apply (Blames.optional fun part _ => blames_int32 part).step
  intro endLine _
  apply (Blames.optional fun part _ => blames_int32 part).step
  intro endColumn endColumnRead
  obtain ⟨endColumnAllowed, rfl⟩ := (reads_int32.optional_eq_ok_iff _ _ _).mp endColumnRead
  rw [checkColumn_getD]
  apply (blames_column "column" columnAllowed).step
  intro _ _
  apply (blames_column "endColumn" endColumnAllowed).step
  intro _ _
  apply Blames.done

/-- A column that is out of range waits until all keys have the right shape. -/
example :
    Range.decode
        (.object
          [("column", .integer (-1)), ("line", .integer 3), ("endLine", .string "four")]) =
      .error { path := [.key "endLine"], defect := .expected .integer } := by
  rfl

theorem blames_entry (document : Json) :
    Blames (Declaration.decode document) (EntryDefect ReadsAsColumn document) := by
  apply (blames_object document).step
  intro entries read
  obtain rfl := decodeObject_eq_ok_iff.mp read
  apply (Blames.required blames_kind).step
  intro kind _
  apply (Blames.optional fun part _ => blames_string part).step
  intro name _
  apply (Blames.optional fun part _ => Blames.array blames_string part).step
  intro names _
  apply (Blames.optional fun part _ => blames_bool part).step
  intro isPrivate _
  apply (Blames.defaulted fun part _ => Blames.array blames_string part).step
  intro annotations _
  apply (Blames.optional fun part _ => blames_place part).step
  intro location _
  apply Blames.done

theorem blames_class (document : Json) :
    Blames (Body.decode document) (ClassDefect ReadsAsColumn document) := by
  apply (blames_object document).step
  intro entries read
  obtain rfl := decodeObject_eq_ok_iff.mp read
  apply (Blames.defaulted fun part _ => blames_string part).step
  intro name _
  apply (Blames.optional fun part _ => blames_place part).step
  intro location _
  apply (Blames.required (Blames.array blames_entry)).step
  intro members _
  apply Blames.done

theorem blames_manifest (document : Json) :
    Blames (decode document) (ManifestDefect ReadsAsColumn document) := by
  apply (blames_object document).step
  intro entries read
  obtain rfl := decodeObject_eq_ok_iff.mp read
  apply (Blames.required blames_string).step
  intro source _
  apply (Blames.required (Blames.array blames_class)).step
  intro types _
  apply Blames.done

/-- A document has the format of manifests if nothing is wrong with it. -/
theorem isManifest_iff_no_defect (document : Json) :
    IsManifest document ↔
      ∀ position fault, ¬ ManifestDefect ReadsAsColumn document position fault := by
  rw [← reads_manifest.accepts_iff, (blames_manifest document).accepts_iff]

/-! ### Paths lead to the values at fault -/

/-- A defect is there: what stands at its place has it. -/
def IsAt (defect : Defect) (place : Option Json) : Prop :=
  match defect with
  | .missing => place = none
  | .expected shape => ∃ value, place = some value ∧ ¬ value.HasShape shape
  | .unknownKind => ∃ name, place = some (.string name) ∧ ¬ IsKindName (.string name)
  | .columnOutOfRange => ∃ number, place = some (.integer number) ∧ ¬ IsColumn (.integer number)

/-- A fault is true of a document: its path leads to its defect. -/
def TellsTruth (document : Json) (fault : Fault) : Prop :=
  IsAt fault.defect (document.at? fault.path)

theorem tellsTruth_inside {document part : Json} {segment : Segment}
    (there : document.child? segment = some part) (fault : Fault) :
    TellsTruth document (fault.inside segment) ↔ TellsTruth part fault := by
  rw [TellsTruth, TellsTruth, Fault.inside, at?, there, Option.bind_some]

theorem all_tellTruth_shape (shape : Shape) (document : Json) :
    (ShapeDefect shape document).All (TellsTruth document) := by
  apply all_shape
  intro wrong
  exact ⟨document, rfl, wrong⟩

section

variable {IsDefect : Json → Defects}

theorem all_tellTruth_array (all : ∀ item, (IsDefect item).All (TellsTruth item))
    (document : Json) : (ArrayDefect IsDefect document).All (TellsTruth document) := by
  apply all_array
  · intro wrong
    exact ⟨document, rfl, wrong⟩
  · intro index item there position fault isDefect
    rw [tellsTruth_inside there]
    exact all item position fault isDefect

theorem all_tellTruth_optional (all : ∀ part, (IsDefect part).All (TellsTruth part))
    (document : Json) (key : String) :
    (OptionalDefect document key IsDefect).All (TellsTruth document) := by
  apply all_optional
  intro part there position fault isDefect
  rw [tellsTruth_inside there]
  exact all part position fault isDefect

theorem all_tellTruth_defaulted (all : ∀ part, (IsDefect part).All (TellsTruth part))
    (document : Json) (key : String) :
    (DefaultedDefect document key IsDefect).All (TellsTruth document) := by
  apply all_defaulted
  intro part there position fault isDefect
  rw [tellsTruth_inside there]
  exact all part position fault isDefect

theorem all_tellTruth_required (all : ∀ part, (IsDefect part).All (TellsTruth part))
    (document : Json) (key : String) :
    (RequiredDefect document key IsDefect).All (TellsTruth document) := by
  apply all_required
  · intro absent
    show (document.child? (.key key)).bind _ = none
    rw [show document.child? (.key key) = none from absent, Option.bind_none]
  · intro part there position fault isDefect
    rw [tellsTruth_inside there]
    exact all part position fault isDefect

end

theorem all_tellTruth_kind (document : Json) :
    (KindDefect document).All (TellsTruth document) := by
  apply all_inOrder
  refine ⟨all_tellTruth_shape .string document, ?_⟩
  apply all_refusal
  rintro ⟨name, rfl⟩ unknown
  exact ⟨name, rfl, unknown⟩

theorem all_tellTruth_column (document : Json) :
    (ColumnDefect ReadsAsColumn document).All (TellsTruth document) := by
  apply all_refusal
  rintro ⟨number, rfl, _⟩ outOfRange
  exact ⟨number, rfl, fun isColumn => outOfRange isColumn.readsAsColumn⟩

theorem all_tellTruth_place (document : Json) :
    (PlaceDefect ReadsAsColumn document).All (TellsTruth document) := by
  have integer := all_tellTruth_optional (all_tellTruth_shape .integer) document
  apply all_inOrder
  exact
    ⟨all_tellTruth_shape .object document,
      all_tellTruth_required (all_tellTruth_shape .integer) document "line",
      all_tellTruth_defaulted (all_tellTruth_shape .integer) document "column",
      integer "endLine", integer "endColumn",
      all_tellTruth_defaulted all_tellTruth_column document "column",
      all_tellTruth_optional all_tellTruth_column document "endColumn"⟩

theorem all_tellTruth_entry (document : Json) :
    (EntryDefect ReadsAsColumn document).All (TellsTruth document) := by
  have strings := all_tellTruth_array (all_tellTruth_shape .string)
  apply all_inOrder
  exact
    ⟨all_tellTruth_shape .object document,
      all_tellTruth_required all_tellTruth_kind document "kind",
      all_tellTruth_optional (all_tellTruth_shape .string) document "name",
      all_tellTruth_optional strings document "names",
      all_tellTruth_optional (all_tellTruth_shape .boolean) document "private",
      all_tellTruth_defaulted strings document "annotations",
      all_tellTruth_optional all_tellTruth_place document "location"⟩

theorem all_tellTruth_class (document : Json) :
    (ClassDefect ReadsAsColumn document).All (TellsTruth document) := by
  apply all_inOrder
  exact
    ⟨all_tellTruth_shape .object document,
      all_tellTruth_defaulted (all_tellTruth_shape .string) document "name",
      all_tellTruth_optional all_tellTruth_place document "location",
      all_tellTruth_required (all_tellTruth_array all_tellTruth_entry) document "members"⟩

theorem all_tellTruth_manifest (document : Json) :
    (ManifestDefect ReadsAsColumn document).All (TellsTruth document) := by
  apply all_inOrder
  exact
    ⟨all_tellTruth_shape .object document,
      all_tellTruth_required (all_tellTruth_shape .string) document "source",
      all_tellTruth_required (all_tellTruth_array all_tellTruth_class) document "types"⟩

/-! ### Where values are refused -/

/-- The refusals in a place, with their paths from there. -/
inductive PlaceRefusal : Fault → Prop where
  | column {key : String} (isColumnKey : key ∈ ["column", "endColumn"]) :
      PlaceRefusal ((Fault.here .columnOutOfRange).inside (.key key))

inductive EntryRefusal : Fault → Prop where
  | kind : EntryRefusal ((Fault.here .unknownKind).inside (.key "kind"))
  | location {fault : Fault} (refused : PlaceRefusal fault) :
      EntryRefusal (fault.inside (.key "location"))

inductive ClassRefusal : Fault → Prop where
  | location {fault : Fault} (refused : PlaceRefusal fault) :
      ClassRefusal (fault.inside (.key "location"))
  | member {fault : Fault} (index : Nat) (refused : EntryRefusal fault) :
      ClassRefusal ((fault.inside (.index index)).inside (.key "members"))

inductive ManifestRefusal : Fault → Prop where
  | type {fault : Fault} (index : Nat) (refused : ClassRefusal fault) :
      ManifestRefusal ((fault.inside (.index index)).inside (.key "types"))

/-- A fault is one of some refusals, if it is a refusal at all. -/
def RefusedOnly (Refusal : Fault → Prop) (fault : Fault) : Prop :=
  fault.defect.refusal? ≠ none → Refusal fault

section

variable {Refusal : Fault → Prop} {IsDefect : Json → Defects} {document : Json} {key : String}

theorem refusedOnly_of_shape {fault : Fault} (noRefusal : fault.defect.refusal? = none) :
    RefusedOnly Refusal fault := by
  intro refused
  exact absurd noRefusal refused

theorem all_refusedOnly_shape (shape : Shape) (document : Json) :
    (ShapeDefect shape document).All (RefusedOnly Refusal) := by
  apply all_shape
  intro _
  exact refusedOnly_of_shape rfl

theorem all_refusedOnly_array
    (all : ∀ index item,
      (IsDefect item).All (RefusedOnly fun fault => Refusal (fault.inside (.index index)))) :
    (ArrayDefect IsDefect document).All (RefusedOnly Refusal) := by
  apply all_array
  · intro _
    exact refusedOnly_of_shape rfl
  · intro index item _
    exact all index item

theorem all_refusedOnly_optional
    (all : ∀ part,
      (IsDefect part).All (RefusedOnly fun fault => Refusal (fault.inside (.key key)))) :
    (OptionalDefect document key IsDefect).All (RefusedOnly Refusal) := by
  apply all_optional
  intro part _
  exact all part

theorem all_refusedOnly_defaulted
    (all : ∀ part,
      (IsDefect part).All (RefusedOnly fun fault => Refusal (fault.inside (.key key)))) :
    (DefaultedDefect document key IsDefect).All (RefusedOnly Refusal) := by
  apply all_defaulted
  intro part _
  exact all part

theorem all_refusedOnly_required
    (all : ∀ part,
      (IsDefect part).All (RefusedOnly fun fault => Refusal (fault.inside (.key key)))) :
    (RequiredDefect document key IsDefect).All (RefusedOnly Refusal) := by
  apply all_required
  · intro _
    exact refusedOnly_of_shape rfl
  · intro part _
    exact all part

end

theorem all_refusedOnly_column {key : String} (isColumnKey : key ∈ ["column", "endColumn"])
    (document : Json) :
    (ColumnDefect ReadsAsColumn document).All
      (RefusedOnly fun fault => PlaceRefusal (fault.inside (.key key))) := by
  apply all_refusal
  intro _ _ _
  exact .column isColumnKey

theorem all_refusedOnly_place (document : Json) :
    (PlaceDefect ReadsAsColumn document).All (RefusedOnly PlaceRefusal) := by
  apply all_inOrder
  exact
    ⟨all_refusedOnly_shape .object document,
      all_refusedOnly_required (all_refusedOnly_shape .integer),
      all_refusedOnly_defaulted (all_refusedOnly_shape .integer),
      all_refusedOnly_optional (all_refusedOnly_shape .integer),
      all_refusedOnly_optional (all_refusedOnly_shape .integer),
      all_refusedOnly_defaulted (all_refusedOnly_column (by simp)),
      all_refusedOnly_optional (all_refusedOnly_column (by simp))⟩

theorem all_refusedOnly_strings (Refusal : Fault → Prop) (document : Json) :
    (ArrayDefect (ShapeDefect .string) document).All (RefusedOnly Refusal) :=
  all_refusedOnly_array fun _ => all_refusedOnly_shape .string

theorem all_refusedOnly_kind {Refusal : Fault → Prop} (kind : Refusal (.here .unknownKind))
    (document : Json) : (KindDefect document).All (RefusedOnly Refusal) := by
  apply all_inOrder
  refine ⟨all_refusedOnly_shape .string document, ?_⟩
  apply all_refusal
  intro _ _ _
  exact kind

theorem all_refusedOnly_entry (document : Json) :
    (EntryDefect ReadsAsColumn document).All (RefusedOnly EntryRefusal) := by
  apply all_inOrder
  refine
    ⟨all_refusedOnly_shape .object document,
      all_refusedOnly_required (all_refusedOnly_kind .kind),
      all_refusedOnly_optional (all_refusedOnly_shape .string),
      all_refusedOnly_optional (all_refusedOnly_strings _),
      all_refusedOnly_optional (all_refusedOnly_shape .boolean),
      all_refusedOnly_defaulted (all_refusedOnly_strings _), ?_⟩
  apply all_refusedOnly_optional
  intro part position fault isDefect refused
  exact .location (all_refusedOnly_place part position fault isDefect refused)

theorem all_refusedOnly_class (document : Json) :
    (ClassDefect ReadsAsColumn document).All (RefusedOnly ClassRefusal) := by
  apply all_inOrder
  refine
    ⟨all_refusedOnly_shape .object document,
      all_refusedOnly_defaulted (all_refusedOnly_shape .string), ?_, ?_⟩
  · apply all_refusedOnly_optional
    intro part position fault isDefect refused
    exact .location (all_refusedOnly_place part position fault isDefect refused)
  · apply all_refusedOnly_required
    intro part
    apply all_refusedOnly_array
    intro index entry position fault isDefect refused
    exact .member index (all_refusedOnly_entry entry position fault isDefect refused)

theorem all_refusedOnly_manifest (document : Json) :
    (ManifestDefect ReadsAsColumn document).All (RefusedOnly ManifestRefusal) := by
  apply all_inOrder
  refine
    ⟨all_refusedOnly_shape .object document,
      all_refusedOnly_required (all_refusedOnly_shape .string), ?_⟩
  apply all_refusedOnly_required
  intro part
  apply all_refusedOnly_array
  intro index type position fault isDefect refused
  exact .type index (all_refusedOnly_class type position fault isDefect refused)

/-- A refused value stands at a path of a document: the kind of a member if it is a string that
names no kind, and a column of the place of a class or a member if it is an integer that is
negative or too large. -/
inductive RefusedAt (document : Json) : List Segment → String → Prop where
  | kind (type member : Nat) (name : String)
      (there : document.at?
        [.key "types", .index type, .key "members", .index member, .key "kind"] =
          some (.string name))
      (unknown : name ∉ ["field", "constructor", "getter", "setter", "method"]) :
      RefusedAt document
        [.key "types", .index type, .key "members", .index member, .key "kind"]
        "unknown member kind"
  | classColumn (type : Nat) (key : String) (number : Int)
      (isColumnKey : key ∈ ["column", "endColumn"])
      (there : document.at? [.key "types", .index type, .key "location", .key key] =
        some (.integer number))
      (outOfRange : number < 0 ∨ 32767 < number) :
      RefusedAt document [.key "types", .index type, .key "location", .key key]
        "column out of range"
  | memberColumn (type member : Nat) (key : String) (number : Int)
      (isColumnKey : key ∈ ["column", "endColumn"])
      (there : document.at?
        [.key "types", .index type, .key "members", .index member, .key "location", .key key] =
          some (.integer number))
      (outOfRange : number < 0 ∨ 32767 < number) :
      RefusedAt document
        [.key "types", .index type, .key "members", .index member, .key "location", .key key]
        "column out of range"

theorem outOfRange_of_not_isColumn {number : Int} (wrong : ¬ IsColumn (.integer number)) :
    number < 0 ∨ 32767 < number := by
  by_contra inRange
  exact wrong ⟨number, rfl, by omega, by omega⟩

theorem refusedAt_of_manifestRefusal {document : Json} {fault : Fault} {reason : String}
    (isRefusal : ManifestRefusal fault) (isTrue : TellsTruth document fault)
    (refused : fault.defect.refusal? = some reason) : RefusedAt document fault.path reason := by
  rcases isRefusal with ⟨type, ⟨⟨isColumnKey⟩⟩ | ⟨member, _ | ⟨⟨isColumnKey⟩⟩⟩⟩
  · cases refused
    obtain ⟨number, there, wrong⟩ := isTrue
    exact .classColumn type _ number isColumnKey there (outOfRange_of_not_isColumn wrong)
  · cases refused
    obtain ⟨name, there, unknown⟩ := isTrue
    exact .kind type member name there fun listed => unknown ⟨name, listed, rfl⟩
  · cases refused
    obtain ⟨number, there, wrong⟩ := isTrue
    exact .memberColumn type member _ number isColumnKey there (outOfRange_of_not_isColumn wrong)

/-! ### Reading -/

theorem parse_eq_faulty_iff (library : Library) (files : Files) (baseDirectory : String)
    (text : Bytes) (fault : Fault) :
    parse library files baseDirectory text = .error (.faulty fault) ↔
      ∃ document, library.readJson text = .ok document ∧ decode document = .error fault := by
  rw [parse, ofText]
  cases library.readJson text with
  | error error => simp [Except.map]
  | ok document =>
      cases decoded : decode document with
      | error cause => simp [Except.map, Except.mapError, decoded]
      | ok manifest => simp [Except.map, Except.mapError, decoded]

theorem decode_eq_error_iff (document : Json) (fault : Fault) :
    decode document = .error fault ↔ IsFirst (ManifestDefect ReadsAsColumn document) fault :=
  (blames_manifest document).eq_error_iff fault

/-- The blame is put where the defect is. -/
theorem tellsTruth_of_decode {document : Json} {fault : Fault}
    (failed : decode document = .error fault) :
    TellsTruth document fault ∧
      ∀ reason, fault.defect.refusal? = some reason → RefusedAt document fault.path reason := by
  obtain ⟨position, isDefect, _⟩ := (decode_eq_error_iff document fault).mp failed
  have isTrue : TellsTruth document fault :=
    all_tellTruth_manifest document position fault isDefect
  refine ⟨isTrue, ?_⟩
  intro reason refused
  have isRefusal : ManifestRefusal fault := by
    apply all_refusedOnly_manifest document position fault isDefect
    rw [refused]
    exact Option.some_ne_none reason
  exact refusedAt_of_manifestRefusal isRefusal isTrue refused

end ClassOrder.Manifest
