/-
Module: ClassOrder.Proofs.AnnotationEdits
Purpose: Changes to the annotations in a manifest that decide nothing: an unrecognized name is put
  in or taken out, or any name behind a recognized one. Such changes are described on documents,
  down to single names. They leave the first recognized name of each declaration alone, and a
  manifest that could be read can still be read, with nothing changed but annotations.
Main exports: Marker.IdleEdit, Marker.IdleEdit.findSome?_eq, Json.EditAt, Json.EditItems,
  Manifest.AnnotationEdit, Manifest.Declaration.Alike, Manifest.Body.Alike,
  Manifest.decode_of_annotationEdit
-/
import ClassOrder.Proofs.ManifestFormat
import Mathlib.Data.List.Forall2

namespace ClassOrder

/-! ### Names that decide nothing -/

namespace Marker

/-- A name that decides nothing where it stands: it is not recognized, or some name before it
is. -/
def IsIdle (before : List String) (name : String) : Prop :=
  ofName? name = none ∨ ∃ earlier ∈ before, ofName? earlier ≠ none

/-- Lists of names that come from a list by any number of insertions and deletions of names that
decide nothing. -/
inductive IdleEdit (names : List String) : List String → Prop where
  | refl : IdleEdit names names
  | insert {before after : List String} {name : String}
      (edit : IdleEdit names (before ++ after)) (idle : IsIdle before name) :
      IdleEdit names (before ++ name :: after)
  | delete {before after : List String} {name : String}
      (edit : IdleEdit names (before ++ name :: after)) (idle : IsIdle before name) :
      IdleEdit names (before ++ after)

/-- The first recognized name is found with or without a name that decides nothing. -/
theorem IsIdle.findSome?_eq {before : List String} {name : String} (idle : IsIdle before name)
    (after : List String) :
    (before ++ name :: after).findSome? ofName? = (before ++ after).findSome? ofName? := by
  rw [List.findSome?_append, List.findSome?_append]
  rcases idle with unrecognized | ⟨earlier, isBefore, recognized⟩
  · rw [List.findSome?_cons, unrecognized]
  · cases found : before.findSome? ofName? with
    | none => exact absurd (List.findSome?_eq_none_iff.mp found earlier isBefore) recognized
    | some marker => rfl

theorem IdleEdit.findSome?_eq {names edited : List String} (edit : IdleEdit names edited) :
    edited.findSome? ofName? = names.findSome? ofName? := by
  induction edit with
  | refl => rfl
  | insert _ idle inductionHypothesis => rw [idle.findSome?_eq, inductionHypothesis]
  | delete _ idle inductionHypothesis => rw [← idle.findSome?_eq, inductionHypothesis]

end Marker

/-! ### Edited documents -/

namespace Json

/-- Two objects with the same keys in the same order. The values are the same, except that under
one key a value may be edited. -/
def EditAt (key : String) (edit : Json → Json → Prop) (document edited : Json) : Prop :=
  ∃ entries others, document = .object entries ∧ edited = .object others ∧
    List.Forall₂
      (fun entry other =>
        other.1 = entry.1 ∧ (other.2 = entry.2 ∨ entry.1 = key ∧ edit entry.2 other.2))
      entries others

/-- Two arrays of the same length, where each item may be edited. -/
def EditItems (edit : Json → Json → Prop) (document edited : Json) : Prop :=
  ∃ items others, document = .array items ∧ edited = .array others ∧
    List.Forall₂ edit items others

/-- Two arrays of names, where names that decide nothing were put in and taken out. -/
def EditNames (document edited : Json) : Prop :=
  ∃ names others, document = .array (names.map .string) ∧ edited = .array (others.map .string) ∧
    Marker.IdleEdit names others

namespace EditAt

variable {key : String} {edit : Json → Json → Prop} {document edited : Json}

theorem isObject (editAt : EditAt key edit document edited) : edited.IsObject := by
  obtain ⟨_, others, _, rfl, _⟩ := editAt
  exact ⟨others, rfl⟩

/-- A key is found in both objects or in neither. The two values are the same, or one is the edited
other. -/
theorem part?_rel (editAt : EditAt key edit document edited) (name : String) :
    Option.Rel (fun part other => other = part ∨ name = key ∧ edit part other)
      (document.part? name) (edited.part? name) := by
  obtain ⟨entries, others, rfl, rfl, related⟩ := editAt
  simp only [part?, child?]
  induction related with
  | nil => exact .none
  | @cons entry other entries others head _ inductionHypothesis =>
      obtain ⟨sameKey, value⟩ := head
      rw [List.lookup_cons, List.lookup_cons, sameKey]
      by_cases isHere : name = entry.1
      · rw [← isHere] at value
        rw [isHere, beq_self_eq_true, ← isHere]
        exact .some value
      · rw [beq_eq_false_iff_ne.mpr isHere]
        exact inductionHypothesis

theorem part?_of_ne (editAt : EditAt key edit document edited) {name : String}
    (otherKey : name ≠ key) : edited.part? name = document.part? name := by
  have related := editAt.part?_rel name
  generalize document.part? name = part, edited.part? name = other at related ⊢
  cases related with
  | none => rfl
  | some value =>
      rcases value with same | ⟨isKey, _⟩
      · rw [same]
      · exact absurd isKey otherKey

theorem requires_of_ne (editAt : EditAt key edit document edited) {name : String}
    (otherKey : name ≠ key) {format : Json → Prop} (required : document.Requires name format) :
    edited.Requires name format := by
  rwa [Requires, editAt.part?_of_ne otherKey]

theorem given?_of_ne (editAt : EditAt key edit document edited) {name : String}
    (otherKey : name ≠ key) : edited.given? name = document.given? name := by
  rw [given?, given?, editAt.part?_of_ne otherKey]

theorem allows_of_ne (editAt : EditAt key edit document edited) {name : String}
    (otherKey : name ≠ key) {format : Json → Prop} (allowed : document.Allows name format) :
    edited.Allows name format := by
  rwa [Allows, editAt.given?_of_ne otherKey]

theorem allowsStrictly_of_ne (editAt : EditAt key edit document edited) {name : String}
    (otherKey : name ≠ key) {format : Json → Prop}
    (allowed : document.AllowsStrictly name format) : edited.AllowsStrictly name format := by
  rwa [AllowsStrictly, editAt.part?_of_ne otherKey]

/-- Edits that keep a format keep it under their key. -/
theorem allowsStrictly (editAt : EditAt key edit document edited) {format : Json → Prop}
    (keeps : ∀ part other, edit part other → format part → format other)
    (allowed : document.AllowsStrictly key format) : edited.AllowsStrictly key format := by
  intro other isOther
  have related := editAt.part?_rel key
  rw [isOther] at related
  generalize isPart : document.part? key = found at related
  cases related with
  | some value =>
      rcases value with rfl | ⟨_, edits⟩
      · exact allowed _ isPart
      · exact keeps _ _ edits (allowed _ isPart)

theorem requires (editAt : EditAt key edit document edited) {format : Json → Prop}
    (keeps : ∀ part other, edit part other → format part → format other)
    (required : document.Requires key format) : edited.Requires key format := by
  obtain ⟨part, isPart, formatted⟩ := required
  have related := editAt.part?_rel key
  rw [isPart] at related
  generalize isOther : edited.part? key = found at related
  cases related with
  | some value =>
      refine ⟨_, isOther, ?_⟩
      rcases value with rfl | ⟨_, edits⟩
      · exact formatted
      · exact keeps _ _ edits formatted

/-- The items of edited arrays correspond one by one. -/
theorem forall₂_items (editAt : EditAt key (EditItems edit) document edited)
    {alike : Json → Json → Prop} (refl : ∀ item, alike item item)
    (edits : ∀ item other, edit item other → alike item other) :
    List.Forall₂ alike (document.part key).items (edited.part key).items := by
  have related := editAt.part?_rel key
  rw [part, part]
  generalize document.part? key = found, edited.part? key = other at related ⊢
  cases related with
  | none => exact .nil
  | some value =>
      rcases value with rfl | ⟨_, items, others, rfl, rfl, itemEdits⟩
      · exact List.forall₂_same.mpr fun item _ => refl item
      · exact itemEdits.imp edits

end EditAt

/-- Arrays keep the format of their items. -/
theorem EditItems.isArrayOf {edit : Json → Json → Prop} {format : Json → Prop}
    (keeps : ∀ item other, edit item other → format item → format other)
    (document edited : Json) (editItems : EditItems edit document edited)
    (array : document.IsArrayOf format) : edited.IsArrayOf format := by
  obtain ⟨items, others, rfl, rfl, related⟩ := editItems
  refine ⟨others, rfl, ?_⟩
  have formatted : ∀ item ∈ items, format item := array.items
  clear array
  induction related with
  | nil => simp
  | cons head _ inductionHypothesis =>
      rw [List.forall_mem_cons] at formatted ⊢
      exact ⟨keeps _ _ head formatted.1, inductionHypothesis formatted.2⟩

theorem EditNames.isArrayOf (document edited : Json) (editNames : EditNames document edited)
    (_ : document.IsArrayOf IsString) : edited.IsArrayOf IsString := by
  obtain ⟨_, others, _, rfl, _⟩ := editNames
  refine ⟨_, rfl, ?_⟩
  intro item isItem
  obtain ⟨name, _, rfl⟩ := List.mem_map.mp isItem
  exact ⟨name, rfl⟩

end Json

namespace Manifest

open Json

/-! ### Edited manifests -/

/-- An entry of a class with edited annotations. -/
def EntryEdit : Json → Json → Prop := EditAt "annotations" EditNames

/-- A class where the annotations of any entries are edited. -/
def ClassEdit : Json → Json → Prop := EditAt "members" (EditItems EntryEdit)

/-- A manifest where the annotations of any entries of any classes are edited. -/
def AnnotationEdit : Json → Json → Prop := EditAt "types" (EditItems ClassEdit)

theorem EntryEdit.isEntry (document edited : Json) (edit : EntryEdit document edited)
    (isEntry : IsEntry document) : IsEntry edited where
  object := edit.isObject
  kind := edit.requires_of_ne (by decide) isEntry.kind
  name := edit.allows_of_ne (by decide) isEntry.name
  names := edit.allows_of_ne (by decide) isEntry.names
  isPrivate := edit.allows_of_ne (by decide) isEntry.isPrivate
  annotations := edit.allowsStrictly EditNames.isArrayOf isEntry.annotations
  location := edit.allows_of_ne (by decide) isEntry.location

theorem ClassEdit.isClass (document edited : Json) (edit : ClassEdit document edited)
    (isClass : IsClass document) : IsClass edited where
  object := edit.isObject
  name := edit.allowsStrictly_of_ne (by decide) isClass.name
  location := edit.allows_of_ne (by decide) isClass.location
  members := edit.requires (EditItems.isArrayOf EntryEdit.isEntry) isClass.members

/-- A manifest stays a manifest. -/
theorem AnnotationEdit.isManifest {document edited : Json}
    (edit : AnnotationEdit document edited) (isManifest : IsManifest document) :
    IsManifest edited where
  object := edit.isObject
  source := edit.requires_of_ne (by decide) isManifest.source
  types := edit.requires (EditItems.isArrayOf ClassEdit.isClass) isManifest.types

/-! ### Manifests that differ in annotations only -/

/-- Two declarations that differ in annotations only, and not in the first one recognized. -/
structure Declaration.Alike (declaration other : Declaration) : Prop where
  same : { other with annotations := declaration.annotations } = declaration
  decided :
    other.annotations.findSome? Marker.ofName? =
      declaration.annotations.findSome? Marker.ofName?

/-- Two classes whose declarations are alike one by one. -/
structure Body.Alike (body other : Body) : Prop where
  name : other.name = body.name
  range : other.range = body.range
  declarations : List.Forall₂ Declaration.Alike body.declarations other.declarations

theorem Declaration.Alike.refl (declaration : Declaration) : declaration.Alike declaration :=
  ⟨rfl, rfl⟩

theorem Body.Alike.refl (body : Body) : body.Alike body :=
  ⟨rfl, rfl, List.forall₂_same.mpr fun declaration _ => .refl declaration⟩

theorem EntryEdit.alike (document edited : Json) (edit : EntryEdit document edited) :
    (declarationOf document).Alike (declarationOf edited) where
  same := by
    simp (disch := decide) only [declarationOf, part, edit.part?_of_ne, edit.given?_of_ne]
  decided := by
    have related := edit.part?_rel "annotations"
    simp only [declarationOf]
    generalize document.part? "annotations" = found, edited.part? "annotations" = other
      at related ⊢
    cases related with
    | none => rfl
    | some value =>
        rcases value with rfl | ⟨_, names, others, rfl, rfl, edits⟩
        · rfl
        · have texts : ∀ names : List String, (names.map Json.string).map text = names := by
            intro names
            rw [List.map_map]
            exact List.map_id names
          simp only [Option.map_some, Option.getD_some, items, texts]
          exact edits.findSome?_eq

theorem ClassEdit.alike (document edited : Json) (edit : ClassEdit document edited) :
    (bodyOf document).Alike (bodyOf edited) where
  name := by simp (disch := decide) only [bodyOf, edit.part?_of_ne]
  range := by simp (disch := decide) only [bodyOf, edit.given?_of_ne]
  declarations := by
    simp only [bodyOf, List.forall₂_map_left_iff, List.forall₂_map_right_iff]
    exact edit.forall₂_items (fun _ => .refl _) EntryEdit.alike

/-- A manifest with edited annotations is still read, and what is read differs in annotations
only. -/
theorem decode_of_annotationEdit {document edited : Json} (edit : AnnotationEdit document edited)
    {manifest : Manifest} (decoded : decode document = .ok manifest) :
    ∃ other, decode edited = .ok other ∧ other.source = manifest.source ∧
      List.Forall₂ Body.Alike manifest.bodies other.bodies := by
  obtain ⟨isManifest, rfl⟩ := (reads_manifest document manifest).mp decoded
  have stillRead := (reads_manifest edited _).mpr ⟨edit.isManifest isManifest, rfl⟩
  refine ⟨manifestOf edited, stillRead, ?_, ?_⟩
  · simp (disch := decide) only [manifestOf, part, edit.part?_of_ne]
  · simp only [manifestOf, List.forall₂_map_left_iff, List.forall₂_map_right_iff]
    exact edit.forall₂_items (fun _ => .refl _) ClassEdit.alike

end Manifest

end ClassOrder
