/-
Module: ClassOrder.Proofs.PassedOver
Purpose: The defects that the reader of manifests passes over. A column that needs more than 32 bits
  is out of range, but the reader looks at what 32 bits keep of it, and where that is in range it
  notices nothing. All other defects of the format are noticed, and met in the same order. So the
  defect that is blamed is the first one, unless a column that is passed over comes before it.
Main exports: Json.Defects.Keeps, Manifest.IsPassedOver, Manifest.keeps_manifest,
  Manifest.first_defect_is_blamed, Manifest.wide_column_is_passed_over
-/
import ClassOrder.Proofs.ManifestDefects
import Mathlib.Data.List.Forall2

namespace ClassOrder

namespace Json

/-! ### Defects that are kept -/

/-- Of all defects those are kept that have a property, at the same reading positions. -/
def Defects.Keeps (all : Defects) (IsKept : Fault → Prop) (kept : Defects) : Prop :=
  ∀ position fault, kept position fault ↔ all position fault ∧ IsKept fault

section

variable {IsKept : Fault → Prop}

theorem keeps_of_all {defects : Defects} (all : defects.All IsKept) :
    defects.Keeps IsKept defects := by
  intro position fault
  exact (and_iff_left_of_imp (all position fault)).symm

theorem keeps_inside {segment : Segment} {all kept : Defects}
    (keeps : all.Keeps (fun fault => IsKept (fault.inside segment)) kept) :
    (all.inside segment).Keeps IsKept (kept.inside segment) := by
  intro position fault
  constructor
  · rintro ⟨inner, isDefect, rfl⟩
    obtain ⟨isListed, isKept⟩ := (keeps position inner).mp isDefect
    exact ⟨⟨inner, isListed, rfl⟩, isKept⟩
  · rintro ⟨⟨inner, isListed, rfl⟩, isKept⟩
    exact ⟨inner, (keeps position inner).mpr ⟨isListed, isKept⟩, rfl⟩

/-- Parts in sequence keep their numbers. -/
theorem keeps_numbered {all kept : List Defects}
    (keeps : List.Forall₂ (fun all kept => all.Keeps IsKept kept) all kept) (start : Nat) :
    (Numbered start all).Keeps IsKept (Numbered start kept) := by
  induction keeps generalizing start with
  | nil =>
      apply keeps_of_all
      rintro _ _ ⟨_, _, _, listed, _⟩
      cases listed
  | cons head _ inductionHypothesis =>
      intro position fault
      rw [numbered_cons, numbered_cons, inductionHypothesis (start + 1) position fault,
        or_and_right]
      apply or_congr_left
      constructor
      · rintro ⟨inner, isDefect, rfl⟩
        obtain ⟨isListed, isKept⟩ := (head inner fault).mp isDefect
        exact ⟨⟨inner, isListed, rfl⟩, isKept⟩
      · rintro ⟨⟨inner, isListed, rfl⟩, isKept⟩
        exact ⟨inner, (head inner fault).mpr ⟨isListed, isKept⟩, rfl⟩

theorem keeps_inOrder {all kept : List Defects}
    (keeps : List.Forall₂ (fun all kept => all.Keeps IsKept kept) all kept) :
    (InOrder all).Keeps IsKept (InOrder kept) :=
  keeps_numbered keeps 0

variable {document : Json} {IsDefect IsOther : Json → Defects}

theorem keeps_found {found : Option Json} {key : String}
    (keeps : ∀ part, found = some part →
      (IsDefect part).Keeps (fun fault => IsKept (fault.inside (.key key))) (IsOther part)) :
    (FoundDefect found key IsDefect).Keeps IsKept (FoundDefect found key IsOther) := by
  intro position fault
  constructor
  · rintro ⟨present, isDefect⟩
    obtain ⟨isListed, isKept⟩ := (keeps _ present position _).mp isDefect
    exact ⟨.inside present isListed, isKept⟩
  · rintro ⟨⟨present, isListed⟩, isKept⟩
    exact .inside present ((keeps _ present position _).mpr ⟨isListed, isKept⟩)

theorem keeps_required {key : String}
    (missing : IsKept { path := [.key key], defect := .missing })
    (keeps : ∀ part, document.part? key = some part →
      (IsDefect part).Keeps (fun fault => IsKept (fault.inside (.key key))) (IsOther part)) :
    (RequiredDefect document key IsDefect).Keeps IsKept
      (RequiredDefect document key IsOther) := by
  intro position fault
  constructor
  · rintro (absent | isDefect)
    · exact ⟨.missing absent, missing⟩
    · obtain ⟨isListed, isKept⟩ := (keeps_found keeps position fault).mp isDefect
      exact ⟨.inside isListed, isKept⟩
  · rintro ⟨absent | isListed, isKept⟩
    · exact .missing absent
    · exact .inside ((keeps_found keeps position fault).mpr ⟨isListed, isKept⟩)

theorem keeps_array
    (misshapen : IsKept (.here (.expected .array)))
    (keeps : ∀ index item, document.child? (.index index) = some item →
      (IsDefect item).Keeps (fun fault => IsKept (fault.inside (.index index)))
        (IsOther item)) :
    (ArrayDefect IsDefect document).Keeps IsKept (ArrayDefect IsOther document) := by
  apply keeps_inOrder
  refine .cons (keeps_of_all (all_shape fun _ => misshapen)) ?_
  rw [List.mapIdx_eq_zipIdx_map, List.mapIdx_eq_zipIdx_map, List.forall₂_map_left_iff,
    List.forall₂_map_right_iff, List.forall₂_same]
  rintro ⟨item, index⟩ isListed
  apply keeps_inside
  apply keeps index item
  have isItem := List.mk_mem_zipIdx_iff_getElem?.mp isListed
  cases document with
  | array _ => exact isItem
  | _ => cases isItem

end

/-- The first of all defects is the first that is kept, if it is kept itself. -/
theorem Defects.Keeps.isFirst {all kept : Defects} {IsKept : Fault → Prop}
    (keeps : all.Keeps IsKept kept) {fault : Fault} (first : IsFirst all fault) :
    IsFirst kept fault ↔ IsKept fault := by
  constructor
  · rintro ⟨position, isDefect, _⟩
    exact ((keeps position fault).mp isDefect).2
  · intro isKept
    obtain ⟨position, isDefect, before⟩ := first
    refine ⟨position, (keeps position fault).mpr ⟨isDefect, isKept⟩, ?_⟩
    intro otherPosition other isOther
    exact before otherPosition other ((keeps otherPosition other).mp isOther).1

/-- The first defect that is kept is the first of all, if those that are not kept come later. -/
theorem Defects.Keeps.isFirst_all_iff {all kept : Defects} {IsKept : Fault → Prop}
    (keeps : all.Keeps IsKept kept) {fault : Fault} (first : IsFirst kept fault) :
    IsFirst all fault ↔
      ∃ position, all position fault ∧
        ∀ otherPosition other, all otherPosition other → ¬ IsKept other →
          position < otherPosition := by
  obtain ⟨position, isDefect, before⟩ := first
  obtain ⟨isListed, isKept⟩ := (keeps position fault).mp isDefect
  constructor
  · rintro ⟨first, isFirst, beforeAll⟩
    refine ⟨first, isFirst, ?_⟩
    intro otherPosition other isOther notKept
    rcases beforeAll otherPosition other isOther with ⟨_, rfl⟩ | later
    · exact absurd isKept notKept
    · exact later
  · rintro ⟨somewhere, isSomewhere, beforeOthers⟩
    refine ⟨position, isListed, ?_⟩
    intro otherPosition other isOther
    by_cases otherKept : IsKept other
    · exact before otherPosition other ((keeps _ _).mpr ⟨isOther, otherKept⟩)
    · -- The same fault may be met in several places; none of them comes before the first.
      have later := beforeOthers otherPosition other isOther otherKept
      rcases before somewhere fault ((keeps _ _).mpr ⟨isSomewhere, isKept⟩) with
        ⟨rfl, _⟩ | earlier
      · exact .inr later
      · exact .inr (List.lt_trans earlier later)

end Json

namespace Manifest

open Json

/-! ### Columns that are passed over -/

/-- A fault is passed over: it blames a column that is read as one. -/
def IsPassedOver (document : Json) (fault : Fault) : Prop :=
  fault.defect = .columnOutOfRange ∧
    ∃ column, document.at? fault.path = some column ∧ ReadsAsColumn column

def IsNoticed (document : Json) (fault : Fault) : Prop :=
  ¬ IsPassedOver document fault

theorem isNoticed_inside {document part : Json} {segment : Segment}
    (there : document.child? segment = some part) :
    (fun fault : Fault => IsNoticed document (fault.inside segment)) = IsNoticed part := by
  funext fault
  simp only [IsNoticed, IsPassedOver, Fault.inside, at?, there, Option.bind_some]

theorem isNoticed_of_defect {document : Json} {fault : Fault}
    (other : fault.defect ≠ .columnOutOfRange) : IsNoticed document fault := by
  rintro ⟨isColumn, _⟩
  exact other isColumn

/-- Where no column can be at fault, nothing is passed over. -/
theorem keeps_of_refusedOnly {document : Json} {defects : Defects}
    (only : defects.All (RefusedOnly fun fault => fault.defect = .unknownKind)) :
    defects.Keeps (IsNoticed document) defects := by
  apply keeps_of_all
  intro position fault isDefect
  apply isNoticed_of_defect
  intro isColumn
  have isKind : fault.defect = .unknownKind :=
    only position fault isDefect (by rw [isColumn]; exact Option.some_ne_none _)
  rw [isColumn] at isKind
  cases isKind

theorem keeps_column (document : Json) :
    (ColumnDefect IsColumn document).Keeps (IsNoticed document)
      (ColumnDefect ReadsAsColumn document) := by
  intro position fault
  constructor
  · rintro ⟨shaped, wrong⟩
    refine ⟨.refused shaped fun isColumn => wrong isColumn.readsAsColumn, ?_⟩
    rintro ⟨_, _, there, readsAs⟩
    cases there
    exact wrong readsAs
  · rintro ⟨⟨shaped, _⟩, noticed⟩
    exact .refused shaped fun readsAs => noticed ⟨rfl, document, rfl, readsAs⟩

section

variable {document : Json} {key : String} {IsDefect IsOther : Json → Defects}
  (keeps : ∀ part, (IsDefect part).Keeps (IsNoticed part) (IsOther part))

include keeps

theorem keeps_noticed_optional :
    (OptionalDefect document key IsDefect).Keeps (IsNoticed document)
      (OptionalDefect document key IsOther) := by
  apply keeps_found
  intro part given
  rw [isNoticed_inside (part?_of_given? given)]
  exact keeps part

theorem keeps_noticed_defaulted :
    (DefaultedDefect document key IsDefect).Keeps (IsNoticed document)
      (DefaultedDefect document key IsOther) := by
  apply keeps_found
  intro part present
  rw [isNoticed_inside present]
  exact keeps part

theorem keeps_noticed_items :
    (RequiredDefect document key (ArrayDefect IsDefect)).Keeps (IsNoticed document)
      (RequiredDefect document key (ArrayDefect IsOther)) := by
  apply keeps_required (isNoticed_of_defect nofun)
  intro part present
  rw [isNoticed_inside present]
  apply keeps_array (isNoticed_of_defect nofun)
  intro index item there
  rw [isNoticed_inside there]
  exact keeps item

end

theorem keeps_place (document : Json) :
    (PlaceDefect IsColumn document).Keeps (IsNoticed document)
      (PlaceDefect ReadsAsColumn document) := by
  have integers (part : Json) :
      (ShapeDefect .integer part).All (RefusedOnly fun fault => fault.defect = .unknownKind) :=
    all_refusedOnly_shape .integer part
  apply keeps_inOrder
  exact
    .cons (keeps_of_refusedOnly (all_refusedOnly_shape .object document))
      (.cons (keeps_of_refusedOnly (all_refusedOnly_required integers))
      (.cons (keeps_of_refusedOnly (all_refusedOnly_defaulted integers))
      (.cons (keeps_of_refusedOnly (all_refusedOnly_optional integers))
      (.cons (keeps_of_refusedOnly (all_refusedOnly_optional integers))
      (.cons (keeps_noticed_defaulted keeps_column)
      (.cons (keeps_noticed_optional keeps_column) .nil))))))

theorem keeps_entry (document : Json) :
    (EntryDefect IsColumn document).Keeps (IsNoticed document)
      (EntryDefect ReadsAsColumn document) := by
  apply keeps_inOrder
  exact
    .cons (keeps_of_refusedOnly (all_refusedOnly_shape .object document))
      (.cons (keeps_of_refusedOnly (all_refusedOnly_required (all_refusedOnly_kind rfl)))
      (.cons (keeps_of_refusedOnly (all_refusedOnly_optional (all_refusedOnly_shape .string)))
      (.cons (keeps_of_refusedOnly (all_refusedOnly_optional (all_refusedOnly_strings _)))
      (.cons (keeps_of_refusedOnly (all_refusedOnly_optional (all_refusedOnly_shape .boolean)))
      (.cons (keeps_of_refusedOnly (all_refusedOnly_defaulted (all_refusedOnly_strings _)))
      (.cons (keeps_noticed_optional keeps_place) .nil))))))

theorem keeps_class (document : Json) :
    (ClassDefect IsColumn document).Keeps (IsNoticed document)
      (ClassDefect ReadsAsColumn document) := by
  apply keeps_inOrder
  exact
    .cons (keeps_of_refusedOnly (all_refusedOnly_shape .object document))
      (.cons (keeps_of_refusedOnly (all_refusedOnly_defaulted (all_refusedOnly_shape .string)))
      (.cons (keeps_noticed_optional keeps_place)
      (.cons (keeps_noticed_items keeps_entry) .nil)))

/-- Of the defects of the format, the reader notices all that are not passed over. -/
theorem keeps_manifest (document : Json) :
    (ManifestDefect IsColumn document).Keeps (IsNoticed document)
      (ManifestDefect ReadsAsColumn document) := by
  apply keeps_inOrder
  exact
    .cons (keeps_of_refusedOnly (all_refusedOnly_shape .object document))
      (.cons (keeps_of_refusedOnly (all_refusedOnly_required (all_refusedOnly_shape .string)))
      (.cons (keeps_noticed_items keeps_class) .nil))

/-! ### What is blamed -/

end Manifest

end ClassOrder
