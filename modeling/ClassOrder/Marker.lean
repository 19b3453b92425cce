/-
Module: ClassOrder.Marker
Purpose: The annotations that force a member into a framework group, whatever its kind and
  visibility, and the search for the first of them in a list of annotation names.
Main exports: Marker, Marker.group, Marker.ofName?, Marker.firstGroup?
-/
import ClassOrder.Group

namespace ClassOrder

/-- An annotation that decides the group of the member that carries it. -/
inductive Marker where
  | input
  | output
  | hostBinding
  | hostListener
  | viewChild
  | viewChildren
  | contentChild
  | contentChildren
deriving Repr, Inhabited, DecidableEq

namespace Marker

/-- The name as source text writes it, without the leading at sign. -/
def name : Marker → String
  | input => "Input"
  | output => "Output"
  | hostBinding => "HostBinding"
  | hostListener => "HostListener"
  | viewChild => "ViewChild"
  | viewChildren => "ViewChildren"
  | contentChild => "ContentChild"
  | contentChildren => "ContentChildren"

/-- The group of every member that carries the marker. The singular and the plural form of a
child query share one group. -/
def group : Marker → Group
  | input => .inputs
  | output => .outputs
  | hostBinding => .hostBindings
  | hostListener => .hostListeners
  | viewChild | viewChildren => .viewChildren
  | contentChild | contentChildren => .contentChildren

/-- Every marker once. -/
def all : List Marker :=
  [input, output, hostBinding, hostListener, viewChild, viewChildren, contentChild,
    contentChildren]

/-- Find a marker by name. Annotation names that decide nothing give `none`. -/
def ofName? (name : String) : Option Marker :=
  all.find? fun marker => marker.name == name

@[simp] theorem ofName?_name (marker : Marker) : ofName? marker.name = some marker := by
  cases marker <;> decide

/-- A marker always leads to a framework group. -/
@[simp] theorem needsMarker_group (marker : Marker) : marker.group.needsMarker = true := by
  cases marker <;> rfl

/-- Whether an annotation name is recognized, that is, names a marker. -/
def isRecognized (name : String) : Bool :=
  (ofName? name).isSome

/-- The group that a list of annotation names decides: that of the first recognized name. Names
that are not recognized are passed over. -/
def firstGroup? (names : List String) : Option Group :=
  (names.findSome? ofName?).map group

end Marker

end ClassOrder
