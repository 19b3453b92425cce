/-
Module: ClassOrder.Member
Purpose: Class members as they appear in source, the class bodies that declare them, and the
  analyzed units that hold the bodies. A member's group follows from the first recognized
  annotation, or else from its kind and visibility.
Main exports: Kind, Member, Member.group, ClassBody, SourceUnit
-/
import ClassOrder.Marker
import ClassOrder.Location

namespace ClassOrder

/-! ### Kinds -/

/-- What sort of declaration a member is. -/
inductive Kind where
  | field
  | constructor
  | getter
  | setter
  | method
deriving Repr, Inhabited, DecidableEq

namespace Kind

/-- The name of a kind in a member manifest. -/
def name : Kind → String
  | field => "field"
  | constructor => "constructor"
  | getter => "getter"
  | setter => "setter"
  | method => "method"

/-- Every kind once, in the order of their codes. -/
def all : List Kind := [field, constructor, getter, setter, method]

/-- The numeric code of a kind. Codes start at one. -/
def code : Kind → Nat
  | field => 1
  | constructor => 2
  | getter => 3
  | setter => 4
  | method => 5

/-- Find a kind by its manifest name. -/
def ofName? (name : String) : Option Kind :=
  all.find? fun kind => kind.name == name

@[simp] theorem ofName?_name (kind : Kind) : ofName? kind.name = some kind := by
  cases kind <;> decide

/-- A name belongs to at most one kind. -/
theorem ofName?_eq_some_iff {name : String} {kind : Kind} :
    ofName? name = some kind ↔ kind.name = name := by
  constructor
  · intro found
    have matched := List.find?_some (p := fun kind : Kind => kind.name == name) found
    exact beq_iff_eq.mp matched
  · rintro rfl
    exact ofName?_name kind

/-- The group of an unannotated member of this kind. Constructors form one group, every other
kind has a group for each visibility. -/
def group (kind : Kind) (isPrivate : Bool) : Group :=
  match kind, isPrivate with
  | field, false => .publicFields
  | field, true => .privateFields
  | constructor, _ => .constructors
  | getter, false => .publicGetters
  | getter, true => .privateGetters
  | setter, false => .publicSetters
  | setter, true => .privateSetters
  | method, false => .publicMethods
  | method, true => .privateMethods

/-- No kind leads to a framework group. -/
@[simp] theorem needsMarker_group (kind : Kind) (hidden : Bool) :
    (kind.group hidden).needsMarker = false := by
  cases kind <;> cases hidden <;> rfl

end Kind

/-! ### Members -/

/-- A name is private when it starts with an underscore. -/
def isUnderscored (name : String) : Bool :=
  name.startsWith "_"

/-- One member of a class body. An unnamed constructor has the empty name. Visibility follows the
name unless it is given. -/
structure Member where
  kind : Kind
  name : String
  isPrivate : Bool := isUnderscored name
  annotations : List String := []
  location : Location := .nowhere
deriving Inhabited, DecidableEq

/-- The group of a member, whatever order is configured. A recognized annotation takes precedence
over kind and visibility. -/
def Member.group (member : Member) : Group :=
  (Marker.firstGroup? member.annotations).getD (member.kind.group member.isPrivate)

/-! ### Class bodies and analyzed units -/

/-- A class and its members, in source order. -/
structure ClassBody where
  name : String
  location : Location := .nowhere
  members : List Member
deriving Inhabited, DecidableEq

/-- An analyzed source file: its text, if known, and the class bodies found in it. -/
structure SourceUnit where
  source : Option Source
  bodies : List ClassBody
deriving Inhabited, DecidableEq

/-- The path that messages show for a unit. A unit without a source has the empty path. -/
def SourceUnit.path (unit : SourceUnit) : String :=
  (unit.source.map Source.path).getD ""

end ClassOrder
