/-
Module: ClassOrder.Group
Purpose: The closed taxonomy of member groups. A group is a bucket of class members that an
  ordering places before or after other buckets. Nine groups follow from a member's kind and
  visibility, six framework groups are reached through an annotation only.
Main exports: Group, Group.key, Group.needsMarker, Group.all, Group.ofKey?
-/

namespace ClassOrder

/-- A bucket of class members, listed in taxonomy order. -/
inductive Group where
  | publicFields
  | privateFields
  | publicGetters
  | privateGetters
  | publicSetters
  | privateSetters
  | constructors
  | publicMethods
  | privateMethods
  | inputs
  | outputs
  | hostBindings
  | hostListeners
  | viewChildren
  | contentChildren
deriving Repr, Inhabited, DecidableEq

namespace Group

/-- The stable name of a group. Configurations select a group by it, and messages print it. -/
def key : Group → String
  | publicFields => "public_fields"
  | privateFields => "private_fields"
  | publicGetters => "public_getters"
  | privateGetters => "private_getters"
  | publicSetters => "public_setters"
  | privateSetters => "private_setters"
  | constructors => "constructors"
  | publicMethods => "public_methods"
  | privateMethods => "private_methods"
  | inputs => "angular_inputs"
  | outputs => "angular_outputs"
  | hostBindings => "angular_host_bindings"
  | hostListeners => "angular_host_listeners"
  | viewChildren => "angular_view_children"
  | contentChildren => "angular_content_children"

/-- Framework groups are those that only an annotation leads to. -/
def needsMarker : Group → Bool
  | inputs | outputs | hostBindings | hostListeners | viewChildren | contentChildren => true
  | _ => false

/-- Every group once, in taxonomy order. -/
def all : List Group :=
  [publicFields, privateFields, publicGetters, privateGetters, publicSetters, privateSetters,
    constructors, publicMethods, privateMethods, inputs, outputs, hostBindings, hostListeners,
    viewChildren, contentChildren]

theorem mem_all (group : Group) : group ∈ all := by
  cases group <;> decide

theorem nodup_all : all.Nodup := by decide

/-- Find a group by its key. Keys are matched exactly, with no folding of case. -/
def ofKey? (key : String) : Option Group :=
  all.find? fun group => group.key == key

@[simp] theorem ofKey?_key (group : Group) : ofKey? group.key = some group := by
  cases group <;> decide

/-- A key names at most one group. -/
theorem ofKey?_eq_some_iff {key : String} {group : Group} :
    ofKey? key = some group ↔ group.key = key := by
  constructor
  · intro found
    have matched := List.find?_some (p := fun group : Group => group.key == key) found
    exact beq_iff_eq.mp matched
  · rintro rfl
    exact ofKey?_key group

end Group

end ClassOrder
