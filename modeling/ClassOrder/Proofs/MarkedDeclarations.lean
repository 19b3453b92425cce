/-
Module: ClassOrder.Proofs.MarkedDeclarations
Purpose: Reading and classifying agree about annotations. Expanding a manifest asks whether some
  annotation is recognized, to decide if a declaration of several fields is split; classifying a
  member asks which annotation is the first recognized one, to find its group. The two scans stop
  at the same name of every list, so a declaration is kept together exactly when its members go to
  a framework group.
Main exports: Marker.firstGroup?_eq_some_iff, Marker.isSome_firstGroup?, Member.group_of_marked,
  Member.group_of_unmarked, Manifest.Declaration.needsMarker_group_of_mem,
  Manifest.Declaration.marked_fields_stay_together
-/
import ClassOrder.Manifest
import Mathlib.Data.List.Basic

namespace ClassOrder

/-! ### The two scans of a list of annotations -/

namespace Marker

/-- The group is that of a recognized name with no recognized name before it. -/
theorem firstGroup?_eq_some_iff {names : List String} {group : Group} :
    firstGroup? names = some group ↔
      ∃ before name after marker, names = before ++ name :: after ∧
        (∀ earlier ∈ before, ofName? earlier = none) ∧ ofName? name = some marker ∧
          marker.group = group := by
  rw [firstGroup?, Option.map_eq_some_iff]
  constructor
  · rintro ⟨marker, found, sameGroup⟩
    obtain ⟨before, name, after, split, named, unrecognized⟩ := List.findSome?_eq_some_iff.mp found
    exact ⟨before, name, after, marker, split, unrecognized, named, sameGroup⟩
  · rintro ⟨before, name, after, marker, split, unrecognized, named, sameGroup⟩
    exact ⟨marker, List.findSome?_eq_some_iff.mpr ⟨before, name, after, split, named, unrecognized⟩,
      sameGroup⟩

/-- A group is decided exactly when some name is recognized. -/
theorem isSome_firstGroup? (names : List String) :
    (firstGroup? names).isSome = names.any isRecognized := by
  rw [firstGroup?, Option.isSome_map, List.isSome_findSome?]
  rfl

end Marker

/-! ### Groups of members -/

namespace Member

variable {member : Member}

/-- A decided group is the group, whatever else the member is. -/
theorem group_of_marked {group : Group}
    (decided : Marker.firstGroup? member.annotations = some group) : member.group = group := by
  rw [Member.group, decided, Option.getD_some]

theorem group_of_unmarked (undecided : Marker.firstGroup? member.annotations = none) :
    member.group = member.kind.group member.isPrivate := by
  rw [Member.group, undecided, Option.getD_none]

/-- A member goes to a framework group exactly when one of its annotations is recognized. -/
theorem needsMarker_group (member : Member) :
    member.group.needsMarker = member.annotations.any Marker.isRecognized := by
  rw [← Marker.isSome_firstGroup?]
  cases decided : Marker.firstGroup? member.annotations with
  | none =>
      rw [group_of_unmarked decided, Kind.needsMarker_group]
      rfl
  | some group =>
      obtain ⟨_, _, _, marker, _, _, _, rfl⟩ := Marker.firstGroup?_eq_some_iff.mp decided
      rw [group_of_marked decided, Marker.needsMarker_group]
      rfl

end Member

namespace Manifest.Declaration

/-! ### Members of a declaration -/

variable {declaration : Declaration} {source : Source} {member : Member}

/-- The members of a declaration go to a framework group exactly when the declaration is marked. -/
theorem needsMarker_group_of_mem (isMember : member ∈ declaration.members source) :
    member.group.needsMarker = declaration.isMarked := by
  obtain ⟨name, _, rfl⟩ := List.mem_map.mp isMember
  exact Member.needsMarker_group (declaration.member source name)

/-- The members of an unmarked field declaration are told apart by their own visibility only. -/
theorem group_of_mem_unmarked_field (isField : declaration.kind = .field)
    (unmarked : declaration.isMarked = false) (isMember : member ∈ declaration.members source) :
    member.group = if member.isPrivate then .privateFields else .publicFields := by
  obtain ⟨name, _, rfl⟩ := List.mem_map.mp isMember
  have undecided : Marker.firstGroup? declaration.annotations = none := by
    apply Option.not_isSome_iff_eq_none.mp
    rw [Marker.isSome_firstGroup?, Bool.not_eq_true]
    exact unmarked
  have isKind : (declaration.member source name).kind = .field := isField
  rw [Member.group_of_unmarked undecided, isKind]
  cases (declaration.member source name).isPrivate <;> rfl

theorem map_name_members (declaration : Declaration) (source : Source) :
    (declaration.members source).map Member.name = declaration.memberNames := by
  rw [members, List.map_map]
  exact List.map_id _

/-- Every declaration adds some member. -/
theorem exists_mem_members (declaration : Declaration) (source : Source) :
    ∃ member, member ∈ declaration.members source := by
  apply List.exists_mem_of_ne_nil
  rw [members, ne_eq, List.map_eq_nil_iff, memberNames]
  split
  · split <;> simp
  · simp

/-- All members of a declaration go to framework groups, or none does. -/
theorem forall_needsMarker_iff (declaration : Declaration) (source : Source) :
    (∀ member ∈ declaration.members source, member.group.needsMarker = true) ↔
      declaration.isMarked = true := by
  constructor
  · intro allMarked
    obtain ⟨member, isMember⟩ := declaration.exists_mem_members source
    rw [← needsMarker_group_of_mem isMember]
    exact allMarked member isMember
  · intro marked member isMember
    rw [needsMarker_group_of_mem isMember, marked]

/-- A field declaration of several variables is split unless it is marked. -/
theorem memberNames_of_fields {names : List String} (isField : declaration.kind = .field)
    (several : declaration.names = some names) (notEmpty : names ≠ []) :
    declaration.memberNames = if declaration.isMarked then names.take 1 else names := by
  obtain ⟨first, others, rfl⟩ := List.exists_cons_of_ne_nil notEmpty
  cases marked : declaration.isMarked <;> simp [memberNames, several, isField, marked]

/-- With at least two variables, being one member means not being split. -/
theorem length_members_eq_one_iff {names : List String} (isField : declaration.kind = .field)
    (several : declaration.names = some names) (atLeastTwo : 2 ≤ names.length) (source : Source) :
    (declaration.members source).length = 1 ↔ declaration.isMarked = true := by
  have notEmpty : names ≠ [] := List.ne_nil_of_length_pos (by omega)
  rw [members, List.length_map, memberNames_of_fields isField several notEmpty]
  cases declaration.isMarked with
  | false =>
      have notOne : names.length ≠ 1 := by omega
      simpa using notOne
  | true =>
      have one : min 1 names.length = 1 := by omega
      simpa using one

/-! ### Agreement -/

/-- Annotations decide the same for reading and for classifying. A declaration of at least two
fields, anywhere in a class, adds one member exactly when all that it adds goes to framework
groups; otherwise it adds one member for each name, and each of them is a private or a public field
by its own visibility. And every member goes to a framework group exactly when some annotation of
its list is recognized, as reading asks of a declaration with this list; its group is then that of
the first recognized annotation, and members with the same annotations share it. -/
theorem marked_fields_stay_together :
    (∀ (source : Source) (body : Body) (before after : List Declaration)
        (declaration : Declaration) (names : List String),
      body.declarations = before ++ declaration :: after → declaration.kind = .field →
        declaration.names = some names → 2 ≤ names.length →
          let added := declaration.members source
          (body.expand source).members =
              before.flatMap (·.members source) ++ added ++ after.flatMap (·.members source) ∧
            (added.length = 1 ↔ ∀ member ∈ added, member.group.needsMarker = true) ∧
            (added.length ≠ 1 → added.map Member.name = names ∧ ∀ member ∈ added,
              member.group = if member.isPrivate then .privateFields else .publicFields)) ∧
      ∀ member : Member,
        (member.group.needsMarker = true ↔
          ∃ name ∈ member.annotations, Marker.isRecognized name = true) ∧
        (∀ declaration : Declaration, declaration.annotations = member.annotations →
          declaration.isMarked = member.group.needsMarker) ∧
        (∀ before name after marker, member.annotations = before ++ name :: after →
          (∀ earlier ∈ before, Marker.ofName? earlier = none) →
            Marker.ofName? name = some marker → member.group = marker.group) ∧
        ∀ other : Member, other.annotations = member.annotations →
          member.group.needsMarker = true → other.group = member.group := by
  refine ⟨?_, ?_⟩
  · intro source body before after declaration names inBody isField several atLeastTwo added
    have notEmpty : names ≠ [] := List.ne_nil_of_length_pos (by omega)
    have oneIff : added.length = 1 ↔ declaration.isMarked = true :=
      length_members_eq_one_iff isField several atLeastTwo source
    refine ⟨?_, ?_, ?_⟩
    · simp [Body.expand, inBody, added]
    · rw [oneIff, forall_needsMarker_iff]
    · intro notOne
      have unmarked : declaration.isMarked = false := by
        rwa [ne_eq, oneIff, Bool.not_eq_true] at notOne
      refine ⟨?_, ?_⟩
      · rw [map_name_members, memberNames_of_fields isField several notEmpty, unmarked]
        rfl
      · intro member isAdded
        exact group_of_mem_unmarked_field isField unmarked isAdded
  · intro member
    refine ⟨?_, ?_, ?_, ?_⟩
    · rw [member.needsMarker_group, List.any_eq_true]
    · intro declaration sameAnnotations
      rw [member.needsMarker_group, ← sameAnnotations, isMarked]
    · intro before name after marker split unrecognized named
      apply Member.group_of_marked
      exact Marker.firstGroup?_eq_some_iff.mpr
        ⟨before, name, after, marker, split, unrecognized, named, rfl⟩
    · intro other sameAnnotations isMarked
      rw [member.needsMarker_group, ← Marker.isSome_firstGroup?] at isMarked
      obtain ⟨group, decided⟩ := Option.isSome_iff_exists.mp isMarked
      rw [Member.group_of_marked decided, Member.group_of_marked (sameAnnotations ▸ decided)]

/-- Two fields with an annotation that is not recognized, behind a method. They are split, and only
the second one is private. -/
theorem marked_fields_stay_together_split :
    let source : Source := { path := "menu.dart", text := [] }
    let fields : Declaration :=
      { kind := .field, names := some ["width", "_height"], annotations := ["deprecated"] }
    let body : Body := { declarations := [{ kind := .method, name := some "open" }, fields] }
    (fields.members source).length ≠ 1 ∧
      (fields.members source).map Member.name = ["width", "_height"] ∧
      (fields.members source).map Member.group = [.publicFields, .privateFields] ∧
      ((body.expand source).members.map Member.name) = ["open", "width", "_height"] := by
  intro source fields body
  have split : (fields.members source).length ≠ 1 := by decide
  obtain ⟨inBody, _, plain⟩ :=
    marked_fields_stay_together.1 source body [{ kind := .method, name := some "open" }] []
      fields ["width", "_height"] rfl rfl rfl (by decide)
  refine ⟨split, (plain split).1, by decide +kernel, ?_⟩
  rw [inBody]
  decide

end Manifest.Declaration

end ClassOrder
