/-
Module: ClassOrder.Proofs.FirstFault
Purpose: Which fault a decoder returns when a document has several. The defects of a document are
  told apart from any decoder, each with its reading position: a list of numbers that says where
  in the order of reading it is met, compared like words in a dictionary. A decoder blames the
  defects of a document if it fails exactly when there are some, and then with the first of them.
  Sequences, arrays and keys lift this from parts to the whole.
Main exports: Json.Defects, Json.IsFirst, Json.InOrder, Json.ShapeDefect, Json.RefusalDefect,
  Json.ArrayDefect, Json.FoundDefect, Json.OptionalDefect, Json.DefaultedDefect,
  Json.RequiredDefect, Json.Blames, Json.Blames.eq_error_iff
-/
import ClassOrder.Proofs.Decoding

namespace ClassOrder.Json

/-! ### First defects -/

/-- The defects of some value, each with its reading position. -/
abbrev Defects := List Nat → Fault → Prop

/-- The same defects, seen from one step further out. -/
def Defects.inside (segment : Segment) (defects : Defects) : Defects := fun position fault =>
  ∃ inner, defects position inner ∧ fault = inner.inside segment

/-- A fault is the first of some defects: all others are met later. -/
def IsFirst (defects : Defects) (fault : Fault) : Prop :=
  ∃ position, defects position fault ∧
    ∀ otherPosition other, defects otherPosition other →
      (otherPosition = position ∧ other = fault) ∨ position < otherPosition

theorem IsFirst.unique {defects : Defects} {fault other : Fault} (first : IsFirst defects fault)
    (otherFirst : IsFirst defects other) : other = fault := by
  obtain ⟨position, isDefect, before⟩ := first
  obtain ⟨otherPosition, isOther, otherBefore⟩ := otherFirst
  rcases before otherPosition other isOther with ⟨_, same⟩ | earlier
  · exact same
  · rcases otherBefore position fault isDefect with ⟨_, same⟩ | later
    · exact same.symm
    · exact absurd later (List.lt_asymm earlier)

/-- From one step further out, the same defect is met first. -/
theorem IsFirst.inside {defects : Defects} {fault : Fault} (first : IsFirst defects fault)
    (segment : Segment) : IsFirst (defects.inside segment) (fault.inside segment) := by
  obtain ⟨position, isDefect, before⟩ := first
  refine ⟨position, ⟨fault, isDefect, rfl⟩, ?_⟩
  rintro otherPosition _ ⟨inner, isOther, rfl⟩
  rcases before otherPosition inner isOther with ⟨samePosition, rfl⟩ | later
  · exact .inl ⟨samePosition, rfl⟩
  · exact .inr later

/-- A decoder blames defects: it succeeds if there are none, and returns the first of them if it
fails. -/
structure Blames {α : Type} (result : Except Fault α) (defects : Defects) : Prop where
  ok : ∀ value, result = .ok value → ∀ position fault, ¬ defects position fault
  error : ∀ fault, result = .error fault → IsFirst defects fault

namespace Blames

variable {α β : Type} {result : Except Fault α} {defects : Defects}

theorem eq_error_iff (blames : Blames result defects) (fault : Fault) :
    result = .error fault ↔ IsFirst defects fault := by
  constructor
  · exact blames.error fault
  · intro first
    cases result with
    | ok value =>
        obtain ⟨position, isDefect, _⟩ := first
        exact absurd isDefect (blames.ok value rfl position fault)
    | error cause => rw [first.unique (blames.error cause rfl)]

theorem accepts_iff (blames : Blames result defects) :
    (∃ value, result = .ok value) ↔ ∀ position fault, ¬ defects position fault := by
  constructor
  · rintro ⟨value, read⟩
    exact blames.ok value read
  · intro clean
    cases result with
    | ok value => exact ⟨value, rfl⟩
    | error cause =>
        obtain ⟨position, isDefect, _⟩ := blames.error cause rfl
        exact absurd isDefect (clean position cause)

theorem of_ok {value : α} (clean : ∀ position fault, ¬ defects position fault) :
    Blames (.ok value) defects := by
  refine ⟨fun _ _ => clean, ?_⟩
  intro fault failed
  cases failed

theorem of_error {cause : Fault} (first : IsFirst defects cause) :
    Blames (.error cause : Except Fault α) defects := by
  refine ⟨?_, ?_⟩
  · intro value read
    cases read
  · intro fault failed
    cases failed
    exact first

theorem map (blames : Blames result defects) (f : α → β) : Blames (result.map f) defects := by
  cases result with
  | ok value => exact of_ok (blames.ok value rfl)
  | error cause => exact of_error (blames.error cause rfl)

theorem under (blames : Blames result defects) (segment : Segment) :
    Blames (Json.under segment result) (defects.inside segment) := by
  cases result with
  | ok value =>
      apply of_ok
      rintro position _ ⟨inner, isDefect, _⟩
      exact blames.ok value rfl position inner isDefect
  | error cause => exact of_error ((blames.error cause rfl).inside segment)

end Blames

/-! ### Parts in sequence -/

/-- The defects of several parts that are read one after the other. The number of a part comes
first in the reading position. -/
def Numbered (start : Nat) (parts : List Defects) : Defects := fun position fault =>
  ∃ index defects inner, parts[index]? = some defects ∧ defects inner fault ∧
    position = (start + index) :: inner

/-- The defects of several parts, from the first part on. -/
def InOrder (parts : List Defects) : Defects := Numbered 0 parts

theorem numbered_cons (start : Nat) (defects : Defects) (rest : List Defects)
    (position : List Nat) (fault : Fault) :
    Numbered start (defects :: rest) position fault ↔
      (∃ inner, defects inner fault ∧ position = start :: inner) ∨
        Numbered (start + 1) rest position fault := by
  constructor
  · rintro ⟨_ | index, part, inner, listed, isDefect, rfl⟩
    · cases listed
      exact .inl ⟨inner, isDefect, rfl⟩
    · refine .inr ⟨index, part, inner, listed, isDefect, ?_⟩
      rw [Nat.add_right_comm, Nat.add_assoc]
  · rintro (⟨inner, isDefect, rfl⟩ | ⟨index, part, inner, listed, isDefect, rfl⟩)
    · exact ⟨0, defects, inner, rfl, isDefect, rfl⟩
    · refine ⟨index + 1, part, inner, listed, isDefect, ?_⟩
      rw [Nat.add_right_comm, Nat.add_assoc]

/-- Later parts have greater numbers. -/
theorem Numbered.later {start : Nat} {rest : List Defects} {position : List Nat} {fault : Fault}
    (isDefect : Numbered (start + 1) rest position fault) (inner : List Nat) :
    start :: inner < position := by
  obtain ⟨index, _, _, _, _, rfl⟩ := isDefect
  rw [List.cons_lt_cons_iff]
  omega

/-- If nothing is wrong with a part, what is wrong lies in the parts after it. -/
theorem numbered_of_clean {start : Nat} {defects : Defects} {rest : List Defects}
    (clean : ∀ position fault, ¬ defects position fault) :
    Numbered start (defects :: rest) = Numbered (start + 1) rest := by
  funext position fault
  apply propext
  rw [numbered_cons]
  constructor
  · rintro (⟨inner, isDefect, _⟩ | isLater)
    · exact absurd isDefect (clean inner fault)
    · exact isLater
  · exact .inr

/-- What is wrong with a part comes before what is wrong with the parts after it. -/
theorem IsFirst.numbered {defects : Defects} {fault : Fault} (first : IsFirst defects fault)
    (start : Nat) (rest : List Defects) : IsFirst (Numbered start (defects :: rest)) fault := by
  obtain ⟨position, isDefect, before⟩ := first
  refine ⟨start :: position, (numbered_cons _ _ _ _ _).mpr (.inl ⟨position, isDefect, rfl⟩), ?_⟩
  intro otherPosition other isOther
  rcases (numbered_cons _ _ _ _ _).mp isOther with ⟨inner, isBeside, rfl⟩ | isLater
  · rcases before inner other isBeside with ⟨rfl, rfl⟩ | later
    · exact .inl ⟨rfl, rfl⟩
    · exact .inr (List.cons_lt_cons_iff.mpr (.inr ⟨rfl, later⟩))
  · exact .inr (isLater.later position)

namespace Blames

variable {α β : Type} {result : Except Fault α} {next : α → Except Fault β}

/-- After the last part nothing is left to blame. -/
theorem done (value : α) (start : Nat) :
    Blames (pure value : Except Fault α) (Numbered start []) := by
  apply of_ok
  rintro _ _ ⟨_, _, _, listed, _⟩
  cases listed

/-- A part is read before those after it, and they are read only if nothing is wrong with it. -/
theorem step {start : Nat} {defects : Defects} {rest : List Defects}
    (blames : Blames result defects)
    (restBlames : ∀ value, result = .ok value →
      Blames (next value) (Numbered (start + 1) rest)) :
    Blames (result >>= next) (Numbered start (defects :: rest)) := by
  cases result with
  | ok value =>
      rw [numbered_of_clean (blames.ok value rfl)]
      exact restBlames value rfl
  | error cause =>
      -- The rest is not read; its defects have greater numbers, whatever they are.
      exact of_error ((blames.error cause rfl).numbered start rest)

/-- The last part. -/
theorem last {start : Nat} {defects : Defects} (blames : Blames result defects) :
    Blames result (Numbered start [defects]) := by
  simpa only [bind_pure] using blames.step fun value _ => done value (start + 1)

end Blames

/-! ### Single values -/

/-- A value has the shape that a decoder asks for. -/
def HasShape (document : Json) : Shape → Prop
  | .object => document.IsObject
  | .array => ∃ items, document = .array items
  | .string => document.IsString
  | .integer => document.IsInteger
  | .boolean => document.IsBoolean

/-- A value of the wrong shape. -/
inductive ShapeDefect (shape : Shape) (document : Json) : Defects where
  | misshapen (wrong : ¬ document.HasShape shape) :
      ShapeDefect shape document [] (.here (.expected shape))

/-- A value of the right shape that has not the right format. -/
inductive RefusalDefect (shape : Shape) (format : Json → Prop) (reason : Defect)
    (document : Json) : Defects where
  | refused (shaped : document.HasShape shape) (wrong : ¬ format document) :
      RefusalDefect shape format reason document [] (.here reason)

theorem shapeDefect_iff {shape : Shape} {document : Json} :
    ShapeDefect shape document [] (.here (.expected shape)) ↔ ¬ document.HasShape shape :=
  ⟨fun ⟨wrong⟩ => wrong, .misshapen⟩

theorem refusalDefect_iff {shape : Shape} {format : Json → Prop} {reason : Defect}
    {document : Json} :
    RefusalDefect shape format reason document [] (.here reason) ↔
      document.HasShape shape ∧ ¬ format document :=
  ⟨fun ⟨shaped, wrong⟩ => ⟨shaped, wrong⟩, fun ⟨shaped, wrong⟩ => .refused shaped wrong⟩

namespace Blames

variable {α : Type} {result : Except Fault α} {document : Json}

/-- A decoder that can fail in one way only. -/
theorem single {defects : Defects} {cause : Fault}
    (only : ∀ position fault, defects position fault → position = [] ∧ fault = cause)
    (accepts : (∃ value, result = .ok value) ↔ ¬ defects [] cause)
    (fails : ∀ fault, result = .error fault → fault = cause) : Blames result defects := by
  refine ⟨?_, ?_⟩
  · intro value read position fault isDefect
    obtain ⟨rfl, rfl⟩ := only position fault isDefect
    exact accepts.mp ⟨value, read⟩ isDefect
  · intro fault failed
    obtain rfl := fails fault failed
    have isDefect : defects [] fault := by
      by_contra clean
      obtain ⟨value, read⟩ := accepts.mpr clean
      cases failed.symm.trans read
    exact ⟨[], isDefect, fun position other isOther => .inl (only position other isOther)⟩

/-- A decoder that looks at the shape of a value only. -/
theorem shape {shape : Shape}
    (accepts : (∃ value, result = .ok value) ↔ document.HasShape shape)
    (fails : ∀ fault, result = .error fault → fault = .here (.expected shape)) :
    Blames result (ShapeDefect shape document) := by
  refine single ?_ ?_ fails
  · rintro _ _ ⟨_⟩
    exact ⟨rfl, rfl⟩
  · rw [accepts, shapeDefect_iff, not_not]

/-- A check of a value whose shape is known. -/
theorem refusal {shape : Shape} {format : Json → Prop} {reason : Defect}
    (shaped : document.HasShape shape)
    (accepts : (∃ value, result = .ok value) ↔ format document)
    (fails : ∀ fault, result = .error fault → fault = .here reason) :
    Blames result (RefusalDefect shape format reason document) := by
  refine single ?_ ?_ fails
  · rintro _ _ ⟨_, _⟩
    exact ⟨rfl, rfl⟩
  · rw [accepts, refusalDefect_iff, not_and_not_right]
    exact ⟨fun formatted _ => formatted, fun formatted => formatted shaped⟩

end Blames

theorem blames_string (document : Json) :
    Blames (decodeString document) (ShapeDefect .string document) := by
  apply Blames.shape (reads_string.accepts_iff document)
  intro fault failed
  cases document <;> cases failed <;> rfl

theorem blames_bool (document : Json) :
    Blames (decodeBool document) (ShapeDefect .boolean document) := by
  apply Blames.shape (reads_bool.accepts_iff document)
  intro fault failed
  cases document <;> cases failed <;> rfl

theorem blames_int32 (document : Json) :
    Blames (decodeInt32 document) (ShapeDefect .integer document) := by
  apply Blames.shape (reads_int32.accepts_iff document)
  intro fault failed
  cases document with
  | integer value =>
      rw [decodeInt32] at failed
      split at failed <;> cases failed
      rfl
  | _ =>
      cases failed
      rfl

theorem blames_object (document : Json) :
    Blames (decodeObject document) (ShapeDefect .object document) := by
  apply Blames.shape (exists_congr fun _ => decodeObject_eq_ok_iff)
  intro fault failed
  cases document <;> cases failed <;> rfl

/-! ### Arrays -/

/-- What can be wrong with an array: its shape, and then its items. -/
def ArrayDefect (IsDefect : Json → Defects) (document : Json) : Defects :=
  InOrder
    (ShapeDefect .array document ::
      document.items.mapIdx fun index item => (IsDefect item).inside (.index index))

/-- The items of an array, whatever they are. -/
def arrayItems : Decoder (List Json)
  | array items => .ok items
  | _ => .error (.here (.expected .array))

theorem decodeArray_eq_bind {α : Type} (decode : Decoder α) (document : Json) :
    decodeArray decode document = arrayItems document >>= decodeItems decode 0 := by
  cases document <;> rfl

theorem arrayItems_eq_ok_iff {document : Json} {items : List Json} :
    arrayItems document = .ok items ↔ document = .array items := by
  cases document <;> simp [arrayItems]

theorem blames_arrayItems (document : Json) :
    Blames (arrayItems document) (ShapeDefect .array document) := by
  apply Blames.shape (exists_congr fun _ => arrayItems_eq_ok_iff)
  intro fault failed
  cases document <;> cases failed <;> rfl

theorem Blames.items {α : Type} {decode : Decoder α} {IsDefect : Json → Defects}
    (blames : ∀ item, Blames (decode item) (IsDefect item)) (position start : Nat)
    (items : List Json) :
    Blames (decodeItems decode position items)
      (Numbered start
        (items.mapIdx fun index item => (IsDefect item).inside (.index (position + index)))) := by
  induction items generalizing position start with
  | nil => exact Blames.done [] start
  | cons item rest inductionHypothesis =>
      rw [decodeItems, List.mapIdx_cons]
      apply ((blames item).under (.index position)).step
      intro value _
      have added : (decodeItems decode (position + 1) rest >>= fun values =>
          pure (value :: values)) =
          (decodeItems decode (position + 1) rest).map (value :: ·) := by
        cases decodeItems decode (position + 1) rest <;> rfl
      rw [added]
      -- Counted from the next item, the items of the rest have the same positions.
      simpa only [Nat.add_assoc, Nat.add_comm 1] using
        (inductionHypothesis (position + 1) (start + 1)).map (value :: ·)

theorem Blames.array {α : Type} {decode : Decoder α} {IsDefect : Json → Defects}
    (blames : ∀ item, Blames (decode item) (IsDefect item)) (document : Json) :
    Blames (decodeArray decode document) (ArrayDefect IsDefect document) := by
  rw [decodeArray_eq_bind, ArrayDefect]
  apply (blames_arrayItems document).step
  intro items read
  obtain rfl := arrayItems_eq_ok_iff.mp read
  simpa only [Nat.zero_add, Json.items] using Blames.items blames 0 1 items

/-! ### Keys -/

/-- What can be wrong with the value that is found for a key. -/
inductive FoundDefect (found : Option Json) (key : String) (IsDefect : Json → Defects) :
    Defects where
  | inside {part : Json} {position : List Nat} {fault : Fault}
      (present : found = some part) (isDefect : IsDefect part position fault) :
      FoundDefect found key IsDefect position (fault.inside (.key key))

theorem foundDefect_some (part : Json) (key : String) (IsDefect : Json → Defects) :
    FoundDefect (some part) key IsDefect = (IsDefect part).inside (.key key) := by
  funext position fault
  apply propext
  constructor
  · rintro ⟨present, isDefect⟩
    cases present
    exact ⟨_, isDefect, rfl⟩
  · rintro ⟨inner, isDefect, rfl⟩
    exact .inside rfl isDefect

/-- What can be wrong with an optional key: the value that is given for it. -/
def OptionalDefect (document : Json) (key : String) (IsDefect : Json → Defects) : Defects :=
  FoundDefect (document.given? key) key IsDefect

/-- What can be wrong with a key that has a default: its value, if the key is there. -/
def DefaultedDefect (document : Json) (key : String) (IsDefect : Json → Defects) : Defects :=
  FoundDefect (document.part? key) key IsDefect

/-- What can be wrong with a key that has to be there: it is missing, or its value is wrong. -/
inductive RequiredDefect (document : Json) (key : String) (IsDefect : Json → Defects) :
    Defects where
  | missing (absent : document.part? key = none) :
      RequiredDefect document key IsDefect [] { path := [.key key], defect := .missing }
  | inside {position : List Nat} {fault : Fault}
      (isDefect : DefaultedDefect document key IsDefect position fault) :
      RequiredDefect document key IsDefect position fault

theorem requiredDefect_of_present {document part : Json} {key : String}
    {IsDefect : Json → Defects} (present : document.part? key = some part) :
    RequiredDefect document key IsDefect = FoundDefect (some part) key IsDefect := by
  funext position fault
  apply propext
  constructor
  · rintro (absent | isDefect)
    · cases present.symm.trans absent
    · rwa [DefaultedDefect, present] at isDefect
  · intro isDefect
    refine .inside ?_
    rwa [DefaultedDefect, present]

namespace Blames

variable {α : Type} {decode : Decoder α} {IsDefect : Json → Defects}
  {entries : List (String × Json)} {key : String}

theorem found_none (value : α) : Blames (.ok value) (FoundDefect none key IsDefect) := by
  apply of_ok
  rintro _ _ ⟨present, _⟩
  cases present

theorem found_some {part : Json} {result : Except Fault α}
    (blames : Blames result (IsDefect part)) :
    Blames (Json.under (.key key) result) (FoundDefect (some part) key IsDefect) := by
  rw [foundDefect_some]
  exact blames.under (.key key)

theorem optional
    (blames : ∀ part, (object entries).given? key = some part →
      Blames (decode part) (IsDefect part)) :
    Blames (Json.optional entries key decode)
      (OptionalDefect (.object entries) key IsDefect) := by
  rw [OptionalDefect]
  cases given : (object entries).given? key with
  | none =>
      rw [optional_of_not_given given]
      exact found_none none
  | some part =>
      rw [optional_of_given given]
      exact (found_some (blames part given)).map some

theorem defaulted {default : α}
    (blames : ∀ part, (object entries).part? key = some part →
      Blames (decode part) (IsDefect part)) :
    Blames (Json.defaulted entries key default decode)
      (DefaultedDefect (.object entries) key IsDefect) := by
  rw [DefaultedDefect, Json.defaulted, part?, child?]
  cases present : entries.lookup key with
  | none => exact found_none default
  | some part => exact found_some (blames part present)

/-- A key that is there is read like one that has a default. -/
theorem required (blames : ∀ part, Blames (decode part) (IsDefect part)) :
    Blames (Json.required entries key decode)
      (RequiredDefect (.object entries) key IsDefect) := by
  rw [Json.required]
  cases found : entries.lookup key with
  | none =>
      apply of_error
      refine ⟨[], .missing found, ?_⟩
      rintro _ _ (_ | ⟨present, _⟩)
      · exact .inl ⟨rfl, rfl⟩
      · cases found.symm.trans present
  | some part =>
      have present : (object entries).part? key = some part := found
      rw [requiredDefect_of_present present]
      exact found_some (blames part)

end Blames

/-! ### What all defects have in common -/

/-- All of some defects have a property. -/
def Defects.All (defects : Defects) (Holds : Fault → Prop) : Prop :=
  ∀ position fault, defects position fault → Holds fault

section

variable {document : Json} {Holds : Fault → Prop}

theorem all_inOrder {parts : List Defects} (all : parts.Forall fun defects => defects.All Holds) :
    (InOrder parts).All Holds := by
  rintro _ fault ⟨index, defects, inner, listed, isDefect, rfl⟩
  rw [List.forall_iff_forall_mem] at all
  exact all defects (List.mem_of_getElem? listed) inner fault isDefect

theorem all_shape {shape : Shape}
    (misshapen : ¬ document.HasShape shape → Holds (.here (.expected shape))) :
    (ShapeDefect shape document).All Holds := by
  rintro _ _ ⟨wrong⟩
  exact misshapen wrong

theorem all_refusal {shape : Shape} {format : Json → Prop} {reason : Defect}
    (refused : document.HasShape shape → ¬ format document → Holds (.here reason)) :
    (RefusalDefect shape format reason document).All Holds := by
  rintro _ _ ⟨shaped, wrong⟩
  exact refused shaped wrong

variable {IsDefect : Json → Defects}

theorem all_array
    (misshapen : ¬ document.HasShape .array → Holds (.here (.expected .array)))
    (items : ∀ index item, document.child? (.index index) = some item →
      (IsDefect item).All fun fault => Holds (fault.inside (.index index))) :
    (ArrayDefect IsDefect document).All Holds := by
  apply all_inOrder
  rw [List.forall_cons, List.forall_iff_forall_mem]
  refine ⟨all_shape misshapen, ?_⟩
  intro defects isListed
  obtain ⟨index, inRange, rfl⟩ := List.mem_mapIdx.mp isListed
  rintro position _ ⟨inner, isDefect, rfl⟩
  apply items index _ _ position inner isDefect
  cases document with
  | array _ => exact List.getElem?_eq_getElem inRange
  | _ => cases inRange

theorem all_optional {key : String}
    (inside : ∀ part, document.part? key = some part →
      (IsDefect part).All fun fault => Holds (fault.inside (.key key))) :
    (OptionalDefect document key IsDefect).All Holds := by
  rintro _ _ ⟨present, isDefect⟩
  exact inside _ (part?_of_given? present) _ _ isDefect

theorem all_defaulted {key : String}
    (inside : ∀ part, document.part? key = some part →
      (IsDefect part).All fun fault => Holds (fault.inside (.key key))) :
    (DefaultedDefect document key IsDefect).All Holds := by
  rintro _ _ ⟨present, isDefect⟩
  exact inside _ present _ _ isDefect

theorem all_required {key : String}
    (missing : document.part? key = none → Holds { path := [.key key], defect := .missing })
    (inside : ∀ part, document.part? key = some part →
      (IsDefect part).All fun fault => Holds (fault.inside (.key key))) :
    (RequiredDefect document key IsDefect).All Holds := by
  rintro _ _ (absent | isDefect)
  · exact missing absent
  · exact all_defaulted inside _ _ isDefect

end

end ClassOrder.Json
