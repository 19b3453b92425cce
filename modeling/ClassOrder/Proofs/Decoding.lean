/-
Module: ClassOrder.Proofs.Decoding
Purpose: What it takes for a decoder to succeed, and with what. A format is a predicate on
  documents, and a content function says what a document of the format holds; a decoder reads a
  format if it accepts exactly its documents and returns their content. Arrays and keys lift this
  from parts to the whole: keys that are required, keys that are optional, where null counts as
  left out, and keys that have a default, where it does not.
Main exports: Json.IsObject, Json.Requires, Json.Allows, Json.AllowsStrictly, Json.IsArrayOf,
  Json.Reads, Json.narrowed, Json.Reads.array, Json.Reads.required_eq_ok_iff,
  Json.Reads.optional_eq_ok_iff, Json.Reads.defaulted_eq_ok_iff
-/
import ClassOrder.Json.Decoder
import Mathlib.Data.List.Basic

namespace ClassOrder.Json

/-! ### Formats -/

def IsObject (document : Json) : Prop := ∃ entries, document = .object entries

def IsString (document : Json) : Prop := ∃ value, document = .string value

def IsBoolean (document : Json) : Prop := ∃ value, document = .bool value

/-- An integer that 64 bits can hold. -/
def IsInteger (document : Json) : Prop :=
  ∃ value : Int, document = .integer value ∧
    -9223372036854775808 ≤ value ∧ value ≤ 9223372036854775807

/-- An array whose items all have one format. -/
def IsArrayOf (format : Json → Prop) (document : Json) : Prop :=
  ∃ items, document = .array items ∧ ∀ item ∈ items, format item

/-- The value under a key. -/
def part? (document : Json) (key : String) : Option Json :=
  document.child? (.key key)

/-- The key is there, and its value has the format. -/
def Requires (document : Json) (key : String) (format : Json → Prop) : Prop :=
  ∃ part, document.part? key = some part ∧ format part

/-- The value that is given for a key. Null gives none. -/
def given? (document : Json) (key : String) : Option Json :=
  match document.part? key with
  | none | some .null => none
  | some part => some part

/-- If a value is given for the key, it has the format. -/
def Allows (document : Json) (key : String) (format : Json → Prop) : Prop :=
  ∀ part, document.given? key = some part → format part

/-- If the key is there, its value has the format; null is no exception. -/
def AllowsStrictly (document : Json) (key : String) (format : Json → Prop) : Prop :=
  ∀ part, document.part? key = some part → format part

/-! ### Contents -/

/-- The characters of a string, and none of any other document. -/
def text : Json → String
  | string value => value
  | _ => ""

def flag : Json → Bool
  | bool value => value
  | _ => false

def number : Json → Int
  | integer value => value
  | _ => 0

/-- The items of an array, and none of any other document. -/
def items : Json → List Json
  | array items => items
  | _ => []

/-- The value under a key that is known to be there. -/
def part (document : Json) (key : String) : Json :=
  (document.part? key).getD .null

theorem part?_eq_some_iff {document : Json} {key : String} {part : Json} :
    document.part? key = some part ↔
      ∃ entries, document = .object entries ∧ entries.lookup key = some part := by
  cases document <;> simp [part?, child?]

theorem given?_eq_some_iff {document : Json} {key : String} {part : Json} :
    document.given? key = some part ↔ document.part? key = some part ∧ part ≠ .null := by
  rw [given?]
  split
  · next absent => simp [absent]
  · next isNull =>
      simp only [isNull, reduceCtorEq, Option.some.injEq, false_iff, not_and, not_not]
      exact Eq.symm
  · next found notNull isFound =>
      rw [isFound, Option.some.injEq]
      constructor
      · rintro rfl
        exact ⟨rfl, notNull⟩
      · exact And.left

theorem part?_of_given? {document : Json} {key : String} {part : Json}
    (given : document.given? key = some part) : document.part? key = some part :=
  (given?_eq_some_iff.mp given).1

theorem content_part? {α : Type} (content : Json → α) (document : Json) (key : String) :
    ((document.part? key).map content).getD (content .null) = content (document.part key) := by
  rw [part]
  cases document.part? key <;> rfl

/-- The content of a key for which nothing is given is that of an empty document. -/
theorem content_given? {α : Type} (content : Json → α) (document : Json) (key : String) :
    ((document.given? key).map content).getD (content .null) = content (document.part key) := by
  rw [given?, part]
  split
  · next absent => simp [absent]
  · next isNull => simp [isNull]
  · next isFound => simp [isFound]

theorem Requires.part {document : Json} {key : String} {format : Json → Prop}
    (required : document.Requires key format) : format (document.part key) := by
  obtain ⟨part, present, formatted⟩ := required
  rwa [Json.part, present]

theorem IsArrayOf.items {document : Json} {format : Json → Prop}
    (array : document.IsArrayOf format) : ∀ item ∈ document.items, format item := by
  obtain ⟨items, rfl, formatted⟩ := array
  exact formatted

theorem Requires.of_items {document : Json} {key : String} {format other : Json → Prop}
    (required : document.Requires key (IsArrayOf format))
    (formatted : ∀ item ∈ (document.part key).items, other item) :
    document.Requires key (IsArrayOf other) := by
  obtain ⟨part, present, items, rfl, _⟩ := required
  rw [Json.part, present] at formatted
  exact ⟨_, present, items, rfl, formatted⟩

/-! ### Decoders -/

/-- A decoder reads a format: it accepts its documents and no others, and returns their
content. -/
def Reads {α : Type} (decode : Decoder α) (format : Json → Prop) (content : Json → α) : Prop :=
  ∀ document value, decode document = .ok value ↔ format document ∧ value = content document

theorem bind_eq_ok_iff {ε α β : Type} {result : Except ε α} {next : α → Except ε β} {value : β} :
    (result >>= next) = .ok value ↔ ∃ first, result = .ok first ∧ next first = .ok value := by
  cases result with
  | error error => simp [bind, Except.bind]
  | ok first => simp [bind, Except.bind]

theorem pure_eq_ok_iff {ε α : Type} {first value : α} :
    (pure first : Except ε α) = .ok value ↔ value = first := by
  simp [pure, Except.pure, eq_comm]

@[simp] theorem under_eq_ok_iff {α : Type} {segment : Segment} {result : Except Fault α}
    {value : α} : under segment result = .ok value ↔ result = .ok value := by
  cases result <;> simp [under, Except.mapError]

theorem decodeObject_eq_ok_iff {document : Json} {entries : List (String × Json)} :
    decodeObject document = .ok entries ↔ document = .object entries := by
  cases document <;> simp [decodeObject]

theorem reads_string : Reads decodeString IsString text := by
  intro document value
  cases document <;> simp [decodeString, IsString, text, eq_comm]

theorem reads_bool : Reads decodeBool IsBoolean flag := by
  intro document value
  cases document <;> simp [decodeBool, IsBoolean, flag, eq_comm]

/-! ### Integers in 32 bits -/

/-- What is left of an integer in 32 bits, as a signed number. -/
def narrowed (value : Int) : Int := value.bmod 4294967296

theorem toInt_ofInt32 (value : Int) : (Int32.ofInt value).toInt = narrowed value :=
  Int32.toInt_ofInt

/-- Integers that fit are left as they are, and no others. -/
theorem narrowed_eq_self_iff (value : Int) :
    narrowed value = value ↔ -2147483648 ≤ value ∧ value ≤ 2147483647 := by
  rw [narrowed]
  constructor
  · intro kept
    have low : -2147483648 ≤ value.bmod 4294967296 := Int.le_bmod (by decide)
    have high : value.bmod 4294967296 < 2147483648 := Int.bmod_lt (by decide)
    omega
  · rintro ⟨low, high⟩
    exact Int.bmod_eq_of_le (by omega) (by omega)

theorem isInteger_integer_iff (number : Int) :
    IsInteger (.integer number) ↔
      Int64.minValue.toInt ≤ number ∧ number ≤ Int64.maxValue.toInt := by
  have least : Int64.minValue.toInt = -9223372036854775808 := by decide
  have greatest : Int64.maxValue.toInt = 9223372036854775807 := by decide
  rw [least, greatest]
  constructor
  · rintro ⟨_, same, inRange⟩
    cases same
    exact inRange
  · intro fits
    exact ⟨number, rfl, fits⟩

theorem reads_int32 :
    Reads decodeInt32 IsInteger fun document => Int32.ofInt document.number := by
  intro document value
  cases document with
  | integer number =>
      rw [decodeInt32, isInteger_integer_iff]
      split
      · next fits =>
          constructor
          · intro read
            exact ⟨fits, (Except.ok.inj read).symm⟩
          · intro formatted
            exact congrArg Except.ok formatted.2.symm
      · next overflows =>
          constructor
          · intro read
            cases read
          · intro formatted
            exact absurd formatted.1 overflows
  | _ => simp [decodeInt32, IsInteger]

/-! ### Arrays and keys -/

/-- An optional key for which nothing is given is skipped. -/
theorem optional_of_not_given {α : Type} {entries : List (String × Json)} {key : String}
    (absent : (object entries).given? key = none) (decode : Decoder α) :
    optional entries key decode = .ok none := by
  rw [given?, part?, child?] at absent
  rw [optional]
  cases found : entries.lookup key with
  | none => rfl
  | some part =>
      rw [found] at absent
      cases part with
      | null => rfl
      | _ => cases absent

theorem optional_of_given {α : Type} {entries : List (String × Json)} {key : String} {part : Json}
    (given : (object entries).given? key = some part) (decode : Decoder α) :
    optional entries key decode = (under (.key key) (decode part)).map some := by
  obtain ⟨isFound, notNull⟩ := given?_eq_some_iff.mp given
  rw [part?, child?] at isFound
  rw [optional, isFound]
  split
  · next isNone => cases isNone
  · next isNull => exact absurd (Option.some.inj isNull) notNull
  · next isPart =>
      obtain rfl := Option.some.inj isPart
      rfl

namespace Reads

variable {α : Type} {decode : Decoder α} {format : Json → Prop} {content : Json → α}

theorem accepts_iff (reads : Reads decode format content) (document : Json) :
    (∃ value, decode document = .ok value) ↔ format document := by
  constructor
  · intro accepted
    obtain ⟨value, read⟩ := accepted
    exact ((reads document value).mp read).1
  · intro formatted
    exact ⟨content document, (reads document _).mpr ⟨formatted, rfl⟩⟩

theorem items_eq_ok_iff (reads : Reads decode format content) (position : Nat)
    (items : List Json) (values : List α) :
    decodeItems decode position items = .ok values ↔
      (∀ item ∈ items, format item) ∧ values = items.map content := by
  induction items generalizing position values with
  | nil => simp [decodeItems, eq_comm]
  | cons item rest inductionHypothesis =>
      simp only [decodeItems, bind_eq_ok_iff, pure_eq_ok_iff, under_eq_ok_iff, reads item,
        inductionHypothesis, List.forall_mem_cons, List.map_cons]
      constructor
      · intro read
        obtain ⟨value, ⟨itemFormat, rfl⟩, others, ⟨restFormat, rfl⟩, rfl⟩ := read
        exact ⟨⟨itemFormat, restFormat⟩, rfl⟩
      · intro formatted
        obtain ⟨⟨itemFormat, restFormat⟩, rfl⟩ := formatted
        exact ⟨_, ⟨itemFormat, rfl⟩, _, ⟨restFormat, rfl⟩, rfl⟩

/-- An array is read item by item; nothing is left out or read twice. -/
theorem array (reads : Reads decode format content) :
    Reads (decodeArray decode) (IsArrayOf format) fun document =>
      document.items.map content := by
  intro document values
  cases document with
  | array items =>
      rw [decodeArray, reads.items_eq_ok_iff]
      simp [IsArrayOf, Json.items]
  | _ => simp [decodeArray, IsArrayOf]

theorem required_eq_ok_iff (reads : Reads decode format content)
    (entries : List (String × Json)) (key : String) (value : α) :
    required entries key decode = .ok value ↔
      (Json.object entries).Requires key format ∧
        value = content ((Json.object entries).part key) := by
  simp only [required, Requires, Json.part, part?, child?]
  cases entries.lookup key with
  | none => simp
  | some part => simp [reads part]

theorem optional_eq_ok_iff (reads : Reads decode format content)
    (entries : List (String × Json)) (key : String) (value : Option α) :
    optional entries key decode = .ok value ↔
      (Json.object entries).Allows key format ∧
        value = ((Json.object entries).given? key).map content := by
  rw [Allows]
  cases given : (Json.object entries).given? key with
  | none => simp [optional_of_not_given given, eq_comm]
  | some part =>
      have mapped : (under (.key key) (decode part)).map some = .ok value ↔
          ∃ found, decode part = .ok found ∧ some found = value := by
        cases decode part <;> simp [under, Except.map, Except.mapError]
      rw [optional_of_given given, mapped]
      simp [reads part, eq_comm]

theorem defaulted_eq_ok_iff (reads : Reads decode format content)
    (entries : List (String × Json)) (key : String) (default value : α) :
    defaulted entries key default decode = .ok value ↔
      (Json.object entries).AllowsStrictly key format ∧
        value = (((Json.object entries).part? key).map content).getD default := by
  simp only [defaulted, AllowsStrictly, part?, child?]
  cases entries.lookup key with
  | none => simp [eq_comm]
  | some part => simp [reads part]

end Reads

end ClassOrder.Json
