/-
Module: ClassOrder.Proofs.CharacterOrder
Purpose: Names that are sorted by their bytes are sorted by their characters. The first byte of a
  character tells how many bytes follow and holds what is left of the code point above the digits
  of the others, and each of these is one digit in base 64. So of two characters the one with the
  lower code point has the lower byte where their bytes first differ, whatever comes after them,
  and the order of encoded names is the lexicographic order of code points.
Main exports: codePoints, CodePoint.leadByte, CodePoint.digitBytes, CodePoint.utf8EncodeChar_eq,
  CodePoint.utf8EncodeChar_append_lt, bytes_lt_iff, Ranking.unsorted_iff_not_later_by_codePoints
-/
import ClassOrder.Proofs.VerdictRuns
import Mathlib.Algebra.Group.Nat.Defs
import Mathlib.Data.List.Lex

namespace ClassOrder

/-! ### The bytes of one character -/

namespace CodePoint

/-- How many bytes follow the first one in the encoding of a code point. -/
def followers (code : Nat) : Nat :=
  if code ≤ 0x7F then 0 else if code ≤ 0x7FF then 1 else if code ≤ 0xFFFF then 2 else 3

/-- The high bits of a first byte, which tell how many bytes follow. -/
def mark : Nat → Nat
  | 0 => 0x00
  | 1 => 0xC0
  | 2 => 0xE0
  | _ => 0xF0

/-- The first byte of an encoded code point: its mark, and what is left of the code point above the
digits of the bytes that follow. -/
def leadByte (code : Nat) : Nat :=
  mark (followers code) + code / 64 ^ followers code

/-- The last digits of a code point in base 64, each in a byte of its own, the highest first. -/
def digitBytes (code : Nat) : Nat → List UInt8
  | 0 => []
  | count + 1 => UInt8.ofNat (0x80 + code / 64 ^ count % 64) :: digitBytes code count

theorem toNat_lt (character : Char) : character.toNat < 0x110000 := by
  rcases character.valid with below | ⟨_, above⟩
  · exact Nat.lt_trans below (by decide)
  · exact above

/-- A character is written as its first byte and the digits that this byte announces. The cases are
the four lengths of an encoding; the first byte of each has room for what is left. -/
theorem utf8EncodeChar_eq (character : Char) :
    String.utf8EncodeChar character =
      UInt8.ofNat (leadByte character.toNat) ::
        digitBytes character.toNat (followers character.toNat) := by
  have value : character.val.toNat = character.toNat := rfl
  have bound := toNat_lt character
  rw [String.utf8EncodeChar, leadByte, followers, value]
  split_ifs
  · simp [mark, digitBytes]
  · have fits : character.toNat / 64 % 32 = character.toNat / 64 := by omega
    simp [mark, digitBytes, fits, Nat.add_comm]
  · have fits : character.toNat / 4096 % 16 = character.toNat / 4096 := by omega
    simp [mark, digitBytes, fits, Nat.add_comm]
  · have fits : character.toNat / 262144 % 8 = character.toNat / 262144 := by omega
    simp [mark, digitBytes, fits, Nat.add_comm]

/-! ### The order of characters -/

theorem leadByte_lt (character : Char) : leadByte character.toNat < UInt8.size := by
  have bound := toNat_lt character
  rw [leadByte, followers, UInt8.size]
  split_ifs <;> simp only [mark] <;> omega

theorem digitByte_lt (digits : Nat) : 0x80 + digits % 64 < UInt8.size := by
  rw [UInt8.size]
  omega

/-- Of two encodings of different lengths, the lower code point has the lower first byte: what is
left of a code point never reaches the next mark. -/
theorem leadByte_lt_of_followers_ne {first second : Nat} (below : first < second)
    (differ : followers first ≠ followers second) : leadByte first < leadByte second := by
  rw [leadByte, leadByte]
  simp only [followers] at differ ⊢
  split_ifs at differ ⊢ <;> simp only [mark] <;> omega

/-- Code points that agree above their last digits are told apart by these digits. The induction
is on the number of digits; the highest one decides unless both have the same. -/
theorem digitBytes_append_lt {first second : Nat} (below : first < second) (count : Nat)
    (sameAbove : first / 64 ^ count = second / 64 ^ count) (firstRest secondRest : List UInt8) :
    digitBytes first count ++ firstRest < digitBytes second count ++ secondRest := by
  induction count with
  | zero =>
      rw [Nat.pow_zero, Nat.div_one, Nat.div_one] at sameAbove
      exact absurd sameAbove (Nat.ne_of_lt below)
  | succ count inductionHypothesis =>
      have notAbove : first / 64 ^ count ≤ second / 64 ^ count :=
        Nat.div_le_div_right (Nat.le_of_lt below)
      rw [Nat.pow_succ, ← Nat.div_div_eq_div_mul, ← Nat.div_div_eq_div_mul] at sameAbove
      rw [digitBytes, digitBytes, List.cons_append, List.cons_append, List.cons_lt_cons_iff]
      rcases Nat.lt_or_eq_of_le notAbove with lower | same
      · left
        rw [UInt8.ofNat_lt_iff_lt (digitByte_lt _) (digitByte_lt _)]
        omega
      · right
        exact ⟨by rw [same], inductionHypothesis same⟩

/-- The character with the lower code point has the lower bytes, whatever follows the two. In
particular the bytes of one character never begin those of another. -/
theorem utf8EncodeChar_append_lt {first second : Char} (below : first.toNat < second.toNat)
    (firstRest secondRest : List UInt8) :
    String.utf8EncodeChar first ++ firstRest < String.utf8EncodeChar second ++ secondRest := by
  rw [utf8EncodeChar_eq, utf8EncodeChar_eq, List.cons_append, List.cons_append,
    List.cons_lt_cons_iff, UInt8.ofNat_lt_iff_lt (leadByte_lt first) (leadByte_lt second)]
  -- Encodings of one length differ in the first byte or agree above the digits that follow it;
  -- encodings of different lengths differ in the first byte.
  by_cases sameCount : followers first.toNat = followers second.toNat
  · have notAbove :
        first.toNat / 64 ^ followers second.toNat ≤ second.toNat / 64 ^ followers second.toNat :=
      Nat.div_le_div_right (Nat.le_of_lt below)
    rcases Nat.lt_or_eq_of_le notAbove with lower | same
    · left
      rw [leadByte, leadByte, sameCount]
      exact Nat.add_lt_add_left lower _
    · right
      rw [leadByte, leadByte, sameCount, same]
      exact ⟨rfl, digitBytes_append_lt below _ same firstRest secondRest⟩
  · left
    exact leadByte_lt_of_followers_ne below sameCount

end CodePoint

/-! ### The order of names -/

/-- The code points of a name, from its first character to its last. -/
def codePoints (name : String) : List Nat :=
  name.toList.map Char.toNat

theorem codePoints_injective {first second : String}
    (same : codePoints first = codePoints second) : first = second := by
  apply String.toList_inj.mp
  exact List.map_injective_iff.mpr (fun _ _ => Char.toNat_inj.mp) same

/-- Encoding keeps the order of texts. The induction walks through both at once: the first
characters decide, and where they are the same, the rests do. -/
theorem flatMap_utf8EncodeChar_lt {first second : List Char}
    (below : first.map Char.toNat < second.map Char.toNat) :
    first.flatMap String.utf8EncodeChar < second.flatMap String.utf8EncodeChar := by
  induction first generalizing second with
  | nil =>
      cases second with
      | nil => exact absurd below (List.not_lt_nil _)
      | cons character rest =>
          rw [List.flatMap_nil, List.flatMap_cons, CodePoint.utf8EncodeChar_eq, List.cons_append]
          exact List.nil_lt_cons _ _
  | cons character rest inductionHypothesis =>
      cases second with
      | nil => exact absurd below (List.not_lt_nil _)
      | cons other others =>
          rw [List.map_cons, List.map_cons, List.cons_lt_cons_iff] at below
          rw [List.flatMap_cons, List.flatMap_cons]
          rcases below with lower | ⟨same, restBelow⟩
          · exact CodePoint.utf8EncodeChar_append_lt lower _ _
          · rw [Char.toNat_inj.mp same]
            exact List.append_left_lt (inductionHypothesis restBelow)

theorem bytes_eq_flatMap (text : String) :
    bytes text = text.toList.flatMap String.utf8EncodeChar := by
  conv_lhs => rw [← String.ofList_toList (s := text)]
  rw [bytes, String.toUTF8_eq_toByteArray, String.toByteArray_ofList, List.utf8Encode,
    List.data_toByteArray]

theorem bytes_lt_of_codePoints_lt {first second : String}
    (below : codePoints first < codePoints second) : bytes first < bytes second := by
  rw [bytes_eq_flatMap, bytes_eq_flatMap]
  exact flatMap_utf8EncodeChar_lt below

/-- Names have the order of their code points. Since code points compare any two names, keeping
their order is enough. -/
theorem bytes_lt_iff (first second : String) :
    bytes first < bytes second ↔ codePoints first < codePoints second := by
  constructor
  · intro bytesBelow
    rcases lt_trichotomy (codePoints first) (codePoints second) with below | same | above
    · exact below
    · rw [codePoints_injective same] at bytesBelow
      exact absurd bytesBelow (List.lt_irrefl _)
    · exact absurd (bytes_lt_of_codePoints_lt above) (List.lt_asymm bytesBelow)
  · exact bytes_lt_of_codePoints_lt

/-! ### Judging names -/

namespace Ranking

/-- Sorting names by bytes is sorting them by characters. Where names are judged and a checked
member stands right after one of the same group, its name is unsorted exactly when it does not come
strictly after the other in the lexicographic order of code points, in which a name comes after
each of its proper beginnings. -/
theorem unsorted_iff_not_later_by_codePoints (ranking : Ranking) (members : List Member)
    (position : Nat) {previous member : Member}
    (previousFound : (ranking.checked members)[position]? = some previous)
    (memberFound : (ranking.checked members)[position + 1]? = some member)
    (sameGroup : previous.group = member.group) :
    ∃ verdict,
      (ranking.verdicts true members)[position + 1]? = some verdict ∧ verdict.member = member ∧
        (verdict.isUnsorted = true ↔ ¬ codePoints previous.name < codePoints member.name) := by
  rw [← ranking.verdicts_map_member true, List.getElem?_map] at memberFound
  obtain ⟨verdict, verdictFound, rfl⟩ := Option.map_eq_some_iff.mp memberFound
  obtain ⟨_, _, closed⟩ := ranking.verdicts_closed true members (position + 1) verdictFound
  refine ⟨verdict, verdictFound, rfl, ?_⟩
  rw [closed.isUnsorted, closed.name, closed.group, ← bytes_lt_iff]
  simp [previousFound, sameGroup]

/-- A name of three bytes, a field that is not checked, and a name of four bytes. -/
theorem unsorted_iff_not_later_by_codePoints_wide :
    let ranking : Ranking := { groups := [.publicMethods], nodup := by decide }
    let wide : Member := { kind := .method, name := "Ａ" }
    let wider : Member := { kind := .method, name := "😀" }
    let members : List Member := [wide, { kind := .field, name := "x" }, wider]
    (ranking.checked members)[0]? = some wide ∧
      (ranking.checked members)[1]? = some wider ∧
      wide.group = wider.group ∧
      codePoints wide.name < codePoints wider.name ∧
      ∃ verdict,
        (ranking.verdicts true members)[1]? = some verdict ∧ verdict.member = wider ∧
          (verdict.isUnsorted = true ↔ ¬ codePoints wide.name < codePoints wider.name) :=
  ⟨by decide +kernel, by decide +kernel, by decide +kernel, by decide +kernel,
    unsorted_iff_not_later_by_codePoints _ _ 0 (by decide +kernel) (by decide +kernel)
      (by decide +kernel)⟩

end Ranking

end ClassOrder
