/-
Module: ClassOrder.Json.Parser
Purpose: Reading JSON text. The text has to be UTF-8; it is read from left to right, one byte
  after the other, and reading stops at the first byte that cannot be part of a document. The error
  then says where that is. Numbers are read as the nearest integer of 64 bits or floating-point
  number; spellings that start with a plus sign or have needless zeros are taken too.
Main exports: Json.decodeUtf8, Json.numberOf?, Json.parse
-/
import ClassOrder.Bytes
import ClassOrder.Json

namespace ClassOrder.Json

/-! ### Characters -/

/-- The character at the start of a text, and the number of bytes that encode it. A character has no
encoding but the shortest one, and halves of surrogate pairs are no characters. -/
def leadingCharacter? : Bytes → Option (Char × Nat)
  | [] => none
  | first :: rest =>
      let lead := first.toNat
      let shape : Option (Nat × Nat × Nat) :=
        if lead < 0x80 then some (0, lead, 0)
        else if lead < 0xC0 then none
        else if lead < 0xE0 then some (1, lead - 0xC0, 0x80)
        else if lead < 0xF0 then some (2, lead - 0xE0, 0x800)
        else if lead < 0xF8 then some (3, lead - 0xF0, 0x10000)
        else none
      match shape with
      | none => none
      | some (count, high, least) =>
          let others := (rest.take count).map UInt8.toNat
          let code := others.foldl (fun code byte => 64 * code + (byte - 0x80)) high
          if others.length = count ∧ (others.all fun byte => 0x80 ≤ byte ∧ byte < 0xC0) ∧
              least ≤ code ∧ code.isValidChar then
            some (Char.ofNat code, count + 1)
          else none

/-- The characters of a text, or the number of bytes before the first that is part of none. There
are at most `limit` characters. -/
def decodeUtf8 (limit offset : Nat) (text : Bytes) : Except Nat (List Char) :=
  match limit, text with
  | _, [] => .ok []
  | 0, _ => .error offset
  | limit + 1, text =>
      match leadingCharacter? text with
      | none => .error offset
      | some (character, count) => do
          let rest ← decodeUtf8 limit (offset + count) (text.drop count)
          return character :: rest

/-- The characters of a text that is known to be UTF-8. -/
def textOf (text : Bytes) : String :=
  match decodeUtf8 text.length 0 text with
  | .ok characters => String.ofList characters
  | .error _ => ""

/-! ### Numbers -/

/-- The value of a list of digits. -/
def digitsValue (digits : List Char) : Nat :=
  digits.foldl (fun value digit => 10 * value + (digit.toNat - '0'.toNat)) 0

/-- Split a sign off a number. The flag tells whether it is a minus sign. -/
def splitSign : List Char → Bool × List Char
  | '-' :: rest => (true, rest)
  | '+' :: rest => (false, rest)
  | rest => (false, rest)

/-- An exponent: nothing, or a letter and an integer. -/
def exponent? : List Char → Option Int
  | [] => some 0
  | mark :: rest =>
      let (isNegative, digits) := splitSign rest
      if (mark == 'e' || mark == 'E') && !digits.isEmpty && digits.all Char.isDigit then
        some (if isNegative then -(digitsValue digits : Int) else digitsValue digits)
      else none

/-- A number without a sign, as digits and the power of ten that they are multiplied by. There is a
digit before or after the decimal point. -/
def scientific? (characters : List Char) : Option (List Char × Int) :=
  let (whole, rest) := characters.span Char.isDigit
  let (decimals, rest) :=
    match rest with
    | '.' :: rest => rest.span Char.isDigit
    | rest => ([], rest)
  if (whole ++ decimals).isEmpty then none
  else (exponent? rest).map fun exponent => (whole ++ decimals, exponent - decimals.length)

/-- The integer nearest to a quotient. Of two that are equally near, the even one counts. -/
def roundedQuotient (numerator denominator : Nat) : Nat :=
  let quotient := numerator / denominator
  let twice := 2 * (numerator % denominator)
  if denominator < twice ∨ (twice = denominator ∧ quotient % 2 = 1) then quotient + 1
  else quotient

/-- The greatest power of two that is not above a positive quotient, as its exponent. -/
def binaryMagnitude (numerator denominator : Nat) : Int :=
  if denominator ≤ numerator then (numerator / denominator).log2
  else
    let below := (denominator / numerator).log2
    if denominator = numerator <<< below then -(below : Int) else -(below : Int) - 1

/-- The integer that the floating-point number nearest to a quotient equals, if it equals one.
Floating-point numbers have 53 binary digits, the last of which counts at least `2 ^ (-1074)`, and
are below `2 ^ 1024`. -/
def nearestInteger? (numerator denominator : Nat) : Option Nat :=
  let last := max (binaryMagnitude numerator denominator) (-1022) - 52
  if 0 ≤ last then
    let value := roundedQuotient numerator (denominator <<< last.toNat) <<< last.toNat
    if value < 1 <<< 1024 then some value else none
  else
    let scale := 1 <<< (-last).toNat
    let digits := roundedQuotient (numerator * scale) denominator
    if digits % scale = 0 then some (digits / scale) else none

/-- The integer that a number in scientific notation comes down to as a floating-point number, if
any. Numbers that are far too large or too small are not written out. -/
def scientificInteger? (digits : List Char) (exponent : Int) : Option Nat :=
  let mantissa := digitsValue digits
  if mantissa = 0 ∨ exponent < -400 - digits.length then some 0
  else if 400 < exponent then none
  else if 0 ≤ exponent then nearestInteger? (mantissa * Nat.pow 10 exponent.toNat) 1
  else nearestInteger? mantissa (Nat.pow 10 (-exponent).toNat)

/-- Read a number. Integers that fit 64 bits, signed or unsigned, are exact; all other numbers are
rounded to the nearest floating-point number. -/
def numberOf? (literal : List Char) : Option Json :=
  let (isNegative, characters) := splitSign literal
  (scientific? characters).map fun (digits, exponent) =>
    let signed (value : Nat) : Int := if isNegative then -(value : Int) else value
    let exact := signed (digitsValue digits)
    if characters.all Char.isDigit ∧ -9223372036854775808 ≤ exact ∧
        exact ≤ 18446744073709551615 then
      .integer exact
    else
      match scientificInteger? digits exponent with
      | some value => .integer (signed value)
      | none => .fraction

/-! ### Readers -/

/-- Why reading stopped, and the number of bytes that were left then. -/
structure Failure where
  message : String
  left : Nat

/-- A reader of some part of a text. -/
abbrev Reader := StateT Bytes (Except Failure)

namespace Reader

/-- Give up. -/
def fail {α : Type} (message : String) : Reader α := fun rest =>
  .error { message := message, left := rest.length }

/-- The character that is next if it is one of a single byte. At the end of the text it is the null
character. -/
def peek : Reader Char := fun rest => .ok (Char.ofNat (rest.headD 0).toNat, rest)

/-- Take the next byte. The end of the text is not passed. -/
def next : Reader Char := do
  let character ← peek
  modify List.tail
  return character

/-- Pass over blanks. -/
def skipBlanks : Reader Unit :=
  modify fun rest => rest.dropWhile fun byte => (bytes " \t\r\n").contains byte

/-- Take characters that are known beforehand. -/
def expect (message : String) : List Char → Reader Unit
  | [] => return ()
  | character :: rest => do
      if (← next) = character then expect message rest else fail message

/-! ### Strings -/

/-- The value of a hexadecimal digit. -/
def hexValue? (digit : Char) : Option Nat :=
  if digit.isDigit then some (digit.toNat - '0'.toNat)
  else if 'a' ≤ digit ∧ digit ≤ 'f' then some (digit.toNat - 'a'.toNat + 10)
  else if 'A' ≤ digit ∧ digit ≤ 'F' then some (digit.toNat - 'A'.toNat + 10)
  else none

/-- Read the four digits of a code unit. -/
def codeUnit : Reader Nat := do
  let digits := [← next, ← next, ← next, ← next]
  match digits.mapM hexValue? with
  | some values => return values.foldl (fun unit value => 16 * unit + value) 0
  | none => fail "Invalid \\u escape sequence"

/-- The characters that a code unit stands for. The first half of a surrogate pair takes in a second
half that is written next; a half that stands alone becomes the replacement character. The two
halves of a pair are put together by bits. -/
def characters (limit unit : Nat) : Reader (List Char) := do
  if unit < 0xD800 ∨ 0xE000 ≤ unit then return [Char.ofNat unit]
  let rest ← get
  match limit with
  | 0 => return ['\uFFFD']
  | limit + 1 =>
      if 0xDC00 ≤ unit ∨ !(bytes "\\u").isPrefixOf rest then return ['\uFFFD']
      set (rest.drop 2)
      let second ← codeUnit
      if 0xDC00 ≤ second ∧ second < 0xE000 then
        return [Char.ofNat (0x10000 ||| ((unit - 0xD800) <<< 10) ||| (second - 0xDC00))]
      return '\uFFFD' :: (← characters limit second)

/-- The character that a one-letter escape stands for. -/
def escaped? : Char → Option Char
  | '"' => some '"'
  | '\\' => some '\\'
  | '/' => some '/'
  | 'b' => some '\x08'
  | 'f' => some '\x0c'
  | 'n' => some '\n'
  | 'r' => some '\r'
  | 't' => some '\t'
  | _ => none

/-- Read the rest of a string after some of its bytes, which are kept in reverse. -/
def string (before : Bytes) : Nat → Reader String
  | 0 => fail "Unterminated string"
  | limit + 1 => do
      let character ← next
      if character = '"' then return textOf before.reverse
      if (← get).isEmpty then fail "Unterminated string"
      if character.toNat < 0x20 then fail "Control character in string"
      if character ≠ '\\' then string (UInt8.ofNat character.toNat :: before) limit
      else
        let mark ← next
        if mark = 'u' then
          let read ← characters limit (← codeUnit)
          string ((bytes (String.ofList read)).reverse ++ before) limit
        else
          match escaped? mark with
          | some plain => string (UInt8.ofNat plain.toNat :: before) limit
          | none => fail "Invalid escape sequence"

/-! ### Values -/

/-- The characters of numbers. -/
def isNumberCharacter (character : Char) : Bool :=
  character.isDigit || ['e', 'E', '+', '-', '.'].contains character

/-- Read the rest of a number after its first character. -/
def number (first : Char) : Reader Json := do
  let isPart := fun byte : UInt8 => isNumberCharacter (Char.ofNat byte.toNat)
  let rest ← get
  set (rest.dropWhile isPart)
  let others := (rest.takeWhile isPart).map fun byte => Char.ofNat byte.toNat
  match numberOf? (first :: others) with
  | some value => return value
  | none => fail "Invalid JSON value (number?)"

mutual

/-- Read a value. Nothing is nested more deeply than `limit`, and nothing is longer. -/
def value : Nat → Reader Json
  | 0 => fail "Unexpected EOF"
  | limit + 1 => do
      skipBlanks
      if (← get).isEmpty then fail "Unexpected EOF"
      match ← next with
      | 'n' => do
          expect "Invalid JSON value (null?)" "ull".toList
          return .null
      | 't' => do
          expect "Invalid JSON value (true?)" "rue".toList
          return .bool true
      | 'f' => do
          expect "Invalid JSON value (false?)" "alse".toList
          return .bool false
      | '"' => do return .string (← string [] (limit + 1))
      | '[' => do
          skipBlanks
          if (← peek) = ']' then do
            let _ ← next
            return .array []
          else items [] limit
      | '\x7b' => do
          skipBlanks
          if (← peek) = '\x7d' then do
            let _ ← next
            return .object []
          else entries [] limit
      | first =>
          if isNumberCharacter first then number first else fail "Invalid JSON value"

/-- Read the rest of an array after some of its items, which are kept in reverse. -/
def items (before : List Json) : Nat → Reader Json
  | 0 => fail "Unexpected EOF"
  | limit + 1 => do
      let item ← value limit
      skipBlanks
      match ← next with
      | ',' => do
          skipBlanks
          items (item :: before) limit
      | ']' => return .array (item :: before).reverse
      | _ => fail "Expected , or ] after array element"

/-- Read the rest of an object after some of its entries, which are kept in reverse. The last value
of a repeated key counts. -/
def entries (before : List (String × Json)) : Nat → Reader Json
  | 0 => fail "Unexpected EOF"
  | limit + 1 => do
      if (← next) ≠ '"' then fail "Expected object key"
      let key ← string [] limit
      skipBlanks
      if (← next) ≠ ':' then fail "Expected : after object key"
      skipBlanks
      let value ← value limit
      let read := (key, value) :: before.filter fun entry => entry.1 != key
      skipBlanks
      match ← next with
      | ',' => do
          skipBlanks
          entries read limit
      | '\x7d' => return .object read.reverse
      | _ => fail "Expected , or \x7d after object property"

end

/-- Read a value that is the whole text. -/
def document (limit : Nat) : Reader Json := do
  let value ← value limit
  skipBlanks
  if (← get).isEmpty then return value else fail "Text after end of document"

end Reader

/-! ### Texts -/

/-- The wording of an error after some bytes of a text: the line, counted from one, the number of
bytes before it in the line, and that in the text. -/
def describeError (text : Bytes) (offset : Nat) (message : String) : String :=
  let before := text.take offset
  let column := (before.reverse.takeWhile fun byte => byte != lineFeed).length
  "[" ++ toString (before.count lineFeed + 1) ++ ":" ++ toString column ++ ", byte=" ++
    toString offset ++ "]: " ++ message

/-- Read a JSON text. -/
def parse (text : Bytes) : Except String Json :=
  match decodeUtf8 text.length 0 text with
  | .error offset => .error (describeError text offset "Invalid UTF-8 sequence")
  | .ok _ =>
      match Reader.document (text.length + 1) text with
      | .ok (document, _) => .ok document
      | .error failure =>
          .error (describeError text (text.length - failure.left) failure.message)

end ClassOrder.Json
