/-
Module: ClassOrder.Console
Purpose: How messages appear on a console. A message is one heading line, indented and on a
  terminal coloured, and below it the source line it is about with the range underlined. The
  console counts what it shows by severity.
Main exports: Tally, Console, Console.report, Console.errors, Console.render,
  Location.quotedLine?, Location.underline
-/
import ClassOrder.Message

namespace ClassOrder

/-! ### Counting messages -/

/-- The number of messages of each severity. -/
structure Tally where
  debug : Nat := 0
  status : Nat := 0
  info : Nat := 0
  warning : Nat := 0
  error : Nat := 0
  fatal : Nat := 0
  off : Nat := 0
deriving Repr, Inhabited, DecidableEq

namespace Tally

/-- The count for one severity. -/
def count (tally : Tally) : Severity → Nat
  | .debug => tally.debug
  | .status => tally.status
  | .info => tally.info
  | .warning => tally.warning
  | .error => tally.error
  | .fatal => tally.fatal
  | .off => tally.off

/-- Count one more message. -/
def add (tally : Tally) : Severity → Tally
  | .debug => { tally with debug := tally.debug + 1 }
  | .status => { tally with status := tally.status + 1 }
  | .info => { tally with info := tally.info + 1 }
  | .warning => { tally with warning := tally.warning + 1 }
  | .error => { tally with error := tally.error + 1 }
  | .fatal => { tally with fatal := tally.fatal + 1 }
  | .off => { tally with off := tally.off + 1 }

@[simp] theorem count_empty (severity : Severity) : ({} : Tally).count severity = 0 := by
  cases severity <;> rfl

/-- Counting a message changes the count of its own severity only. -/
theorem count_add (tally : Tally) (added severity : Severity) :
    (tally.add added).count severity =
      tally.count severity + if added = severity then 1 else 0 := by
  cases added <;> cases severity <;> rfl

end Tally

/-! ### Terminal styles -/

/-- The colours in use. -/
inductive Hue where
  | red
  | yellow
  | cyan
deriving Repr, DecidableEq

/-- The parameter that selects a colour in an escape sequence. -/
def Hue.parameter : Hue → String
  | red => ";31"
  | yellow => ";33"
  | cyan => ";36"

/-- The escape sequence that switches to a style: bold or plain, and a colour or no change of
colour. -/
def styleSequence (bold : Bool) (hue : Option Hue) : Bytes :=
  bytes ("\x1b[" ++ (if bold then "1" else "0") ++ (hue.map Hue.parameter).getD "" ++ "m")

/-- The escape sequence that returns to the default style. -/
def resetSequence : Bytes := styleSequence false none

/-- The style of a severity on a terminal. Debug messages keep the default style. -/
def Severity.styleSequence? : Severity → Option Bytes
  | debug | off => none
  | status => some (styleSequence false (some .cyan))
  | info => some (styleSequence true (some .cyan))
  | warning => some (styleSequence true (some .yellow))
  | error | fatal => some (styleSequence true (some .red))

/-! ### The quoted source line -/

/-- Blanks are written in pieces of at most this many. -/
def blankPiece : Nat := 64

/-- A text of the given number of blanks. -/
def blanks (count : Nat) : Bytes :=
  if count ≤ blankPiece then List.replicate count blank
  else List.replicate blankPiece blank ++ blanks (count - blankPiece)
termination_by count
decreasing_by simp only [blankPiece] at *; omega

namespace Location

/-- The source that a message names. A source with an empty path is not named. -/
def namedSource? (location : Location) : Option Source :=
  location.source.filter fun source => !source.path.isEmpty

/-- The source line that a message quotes: the start line of a location in a named source, if the
source has that line. -/
def quotedLine? (location : Location) : Option Bytes :=
  match location.namedSource? with
  | none => none
  | some source =>
      if 0 < location.startLine then source.line? (location.startLine.toInt - 1).toNat else none

/-- The zero-based column where underlining starts. An unknown start column counts as the
first. -/
def underlineStart (location : Location) : UInt32 :=
  if 0 < location.startColumn then UInt32.ofInt (location.startColumn.toInt - 1) else 0

/-- The zero-based column after the last underlined one. Without an end column a single column is
meant. A range that runs on to a later line, or past the end of the quoted one, stops at the
quoted line's last byte. -/
def underlineEnd (location : Location) (line : Bytes) : UInt32 :=
  let stop :=
    if 0 < location.endColumn then UInt32.ofInt (location.endColumn.toInt - 1)
    else location.underlineStart + 1
  if location.startLine < location.endLine ∨ line.length < stop.toNat then
    UInt32.ofNat line.length
  else stop

/-- The line of blanks and carets below a quoted source line. -/
def underline (location : Location) (line : Bytes) : Bytes :=
  let start := location.underlineStart.toNat
  let stop := (location.underlineEnd line).toNat
  blanks start ++ List.replicate (stop - start) caret ++ [lineFeed]

end Location

/-! ### The console -/

/-- What a console remembers between messages. -/
structure Console where
  tally : Tally := {}
  indent : Int := 0
  isTerminal : Bool := false
deriving Repr, Inhabited, DecidableEq

namespace Message

/-- The place that heads a message: the path of a named source, then line and column if the line
is known. -/
def place (message : Message) : String :=
  match message.location.namedSource? with
  | none => ""
  | some source =>
      source.path ++
        (if 0 < message.location.startLine then
          ":" ++ toString message.location.startLine.toInt ++
            ":" ++ toString message.location.startColumn.toInt
        else "") ++ ": "

/-- The word that names the severity of a message. Status messages have none. -/
def severityWord (message : Message) : String :=
  if message.severity = .status then "" else message.severity.name ++ ": "

end Message

namespace Console

/-- The number of errors shown, fatal ones included. -/
def errors (console : Console) : Nat :=
  console.tally.error + console.tally.fatal

/-- Count a message. Silenced messages are not counted. -/
def report (console : Console) (message : Message) : Console :=
  if message.severity = .off then console
  else { console with tally := console.tally.add message.severity }

/-- The style in which a message is shown; none where the output is not a terminal. -/
def style? (console : Console) (message : Message) : Option Bytes :=
  if console.isTerminal then message.severity.styleSequence? else none

/-- The quoted source line of a message and its underline, in bold where the heading has a
style. -/
def renderQuote (isStyled : Bool) (message : Message) : Bytes :=
  match message.location.quotedLine? with
  | none => []
  | some line =>
      (if isStyled then styleSequence true none else []) ++ line ++ [lineFeed] ++
        (if isStyled then resetSequence else []) ++ message.location.underline line

/-- The number of blanks that set in the text of a message: two for each level, as an unsigned
number of 32 bits. A console that stands before the first level has almost all of them. -/
def margin (console : Console) : UInt32 :=
  UInt32.ofInt (2 * console.indent)

/-- The text that shows a message. Silenced messages show nothing. -/
def render (console : Console) (message : Message) : Bytes :=
  if message.severity = .off then []
  else
    let style := console.style? message
    style.getD [] ++ bytes message.place ++ bytes message.severityWord ++
      blanks console.margin.toNat ++ bytes message.text ++ [lineFeed] ++
      (if style.isSome then resetSequence else []) ++ renderQuote style.isSome message

end Console

end ClassOrder
