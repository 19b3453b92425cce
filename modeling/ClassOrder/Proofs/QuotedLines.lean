/-
Module: ClassOrder.Proofs.QuotedLines
Purpose: What a message shows below its heading: when a source line is quoted, and which of its
  columns are underlined. Columns are kept in 16 bits, lines in 32 bits, and the underline is
  computed in unsigned 32 bits; here it is described in plain integers, and nothing wraps as long
  as the number of bytes in the line fits 32 bits.
Main exports: Location.Quotes, Location.quotedLine?_eq_some_iff, Location.caretStart,
  Location.caretStop, Location.underline_eq, CaretAt, Location.caretAt_caretLine_iff,
  Console.textAbove, Console.render_of_quotes, Console.render_quotes_and_underlines
-/
import ClassOrder.Console
import Mathlib.Data.List.Basic

namespace ClassOrder

/-- Writing blanks in pieces loses none. -/
theorem blanks_eq_replicate (count : Nat) :
    blanks count = List.replicate count blank := by
  fun_induction blanks count with
  | case1 count fits => rfl
  | case2 count exceeds inductionHypothesis =>
      have pieces : blankPiece + (count - blankPiece) = count := by omega
      rw [inductionHypothesis, List.replicate_append_replicate, pieces]

/-- Numbers that fit 16 bits are kept in 32 bits as they are. -/
theorem toNat_ofInt_of_lt {value : Int} (low : 0 ≤ value) (high : value < 32768) :
    ((UInt32.ofInt value).toNat : Int) = value := by
  have inRange : value % 2 ^ 32 = value := Int.emod_eq_of_lt low (by omega)
  have small : value.toNat < 2 ^ 32 := by omega
  rw [UInt32.ofInt, inRange, UInt32.toNat_ofNat', Nat.mod_eq_of_lt small]
  omega

/-- A text has a caret in a column. Columns count from one. -/
def CaretAt (text : Bytes) (column : Int) : Prop :=
  1 ≤ column ∧ text[(column - 1).toNat]? = some caret

namespace Location

/-! ### Quoted lines -/

/-- A location leads to a line of its source: the source has a path to show, and the start line,
counted from one, is there. -/
def Quotes (location : Location) (line : Bytes) : Prop :=
  ∃ source, location.source = some source ∧ source.path ≠ "" ∧ 0 < location.startLine.toInt ∧
    (lines source.text)[(location.startLine.toInt - 1).toNat]? = some line

theorem quotedLine?_eq_some_iff (location : Location) (line : Bytes) :
    location.quotedLine? = some line ↔ location.Quotes line := by
  have positive : 0 < location.startLine ↔ 0 < location.startLine.toInt := by
    rw [Int32.lt_iff_toInt_lt, Int32.toInt_zero]
  rw [quotedLine?, namedSource?, Quotes]
  cases location.source with
  | none => simp
  | some source =>
      by_cases unnamed : source.path = ""
      · simp [Option.filter, unnamed]
      · simp [Option.filter, unnamed, positive, Source.line?]

/-! ### The underlined columns -/

/-- The number of columns before the underline. -/
def caretStart (location : Location) : Int :=
  max location.startColumn.toInt 1 - 1

/-- The number of columns up to the end of the underline, below a line of the given length. -/
def caretStop (location : Location) (length : Int) : Int :=
  if location.startLine.toInt < location.endLine.toInt then length
  else if 0 < location.endColumn.toInt then min length (location.endColumn.toInt - 1)
  else min length (location.caretStart + 1)

/-- Blanks up to the start, and carets from there to the end. -/
def caretLine (location : Location) (length : Int) : Bytes :=
  List.replicate location.caretStart.toNat blank ++
    List.replicate (max 0 (location.caretStop length - location.caretStart)).toNat caret

theorem toNat_underlineStart (location : Location) :
    (location.underlineStart.toNat : Int) = location.caretStart := by
  have high := location.startColumn.toInt_lt
  rw [underlineStart, caretStart]
  split
  · next positive =>
      rw [Int16.lt_iff_toInt_lt, Int16.toInt_zero] at positive
      rw [toNat_ofInt_of_lt (by omega) (by omega)]
      omega
  · next notPositive =>
      rw [Int16.lt_iff_toInt_lt, Int16.toInt_zero] at notPositive
      rw [UInt32.toNat_zero]
      omega

theorem caretStart_bounds (location : Location) :
    0 ≤ location.caretStart ∧ location.caretStart < 32768 := by
  have high := location.startColumn.toInt_lt
  rw [caretStart]
  omega

/-- The end that is meant before the line's length is looked at fits 16 bits, so neither the
subtraction nor the addition wraps. -/
theorem toNat_underlineEnd (location : Location) {line : Bytes}
    (short : line.length < UInt32.size) :
    ((location.underlineEnd line).toNat : Int) = location.caretStop line.length := by
  have meant :
      ((if 0 < location.endColumn then UInt32.ofInt (location.endColumn.toInt - 1)
        else location.underlineStart + 1).toNat : Int) =
        if 0 < location.endColumn.toInt then location.endColumn.toInt - 1
        else location.caretStart + 1 := by
    have positive : 0 < location.endColumn ↔ 0 < location.endColumn.toInt := by
      rw [Int16.lt_iff_toInt_lt, Int16.toInt_zero]
    have high := location.endColumn.toInt_lt
    have start := location.toNat_underlineStart
    have startHigh := location.caretStart_bounds.2
    rw [if_congr positive rfl rfl]
    split
    · exact toNat_ofInt_of_lt (by omega) (by omega)
    · rw [UInt32.toNat_add, UInt32.toNat_one, Nat.mod_eq_of_lt (by omega)]
      omega
  have runsOn : location.startLine < location.endLine ↔
      location.startLine.toInt < location.endLine.toInt := Int32.lt_iff_toInt_lt
  have kept : (UInt32.ofNat line.length).toNat = line.length := by
    rw [UInt32.toNat_ofNat', Nat.mod_eq_of_lt short]
  rw [underlineEnd, caretStop]
  simp only [runsOn]
  generalize (if 0 < location.endColumn then UInt32.ofInt (location.endColumn.toInt - 1)
    else location.underlineStart + 1) = stop at meant ⊢
  split_ifs at meant ⊢ <;> omega

/-- Below a line of fewer than `UInt32.size` bytes stand the carets that the integers say. -/
theorem underline_eq (location : Location) {line : Bytes}
    (short : line.length < UInt32.size) :
    location.underline line = location.caretLine line.length ++ [lineFeed] := by
  have start := location.toNat_underlineStart
  have stop := location.toNat_underlineEnd short
  have blankCount : location.underlineStart.toNat = location.caretStart.toNat := by omega
  have caretCount : (location.underlineEnd line).toNat - location.underlineStart.toNat =
      (max 0 (location.caretStop line.length - location.caretStart)).toNat := by omega
  simp only [underline, caretCount]
  rw [blankCount, blanks_eq_replicate, caretLine]

theorem getElem?_blanks_carets_iff (blankCount caretCount position : Nat) :
    (List.replicate blankCount blank ++ List.replicate caretCount caret)[position]? = some caret ↔
      blankCount ≤ position ∧ position < blankCount + caretCount := by
  rw [List.getElem?_append, List.length_replicate]
  split
  · next isBlank =>
      have beforeCarets : ¬ blankCount ≤ position := Nat.not_le_of_gt isBlank
      simp [isBlank, beforeCarets, blank, caret]
  · next notBlank =>
      simp [List.getElem?_replicate]
      omega

/-- The carets stand in the columns from the start to the end. -/
theorem caretAt_caretLine_iff (location : Location) (length column : Int) :
    CaretAt (location.caretLine length) column ↔
      location.caretStart < column ∧ column ≤ location.caretStop length := by
  have startLow := location.caretStart_bounds.1
  rw [CaretAt, caretLine, getElem?_blanks_carets_iff]
  omega

theorem caretStop_le (location : Location) (length : Int) :
    location.caretStop length ≤ length := by
  rw [caretStop]
  split_ifs <;> omega

end Location

/-! ### Messages -/

namespace Console

/-- The heading of a message: its first line, with the style that it is shown in. -/
def heading (console : Console) (message : Message) : Bytes :=
  let style := console.style? message
  style.getD [] ++ bytes message.place ++ bytes message.severityWord ++
    blanks console.margin.toNat ++ bytes message.text ++ [lineFeed] ++
    if style.isSome then resetSequence else []

/-- Two blanks for each level, as far as 32 bits hold them. -/
theorem toNat_margin (console : Console) :
    console.margin.toNat = (2 * console.indent % UInt32.size).toNat := by
  have high : 2 * console.indent % UInt32.size < UInt32.size := Int.emod_lt_of_pos _ (by decide)
  have fits : (2 * console.indent % UInt32.size).toNat < UInt32.size := by
    rw [UInt32.size] at high ⊢
    omega
  exact UInt32.toNat_ofNat_of_lt' fits

variable {console : Console} {message : Message}

theorem render_eq_heading_append (shown : message.severity ≠ .off) :
    console.render message =
      console.heading message ++ renderQuote (console.style? message).isSome message := by
  rw [render, if_neg shown, heading]

theorem heading_of_plain (plain : console.isTerminal = false) (message : Message) :
    console.heading message =
      bytes message.place ++ bytes message.severityWord ++
        List.replicate (2 * console.indent % UInt32.size).toNat blank ++
        bytes message.text ++ [lineFeed] := by
  simp [heading, style?, plain, blanks_eq_replicate, toNat_margin]

theorem renderQuote_of_quotes {line : Bytes} (quotes : message.location.Quotes line)
    (isStyled : Bool) :
    renderQuote isStyled message =
      (if isStyled then styleSequence true none else []) ++ line ++ [lineFeed] ++
        (if isStyled then resetSequence else []) ++ message.location.underline line := by
  rw [renderQuote, (message.location.quotedLine?_eq_some_iff line).mpr quotes]

theorem renderQuote_of_not_quotes (unquoted : ¬ ∃ line, message.location.Quotes line)
    (isStyled : Bool) : renderQuote isStyled message = [] := by
  cases found : message.location.quotedLine? with
  | none => rw [renderQuote, found]
  | some line =>
      exact absurd ⟨line, (message.location.quotedLine?_eq_some_iff line).mp found⟩ unquoted

/-- What a message shows before the underline: its heading, and the quoted line in bold where the
heading has a style. -/
def textAbove (console : Console) (message : Message) (line : Bytes) : Bytes :=
  let isStyled := (console.style? message).isSome
  console.heading message ++ (if isStyled then styleSequence true none else []) ++ line ++
    [lineFeed] ++ if isStyled then resetSequence else []

/-- On any console, a quoted line of fewer than `UInt32.size` bytes has its carets below it. -/
theorem render_of_quotes {line : Bytes} (shown : message.severity ≠ .off)
    (quotes : message.location.Quotes line) (short : line.length < UInt32.size) :
    console.render message =
      console.textAbove message line ++ message.location.caretLine line.length ++ [lineFeed] := by
  rw [render_eq_heading_append shown, renderQuote_of_quotes quotes,
    message.location.underline_eq short, textAbove]
  simp only [List.append_assoc]

/-- What a message shows below its heading, where the output is no terminal. A source line is
quoted exactly when the location has a source with a path, and the source has the start line. Below
it stands a line of blanks and carets; if the quoted line has fewer than `UInt32.size` bytes, its
blanks and carets are those that the columns say as integers. So no caret stands past the end of the
quoted line, a range within it has carets under its own columns, and a range that runs on to a later
line has carets from its start to the end of the quoted one. -/
theorem render_quotes_and_underlines (plain : console.isTerminal = false)
    (shown : message.severity ≠ .off) :
    let location := message.location
    let heading : Bytes :=
      bytes message.place ++ bytes message.severityWord ++
        List.replicate (2 * console.indent % UInt32.size).toNat 0x20 ++
        bytes message.text ++ [0x0A]
    (console.render message = heading ↔ ¬ ∃ line, location.Quotes line) ∧
      ∀ line, location.Quotes line → ∃ below,
        console.render message = heading ++ line ++ [0x0A] ++ below ++ [0x0A] ∧
        (line.length < UInt32.size →
          let length : Int := line.length
          let start : Int := max location.startColumn.toInt 1 - 1
          let stop : Int :=
            if location.startLine.toInt < location.endLine.toInt then length
            else if 0 < location.endColumn.toInt then min length (location.endColumn.toInt - 1)
            else min length (start + 1)
          below =
              List.replicate start.toNat 0x20 ++
                List.replicate (max 0 (stop - start)).toNat 0x5E ∧
            (∀ column, CaretAt below column → column ≤ length) ∧
            (location.endLine.toInt ≤ location.startLine.toInt → 1 ≤ location.startColumn.toInt →
              location.startColumn.toInt < location.endColumn.toInt →
                location.endColumn.toInt ≤ length + 1 →
                  ∀ column, CaretAt below column ↔
                    location.startColumn.toInt ≤ column ∧
                      column ≤ location.endColumn.toInt - 1) ∧
            (location.startLine.toInt < location.endLine.toInt → 1 ≤ location.startColumn.toInt →
              location.startColumn.toInt ≤ length →
                ∀ column, CaretAt below column ↔
                  location.startColumn.toInt ≤ column ∧ column ≤ length)) := by
  intro location heading
  have rendered : console.render message = heading ++ renderQuote false message := by
    rw [render_eq_heading_append shown, heading_of_plain plain]
    simp [style?, plain, heading, blank, lineFeed]
  have quoted : ∀ line, location.Quotes line → ∃ below,
      console.render message = heading ++ line ++ [0x0A] ++ below ++ [0x0A] ∧
        location.underline line = below ++ [lineFeed] := by
    intro line quotes
    refine ⟨_, ?_, rfl⟩
    rw [rendered, renderQuote_of_quotes quotes]
    simp [location, Location.underline, lineFeed]
  refine ⟨⟨?_, ?_⟩, ?_⟩
  · rintro nothingBelow ⟨line, quotes⟩
    obtain ⟨below, shownBelow, _⟩ := quoted line quotes
    have sameLength := congrArg List.length (shownBelow.symm.trans nothingBelow)
    simp only [List.length_append, List.length_singleton] at sameLength
    omega
  · intro unquoted
    rw [rendered, renderQuote_of_not_quotes unquoted, List.append_nil]
  · intro line quotes
    obtain ⟨below, shownBelow, underlined⟩ := quoted line quotes
    refine ⟨below, shownBelow, ?_⟩
    intro short length start stop
    have caretLine : below = location.caretLine length :=
      List.append_cancel_right (underlined.symm.trans (location.underline_eq short))
    have caretAt := location.caretAt_caretLine_iff length
    rw [← caretLine] at caretAt
    refine ⟨caretLine, ?_, ?_, ?_⟩
    · intro column isCaret
      have beforeStop := ((caretAt column).mp isCaret).2
      exact Int.le_trans beforeStop (location.caretStop_le length)
    · intro sameLine startGiven nonEmpty within column
      rw [caretAt, Location.caretStart, Location.caretStop, if_neg (by omega), if_pos (by omega)]
      omega
    · intro runsOn startGiven within column
      rw [caretAt, Location.caretStart, Location.caretStop, if_pos runsOn]
      omega

/-- Two columns on the second line of a source. -/
theorem render_quotes_and_underlines_name :
    let source : Source := { path := "menu.dart", text := bytes "int width;\nint up;\n" }
    let location : Location :=
      { source := some source, startLine := 2, startColumn := 5, endLine := 2, endColumn := 7 }
    let message : Message := { severity := .warning, location := location, text := "late" }
    let console : Console := {}
    console.isTerminal = false ∧ message.severity ≠ .off ∧ location.Quotes (bytes "int up;") ∧
      console.render message = bytes "menu.dart:2:5: warning: late\nint up;\n    ^^\n" := by
  intro source location message console
  have plain : console.isTerminal = false := rfl
  have shown : message.severity ≠ .off := by decide
  have quotes : location.Quotes (bytes "int up;") :=
    ⟨source, rfl, by decide, by decide, by decide⟩
  refine ⟨plain, shown, quotes, ?_⟩
  obtain ⟨below, rendered, underlined⟩ :=
    (render_quotes_and_underlines plain shown).2 (bytes "int up;") quotes
  rw [rendered, (underlined (by decide)).1]
  decide +kernel

end Console

end ClassOrder
