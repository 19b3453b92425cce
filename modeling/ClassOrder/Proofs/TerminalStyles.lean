/-
Module: ClassOrder.Proofs.TerminalStyles
Purpose: Styles are decoration. A pass over a text from left to right cuts out every style sequence;
  what is left of a message is the same on a terminal as elsewhere, and the last sequence that a
  styled message sends is the one that returns to the default style. The texts in a message may
  themselves hold sequences, or parts of sequences: no part can be completed by what follows, as it
  is followed by a line feed or by the start of a whole sequence.
Main exports: styleTexts, Piece, pieces, unstyled, stylesIn, pieces_append, pieces_style_append,
  getLast?_stylesIn, Console.render_of_style, Console.exists_reset_at_end,
  Console.unstyled_render, Console.styles_are_decoration
-/
import ClassOrder.Proofs.QuotedLines

namespace ClassOrder

/-! ### Cutting a text into style sequences and bytes -/

/-- The byte that starts a style sequence. -/
def escape : UInt8 := 0x1B

/-- The style sequences: plain or bold, then no colour or one of three. -/
def styleTexts : List Bytes :=
  [0x30, 0x31].flatMap fun weight =>
    [[], bytes ";31", bytes ";33", bytes ";36"].map fun hue =>
      [escape, 0x5B, weight] ++ hue ++ [0x6D]

/-- The style sequence at the start of a text. -/
def leadingStyle? (text : Bytes) : Option Bytes :=
  styleTexts.find? fun style => style.isPrefixOf text

/-- What a pass over a text finds: a byte that is shown, or a style sequence. -/
inductive Piece where
  | shown (byte : UInt8)
  | style (text : Bytes)
deriving DecidableEq

/-- One pass over a text, from left to right. -/
def pieces : Bytes → List Piece
  | [] => []
  | byte :: rest =>
      match leadingStyle? (byte :: rest) with
      | some style => .style style :: pieces (rest.drop (style.length - 1))
      | none => .shown byte :: pieces rest
termination_by text => text.length
decreasing_by all_goals simp only [List.length_drop, List.length_cons]; omega

/-- A text without its style sequences. -/
def unstyled (text : Bytes) : Bytes :=
  (pieces text).filterMap fun
    | .shown byte => some byte
    | .style _ => none

/-- The style sequences in a text, in order. -/
def stylesIn (text : Bytes) : List Bytes :=
  (pieces text).filterMap fun
    | .shown _ => none
    | .style style => some style

/-! ### The sequence at the start of a text -/

theorem eq_of_prefix_of_mem_styleTexts :
    ∀ first ∈ styleTexts, ∀ second ∈ styleTexts, first <+: second → first = second := by
  decide

theorem mem_and_prefix_of_leadingStyle? {text style : Bytes}
    (found : leadingStyle? text = some style) : style ∈ styleTexts ∧ style <+: text := by
  rw [leadingStyle?] at found
  have leads : style.isPrefixOf text = true := by simpa using List.find?_some found
  exact ⟨List.mem_of_find?_eq_some found, List.isPrefixOf_iff_prefix.mp leads⟩

/-- No style sequence is the beginning of another one, so at most one stands at the start. -/
theorem leadingStyle?_eq_some_iff (text style : Bytes) :
    leadingStyle? text = some style ↔ style ∈ styleTexts ∧ style <+: text := by
  constructor
  · exact mem_and_prefix_of_leadingStyle?
  · rintro ⟨isStyle, leads⟩
    have isFound : (leadingStyle? text).isSome :=
      List.find?_isSome.mpr ⟨style, isStyle, List.isPrefixOf_iff_prefix.mpr leads⟩
    obtain ⟨other, found⟩ := Option.isSome_iff_exists.mp isFound
    obtain ⟨otherIsStyle, otherLeads⟩ := mem_and_prefix_of_leadingStyle? found
    have same : other = style := by
      rcases Nat.le_total other.length style.length with shorter | longer
      · exact eq_of_prefix_of_mem_styleTexts other otherIsStyle style isStyle
          (List.prefix_of_prefix_length_le otherLeads leads shorter)
      · exact (eq_of_prefix_of_mem_styleTexts style isStyle other otherIsStyle
          (List.prefix_of_prefix_length_le leads otherLeads longer)).symm
    rw [found, same]

/-- A byte that no style sequence has after its first one. Where such a byte follows, a
sequence that has begun cannot go on. -/
def IsBreak (byte : UInt8) : Prop :=
  ∀ style ∈ styleTexts, byte ∉ style.tail

theorem isBreak_lineFeed : IsBreak lineFeed := by
  unfold IsBreak
  decide

theorem isBreak_escape : IsBreak escape := by
  unfold IsBreak
  decide

theorem prefix_append_break_iff {next first : UInt8} {style before rest : Bytes}
    (isBreak : next ∉ style.tail) :
    style <+: first :: (before ++ next :: rest) ↔ style <+: first :: before := by
  constructor
  · intro leads
    rcases Nat.lt_or_ge (first :: before).length style.length with longer | shorter
    · -- The sequence would go on through the break.
      have upToBreak : first :: (before ++ [next]) <+: first :: (before ++ next :: rest) :=
        ⟨rest, by simp⟩
      have reachesBreak : (first :: (before ++ [next])).length ≤ style.length := by
        rw [List.length_cons, List.length_append, List.length_singleton]
        exact longer
      have throughBreak : first :: (before ++ [next]) <+: style :=
        List.prefix_of_prefix_length_le upToBreak leads reachesBreak
      obtain ⟨others, rfl⟩ := throughBreak
      simp at isBreak
    · exact List.prefix_of_prefix_length_le leads ⟨next :: rest, rfl⟩ shorter
  · intro leads
    exact leads.trans ⟨next :: rest, rfl⟩

theorem leadingStyle?_append_break {next : UInt8} (isBreak : IsBreak next) (first : UInt8)
    (before rest : Bytes) :
    leadingStyle? (first :: (before ++ next :: rest)) = leadingStyle? (first :: before) := by
  apply Option.ext
  intro style
  rw [leadingStyle?_eq_some_iff, leadingStyle?_eq_some_iff]
  apply and_congr_right
  intro isStyle
  exact prefix_append_break_iff (isBreak style isStyle)

/-! ### Passes over texts in parts -/

theorem pieces_of_leading {first : UInt8} {rest style : Bytes}
    (found : leadingStyle? (first :: rest) = some style) :
    pieces (first :: rest) = .style style :: pieces (rest.drop (style.length - 1)) := by
  rw [pieces, found]

theorem pieces_of_not_leading {first : UInt8} {rest : Bytes}
    (notFound : leadingStyle? (first :: rest) = none) :
    pieces (first :: rest) = .shown first :: pieces rest := by
  rw [pieces, notFound]

/-- A text may be cut in two before a break: the two parts are passed over on their own. -/
theorem pieces_append {next : UInt8} (isBreak : IsBreak next) (text rest : Bytes) :
    pieces (text ++ next :: rest) = pieces text ++ pieces (next :: rest) := by
  fun_induction pieces text with
  | case1 => rfl
  | case2 first before style found inductionHypothesis =>
      have stillFound : leadingStyle? (first :: (before ++ next :: rest)) = some style :=
        (leadingStyle?_append_break isBreak first before rest).trans found
      have within : style.length - 1 ≤ before.length :=
        Nat.sub_le_of_le_add (mem_and_prefix_of_leadingStyle? found).2.length_le
      rw [List.cons_append, pieces_of_leading stillFound,
        List.drop_append_of_le_length within, inductionHypothesis, List.cons_append]
  | case3 first before notFound inductionHypothesis =>
      have stillNotFound : leadingStyle? (first :: (before ++ next :: rest)) = none :=
        (leadingStyle?_append_break isBreak first before rest).trans notFound
      rw [List.cons_append, pieces_of_not_leading stillNotFound, inductionHypothesis,
        List.cons_append]

theorem exists_eq_escape_cons_of_mem_styleTexts {style : Bytes}
    (isStyle : style ∈ styleTexts) : ∃ others, style = escape :: others := by
  have startsAll : ∀ style ∈ styleTexts, style.head? = some escape := by decide
  obtain ⟨others, starts⟩ := List.head?_eq_some_iff.mp (startsAll style isStyle)
  exact ⟨others, starts⟩

theorem pieces_cons_of_ne_escape {first : UInt8} (notEscape : first ≠ escape) (rest : Bytes) :
    pieces (first :: rest) = .shown first :: pieces rest := by
  apply pieces_of_not_leading
  rw [Option.eq_none_iff_forall_ne_some]
  intro style found
  obtain ⟨isStyle, leads⟩ := mem_and_prefix_of_leadingStyle? found
  obtain ⟨others, rfl⟩ := exists_eq_escape_cons_of_mem_styleTexts isStyle
  exact notEscape (List.cons_prefix_cons.mp leads).1.symm

theorem pieces_of_no_escape {text : Bytes} (noEscape : escape ∉ text) :
    pieces text = text.map .shown := by
  induction text with
  | nil => rw [pieces, List.map_nil]
  | cons first rest inductionHypothesis =>
      obtain ⟨notEscape, restNoEscape⟩ := List.ne_and_not_mem_of_not_mem_cons noEscape
      rw [pieces_cons_of_ne_escape (Ne.symm notEscape), inductionHypothesis restNoEscape,
        List.map_cons]

/-- A line of text is passed over on its own. -/
theorem pieces_line_append (line rest : Bytes) :
    pieces (line ++ lineFeed :: rest) = pieces line ++ .shown lineFeed :: pieces rest := by
  rw [pieces_append isBreak_lineFeed, pieces_cons_of_ne_escape (by decide)]

/-- A style sequence is found wherever it is put, whatever stands before it. -/
theorem pieces_style_append {style : Bytes} (isStyle : style ∈ styleTexts)
    (before rest : Bytes) :
    pieces (before ++ (style ++ rest)) = pieces before ++ .style style :: pieces rest := by
  obtain ⟨others, rfl⟩ := exists_eq_escape_cons_of_mem_styleTexts isStyle
  have found : leadingStyle? (escape :: (others ++ rest)) = some (escape :: others) :=
    (leadingStyle?_eq_some_iff _ _).mpr ⟨isStyle, List.prefix_append _ _⟩
  rw [List.cons_append, pieces_append isBreak_escape, pieces_of_leading found,
    List.length_cons, Nat.add_sub_cancel, List.drop_left]

theorem unstyled_line_append (line rest : Bytes) :
    unstyled (line ++ lineFeed :: rest) = unstyled line ++ lineFeed :: unstyled rest := by
  simp [unstyled, pieces_line_append]

theorem unstyled_style_append {style : Bytes} (isStyle : style ∈ styleTexts)
    (rest : Bytes) : unstyled (style ++ rest) = unstyled rest := by
  have found := pieces_style_append isStyle [] rest
  rw [List.nil_append, pieces, List.nil_append] at found
  simp [unstyled, found]

/-- If no sequence begins after a style sequence, it is the last one. -/
theorem getLast?_stylesIn {style : Bytes} (isStyle : style ∈ styleTexts)
    (before : Bytes) {after : Bytes} (noEscape : escape ∉ after) :
    (stylesIn (before ++ (style ++ after))).getLast? = some style := by
  simp [stylesIn, pieces_style_append isStyle, pieces_of_no_escape noEscape, List.filterMap_map]

/-- A sequence that is broken off is shown, and the one that breaks it off is found. -/
example : stylesIn (bytes "\x1b[1\x1b[1;31mm") = [bytes "\x1b[1;31m"] := by cbv

/-! ### Messages -/

theorem styleSequence_mem_styleTexts (bold : Bool) (hue : Option Hue) :
    styleSequence bold hue ∈ styleTexts := by
  rcases hue with _ | _ | _ | _ <;> cases bold <;> decide

theorem resetSequence_mem_styleTexts : resetSequence ∈ styleTexts :=
  styleSequence_mem_styleTexts false none

namespace Severity

theorem isSome_styleSequence?_iff (severity : Severity) :
    severity.styleSequence?.isSome ↔ severity ∈ [status, info, warning, error, fatal] := by
  cases severity <;> simp [styleSequence?]

theorem mem_styleTexts_of_styleSequence? {severity : Severity} {style : Bytes}
    (isStyled : severity.styleSequence? = some style) : style ∈ styleTexts := by
  cases severity with
  | debug | off => simp [styleSequence?] at isStyled
  | status | info | warning | error | fatal =>
      obtain rfl := Option.some.inj isStyled
      exact styleSequence_mem_styleTexts _ _

end Severity

theorem Location.escape_notMem_underline (location : Location) (line : Bytes) :
    escape ∉ location.underline line := by
  simp [underline, blanks_eq_replicate, escape, blank, caret, lineFeed]

namespace Console

/-- The first line of a message without style and line feed. -/
def headline (console : Console) (message : Message) : Bytes :=
  bytes message.place ++ bytes message.severityWord ++ blanks console.margin.toNat ++
    bytes message.text

variable {console : Console} {message : Message}

theorem render_of_style {style : Bytes} (shown : message.severity ≠ .off)
    (isStyled : console.style? message = some style) :
    console.render message =
      style ++ (console.headline message ++
        lineFeed :: (resetSequence ++ renderQuote true message)) := by
  simp [render, shown, isStyled, headline]

theorem render_of_no_style (shown : message.severity ≠ .off)
    (notStyled : console.style? message = none) :
    console.render message =
      console.headline message ++ lineFeed :: renderQuote false message := by
  simp [render, shown, notStyled, headline]

theorem renderQuote_styled {line : Bytes}
    (quoted : message.location.quotedLine? = some line) :
    renderQuote true message =
      styleSequence true none ++ (line ++
        lineFeed :: (resetSequence ++ message.location.underline line)) := by
  simp [renderQuote, quoted]

theorem renderQuote_plain {line : Bytes}
    (quoted : message.location.quotedLine? = some line) :
    renderQuote false message =
      line ++ lineFeed :: message.location.underline line := by
  simp [renderQuote, quoted]

theorem unstyled_renderQuote (message : Message) :
    unstyled (renderQuote true message) = unstyled (renderQuote false message) := by
  cases quoted : message.location.quotedLine? with
  | none => rw [renderQuote, renderQuote, quoted]
  | some line =>
      rw [renderQuote_styled quoted, renderQuote_plain quoted,
        unstyled_style_append (styleSequence_mem_styleTexts true none), unstyled_line_append,
        unstyled_line_append, unstyled_style_append resetSequence_mem_styleTexts]

/-- The styled rendering of a message ends in a reset, after which only blanks, carets and line
feeds come. -/
theorem exists_reset_at_end {style : Bytes} (shown : message.severity ≠ .off)
    (isStyled : console.style? message = some style) :
    ∃ before after, console.render message = before ++ (resetSequence ++ after) ∧
      escape ∉ after := by
  cases quoted : message.location.quotedLine? with
  | none =>
      refine ⟨style ++ (console.headline message ++ [lineFeed]), [], ?_, List.not_mem_nil⟩
      rw [render_of_style shown isStyled]
      simp [renderQuote, quoted]
  | some line =>
      refine ⟨style ++ (console.headline message ++ lineFeed :: (resetSequence ++
        (styleSequence true none ++ (line ++ [lineFeed])))), _, ?_,
        message.location.escape_notMem_underline line⟩
      rw [render_of_style shown isStyled, renderQuote_styled quoted]
      simp

theorem unstyled_render (console : Console) (message : Message) :
    unstyled (({ console with isTerminal := true } : Console).render message) =
      unstyled (({ console with isTerminal := false } : Console).render message) := by
  by_cases silenced : message.severity = .off
  · rw [render, render, if_pos silenced, if_pos silenced]
  · have plain : ({ console with isTerminal := false } : Console).style? message = none := rfl
    rw [render_of_no_style silenced plain]
    cases styled : message.severity.styleSequence? with
    | none =>
        have unchanged : ({ console with isTerminal := true } : Console).style? message = none :=
          styled
        rw [render_of_no_style silenced unchanged]
        rfl
    | some style =>
        have coloured :
            ({ console with isTerminal := true } : Console).style? message = some style := styled
        rw [render_of_style silenced coloured,
          unstyled_style_append (Severity.mem_styleTexts_of_styleSequence? styled),
          unstyled_line_append, unstyled_line_append,
          unstyled_style_append resetSequence_mem_styleTexts, unstyled_renderQuote]
        rfl

theorem report_setTerminal (console : Console) (message : Message) (isTerminal : Bool) :
    ({ console with isTerminal := isTerminal } : Console).report message =
      { console.report message with isTerminal := isTerminal } := by
  rw [report, report]
  split <;> rfl

/-- Styles are decoration, and do not leak. A message on a terminal and elsewhere shows the same
text once the style sequences are cut out of both, and leaves the same counts and the same level. A
message that has a style ends with a reset: it is the last sequence, whatever sequences the message
and the quoted line hold, and not even the start of another one follows. -/
theorem styles_are_decoration (console : Console) (message : Message) :
    let terminal : Console := { console with isTerminal := true }
    let elsewhere : Console := { console with isTerminal := false }
    let on := terminal.render message
    let off := elsewhere.render message
    unstyled on = unstyled off ∧
      ((terminal.report message).tally = (elsewhere.report message).tally ∧
        (terminal.report message).indent = (elsewhere.report message).indent) ∧
      (message.severity ∈ [.status, .info, .warning, .error, .fatal] →
        (stylesIn on).getLast? = some [0x1B, 0x5B, 0x30, 0x6D] ∧
          ∃ before after, on = before ++ ([0x1B, 0x5B, 0x30, 0x6D] ++ after) ∧
            0x1B ∉ after) := by
  intro terminal elsewhere on off
  have counted : terminal.report message =
      { elsewhere.report message with isTerminal := true } :=
    elsewhere.report_setTerminal message true
  refine ⟨unstyled_render console message, ⟨by rw [counted], by rw [counted]⟩, ?_⟩
  intro hasStyle
  have shown : message.severity ≠ .off := by
    intro silenced
    simp [silenced] at hasStyle
  obtain ⟨style, styled⟩ :=
    Option.isSome_iff_exists.mp (message.severity.isSome_styleSequence?_iff.mpr hasStyle)
  have coloured : terminal.style? message = some style := styled
  obtain ⟨before, after, rendered, noEscape⟩ := exists_reset_at_end shown coloured
  refine ⟨?_, before, after, rendered, noEscape⟩
  simp only [on, rendered]
  exact getLast?_stylesIn resetSequence_mem_styleTexts before noEscape

/-- A message that breaks off in a sequence, about a line that changes the style and leaves it
so. -/
theorem styles_are_decoration_bold_line :
    let place : Location :=
      { source := some { path := "menu.dart", text := bytes "\x1b[1mint up;" }, startLine := 1,
        startColumn := 1, endLine := 1, endColumn := 4 }
    let message : Message := { severity := .error, location := place, text := "hot \x1b[1;3" }
    place.quotedLine? = some (bytes "\x1b[1mint up;") ∧
      (stylesIn (({ isTerminal := true } : Console).render message)).getLast? =
        some [0x1B, 0x5B, 0x30, 0x6D] := by
  intro place message
  have hasStyle : message.severity ∈ [.status, .info, .warning, .error, .fatal] := by decide
  exact ⟨by decide, ((styles_are_decoration {} message).2.2 hasStyle).1⟩

end Console

end ClassOrder
