/-
Module: ClassOrder.Proofs.VisiblePositions
Purpose: Whether the place of a manifest's member is underlined when a message quotes it. Reading a
  manifest puts the start for an end that is left out, and the console has its own rule for an end
  column that is not known; the two meet here. A place on a line that is there has a caret exactly
  when its end is given and lies further on, or its end column is given as zero. Without an end
  there is none.
Main exports: Manifest.Range.Fits, Manifest.fits_of_decoded, Manifest.Range.EndsAfterStart,
  Manifest.Range.EndsFurtherOn, Manifest.Range.caretAt_caretLine_toLocation_iff,
  Manifest.underlined_iff_end_is_further_on, Manifest.place_without_end_is_not_underlined
-/
import ClassOrder.Proofs.ManifestFormat
import ClassOrder.Proofs.QuotedLines

namespace ClassOrder

namespace Manifest

/-! ### Places that were read -/

/-- The columns of a place are in range. -/
structure Range.Fits (range : Range) : Prop where
  column : isColumn range.column = true
  endColumn : ∀ column, range.endColumn = some column → isColumn column = true

theorem fits_rangeOf {place : Json} (isPlace : IsPlace place) : (rangeOf place).Fits where
  column := by
    have inRange := ((forall_readsAsColumn_iff _).mp isPlace.column).2
    simp only [rangeOf]
    cases found : place.part? "column" with
    | none => rfl
    | some part =>
        rw [found] at inRange
        exact inRange
  endColumn := by
    intro column given
    have inRange := ((forall_readsAsColumn_iff _).mp isPlace.endColumn).2
    have isEndColumn : (place.given? "endColumn").map (fun part => Int32.ofInt part.number) =
        some column := given
    rw [isEndColumn] at inRange
    exact inRange

/-- All places of members in a manifest that is accepted have their columns in range. -/
theorem fits_of_decoded {document : Json} {manifest : Manifest}
    (accepted : decode document = .ok manifest) {body : Body} (isBody : body ∈ manifest.bodies)
    {declaration : Declaration} (isDeclared : declaration ∈ body.declarations) {range : Range}
    (isPlaced : declaration.range = some range) : range.Fits := by
  obtain ⟨isManifest, rfl⟩ := (reads_manifest document manifest).mp accepted
  obtain ⟨type, isType, rfl⟩ := List.mem_map.mp isBody
  have isClass : IsClass type := isManifest.types.part.items type isType
  obtain ⟨entry, isListed, rfl⟩ := List.mem_map.mp isDeclared
  have isEntry : IsEntry entry := isClass.members.part.items entry isListed
  obtain ⟨place, isLocation, rfl⟩ := Option.map_eq_some_iff.mp isPlaced
  exact fits_rangeOf (isEntry.location place isLocation)

theorem ofText_eq_ok_iff (library : Library) (text : Bytes) (manifest : Manifest) :
    ofText library text = .ok manifest ↔
      ∃ document, library.readJson text = .ok document ∧ decode document = .ok manifest := by
  rw [ofText]
  cases library.readJson text with
  | error error => simp
  | ok document => cases decoded : decode document <;> simp [Except.mapError, decoded]

/-! ### The underline of a place -/

namespace Range

variable {range : Range} (source : Source)

theorem caretStart_toLocation (fits : range.Fits) (columnGiven : 1 ≤ range.column.toInt) :
    (range.toLocation source).caretStart = range.column.toInt - 1 := by
  have kept : (range.toLocation source).startColumn.toInt = range.column.toInt :=
    toInt_toInt16_of_isColumn fits.column
  rw [Location.caretStart, kept]
  omega

theorem toInt_endColumn_toLocation (fits : range.Fits) :
    (range.toLocation source).endColumn.toInt = (range.endColumn.getD range.column).toInt := by
  apply toInt_toInt16_of_isColumn
  cases given : range.endColumn with
  | none => exact fits.column
  | some column => exact fits.endColumn column given

/-- The end of a place lies after its start. An end that is left out is the start. -/
def EndsAfterStart (range : Range) : Prop :=
  range.line.toInt < (range.endLine.getD range.line).toInt ∨
    (range.endLine.getD range.line).toInt = range.line.toInt ∧
      range.column.toInt < (range.endColumn.getD range.column).toInt

/-- The end of a place is given on a later line, or its column is given further on or as zero. This
is what the console looks at: it does not tell an end on an earlier line from one on the same
line, and takes a column of zero for one that is not known. -/
def EndsFurtherOn (range : Range) : Prop :=
  (∃ endLine, range.endLine = some endLine ∧ range.line.toInt < endLine.toInt) ∨
    ∃ endColumn, range.endColumn = some endColumn ∧
      (endColumn.toInt = 0 ∨ range.column.toInt < endColumn.toInt)

theorem EndsAfterStart.endsFurtherOn (after : range.EndsAfterStart) : range.EndsFurtherOn := by
  rcases after with laterLine | ⟨_, laterColumn⟩
  · cases given : range.endLine with
    | none => simp [given] at laterLine
    | some endLine => exact .inl ⟨endLine, given, by simpa [given] using laterLine⟩
  · cases given : range.endColumn with
    | none => simp [given] at laterColumn
    | some endColumn => exact .inr ⟨endColumn, given, .inr (by simpa [given] using laterColumn)⟩

theorem not_endsFurtherOn_of_no_end (noEndLine : range.endLine = none)
    (noEndColumn : range.endColumn = none) : ¬ range.EndsFurtherOn := by
  rintro (⟨endLine, given, _⟩ | ⟨endColumn, given, _⟩)
  · exact Option.some_ne_none endLine (given.symm.trans noEndLine)
  · exact Option.some_ne_none endColumn (given.symm.trans noEndColumn)

/-- Where a place starts within the line, some of its columns are left to underline exactly when
its end is further on. -/
theorem caretStart_lt_caretStop_iff (fits : range.Fits) {length : Int}
    (columnGiven : 1 ≤ range.column.toInt) (inLine : range.column.toInt ≤ length) :
    (range.toLocation source).caretStart < (range.toLocation source).caretStop length ↔
      range.EndsFurtherOn := by
  have start := caretStart_toLocation source fits columnGiven
  have stop := toInt_endColumn_toLocation source fits
  have runsOn : (range.toLocation source).startLine.toInt <
      (range.toLocation source).endLine.toInt ↔
        ∃ endLine, range.endLine = some endLine ∧ range.line.toInt < endLine.toInt := by
    cases given : range.endLine <;> simp [toLocation, given]
  rw [Location.caretStop, start, stop, if_congr runsOn rfl rfl, EndsFurtherOn]
  by_cases later : ∃ endLine, range.endLine = some endLine ∧ range.line.toInt < endLine.toInt
  · rw [if_pos later]
    exact ⟨fun _ => .inl later, fun _ => by omega⟩
  · rw [if_neg later, or_iff_right later]
    cases given : range.endColumn with
    | none =>
        -- The end column is the start column here, and that one is known.
        rw [Option.getD_none, if_pos (by omega)]
        simp only [reduceCtorEq, false_and, exists_false, iff_false]
        omega
    | some endColumn =>
        have low := ((isColumn_iff endColumn).mp (fits.endColumn endColumn given)).1
        simp only [Option.getD_some, Option.some.injEq, exists_eq_left']
        split <;> omega

theorem quotes_toLocation {source : Source} {line : Bytes} (isNamed : source.path ≠ "")
    (lineGiven : 1 ≤ range.line.toInt)
    (isLine : source.line? (range.line.toInt - 1).toNat = some line) :
    (range.toLocation source).Quotes line :=
  ⟨source, rfl, isNamed, lineGiven, isLine⟩

/-- A caret stands below the quoted line exactly when the end of the place is further on. -/
theorem caretAt_caretLine_toLocation_iff (fits : range.Fits) {length : Int}
    (columnGiven : 1 ≤ range.column.toInt) (inLine : range.column.toInt ≤ length) :
    (∃ column, CaretAt ((range.toLocation source).caretLine length) column) ↔
      range.EndsFurtherOn := by
  rw [← caretStart_lt_caretStop_iff source fits columnGiven inLine]
  constructor
  · rintro ⟨column, isCaret⟩
    rw [Location.caretAt_caretLine_iff] at isCaret
    omega
  · intro notEmpty
    refine ⟨(range.toLocation source).caretStop length, ?_⟩
    rw [Location.caretAt_caretLine_iff]
    omega

end Range

/-! ### Messages about placed members -/

theorem parse_of_ofText {library : Library} {text : Bytes} {manifest : Manifest}
    (read : ofText library text = .ok manifest) (files : Files) (baseDirectory : String) :
    parse library files baseDirectory text =
      .ok (manifest.expand
        ((files (manifest.sourcePath library baseDirectory)).toOption.getD [])) := by
  rw [parse, read]
  rfl

theorem mem_members_expand {body : Body} {declaration : Declaration}
    (isDeclared : declaration ∈ body.declarations) {source : Source} {member : Member}
    (isMember : member ∈ declaration.members source) : member ∈ (body.expand source).members :=
  List.mem_flatMap.mpr ⟨declaration, isDeclared, isMember⟩

theorem Declaration.location_of_mem_members {declaration : Declaration} {range : Range}
    (isPlaced : declaration.range = some range) {source : Source} {member : Member}
    (isMember : member ∈ declaration.members source) :
    member.location = range.toLocation source := by
  obtain ⟨name, _, rfl⟩ := List.mem_map.mp isMember
  rw [Declaration.member, isPlaced]
  rfl

/-- A message at a member of a manifest that was read. The member's place starts within a line of
its source. The message quotes that line, and has a caret below it exactly when the end of the place
is further on. So every place that ends after its start is underlined, and a place without an end
is not. -/
theorem underlined_iff_end_is_further_on {library : Library} {text : Bytes} {manifest : Manifest}
    (read : ofText library text = .ok manifest) {body : Body} (isBody : body ∈ manifest.bodies)
    {declaration : Declaration} (isDeclared : declaration ∈ body.declarations) {range : Range}
    (isPlaced : declaration.range = some range) (files : Files) (baseDirectory : String) :
    let source : Source :=
      { path := manifest.source
        text := (files (manifest.sourcePath library baseDirectory)).toOption.getD [] }
    ∃ unit, parse library files baseDirectory text = .ok unit ∧ body.expand source ∈ unit.bodies ∧
      ∀ member ∈ declaration.members source, member ∈ (body.expand source).members ∧
        ∀ line, source.path ≠ "" → 1 ≤ range.line.toInt →
          source.line? (range.line.toInt - 1).toNat = some line →
          line.length < UInt32.size → 1 ≤ range.column.toInt →
          range.column.toInt ≤ line.length →
            ∀ (console : Console) (message : Message), message.severity ≠ .off →
              message.location = member.location →
                ∃ below,
                  console.render message = console.textAbove message line ++ below ++ [0x0A] ∧
                  ((∃ column, CaretAt below column) ↔ range.EndsFurtherOn) ∧
                  (range.EndsAfterStart → ∃ column, CaretAt below column) ∧
                  (range.endLine = none → range.endColumn = none →
                    ¬ ∃ column, CaretAt below column) := by
  intro source
  obtain ⟨document, _, accepted⟩ := (ofText_eq_ok_iff library text manifest).mp read
  have fits : range.Fits := fits_of_decoded accepted isBody isDeclared isPlaced
  refine ⟨_, parse_of_ofText read files baseDirectory, List.mem_map_of_mem isBody, ?_⟩
  intro member isMember
  refine ⟨mem_members_expand isDeclared isMember, ?_⟩
  intro line isNamed lineGiven isLine short columnGiven inLine console message shown atMember
  have place : message.location = range.toLocation source :=
    atMember.trans (Declaration.location_of_mem_members isPlaced isMember)
  have quotes : message.location.Quotes line :=
    place ▸ Range.quotes_toLocation isNamed lineGiven isLine
  have underlinedIff :
      (∃ column, CaretAt (message.location.caretLine line.length) column) ↔
        range.EndsFurtherOn := by
    rw [place]
    exact Range.caretAt_caretLine_toLocation_iff source fits columnGiven (mod_cast inLine)
  refine ⟨_, Console.render_of_quotes shown quotes short, underlinedIff, ?_, ?_⟩
  · intro after
    exact underlinedIff.mpr after.endsFurtherOn
  · intro noEndLine noEndColumn
    rw [underlinedIff]
    exact Range.not_endsFurtherOn_of_no_end noEndLine noEndColumn

/-- A field whose name is placed from one column to another has carets below its name. -/
theorem underlined_iff_end_is_further_on_name :
    let text := bytes (
      "\x7b\"source\": \"menu.dart\", \"types\": [\x7b\"members\": [" ++
        "\x7b\"kind\": \"field\", \"name\": \"up\", \"location\": " ++
          "\x7b\"line\": 1, \"column\": 5, \"endColumn\": 7\x7d\x7d]\x7d]\x7d")
    let range : Range := { line := 1, column := 5, endColumn := some 7 }
    let declaration : Declaration := { kind := .field, name := some "up", range := some range }
    let manifest : Manifest :=
      { source := "menu.dart", bodies := [{ declarations := [declaration] }] }
    let source : Source := { path := "menu.dart", text := bytes "int up;\n" }
    let message : Message :=
      { severity := .warning, location := (declaration.member source "up").location,
        text := "late" }
    ofText .standard text = .ok manifest ∧ range.EndsAfterStart ∧
      source.line? 0 = some (bytes "int up;") ∧
      ∃ below column, CaretAt below column ∧
        ({} : Console).render message =
          bytes "menu.dart:1:5: warning: late\nint up;\n" ++ below ++ [0x0A] := by
  intro text range declaration manifest source message
  have read : ofText .standard text = .ok manifest := by decide +kernel
  have after : range.EndsAfterStart := .inr ⟨rfl, by decide⟩
  have isLine : source.line? 0 = some (bytes "int up;") := by decide
  refine ⟨read, after, isLine, ?_⟩
  obtain ⟨_, _, _, members⟩ :=
    underlined_iff_end_is_further_on read (List.mem_singleton_self _) (List.mem_singleton_self _)
      rfl (fun _ => .ok source.text) ""
  obtain ⟨_, shows⟩ := members (declaration.member source "up") (List.mem_singleton_self _)
  obtain ⟨below, rendered, _, underlined, _⟩ :=
    shows (bytes "int up;") (by decide) (by decide) isLine (by decide) (by decide) (by decide) {}
      message (by decide) rfl
  obtain ⟨column, isCaret⟩ := underlined after
  refine ⟨below, column, isCaret, rendered.trans ?_⟩
  have above : ({} : Console).textAbove message (bytes "int up;") =
      bytes "menu.dart:1:5: warning: late\nint up;\n" := by decide +kernel
  rw [above]

/-- A field that is placed by a line and a column only. The line is there, and the column is one of
its columns, but nothing is underlined. -/
theorem place_without_end_is_not_underlined :
    let text := bytes (
      "\x7b\"source\": \"menu.dart\", \"types\": [\x7b\"members\": [" ++
        "\x7b\"kind\": \"field\", \"name\": \"up\", \"location\": " ++
          "\x7b\"line\": 1, \"column\": 5\x7d\x7d]\x7d]\x7d")
    let files : Files := fun _ => .ok (bytes "int up;\n")
    let source : Source := { path := "menu.dart", text := bytes "int up;\n" }
    let location : Location :=
      { source := some source, startLine := 1, startColumn := 5, endLine := 1, endColumn := 5 }
    let message : Message := { severity := .warning, location := location, text := "late" }
    (parse .standard files "" text).map (fun unit => unit.bodies.map ClassBody.members) =
        .ok [[{ kind := .field, name := "up", location := location }]] ∧
      source.line? 0 = some (bytes "int up;") ∧
      ({} : Console).render message =
        bytes "menu.dart:1:5: warning: late\nint up;\n    \n" := by
  decide +kernel

end Manifest

end ClassOrder
