/-
Module: ClassOrder.Proofs.RunReports
Purpose: The messages of a whole run, one by one and in order. Loading and checking are two passes
  over lists of different length; what they report is told from the inputs alone. A quiet run
  reports one error for each bad input and then the issues of each good one, so a bad input never
  touches what is said about the others. A verbose run ends by stating how many there were.
Main exports: Notice, Notice.lines, Rule.issueMessages, Workspace.notices, Workspace.steps,
  Workspace.reports, Workspace.steps_show, Workspace.inputError?, Workspace.inputUnit?,
  Workspace.audit_reports
-/
import ClassOrder.Audit
import ClassOrder.Proofs.ScriptLines

namespace ClassOrder

/-! ### Notices -/

/-- Something that a run has to say. -/
inductive Notice where
  /-- An error of the configuration or of an input. -/
  | failure (text : String)
  /-- A note on progress, for verbose runs only. -/
  | remark (text : String)
  /-- An issue of a unit. -/
  | issue (message : Message)

namespace Notice

/-- The message that shows a notice. -/
def message : Notice → Message
  | failure text => .error text
  | remark text => .status text
  | issue message => message

/-- Whether only verbose runs show a notice. -/
def isRemark : Notice → Bool
  | remark _ => true
  | failure _ | issue _ => false

/-- How far in a notice stands. Issues stand below the remark that names their unit. -/
def depth (verbose : Bool) : Notice → Int
  | issue _ => Console.scopeDepth verbose
  | failure _ | remark _ => 0

/-- The lines that show notices. -/
def lines (verbose : Bool) (notices : List Notice) : List Line :=
  (notices.filter fun notice => verbose || !notice.isRemark).map fun notice =>
    { depth := notice.depth verbose, message := notice.message }

theorem map_message_lines (verbose : Bool) (notices : List Notice) :
    (lines verbose notices).map Line.message =
      (notices.filter fun notice => verbose || !notice.isRemark).map message := by
  rw [lines, List.map_map]
  rfl

theorem lines_append (verbose : Bool) (first second : List Notice) :
    lines verbose (first ++ second) = lines verbose first ++ lines verbose second := by
  rw [lines, List.filter_append, List.map_append, lines, lines]

theorem lines_flatMap {α : Type} (verbose : Bool) (notices : α → List Notice) (items : List α) :
    lines verbose (items.flatMap notices) =
      items.flatMap fun item => lines verbose (notices item) := by
  simp only [lines, List.filter_flatMap, List.map_flatMap]

/-- Notices that are not remarks are shown by every run. -/
theorem lines_map {α : Type} (verbose : Bool) {notice : α → Notice}
    (noRemark : ∀ item, (notice item).isRemark = false) (items : List α) :
    lines verbose (items.map notice) =
      items.map fun item =>
        { depth := (notice item).depth verbose, message := (notice item).message } := by
  have keepsAll : (items.map notice).filter (fun notice => verbose || !notice.isRemark) =
      items.map notice := by
    apply List.filter_eq_self.mpr
    intro shown isNotice
    obtain ⟨item, _, rfl⟩ := List.mem_map.mp isNotice
    rw [noRemark, Bool.not_false, Bool.or_true]
  rw [lines, keepsAll, List.map_map]
  rfl

theorem lines_failures (verbose : Bool) (texts : List String) :
    lines verbose (texts.map failure) = texts.map fun text => { message := .error text } :=
  lines_map verbose (fun _ => rfl) texts

theorem lines_issues (verbose : Bool) (messages : List Message) :
    lines verbose (messages.map issue) =
      messages.map fun message => { depth := Console.scopeDepth verbose, message := message } :=
  lines_map verbose (fun _ => rfl) messages

/-- A remark is a line of its own, or none at all. -/
theorem shows_remark (verbose : Bool) (text : String) :
    Step.Shows (if verbose then [.report (.status text)] else [])
      (lines verbose [remark text]) := by
  cases verbose with
  | false => exact Step.Shows.nil
  | true => exact Step.Shows.report (.status text)

theorem shows_failures (verbose : Bool) (texts : List String) :
    Step.Shows (texts.map fun text => .report (.error text))
      (lines verbose (texts.map failure)) := by
  rw [lines_failures]
  exact Step.Shows.reports Message.error texts

end Notice

/-! ### What a run reports about units -/

namespace Rule

/-- Every issue of a rule is about the member of some verdict. -/
theorem exists_issueAbout_of_mem_issues {rule : Rule} {unit : SourceUnit} {issue : Issue}
    (found : issue ∈ rule.issues unit) :
    ∃ verdict message, issue = rule.issueAbout verdict message := by
  rw [issues] at found
  rcases List.mem_append.mp found with placement | sorting
  · obtain ⟨verdict, _, isIssue⟩ := List.mem_filterMap.mp placement
    rw [placementIssue?] at isIssue
    split at isIssue
    · obtain ⟨text, _, rfl⟩ := Option.map_eq_some_iff.mp isIssue
      exact ⟨verdict, text, rfl⟩
    · cases isIssue
  · split at sorting
    · obtain ⟨verdict, _, isIssue⟩ := List.mem_filterMap.mp sorting
      rw [sortIssue?] at isIssue
      split at isIssue
      · cases isIssue
        exact ⟨verdict, verdict.sortMessage, rfl⟩
      · cases isIssue
    · cases sorting

/-- The messages about the issues of a unit. A silenced rule has none. -/
def issueMessages (rule : Rule) (unit : SourceUnit) : List Message :=
  if rule.severity = .off then []
  else
    (rule.issues unit).map fun issue =>
      { severity := rule.severity
        location := issue.location
        text := issue.message ++ " [member-ordering]" }

theorem map_toMessage_issues (rule : Rule) (unit : SourceUnit) :
    (rule.issues unit).map Issue.toMessage =
      (rule.issues unit).map fun issue =>
        { severity := rule.severity
          location := issue.location
          text := issue.message ++ " [member-ordering]" } := by
  apply List.map_congr_left
  intro issue isIssue
  obtain ⟨verdict, message, rfl⟩ := exists_issueAbout_of_mem_issues isIssue
  simp only [Issue.toMessage, issueAbout, id, String.append_assoc]
  rfl

theorem issueMessages_of_ne_off {rule : Rule} (speaks : rule.severity ≠ .off)
    (unit : SourceUnit) : rule.issueMessages unit = (rule.issues unit).map Issue.toMessage := by
  rw [issueMessages, if_neg speaks, map_toMessage_issues]

/-- There are as many messages about units as issues that a run counts. -/
theorem length_flatMap_issueMessages (rule : Rule) (units : List SourceUnit) :
    (units.flatMap rule.issueMessages).length = (units.flatMap rule.reported).length := by
  have sameLength : ∀ unit, (rule.issueMessages unit).length = (rule.reported unit).length := by
    intro unit
    rw [issueMessages, reported]
    split
    · rfl
    · exact List.length_map _
  simp only [List.length_flatMap, sameLength]

/-- What there is to say about a unit that is checked. -/
def unitNotices (rule : Rule) (unit : SourceUnit) : List Notice :=
  .remark ("Checking " ++ unit.path) :: (rule.issueMessages unit).map .issue

theorem unitScript_shows {rule : Rule} (speaks : rule.severity ≠ .off) (verbose : Bool)
    (unit : SourceUnit) :
    Step.Shows (rule.unitScript verbose unit) (Notice.lines verbose (rule.unitNotices unit)) := by
  have heading := Notice.shows_remark verbose ("Checking " ++ unit.path)
  have inner := (Step.Shows.reports Issue.toMessage (rule.issues unit)).scope verbose
  have below : ((rule.issues unit).map fun issue => ({ message := issue.toMessage } : Line)).map
        (Line.deeper (Console.scopeDepth verbose)) =
      Notice.lines verbose ((rule.issueMessages unit).map .issue) := by
    rw [Notice.lines_issues, issueMessages_of_ne_off speaks, List.map_map, List.map_map]
    simp [Line.deeper, Function.comp_def]
  rw [below] at inner
  have whole := heading.append inner
  rwa [← Notice.lines_append] at whole

/-- What there is to say about units: a silenced rule does not look at them, but they are still
summed up. -/
def notices (rule : Rule) (units : List SourceUnit) : List Notice :=
  (if rule.severity = .off then [] else units.flatMap rule.unitNotices) ++
    [.remark (summary (units.flatMap rule.issueMessages).length units.length).text]

theorem messages_unitNotices (rule : Rule) (verbose : Bool) (unit : SourceUnit) :
    (Notice.lines verbose (rule.unitNotices unit)).map Line.message =
      (if verbose then [.status ("Checking " ++ unit.path)] else []) ++
        rule.issueMessages unit := by
  have issueLines := Notice.lines_issues verbose (rule.issueMessages unit)
  rw [unitNotices, ← List.singleton_append, Notice.lines_append, issueLines, List.map_append,
    List.map_map]
  cases verbose <;> simp [Notice.lines, Notice.isRemark, Notice.message, Function.comp_def]

/-- A quiet run says of units what their issues are. -/
theorem messages_notices_quiet (rule : Rule) (units : List SourceUnit) :
    (Notice.lines false (rule.notices units)).map Line.message =
      units.flatMap rule.issueMessages := by
  have noSummary : ∀ text, Notice.lines false [.remark text] = [] := fun _ => rfl
  rw [notices, Notice.lines_append, noSummary, List.append_nil]
  split
  · next silenced =>
      have noMessages : ∀ unit ∈ units, rule.issueMessages unit = [] := fun _ _ => if_pos silenced
      rw [List.flatMap_eq_nil_iff.mpr noMessages]
      rfl
  · rw [Notice.lines_flatMap, List.map_flatMap]
    simp [messages_unitNotices]

/-- A verbose run names each unit before its issues, and sums up at the end. -/
theorem messages_notices_verbose (rule : Rule) (units : List SourceUnit) :
    (Notice.lines true (rule.notices units)).map Line.message =
      (if rule.severity = .off then []
        else units.flatMap fun unit =>
          .status ("Checking " ++ unit.path) :: rule.issueMessages unit) ++
        [summary (units.flatMap rule.issueMessages).length units.length] := by
  rw [notices, Notice.lines_append, List.map_append]
  congr 1
  split
  · rfl
  · rw [Notice.lines_flatMap, List.map_flatMap]
    simp [messages_unitNotices]

end Rule

namespace Workspace

/-! ### The script of a run -/

/-- What a run has to say, in order: why it cannot be configured, or else the errors of its inputs
and then what there is to say about its units. Whether it is verbose makes no difference. -/
def notices (workspace : Workspace) (options : Options) : List Notice :=
  match workspace.ruleFor options with
  | .error texts => texts.map .failure
  | .ok rule =>
      (options.inputs.filterMap workspace.fetchError?).map .failure ++
        rule.notices (workspace.units options.inputs)

/-- A configured run shows what it has to say. -/
theorem script_shows (workspace : Workspace) (options : Options) (rule : Rule) :
    Step.Shows (workspace.script options rule)
      (Notice.lines options.verbose
        ((options.inputs.filterMap workspace.fetchError?).map .failure ++
          rule.notices (workspace.units options.inputs))) := by
  have errors := Notice.shows_failures options.verbose
    (options.inputs.filterMap workspace.fetchError?)
  have checks : Step.Shows
      (if rule.severity = .off then []
        else (workspace.units options.inputs).flatMap (rule.unitScript options.verbose))
      (Notice.lines options.verbose
        (if rule.severity = .off then []
          else (workspace.units options.inputs).flatMap rule.unitNotices)) := by
    split
    · exact Step.Shows.nil
    · next speaks =>
        rw [Notice.lines_flatMap]
        exact Step.Shows.flatMap (Rule.unitScript_shows speaks options.verbose) _
  have closing := Notice.shows_remark options.verbose
    (summary ((workspace.units options.inputs).flatMap rule.reported).length
      (workspace.units options.inputs).length).text
  rw [script, Rule.notices, Rule.length_flatMap_issueMessages, ← List.append_assoc,
    Notice.lines_append, Notice.lines_append]
  exact (errors.append checks).append closing

/-! ### Whole runs -/

/-- The steps of a whole run, whether or not it can be configured. -/
def steps (workspace : Workspace) (options : Options) : List Step :=
  match workspace.ruleFor options with
  | .error texts => texts.map fun text => .report (.error text)
  | .ok rule => workspace.script options rule

/-- The messages that a whole run reports, in order. -/
def reports (workspace : Workspace) (options : Options) : List Message :=
  Step.reportsAll (workspace.steps options)

/-- A run leaves the console and shows the text that playing its steps does. -/
theorem audit_plays_steps (workspace : Workspace) (options : Options) (console : Console) :
    (workspace.audit options console).console =
        Console.playAll (workspace.steps options) console ∧
      (workspace.audit options console).text =
        Console.textAll (workspace.steps options) console := by
  rw [audit, steps]
  cases workspace.ruleFor options <;> exact ⟨rfl, rfl⟩

/-- Every run shows what it has to say. -/
theorem steps_show (workspace : Workspace) (options : Options) :
    Step.Shows (workspace.steps options)
      (Notice.lines options.verbose (workspace.notices options)) := by
  rw [steps, notices]
  cases workspace.ruleFor options with
  | error texts => exact Notice.shows_failures options.verbose texts
  | ok rule => exact workspace.script_shows options rule

/-- The text of a run is that of its lines, and the console afterwards has counted its messages
and is otherwise as before. -/
theorem audit_shows_lines (workspace : Workspace) (options : Options) (console : Console) :
    (workspace.audit options console).text =
        (Notice.lines options.verbose (workspace.notices options)).flatMap console.renderLine ∧
      (workspace.audit options console).console =
        (workspace.reports options).foldl Console.report console := by
  have shows := workspace.steps_show options
  obtain ⟨played, shown⟩ := workspace.audit_plays_steps options console
  rw [played, shown, reports, shows.reported]
  exact ⟨shows.shown console, shows.counted console⟩

/-- The messages of a configured run are the errors of its inputs and those about its units. -/
theorem reports_of_configured {workspace : Workspace} {options : Options} {rule : Rule}
    (configured : workspace.ruleFor options = .ok rule) :
    workspace.reports options =
      (options.inputs.filterMap workspace.fetchError?).map Message.error ++
        (Notice.lines options.verbose (rule.notices (workspace.units options.inputs))).map
          Line.message := by
  rw [reports, (workspace.steps_show options).reported, notices, configured]
  rw [Notice.lines_append, List.map_append, Notice.lines_failures, List.map_map]
  rfl

/-- The lines of a quiet run all stand at the level where it starts, so it shows its messages
there. -/
theorem audit_shows_reports (workspace : Workspace) (options : Options)
    (quiet : options.verbose = false) (console : Console) :
    (workspace.audit options console).text =
        (workspace.reports options).flatMap console.render ∧
      (workspace.audit options console).console =
        (workspace.reports options).foldl Console.report console := by
  obtain ⟨shown, counted⟩ := workspace.audit_shows_lines options console
  refine ⟨?_, counted⟩
  have atLevel : ∀ notice : Notice, notice.depth false = 0 := by
    intro notice
    cases notice <;> rfl
  rw [shown, reports, (workspace.steps_show options).reported, quiet, Notice.map_message_lines,
    Notice.lines, List.flatMap_map, List.flatMap_map]
  simp only [Console.renderLine, atLevel, Console.shift_zero]

/-- A verbose run names each unit before its issues, and ends with a summary. -/
theorem reports_of_verbose {workspace : Workspace} {options : Options} {rule : Rule}
    (configured : workspace.ruleFor options = .ok rule) (verbose : options.verbose = true) :
    workspace.reports options =
      (options.inputs.filterMap workspace.fetchError?).map Message.error ++
        (if rule.severity = .off then []
          else (workspace.units options.inputs).flatMap fun unit =>
            .status ("Checking " ++ unit.path) :: rule.issueMessages unit) ++
        [summary ((workspace.units options.inputs).flatMap rule.issueMessages).length
          (workspace.units options.inputs).length] := by
  rw [reports_of_configured configured, verbose, Rule.messages_notices_verbose,
    List.append_assoc]

/-! ### Inputs on disk -/

/-- Surroundings that consist of files, with a test of its own for whether an input is there. -/
def onDisk (library : Library) (files : Files) (isPresent : String → Bool) : Workspace :=
  { Workspace.ofFiles library files with isPresent := isPresent }

@[simp] theorem onDisk_library (library : Library) (files : Files) (isPresent : String → Bool) :
    (onDisk library files isPresent).library = library := rfl

@[simp] theorem onDisk_files (library : Library) (files : Files) (isPresent : String → Bool) :
    (onDisk library files isPresent).files = files := rfl

/-- The error about an input that is not there, or whose manifest is rejected. -/
def inputError? (library : Library) (files : Files) (isPresent : String → Bool)
    (input : String) : Option Message :=
  if isPresent input then
    match Manifest.load library files input with
    | .ok _ => none
    | .error error => some (.error (error.message library input))
  else some (.error ("Input file not found: " ++ input))

/-- The unit of an input that is there and whose manifest is accepted. -/
def inputUnit? (library : Library) (files : Files) (isPresent : String → Bool) (input : String) :
    Option SourceUnit :=
  if isPresent input then (Manifest.load library files input).toOption else none

theorem onDisk_fetch (library : Library) (files : Files) (isPresent : String → Bool)
    (input : String) :
    (onDisk library files isPresent).fetch input =
      if isPresent input then
        (Manifest.load library files input).mapError fun error => error.message library input
      else .error ("Input file not found: " ++ input) := rfl

theorem onDisk_fetchError? (library : Library) (files : Files) (isPresent : String → Bool)
    (input : String) :
    ((onDisk library files isPresent).fetchError? input).map Message.error =
      inputError? library files isPresent input := by
  rw [fetchError?, onDisk_fetch, inputError?]
  cases isPresent input with
  | false => rfl
  | true => cases Manifest.load library files input <;> rfl

theorem onDisk_inputErrors (library : Library) (files : Files) (isPresent : String → Bool)
    (inputs : List String) :
    (inputs.filterMap (onDisk library files isPresent).fetchError?).map Message.error =
      inputs.filterMap (inputError? library files isPresent) := by
  rw [List.map_filterMap]
  simp only [onDisk_fetchError?]

theorem onDisk_units (library : Library) (files : Files) (isPresent : String → Bool)
    (inputs : List String) :
    (onDisk library files isPresent).units inputs =
      inputs.filterMap (inputUnit? library files isPresent) := by
  apply List.filterMap_congr
  intro input _
  rw [onDisk_fetch, inputUnit?]
  cases isPresent input with
  | false => rfl
  | true => cases Manifest.load library files input <;> rfl

/-- A bad input: it is not there, or its manifest is rejected. -/
def IsBadInput (library : Library) (files : Files) (isPresent : String → Bool)
    (input : String) : Prop :=
  isPresent input = false ∨ ∃ error, Manifest.load library files input = .error error

theorem IsBadInput.inputUnit?_eq_none {library : Library} {files : Files}
    {isPresent : String → Bool} {input : String} (bad : IsBadInput library files isPresent input) :
    inputUnit? library files isPresent input = none := by
  rw [inputUnit?]
  rcases bad with absent | ⟨error, rejected⟩
  · rw [absent]
    rfl
  · rw [rejected]
    split <;> rfl

theorem IsBadInput.inputError?_eq_some {library : Library} {files : Files}
    {isPresent : String → Bool} {input : String} (bad : IsBadInput library files isPresent input) :
    ∃ text, inputError? library files isPresent input = some (.error text) := by
  rw [inputError?]
  rcases bad with absent | ⟨error, rejected⟩
  · rw [absent]
    exact ⟨_, rfl⟩
  · rw [rejected]
    split
    · exact ⟨_, rfl⟩
    · exact ⟨_, rfl⟩

/-- The messages of a quiet run over files. -/
theorem onDisk_reports_of_quiet {library : Library} {files : Files}
    {isPresent : String → Bool} {options : Options} {rule : Rule}
    (configured : (onDisk library files isPresent).ruleFor options = .ok rule)
    (quiet : options.verbose = false) (inputs : List String) :
    (onDisk library files isPresent).reports { options with inputs := inputs } =
      inputs.filterMap (inputError? library files isPresent) ++
        (inputs.filterMap (inputUnit? library files isPresent)).flatMap rule.issueMessages := by
  -- Configuration does not look at the inputs.
  have stillConfigured :
      (onDisk library files isPresent).ruleFor { options with inputs := inputs } = .ok rule :=
    configured
  rw [reports_of_configured stillConfigured, onDisk_inputErrors, onDisk_units]
  simp only [quiet, Rule.messages_notices_quiet]

/-- The messages of a configured run. A quiet run reports one error for each bad input, in the
order of the inputs, and then for each good input the issues of its unit, unless the rule is
silenced; it reports nothing else, and these are the messages that it shows and counts. One more
bad input therefore adds one error, wherever it stands, and leaves all that is said about the good
ones alone. A verbose run ends with the number of messages about issues and of good inputs. -/
theorem audit_reports {library : Library} {files : Files} {isPresent : String → Bool}
    {options : Options} {rule : Rule}
    (configured : (onDisk library files isPresent).ruleFor options = .ok rule)
    (console : Console) :
    let run := onDisk library files isPresent
    let errors := fun inputs : List String =>
      inputs.filterMap (inputError? library files isPresent)
    let units := fun inputs : List String => inputs.filterMap (inputUnit? library files isPresent)
    (options.verbose = false →
        (run.reports options =
            errors options.inputs ++ (units options.inputs).flatMap rule.issueMessages ∧
          (run.audit options console).text =
            (run.reports options).flatMap console.render ∧
          (run.audit options console).console =
            (run.reports options).foldl Console.report console) ∧
        ∀ (before : List String) (bad : String) (after : List String),
          IsBadInput library files isPresent bad → ∃ text,
            run.reports { options with inputs := before ++ bad :: after } =
                errors before ++ .error text :: errors after ++
                  (units (before ++ after)).flatMap rule.issueMessages ∧
              run.reports { options with inputs := before ++ after } =
                errors before ++ errors after ++
                  (units (before ++ after)).flatMap rule.issueMessages) ∧
      (options.verbose = true →
        run.reports options =
          errors options.inputs ++
            (if rule.severity = .off then []
              else (units options.inputs).flatMap fun unit =>
                .status ("Checking " ++ unit.path) :: rule.issueMessages unit) ++
            [.status
              (toString ((units options.inputs).flatMap rule.issueMessages).length ++
                " issue(s) found in " ++ toString (units options.inputs).length ++
                " file(s).")]) := by
  intro run errors units
  refine ⟨?_, ?_⟩
  · intro quiet
    refine ⟨⟨onDisk_reports_of_quiet configured quiet options.inputs, ?_⟩, ?_⟩
    · exact run.audit_shows_reports options quiet console
    · intro before bad after isBad
      obtain ⟨text, isError⟩ := isBad.inputError?_eq_some
      have noUnit := isBad.inputUnit?_eq_none
      refine ⟨text, ?_, ?_⟩
      · rw [onDisk_reports_of_quiet configured quiet]
        simp only [errors, units, List.filterMap_append, List.filterMap_cons_some isError,
          List.filterMap_cons_none noUnit]
      · rw [onDisk_reports_of_quiet configured quiet]
        simp only [errors, units, List.filterMap_append]
  · intro verbose
    rw [reports_of_verbose configured verbose, onDisk_inputErrors, onDisk_units]
    rfl

/-- A missing input and one whose members are in the wrong order. -/
theorem audit_reports_menu :
    let manifest :=
      "\x7b\"source\": \"menu.dart\", \"types\": [\x7b\"members\": [" ++
        "\x7b\"kind\": \"method\", \"name\": \"open\"\x7d, " ++
        "\x7b\"kind\": \"field\", \"name\": \"title\"\x7d]\x7d]\x7d"
    let files : Files := fun path =>
      if path = "menu.json" then .ok (bytes manifest) else .error .notFound
    let isPresent : String → Bool := fun input => input == "menu.json"
    let options : Options := { inputs := ["lost.json", "menu.json"] }
    (onDisk .standard files isPresent).ruleFor options = .ok { ranking := .standard } ∧
      options.verbose = false ∧
      ((onDisk .standard files isPresent).reports options).map
          (fun message => (message.severity, message.text)) =
        [(.error, "Input file not found: lost.json"),
          (.warning, "public_fields should be before public_methods [member-ordering]")] := by
  refine ⟨rfl, rfl, ?_⟩
  rw [((audit_reports rfl {}).1 rfl).1.1]
  decide +kernel

end Workspace

end ClassOrder
