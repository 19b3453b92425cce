/-
Module: ClassOrder.Proofs.VerboseRuns
Purpose: What being verbose changes. A quiet and a verbose run have the same things to say; the
  verbose one adds its remarks and sets the issues in below them. Nothing else depends on it: not
  the exit code, not the other messages or their order, not the level at which the console is left,
  and of the counts only that of status messages.
Main exports: Message.shownAt, Console.render_eq_shownAt, Notice.count_foldl_message,
  Workspace.messages_of_remarks, Workspace.verbose_adds_remarks
-/
import ClassOrder.Proofs.Counting
import ClassOrder.Proofs.QuotedLines
import ClassOrder.Proofs.RunReports

namespace ClassOrder

/-! ### Messages at a level -/

/-- A message as a console at the given level shows it: on a terminal the style of its severity, the
place, the word for the severity, two blanks for each level as far as 32 bits hold them, the text,
a line feed and the return to the default style; below it the quoted line. Silenced messages show
nothing. -/
def Message.shownAt (isTerminal : Bool) (level : Int) (message : Message) : Bytes :=
  if message.severity = .off then []
  else
    let style := if isTerminal then message.severity.styleSequence? else none
    style.getD [] ++ bytes message.place ++ bytes message.severityWord ++
      List.replicate (2 * level % UInt32.size).toNat 0x20 ++ bytes message.text ++ [0x0A] ++
      (if style.isSome then resetSequence else []) ++ Console.renderQuote style.isSome message

theorem Console.render_eq_shownAt (console : Console) (message : Message) :
    console.render message = message.shownAt console.isTerminal console.indent := by
  rw [render, Message.shownAt, blanks_eq_replicate, toNat_margin]
  rfl

/-! ### The counts that remarks add -/

namespace Notice

/-- Remarks count as status messages. -/
theorem countP_remarks (notices : List Notice) (severity : Severity) :
    (notices.filter isRemark).countP
        (fun notice => notice.message.severity = severity ∧ severity ≠ .off) =
      if severity = .status then (notices.filter isRemark).length else 0 := by
  have isStatus : ∀ notice ∈ notices.filter isRemark, notice.message.severity = .status := by
    intro notice isMember
    have kept := (List.mem_filter.mp isMember).2
    cases notice with
    | remark text => rfl
    | failure text => cases kept
    | issue message => cases kept
  split
  · next ofStatus =>
      rw [List.countP_eq_length]
      intro notice isMember
      simp [isStatus notice isMember, ofStatus]
  · next ofOther =>
      rw [List.countP_eq_zero]
      intro notice isMember
      simp [isStatus notice isMember, Ne.symm ofOther]

/-- Showing all notices counts what the notices without the remarks count, and the remarks. -/
theorem count_foldl_message (notices : List Notice) (console : Console) (severity : Severity) :
    ((notices.map message).foldl Console.report console).tally.count severity =
      (((notices.filter fun notice => !notice.isRemark).map message).foldl
          Console.report console).tally.count severity +
        if severity = .status then (notices.filter isRemark).length else 0 := by
  rw [Console.count_foldl_report, Console.count_foldl_report, List.countP_map, List.countP_map,
    List.countP_eq_countP_filter_add notices _ isRemark]
  have remarks := countP_remarks notices severity
  simp only [Function.comp_def] at remarks ⊢
  omega

end Notice

/-! ### Which remarks there are -/

theorem Notice.filter_isRemark_map {α : Type} {notice : α → Notice}
    (noRemark : ∀ item, (notice item).isRemark = false) (items : List α) :
    (items.map notice).filter isRemark = [] := by
  rw [List.filter_eq_nil_iff]
  intro shown isNotice
  obtain ⟨item, _, rfl⟩ := List.mem_map.mp isNotice
  rw [noRemark]
  exact Bool.false_ne_true

theorem Rule.filter_isRemark_unitNotices (rule : Rule) (unit : SourceUnit) :
    (rule.unitNotices unit).filter Notice.isRemark = [.remark ("Checking " ++ unit.path)] := by
  have noRemark : ((rule.issueMessages unit).map Notice.issue).filter Notice.isRemark = [] :=
    Notice.filter_isRemark_map (fun _ => rfl) _
  rw [unitNotices, List.filter_cons_of_pos rfl, noRemark]

namespace Workspace

/-- A run that can be configured names the units that it checks and sums up; any other makes no
remark. -/
theorem messages_of_remarks (workspace : Workspace) (options : Options) :
    ((workspace.notices options).filter Notice.isRemark).map Notice.message =
      match workspace.ruleFor options with
      | .error _ => []
      | .ok rule =>
          (if rule.severity = .off then []
            else (workspace.units options.inputs).map fun unit =>
              .status ("Checking " ++ unit.path)) ++
            [summary ((workspace.units options.inputs).flatMap rule.issueMessages).length
              (workspace.units options.inputs).length] := by
  have noFailure : ∀ texts : List String,
      (texts.map Notice.failure).filter Notice.isRemark = [] :=
    Notice.filter_isRemark_map fun _ => rfl
  rw [notices]
  cases workspace.ruleFor options with
  | error texts => exact congrArg (List.map Notice.message) (noFailure texts)
  | ok rule =>
      simp only [Rule.notices, List.filter_append, noFailure, List.nil_append, List.map_append]
      congr 1
      split
      · rfl
      · rw [List.filter_flatMap, List.map_flatMap]
        simp only [Rule.filter_isRemark_unitNotices, List.map_cons, List.map_nil]
        exact List.map_eq_flatMap.symm

/-! ### Two runs -/

theorem reports_eq_notices (workspace : Workspace) (options : Options) :
    workspace.reports options =
      ((workspace.notices options).filter fun notice =>
        options.verbose || !notice.isRemark).map Notice.message := by
  rw [reports, (workspace.steps_show options).reported, Notice.map_message_lines]

/-- Runs with the same rule and the same inputs load the same of them, and if they count as many
errors they have the same exit code. -/
theorem audit_congr {workspace : Workspace} {options others : Options}
    (sameRule : workspace.ruleFor options = workspace.ruleFor others)
    (sameInputs : options.inputs = others.inputs) {console : Console}
    (sameErrors : (workspace.audit options console).console.errors =
      (workspace.audit others console).console.errors) :
    (workspace.audit options console).exitCode = (workspace.audit others console).exitCode ∧
      (workspace.audit options console).loaded = (workspace.audit others console).loaded := by
  revert sameErrors
  rw [audit, audit, sameRule, sameInputs]
  cases workspace.ruleFor others with
  | error texts => exact fun _ => ⟨rfl, rfl⟩
  | ok rule =>
      intro sameErrors
      exact ⟨congrArg (fun errors => if errors = 0 then 0 else 1) sameErrors, rfl⟩

/-- The text of a verbose run: issues stand one level in, below the remarks. -/
theorem audit_text_of_verbose (workspace : Workspace) (options : Options)
    (verbose : options.verbose = true) (console : Console) :
    (workspace.audit options console).text =
      (workspace.notices options).flatMap fun notice =>
        match notice with
        | .issue message => message.shownAt console.isTerminal (console.indent + 1)
        | .failure text => (Message.error text).shownAt console.isTerminal console.indent
        | .remark text => (Message.status text).shownAt console.isTerminal console.indent := by
  rw [(workspace.audit_shows_lines options console).1, verbose, Notice.lines, List.flatMap_map]
  simp only [Bool.true_or, List.filter_true]
  congr 1
  funext notice
  rw [Console.renderLine, Console.render_eq_shownAt, Console.shift]
  cases notice with
  | issue message => rfl
  | failure text => exact congrArg (Message.shownAt _ · _) (Int.add_zero _)
  | remark text => exact congrArg (Message.shownAt _ · _) (Int.add_zero _)

/-- Being verbose is a matter of looks. A quiet and a verbose run that start alike and differ in
nothing else have the same exit code and load the same inputs. Both report what there is to say, in
the same order, except that the quiet run leaves out the remarks: one for each unit that is checked
and a summary, and none if the run cannot be configured. The verbose run shows issues one level
further in than the console stood, and all else at that level, where the quiet run shows everything;
both leave the console at that level. The counts differ by the number of remarks, for status
messages, and not at all for any other severity. -/
theorem verbose_adds_remarks (workspace : Workspace) (options : Options) (console : Console) :
    let quiet := workspace.audit { options with verbose := false } console
    let loud := workspace.audit { options with verbose := true } console
    let notices := workspace.notices options
    let remarks := (notices.filter Notice.isRemark).map Notice.message
    (loud.exitCode = quiet.exitCode ∧ loud.loaded = quiet.loaded) ∧
      (workspace.reports { options with verbose := true } = notices.map Notice.message ∧
        workspace.reports { options with verbose := false } =
          (notices.filter fun notice => !notice.isRemark).map Notice.message ∧
        remarks =
          match workspace.ruleFor options with
          | .error _ => []
          | .ok rule =>
              (if rule.severity = .off then []
                else (workspace.units options.inputs).map fun unit =>
                  .status ("Checking " ++ unit.path)) ++
                [summary ((workspace.units options.inputs).flatMap rule.issueMessages).length
                  (workspace.units options.inputs).length]) ∧
      (loud.text =
          notices.flatMap (fun notice =>
            match notice with
            | .issue message => message.shownAt console.isTerminal (console.indent + 1)
            | .failure text => (Message.error text).shownAt console.isTerminal console.indent
            | .remark text => (Message.status text).shownAt console.isTerminal console.indent) ∧
        quiet.text =
          (workspace.reports { options with verbose := false }).flatMap
            (Message.shownAt console.isTerminal console.indent)) ∧
      (loud.console.indent = console.indent ∧ quiet.console.indent = console.indent) ∧
      ∀ severity, loud.console.tally.count severity =
        quiet.console.tally.count severity +
          if severity = .status then remarks.length else 0 := by
  intro quiet loud notices remarks
  have loudReports : workspace.reports { options with verbose := true } =
      notices.map Notice.message := by
    rw [reports_eq_notices]
    simp only [Bool.true_or, List.filter_true]
    rfl
  have quietReports : workspace.reports { options with verbose := false } =
      (notices.filter fun notice => !notice.isRemark).map Notice.message :=
    reports_eq_notices workspace _
  have loudConsole :=
    (workspace.audit_shows_lines { options with verbose := true } console).2
  obtain ⟨quietText, quietConsole⟩ :=
    workspace.audit_shows_reports { options with verbose := false } rfl console
  have counts : ∀ severity, loud.console.tally.count severity =
      quiet.console.tally.count severity +
        if severity = .status then remarks.length else 0 := by
    intro severity
    rw [loudConsole, quietConsole, loudReports, quietReports, List.length_map]
    exact Notice.count_foldl_message notices console severity
  have sameErrors : loud.console.errors = quiet.console.errors :=
    congrArg₂ (· + ·) (counts .error) (counts .fatal)
  have sameRule : workspace.ruleFor { options with verbose := true } =
      workspace.ruleFor { options with verbose := false } := rfl
  refine ⟨audit_congr sameRule rfl sameErrors, ⟨loudReports, quietReports, ?_⟩, ⟨?_, ?_⟩,
    ⟨?_, ?_⟩, counts⟩
  · exact workspace.messages_of_remarks options
  · exact workspace.audit_text_of_verbose { options with verbose := true } rfl console
  · rw [quietText, funext console.render_eq_shownAt]
  · rw [loudConsole, Console.indent_foldl_report]
  · rw [quietConsole, Console.indent_foldl_report]

end Workspace

end ClassOrder
