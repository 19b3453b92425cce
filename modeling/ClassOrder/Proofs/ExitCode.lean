/-
Module: ClassOrder.Proofs.ExitCode
Purpose: When a run succeeds. The exit code is read off a count of errors that every part of the
  run adds to; here it is tied to what the options, the inputs and the issues are, through the
  messages of the run. A run that cannot be configured says so and never looks at an input.
Main exports: Workspace.reports_harmless_iff, Workspace.audit_exitCode_eq_zero_iff,
  Workspace.audit_refused, Workspace.audit_exitCode
-/
import ClassOrder.Proofs.Configuration
import ClassOrder.Proofs.Counting
import ClassOrder.Proofs.RunReports

namespace ClassOrder

/-! ### Harmless messages -/

/-- Remarks do no harm, so it makes no difference whether they are shown. -/
theorem Notice.lines_harmless_iff (verbose : Bool) (notices : List Notice) :
    (∀ message ∈ (lines verbose notices).map Line.message, message.severity.IsHarmless) ↔
      ∀ message ∈ (lines false notices).map Line.message, message.severity.IsHarmless := by
  rw [map_message_lines, map_message_lines, List.forall_mem_map, List.forall_mem_map]
  simp only [List.mem_filter, Bool.false_or]
  constructor
  · rintro harmless notice ⟨isNotice, noRemark⟩
    exact harmless notice ⟨isNotice, by rw [noRemark, Bool.or_true]⟩
  · rintro harmless notice ⟨isNotice, _⟩
    cases notice with
    | remark text => exact ⟨Severity.noConfusion, Severity.noConfusion⟩
    | failure text => exact harmless (.failure text) ⟨isNotice, rfl⟩
    | issue message => exact harmless (.issue message) ⟨isNotice, rfl⟩

/-- All issues of a unit have the severity of the rule. -/
theorem Rule.issueMessages_harmless_iff (rule : Rule) (unit : SourceUnit) :
    (∀ message ∈ rule.issueMessages unit, message.severity.IsHarmless) ↔
      rule.severity.IsHarmless ∨ rule.issues unit = [] := by
  rw [issueMessages]
  split
  · next silenced =>
      have harmless : rule.severity.IsHarmless := by
        rw [silenced]
        exact ⟨Severity.noConfusion, Severity.noConfusion⟩
      simp [harmless]
  · rw [List.forall_mem_map]
    cases rule.issues unit with
    | nil => simp
    | cons issue rest =>
        refine ⟨fun harmless => Or.inl (harmless issue List.mem_cons_self), ?_⟩
        intro harmless _ _
        exact harmless.resolve_right (List.cons_ne_nil issue rest)

namespace Workspace

/-! ### Inputs -/

theorem fetchError?_eq_none_iff (workspace : Workspace) (input : String) :
    workspace.fetchError? input = none ↔ ∃ unit, workspace.fetch input = .ok unit := by
  rw [fetchError?]
  cases workspace.fetch input <;> simp

theorem mem_units_iff (workspace : Workspace) (inputs : List String) (unit : SourceUnit) :
    unit ∈ workspace.units inputs ↔ ∃ input ∈ inputs, workspace.fetch input = .ok unit := by
  rw [units, List.mem_filterMap]
  refine exists_congr fun input => and_congr_right fun _ => ?_
  cases workspace.fetch input <;> simp [Except.toOption]

theorem inputErrors_harmless_iff (workspace : Workspace) (inputs : List String) :
    (∀ message ∈ (inputs.filterMap workspace.fetchError?).map Message.error,
        message.severity.IsHarmless) ↔
      ∀ input ∈ inputs, ∃ unit, workspace.fetch input = .ok unit := by
  constructor
  · intro harmless input isInput
    rw [← fetchError?_eq_none_iff, Option.eq_none_iff_forall_not_mem]
    intro text failed
    have reported : text ∈ inputs.filterMap workspace.fetchError? :=
      List.mem_filterMap.mpr ⟨input, isInput, failed⟩
    exact (harmless (Message.error text) (List.mem_map_of_mem reported)).1 rfl
  · intro fetched message isReported
    obtain ⟨text, isText, _⟩ := List.mem_map.mp isReported
    obtain ⟨input, isInput, failed⟩ := List.mem_filterMap.mp isText
    have succeeded := (workspace.fetchError?_eq_none_iff input).mpr (fetched input isInput)
    rw [succeeded] at failed
    cases failed

/-! ### The exit code of a run -/

/-- A configured run reports no error exactly when every input could be fetched, and the rule
either reports below the level of errors or found nothing. -/
theorem reports_harmless_iff {workspace : Workspace} {options : Options} {rule : Rule}
    (configured : workspace.ruleFor options = .ok rule) :
    (∀ message ∈ workspace.reports options, message.severity.IsHarmless) ↔
      (∀ input ∈ options.inputs, ∃ unit, workspace.fetch input = .ok unit) ∧
        (rule.severity.IsHarmless ∨
          ∀ unit ∈ workspace.units options.inputs, rule.issues unit = []) := by
  rw [reports_of_configured configured, List.forall_mem_append, inputErrors_harmless_iff,
    Notice.lines_harmless_iff, Rule.messages_notices_quiet, List.forall_mem_flatMap]
  simp only [Rule.issueMessages_harmless_iff]
  by_cases harmless : rule.severity.IsHarmless
  · simp [harmless]
  · simp [harmless]

theorem audit_exitCode_of_configured {workspace : Workspace} {options : Options} {rule : Rule}
    (configured : workspace.ruleFor options = .ok rule) (console : Console) :
    (workspace.audit options console).exitCode =
      if (workspace.audit options console).console.errors = 0 then 0 else 1 := by
  rw [audit, configured]

theorem audit_exitCode_eq_zero_or_one (workspace : Workspace) (options : Options)
    (console : Console) :
    (workspace.audit options console).exitCode = 0 ∨
      (workspace.audit options console).exitCode = 1 := by
  cases configured : workspace.ruleFor options with
  | error texts =>
      rw [audit, configured]
      exact Or.inr rfl
  | ok rule =>
      rw [audit_exitCode_of_configured configured]
      split
      · exact Or.inl rfl
      · exact Or.inr rfl

/-- A configured run succeeds exactly when it reports no error. -/
theorem audit_exitCode_eq_zero_iff {workspace : Workspace} {options : Options} {rule : Rule}
    (configured : workspace.ruleFor options = .ok rule) (console : Console) :
    (workspace.audit options console.reset).exitCode = 0 ↔
      (∀ input ∈ options.inputs, ∃ unit, workspace.fetch input = .ok unit) ∧
        (rule.severity.IsHarmless ∨
          ∀ unit ∈ workspace.units options.inputs, rule.issues unit = []) := by
  have startsClean : console.reset.errors = 0 := rfl
  rw [audit_exitCode_of_configured configured, (workspace.audit_shows_lines options _).2,
    ← reports_harmless_iff configured, ite_eq_left_iff]
  simp [Console.errors_foldl_report_eq_zero_iff, startsClean]

/-- A run that cannot be configured fails, and shows at least one error. -/
theorem audit_refused {workspace : Workspace} {options : Options} {texts : List String}
    (refused : workspace.ruleFor options = .error texts) (console : Console) :
    (workspace.audit options console.reset).exitCode = 1 ∧
      (workspace.audit options console.reset).loaded = [] ∧
      0 < (workspace.audit options console.reset).console.tally.error := by
  refine ⟨by rw [audit, refused], by rw [audit, refused], ?_⟩
  have reported : workspace.reports options = texts.map Message.error := by
    rw [reports, (workspace.steps_show options).reported, notices, refused]
    simp [Notice.lines_failures]
  have everyText : ((texts.map Message.error).countP
      fun message => message.severity = .error ∧ Severity.error ≠ .off) = texts.length := by
    rw [List.countP_map, List.countP_eq_length]
    intro text _
    rfl
  have counted := Console.count_foldl_report (texts.map Message.error) console.reset .error
  rw [everyText] at counted
  rw [(workspace.audit_shows_lines options _).2, reported]
  have someText := List.length_pos_iff.mpr (ruleFor_error_ne_nil refused)
  exact Nat.lt_of_lt_of_eq (Nat.add_pos_right _ someText) counted.symm

/-! ### Runs over files -/

theorem onDisk_fetch_eq_ok_iff (library : Library) (files : Files) (isPresent : String → Bool)
    (input : String) (unit : SourceUnit) :
    (onDisk library files isPresent).fetch input = .ok unit ↔
      isPresent input = true ∧ Manifest.load library files input = .ok unit := by
  rw [onDisk_fetch]
  cases isPresent input with
  | false => simp
  | true => cases Manifest.load library files input <;> simp [Except.mapError]

/-- Configuration reads the configuration file only, and neither the inputs nor the test for their
presence. -/
theorem onDisk_ruleFor_congr (library : Library) {files otherFiles : Files}
    (isPresent otherPresent : String → Bool) (options : Options) (inputs : List String)
    (sameConfig : otherFiles options.configPath = files options.configPath) :
    (onDisk library otherFiles otherPresent).ruleFor { options with inputs := inputs } =
      (onDisk library files isPresent).ruleFor options := by
  have sameSettings : (onDisk library otherFiles otherPresent).fileSettings options.configPath =
      (onDisk library files isPresent).fileSettings options.configPath := by
    simp only [fileSettings, Settings.load, onDisk_library, onDisk_files, sameConfig]
  simp only [ruleFor, sameSettings, onDisk_library]
  rfl

theorem onDisk_ruleFor_eq_error_iff (library : Library) (files : Files)
    (isPresent : String → Bool) (options : Options) :
    (∃ texts, (onDisk library files isPresent).ruleFor options = .error texts) ↔
      ¬ options.Usable library files := by
  have isConfigured := (onDisk library files isPresent).ruleFor_eq_ok_iff options
  cases read : (onDisk library files isPresent).ruleFor options with
  | ok rule => simpa using ((isConfigured rule).mp read).1
  | error texts =>
      refine iff_of_true ⟨texts, rfl⟩ ?_
      intro usable
      have isOk := (isConfigured _).mpr ⟨usable, rfl⟩
      rw [read] at isOk
      cases isOk

/-- Success in terms of the manifests, once the options are known to be usable. -/
theorem onDisk_exitCode_eq_zero_iff {library : Library} {files : Files}
    (isPresent : String → Bool) {options : Options} (usable : options.Usable library files)
    (console : Console) :
    ((onDisk library files isPresent).audit options console.reset).exitCode = 0 ↔
      (∀ input ∈ options.inputs,
        isPresent input = true ∧ ∃ unit, Manifest.load library files input = .ok unit) ∧
        ((options.effectiveSeverity library files).IsHarmless ∨
          ∀ input ∈ options.inputs, ∀ unit,
            isPresent input = true → Manifest.load library files input = .ok unit →
              (options.effectiveRule library files).issues unit = []) := by
  have configured :=
    ((onDisk library files isPresent).ruleFor_eq_ok_iff options _).mpr ⟨usable, rfl⟩
  have succeeds := audit_exitCode_eq_zero_iff configured console
  simp only [mem_units_iff, onDisk_fetch_eq_ok_iff, exists_and_left] at succeeds
  refine succeeds.trans (and_congr_right fun _ => or_congr Iff.rfl ?_)
  constructor
  · intro noIssue input isInput unit present loaded
    exact noIssue unit ⟨input, isInput, present, loaded⟩
  · intro noIssue unit fetched
    obtain ⟨input, isInput, present, loaded⟩ := fetched
    exact noIssue input isInput unit present loaded

/-- A refusal depends on nothing but the options and the configuration file. -/
theorem onDisk_audit_refused_congr {library : Library} {files otherFiles : Files}
    {isPresent : String → Bool} (otherPresent : String → Bool) {options : Options}
    {texts : List String}
    (refused : (onDisk library files isPresent).ruleFor options = .error texts)
    (inputs : List String) (sameConfig : otherFiles options.configPath = files options.configPath)
    (console : Console) :
    (onDisk library otherFiles otherPresent).audit { options with inputs := inputs } console =
      (onDisk library files isPresent).audit options console := by
  have sameRule := onDisk_ruleFor_congr library isPresent otherPresent options inputs sameConfig
  rw [audit, audit, sameRule, refused]

/-- The exit code of a run that starts without counts is zero exactly when (a) the options are
usable, (b) every input is there and its manifest is accepted, and (c) the severity in force is
below that of errors or no accepted input has an issue; otherwise it is one. If (a) fails, an
error is shown and no input is looked at: whatever inputs are named, whichever of them are there
and whatever stands in any file but the configuration, the outcome is the same. -/
theorem audit_exitCode (library : Library) (files : Files) (isPresent : String → Bool)
    (options : Options) (console : Console) :
    let outcome := (onDisk library files isPresent).audit options console.reset
    (outcome.exitCode = 0 ↔
        options.Usable library files ∧
          (∀ input ∈ options.inputs,
            isPresent input = true ∧ ∃ unit, Manifest.load library files input = .ok unit) ∧
          ((options.effectiveSeverity library files ≠ .error ∧
              options.effectiveSeverity library files ≠ .fatal) ∨
            ∀ input ∈ options.inputs, ∀ unit,
              isPresent input = true → Manifest.load library files input = .ok unit →
                (options.effectiveRule library files).issues unit = [])) ∧
      (outcome.exitCode ≠ 0 → outcome.exitCode = 1) ∧
      (¬ options.Usable library files →
        0 < outcome.console.tally.error ∧ outcome.loaded = [] ∧
          ∀ (inputs : List String) (otherFiles : Files) (otherPresent : String → Bool),
            otherFiles options.configPath = files options.configPath →
              (onDisk library otherFiles otherPresent).audit { options with inputs := inputs }
                console.reset = outcome) := by
  intro outcome
  have exits := (onDisk library files isPresent).audit_exitCode_eq_zero_or_one options console.reset
  have isRefused := onDisk_ruleFor_eq_error_iff library files isPresent options
  refine ⟨?_, exits.resolve_left, ?_⟩
  · by_cases usable : options.Usable library files
    · rw [and_iff_right usable]
      exact onDisk_exitCode_eq_zero_iff isPresent usable console
    · obtain ⟨texts, refused⟩ := isRefused.mpr usable
      have failed : outcome.exitCode = 1 := (audit_refused refused console).1
      simp [failed, usable]
  · intro unusable
    obtain ⟨texts, refused⟩ := isRefused.mpr unusable
    obtain ⟨_, notLoaded, shown⟩ := audit_refused refused console
    refine ⟨shown, notLoaded, ?_⟩
    intro inputs otherFiles otherPresent sameConfig
    exact onDisk_audit_refused_congr otherPresent refused inputs sameConfig console.reset

end Workspace

end ClassOrder
