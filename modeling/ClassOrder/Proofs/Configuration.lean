/-
Module: ClassOrder.Proofs.Configuration
Purpose: When a run can be configured, and which rule is then in force. The conditions are on the
  options and the configuration file alone, and speak of each setting by itself; the command line
  wins over the file, and the file over the usual settings.
Main exports: Options.fileSettings, Options.effectiveOrder, Options.effectiveRule, Options.Usable,
  Workspace.ruleFor_eq_ok_iff, Workspace.ruleFor_error_ne_nil
-/
import ClassOrder.Audit
import ClassOrder.Proofs.Ranking

namespace ClassOrder

namespace Options

/-! ### The settings in force -/

/-- The settings before the command line is looked at: those of the configuration file, or the
usual ones if none is named or it cannot be read. -/
def fileSettings (options : Options) (library : Library) (files : Files) : Settings :=
  if options.configPath = "" then {}
  else
    match files options.configPath with
    | .ok text => (Settings.parse {} library text).1
    | .error _ => {}

/-- The group keys in force. No keys stand for the standard order. -/
def effectiveOrder (options : Options) (library : Library) (files : Files) : List String :=
  if options.order = [] then (options.fileSettings library files).order else options.order

/-- The severity in force. A name that is not known counts for nothing. -/
def effectiveSeverity (options : Options) (library : Library) (files : Files) : Severity :=
  if options.severity = "" then (options.fileSettings library files).severity
  else (Severity.ofName? options.severity).getD (options.fileSettings library files).severity

/-- The rule in force. -/
def effectiveRule (options : Options) (library : Library) (files : Files) : Rule :=
  { ranking := (Ranking.ofKeys (options.effectiveOrder library files)).toOption.getD .standard
    alphabetize := options.alphabetize.getD (options.fileSettings library files).alphabetize
    severity := options.effectiveSeverity library files }

/-- The options describe a rule: the configuration file, if one is named, can be read and is
accepted; the severity, if one is given, has a known name; and the group keys in force are known
and not repeated. -/
structure Usable (options : Options) (library : Library) (files : Files) : Prop where
  config : options.configPath = "" ∨
    ∃ text, files options.configPath = .ok text ∧ (Settings.parse {} library text).2 = none
  severity : options.severity = "" ∨ ∃ severity : Severity, severity.name = options.severity
  known : ∀ key ∈ options.effectiveOrder library files, IsGroupKey key
  distinct : (options.effectiveOrder library files).Nodup

end Options

/-! ### Stages of a configuration -/

namespace Workspace

/-- The configuration file as the run reads it. -/
theorem fileSettings_fst (workspace : Workspace) (options : Options) :
    (workspace.fileSettings options.configPath).1 =
      options.fileSettings workspace.library workspace.files := by
  rw [fileSettings, Options.fileSettings]
  by_cases unnamed : options.configPath = ""
  · simp [unnamed]
  · simp only [String.isEmpty_iff, unnamed, if_false, Settings.load]
    cases workspace.files options.configPath <;> rfl

theorem fileSettings_snd_eq_none_iff (workspace : Workspace) (options : Options) :
    (workspace.fileSettings options.configPath).2 = none ↔
      options.configPath = "" ∨ ∃ text,
        workspace.files options.configPath = .ok text ∧
          (Settings.parse {} workspace.library text).2 = none := by
  rw [fileSettings]
  by_cases unnamed : options.configPath = ""
  · simp [unnamed]
  · simp only [String.isEmpty_iff, unnamed, if_false, false_or, Settings.load]
    cases workspace.files options.configPath <;> simp

end Workspace

namespace Options

theorem overlay_layer_snd_eq_none_iff (options : Options) (settings : Settings) :
    (settings.overlay options.layer).2 = none ↔
      options.severity = "" ∨ ∃ severity : Severity, severity.name = options.severity := by
  rw [Settings.overlay, layer]
  by_cases ungiven : options.severity = ""
  · simp [ungiven]
  · simp only [String.isEmpty_iff, ungiven, if_false, false_or, ← Severity.ofName?_eq_some_iff]
    cases Severity.ofName? options.severity <;> simp

/-- The command line laid over the settings of the file. -/
theorem overlay_layer_fst (options : Options) (library : Library) (files : Files) :
    ((options.fileSettings library files).overlay options.layer).1 =
      { order := options.effectiveOrder library files
        alphabetize := (options.effectiveRule library files).alphabetize
        severity := options.effectiveSeverity library files } := by
  have order : options.layer.order.getD (options.fileSettings library files).order =
      options.effectiveOrder library files := by
    rw [layer, effectiveOrder]
    cases options.order <;> rfl
  rw [Settings.overlay, order]
  by_cases ungiven : options.severity = ""
  · simp [layer, ungiven, effectiveSeverity, effectiveRule]
  · simp only [layer, String.isEmpty_iff, ungiven, if_false, effectiveSeverity, effectiveRule]
    cases Severity.ofName? options.severity <;> rfl

end Options

/-- Settings describe the rule that reading their keys gives. -/
theorem Settings.rule_eq_ok_iff (settings : Settings) (rule : Rule) :
    settings.rule = .ok rule ↔
      ∃ ranking, Ranking.ofKeys settings.order = .ok ranking ∧
        rule = { ranking := ranking
                 alphabetize := settings.alphabetize
                 severity := settings.severity } := by
  rw [Settings.rule]
  cases Ranking.ofKeys settings.order with
  | error errors => simp [Except.map]
  | ok ranking => simp [Except.map, eq_comm]

/-! ### The whole configuration -/

theorem Ranking.ofKeys_error_ne_nil {keys : List String} {errors : List OrderError}
    (failed : Ranking.ofKeys keys = .error errors) : errors ≠ [] := by
  rw [Ranking.ofKeys] at failed
  generalize Ranking.standard.assign keys = assigned at failed
  rcases assigned with ⟨ranking, _ | ⟨error, rest⟩⟩
  · cases failed
  · cases failed
    exact List.cons_ne_nil error rest

namespace Workspace

/-- The stages of a configuration in the order of the run. Each is looked at only if those before
it succeeded. -/
theorem ruleFor_eq_ok_iff_stages (workspace : Workspace) (options : Options) (rule : Rule) :
    workspace.ruleFor options = .ok rule ↔
      (workspace.fileSettings options.configPath).2 = none ∧
        ((options.fileSettings workspace.library workspace.files).overlay options.layer).2 = none ∧
        ((options.fileSettings workspace.library workspace.files).overlay options.layer).1.rule =
          .ok rule := by
  rw [ruleFor, ← fileSettings_fst]
  rcases workspace.fileSettings options.configPath with ⟨settings, _ | error⟩
  · simp only [true_and]
    rcases settings.overlay options.layer with ⟨final, _ | name⟩
    · simp only [true_and]
      cases final.rule <;> simp [Except.mapError]
    · simp
  · simp

/-- A run is configured exactly when its options are usable, and then with the rule in force. -/
theorem ruleFor_eq_ok_iff (workspace : Workspace) (options : Options) (rule : Rule) :
    workspace.ruleFor options = .ok rule ↔
      options.Usable workspace.library workspace.files ∧
        rule = options.effectiveRule workspace.library workspace.files := by
  rw [ruleFor_eq_ok_iff_stages, fileSettings_snd_eq_none_iff,
    Options.overlay_layer_snd_eq_none_iff, Options.overlay_layer_fst, Settings.rule_eq_ok_iff]
  have orderOk := Ranking.ofKeys_isOk_iff (options.effectiveOrder workspace.library workspace.files)
  have inForce : ∀ ranking,
      Ranking.ofKeys (options.effectiveOrder workspace.library workspace.files) = .ok ranking →
        (options.effectiveRule workspace.library workspace.files).ranking = ranking := by
    intro ranking read
    rw [Options.effectiveRule, read]
    rfl
  constructor
  · intro stages
    obtain ⟨config, severity, ranking, read, ruleEq⟩ := stages
    obtain ⟨known, distinct⟩ := orderOk.mp ⟨ranking, read⟩
    refine ⟨⟨config, severity, known, distinct⟩, ?_⟩
    rw [ruleEq, ← inForce ranking read]
    rfl
  · intro usable
    obtain ⟨usable, ruleEq⟩ := usable
    obtain ⟨ranking, read⟩ := orderOk.mpr ⟨usable.known, usable.distinct⟩
    refine ⟨usable.config, usable.severity, ranking, read, ?_⟩
    rw [ruleEq, ← inForce ranking read]
    rfl

theorem ruleFor_error_ne_nil {workspace : Workspace} {options : Options} {texts : List String}
    (failed : workspace.ruleFor options = .error texts) : texts ≠ [] := by
  rw [ruleFor] at failed
  split at failed
  · cases failed
    exact List.cons_ne_nil _ _
  · split at failed
    · cases failed
      exact List.cons_ne_nil _ _
    · next settings _ =>
        rw [Settings.rule] at failed
        cases read : Ranking.ofKeys settings.order with
        | ok ranking =>
            rw [read] at failed
            cases failed
        | error errors =>
            rw [read] at failed
            cases failed
            simpa using Ranking.ofKeys_error_ne_nil read

end Workspace

end ClassOrder
