/-
Module: ClassOrder.Audit
Purpose: A whole run. The rule is configured from a file and the command line, the manifests are
  loaded, each loaded unit is checked, and everything worth saying is a script for the console.
  The exit code tells whether an error was shown.
Main exports: Options, Workspace, Workspace.ruleFor, Workspace.script, Outcome,
  Workspace.audit
-/
import ClassOrder.Console.Script
import ClassOrder.Manifest
import ClassOrder.Settings

namespace ClassOrder

/-! ### Options and surroundings -/

/-- What the command line asks for. An empty text or list stands for an option that is not
given. -/
structure Options where
  configPath : String := ""
  order : List String := []
  alphabetize : Option Bool := none
  severity : String := ""
  verbose : Bool := false
  inputs : List String := []
deriving Repr, Inhabited, DecidableEq

/-- The settings that the command line mentions. -/
def Options.layer (options : Options) : Layer :=
  { order := if options.order.isEmpty then none else some options.order
    alphabetize := options.alphabetize
    severity := if options.severity.isEmpty then none else some options.severity }

/-- The surroundings of a run, which do not change while it lasts: the library in use, readable
files, which inputs are there, and the unit or the error text that loading an input gives. -/
structure Workspace where
  library : Library
  files : Files
  isPresent : String → Bool
  load : String → Except String SourceUnit

namespace Workspace

/-- The surroundings that consist of files alone. A file that may not be read is still there, and
so is a directory. -/
def ofFiles (library : Library) (files : Files) : Workspace :=
  { library := library
    files := files
    isPresent := fun path =>
      match files path with
      | .ok _ | .error .permissionDenied | .error .isDirectory => true
      | .error _ => false
    load := fun path =>
      (Manifest.load library files path).mapError fun error => error.message library path }

/-! ### Configuration -/

/-- The settings from the configuration file, or the usual ones if none is named. -/
def fileSettings (workspace : Workspace) (configPath : String) :
    Settings × Option ConfigError :=
  if configPath.isEmpty then ({}, none)
  else Settings.load {} workspace.library workspace.files configPath

/-- Configure the rule. The command line takes precedence over the configuration file. The error
texts of a failure are those of its first cause. -/
def ruleFor (workspace : Workspace) (options : Options) : Except (List String) Rule :=
  match workspace.fileSettings options.configPath with
  | (_, some error) => .error [error.message workspace.library options.configPath]
  | (settings, none) =>
      match settings.overlay options.layer with
      | (_, some name) => .error ["Unknown severity: '" ++ name ++ "'."]
      | (settings, none) => settings.rule.mapError fun errors => errors.map OrderError.message

/-! ### Inputs -/

/-- Fetch an input. -/
def fetch (workspace : Workspace) (input : String) : Except String SourceUnit :=
  if workspace.isPresent input then workspace.load input
  else .error ("Input file not found: " ++ input)

/-- The error of an input that cannot be fetched. -/
def fetchError? (workspace : Workspace) (input : String) : Option String :=
  match workspace.fetch input with
  | .error text => some text
  | .ok _ => none

/-- The units that can be fetched, in the order of the inputs. -/
def units (workspace : Workspace) (inputs : List String) : List SourceUnit :=
  inputs.filterMap fun input => (workspace.fetch input).toOption

end Workspace

/-! ### What a run says -/

/-- The issues that a run reports for a unit. A silenced rule does not look. -/
def Rule.reported (rule : Rule) (unit : SourceUnit) : List Issue :=
  if rule.severity = .off then [] else rule.issues unit

/-- The steps for one unit: its issues, one level deeper and under a heading if the run is
verbose. -/
def Rule.unitScript (rule : Rule) (verbose : Bool) (unit : SourceUnit) : List Step :=
  (if verbose then [.report (.status ("Checking " ++ unit.path))] else []) ++
    [.scope verbose ((rule.issues unit).map fun issue => .report issue.toMessage)]

/-- The last line of a verbose run. -/
def summary (issueCount unitCount : Nat) : Message :=
  .status (toString issueCount ++ " issue(s) found in " ++ toString unitCount ++ " file(s).")

namespace Workspace

/-- The steps of a run after configuration: errors of inputs, then the units unless the rule is
silenced, then the summary of a verbose run. -/
def script (workspace : Workspace) (options : Options) (rule : Rule) : List Step :=
  let units := workspace.units options.inputs
  (options.inputs.filterMap workspace.fetchError?).map (fun text => .report (.error text)) ++
    (if rule.severity = .off then [] else units.flatMap (rule.unitScript options.verbose)) ++
    if options.verbose then
      [.report (summary (units.flatMap rule.reported).length units.length)]
    else []

end Workspace

/-! ### Runs -/

/-- What a run leaves behind. -/
structure Outcome where
  exitCode : Nat
  console : Console
  text : Bytes
  /-- The inputs that were there to be loaded. -/
  loaded : List String
deriving Repr, Inhabited, DecidableEq

/-- Run at a console. Without a usable configuration the run stops before any input is looked at.
The exit code is zero if all went well and the console counts no error. -/
def Workspace.audit (workspace : Workspace) (options : Options) (console : Console) : Outcome :=
  match workspace.ruleFor options with
  | .error texts =>
      let steps := texts.map fun text => Step.report (.error text)
      { exitCode := 1
        console := Console.playAll steps console
        text := Console.textAll steps console
        loaded := [] }
  | .ok rule =>
      let steps := workspace.script options rule
      let after := Console.playAll steps console
      { exitCode := if after.errors = 0 then 0 else 1
        console := after
        text := Console.textAll steps console
        loaded := options.inputs.filter workspace.isPresent }

end ClassOrder
