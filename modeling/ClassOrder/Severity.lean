/-
Module: ClassOrder.Severity
Purpose: How serious a message is.
Main exports: Severity, Severity.level, Severity.name, Severity.label, Severity.ofName?
-/

namespace ClassOrder

/-- Severities from the least to the most serious; `off` silences a message. -/
inductive Severity where
  | debug
  | status
  | info
  | warning
  | error
  | fatal
  | off
deriving Repr, Inhabited, DecidableEq

namespace Severity

/-- Every severity once, by increasing level. -/
def all : List Severity := [debug, status, info, warning, error, fatal, off]

/-- The position of a severity on the scale. -/
def level : Severity → Nat
  | debug => 0
  | status => 1
  | info => 2
  | warning => 3
  | error => 4
  | fatal => 5
  | off => 6

/-- The name that configurations use and messages show. -/
def name : Severity → String
  | debug => "debug"
  | status => "status"
  | info => "info"
  | warning => "warning"
  | error => "error"
  | fatal => "fatal"
  | off => "off"

/-- The name in capitals. -/
def label : Severity → String
  | debug => "DEBUG"
  | status => "STATUS"
  | info => "INFO"
  | warning => "WARNING"
  | error => "ERROR"
  | fatal => "FATAL"
  | off => "OFF"

/-- Find a severity by its lower-case name. -/
def ofName? (name : String) : Option Severity :=
  all.find? fun severity => severity.name == name

@[simp] theorem ofName?_name (severity : Severity) : ofName? severity.name = some severity := by
  cases severity <;> decide

/-- A name belongs to at most one severity. -/
theorem ofName?_eq_some_iff {name : String} {severity : Severity} :
    ofName? name = some severity ↔ severity.name = name := by
  constructor
  · intro found
    have matched := List.find?_some (p := fun severity : Severity => severity.name == name) found
    exact beq_iff_eq.mp matched
  · rintro rfl
    exact ofName?_name severity

end Severity

end ClassOrder
