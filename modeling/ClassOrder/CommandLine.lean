/-
Module: ClassOrder.CommandLine
Purpose: Reading the options of a run from command-line arguments. An option starts with one or
  two dashes and has its value after an equals sign or in the next argument; all other arguments,
  and those after a bare double dash, are inputs.
Main exports: UsageError, UsageError.message, Options.ofArguments
-/
import ClassOrder.Audit

namespace ClassOrder

/-- Why arguments do not describe a run. -/
inductive UsageError where
  | unknownOption (name : String)
  | missingValue (name : String)
  | notTruthValue (name value : String)
  | noInputs
deriving Repr, DecidableEq

/-- The text that reports a usage error. -/
def UsageError.message : UsageError → String
  | unknownOption name => "Unknown command line option '" ++ name ++ "'."
  | missingValue name => "Option '" ++ name ++ "' requires a value."
  | notTruthValue name value =>
      "Option '" ++ name ++ "' takes true or false, not '" ++ value ++ "'."
  | noInputs => "At least one member manifest is required."

namespace CommandLine

/-- Split an option into its name and the value after an equals sign. Arguments that are not
options give `none`; a single dash is not an option. -/
def splitOption? (argument : String) : Option (String × Option String) :=
  let ofBody (body : List Char) : String × Option String :=
    match body.span (· != '=') with
    | (name, []) => (String.ofList name, none)
    | (name, _ :: value) => (String.ofList name, some (String.ofList value))
  match argument.toList with
  | '-' :: '-' :: first :: rest => some (ofBody (first :: rest))
  | '-' :: first :: rest => some (ofBody (first :: rest))
  | _ => none

/-- Options that are on when they are named without a value. -/
def isFlag (name : String) : Bool :=
  name == "alphabetize" || name == "verbose"

/-- Read the value of a flag. -/
def truthValue (name value : String) : Except UsageError Bool :=
  if value == "true" || value == "1" then .ok true
  else if value == "false" || value == "0" then .ok false
  else .error (.notTruthValue name value)

/-- Note the value of one option. The values of a repeated order add up; for other options the
last value counts. -/
def set (options : Options) (name value : String) : Except UsageError Options :=
  match name with
  | "config" => .ok { options with configPath := value }
  | "order" => .ok { options with order := options.order ++ value.splitOn "," }
  | "severity" => .ok { options with severity := value }
  | "alphabetize" => do return { options with alphabetize := some (← truthValue name value) }
  | "verbose" => do return { options with verbose := ← truthValue name value }
  | _ => .error (.unknownOption name)

/-- Read arguments in order, on top of what the earlier ones said. -/
def read (options : Options) : List String → Except UsageError Options
  | [] => .ok options
  | "--" :: inputs => .ok { options with inputs := options.inputs ++ inputs }
  | argument :: rest =>
      match splitOption? argument with
      | none => read { options with inputs := options.inputs ++ [argument] } rest
      | some (name, some value) => do read (← set options name value) rest
      | some (name, none) =>
          if isFlag name then do read (← set options name "true") rest
          else
            match rest with
            | value :: rest => do read (← set options name value) rest
            | [] => do
                let _ ← set options name ""
                throw (.missingValue name)
termination_by arguments => arguments.length

end CommandLine

/-- The options that command-line arguments describe. A run needs at least one input. -/
def Options.ofArguments (arguments : List String) : Except UsageError Options := do
  let options ← CommandLine.read {} arguments
  if options.inputs.isEmpty then throw .noInputs
  return options

end ClassOrder
