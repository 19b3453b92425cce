/-
Module: ClassOrder.Settings
Purpose: The settings of the member-ordering rule. Settings are built in layers: a layer mentions
  some of them and leaves the others alone. Configuration files hold one layer each.
Main exports: Layer, Layer.ofDocument, Settings, Settings.overlay, Settings.parse,
  Settings.load, Settings.rule, ConfigError
-/
import ClassOrder.FileTree
import ClassOrder.Library
import ClassOrder.Rule

namespace ClassOrder

open Json (Decoder Fault)

/-! ### Layers -/

/-- The settings that one layer mentions. The severity is kept as it is written. -/
structure Layer where
  order : Option (List String) := none
  alphabetize : Option Bool := none
  severity : Option String := none
deriving Repr, Inhabited, DecidableEq

/-- Why a configuration cannot be used. -/
inductive ConfigError where
  | unreadable (error : FileError)
  | malformed (error : String)
  | notObject
  | rulesNotObject
  | faulty (fault : Fault)
  | unknownSeverity (name : String)
deriving Repr, DecidableEq

/-- The text that reports an unusable configuration. -/
def ConfigError.message (library : Library) (path : String) : ConfigError → String
  | unreadable error => "Cannot read configuration file '" ++ path ++ "': " ++ error.message
  | malformed error => path ++ ": " ++ error
  | notObject => path ++ ": expected a JSON object."
  | rulesNotObject => path ++ ": 'rules' should be an object."
  | faulty fault => path ++ ": " ++ library.describeFault path fault
  | unknownSeverity name => path ++ ": unknown severity '" ++ name ++ "'."

namespace Layer

/-- Read the settings of the rule from its entry in a configuration. -/
def decode : Decoder Layer := fun document => do
  let entries ← Json.decodeObject document
  let order ← Json.optional entries "order" (Json.decodeArray Json.decodeString)
  let alphabetize ← Json.optional entries "alphabetize" Json.decodeBool
  let severity ← Json.optional entries "severity" Json.decodeString
  return { order := order, alphabetize := alphabetize, severity := severity }

/-- The layer that a configuration document holds. A document without an entry for the rule
mentions nothing. -/
def ofDocument (document : Json) : Except ConfigError Layer :=
  match document with
  | .object entries =>
      match entries.lookup "rules" with
      | none => .ok {}
      | some (.object rules) =>
          match rules.lookup Rule.id with
          | none => .ok {}
          | some entry =>
              (Json.under (.key "rules") (Json.under (.key Rule.id) (decode entry))).mapError
                .faulty
      | some _ => .error .rulesNotObject
  | _ => .error .notObject

end Layer

/-! ### Settings -/

/-- The settings of the rule. No group keys stand for the standard order. -/
structure Settings where
  order : List String := []
  alphabetize : Bool := false
  severity : Severity := .warning
deriving Repr, Inhabited, DecidableEq

namespace Settings

/-- Lay one layer over the settings. A severity that has no such name is returned as an error; the
other settings of the layer hold all the same. -/
def overlay (settings : Settings) (layer : Layer) : Settings × Option String :=
  let settings :=
    { settings with
      order := layer.order.getD settings.order
      alphabetize := layer.alphabetize.getD settings.alphabetize }
  match layer.severity with
  | none => (settings, none)
  | some name =>
      match Severity.ofName? name with
      | some severity => ({ settings with severity := severity }, none)
      | none => (settings, some name)

/-- Lay the layer of a configuration document over the settings. -/
def applyDocument (settings : Settings) (document : Json) : Settings × Option ConfigError :=
  match Layer.ofDocument document with
  | .error error => (settings, some error)
  | .ok layer =>
      let (settings, unknown) := settings.overlay layer
      (settings, unknown.map .unknownSeverity)

/-- Lay the layer of a configuration text over the settings. -/
def parse (settings : Settings) (library : Library) (text : Bytes) :
    Settings × Option ConfigError :=
  match library.readJson text with
  | .error error => (settings, some (.malformed error))
  | .ok document => settings.applyDocument document

/-- Lay the layer of a configuration file over the settings. -/
def load (settings : Settings) (library : Library) (files : Files) (path : String) :
    Settings × Option ConfigError :=
  match files path with
  | .error error => (settings, some (.unreadable error))
  | .ok text => settings.parse library text

/-- The rule that the settings describe. -/
def rule (settings : Settings) : Except (List OrderError) Rule :=
  (Ranking.ofKeys settings.order).map fun ranking =>
    { ranking := ranking, alphabetize := settings.alphabetize, severity := settings.severity }

end Settings

end ClassOrder
