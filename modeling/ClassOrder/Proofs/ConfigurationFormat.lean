/-
Module: ClassOrder.Proofs.ConfigurationFormat
Purpose: The format of configuration documents, and the layer that such a document holds. Whether
  a document is accepted depends on the document alone. A document that is refused leaves the
  settings as they were, with one exception: if only the name of its severity is not known, the
  other settings it mentions have been taken over by then.
Main exports: Layer.IsConfiguration, Layer.describedLayer, Layer.HasKnownSeverity,
  Settings.overlay_fst, Settings.applyDocument_snd_eq_none_iff,
  Settings.applyDocument_fst_of_isConfiguration, Settings.refusal_keeps_settings_iff
-/
import ClassOrder.Proofs.Decoding
import ClassOrder.Settings

namespace ClassOrder

open Json

namespace Layer

/-! ### The format -/

def IsSeverityName (document : Json) : Prop :=
  ∃ name ∈ ["debug", "status", "info", "warning", "error", "fatal", "off"],
    document = .string name

/-- The settings of the rule. Each of them may be left out, and null counts as left out. -/
structure IsRuleEntry (document : Json) : Prop where
  object : document.IsObject
  order : document.Allows "order" (IsArrayOf IsString)
  alphabetize : document.Allows "alphabetize" IsBoolean
  severity : document.Allows "severity" IsSeverityName

/-- Entries for rules, of which one is looked at. -/
structure IsRuleSet (document : Json) : Prop where
  object : document.IsObject
  entry : document.AllowsStrictly "member-ordering" IsRuleEntry

structure IsConfiguration (document : Json) : Prop where
  object : document.IsObject
  rules : document.AllowsStrictly "rules" IsRuleSet

/-! ### What a document mentions -/

/-- The value that is given for a setting in a document. -/
def setting? (document : Json) (key : String) : Option Json :=
  (document.at? [.key "rules", .key "member-ordering"]).bind fun entry => entry.given? key

/-- The settings that a document mentions. -/
def describedLayer (document : Json) : Layer :=
  { order := (setting? document "order").map fun keys => keys.items.map text
    alphabetize := (setting? document "alphabetize").map flag
    severity := (setting? document "severity").map text }

/-- The severity is left out or has a known name. -/
def HasKnownSeverity (layer : Layer) : Prop :=
  ∀ name, layer.severity = some name → ∃ severity : Severity, severity.name = name

/-! ### Entries -/

theorem isSeverityName_string_iff (name : String) :
    IsSeverityName (.string name) ↔ ∃ severity : Severity, severity.name = name := by
  constructor
  · intro severityName
    obtain ⟨listed, isListed, same⟩ := severityName
    cases same
    have named : ∀ word ∈ Severity.all.map Severity.name,
        ∃ severity : Severity, severity.name = word := by
      intro word isWord
      obtain ⟨severity, _, rfl⟩ := List.mem_map.mp isWord
      exact ⟨severity, rfl⟩
    exact named name isListed
  · intro named
    obtain ⟨severity, rfl⟩ := named
    exact ⟨severity.name, by cases severity <;> decide, rfl⟩

def layerOf (entry : Json) : Layer :=
  { order := (entry.given? "order").map fun keys => keys.items.map text
    alphabetize := (entry.given? "alphabetize").map flag
    severity := (entry.given? "severity").map text }

theorem decode_eq_ok_iff (entry : Json) (layer : Layer) :
    decode entry = .ok layer ↔
      (entry.IsObject ∧ entry.Allows "order" (IsArrayOf IsString) ∧
        entry.Allows "alphabetize" IsBoolean ∧ entry.Allows "severity" IsString) ∧
          layer = layerOf entry := by
  simp only [decode, bind_eq_ok_iff, decodeObject_eq_ok_iff, pure_eq_ok_iff,
    reads_string.array.optional_eq_ok_iff, reads_bool.optional_eq_ok_iff,
    reads_string.optional_eq_ok_iff]
  constructor
  · intro read
    obtain ⟨entries, rfl, _, ⟨order, rfl⟩, _, ⟨alphabetize, rfl⟩, _, ⟨severity, rfl⟩, rfl⟩ := read
    exact ⟨⟨⟨entries, rfl⟩, order, alphabetize, severity⟩, rfl⟩
  · intro formatted
    obtain ⟨⟨⟨entries, rfl⟩, order, alphabetize, severity⟩, rfl⟩ := formatted
    exact ⟨entries, rfl, _, ⟨order, rfl⟩, _, ⟨alphabetize, rfl⟩, _, ⟨severity, rfl⟩, rfl⟩

/-- The name of the severity is looked up after the entry was read; both are part of the
format. -/
theorem allows_severity_iff (entry : Json) :
    entry.Allows "severity" IsSeverityName ↔
      entry.Allows "severity" IsString ∧ (layerOf entry).HasKnownSeverity := by
  simp only [Allows, HasKnownSeverity, layerOf]
  cases entry.given? "severity" with
  | none => simp
  | some part =>
      simp only [Option.some.injEq, forall_eq', Option.map_some]
      constructor
      · intro severityName
        obtain ⟨name, listed, rfl⟩ := severityName
        exact ⟨⟨name, rfl⟩, (isSeverityName_string_iff name).mp ⟨name, listed, rfl⟩⟩
      · intro known
        obtain ⟨⟨name, rfl⟩, named⟩ := known
        exact (isSeverityName_string_iff name).mpr named

theorem isRuleEntry_iff (entry : Json) :
    IsRuleEntry entry ↔ ∃ layer, decode entry = .ok layer ∧ layer.HasKnownSeverity := by
  constructor
  · intro isEntry
    obtain ⟨isString, known⟩ := (allows_severity_iff entry).mp isEntry.severity
    have read := (decode_eq_ok_iff entry _).mpr
      ⟨⟨isEntry.object, isEntry.order, isEntry.alphabetize, isString⟩, rfl⟩
    exact ⟨layerOf entry, read, known⟩
  · intro accepted
    obtain ⟨layer, read, known⟩ := accepted
    obtain ⟨⟨object, order, alphabetize, isString⟩, rfl⟩ := (decode_eq_ok_iff entry layer).mp read
    exact ⟨object, order, alphabetize, (allows_severity_iff entry).mpr ⟨isString, known⟩⟩

/-! ### Documents -/

/-- What a document has under the rule's identifier. -/
def ruleValue? (document : Json) : Option Json :=
  (document.part? "rules").bind fun rules => rules.part? "member-ordering"

theorem setting?_eq (document : Json) (key : String) :
    setting? document key = (ruleValue? document).bind fun entry => entry.given? key := by
  simp [setting?, ruleValue?, at?, part?]

theorem describedLayer_of_absent {document : Json} (absent : ruleValue? document = none) :
    describedLayer document = {} := by
  simp [describedLayer, setting?_eq, absent]

theorem describedLayer_of_entry {document entry : Json}
    (found : ruleValue? document = some entry) :
    describedLayer document = layerOf entry := by
  simp [describedLayer, setting?_eq, found, layerOf]

theorem ruleValue?_eq_some_iff {document entry : Json} :
    ruleValue? document = some entry ↔
      ∃ entries rules, document = .object entries ∧
        entries.lookup "rules" = some (.object rules) ∧
          rules.lookup "member-ordering" = some entry := by
  simp only [ruleValue?, Option.bind_eq_some_iff, part?_eq_some_iff]
  constructor
  · intro found
    obtain ⟨_, ⟨entries, rfl, isRules⟩, rules, rfl, isEntry⟩ := found
    exact ⟨entries, rules, rfl, isRules, isEntry⟩
  · intro found
    obtain ⟨entries, rules, rfl, isRules, isEntry⟩ := found
    exact ⟨_, ⟨entries, rfl, isRules⟩, rules, rfl, isEntry⟩

theorem ofDocument_of_entry {document entry : Json} (found : ruleValue? document = some entry)
    (layer : Layer) :
    ofDocument document = .ok layer ↔ decode entry = .ok layer := by
  obtain ⟨entries, rules, rfl, isRules, isEntry⟩ := ruleValue?_eq_some_iff.mp found
  rw [ofDocument, isRules]
  simp only [Rule.id, isEntry]
  cases decode entry <;> simp [under, Except.mapError]

theorem ofDocument_of_absent {document : Json} (absent : ruleValue? document = none)
    (layer : Layer) :
    ofDocument document = .ok layer ↔
      (document.IsObject ∧ document.AllowsStrictly "rules" IsObject) ∧ layer = {} := by
  cases document with
  | object entries =>
      rw [ofDocument]
      cases isRules : entries.lookup "rules" with
      | none => simp [IsObject, AllowsStrictly, part?, child?, isRules, eq_comm]
      | some rules =>
          cases rules with
          | object rules =>
              have noEntry : rules.lookup "member-ordering" = none := by
                simpa only [ruleValue?, part?, child?, isRules, Option.bind_some] using absent
              simp [IsObject, AllowsStrictly, part?, child?, isRules, Rule.id, noEntry, eq_comm]
          | _ => simp [IsObject, AllowsStrictly, part?, child?, isRules]
  | _ => simp [ofDocument, IsObject]

theorem isConfiguration_of_entry {document entry : Json}
    (found : ruleValue? document = some entry) :
    IsConfiguration document ↔ IsRuleEntry entry := by
  obtain ⟨rules, isRules, isEntry⟩ := Option.bind_eq_some_iff.mp found
  constructor
  · intro isConfiguration
    exact (isConfiguration.rules rules isRules).entry entry isEntry
  · intro isRuleEntry
    obtain ⟨entries, rfl, _⟩ := part?_eq_some_iff.mp isRules
    obtain ⟨ruleEntries, rfl, _⟩ := part?_eq_some_iff.mp isEntry
    refine ⟨⟨entries, rfl⟩, ?_⟩
    intro other isOther
    obtain rfl := Option.some.inj (isRules.symm.trans isOther)
    refine ⟨⟨ruleEntries, rfl⟩, ?_⟩
    intro otherEntry isOtherEntry
    obtain rfl := Option.some.inj (isEntry.symm.trans isOtherEntry)
    exact isRuleEntry

theorem isConfiguration_of_absent {document : Json} (absent : ruleValue? document = none) :
    IsConfiguration document ↔
      document.IsObject ∧ document.AllowsStrictly "rules" IsObject := by
  constructor
  · intro isConfiguration
    exact ⟨isConfiguration.object,
      fun rules isRules => (isConfiguration.rules rules isRules).object⟩
  · intro shaped
    refine ⟨shaped.1, ?_⟩
    intro rules isRules
    refine ⟨shaped.2 rules isRules, ?_⟩
    intro entry isEntry
    have found : ruleValue? document = some entry := by
      rw [ruleValue?, isRules, Option.bind_some, isEntry]
    rw [absent] at found
    cases found

/-- The documents of the format are those that hold a layer whose severity is known. -/
theorem isConfiguration_iff (document : Json) :
    IsConfiguration document ↔
      ∃ layer, ofDocument document = .ok layer ∧ layer.HasKnownSeverity := by
  cases found : ruleValue? document with
  | none =>
      rw [isConfiguration_of_absent found]
      simp [ofDocument_of_absent found, HasKnownSeverity]
  | some entry =>
      rw [isConfiguration_of_entry found, isRuleEntry_iff]
      simp [ofDocument_of_entry found]

/-- A document that can be read holds the settings that it mentions. -/
theorem eq_describedLayer {document : Json} {layer : Layer}
    (read : ofDocument document = .ok layer) : layer = describedLayer document := by
  cases found : ruleValue? document with
  | none =>
      rw [describedLayer_of_absent found]
      exact ((ofDocument_of_absent found layer).mp read).2
  | some entry =>
      rw [describedLayer_of_entry found]
      exact ((decode_eq_ok_iff entry layer).mp ((ofDocument_of_entry found layer).mp read)).2

end Layer

namespace Settings

open Layer

/-! ### Laying a layer over the settings -/

/-- What a layer mentions takes the place of what was there. A severity that is not known counts as
not mentioned. -/
theorem overlay_fst (settings : Settings) (layer : Layer) :
    (settings.overlay layer).1 =
      { order := layer.order.getD settings.order
        alphabetize := layer.alphabetize.getD settings.alphabetize
        severity := (layer.severity.bind Severity.ofName?).getD settings.severity } := by
  rw [overlay]
  cases layer.severity with
  | none => rfl
  | some name => cases known : Severity.ofName? name <;> simp [known]

theorem overlay_snd_eq_none_iff (settings : Settings) (layer : Layer) :
    (settings.overlay layer).2 = none ↔ layer.HasKnownSeverity := by
  rw [overlay, HasKnownSeverity]
  cases layer.severity with
  | none => simp
  | some name =>
      simp only [Option.some.injEq, forall_eq', ← Severity.ofName?_eq_some_iff]
      cases Severity.ofName? name <;> simp

/-- Whether a document is accepted does not depend on the settings. -/
theorem applyDocument_snd_eq_none_iff (settings : Settings) (document : Json) :
    (settings.applyDocument document).2 = none ↔ IsConfiguration document := by
  rw [isConfiguration_iff, applyDocument]
  cases ofDocument document with
  | error error => simp
  | ok layer => simp [overlay_snd_eq_none_iff]

theorem applyDocument_fst_of_isConfiguration (settings : Settings) {document : Json}
    (accepted : IsConfiguration document) :
    (settings.applyDocument document).1 = (settings.overlay (describedLayer document)).1 := by
  obtain ⟨layer, read, _⟩ := (isConfiguration_iff document).mp accepted
  rw [applyDocument, read, ← eq_describedLayer read]

/-- A text is accepted if it is the text of a configuration. -/
theorem parse_snd_eq_none_iff (settings : Settings) (library : Library) (text : Bytes) :
    (settings.parse library text).2 = none ↔
      ∃ document, library.readJson text = .ok document ∧ IsConfiguration document := by
  rw [parse]
  cases library.readJson text with
  | error error => simp
  | ok document => simp [applyDocument_snd_eq_none_iff]

/-! ### Refusals -/

/-- Reading a document finds no fault with the name of a severity. -/
theorem ofDocument_ne_unknownSeverity (document : Json) (name : String) :
    ofDocument document ≠ .error (.unknownSeverity name) := by
  intro failed
  rw [ofDocument.eq_def] at failed
  split at failed
  · split at failed
    · cases failed
    · split at failed
      · cases failed
      · next entry _ => cases read : decode entry <;> rw [read] at failed <;> cases failed
    · cases failed
  · cases failed

/-- What a refused layer leaves behind. -/
theorem overlay_of_unknown {settings : Settings} {layer : Layer} {name : String}
    (unknown : (settings.overlay layer).2 = some name) :
    (settings.overlay layer).1 =
      { settings with
        order := layer.order.getD settings.order
        alphabetize := layer.alphabetize.getD settings.alphabetize } := by
  rw [overlay] at unknown ⊢
  split
  · rfl
  · split
    · next severity found => simp_all
    · rfl

/-- The two ways in which a text is refused. Either nothing was taken over, or all that the
document mentions but its severity. -/
theorem parse_of_refused {settings : Settings} {library : Library} {text : Bytes}
    {error : ConfigError} (refused : (settings.parse library text).2 = some error) :
    ((settings.parse library text).1 = settings ∧ ∀ name, error ≠ .unknownSeverity name) ∨
      ∃ document name, library.readJson text = .ok document ∧ error = .unknownSeverity name ∧
        (settings.parse library text).1 =
          { settings with
            order := (describedLayer document).order.getD settings.order
            alphabetize := (describedLayer document).alphabetize.getD settings.alphabetize } := by
  rw [parse] at refused ⊢
  cases read : library.readJson text with
  | error problem =>
      simp only [read] at refused
      cases refused
      exact .inl ⟨rfl, by simp⟩
  | ok document =>
      simp only [read, applyDocument] at refused ⊢
      cases held : ofDocument document with
      | error cause =>
          simp only [held] at refused
          cases refused
          refine .inl ⟨rfl, ?_⟩
          rintro name rfl
          exact ofDocument_ne_unknownSeverity document name held
      | ok layer =>
          simp only [held, Option.map_eq_some_iff] at refused
          obtain ⟨name, unknown, rfl⟩ := refused
          refine .inr ⟨document, name, rfl, rfl, ?_⟩
          rw [← eq_describedLayer held]
          exact overlay_of_unknown unknown

/-- A refusal never changes the severity. It leaves the other settings alone unless its cause is
that the severity has no such name: then what the document says about them holds, so nothing is
changed only if it says what held before. -/
theorem refusal_keeps_settings_iff {settings : Settings} {library : Library} {text : Bytes}
    {error : ConfigError} (refused : (settings.parse library text).2 = some error) :
    (settings.parse library text).1.severity = settings.severity ∧
      ((settings.parse library text).1 = settings ↔
        ∀ document name, library.readJson text = .ok document → error = .unknownSeverity name →
          (describedLayer document).order.getD settings.order = settings.order ∧
            (describedLayer document).alphabetize.getD settings.alphabetize =
              settings.alphabetize) := by
  rcases parse_of_refused refused with ⟨kept, otherCause⟩ | ⟨document, name, read, rfl, changed⟩
  · rw [kept]
    refine ⟨rfl, iff_of_true rfl ?_⟩
    intro _ name _ isUnknown
    exact absurd isUnknown (otherCause name)
  · rw [changed]
    refine ⟨rfl, ?_⟩
    constructor
    · intro same _ _ readAgain _
      obtain rfl := Except.ok.inj (read.symm.trans readAgain)
      exact ⟨congrArg Settings.order same, congrArg Settings.alphabetize same⟩
    · intro agrees
      obtain ⟨sameOrder, sameFlag⟩ := agrees document name read rfl
      rw [sameOrder, sameFlag]

/-- A severity that has no such name, beside a setting that holds already and one for which null is
given. -/
theorem refusal_keeps_settings_alphabetize :
    let settings : Settings := { order := ["constructors"], alphabetize := true }
    let text := bytes (
      "\x7b\"rules\":\x7b\"member-ordering\":\x7b\"order\":null," ++
        "\"alphabetize\":true,\"severity\":\"loud\"\x7d\x7d\x7d")
    (settings.parse .standard text).2 = some (.unknownSeverity "loud") ∧
      (settings.parse .standard text).1 = settings := by
  intro settings text
  have refused : (settings.parse .standard text).2 = some (.unknownSeverity "loud") := by
    decide +kernel
  have read : Library.standard.readJson text = .ok
      (.object [("rules", .object [("member-ordering", .object
        [("order", .null), ("alphabetize", .bool true), ("severity", .string "loud")])])]) := by
    simp only [text]
    rfl
  refine ⟨refused, (refusal_keeps_settings_iff refused).2.mpr ?_⟩
  intro document name readAgain _
  obtain rfl := Except.ok.inj (read.symm.trans readAgain)
  decide

/-- A severity that has no such name, beside settings that do not hold yet. They hold afterwards,
although the document is refused. -/
theorem refusal_changes_settings :
    let text := bytes (
      "\x7b\"rules\":\x7b\"member-ordering\":\x7b\"order\":[\"constructors\"]," ++
        "\"alphabetize\":true,\"severity\":\"loud\"\x7d\x7d\x7d")
    Settings.parse {} .standard text =
        ({ order := ["constructors"], alphabetize := true }, some (.unknownSeverity "loud")) ∧
      (Settings.parse {} .standard text).1 ≠ {} := by
  decide +kernel

end Settings

end ClassOrder
