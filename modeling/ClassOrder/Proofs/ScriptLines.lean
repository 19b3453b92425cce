/-
Module: ClassOrder.Proofs.ScriptLines
Purpose: Scripts that come down to lines. A line is a message and how far in it stands, counted from
  the level at which the script starts. Whoever knows the lines of a script knows its messages, its
  text and the console after it, whatever console it is played at; a script that is put together
  from such pieces has the lines of the pieces.
Main exports: Step.reports, Step.reportsAll, Line, Console.renderLine, Console.shift_foldl_report,
  Step.Shows, Step.Shows.append, Step.Shows.scope, Step.Shows.flatMap
-/
import ClassOrder.Console.Script
import Mathlib.Data.List.Basic

namespace ClassOrder

/-! ### The messages of a script -/

namespace Step

mutual

/-- The messages that a step reports, those of inner steps included. -/
def reports : Step → List Message
  | .report message => [message]
  | .scope _ steps => reportsAll steps
  | .indent | .unindent | .setIndent _ | .reset | .setTerminal _ => []

/-- The messages that steps report, in order. -/
def reportsAll : List Step → List Message
  | [] => []
  | step :: rest => reports step ++ reportsAll rest

end

theorem reportsAll_append (first second : List Step) :
    reportsAll (first ++ second) = reportsAll first ++ reportsAll second := by
  induction first with
  | nil => rfl
  | cons step rest inductionHypothesis =>
      rw [List.cons_append, reportsAll, reportsAll, inductionHypothesis, List.append_assoc]

end Step

/-! ### Lines -/

/-- A message, and how many levels it stands in. -/
structure Line where
  depth : Int := 0
  message : Message

/-- Move a line in. -/
def Line.deeper (levels : Int) (line : Line) : Line :=
  { line with depth := levels + line.depth }

namespace Console

/-- The text of a line at a console. -/
def renderLine (console : Console) (line : Line) : Bytes :=
  (console.shift line.depth).render line.message

@[simp] theorem shift_zero (console : Console) : console.shift 0 = console := by
  simp [shift]

theorem shift_shift (console : Console) (levels more : Int) :
    (console.shift levels).shift more = console.shift (levels + more) := by
  simp [shift, Int.add_assoc]

/-- At a console that stands further in, a line looks as if it were itself moved in. -/
theorem renderLine_shift (console : Console) (levels : Int) (line : Line) :
    (console.shift levels).renderLine line = console.renderLine (line.deeper levels) := by
  rw [renderLine, shift_shift]
  rfl

/-! ### Counting at a level -/

theorem shift_report (console : Console) (levels : Int) (message : Message) :
    (console.report message).shift levels = (console.shift levels).report message := by
  rw [report, report]
  split <;> rfl

/-- Counting messages and changing the level do not depend on each other. -/
theorem shift_foldl_report (messages : List Message) (console : Console) (levels : Int) :
    (messages.foldl report console).shift levels =
      messages.foldl report (console.shift levels) := by
  induction messages generalizing console with
  | nil => rfl
  | cons message rest inductionHypothesis =>
      rw [List.foldl_cons, List.foldl_cons, inductionHypothesis, shift_report]

theorem render_report (console : Console) (counted message : Message) :
    (console.report counted).render message = console.render message := by
  rw [report]
  split <;> rfl

theorem render_foldl_report (messages : List Message) (console : Console) :
    (messages.foldl report console).render = console.render := by
  induction messages generalizing console with
  | nil => rfl
  | cons counted rest inductionHypothesis =>
      rw [List.foldl_cons, inductionHypothesis]
      exact funext (console.render_report counted)

/-- Counting messages does not change how a console shows other lines. -/
theorem renderLine_foldl_report (messages : List Message) (console : Console) :
    (messages.foldl report console).renderLine = console.renderLine := by
  funext line
  rw [renderLine, shift_foldl_report, render_foldl_report, renderLine]

/-! ### Scripts in pieces -/

theorem playAll_append (first second : List Step) (console : Console) :
    playAll (first ++ second) console = playAll second (playAll first console) := by
  induction first generalizing console with
  | nil => rfl
  | cons step rest inductionHypothesis =>
      rw [List.cons_append, playAll, playAll, inductionHypothesis]

theorem textAll_append (first second : List Step) (console : Console) :
    textAll (first ++ second) console =
      textAll first console ++ textAll second (playAll first console) := by
  induction first generalizing console with
  | nil => exact (List.nil_append _).symm
  | cons step rest inductionHypothesis =>
      rw [List.cons_append, textAll, textAll, playAll, inductionHypothesis, List.append_assoc]

end Console

/-! ### Scripts as lines -/

/-- Steps that come down to showing lines one after the other, from whatever level the console
has: the messages of the lines are reported, the text is that of the lines, and afterwards the
console has counted the messages and is otherwise as before. -/
structure Step.Shows (steps : List Step) (lines : List Line) : Prop where
  reported : Step.reportsAll steps = lines.map Line.message
  shown : ∀ console : Console,
    Console.textAll steps console = lines.flatMap console.renderLine
  counted : ∀ console : Console,
    Console.playAll steps console = (lines.map Line.message).foldl Console.report console

namespace Step.Shows

theorem nil : Shows [] [] where
  reported := rfl
  shown _ := rfl
  counted _ := rfl

theorem append {first second : List Step} {lines others : List Line}
    (showsFirst : Shows first lines) (showsSecond : Shows second others) :
    Shows (first ++ second) (lines ++ others) where
  reported := by
    rw [reportsAll_append, showsFirst.reported, showsSecond.reported, List.map_append]
  shown := by
    intro console
    rw [Console.textAll_append, showsFirst.shown, showsFirst.counted, showsSecond.shown,
      Console.renderLine_foldl_report, List.flatMap_append]
  counted := by
    intro console
    rw [Console.playAll_append, showsFirst.counted, showsSecond.counted, List.map_append,
      List.foldl_append]

theorem report (message : Message) : Shows [.report message] [{ message := message }] where
  reported := rfl
  shown console := by
    simp [Console.textAll, Console.text, Console.renderLine]
  counted _ := rfl

/-- Steps that are put together from pieces show the lines of the pieces. -/
theorem flatMap {α : Type} {steps : α → List Step} {lines : α → List Line}
    (showsEach : ∀ item, Shows (steps item) (lines item)) (items : List α) :
    Shows (items.flatMap steps) (items.flatMap lines) := by
  induction items with
  | nil => exact nil
  | cons item rest inductionHypothesis => exact (showsEach item).append inductionHypothesis

theorem reports {α : Type} (message : α → Message) (items : List α) :
    Shows (items.map fun item => .report (message item))
      (items.map fun item => { message := message item }) := by
  have showsEach := flatMap (fun item => report (message item)) items
  rwa [← List.map_eq_flatMap, ← List.map_eq_flatMap] at showsEach

/-- A scope moves the lines of its steps in, and is left at the level where it was entered. -/
theorem scope {steps : List Step} {lines : List Line} (enabled : Bool)
    (inner : Shows steps lines) :
    Shows [.scope enabled steps] (lines.map (Line.deeper (Console.scopeDepth enabled))) where
  reported := by
    rw [reportsAll, Step.reports, inner.reported, reportsAll, List.append_nil, List.map_map]
    rfl
  shown := by
    intro console
    rw [Console.textAll, Console.text, inner.shown, Console.textAll, List.append_nil,
      List.flatMap_map]
    rw [funext (console.renderLine_shift _)]
  counted := by
    intro console
    rw [Console.playAll, Console.play, Console.playAll, inner.counted,
      Console.shift_foldl_report, Console.shift_shift, Int.add_right_neg, Console.shift_zero,
      List.map_map]
    rfl

end Step.Shows

end ClassOrder
