/-
Module: ClassOrder.Console.Script
Purpose: What happens at a console, as data: a tree of steps. A step changes the console and may
  show text; a scope plays its own steps one level deeper and steps back afterwards.
Main exports: Step, Console.play, Console.playAll, Console.text, Console.textAll, Trace,
  Console.trace
-/
import ClassOrder.Console

namespace ClassOrder

/-- One step at a console. -/
inductive Step where
  /-- Show a message and count it. -/
  | report (message : Message)
  /-- Go one level deeper. -/
  | indent
  /-- Go one level back. -/
  | unindent
  /-- Go to a given level. -/
  | setIndent (level : Int)
  /-- Forget all counts. -/
  | reset
  /-- From now on the output is a terminal, or is none. -/
  | setTerminal (isTerminal : Bool)
  /-- Play steps one level deeper, or at the same level if the scope is not enabled. -/
  | scope (enabled : Bool) (steps : List Step)
deriving Inhabited

namespace Console

/-- Change the level by a number of steps, which may be negative. -/
def shift (console : Console) (levels : Int) : Console :=
  { console with indent := console.indent + levels }

/-- How far a scope goes in. -/
def scopeDepth (enabled : Bool) : Int := if enabled then 1 else 0

/-- Forget all counts. The level stays. -/
def reset (console : Console) : Console :=
  { console with tally := {} }

mutual

/-- The console after a step. A scope goes back by as much as it went in, from whatever level its
steps left. -/
def play : Step → Console → Console
  | .report message, console => console.report message
  | .indent, console => console.shift 1
  | .unindent, console => console.shift (-1)
  | .setIndent level, console => { console with indent := level }
  | .reset, console => console.reset
  | .setTerminal isTerminal, console => { console with isTerminal := isTerminal }
  | .scope enabled steps, console =>
      (playAll steps (console.shift (scopeDepth enabled))).shift (-scopeDepth enabled)

/-- The console after steps in order. -/
def playAll : List Step → Console → Console
  | [], console => console
  | step :: rest, console => playAll rest (play step console)

end

mutual

/-- The text that a step shows, that of inner steps included. -/
def text : Step → Console → Bytes
  | .report message, console => console.render message
  | .scope enabled steps, console => textAll steps (console.shift (scopeDepth enabled))
  | _, _ => []

/-- The text that steps show in order. -/
def textAll : List Step → Console → Bytes
  | [], _ => []
  | step :: rest, console => text step console ++ textAll rest (play step console)

end

end Console

/-! ### Traces -/

/-- What one step did. The text of a scope's inner steps is in their own traces. -/
structure Trace where
  before : Console
  after : Console
  shown : Bytes
  inner : List Trace

namespace Console

mutual

/-- Trace one step. -/
def trace : Step → Console → Trace
  | .report message, console =>
      ⟨console, console.report message, console.render message, []⟩
  | .scope enabled steps, console =>
      ⟨console, play (.scope enabled steps) console, [],
        traceAll steps (console.shift (scopeDepth enabled))⟩
  | step, console => ⟨console, play step console, [], []⟩

/-- Trace steps in order. -/
def traceAll : List Step → Console → List Trace
  | [], _ => []
  | step :: rest, console => trace step console :: traceAll rest (play step console)

end

end Console

end ClassOrder
