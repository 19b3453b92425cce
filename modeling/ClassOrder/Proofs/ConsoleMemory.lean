/-
Module: ClassOrder.Proofs.ConsoleMemory
Purpose: What a console remembers over a whole run. A run is a tree of steps; its steps are listed
  in the order in which they end, a scope after the steps inside it. From this list the counts can
  be read off at every moment of the run, and the level at its end if no step sets it outright.
  Counts and level do not see each other.
Main exports: Step.finishedAll, Trace.finishedAll, Step.messagesSinceReset, Console.tally_playAll,
  Console.tallies_traceAll, Step.countEvents, Step.levelOnlyAll,
  Console.indent_playAll_levelOnlyAll, Console.indent_playAll, Console.HasCounted,
  Console.remembers_counts_and_level
-/
import ClassOrder.Proofs.Counting
import ClassOrder.Proofs.ScriptLines
import Mathlib.Data.List.DropRight
import Mathlib.Data.List.Forall2

namespace ClassOrder

/-! ### A run in the order in which its steps end -/

namespace Step

mutual

/-- A step and the steps inside it, in the order in which they end. -/
def finished : Step → List Step
  | .scope enabled steps => finishedAll steps ++ [.scope enabled steps]
  | step => [step]

/-- Steps and the steps inside them, in the order in which they end. -/
def finishedAll : List Step → List Step
  | [] => []
  | step :: rest => finished step ++ finishedAll rest

end

end Step

namespace Trace

mutual

/-- A trace and those inside it, in the order in which their steps end. -/
def finished : Trace → List Trace
  | ⟨before, after, shown, inner⟩ => finishedAll inner ++ [⟨before, after, shown, inner⟩]

def finishedAll : List Trace → List Trace
  | [] => []
  | trace :: rest => finished trace ++ finishedAll rest

end

end Trace

/-! ### Counts -/

/-- What a step can do to the counts. -/
inductive CountEvent where
  | counted (severity : Severity)
  | forgotten
deriving DecidableEq

/-- The counts after an event. Silenced messages are not counted. -/
def Tally.after (tally : Tally) : CountEvent → Tally
  | .counted severity => if severity = .off then tally else tally.add severity
  | .forgotten => {}

namespace Step

/-- What a step does to the counts by itself. The steps inside a scope have their own events. -/
def countEvent? : Step → Option CountEvent
  | .report message => some (.counted message.severity)
  | .reset => some .forgotten
  | .indent | .unindent | .setIndent _ | .setTerminal _ | .scope _ _ => none

/-- The events of a run that the counts depend on. -/
def countEvents (steps : List Step) : List CountEvent :=
  (finishedAll steps).filterMap countEvent?

end Step

/-- The counts after a step has ended, given those before. -/
def Tally.afterStep (tally : Tally) (step : Step) : Tally :=
  match step.countEvent? with
  | some event => tally.after event
  | none => tally

namespace Console

theorem tally_report (console : Console) (message : Message) :
    (console.report message).tally = console.tally.after (.counted message.severity) := by
  rw [report, Tally.after]
  split <;> rfl

mutual

theorem tally_play : ∀ (step : Step) (console : Console),
    (play step console).tally = step.finished.foldl Tally.afterStep console.tally
  | .report message, console => console.tally_report message
  | .indent, _ => rfl
  | .unindent, _ => rfl
  | .setIndent _, _ => rfl
  | .reset, _ => rfl
  | .setTerminal _, _ => rfl
  | .scope enabled steps, console => by
      rw [Step.finished, List.foldl_append]
      exact tally_playAll steps (console.shift (scopeDepth enabled))

/-- The counts after a run are those that its steps leave one after the other. -/
theorem tally_playAll : ∀ (steps : List Step) (console : Console),
    (playAll steps console).tally =
      (Step.finishedAll steps).foldl Tally.afterStep console.tally
  | [], _ => rfl
  | step :: rest, console => by
      rw [playAll, Step.finishedAll, List.foldl_append, tally_playAll rest, tally_play step]

end

mutual

theorem tallies_trace : ∀ (step : Step) (console : Console),
    (trace step console).finished.map (fun moment => moment.after.tally) =
      (step.finished.scanl Tally.afterStep console.tally).tail
  | .report message, console => congrArg (fun tally => [tally]) (console.tally_report message)
  | .indent, _ => rfl
  | .unindent, _ => rfl
  | .setIndent _, _ => rfl
  | .reset, _ => rfl
  | .setTerminal _, _ => rfl
  | .scope enabled steps, console => by
      have inner := tallies_traceAll steps (console.shift (scopeDepth enabled))
      have last := tally_play (.scope enabled steps) console
      rw [Step.finished, List.foldl_append] at last
      rw [trace, Trace.finished, List.map_append, inner, Step.finished, List.scanl_append,
        List.tail_append_of_ne_nil List.scanl_ne_nil]
      exact congrArg (fun tally => _ ++ [tally]) last

/-- The counts at every moment of a run are those that the steps up to then leave. -/
theorem tallies_traceAll : ∀ (steps : List Step) (console : Console),
    (Trace.finishedAll (traceAll steps console)).map (fun moment => moment.after.tally) =
      ((Step.finishedAll steps).scanl Tally.afterStep console.tally).tail
  | [], _ => rfl
  | step :: rest, console => by
      rw [traceAll, Trace.finishedAll, List.map_append, tallies_trace step,
        tallies_traceAll rest, Step.finishedAll, List.scanl_append,
        List.tail_append_of_ne_nil List.scanl_ne_nil, tally_play step]

end

mutual

theorem forall₂_trace : ∀ (step : Step) (console : Console),
    List.Forall₂ (fun step moment => moment = trace step moment.before) step.finished
      (trace step console).finished
  | .report _, _ => .cons rfl .nil
  | .indent, _ => .cons rfl .nil
  | .unindent, _ => .cons rfl .nil
  | .setIndent _, _ => .cons rfl .nil
  | .reset, _ => .cons rfl .nil
  | .setTerminal _, _ => .cons rfl .nil
  | .scope enabled steps, console => by
      have inner := forall₂_traceAll steps (console.shift (scopeDepth enabled))
      rw [Step.finished, trace, Trace.finished]
      exact List.rel_append inner (.cons rfl .nil)

/-- The moments of a run are those at which its steps end. -/
theorem forall₂_traceAll : ∀ (steps : List Step) (console : Console),
    List.Forall₂ (fun step moment => moment = trace step moment.before) (Step.finishedAll steps)
      (Trace.finishedAll (traceAll steps console))
  | [], _ => .nil
  | step :: rest, console => by
      rw [Step.finishedAll, traceAll, Trace.finishedAll]
      exact List.rel_append (forall₂_trace step console) (forall₂_traceAll rest _)

end

/-- The counts at a moment are those of a run that is broken off there. -/
theorem tally_of_moment {steps : List Step} {console : Console} {position : Nat} {moment : Trace}
    (isMoment : (Trace.finishedAll (traceAll steps console))[position]? = some moment) :
    moment.after.tally =
      ((Step.finishedAll steps).take (position + 1)).foldl Tally.afterStep console.tally := by
  have seen := congrArg (·[position]?) (tallies_traceAll steps console)
  simp only [List.getElem?_map, isMoment, List.getElem?_tail, List.getElem?_scanl] at seen
  split at seen
  · exact Option.some.inj seen
  · cases seen

end Console

/-! ### Messages since the last reset -/

namespace Step

def isReset : Step → Bool
  | .reset => true
  | _ => false

def message? : Step → Option Message
  | .report message => some message
  | _ => none

/-- The messages among finished steps that come after the last reset. -/
def messagesSinceReset (finished : List Step) : List Message :=
  (finished.rtakeWhile fun step => !step.isReset).filterMap message?

theorem messagesSinceReset_concat (finished : List Step) (step : Step) :
    messagesSinceReset (finished ++ [step]) =
      if step.isReset then [] else messagesSinceReset finished ++ step.message?.toList := by
  rw [messagesSinceReset, List.rtakeWhile_concat]
  cases step <;> simp [isReset, message?, messagesSinceReset]

end Step

/-- From empty counts, steps leave what reporting the messages since the last reset would. -/
theorem Tally.foldl_afterStep_eq_tally (steps : List Step) :
    steps.foldl Tally.afterStep {} =
      ((Step.messagesSinceReset steps).foldl Console.report {}).tally := by
  induction steps using List.reverseRecOn with
  | nil => rfl
  | append_singleton steps step inductionHypothesis =>
      rw [List.foldl_append, List.foldl_cons, List.foldl_nil, Step.messagesSinceReset_concat,
        inductionHypothesis]
      cases step with
      | report message =>
          simp only [Step.isReset, Bool.false_eq_true, if_false, Step.message?, Option.toList_some,
            List.foldl_append, List.foldl_cons, List.foldl_nil, Console.tally_report]
          rfl
      | reset => rfl
      | indent | unindent | setIndent | setTerminal | scope =>
          simp [Step.isReset, Step.message?, Tally.afterStep, Step.countEvent?]

theorem Tally.foldl_afterStep_eq (steps : List Step) (tally : Tally) :
    steps.foldl Tally.afterStep tally =
      (steps.filterMap Step.countEvent?).foldl Tally.after tally := by
  induction steps generalizing tally with
  | nil => rfl
  | cons step rest inductionHypothesis =>
      rw [List.foldl_cons, inductionHypothesis, Tally.afterStep, List.filterMap_cons]
      cases step.countEvent? <;> rfl

/-! ### The level -/

namespace Step

mutual

/-- What is left of a step without messages, resets and changes of the terminal. -/
def levelOnly : Step → List Step
  | .report _ | .reset | .setTerminal _ => []
  | .indent => [.indent]
  | .unindent => [.unindent]
  | .setIndent level => [.setIndent level]
  | .scope enabled steps => [.scope enabled (levelOnlyAll steps)]

def levelOnlyAll : List Step → List Step
  | [] => []
  | step :: rest => levelOnly step ++ levelOnlyAll rest

end

def isIndent : Step → Bool
  | .indent => true
  | _ => false

def isUnindent : Step → Bool
  | .unindent => true
  | _ => false

/-- How far finished steps go in, if none sets the level outright. -/
def levels (finished : List Step) : Int :=
  finished.countP isIndent - finished.countP isUnindent

theorem levels_append (first second : List Step) :
    levels (first ++ second) = levels first + levels second := by
  simp only [levels, List.countP_append, Int.natCast_add]
  omega

end Step

namespace Console

@[simp] theorem indent_shift (console : Console) (levels : Int) :
    (console.shift levels).indent = console.indent + levels := rfl

mutual

theorem indent_play_levelOnly : ∀ (step : Step) {console other : Console},
    console.indent = other.indent →
      (play step console).indent = (playAll step.levelOnly other).indent
  | .report message, console, _, same => (console.indent_report message).trans same
  | .indent, _, _, same => congrArg (· + 1) same
  | .unindent, _, _, same => congrArg (· + -1) same
  | .setIndent _, _, _, _ => rfl
  | .reset, _, _, same => same
  | .setTerminal _, _, _, same => same
  | .scope enabled steps, console, other, same => by
      have deeper : (console.shift (scopeDepth enabled)).indent =
          (other.shift (scopeDepth enabled)).indent := congrArg (· + scopeDepth enabled) same
      rw [Step.levelOnly, playAll, playAll, play, play, indent_shift, indent_shift,
        indent_playAll_levelOnlyAll steps deeper]

/-- The level depends only on the steps that are about it, and on where the run started. -/
theorem indent_playAll_levelOnlyAll : ∀ (steps : List Step) {console other : Console},
    console.indent = other.indent →
      (playAll steps console).indent = (playAll (Step.levelOnlyAll steps) other).indent
  | [], _, _, same => same
  | step :: rest, _, _, same => by
      rw [playAll, Step.levelOnlyAll, playAll_append]
      exact indent_playAll_levelOnlyAll rest (indent_play_levelOnly step same)

end

mutual

theorem indent_play : ∀ (step : Step) (console : Console),
    (∀ level, .setIndent level ∉ step.finished) →
      (play step console).indent = console.indent + Step.levels step.finished
  | .report message, console, _ => by
      rw [play, indent_report]
      exact (Int.add_zero _).symm
  | .indent, _, _ => rfl
  | .unindent, _, _ => rfl
  | .setIndent level, _, noJump => absurd List.mem_cons_self (noJump level)
  | .reset, console, _ => (Int.add_zero console.indent).symm
  | .setTerminal _, console, _ => (Int.add_zero console.indent).symm
  | .scope enabled steps, console, noJump => by
      have inner := indent_playAll steps (console.shift (scopeDepth enabled)) fun level isStep =>
        noJump level (by rw [Step.finished]; exact List.mem_append_left _ isStep)
      have neutral : Step.levels [.scope enabled steps] = 0 := rfl
      rw [play, indent_shift, inner, indent_shift, Step.finished, Step.levels_append, neutral]
      omega

/-- Where no step sets the level outright, the steps that go in and out are what counts, however
deep they stand: each scope goes out by as much as it went in. -/
theorem indent_playAll : ∀ (steps : List Step) (console : Console),
    (∀ level, .setIndent level ∉ Step.finishedAll steps) →
      (playAll steps console).indent =
        console.indent + Step.levels (Step.finishedAll steps)
  | [], console, _ => (Int.add_zero console.indent).symm
  | step :: rest, console, noJump => by
      have first := indent_play step console fun level isStep =>
        noJump level (by rw [Step.finishedAll]; exact List.mem_append_left _ isStep)
      have later := indent_playAll rest (play step console) fun level isStep =>
        noJump level (by rw [Step.finishedAll]; exact List.mem_append_right _ isStep)
      rw [playAll, later, first, Step.finishedAll, Step.levels_append, Int.add_assoc]

end

/-! ### Whole runs -/

/-- A console has counted, among finished steps, the messages after the last reset: each severity
has the number of its messages, except that silenced messages are never counted. -/
structure HasCounted (console : Console) (finished : List Step) : Prop where
  counts : ∀ severity, severity ≠ .off →
    console.tally.count severity =
      (Step.messagesSinceReset finished).countP fun message => message.severity == severity
  silenced : console.tally.count .off = 0
  errors : console.errors = console.tally.count .error + console.tally.count .fatal

theorem HasCounted.of_tally {console : Console} {finished : List Step}
    (isFolded : console.tally = finished.foldl Tally.afterStep {}) :
    console.HasCounted finished := by
  have counted : ∀ severity, console.tally.count severity =
      (Step.messagesSinceReset finished).countP
        fun message => message.severity = severity ∧ severity ≠ .off := by
    intro severity
    rw [isFolded, Tally.foldl_afterStep_eq_tally, count_foldl_report, Tally.count_empty,
      Nat.zero_add]
  constructor
  case counts =>
    intro severity notOff
    rw [counted severity]
    simp only [notOff, ne_eq, not_false_eq_true, and_true]
    rfl
  case silenced =>
    rw [counted .off, List.countP_eq_zero]
    simp
  case errors => rfl

/-- What a console remembers over a run that starts from empty counts, at any level. At each moment,
when a step has just ended, and after the run the counts are those of the messages since the last
reset; silenced messages show nothing and change nothing. Counts depend on the severities and the
resets alone, and the level on the steps that are about it. If no step sets the level outright, the
run moves it by the steps that go in less those that go out, so that a scope around the run makes no
difference; in general a scope goes back by one from the level that its steps left. -/
theorem remembers_counts_and_level (steps : List Step) (level : Int) (isTerminal : Bool) :
    let console : Console := { indent := level, isTerminal := isTerminal }
    let final := playAll steps console
    let finished := Step.finishedAll steps
    let moments := Trace.finishedAll (traceAll steps console)
    (List.Forall₂ (fun step moment => moment = trace step moment.before) finished moments ∧
      (∀ (position : Nat) (moment : Trace), moments[position]? = some moment →
        moment.after.HasCounted (finished.take (position + 1))) ∧
      final.HasCounted finished) ∧
    (∀ (any : Console) (message : Message), message.severity = .off →
      any.render message = [] ∧ any.report message = any) ∧
    ((∀ (others : List Step) (other : Console),
        Step.countEvents others = Step.countEvents steps → other.tally = console.tally →
          (playAll others other).tally = final.tally) ∧
      ∀ (others : List Step) (other : Console),
        Step.levelOnlyAll others = Step.levelOnlyAll steps → other.indent = level →
          (playAll others other).indent = final.indent) ∧
    ((∀ target, .setIndent target ∉ finished) →
      final.indent = level + finished.countP Step.isIndent - finished.countP Step.isUnindent ∧
        ∀ enabled, (play (.scope enabled steps) console).indent = final.indent) ∧
    ∀ (enabled : Bool) (inner : List Step) (any : Console),
      (play (.scope enabled inner) any).indent =
        if enabled then (playAll inner { any with indent := any.indent + 1 }).indent - 1
        else (playAll inner any).indent := by
  intro console final finished moments
  refine ⟨⟨forall₂_traceAll steps console, ?_, ?_⟩, ?_, ⟨?_, ?_⟩, ?_, ?_⟩
  · intro position moment isMoment
    exact HasCounted.of_tally (tally_of_moment isMoment)
  · exact HasCounted.of_tally (tally_playAll steps console)
  · intro any message silenced
    exact ⟨if_pos silenced, if_pos silenced⟩
  · intro others other sameEvents sameTally
    rw [Step.countEvents, Step.countEvents] at sameEvents
    rw [tally_playAll, tally_playAll, Tally.foldl_afterStep_eq, Tally.foldl_afterStep_eq,
      sameEvents, sameTally]
  · intro others other sameSteps sameLevel
    have toConsole : (playAll others other).indent =
        (playAll (Step.levelOnlyAll others) console).indent :=
      indent_playAll_levelOnlyAll others sameLevel
    rw [toConsole, sameSteps]
    exact (indent_playAll_levelOnlyAll steps rfl).symm
  · intro noJump
    have moved : final.indent = console.indent + Step.levels (Step.finishedAll steps) :=
      indent_playAll steps console noJump
    constructor
    · rw [moved, Step.levels]
      exact (Int.add_sub_assoc _ _ _).symm
    · intro enabled
      rw [play, indent_shift, indent_playAll steps _ noJump, indent_shift, moved]
      omega
  · intro enabled inner any
    cases enabled with
    | false =>
        rw [play, indent_shift, scopeDepth]
        simp
    | true => rfl

/-- A scope with another scope and a reset inside it. The error before the reset is forgotten, and
two steps in and one step out leave the console one level further in. -/
theorem remembers_counts_and_level_nested :
    let inner : List Step :=
      [.indent, .reset, .scope false [.unindent, .report { severity := .off, text := "hush" }],
        .report (.status "done")]
    let steps : List Step :=
      [.report (.error "early"), .scope true inner, .setTerminal true, .indent,
        .report (.error "late")]
    let final := playAll steps { indent := 3 }
    (∀ target, .setIndent target ∉ Step.finishedAll steps) ∧ final.indent = 4 ∧
      final.tally.count .error = 1 ∧ final.tally.count .status = 1 ∧ final.errors = 1 := by
  intro inner steps final
  have noJump : ∀ target, .setIndent target ∉ Step.finishedAll steps := by
    simp [steps, inner, Step.finishedAll, Step.finished]
  obtain ⟨⟨_, _, counted⟩, _, _, levels, _⟩ := remembers_counts_and_level steps 3 false
  refine ⟨noJump, (levels noJump).1, counted.counts .error (by decide),
    counted.counts .status (by decide), counted.errors⟩

end Console

end ClassOrder
