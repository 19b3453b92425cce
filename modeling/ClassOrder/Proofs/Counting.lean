/-
Module: ClassOrder.Proofs.Counting
Purpose: What counting messages does to a console. Messages that are reported one after the other
  add their number to each count, severity by severity, and silenced ones to none; the level and
  the terminal stay as they are. All that is said about counts goes back to this.
Main exports: Console.count_report, Console.count_foldl_report, Console.indent_foldl_report,
  Severity.IsHarmless, Console.errors_foldl_report_eq_zero_iff
-/
import ClassOrder.Console
import Mathlib.Data.List.Basic

namespace ClassOrder

/-- A severity that does not count as an error. -/
def Severity.IsHarmless (severity : Severity) : Prop :=
  severity ≠ .error ∧ severity ≠ .fatal

namespace Console

theorem count_report (console : Console) (message : Message) (severity : Severity) :
    (console.report message).tally.count severity =
      console.tally.count severity +
        if message.severity = severity ∧ severity ≠ .off then 1 else 0 := by
  rw [report]
  by_cases silenced : message.severity = .off
  · have notCounted : ¬ (message.severity = severity ∧ severity ≠ .off) := by
      rintro ⟨same, speaks⟩
      exact speaks (same.symm.trans silenced)
    rw [if_pos silenced, if_neg notCounted, Nat.add_zero]
  · rw [if_neg silenced, Tally.count_add]
    congr 2
    refine propext ⟨?_, And.left⟩
    intro same
    exact ⟨same, fun isOff => silenced (same.trans isOff)⟩

/-- Messages add to whatever was counted before them. -/
theorem count_foldl_report (messages : List Message) (console : Console) (severity : Severity) :
    (messages.foldl report console).tally.count severity =
      console.tally.count severity +
        messages.countP fun message => message.severity = severity ∧ severity ≠ .off := by
  induction messages generalizing console with
  | nil => rfl
  | cons message rest inductionHypothesis =>
      rw [List.foldl_cons, inductionHypothesis, count_report, List.countP_cons]
      simp only [decide_eq_true_eq]
      omega

@[simp] theorem indent_report (console : Console) (message : Message) :
    (console.report message).indent = console.indent := by
  rw [report]
  split <;> rfl

theorem indent_foldl_report (messages : List Message) (console : Console) :
    (messages.foldl report console).indent = console.indent := by
  induction messages generalizing console with
  | nil => rfl
  | cons message rest inductionHypothesis =>
      rw [List.foldl_cons, inductionHypothesis, indent_report]

/-- Messages leave a console without errors exactly when there were none before and none of the
messages is one. -/
theorem errors_foldl_report_eq_zero_iff (messages : List Message) (console : Console) :
    (messages.foldl report console).errors = 0 ↔
      console.errors = 0 ∧ ∀ message ∈ messages, message.severity.IsHarmless := by
  have errorCount := count_foldl_report messages console .error
  have fatalCount := count_foldl_report messages console .fatal
  have noError : (messages.countP fun message =>
      message.severity = .error ∧ Severity.error ≠ .off) = 0 ↔
        ∀ message ∈ messages, message.severity ≠ .error := by
    rw [List.countP_eq_zero]
    simp
  have noFatal : (messages.countP fun message =>
      message.severity = .fatal ∧ Severity.fatal ≠ .off) = 0 ↔
        ∀ message ∈ messages, message.severity ≠ .fatal := by
    rw [List.countP_eq_zero]
    simp
  simp only [Severity.IsHarmless, forall₂_and, ← noError, ← noFatal]
  simp only [Tally.count] at errorCount fatalCount
  rw [errors, errors, errorCount, fatalCount]
  omega

end Console

end ClassOrder
