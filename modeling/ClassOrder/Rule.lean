/-
Module: ClassOrder.Rule
Purpose: The member-ordering rule: a group order, whether names are checked, and the severity of
  what it finds. Checking a unit lists the misplaced members of all bodies first and the unsorted
  ones after them.
Main exports: Issue, Issue.toMessage, Rule, Rule.verdicts, Rule.issues
-/
import ClassOrder.Message
import ClassOrder.Verdict

namespace ClassOrder

/-- A problem that a rule found. -/
structure Issue where
  ruleId : String
  severity : Severity
  location : Location
  message : String
deriving Inhabited, DecidableEq

/-- The message that reports an issue ends with the identifier of the rule. -/
def Issue.toMessage (issue : Issue) : Message :=
  { severity := issue.severity
    location := issue.location
    text := issue.message ++ " [" ++ issue.ruleId ++ "]" }

/-- A configured member-ordering rule. -/
structure Rule where
  ranking : Ranking
  alphabetize : Bool := false
  severity : Severity := .warning
deriving Inhabited, DecidableEq

namespace Rule

/-- The identifier of the rule, in configurations and in messages. -/
def id : String := "member-ordering"

/-- Where the rule is documented. -/
def helpUrl : String := "https://git.io/JJwqN"

/-- The verdicts on the members of one body. -/
def verdicts (rule : Rule) (body : ClassBody) : List Verdict :=
  rule.ranking.verdicts rule.alphabetize body.members

/-- An issue of this rule about the member of a verdict. -/
def issueAbout (rule : Rule) (verdict : Verdict) (message : String) : Issue :=
  { ruleId := id
    severity := rule.severity
    location := verdict.member.location
    message := message }

/-- The issue that a misplaced member gives rise to. -/
def placementIssue? (rule : Rule) (verdict : Verdict) : Option Issue :=
  if verdict.isMisplaced then verdict.placementMessage?.map (rule.issueAbout verdict) else none

/-- The issue that a member with an unsorted name gives rise to. -/
def sortIssue? (rule : Rule) (verdict : Verdict) : Option Issue :=
  if verdict.isUnsorted then some (rule.issueAbout verdict verdict.sortMessage) else none

/-- Check all bodies of a unit. The issues about groups come first, then those about names if the
rule checks names, each in source order. -/
def issues (rule : Rule) (unit : SourceUnit) : List Issue :=
  let verdicts := unit.bodies.flatMap rule.verdicts
  verdicts.filterMap rule.placementIssue? ++
    if rule.alphabetize then verdicts.filterMap rule.sortIssue? else []

end Rule

end ClassOrder
