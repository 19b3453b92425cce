/-
Module: ClassOrder.Verdict
Purpose: Judging the members of one class body, in one pass. Each checked member is compared with
  the checked member just before it: its group must not rank below the group of the preceding
  run, and inside a run its name must come strictly later. Once a run is out of place, all of it
  is.
Main exports: Verdict, Ranking.judge, Ranking.judgeInto, Ranking.verdicts, Ranking.checked,
  Ranking.judgeAll
-/
import ClassOrder.Member
import ClassOrder.Ranking

namespace ClassOrder

/-- What was found about one checked member. -/
structure Verdict where
  /-- The member that is judged. -/
  member : Member
  /-- The group in which the member takes part. -/
  group : Group
  /-- The group before the member's run of equal groups; none in the first run of a body. -/
  previousGroup : Option Group := none
  /-- The name of the member checked just before; empty for the first one. -/
  previousName : String := ""
  /-- The member's group should have come before the preceding one. -/
  isMisplaced : Bool := false
  /-- The member's name does not come after that of its neighbour in the same group. -/
  isUnsorted : Bool := false
deriving Inhabited, DecidableEq

namespace Verdict

/-- The name of the judged member. -/
def name (verdict : Verdict) : String := verdict.member.name

/-- A verdict that is silent about names. -/
def ignoringNames (verdict : Verdict) : Verdict :=
  { verdict with isUnsorted := false }

/-- The message for a misplaced member. There is none in the first run of a body. -/
def placementMessage? (verdict : Verdict) : Option String :=
  verdict.previousGroup.map fun previous =>
    verdict.group.key ++ " should be before " ++ previous.key

/-- The message for a member whose name is out of place. -/
def sortMessage (verdict : Verdict) : String :=
  verdict.name ++ " should be alphabetically before " ++ verdict.previousName

end Verdict

namespace Ranking

/-- Judge a member as part of a group, given the verdict on the member checked just before it, or
none at the start of a body. -/
def judge (ranking : Ranking) (last : Option Verdict) (member : Member) (group : Group) :
    Verdict :=
  match last with
  | none => { member := member, group := group }
  | some last =>
      { member := member
        group := group
        previousGroup := if last.group = group then last.previousGroup else some last.group
        previousName := last.name
        isMisplaced :=
          (decide (last.group = group) && last.isMisplaced) ||
            decide (ranking.rank group < ranking.rank last.group)
        isUnsorted :=
          decide (last.group = group) &&
            !decide (bytes last.name < bytes member.name) }

/-- The group in which a member is checked; none if its group is not part of the order. -/
def checkedGroup? (ranking : Ranking) (member : Member) : Option Group :=
  if ranking.contains member.group then some member.group else none

/-- Go through members in one pass and add to the verdicts so far. A member that is not checked is
passed over; any other is judged after the last verdict that there is. -/
def judgeInto (ranking : Ranking) (verdicts : List Verdict) : List Member → List Verdict
  | [] => verdicts
  | member :: rest =>
      match ranking.checkedGroup? member with
      | none => ranking.judgeInto verdicts rest
      | some group =>
          ranking.judgeInto (verdicts ++ [ranking.judge verdicts.getLast? member group]) rest

/-- One verdict for each checked member of a body. Names are judged only when `alphabetize` is
set. -/
def verdicts (ranking : Ranking) (alphabetize : Bool) (members : List Member) : List Verdict :=
  let judged := ranking.judgeInto [] members
  if alphabetize then judged else judged.map Verdict.ignoringNames

/-! ### Checked members alone -/

/-- The members that take part in checking. -/
def checked (ranking : Ranking) (members : List Member) : List Member :=
  members.filter fun member => ranking.contains member.group

/-- The indices, in the whole body, of the members that take part in checking. -/
def checkedIndices (ranking : Ranking) (members : List Member) : List Nat :=
  (members.zipIdx.filter fun entry => ranking.contains entry.1.group).map Prod.snd

/-- Judge members one after the other, each in its own group and after the verdict before it. -/
def judgeAll (ranking : Ranking) (last : Option Verdict) : List Member → List Verdict
  | [] => []
  | member :: rest =>
      let verdict := ranking.judge last member member.group
      verdict :: ranking.judgeAll (some verdict) rest

end Ranking

end ClassOrder
