/-
Module: ClassOrder.Proofs.VerdictRuns
Purpose: A description of every verdict that does not refer to other verdicts. Judging carries the
  preceding group and the misplacement through a run of equal groups; here both are read off the
  members just before and at the start of the run.
Main exports: IsRunStart, Verdict.restrict, Ranking.judgeInto_eq_append,
  Ranking.verdicts_eq_map_restrict, Ranking.ClosedVerdict, Ranking.judgeAll_getElem?_succ,
  Ranking.verdicts_closed_form
-/
import ClassOrder.Verdict
import Mathlib.Data.List.Basic

namespace ClassOrder

/-! ### Runs of equal groups -/

/-- `start` is where the maximal block of equal groups around `position` begins: the groups from
`start` to `position` are the same, and the one before `start`, if there is one, is another. -/
structure IsRunStart (groups : List Group) (position start : Nat) : Prop where
  le : start ≤ position
  constant : ∀ index, start ≤ index → index ≤ position → groups[index]? = groups[position]?
  maximal : 0 < start → groups[start - 1]? ≠ groups[position]?

namespace IsRunStart

variable {groups : List Group} {position start other : Nat}

/-- The first position starts its own run. -/
theorem zero (groups : List Group) : IsRunStart groups 0 0 where
  le := Nat.le_refl 0
  constant := by
    intro index _ indexLe
    rw [Nat.le_zero.mp indexLe]
  maximal := by
    intro positive
    exact absurd positive (Nat.lt_irrefl 0)

/-- A position whose group is that of the position before belongs to the same run. -/
theorem extend (isStart : IsRunStart groups position start)
    (same : groups[position]? = groups[position + 1]?) :
    IsRunStart groups (position + 1) start where
  le := Nat.le_succ_of_le isStart.le
  constant := by
    intro index startLe indexLe
    rcases Nat.lt_or_eq_of_le indexLe with before | here
    · rw [isStart.constant index startLe (Nat.le_of_lt_succ before), same]
    · rw [here]
  maximal := by
    intro positive
    rw [← same]
    exact isStart.maximal positive

/-- A position whose group differs from the one before starts a run. -/
theorem fresh (differs : groups[position]? ≠ groups[position + 1]?) :
    IsRunStart groups (position + 1) (position + 1) where
  le := Nat.le_refl _
  constant := by
    intro index startLe indexLe
    rw [Nat.le_antisymm indexLe startLe]
  maximal := by
    intro _
    simpa using differs

private theorem le_of_isRunStart (isStart : IsRunStart groups position start)
    (isOther : IsRunStart groups position other) : start ≤ other := by
  by_contra later
  have otherLt : other < start := Nat.lt_of_not_le later
  have startLe := isStart.le
  -- The position before `start` still lies in the block that `other` opens.
  have inside : groups[start - 1]? = groups[position]? :=
    isOther.constant (start - 1) (by omega) (by omega)
  exact isStart.maximal (by omega) inside

/-- A position belongs to one run only. -/
theorem unique (isStart : IsRunStart groups position start)
    (isOther : IsRunStart groups position other) : other = start :=
  Nat.le_antisymm (le_of_isRunStart isOther isStart) (le_of_isRunStart isStart isOther)

end IsRunStart

namespace Verdict

/-! ### Verdicts with and without names -/

/-- What is left of a verdict where names are judged, or are not. -/
def restrict (alphabetize : Bool) (verdict : Verdict) : Verdict :=
  if alphabetize then verdict else verdict.ignoringNames

@[simp] theorem restrict_member (alphabetize : Bool) (verdict : Verdict) :
    (verdict.restrict alphabetize).member = verdict.member := by
  cases alphabetize <;> rfl

@[simp] theorem restrict_group (alphabetize : Bool) (verdict : Verdict) :
    (verdict.restrict alphabetize).group = verdict.group := by
  cases alphabetize <;> rfl

end Verdict

namespace Ranking

/-! ### Members that are passed over -/

/-- Members that are passed over leave no trace: one pass over a body judges its checked members as
if they stood alone. -/
theorem judgeInto_eq_append (ranking : Ranking) (verdicts : List Verdict)
    (members : List Member) :
    ranking.judgeInto verdicts members =
      verdicts ++ ranking.judgeAll verdicts.getLast? (ranking.checked members) := by
  induction members generalizing verdicts with
  | nil => exact (List.append_nil verdicts).symm
  | cons member rest inductionHypothesis =>
      rw [judgeInto, checkedGroup?]
      by_cases isChecked : ranking.contains member.group = true
      · have kept : ranking.checked (member :: rest) = member :: ranking.checked rest :=
          List.filter_cons_of_pos isChecked
        rw [if_pos isChecked, kept, judgeAll]
        simp only [inductionHypothesis, List.getLast?_concat, List.append_assoc,
          List.singleton_append]
      · have passedOver : ranking.checked (member :: rest) = ranking.checked rest :=
          List.filter_cons_of_neg isChecked
        rw [if_neg isChecked, passedOver]
        exact inductionHypothesis verdicts

theorem verdicts_eq_map_restrict (ranking : Ranking) (alphabetize : Bool)
    (members : List Member) :
    ranking.verdicts alphabetize members =
      (ranking.judgeAll none (ranking.checked members)).map (Verdict.restrict alphabetize) := by
  have judged : ranking.judgeInto [] members = ranking.judgeAll none (ranking.checked members) :=
    ranking.judgeInto_eq_append [] members
  rw [verdicts, judged]
  cases alphabetize with
  | true => exact (List.map_id _).symm
  | false => rfl

/-! ### Judging by position -/

@[simp] theorem judge_member (ranking : Ranking) (last : Option Verdict) (member : Member)
    (group : Group) : (ranking.judge last member group).member = member := by
  cases last <;> rfl

@[simp] theorem judge_group (ranking : Ranking) (last : Option Verdict) (member : Member)
    (group : Group) : (ranking.judge last member group).group = group := by
  cases last <;> rfl

/-- A member is misplaced with its run, or because its group ranks below the one before. -/
theorem judge_isMisplaced_iff (ranking : Ranking) (last : Verdict) (member : Member)
    (group : Group) :
    (ranking.judge (some last) member group).isMisplaced = true ↔
      last.group = group ∧ last.isMisplaced = true ∨
        ranking.rank group < ranking.rank last.group := by
  simp [judge]

/-- A name is unsorted if it does not come after the one before it in the same group. -/
theorem judge_isUnsorted_iff (ranking : Ranking) (last : Verdict) (member : Member)
    (group : Group) :
    (ranking.judge (some last) member group).isUnsorted = true ↔
      last.group = group ∧ ¬ bytes last.name < bytes member.name := by
  rw [judge, Bool.and_eq_true, Bool.not_eq_true', decide_eq_true_iff, decide_eq_false_iff_not]

/-- Judging neither drops a member nor changes the order of the members. -/
@[simp] theorem judgeAll_map_member (ranking : Ranking) (last : Option Verdict)
    (members : List Member) :
    (ranking.judgeAll last members).map Verdict.member = members := by
  induction members generalizing last with
  | nil => rfl
  | cons member rest inductionHypothesis =>
      simp [judgeAll, inductionHypothesis]

@[simp] theorem judgeAll_length (ranking : Ranking) (last : Option Verdict)
    (members : List Member) : (ranking.judgeAll last members).length = members.length := by
  rw [← List.length_map Verdict.member, judgeAll_map_member]

/-- The first member is judged against whatever came before the list. -/
theorem judgeAll_getElem?_zero (ranking : Ranking) (last : Option Verdict)
    (members : List Member) :
    (ranking.judgeAll last members)[0]? =
      members[0]?.map fun member => ranking.judge last member member.group := by
  cases members with
  | nil => rfl
  | cons member rest => simp [judgeAll]

/-- Every later member is judged against the verdict just before it. -/
theorem judgeAll_getElem?_succ (ranking : Ranking) (last : Option Verdict)
    (members : List Member) (position : Nat) :
    (ranking.judgeAll last members)[position + 1]? =
      members[position + 1]?.map fun member =>
        ranking.judge (ranking.judgeAll last members)[position]? member member.group := by
  induction members generalizing last position with
  | nil => simp [judgeAll]
  | cons member rest inductionHypothesis =>
      simp only [judgeAll, List.getElem?_cons_succ]
      cases position with
      | zero =>
          rw [judgeAll_getElem?_zero]
          simp
      | succ position =>
          rw [inductionHypothesis]
          simp

/-! ### The closed form of a verdict -/

/-- What the verdict on the checked member at `position` says, where `start` begins its run. The
fields are given by the members alone. -/
structure ClosedVerdict (ranking : Ranking) (alphabetize : Bool) (checked : List Member)
    (position start : Nat) (verdict : Verdict) : Prop where
  member : checked[position]? = some verdict.member
  group : verdict.group = verdict.member.group
  name : verdict.name = verdict.member.name
  previousName :
    verdict.previousName =
      if position = 0 then "" else (checked[position - 1]?.map Member.name).getD ""
  previousGroup :
    verdict.previousGroup = if start = 0 then none else checked[start - 1]?.map Member.group
  isMisplaced :
    verdict.isMisplaced = true ↔
      0 < start ∧ ∃ previous first,
        checked[start - 1]? = some previous ∧ checked[start]? = some first ∧
          ranking.rank first.group < ranking.rank previous.group
  isUnsorted :
    verdict.isUnsorted = true ↔
      alphabetize = true ∧ 0 < position ∧ ∃ previous,
        checked[position - 1]? = some previous ∧ previous.group = verdict.group ∧
          ¬ bytes previous.name < bytes verdict.name

namespace ClosedVerdict

variable {ranking : Ranking} {alphabetize : Bool} {checked : List Member}
  {position start : Nat} {verdict : Verdict} {member : Member}

/-- The first checked member of a body. -/
theorem first (found : checked[0]? = some member) :
    ClosedVerdict ranking true checked 0 0 (ranking.judge none member member.group) where
  member := by simpa using found
  group := by simp
  name := rfl
  previousName := rfl
  previousGroup := rfl
  isMisplaced := by simp [judge]
  isUnsorted := by simp [judge]

/-- A member of the same group inherits the preceding group and the misplacement. -/
theorem inherit (closed : ClosedVerdict ranking true checked position start verdict)
    (found : checked[position + 1]? = some member) (same : verdict.group = member.group) :
    ClosedVerdict ranking true checked (position + 1) start
      (ranking.judge (some verdict) member member.group) where
  member := by simpa using found
  group := by simp
  name := rfl
  previousName := by simp [judge, closed.member, Verdict.name]
  previousGroup := by simp [judge, same, closed.previousGroup]
  isMisplaced := by
    -- Equal groups have equal ranks, so the flag can only come from the run.
    rw [judge_isMisplaced_iff, ← closed.isMisplaced]
    simp [same]
  isUnsorted := by
    have sameMember : verdict.member.group = member.group := closed.group ▸ same
    rw [judge_isUnsorted_iff]
    simp [closed.member, same, sameMember, Verdict.name]

/-- A member of another group is compared with the member just before it. -/
theorem compare (closed : ClosedVerdict ranking true checked position start verdict)
    (found : checked[position + 1]? = some member) (differs : verdict.group ≠ member.group) :
    ClosedVerdict ranking true checked (position + 1) (position + 1)
      (ranking.judge (some verdict) member member.group) where
  member := by simpa using found
  group := by simp
  name := rfl
  previousName := by simp [judge, closed.member, Verdict.name]
  previousGroup := by
    have kept : (ranking.judge (some verdict) member member.group).previousGroup =
        some verdict.group := by
      simp [judge, differs]
    rw [kept, closed.group]
    simp [closed.member]
  isMisplaced := by
    rw [judge_isMisplaced_iff]
    simp [differs, closed.member, found, ← closed.group]
  isUnsorted := by
    rw [judge_isUnsorted_iff]
    simp [differs, closed.member, ← closed.group]

/-- A verdict that is silent about names is the closed form for unsorted bodies. -/
theorem ignoringNames (closed : ClosedVerdict ranking true checked position start verdict) :
    ClosedVerdict ranking false checked position start verdict.ignoringNames where
  member := closed.member
  group := closed.group
  name := rfl
  previousName := closed.previousName
  previousGroup := closed.previousGroup
  isMisplaced := closed.isMisplaced
  isUnsorted := by simp [Verdict.ignoringNames]

end ClosedVerdict

/-- Along a whole body, every verdict has its closed form. The induction is on the position; the
start of the run moves to the new position exactly where the group changes. -/
theorem judgeAll_closed (ranking : Ranking) (checked : List Member) (position : Nat)
    {verdict : Verdict} (found : (ranking.judgeAll none checked)[position]? = some verdict) :
    ∃ start, IsRunStart (checked.map Member.group) position start ∧
      ClosedVerdict ranking true checked position start verdict := by
  induction position generalizing verdict with
  | zero =>
      rw [judgeAll_getElem?_zero] at found
      obtain ⟨member, memberFound, rfl⟩ := Option.map_eq_some_iff.mp found
      exact ⟨0, IsRunStart.zero _, ClosedVerdict.first memberFound⟩
  | succ position inductionHypothesis =>
      rw [judgeAll_getElem?_succ] at found
      obtain ⟨member, memberFound, rfl⟩ := Option.map_eq_some_iff.mp found
      have inBody : position < checked.length :=
        Nat.lt_of_succ_lt (List.getElem?_eq_some_iff.mp memberFound).1
      obtain ⟨last, lastFound⟩ : ∃ last, (ranking.judgeAll none checked)[position]? = some last :=
        ⟨_, List.getElem?_eq_getElem (by simpa using inBody)⟩
      obtain ⟨start, isStart, closed⟩ := inductionHypothesis lastFound
      have lastGroup : (checked.map Member.group)[position]? = some last.group := by
        simp [closed.member, closed.group]
      have memberGroup : (checked.map Member.group)[position + 1]? = some member.group := by
        simp [memberFound]
      rw [lastFound]
      by_cases same : last.group = member.group
      · have sameGroup :
            (checked.map Member.group)[position]? = (checked.map Member.group)[position + 1]? := by
          rw [lastGroup, memberGroup, same]
        exact ⟨start, isStart.extend sameGroup, closed.inherit memberFound same⟩
      · have otherGroup :
            (checked.map Member.group)[position]? ≠ (checked.map Member.group)[position + 1]? := by
          rw [lastGroup, memberGroup]
          exact fun equal => same (Option.some.inj equal)
        exact ⟨position + 1, IsRunStart.fresh otherGroup, closed.compare memberFound same⟩

/-- The members of the verdicts are the checked members, whether or not names are judged. -/
theorem verdicts_map_member (ranking : Ranking) (alphabetize : Bool) (members : List Member) :
    (ranking.verdicts alphabetize members).map Verdict.member = ranking.checked members := by
  have kept : Verdict.member ∘ Verdict.restrict alphabetize = Verdict.member :=
    funext (Verdict.restrict_member alphabetize)
  rw [verdicts_eq_map_restrict, List.map_map, kept, judgeAll_map_member]

theorem verdicts_closed (ranking : Ranking) (alphabetize : Bool) (members : List Member)
    (position : Nat) {verdict : Verdict}
    (found : (ranking.verdicts alphabetize members)[position]? = some verdict) :
    ∃ start, IsRunStart ((ranking.checked members).map Member.group) position start ∧
      ClosedVerdict ranking alphabetize (ranking.checked members) position start verdict := by
  rw [verdicts_eq_map_restrict, List.getElem?_map] at found
  obtain ⟨judged, judgedFound, rfl⟩ := Option.map_eq_some_iff.mp found
  obtain ⟨start, isStart, closed⟩ :=
    ranking.judgeAll_closed (ranking.checked members) position judgedFound
  cases alphabetize with
  | true => exact ⟨start, isStart, closed⟩
  | false => exact ⟨start, isStart, closed.ignoringNames⟩

/-- The verdicts on a body, without recursion: there is one for each member whose group is in the
order, in source order, and the one at `position` is determined by the members alone, through the
start of the only maximal run that contains it. -/
theorem verdicts_closed_form (ranking : Ranking) (alphabetize : Bool) (members : List Member) :
    (ranking.verdicts alphabetize members).map Verdict.member =
        members.filter (fun member => ranking.contains member.group) ∧
      ∀ position : Fin (ranking.checked members).length, ∃ verdict start,
        (ranking.verdicts alphabetize members)[position.val]? = some verdict ∧
          IsRunStart ((ranking.checked members).map Member.group) position start ∧
          (∀ other, IsRunStart ((ranking.checked members).map Member.group) position other →
            other = start) ∧
          ClosedVerdict ranking alphabetize (ranking.checked members) position start verdict := by
  refine ⟨ranking.verdicts_map_member alphabetize members, ?_⟩
  intro position
  have verdictsLength :
      (ranking.verdicts alphabetize members).length = (ranking.checked members).length := by
    rw [← List.length_map Verdict.member, verdicts_map_member]
  have found := List.getElem?_eq_getElem (Nat.lt_of_lt_of_eq position.isLt verdictsLength.symm)
  obtain ⟨start, isStart, closed⟩ := ranking.verdicts_closed alphabetize members position found
  exact ⟨_, start, found, isStart, fun _ isOther => isStart.unique isOther, closed⟩

end Ranking

end ClassOrder
