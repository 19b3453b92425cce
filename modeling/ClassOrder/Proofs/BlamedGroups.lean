/-
Module: ClassOrder.Proofs.BlamedGroups
Purpose: A verdict never blames the wrong group. The preceding group and the misplacement are
  handed on through a run independently of each other, also by groups that are not in the order;
  one invariant ties them together, whatever verdicts came before. A message about a misplaced
  member therefore always exists, and names two groups of the order the right way round.
Main exports: Ranking.IsGiven, Ranking.BlamesTruly, Ranking.IsGiven.blamesTruly,
  Ranking.blame_is_true
-/
import ClassOrder.Proofs.Ranking
import ClassOrder.Proofs.UnitIssues

namespace ClassOrder

namespace Ranking

variable {ranking : Ranking} {verdict last : Verdict}

/-! ### All that judging can give -/

/-- The verdicts that judging can give. A step takes any member and any group, in the order or
not. It follows no verdict, or any one that was given before: histories may branch. -/
inductive IsGiven (ranking : Ranking) : Verdict → Prop where
  | first (member : Member) (group : Group) : IsGiven ranking (ranking.judge none member group)
  | next {last : Verdict} (given : IsGiven ranking last) (member : Member) (group : Group) :
      IsGiven ranking (ranking.judge (some last) member group)

/-- What a verdict says about placement is true. The group that it blames is another one, and the
member is misplaced exactly if there is such a group and it ranks after that of the member. -/
structure BlamesTruly (ranking : Ranking) (verdict : Verdict) : Prop where
  differs : ∀ previous, verdict.previousGroup = some previous → previous ≠ verdict.group
  isMisplaced :
    verdict.isMisplaced = true ↔
      ∃ previous, verdict.previousGroup = some previous ∧
        ranking.rank verdict.group < ranking.rank previous

namespace BlamesTruly

/-- A first verdict blames no group. -/
theorem first (ranking : Ranking) (member : Member) (group : Group) :
    ranking.BlamesTruly (ranking.judge none member group) where
  differs := by
    intro previous isPrevious
    cases isPrevious
  isMisplaced := by simp [judge]

/-- Inside a run the blame is that of the last verdict: equal groups have equal ranks, so the step
itself finds nothing. -/
theorem inherit (blames : ranking.BlamesTruly last) (member : Member) :
    ranking.BlamesTruly (ranking.judge (some last) member last.group) where
  differs := by
    intro previous isPrevious
    apply blames.differs
    simpa [judge] using isPrevious
  isMisplaced := by
    rw [judge_isMisplaced_iff, blames.isMisplaced]
    simp [judge]

/-- A member of another group blames the group just before it, or none. What the last verdict said
is not looked at. -/
theorem compare (ranking : Ranking) (member : Member) {group : Group}
    (changes : last.group ≠ group) :
    ranking.BlamesTruly (ranking.judge (some last) member group) where
  differs := by
    intro previous isPrevious
    have isLast : last.group = previous := by simpa [judge, changes] using isPrevious
    rw [← isLast, judge_group]
    exact changes
  isMisplaced := by
    rw [judge_isMisplaced_iff]
    simp [judge, changes]

end BlamesTruly

/-- One step keeps the blame true. -/
theorem BlamesTruly.judge (blames : ranking.BlamesTruly last) (member : Member) (group : Group) :
    ranking.BlamesTruly (ranking.judge (some last) member group) := by
  by_cases same : last.group = group
  · rw [← same]
    exact blames.inherit member
  · exact .compare ranking member same

/-- So does every history. -/
theorem IsGiven.blamesTruly (given : ranking.IsGiven verdict) : ranking.BlamesTruly verdict := by
  induction given with
  | first member group => exact .first ranking member group
  | next _ member group inductionHypothesis => exact inductionHypothesis.judge member group

/-! ### The verdicts on a body -/

/-- The verdicts on a body are one such history. -/
theorem isGiven_of_mem_judgeAll {last : Option Verdict}
    (lastGiven : ∀ verdict ∈ last, ranking.IsGiven verdict) (members : List Member)
    (isVerdict : verdict ∈ ranking.judgeAll last members) : ranking.IsGiven verdict := by
  induction members generalizing last with
  | nil => cases isVerdict
  | cons member rest inductionHypothesis =>
      have stepGiven : ranking.IsGiven (ranking.judge last member member.group) := by
        cases last with
        | none => exact .first member member.group
        | some last => exact .next (lastGiven last rfl) member member.group
      rw [judgeAll, List.mem_cons] at isVerdict
      rcases isVerdict with rfl | later
      · exact stepGiven
      · apply inductionHypothesis _ later
        intro next isNext
        obtain rfl := Option.mem_some.mp isNext
        exact stepGiven

theorem blamesTruly_of_mem_verdicts {alphabetize : Bool} {members : List Member}
    (isVerdict : verdict ∈ ranking.verdicts alphabetize members) :
    ranking.BlamesTruly verdict := by
  rw [verdicts_eq_map_restrict] at isVerdict
  obtain ⟨judged, isJudged, rfl⟩ := List.mem_map.mp isVerdict
  have noLast : ∀ verdict ∈ (none : Option Verdict), ranking.IsGiven verdict := by
    intro verdict isLast
    cases isLast
  have blames := (isGiven_of_mem_judgeAll noLast _ isJudged).blamesTruly
  -- Being silent about names leaves all that is said about placement.
  cases alphabetize <;> exact ⟨blames.differs, blames.isMisplaced⟩

/-- Both groups that a verdict on a body names are groups of checked members. -/
theorem groups_mem_of_mem_verdicts {alphabetize : Bool} {members : List Member}
    (isVerdict : verdict ∈ ranking.verdicts alphabetize members) :
    verdict.group ∈ ranking.groups ∧
      ∀ previous, verdict.previousGroup = some previous → previous ∈ ranking.groups := by
  have checkedIn : ∀ (position : Nat) (member : Member),
      (ranking.checked members)[position]? = some member → member.group ∈ ranking.groups := by
    intro position member found
    have isChecked := (List.mem_filter.mp (List.mem_of_getElem? found)).2
    exact (ranking.contains_iff member.group).mp isChecked
  obtain ⟨position, found⟩ := List.getElem?_of_mem isVerdict
  obtain ⟨start, _, closed⟩ := ranking.verdicts_closed alphabetize members position found
  refine ⟨?_, ?_⟩
  · rw [closed.group]
    exact checkedIn position verdict.member closed.member
  · intro previous isPrevious
    rw [closed.previousGroup] at isPrevious
    split at isPrevious
    · cases isPrevious
    · obtain ⟨member, memberFound, rfl⟩ := Option.map_eq_some_iff.mp isPrevious
      exact checkedIn (start - 1) member memberFound

/-- `first` stands strictly before `second` in the order. -/
def StandsBefore (ranking : Ranking) (first second : Group) : Prop :=
  ∃ earlier later : Nat, earlier < later ∧
    ranking.groups[earlier]? = some first ∧ ranking.groups[later]? = some second

theorem standsBefore_of_rank_lt {first second : Group} (firstIn : first ∈ ranking.groups)
    (secondIn : second ∈ ranking.groups) (lower : ranking.rank first < ranking.rank second) :
    ranking.StandsBefore first second := by
  obtain ⟨earlier, firstAt⟩ := List.getElem?_of_mem firstIn
  obtain ⟨later, secondAt⟩ := List.getElem?_of_mem secondIn
  rw [(ranking.rank_eq_natCast_iff first earlier).mpr firstAt,
    (ranking.rank_eq_natCast_iff second later).mpr secondAt, Int.ofNat_lt] at lower
  exact ⟨earlier, later, lower, firstAt, secondAt⟩

/-- A misplaced member stands after a group that should come later. -/
theorem exists_standsBefore_of_isMisplaced {alphabetize : Bool} {members : List Member}
    (isVerdict : verdict ∈ ranking.verdicts alphabetize members)
    (misplaced : verdict.isMisplaced = true) :
    ∃ previous, verdict.previousGroup = some previous ∧
      ranking.StandsBefore verdict.group previous := by
  obtain ⟨previous, isPrevious, lower⟩ :=
    (blamesTruly_of_mem_verdicts isVerdict).isMisplaced.mp misplaced
  obtain ⟨groupIn, previousIn⟩ := groups_mem_of_mem_verdicts isVerdict
  refine ⟨previous, isPrevious, ?_⟩
  exact standsBefore_of_rank_lt groupIn (previousIn previous isPrevious) lower

end Ranking

/-! ### Issues about placement -/

/-- An issue about placement comes from a misplaced verdict and names its two groups. -/
theorem Rule.exists_of_mem_placementIssues {rule : Rule} {body : ClassBody} {issue : Issue}
    (found : issue ∈ rule.placementIssues body) :
    ∃ verdict ∈ rule.verdicts body, verdict.isMisplaced = true ∧
      ∃ previous, verdict.previousGroup = some previous ∧
        issue.message = verdict.group.key ++ " should be before " ++ previous.key := by
  obtain ⟨verdict, isVerdict, isIssue⟩ := List.mem_filterMap.mp found
  rw [placementIssue?] at isIssue
  split at isIssue
  · next misplaced =>
      obtain ⟨message, isMessage, rfl⟩ := Option.map_eq_some_iff.mp isIssue
      obtain ⟨previous, isPrevious, rfl⟩ := Option.map_eq_some_iff.mp isMessage
      exact ⟨verdict, isVerdict, misplaced, previous, isPrevious, rfl⟩
  · cases isIssue

/-- Blame is always true. Of every verdict that judging by an order can give, after whatever
verdicts, the preceding group is another one than its own, and the member is misplaced exactly if
there is a preceding group and it ranks higher. Every rule with that order therefore reports about
placement, in every unit, only pairs of groups of the order of which the first comes strictly
before the second, and whenever it asks for such a message there is one. -/
theorem Ranking.blame_is_true (ranking : Ranking) :
    (∀ verdict, ranking.IsGiven verdict →
      (∀ previous, verdict.previousGroup = some previous → previous ≠ verdict.group) ∧
        (verdict.isMisplaced = true ↔
          ∃ previous, verdict.previousGroup = some previous ∧
            ranking.rank previous > ranking.rank verdict.group)) ∧
      ∀ (alphabetize : Bool) (severity : Severity) (unit : SourceUnit),
        let rule : Rule :=
          { ranking := ranking, alphabetize := alphabetize, severity := severity }
        rule.issues unit =
            unit.bodies.flatMap rule.placementIssues ++ unit.bodies.flatMap rule.sortIssues ∧
          (∀ issue ∈ unit.bodies.flatMap rule.placementIssues, ∃ group previous : Group,
            issue.message = group.key ++ " should be before " ++ previous.key ∧
              ranking.StandsBefore group previous) ∧
          ∀ verdict ∈ unit.bodies.flatMap rule.verdicts, verdict.isMisplaced = true →
            ∃ previous, verdict.previousGroup = some previous ∧
              verdict.placementMessage? =
                some (verdict.group.key ++ " should be before " ++ previous.key) := by
  constructor
  · intro verdict given
    have blames := given.blamesTruly
    exact ⟨blames.differs, blames.isMisplaced⟩
  · intro alphabetize severity unit rule
    refine ⟨rule.issues_eq_flatMap unit, ?_, ?_⟩
    · intro issue found
      obtain ⟨body, _, inBody⟩ := List.mem_flatMap.mp found
      obtain ⟨verdict, isVerdict, misplaced, previous, isPrevious, message⟩ :=
        Rule.exists_of_mem_placementIssues inBody
      obtain ⟨blamed, isBlamed, standsBefore⟩ :=
        exists_standsBefore_of_isMisplaced isVerdict misplaced
      obtain rfl : previous = blamed := Option.some.inj (isPrevious.symm.trans isBlamed)
      exact ⟨verdict.group, previous, message, standsBefore⟩
    · intro verdict found misplaced
      obtain ⟨body, _, isVerdict⟩ := List.mem_flatMap.mp found
      obtain ⟨previous, isPrevious, _⟩ := exists_standsBefore_of_isMisplaced isVerdict misplaced
      refine ⟨previous, isPrevious, ?_⟩
      rw [Verdict.placementMessage?, isPrevious, Option.map_some]

end ClassOrder
