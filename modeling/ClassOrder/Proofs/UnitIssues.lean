/-
Module: ClassOrder.Proofs.UnitIssues
Purpose: Checking a unit is checking its bodies one by one. The verdicts of all bodies are pooled
  and scanned twice; here the issues are told apart again, body by body and verdict by verdict.
  Every bad verdict gives exactly one issue of its kind, and no other verdict gives any.
Main exports: Ranking.previousGroup_of_isMisplaced, Rule.placementIssues, Rule.sortIssues,
  Rule.IsPlacementIssue, Rule.IsSortIssue, Rule.memberIssues, Rule.issues_by_body
-/
import ClassOrder.Proofs.VerdictRuns
import ClassOrder.Rule
import Mathlib.Data.List.Forall2
import Mathlib.Data.List.Perm.Basic

namespace ClassOrder

/-- A misplaced member is misplaced with respect to some group, so there is a message for it. -/
theorem Ranking.previousGroup_of_isMisplaced {ranking : Ranking} {alphabetize : Bool}
    {members : List Member} {verdict : Verdict}
    (isVerdict : verdict ∈ ranking.verdicts alphabetize members)
    (misplaced : verdict.isMisplaced = true) :
    ∃ previous, verdict.previousGroup = some previous := by
  obtain ⟨position, found⟩ := List.getElem?_of_mem isVerdict
  obtain ⟨start, _, closed⟩ := ranking.verdicts_closed alphabetize members position found
  obtain ⟨positive, before, _, beforeFound, _, _⟩ := closed.isMisplaced.mp misplaced
  refine ⟨before.group, ?_⟩
  rw [closed.previousGroup, if_neg (Nat.ne_of_gt positive), beforeFound, Option.map_some]

/-- A partial answer that exists exactly for the items that pass a test is given once for each of
them, in their order. -/
theorem forall₂_filter_filterMap {α β : Type} {test : α → Bool} {answer : α → Option β}
    {relates : α → β → Prop} {items : List α}
    (answers : ∀ item ∈ items, test item = true →
      ∃ given, answer item = some given ∧ relates item given)
    (silent : ∀ item ∈ items, test item = false → answer item = none) :
    List.Forall₂ relates (items.filter test) (items.filterMap answer) := by
  induction items with
  | nil => exact .nil
  | cons item rest inductionHypothesis =>
      obtain ⟨answersItem, answersRest⟩ := List.forall_mem_cons.mp answers
      obtain ⟨silentItem, silentRest⟩ := List.forall_mem_cons.mp silent
      have tail := inductionHypothesis answersRest silentRest
      cases passes : test item with
      | false =>
          rw [List.filter_cons_of_neg (by simp [passes]),
            List.filterMap_cons_none (silentItem passes)]
          exact tail
      | true =>
          obtain ⟨given, isGiven, related⟩ := answersItem passes
          rw [List.filter_cons_of_pos passes, List.filterMap_cons_some isGiven]
          exact .cons related tail

namespace Rule

/-! ### The issues of one body -/

/-- The issues about placement in one body. -/
def placementIssues (rule : Rule) (body : ClassBody) : List Issue :=
  (rule.verdicts body).filterMap rule.placementIssue?

/-- The issues about names in one body. -/
def sortIssues (rule : Rule) (body : ClassBody) : List Issue :=
  (rule.verdicts body).filterMap rule.sortIssue?

/-- The issues that the member of a verdict gives rise to. -/
def memberIssues (rule : Rule) (verdict : Verdict) : List Issue :=
  (rule.placementIssue? verdict).toList ++ (rule.sortIssue? verdict).toList

/-- What the issue about a misplaced member says. There is none without a preceding group. -/
def IsPlacementIssue (rule : Rule) (verdict : Verdict) (issue : Issue) : Prop :=
  ∃ previous, verdict.previousGroup = some previous ∧
    issue =
      { ruleId := "member-ordering"
        severity := rule.severity
        location := verdict.member.location
        message := verdict.group.key ++ " should be before " ++ previous.key }

/-- What the issue about an unsorted name says. -/
def IsSortIssue (rule : Rule) (verdict : Verdict) (issue : Issue) : Prop :=
  issue =
    { ruleId := "member-ordering"
      severity := rule.severity
      location := verdict.member.location
      message := verdict.name ++ " should be alphabetically before " ++ verdict.previousName }

/-- There is one issue about placement for each misplaced member, in source order. -/
theorem forall₂_placementIssues (rule : Rule) (body : ClassBody) :
    List.Forall₂ rule.IsPlacementIssue ((rule.verdicts body).filter Verdict.isMisplaced)
      (rule.placementIssues body) := by
  apply forall₂_filter_filterMap
  · intro verdict isVerdict misplaced
    obtain ⟨previous, isPrevious⟩ := Ranking.previousGroup_of_isMisplaced isVerdict misplaced
    refine ⟨_, ?_, previous, isPrevious, rfl⟩
    rw [placementIssue?, if_pos misplaced, Verdict.placementMessage?, isPrevious, Option.map_some,
      Option.map_some]
    rfl
  · intro verdict _ inPlace
    rw [placementIssue?, inPlace]
    rfl

/-- There is one issue about names for each unsorted member, in source order. -/
theorem forall₂_sortIssues (rule : Rule) (body : ClassBody) :
    List.Forall₂ rule.IsSortIssue ((rule.verdicts body).filter Verdict.isUnsorted)
      (rule.sortIssues body) := by
  apply forall₂_filter_filterMap
  · intro verdict _ unsorted
    refine ⟨_, ?_, rfl⟩
    rw [sortIssue?, if_pos unsorted]
    rfl
  · intro verdict _ sorted
    rw [sortIssue?, sorted]
    rfl

theorem memberIssues_length_le (rule : Rule) (verdict : Verdict) :
    (rule.memberIssues verdict).length ≤ 2 := by
  rw [memberIssues, List.length_append]
  have placement := Option.length_toList_le (o := rule.placementIssue? verdict)
  have sorting := Option.length_toList_le (o := rule.sortIssue? verdict)
  omega

/-! ### Rules with and without names -/

theorem sortIssues_eq_nil {rule : Rule} (noNames : rule.alphabetize = false)
    (body : ClassBody) : rule.sortIssues body = [] := by
  rw [sortIssues, List.filterMap_eq_nil_iff]
  intro verdict isVerdict
  rw [verdicts, noNames, Ranking.verdicts_eq_map_restrict] at isVerdict
  obtain ⟨judged, _, rfl⟩ := List.mem_map.mp isVerdict
  rfl

/-- What a rule says about placement is the same whether or not it checks names. -/
theorem placementIssues_eq (rule : Rule) (body : ClassBody) :
    rule.placementIssues body =
      (rule.ranking.judgeAll none (rule.ranking.checked body.members)).filterMap
        rule.placementIssue? := by
  have silent : rule.placementIssue? ∘ Verdict.restrict rule.alphabetize =
      rule.placementIssue? := by
    funext verdict
    rw [Function.comp_apply, Verdict.restrict]
    split <;> rfl
  rw [placementIssues, verdicts, Ranking.verdicts_eq_map_restrict, List.filterMap_map, silent]

/-! ### Units -/

/-- The pooled verdicts of a unit give the issues of its bodies, those about placement first. -/
theorem issues_eq_flatMap (rule : Rule) (unit : SourceUnit) :
    rule.issues unit =
      unit.bodies.flatMap rule.placementIssues ++ unit.bodies.flatMap rule.sortIssues := by
  have sorting :
      (if rule.alphabetize then (unit.bodies.flatMap rule.verdicts).filterMap rule.sortIssue?
        else []) = unit.bodies.flatMap rule.sortIssues := by
    cases checksNames : rule.alphabetize with
    | true => exact List.filterMap_flatMap
    | false =>
        have noneAtAll : ∀ body ∈ unit.bodies, rule.sortIssues body = [] := by
          intro body _
          exact sortIssues_eq_nil checksNames body
        rw [List.flatMap_eq_nil_iff.mpr noneAtAll]
        rfl
  rw [issues, sorting, List.filterMap_flatMap]
  rfl

/-- Each issue belongs to one member. -/
theorem issues_perm_memberIssues (rule : Rule) (unit : SourceUnit) :
    (rule.issues unit).Perm
      (unit.bodies.flatMap fun body => (rule.verdicts body).flatMap rule.memberIssues) := by
  rw [issues_eq_flatMap]
  refine (List.flatMap_append_perm _ _ _).trans (List.Perm.flatMap_left _ ?_)
  intro body _
  rw [placementIssues, sortIssues, List.filterMap_eq_flatMap_toList,
    List.filterMap_eq_flatMap_toList]
  exact List.flatMap_append_perm _ _ _

/-- Checking a unit composes over its bodies. The issues are those about placement of one body
after the other, and then those about names of one body after the other; a body gives the same
issues when it stands alone. In a body there is one issue about placement for each misplaced
verdict and one about names for each unsorted verdict, in source order, and none about names if
the rule does not check them. Each checked member has at most two issues, and a rule that does not
check names says what the same rule with names says about placement. -/
theorem issues_by_body (rule : Rule) (unit : SourceUnit) :
    rule.issues unit =
        unit.bodies.flatMap rule.placementIssues ++ unit.bodies.flatMap rule.sortIssues ∧
      (∀ body : ClassBody,
        rule.issues { unit with bodies := [body] } =
            rule.placementIssues body ++ rule.sortIssues body ∧
          List.Forall₂ rule.IsPlacementIssue
            ((rule.ranking.verdicts rule.alphabetize body.members).filter Verdict.isMisplaced)
            (rule.placementIssues body) ∧
          List.Forall₂ rule.IsSortIssue
            ((rule.ranking.verdicts rule.alphabetize body.members).filter Verdict.isUnsorted)
            (rule.sortIssues body) ∧
          (rule.alphabetize = false → rule.sortIssues body = [])) ∧
      ((rule.issues unit).Perm
          (unit.bodies.flatMap fun body => (rule.verdicts body).flatMap rule.memberIssues) ∧
        ∀ body : ClassBody,
          (rule.verdicts body).map Verdict.member = rule.ranking.checked body.members ∧
            ∀ verdict ∈ rule.verdicts body, (rule.memberIssues verdict).length ≤ 2) ∧
      ({ rule with alphabetize := false }.issues unit =
          unit.bodies.flatMap { rule with alphabetize := true }.placementIssues ∧
        { rule with alphabetize := true }.issues unit =
          { rule with alphabetize := false }.issues unit ++
            unit.bodies.flatMap { rule with alphabetize := true }.sortIssues) := by
  have withoutNames : { rule with alphabetize := false }.issues unit =
      unit.bodies.flatMap { rule with alphabetize := true }.placementIssues := by
    have noneAtAll : ∀ body ∈ unit.bodies,
        { rule with alphabetize := false }.sortIssues body = [] := by
      intro body _
      exact sortIssues_eq_nil rfl body
    rw [issues_eq_flatMap, List.flatMap_eq_nil_iff.mpr noneAtAll, List.append_nil]
    apply List.flatMap_congr
    intro body _
    rw [placementIssues_eq, placementIssues_eq]
    rfl
  refine ⟨rule.issues_eq_flatMap unit, ?_, ⟨rule.issues_perm_memberIssues unit, ?_⟩,
    withoutNames, ?_⟩
  · intro body
    refine ⟨?_, rule.forall₂_placementIssues body, rule.forall₂_sortIssues body,
      fun noNames => sortIssues_eq_nil noNames body⟩
    rw [issues_eq_flatMap, List.flatMap_singleton, List.flatMap_singleton]
  · intro body
    exact ⟨rule.ranking.verdicts_map_member rule.alphabetize body.members,
      fun verdict _ => rule.memberIssues_length_le verdict⟩
  · rw [withoutNames, issues_eq_flatMap]

end Rule

end ClassOrder
