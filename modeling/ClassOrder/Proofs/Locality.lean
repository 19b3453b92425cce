/-
Module: ClassOrder.Proofs.Locality
Purpose: How much of a body a later verdict can see. Members that are added at the end change no
  earlier verdict. What came before is seen through the last verdict only: its group and its name
  matter to the next member alone, and whether its run was misplaced is forgotten as soon as the
  group changes.
Main exports: Verdict.ignoringPlacement, Verdict.place, Verdict.placement,
  Ranking.judgeAll_append, Ranking.verdictsAfter, Ranking.verdicts_locality
-/
import ClassOrder.Proofs.VerdictRuns

namespace ClassOrder

namespace Verdict

/-! ### Parts of a verdict -/

/-- What the next member is compared with: the group and the name. -/
def place (verdict : Verdict) : Group × String :=
  (verdict.group, verdict.name)

/-- What is handed on inside a run: whether it is misplaced, and the group before it. -/
def placement (verdict : Verdict) : Bool × Option Group :=
  (verdict.isMisplaced, verdict.previousGroup)

/-- A verdict that is silent about placement. The member, the group, the preceding name and the
judgment of the name are all that is left. -/
def ignoringPlacement (verdict : Verdict) : Verdict :=
  { verdict with isMisplaced := false, previousGroup := none }

theorem place_eq_of_ignoringPlacement_eq {first second : Verdict}
    (same : first.ignoringPlacement = second.ignoringPlacement) : first.place = second.place := by
  have samePlace : first.ignoringPlacement.place = second.ignoringPlacement.place :=
    congrArg place same
  exact samePlace

theorem ignoringPlacement_restrict (alphabetize : Bool) (verdict : Verdict) :
    (verdict.restrict alphabetize).ignoringPlacement =
      verdict.ignoringPlacement.restrict alphabetize := by
  cases alphabetize <;> rfl

end Verdict

namespace Ranking

variable {ranking : Ranking} {last other : Verdict}

/-! ### One step after two histories -/

/-- The next verdict is determined by place and placement of the last one. -/
theorem judge_congr (samePlace : last.place = other.place)
    (samePlacement : last.placement = other.placement) (member : Member) (group : Group) :
    ranking.judge (some last) member group = ranking.judge (some other) member group := by
  obtain ⟨sameGroup, sameName⟩ := Prod.mk.inj samePlace
  obtain ⟨sameFlag, samePrevious⟩ := Prod.mk.inj samePlacement
  simp only [judge, sameGroup, sameName, sameFlag, samePrevious]

/-- At the start of a run the placement of the last verdict makes no difference. -/
theorem judge_congr_of_ne (samePlace : last.place = other.place) (member : Member) {group : Group}
    (changes : last.group ≠ group) :
    ranking.judge (some last) member group = ranking.judge (some other) member group := by
  obtain ⟨sameGroup, sameName⟩ := Prod.mk.inj samePlace
  have otherChanges : other.group ≠ group := sameGroup ▸ changes
  simp only [judge, sameGroup, sameName, otherChanges, if_false, decide_false, Bool.false_and,
    Bool.false_or]

/-- The placement of the last verdict is handed on to no other part of the next one. -/
theorem judge_ignoringPlacement (ranking : Ranking) (samePlace : last.place = other.place)
    (member : Member) (group : Group) :
    (ranking.judge (some last) member group).ignoringPlacement =
      (ranking.judge (some other) member group).ignoringPlacement := by
  obtain ⟨sameGroup, sameName⟩ := Prod.mk.inj samePlace
  simp only [judge, Verdict.ignoringPlacement, sameGroup, sameName]

/-- A verdict that is silent about names is as good as the full one for the next member. -/
theorem judge_restrict (ranking : Ranking) (alphabetize : Bool) (last : Option Verdict)
    (member : Member) (group : Group) :
    ranking.judge (last.map (Verdict.restrict alphabetize)) member group =
      ranking.judge last member group := by
  cases last with
  | none => rfl
  | some last => cases alphabetize <;> rfl

/-! ### Runs after two histories -/

/-- Judging goes on from the last verdict. -/
theorem judgeAll_append (ranking : Ranking) (last : Option Verdict) (first second : List Member) :
    ranking.judgeAll last (first ++ second) =
      ranking.judgeAll last first ++
        ranking.judgeAll ((ranking.judgeAll last first).getLast?.or last) second := by
  induction first generalizing last with
  | nil => rfl
  | cons member rest inductionHypothesis =>
      rw [List.cons_append, judgeAll, judgeAll, inductionHypothesis, List.cons_append,
        List.getLast?_cons]
      cases (ranking.judgeAll (some (ranking.judge last member member.group)) rest).getLast? <;>
        rfl

/-- Two histories that give the first member the same verdict give all members the same. -/
theorem judgeAll_congr_of_judge {last other : Option Verdict}
    (sameStep : ∀ member : Member,
      ranking.judge last member member.group = ranking.judge other member member.group)
    (members : List Member) : ranking.judgeAll last members = ranking.judgeAll other members := by
  cases members with
  | nil => rfl
  | cons member rest => rw [judgeAll, judgeAll, sameStep member]

/-- Apart from placement, all verdicts are determined by the place of the last one before them. -/
theorem judgeAll_ignoringPlacement (samePlace : last.place = other.place)
    (members : List Member) :
    (ranking.judgeAll (some last) members).map Verdict.ignoringPlacement =
      (ranking.judgeAll (some other) members).map Verdict.ignoringPlacement := by
  induction members generalizing last other with
  | nil => rfl
  | cons member rest inductionHypothesis =>
      have sameStep := ranking.judge_ignoringPlacement samePlace member member.group
      rw [judgeAll, judgeAll, List.map_cons, List.map_cons, sameStep,
        inductionHypothesis (Verdict.place_eq_of_ignoringPlacement_eq sameStep)]

/-- From the first change of group on, all verdicts are determined by the place of the last one
before them. As long as the run of the last verdict goes on, both sides stay in its group. -/
theorem judgeAll_dropWhile (samePlace : last.place = other.place) (members : List Member) :
    (ranking.judgeAll (some last) members).dropWhile (fun verdict => verdict.group = last.group) =
      (ranking.judgeAll (some other) members).dropWhile
        (fun verdict => verdict.group = last.group) := by
  induction members generalizing last other with
  | nil => rfl
  | cons member rest inductionHypothesis =>
      by_cases inRun : member.group = last.group
      -- Both sides drop this verdict, and what follows still counts from the same group.
      · have sameStep := ranking.judge_ignoringPlacement samePlace member member.group
        have next := inductionHypothesis (Verdict.place_eq_of_ignoringPlacement_eq sameStep)
        rw [judge_group, inRun] at next
        rw [judgeAll, judgeAll, List.dropWhile_cons_of_pos (by simpa using inRun),
          List.dropWhile_cons_of_pos (by simpa using inRun), inRun]
        exact next
      · rw [judgeAll, judgeAll, judge_congr_of_ne samePlace member (Ne.symm inRun)]

/-! ### Verdicts on the rest of a body -/

/-- The verdicts on members that follow others in a body. -/
def verdictsAfter (ranking : Ranking) (alphabetize : Bool) (before members : List Member) :
    List Verdict :=
  (ranking.verdicts alphabetize (before ++ members)).drop
    (ranking.verdicts alphabetize before).length

/-- The rest of a body is judged after the last verdict on what came before. -/
theorem verdicts_append (ranking : Ranking) (alphabetize : Bool) (before members : List Member) :
    ranking.verdicts alphabetize (before ++ members) =
      ranking.verdicts alphabetize before ++
        (ranking.judgeAll (ranking.verdicts alphabetize before).getLast?
          (ranking.checked members)).map (Verdict.restrict alphabetize) := by
  have lastVerdict :
      ranking.judgeAll (ranking.verdicts alphabetize before).getLast? (ranking.checked members) =
        ranking.judgeAll (ranking.judgeAll none (ranking.checked before)).getLast?
          (ranking.checked members) := by
    apply judgeAll_congr_of_judge
    intro member
    rw [verdicts_eq_map_restrict, List.getLast?_map, judge_restrict]
  have checkedParts :
      ranking.checked (before ++ members) = ranking.checked before ++ ranking.checked members :=
    List.filter_append ..
  rw [lastVerdict, verdicts_eq_map_restrict, verdicts_eq_map_restrict, checkedParts,
    judgeAll_append, Option.or_none, List.map_append]

theorem verdictsAfter_eq (ranking : Ranking) (alphabetize : Bool) (before members : List Member) :
    ranking.verdictsAfter alphabetize before members =
      (ranking.judgeAll (ranking.verdicts alphabetize before).getLast?
        (ranking.checked members)).map (Verdict.restrict alphabetize) := by
  rw [verdictsAfter, verdicts_append, List.drop_left]

/-- Verdicts after two histories that end in the same place. -/
theorem judgeAll_locality (samePlace : last.place = other.place) (alphabetize : Bool)
    (members : List Member) :
    let rest := (ranking.judgeAll (some last) members).map (Verdict.restrict alphabetize)
    let otherRest := (ranking.judgeAll (some other) members).map (Verdict.restrict alphabetize)
    rest.map Verdict.ignoringPlacement = otherRest.map Verdict.ignoringPlacement ∧
      rest.dropWhile (fun verdict => verdict.group = last.group) =
        otherRest.dropWhile (fun verdict => verdict.group = last.group) ∧
      (last.placement = other.placement → rest = otherRest) := by
  intro rest otherRest
  refine ⟨?_, ?_, ?_⟩
  · have swap : Verdict.ignoringPlacement ∘ Verdict.restrict alphabetize =
        Verdict.restrict alphabetize ∘ Verdict.ignoringPlacement :=
      funext (Verdict.ignoringPlacement_restrict alphabetize)
    rw [List.map_map, List.map_map, swap, ← List.map_map, ← List.map_map,
      judgeAll_ignoringPlacement samePlace]
  · have sameTest : (fun verdict : Verdict => decide (verdict.group = last.group)) ∘
        Verdict.restrict alphabetize = fun verdict => decide (verdict.group = last.group) := by
      funext verdict
      rw [Function.comp_apply, Verdict.restrict_group]
    rw [List.dropWhile_map, List.dropWhile_map, sameTest, judgeAll_dropWhile samePlace]
  · intro samePlacement
    have sameRest : ranking.judgeAll (some last) members = ranking.judgeAll (some other) members :=
      judgeAll_congr_of_judge
        (fun member => judge_congr samePlace samePlacement member member.group) members
    exact congrArg (List.map (Verdict.restrict alphabetize)) sameRest

/-- Verdicts are local. A body is judged like its beginning and then, one verdict for each checked
member, like the rest after it. Take the same rest after another beginning that ends in the same
place: with the same group and name, or without any verdict. Then the verdicts on the rest differ
in nothing but placement, and from the first member on that leaves the last group they do not
differ at all; nor do any of them if the last placements are the same too. -/
theorem verdicts_locality (ranking : Ranking) (alphabetize : Bool)
    (before other members : List Member) :
    let last := (ranking.verdicts alphabetize before).getLast?
    let otherLast := (ranking.verdicts alphabetize other).getLast?
    let rest := ranking.verdictsAfter alphabetize before members
    let otherRest := ranking.verdictsAfter alphabetize other members
    (ranking.verdicts alphabetize (before ++ members) =
          ranking.verdicts alphabetize before ++ rest ∧
        rest.map Verdict.member = ranking.checked members) ∧
      (last.map Verdict.place = otherLast.map Verdict.place →
        rest.map Verdict.ignoringPlacement = otherRest.map Verdict.ignoringPlacement ∧
          rest.dropWhile (fun verdict => some verdict.group = last.map Verdict.group) =
            otherRest.dropWhile (fun verdict => some verdict.group = last.map Verdict.group) ∧
          (last.map Verdict.placement = otherLast.map Verdict.placement → rest = otherRest)) := by
  intro last otherLast rest otherRest
  have restEq : rest = (ranking.judgeAll last (ranking.checked members)).map
      (Verdict.restrict alphabetize) := ranking.verdictsAfter_eq alphabetize before members
  have otherRestEq : otherRest = (ranking.judgeAll otherLast (ranking.checked members)).map
      (Verdict.restrict alphabetize) := ranking.verdictsAfter_eq alphabetize other members
  refine ⟨⟨?_, ?_⟩, ?_⟩
  · rw [restEq, verdicts_append]
  · have silent : Verdict.member ∘ Verdict.restrict alphabetize = Verdict.member :=
      funext (Verdict.restrict_member alphabetize)
    rw [restEq, List.map_map, silent, judgeAll_map_member]
  · rw [restEq, otherRestEq]
    clear restEq otherRestEq
    clear_value last otherLast
    intro samePlace
    rcases last with _ | last <;> rcases otherLast with _ | otherLast
    · exact ⟨rfl, rfl, fun _ => rfl⟩
    -- A beginning with a verdict and one without do not end in the same place.
    · cases samePlace
    · cases samePlace
    · simp only [Option.map_some, Option.some.injEq] at samePlace ⊢
      exact judgeAll_locality samePlace alphabetize (ranking.checked members)

/-- A field that comes first in one body and too late in the other. The next field still shows the
difference, and the getter after it does not. -/
example :
    let title : Member := { kind := .field, name := "title" }
    let rest : List Member :=
      [{ kind := .field, name := "width" }, { kind := .getter, name := "area" }]
    (standard.verdicts true (title :: rest)).map Verdict.isMisplaced = [false, false, false] ∧
      (standard.verdicts true ({ kind := .method, name := "open" } :: title :: rest)).map
          Verdict.isMisplaced =
        [false, true, true, false] := by
  decide +kernel

end Ranking

end ClassOrder
