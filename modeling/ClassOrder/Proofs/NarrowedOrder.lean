/-
Module: ClassOrder.Proofs.NarrowedOrder
Purpose: What happens when groups are taken out of an order. All ranks move, but groups that stay
  keep their places relative to each other, and judging only ever compares. Narrowing an order
  therefore gives the verdicts of the wider order on a body without the members of the groups
  that were dropped.
Main exports: Ranking.rank_lt_rank_iff_of_sublist, Ranking.judgeAll_narrow,
  Ranking.verdicts_narrow
-/
import ClassOrder.Proofs.Ranking
import ClassOrder.Proofs.VerdictRuns
import Mathlib.Data.List.NodupEquivFin

namespace ClassOrder

namespace Ranking

variable {narrowed order : Ranking}

/-! ### Ranks in a narrower order -/

/-- Groups that stay in an order keep their places relative to each other. The positions of the
narrower order are embedded in those of the wider one. -/
theorem rank_lt_rank_iff_of_sublist (isNarrower : narrowed.groups.Sublist order.groups)
    {first second : Group} (firstIn : first ∈ narrowed.groups)
    (secondIn : second ∈ narrowed.groups) :
    narrowed.rank first < narrowed.rank second ↔ order.rank first < order.rank second := by
  obtain ⟨embed, sameGroup⟩ :=
    List.sublist_iff_exists_orderEmbedding_getElem?_eq.mp isNarrower
  have ranks : ∀ group ∈ narrowed.groups,
      ∃ index : Nat, narrowed.rank group = index ∧ order.rank group = embed index := by
    intro group isIn
    obtain ⟨index, atIndex⟩ := List.getElem?_of_mem isIn
    refine ⟨index, ?_, ?_⟩
    · rw [rank_eq_natCast_iff, atIndex]
    · rw [rank_eq_natCast_iff, ← sameGroup, atIndex]
  obtain ⟨firstIndex, firstNarrow, firstWide⟩ := ranks first firstIn
  obtain ⟨secondIndex, secondNarrow, secondWide⟩ := ranks second secondIn
  rw [firstNarrow, secondNarrow, firstWide, secondWide, Int.ofNat_lt, Int.ofNat_lt,
    embed.lt_iff_lt]

/-! ### Judging in a narrower order -/

/-- A step makes no use of ranks but to compare that of the member with that of the one before. -/
theorem judge_narrow (isNarrower : narrowed.groups.Sublist order.groups) {last : Option Verdict}
    (lastIn : ∀ verdict ∈ last, verdict.group ∈ narrowed.groups) (member : Member) {group : Group}
    (groupIn : group ∈ narrowed.groups) :
    narrowed.judge last member group = order.judge last member group := by
  cases last with
  | none => rfl
  | some last =>
      have sameComparison :
          narrowed.rank group < narrowed.rank last.group ↔
            order.rank group < order.rank last.group :=
        rank_lt_rank_iff_of_sublist isNarrower groupIn (lastIn last rfl)
      simp only [judge, sameComparison]

/-- Along a body whose groups all stay in the order, every verdict stays the same. -/
theorem judgeAll_narrow (isNarrower : narrowed.groups.Sublist order.groups)
    {last : Option Verdict} (lastIn : ∀ verdict ∈ last, verdict.group ∈ narrowed.groups)
    {members : List Member} (membersIn : ∀ member ∈ members, member.group ∈ narrowed.groups) :
    narrowed.judgeAll last members = order.judgeAll last members := by
  induction members generalizing last with
  | nil => rfl
  | cons member rest inductionHypothesis =>
      obtain ⟨memberIn, restIn⟩ := List.forall_mem_cons.mp membersIn
      have nextIn : ∀ verdict ∈ some (order.judge last member member.group),
          verdict.group ∈ narrowed.groups := by
        intro verdict isNext
        obtain rfl := Option.mem_some.mp isNext
        rw [judge_group]
        exact memberIn
      rw [judgeAll, judgeAll, judge_narrow isNarrower lastIn member memberIn,
        inductionHypothesis nextIn restIn]

/-! ### Checked members -/

theorem checked_eq_filter_mem (ranking : Ranking) (members : List Member) :
    ranking.checked members =
      members.filter fun member => decide (member.group ∈ ranking.groups) := by
  apply List.filter_congr
  intro member _
  rw [Bool.eq_iff_iff, contains_iff, decide_eq_true_iff]

/-- The wider order checks all members that the narrower one does. -/
theorem checked_filter_mem_of_sublist (isNarrower : narrowed.groups.Sublist order.groups)
    (members : List Member) :
    order.checked (members.filter fun member => decide (member.group ∈ narrowed.groups)) =
      narrowed.checked members := by
  rw [checked_eq_filter_mem, checked_eq_filter_mem, List.filter_eq_self]
  intro member isKept
  have stays : member.group ∈ narrowed.groups := of_decide_eq_true (List.mem_filter.mp isKept).2
  exact decide_eq_true (isNarrower.subset stays)

/-- The verdicts on a body depend on its checked members only. -/
theorem verdicts_congr_checked {ranking : Ranking} {members others : List Member}
    (same : ranking.checked members = ranking.checked others) (alphabetize : Bool) :
    ranking.verdicts alphabetize members = ranking.verdicts alphabetize others := by
  rw [verdicts_eq_map_restrict, verdicts_eq_map_restrict, same]

/-! ### Verdicts in a narrower order -/

/-- Dropping groups from an order is the same as deleting their members from the body. -/
theorem verdicts_eq_verdicts_filter (isNarrower : narrowed.groups.Sublist order.groups)
    (alphabetize : Bool) (members : List Member) :
    narrowed.verdicts alphabetize members =
      order.verdicts alphabetize
        (members.filter fun member => decide (member.group ∈ narrowed.groups)) := by
  have noLast : ∀ verdict ∈ (none : Option Verdict), verdict.group ∈ narrowed.groups := by
    intro verdict isLast
    cases isLast
  have checkedIn : ∀ member ∈ narrowed.checked members, member.group ∈ narrowed.groups := by
    intro member isChecked
    exact (narrowed.contains_iff _).mp (List.mem_filter.mp isChecked).2
  rw [verdicts_eq_map_restrict, verdicts_eq_map_restrict,
    checked_filter_mem_of_sublist isNarrower, judgeAll_narrow isNarrower noLast checkedIn]

/-- Members of groups that are not in the order can stand anywhere and are not seen. -/
theorem checked_insert_unranked {ranking : Ranking} {skipped : List Member}
    (unranked : ∀ member ∈ skipped, member.group ∉ ranking.groups) (before after : List Member) :
    ranking.checked (before ++ skipped ++ after) = ranking.checked (before ++ after) := by
  have noneChecked : ranking.checked skipped = [] := by
    rw [checked_eq_filter_mem, List.filter_eq_nil_iff]
    intro member isSkipped
    simpa using unranked member isSkipped
  rw [checked] at noneChecked
  simp only [checked, List.filter_append, noneChecked, List.append_nil]

/-- Narrowing an order to some of its groups gives the verdicts of the wider order on the members
of those groups. In particular members of other groups can be put anywhere into a body without
any effect on its verdicts, and so can groups that no member has be taken out of the order. -/
theorem verdicts_narrow (isNarrower : narrowed.groups.Sublist order.groups) (alphabetize : Bool)
    (members : List Member) :
    narrowed.verdicts alphabetize members =
        order.verdicts alphabetize
          (members.filter fun member => decide (member.group ∈ narrowed.groups)) ∧
      (∀ before skipped after : List Member,
        (∀ member ∈ skipped, member.group ∉ order.groups) →
          order.verdicts alphabetize (before ++ skipped ++ after) =
            order.verdicts alphabetize (before ++ after)) ∧
      ((∀ member ∈ members, member.group ∈ order.groups → member.group ∈ narrowed.groups) →
        narrowed.verdicts alphabetize members = order.verdicts alphabetize members) := by
  have narrow := verdicts_eq_verdicts_filter isNarrower alphabetize members
  refine ⟨narrow, ?_, ?_⟩
  · intro before skipped after unranked
    exact verdicts_congr_checked (checked_insert_unranked unranked before after) alphabetize
  · intro unused
    rw [narrow]
    -- Both orders check the same members, so nothing is deleted that the wider one would see.
    apply verdicts_congr_checked
    rw [checked_filter_mem_of_sublist isNarrower, checked_eq_filter_mem, checked_eq_filter_mem]
    apply List.filter_congr
    intro member isMember
    rw [decide_eq_decide]
    exact ⟨fun stays => isNarrower.subset stays, unused member isMember⟩

/-- Constructors and methods alone, with a field between the methods. -/
theorem verdicts_narrow_methods :
    let narrowed : Ranking := { groups := [.constructors, .publicMethods], nodup := by decide }
    let members : List Member :=
      [{ kind := .method, name := "open" }, { kind := .field, name := "_state" },
        { kind := .method, name := "close" }, { kind := .constructor, name := "" }]
    narrowed.groups.Sublist standard.groups ∧
      narrowed.verdicts true members =
        standard.verdicts true
          (members.filter fun member => decide (member.group ∈ narrowed.groups)) ∧
      (narrowed.verdicts true members).map (fun verdict =>
          (verdict.isMisplaced, verdict.isUnsorted)) =
        [(false, false), (false, true), (true, false)] :=
  ⟨by decide, (verdicts_narrow (by decide) true _).1, by decide +kernel⟩

end Ranking

end ClassOrder
