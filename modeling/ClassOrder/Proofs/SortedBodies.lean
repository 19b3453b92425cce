/-
Module: ClassOrder.Proofs.SortedBodies
Purpose: A body without bad verdicts is sorted as a whole. Judging compares neighbours only; since
  ranks and names are compared transitively, and no two groups of an order share a rank, the
  absence of bad verdicts up to some point says the same as order between all pairs up to it.
Main exports: Ranking.sortKey, Ranking.Precedes, Ranking.judgeAll_take_iff_isChain,
  Ranking.clean_take_iff_pairwise
-/
import ClassOrder.Proofs.Ranking
import ClassOrder.Proofs.VerdictRuns
import Mathlib.Data.List.Chain
import Mathlib.Data.Prod.Basic

namespace ClassOrder

namespace Ranking

/-! ### Sorting -/

/-- What members are sorted by: the rank of the group, then the bytes of the name. -/
def sortKey (ranking : Ranking) (member : Member) : Int × List UInt8 :=
  (ranking.rank member.group, bytes member.name)

/-- The lexicographic order of sort keys. -/
def Precedes (ranking : Ranking) (first second : Member) : Prop :=
  Prod.Lex (· < ·) (· < ·) (ranking.sortKey first) (ranking.sortKey second)

theorem precedes_iff (ranking : Ranking) (first second : Member) :
    ranking.Precedes first second ↔
      ranking.rank first.group < ranking.rank second.group ∨
        ranking.rank first.group = ranking.rank second.group ∧
          bytes first.name < bytes second.name :=
  Prod.lex_def

instance (ranking : Ranking) : IsTrans Member ranking.Precedes where
  trans first second third := by
    intro firstSecond secondThird
    exact trans_of (Prod.Lex (· < ·) (· < ·)) firstSecond secondThird

instance (ranking : Ranking) :
    IsTrans Member fun first second => ranking.rank first.group ≤ ranking.rank second.group where
  trans _ _ _ := Int.le_trans

/-- A member never precedes one of the same group and name. -/
theorem Precedes.differ {ranking : Ranking} {first second : Member}
    (precedes : ranking.Precedes first second) :
    ¬ (first.group = second.group ∧ first.name = second.name) := by
  intro same
  obtain ⟨sameGroup, sameName⟩ := same
  have sameKey : ranking.sortKey first = ranking.sortKey second := by
    rw [sortKey, sortKey, sameGroup, sameName]
  rw [Precedes, sameKey] at precedes
  exact irrefl_of (Prod.Lex (· < ·) (· < ·)) _ precedes

/-! ### From neighbours to a chain -/

/-- A test of verdicts that comes down to comparing neighbours: once the verdict before has passed
it, the next one passes exactly when its member is related to the one before. -/
def ComparesNeighbours (ranking : Ranking) (passes : Verdict → Prop)
    (related : Member → Member → Prop) : Prop :=
  ∀ (last : Verdict) (member : Member), last.group = last.member.group →
    ranking.contains last.group = true → ranking.contains member.group = true → passes last →
      (passes (ranking.judge (some last) member member.group) ↔ related last.member member)

private theorem judgeAll_some_take_iff_isChain {ranking : Ranking} {passes : Verdict → Prop}
    {related : Member → Member → Prop} (compares : ranking.ComparesNeighbours passes related)
    (members : List Member) (count : Nat)
    (inOrder : ∀ member ∈ members, ranking.contains member.group = true)
    (last : Verdict) (lastGroup : last.group = last.member.group)
    (lastInOrder : ranking.contains last.group = true) (lastPasses : passes last) :
    (∀ verdict ∈ (ranking.judgeAll (some last) members).take count, passes verdict) ↔
      (last.member :: members.take count).IsChain related := by
  induction members generalizing last count with
  | nil => simp [judgeAll]
  | cons member rest inductionHypothesis =>
      cases count with
      | zero => simp
      | succ count =>
          have memberInOrder : ranking.contains member.group = true :=
            inOrder member List.mem_cons_self
          have next :=
            compares last member lastGroup lastInOrder memberInOrder lastPasses
          rw [judgeAll, List.take_succ_cons, List.take_succ_cons, List.forall_mem_cons,
            List.isChain_cons_cons, next]
          -- The induction hypothesis speaks about bodies after a verdict that passes.
          refine and_congr_right fun isRelated => ?_
          have rests :=
            inductionHypothesis count
              (fun other isIn => inOrder other (List.mem_cons_of_mem member isIn))
              (ranking.judge (some last) member member.group) (by simp)
              (by simpa using memberInOrder)
              (next.mpr isRelated)
          simpa using rests

/-- The verdicts up to some point pass such a test exactly when neighbours up to that point are
related. -/
theorem judgeAll_take_iff_isChain {ranking : Ranking} {passes : Verdict → Prop}
    {related : Member → Member → Prop} (compares : ranking.ComparesNeighbours passes related)
    (first : ∀ member : Member, passes (ranking.judge none member member.group))
    (members : List Member) (count : Nat)
    (inOrder : ∀ member ∈ members, ranking.contains member.group = true) :
    (∀ verdict ∈ (ranking.judgeAll none members).take count, passes verdict) ↔
      (members.take count).IsChain related := by
  cases members with
  | nil => simp [judgeAll]
  | cons member rest =>
      cases count with
      | zero => simp
      | succ count =>
          have rests :=
            judgeAll_some_take_iff_isChain compares rest count
              (fun other isIn => inOrder other (List.mem_cons_of_mem member isIn))
              (ranking.judge none member member.group) (by simp)
              (by simpa using inOrder member List.mem_cons_self) (first member)
          rw [judgeAll, List.take_succ_cons, List.take_succ_cons, List.forall_mem_cons, rests]
          simp [first member]

/-! ### The two tests -/

/-- In a run that is in place, only the comparison of ranks can put the next member out of
place. -/
theorem compares_ranks (ranking : Ranking) :
    ranking.ComparesNeighbours (fun verdict => verdict.isMisplaced = false)
      fun first second => ranking.rank first.group ≤ ranking.rank second.group := by
  intro last member lastGroup _ _ inPlace
  beta_reduce at inPlace ⊢
  rw [← Bool.not_eq_true, judge_isMisplaced_iff, inPlace, lastGroup]
  simp

/-- Neighbours are in order and sorted exactly when their sort keys increase. A rank that stays
the same means the same group, so the names decide. -/
theorem compares_sortKeys (ranking : Ranking) :
    ranking.ComparesNeighbours
      (fun verdict => verdict.isMisplaced = false ∧ verdict.isUnsorted = false)
      ranking.Precedes := by
  intro last member lastGroup lastInOrder _ ⟨inPlace, _⟩
  beta_reduce
  rw [← Bool.not_eq_true, ← Bool.not_eq_true, judge_isMisplaced_iff, judge_isUnsorted_iff,
    inPlace, precedes_iff, ← lastGroup]
  have sameGroup : ranking.rank last.group = ranking.rank member.group ↔
      last.group = member.group :=
    ⟨ranking.rank_injective lastInOrder, congrArg ranking.rank⟩
  rw [sameGroup]
  rcases Int.lt_trichotomy (ranking.rank last.group) (ranking.rank member.group) with
    below | equal | above
  · have differs : last.group ≠ member.group := fun same => Int.ne_of_lt below (sameGroup.mpr same)
    simp [below, Int.lt_asymm below, differs]
  · simp [sameGroup.mp equal, Verdict.name]
  · have differs : last.group ≠ member.group := fun same => Int.ne_of_gt above (sameGroup.mpr same)
    simp [above, Int.lt_asymm above, differs]

theorem checked_inOrder (ranking : Ranking) (members : List Member) :
    ∀ member ∈ ranking.checked members, ranking.contains member.group = true := by
  intro member isChecked
  exact (List.mem_filter.mp isChecked).2

/-- Whether names are judged has no influence on the placement of members. -/
theorem forall_take_verdicts_isMisplaced (ranking : Ranking) (alphabetize : Bool)
    (members : List Member) (count : Nat) :
    (∀ verdict ∈ (ranking.verdicts alphabetize members).take count,
        verdict.isMisplaced = false) ↔
      ∀ verdict ∈ (ranking.judgeAll none (ranking.checked members)).take count,
        verdict.isMisplaced = false := by
  rw [verdicts_eq_map_restrict, ← List.map_take, List.forall_mem_map]
  cases alphabetize <;> rfl

/-- A clean beginning is a sorted beginning. For every length: no verdict up to it is misplaced
exactly when the ranks of all pairs of checked members up to it are in order; and where names are
judged, no verdict up to it is bad exactly when the sort keys of all pairs strictly increase, so
that no two members share group and name. -/
theorem clean_take_iff_pairwise (ranking : Ranking) (members : List Member) (count : Nat) :
    (∀ alphabetize,
        (∀ verdict ∈ (ranking.verdicts alphabetize members).take count,
            verdict.isMisplaced = false) ↔
          ((ranking.checked members).take count).Pairwise fun first second =>
            ranking.rank first.group ≤ ranking.rank second.group) ∧
      ((∀ verdict ∈ (ranking.verdicts true members).take count,
          verdict.isMisplaced = false ∧ verdict.isUnsorted = false) ↔
        ((ranking.checked members).take count).Pairwise ranking.Precedes) ∧
      ((∀ verdict ∈ (ranking.verdicts true members).take count,
          verdict.isMisplaced = false ∧ verdict.isUnsorted = false) →
        ((ranking.checked members).take count).Pairwise fun first second =>
          ¬ (first.group = second.group ∧ first.name = second.name)) := by
  have inOrder := ranking.checked_inOrder members
  have sorted :
      (∀ verdict ∈ (ranking.verdicts true members).take count,
          verdict.isMisplaced = false ∧ verdict.isUnsorted = false) ↔
        ((ranking.checked members).take count).Pairwise ranking.Precedes := by
    rw [verdicts_eq_map_restrict, ← List.map_take, List.forall_mem_map,
      ← List.isChain_iff_pairwise]
    exact judgeAll_take_iff_isChain ranking.compares_sortKeys (fun _ => ⟨rfl, rfl⟩) _ count inOrder
  refine ⟨?_, sorted, ?_⟩
  · intro alphabetize
    rw [forall_take_verdicts_isMisplaced, ← List.isChain_iff_pairwise]
    exact judgeAll_take_iff_isChain ranking.compares_ranks (fun _ => rfl) _ count inOrder
  · intro clean
    exact (sorted.mp clean).imp Precedes.differ

end Ranking

end ClassOrder
