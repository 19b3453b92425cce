/-
Module: ClassOrder.Proofs.Arrangements
Purpose: Every body can be put in order. Sorting the checked members by rank leaves none misplaced,
  wherever the excluded members are put; sorting them by rank and name leaves no bad verdict at
  all, provided no two of them share group and name. In that case there is no other way: all
  arrangements without a bad verdict list the checked members in this one sequence.
Main exports: Ranking.excluded, Ranking.Arranges, Ranking.NotAfter, Ranking.byRank,
  Ranking.bySortKey, Ranking.HasNoTwins, Ranking.IsClean, Ranking.isClean_iff_pairwise,
  Ranking.sorting_puts_in_order
-/
import ClassOrder.Proofs.SortedBodies
import Mathlib.Data.List.Sort

namespace ClassOrder

namespace Ranking

/-! ### Arrangements -/

/-- The members that take no part in checking. -/
def excluded (ranking : Ranking) (members : List Member) : List Member :=
  members.filter fun member => !ranking.contains member.group

/-- An arrangement of a body that lists its checked members in a given sequence. The excluded
members may stand anywhere, and in any order. -/
structure Arranges (ranking : Ranking) (members sequence arranged : List Member) : Prop where
  checked : ranking.checked arranged = sequence
  excluded : (ranking.excluded arranged).Perm (ranking.excluded members)

section

variable {ranking : Ranking} {members sequence : List Member}

theorem checked_append_excluded_perm (ranking : Ranking) (members : List Member) :
    (ranking.checked members ++ ranking.excluded members).Perm members :=
  List.filter_append_perm _ members

/-- An arrangement has the members of the body, if the sequence has its checked members. -/
theorem Arranges.perm {arranged : List Member}
    (arranges : ranking.Arranges members sequence arranged)
    (sameChecked : sequence.Perm (ranking.checked members)) : arranged.Perm members := by
  have parts : (ranking.checked arranged ++ ranking.excluded arranged).Perm
      (ranking.checked members ++ ranking.excluded members) :=
    List.Perm.append (arranges.checked ▸ sameChecked) arranges.excluded
  exact (ranking.checked_append_excluded_perm arranged).symm.trans
    (parts.trans (ranking.checked_append_excluded_perm members))

/-- Every sequence of the checked members can be arranged: the excluded members go to the end. -/
theorem arranges_append_excluded (sameChecked : sequence.Perm (ranking.checked members)) :
    ranking.Arranges members sequence (sequence ++ ranking.excluded members) where
  checked := by
    have allChecked : ranking.checked sequence = sequence := by
      apply List.filter_eq_self.mpr
      intro member isIn
      exact ranking.checked_inOrder members member (sameChecked.mem_iff.mp isIn)
    have noneChecked : ranking.checked (ranking.excluded members) = [] := by
      simp [checked, excluded, List.filter_filter]
    rw [checked, List.filter_append, ← checked, ← checked, allChecked, noneChecked,
      List.append_nil]
  excluded := by
    have noneExcluded : ranking.excluded sequence = [] := by
      apply List.filter_eq_nil_iff.mpr
      intro member isIn
      simp [ranking.checked_inOrder members member (sameChecked.mem_iff.mp isIn)]
    have allExcluded : ranking.excluded (ranking.excluded members) = ranking.excluded members := by
      simp [excluded, List.filter_filter]
    rw [excluded, List.filter_append, ← excluded, ← excluded, noneExcluded, allExcluded,
      List.nil_append]

end

/-! ### Sorting by rank -/

instance (ranking : Ranking) :
    Std.Total fun first second : Member =>
      ranking.rank first.group ≤ ranking.rank second.group where
  total first second := Int.le_total (ranking.rank first.group) (ranking.rank second.group)

/-- The checked members of a body by the ranks of their groups. Members of equal rank keep their
sequence. -/
def byRank (ranking : Ranking) (members : List Member) : List Member :=
  (ranking.checked members).mergeSort fun first second =>
    decide (ranking.rank first.group ≤ ranking.rank second.group)

theorem byRank_perm (ranking : Ranking) (members : List Member) :
    (ranking.byRank members).Perm (ranking.checked members) :=
  List.mergeSort_perm _ _

theorem pairwise_byRank (ranking : Ranking) (members : List Member) :
    (ranking.byRank members).Pairwise fun first second =>
      ranking.rank first.group ≤ ranking.rank second.group :=
  List.pairwise_mergeSort' (fun first second : Member =>
    ranking.rank first.group ≤ ranking.rank second.group) _

/-- Sorting by rank is stable: the members of each group keep their sequence. -/
theorem filter_byRank (ranking : Ranking) (members : List Member) (group : Group) :
    (ranking.byRank members).filter (fun member => decide (member.group = group)) =
      (ranking.checked members).filter fun member => decide (member.group = group) := by
  let inGroup := fun member : Member => decide (member.group = group)
  -- The members of one group are sorted already, so sorting keeps them as a subsequence.
  have sorted : ((ranking.checked members).filter inGroup).Pairwise fun first second =>
      decide (ranking.rank first.group ≤ ranking.rank second.group) = true := by
    apply List.pairwise_of_forall_mem_list
    intro first firstIn second secondIn
    have firstGroup : first.group = group := of_decide_eq_true (List.mem_filter.mp firstIn).2
    have secondGroup : second.group = group := of_decide_eq_true (List.mem_filter.mp secondIn).2
    simp [firstGroup, secondGroup]
  have kept : ((ranking.checked members).filter inGroup).Sublist (ranking.byRank members) := by
    apply List.sublist_mergeSort _ _ sorted List.filter_sublist
    · simpa using fun first second third : Member => Int.le_trans
    · simpa using fun first second : Member => Int.le_total _ _
  have sublist := kept.filter inGroup
  simp only [List.filter_filter, Bool.and_self] at sublist
  exact (sublist.eq_of_length ((ranking.byRank_perm members).filter inGroup).length_eq.symm).symm

/-! ### Sorting by rank and name -/

/-- The sort key of the first member is below that of the second, or is the same. -/
def NotAfter (ranking : Ranking) (first second : Member) : Prop :=
  Prod.Lex (· < ·) (· ≤ ·) (ranking.sortKey first) (ranking.sortKey second)

instance (ranking : Ranking) : DecidableRel ranking.NotAfter := fun first second =>
  Prod.Lex.decidable (· < ·) (· ≤ ·) (ranking.sortKey first) (ranking.sortKey second)

instance (ranking : Ranking) : Std.Total ranking.NotAfter where
  total first second :=
    Std.Total.total (r := Prod.Lex (· < ·) (· ≤ ·)) (ranking.sortKey first) (ranking.sortKey second)

instance (ranking : Ranking) : IsTrans Member ranking.NotAfter where
  trans first second third := by
    intro firstSecond secondThird
    exact trans_of (Prod.Lex (· < ·) (· ≤ ·)) firstSecond secondThird

/-- The checked members of a body by the ranks of their groups, and by the bytes of their names
within a group. -/
def bySortKey (ranking : Ranking) (members : List Member) : List Member :=
  (ranking.checked members).mergeSort fun first second => decide (ranking.NotAfter first second)

theorem bySortKey_perm (ranking : Ranking) (members : List Member) :
    (ranking.bySortKey members).Perm (ranking.checked members) :=
  List.mergeSort_perm _ _

/-- Of two checked members that differ in group or name, the one that does not come after the
other comes before it. -/
theorem precedes_of_notAfter {ranking : Ranking} {first second : Member}
    (inOrder : ranking.contains first.group = true) (notAfter : ranking.NotAfter first second)
    (differ : ¬ (first.group = second.group ∧ first.name = second.name)) :
    ranking.Precedes first second := by
  rw [precedes_iff]
  rcases Prod.lex_def.mp notAfter with lower | ⟨sameRank, nameLe⟩
  · exact .inl lower
  · have sameGroup : first.group = second.group := ranking.rank_injective inOrder sameRank
    have nameNe : bytes first.name ≠ bytes second.name := by
      intro sameBytes
      exact differ ⟨sameGroup, bytes_injective sameBytes⟩
    exact .inr ⟨sameRank, Std.lt_of_le_of_ne nameLe nameNe⟩

/-! ### Clean bodies -/

/-- No member is misplaced. -/
def IsInPlace (ranking : Ranking) (alphabetize : Bool) (members : List Member) : Prop :=
  ∀ verdict ∈ ranking.verdicts alphabetize members, verdict.isMisplaced = false

/-- No member is misplaced, and no name is unsorted. -/
def IsClean (ranking : Ranking) (members : List Member) : Prop :=
  ∀ verdict ∈ ranking.verdicts true members,
    verdict.isMisplaced = false ∧ verdict.isUnsorted = false

/-- No two positions hold checked members of the same group and name. -/
def HasNoTwins (ranking : Ranking) (members : List Member) : Prop :=
  ∀ (position other : Nat) (first second : Member), position ≠ other →
    members[position]? = some first → members[other]? = some second →
      ranking.contains first.group = true → ranking.contains second.group = true →
        ¬ (first.group = second.group ∧ first.name = second.name)

theorem verdicts_length (ranking : Ranking) (alphabetize : Bool) (members : List Member) :
    (ranking.verdicts alphabetize members).length = (ranking.checked members).length := by
  rw [verdicts_eq_map_restrict, List.length_map, judgeAll_length]

theorem isInPlace_iff_pairwise (ranking : Ranking) (alphabetize : Bool) (members : List Member) :
    ranking.IsInPlace alphabetize members ↔
      (ranking.checked members).Pairwise fun first second =>
        ranking.rank first.group ≤ ranking.rank second.group := by
  have upToEnd := ranking.forall_take_verdicts_isMisplaced alphabetize members
    (ranking.checked members).length
  rw [List.take_of_length_le (ranking.verdicts_length alphabetize members).le] at upToEnd
  rw [IsInPlace, upToEnd,
    judgeAll_take_iff_isChain ranking.compares_ranks (fun _ => rfl) _ _
      (ranking.checked_inOrder members),
    List.take_length, List.isChain_iff_pairwise]

theorem isClean_iff_pairwise (ranking : Ranking) (members : List Member) :
    ranking.IsClean members ↔ (ranking.checked members).Pairwise ranking.Precedes := by
  have upToEnd := judgeAll_take_iff_isChain ranking.compares_sortKeys (fun _ => ⟨rfl, rfl⟩)
    (ranking.checked members) (ranking.checked members).length (ranking.checked_inOrder members)
  rw [List.take_of_length_le (ranking.judgeAll_length none _).le, List.take_length,
    List.isChain_iff_pairwise] at upToEnd
  rw [IsClean, verdicts_eq_map_restrict, List.forall_mem_map]
  exact upToEnd

theorem hasNoTwins_iff_pairwise (ranking : Ranking) (members : List Member) :
    ranking.HasNoTwins members ↔
      (ranking.checked members).Pairwise fun first second =>
        ¬ (first.group = second.group ∧ first.name = second.name) := by
  rw [checked, List.pairwise_filter, List.pairwise_iff_getElem]
  constructor
  · intro noTwins position other inBounds otherInBounds before firstIn secondIn
    exact noTwins position other _ _ (Nat.ne_of_lt before) (List.getElem?_eq_getElem inBounds)
      (List.getElem?_eq_getElem otherInBounds) firstIn secondIn
  · intro pairs position other first second apart atPosition atOther firstIn secondIn same
    obtain ⟨inBounds, rfl⟩ := List.getElem?_eq_some_iff.mp atPosition
    obtain ⟨otherInBounds, rfl⟩ := List.getElem?_eq_some_iff.mp atOther
    rcases Nat.lt_or_gt_of_ne apart with before | after
    · exact pairs position other inBounds otherInBounds before firstIn secondIn same
    · exact pairs other position otherInBounds inBounds after secondIn firstIn
        ⟨same.1.symm, same.2.symm⟩

/-- Twins are twins in every sequence of the checked members. -/
theorem pairwise_differ_of_perm {sequence others : List Member} (perm : sequence.Perm others)
    (differ : others.Pairwise fun first second =>
      ¬ (first.group = second.group ∧ first.name = second.name)) :
    sequence.Pairwise fun first second =>
      ¬ (first.group = second.group ∧ first.name = second.name) := by
  refine (perm.pairwise_iff ?_).mpr differ
  intro first second differs same
  exact differs ⟨same.1.symm, same.2.symm⟩

/-- Without twins, sorting by rank and name makes the sort keys strictly increase. -/
theorem pairwise_bySortKey {ranking : Ranking} {members : List Member}
    (noTwins : ranking.HasNoTwins members) :
    (ranking.bySortKey members).Pairwise ranking.Precedes := by
  have sorted : (ranking.bySortKey members).Pairwise ranking.NotAfter :=
    List.pairwise_mergeSort' ranking.NotAfter _
  have differ := pairwise_differ_of_perm (ranking.bySortKey_perm members)
    ((ranking.hasNoTwins_iff_pairwise members).mp noTwins)
  apply (sorted.and differ).imp_of_mem
  intro first second firstIn _ relations
  have inOrder : ranking.contains first.group = true :=
    ranking.checked_inOrder members first ((ranking.bySortKey_perm members).mem_iff.mp firstIn)
  exact precedes_of_notAfter inOrder relations.1 relations.2

/-- Two sequences of the same members whose sort keys strictly increase are the same. -/
theorem eq_of_pairwise_precedes {ranking : Ranking} {sequence others : List Member}
    (sorted : sequence.Pairwise ranking.Precedes) (othersSorted : others.Pairwise ranking.Precedes)
    (perm : sequence.Perm others) : sequence = others := by
  refine perm.eq_of_pairwise ?_ sorted othersSorted
  intro first second _ _ before after
  exact absurd after (asymm_of (Prod.Lex (· < ·) (· < ·)) before)

/-! ### Putting a body in order -/

/-- Every body can be put in order. Any arrangement that lists the checked members by rank, in the
sequence they had within each group, is one of the body's own members, and none of them is
misplaced. There is an arrangement without any bad verdict exactly when no two positions of the
body hold checked members of the same group and name. Then any arrangement that lists the checked
members by rank and name is one, and every such arrangement lists them in that sequence. -/
theorem sorting_puts_in_order (ranking : Ranking) (members : List Member) :
    ((∀ arranged, ranking.Arranges members (ranking.byRank members) arranged →
        arranged.Perm members ∧ ∀ alphabetize, ranking.IsInPlace alphabetize arranged) ∧
      (∃ arranged, ranking.Arranges members (ranking.byRank members) arranged) ∧
      ∀ group, (ranking.byRank members).filter (fun member => decide (member.group = group)) =
        (ranking.checked members).filter fun member => decide (member.group = group)) ∧
      ((∃ arranged, arranged.Perm members ∧ ranking.IsClean arranged) ↔
        ranking.HasNoTwins members) ∧
      (ranking.HasNoTwins members →
        (∀ arranged, ranking.Arranges members (ranking.bySortKey members) arranged →
          arranged.Perm members ∧ ranking.IsClean arranged) ∧
        (∃ arranged, ranking.Arranges members (ranking.bySortKey members) arranged) ∧
        ∀ arranged, arranged.Perm members → ranking.IsClean arranged →
          ranking.checked arranged = ranking.bySortKey members) := by
  have sortedIsClean : ranking.HasNoTwins members →
      ∀ arranged, ranking.Arranges members (ranking.bySortKey members) arranged →
        arranged.Perm members ∧ ranking.IsClean arranged := by
    intro noTwins arranged arranges
    refine ⟨arranges.perm (ranking.bySortKey_perm members), ?_⟩
    rw [isClean_iff_pairwise, arranges.checked]
    exact pairwise_bySortKey noTwins
  have canBeSorted := arranges_append_excluded (ranking.bySortKey_perm members)
  refine ⟨⟨?_, ?_, ranking.filter_byRank members⟩, ⟨?_, ?_⟩, ?_⟩
  · intro arranged arranges
    refine ⟨arranges.perm (ranking.byRank_perm members), ?_⟩
    intro alphabetize
    rw [isInPlace_iff_pairwise, arranges.checked]
    exact ranking.pairwise_byRank members
  · exact ⟨_, arranges_append_excluded (ranking.byRank_perm members)⟩
  · rintro ⟨arranged, perm, clean⟩
    rw [isClean_iff_pairwise] at clean
    rw [hasNoTwins_iff_pairwise]
    exact pairwise_differ_of_perm (perm.symm.filter _) (clean.imp Precedes.differ)
  · intro noTwins
    exact ⟨_, sortedIsClean noTwins _ canBeSorted⟩
  · intro noTwins
    refine ⟨sortedIsClean noTwins, ⟨_, canBeSorted⟩, ?_⟩
    intro arranged perm clean
    rw [isClean_iff_pairwise] at clean
    exact eq_of_pairwise_precedes clean (pairwise_bySortKey noTwins)
      ((perm.filter _).trans (ranking.bySortKey_perm members).symm)

end Ranking

end ClassOrder
