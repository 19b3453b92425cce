/-
Module: ClassOrder.Proofs.Ranking
Purpose: What an order says about its groups, and which key lists describe an order. The table of
  a consistent order finds each group at its position, so two groups of the order never share a
  rank. A key list is read without error exactly when all its keys are known and none is repeated.
Main exports: OrderRecord.lookup_ofGroups, OrderRecord.IsConsistent.rank_eq_natCast_iff,
  Ranking.rank_eq_natCast_iff, Ranking.rank_injective, Group.key_injective,
  OrderRecord.IsNewKey, OrderRecord.collect_errors_eq_nil_iff, Ranking.ofKeys_isOk_iff
-/
import ClassOrder.Ranking
import Mathlib.Data.List.Induction

namespace ClassOrder

theorem Group.key_injective {first second : Group} (same : first.key = second.key) :
    first = second := by
  have found : Group.ofKey? first.key = Group.ofKey? second.key := congrArg Group.ofKey? same
  simpa using found

namespace OrderRecord

/-! ### Tables of distinct groups -/

/-- The table of distinct groups finds each of them at its index, and no other group. The
induction adds one group at the end, as building the order does. -/
theorem lookup_ofGroups {groups : List Group} (nodup : groups.Nodup) (group : Group) :
    (ofGroups groups).ranks.lookup group.key = groups.idxOf? group := by
  induction groups using List.reverseRec with
  | nil => rfl
  | append_singleton rest last inductionHypothesis =>
      obtain ⟨restNodup, _, apart⟩ := List.nodup_append.mp nodup
      have keysDiffer : group.key = last.key ↔ group = last :=
        ⟨Group.key_injective, congrArg Group.key⟩
      rw [ofGroups_concat, push, RankTable.lookup_set, inductionHypothesis restNodup,
        groups_ofGroups, List.idxOf?, List.findIdx?_append]
      by_cases isLast : group = last
      · obtain rfl := isLast
        have notBefore : rest.findIdx? (· == group) = none := by
          rw [← List.idxOf?, List.idxOf?_eq_none_iff]
          intro isBefore
          exact apart group isBefore group (List.mem_singleton.mpr rfl) rfl
        simp [notBefore]
      · have notLast : [last].findIdx? (· == group) = none := by
          simpa using Ne.symm isLast
        simp [keysDiffer, isLast, notLast]

/-- The table has one entry for each group, under its key. -/
theorem keys_ranks_ofGroups {groups : List Group} (nodup : groups.Nodup) :
    (ofGroups groups).ranks.map Prod.fst = groups.map Group.key := by
  induction groups using List.reverseRec with
  | nil => rfl
  | append_singleton rest last inductionHypothesis =>
      obtain ⟨restNodup, _, apart⟩ := List.nodup_append.mp nodup
      have isNew : (ofGroups rest).ranks.lookup last.key = none := by
        rw [lookup_ofGroups restNodup, List.idxOf?_eq_none_iff]
        intro isBefore
        exact apart last isBefore last (List.mem_singleton.mpr rfl) rfl
      rw [ofGroups_concat, push, RankTable.set_of_lookup_eq_none isNew, List.map_append,
        List.map_append, inductionHypothesis restNodup]
      rfl

/-! ### Ranks are positions -/

namespace IsConsistent

variable {record : OrderRecord}

theorem lookup_key (consistent : record.IsConsistent) (group : Group) :
    record.ranks.lookup group.key = record.groups.idxOf? group := by
  rw [consistent.ranks_eq, lookup_ofGroups consistent.nodup]

theorem keys_ranks (consistent : record.IsConsistent) :
    record.ranks.map Prod.fst = record.keys := by
  rw [consistent.ranks_eq, keys_ranks_ofGroups consistent.nodup, keys]

theorem contains_iff (consistent : record.IsConsistent) (group : Group) :
    record.contains group = true ↔ group ∈ record.groups := by
  rw [contains, consistent.lookup_key, Option.isSome_iff_ne_none, ne_eq,
    List.idxOf?_eq_none_iff, not_not]

/-- Groups are distinct, so a group has the rank of every position where it stands. -/
theorem rank_eq_natCast_iff (consistent : record.IsConsistent) (group : Group) (index : Nat) :
    record.rank group = index ↔ record.groups[index]? = some group := by
  rw [rank, consistent.lookup_key]
  cases found : record.groups.idxOf? group with
  | none =>
      have absent : group ∉ record.groups := List.idxOf?_eq_none_iff.mp found
      constructor
      · intro negative
        have impossible : (-1 : Int) = index := negative
        omega
      · intro atIndex
        exact absurd (List.mem_of_getElem? atIndex) absent
  | some position =>
      obtain ⟨bound, atPosition, _⟩ := List.findIdx?_eq_some_iff_getElem.mp found
      have groupAt : record.groups[position]? = some group := by
        rw [List.getElem?_eq_getElem bound, beq_iff_eq.mp atPosition]
      constructor
      · intro same
        have samePosition : position = index := Int.ofNat_inj.mp same
        rw [← samePosition, groupAt]
      · intro atIndex
        have same : record.groups[position]? = record.groups[index]? := by
          rw [groupAt, atIndex]
        exact congrArg Int.ofNat ((List.getElem?_inj bound consistent.nodup).mp same)

theorem rank_eq_neg_one_iff (consistent : record.IsConsistent) (group : Group) :
    record.rank group = -1 ↔ group ∉ record.groups := by
  rw [rank, consistent.lookup_key, ← List.idxOf?_eq_none_iff]
  cases record.groups.idxOf? group with
  | none => simp
  | some index => simp

/-- Two groups of an order never share a rank. -/
theorem rank_injective (consistent : record.IsConsistent) {first second : Group}
    (isIn : record.contains first = true) (same : record.rank first = record.rank second) :
    first = second := by
  obtain ⟨index, atIndex⟩ := List.getElem?_of_mem ((consistent.contains_iff first).mp isIn)
  have firstRank : record.rank first = index :=
    (consistent.rank_eq_natCast_iff first index).mpr atIndex
  have secondAt : record.groups[index]? = some second :=
    (consistent.rank_eq_natCast_iff second index).mp (same ▸ firstRank)
  exact Option.some.inj (atIndex.symm.trans secondAt)

end IsConsistent

end OrderRecord

namespace Ranking

theorem contains_iff (ranking : Ranking) (group : Group) :
    ranking.contains group = true ↔ group ∈ ranking.groups :=
  ranking.toIsConsistent.contains_iff group

theorem rank_eq_natCast_iff (ranking : Ranking) (group : Group) (index : Nat) :
    ranking.rank group = index ↔ ranking.groups[index]? = some group :=
  ranking.toIsConsistent.rank_eq_natCast_iff group index

theorem rank_injective (ranking : Ranking) {first second : Group}
    (isIn : ranking.contains first = true) (same : ranking.rank first = ranking.rank second) :
    first = second :=
  ranking.toIsConsistent.rank_injective isIn same

end Ranking

/-! ### Reading keys -/

/-- A key that names a group. -/
def IsGroupKey (key : String) : Prop :=
  ∃ group : Group, group.key = key

namespace OrderRecord

/-- A key that names a group which was not accepted before. -/
def IsNewKey (accepted : List Group) (key : String) : Prop :=
  ∃ group : Group, group.key = key ∧ group ∉ accepted

theorem isNewKey_key_iff (accepted : List Group) (group : Group) :
    IsNewKey accepted group.key ↔ group ∉ accepted := by
  constructor
  · intro isNew
    obtain ⟨other, sameKey, notIn⟩ := isNew
    rwa [← Group.key_injective sameKey]
  · intro notIn
    exact ⟨group, rfl, notIn⟩

/-- Accepting one more group makes its own key old, and no other. -/
theorem isNewKey_extend_iff (accepted : List Group) (group : Group) (key : String) :
    IsNewKey (accepted ++ [group]) key ↔ IsNewKey accepted key ∧ key ≠ group.key := by
  constructor
  · intro isNew
    obtain ⟨other, rfl, notIn⟩ := isNew
    rw [List.mem_append, not_or] at notIn
    refine ⟨⟨other, rfl, notIn.1⟩, ?_⟩
    intro sameKey
    exact notIn.2 (List.mem_singleton.mpr (Group.key_injective sameKey))
  · intro isNew
    obtain ⟨⟨other, rfl, notIn⟩, differs⟩ := isNew
    refine ⟨other, rfl, ?_⟩
    intro isIn
    rcases List.mem_append.mp isIn with before | now
    · exact notIn before
    · exact differs (congrArg Group.key (List.mem_singleton.mp now))

/-- Keys are read without error exactly when each names a group that was not accepted before, and
no key is repeated. The induction follows the reader, which adds each group it accepts. -/
theorem collect_errors_eq_nil_iff (accepted : List Group) (keys : List String) :
    (collect accepted keys).2 = [] ↔ (∀ key ∈ keys, IsNewKey accepted key) ∧ keys.Nodup := by
  induction keys generalizing accepted with
  | nil => simp [collect]
  | cons key rest inductionHypothesis =>
      rw [collect, List.forall_mem_cons, List.nodup_cons]
      cases found : Group.ofKey? key with
      | none =>
          have unknown : ¬ IsNewKey accepted key := by
            intro isNew
            obtain ⟨group, hasKey, _⟩ := isNew
            rw [Group.ofKey?_eq_some_iff.mpr hasKey] at found
            cases found
          simp [unknown]
      | some group =>
          obtain rfl : group.key = key := Group.ofKey?_eq_some_iff.mp found
          by_cases isOld : group ∈ accepted
          · simp [isOld, isNewKey_key_iff]
          · simp only [isOld, if_false, inductionHypothesis, isNewKey_key_iff,
              isNewKey_extend_iff, forall₂_and, not_false_eq_true, true_and]
            rw [List.forall_mem_ne', and_assoc]

/-- Keys are assigned without error exactly when they are known and not repeated. The empty list
is one of these. -/
theorem assign_errors_eq_nil_iff (record : OrderRecord) (keys : List String) :
    (record.assign keys).2 = [] ↔ (∀ key ∈ keys, IsGroupKey key) ∧ keys.Nodup := by
  rw [assign]
  cases keys with
  | nil => simp
  | cons key rest =>
      have clean :
          (collect [] (key :: rest)).2 = [] ↔
            (∀ named ∈ key :: rest, IsGroupKey named) ∧ (key :: rest).Nodup := by
        rw [collect_errors_eq_nil_iff]
        simp [IsNewKey, IsGroupKey]
      rw [← clean]
      cases collect [] (key :: rest) with
      | mk groups errors => cases errors <;> simp

end OrderRecord

/-- The key lists that describe an order are those without unknown and repeated keys. The empty
list is one of them. -/
theorem Ranking.ofKeys_isOk_iff (keys : List String) :
    (∃ ranking, ofKeys keys = .ok ranking) ↔ (∀ key ∈ keys, IsGroupKey key) ∧ keys.Nodup := by
  rw [← OrderRecord.assign_errors_eq_nil_iff standard.toOrderRecord, ofKeys, assign]
  cases (standard.toOrderRecord.assign keys).2 <;> simp

end ClassOrder
