/-
Module: ClassOrder.Proofs.OrderHistories
Purpose: What holds of an order whatever was done with it. An order starts as the standard one or
  as that of some distinct groups, and then key lists are read into it, with or without success.
  Its two parts never get out of step: the table gives each group its position in the sequence,
  and has no other entries.
Main exports: OrderRecord.IsReachable, OrderRecord.IsReachable.isConsistent,
  OrderRecord.reachable_ranks_are_positions
-/
import ClassOrder.Proofs.Ranking

namespace ClassOrder.OrderRecord

/-- The orders that can come about. Reading keys goes on from whatever the order was, and a list
with faults in it is read like any other. -/
inductive IsReachable : OrderRecord → Prop where
  | standard : IsReachable .standard
  | ofGroups {groups : List Group} (nodup : groups.Nodup) : IsReachable (.ofGroups groups)
  | assign {record : OrderRecord} (reachable : IsReachable record) (keys : List String) :
      IsReachable (record.assign keys).1

/-- Every history leaves a consistent order. -/
theorem IsReachable.isConsistent {record : OrderRecord} (reachable : record.IsReachable) :
    record.IsConsistent := by
  induction reachable with
  | standard => exact .of_nodup Group.nodup_all
  | ofGroups nodup => exact .of_nodup nodup
  | assign _ keys inductionHypothesis => exact inductionHypothesis.assign keys

theorem IsConsistent.contains_iff_rank_nonneg {record : OrderRecord}
    (consistent : record.IsConsistent) (group : Group) :
    record.contains group = true ↔ 0 ≤ record.rank group := by
  rw [consistent.contains_iff]
  constructor
  · intro isIn
    obtain ⟨index, atIndex⟩ := List.getElem?_of_mem isIn
    rw [(consistent.rank_eq_natCast_iff group index).mpr atIndex]
    exact Int.natCast_nonneg index
  · intro nonneg
    by_contra absent
    rw [(consistent.rank_eq_neg_one_iff group).mpr absent] at nonneg
    omega

/-- In every order that can come about, no group is repeated, and the rank of a group is its
position: it is an index exactly if the group stands there, and minus one exactly if the group is
left out. The groups that the order contains are those with a rank that is not negative, and no
two of them share one. The table has one entry for each group, under its key, and no others. -/
theorem reachable_ranks_are_positions {record : OrderRecord} (reachable : record.IsReachable) :
    record.groups.Nodup ∧
      (∀ (group : Group) (index : Nat),
        record.rank group = index ↔ record.groups[index]? = some group) ∧
      (∀ group, record.rank group = -1 ↔ group ∉ record.groups) ∧
      (∀ group, record.contains group = true ↔ 0 ≤ record.rank group) ∧
      (∀ first second, record.contains first = true → record.contains second = true →
        record.rank first = record.rank second → first = second) ∧
      record.ranks.length = record.groups.length ∧
      record.ranks.map Prod.fst = record.groups.map Group.key := by
  have consistent := reachable.isConsistent
  have entries : record.ranks.map Prod.fst = record.groups.map Group.key := consistent.keys_ranks
  refine ⟨consistent.nodup, consistent.rank_eq_natCast_iff, consistent.rank_eq_neg_one_iff,
    consistent.contains_iff_rank_nonneg, ?_, ?_, entries⟩
  · intro first second firstIn _ same
    exact consistent.rank_injective firstIn same
  · rw [← List.length_map Prod.fst, entries, List.length_map]

/-- An order of one group, after a list with a fault in it and then one without. -/
theorem reachable_ranks_are_positions_methods :
    let faulty := ((ofGroups [.constructors]).assign ["public_methods", "methods"]).1
    let final := (faulty.assign ["public_methods", "constructors"]).1
    faulty.groups = [.constructors] ∧
      final.IsReachable ∧
      (final.rank .constructors = (1 : Nat) ↔ final.groups[1]? = some .constructors) ∧
      final.groups = [.publicMethods, .constructors] ∧
      final.ranks.length = final.groups.length := by
  intro faulty final
  have reachable : final.IsReachable :=
    ((IsReachable.ofGroups (by decide)).assign ["public_methods", "methods"]).assign
      ["public_methods", "constructors"]
  obtain ⟨_, positions, _, _, _, sameLength, _⟩ := reachable_ranks_are_positions reachable
  exact ⟨by decide +kernel, reachable, positions .constructors 1, by decide +kernel, sameLength⟩

end ClassOrder.OrderRecord
