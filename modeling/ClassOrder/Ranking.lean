/-
Module: ClassOrder.Ranking
Purpose: A configured order of member groups. The rank of a group is its index in the order;
  groups that are left out take no part in checking. An order keeps its groups in sequence and,
  beside them, a table that finds the rank of a group by its key. It is read from group keys, and
  every offending key is reported.
Main exports: RankTable, OrderRecord, OrderRecord.rank, OrderRecord.contains, OrderError,
  OrderError.message, OrderRecord.assign, OrderRecord.IsConsistent, Ranking, Ranking.standard,
  Ranking.assign, Ranking.ofKeys
-/
import ClassOrder.Group

namespace ClassOrder

/-! ### Rank tables -/

/-- Ranks by group key. -/
abbrev RankTable := List (String × Nat)

namespace RankTable

/-- Note the rank of a key, in place of an earlier one. -/
def set : RankTable → String → Nat → RankTable
  | [], key, rank => [(key, rank)]
  | entry :: rest, key, rank =>
      if entry.1 = key then (key, rank) :: rest else entry :: set rest key rank

/-- Noting a rank changes what is found under its own key only. -/
theorem lookup_set (table : RankTable) (key : String) (rank : Nat) (other : String) :
    (table.set key rank).lookup other =
      if other = key then some rank else table.lookup other := by
  induction table with
  | nil =>
      rw [set, List.lookup_cons, List.lookup_nil]
      by_cases same : other = key
      · simp [same]
      · simp [beq_eq_false_iff_ne.mpr same, same]
  | cons entry rest inductionHypothesis =>
      rw [set]
      by_cases isKey : entry.1 = key
      · rw [if_pos isKey, List.lookup_cons, List.lookup_cons, isKey]
        by_cases same : other = key
        · simp [same]
        · simp [beq_eq_false_iff_ne.mpr same, same]
      · rw [if_neg isKey, List.lookup_cons, List.lookup_cons, inductionHypothesis]
        by_cases same : other = key
        · simp [same, beq_eq_false_iff_ne.mpr (Ne.symm isKey)]
        · simp [same]

/-- A key that was not there gets an entry of its own, after all others. -/
theorem set_of_lookup_eq_none {table : RankTable} {key : String}
    (isNew : table.lookup key = none) (rank : Nat) :
    table.set key rank = table ++ [(key, rank)] := by
  induction table with
  | nil => rfl
  | cons entry rest inductionHypothesis =>
      have differs : key ≠ entry.1 := by
        intro same
        simp [same] at isNew
      rw [List.lookup_cons, beq_eq_false_iff_ne.mpr differs] at isNew
      rw [set, if_neg (Ne.symm differs), inductionHypothesis isNew, List.cons_append]

end RankTable

/-! ### Orders as they are kept -/

/-- The groups of an order in sequence, and the table of their ranks. Nothing here makes the two
agree. -/
structure OrderRecord where
  groups : List Group
  ranks : RankTable
deriving Repr, DecidableEq

namespace OrderRecord

/-- An order without groups. -/
def empty : OrderRecord := { groups := [], ranks := [] }

/-- Add a group at the end, and note its index. -/
def push (record : OrderRecord) (group : Group) : OrderRecord :=
  { groups := record.groups ++ [group]
    ranks := record.ranks.set group.key record.groups.length }

/-- The order of the listed groups. -/
def ofGroups (groups : List Group) : OrderRecord :=
  groups.foldl push empty

/-- The order that holds when none is configured: the whole taxonomy. -/
def standard : OrderRecord := ofGroups Group.all

/-- Whether members of a group take part in checking. -/
def contains (record : OrderRecord) (group : Group) : Bool :=
  (record.ranks.lookup group.key).isSome

/-- The index of a group in the order. A group that is left out ranks below all others, at
minus one. -/
def rank (record : OrderRecord) (group : Group) : Int :=
  match record.ranks.lookup group.key with
  | some index => index
  | none => -1

/-- The keys of the order's groups. -/
def keys (record : OrderRecord) : List String :=
  record.groups.map Group.key

@[simp] theorem groups_foldl_push (groups : List Group) (record : OrderRecord) :
    (groups.foldl push record).groups = record.groups ++ groups := by
  induction groups generalizing record with
  | nil => exact (List.append_nil _).symm
  | cons group rest inductionHypothesis =>
      rw [List.foldl_cons, inductionHypothesis, push, List.append_assoc]
      rfl

@[simp] theorem groups_ofGroups (groups : List Group) : (ofGroups groups).groups = groups :=
  groups_foldl_push groups empty

theorem ofGroups_concat (groups : List Group) (group : Group) :
    ofGroups (groups ++ [group]) = (ofGroups groups).push group := by
  rw [ofGroups, List.foldl_append]
  rfl

end OrderRecord

/-! ### Reading an order from group keys -/

/-- What can be wrong with one key of a configured order. -/
inductive OrderError where
  | unknown (key : String)
  | repeated (key : String)
deriving Repr, DecidableEq

/-- The text that reports an offending key. -/
def OrderError.message : OrderError → String
  | unknown key => "Unknown member group '" ++ key ++ "' in member order."
  | repeated key => "Member group '" ++ key ++ "' appears more than once in member order."

namespace OrderRecord

/-- Read keys from left to right, after some groups that are accepted already. A key that names no
group, or names an accepted one, adds an error and leaves the accepted groups alone. -/
def collect (accepted : List Group) : List String → List Group × List OrderError
  | [] => (accepted, [])
  | key :: rest =>
      match Group.ofKey? key with
      | none =>
          let (groups, errors) := collect accepted rest
          (groups, .unknown key :: errors)
      | some group =>
          if group ∈ accepted then
            let (groups, errors) := collect accepted rest
            (groups, .repeated key :: errors)
          else collect (accepted ++ [group]) rest

/-- Replace an order by the one that the keys describe. The empty list describes the standard
order. If some key is at fault the order stays as it was; every unknown or repeated key is an
error, and the errors stand in the order of the keys. -/
def assign (record : OrderRecord) (keys : List String) : OrderRecord × List OrderError :=
  if keys.isEmpty then (standard, [])
  else
    match collect [] keys with
    | (groups, []) => (ofGroups groups, [])
    | (_, errors) => (record, errors)

/-- Accepted groups stay distinct. -/
theorem collect_nodup {accepted : List Group} (nodup : accepted.Nodup) (keys : List String) :
    (collect accepted keys).1.Nodup := by
  fun_induction collect accepted keys with
  | case1 => exact nodup
  | case2 _ _ _ _ _ _ read inductionHypothesis =>
      rw [read] at inductionHypothesis
      exact inductionHypothesis nodup
  | case3 _ _ _ _ _ _ _ _ read inductionHypothesis =>
      rw [read] at inductionHypothesis
      exact inductionHypothesis nodup
  | case4 accepted _ _ group _ isNew inductionHypothesis =>
      apply inductionHypothesis
      rw [List.nodup_append]
      refine ⟨nodup, by simp, ?_⟩
      intro member isAccepted other isGroup same
      rw [List.mem_singleton] at isGroup
      exact isNew (isGroup ▸ same ▸ isAccepted)

/-! ### Consistent orders -/

/-- The groups are distinct, and the table is the one that adding them in sequence gives. -/
structure IsConsistent (record : OrderRecord) : Prop where
  nodup : record.groups.Nodup
  ranks_eq : record.ranks = (ofGroups record.groups).ranks := by rfl

theorem IsConsistent.of_nodup {groups : List Group} (nodup : groups.Nodup) :
    (ofGroups groups).IsConsistent where
  nodup := by rwa [groups_ofGroups]
  ranks_eq := by rw [groups_ofGroups]

/-- Reading keys into an order keeps it consistent, whether or not the keys are at fault. -/
theorem IsConsistent.assign {record : OrderRecord} (consistent : record.IsConsistent)
    (keys : List String) : (record.assign keys).1.IsConsistent := by
  rw [OrderRecord.assign]
  split
  · exact .of_nodup Group.nodup_all
  · have distinct := collect_nodup .nil keys
    split
    · next groups read =>
        rw [read] at distinct
        exact .of_nodup distinct
    · exact consistent

end OrderRecord

/-! ### Rankings -/

/-- Distinct groups in the order in which they should appear, and the table of their ranks. -/
structure Ranking extends OrderRecord, OrderRecord.IsConsistent toOrderRecord where
  ranks := (OrderRecord.ofGroups groups).ranks
deriving DecidableEq

namespace Ranking

/-- The order that holds when none is configured: the whole taxonomy. -/
def standard : Ranking :=
  { groups := Group.all, nodup := Group.nodup_all }

instance : Inhabited Ranking := ⟨standard⟩

/-- Replace an order by the one that the keys describe. If some key is at fault the order stays
as it was, and the errors are returned. -/
def assign (ranking : Ranking) (keys : List String) : Ranking × List OrderError :=
  ({ toOrderRecord := (ranking.toOrderRecord.assign keys).1
     toIsConsistent := ranking.toIsConsistent.assign keys },
    (ranking.toOrderRecord.assign keys).2)

/-- Read an order from group keys. -/
def ofKeys (keys : List String) : Except (List OrderError) Ranking :=
  match standard.assign keys with
  | (ranking, []) => .ok ranking
  | (_, errors) => .error errors

end Ranking

end ClassOrder
