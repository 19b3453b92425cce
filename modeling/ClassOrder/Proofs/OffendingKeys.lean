/-
Module: ClassOrder.Proofs.OffendingKeys
Purpose: What is said about a list of group keys, and what becomes of the order it is read into.
  Each key is judged by the keys before it: one that names no group is unknown, and one that names
  a group and stands at an earlier position as well is repeated. All of them are reported, in the
  order of the list. The order is replaced if there is nothing to report, and kept otherwise.
Main exports: OrderRecord.offenceText?, OrderRecord.offenceTextAt?,
  OrderRecord.map_message_collect, OrderRecord.length_errors_collect,
  OrderRecord.assign_reports_offences
-/
import ClassOrder.Proofs.Ranking
import Mathlib.Data.List.Dedup

namespace ClassOrder

/-! ### Known keys -/

theorem Group.ofKey?_eq_none_iff {key : String} : ofKey? key = none ↔ ¬ IsGroupKey key := by
  constructor
  · intro notFound known
    obtain ⟨group, rfl⟩ := known
    rw [ofKey?_key] at notFound
    cases notFound
  · intro unknown
    cases found : ofKey? key with
    | none => rfl
    | some group => exact absurd ⟨group, ofKey?_eq_some_iff.mp found⟩ unknown

instance : DecidablePred IsGroupKey := fun _ =>
  decidable_of_iff _ (not_congr Group.ofKey?_eq_none_iff |>.trans not_not)

namespace OrderRecord

/-! ### Offences by position -/

/-- What is said about a key, given the keys before it. -/
def offenceText? (earlier : List String) (key : String) : Option String :=
  if ¬ IsGroupKey key then some ("Unknown member group '" ++ key ++ "' in member order.")
  else if key ∈ earlier then
    some ("Member group '" ++ key ++ "' appears more than once in member order.")
  else none

/-- What is said about the key at a position. -/
def offenceTextAt? (keys : List String) (position : Nat) : Option String :=
  keys[position]?.bind (offenceText? (keys.take position))

/-- What is said about keys that stand behind some others, position by position. -/
def offenceTexts (earlier keys : List String) : List String :=
  (List.range keys.length).filterMap fun position =>
    keys[position]?.bind (offenceText? (earlier ++ keys.take position))

theorem offenceTexts_cons (earlier : List String) (key : String) (rest : List String) :
    offenceTexts earlier (key :: rest) =
      (offenceText? earlier key).toList ++ offenceTexts (earlier ++ [key]) rest := by
  rw [offenceTexts, List.length_cons, List.range_succ_eq_map, List.filterMap_cons,
    List.filterMap_map]
  have later : (fun position => (key :: rest)[position]?.bind
        (offenceText? (earlier ++ (key :: rest).take position))) ∘ Nat.succ =
      fun position => rest[position]?.bind
        (offenceText? (earlier ++ [key] ++ rest.take position)) := by
    funext position
    simp
  rw [later, ← offenceTexts]
  cases said : offenceText? earlier key <;> simp [said]

/-! ### Reading keys -/

/-- Reading reports each offence once, in the order of the keys. The groups accepted so far are
those named by the keys before, whatever else stood between them. -/
theorem map_message_collect {accepted : List Group} {earlier : List String}
    (agree : ∀ group, group ∈ accepted ↔ group.key ∈ earlier) (keys : List String) :
    (collect accepted keys).2.map OrderError.message = offenceTexts earlier keys := by
  induction keys generalizing accepted earlier with
  | nil => rfl
  | cons key rest inductionHypothesis =>
      rw [collect, offenceTexts_cons, offenceText?]
      cases found : Group.ofKey? key with
      | none =>
          have unknown := Group.ofKey?_eq_none_iff.mp found
          have agreeNext : ∀ group, group ∈ accepted ↔ group.key ∈ earlier ++ [key] := by
            intro group
            have notKey : group.key ≠ key := fun same => unknown ⟨group, same⟩
            simp [agree, notKey]
          rw [if_pos unknown]
          exact congrArg (_ :: ·) (inductionHypothesis agreeNext)
      | some group =>
          obtain rfl : group.key = key := Group.ofKey?_eq_some_iff.mp found
          have known : IsGroupKey group.key := ⟨group, rfl⟩
          rw [if_neg (not_not.mpr known)]
          by_cases isOld : group ∈ accepted
          · have agreeNext : ∀ other, other ∈ accepted ↔ other.key ∈ earlier ++ [group.key] := by
              intro other
              have oldKey := (agree group).mp isOld
              simp only [agree, List.mem_append, List.mem_singleton, iff_self_or]
              intro same
              rwa [same]
            rw [if_pos ((agree group).mp isOld)]
            simp only [isOld, if_true]
            exact congrArg (_ :: ·) (inductionHypothesis agreeNext)
          · have agreeNext : ∀ other,
                other ∈ accepted ++ [group] ↔ other.key ∈ earlier ++ [group.key] := by
              intro other
              have sameKey : other.key = group.key ↔ other = group :=
                ⟨Group.key_injective, congrArg Group.key⟩
              simp [agree, sameKey]
            rw [if_neg (mt (agree group).mpr isOld)]
            simp only [isOld, if_false]
            exact inductionHypothesis agreeNext

/-- Without errors, the accepted groups are those of the keys, in sequence. -/
theorem keys_collect {accepted : List Group} {keys : List String}
    (clean : (collect accepted keys).2 = []) :
    (collect accepted keys).1.map Group.key = accepted.map Group.key ++ keys := by
  induction keys generalizing accepted with
  | nil => simp [collect]
  | cons key rest inductionHypothesis =>
      rw [collect] at clean ⊢
      cases found : Group.ofKey? key with
      | none => simp [found] at clean
      | some group =>
          obtain rfl : group.key = key := Group.ofKey?_eq_some_iff.mp found
          by_cases isOld : group ∈ accepted
          · simp [found, isOld] at clean
          · simp only [found, isOld, if_false] at clean ⊢
            rw [inductionHypothesis clean]
            simp

theorem mem_collect_iff (accepted : List Group) (keys : List String) (group : Group) :
    group ∈ (collect accepted keys).1 ↔ group ∈ accepted ∨ group.key ∈ keys := by
  fun_induction collect accepted keys with
  | case1 => simp
  | case2 accepted key rest notFound groups errors read inductionHypothesis =>
      have notKey : group.key ≠ key := by
        intro same
        exact Group.ofKey?_eq_none_iff.mp notFound ⟨group, same⟩
      rw [read] at inductionHypothesis
      simp [inductionHypothesis, notKey]
  | case3 accepted key rest old found isOld groups errors read inductionHypothesis =>
      obtain rfl : old.key = key := Group.ofKey?_eq_some_iff.mp found
      have oldIn : group.key = old.key → group ∈ accepted := by
        intro same
        rwa [Group.key_injective same]
      rw [read] at inductionHypothesis
      simp only [inductionHypothesis, List.mem_cons]
      tauto
  | case4 accepted key rest new found isNew inductionHypothesis =>
      obtain rfl : new.key = key := Group.ofKey?_eq_some_iff.mp found
      have sameKey : group.key = new.key ↔ group = new :=
        ⟨Group.key_injective, congrArg Group.key⟩
      rw [inductionHypothesis]
      simp [sameKey, or_assoc]

/-- Every key is either accepted or reported. -/
theorem length_collect (accepted : List Group) (keys : List String) :
    (collect accepted keys).2.length + (collect accepted keys).1.length =
      keys.length + accepted.length := by
  fun_induction collect accepted keys with
  | case1 => rfl
  | case2 _ _ _ _ _ _ read inductionHypothesis =>
      rw [read] at inductionHypothesis
      simp only [List.length_cons] at inductionHypothesis ⊢
      omega
  | case3 _ _ _ _ _ _ _ _ read inductionHypothesis =>
      rw [read] at inductionHypothesis
      simp only [List.length_cons] at inductionHypothesis ⊢
      omega
  | case4 =>
      simp only [List.length_append, List.length_cons, List.length_nil] at *
      omega

/-- The accepted keys are the known ones, each once. -/
theorem keys_collect_perm (keys : List String) :
    ((collect [] keys).1.map Group.key).Perm (keys.filter IsGroupKey).dedup := by
  have distinct : ((collect [] keys).1.map Group.key).Nodup :=
    (collect_nodup .nil keys).map fun _ _ => Group.key_injective
  rw [List.perm_ext_iff_of_nodup distinct (List.nodup_dedup _)]
  intro key
  rw [List.mem_dedup, List.mem_filter, List.mem_map, decide_eq_true_iff]
  simp only [mem_collect_iff, List.not_mem_nil, false_or]
  constructor
  · intro accepted
    obtain ⟨group, isKey, rfl⟩ := accepted
    exact ⟨isKey, group, rfl⟩
  · intro known
    obtain ⟨isKey, group, rfl⟩ := known
    exact ⟨group, isKey, rfl⟩

theorem length_errors_collect (keys : List String) :
    (collect [] keys).2.length + (keys.filter IsGroupKey).dedup.length = keys.length := by
  rw [← (keys_collect_perm keys).length_eq, List.length_map]
  exact length_collect [] keys

/-! ### Assigning keys to an order -/

/-- The errors of an assignment are those of reading the keys; the empty list has none. -/
theorem assign_snd (record : OrderRecord) (keys : List String) :
    (record.assign keys).2 = (collect [] keys).2 := by
  cases keys with
  | nil => rfl
  | cons key rest =>
      rw [assign]
      rcases collect [] (key :: rest) with ⟨groups, _ | ⟨error, errors⟩⟩ <;> rfl

theorem assign_fst_of_errors {record : OrderRecord} {keys : List String}
    (faulty : (record.assign keys).2 ≠ []) : (record.assign keys).1 = record := by
  cases keys with
  | nil => exact absurd rfl faulty
  | cons key rest =>
      rw [assign_snd] at faulty
      rw [assign]
      rcases read : collect [] (key :: rest) with ⟨groups, _ | ⟨error, errors⟩⟩
      · exact absurd (congrArg Prod.snd read) faulty
      · rfl

theorem assign_fst_of_clean {record : OrderRecord} {keys : List String} (given : keys ≠ [])
    (clean : (record.assign keys).2 = []) :
    (record.assign keys).1 = ofGroups (collect [] keys).1 := by
  rw [assign_snd] at clean
  rw [assign, if_neg (by simpa using given)]
  rcases read : collect [] keys with ⟨groups, _ | ⟨error, errors⟩⟩
  · rfl
  · rw [read] at clean
    cases clean

theorem keys_assign_of_clean {record : OrderRecord} {keys : List String}
    (clean : (record.assign keys).2 = []) :
    (record.assign keys).1.keys = if keys = [] then Group.all.map Group.key else keys := by
  by_cases none : keys = []
  · subst none
    rw [if_pos rfl]
    exact congrArg (List.map Group.key) (groups_ofGroups Group.all)
  · have read : (collect [] keys).2 = [] := by rwa [assign_snd] at clean
    rw [if_neg none, assign_fst_of_clean none clean, OrderRecord.keys, groups_ofGroups,
      keys_collect read]
    rfl

/-- The groups of a consistent order determine it. -/
theorem IsConsistent.ofGroups_eq {record : OrderRecord} (consistent : record.IsConsistent) :
    ofGroups record.groups = record := by
  have sameGroups : (ofGroups record.groups).groups = record.groups :=
    groups_ofGroups record.groups
  have sameRanks : (ofGroups record.groups).ranks = record.ranks := consistent.ranks_eq.symm
  exact congrArg₂ OrderRecord.mk sameGroups sameRanks

/-- The keys of an order describe it, whatever they are read into. -/
theorem assign_keys (record : OrderRecord) {ranking : Ranking} (given : ranking.groups ≠ []) :
    record.assign ranking.keys = (ranking.toOrderRecord, []) := by
  have clean : (record.assign ranking.keys).2 = [] := by
    rw [assign_errors_eq_nil_iff]
    constructor
    · intro key isKey
      obtain ⟨group, _, rfl⟩ := List.mem_map.mp isKey
      exact ⟨group, rfl⟩
    · exact ranking.nodup.map fun _ _ => Group.key_injective
  have nonempty : ranking.keys ≠ [] := by simpa [OrderRecord.keys] using given
  have sameKeys : (collect [] ranking.keys).1.map Group.key = ranking.groups.map Group.key := by
    rw [assign_snd] at clean
    exact keys_collect clean
  have sameGroups : (collect [] ranking.keys).1 = ranking.groups :=
    List.map_injective_iff.mpr (fun _ _ => Group.key_injective) sameKeys
  have replaced : (record.assign ranking.keys).1 = ranking.toOrderRecord := by
    rw [assign_fst_of_clean nonempty clean, sameGroups, ranking.toIsConsistent.ofGroups_eq]
  exact Prod.ext replaced clean

/-- Keys are read into an order exactly. Nothing is reported if and only if every key is known and
none is repeated; the order then has these keys in sequence, or the whole taxonomy if there are
none. Otherwise the order stays as it was. What is reported is told position by position: an
unknown key, or a known one that stands at an earlier position too, and nothing else; with the
distinct known keys that makes as many as there are keys. So the keys of an order that is not
empty always give that order back. -/
theorem assign_reports_offences (record : OrderRecord) (keys : List String) :
    ((record.assign keys).2 = [] ↔ (∀ key ∈ keys, IsGroupKey key) ∧ keys.Nodup) ∧
      ((record.assign keys).2 = [] →
        (record.assign keys).1.keys = if keys = [] then Group.all.map Group.key else keys) ∧
      ((record.assign keys).2 ≠ [] → (record.assign keys).1 = record) ∧
      (record.assign keys).2.map OrderError.message =
        (List.range keys.length).filterMap (offenceTextAt? keys) ∧
      (record.assign keys).2.length + (keys.filter IsGroupKey).dedup.length = keys.length ∧
      ∀ ranking : Ranking, ranking.groups ≠ [] →
        record.assign ranking.keys = (ranking.toOrderRecord, []) := by
  refine ⟨assign_errors_eq_nil_iff record keys, keys_assign_of_clean, assign_fst_of_errors,
    ?_, ?_, fun _ => assign_keys record⟩
  · have agree : ∀ group : Group, group ∈ ([] : List Group) ↔ group.key ∈ ([] : List String) := by
      simp
    rw [assign_snd]
    exact map_message_collect agree keys
  · rw [assign_snd]
    exact length_errors_collect keys

/-- A repeated unknown key is unknown twice, and a third mention of a group is reported again. -/
example :
    (standard.assign
        ["constructors", "ctor", "constructors", "ctor", "inputs", "constructors"]).2 =
      [.unknown "ctor", .repeated "constructors", .unknown "ctor", .unknown "inputs",
        .repeated "constructors"] := by
  decide +kernel

end OrderRecord

end ClassOrder
