import Mathlib.Data.List.Basic
import Mathlib.Data.List.Nodup

namespace RiskSentinel
namespace Foundation

/-!
# Finite tables with unique keys

A table is the extensional content of a hash map: finitely many entries, no
key twice.  The order of the entries is a detail of the representation; every
law below is stated through `find?`, so a program proved with these laws does
not depend on an iteration order.
-/

/-- Finitely many key-value entries, each key at most once. -/
structure Table (K : Type) (V : Type) where
  entries : List (K × V)
  keys_nodup : (entries.map Prod.fst).Nodup

namespace Table

variable {K V W : Type}

/-- The table without entries. -/
def empty : Table K V :=
  ⟨[], List.nodup_nil⟩

def size (table : Table K V) : Nat :=
  table.entries.length

private theorem filterMap_keys_sublist (entries : List (K × V)) (select : K -> V -> Option W) :
    ((entries.filterMap fun entry => (select entry.1 entry.2).map
      (Prod.mk entry.1)).map Prod.fst).Sublist
      (entries.map Prod.fst) := by
  induction entries with
  | nil => exact List.Sublist.slnil
  | cons entry rest inductionHypothesis =>
      cases selected : select entry.1 entry.2 with
      | none =>
          rw [List.filterMap_cons_none (by rw [selected]; rfl)]
          exact List.Sublist.cons _ inductionHypothesis
      | some value =>
          rw [List.filterMap_cons_some (by rw [selected]; rfl)]
          exact List.Sublist.cons_cons _ inductionHypothesis

/-- Transform or drop each entry, keeping its key. -/
def filterMap (table : Table K V) (select : K -> V -> Option W) : Table K W :=
  ⟨table.entries.filterMap fun entry => (select entry.1 entry.2).map (Prod.mk entry.1),
    (filterMap_keys_sublist table.entries select).nodup table.keys_nodup⟩

/-- Drop the entries that satisfy the predicate. -/
def eraseIf (table : Table K V) (stale : K -> V -> Bool) : Table K V :=
  table.filterMap fun key value => if stale key value then none else some value

variable [DecidableEq K]

/-- The value stored under a key. -/
def find? (table : Table K V) (key : K) : Option V :=
  table.entries.lookup key

def contains (table : Table K V) (key : K) : Bool :=
  (table.find? key).isSome

/-- Store a value, replacing an earlier one under the same key. -/
def assign (table : Table K V) (key : K) (value : V) : Table K V :=
  ⟨(key, value) :: (table.eraseIf fun other _ => decide (other = key)).entries, by
    rw [List.map_cons, List.nodup_cons]
    refine ⟨?_, (table.eraseIf _).keys_nodup⟩
    intro member
    rcases List.mem_map.mp member with ⟨entry, listed, same⟩
    rcases List.mem_filterMap.mp listed with ⟨old, _, kept⟩
    by_cases equal : old.1 = key
    · simp [equal] at kept
    · simp only [equal, decide_false, Bool.false_eq_true, if_false, Option.map_some,
        Option.some.injEq] at kept
      rw [← kept] at same
      exact equal same⟩

/-- Append to the list stored under a key, an absent key counting as the
empty list. -/
def pushBack (table : Table K (List V)) (key : K) (value : V) : Table K (List V) :=
  table.assign key ((table.find? key).getD [] ++ [value])

@[simp] theorem find?_empty (key : K) : (empty : Table K V).find? key = none := rfl

private theorem lookup_eq_none_of_not_mem (entries : List (K × V)) (key : K)
    (absent : key ∉ entries.map Prod.fst) : entries.lookup key = none := by
  induction entries with
  | nil => rfl
  | cons entry rest inductionHypothesis =>
      rw [List.map_cons, List.mem_cons, not_or] at absent
      rw [List.lookup_cons, beq_eq_false_iff_ne.mpr absent.1]
      exact inductionHypothesis absent.2

theorem mem_of_find? {table : Table K V} {key : K} {value : V}
    (found : table.find? key = some value) : (key, value) ∈ table.entries := by
  rcases List.lookup_eq_some_iff.mp found with ⟨earlier, later, split, _⟩
  rw [split]
  exact List.mem_append_right _ List.mem_cons_self

private theorem lookup_filterMap (entries : List (K × V)) (select : K -> V -> Option W) (key : K)
    (unique : (entries.map Prod.fst).Nodup) :
    (entries.filterMap fun entry => (select entry.1 entry.2).map (Prod.mk entry.1)).lookup key =
      (entries.lookup key).bind (select key) := by
  induction entries with
  | nil => rfl
  | cons entry rest inductionHypothesis =>
      rcases entry with ⟨head, value⟩
      rw [List.map_cons, List.nodup_cons] at unique
      rw [List.lookup_cons]
      by_cases same : key = head
      · subst same
        -- A dropped entry is not shadowed by a later one: its key occurs once.
        have later : (rest.filterMap fun entry =>
            (select entry.1 entry.2).map (Prod.mk entry.1)).lookup key = none := by
          rw [inductionHypothesis unique.2, lookup_eq_none_of_not_mem rest key unique.1]
          rfl
        cases selected : select key value with
        | none =>
            rw [List.filterMap_cons_none (by simp [selected]), later]
            simp [selected]
        | some result =>
            rw [List.filterMap_cons_some (b := (key, result)) (by simp [selected])]
            simp [selected]
      · rw [beq_eq_false_iff_ne.mpr same]
        cases selected : select head value with
        | none =>
            rw [List.filterMap_cons_none (by simp [selected])]
            exact inductionHypothesis unique.2
        | some result =>
            rw [List.filterMap_cons_some (b := (head, result)) (by simp [selected]),
              List.lookup_cons, beq_eq_false_iff_ne.mpr same]
            exact inductionHypothesis unique.2

@[simp] theorem find?_filterMap (table : Table K V) (select : K -> V -> Option W) (key : K) :
    (table.filterMap select).find? key = (table.find? key).bind (select key) :=
  lookup_filterMap table.entries select key table.keys_nodup

@[simp] theorem find?_eraseIf (table : Table K V) (stale : K -> V -> Bool) (key : K) :
    (table.eraseIf stale).find? key = (table.find? key).filter (fun value => !stale key value) := by
  rw [eraseIf, find?_filterMap]
  cases table.find? key with
  | none => rfl
  | some value => cases selected : stale key value <;> simp [selected, Option.filter]

@[simp] theorem find?_assign (table : Table K V) (key other : K) (value : V) :
    (table.assign key value).find? other = if other = key then some value
      else table.find? other := by
  change List.lookup other
    ((key, value) :: (table.eraseIf fun old _ => decide (old = key)).entries) = _
  rw [List.lookup_cons]
  by_cases same : other = key
  · rw [if_pos same, beq_iff_eq.mpr same]
  · rw [if_neg same, beq_eq_false_iff_ne.mpr same]
    change (table.eraseIf fun old _ => decide (old = key)).find? other = _
    rw [find?_eraseIf]
    cases table.find? other with
    | none => rfl
    | some stored => simp [Option.filter, same]

/-- A stored entry is the one that is found. -/
theorem find?_of_mem {table : Table K V} {key : K} {value : V}
    (listed : (key, value) ∈ table.entries) : table.find? key = some value := by
  have general : forall entries : List (K × V), (entries.map Prod.fst).Nodup ->
      (key, value) ∈ entries ->
      entries.lookup key = some value := by
    intro entries unique member
    induction entries with
    | nil => cases member
    | cons entry rest inductionHypothesis =>
        rw [List.map_cons, List.nodup_cons] at unique
        rw [List.lookup_cons]
        rcases List.mem_cons.mp member with same | later
        · rw [← same, beq_self_eq_true]
        · have different : key ≠ entry.1 := by
            intro same
            exact unique.1 (same ▸ List.mem_map_of_mem later)
          rw [beq_eq_false_iff_ne.mpr different]
          exact inductionHypothesis unique.2 later
  exact general table.entries table.keys_nodup listed

theorem ne_empty_of_find? {table : Table K V} {key : K} {value : V}
    (found : table.find? key = some value) : table.size ≠ 0 := by
  intro none
  have listed := mem_of_find? found
  rw [List.eq_nil_of_length_eq_zero none] at listed
  cases listed

/-! ## Storing a list of entries -/

/-- Append the value of an entry under its key. -/
def pushEntry (table : Table K (List V)) (entry : K × V) : Table K (List V) :=
  table.pushBack entry.1 entry.2

/-- Append each value under its key, in order. -/
def pushBackAll (table : Table K (List V)) (entries : List (K × V)) : Table K (List V) :=
  entries.foldl pushEntry table

/-- Store each value under its key, a later one replacing an earlier one. -/
def assignAll (table : Table K V) (entries : List (K × V)) : Table K V :=
  entries.foldl (fun stored entry => stored.assign entry.1 entry.2) table

/-- The values that a list of entries gives for one key, in order. -/
def valuesAt (entries : List (K × V)) (key : K) : List V :=
  (entries.filter fun entry => decide (entry.1 = key)).map Prod.snd

theorem pushBackAll_append (table : Table K (List V)) (earlier later : List (K × V)) :
    table.pushBackAll (earlier ++ later) = (table.pushBackAll earlier).pushBackAll later :=
  List.foldl_append

theorem find?_pushBackAll (table : Table K (List V)) (entries : List (K × V)) (key : K) :
    (table.pushBackAll entries).find? key =
      if valuesAt entries key = [] then table.find? key
      else some ((table.find? key).getD [] ++ valuesAt entries key) := by
  induction entries generalizing table with
  | nil => rfl
  | cons entry rest inductionHypothesis =>
      have step : (table.pushBackAll (entry :: rest)).find? key =
          ((table.pushBack entry.1 entry.2).pushBackAll rest).find? key := rfl
      rw [step, inductionHypothesis, pushBack, find?_assign]
      by_cases same : entry.1 = key
      · have listed : valuesAt (entry :: rest) key = entry.2 :: valuesAt rest key := by
          simp [valuesAt, same]
        rw [listed, if_pos same.symm, same, if_neg (List.cons_ne_nil _ _), Option.getD_some,
          List.append_assoc]
        by_cases last : valuesAt rest key = []
        · rw [if_pos last, last]
        · rw [if_neg last, List.singleton_append]
      · have skipped : valuesAt (entry :: rest) key = valuesAt rest key := by
          simp [valuesAt, same]
        have other : ¬ key = entry.1 := fun equal => same equal.symm
        rw [skipped, if_neg other]

/-- What an empty table holds after the entries are appended. -/
theorem find?_pushBackAll_empty (entries : List (K × V)) (key : K) :
    ((empty : Table K (List V)).pushBackAll entries).find? key =
      if valuesAt entries key = [] then none else some (valuesAt entries key) :=
  find?_pushBackAll empty entries key

theorem getD_find?_pushBackAll_empty (entries : List (K × V)) (key : K) :
    (((empty : Table K (List V)).pushBackAll entries).find? key).getD
    [] = valuesAt entries key := by
  rw [find?_pushBackAll_empty]
  by_cases none : valuesAt entries key = []
  · rw [if_pos none, none]
    rfl
  · rw [if_neg none]
    rfl

/-- Appending changes the contents unless there is nothing to append. -/
theorem find?_eq_pushBackAll_iff (table : Table K (List V)) (entries : List (K × V)) :
    (forall key, table.find? key = (table.pushBackAll entries).find? key) ↔ entries = [] := by
  constructor
  · intro same
    cases entries with
    | nil => rfl
    | cons entry rest =>
        have listed : valuesAt (entry :: rest) entry.1 = entry.2 :: valuesAt rest entry.1 := by
          simp [valuesAt]
        have here := congrArg (fun found => (found.getD []).length) (same entry.1)
        simp only [find?_pushBackAll, listed, List.cons_ne_nil, if_false, Option.getD_some,
          List.length_append,
          List.length_cons] at here
        omega
  · rintro rfl key
    rfl

/-- Every list in the table comes from the appended entries. -/
theorem mem_of_mem_pushBackAll {entries : List (K × V)} {key : K} {values : List V}
    (listed : (key, values) ∈ ((empty : Table K (List V)).pushBackAll entries).entries) {value : V}
    (member : value ∈ values) : (key, value) ∈ entries := by
  have found := find?_of_mem listed
  rw [find?_pushBackAll_empty] at found
  by_cases none : valuesAt entries key = []
  · rw [if_pos none] at found
    cases found
  · rw [if_neg none, Option.some.injEq] at found
    rw [← found, valuesAt, List.mem_map] at member
    rcases member with ⟨entry, kept, rfl⟩
    rcases List.mem_filter.mp kept with ⟨stored, same⟩
    rw [← of_decide_eq_true same]
    exact stored

theorem find?_assignAll (table : Table K V) (entries : List (K × V)) (key : K) :
    (table.assignAll entries).find? key = (entries.reverse.lookup key).or (table.find? key) := by
  induction entries generalizing table with
  | nil => rfl
  | cons entry rest inductionHypothesis =>
      have step : (table.assignAll (entry :: rest)).find? key =
          ((table.assign entry.1 entry.2).assignAll rest).find? key := rfl
      have single : List.lookup key [entry] = if key = entry.1 then some entry.2 else none := by
        by_cases same : key = entry.1
        · rw [List.lookup_cons, beq_iff_eq.mpr same, if_pos same]
        · rw [List.lookup_cons, beq_eq_false_iff_ne.mpr same, if_neg same]
          rfl
      rw [step, inductionHypothesis, find?_assign, List.reverse_cons, List.lookup_append, single]
      cases rest.reverse.lookup key with
      | some value => rfl
      | none =>
          by_cases same : key = entry.1
          · rw [if_pos same, if_pos same]
            rfl
          · rw [if_neg same, if_neg same]
            rfl

/-! ## All values of a table of lists -/

/-- Every value of every list, with its key. -/
def pairs (table : Table K (List V)) : List (K × V) :=
  table.entries.flatMap fun entry => entry.2.map (Prod.mk entry.1)

/-- The entries without those of one key. -/
private def without (entries : List (K × List V)) (key : K) : List (K × List V) :=
  entries.filterMap fun entry =>
    (if decide (entry.1 = key) = true then none else some entry.2).map (Prod.mk entry.1)

private theorem pairs_split (entries : List (K × List V)) (key : K)
    (unique : (entries.map Prod.fst).Nodup) :
    (entries.flatMap fun entry => entry.2.map (Prod.mk entry.1)).Perm
      (((entries.lookup key).getD []).map (Prod.mk key) ++
        (without entries key).flatMap fun entry => entry.2.map (Prod.mk entry.1)) := by
  induction entries with
  | nil => exact List.Perm.nil
  | cons entry rest inductionHypothesis =>
      rw [List.map_cons, List.nodup_cons] at unique
      have others := inductionHypothesis unique.2
      by_cases same : entry.1 = key
      · have absent : rest.lookup key = none := lookup_eq_none_of_not_mem rest key (same ▸ unique.1)
        have dropped : without (entry :: rest) key = without rest key := by simp [without, same]
        have here : (entry :: rest).lookup key = some entry.2 := by
          rw [List.lookup_cons, beq_iff_eq.mpr same.symm]
        rw [absent] at others
        rw [dropped, here, List.flatMap_cons, Option.getD_some, same]
        exact others.append_left _
      · have kept : without (entry :: rest) key = entry :: without rest key := by
          simp [without, same]
        have here : (entry :: rest).lookup key = rest.lookup key := by
          rw [List.lookup_cons, beq_eq_false_iff_ne.mpr (Ne.symm same)]
        rw [kept, here, List.flatMap_cons, List.flatMap_cons]
        exact (others.append_left _).trans (List.perm_append_comm_assoc _ _ _)

/-- Appending a value adds one pair. -/
theorem pairs_pushBack (table : Table K (List V)) (key : K) (value : V) :
    (table.pushBack key value).pairs.Perm (table.pairs ++ [(key, value)]) := by
  have pushed : (table.pushBack key value).pairs =
      ((table.find? key).getD [] ++ [value]).map (Prod.mk key) ++
        (without table.entries key).flatMap fun entry => entry.2.map (Prod.mk entry.1) := rfl
  have split := pairs_split table.entries key table.keys_nodup
  rw [pushed, List.map_append, List.append_assoc]
  apply (List.perm_append_comm.append_left _).trans
  rw [← List.append_assoc]
  exact split.symm.append_right _

/-- A table built by appending holds every appended pair as often as it was
appended, and no other. -/
theorem pairs_pushBackAll_empty (entries : List (K × V)) :
    ((empty : Table K (List V)).pushBackAll entries).pairs.Perm entries := by
  have general : forall table : Table K (List V), (table.pushBackAll entries).pairs.Perm
      (table.pairs ++ entries) := by
    induction entries with
    | nil =>
        intro table
        rw [List.append_nil]
        exact List.Perm.refl _
    | cons entry rest inductionHypothesis =>
        intro table
        have step := inductionHypothesis (table.pushEntry entry)
        rw [← List.singleton_append, ← List.append_assoc]
        exact step.trans ((pairs_pushBack table entry.1 entry.2).append_right rest)
  exact general empty

end Table

end Foundation
end RiskSentinel
