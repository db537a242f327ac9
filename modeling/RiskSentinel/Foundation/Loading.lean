import Mathlib.Data.List.Basic
import Mathlib.Data.List.TakeWhile

namespace RiskSentinel
namespace Foundation

/-!
# Loading rows that may fail

A loader reads rows one after another and stores what it read.  Where it
catches a failure decides what a bad row costs.  With one handler around the
loop, the first failure ends it and what was stored before stays.  With a
handler inside the loop, only the bad row is lost.

Both loaders are described by the entries that the readable rows give.  The
first one stores the entries before the first failure, the second one stores
all of them, so the two differ exactly when a readable row stands behind an
unreadable one.
-/

section Loading

variable {Row Entry State Failure : Type}
variable (read : Row -> Except Failure Entry) (store : State -> Entry -> State)

/-- One handler around the loop: the state that is left, and the failure that
ended the loop. -/
def loadUntilFailure : State -> List Row -> State × Option Failure
  | state, [] => (state, none)
  | state, row :: rest =>
      match read row with
      | .ok entry => loadUntilFailure (store state entry) rest
      | .error failure => (state, some failure)

/-- A handler inside the loop. -/
def loadSkippingFailures : State -> List Row -> State
  | state, [] => state
  | state, row :: rest =>
      match read row with
      | .ok entry => loadSkippingFailures (store state entry) rest
      | .error _ => loadSkippingFailures state rest

/-- The row loads on its own. -/
def loads (row : Row) : Bool :=
  (read row).toOption.isSome

/-- What the rows give that load on their own. -/
def loadedEntries (rows : List Row) : List Entry :=
  rows.filterMap fun row => (read row).toOption

/-- No row that loads stands behind one that does not. -/
def FailuresLast (rows : List Row) : Prop :=
  rows.Pairwise fun earlier later => loads read later = true -> loads read earlier = true

instance decidableFailuresLast (rows : List Row) : Decidable (FailuresLast read rows) :=
  inferInstanceAs (Decidable (rows.Pairwise _))

theorem loads_iff {row : Row} : loads read row = true ↔
    Exists fun entry => read row = .ok entry := by
  unfold loads
  cases read row with
  | error failure => simp [Except.toOption]
  | ok entry => simp [Except.toOption]

theorem loads_of_ok {row : Row} {entry : Entry} (done : read row = .ok entry) :
    loads read row = true :=
  (loads_iff read).mpr ⟨entry, done⟩

theorem loadedEntries_cons_ok {row : Row} {entry : Entry} (done : read row = .ok entry)
    (rest : List Row) : loadedEntries read (row :: rest) = entry :: loadedEntries read rest := by
  simp [loadedEntries, done, Except.toOption]

theorem loadedEntries_cons_error {row : Row} {failure : Failure}
    (failed : read row = .error failure) (rest : List Row) :
    loadedEntries read (row :: rest) = loadedEntries read rest := by
  simp [loadedEntries, failed, Except.toOption]

theorem loadedEntries_append (earlier later : List Row) :
    loadedEntries read (earlier ++ later) = loadedEntries read earlier ++
      loadedEntries read later :=
  List.filterMap_append

/-- With a handler inside the loop every readable row is stored. -/
theorem loadSkippingFailures_eq (state : State) (rows : List Row) :
    loadSkippingFailures read store state rows = (loadedEntries read rows).foldl store state := by
  induction rows generalizing state with
  | nil => rfl
  | cons row rest inductionHypothesis =>
      cases done : read row with
      | error failure =>
          rw [loadedEntries_cons_error read done]
          simp only [loadSkippingFailures, done]
          exact inductionHypothesis state
      | ok entry =>
          rw [loadedEntries_cons_ok read done]
          simp only [loadSkippingFailures, done]
          exact inductionHypothesis (store state entry)

/-- With one handler around the loop the rows before the first failure are
stored. -/
theorem loadUntilFailure_state (state : State) (rows : List Row) :
    (loadUntilFailure read store state rows).1 =
      (loadedEntries read (rows.takeWhile (loads read))).foldl store state := by
  induction rows generalizing state with
  | nil => rfl
  | cons row rest inductionHypothesis =>
      cases done : read row with
      | error failure =>
          have stops : loads read row = false := by simp [loads, done, Except.toOption]
          simp [loadUntilFailure, done, stops, loadedEntries]
      | ok entry =>
          rw [List.takeWhile_cons_of_pos (loads_of_ok read done), loadedEntries_cons_ok read done]
          simp only [loadUntilFailure, done]
          exact inductionHypothesis (store state entry)

theorem loadUntilFailure_failure (state : State) (rows : List Row) :
    (loadUntilFailure read store state rows).2 = none ↔ forall row, row ∈ rows ->
    loads read row = true := by
  induction rows generalizing state with
  | nil => simp [loadUntilFailure]
  | cons row rest inductionHypothesis =>
      cases done : read row with
      | error failure => simp [loadUntilFailure, done, loads, Except.toOption]
      | ok entry =>
          rw [List.forall_mem_cons]
          simp only [loadUntilFailure, done, inductionHypothesis, loads_of_ok read done, true_and]

/-- The rows that do not load give nothing. -/
theorem loadedEntries_filter (rows : List Row) :
    loadedEntries read (rows.filter (loads read)) = loadedEntries read rows := by
  unfold loadedEntries
  rw [List.filterMap_filter]
  congr 1
  funext row
  cases done : read row <;> simp [loads, done, Except.toOption]

theorem takeWhile_filter_loads (rows : List Row) :
    (rows.filter (loads read)).takeWhile (loads read) = rows.filter (loads read) :=
  List.takeWhile_eq_self_iff.mpr fun _ member => (List.mem_filter.mp member).2

theorem loadedEntries_eq_nil_iff (rows : List Row) :
    loadedEntries read rows = [] ↔ forall row, row ∈ rows -> loads read row = false := by
  unfold loadedEntries loads
  simp [List.filterMap_eq_nil_iff]

/-- The entries before the first failure and those behind it. -/
theorem loadedEntries_split (rows : List Row) :
    loadedEntries read rows = loadedEntries read (rows.takeWhile (loads read)) ++
      loadedEntries read (rows.dropWhile (loads read)) := by
  rw [← loadedEntries_append, List.takeWhile_append_dropWhile]

/-- Nothing is lost behind the first failure exactly when no readable row
stands behind an unreadable one. -/
theorem loadedEntries_dropWhile_eq_nil_iff (rows : List Row) :
    loadedEntries read (rows.dropWhile (loads read)) = [] ↔ FailuresLast read rows := by
  unfold FailuresLast
  induction rows with
  | nil => simp [loadedEntries]
  | cons row rest inductionHypothesis =>
      rw [List.pairwise_cons]
      cases good : loads read row with
      | true =>
          rw [List.dropWhile_cons_of_pos good, inductionHypothesis]
          simp
      | false =>
          rw [List.dropWhile_cons_of_neg (by rw [good]; exact Bool.false_ne_true),
            loadedEntries_eq_nil_iff,
            List.forall_mem_cons]
          constructor
          · rintro ⟨_, none⟩
            have unread : forall later, later ∈ rest -> loads read later ≠ true :=
              fun later member alone =>
              Bool.false_ne_true ((none later member).symm.trans alone)
            refine ⟨fun later member alone => absurd alone (unread later member), ?_⟩
            exact List.pairwise_iff_getElem.mpr fun first second _ inside _ alone =>
              absurd alone (unread _ (List.getElem_mem inside))
          · rintro ⟨first, _⟩
            refine ⟨good, fun later member => ?_⟩
            cases alone : loads read later with
            | false => rfl
            | true => exact absurd (first later member alone) Bool.false_ne_true

/-- Rows that all load are all stored, wherever the handler stands. -/
theorem loadUntilFailure_of_forall (state : State) {rows : List Row}
    (all : forall row, row ∈ rows -> loads read row = true) :
    loadUntilFailure read store state rows =
      ((loadedEntries read rows).foldl store state, none) := by
  refine Prod.ext ?_ ((loadUntilFailure_failure read store state rows).mpr all)
  rw [loadUntilFailure_state, List.takeWhile_eq_self_iff.mpr all]

end Loading

end Foundation
end RiskSentinel
