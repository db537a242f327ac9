import Mathlib.Data.List.Range

namespace RiskSentinel
namespace Foundation

/-!
# Chains of closed intervals

A list of closed intervals of natural numbers is a chain from `start` to
`stop` when the first begins at `start`, each further one begins right after
its predecessor, and `stop` is the number after the last.  Such a list
partitions the numbers from `start` up to `stop`.
-/

/-- The numbers of a closed interval. -/
def intervalPoints (interval : Nat × Nat) : List Nat :=
  List.range' interval.1 (interval.2 + 1 - interval.1)

/-- The intervals follow each other without gap or overlap. -/
def ChainFrom : Nat -> List (Nat × Nat) -> Nat -> Prop
  | start, [], stop => start = stop
  | start, interval :: rest, stop =>
      interval.1 = start ∧ interval.1 ≤ interval.2 ∧ ChainFrom (interval.2 + 1) rest stop

namespace ChainFrom

theorem start_le {start stop : Nat} {intervals : List (Nat × Nat)}
    (chain : ChainFrom start intervals stop) : start ≤ stop := by
  induction intervals generalizing start with
  | nil => exact Nat.le_of_eq chain
  | cons interval rest inductionHypothesis =>
      have later := inductionHypothesis chain.2.2
      have nonempty := chain.2.1
      have first := chain.1
      omega

theorem le_of_mem {start stop : Nat} {intervals : List (Nat × Nat)}
    (chain : ChainFrom start intervals stop) {interval : Nat × Nat}
    (member : interval ∈ intervals) : start ≤ interval.2 := by
  induction intervals generalizing start with
  | nil => exact (List.not_mem_nil member).elim
  | cons first rest inductionHypothesis =>
      rcases chain with ⟨begins, nonempty, others⟩
      rcases List.mem_cons.mp member with same | later
      · rw [same]
        omega
      · have further := inductionHypothesis others later
        omega

/-- A chain lists every number between its ends exactly once and in order. -/
theorem points_eq {start stop : Nat} {intervals : List (Nat × Nat)}
    (chain : ChainFrom start intervals stop) :
    intervals.flatMap intervalPoints = List.range' start (stop - start) := by
  induction intervals generalizing start with
  | nil =>
      cases chain
      rw [Nat.sub_self]
      rfl
  | cons interval rest inductionHypothesis =>
      rcases chain with ⟨first, nonempty, others⟩
      have later := others.start_le
      have moved : interval.2 + 1 = start + (interval.2 + 1 - start) := by omega
      have split : stop - start = (interval.2 + 1 - start) + (stop - (interval.2 + 1)) := by omega
      calc
        (interval :: rest).flatMap intervalPoints
            = List.range' start (interval.2 + 1 - start) ++ List.range' (interval.2 + 1)
              (stop - (interval.2 + 1)) := by
              rw [List.flatMap_cons, inductionHypothesis others, intervalPoints, first]
        _ = List.range' start (interval.2 + 1 - start) ++
              List.range' (start + (interval.2 + 1 - start)) (stop - (interval.2 + 1)) := by
                rw [← moved]
        _ = List.range' start (stop - start) := by rw [List.range'_append_1, ← split]

/-- A chain of intervals below a bound ends right after it at the latest. -/
theorem stop_le {start stop bound : Nat} {intervals : List (Nat × Nat)}
    (chain : ChainFrom start intervals stop) (begins : start ≤ bound + 1)
    (below : forall interval, interval ∈ intervals -> interval.2 ≤ bound) :
    stop ≤ bound + 1 := by
  induction intervals generalizing start with
  | nil =>
      cases chain
      exact begins
  | cons interval rest inductionHypothesis =>
      exact inductionHypothesis chain.2.2 (Nat.succ_le_succ (below interval List.mem_cons_self))
        (fun other member => below other (List.mem_cons_of_mem _ member))

end ChainFrom

end Foundation
end RiskSentinel
