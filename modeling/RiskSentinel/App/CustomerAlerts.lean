import RiskSentinel.App.LedgerAlerts
import RiskSentinel.Risk.TenantIsolation

namespace RiskSentinel
namespace App

open Foundation Events Risk Pipeline Chains Rpc

/-!
# What other customers change

Two processes are compared that watch the same ledger for the same customer.
Everything else may differ: the entries of the other customers, the other
alerts that stand in the same queues, the nodes, the interleaving, the drain
timeouts, the windows of the deduplicators and the channels.

As far as both have come, the customer gets the same alerts from both in the
same order.  Other customers can hold them up, but not change them.
-/

variable {Number : Type} [One Number] {text : JsonText Number} {ledger : Ledger}

/-- The customer's alerts on any signals are those of the customer's own
entries. -/
private theorem sequentialAlerts_restricted (tables : RuleTables) (customer : UInt64)
    (signals : List Signal) :
    (RiskEngine.sequentialAlerts tables.registerRules signals).filter (belongsTo customer) =
      RiskEngine.sequentialAlerts (tables.restrictTo customer).registerRules signals := by
  have related := registerRules_restricted tables customer
  rw [← RiskEngine.ofRules_rules tables.registerRules,
    ← RiskEngine.ofRules_rules (tables.restrictTo customer).registerRules] at related
  have alerts := processAll_restricted signals (.ofRules tables.registerRules)
    (.ofRules (tables.restrictTo customer).registerRules) related
  rw [RiskEngine.processAll_alerts, RiskEngine.processAll_alerts, RiskEngine.ofRules_rules,
    RiskEngine.ofRules_rules] at alerts
  exact alerts.symm

namespace LedgerRun

/-- The customer's alerts that have been dispatched, but for their times. -/
def dispatchedTo (run : LedgerRun text ledger) (customer : UInt64) : List Alert :=
  (run.final.threads.history.dispatched.map Alert.untimed).filter (belongsTo customer)

/-- The next block that the source will ask for. -/
def cursor (run : LedgerRun text ledger) : UInt64 :=
  run.final.threads.cursor.nextBlock

variable (first second : LedgerRun text ledger) (customer : UInt64)
    (sameStart : first.origin = second.origin)
  (sameEntries : first.tables.restrictTo customer = second.tables.restrictTo customer)

include sameStart sameEntries in
/-- What is due to the customer does not depend on the others, and grows with
the cursor. -/
private theorem due_begins (notFurther : first.cursor ≤ second.cursor) :
    first.due.filter (belongsTo customer) <+: second.due.filter (belongsTo customer) := by
  rw [due, due, AppState.due, AppState.due, sequentialAlerts_restricted,
    sequentialAlerts_restricted, sameEntries,
    sameStart]
  apply RiskEngine.sequentialAlerts_prefix
  cases second.origin with
  | none => exact List.prefix_refl _
  | some block =>
      apply Ledger.signals_prefix
      exact Nat.sub_le_sub_right (UInt64.le_iff_toNat_le.mp notFurther) _

private theorem dispatchedTo_begins (run : LedgerRun text ledger) :
    run.dispatchedTo customer <+: run.due.filter (belongsTo customer) :=
  run.dispatched_begins.1.filter _

include sameStart sameEntries in
/-- The customer's alerts of a run without anything under way go at least as
far as those of any run whose cursor is not further, and have all their
keys. -/
private theorem idle_covers (notFurther : first.cursor ≤ second.cursor) (idle : second.final.Idle) :
    first.dispatchedTo customer <+: second.dispatchedTo customer ∧
      forall sent, sent ∈ first.final.offered -> sent.customerId = customer ->
        Exists fun other => other ∈ second.final.offered ∧ buildKey other = buildKey sent := by
  have covers : first.dispatchedTo customer <+: second.dispatchedTo customer := by
    have complete : second.dispatchedTo customer = second.due.filter (belongsTo customer) :=
      congrArg (List.filter (belongsTo customer)) (second.dispatched_begins.2 idle)
    rw [complete]
    exact (dispatchedTo_begins customer first).trans
      (due_begins first second customer sameStart sameEntries notFurther)
  refine ⟨covers, fun sent offered own => ?_⟩
  have dispatched : sent.untimed ∈ first.dispatchedTo customer :=
    List.mem_filter.mpr ⟨List.mem_map_of_mem (first.offered_of_dispatched.1.subset offered),
      beq_iff_eq.mpr own⟩
  exact second.offered_of_dispatched.2 idle sent.untimed
    (List.mem_filter.mp (covers.subset dispatched)).1

include sameStart sameEntries in
/-- Two runs on one ledger that begin at the same block and have the same
entries for the customer, in any interleavings.  The customer's alerts of one
begin those of the other.  A run without anything under way has all those, and
all the keys, that a run has whose cursor is not further.  So two such runs
with one cursor have the same. -/
theorem customer_alerts_of_runs :
    (first.dispatchedTo customer <+: second.dispatchedTo customer ∨
        second.dispatchedTo customer <+: first.dispatchedTo customer) ∧
      (second.final.Idle -> first.cursor ≤ second.cursor ->
        first.dispatchedTo customer <+: second.dispatchedTo customer ∧
          forall sent, sent ∈ first.final.offered -> sent.customerId = customer ->
            Exists fun other => other ∈ second.final.offered ∧ buildKey other = buildKey sent) ∧
      (first.final.Idle -> second.final.Idle -> first.cursor = second.cursor ->
        first.dispatchedTo customer = second.dispatchedTo customer) := by
  have ofFirst := dispatchedTo_begins customer first
  have ofSecond := dispatchedTo_begins customer second
  refine ⟨?_, fun idle notFurther =>
    idle_covers first second customer sameStart sameEntries notFurther idle, ?_⟩
  · rcases UInt64.le_total first.cursor second.cursor with behind | ahead
    · have longer := due_begins first second customer sameStart sameEntries behind
      exact List.prefix_or_prefix_of_prefix (ofFirst.trans longer) ofSecond
    · have longer := due_begins second first customer sameStart.symm sameEntries.symm ahead
      exact List.prefix_or_prefix_of_prefix ofFirst (ofSecond.trans longer)
  · intro firstIdle secondIdle together
    have one := idle_covers first second customer sameStart sameEntries
      (UInt64.le_of_eq together) secondIdle
    have other := idle_covers second first customer sameStart.symm sameEntries.symm
      (UInt64.le_of_eq together.symm) firstIdle
    exact one.1.eq_of_length (Nat.le_antisymm one.1.length_le other.1.length_le)

/-- One batch goes through all threads, for two customers. -/
private def twiceDispatched : List AppAction :=
  [.worker .sourceCheck, .worker (.sourcePoll atSeven.toVisit.env), .worker .sourcePush,
    .worker .sourcePush,
    .worker .engineCheck, .worker .engineRead, .worker .engineDispatch, .worker .dispatcherStart,
    .worker .dispatcherTake, .worker .engineDispatch,
    .worker (.dispatcherDeliver 1800000000000 fun _ => .sent), .worker .engineDispatch,
    .worker .dispatcherTake, .worker (.dispatcherDeliver 1800000000000 fun _ => .sent)]

private theorem twiceDispatched_runs :
    Exists fun final => runActions AppState.step
      (fromStoredFive sharedContract) twiceDispatched = some final ∧
      final.threads.history.dispatched.length = 2 ∧ final.threads.cursor.nextBlock = 8 ∧
      final.Idle := by
  have shape : (runActions AppState.step (fromStoredFive sharedContract) twiceDispatched).map
      (fun final =>
      (final.threads.history.dispatched.length, final.threads.cursor.nextBlock, final.underWay)) =
        some (2, 8, 0) := by
    rw [twiceDispatched, atSeven, NodeVisit.env_served]
    decide +kernel
  rcases Option.map_eq_some_iff.mp shape with ⟨final, ran, facts⟩
  simp only [Prod.mk.injEq] at facts
  exact ⟨final, ran, facts.1, facts.2.1, AppState.idle_of_underWay facts.2.2⟩

/-- Customer 1 gets the same, whether customer 2 watches the contract or
not. -/
theorem customer_one_undisturbed :
    Exists fun alone : LedgerRun compactText onePause => Exists fun shared :
    LedgerRun compactText onePause =>
      alone.final.threads.history.dispatched.length = 1 ∧
      shared.final.threads.history.dispatched.length = 2 ∧
        alone.dispatchedTo 1 = shared.dispatchedTo 1 := by
  rcases onceThrough_runs with ⟨alone, aloneRan, one, aloneCursor, aloneIdle⟩
  rcases twiceDispatched_runs with ⟨shared, sharedRan, two, sharedCursor, sharedIdle⟩
  have sameStart : (ofOnePoll rfl aloneRan).origin = (ofOnePoll rfl sharedRan).origin :=
    (origin_ofOnePoll rfl aloneRan).trans (origin_ofOnePoll rfl sharedRan).symm
  have sameEntries : watchesPauses.restrictTo 1 = sharedContract.restrictTo 1 := rfl
  have undisturbed := customer_alerts_of_runs (ofOnePoll rfl aloneRan)
    (ofOnePoll rfl sharedRan) 1 sameStart sameEntries
  exact ⟨_, _, one, two, undisturbed.2.2 aloneIdle sharedIdle (aloneCursor.trans sharedCursor.symm)⟩

end LedgerRun

end App
end RiskSentinel
