import RiskSentinel.Events.Batching
import RiskSentinel.Risk.AlertDeduplicator
import RiskSentinel.Risk.RiskEngine

namespace RiskSentinel
namespace Risk

open Foundation Events

/-!
# What does not depend on times

A signal carries the time of its batch and the time at which it was taken in.
No rule looks at either: the time of the batch is copied into the alerts, and
that is all.  So the alerts on a sequence of signals are the alerts on the same
signals without their times, but for the times of the alerts.

The deduplicator compares clock readings, but whatever the clock shows, the
first alert with a key is let through.
-/

/-- The alert without its times. -/
def Alert.untimed (alert : Alert) : Alert :=
  { alert with timestampMs := 0, internalIngressTimeMs := 0 }

@[simp] theorem buildKey_untimed (alert : Alert) : buildKey alert.untimed = buildKey alert := rfl

/-! ## The rules -/

private theorem filterMap_untimed {Config : Type} (bucket : List Config)
    (timed blind : Config -> Option Alert)
    (same : forall config, blind config = (timed config).map Alert.untimed) :
    bucket.filterMap blind = (bucket.filterMap timed).map Alert.untimed := by
  rw [List.map_filterMap]
  congr 1
  funext config
  exact same config

/-- A rule does with a signal without times what it does with the signal. -/
theorem Rule.evaluate_untimed (rule : Rule) (signal : Signal) :
    rule.evaluate (untimed signal) =
      ((rule.evaluate signal).1, (rule.evaluate signal).2.map Alert.untimed) := by
  have type : (untimed signal).type = signal.type := rfl
  have payload : (untimed signal).payload = signal.payload := rfl
  have time : (untimed signal).signalMeta.timestampMs = 0 := rfl
  -- Whatever branch is taken, the alerts come from a selection over a bucket.
  cases rule <;>
    simp only [Rule.evaluate, LargeTransferRule.evaluate, GovernanceRule.evaluate,
      MintBurnRule.evaluate,
      ApprovalRule.evaluate, BridgeTransferRule.evaluate, OracleUpdateRule.evaluate,
      OracleUpdateRule.compareWithLast, OracleUpdateRule.spikeAlerts, type, payload, time]
  all_goals
    repeat' split
    all_goals first
      | rfl
      | refine Prod.ext rfl (filterMap_untimed _ _ _ fun config => ?_)
    repeat' split
    all_goals rfl

/-- The alerts on signals without times are the alerts without their times. -/
theorem RiskEngine.sequentialAlerts_untimed (rules : List Rule) (signals : List Signal) :
    RiskEngine.sequentialAlerts rules (signals.map untimed) =
      (RiskEngine.sequentialAlerts rules signals).map Alert.untimed := by
  induction signals generalizing rules with
  | nil => rfl
  | cons signal rest inductionHypothesis =>
      have step : forall rule,
          RiskEngine.stepRule (untimed signal) rule = RiskEngine.stepRule signal rule := by
        intro rule
        unfold RiskEngine.stepRule
        rw [rule.evaluate_untimed signal]
        rfl
      have alerts : forall rule, RiskEngine.ruleAlerts (untimed signal) rule =
          (RiskEngine.ruleAlerts signal rule).map Alert.untimed := by
        intro rule
        unfold RiskEngine.ruleAlerts
        rw [rule.evaluate_untimed signal]
        change (if rule.interestedIn signal.type.index = true then _ else _) = _
        split
        · rfl
        · rfl
      rw [List.map_cons, RiskEngine.sequentialAlerts, RiskEngine.sequentialAlerts, List.map_append,
        List.map_flatMap, funext step, funext alerts, inductionHypothesis]

/-! ## The deduplicator -/

namespace AlertDeduplicator

/-- Every key with a stored time is one of the given ones. -/
def FiredOnly (dedup : AlertDeduplicator) (keys : List String) : Prop :=
  forall key, key ∉ keys -> dedup.lastFiredMs.find? key = none

private theorem FiredOnly.shouldSuppress {dedup : AlertDeduplicator} {keys : List String}
    (only : dedup.FiredOnly keys) (alert : Alert) (nowMs : UInt64) :
    (dedup.shouldSuppress alert nowMs).1.FiredOnly (buildKey alert :: keys) := by
  intro key absent
  have other : key ≠ buildKey alert := fun same => absent (same ▸ List.mem_cons_self)
  have before := only key fun listed => absent (List.mem_cons_of_mem _ listed)
  have recorded : (dedup.recordFired alert nowMs).lastFiredMs.find? key = none := by
    unfold recordFired
    split
    · exact before
    · rw [Table.find?_assign, if_neg other]
      exact before
  simp only [AlertDeduplicator.shouldSuppress, countProcessed, cleanupStaleEntries]
  split
  · rw [Table.find?_eraseIf, recorded]
    rfl
  · exact recorded

private theorem FiredOnly.of_suppressed {dedup : AlertDeduplicator} {keys : List String}
    (only : dedup.FiredOnly keys) {alert : Alert} {nowMs : UInt64}
    (suppressed : (dedup.shouldSuppress alert nowMs).2 = true) : buildKey alert ∈ keys := by
  by_contra absent
  change dedup.isRecent alert nowMs = true at suppressed
  rw [isRecent, only _ absent] at suppressed
  cases suppressed

private theorem letThrough_cons (dedup : AlertDeduplicator) (item : TimedAlert)
    (rest : List TimedAlert) :
    dedup.letThrough (item :: rest) =
      if (dedup.shouldSuppress item.alert item.nowMs).2 = true then
        (dedup.shouldSuppress item.alert item.nowMs).1.letThrough rest
      else item :: (dedup.shouldSuppress item.alert item.nowMs).1.letThrough rest := rfl

theorem letThrough_sublist (dedup : AlertDeduplicator) (items : List TimedAlert) :
    (dedup.letThrough items).Sublist items := by
  induction items generalizing dedup with
  | nil => exact List.Sublist.slnil
  | cons item rest inductionHypothesis =>
      rw [letThrough_cons]
      split
      · exact (inductionHypothesis _).cons _
      · exact (inductionHypothesis _).cons_cons _

/-- Whatever the clock shows, an alert is let through unless its key has been
before. -/
theorem key_of_letThrough {dedup : AlertDeduplicator} {keys : List String}
    (only : dedup.FiredOnly keys) (items : List TimedAlert) {item : TimedAlert}
    (member : item ∈ items) :
    buildKey item.alert ∈ keys ∨
      Exists fun sent => sent ∈ dedup.letThrough items ∧
      buildKey sent.alert = buildKey item.alert := by
  induction items generalizing dedup keys with
  | nil => cases member
  | cons first rest inductionHypothesis =>
      rw [letThrough_cons]
      have later := only.shouldSuppress first.alert first.nowMs
      cases suppressed : (dedup.shouldSuppress first.alert first.nowMs).2 with
      | true =>
          have old := only.of_suppressed suppressed
          rw [if_pos rfl]
          rcases List.mem_cons.mp member with rfl | behind
          · exact Or.inl old
          · rcases inductionHypothesis later behind with listed | sent
            · rcases List.mem_cons.mp listed with same | before
              · exact Or.inl (same ▸ old)
              · exact Or.inl before
            · exact Or.inr sent
      | false =>
          rw [if_neg Bool.false_ne_true]
          rcases List.mem_cons.mp member with rfl | behind
          · exact Or.inr ⟨item, List.mem_cons_self, rfl⟩
          · rcases inductionHypothesis later behind with listed | ⟨sent, passed, same⟩
            · rcases List.mem_cons.mp listed with same | before
              · exact Or.inr ⟨first, List.mem_cons_self, same.symm⟩
              · exact Or.inl before
            · exact Or.inr ⟨sent, List.mem_cons_of_mem _ passed, same⟩

/-- Alerts with different keys are all let through. -/
theorem letThrough_of_distinct {dedup : AlertDeduplicator} {keys : List String}
    (only : dedup.FiredOnly keys) (items : List TimedAlert)
    (fresh : forall item, item ∈ items -> buildKey item.alert ∉ keys)
    (distinct : items.Pairwise fun earlier later => buildKey earlier.alert ≠ buildKey later.alert) :
    dedup.letThrough items = items := by
  induction items generalizing dedup keys with
  | nil => rfl
  | cons first rest inductionHypothesis =>
      rw [List.pairwise_cons] at distinct
      have passes : (dedup.shouldSuppress first.alert first.nowMs).2 = false :=
        Bool.eq_false_iff.mpr fun suppressed =>
          fresh first List.mem_cons_self (only.of_suppressed suppressed)
      have others := inductionHypothesis (only.shouldSuppress first.alert first.nowMs)
        (fun item behind listed => by
          rcases List.mem_cons.mp listed with same | before
          · exact distinct.1 item behind same.symm
          · exact fresh item (List.mem_cons_of_mem _ behind) before)
        distinct.2
      rw [letThrough_cons, passes, if_neg Bool.false_ne_true, others]

end AlertDeduplicator

end Risk
end RiskSentinel
