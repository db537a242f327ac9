import RiskSentinel.Backtest.BacktestApp
import RiskSentinel.Backtest.ReportFile
import RiskSentinel.Chains.LedgerRuns
import RiskSentinel.Risk.TimeBlind

namespace RiskSentinel
namespace Backtest

open Foundation Events Risk Pipeline Chains Rpc

/-!
# From the ledger to the report

A backtest is there to say what the rules would have found on a chain.  All
its parts are put together here: a node that is honest about one ledger, the
client and the adapter that read it, the event source, the three threads, the
rules, the deduplicator, and the file.

However the threads interleave and however often the node fails, a backtest
that returns has raised exactly the alerts of the rules on the logs of its
blocks.  The file has a first alert for every key, and all of them when no key
comes twice.  Only the times in it depend on how the blocks were batched.
-/

variable {Number : Type} [One Number] {text : JsonText Number} {ledger : Ledger}

/-- The alerts of the configured rules on the logs of the configured blocks,
but for their times. -/
def BacktestConfig.alertsOn (config : BacktestConfig) (ledger : Ledger) : List Alert :=
  RiskEngine.sequentialAlerts config.tables.registerNonemptyRules
    (ledger.signals config.startBlock.toNat (config.endBlock.toNat + 1 - config.startBlock.toNat))

/-- The poll that an action makes, if it makes one. -/
def BacktestAction.polls : BacktestAction -> List PollEnv
  | .worker action => action.polls
  | _ => []

/-- The history lists the polls of a run. -/
private theorem polls_of_step (state : BacktestState) (action : BacktestAction)
    (next : BacktestState) (taken : state.step action = some next) :
    next.threads.history.polls = state.threads.history.polls ++ action.polls := by
  cases action with
  | worker action =>
      rcases Option.map_eq_some_iff.mp taken with ⟨threads, moved, rfl⟩
      exact Threads.polls_of_workerStep moved
  | main =>
      have unmoved : next.threads.history = state.threads.history := by
        cases BacktestState.move_of_mainStep taken with
        | pillPushed here threads pushed =>
            rw [(Threads.tryPushPill_eq_some pushed).2]
        | sourceJoined | waits | engineAwaited | engineStopped | engineJoined | dispatcherStopped
        | dispatcherJoined => rfl
      rw [unmoved]
      exact (List.append_nil _).symm
  | deadline =>
      simp only [BacktestState.step, BacktestState.deadlineStep] at taken
      split at taken
      · cases taken
        exact (List.append_nil _).symm
      · cases taken
        exact (List.append_nil _).symm
      · cases taken

/-! ## The signals of an exhausted range -/

private theorem heads_of_visits {visits : List (NodeVisit text ledger)} {envs : List PollEnv}
    (polls : envs = visits.map fun visit => visit.toVisit.env) :
    forall env, env ∈ envs -> EventSource.HeadsBelow env := by
  intro env member
  rw [polls] at member
  rcases List.mem_map.mp member with ⟨visit, _, rfl⟩
  exact visit.headsBelow

/-- A source that has exhausted its range has pushed the logs of all its
blocks. -/
theorem signals_of_exhausted (config : BacktestConfig) {visits : List (NodeVisit text ledger)}
    (growing : NodeVisit.Growing visits) {envs : List PollEnv}
    (polls : envs = visits.map fun visit => visit.toVisit.env)
    (exhausted : ((config.eventSource ledger.chainId).run envs).final.isExhausted = true) :
    ((config.eventSource ledger.chainId).run envs).pushed.map untimed =
      ledger.signals config.startBlock.toNat
        (config.endBlock.toNat + 1 - config.startBlock.toNat) := by
  have sound : (config.eventSource ledger.chainId).Sound := EventSource.create_sound _ _ rfl
  have heads := heads_of_visits polls
  have span := EventSource.span_of_exhausted
    (config.eventSource ledger.chainId) envs sound heads exhausted
  have sameConfig := (EventSource.run_steps_sound
    (config.eventSource ledger.chainId) envs sound heads).2
  rw [EventSource.isExhausted, sameConfig, Bool.and_eq_true, bne_iff_ne] at exhausted
  subst polls
  have pushed := pushed_run
    (rfl : (config.eventSource ledger.chainId).config.minBlockRange = 1) growing
  have begins : EventSource.origin (config.eventSource ledger.chainId).config
      (visits.map fun visit => visit.toVisit.env) = some config.startBlock :=
    if_neg (by simp [exhausted.1])
  rw [begins] at pushed
  exact pushed.trans (congrArg (ledger.signals config.startBlock.toNat) span)

/-! ## The report -/

/-- The deduplicator at any readings of its clock: it leaves out repeated keys
only. -/
private theorem reported_of_raised (alerts : List Alert) (readings : List UInt64)
    (assigned : readings.length = alerts.length) {reported : List Alert}
    (decided : reported = ((AlertDeduplicator.create .production).letThrough
      (List.zipWith TimedAlert.mk alerts readings)).map TimedAlert.alert) :
    reported.Sublist alerts ∧
      (forall alert, alert ∈ alerts -> Exists fun sent => sent ∈ reported ∧
        buildKey sent = buildKey alert) ∧
      (KeysDistinct alerts -> reported = alerts) := by
  have only : (AlertDeduplicator.create .production).FiredOnly [] := fun _ _ => rfl
  have timed : (List.zipWith TimedAlert.mk alerts readings).map TimedAlert.alert = alerts := by
    calc
      _ = (List.zip alerts readings).map Prod.fst := by
        rw [List.map_zipWith, List.map_zip_eq_zipWith]
        rfl
      _ = alerts := List.map_fst_zip (Nat.le_of_eq assigned.symm)
  refine ⟨?_, fun alert raised => ?_, fun distinct => ?_⟩
  · have kept := (AlertDeduplicator.letThrough_sublist (.create .production)
      (List.zipWith TimedAlert.mk alerts readings)).map TimedAlert.alert
    rw [timed, ← decided] at kept
    exact kept
  · rw [← timed] at raised
    rcases List.mem_map.mp raised with ⟨item, member, rfl⟩
    rcases AlertDeduplicator.key_of_letThrough only _ member with impossible | ⟨sent, passed, same⟩
    · cases impossible
    · exact ⟨sent.alert, decided ▸ List.mem_map_of_mem passed, same⟩
  · rw [decided, AlertDeduplicator.letThrough_of_distinct only _ (fun _ _ => List.not_mem_nil),
      timed]
    rw [← timed, KeysDistinct, List.pairwise_map] at distinct
    exact distinct

/-- A key is that of the alert without its times. -/
private theorem keysDistinct_untimed (alerts : List Alert) :
    KeysDistinct (alerts.map Alert.untimed) ↔ KeysDistinct alerts := by
  rw [KeysDistinct, List.pairwise_map]
  rfl

private theorem sent_written (alerts : List Alert) :
    ReportFile.sent (alerts.map fun alert => (alert, .written)) = alerts := by
  induction alerts with
  | nil => rfl
  | cons alert rest inductionHypothesis =>
      change alert :: ReportFile.sent (rest.map fun alert => (alert, .written)) = _
      rw [inductionHypothesis]

/-- The whole way from a ledger to the report.  In every interleaving without
an expired deadline whose polls meet nodes that are honest about the ledger,
when `run` returns: the alerts raised are those of the rules on the
logs of the configured blocks; the closed file consists of one line for each
alert that was sent, which reads back as that alert; the alerts sent are among those
raised and in their order, with at least one for every key, and all of them
when no key comes twice. -/
theorem report_of_ledger (json : Json.Library Json.Distinct) (capacity : Nat)
    (config : BacktestConfig) (startup : NodeVisit text ledger) (chainId : UInt64)
    (started : EvmAdapter.chainId (rpcCall text startup.endpoint) = .ok chainId)
    (visits : List (NodeVisit text ledger)) (growing : NodeVisit.Growing visits)
    (actions : List BacktestAction)
    (met : actions.flatMap BacktestAction.polls = visits.map fun visit => visit.toVisit.env)
    (final : BacktestState)
    (ran : runActions BacktestState.step (.start capacity config chainId) actions = some final)
    (inTime : BacktestAction.deadline ∉ actions) (returned : final.main = .returned) :
    final.threads.history.dispatched.map Alert.untimed = config.alertsOn ledger ∧
      (forall flushed, ReportFile.WellFormed json
        ((ReportFile.sendAll json {}
          (final.sentAlerts.map fun alert => (alert, .written))).close flushed)
        final.sentAlerts) ∧
      (final.sentAlerts.map Alert.untimed).Sublist (config.alertsOn ledger) ∧
      (forall alert, alert ∈ config.alertsOn ledger -> Exists fun sent =>
        sent ∈ final.sentAlerts ∧ buildKey sent = buildKey alert) ∧
      (KeysDistinct (config.alertsOn ledger) ->
        final.sentAlerts.map Alert.untimed = config.alertsOn ledger) := by
  cases chainId_of_honest startup.honest started
  have invariant := BacktestState.invariant_of_backtest ran inTime
  have polls := (log_of_run BacktestState.step
    (fun state => state.threads.history.polls) BacktestAction.polls polls_of_step ran).trans met
  have alerts := (invariant.alerts_taken returned).2
  have pushed := (invariant.signals_evaluated returned).1
  have exhausted :
      ((config.eventSource ledger.chainId).run final.threads.history.polls).final.isExhausted = true := by
    have sourceReturned := invariant.sourceJoined (by simp [returned])
    rw [invariant.consistent.cursor, Threads.cursor, sourceReturned]
    exact invariant.sourceExhausted sourceReturned
  have raised : final.threads.history.dispatched.map Alert.untimed = config.alertsOn ledger := by
    rw [alerts.1, pushed, ← RiskEngine.sequentialAlerts_untimed,
      signals_of_exhausted config growing polls exhausted]
    rfl
  have sent : final.sentAlerts = ((AlertDeduplicator.create .production).letThrough
      (List.zipWith TimedAlert.mk final.threads.history.dispatched final.readings)).map
        TimedAlert.alert := by
    rw [invariant.sentAlerts_eq returned, alerts.1, pushed]
    rfl
  have assigned : final.readings.length = final.threads.history.dispatched.length := by
    rw [← alerts.2, BacktestState.readings, List.length_map, List.length_map]
  have facts := reported_of_raised final.threads.history.dispatched final.readings assigned sent
  refine ⟨raised, fun flushed => ?_, ?_, fun alert listed => ?_, fun distinct => ?_⟩
  · have clean : forall attempt,
        attempt ∈ (final.sentAlerts.map fun alert => (alert, WriteResult.written)) ->
        ReportFile.LeavesNothing attempt := by
      intro attempt member write failed
      rcases List.mem_map.mp member with ⟨alert, _, rfl⟩
      cases failed
    have wellFormed : ReportFile.WellFormed json _ _ :=
      ReportFile.wellFormed_of_clean _ clean flushed
    rw [sent_written] at wellFormed
    exact wellFormed
  · rw [← raised]
    exact facts.1.map Alert.untimed
  · rw [← raised] at listed
    rcases List.mem_map.mp listed with ⟨timed, member, rfl⟩
    exact facts.2.1 timed member
  · rw [← raised] at distinct ⊢
    rw [facts.2.2 ((keysDistinct_untimed _).mp distinct)]

/-! ## A range with one pause -/

private def fiveAndSix : BacktestConfig :=
  { watchedContract with startBlock := 5, endBlock := 6 }

/-- A schedule of a backtest whose range is one batch, with a ring of one
place. -/
def oneBatch (env : PollEnv) : List BacktestAction :=
  [.worker .sourceCheck, .worker (.sourcePoll env), .worker .sourcePush, .worker .sourcePush,
    .worker .sourceCheck,
    .main, .worker .dispatcherStart, .worker .engineCheck, .worker .engineRead,
    .worker .engineDispatch, .worker .engineDispatch, .worker .dispatcherTake,
    .worker (.dispatcherDeliver 1800000000000 fun _ => .sent), .main, .worker .engineCheck,
    .worker .engineRead, .worker .engineCheck, .worker .engineRead, .worker .engineFinish, .main,
    .main, .main, .main, .worker .dispatcherTake, .main]

/-- The backtest of the schedule returns and has sent the one alert there is. -/
theorem report_of_onePause :
    Exists fun final => runActions BacktestState.step (.start 1 fiveAndSix 1)
      (oneBatch atSeven.toVisit.env) =
        some final ∧
      final.sentAlerts.map Alert.untimed = fiveAndSix.alertsOn onePause ∧
      final.sentAlerts.length = 1 := by
  have shape : (runActions BacktestState.step (.start 1 fiveAndSix 1)
      (oneBatch atSeven.toVisit.env)).map
      (fun final => (final.main, final.sentAlerts.length)) = some (.returned, 1) := by
    rw [atSeven, NodeVisit.env_served]
    decide +kernel
  rcases Option.map_eq_some_iff.mp shape with ⟨final, ran, facts⟩
  simp only [Prod.mk.injEq] at facts
  have met : (oneBatch atSeven.toVisit.env).flatMap BacktestAction.polls =
      [atSeven].map fun visit => visit.toVisit.env := rfl
  have inTime : BacktestAction.deadline ∉ oneBatch atSeven.toVisit.env := by simp [oneBatch]
  have report := report_of_ledger (Json.compact _) 1 fiveAndSix atSeven 1
    (chainId_serve _ onePause 7) [atSeven]
    (List.pairwise_singleton _ _) _ met final ran inTime facts.1
  refine ⟨final, ran, report.2.2.2.2 ?_, facts.2⟩
  unfold KeysDistinct
  decide +kernel

end Backtest
end RiskSentinel
