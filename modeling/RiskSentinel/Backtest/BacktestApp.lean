import RiskSentinel.Backtest.Report
import RiskSentinel.Pipeline.Orderly

namespace RiskSentinel
namespace Backtest

open Foundation Events Risk Pipeline

/-!
# The threaded backtest

`BacktestApp::run` starts the three threads, waits for the event source to
exhaust its range, and only then sends the stop command.  It waits for the
engine to drain the ring, stops and joins the engine, and stops and joins the
dispatcher last.

In every interleaving in which no deadline expires this loses nothing.  The
stop command is behind every signal, so the engine finds the ring empty only
after the last of them, and the dispatcher is told to stop only after the last
alert is in its queue.
-/

/-- Where the main thread stands. -/
inductive BacktestAt where
  | joinSource
  | pushPill
  | awaitEngine
  | stopEngine
  | joinEngine
  | stopDispatcher
  | joinDispatcher
  | returned
deriving DecidableEq, Repr

/-- The stop command is in the ring or has been read. -/
def BacktestAt.pillSent : BacktestAt -> Bool
  | .joinSource | .pushPill => false
  | _ => true

def BacktestAt.engineStopped : BacktestAt -> Bool
  | .joinEngine | .stopDispatcher | .joinDispatcher | .returned => true
  | _ => false

def BacktestAt.dispatcherStopped : BacktestAt -> Bool
  | .joinDispatcher | .returned => true
  | _ => false

structure BacktestState where
  threads : Threads
  main : BacktestAt

inductive BacktestAction where
  | worker (action : WorkerAction)
  | main
  | deadline

namespace BacktestState

def start (capacity : Nat) (config : BacktestConfig) (chainId : UInt64) : BacktestState where
  threads := .start capacity (config.eventSource chainId) config.riskEngine backtestDispatcher
  main := .joinSource

/-- The next step of the main thread.  A join is enabled when the thread has
returned; a failed push and an unfinished engine are waited for. -/
def mainStep (state : BacktestState) : Option BacktestState :=
  match state.main with
  | .joinSource =>
      match state.threads.sourceAt with
      | .returned => some { state with main := .pushPill }
      | _ => none
  | .pushPill =>
      match state.threads.tryPushPill with
      | some threads => some { threads := threads, main := .awaitEngine }
      | none => some state
  | .awaitEngine => if state.threads.finished
      then some { state with main := .stopEngine } else some state
  | .stopEngine => some { threads := state.threads.stopEngine, main := .joinEngine }
  | .joinEngine =>
      if state.threads.engineAt = .returned
        then some { state with main := .stopDispatcher } else none
  | .stopDispatcher => some { threads := state.threads.stopDispatcher, main := .joinDispatcher }
  | .joinDispatcher =>
      if state.threads.dispatcherAt = .returned then some { state with main := .returned } else none
  | .returned => none

/-- A deadline of thirty seconds expires: the push is given up, or the engine
is stopped without having finished. -/
def deadlineStep (state : BacktestState) : Option BacktestState :=
  match state.main with
  | .pushPill => some { state with main := .awaitEngine }
  | .awaitEngine => some { state with main := .stopEngine }
  | _ => none

def step (state : BacktestState) : BacktestAction -> Option BacktestState
  | .worker action => (state.threads.workerStep action).map fun threads =>
      { state with threads := threads }
  | .main => state.mainStep
  | .deadline => state.deadlineStep

/-- Everything the main thread can do without an expired deadline. -/
inductive MainMove (state : BacktestState) : BacktestState -> Prop where
  | sourceJoined (here : state.main = .joinSource) (returned : state.threads.sourceAt = .returned) :
      MainMove state { state with main := .pushPill }
  | pillPushed (here : state.main = .pushPill) (threads : Threads)
      (pushed : state.threads.tryPushPill = some threads) :
      MainMove state { threads := threads, main := .awaitEngine }
  | waits : MainMove state state
  | engineAwaited (here : state.main = .awaitEngine) (finished : state.threads.finished = true) :
      MainMove state { state with main := .stopEngine }
  | engineStopped (here : state.main = .stopEngine) :
      MainMove state { threads := state.threads.stopEngine, main := .joinEngine }
  | engineJoined (here : state.main = .joinEngine) :
      MainMove state { state with main := .stopDispatcher }
  | dispatcherStopped (here : state.main = .stopDispatcher) :
      MainMove state { threads := state.threads.stopDispatcher, main := .joinDispatcher }
  | dispatcherJoined (here : state.main = .joinDispatcher)
      (returned : state.threads.dispatcherAt = .returned) :
      MainMove state { state with main := .returned }

/-- What holds in every state that is reached without an expired deadline. -/
structure Invariant (config : BacktestConfig) (chainId : UInt64) (state : BacktestState) :
    Prop where
  consistent : state.threads.Consistent
    (config.eventSource chainId) config.riskEngine backtestDispatcher
  orderly : state.threads.Orderly state.main.pillSent state.main.engineStopped
    state.main.dispatcherStopped
  sourceRuns : state.threads.sourceRunning = true
  sourceExhausted : state.threads.sourceAt = .returned ->
    state.threads.eventSource.isExhausted = true
  sourceJoined : state.main ≠ .joinSource -> state.threads.sourceAt = .returned
  pillLast : state.main.pillSent = true -> state.threads.ring = [] ∨
    Exists fun front => state.threads.ring = front ++ [poisonPill]
  engineAwaited : state.main = .stopEngine -> state.threads.engineAt = .returned
  dispatcherJoined : state.main = .returned -> state.threads.dispatcherAt = .returned

variable {config : BacktestConfig} {chainId : UInt64} {state next : BacktestState}

theorem start_invariant (capacity : Nat) :
    (start capacity config chainId).Invariant config chainId where
  consistent := Threads.start_consistent capacity
  orderly := Threads.start_orderly capacity _ _ _
  sourceRuns := rfl
  sourceExhausted := fun impossible => by cases impossible
  sourceJoined := fun moved => absurd rfl moved
  pillLast := fun impossible => by cases impossible
  engineAwaited := fun impossible => by cases impossible
  dispatcherJoined := fun impossible => by cases impossible

/-- Taking the front leaves the stop command at the end. -/
private theorem pillLast_tail {ring rest : List Signal} {signal : Signal}
    (front : ring = signal :: rest)
    (last : ring = [] ∨ Exists fun before => ring = before ++ [poisonPill]) :
    rest = [] ∨ Exists fun before => rest = before ++ [poisonPill] := by
  rcases last with empty | ⟨before, split⟩
  · rw [front] at empty
    cases empty
  · rw [front] at split
    cases before with
    | nil => exact Or.inl (List.tail_eq_of_cons_eq split)
    | cons first others => exact Or.inr ⟨others, List.tail_eq_of_cons_eq split⟩

theorem move_of_mainStep (taken : state.mainStep = some next) : MainMove state next := by
  unfold mainStep at taken
  split at taken
  next here =>
    split at taken
    · rename_i returned
      cases taken
      exact .sourceJoined here returned
    · cases taken
  next here =>
    split at taken
    · rename_i threads pushed
      cases taken
      exact .pillPushed here threads pushed
    · cases taken
      exact .waits
  next here =>
    split at taken
    · rename_i finished
      cases taken
      exact .engineAwaited here finished
    · cases taken
      exact .waits
  next here =>
    cases taken
    exact .engineStopped here
  next here =>
    split at taken
    · cases taken
      exact .engineJoined here
    · cases taken
  next here =>
    cases taken
    exact .dispatcherStopped here
  next here =>
    split at taken
    · rename_i returned
      cases taken
      exact .dispatcherJoined here returned
    · cases taken
  next => cases taken

/-- The stop command is sent only after the source has been joined. -/
private theorem Invariant.joined_of_sent (invariant : state.Invariant config chainId)
    (sent : state.main.pillSent = true) : state.threads.sourceAt = .returned := by
  apply invariant.sourceJoined
  intro early
  rw [early] at sent
  cases sent

/-- A move of a thread keeps what the main thread relies on. -/
private theorem Invariant.workerStep (invariant : state.Invariant config chainId)
    {action : WorkerAction} {threads : Threads}
    (taken : state.threads.workerStep action = some threads) :
    { state with threads := threads }.Invariant config chainId where
  consistent := invariant.consistent.workerStep taken
  orderly := invariant.orderly.workerStep invariant.consistent.ordinary taken
  sourceRuns := (Threads.sourceRunning_of_workerStep taken).trans invariant.sourceRuns
  sourceExhausted := by
    intro returned
    rcases Threads.exhausted_of_returns taken invariant.sourceRuns returned with exhausted | already
    · exact exhausted
    · rw [(Threads.source_stays_returned taken already).2.1]
      exact invariant.sourceExhausted already
  sourceJoined := fun moved =>
    (Threads.source_stays_returned taken (invariant.sourceJoined moved)).1
  pillLast := by
    intro sent
    rcases (Threads.source_stays_returned taken (invariant.joined_of_sent sent)).2.2 with same
      | ⟨signal, front⟩
    · change threads.ring = [] ∨ _
      rw [same]
      exact invariant.pillLast sent
    · exact pillLast_tail front (invariant.pillLast sent)
  engineAwaited := fun here => Threads.engine_stays_returned taken (invariant.engineAwaited here)
  dispatcherJoined := fun here => Threads.dispatcher_stays_returned taken
    (invariant.dispatcherJoined here)

/-- When the main thread only moves on, what is new is said of the engine and
the dispatcher. -/
private theorem Invariant.advance (invariant : state.Invariant config chainId)
    (sent : state.main.pillSent = true) {place : BacktestAt}
    (orderly : state.threads.Orderly place.pillSent place.engineStopped place.dispatcherStopped)
    (engineAwaited : place = .stopEngine -> state.threads.engineAt = .returned)
    (dispatcherJoined : place = .returned -> state.threads.dispatcherAt = .returned) :
    { state with main := place }.Invariant config chainId :=
  { invariant with
    orderly := orderly
    sourceJoined := fun _ => invariant.joined_of_sent sent
    pillLast := fun _ => invariant.pillLast sent
    engineAwaited := engineAwaited
    dispatcherJoined := dispatcherJoined }

/-- The main thread keeps it too, as long as it is not driven by a deadline. -/
private theorem Invariant.mainStep (invariant : state.Invariant config chainId)
    (taken : state.mainStep = some next) : next.Invariant config chainId := by
  have orderly := invariant.orderly
  cases move_of_mainStep taken with
  | sourceJoined here returned =>
      rw [here] at orderly
      exact { invariant with
        orderly := orderly
        sourceJoined := fun _ => returned
        pillLast := fun impossible => by cases impossible
        engineAwaited := fun impossible => by cases impossible
        dispatcherJoined := fun impossible => by cases impossible }
  | pillPushed here threads pushed =>
      rw [here] at orderly
      have moved := orderly.tryPushPill pushed
      have consistent := invariant.consistent.tryPushPill pushed
      rw [(Threads.tryPushPill_eq_some pushed).2] at moved consistent ⊢
      exact { invariant with
        consistent := consistent
        orderly := moved
        sourceJoined := fun _ => invariant.sourceJoined (by rw [here]; decide)
        pillLast := fun _ => Or.inr ⟨state.threads.ring, rfl⟩
        engineAwaited := fun impossible => by cases impossible
        dispatcherJoined := fun impossible => by cases impossible }
  | waits => exact invariant
  | engineAwaited here finished =>
      rw [here] at orderly
      apply invariant.advance (by rw [here]; rfl)
      · exact orderly
      · exact fun _ => orderly.finishes.mp finished
      · exact fun impossible => by cases impossible
  | engineStopped here =>
      rw [here] at orderly
      have sent : state.main.pillSent = true := by rw [here]; rfl
      exact { invariant with
        consistent := invariant.consistent.stopEngine
        orderly := orderly.stopEngine (invariant.engineAwaited here)
        sourceJoined := fun _ => invariant.joined_of_sent sent
        pillLast := fun _ => invariant.pillLast sent
        engineAwaited := fun impossible => by cases impossible
        dispatcherJoined := fun impossible => by cases impossible }
  | engineJoined here =>
      rw [here] at orderly
      apply invariant.advance (by rw [here]; rfl)
      · exact orderly
      · exact fun impossible => by cases impossible
      · exact fun impossible => by cases impossible
  | dispatcherStopped here =>
      rw [here] at orderly
      have sent : state.main.pillSent = true := by rw [here]; rfl
      exact { invariant with
        consistent := invariant.consistent.stopDispatcher
        orderly := orderly.stopDispatcher (orderly.stoppedLate rfl)
        sourceJoined := fun _ => invariant.joined_of_sent sent
        pillLast := fun _ => invariant.pillLast sent
        engineAwaited := fun impossible => by cases impossible
        dispatcherJoined := fun impossible => by cases impossible }
  | dispatcherJoined here returned =>
      rw [here] at orderly
      apply invariant.advance (by rw [here]; rfl)
      · exact orderly
      · exact fun impossible => by cases impossible
      · exact fun _ => returned

/-- One step that is no deadline keeps the invariant. -/
theorem Invariant.step {action : BacktestAction} (invariant : state.Invariant config chainId)
    (inTime : action ≠ .deadline) (taken : state.step action = some next) :
    next.Invariant config chainId := by
  cases action with
  | worker action =>
      rcases Option.map_eq_some_iff.mp taken with ⟨threads, moved, rfl⟩
      exact invariant.workerStep moved
  | main => exact invariant.mainStep taken
  | deadline => exact absurd rfl inTime

/-! ## The whole run -/

/-- The alerts passed to the file channel. -/
def sentAlerts (state : BacktestState) : List Alert :=
  (AlertDispatcher.unsuppressed state.threads.history.records).map Delivery.alert

/-- The clock readings of the dispatcher, one for each alert it took. -/
def readings (state : BacktestState) : List UInt64 :=
  state.threads.history.deliveries.map Delivery.nowMs

/-- The components one after another: the rules on every signal in order,
then the deduplicator at the given readings. -/
def sequentialReport (rules : List Rule) (signals : List Signal) (readings : List UInt64) :
    List Alert :=
  ((AlertDeduplicator.create .production).letThrough
    (List.zipWith TimedAlert.mk
      (RiskEngine.sequentialAlerts rules signals) readings)).map TimedAlert.alert

/-- When the main thread has returned, the ring is empty: the engine has
left, so it has read the stop command, and nothing was behind it. -/
private theorem Invariant.ring_eq_nil (invariant : state.Invariant config chainId)
    (returned : state.main = .returned) : state.threads.ring = [] := by
  have orderly := invariant.orderly
  rw [returned] at orderly
  have draining := orderly.leavesDrained (Or.inr (orderly.dispatcherLate rfl))
  have pills := orderly.pills
  rw [draining] at pills
  rcases invariant.pillLast (by rw [returned]; rfl) with empty | ⟨front, split⟩
  · exact empty
  · have pill : poisonPill.isPoisonPill = true := rfl
    rw [Threads.pillsInRing, split, List.countP_append, List.countP_singleton, if_pos pill] at pills
    change _ + 1 + 1 = 1 at pills
    omega

/-- Then every signal of the replayed range has been pushed and evaluated. -/
theorem Invariant.signals_evaluated (invariant : state.Invariant config chainId)
    (returned : state.main = .returned) :
    state.threads.history.pushed =
      ((config.eventSource chainId).run state.threads.history.polls).pushed ∧
      state.threads.history.evaluated = state.threads.history.pushed := by
  have pushed := invariant.consistent.pushed
  have evaluated := invariant.consistent.evaluated
  rw [Threads.pending, invariant.sourceJoined (by simp [returned]), List.append_nil] at pushed
  rw [Threads.signalsInRing, invariant.ring_eq_nil returned, List.filter_nil, List.append_nil]
    at evaluated
  exact ⟨pushed.symm, evaluated.symm⟩

/-- And the alerts of the rules on these signals have all been taken. -/
theorem Invariant.alerts_taken (invariant : state.Invariant config chainId)
    (returned : state.main = .returned) :
    state.threads.queue = [] ∧
      state.threads.history.dispatched =
        RiskEngine.sequentialAlerts config.tables.registerNonemptyRules state.threads.history.pushed ∧
      state.threads.history.deliveries.map Delivery.alert = state.threads.history.dispatched := by
  rcases Threads.alerts_delivered_of_returned invariant.consistent invariant.orderly
    (invariant.dispatcherJoined returned) with ⟨queue, taken, dispatched⟩
  refine ⟨queue, ?_, taken.symm⟩
  rw [← dispatched, RiskEngine.processAll_alerts, BacktestConfig.riskEngine,
    RiskEngine.ofRules_rules,
    (invariant.signals_evaluated returned).2]

theorem Invariant.sentAlerts_eq (invariant : state.Invariant config chainId)
    (returned : state.main = .returned) :
    state.sentAlerts = sequentialReport config.tables.registerNonemptyRules
      ((config.eventSource chainId).run state.threads.history.polls).pushed state.readings := by
  rcases invariant.alerts_taken returned with ⟨_, alerts, taken⟩
  have decided := AlertDispatcher.map_timed_unsuppressed backtestDispatcher
    state.threads.history.deliveries
  rw [invariant.consistent.delivered] at decided
  have timed : List.zipWith TimedAlert.mk
        (state.threads.history.deliveries.map Delivery.alert) state.readings =
      state.threads.history.deliveries.map Delivery.timed := by
    rw [readings, List.zipWith_map_left, List.zipWith_map_right, List.zipWith_self]
    rfl
  rw [sequentialReport, ← (invariant.signals_evaluated returned).1, ← alerts, ← taken, timed]
  change _ = List.map _ (AlertDeduplicator.letThrough backtestDispatcher.deduplicator _)
  rw [← decided, sentAlerts, List.map_map]
  rfl

theorem invariant_of_backtest {capacity : Nat} {actions : List BacktestAction}
    {final : BacktestState}
    (ran : runActions step (start capacity config chainId) actions = some final)
    (inTime : BacktestAction.deadline ∉ actions) : final.Invariant config chainId := by
  refine invariant_of_allSteps step (fun _ action => action ≠ .deadline) (Invariant config chainId)
    (fun state action next holds allowed taken => holds.step allowed taken)
      (start_invariant capacity)
    (allSteps_of_actions step _ actions fun action member _ isDeadline => ?_) ran
  exact inTime (isDeadline ▸ member)

/-- The threaded backtest refines the sequential pipeline: in every
interleaving without an expired deadline, when `run` returns, the source has
pushed what its loop pushes over the whole range, every signal has been
evaluated and every alert taken exactly once and in order, and the alerts sent
to the file are those of the components run one after another. -/
theorem backtest_refines_sequential_pipeline (capacity : Nat) (config : BacktestConfig)
    (chainId : UInt64) (actions : List BacktestAction) (final : BacktestState)
    (ran : runActions step (start capacity config chainId) actions = some final)
    (inTime : BacktestAction.deadline ∉ actions) (returned : final.main = .returned) :
    let history := final.threads.history
    let replay := (config.eventSource chainId).run history.polls
    final.threads.ring = [] ∧ final.threads.queue = [] ∧
      replay.steps.length = history.polls.length ∧ replay.final.isExhausted = true ∧
      history.pushed = replay.pushed ∧ history.evaluated = history.pushed ∧
      history.dispatched =
        RiskEngine.sequentialAlerts config.tables.registerNonemptyRules history.pushed ∧
      history.deliveries.map Delivery.alert = history.dispatched ∧
      final.sentAlerts =
        sequentialReport config.tables.registerNonemptyRules replay.pushed final.readings := by
  intro history replay
  have invariant := invariant_of_backtest ran inTime
  rcases invariant.signals_evaluated returned with ⟨pushed, evaluated⟩
  rcases invariant.alerts_taken returned with ⟨queue, alerts, taken⟩
  have exhausted : replay.final.isExhausted = true := by
    have sourceReturned := invariant.sourceJoined (by simp [returned])
    rw [invariant.consistent.cursor, Threads.cursor, sourceReturned]
    exact invariant.sourceExhausted sourceReturned
  exact ⟨invariant.ring_eq_nil returned, queue, invariant.consistent.everyPoll, exhausted, pushed,
    evaluated, alerts,
    taken, invariant.sentAlerts_eq returned⟩

/-- The file then holds the report of the sequential pipeline. -/
theorem lines_of_backtest (capacity : Nat) (actions : List BacktestAction) (final : BacktestState)
    (ran : runActions step (start capacity config chainId) actions = some final)
    (inTime : BacktestAction.deadline ∉ actions) (returned : final.main = .returned) :
    (FileAlertChannel.sendAll {} final.sentAlerts).lines =
      backtestReport config chainId final.threads.history.polls final.readings := by
  have sent := (invariant_of_backtest ran inTime).sentAlerts_eq returned
  rw [backtestReport, reportedAlerts_eq_letThrough, replayedAlerts, RiskEngine.processAll_alerts,
    BacktestConfig.riskEngine, RiskEngine.ofRules_rules, sent]
  rfl

/-- A schedule of a backtest with two logs and a ring of one place.  Source
and main thread both find the ring full once. -/
def tightSchedule : List BacktestAction :=
  [.worker .sourceCheck, .worker (.sourcePoll pausedTwice), .worker .sourcePush,
    .worker .sourcePush,
    .worker .sourceCheck, .worker (.sourcePoll pausedTwice), .worker .sourcePush,
    .worker .engineCheck, .worker .engineRead, .worker .sourcePush, .worker .sourcePush,
    .worker .sourceCheck, .main, .main, .worker .dispatcherStart, .worker .engineDispatch,
    .worker .engineDispatch, .worker .dispatcherTake,
    .worker (.dispatcherDeliver 1800000000000 fun _ => .sent), .worker .engineCheck,
    .worker .engineRead, .main, .worker .engineDispatch, .worker .engineDispatch,
    .worker .engineCheck, .worker .engineRead, .main, .worker .engineCheck, .worker .engineRead,
    .worker .engineFinish, .main, .main, .main, .main, .worker .dispatcherTake,
    .worker (.dispatcherDeliver 1800000001000 fun _ => .sent), .worker .dispatcherTake, .main]

/-- The backtest of the schedule returns, having taken two alerts and sent
one, as the components do one after another. -/
theorem backtest_of_tightSchedule :
    Exists fun final => runActions step (start 1 watchedContract 1) tightSchedule = some final ∧
      final.readings = [1800000000000, 1800000001000] ∧ final.sentAlerts.length = 1 ∧
      final.sentAlerts = sequentialReport watchedContract.tables.registerNonemptyRules
        ((watchedContract.eventSource 1).run final.threads.history.polls).pushed final.readings := by
  have shape : (runActions step (start 1 watchedContract 1) tightSchedule).map
      (fun final => (final.main, final.readings, final.sentAlerts.length)) =
        some (.returned, [1800000000000, 1800000001000], 1) := by
    decide +kernel
  rcases Option.map_eq_some_iff.mp shape with ⟨final, ran, facts⟩
  simp only [Prod.mk.injEq] at facts
  have inTime : BacktestAction.deadline ∉ tightSchedule := by simp [tightSchedule]
  exact ⟨final, ran, facts.2.1, facts.2.2,
    (backtest_refines_sequential_pipeline 1 watchedContract 1 tightSchedule final ran inTime
      facts.1).2.2.2.2.2.2.2.2⟩

end BacktestState

end Backtest
end RiskSentinel
