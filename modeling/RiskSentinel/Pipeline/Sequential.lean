import RiskSentinel.Pipeline.Threads

namespace RiskSentinel
namespace Pipeline

open Foundation Events Risk

/-!
# The histories of the threads

Whatever the order of their steps, the three threads together do a prefix of
what the components do one after another: the source pushes what its loop
pushes on the same answers, the engine evaluates the pushed signals in order,
the dispatcher delivers the alerts in order.  What is missing of the prefix
stands in the ring, in the queue or in the hands of a thread.
-/

namespace Threads

/-- The signals of the current batch that have not been pushed. -/
def pending (threads : Threads) : List Signal :=
  match threads.sourceAt with
  | .pushing batch _ => batch
  | _ => []

/-- The source as the next poll will find it. -/
def cursor (threads : Threads) : EventSource :=
  match threads.sourceAt with
  | .pushing _ next => next
  | _ => threads.eventSource

/-- The alerts of the current signal that have not been dispatched. -/
def undispatched (threads : Threads) : List Alert :=
  match threads.engineAt with
  | .dispatching alerts => alerts
  | _ => []

/-- The alert that has been taken and not yet delivered. -/
def held (threads : Threads) : List Alert :=
  match threads.dispatcherAt with
  | .delivering alert => [alert]
  | _ => []

/-- The signals in the ring, without stop commands. -/
def signalsInRing (threads : Threads) : List Signal :=
  threads.ring.filter fun signal => !signal.isPoisonPill

/-- The histories agree with the sequential components. -/
structure Consistent (source : EventSource) (engine : RiskEngine) (dispatcher : AlertDispatcher)
    (threads : Threads) : Prop where
  everyPoll : (source.run threads.history.polls).steps.length = threads.history.polls.length
  cursor : (source.run threads.history.polls).final = threads.cursor
  pushed : (source.run threads.history.polls).pushed = threads.history.pushed ++ threads.pending
  unfinished : threads.sourceAt = .polling -> threads.eventSource.isExhausted = false
  ordinary : forall signal, signal ∈ threads.pending -> signal.isPoisonPill = false
  evaluated : threads.history.pushed = threads.history.evaluated ++ threads.signalsInRing
  engineState : (engine.processAll threads.history.evaluated).1 = threads.riskEngine
  dispatched : (engine.processAll threads.history.evaluated).2 = threads.history.dispatched ++
    threads.undispatched
  delivered : dispatcher.handleAll threads.history.deliveries =
    (threads.dispatcher, threads.history.records)
  taken : threads.history.dispatched =
    threads.history.deliveries.map Delivery.alert ++ threads.held ++ threads.queue

variable {source : EventSource} {engine : RiskEngine} {dispatcher : AlertDispatcher}

theorem start_consistent (capacity : Nat) :
    (start capacity source engine dispatcher).Consistent source engine dispatcher where
  everyPoll := rfl
  cursor := rfl
  pushed := rfl
  unfinished := fun impossible => by cases impossible
  ordinary := fun _ member => (List.not_mem_nil member).elim
  evaluated := rfl
  engineState := rfl
  dispatched := rfl
  delivered := rfl
  taken := rfl

/-! ## One move -/

section Moves

variable {threads next : Threads}

/-- The source moves without polling or pushing. -/
private theorem Consistent.atSource (consistent : threads.Consistent source engine dispatcher)
    (place : SourceAt) (moved : EventSource)
    (sameCursor : { threads with eventSource := moved, sourceAt := place }.cursor = threads.cursor)
    (samePending : { threads with eventSource := moved, sourceAt := place }.pending =
      threads.pending)
    (unfinished : place = .polling -> moved.isExhausted = false) :
    { threads with eventSource := moved, sourceAt := place }.Consistent source engine dispatcher :=
  { consistent with
    cursor := consistent.cursor.trans sameCursor.symm
    pushed := by
      rw [samePending]
      exact consistent.pushed
    unfinished := unfinished
    ordinary := by
      rw [samePending]
      exact consistent.ordinary }

/-- The engine moves without evaluating or dispatching. -/
private theorem Consistent.atEngine (consistent : threads.Consistent source engine dispatcher)
    (place : EngineAt) (finished : Bool)
    (same : { threads with finished := finished, engineAt := place }.undispatched =
      threads.undispatched) :
    { threads with finished := finished, engineAt := place }.Consistent source engine dispatcher :=
  { consistent with
    dispatched := by
      rw [same]
      exact consistent.dispatched }

/-- The dispatcher moves without taking or delivering. -/
private theorem Consistent.atDispatcher (consistent : threads.Consistent source engine dispatcher)
    (place : DispatcherAt) (running : Bool)
    (same : { threads with dispatcherRunning := running, dispatcherAt := place }.held =
      threads.held) :
    { threads with dispatcherRunning := running, dispatcherAt := place }.Consistent
      source engine dispatcher :=
  { consistent with
    taken := by
      rw [same]
      exact consistent.taken }

private theorem Consistent.polls (consistent : threads.Consistent source engine dispatcher)
    (env : PollEnv) (here : threads.sourceAt = .polling) :
    { threads with
      sourceAt := .pushing (threads.eventSource.pollOnce env).pushed
        (threads.eventSource.pollOnce env).source
      history := { threads.history with polls := threads.history.polls ++ [env] } }.Consistent
        source engine dispatcher := by
  have final : (source.run threads.history.polls).final = threads.eventSource := by
    rw [consistent.cursor, Threads.cursor, here]
  have extended := EventSource.run_snoc env consistent.everyPoll
    (by rw [final]; exact consistent.unfinished here)
  have pushed := consistent.pushed
  rw [final] at extended
  rw [pending, here, List.append_nil, SourceRun.pushed] at pushed
  exact { consistent with
    everyPoll := by
      rw [extended, List.length_append, List.length_append, consistent.everyPoll]
      rfl
    cursor := by
      rw [extended]
      rfl
    pushed := by
      rw [extended, SourceRun.pushed, List.flatMap_append, pushed]
      simp [pending, PollStep.result]
    unfinished := fun impossible => by cases impossible
    ordinary := fun _ member => EventSource.pollOnce_not_poisonPill member }

private theorem Consistent.pushes (consistent : threads.Consistent source engine dispatcher)
    {signal : Signal} {rest : List Signal} {moved : EventSource}
    (here : threads.sourceAt = .pushing (signal :: rest) moved) :
    { threads with
      ring := threads.ring ++ [signal]
      sourceAt := .pushing rest moved
      history := { threads.history with pushed := threads.history.pushed ++ [signal] } }.Consistent
        source engine dispatcher := by
  have cursor := consistent.cursor
  have pushed := consistent.pushed
  have ordinary := consistent.ordinary
  rw [Threads.cursor, here] at cursor
  rw [pending, here] at pushed ordinary
  exact { consistent with
    cursor := cursor
    pushed := by
      rw [pushed]
      simp [pending]
    unfinished := fun impossible => by cases impossible
    ordinary := fun other member => ordinary other (List.mem_cons_of_mem _ member)
    evaluated := by
      simp [signalsInRing, consistent.evaluated, ordinary signal List.mem_cons_self] }

private theorem Consistent.readsPill (consistent : threads.Consistent source engine dispatcher)
    {signal : Signal} {rest : List Signal} (here : threads.engineAt = .reading)
    (front : threads.ring = signal :: rest) (pill : signal.isPoisonPill = true) :
    { threads with ring := rest, drainMode := true, engineAt := .loopHead }.Consistent
      source engine dispatcher := by
  have dispatched := consistent.dispatched
  have evaluated := consistent.evaluated
  rw [undispatched, here] at dispatched
  rw [signalsInRing, front, List.filter_cons_of_neg (by simp [pill])] at evaluated
  exact { consistent with
    evaluated := evaluated
    dispatched := dispatched }

private theorem Consistent.evaluates (consistent : threads.Consistent source engine dispatcher)
    {signal : Signal} {rest : List Signal} (here : threads.engineAt = .reading)
    (front : threads.ring = signal :: rest) (ordinary : signal.isPoisonPill = false) :
    { threads with
      ring := rest
      riskEngine := (threads.riskEngine.processSignal signal).1
      engineAt := .dispatching (threads.riskEngine.processSignal signal).2
      history := { threads.history
        with evaluated := threads.history.evaluated ++ [signal] } }.Consistent
        source engine dispatcher := by
  have dispatched := consistent.dispatched
  have evaluated := consistent.evaluated
  rw [undispatched, here, List.append_nil] at dispatched
  rw [signalsInRing, front, List.filter_cons_of_pos (by simp [ordinary])] at evaluated
  have extended : engine.processAll (threads.history.evaluated ++ [signal]) =
      ((threads.riskEngine.processSignal signal).1,
        threads.history.dispatched ++ (threads.riskEngine.processSignal signal).2) := by
    rw [RiskEngine.processAll_append]
    simp only [RiskEngine.processAll, consistent.engineState, dispatched, List.append_nil]
  exact { consistent with
    evaluated := by
      rw [evaluated]
      simp [signalsInRing]
    engineState := by rw [extended]
    dispatched := by
      rw [extended]
      rfl }

private theorem Consistent.dispatches (consistent : threads.Consistent source engine dispatcher)
    {alert : Alert} {rest : List Alert} (here : threads.engineAt = .dispatching (alert :: rest)) :
    { threads with
      queue := threads.queue ++ [alert]
      engineAt := .dispatching rest
      history := { threads.history
        with dispatched := threads.history.dispatched ++ [alert] } }.Consistent
        source engine dispatcher := by
  have dispatched := consistent.dispatched
  rw [undispatched, here] at dispatched
  exact { consistent with
    dispatched := by
      rw [dispatched]
      simp [undispatched]
    taken := by
      simp [consistent.taken, held] }

private theorem Consistent.takes (consistent : threads.Consistent source engine dispatcher)
    {alert : Alert} {rest : List Alert} (here : threads.dispatcherAt = .waiting)
    (front : threads.queue = alert :: rest) :
    { threads with queue := rest, dispatcherAt := .delivering alert }.Consistent
      source engine dispatcher := by
  have taken := consistent.taken
  rw [held, here, front] at taken
  exact { consistent with
    taken := by
      rw [taken]
      simp [held] }

private theorem Consistent.delivers (consistent : threads.Consistent source engine dispatcher)
    (nowMs : UInt64) (outcome : Nat -> SendOutcome) {alert : Alert}
    (here : threads.dispatcherAt = .delivering alert) :
    { threads with
      dispatcher := (threads.dispatcher.handle ⟨alert, nowMs, outcome⟩).1
      dispatcherAt := .waiting
      history := { threads.history with
        deliveries := threads.history.deliveries ++ [(⟨alert, nowMs, outcome⟩ : Delivery)]
        records := threads.history.records ++
          [(threads.dispatcher.handle ⟨alert, nowMs, outcome⟩).2] } }.Consistent
          source engine dispatcher := by
  have taken := consistent.taken
  rw [held, here] at taken
  exact { consistent with
    delivered := by
      rw [AlertDispatcher.handleAll_append, consistent.delivered]
      rfl
    taken := by
      rw [taken]
      simp [held] }

/-- Every move of a thread keeps the histories consistent. -/
theorem Consistent.workerStep {action : WorkerAction}
    (consistent : threads.Consistent source engine dispatcher)
    (taken : threads.workerStep action = some next) : next.Consistent source engine dispatcher := by
  cases move_of_workerStep taken with
  | sourceEnters here running more =>
      exact consistent.atSource _ _ (by simp [Threads.cursor, here])
        (by simp [pending, here]) (fun _ => more)
  | sourceReturns here done =>
      exact consistent.atSource _ _ (by simp [Threads.cursor, here]) (by simp [pending, here])
        (fun h => by cases h)
  | sourcePolls env here => exact consistent.polls env here
  | sourcePushes signal rest moved here room => exact consistent.pushes here
  | sourceRetries => exact consistent
  | sourceCompletes moved here =>
      exact consistent.atSource _ _ (by simp [Threads.cursor, here]) (by simp [pending, here])
        (fun h => by cases h)
  | engineEnters here running => exact consistent.atEngine _ _ (by simp [undispatched, here])
  | engineStops here stopped => exact consistent.atEngine _ _ (by simp [undispatched, here])
  | engineIdles here empty serving => exact consistent.atEngine _ _ (by simp [undispatched, here])
  | engineDrained here empty draining =>
      exact consistent.atEngine _ _ (by simp [undispatched, here])
  | engineReadsPill signal rest here front pill => exact consistent.readsPill here front pill
  | engineEvaluates signal rest here front ordinary =>
      exact consistent.evaluates here front ordinary
  | engineDispatches alert rest here => exact consistent.dispatches here
  | engineTurns here => exact consistent.atEngine _ _ (by simp [undispatched, here])
  | engineFinishes here => exact consistent.atEngine _ _ (by simp [undispatched, here])
  | dispatcherStarts here => exact consistent.atDispatcher _ _ (by simp [held, here])
  | dispatcherIdles => exact consistent
  | dispatcherReturns here empty stopped => exact consistent.atDispatcher _ _ (by simp [held, here])
  | dispatcherTakes alert rest here front => exact consistent.takes here front
  | dispatcherDelivers nowMs outcome alert here => exact consistent.delivers nowMs outcome here

/-- The stop command is no signal of the source. -/
theorem Consistent.tryPushPill (consistent : threads.Consistent source engine dispatcher)
    (pushed : threads.tryPushPill = some next) : next.Consistent source engine dispatcher := by
  rw [(tryPushPill_eq_some pushed).2]
  have pill : poisonPill.isPoisonPill = true := rfl
  exact { consistent with
    evaluated := by simp [signalsInRing, consistent.evaluated, pill] }

theorem Consistent.stopSource (consistent : threads.Consistent source engine dispatcher) :
    threads.stopSource.Consistent source engine dispatcher :=
  { consistent with }

theorem Consistent.stopEngine (consistent : threads.Consistent source engine dispatcher) :
    threads.stopEngine.Consistent source engine dispatcher :=
  { consistent with }

theorem Consistent.stopDispatcher (consistent : threads.Consistent source engine dispatcher) :
    threads.stopDispatcher.Consistent source engine dispatcher :=
  { consistent with }

end Moves

end Threads

end Pipeline
end RiskSentinel
