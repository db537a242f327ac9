import RiskSentinel.Events.EventSource
import RiskSentinel.Foundation.Computation
import RiskSentinel.Risk.AlertDispatcher
import RiskSentinel.Risk.RiskEngine

namespace RiskSentinel
namespace Pipeline

open Foundation Events Risk

/-!
# The three threads between the chain and the channels

The event source, the risk engine and the dispatcher each run their loop in a
thread of their own.  They meet at the bounded ring buffer, at the alert queue
and at the flags by which the main thread stops them.  A state records where
each thread stands in its loop; an action is one thread going on to its next
access of something shared.  What a thread does in between is its own and
happens with that access.

The histories are not part of the program.  They say what has been pushed,
evaluated, dispatched and delivered, and the invariant of this module compares
them with the same components run one after another.
-/

/-- Where the event source stands: at the test of its loop, about to poll, or
inside `push_blocking` with the rest of a batch and the source that the poll
leaves behind. -/
inductive SourceAt where
  | loopHead
  | polling
  | pushing (batch : List Signal) (next : EventSource)
  | returned

/-- Where the engine stands.  `leaving` is behind the loop and before the
store to `finished_`. -/
inductive EngineAt where
  | loopHead
  | reading
  | dispatching (alerts : List Alert)
  | leaving
  | returned
deriving DecidableEq

inductive DispatcherAt where
  | notStarted
  | waiting
  | delivering (alert : Alert)
  | returned
deriving DecidableEq

/-- What the threads have done so far. -/
structure History where
  polls : List PollEnv := []
  pushed : List Signal := []
  evaluated : List Signal := []
  dispatched : List Alert := []
  deliveries : List Delivery := []
  records : List DispatchRecord := []

structure Threads where
  capacity : Nat
  ring : List Signal
  queue : List Alert
  eventSource : EventSource
  sourceRunning : Bool
  sourceAt : SourceAt
  riskEngine : RiskEngine
  engineRunning : Bool
  drainMode : Bool
  finished : Bool
  engineAt : EngineAt
  dispatcher : AlertDispatcher
  dispatcherRunning : Bool
  dispatcherAt : DispatcherAt
  history : History

inductive WorkerAction where
  | sourceCheck
  | sourcePoll (env : PollEnv)
  | sourcePush
  | engineCheck
  | engineRead
  | engineDispatch
  | engineFinish
  | dispatcherStart
  | dispatcherTake
  | dispatcherDeliver (nowMs : UInt64) (outcome : Nat -> SendOutcome)

/-- The poll that an action makes, if it makes one. -/
def WorkerAction.polls : WorkerAction -> List PollEnv
  | .sourcePoll env => [env]
  | _ => []

namespace Threads

/-- The threads as they are started.  The dispatcher's flag is only set by
its thread. -/
def start (capacity : Nat) (source : EventSource) (engine : RiskEngine)
    (dispatcher : AlertDispatcher) : Threads where
  capacity := capacity
  ring := []
  queue := []
  eventSource := source
  sourceRunning := true
  sourceAt := .loopHead
  riskEngine := engine
  engineRunning := true
  drainMode := false
  finished := false
  engineAt := .loopHead
  dispatcher := dispatcher
  dispatcherRunning := false
  dispatcherAt := .notStarted
  history := {}

/-! ## The loop of `EventSource::run` -/

/-- The test at the head of the loop. -/
def sourceCheck (threads : Threads) : Option Threads :=
  match threads.sourceAt with
  | .loopHead =>
      if threads.sourceRunning && !threads.eventSource.isExhausted then
        some { threads with sourceAt := .polling }
      else
        some { threads with sourceAt := .returned }
  | _ => none

/-- Everything in `poll_once` up to the first push. -/
def sourcePoll (env : PollEnv) (threads : Threads) : Option Threads :=
  match threads.sourceAt with
  | .polling =>
      let result := threads.eventSource.pollOnce env
      some { threads with
        sourceAt := .pushing result.pushed result.source
        history := { threads.history with polls := threads.history.polls ++ [env] } }
  | _ => none

/-- One attempt of `push_blocking`, or after the last signal of the batch the
way back to the head of the loop.  A failed attempt is repeated, and the stop
flag is not looked at. -/
def sourcePush (threads : Threads) : Option Threads :=
  match threads.sourceAt with
  | .pushing [] next => some { threads with eventSource := next, sourceAt := .loopHead }
  | .pushing (signal :: rest) next =>
      if threads.ring.length < threads.capacity then
        some { threads with
          ring := threads.ring ++ [signal]
          sourceAt := .pushing rest next
          history := { threads.history with pushed := threads.history.pushed ++ [signal] } }
      else
        some threads
  | _ => none

/-! ## The loop of `RiskEngine::run` -/

def engineCheck (threads : Threads) : Option Threads :=
  match threads.engineAt with
  | .loopHead =>
      if threads.engineRunning then some { threads with engineAt := .reading }
      else some { threads with engineAt := .leaving }
  | _ => none

/-- Take the front of the ring.  A stop command turns the drain mode on; an
empty ring ends the loop in drain mode. -/
def engineRead (threads : Threads) : Option Threads :=
  match threads.engineAt, threads.ring with
  | .reading, [] =>
      if threads.drainMode then some { threads with engineAt := .leaving }
      else some { threads with engineAt := .loopHead }
  | .reading, signal :: rest =>
      if signal.isPoisonPill then
        some { threads with ring := rest, drainMode := true, engineAt := .loopHead }
      else
        let processed := threads.riskEngine.processSignal signal
        some { threads with
          ring := rest
          riskEngine := processed.1
          engineAt := .dispatching processed.2
          history := { threads.history with evaluated := threads.history.evaluated ++ [signal] } }
  | _, _ => none

def engineDispatch (threads : Threads) : Option Threads :=
  match threads.engineAt with
  | .dispatching [] => some { threads with engineAt := .loopHead }
  | .dispatching (alert :: rest) =>
      some { threads with
        queue := threads.queue ++ [alert]
        engineAt := .dispatching rest
        history := { threads.history with dispatched := threads.history.dispatched ++ [alert] } }
  | _ => none

def engineFinish (threads : Threads) : Option Threads :=
  match threads.engineAt with
  | .leaving => some { threads with finished := true, engineAt := .returned }
  | _ => none

/-! ## The loop of `AlertDispatcher::run` -/

def dispatcherStart (threads : Threads) : Option Threads :=
  match threads.dispatcherAt with
  | .notStarted => some { threads with dispatcherRunning := true, dispatcherAt := .waiting }
  | _ => none

/-- The critical section, in which the queue cannot change: take the front of
the queue, or leave when it is empty and the flag is off. -/
def dispatcherTake (threads : Threads) : Option Threads :=
  match threads.dispatcherAt, threads.queue with
  | .waiting, [] =>
      if threads.dispatcherRunning then some threads
      else some { threads with dispatcherAt := .returned }
  | .waiting, alert :: rest =>
      some { threads with queue := rest, dispatcherAt := .delivering alert }
  | _, _ => none

def dispatcherDeliver (nowMs : UInt64) (outcome : Nat -> SendOutcome) (threads : Threads) :
    Option Threads :=
  match threads.dispatcherAt with
  | .delivering alert =>
      let delivery : Delivery := { alert := alert, nowMs := nowMs, outcome := outcome }
      let handled := threads.dispatcher.handle delivery
      some { threads with
        dispatcher := handled.1
        dispatcherAt := .waiting
        history := { threads.history with
          deliveries := threads.history.deliveries ++ [delivery]
          records := threads.history.records ++ [handled.2] } }
  | _ => none

def workerStep (threads : Threads) : WorkerAction -> Option Threads
  | .sourceCheck => threads.sourceCheck
  | .sourcePoll env => threads.sourcePoll env
  | .sourcePush => threads.sourcePush
  | .engineCheck => threads.engineCheck
  | .engineRead => threads.engineRead
  | .engineDispatch => threads.engineDispatch
  | .engineFinish => threads.engineFinish
  | .dispatcherStart => threads.dispatcherStart
  | .dispatcherTake => threads.dispatcherTake
  | .dispatcherDeliver nowMs outcome => threads.dispatcherDeliver nowMs outcome

/-! ## What the main thread does to the others -/

def stopSource (threads : Threads) : Threads :=
  { threads with sourceRunning := false }

def stopEngine (threads : Threads) : Threads :=
  { threads with engineRunning := false }

def stopDispatcher (threads : Threads) : Threads :=
  { threads with dispatcherRunning := false }

/-- The attempt to push the stop command, `none` when the ring is full. -/
def tryPushPill (threads : Threads) : Option Threads :=
  if threads.ring.length < threads.capacity
    then some { threads with ring := threads.ring ++ [poisonPill] }
  else none

theorem tryPushPill_eq_some {threads next : Threads} (pushed : threads.tryPushPill = some next) :
    threads.ring.length < threads.capacity ∧
    next = { threads with ring := threads.ring ++ [poisonPill] } := by
  unfold tryPushPill at pushed
  by_cases room : threads.ring.length < threads.capacity
  · rw [if_pos room] at pushed
    exact ⟨room, (Option.some.inj pushed).symm⟩
  · rw [if_neg room] at pushed
    cases pushed

/-! ## Every move -/

/-- Everything a thread can do, with the state in which it does it. -/
inductive WorkerMove (threads : Threads) : WorkerAction -> Threads -> Prop where
  | sourceEnters (here : threads.sourceAt = .loopHead) (running : threads.sourceRunning = true)
      (more : threads.eventSource.isExhausted = false) :
      WorkerMove threads .sourceCheck { threads with sourceAt := .polling }
  | sourceReturns (here : threads.sourceAt = .loopHead)
      (done : threads.sourceRunning = false ∨ threads.eventSource.isExhausted = true) :
      WorkerMove threads .sourceCheck { threads with sourceAt := .returned }
  | sourcePolls (env : PollEnv) (here : threads.sourceAt = .polling) :
      WorkerMove threads (.sourcePoll env) { threads with
        sourceAt := .pushing (threads.eventSource.pollOnce env).pushed
          (threads.eventSource.pollOnce env).source
        history := { threads.history with polls := threads.history.polls ++ [env] } }
  | sourcePushes (signal : Signal) (rest : List Signal) (next : EventSource)
      (here : threads.sourceAt = .pushing (signal :: rest) next)
        (room : threads.ring.length < threads.capacity) :
      WorkerMove threads .sourcePush { threads with
        ring := threads.ring ++ [signal]
        sourceAt := .pushing rest next
        history := { threads.history with pushed := threads.history.pushed ++ [signal] } }
  | sourceRetries (signal : Signal) (rest : List Signal) (next : EventSource)
      (here : threads.sourceAt = .pushing (signal :: rest) next)
        (full : threads.capacity ≤ threads.ring.length) :
      WorkerMove threads .sourcePush threads
  | sourceCompletes (next : EventSource) (here : threads.sourceAt = .pushing [] next) :
      WorkerMove threads .sourcePush { threads with eventSource := next, sourceAt := .loopHead }
  | engineEnters (here : threads.engineAt = .loopHead) (running : threads.engineRunning = true) :
      WorkerMove threads .engineCheck { threads with engineAt := .reading }
  | engineStops (here : threads.engineAt = .loopHead) (stopped : threads.engineRunning = false) :
      WorkerMove threads .engineCheck { threads with engineAt := .leaving }
  | engineIdles (here : threads.engineAt = .reading) (empty : threads.ring = [])
      (serving : threads.drainMode = false) :
      WorkerMove threads .engineRead { threads with engineAt := .loopHead }
  | engineDrained (here : threads.engineAt = .reading) (empty : threads.ring = [])
      (draining : threads.drainMode = true) :
      WorkerMove threads .engineRead { threads with engineAt := .leaving }
  | engineReadsPill (signal : Signal) (rest : List Signal) (here : threads.engineAt = .reading)
      (front : threads.ring = signal :: rest) (pill : signal.isPoisonPill = true) :
      WorkerMove threads .engineRead
        { threads with ring := rest, drainMode := true, engineAt := .loopHead }
  | engineEvaluates (signal : Signal) (rest : List Signal) (here : threads.engineAt = .reading)
      (front : threads.ring = signal :: rest) (ordinary : signal.isPoisonPill = false) :
      WorkerMove threads .engineRead { threads with
        ring := rest
        riskEngine := (threads.riskEngine.processSignal signal).1
        engineAt := .dispatching (threads.riskEngine.processSignal signal).2
        history := { threads.history with evaluated := threads.history.evaluated ++ [signal] } }
  | engineDispatches (alert : Alert) (rest : List Alert)
      (here : threads.engineAt = .dispatching (alert :: rest)) :
      WorkerMove threads .engineDispatch { threads with
        queue := threads.queue ++ [alert]
        engineAt := .dispatching rest
        history := { threads.history with dispatched := threads.history.dispatched ++ [alert] } }
  | engineTurns (here : threads.engineAt = .dispatching []) :
      WorkerMove threads .engineDispatch { threads with engineAt := .loopHead }
  | engineFinishes (here : threads.engineAt = .leaving) :
      WorkerMove threads .engineFinish { threads with finished := true, engineAt := .returned }
  | dispatcherStarts (here : threads.dispatcherAt = .notStarted) :
      WorkerMove threads .dispatcherStart
        { threads with dispatcherRunning := true, dispatcherAt := .waiting }
  | dispatcherIdles (here : threads.dispatcherAt = .waiting) (empty : threads.queue = [])
      (running : threads.dispatcherRunning = true) : WorkerMove threads .dispatcherTake threads
  | dispatcherReturns (here : threads.dispatcherAt = .waiting) (empty : threads.queue = [])
      (stopped : threads.dispatcherRunning = false) :
      WorkerMove threads .dispatcherTake { threads with dispatcherAt := .returned }
  | dispatcherTakes (alert : Alert) (rest : List Alert) (here : threads.dispatcherAt = .waiting)
      (front : threads.queue = alert :: rest) :
      WorkerMove threads .dispatcherTake
        { threads with queue := rest, dispatcherAt := .delivering alert }
  | dispatcherDelivers (nowMs : UInt64) (outcome : Nat -> SendOutcome) (alert : Alert)
      (here : threads.dispatcherAt = .delivering alert) :
      WorkerMove threads (.dispatcherDeliver nowMs outcome) { threads with
        dispatcher := (threads.dispatcher.handle ⟨alert, nowMs, outcome⟩).1
        dispatcherAt := .waiting
        history := { threads.history with
          deliveries := threads.history.deliveries ++ [⟨alert, nowMs, outcome⟩]
          records := threads.history.records ++
            [(threads.dispatcher.handle ⟨alert, nowMs, outcome⟩).2] } }

private theorem sourceCheck_move {threads next : Threads}
    (taken : threads.sourceCheck = some next) : WorkerMove threads .sourceCheck next := by
  unfold sourceCheck at taken
  split at taken
  next here =>
    by_cases goes : (threads.sourceRunning && !threads.eventSource.isExhausted) = true
    · rw [if_pos goes] at taken
      cases taken
      simp only [Bool.and_eq_true, Bool.not_eq_true'] at goes
      exact .sourceEnters here goes.1 goes.2
    · rw [if_neg goes] at taken
      cases taken
      apply WorkerMove.sourceReturns here
      cases running : threads.sourceRunning with
      | false => exact Or.inl rfl
      | true => exact Or.inr (by simpa [running] using goes)
  next => cases taken

private theorem sourcePoll_move {threads next : Threads} {env : PollEnv}
    (taken : threads.sourcePoll env = some next) : WorkerMove threads (.sourcePoll env) next := by
  unfold sourcePoll at taken
  split at taken
  next here =>
    cases taken
    exact .sourcePolls env here
  next => cases taken

private theorem sourcePush_move {threads next : Threads} (taken : threads.sourcePush = some next) :
    WorkerMove threads .sourcePush next := by
  unfold sourcePush at taken
  split at taken
  next source here =>
    cases taken
    exact .sourceCompletes source here
  next signal rest source here =>
    by_cases room : threads.ring.length < threads.capacity
    · rw [if_pos room] at taken
      cases taken
      exact .sourcePushes signal rest source here room
    · rw [if_neg room] at taken
      cases taken
      exact .sourceRetries signal rest source here (Nat.le_of_not_lt room)
  next => cases taken

private theorem engineCheck_move {threads next : Threads}
    (taken : threads.engineCheck = some next) : WorkerMove threads .engineCheck next := by
  unfold engineCheck at taken
  split at taken
  next here =>
    by_cases running : threads.engineRunning = true
    · rw [if_pos running] at taken
      cases taken
      exact .engineEnters here running
    · rw [if_neg running] at taken
      cases taken
      exact .engineStops here (Bool.eq_false_iff.mpr running)
  next => cases taken

private theorem engineRead_move {threads next : Threads} (taken : threads.engineRead = some next) :
    WorkerMove threads .engineRead next := by
  unfold engineRead at taken
  split at taken
  next here empty =>
    by_cases draining : threads.drainMode = true
    · rw [if_pos draining] at taken
      cases taken
      exact .engineDrained here empty draining
    · rw [if_neg draining] at taken
      cases taken
      exact .engineIdles here empty (Bool.eq_false_iff.mpr draining)
  next signal rest here front =>
    by_cases pill : signal.isPoisonPill = true
    · rw [if_pos pill] at taken
      cases taken
      exact .engineReadsPill signal rest here front pill
    · rw [if_neg pill] at taken
      cases taken
      exact .engineEvaluates signal rest here front (Bool.eq_false_iff.mpr pill)
  next => cases taken

private theorem engineDispatch_move {threads next : Threads}
    (taken : threads.engineDispatch = some next) : WorkerMove threads .engineDispatch next := by
  unfold engineDispatch at taken
  split at taken
  next here =>
    cases taken
    exact .engineTurns here
  next alert rest here =>
    cases taken
    exact .engineDispatches alert rest here
  next => cases taken

private theorem engineFinish_move {threads next : Threads}
    (taken : threads.engineFinish = some next) : WorkerMove threads .engineFinish next := by
  unfold engineFinish at taken
  split at taken
  next here =>
    cases taken
    exact .engineFinishes here
  next => cases taken

private theorem dispatcherStart_move {threads next : Threads}
    (taken : threads.dispatcherStart = some next) : WorkerMove threads .dispatcherStart next := by
  unfold dispatcherStart at taken
  split at taken
  next here =>
    cases taken
    exact .dispatcherStarts here
  next => cases taken

private theorem dispatcherTake_move {threads next : Threads}
    (taken : threads.dispatcherTake = some next) : WorkerMove threads .dispatcherTake next := by
  unfold dispatcherTake at taken
  split at taken
  next here empty =>
    by_cases running : threads.dispatcherRunning = true
    · rw [if_pos running] at taken
      cases taken
      exact .dispatcherIdles here empty running
    · rw [if_neg running] at taken
      cases taken
      exact .dispatcherReturns here empty (Bool.eq_false_iff.mpr running)
  next alert rest here front =>
    cases taken
    exact .dispatcherTakes alert rest here front
  next => cases taken

private theorem dispatcherDeliver_move {threads next : Threads} {nowMs : UInt64}
    {outcome : Nat -> SendOutcome} (taken : threads.dispatcherDeliver nowMs outcome = some next) :
    WorkerMove threads (.dispatcherDeliver nowMs outcome) next := by
  unfold dispatcherDeliver at taken
  split at taken
  next alert here =>
    cases taken
    exact .dispatcherDelivers nowMs outcome alert here
  next => cases taken

/-- Every step is one of the moves. -/
theorem move_of_workerStep {threads next : Threads} {action : WorkerAction}
    (taken : threads.workerStep action = some next) : WorkerMove threads action next := by
  cases action with
  | sourceCheck => exact sourceCheck_move taken
  | sourcePoll env => exact sourcePoll_move taken
  | sourcePush => exact sourcePush_move taken
  | engineCheck => exact engineCheck_move taken
  | engineRead => exact engineRead_move taken
  | engineDispatch => exact engineDispatch_move taken
  | engineFinish => exact engineFinish_move taken
  | dispatcherStart => exact dispatcherStart_move taken
  | dispatcherTake => exact dispatcherTake_move taken
  | dispatcherDeliver nowMs outcome => exact dispatcherDeliver_move taken

/-! ## What a move leaves alone -/

section Frame

variable {threads next : Threads} {action : WorkerAction}

@[simp] theorem capacity_of_workerStep (taken : threads.workerStep action = some next) :
    next.capacity = threads.capacity := by
  cases move_of_workerStep taken <;> rfl

theorem sourceRunning_of_workerStep (taken : threads.workerStep action = some next) :
    next.sourceRunning = threads.sourceRunning := by
  cases move_of_workerStep taken <;> rfl

theorem engineRunning_of_workerStep (taken : threads.workerStep action = some next) :
    next.engineRunning = threads.engineRunning := by
  cases move_of_workerStep taken <;> rfl

/-- The history lists the polls. -/
theorem polls_of_workerStep (taken : threads.workerStep action = some next) :
    next.history.polls = threads.history.polls ++ action.polls := by
  cases move_of_workerStep taken with
  | sourcePolls env here => rfl
  | sourceEnters | sourceReturns | sourcePushes | sourceRetries | sourceCompletes
      | engineEnters | engineStops
  | engineIdles | engineDrained | engineReadsPill | engineEvaluates | engineDispatches | engineTurns
  | engineFinishes | dispatcherStarts | dispatcherIdles | dispatcherReturns | dispatcherTakes
  | dispatcherDelivers => exact (List.append_nil _).symm

/-- The ring does not grow beyond its capacity. -/
theorem ring_fits_of_workerStep (taken : threads.workerStep action = some next)
    (fits : threads.ring.length ≤ threads.capacity) : next.ring.length ≤ next.capacity := by
  cases move_of_workerStep taken with
  | sourcePushes signal rest moved here room =>
      change (threads.ring ++ [signal]).length ≤ threads.capacity
      rw [List.length_append, List.length_singleton]
      exact room
  | engineReadsPill signal rest here front | engineEvaluates signal rest here front =>
      rw [front, List.length_cons] at fits
      exact Nat.le_of_succ_le fits
  | sourceEnters | sourceReturns | sourcePolls | sourceRetries | sourceCompletes
      | engineEnters | engineStops
  | engineIdles | engineDrained | engineDispatches | engineTurns | engineFinishes | dispatcherStarts
  | dispatcherIdles | dispatcherReturns | dispatcherTakes | dispatcherDelivers => exact fits

/-- A source that has returned does nothing more. -/
theorem source_stays_returned (taken : threads.workerStep action = some next)
    (returned : threads.sourceAt = .returned) :
    next.sourceAt = .returned ∧ next.eventSource = threads.eventSource ∧
      (next.ring = threads.ring ∨ Exists fun signal => threads.ring = signal :: next.ring) := by
  cases move_of_workerStep taken with
  | sourceEnters here | sourceReturns here | sourcePolls _ here | sourcePushes _ _ _ here
      | sourceCompletes _ here =>
      rw [returned] at here
      cases here
  | engineReadsPill signal rest here front pill => exact ⟨returned, rfl, Or.inr ⟨signal, front⟩⟩
  | engineEvaluates signal rest here front ordinary => exact ⟨returned, rfl, Or.inr ⟨signal, front⟩⟩
  | sourceRetries | engineEnters | engineStops | engineIdles | engineDrained
      | engineDispatches | engineTurns
  | engineFinishes | dispatcherStarts | dispatcherIdles | dispatcherReturns | dispatcherTakes
  | dispatcherDelivers => exact ⟨returned, rfl, Or.inl rfl⟩

theorem engine_stays_returned (taken : threads.workerStep action = some next)
    (returned : threads.engineAt = .returned) : next.engineAt = .returned := by
  cases move_of_workerStep taken with
  | engineEnters here | engineStops here | engineIdles here | engineDrained here
      | engineReadsPill _ _ here
  | engineEvaluates _ _ here | engineDispatches _ _ here | engineTurns here =>
      rw [returned] at here
      cases here
  | engineFinishes => rfl
  | sourceEnters | sourceReturns | sourcePolls | sourcePushes | sourceRetries | sourceCompletes
      | dispatcherStarts
  | dispatcherIdles | dispatcherReturns | dispatcherTakes | dispatcherDelivers => exact returned

theorem dispatcher_stays_returned (taken : threads.workerStep action = some next)
    (returned : threads.dispatcherAt = .returned) : next.dispatcherAt = .returned := by
  cases move_of_workerStep taken with
  | dispatcherStarts here | dispatcherTakes _ _ here | dispatcherDelivers _ _ _ here =>
      rw [returned] at here
      cases here
  | dispatcherReturns => rfl
  | sourceEnters | sourceReturns | sourcePolls | sourcePushes | sourceRetries
      | sourceCompletes | engineEnters
  | engineStops | engineIdles | engineDrained | engineReadsPill | engineEvaluates
      | engineDispatches | engineTurns
  | engineFinishes | dispatcherIdles => exact returned

/-- A source that is still told to run returns only at the end of its range. -/
theorem exhausted_of_returns (taken : threads.workerStep action = some next)
    (running : threads.sourceRunning = true) (returns : next.sourceAt = .returned) :
    next.eventSource.isExhausted = true ∨ threads.sourceAt = .returned := by
  cases move_of_workerStep taken with
  | sourceReturns here done =>
      rcases done with stopped | exhausted
      · rw [running] at stopped
        cases stopped
      · exact Or.inl exhausted
  | sourceEnters | sourcePolls | sourcePushes | sourceCompletes => cases returns
  | sourceRetries | engineEnters | engineStops | engineIdles | engineDrained | engineReadsPill
      | engineEvaluates
  | engineDispatches | engineTurns | engineFinishes | dispatcherStarts | dispatcherIdles
      | dispatcherReturns
  | dispatcherTakes | dispatcherDelivers => exact Or.inr returns

end Frame

end Threads

end Pipeline
end RiskSentinel
