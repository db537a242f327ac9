import RiskSentinel.Pipeline.Orderly

namespace RiskSentinel
namespace Pipeline

open Foundation Events Risk

/-!
# What a thread can do alone

A step of one thread waits for the others only where it needs room in the ring
or something to read.  So from any state the engine can finish its turn, it
can return once it has been told to stop, and so can the dispatcher.  Both
programs end by these steps.
-/

namespace Threads

variable {threads : Threads}

/-! ## The engine -/

/-- What the steps of the engine leave alone. -/
structure EngineMoved (threads final : Threads) : Prop where
  capacity : final.capacity = threads.capacity
  eventSource : final.eventSource = threads.eventSource
  sourceAt : final.sourceAt = threads.sourceAt
  engineRunning : final.engineRunning = threads.engineRunning
  dispatcherAt : final.dispatcherAt = threads.dispatcherAt
  dispatcherRunning : final.dispatcherRunning = threads.dispatcherRunning

theorem EngineMoved.refl (threads : Threads) : threads.EngineMoved threads :=
  ⟨rfl, rfl, rfl, rfl, rfl, rfl⟩

theorem EngineMoved.trans {middle final : Threads} (first : threads.EngineMoved middle)
    (second : middle.EngineMoved final) : threads.EngineMoved final where
  capacity := second.capacity.trans first.capacity
  eventSource := second.eventSource.trans first.eventSource
  sourceAt := second.sourceAt.trans first.sourceAt
  engineRunning := second.engineRunning.trans first.engineRunning
  dispatcherAt := second.dispatcherAt.trans first.dispatcherAt
  dispatcherRunning := second.dispatcherRunning.trans first.dispatcherRunning

/-- The engine is at the head of its loop, with a ring. -/
def EngineTurned (threads : Threads) (ring : List Signal) (final : Threads) : Prop :=
  threads.EngineMoved final ∧ final.ring = ring ∧ final.engineAt = .loopHead

theorem turns_after {middle : Threads} {action : WorkerAction} {ring : List Signal}
    (taken : threads.workerStep action = some middle) (moved : threads.EngineMoved middle)
    (turns : CanReach workerStep (middle.EngineTurned ring) middle) :
    CanReach workerStep (threads.EngineTurned ring) threads :=
  .after taken (turns.imp fun _ turned => ⟨moved.trans turned.1, turned.2⟩)

/-- It dispatches the alerts of its signal. -/
theorem engine_dispatches {alerts : List Alert} (here : threads.engineAt = .dispatching alerts) :
    CanReach workerStep (threads.EngineTurned threads.ring) threads := by
  induction alerts generalizing threads with
  | nil =>
      have taken : threads.workerStep .engineDispatch =
          some { threads with engineAt := .loopHead } := by
        simp [workerStep, engineDispatch, here]
      exact .after taken (.here ⟨⟨rfl, rfl, rfl, rfl, rfl, rfl⟩, rfl, rfl⟩)
  | cons alert rest inductionHypothesis =>
      let dispatched : Threads := { threads with
        queue := threads.queue ++ [alert]
        engineAt := .dispatching rest
        history := { threads.history with dispatched := threads.history.dispatched ++ [alert] } }
      have taken : threads.workerStep .engineDispatch = some dispatched := by
        simp [workerStep, engineDispatch, here, dispatched]
      have others : CanReach workerStep (dispatched.EngineTurned dispatched.ring) dispatched :=
        inductionHypothesis rfl
      exact turns_after taken ⟨rfl, rfl, rfl, rfl, rfl, rfl⟩ others

/-- It takes the front of the ring, whatever that is. -/
theorem engine_reads {signal : Signal} {rest : List Signal} (here : threads.engineAt = .reading)
    (front : threads.ring = signal :: rest) :
    CanReach workerStep (threads.EngineTurned rest) threads := by
  cases pill : signal.isPoisonPill with
  | true =>
      have taken : threads.workerStep .engineRead =
          some { threads with ring := rest, drainMode := true, engineAt := .loopHead } := by
        simp [workerStep, engineRead, here, front, pill]
      exact .after taken (.here ⟨⟨rfl, rfl, rfl, rfl, rfl, rfl⟩, rfl, rfl⟩)
  | false =>
      let evaluated : Threads := { threads with
        ring := rest
        riskEngine := (threads.riskEngine.processSignal signal).1
        engineAt := .dispatching (threads.riskEngine.processSignal signal).2
        history := { threads.history with evaluated := threads.history.evaluated ++ [signal] } }
      have taken : threads.workerStep .engineRead = some evaluated := by
        simp [workerStep, engineRead, here, front, pill, evaluated]
      have others : CanReach workerStep (evaluated.EngineTurned evaluated.ring) evaluated :=
        engine_dispatches rfl
      exact turns_after taken ⟨rfl, rfl, rfl, rfl, rfl, rfl⟩ others

/-- At the head of its loop it takes the front in its next turn. -/
theorem engine_turns {signal : Signal} {rest : List Signal} (here : threads.engineAt = .loopHead)
    (running : threads.engineRunning = true) (front : threads.ring = signal :: rest) :
    CanReach workerStep (threads.EngineTurned rest) threads := by
  let reading : Threads := { threads with engineAt := .reading }
  have taken : threads.workerStep .engineCheck = some reading := by
    simp [workerStep, engineCheck, here, running, reading]
  have reads : CanReach workerStep (reading.EngineTurned rest) reading := engine_reads rfl front
  exact turns_after taken ⟨rfl, rfl, rfl, rfl, rfl, rfl⟩ reads

/-- The engine has returned. -/
def EngineDone (threads final : Threads) : Prop :=
  threads.EngineMoved final ∧ final.engineAt = .returned

private theorem done_after {middle : Threads} {action : WorkerAction}
    (taken : threads.workerStep action = some middle) (moved : threads.EngineMoved middle)
    (ends : CanReach workerStep middle.EngineDone middle) :
    CanReach workerStep threads.EngineDone threads :=
  .after taken (ends.imp fun _ done => ⟨moved.trans done.1, done.2⟩)

private theorem engine_finishes (here : threads.engineAt = .leaving) :
    CanReach workerStep threads.EngineDone threads := by
  have taken : threads.workerStep .engineFinish =
      some { threads with finished := true, engineAt := .returned } := by
    simp [workerStep, engineFinish, here]
  exact .after taken (.here ⟨⟨rfl, rfl, rfl, rfl, rfl, rfl⟩, rfl⟩)

private theorem engine_leaves (stopped : threads.engineRunning = false)
    (here : threads.engineAt = .loopHead) : CanReach workerStep threads.EngineDone threads := by
  let left : Threads := { threads with engineAt := .leaving }
  have taken : threads.workerStep .engineCheck = some left := by
    simp [workerStep, engineCheck, here, stopped, left]
  exact done_after taken ⟨rfl, rfl, rfl, rfl, rfl, rfl⟩ (engine_finishes rfl)

/-- From the head of its loop the engine leaves when it has been told to. -/
private theorem engine_leaves_turned {ring : List Signal} (stopped : threads.engineRunning = false)
    (turns : CanReach workerStep (threads.EngineTurned ring) threads) :
    CanReach workerStep threads.EngineDone threads := by
  refine turns.trans fun middle turned => ?_
  refine CanReach.imp ?_ (engine_leaves (turned.1.engineRunning.trans stopped) turned.2.2)
  intro final done
  exact ⟨turned.1.trans done.1, done.2⟩

/-- Once it has been told to stop, the engine returns. -/
theorem engine_returns (stopped : threads.engineRunning = false) :
    CanReach workerStep threads.EngineDone threads := by
  cases here : threads.engineAt with
  | returned => exact .here ⟨.refl threads, here⟩
  | leaving => exact engine_finishes here
  | loopHead => exact engine_leaves stopped here
  | dispatching alerts => exact engine_leaves_turned stopped (engine_dispatches here)
  | reading =>
      cases front : threads.ring with
      | cons signal rest => exact engine_leaves_turned stopped (engine_reads here front)
      | nil =>
          cases draining : threads.drainMode with
          | true =>
              let left : Threads := { threads with engineAt := .leaving }
              have taken : threads.workerStep .engineRead = some left := by
                simp [workerStep, engineRead, here, front, draining, left]
              exact done_after taken ⟨rfl, rfl, rfl, rfl, rfl, rfl⟩ (engine_finishes rfl)
          | false =>
              let turned : Threads := { threads with engineAt := .loopHead }
              have taken : threads.workerStep .engineRead = some turned := by
                simp [workerStep, engineRead, here, front, draining, turned]
              exact done_after taken ⟨rfl, rfl, rfl, rfl, rfl, rfl⟩ (engine_leaves stopped rfl)

/-! ## The source, with the engine where it needs room -/

/-- The signals that the engine still takes from the ring once it has been told
to stop: one, when it is between the test of the flag and the reading. -/
def lastReads (threads : Threads) : Nat :=
  if threads.engineAt = .reading then 1 else 0

/-- The source holds more than the ring will ever take. -/
structure Cramped (threads : Threads) : Prop where
  leaves : threads.engineRunning = false ∨ threads.EngineLeft
  tooMuch : threads.capacity + threads.lastReads < threads.ring.length + threads.pending.length

/-- An engine at a place inside its loop. -/
theorem inside_of_place {place : EngineAt} (here : threads.engineAt = place)
    (stays : place ≠ .leaving) (busy : place ≠ .returned) : ¬ threads.EngineLeft := by
  rintro (leaving | returned)
  · exact stays (here.symm.trans leaving)
  · exact busy (here.symm.trans returned)

/-- What a thread does leaves the source with too much. -/
theorem Cramped.workerStep {action : WorkerAction} {next : Threads} (cramped : threads.Cramped)
    (ringFits : threads.ring.length ≤ threads.capacity)
    (taken : threads.workerStep action = some next) :
    next.Cramped := by
  have leaves := cramped.leaves
  have tooMuch := cramped.tooMuch
  rw [lastReads] at tooMuch
  cases move_of_workerStep taken with
  | sourceEnters here | sourceReturns here | sourcePolls _ here | sourceCompletes _ here =>
      rw [Threads.pending, here, List.length_nil] at tooMuch
      omega
  | sourcePushes signal rest moved here room =>
      refine ⟨leaves, ?_⟩
      rw [Threads.pending, here, List.length_cons] at tooMuch
      change threads.capacity + (if threads.engineAt = .reading then 1 else 0) <
        (threads.ring ++ [signal]).length + rest.length
      rw [List.length_append, List.length_singleton]
      omega
  | engineEnters here running =>
      have stopped := leaves.resolve_right (inside_of_place here (by decide) (by decide))
      rw [running] at stopped
      cases stopped
  | engineStops here stopped =>
      rw [if_neg (by simp [here])] at tooMuch
      exact ⟨Or.inl stopped, tooMuch⟩
  | engineIdles here empty serving =>
      rw [if_pos here] at tooMuch
      exact ⟨Or.inl (leaves.resolve_right (inside_of_place here (by decide) (by decide))),
        Nat.lt_of_succ_lt tooMuch⟩
  | engineDrained here empty draining =>
      rw [if_pos here] at tooMuch
      exact ⟨Or.inr (Or.inl rfl), Nat.lt_of_succ_lt tooMuch⟩
  | engineReadsPill signal rest here front pill | engineEvaluates signal rest here front ordinary =>
      rw [if_pos here, front, List.length_cons] at tooMuch
      refine ⟨Or.inl (leaves.resolve_right (inside_of_place here (by decide) (by decide))), ?_⟩
      change threads.capacity + 0 < rest.length + threads.pending.length
      omega
  | engineDispatches alert rest here =>
      rw [if_neg (by simp [here])] at tooMuch
      exact ⟨Or.inl (leaves.resolve_right
        (inside_of_place here (by intro impossible; cases impossible)
        (by intro impossible; cases impossible))), tooMuch⟩
  | engineTurns here =>
      rw [if_neg (by simp [here])] at tooMuch
      exact ⟨Or.inl (leaves.resolve_right (inside_of_place here (by decide) (by decide))), tooMuch⟩
  | engineFinishes here =>
      rw [if_neg (by simp [here])] at tooMuch
      exact ⟨Or.inr (Or.inr rfl), tooMuch⟩
  | sourceRetries | dispatcherStarts | dispatcherIdles | dispatcherReturns | dispatcherTakes
      | dispatcherDelivers =>
      exact ⟨leaves, tooMuch⟩

/-- There is room for one signal, and for the rest of a batch if the engine
takes no more. -/
def Fed (threads : Threads) (batch : Nat) : Prop :=
  threads.ring.length < threads.capacity ∧
    (threads.engineRunning = false ∨ threads.EngineLeft ->
      threads.ring.length + batch ≤ threads.capacity + threads.lastReads)

/-- Behind the reading one place is free. -/
private theorem fed_of_turned {final : Threads} {others : List Signal} {batch : Nat}
    (room : others.length < threads.capacity)
    (last : threads.engineRunning = false -> others.length + batch ≤ threads.capacity)
    (turned : threads.EngineTurned others final) : final.Fed batch := by
  constructor
  · rw [turned.2.1, turned.1.capacity]
    exact room
  · intro leaves
    have stopped := leaves.resolve_right (inside_of_place turned.2.2 (by decide) (by decide))
    have enough := last (turned.1.engineRunning.symm.trans stopped)
    rw [turned.2.1, turned.1.capacity]
    exact Nat.le_add_right_of_le enough

/-- An engine that runs on takes a signal in its next turn. -/
private theorem room_from_head {front : Signal} {others : List Signal} {batch : Nat}
    (here : threads.engineAt = .loopHead) (running : threads.engineRunning = true)
    (ring : threads.ring = front :: others) (room : others.length < threads.capacity) :
    CanReach workerStep (fun final => threads.EngineMoved final ∧ final.Fed batch) threads := by
  refine (engine_turns here running ring).imp fun final turned =>
    ⟨turned.1, fed_of_turned room (fun stopped => ?_) turned⟩
  rw [running] at stopped
  cases stopped

/-- A full ring gets room, unless the source is cramped. -/
private theorem makes_room {signal : Signal} {rest : List Signal} (positive : 0 < threads.capacity)
    (ringFits : threads.ring.length ≤ threads.capacity) (free : ¬ threads.Cramped)
    (batch : threads.pending = signal :: rest) :
    CanReach workerStep (fun final => threads.EngineMoved final ∧
      final.Fed (rest.length + 1)) threads := by
  have fits : threads.engineRunning = false ∨ threads.EngineLeft ->
      threads.ring.length + (rest.length + 1) ≤ threads.capacity + threads.lastReads := by
    intro leaves
    by_contra more
    exact free ⟨leaves, by rw [batch, List.length_cons]; omega⟩
  by_cases early : threads.ring.length < threads.capacity
  · exact .here ⟨.refl threads, early, fits⟩
  · rcases List.exists_cons_of_length_pos (by omega : 0 < threads.ring.length)
      with ⟨front, others, ring⟩
    rw [ring, List.length_cons] at fits early ringFits
    have room : others.length < threads.capacity := by omega
    -- Only an engine that is at the reading may have been told to stop.
    have running : threads.engineAt ≠ .reading -> ¬ threads.EngineLeft ∧
        threads.engineRunning = true := by
      intro elsewhere
      rw [lastReads, if_neg elsewhere] at fits
      refine ⟨fun left => ?_, ?_⟩
      · have enough := fits (Or.inr left)
        omega
      · cases flag : threads.engineRunning with
        | true => rfl
        | false =>
            have enough := fits (Or.inl flag)
            omega
    cases here : threads.engineAt with
    | leaving => exact absurd (Or.inl here) (running (by rw [here]; decide)).1
    | returned => exact absurd (Or.inr here) (running (by rw [here]; decide)).1
    | loopHead => exact room_from_head here (running (by rw [here]; decide)).2 ring room
    | dispatching alerts =>
        have goesOn := (running (by rw [here]; intro impossible; cases impossible)).2
        refine (engine_dispatches here).trans fun middle turned => ?_
        refine (room_from_head turned.2.2 (turned.1.engineRunning.trans goesOn)
          (turned.2.1.trans ring)
          (by rw [turned.1.capacity]; exact room)).imp fun final fed =>
            ⟨turned.1.trans fed.1, fed.2⟩
    | reading =>
        refine (engine_reads here ring).imp fun final turned =>
          ⟨turned.1, fed_of_turned room (fun stopped => ?_) turned⟩
        have enough := fits (Or.inl stopped)
        rw [lastReads, if_pos here] at enough
        omega

/-- The source has pushed its batch and stands at the head of its loop. -/
structure BatchPushed (threads : Threads) (next : EventSource) (final : Threads) : Prop where
  sourceAt : final.sourceAt = .loopHead
  eventSource : final.eventSource = next
  dispatcherAt : final.dispatcherAt = threads.dispatcherAt
  dispatcherRunning : final.dispatcherRunning = threads.dispatcherRunning

/-- A source that is not cramped can push its batch. -/
theorem batch_pushed {batch : List Signal} {next : EventSource}
    (here : threads.sourceAt = .pushing batch next) (positive : 0 < threads.capacity)
    (ringFits : threads.ring.length ≤ threads.capacity) (free : ¬ threads.Cramped) :
    CanReach workerStep (threads.BatchPushed next) threads := by
  induction batch generalizing threads with
  | nil =>
      have taken : threads.workerStep .sourcePush =
          some { threads with eventSource := next, sourceAt := .loopHead } := by
        simp [workerStep, sourcePush, here]
      exact .after taken (.here ⟨rfl, rfl, rfl, rfl⟩)
  | cons signal rest inductionHypothesis =>
      have pending : threads.pending = signal :: rest := by rw [Threads.pending, here]
      have fed := (makes_room positive ringFits free pending).with_invariant
        (fun before _ after (fits : before.ring.length ≤ before.capacity) taken =>
          ring_fits_of_workerStep taken fits) ringFits
      refine fed.trans ?_
      rintro middle ⟨stillFits, moved, room, fits⟩
      have stands := moved.sourceAt.trans here
      let pushed : Threads := { middle with
        ring := middle.ring ++ [signal]
        sourceAt := .pushing rest next
        history := { middle.history with pushed := middle.history.pushed ++ [signal] } }
      have taken : middle.workerStep .sourcePush = some pushed := by
        simp [workerStep, sourcePush, stands, room, pushed]
      have roomy : ¬ pushed.Cramped := by
        intro cramped
        have enough := fits cramped.leaves
        have tooMuch := cramped.tooMuch
        change middle.capacity + middle.lastReads < (middle.ring ++ [signal]).length + rest.length
          at tooMuch
        rw [List.length_append, List.length_singleton] at tooMuch
        omega
      have positiveStill : 0 < pushed.capacity := by
        change 0 < middle.capacity
        rw [moved.capacity]
        exact positive
      have others := inductionHypothesis (rfl : pushed.sourceAt = .pushing rest next) positiveStill
        (ring_fits_of_workerStep taken stillFits) roomy
      exact .after taken (others.imp fun _ done => ⟨done.sourceAt, done.eventSource,
        done.dispatcherAt.trans moved.dispatcherAt,
        done.dispatcherRunning.trans moved.dispatcherRunning⟩)

/-! ## The dispatcher -/

/-- A dispatcher that has begun and knows that it has to stop. -/
def Obedient (threads : Threads) : Prop :=
  threads.dispatcherAt = .returned ∨
    (threads.dispatcherAt ≠ .notStarted ∧ threads.dispatcherRunning = false)

/-- A dispatcher that does not know that it has to stop: it has not begun, so
that it will set its flag, or the flag is set. -/
structure Forgetful (threads : Threads) : Prop where
  busy : threads.dispatcherAt ≠ .returned
  forgets : threads.dispatcherAt = .notStarted ∨ threads.dispatcherRunning = true

/-- Nothing but a stop tells it. -/
theorem Forgetful.workerStep {action : WorkerAction} {next : Threads}
    (forgetful : threads.Forgetful) (taken : threads.workerStep action = some next) :
    next.Forgetful := by
  have busy := forgetful.busy
  have forgets := forgetful.forgets
  cases move_of_workerStep taken with
  | dispatcherStarts here => exact ⟨(by intro impossible; cases impossible), Or.inr rfl⟩
  | dispatcherReturns here empty stopped =>
      rcases forgets with notStarted | running
      · rw [here] at notStarted
        cases notStarted
      · rw [running] at stopped
        cases stopped
  | dispatcherTakes _ _ here | dispatcherDelivers _ _ _ here =>
      refine ⟨(by intro impossible; cases impossible), Or.inr (forgets.resolve_left ?_)⟩
      rw [here]
      intro impossible
      cases impossible
  | sourceEnters | sourceReturns | sourcePolls | sourcePushes | sourceRetries
      | sourceCompletes | engineEnters
  | engineStops | engineIdles | engineDrained | engineReadsPill | engineEvaluates
      | engineDispatches | engineTurns
  | engineFinishes | dispatcherIdles => exact ⟨busy, forgets⟩

theorem obedient_of_not_forgetful (begun : threads.dispatcherAt ≠ .notStarted)
    (hears : ¬ threads.Forgetful) : threads.Obedient := by
  by_cases returned : threads.dispatcherAt = .returned
  · exact Or.inl returned
  · exact Or.inr ⟨begun, Bool.eq_false_iff.mpr fun running => hears ⟨returned, Or.inr running⟩⟩

/-- What the steps of the dispatcher leave alone. -/
def DispatcherDone (threads final : Threads) : Prop :=
  final.sourceAt = threads.sourceAt ∧ final.engineAt = threads.engineAt ∧
    final.dispatcherAt = .returned

private theorem dispatcher_after {middle : Threads} {action : WorkerAction}
    (taken : threads.workerStep action = some middle)
    (sourceAt : middle.sourceAt = threads.sourceAt) (engineAt : middle.engineAt = threads.engineAt)
    (ends : CanReach workerStep middle.DispatcherDone middle) :
    CanReach workerStep threads.DispatcherDone threads :=
  .after taken (ends.imp fun _ done => ⟨done.1.trans sourceAt, done.2.1.trans engineAt, done.2.2⟩)

private theorem dispatcher_delivers {alert : Alert}
    (here : threads.dispatcherAt = .delivering alert)
    (continues : forall middle : Threads, middle.dispatcherAt = .waiting ->
      middle.dispatcherRunning = threads.dispatcherRunning -> middle.queue = threads.queue ->
      CanReach workerStep middle.DispatcherDone middle) :
    CanReach workerStep threads.DispatcherDone threads := by
  let delivery : Delivery := { alert := alert, nowMs := 0, outcome := fun _ => .sent }
  let delivered : Threads := { threads with
    dispatcher := (threads.dispatcher.handle delivery).1
    dispatcherAt := .waiting
    history := { threads.history with
      deliveries := threads.history.deliveries ++ [delivery]
      records := threads.history.records ++ [(threads.dispatcher.handle delivery).2] } }
  have taken : threads.workerStep (.dispatcherDeliver 0 fun _ => .sent) = some delivered := by
    simp [workerStep, dispatcherDeliver, here, delivered, delivery]
  exact dispatcher_after taken rfl rfl (continues delivered rfl rfl rfl)

/-- The dispatcher empties its queue and returns. -/
private theorem dispatcher_empties (stopped : threads.dispatcherRunning = false)
    (here : threads.dispatcherAt = .waiting) :
    CanReach workerStep threads.DispatcherDone threads := by
  induction queue : threads.queue generalizing threads with
  | nil =>
      have taken : threads.workerStep .dispatcherTake =
          some { threads with dispatcherAt := .returned } := by
        simp [workerStep, dispatcherTake, here, queue, stopped]
      exact .after taken (.here ⟨rfl, rfl, rfl⟩)
  | cons alert rest inductionHypothesis =>
      let holding : Threads := { threads with queue := rest, dispatcherAt := .delivering alert }
      have taken : threads.workerStep .dispatcherTake = some holding := by
        simp [workerStep, dispatcherTake, here, queue, holding]
      have delivers : CanReach workerStep holding.DispatcherDone holding :=
        dispatcher_delivers rfl fun middle waiting running sameQueue =>
          inductionHypothesis (running.trans stopped) waiting sameQueue
      exact dispatcher_after taken rfl rfl delivers

theorem dispatcher_returns (obedient : threads.Obedient) :
    CanReach workerStep threads.DispatcherDone threads := by
  rcases obedient with returned | ⟨begun, stopped⟩
  · exact .here ⟨rfl, rfl, returned⟩
  · cases here : threads.dispatcherAt with
    | notStarted => exact absurd here begun
    | returned => exact .here ⟨rfl, rfl, here⟩
    | waiting => exact dispatcher_empties stopped here
    | delivering alert =>
        exact dispatcher_delivers here fun middle waiting running _ =>
          dispatcher_empties (running.trans stopped) waiting

end Threads

end Pipeline
end RiskSentinel
