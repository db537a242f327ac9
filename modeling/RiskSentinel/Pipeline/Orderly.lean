import RiskSentinel.Pipeline.Sequential

namespace RiskSentinel
namespace Pipeline

open Foundation Events Risk

/-!
# Stopping the threads in order

Both programs stop the pipeline by the same means: a stop command in the ring,
which the engine answers by leaving its loop once the ring is empty, and flags
for the engine and the dispatcher.  As long as no deadline expires, the engine
is stopped only after it has finished, and the dispatcher only after the
engine has.  The invariant of this module says what follows for the threads,
in terms of how far the main thread has come.
-/

namespace Threads

/-- The engine is behind its loop. -/
def EngineLeft (threads : Threads) : Prop :=
  threads.engineAt = .leaving ∨ threads.engineAt = .returned

/-- The stop commands in the ring. -/
def pillsInRing (threads : Threads) : Nat :=
  threads.ring.countP Signal.isPoisonPill

/-- The threads, given whether the stop command has been sent and whether
the engine and the dispatcher have been told to stop. -/
structure Orderly (pillSent engineStopped dispatcherStopped : Bool) (threads : Threads) : Prop where
  pills : threads.pillsInRing + threads.drainMode.toNat = pillSent.toNat
  engineFlag : threads.engineRunning = !engineStopped
  leavesDrained : threads.EngineLeft -> threads.drainMode = true
  stoppedLate : engineStopped = true -> threads.engineAt = .returned
  finishes : threads.finished = true ↔ threads.engineAt = .returned
  dispatcherFlag : threads.dispatcherRunning = false ->
    threads.dispatcherAt = .notStarted ∨ dispatcherStopped = true
  dispatcherLate : dispatcherStopped = true -> threads.engineAt = .returned
  dispatcherDone : threads.dispatcherAt = .returned -> dispatcherStopped = true ∧ threads.queue = []

variable {pillSent engineStopped dispatcherStopped : Bool}

theorem start_orderly (capacity : Nat) (source : EventSource) (engine : RiskEngine)
    (dispatcher : AlertDispatcher) :
    (start capacity source engine dispatcher).Orderly false false false where
  pills := rfl
  engineFlag := rfl
  leavesDrained := fun left => by rcases left with impossible | impossible <;> cases impossible
  stoppedLate := fun impossible => by cases impossible
  finishes := ⟨fun impossible => (by cases impossible), fun impossible => by cases impossible⟩
  dispatcherFlag := fun _ => Or.inl rfl
  dispatcherLate := fun impossible => by cases impossible
  dispatcherDone := fun impossible => by cases impossible

section Moves

variable {threads next : Threads}

/-- An engine that has not returned has not been told to stop, and neither
has the dispatcher. -/
theorem Orderly.not_stopped (orderly : threads.Orderly pillSent engineStopped dispatcherStopped)
    (busy : threads.engineAt ≠ .returned) : engineStopped = false ∧ dispatcherStopped = false :=
  ⟨Bool.eq_false_iff.mpr fun stopped => busy (orderly.stoppedLate stopped),
    Bool.eq_false_iff.mpr fun stopped => busy (orderly.dispatcherLate stopped)⟩

/-- The engine moves within its loop, or leaves it in drain mode. -/
private theorem Orderly.atEngine
    (orderly : threads.Orderly pillSent engineStopped dispatcherStopped)
    (busy : threads.engineAt ≠ .returned) (place : EngineAt) (running : place ≠ .returned)
    (drained : place = .leaving -> threads.drainMode = true) :
    { threads with engineAt := place }.Orderly pillSent engineStopped dispatcherStopped := by
  have flags := orderly.not_stopped busy
  have unfinished : threads.finished ≠ true := fun finished => busy (orderly.finishes.mp finished)
  exact { orderly with
    leavesDrained := fun left => left.elim drained fun impossible => absurd impossible running
    stoppedLate := fun stopped => absurd stopped (by rw [flags.1]; decide)
    finishes := ⟨fun finished => absurd finished unfinished,
      fun impossible => absurd impossible running⟩
    dispatcherLate := fun stopped => absurd stopped (by rw [flags.2]; decide) }

private theorem countP_front {signal : Signal} {rest : List Signal}
    (front : threads.ring = signal :: rest) :
    threads.pillsInRing = rest.countP Signal.isPoisonPill + signal.isPoisonPill.toNat := by
  rw [pillsInRing, front, List.countP_cons]
  cases signal.isPoisonPill <;> rfl

/-- Every move of a thread keeps the order. -/
theorem Orderly.workerStep {action : WorkerAction}
    (orderly : threads.Orderly pillSent engineStopped dispatcherStopped)
    (ordinary : forall signal, signal ∈ threads.pending -> signal.isPoisonPill = false)
    (taken : threads.workerStep action = some next) :
    next.Orderly pillSent engineStopped dispatcherStopped := by
  cases move_of_workerStep taken with
  | sourceEnters | sourceReturns | sourcePolls | sourceCompletes => exact { orderly with }
  | sourcePushes signal rest moved here room =>
      have noPill : signal.isPoisonPill = false := ordinary signal (by simp [pending, here])
      exact { orderly with
        pills := by
          have pills := orderly.pills
          simp only [pillsInRing] at pills ⊢
          simpa [noPill] using pills }
  | sourceRetries => exact orderly
  | engineEnters here running =>
      exact orderly.atEngine (by simp [here]) _ (by decide) (fun impossible => by cases impossible)
  | engineStops here stopped =>
      have flags := orderly.not_stopped (by simp [here])
      have running := orderly.engineFlag
      rw [stopped, flags.1] at running
      cases running
  | engineIdles here empty serving =>
      exact orderly.atEngine (by simp [here]) _ (by decide) (fun impossible => by cases impossible)
  | engineDrained here empty draining =>
      exact orderly.atEngine (by simp [here]) _ (by decide) (fun _ => draining)
  | engineReadsPill signal rest here front pill =>
      have moved := orderly.atEngine (by simp [here]) .loopHead (by decide)
        (fun impossible => by cases impossible)
      have pills := orderly.pills
      rw [countP_front front, pill] at pills
      exact { moved with
        pills := by
          have bound := Bool.toNat_le pillSent
          change List.countP Signal.isPoisonPill rest + 1 = pillSent.toNat
          simp only [Bool.toNat_true] at pills
          omega
        leavesDrained := fun _ => rfl }
  | engineEvaluates signal rest here front noPill =>
      have moved := orderly.atEngine (by simp [here])
        (.dispatching (threads.riskEngine.processSignal signal).2)
        (fun impossible => by cases impossible) (fun impossible => by cases impossible)
      have pills := orderly.pills
      rw [countP_front front, noPill] at pills
      exact { moved with pills := pills }
  | engineDispatches alert rest here =>
      have flags := orderly.not_stopped (by simp [here])
      have moved := orderly.atEngine (by simp [here]) (.dispatching rest)
        (fun impossible => by cases impossible) (fun impossible => by cases impossible)
      exact { moved with
        dispatcherDone := fun returned => by
          have stopped := (orderly.dispatcherDone returned).1
          rw [flags.2] at stopped
          cases stopped }
  | engineTurns here =>
      exact orderly.atEngine (by simp [here]) _ (by decide) (fun impossible => by cases impossible)
  | engineFinishes here =>
      exact { orderly with
        leavesDrained := fun _ => orderly.leavesDrained (Or.inl here)
        stoppedLate := fun _ => rfl
        finishes := ⟨fun _ => rfl, fun _ => rfl⟩
        dispatcherLate := fun _ => rfl }
  | dispatcherStarts here =>
      exact { orderly with
        dispatcherFlag := fun impossible => by cases impossible
        dispatcherDone := fun impossible => by cases impossible }
  | dispatcherIdles => exact orderly
  | dispatcherReturns here empty stopped =>
      have told : dispatcherStopped = true := by
        rcases orderly.dispatcherFlag stopped with notStarted | told
        · rw [here] at notStarted
          cases notStarted
        · exact told
      exact { orderly with
        dispatcherFlag := fun _ => Or.inr told
        dispatcherDone := fun _ => ⟨told, empty⟩ }
  | dispatcherTakes alert rest here front =>
      exact { orderly with
        dispatcherFlag := fun stopped =>
          (orderly.dispatcherFlag stopped).imp_left fun notStarted => by
          rw [here] at notStarted
          cases notStarted
        dispatcherDone := fun impossible => by cases impossible }
  | dispatcherDelivers nowMs outcome alert here =>
      exact { orderly with
        dispatcherFlag := fun stopped =>
          (orderly.dispatcherFlag stopped).imp_left fun notStarted => by
          rw [here] at notStarted
          cases notStarted
        dispatcherDone := fun impossible => by cases impossible }

/-- Behind its loop the engine takes nothing from the ring, and it stays
there.  What the source has left to push goes into the ring. -/
theorem engineLeft_of_workerStep {action : WorkerAction}
    (taken : threads.workerStep action = some next) (left : threads.EngineLeft) :
    next.EngineLeft ∧
      ((next.ring = threads.ring ∧ next.pending = threads.pending) ∨
        (Exists fun env => action = .sourcePoll env ∧ threads.pending = [] ∧
          next.ring = threads.ring ∧
          next.pending = (threads.eventSource.pollOnce env).pushed) ∨
        (threads.ring.length < threads.capacity ∧
          Exists fun signal => threads.pending = signal :: next.pending ∧
          next.ring = threads.ring ++ [signal])) := by
  have away : forall {place : EngineAt}, threads.engineAt = place -> place ≠ .leaving ->
      place ≠ .returned -> False := by
    intro place here notLeaving notReturned
    rcases left with leaving | returned
    · exact notLeaving (here.symm.trans leaving)
    · exact notReturned (here.symm.trans returned)
  cases move_of_workerStep taken with
  | sourceEnters here | sourceReturns here | sourceCompletes _ here =>
      exact ⟨left, Or.inl ⟨rfl, by simp [pending, here]⟩⟩
  | sourcePolls env here =>
      exact ⟨left, Or.inr (Or.inl ⟨env, rfl, by simp [pending, here], rfl, rfl⟩)⟩
  | sourcePushes signal rest moved here room =>
      exact ⟨left, Or.inr (Or.inr ⟨room, signal, by simp [pending, here], rfl⟩)⟩
  | engineEnters here | engineStops here | engineIdles here | engineDrained here
      | engineReadsPill _ _ here
  | engineEvaluates _ _ here | engineDispatches _ _ here | engineTurns here =>
      exact (away here (fun impossible => by cases impossible)
        (fun impossible => by cases impossible)).elim
  | engineFinishes here => exact ⟨Or.inr rfl, Or.inl ⟨rfl, rfl⟩⟩
  | sourceRetries | dispatcherStarts | dispatcherIdles | dispatcherReturns | dispatcherTakes
      | dispatcherDelivers =>
      exact ⟨left, Or.inl ⟨rfl, rfl⟩⟩

/-- The engine leaves its loop because it was told to, or because it found
the ring empty in drain mode. -/
theorem leaves_of_workerStep {action : WorkerAction} (taken : threads.workerStep action = some next)
    (inside : ¬ threads.EngineLeft) (left : next.EngineLeft) :
    next.ring = threads.ring ∧ next.pending = threads.pending ∧
      ((action = .engineCheck ∧ threads.engineAt = .loopHead ∧ threads.engineRunning = false) ∨
        (action = .engineRead ∧ threads.ring = [] ∧ threads.drainMode = true)) := by
  have elsewhere : forall {place : EngineAt}, next.engineAt = place -> place ≠ .leaving ->
      place ≠ .returned -> False := by
    intro place here notLeaving notReturned
    rcases left with leaving | returned
    · exact notLeaving (here.symm.trans leaving)
    · exact notReturned (here.symm.trans returned)
  cases move_of_workerStep taken with
  | engineStops here stopped => exact ⟨rfl, rfl, Or.inl ⟨rfl, here, stopped⟩⟩
  | engineDrained here empty draining => exact ⟨rfl, rfl, Or.inr ⟨rfl, empty, draining⟩⟩
  | engineFinishes here => exact absurd (Or.inl here) inside
  | engineEnters | engineIdles | engineReadsPill | engineEvaluates | engineDispatches
      | engineTurns =>
      exact (elsewhere rfl (fun impossible => by cases impossible)
        (fun impossible => by cases impossible)).elim
  | sourceEnters | sourceReturns | sourcePolls | sourcePushes | sourceRetries | sourceCompletes
      | dispatcherStarts
  | dispatcherIdles | dispatcherReturns | dispatcherTakes | dispatcherDelivers =>
      exact absurd left inside

/-! ## Moves of the main thread -/

theorem Orderly.tryPushPill (orderly : threads.Orderly false engineStopped dispatcherStopped)
    (pushed : threads.tryPushPill = some next) :
    next.Orderly true engineStopped dispatcherStopped := by
  rw [(tryPushPill_eq_some pushed).2]
  have pill : poisonPill.isPoisonPill = true := rfl
  have pills := orderly.pills
  exact { orderly with
    pills := by
      simp only [pillsInRing] at pills ⊢
      simp only [List.countP_append, List.countP_singleton, pill, if_true]
      simp only [Bool.toNat_true, Bool.toNat_false] at pills ⊢
      omega }

theorem Orderly.stopSource (orderly : threads.Orderly pillSent engineStopped dispatcherStopped) :
    threads.stopSource.Orderly pillSent engineStopped dispatcherStopped :=
  { orderly with }

theorem Orderly.stopEngine (orderly : threads.Orderly pillSent engineStopped dispatcherStopped)
    (returned : threads.engineAt = .returned) :
    threads.stopEngine.Orderly pillSent true dispatcherStopped :=
  { orderly with
    engineFlag := rfl
    stoppedLate := fun _ => returned }

theorem Orderly.stopDispatcher (orderly : threads.Orderly pillSent engineStopped dispatcherStopped)
    (returned : threads.engineAt = .returned) :
    threads.stopDispatcher.Orderly pillSent engineStopped true :=
  { orderly with
    dispatcherFlag := fun _ => Or.inr rfl
    dispatcherLate := fun _ => returned
    dispatcherDone := fun done => ⟨rfl, (orderly.dispatcherDone done).2⟩ }

/-! ## When the dispatcher has returned -/

/-- Once the dispatcher has returned, no alert is left anywhere. -/
theorem alerts_delivered_of_returned {source : EventSource} {engine : RiskEngine}
    {dispatcher : AlertDispatcher} (consistent : threads.Consistent source engine dispatcher)
    (orderly : threads.Orderly pillSent engineStopped dispatcherStopped)
    (returned : threads.dispatcherAt = .returned) :
    threads.queue = [] ∧
    threads.history.dispatched = threads.history.deliveries.map Delivery.alert ∧
      (engine.processAll threads.history.evaluated).2 = threads.history.dispatched := by
  have done := orderly.dispatcherDone returned
  have engineReturned := orderly.dispatcherLate done.1
  have taken := consistent.taken
  have dispatched := consistent.dispatched
  rw [held, returned, done.2, List.append_nil, List.append_nil] at taken
  rw [undispatched, engineReturned, List.append_nil] at dispatched
  exact ⟨done.2, taken, dispatched⟩

end Moves

end Threads

end Pipeline
end RiskSentinel
