import RiskSentinel.Events.HandOver
import RiskSentinel.Pipeline.Orderly

namespace RiskSentinel
namespace App

open Foundation Events Risk Pipeline

/-!
# The orderly stop of the live program

`App::stop_orderly_` clears the event source's flag and sends the stop command
at once.  The event source looks at its flag only between polls, so it can be
in the middle of a batch, or about to fetch one, when the engine reads the
stop command, finds the ring empty and leaves.  Whatever the source pushes
after that is never evaluated.

The alerts are safe, because the dispatcher is stopped after the engine has
finished.  The signals are safe exactly when the source has nothing left to
push at the moment the engine leaves, and fetches nothing afterwards.
-/

/-- Where the main thread stands.  `serving` is the wait for a stop request;
the joins of `join_threads_` follow `stop_orderly_`. -/
inductive AppAt where
  | serving
  | stopSource
  | pushPill
  | awaitEngine
  | stopEngine
  | stopDispatcher
  | joinSource
  | joinEngine
  | joinDispatcher
  | joined
deriving DecidableEq, Repr

def AppAt.pillSent : AppAt -> Bool
  | .serving | .stopSource | .pushPill => false
  | _ => true

def AppAt.engineStopped : AppAt -> Bool
  | .stopDispatcher | .joinSource | .joinEngine | .joinDispatcher | .joined => true
  | _ => false

def AppAt.dispatcherStopped : AppAt -> Bool
  | .joinSource | .joinEngine | .joinDispatcher | .joined => true
  | _ => false

/-- The event source has been joined. -/
def AppAt.sourceJoined : AppAt -> Bool
  | .joinEngine | .joinDispatcher | .joined => true
  | _ => false

structure AppState where
  threads : Threads
  main : AppAt

inductive AppAction where
  | worker (action : WorkerAction)
  | main
  | deadline

namespace AppState

def start (capacity : Nat) (source : EventSource) (engine : RiskEngine)
    (dispatcher : AlertDispatcher) : AppState where
  threads := .start capacity source engine dispatcher
  main := .serving

/-- The next step of the main thread. -/
def mainStep (state : AppState) : Option AppState :=
  match state.main with
  | .serving => some { state with main := .stopSource }
  | .stopSource => some { threads := state.threads.stopSource, main := .pushPill }
  | .pushPill =>
      match state.threads.tryPushPill with
      | some threads => some { threads := threads, main := .awaitEngine }
      | none => some state
  | .awaitEngine => if state.threads.finished
      then some { state with main := .stopEngine } else some state
  | .stopEngine => some { threads := state.threads.stopEngine, main := .stopDispatcher }
  | .stopDispatcher => some { threads := state.threads.stopDispatcher, main := .joinSource }
  | .joinSource =>
      match state.threads.sourceAt with
      | .returned => some { state with main := .joinEngine }
      | _ => none
  | .joinEngine =>
      if state.threads.engineAt = .returned
        then some { state with main := .joinDispatcher } else none
  | .joinDispatcher =>
      if state.threads.dispatcherAt = .returned then some { state with main := .joined } else none
  | .joined => none

/-- The drain timeout expires.  When the stop command could not be sent, the
wait for the engine is skipped. -/
def deadlineStep (state : AppState) : Option AppState :=
  match state.main with
  | .pushPill => some { state with main := .stopEngine }
  | .awaitEngine => some { state with main := .stopEngine }
  | _ => none

def step (state : AppState) : AppAction -> Option AppState
  | .worker action => (state.threads.workerStep action).map fun threads =>
      { state with threads := threads }
  | .main => state.mainStep
  | .deadline => state.deadlineStep

/-- Everything the main thread can do without an expired timeout. -/
inductive MainMove (state : AppState) : AppState -> Prop where
  | stopRequested (here : state.main = .serving) : MainMove state { state with main := .stopSource }
  | sourceStopped (here : state.main = .stopSource) :
      MainMove state { threads := state.threads.stopSource, main := .pushPill }
  | pillPushed (here : state.main = .pushPill) (threads : Threads)
      (pushed : state.threads.tryPushPill = some threads) :
      MainMove state { threads := threads, main := .awaitEngine }
  | waits : MainMove state state
  | engineAwaited (here : state.main = .awaitEngine) (finished : state.threads.finished = true) :
      MainMove state { state with main := .stopEngine }
  | engineStopped (here : state.main = .stopEngine) :
      MainMove state { threads := state.threads.stopEngine, main := .stopDispatcher }
  | dispatcherStopped (here : state.main = .stopDispatcher) :
      MainMove state { threads := state.threads.stopDispatcher, main := .joinSource }
  | sourceJoined (here : state.main = .joinSource) (returned : state.threads.sourceAt = .returned) :
      MainMove state { state with main := .joinEngine }
  | engineJoined (here : state.main = .joinEngine) (returned : state.threads.engineAt = .returned) :
      MainMove state { state with main := .joinDispatcher }
  | dispatcherJoined (here : state.main = .joinDispatcher)
      (returned : state.threads.dispatcherAt = .returned) :
      MainMove state { state with main := .joined }

variable {state next : AppState}

theorem move_of_mainStep (taken : state.mainStep = some next) : MainMove state next := by
  unfold mainStep at taken
  split at taken
  next here =>
    cases taken
    exact .stopRequested here
  next here =>
    cases taken
    exact .sourceStopped here
  next here =>
    split at taken
    · rename_i threads pushed
      cases taken
      exact .pillPushed here threads pushed
    · cases taken
      exact .waits
  next here =>
    split at taken
    · rename_i finished
      cases taken
      exact .engineAwaited here finished
    · cases taken
      exact .waits
  next here =>
    cases taken
    exact .engineStopped here
  next here =>
    cases taken
    exact .dispatcherStopped here
  next here =>
    split at taken
    · rename_i returned
      cases taken
      exact .sourceJoined here returned
    · cases taken
  next here =>
    split at taken
    · rename_i returned
      cases taken
      exact .engineJoined here returned
    · cases taken
  next here =>
    split at taken
    · rename_i returned
      cases taken
      exact .dispatcherJoined here returned
    · cases taken
  next => cases taken

/-- What the main thread can change of the ring and of the other threads'
places: it adds the stop command, once. -/
theorem frame_of_mainStep (taken : state.mainStep = some next) :
    next.threads.capacity = state.threads.capacity ∧
    next.threads.engineAt = state.threads.engineAt ∧
      next.threads.sourceAt = state.threads.sourceAt ∧
      (next.threads.ring = state.threads.ring ∨
        (state.main.pillSent = false ∧ state.threads.ring.length < state.threads.capacity ∧
          next.threads.ring = state.threads.ring ++ [poisonPill])) := by
  cases move_of_mainStep taken with
  | pillPushed here threads pushed =>
      rcases Threads.tryPushPill_eq_some pushed with ⟨room, rfl⟩
      exact ⟨rfl, rfl, rfl, Or.inr ⟨by rw [here]; rfl, room, rfl⟩⟩
  | stopRequested | sourceStopped | waits | engineAwaited | engineStopped
      | dispatcherStopped | sourceJoined
  | engineJoined | dispatcherJoined => exact ⟨rfl, rfl, rfl, Or.inl rfl⟩

/-! ## The order of the stop -/

section Runs

variable {source : EventSource} {engine : RiskEngine} {dispatcher : AlertDispatcher}

/-- What holds in every state that is reached without an expired timeout. -/
structure Invariant (source : EventSource) (engine : RiskEngine) (dispatcher : AlertDispatcher)
    (state : AppState) : Prop where
  consistent : state.threads.Consistent source engine dispatcher
  orderly : state.threads.Orderly state.main.pillSent state.main.engineStopped
    state.main.dispatcherStopped
  engineAwaited : state.main = .stopEngine -> state.threads.engineAt = .returned
  sourceJoined : state.main.sourceJoined = true -> state.threads.sourceAt = .returned
  dispatcherJoined : state.main = .joined -> state.threads.dispatcherAt = .returned

theorem start_invariant (capacity : Nat) :
    (start capacity source engine dispatcher).Invariant source engine dispatcher where
  consistent := Threads.start_consistent capacity
  orderly := Threads.start_orderly capacity source engine dispatcher
  engineAwaited := fun impossible => by cases impossible
  sourceJoined := fun impossible => by cases impossible
  dispatcherJoined := fun impossible => by cases impossible

private theorem Invariant.mainStep (invariant : state.Invariant source engine dispatcher)
    (taken : state.mainStep = some next) : next.Invariant source engine dispatcher := by
  have orderly := invariant.orderly
  cases move_of_mainStep taken with
  | stopRequested here =>
      rw [here] at orderly
      refine ⟨invariant.consistent, orderly, ?_, ?_, ?_⟩ <;>
        intro impossible <;> cases impossible
  | sourceStopped here =>
      rw [here] at orderly
      refine ⟨invariant.consistent.stopSource, orderly.stopSource, ?_, ?_, ?_⟩ <;>
        intro impossible <;> cases impossible
  | pillPushed here threads pushed =>
      rw [here] at orderly
      refine ⟨invariant.consistent.tryPushPill pushed, orderly.tryPushPill pushed, ?_, ?_, ?_⟩ <;>
        intro impossible <;> cases impossible
  | waits => exact invariant
  | engineAwaited here finished =>
      rw [here] at orderly
      refine ⟨invariant.consistent, orderly, fun _ => orderly.finishes.mp finished, ?_, ?_⟩ <;>
        intro impossible <;> cases impossible
  | engineStopped here =>
      rw [here] at orderly
      refine ⟨invariant.consistent.stopEngine,
          orderly.stopEngine (invariant.engineAwaited here), ?_, ?_, ?_⟩ <;>
        intro impossible <;> cases impossible
  | dispatcherStopped here =>
      rw [here] at orderly
      refine ⟨invariant.consistent.stopDispatcher,
          orderly.stopDispatcher (orderly.stoppedLate rfl), ?_, ?_, ?_⟩ <;>
        intro impossible <;> cases impossible
  | sourceJoined here returned =>
      rw [here] at orderly
      refine ⟨invariant.consistent, orderly, ?_, fun _ => returned, ?_⟩ <;>
        intro impossible <;> cases impossible
  | engineJoined here returned =>
      rw [here] at orderly
      refine ⟨invariant.consistent, orderly, ?_,
          fun _ => invariant.sourceJoined (by rw [here]; rfl), ?_⟩ <;>
        intro impossible <;> cases impossible
  | dispatcherJoined here returned =>
      rw [here] at orderly
      refine ⟨invariant.consistent, orderly, fun impossible => ?_, fun _ => ?_, fun _ => returned⟩
      · cases impossible
      · exact invariant.sourceJoined (by rw [here]; rfl)

/-- One step that is no timeout keeps the invariant. -/
theorem Invariant.step {action : AppAction} (invariant : state.Invariant source engine dispatcher)
    (inTime : action ≠ .deadline) (taken : state.step action = some next) :
    next.Invariant source engine dispatcher := by
  cases action with
  | worker action =>
      rcases Option.map_eq_some_iff.mp taken with ⟨threads, moved, rfl⟩
      exact {
        consistent := invariant.consistent.workerStep moved
        orderly := invariant.orderly.workerStep invariant.consistent.ordinary moved
        engineAwaited := fun here => Threads.engine_stays_returned moved
          (invariant.engineAwaited here)
        sourceJoined := fun here =>
          (Threads.source_stays_returned moved (invariant.sourceJoined here)).1
        dispatcherJoined := fun here => Threads.dispatcher_stays_returned moved
          (invariant.dispatcherJoined here) }
  | main => exact invariant.mainStep taken
  | deadline => exact absurd rfl inTime

/-! ## Signals that come too late -/

/-- The step does not leave the source behind: when the engine leaves its
loop, nothing of the current batch is left to push, and a poll after that
fetches nothing to push. -/
def KeepsUp (state : AppState) : AppAction -> Prop
  | .worker .engineRead => state.threads.ring = [] -> state.threads.drainMode = true ->
      state.threads.pending = []
  | .worker (.sourcePoll env) =>
      state.threads.EngineLeft -> (state.threads.eventSource.pollOnce env).pushed = []
  | _ => True

instance (state : AppState) (action : AppAction) : Decidable (state.KeepsUp action) :=
  match action with
  | .worker .engineRead =>
      inferInstanceAs (Decidable (state.threads.ring = [] -> state.threads.drainMode = true ->
        state.threads.pending = []))
  | .worker (.sourcePoll env) =>
      inferInstanceAs (Decidable
        (state.threads.engineAt = .leaving ∨ state.threads.engineAt = .returned ->
        (state.threads.eventSource.pollOnce env).pushed = []))
  | .worker .sourceCheck | .worker .sourcePush | .worker .engineCheck | .worker .engineDispatch
  | .worker .engineFinish | .worker .dispatcherStart | .worker .dispatcherTake
  | .worker (.dispatcherDeliver _ _) | .main | .deadline => isTrue trivial

/-- No signal is left for an engine that is gone. -/
def CaughtUp (state : AppState) : Prop :=
  state.threads.EngineLeft -> state.threads.ring = [] ∧ state.threads.pending = []

/-- The engine is gone and some signal is left. -/
def Behind (state : AppState) : Prop :=
  state.threads.EngineLeft ∧ (state.threads.ring ≠ [] ∨ state.threads.pending ≠ [])

/-- As long as the stop command has not been sent, the engine is inside its
loop. -/
private theorem Invariant.inside (invariant : state.Invariant source engine dispatcher)
    (early : state.main.pillSent = false) : ¬ state.threads.EngineLeft := by
  intro left
  have pills := invariant.orderly.pills
  rw [early, invariant.orderly.leavesDrained left] at pills
  change _ + 1 = 0 at pills
  omega

/-- A step that keeps up leaves the state caught up. -/
private theorem CaughtUp.step {action : AppAction}
    (invariant : state.Invariant source engine dispatcher) (caughtUp : state.CaughtUp)
    (inTime : action ≠ .deadline) (keeps : state.KeepsUp action)
    (taken : state.step action = some next) : next.CaughtUp := by
  intro left
  cases action with
  | worker action =>
      rcases Option.map_eq_some_iff.mp taken with ⟨threads, moved, rfl⟩
      by_cases before : state.threads.EngineLeft
      · rcases caughtUp before with ⟨ring, pending⟩
        rcases (Threads.engineLeft_of_workerStep moved before).2 with
          ⟨sameRing, samePending⟩ | ⟨env, rfl, _, sameRing, batch⟩ | ⟨_, signal, some, _⟩
        · exact ⟨sameRing.trans ring, samePending.trans pending⟩
        · exact ⟨sameRing.trans ring, batch.trans (keeps before)⟩
        · rw [pending] at some
          cases some
      · rcases Threads.leaves_of_workerStep moved before left with
          ⟨sameRing, samePending, ⟨_, here, stopped⟩ | ⟨rfl, empty, draining⟩⟩
        · have flags := invariant.orderly.not_stopped (by simp [here])
          have running := invariant.orderly.engineFlag
          rw [stopped, flags.1] at running
          cases running
        · exact ⟨sameRing.trans empty, samePending.trans (keeps empty draining)⟩
  | main =>
      rcases frame_of_mainStep taken with ⟨_, engineAt, sourceAt, frame⟩
      rw [Threads.EngineLeft, engineAt] at left
      rcases caughtUp left with ⟨ring, pending⟩
      rcases frame with sameRing | ⟨early, _⟩
      · exact ⟨sameRing.trans ring, by rw [Threads.pending, sourceAt]; exact pending⟩
      · exact absurd left (invariant.inside early)
  | deadline => exact absurd rfl inTime

/-- A step that does not keep up leaves the engine gone and a signal
behind. -/
private theorem behind_of_not_keepsUp {action : AppAction} (late : ¬ state.KeepsUp action)
    (taken : state.step action = some next) : next.Behind := by
  cases action with
  | main | deadline => exact absurd trivial late
  | worker action =>
      rcases Option.map_eq_some_iff.mp taken with ⟨threads, moved, rfl⟩
      cases action with
      | sourceCheck | sourcePush | engineCheck | engineDispatch | engineFinish | dispatcherStart
          | dispatcherTake
      | dispatcherDeliver => exact absurd trivial late
      | engineRead =>
          simp only [KeepsUp, Classical.not_imp] at late
          rcases late with ⟨empty, draining, more⟩
          cases Threads.move_of_workerStep moved with
          | engineIdles _ _ serving =>
              rw [draining] at serving
              cases serving
          | engineDrained here => exact ⟨Or.inl rfl, Or.inr more⟩
          | engineReadsPill _ _ _ front | engineEvaluates _ _ _ front =>
              rw [empty] at front
              cases front
      | sourcePoll env =>
          simp only [KeepsUp, Classical.not_imp] at late
          rcases late with ⟨left, some⟩
          cases Threads.move_of_workerStep moved with
          | sourcePolls _ here => exact ⟨left, Or.inr some⟩

/-- A signal that is behind stays behind. -/
private theorem Behind.step {action : AppAction} (behind : state.Behind)
    (inTime : action ≠ .deadline) (taken : state.step action = some next) : next.Behind := by
  rcases behind with ⟨left, some⟩
  cases action with
  | worker action =>
      rcases Option.map_eq_some_iff.mp taken with ⟨threads, moved, rfl⟩
      rcases Threads.engineLeft_of_workerStep moved left with
        ⟨still, ⟨sameRing, samePending⟩ | ⟨env, _, none, sameRing, _⟩ | ⟨_, signal, _, longer⟩⟩
      · exact ⟨still, by rw [sameRing, samePending]; exact some⟩
      · refine ⟨still, Or.inl ?_⟩
        rw [sameRing]
        exact some.resolve_right fun more => more none
      · exact ⟨still, Or.inl (by simp [longer])⟩
  | main =>
      rcases frame_of_mainStep taken with ⟨_, engineAt, sourceAt, frame⟩
      have still : next.threads.EngineLeft := by
        rw [Threads.EngineLeft, engineAt]
        exact left
      rcases frame with sameRing | ⟨_, _, longer⟩
      · exact ⟨still, by rw [sameRing, Threads.pending, sourceAt]; exact some⟩
      · exact ⟨still, Or.inl (by simp [longer])⟩
  | deadline => exact absurd rfl inTime

/-! ## What has become of the signals and alerts -/

/-- Every signal that was pushed has been evaluated, and every alert that was
dispatched has been taken. -/
structure Lossless (state : AppState) : Prop where
  signals : state.threads.history.evaluated = state.threads.history.pushed
  alerts : state.threads.history.deliveries.map Delivery.alert = state.threads.history.dispatched

private theorem invariant_of_shutdown {capacity : Nat} {actions : List AppAction} {final : AppState}
    (ran : runActions step (start capacity source engine dispatcher) actions = some final)
    (inTime : AppAction.deadline ∉ actions) : final.Invariant source engine dispatcher := by
  refine invariant_of_allSteps step (fun _ action => action ≠ .deadline)
    (Invariant source engine dispatcher)
    (fun state action next holds allowed taken => holds.step allowed taken)
      (start_invariant capacity)
    (allSteps_of_actions step _ actions fun action member _ isDeadline => ?_) ran
  exact inTime (isDeadline ▸ member)

private theorem Invariant.engineLeft (invariant : state.Invariant source engine dispatcher)
    (joined : state.main = .joined) : state.threads.EngineLeft := by
  have orderly := invariant.orderly
  rw [joined] at orderly
  exact Or.inr (orderly.stoppedLate rfl)

private theorem Invariant.alerts_taken (invariant : state.Invariant source engine dispatcher)
    (joined : state.main = .joined) :
    state.threads.history.deliveries.map Delivery.alert = state.threads.history.dispatched :=
  (Threads.alerts_delivered_of_returned invariant.consistent invariant.orderly
    (invariant.dispatcherJoined joined)).2.1.symm

/-- In every orderly stop in time the dispatcher takes every alert. -/
theorem shutdown_takes_every_alert (capacity : Nat) (actions : List AppAction) (final : AppState)
    (ran : runActions step (start capacity source engine dispatcher) actions = some final)
    (inTime : AppAction.deadline ∉ actions) (joined : final.main = .joined) :
    final.threads.queue = [] ∧
      final.threads.history.deliveries.map Delivery.alert = final.threads.history.dispatched := by
  have invariant := invariant_of_shutdown ran inTime
  exact ⟨(invariant.orderly.dispatcherDone (invariant.dispatcherJoined joined)).2,
    invariant.alerts_taken joined⟩

private theorem lossless_of_caughtUp (invariant : state.Invariant source engine dispatcher)
    (caughtUp : state.CaughtUp) (joined : state.main = .joined) : state.Lossless where
  signals := by
    have evaluated := invariant.consistent.evaluated
    rw [Threads.signalsInRing, (caughtUp (invariant.engineLeft joined)).1, List.filter_nil,
      List.append_nil] at evaluated
    exact evaluated.symm
  alerts := invariant.alerts_taken joined

private theorem not_lossless_of_behind (invariant : state.Invariant source engine dispatcher)
    (behind : state.Behind) (joined : state.main = .joined) : ¬ state.Lossless := by
  intro lossless
  have pending : state.threads.pending = [] := by
    rw [Threads.pending, invariant.sourceJoined (by rw [joined]; rfl)]
  have pills := invariant.orderly.pills
  rw [invariant.orderly.leavesDrained behind.1, joined] at pills
  change _ + 1 = 1 at pills
  have noPill : forall signal, signal ∈ state.threads.ring -> signal.isPoisonPill ≠ true :=
    List.countP_eq_zero.mp (Nat.add_right_cancel pills)
  have evaluated := invariant.consistent.evaluated
  rw [lossless.signals, Threads.signalsInRing, List.filter_eq_self.mpr (by simpa using noPill)]
    at evaluated
  have empty : state.threads.ring = [] := List.self_eq_append_right.mp evaluated
  exact behind.2.elim (fun ring => ring empty) (fun more => more pending)

/-- Live shutdown in every interleaving without an expired timeout: when all
threads have been joined, nothing is lost if and only if no step left the
event source behind. -/
theorem shutdown_lossless_iff_keeps_up (capacity : Nat) (source : EventSource) (engine : RiskEngine)
    (dispatcher : AlertDispatcher) (actions : List AppAction) (final : AppState)
    (ran : runActions step (start capacity source engine dispatcher) actions = some final)
    (inTime : AppAction.deadline ∉ actions) (joined : final.main = .joined) :
    final.Lossless ↔ AllSteps step KeepsUp (start capacity source engine dispatcher) actions := by
  have invariant := invariant_of_shutdown ran inTime
  have usual : forall action, action ∈ actions -> action ≠ .deadline :=
    fun action member isDeadline => inTime (isDeadline ▸ member)
  constructor
  · intro lossless
    have either := allSteps_or_violated step KeepsUp (Invariant source engine dispatcher) Behind
      (fun action => action ≠ .deadline)
      (fun state action next holds allowed taken => holds.step allowed taken)
      (fun state action next holds late taken => behind_of_not_keepsUp late taken)
      (fun state action next holds behind allowed taken => behind.step allowed taken)
      (start_invariant capacity) usual ran
    exact either.resolve_right fun behind => not_lossless_of_behind invariant behind joined lossless
  · intro keepsUp
    have both := invariant_of_allSteps step
      (fun state action => action ≠ .deadline ∧ state.KeepsUp action)
      (fun state => state.Invariant source engine dispatcher ∧ state.CaughtUp)
      (fun state action next holds allowed taken =>
        ⟨holds.1.step allowed.1 taken, CaughtUp.step holds.1 holds.2 allowed.1 allowed.2 taken⟩)
      ⟨start_invariant capacity,
        fun left => by rcases left with impossible | impossible <;> cases impossible⟩
      (allSteps_and step (allSteps_of_actions step _ actions fun action member _ =>
        usual action member) keepsUp) ran
    exact lossless_of_caughtUp both.1 both.2 joined

end Runs

/-- The program on a node at block 1, with the ring that it allocates. -/
def liveApp : AppState :=
  start 65536 (.create { startBlock := 1 } 1) (.ofRules RuleTables.empty.registerRules)
    { channels := ["console"], deduplicator := .create .production }

/-- A stop between two polls. -/
def quietStop : List AppAction :=
  [.worker .dispatcherStart, .worker .sourceCheck,
    .worker (.sourcePoll (EventSource.nodeAtOne [EventSource.transferLog])),
    .worker .sourcePush, .worker .sourcePush, .main, .main, .worker .sourceCheck, .main,
    .worker .engineCheck, .worker .engineRead, .worker .engineDispatch, .worker .engineCheck,
    .worker .engineRead, .worker .engineCheck, .worker .engineRead, .worker .engineFinish,
    .main, .main, .main, .worker .dispatcherTake, .main, .main, .main]

/-- A stop between the answer of the node and the first push. -/
def lateStop : List AppAction :=
  [.worker .dispatcherStart, .worker .sourceCheck,
    .worker (.sourcePoll (EventSource.nodeAtOne [EventSource.transferLog])),
    .main, .main, .main, .worker .engineCheck, .worker .engineRead, .worker .engineCheck,
    .worker .engineRead, .worker .engineFinish, .worker .sourcePush, .worker .sourcePush,
    .worker .sourceCheck, .main, .main, .main, .worker .dispatcherTake, .main, .main, .main]

/-- The stop between two polls loses nothing. -/
theorem quietStop_lossless :
    Exists fun final => runActions step liveApp quietStop = some final ∧
      final.threads.history.pushed.length = 1 ∧ final.Lossless := by
  have shape : (runActions step liveApp quietStop).map
      (fun final => (final.main, final.threads.history.pushed.length)) = some (.joined, 1) := by
    decide +kernel
  rcases Option.map_eq_some_iff.mp shape with ⟨final, ran, facts⟩
  simp only [Prod.mk.injEq] at facts
  refine ⟨final, ran, facts.2, ?_⟩
  exact (shutdown_lossless_iff_keeps_up 65536 _ _ _ quietStop final ran
    (by simp [quietStop]) facts.1).mpr (by decide +kernel)

/-- In the other stop all threads are joined in time, and the signal that was
pushed has not been evaluated. -/
theorem lateStop_loses_signal :
    Exists fun final => runActions step liveApp lateStop = some final ∧
    AppAction.deadline ∉ lateStop ∧
      final.main = .joined ∧ final.threads.history.pushed.length = 1 ∧
      final.threads.history.evaluated = [] ∧ ¬ final.Lossless := by
  have shape : (runActions step liveApp lateStop).map
      (fun final => (final.main, final.threads.history.pushed.length,
          final.threads.history.evaluated.length)) =
        some (.joined, 1, 0) := by
    decide +kernel
  rcases Option.map_eq_some_iff.mp shape with ⟨final, ran, facts⟩
  simp only [Prod.mk.injEq] at facts
  have inTime : AppAction.deadline ∉ lateStop := by simp [lateStop]
  refine ⟨final, ran, inTime, facts.1, facts.2.1, List.length_eq_zero_iff.mp facts.2.2,
    fun lossless => ?_⟩
  have same := congrArg List.length lossless.signals
  rw [facts.2.1, facts.2.2] at same
  cases same

end AppState

end App
end RiskSentinel
