import RiskSentinel.App.Shutdown

namespace RiskSentinel
namespace App

open Foundation Events Risk Pipeline

/-!
# A source that waits for nobody

`push_blocking` retries until there is room in the ring.  It does not look at
the stop flag, and room is made by the engine alone.  A source that has more
to push than fits when the engine is gone, be it drained, told to stop, or out
of patience, waits forever, and with it the main thread in its join.

Timeouts are part of the protocol here.  In all its runs the ring stays
passable exactly as long as the signals that are left when the engine leaves,
or are fetched later, fit into the free places.
-/

namespace AppState

/-- The source is inside `push_blocking` on a full ring, and the engine has
returned. -/
structure Wedged (state : AppState) : Prop where
  engineReturned : state.threads.engineAt = .returned
  ringFull : state.threads.capacity ≤ state.threads.ring.length
  pushing : state.threads.pending ≠ []

/-- The step leaves enough room: when the engine leaves its loop, for the rest
of the current batch; when it has left, for a batch that is fetched. -/
def Fits (state : AppState) : AppAction -> Prop
  | .worker .engineCheck => state.threads.engineRunning = false ->
      state.threads.ring.length + state.threads.pending.length ≤ state.threads.capacity
  | .worker .engineRead => state.threads.ring = [] -> state.threads.drainMode = true ->
      state.threads.pending.length ≤ state.threads.capacity
  | .worker (.sourcePoll env) => state.threads.EngineLeft ->
      state.threads.ring.length + (state.threads.eventSource.pollOnce env).pushed.length ≤
        state.threads.capacity
  | _ => True

/-- What is left for the ring fits into it, once the engine is gone. -/
def Roomy (state : AppState) : Prop :=
  state.threads.EngineLeft ->
    state.threads.ring.length + state.threads.pending.length ≤ state.threads.capacity

/-- The engine is gone, and more is left than the ring can take. -/
def Overfull (state : AppState) : Prop :=
  state.threads.EngineLeft ∧
    state.threads.capacity < state.threads.ring.length + state.threads.pending.length

variable {source : EventSource} {engine : RiskEngine} {dispatcher : AlertDispatcher}
    {state next : AppState}

/-- What holds in every state, with or without timeouts: the ring is never
longer than its capacity, and the engine cannot leave before the main thread
is done with the stop command. -/
structure Bounded (source : EventSource) (engine : RiskEngine) (dispatcher : AlertDispatcher)
    (state : AppState) : Prop where
  consistent : state.threads.Consistent source engine dispatcher
  early : state.main.pillSent = false -> state.threads.Orderly false false false
  ringFits : state.threads.ring.length ≤ state.threads.capacity

theorem start_bounded (capacity : Nat) :
    (start capacity source engine dispatcher).Bounded source engine dispatcher where
  consistent := Threads.start_consistent capacity
  early := fun _ => Threads.start_orderly capacity source engine dispatcher
  ringFits := Nat.zero_le _

theorem Bounded.step {action : AppAction} (bounded : state.Bounded source engine dispatcher)
    (taken : state.step action = some next) : next.Bounded source engine dispatcher := by
  have consistent := bounded.consistent
  cases action with
  | worker action =>
      rcases Option.map_eq_some_iff.mp taken with ⟨threads, moved, rfl⟩
      exact {
        consistent := consistent.workerStep moved
        early := fun early => (bounded.early early).workerStep consistent.ordinary moved
        ringFits := Threads.ring_fits_of_workerStep moved bounded.ringFits }
  | main =>
      cases move_of_mainStep taken with
      | stopRequested here =>
          exact ⟨consistent, fun _ => bounded.early (by rw [here]; rfl), bounded.ringFits⟩
      | sourceStopped here =>
          exact ⟨consistent.stopSource, fun _ => (bounded.early (by rw [here]; rfl)).stopSource,
            bounded.ringFits⟩
      | pillPushed here threads pushed =>
          refine ⟨consistent.tryPushPill pushed, fun impossible => (by cases impossible), ?_⟩
          rcases Threads.tryPushPill_eq_some pushed with ⟨room, rfl⟩
          change (state.threads.ring ++ [poisonPill]).length ≤ state.threads.capacity
          rw [List.length_append, List.length_singleton]
          exact room
      | waits => exact bounded
      | engineAwaited | sourceJoined | engineJoined | dispatcherJoined =>
          exact ⟨consistent, fun impossible => (by cases impossible), bounded.ringFits⟩
      | engineStopped => exact ⟨consistent.stopEngine, fun impossible => (by cases impossible),
          bounded.ringFits⟩
      | dispatcherStopped =>
          exact ⟨consistent.stopDispatcher, fun impossible => (by cases impossible),
            bounded.ringFits⟩
  | deadline =>
      simp only [AppState.step, deadlineStep] at taken
      split at taken
      · cases taken
        exact ⟨consistent, fun impossible => (by cases impossible), bounded.ringFits⟩
      · cases taken
        exact ⟨consistent, fun impossible => (by cases impossible), bounded.ringFits⟩
      · cases taken

/-- Before the stop command is sent, the engine is inside its loop. -/
private theorem Bounded.inside (bounded : state.Bounded source engine dispatcher)
    (early : state.main.pillSent = false) : ¬ state.threads.EngineLeft := by
  intro left
  have pills := (bounded.early early).pills
  rw [(bounded.early early).leavesDrained left] at pills
  change _ + 1 = 0 at pills
  omega

/-- A timeout moves the main thread only. -/
private theorem threads_of_deadlineStep (taken : state.deadlineStep = some next) :
    next.threads = state.threads := by
  unfold deadlineStep at taken
  split at taken
  · cases taken
    rfl
  · cases taken
    rfl
  · cases taken

/-- A step that leaves enough room keeps the state roomy. -/
private theorem Roomy.step {action : AppAction} (bounded : state.Bounded source engine dispatcher)
    (roomy : state.Roomy) (fits : state.Fits action) (taken : state.step action = some next) :
    next.Roomy := by
  intro left
  cases action with
  | worker action =>
      rcases Option.map_eq_some_iff.mp taken with ⟨threads, moved, rfl⟩
      have capacity := Threads.capacity_of_workerStep moved
      dsimp only at left ⊢
      by_cases before : state.threads.EngineLeft
      · have room := roomy before
        rcases (Threads.engineLeft_of_workerStep moved before).2 with
          ⟨sameRing, samePending⟩ | ⟨env, rfl, _, sameRing, batch⟩ | ⟨_, signal, shorter, longer⟩
        · rw [capacity, sameRing, samePending]
          exact room
        · rw [capacity, sameRing, batch]
          exact fits before
        · rw [shorter, List.length_cons] at room
          rw [capacity, longer, List.length_append, List.length_singleton]
          omega
      · rcases Threads.leaves_of_workerStep moved before left with
          ⟨sameRing, samePending, ⟨rfl, _, stopped⟩ | ⟨rfl, empty, draining⟩⟩
        · rw [capacity, sameRing, samePending]
          exact fits stopped
        · rw [capacity, sameRing, samePending, empty, List.length_nil, Nat.zero_add]
          exact fits empty draining
  | main =>
      rcases frame_of_mainStep taken with ⟨capacity, engineAt, sourceAt, frame⟩
      rw [Threads.EngineLeft, engineAt] at left
      rcases frame with sameRing | ⟨early, _⟩
      · rw [capacity, sameRing, Threads.pending, sourceAt]
        exact roomy left
      · exact absurd left (bounded.inside early)
  | deadline =>
      have same := threads_of_deadlineStep taken
      rw [same] at left ⊢
      exact roomy left

/-- A step that does not leave enough room makes the state overfull. -/
private theorem overfull_of_not_fits {action : AppAction} (tight : ¬ state.Fits action)
    (taken : state.step action = some next) : next.Overfull := by
  cases action with
  | main | deadline => exact absurd trivial tight
  | worker action =>
      rcases Option.map_eq_some_iff.mp taken with ⟨threads, moved, rfl⟩
      cases action with
      | sourceCheck | sourcePush | engineDispatch | engineFinish | dispatcherStart | dispatcherTake
      | dispatcherDeliver => exact absurd trivial tight
      | engineCheck =>
          simp only [Fits, Classical.not_imp, Nat.not_le] at tight
          rcases tight with ⟨stopped, more⟩
          cases Threads.move_of_workerStep moved with
          | engineEnters _ running =>
              rw [stopped] at running
              cases running
          | engineStops here => exact ⟨Or.inl rfl, more⟩
      | engineRead =>
          simp only [Fits, Classical.not_imp, Nat.not_le] at tight
          rcases tight with ⟨empty, draining, more⟩
          cases Threads.move_of_workerStep moved with
          | engineIdles _ _ serving =>
              rw [draining] at serving
              cases serving
          | engineDrained here => exact ⟨Or.inl rfl, Nat.lt_of_lt_of_le more (Nat.le_add_left _ _)⟩
          | engineReadsPill _ _ _ front | engineEvaluates _ _ _ front =>
              rw [empty] at front
              cases front
      | sourcePoll env =>
          simp only [Fits, Classical.not_imp, Nat.not_le] at tight
          rcases tight with ⟨left, more⟩
          cases Threads.move_of_workerStep moved with
          | sourcePolls _ here => exact ⟨left, more⟩

/-- An overfull state stays overfull: nobody empties the ring. -/
private theorem Overfull.step {action : AppAction}
    (bounded : state.Bounded source engine dispatcher) (overfull : state.Overfull)
    (taken : state.step action = some next) : next.Overfull := by
  rcases overfull with ⟨left, more⟩
  have ringFits := bounded.ringFits
  cases action with
  | worker action =>
      rcases Option.map_eq_some_iff.mp taken with ⟨threads, moved, rfl⟩
      have capacity := Threads.capacity_of_workerStep moved
      rcases Threads.engineLeft_of_workerStep moved left with
        ⟨still, ⟨sameRing, samePending⟩ | ⟨env, _, none, _⟩ | ⟨_, signal, shorter, longer⟩⟩
      · exact ⟨still, by rw [capacity, sameRing, samePending]; exact more⟩
      · rw [none, List.length_nil] at more
        omega
      · refine ⟨still, ?_⟩
        change threads.capacity < threads.ring.length + threads.pending.length
        rw [shorter, List.length_cons] at more
        rw [capacity, longer, List.length_append, List.length_singleton]
        omega
  | main =>
      rcases frame_of_mainStep taken with ⟨capacity, engineAt, sourceAt, frame⟩
      have still : next.threads.EngineLeft := by
        rw [Threads.EngineLeft, engineAt]
        exact left
      rcases frame with sameRing | ⟨early, _⟩
      · exact ⟨still, by rw [capacity, sameRing, Threads.pending, sourceAt]; exact more⟩
      · exact absurd left (bounded.inside early)
  | deadline =>
      have same := threads_of_deadlineStep taken
      exact ⟨by rw [same]; exact left, by rw [same]; exact more⟩

/-! ## The wedge -/

/-- A roomy state is not wedged. -/
private theorem not_wedged_of_roomy (roomy : state.Roomy) : ¬ state.Wedged := by
  intro wedged
  have room := roomy (Or.inr wedged.engineReturned)
  have full := wedged.ringFull
  have some := List.length_pos_iff.mpr wedged.pushing
  omega

/-- Every step leaves a wedged state wedged. -/
theorem Wedged.step {action : AppAction} (wedged : state.Wedged)
    (taken : state.step action = some next) : next.Wedged := by
  have full := wedged.ringFull
  cases action with
  | worker action =>
      rcases Option.map_eq_some_iff.mp taken with ⟨threads, moved, rfl⟩
      have capacity := Threads.capacity_of_workerStep moved
      have returned := Threads.engine_stays_returned moved wedged.engineReturned
      rcases (Threads.engineLeft_of_workerStep moved (Or.inr wedged.engineReturned)).2 with
        ⟨sameRing, samePending⟩ | ⟨env, _, none, _⟩ | ⟨room, _⟩
      · exact ⟨returned, by rw [capacity, sameRing]; exact full,
          by rw [samePending]; exact wedged.pushing⟩
      · exact absurd none wedged.pushing
      · omega
  | main =>
      rcases frame_of_mainStep taken with ⟨capacity, engineAt, sourceAt, sameRing | ⟨_, room, _⟩⟩
      · exact ⟨engineAt.trans wedged.engineReturned, by rw [capacity, sameRing]; exact full,
          by rw [Threads.pending, sourceAt]; exact wedged.pushing⟩
      · omega
  | deadline =>
      have same := threads_of_deadlineStep taken
      exact ⟨by rw [same]; exact wedged.engineReturned,
        by rw [same]; exact full, by rw [same]; exact wedged.pushing⟩

/-- From a wedged state the event source never returns, so its join never
completes. -/
theorem wedged_forever {actions : List AppAction} {final : AppState} (wedged : state.Wedged)
    (ran : runActions step state actions = some final) : final.Wedged ∧
    final.threads.sourceAt ≠ .returned := by
  have still := invariant_of_run step Wedged (fun _ _ _ holds taken => holds.step taken) wedged ran
  refine ⟨still, fun returned => still.pushing ?_⟩
  rw [Threads.pending, returned]

/-! ## Driving an overfull state into the wedge -/

/-- A source with a signal to push and room for it can push it. -/
private theorem exists_push {signal : Signal} {rest : List Signal}
    (batch : state.threads.pending = signal :: rest)
    (room : state.threads.ring.length < state.threads.capacity) :
    Exists fun pushed => state.step (.worker .sourcePush) = some pushed ∧
      pushed.threads.engineAt = state.threads.engineAt ∧
      pushed.threads.capacity = state.threads.capacity ∧
      pushed.threads.ring = state.threads.ring ++ [signal] ∧ pushed.threads.pending = rest := by
  unfold Threads.pending at batch
  split at batch
  · rename_i pending moved here
    rw [batch] at here
    have taken : state.threads.workerStep .sourcePush = some { state.threads with
        ring := state.threads.ring ++ [signal]
        sourceAt := .pushing rest moved
        history := { state.threads.history
          with pushed := state.threads.history.pushed ++ [signal] } } := by
      simp [Threads.workerStep, Threads.sourcePush, here, room]
    exact ⟨_, Option.map_eq_some_iff.mpr ⟨_, taken, rfl⟩, rfl, rfl, rfl, rfl⟩
  · cases batch

/-- With the engine returned, the source alone fills the ring. -/
private theorem wedge_by_pushing (free : Nat) (state : AppState)
    (returned : state.threads.engineAt = .returned)
    (places : state.threads.ring.length + free = state.threads.capacity)
    (more : free < state.threads.pending.length) :
    Exists fun actions => Exists fun final => runActions step state actions = some final ∧
    final.Wedged := by
  induction free generalizing state with
  | zero => exact ⟨[], state, rfl, returned, by omega, List.length_pos_iff.mp more⟩
  | succ free inductionHypothesis =>
      cases batch : state.threads.pending with
      | nil =>
          rw [batch] at more
          cases more
      | cons signal rest =>
          rcases exists_push batch (by omega)
            with ⟨pushed, taken, engineAt, capacity, ring, pending⟩
          rw [batch, List.length_cons] at more
          rcases inductionHypothesis pushed (engineAt.trans returned)
              (by rw [ring, capacity, List.length_append, List.length_singleton]; omega)
              (by rw [pending]; omega) with ⟨actions, final, ran, wedged⟩
          exact ⟨.worker .sourcePush :: actions, final, (runActions_cons_eq_some step).mpr
            ⟨pushed, taken, ran⟩,
            wedged⟩

/-- An overfull state can run into the wedge. -/
theorem wedge_of_overfull (bounded : state.Bounded source engine dispatcher)
    (overfull : state.Overfull) :
    Exists fun actions => Exists fun final => runActions step state actions = some final ∧
    final.Wedged := by
  rcases overfull with ⟨left, more⟩
  have ringFits := bounded.ringFits
  have places : state.threads.ring.length + (state.threads.capacity - state.threads.ring.length) =
      state.threads.capacity := Nat.add_sub_cancel' ringFits
  rcases left with leaving | returned
  · have taken : state.step (.worker .engineFinish) = some { state with
        threads := { state.threads with finished := true, engineAt := .returned } } := by
      simp [AppState.step, Threads.workerStep, Threads.engineFinish, leaving]
    rcases wedge_by_pushing (state.threads.capacity - state.threads.ring.length)
        { state with threads := { state.threads with finished := true, engineAt := .returned } }
        rfl places
        (by change _ < state.threads.pending.length; omega) with
      ⟨actions, final, ran, wedged⟩
    exact ⟨.worker .engineFinish :: actions, final, (runActions_cons_eq_some step).mpr
      ⟨_, taken, ran⟩, wedged⟩
  · exact wedge_by_pushing _ state returned places (by omega)

/-- Live shutdown with its timeouts, for a ring of any capacity.  A run in
which what is left for the ring always fits reaches no wedged state.  Every
other run can go on into a wedged state, and from there the source never
returns. -/
theorem wedge_free_iff_batches_fit (capacity : Nat) (source : EventSource) (engine : RiskEngine)
    (dispatcher : AlertDispatcher) (actions : List AppAction) :
    (AllSteps step Fits (start capacity source engine dispatcher) actions ->
        forall earlier later reached, actions = earlier ++ later ->
          runActions step (start capacity source engine dispatcher) earlier = some reached ->
          ¬ reached.Wedged) ∧
      (¬ AllSteps step Fits (start capacity source engine dispatcher) actions ->
        forall final, runActions step
          (start capacity source engine dispatcher) actions = some final ->
          Exists fun more => Exists fun wedged =>
            runActions step (start capacity source engine dispatcher)
              (actions ++ more) = some wedged ∧
              wedged.Wedged ∧ forall further last, runActions step wedged further = some last ->
                last.threads.sourceAt ≠ .returned) := by
  constructor
  · intro fits earlier later reached split ran
    rw [split] at fits
    have both := invariant_of_allSteps step Fits
      (fun state => state.Bounded source engine dispatcher ∧ state.Roomy)
      (fun state action next holds allowed taken =>
        ⟨holds.1.step taken, Roomy.step holds.1 holds.2 allowed taken⟩)
      ⟨start_bounded capacity,
        fun left => by rcases left with impossible | impossible <;> cases impossible⟩
      (allSteps_of_append step fits) ran
    exact not_wedged_of_roomy both.2
  · intro tight final ran
    have bounded := invariant_of_run step (Bounded source engine dispatcher)
      (fun _ _ _ holds taken => holds.step taken) (start_bounded capacity) ran
    have overfull := (allSteps_or_violated step Fits
      (Bounded source engine dispatcher) Overfull (fun _ => True)
      (fun _ _ _ holds _ taken => holds.step taken)
        (fun _ _ _ _ tight taken => overfull_of_not_fits tight taken)
      (fun _ _ _ holds overfull _ taken => overfull.step holds taken) (start_bounded capacity)
        (fun _ _ => trivial)
      ran).resolve_left tight
    rcases wedge_of_overfull bounded overfull with ⟨more, wedged, further, isWedged⟩
    refine ⟨more, wedged, ?_, isWedged,
      fun rest last continued => (wedged_forever isWedged continued).2⟩
    rw [runActions_append, ran]
    exact further

/-! ## A batch larger than the ring -/

/-- A stop between the answer of the node and the first push, up to the
engine's way out. -/
def stopBeforePush (env : PollEnv) : List AppAction :=
  [.worker .sourceCheck, .worker (.sourcePoll env), .main, .main, .main, .worker .engineCheck,
    .worker .engineRead,
    .worker .engineCheck, .worker .engineRead]

theorem run_stopBeforePush (engine : RiskEngine) (dispatcher : AlertDispatcher) {capacity : Nat}
    (positive : 0 < capacity) (goes : source.isExhausted = false) (env : PollEnv) :
    runActions step (start capacity source engine dispatcher) (stopBeforePush env) = some {
      threads := { Threads.start capacity source engine dispatcher with
        sourceRunning := false
        sourceAt := .pushing (source.pollOnce env).pushed (source.pollOnce env).source
        drainMode := true
        engineAt := .leaving
        history := { polls := [env] } }
      main := .awaitEngine } := by
  have pill : poisonPill.isPoisonPill = true := rfl
  simp [stopBeforePush, runActions, step, start, Threads.start, Threads.workerStep,
    Threads.sourceCheck, goes,
    Threads.sourcePoll, mainStep, Threads.stopSource, Threads.tryPushPill, positive,
    Threads.engineCheck, Threads.engineRead, pill]

/-- If the batch is larger than the ring, such a stop can wedge. -/
theorem wedge_of_large_batch {capacity : Nat} (positive : 0 < capacity)
    (goes : source.isExhausted = false) (env : PollEnv)
    (large : capacity < (source.pollOnce env).pushed.length) :
    Exists fun more => Exists fun final =>
      runActions step (start capacity source engine dispatcher)
        (stopBeforePush env ++ more) = some final ∧
        final.Wedged := by
  have ran := run_stopBeforePush engine dispatcher positive goes env
  have bounded := invariant_of_run step (Bounded source engine dispatcher)
    (fun _ _ _ holds taken => holds.step taken) (start_bounded capacity) ran
  have leftOver : capacity < 0 + (source.pollOnce env).pushed.length := by
    rw [Nat.zero_add]
    exact large
  rcases wedge_of_overfull bounded ⟨Or.inl rfl, leftOver⟩ with ⟨more, final, further, wedged⟩
  refine ⟨more, final, ?_, wedged⟩
  rw [runActions_append, ran]
  exact further

/-- One block with one log more than the ring has places. -/
def largeBlock : PollEnv :=
  EventSource.nodeAtOne (List.replicate 65537 EventSource.transferLog)

private theorem pushed_largeBlock :
    ((EventSource.create { startBlock := 1 } 1).pollOnce largeBlock).pushed.length = 65537 := by
  have batch : forall logs, (EventSource.create { startBlock := 1 } 1).pollOnce
    (EventSource.nodeAtOne logs) =
      EventSource.pushBatch { EventSource.create { startBlock := 1 } 1 with cachedChainHead := 1 }
        (EventSource.nodeAtOne logs) 1 (logs ++ []) :=
    fun _ => rfl
  have accepted : isNormalizable EventSource.transferLog = true := by decide +kernel
  rw [largeBlock, batch, (EventSource.pushBatch_spec _ _ _ _).1, List.append_nil,
    List.takeWhile_replicate,
    if_pos accepted, List.length_replicate]

/-- A stop while such a block is being handed over wedges the program. -/
theorem large_block_wedges_shutdown :
    Exists fun more => Exists fun final =>
    runActions step liveApp (stopBeforePush largeBlock ++ more) = some final ∧
      final.Wedged ∧ forall further last, runActions step final further = some last ->
        last.threads.sourceAt ≠ .returned := by
  have large : 65536 <
      ((EventSource.create { startBlock := 1 } 1).pollOnce largeBlock).pushed.length := by
    rw [pushed_largeBlock]
    decide
  rcases wedge_of_large_batch (by decide) (by decide) largeBlock large
    with ⟨more, final, ran, wedged⟩
  exact ⟨more, final, ran, wedged, fun _ _ continued => (wedged_forever wedged continued).2⟩

end AppState

end App
end RiskSentinel
